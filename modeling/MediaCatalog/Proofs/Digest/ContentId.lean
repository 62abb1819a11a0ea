import MediaCatalog.Digest.ContentId
import MediaCatalog.Proofs.Text.Utf8

/-!
# What content identifiers tell apart

The identifier of a content is the digest of one byte string: of the content itself if it fits into one block,
of its block digests in a row otherwise. The two kinds of byte string are not marked, so a content that is, byte
for byte, the block digests of a longer one has the identifier of the longer one.

* `ContentId.blocks`, `ContentId.digestList`: the blocks of a content and their digests in a row.
* `ContentId.ofSource?_eq`: how a reader cuts a content into pieces does not matter.
* `ContentId.ofContent_eq`: the identifier is the digest of `ContentId.identifying`.
* **Main result** (`ContentId.ofContent_eq_ofContent_iff`): which contents have one identifier where no two of the
  byte strings that are hashed collide.
-/

namespace MediaCatalog

/-! ## Digests and their hexadecimal text -/

namespace Text

/-- Hexadecimal digits tell numbers apart. -/
theorem eq_of_hexDigit {m n : Nat} (hm : m < 16) (hn : n < 16) (h : hexDigit m = hexDigit n) : m = n := by
  have hdigits : ∀ m n : Fin 16, hexDigit m = hexDigit n → m = n := by decide
  exact Fin.mk.inj (hdigits ⟨m, hm⟩ ⟨n, hn⟩ h)

/-- Hexadecimal text tells lists of bytes apart. -/
theorem eq_of_hexDigits {bytes bytes' : List UInt8}
    (h : (bytes.flatMap fun b => [hexDigit (b.toNat / 16), hexDigit (b.toNat % 16)]) =
      bytes'.flatMap fun b => [hexDigit (b.toNat / 16), hexDigit (b.toNat % 16)]) : bytes = bytes' := by
  induction bytes generalizing bytes' with
  | nil =>
    cases bytes' with
    | nil => rfl
    | cons b' rest' => simp at h
  | cons b rest ih =>
    cases bytes' with
    | nil => simp at h
    | cons b' rest' =>
      simp only [List.flatMap_cons, List.cons_append, List.nil_append, List.cons.injEq] at h
      obtain ⟨hhigh, hlow, hrest⟩ := h
      have hb : b.toNat < 256 := b.toNat_lt
      have hb' : b'.toNat < 256 := b'.toNat_lt
      have hdiv := eq_of_hexDigit (by omega) (by omega) hhigh
      have hmod := eq_of_hexDigit (by omega) (by omega) hlow
      rw [UInt8.toNat_inj.mp (by omega : b.toNat = b'.toNat), ih hrest]

/-- Hexadecimal text tells bytes apart. -/
theorem hexOfBytes_injective : Function.Injective hexOfBytes := by
  intro bytes bytes' h
  have hlists := eq_of_hexDigits (String.ofList_injective h)
  unfold ByteArray.toList at hlists
  rw [Utf8.toList_loop, Utf8.toList_loop] at hlists
  exact ByteArray.ext (Array.toList_inj.mp (by simpa using hlists))

end Text

/-- A BLAKE3 digest has 32 bytes. -/
theorem Blake3.size_hash (data : ByteArray) : (hash data).size = 32 :=
  rfl

/-! ## What a reader delivers -/

namespace ByteSource

/-- The first bytes of a content and the others are the content. -/
theorem extract_append_rest {content : ByteArray} {k : Nat} (h : k ≤ content.size) :
    content.extract 0 k ++ content.extract k content.size = content := by
  rw [← ByteArray.extract_eq_extract_append_extract k (Nat.zero_le k) h, ByteArray.extract_zero_size]

/-- The bytes that pieces deliver: those before the first empty piece. -/
def delivered : List ByteArray → ByteArray
  | [] => ByteArray.empty
  | piece :: rest => if piece.size = 0 then ByteArray.empty else piece ++ delivered rest

/-- A content in one piece is delivered. -/
theorem delivered_singleton (content : ByteArray) : delivered [content] = content := by
  rw [delivered, delivered, ByteArray.append_empty]
  split
  · next hzero => exact (ByteArray.size_eq_zero_iff.mp hzero).symm
  · rfl

/-- **One block is read**: a full block and what is delivered then are what was there before; a block that is not
full is all there was. -/
theorem fill?_eq {size : Nat} {block : ByteArray} (hblock : block.size ≤ size) (pieces : List ByteArray) :
    ∃ block' rest, fill? size false block pieces = some (block', rest) ∧ block'.size ≤ size ∧
      (block'.size < size → block' = block ++ delivered pieces) ∧
      (block'.size = size → block' ++ delivered rest = block ++ delivered pieces) := by
  fun_induction fill? size false block pieces with
  | case1 block hfails => simp at hfails
  | case2 block => exact ⟨block, [], rfl, hblock, fun _ => ByteArray.append_empty.symm, fun _ => rfl⟩
  | case3 block piece rest hfull =>
    exact ⟨block, piece :: rest, rfl, hblock, fun hless => absurd hfull (by omega), fun _ => rfl⟩
  | case4 block piece rest hroom hzero =>
    have hdelivered : delivered (piece :: rest) = ByteArray.empty := by rw [delivered, if_pos hzero]
    rw [hdelivered, ByteArray.append_empty]
    exact ⟨block, rest, rfl, hblock, fun _ => rfl, fun hfull => absurd hfull (by omega)⟩
  | case5 block piece rest hroom hzero hfits ih =>
    have hdelivered : delivered (piece :: rest) = piece ++ delivered rest := by rw [delivered, if_neg hzero]
    rw [hdelivered, ← ByteArray.append_assoc]
    apply ih
    rw [ByteArray.size_append]
    omega
  | case6 block piece rest hroom hzero hlong =>
    have hdelivered : delivered (piece :: rest) = piece ++ delivered rest := by rw [delivered, if_neg hzero]
    have hsize : (block ++ piece.extract 0 (size - block.size)).size = size := by
      rw [ByteArray.size_append, ByteArray.size_extract]
      omega
    have hleft : (piece.extract (size - block.size) piece.size).size ≠ 0 := by
      rw [ByteArray.size_extract]
      omega
    refine ⟨_, _, rfl, Nat.le_of_eq hsize, fun hless => absurd hsize (by omega), fun _ => ?_⟩
    have hpiece : piece.extract 0 (size - block.size) ++ piece.extract (size - block.size) piece.size = piece :=
      extract_append_rest (Nat.le_of_not_le hlong)
    calc block ++ piece.extract 0 (size - block.size) ++ delivered (piece.extract (size - block.size) piece.size :: rest)
        = block ++
            (piece.extract 0 (size - block.size) ++ piece.extract (size - block.size) piece.size ++ delivered rest) := by
          rw [delivered, if_neg hleft, ByteArray.append_assoc, ByteArray.append_assoc]
      _ = block ++ delivered (piece :: rest) := by rw [hpiece, hdelivered]

/-- The same from an empty block on. -/
theorem delivered_of_fill? {size : Nat} {pieces rest : List ByteArray} {block : ByteArray}
    (h : fill? size false ByteArray.empty pieces = some (block, rest)) :
    block.size ≤ size ∧ (block.size < size → delivered pieces = block) ∧
      (block.size = size → delivered pieces = block ++ delivered rest) := by
  have hempty : ByteArray.empty.size ≤ size := Nat.zero_le size
  obtain ⟨block', rest', hfill, hle, hlast, hnext⟩ := fill?_eq hempty pieces
  cases h.symm.trans hfill
  rw [ByteArray.empty_append] at hlast hnext
  exact ⟨hle, fun hless => (hlast hless).symm, fun hfull => (hnext hfull).symm⟩

end ByteSource

/-! ## Blocks -/

namespace ContentId

/-- The blocks of a content: all but the last are full, and none is empty unless the content is. -/
def blocks (size : Nat) (content : ByteArray) : List ByteArray :=
  if 0 < size ∧ size < content.size then
    content.extract 0 size :: blocks size (content.extract size content.size)
  else [content]
  termination_by content.size
  decreasing_by
    rw [ByteArray.size_extract]
    omega

/-- Byte strings in a row. -/
def joined : List ByteArray → ByteArray
  | [] => ByteArray.empty
  | text :: rest => text ++ joined rest

/-- Byte strings in a row after others. -/
theorem foldl_append_eq (texts : List ByteArray) (start : ByteArray) :
    texts.foldl (· ++ ·) start = start ++ joined texts := by
  induction texts generalizing start with
  | nil => exact ByteArray.append_empty.symm
  | cons text rest ih => rw [List.foldl_cons, ih, joined, ByteArray.append_assoc]

variable {size : Nat}

/-- A content that fits into one block is that block. -/
theorem blocks_of_le {content : ByteArray} (h : content.size ≤ size) : blocks size content = [content] := by
  rw [blocks, if_neg (by omega)]

/-- A longer content is a full block and the blocks of the rest. -/
theorem blocks_of_lt {content : ByteArray} (hsize : 0 < size) (h : size < content.size) :
    blocks size content = content.extract 0 size :: blocks size (content.extract size content.size) := by
  rw [blocks, if_pos ⟨hsize, h⟩]

/-- The blocks after a full one are those of the rest. -/
theorem blocks_append {block rest : ByteArray} (hsize : 0 < size) (hblock : block.size = size) (hrest : rest.size ≠ 0) :
    blocks size (block ++ rest) = block :: blocks size rest := by
  have hlong : size < (block ++ rest).size := by
    rw [ByteArray.size_append]
    omega
  rw [blocks_of_lt hsize hlong, ByteArray.extract_append_eq_left hblock.symm,
    ByteArray.extract_append_eq_right hblock.symm ByteArray.size_append]

/-- **Nothing is lost in blocks**: in a row, they are the content. -/
theorem joined_blocks (size : Nat) (content : ByteArray) : joined (blocks size content) = content := by
  fun_induction blocks size content with
  | case1 content hlong ih =>
    rw [joined, ih, ByteSource.extract_append_rest (Nat.le_of_lt hlong.2)]
  | case2 content hshort => exact ByteArray.append_empty

variable {digest : ByteArray → ByteArray}

/-- **The digests that a reader's pieces lead to** are those of the blocks of what they deliver; after a full block,
an end leads to none. -/
theorem blockDigests?_eq (hsize : 0 < size) (first : Bool) (pieces : List ByteArray) :
    blockDigests? digest size false first pieces =
      some (if (ByteSource.delivered pieces).size = 0 ∧ first = false then []
        else (blocks size (ByteSource.delivered pieces)).map digest) := by
  generalize hfails : false = fails
  fun_induction blockDigests? digest size fails first pieces with subst hfails
  | case1 first pieces hnone =>
    have hempty : ByteArray.empty.size ≤ size := Nat.zero_le size
    obtain ⟨block', rest', hfill, -⟩ := ByteSource.fill?_eq hempty pieces
    cases hnone.symm.trans hfill
  | case2 first pieces block rest hfill hend =>
    obtain ⟨-, hlast, -⟩ := ByteSource.delivered_of_fill? hfill
    rw [hlast (by omega), if_pos hend]
  | case3 first pieces block rest hfill hend hshort =>
    obtain ⟨-, hlast, -⟩ := ByteSource.delivered_of_fill? hfill
    rw [hlast hshort, if_neg hend, blocks_of_le (Nat.le_of_lt hshort), List.map_singleton]
  | case4 first pieces block rest hfill hend hfull ih =>
    obtain ⟨hle, -, hnext⟩ := ByteSource.delivered_of_fill? hfill
    have hblock : block.size = size := by omega
    have hnonempty : ¬((block ++ ByteSource.delivered rest).size = 0 ∧ first = false) := by
      rw [ByteArray.size_append]
      omega
    rw [hnext hblock, ih, Option.map_some, if_neg hnonempty]
    by_cases hrest : (ByteSource.delivered rest).size = 0
    · rw [if_pos ⟨hrest, rfl⟩, ByteArray.size_eq_zero_iff.mp hrest, ByteArray.append_empty,
        blocks_of_le (Nat.le_of_eq hblock), List.map_singleton]
    · rw [if_neg (fun hend => hrest hend.1), blocks_append hsize hblock hrest, List.map_cons]

/-- The digests of the blocks of a content, in a row. -/
def digestList (digest : ByteArray → ByteArray) (size : Nat) (content : ByteArray) : ByteArray :=
  joined ((blocks size content).map digest)

/-- The byte string whose digest is the identifier of a content. -/
def identifying (digest : ByteArray → ByteArray) (size : Nat) (content : ByteArray) : ByteArray :=
  if content.size ≤ size then content else digestList digest size content

/-- All byte strings that are hashed for the identifier of a content. -/
def hashed (digest : ByteArray → ByteArray) (size : Nat) (content : ByteArray) : List ByteArray :=
  blocks size content ++ if content.size ≤ size then [] else [digestList digest size content]

/-- A content of several blocks has at least two. -/
theorem exists_blocks_of_lt {content : ByteArray} (hsize : 0 < size) (h : size < content.size) :
    ∃ first second rest, blocks size content = first :: second :: rest := by
  rw [blocks_of_lt hsize h, blocks]
  split <;> exact ⟨_, _, _, rfl⟩

/-- The digest that stands for the blocks of a content. -/
theorem combine_blocks (hsize : 0 < size) (content : ByteArray) :
    combine digest ((blocks size content).map digest) = digest (identifying digest size content) := by
  unfold identifying
  split
  · next hshort => rw [blocks_of_le hshort]; rfl
  · next hlong =>
    obtain ⟨first, second, rest, hblocks⟩ := exists_blocks_of_lt hsize (Nat.lt_of_not_le hlong)
    rw [digestList, hblocks, List.map_cons, List.map_cons, combine, foldl_append_eq, ByteArray.empty_append]
    simp

/-- **The identifier of what a reader delivers** does not depend on the pieces. -/
theorem ofSource?_eq (hsize : 0 < size) (pieces : List ByteArray) :
    ofSource? digest size ⟨pieces, false⟩ =
      some (Text.hexOfBytes (digest (identifying digest size (ByteSource.delivered pieces)))) := by
  unfold ofSource?
  rw [blockDigests?_eq hsize, if_neg (by simp), Option.map_some, combine_blocks hsize]

/-- **The identifier of a content** is the digest of one byte string. -/
theorem ofContent_eq (hsize : 0 < size) (content : ByteArray) :
    ofContent digest size content = Text.hexOfBytes (digest (identifying digest size content)) := by
  unfold ofContent ByteSource.ofContent
  rw [ofSource?_eq hsize, ByteSource.delivered_singleton, Option.getD_some]

/-- The last byte string that is hashed is among those that are. -/
theorem identifying_mem_hashed (digest : ByteArray → ByteArray) (size : Nat) (content : ByteArray) :
    identifying digest size content ∈ hashed digest size content := by
  unfold identifying hashed
  split
  · next hshort => rw [blocks_of_le hshort]; exact List.mem_singleton_self content
  · exact List.mem_append_right _ (List.mem_singleton_self _)

/-- The blocks of a content are hashed. -/
theorem mem_hashed_of_mem_blocks {content block : ByteArray} (h : block ∈ blocks size content) :
    block ∈ hashed digest size content :=
  List.mem_append_left _ h

/-- What is not hashed for a content has no part in its identifier. -/
theorem ofContent_congr {digest' : ByteArray → ByteArray} {content : ByteArray} (hsize : 0 < size)
    (h : ∀ text ∈ hashed digest size content, digest text = digest' text) :
    ofContent digest size content = ofContent digest' size content := by
  have hblocks : (blocks size content).map digest = (blocks size content).map digest' :=
    List.map_congr_left fun block hblock => h block (List.mem_append_left _ hblock)
  have hidentifying : identifying digest size content = identifying digest' size content := by
    rw [identifying, identifying, digestList, digestList, hblocks]
  rw [ofContent_eq hsize, ofContent_eq hsize, ← hidentifying, h _ (identifying_mem_hashed digest size content)]

/-! ## Contents with one identifier -/

/-- Two different byte strings of a list have one digest. -/
def Collides (digest : ByteArray → ByteArray) (texts : List ByteArray) : Prop :=
  ∃ x ∈ texts, ∃ y ∈ texts, x ≠ y ∧ digest x = digest y

/-- A content that fits into one block is, byte for byte, the block digests of another that does not. -/
def Lists (digest : ByteArray → ByteArray) (size : Nat) (short long : ByteArray) : Prop :=
  short.size ≤ size ∧ size < long.size ∧ short = digestList digest size long

/-- Two contents of several blocks have different block digests that are the same in a row. -/
def Blurs (digest : ByteArray → ByteArray) (size : Nat) (a b : ByteArray) : Prop :=
  size < a.size ∧ size < b.size ∧ (blocks size a).map digest ≠ (blocks size b).map digest ∧
    digestList digest size a = digestList digest size b

/-- Byte strings that are hashed for a content that fits into one block. -/
theorem hashed_of_le {content : ByteArray} (h : content.size ≤ size) : hashed digest size content = [content] := by
  rw [hashed, blocks_of_le h, if_pos h, List.append_nil]

/-- Byte strings that are hashed for a content of two blocks. -/
theorem hashed_append {block rest : ByteArray} (hsize : 0 < size) (hblock : block.size = size) (hrest : rest.size ≠ 0)
    (hshort : rest.size ≤ size) :
    hashed digest size (block ++ rest) = [block, rest, digest block ++ digest rest] := by
  have hlong : ¬(block ++ rest).size ≤ size := by
    rw [ByteArray.size_append]
    omega
  rw [hashed, if_neg hlong, digestList, blocks_append hsize hblock hrest, blocks_of_le hshort]
  simp [joined, ByteArray.append_empty]

/-- The byte string that identifies a content of several blocks is their digests in a row. -/
theorem identifying_of_lt {content : ByteArray} (h : size < content.size) :
    identifying digest size content = digestList digest size content :=
  if_neg (Nat.not_le_of_lt h)

/-- A list of block digests and the content that it lists are identified by the same byte string. -/
theorem Lists.identifying_eq {short long : ByteArray} (h : Lists digest size short long) :
    identifying digest size short = identifying digest size long := by
  obtain ⟨hshort, hlong, hlist⟩ := h
  rw [identifying_of_lt hlong, ← hlist]
  exact if_pos hshort

/-- **A list of block digests** has the identifier of the content that it lists. -/
theorem ofContent_eq_of_lists {short long : ByteArray} (hsize : 0 < size) (h : Lists digest size short long) :
    ofContent digest size short = ofContent digest size long := by
  rw [ofContent_eq hsize, ofContent_eq hsize, h.identifying_eq]

/-- Byte strings of one size in a row are told apart. -/
theorem eq_of_joined {n : Nat} (hn : 0 < n) {texts texts' : List ByteArray} (htexts : ∀ text ∈ texts, text.size = n)
    (htexts' : ∀ text ∈ texts', text.size = n) (h : joined texts = joined texts') : texts = texts' := by
  induction texts generalizing texts' with
  | nil =>
    cases texts' with
    | nil => rfl
    | cons text' rest' =>
      have hsizes := congrArg ByteArray.size h
      rw [joined, joined, ByteArray.size_append, htexts' text' List.mem_cons_self, ByteArray.size_empty] at hsizes
      omega
  | cons text rest ih =>
    have htext := htexts text List.mem_cons_self
    cases texts' with
    | nil =>
      have hsizes := congrArg ByteArray.size h
      rw [joined, joined, ByteArray.size_append, htext, ByteArray.size_empty] at hsizes
      omega
    | cons text' rest' =>
      have htext' := htexts' text' List.mem_cons_self
      rw [joined, joined, ByteArray.append_eq_append_iff_of_size_eq_left (htext.trans htext'.symm)] at h
      obtain ⟨rfl, hrest⟩ := h
      rw [ih (fun t ht => htexts t (List.mem_cons_of_mem _ ht)) (fun t ht => htexts' t (List.mem_cons_of_mem _ ht)) hrest]

/-- Empty byte strings in a row are empty. -/
theorem joined_eq_empty {texts : List ByteArray} (h : ∀ text ∈ texts, text = ByteArray.empty) :
    joined texts = ByteArray.empty := by
  induction texts with
  | nil => rfl
  | cons text rest ih =>
    rw [joined, h text List.mem_cons_self, ih fun t ht => h t (List.mem_cons_of_mem _ ht), ByteArray.empty_append]

/-- A function determines the elements of lists that it tells apart. -/
theorem eq_of_map_eq {f : ByteArray → ByteArray} {texts texts' : List ByteArray}
    (hf : ∀ x ∈ texts, ∀ y ∈ texts', f x = f y → x = y) (h : texts.map f = texts'.map f) : texts = texts' := by
  induction texts generalizing texts' with
  | nil => exact (List.map_eq_nil_iff.mp h.symm).symm
  | cons text rest ih =>
    obtain ⟨text', rest', rfl, hhead, htail⟩ := List.map_eq_cons_iff.mp h.symm
    rw [hf text List.mem_cons_self text' List.mem_cons_self hhead.symm,
      ih (fun x hx y hy => hf x (List.mem_cons_of_mem _ hx) y (List.mem_cons_of_mem _ hy)) htail.symm]

section NoCollisions

variable {a b : ByteArray} (hfree : ¬Collides digest (hashed digest size a ++ hashed digest size b))
include hfree

/-- Without collisions, a digest determines which byte string was hashed. -/
theorem eq_of_digest_eq {x y : ByteArray} (hx : x ∈ hashed digest size a ++ hashed digest size b)
    (hy : y ∈ hashed digest size a ++ hashed digest size b) (h : digest x = digest y) : x = y :=
  Classical.byContradiction fun hne => hfree ⟨x, hx, y, hy, hne, h⟩

/-- Block digests determine a content then. -/
theorem eq_of_map_digest_eq (h : (blocks size a).map digest = (blocks size b).map digest) : a = b := by
  have hblocks : blocks size a = blocks size b := by
    apply eq_of_map_eq _ h
    intro x hx y hy hsame
    exact eq_of_digest_eq hfree (List.mem_append_left _ (mem_hashed_of_mem_blocks hx))
      (List.mem_append_right _ (mem_hashed_of_mem_blocks hy)) hsame
  rw [← joined_blocks size a, hblocks, joined_blocks]

/-- The identifying byte string determines a content then, up to lists of digests. -/
theorem identifying_eq_iff :
    identifying digest size a = identifying digest size b ↔
      a = b ∨ Lists digest size a b ∨ Lists digest size b a ∨ Blurs digest size a b := by
  constructor
  · intro h
    unfold identifying at h
    split at h <;> split at h
    · exact .inl h
    · next hshort hlong => exact .inr (.inl ⟨hshort, Nat.lt_of_not_le hlong, h⟩)
    · next hlong hshort => exact .inr (.inr (.inl ⟨hshort, Nat.lt_of_not_le hlong, h.symm⟩))
    · next hlonga hlongb =>
      by_cases hdigests : (blocks size a).map digest = (blocks size b).map digest
      · exact .inl (eq_of_map_digest_eq hfree hdigests)
      · exact .inr (.inr (.inr ⟨Nat.lt_of_not_le hlonga, Nat.lt_of_not_le hlongb, hdigests, h⟩))
  · rintro (rfl | hlists | hlists | ⟨hlonga, hlongb, -, hsame⟩)
    · rfl
    · exact hlists.identifying_eq
    · exact hlists.identifying_eq.symm
    · rw [identifying_of_lt hlonga, identifying_of_lt hlongb, hsame]

/-- Digests of one size are never blurred: empty ones would collide. -/
theorem not_blurs_of_size (hsize : 0 < size) {n : Nat} (hn : ∀ text, (digest text).size = n) :
    ¬Blurs digest size a b := by
  rintro ⟨hlong, -, hdifferent, hlist⟩
  have hsizes : ∀ content, ∀ text ∈ (blocks size content).map digest, text.size = n := by
    intro content text htext
    obtain ⟨block, -, rfl⟩ := List.mem_map.mp htext
    exact hn block
  rcases Nat.eq_zero_or_pos n with rfl | hpos
  · have hempty : digestList digest size a = ByteArray.empty :=
      joined_eq_empty fun text htext => ByteArray.size_eq_zero_iff.mp (hsizes a text htext)
    have hfirst : a.extract 0 size ∈ blocks size a := by
      rw [blocks_of_lt hsize hlong]
      exact List.mem_cons_self
    have hlast : identifying digest size a = ByteArray.empty := (identifying_of_lt hlong).trans hempty
    have hsame : digest (a.extract 0 size) = digest (identifying digest size a) := by
      rw [ByteArray.size_eq_zero_iff.mp (hn _), ByteArray.size_eq_zero_iff.mp (hn _)]
    have hblock := eq_of_digest_eq hfree (List.mem_append_left _ (mem_hashed_of_mem_blocks hfirst))
      (List.mem_append_left _ (identifying_mem_hashed digest size a)) hsame
    have hblocksize := congrArg ByteArray.size (hblock.trans hlast)
    rw [ByteArray.size_extract, ByteArray.size_empty] at hblocksize
    omega
  · exact hdifferent (eq_of_joined hpos (hsizes a) (hsizes b) hlist)

end NoCollisions

/-- **Which contents have one identifier**, where no two of the byte strings that are hashed collide: a content and
itself, a content that lists the block digests of a longer one, and contents whose block digests are blurred, which
digests of one size never are. -/
theorem ofContent_eq_ofContent_iff {a b : ByteArray} (hsize : 0 < size)
    (hfree : ¬Collides digest (hashed digest size a ++ hashed digest size b)) :
    (ofContent digest size a = ofContent digest size b ↔
      a = b ∨ Lists digest size a b ∨ Lists digest size b a ∨ Blurs digest size a b) ∧
      ∀ n, (∀ text, (digest text).size = n) → ¬Blurs digest size a b := by
  refine ⟨?_, fun n hn => not_blurs_of_size hfree hsize hn⟩
  rw [← identifying_eq_iff hfree, ofContent_eq hsize, ofContent_eq hsize]
  constructor
  · intro h
    exact eq_of_digest_eq hfree (List.mem_append_left _ (identifying_mem_hashed digest size a))
      (List.mem_append_right _ (identifying_mem_hashed digest size b)) (Text.hexOfBytes_injective h)
  · intro h
    rw [h]

/-- The last of 65 bytes shows in the identifier, with blocks of 64 bytes. -/
theorem ofContent_eq_ofContent_iff_of_last_byte :
    ¬Collides Blake3.hash (hashed Blake3.hash 64 (⟨Array.replicate 64 0⟩ ++ ⟨#[0]⟩) ++
        hashed Blake3.hash 64 (⟨Array.replicate 64 0⟩ ++ ⟨#[1]⟩)) ∧
      ofContent Blake3.hash 64 (⟨Array.replicate 64 0⟩ ++ ⟨#[0]⟩) ≠
        ofContent Blake3.hash 64 (⟨Array.replicate 64 0⟩ ++ ⟨#[1]⟩) := by
  have hblock : ByteArray.size ⟨Array.replicate 64 0⟩ = 64 := by decide +kernel
  have hlong : ∀ last : UInt8, ¬(ByteArray.mk (Array.replicate 64 0) ++ ⟨#[last]⟩).size ≤ 64 := by
    intro last
    rw [ByteArray.size_append, hblock]
    exact Nat.not_succ_le_self 64
  have hfree : ¬Collides Blake3.hash (hashed Blake3.hash 64 (⟨Array.replicate 64 0⟩ ++ ⟨#[0]⟩) ++
      hashed Blake3.hash 64 (⟨Array.replicate 64 0⟩ ++ ⟨#[1]⟩)) := by
    rw [hashed_append (by decide) hblock (by decide) (by decide),
      hashed_append (by decide) hblock (by decide) (by decide)]
    unfold Collides
    decide +kernel
  obtain ⟨hiff, hsharp⟩ := ofContent_eq_ofContent_iff (by decide) hfree
  refine ⟨hfree, fun hsame => ?_⟩
  rcases hiff.mp hsame with heq | hlists | hlists | hblurs
  · exact absurd heq (by decide +kernel)
  · exact hlong 0 hlists.1
  · exact hlong 1 hlists.1
  · exact hsharp 32 Blake3.size_hash hblurs

/-- **Different contents with one identifier**, without a collision: 65 zero bytes in blocks of 64, and the digests of
64 zero bytes and of one. -/
theorem not_ofContent_apart :
    ∃ short long : ByteArray, short ≠ long ∧
      ¬Collides Blake3.hash (hashed Blake3.hash 64 short ++ hashed Blake3.hash 64 long) ∧
      ofContent Blake3.hash 64 short = ofContent Blake3.hash 64 long := by
  have hblock : ByteArray.size ⟨Array.replicate 64 0⟩ = 64 := by decide +kernel
  have hshort : (Blake3.hash ⟨Array.replicate 64 0⟩ ++ Blake3.hash ⟨#[0]⟩).size ≤ 64 := by decide +kernel
  have hhashed : hashed Blake3.hash 64 (⟨Array.replicate 64 0⟩ ++ ⟨#[0]⟩) =
      [⟨Array.replicate 64 0⟩, ⟨#[0]⟩, Blake3.hash ⟨Array.replicate 64 0⟩ ++ Blake3.hash ⟨#[0]⟩] :=
    hashed_append (by decide) hblock (by decide) (by decide)
  refine ⟨Blake3.hash ⟨Array.replicate 64 0⟩ ++ Blake3.hash ⟨#[0]⟩, ⟨Array.replicate 64 0⟩ ++ ⟨#[0]⟩, ?_, ?_, ?_⟩
  · decide +kernel
  · rw [hhashed, hashed_of_le hshort]
    unfold Collides
    decide +kernel
  · apply ofContent_eq_of_lists (by decide)
    refine ⟨hshort, by decide +kernel, ?_⟩
    rw [digestList, blocks_append (by decide) hblock (by decide), blocks_of_le (by decide)]
    simp [joined, ByteArray.append_empty]

end ContentId

end MediaCatalog
