import Mathlib.Logic.ExistsUnique
import MediaCatalog.Proofs.Digest.ContentId
import MediaCatalog.Scan.File

/-!
# However a content is delivered

A reader delivers a content in pieces that have nothing to do with the blocks of its identifier: a piece may end
anywhere in a block, or go through several of them. It may also fail instead of ending.

* `ContentId.Cuts`: which lists of byte strings are the blocks of a content, with `ContentId.cuts_blocks` and
  `ContentId.Cuts.unique`.
* `ContentId.blockDigests?_of_fails`: a reader that fails leads to no digests.
* **Main result** (`ByteSource.contentId_of_pieces`): what the identifier of a content is, however it is delivered,
  and that a failure gives none.
-/

namespace MediaCatalog

/-! ## The blocks of a content -/

namespace ContentId

/-- Byte strings are the blocks of a content: in a row they are the content, all but the last are full, and the last
is not empty. -/
inductive Cuts (size : Nat) : ByteArray → List ByteArray → Prop where
  | last {block : ByteArray} (hne : 0 < block.size) (hle : block.size ≤ size) : Cuts size block [block]
  | full {block rest : ByteArray} {blocks : List ByteArray} (hfull : block.size = size) (hrest : Cuts size rest blocks) :
      Cuts size (block ++ rest) (block :: blocks)

variable {size : Nat}

/-- Only a content with bytes is cut. -/
theorem Cuts.size_pos {content : ByteArray} {blocks : List ByteArray} (h : Cuts size content blocks) : 0 < content.size := by
  induction h with
  | last hne _ => exact hne
  | full _ _ ih =>
    rw [ByteArray.size_append]
    omega

/-- **A content is cut in one way.** -/
theorem Cuts.unique {content : ByteArray} {blocks blocks' : List ByteArray} (h : Cuts size content blocks)
    (h' : Cuts size content blocks') : blocks = blocks' := by
  induction h generalizing blocks' with
  | last hne hle =>
    cases h' with
    | last => rfl
    | full hfull hrest =>
      have hpos := hrest.size_pos
      rw [ByteArray.size_append] at hle
      omega
  | @full block rest blocks hfull hrest ih =>
    generalize hcontent : block ++ rest = content at h'
    cases h' with
    | last hne' hle' =>
      have hpos := hrest.size_pos
      rw [← hcontent, ByteArray.size_append] at hle'
      omega
    | full hfull' hrest' =>
      rw [ByteArray.append_eq_append_iff_of_size_eq_left (hfull.trans hfull'.symm)] at hcontent
      obtain ⟨rfl, rfl⟩ := hcontent
      rw [ih hrest']

/-- The blocks of a content with bytes are its blocks. -/
theorem cuts_blocks (hsize : 0 < size) {content : ByteArray} (hne : 0 < content.size) :
    Cuts size content (blocks size content) := by
  fun_induction blocks size content with
  | case1 content hlong ih =>
    have hrest : 0 < (content.extract size content.size).size := by
      rw [ByteArray.size_extract]
      omega
    have hfull : (content.extract 0 size).size = size := by
      rw [ByteArray.size_extract]
      omega
    have hcuts := Cuts.full hfull (ih hrest)
    rwa [ByteSource.extract_append_rest (Nat.le_of_lt hlong.2)] at hcuts
  | case2 content hshort => exact .last hne (by omega)

end ContentId

/-! ## Readers that fail -/

namespace ByteSource

/-- Pieces none of which is empty are delivered to the last. -/
theorem delivered_of_forall {pieces : List ByteArray} (h : ∀ piece ∈ pieces, piece.size ≠ 0) :
    delivered pieces = ContentId.joined pieces := by
  induction pieces with
  | nil => rfl
  | cons piece rest ih =>
    rw [delivered, if_neg (h piece List.mem_cons_self), ContentId.joined,
      ih fun later hlater => h later (List.mem_cons_of_mem _ hlater)]

/-- A reader that fails has filled the blocks before, and has no empty piece left. -/
theorem fill?_of_fails {size : Nat} {block block' : ByteArray} {pieces rest : List ByteArray} (hblock : block.size ≤ size)
    (hpieces : ∀ piece ∈ pieces, piece.size ≠ 0) (h : fill? size true block pieces = some (block', rest)) :
    block'.size = size ∧ ∀ piece ∈ rest, piece.size ≠ 0 := by
  generalize hfails : true = fails at h
  fun_induction fill? size fails block pieces with subst hfails
  | case1 => cases h
  | case2 block hfull =>
    have hroom : ¬block.size < size := fun hroom => hfull ⟨hroom, rfl⟩
    cases h
    exact ⟨by omega, hpieces⟩
  | case3 block piece later hfull =>
    cases h
    exact ⟨by omega, hpieces⟩
  | case4 block piece later hroom hzero => exact absurd hzero (hpieces piece List.mem_cons_self)
  | case5 block piece later hroom hne hfits ih =>
    have hgrown : (block ++ piece).size ≤ size := by
      rw [ByteArray.size_append]
      omega
    exact ih hgrown (fun p hp => hpieces p (List.mem_cons_of_mem _ hp)) h
  | case6 block piece later hroom hne hlong =>
    cases h
    constructor
    · rw [ByteArray.size_append, ByteArray.size_extract]
      omega
    · intro p hp
      rcases List.mem_cons.mp hp with rfl | hp
      · rw [ByteArray.size_extract]
        omega
      · exact hpieces p (List.mem_cons_of_mem _ hp)

end ByteSource

/-- **A reader that fails** leads to no digests: it is asked again until it does. -/
theorem ContentId.blockDigests?_of_fails {digest : ByteArray → ByteArray} {size : Nat} (hsize : 0 < size) (first : Bool)
    {pieces : List ByteArray} (h : ∀ piece ∈ pieces, piece.size ≠ 0) :
    blockDigests? digest size true first pieces = none := by
  have hempty : ByteArray.empty.size ≤ size := Nat.zero_le size
  generalize hfails : true = fails
  fun_induction blockDigests? digest size fails first pieces with subst hfails
  | case1 => rfl
  | case2 first pieces block rest hfill hend =>
    obtain ⟨hfull, -⟩ := ByteSource.fill?_of_fails hempty h hfill
    omega
  | case3 first pieces block rest hfill hend hshort =>
    obtain ⟨hfull, -⟩ := ByteSource.fill?_of_fails hempty h hfill
    omega
  | case4 first pieces block rest hfill hend hfull ih =>
    obtain ⟨-, hrest⟩ := ByteSource.fill?_of_fails hempty h hfill
    rw [ih hrest, Option.map_none]

/-! ## Identifiers -/

namespace ByteSource

variable {d : Digests} {pieces : List ByteArray}

/-- The identifier of what a reader delivers that ends. -/
theorem contentId_of_ends (hsize : 0 < d.blockSize) (hpieces : ∀ piece ∈ pieces, piece.size ≠ 0) :
    contentId d ⟨pieces, false⟩ =
      .ok (Text.hexOfBytes (d.content (ContentId.identifying d.content d.blockSize (ContentId.joined pieces)))) := by
  unfold contentId
  rw [ContentId.ofSource?_eq hsize, delivered_of_forall hpieces]

/-- A reader that fails gives no identifier. -/
theorem contentId_of_fails (hsize : 0 < d.blockSize) (hpieces : ∀ piece ∈ pieces, piece.size ≠ 0) :
    contentId d ⟨pieces, true⟩ = .error (.of .io) := by
  unfold contentId ContentId.ofSource?
  rw [ContentId.blockDigests?_of_fails hsize true hpieces, Option.map_none]

/-- **However a content is delivered**, in pieces none of which is empty, its identifier is the digest of the content
if that fits into one block, and otherwise the digest of the digests of its blocks in a row. It is cut into blocks in
just one way. A reader that fails after the pieces gives the error `io` and no identifier. -/
theorem contentId_of_pieces {content : ByteArray} (hsize : 0 < d.blockSize) (hpieces : ∀ piece ∈ pieces, piece.size ≠ 0)
    (hcontent : ContentId.joined pieces = content) :
    (content.size ≤ d.blockSize → contentId d ⟨pieces, false⟩ = .ok (Text.hexOfBytes (d.content content))) ∧
      (d.blockSize < content.size → (∃! blocks, ContentId.Cuts d.blockSize content blocks) ∧
        ∀ blocks, ContentId.Cuts d.blockSize content blocks →
          contentId d ⟨pieces, false⟩ =
            .ok (Text.hexOfBytes (d.content (ContentId.joined (blocks.map d.content))))) ∧
      contentId d ⟨pieces, true⟩ = .error (.of .io) := by
  have hends := contentId_of_ends hsize hpieces
  rw [hcontent] at hends
  refine ⟨fun hshort => ?_, fun hlong => ?_, contentId_of_fails hsize hpieces⟩
  · rw [hends, ContentId.identifying, if_pos hshort]
  · have hcuts := ContentId.cuts_blocks hsize (Nat.lt_of_le_of_lt (Nat.zero_le _) hlong)
    refine ⟨⟨_, hcuts, fun blocks hblocks => hblocks.unique hcuts⟩, fun blocks hblocks => ?_⟩
    rw [hends, ContentId.identifying_of_lt hlong, ContentId.digestList, hblocks.unique hcuts]

/-- Ten bytes in pieces of three, five and two, with blocks of four bytes. -/
theorem contentId_of_pieces_straddling :
    let d : Digests := ⟨Blake3.hashText, Blake3.hash, 4⟩
    let pieces : List ByteArray := [⟨#[1, 2, 3]⟩, ⟨#[4, 5, 6, 7, 8]⟩, ⟨#[9, 10]⟩]
    let blocks : List ByteArray := [⟨#[1, 2, 3, 4]⟩, ⟨#[5, 6, 7, 8]⟩, ⟨#[9, 10]⟩]
    0 < d.blockSize ∧ (∀ piece ∈ pieces, piece.size ≠ 0) ∧ ContentId.joined pieces = ContentId.joined blocks ∧
      contentId d ⟨pieces, false⟩ = .ok (Text.hexOfBytes (Blake3.hash (ContentId.joined (blocks.map Blake3.hash)))) ∧
      contentId d ⟨pieces, true⟩ = .error (.of .io) := by
  intro d pieces blocks
  have hpieces : ∀ piece ∈ pieces, piece.size ≠ 0 := by decide
  have hcontent : ContentId.joined pieces = ContentId.joined blocks := by decide +kernel
  have hcuts : ContentId.Cuts d.blockSize (ContentId.joined blocks) blocks := by
    refine .full rfl (.full rfl ?_)
    rw [ContentId.joined, ContentId.joined, ByteArray.append_empty]
    exact .last (by decide) (by decide)
  obtain ⟨-, hlong, hfails⟩ := contentId_of_pieces (by decide : 0 < d.blockSize) hpieces hcontent
  exact ⟨by decide, hpieces, hcontent, (hlong (by decide +kernel)).2 blocks hcuts, hfails⟩

end ByteSource

end MediaCatalog
