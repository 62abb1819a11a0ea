import MediaCatalog.Digest.Blake3

/-!
# Content identifiers

Files are identified by their content: it is cut into blocks of one size, and a file of one block
is identified by the digest of the block, a longer one by the digest of its blocks' digests.

* `ByteSource`: what a reader delivers.
* `ContentId.ofSource?`: the identifier of what it delivers, for any digest function and block size.
* `ContentId.ofContent`: the identifier of a content in one piece.
-/

namespace MediaCatalog

/-- What a reader delivers: pieces in order, each at most once in full, then the end or a failure.
An empty piece reads as the end. -/
structure ByteSource where
  pieces : List ByteArray
  /-- Whether the reader fails after its pieces. -/
  fails : Bool

namespace ByteSource

/-- A reader that delivers a content in one piece. -/
def ofContent (content : ByteArray) : ByteSource := ⟨[content], false⟩

/-- The number of bytes in pieces. -/
def totalSize : List ByteArray → Nat
  | [] => 0
  | piece :: rest => piece.size + totalSize rest

/-- Reads onto `block` until it has `size` bytes or the source ends. Gives the block and the pieces
left, or nothing if the reader fails. -/
def fill? (size : Nat) (fails : Bool) (block : ByteArray) : List ByteArray → Option (ByteArray × List ByteArray)
  | [] => if block.size < size ∧ fails then none else some (block, [])
  | piece :: rest =>
    if size ≤ block.size then some (block, piece :: rest)
    else if piece.size = 0 then some (block, rest)
    else if piece.size ≤ size - block.size then fill? size fails (block ++ piece) rest
    else some (block ++ piece.extract 0 (size - block.size),
      piece.extract (size - block.size) piece.size :: rest)

/-- Filling a block moves bytes from the pieces to the block. -/
theorem size_add_totalSize_of_fill? {size : Nat} {fails : Bool} {block block' : ByteArray}
    {pieces rest : List ByteArray} (h : fill? size fails block pieces = some (block', rest)) :
    block'.size + totalSize rest = block.size + totalSize pieces := by
  fun_induction fill? size fails block pieces with
  | case1 => cases h
  | case2 => cases h; rfl
  | case3 => cases h; rfl
  | case4 block piece rest' _ hzero =>
    cases h
    simp [totalSize, hzero]
  | case5 block piece rest' _ _ _ ih =>
    rw [ih h, ByteArray.size_append]
    simp only [totalSize]
    omega
  | case6 block piece rest' hfull _ hlong =>
    cases h
    simp only [totalSize, ByteArray.size_append, ByteArray.size_extract]
    omega

end ByteSource

namespace ContentId

/-- The size of blocks: 9500 KiB. -/
def blockSize : Nat := 9500 * 1024

/-- The digests of the blocks that pieces make up. With `first`, there is at least one block, which
is empty for an empty content. Nothing if the reader fails. -/
def blockDigests? (digest : ByteArray → ByteArray) (size : Nat) (fails first : Bool)
    (pieces : List ByteArray) : Option (List ByteArray) :=
  match _h : ByteSource.fill? size fails ByteArray.empty pieces with
  | none => none
  | some (block, rest) =>
    if _hend : block.size = 0 ∧ first = false then some []
    else if block.size < size then some [digest block]
    else (blockDigests? digest size fails false rest).map (digest block :: ·)
  termination_by ByteSource.totalSize pieces + first.toNat
  decreasing_by
    have := ByteSource.size_add_totalSize_of_fill? _h
    rw [ByteArray.size_empty] at this
    cases first
    · simp only [and_true] at _hend
      omega
    · simp only [Bool.toNat_true, Bool.toNat_false]
      omega

/-- The digest that stands for a list of block digests. -/
def combine (digest : ByteArray → ByteArray) : List ByteArray → ByteArray
  | [single] => single
  | digests => digest (digests.foldl (· ++ ·) ByteArray.empty)

/-- The identifier of what a source delivers, in hexadecimal digits; nothing if the reader fails. -/
def ofSource? (digest : ByteArray → ByteArray) (size : Nat) (source : ByteSource) : Option String :=
  (blockDigests? digest size source.fails true source.pieces).map fun digests =>
    Text.hexOfBytes (combine digest digests)

/-- The identifier of a content. -/
def ofContent (digest : ByteArray → ByteArray) (size : Nat) (content : ByteArray) : String :=
  (ofSource? digest size (.ofContent content)).getD ""

end ContentId

end MediaCatalog
