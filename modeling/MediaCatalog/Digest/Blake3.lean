import MediaCatalog.Text.Hex

/-!
# The BLAKE3 hash

The unkeyed BLAKE3 hash with 32 bytes of output. The input is cut into chunks of 1024 bytes,
each chunk into blocks of 64 bytes; a chunk is compressed block after block, and the chaining
values of the chunks are joined in a binary tree whose left subtrees are the largest complete
ones.

* `compress`: the compression function on a chaining value and a block.
* `chunkNode`, `subtreeNode`: the last compression of a chunk or subtree, still to be run, so
  that the caller decides whether it is the root.
* `hash`, `hashText`: the digest of bytes, and its hexadecimal text for the UTF-8 form of a text.
-/

namespace MediaCatalog.Blake3

/-- A chaining value: eight words. -/
structure Chain where
  h0 : UInt32
  h1 : UInt32
  h2 : UInt32
  h3 : UInt32
  h4 : UInt32
  h5 : UInt32
  h6 : UInt32
  h7 : UInt32

/-- Sixteen words: a message block, or the working state of a compression. -/
structure Block where
  w0 : UInt32
  w1 : UInt32
  w2 : UInt32
  w3 : UInt32
  w4 : UInt32
  w5 : UInt32
  w6 : UInt32
  w7 : UInt32
  w8 : UInt32
  w9 : UInt32
  w10 : UInt32
  w11 : UInt32
  w12 : UInt32
  w13 : UInt32
  w14 : UInt32
  w15 : UInt32

/-- The initial chaining value: the first 32 bits of the fractional parts of the square roots of
the first eight primes. -/
def initialChain : Chain :=
  ⟨0x6A09E667, 0xBB67AE85, 0x3C6EF372, 0xA54FF53A, 0x510E527F, 0x9B05688C, 0x1F83D9AB, 0x5BE0CD19⟩

/-- The first block of a chunk. -/
def chunkStart : UInt32 := 1
/-- The last block of a chunk. -/
def chunkEnd : UInt32 := 2
/-- A node that joins two subtrees. -/
def parent : UInt32 := 4
/-- The last compression of all. -/
def root : UInt32 := 8

/-- Rotation to the right by a fixed number of bits between 1 and 31. -/
@[inline] def rotateRight (x n : UInt32) : UInt32 := (x >>> n) ||| (x <<< (32 - n))

/-- One of the seven rounds: the columns of the state are mixed, then its diagonals. -/
def mixRound (s m : Block) : Block :=
  let a0 := s.w0 + s.w4 + m.w0
  let d0 := rotateRight (s.w12 ^^^ a0) 16
  let c0 := s.w8 + d0
  let b0 := rotateRight (s.w4 ^^^ c0) 12
  let a0 := a0 + b0 + m.w1
  let d0 := rotateRight (d0 ^^^ a0) 8
  let c0 := c0 + d0
  let b0 := rotateRight (b0 ^^^ c0) 7
  let a1 := s.w1 + s.w5 + m.w2
  let d1 := rotateRight (s.w13 ^^^ a1) 16
  let c1 := s.w9 + d1
  let b1 := rotateRight (s.w5 ^^^ c1) 12
  let a1 := a1 + b1 + m.w3
  let d1 := rotateRight (d1 ^^^ a1) 8
  let c1 := c1 + d1
  let b1 := rotateRight (b1 ^^^ c1) 7
  let a2 := s.w2 + s.w6 + m.w4
  let d2 := rotateRight (s.w14 ^^^ a2) 16
  let c2 := s.w10 + d2
  let b2 := rotateRight (s.w6 ^^^ c2) 12
  let a2 := a2 + b2 + m.w5
  let d2 := rotateRight (d2 ^^^ a2) 8
  let c2 := c2 + d2
  let b2 := rotateRight (b2 ^^^ c2) 7
  let a3 := s.w3 + s.w7 + m.w6
  let d3 := rotateRight (s.w15 ^^^ a3) 16
  let c3 := s.w11 + d3
  let b3 := rotateRight (s.w7 ^^^ c3) 12
  let a3 := a3 + b3 + m.w7
  let d3 := rotateRight (d3 ^^^ a3) 8
  let c3 := c3 + d3
  let b3 := rotateRight (b3 ^^^ c3) 7
  let a0 := a0 + b1 + m.w8
  let d3 := rotateRight (d3 ^^^ a0) 16
  let c2 := c2 + d3
  let b1 := rotateRight (b1 ^^^ c2) 12
  let a0 := a0 + b1 + m.w9
  let d3 := rotateRight (d3 ^^^ a0) 8
  let c2 := c2 + d3
  let b1 := rotateRight (b1 ^^^ c2) 7
  let a1 := a1 + b2 + m.w10
  let d0 := rotateRight (d0 ^^^ a1) 16
  let c3 := c3 + d0
  let b2 := rotateRight (b2 ^^^ c3) 12
  let a1 := a1 + b2 + m.w11
  let d0 := rotateRight (d0 ^^^ a1) 8
  let c3 := c3 + d0
  let b2 := rotateRight (b2 ^^^ c3) 7
  let a2 := a2 + b3 + m.w12
  let d1 := rotateRight (d1 ^^^ a2) 16
  let c0 := c0 + d1
  let b3 := rotateRight (b3 ^^^ c0) 12
  let a2 := a2 + b3 + m.w13
  let d1 := rotateRight (d1 ^^^ a2) 8
  let c0 := c0 + d1
  let b3 := rotateRight (b3 ^^^ c0) 7
  let a3 := a3 + b0 + m.w14
  let d2 := rotateRight (d2 ^^^ a3) 16
  let c1 := c1 + d2
  let b0 := rotateRight (b0 ^^^ c1) 12
  let a3 := a3 + b0 + m.w15
  let d2 := rotateRight (d2 ^^^ a3) 8
  let c1 := c1 + d2
  let b0 := rotateRight (b0 ^^^ c1) 7
  ⟨a0, a1, a2, a3, b0, b1, b2, b3, c0, c1, c2, c3, d0, d1, d2, d3⟩

/-- The order in which the next round takes the words of the message. -/
def permute (m : Block) : Block :=
  ⟨m.w2, m.w6, m.w3, m.w10, m.w7, m.w0, m.w4, m.w13,
   m.w1, m.w11, m.w12, m.w5, m.w9, m.w14, m.w15, m.w8⟩

/-- `n` rounds, the message permuted between them. -/
def rounds : Nat → Block → Block → Block
  | 0, s, _ => s
  | n + 1, s, m => rounds n (mixRound s m) (permute m)

/-- The compression function: the new chaining value, the first eight words of the output. -/
def compress (h : Chain) (m : Block) (counter : UInt64) (length flags : UInt32) : Chain :=
  let s := rounds 7
    ⟨h.h0, h.h1, h.h2, h.h3, h.h4, h.h5, h.h6, h.h7,
     0x6A09E667, 0xBB67AE85, 0x3C6EF372, 0xA54FF53A,
     counter.toUInt32, (counter >>> 32).toUInt32, length, flags⟩ m
  ⟨s.w0 ^^^ s.w8, s.w1 ^^^ s.w9, s.w2 ^^^ s.w10, s.w3 ^^^ s.w11,
   s.w4 ^^^ s.w12, s.w5 ^^^ s.w13, s.w6 ^^^ s.w14, s.w7 ^^^ s.w15⟩

/-- The byte at an index, zero past the end. -/
@[inline] def byteAt (data : ByteArray) (i : Nat) : UInt32 :=
  if h : i < data.size then data[i].toUInt32 else 0

/-- The little-endian word at an index, padded with zero bytes past the end. -/
@[inline] def wordAt (data : ByteArray) (i : Nat) : UInt32 :=
  byteAt data i ||| (byteAt data (i + 1) <<< 8) ||| (byteAt data (i + 2) <<< 16) |||
    (byteAt data (i + 3) <<< 24)

/-- The 64 bytes from an index on, padded with zero bytes past the end. -/
def blockAt (data : ByteArray) (i : Nat) : Block :=
  ⟨wordAt data i, wordAt data (i + 4), wordAt data (i + 8), wordAt data (i + 12),
   wordAt data (i + 16), wordAt data (i + 20), wordAt data (i + 24), wordAt data (i + 28),
   wordAt data (i + 32), wordAt data (i + 36), wordAt data (i + 40), wordAt data (i + 44),
   wordAt data (i + 48), wordAt data (i + 52), wordAt data (i + 56), wordAt data (i + 60)⟩

/-- A compression that is still to be run: its flags may have to say that it is the root. -/
structure Node where
  chain : Chain
  block : Block
  counter : UInt64
  length : UInt32
  flags : UInt32

/-- The chaining value of an inner node. -/
def Node.chaining (n : Node) : Chain := compress n.chain n.block n.counter n.length n.flags

/-- The chaining value of the root, which is the digest. -/
def Node.rootChaining (n : Node) : Chain :=
  compress n.chain n.block n.counter n.length (n.flags ||| root)

/-- The rest of a chunk of `length` bytes left from `start` on, after `chain`; `flags` marks the
first block. -/
def chunkFrom (data : ByteArray) (counter : UInt64) (start length : Nat) (chain : Chain)
    (flags : UInt32) : Node :=
  if h : 64 < length then
    chunkFrom data counter (start + 64) (length - 64)
      (compress chain (blockAt data start) counter 64 flags) 0
  else
    ⟨chain, blockAt data start, counter, length.toUInt32, flags ||| chunkEnd⟩
  termination_by length
  decreasing_by omega

/-- The node of chunk number `index`. -/
def chunkNode (data : ByteArray) (index : Nat) : Node :=
  chunkFrom data index.toUInt64 (1024 * index) (min 1024 (data.size - 1024 * index)) initialChain
    chunkStart

/-- The node that joins two chaining values. -/
def parentNode (l r : Chain) : Node :=
  ⟨initialChain, ⟨l.h0, l.h1, l.h2, l.h3, l.h4, l.h5, l.h6, l.h7,
    r.h0, r.h1, r.h2, r.h3, r.h4, r.h5, r.h6, r.h7⟩, 0, 64, parent⟩

/-- The largest power of two below a number above one. -/
def leftSize (n : Nat) : Nat := Nat.pow 2 (n - 1).log2

/-- The left part has at least one chunk. -/
theorem leftSize_pos (n : Nat) : 0 < leftSize n := Nat.two_pow_pos _

/-- The right part has at least one chunk. -/
theorem leftSize_lt {n : Nat} (h : 1 < n) : leftSize n < n := by
  have : leftSize n ≤ n - 1 := Nat.log2_self_le (by omega)
  omega

/-- The node over `count` chunks from chunk number `first` on. -/
def subtreeNode (data : ByteArray) (first count : Nat) : Node :=
  if 1 < count then
    parentNode (subtreeNode data first (leftSize count)).chaining
      (subtreeNode data (first + leftSize count) (count - leftSize count)).chaining
  else chunkNode data first
  termination_by count
  decreasing_by
    · exact leftSize_lt (by assumption)
    · have := leftSize_pos count
      omega

/-- A word as four bytes, the lowest first. -/
def wordBytes (w : UInt32) : List UInt8 :=
  [w.toUInt8, (w >>> 8).toUInt8, (w >>> 16).toUInt8, (w >>> 24).toUInt8]

/-- The 32 bytes of a chaining value. -/
def Chain.bytes (c : Chain) : ByteArray :=
  ⟨([c.h0, c.h1, c.h2, c.h3, c.h4, c.h5, c.h6, c.h7].flatMap wordBytes).toArray⟩

/-- The number of chunks of an input; the empty input is one empty chunk. -/
def chunkCount (size : Nat) : Nat := max 1 ((size + 1023) / 1024)

/-- The 32-byte BLAKE3 digest. -/
def hash (data : ByteArray) : ByteArray :=
  (subtreeNode data 0 (chunkCount data.size)).rootChaining.bytes

/-- The digest of a text's UTF-8 form, as hexadecimal text. -/
def hashText (text : String) : String := Text.hexOfBytes (hash text.toUTF8)

end MediaCatalog.Blake3
