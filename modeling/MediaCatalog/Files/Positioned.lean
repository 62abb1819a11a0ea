/-!
# Positioned reads

A read at a position may be interrupted, or deliver fewer bytes than were asked for. A range is
therefore read by asking again for the bytes that are missing, until all are there or the file ends.

* `Delivery`: what a sequence of positioned reads does.
* `fill`: the bytes of a range, whatever the delivery.
-/

namespace MediaCatalog.Positioned

/-- What successive positioned reads do: `none` is an interruption, `some n` a read that delivers at
most `n + 1` bytes. Reads after those listed deliver all that is asked for. -/
abbrev Delivery := List (Option Nat)

/-- The bytes of a file from an offset on, `length` of them unless the file ends before. -/
def fill (content : ByteArray) (offset length : Nat) : Delivery → ByteArray
  | [] => content.extract offset (offset + length)
  | none :: later => fill content offset length later
  | some n :: later =>
    let piece := content.extract offset (offset + min (n + 1) length)
    if piece.size = 0 ∨ piece.size = length then piece
    else piece ++ fill content (offset + piece.size) (length - piece.size) later

end MediaCatalog.Positioned
