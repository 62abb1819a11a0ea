import MediaCatalog.Glob.Token

/-!
# Rules for globs

Not every sequence of parts is accepted. Component boundaries (slashes and tree wildcards) may not
touch, repetitions need sensible bounds, and a group may not bring in what its neighbours already
provide.

* `isAccepted`: whether the parts of a glob obey all rules.
-/

namespace MediaCatalog.Glob

namespace Token

/-- Whether the part ends a path component. -/
def isBoundary : Token → Bool
  | separator | tree _ => true
  | _ => false

/-- Whether the part is the wildcard for any number of characters. -/
def isMany : Token → Bool
  | many => true
  | _ => false

/-- Whether the part begins a path at the root. -/
def isRoot : Token → Bool
  | separator => true
  | tree rooted => rooted
  | _ => false

mutual

/-- Whether the part, or a part with which it can start, passes a test. -/
def startsWith (test : Token → Bool) : Token → Bool
  | oneOf branches => test (oneOf branches) || startsAnyBranch test branches
  | repeated lower upper inner => test (repeated lower upper inner) || startsList test inner
  | token => test token

/-- Whether the first of parts in a row, or a part with which it can start, passes a test. -/
def startsList (test : Token → Bool) : List Token → Bool
  | [] => false
  | token :: _ => startsWith test token

/-- Whether one of several branches can start with a part that passes a test. -/
def startsAnyBranch (test : Token → Bool) : List (List Token) → Bool
  | [] => false
  | branch :: rest => startsList test branch || startsAnyBranch test rest

end

mutual

/-- Whether the part, or a part with which it can end, passes a test. -/
def endsWith (test : Token → Bool) : Token → Bool
  | oneOf branches => test (oneOf branches) || endsAnyBranch test branches
  | repeated lower upper inner => test (repeated lower upper inner) || endsList test inner
  | token => test token

/-- Whether the last of parts in a row, or a part with which it can end, passes a test. -/
def endsList (test : Token → Bool) : List Token → Bool
  | [] => false
  | [token] => endsWith test token
  | _ :: rest => endsList test rest

/-- Whether one of several branches can end with a part that passes a test. -/
def endsAnyBranch (test : Token → Bool) : List (List Token) → Bool
  | [] => false
  | branch :: rest => endsList test branch || endsAnyBranch test rest

end

end Token

/-! ### Neighbours of groups -/

/-- What stands around a group: the nearest part before it and after it, at any level. -/
structure Around where
  left : Option Token
  right : Option Token

namespace Around

/-- Whether what stands before can end at a boundary. -/
def endsBoundary (a : Around) : Bool := a.left.any (Token.endsWith Token.isBoundary)

/-- Whether what stands behind can start at a boundary. -/
def startsBoundary (a : Around) : Bool := a.right.any (Token.startsWith Token.isBoundary)

/-- Whether what stands before can end with a wildcard. -/
def endsMany (a : Around) : Bool := a.left.any (Token.endsWith Token.isMany)

/-- Whether what stands behind can start with a wildcard. -/
def startsMany (a : Around) : Bool := a.right.any (Token.startsWith Token.isMany)

/-- Whether a glob may stand in a group with these surroundings. -/
def allows (a : Around) (inner : List Token) : Bool :=
  match inner.head?, inner.getLast? with
  | some first, some last =>
    let lone := inner.length == 1
    !(first.isBoundary && a.endsBoundary) && !(last.isBoundary && a.startsBoundary) &&
      !(first.isMany && a.endsMany) && !(last.isMany && a.startsMany) &&
      !(lone && match first with
        | .tree _ => true
        | _ => false)
  | _, _ => true

/-- Whether a glob may be a branch: nothing at the very start of a glob may root it in one branch
only. -/
def allowsBranch (a : Around) (inner : List Token) : Bool :=
  a.allows inner && !(a.left.isNone && inner.head?.any Token.isRoot)

/-- Whether a glob may be repeated: it may not root the whole glob only sometimes, nor touch itself
with two boundaries, nor be a lone wildcard. -/
def allowsRepeated (a : Around) (atLeast : Nat) (inner : List Token) : Bool :=
  a.allows inner && !(a.left.isNone && atLeast == 0 && inner.head?.any Token.isRoot) &&
    !(inner.head?.any Token.isBoundary && inner.getLast?.any Token.isBoundary) &&
    !(inner.length == 1 && inner.head?.any Token.isMany)

end Around

/-! ### The rules -/

/-- The largest length of text that a part may demand. -/
def maxInvariant : Nat := 0x10000 - 1

mutual

/-- The number of bytes that the part always matches, if it matches one length of fixed text. -/
def Token.fixedSize? : Token → Option Nat
  | .literal text ignoreCase => if ignoreCase then none else some (String.ofList text).utf8ByteSize
  | .separator => some 1
  | .repeated atLeast atMost inner =>
    if atMost = some atLeast then (fixedSizeSum? inner).map (atLeast * ·) else none
  | _ => none

/-- The number of bytes that parts in a row always match, if each of them matches one length of fixed text. -/
def fixedSizeSum? : List Token → Option Nat
  | [] => some 0
  | token :: rest => do return (← Token.fixedSize? token) + (← fixedSizeSum? rest)

end

/-- Whether the bounds of a repetition leave something to match. -/
def boundsMakeSense (atLeast : Nat) (atMost : Option Nat) : Bool := atMost.all fun n => atLeast ≤ n && n != 0

mutual

/-- Whether a part obeys the rules within its surroundings. -/
def Token.isAccepted (around : Around) (token : Token) : Bool :=
  token.fixedSize?.all (· ≤ maxInvariant) &&
    match token with
    | .oneOf branches => branchesAccepted around branches
    | .repeated atLeast atMost inner =>
      boundsMakeSense atLeast atMost && around.allowsRepeated atLeast inner &&
        listAccepted around none inner
    | _ => true

/-- Whether parts in a row obey the rules; `previous` is the part before them. -/
def listAccepted (outer : Around) (previous : Option Token) : List Token → Bool
  | [] => true
  | token :: rest =>
    let around : Around := ⟨previous.or outer.left, rest.head?.or outer.right⟩
    !(previous.any Token.isBoundary && token.isBoundary) &&
      Token.isAccepted around token && listAccepted outer (some token) rest

/-- Whether branches obey the rules, and may stand where they do. -/
def branchesAccepted (around : Around) : List (List Token) → Bool
  | [] => true
  | branch :: rest =>
    around.allowsBranch branch && listAccepted around none branch && branchesAccepted around rest

end

/-- Whether the parts of a glob obey all rules. -/
def isAccepted (tokens : List Token) : Bool := listAccepted ⟨none, none⟩ none tokens

end MediaCatalog.Glob
