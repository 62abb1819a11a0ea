/-!
# Syntax trees of regular expressions

The tree that is read from the text of a regular expression. Flags are still in place as
directives; which characters a class has and what an assertion tests depend on the flags in force,
and are settled when the tree is given its meaning.

* `SetExpr`, `Tree`: the trees of bracketed classes and of expressions.
* `Tree.nesting`: how deeply constructs are nested, which is limited.
-/

namespace MediaCatalog.Regex

/-- The flags that an expression may switch. -/
inductive Flag where
  /-- `i`: letters match their case variants. -/
  | ignoreCase
  /-- `m`: `^` and `$` match at line ends. -/
  | multiLine
  /-- `s`: the dot matches line feeds. -/
  | dotAll
  /-- `U`: greedy and lazy repetition are exchanged. -/
  | swapGreed
  /-- `u`: classes and case variants are those of Unicode. -/
  | unicode
  /-- `R`: a carriage return ends a line too. -/
  | crlf
  /-- `x`: blanks and comments in the expression are skipped. -/
  | verbose
  deriving DecidableEq, Repr

/-- The flags set and cleared by one directive. -/
structure FlagChange where
  on : List Flag
  off : List Flag
  deriving Repr

/-- What a directive says about one flag, if anything. -/
def FlagChange.state? (change : FlagChange) (flag : Flag) : Option Bool :=
  if flag ∈ change.on then some true else if flag ∈ change.off then some false else none

/-- A character, and whether it was written as a byte, `\xHH`. -/
structure Literal where
  char : Char
  asByte : Bool
  deriving Repr

/-- The classes written with one letter: `\d`, `\s`, `\w`. -/
inductive ShortClass where
  | digit
  | space
  | word
  deriving DecidableEq, Repr

/-- The classes written as `[:name:]` inside brackets. -/
inductive PosixClass where
  | alnum | alpha | ascii | blank | cntrl | digit | graph | lower | print | punct | space | upper
  | word | xdigit
  deriving DecidableEq, Repr

/-- What follows `\p`: one name, or a property's name with a value. -/
inductive PropertyQuery where
  | named (name : List Char)
  | valued (property value : List Char)
  deriving Repr

/-- A class with a name of its own, possibly negated. -/
inductive NamedClass where
  | short (kind : ShortClass) (negated : Bool)
  | posix (kind : PosixClass) (negated : Bool)
  | property (query : PropertyQuery) (negated : Bool)
  deriving Repr

/-- The operators between sets inside brackets. -/
inductive SetOperator where
  /-- `&&` -/
  | inter
  /-- `--` -/
  | diff
  /-- `~~` -/
  | symmDiff
  deriving DecidableEq, Repr

/-- A set of characters as written inside brackets. -/
inductive SetExpr where
  | none
  | range (first last : Literal)
  | named (name : NamedClass)
  | union (a b : SetExpr)
  | bracketed (negated : Bool) (inner : SetExpr)
  | combined (op : SetOperator) (a b : SetExpr)
  deriving Repr

/-- Assertions about the position in the text. -/
inductive Assertion where
  /-- `^` -/
  | lineStart
  /-- `$` -/
  | lineEnd
  /-- `\A` -/
  | textStart
  /-- `\z` -/
  | textEnd
  /-- `\b` -/
  | wordBoundary
  /-- `\B` -/
  | notWordBoundary
  /-- `\b` followed by `start` in braces, or `\<` -/
  | wordStart
  /-- `\b` followed by `end` in braces, or `\>` -/
  | wordEnd
  /-- `\b` followed by `start-half` in braces -/
  | wordStartHalf
  /-- `\b` followed by `end-half` in braces -/
  | wordEndHalf
  deriving DecidableEq, Repr

/-- The tree of a regular expression. Greedy and lazy repetition are not told apart: they choose
between matches, not whether there is one. -/
inductive Tree where
  | empty
  | flags (change : FlagChange)
  | literal (l : Literal)
  | dot
  | assertion (a : Assertion)
  | set (s : SetExpr)
  | repeated (atLeast : Nat) (atMost : Option Nat) (inner : Tree)
  | group (captures : Bool) (change : FlagChange) (inner : Tree)
  | concat (a b : Tree)
  | alternation (a b : Tree)
  deriving Repr

/-- How deeply brackets are nested in a set. -/
def SetExpr.nesting (inUnion : Bool) : SetExpr → Nat
  | none => 0
  | range _ _ => 0
  | named _ => 0
  | union a b => (if inUnion then 0 else 1) + max (a.nesting true) (b.nesting true)
  | bracketed _ inner => 1 + inner.nesting false
  | combined _ a b => 1 + max (a.nesting false) (b.nesting false)

/-- The two chains whose links count as one level of nesting. -/
inductive Chain where
  | concat
  | alternation
  deriving DecidableEq

/-- How deeply constructs are nested in an expression, below a chain of one kind. -/
def Tree.nesting (inside : Option Chain) : Tree → Nat
  | empty => 0
  | flags _ => 0
  | literal _ => 0
  | dot => 0
  | assertion _ => 0
  | set s => s.nesting false
  | repeated _ _ inner => 1 + inner.nesting Option.none
  | group _ _ inner => 1 + inner.nesting Option.none
  | concat a b =>
    (if inside = some Chain.concat then 0 else 1) +
      max (a.nesting (some Chain.concat)) (b.nesting (some Chain.concat))
  | alternation a b =>
    (if inside = some Chain.alternation then 0 else 1) +
      max (a.nesting (some Chain.alternation)) (b.nesting (some Chain.alternation))

/-- The concatenation of some expressions. -/
def Tree.concatAll : List Tree → Tree
  | [] => empty
  | [a] => a
  | a :: rest => concat a (concatAll rest)

/-- The alternation of some expressions. -/
def Tree.alternationAll : List Tree → Tree
  | [] => empty
  | [a] => a
  | a :: rest => alternation a (alternationAll rest)

end MediaCatalog.Regex
