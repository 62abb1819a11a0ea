import MediaCatalog.Proofs.Toml.Scalar
import MediaCatalog.Proofs.Toml.Table

/-!
# What is read is well formed

* `onlyFinds_readScalar`, `onlyFinds_readValue`: the values that are read.
* **Main result** (`wellFormed_of_read?`): the entries of a document.
-/

namespace MediaCatalog.Toml

open Text Text.Reader

variable {s left : List Char} {v : Value}

/-! ## Scalars -/

/-- Numbers are well formed. -/
theorem wellFormed_of_isNumber (h : IsNumber v) : v.WellFormed := by
  cases v with
  | integer n => exact .integer n
  | float x => exact .float x
  | _ => exact absurd h id

/-- An integer within the bounds is a number. -/
theorem onlyFinds_fitting (n : Int) : OnlyFinds IsNumber (fitting n) := by
  unfold fitting
  split
  · exact onlyFinds_pure True.intro
  · exact onlyFinds_failure

/-- A word that stands for a well-formed value is read as one. -/
theorem onlyFinds_readWord {word : String} (h : v.WellFormed) : OnlyFinds Value.WellFormed (readWord word v) :=
  onlyFinds_bind fun _ => onlyFinds_pure h

/-- Digits are read as a number, with or without a point and an exponent. -/
theorem onlyFinds_readDecimal (negative : Bool) : OnlyFinds IsNumber (readDecimal negative) := by
  refine onlyFinds_bind fun whole => ?_
  have hnever : OnlyFinds (fun _ : Unit => False) failure := onlyFinds_failure
  dsimp only
  refine OnlyFinds.ite (hnever.bind fun _ h => h.elim) ?_
  refine onlyFinds_bind fun fraction => onlyFinds_bind fun exponent => OnlyFinds.ite (onlyFinds_fitting _) ?_
  split
  · exact OnlyFinds.ite onlyFinds_failure (onlyFinds_pure True.intro)
  · exact onlyFinds_failure

/-- Numbers of every base are well formed. -/
theorem onlyFinds_readNumber : OnlyFinds Value.WellFormed readNumber := by
  have hbased (base : Nat) (digit : Char → Bool) : OnlyFinds Value.WellFormed (readBased base digit) :=
    onlyFinds_bind fun digits s v t h => wellFormed_of_isNumber (onlyFinds_fitting _ s v t h)
  refine onlyFinds_bind fun text => ?_
  split
  · exact onlyFinds_bind fun _ => hbased _ _
  · exact onlyFinds_bind fun _ => hbased _ _
  · exact onlyFinds_bind fun _ => hbased _ _
  · refine onlyFinds_bind fun sign => onlyFinds_bind fun head => ?_
    split
    · exact onlyFinds_readWord (.float _)
    · exact onlyFinds_readWord (.float _)
    · exact fun s v t h => wellFormed_of_isNumber (onlyFinds_readDecimal _ s v t h)

/-- **Scalars that are read** are well formed. -/
theorem onlyFinds_readScalar : OnlyFinds Value.WellFormed readScalar := by
  have htext : OnlyFinds Value.WellFormed (Value.text <$> readText) :=
    OnlyFinds.map (Q := fun _ => True) (fun _ _ _ _ => True.intro) fun s _ => .text s
  refine onlyFinds_bind fun text => ?_
  split
  · exact htext
  · exact htext
  · exact onlyFinds_readWord (.bool true)
  · exact onlyFinds_readWord (.bool false)
  · split
    · exact OnlyFinds.map (Q := Moment.Valid) (fun _ _ _ h => Moment.valid_of_read h) fun m hm => .moment hm
    · exact onlyFinds_readNumber

/-! ## Values -/

variable {value : Reader Value}

/-- The items of a list are well formed if each is. -/
theorem onlyFinds_readItems (h : OnlyFinds Value.WellFormed value) :
    OnlyFinds (fun items => ∀ v ∈ items, v.WellFormed) (readItems value) := by
  have hitem : OnlyFinds Value.WellFormed (do readGap; let v ← value; readGap; return v) :=
    onlyFinds_bind fun _ => h.bind fun v hv => onlyFinds_bind fun _ => onlyFinds_pure hv
  refine (hitem.separated _).bind fun items hitems => ?_
  split
  · exact onlyFinds_bind fun _ => onlyFinds_bind fun _ => onlyFinds_bind fun _ => onlyFinds_pure hitems
  · exact onlyFinds_bind fun _ => onlyFinds_bind fun _ => onlyFinds_pure hitems

/-- An entry on one line has a well-formed value. -/
theorem onlyFinds_readPair (h : OnlyFinds Value.WellFormed value) :
    OnlyFinds (fun pair : Path × Value => pair.2.WellFormed) (readPair value) :=
  onlyFinds_bind fun _ => onlyFinds_bind fun _ => onlyFinds_bind fun _ => h.bind fun _ hv =>
    onlyFinds_bind fun _ => onlyFinds_pure hv

/-- The entries of a table on one line have well-formed values. -/
theorem onlyFinds_readPairs (h : OnlyFinds Value.WellFormed value) :
    OnlyFinds (fun pairs => ∀ pair ∈ pairs, pair.2.WellFormed) (readPairs value) :=
  ((onlyFinds_readPair h).separated _).bind fun _ hpairs => onlyFinds_bind fun _ => onlyFinds_bind fun _ => onlyFinds_pure hpairs

/-- **Values that are read** are well formed, to whatever depth they are read. -/
theorem onlyFinds_readValue (depth : Nat) : OnlyFinds Value.WellFormed (readValue depth) := by
  induction depth with
  | zero =>
    refine onlyFinds_bind fun head => ?_
    split
    · exact onlyFinds_failure
    · exact onlyFinds_failure
    · exact onlyFinds_readScalar
  | succ depth ih =>
    refine onlyFinds_bind fun head => ?_
    split
    · exact onlyFinds_bind fun _ => (onlyFinds_readItems ih).map fun items hitems => .list hitems
    · refine onlyFinds_bind fun _ => (onlyFinds_readPairs ih).bind fun pairs hpairs => ?_
      split
      · next entries hentries => exact onlyFinds_pure (wellFormed_of_entriesOfPairs? hpairs hentries)
      · exact onlyFinds_failure
    · exact onlyFinds_readScalar

/-! ## Documents -/

/-- A statement has a well-formed value, if it has one. -/
theorem onlyFinds_readStatement : OnlyFinds (fun found => ∀ s ∈ found, Statement.WellFormed s) readStatement := by
  have hnone : ∀ s ∈ (none : Option Statement), Statement.WellFormed s := fun s hs => by cases hs
  refine onlyFinds_bind fun _ => onlyFinds_bind fun text => ?_
  split
  · exact onlyFinds_failure
  · exact onlyFinds_bind fun _ => onlyFinds_pure hnone
  · exact onlyFinds_bind fun _ => onlyFinds_pure hnone
  · exact onlyFinds_bind fun _ => onlyFinds_pure hnone
  · refine onlyFinds_bind fun _ => onlyFinds_bind fun path => onlyFinds_bind fun _ => onlyFinds_bind fun _ =>
      onlyFinds_pure fun s hs => ?_
    cases hs
    exact True.intro
  · refine onlyFinds_bind fun _ => onlyFinds_bind fun path => onlyFinds_bind fun _ => onlyFinds_bind fun _ =>
      onlyFinds_pure fun s hs => ?_
    cases hs
    exact True.intro
  · refine (onlyFinds_readPair (onlyFinds_readValue _)).bind fun pair hpair => onlyFinds_bind fun _ =>
      onlyFinds_pure fun s hs => ?_
    cases hs
    exact hpair

/-- **The entries of a document** are well formed. -/
theorem wellFormed_of_read? {text : String} {entries : Entries} (h : read? text = some entries) :
    (Value.table entries).WellFormed := by
  obtain ⟨statements, hstatements, hentries⟩ := Option.bind_eq_some_iff.mp h
  have hread : OnlyFinds (fun statements => ∀ s ∈ statements, Statement.WellFormed s)
      (do
        let lines ← Reader.repeated readStatement
        readSpaces
        return lines.filterMap id) := by
    refine onlyFinds_readStatement.repeated.bind fun lines hlines => onlyFinds_bind fun _ => onlyFinds_pure fun s hs => ?_
    obtain ⟨line, hline, hs⟩ := List.mem_filterMap.mp hs
    exact hlines line hline s hs
  exact wellFormed_of_entriesOf? (hread.whole? hstatements) hentries

end MediaCatalog.Toml
