import MediaCatalog.Proofs.Store.Table
import MediaCatalog.Scan.Record

/-!
# Completing a set

A set's record is only ever completed: fields that it has keep their values, and whoever completes
it makes sure that it has a name.

* `Entry.complete`: what an entry is after it was completed field by field (`SetRecord.complete_eq`).
* `SetRecord.Completes`: a record comes from another one by completion.
* **Main result** (`SetRecord.enrich_outcome`): completing a record fails exactly if the backend is
  asked to describe the set and cannot; otherwise the record is completed and named, and it needs to
  be saved if anything changed.
-/

namespace MediaCatalog

/-- The entry with those of the fields that it lacks. -/
def Entry.complete (e : Entry) (fields : Fields) : Entry := { e with fields := fields.union e.fields }

/-- Completing an entry gives it the fields that it lacks. -/
theorem Entry.get?_complete (e : Entry) (fields : Fields) (field : String) :
    (e.complete fields).get? field = (e.get? field).or (fields.get? field) :=
  Dict.get?_union fields e.fields field

/-- An entry that has all of the fields is complete. -/
theorem Entry.complete_eq_self {e : Entry} {fields : Fields} (h : ∀ field ∈ fields.keys, e.contains field = true) :
    e.complete fields = e := by
  have hfields : fields.union e.fields = e.fields := by
    apply Dict.ext
    intro field
    rw [Dict.get?_union]
    cases hvalue : e.fields.get? field with
    | some value => rfl
    | none =>
      cases hadded : fields.get? field with
      | none => rfl
      | some value =>
        have hkey : field ∈ fields.keys := List.mem_map_of_mem (f := Prod.fst) (Dict.mem_toList_iff.mpr hadded)
        have hcontains := h field hkey
        unfold Entry.contains Dict.contains at hcontains
        rw [hvalue] at hcontains
        cases hcontains
  unfold Entry.complete
  rw [hfields]

namespace SetRecord

/-! ### Field by field -/

/-- Completing a record changes nothing but the fields of its entry. -/
theorem completeFrom_same (changed : Bool) (r : SetRecord) (pairs : List (String × String)) :
    (completeFrom changed r pairs).2 = { r with entry := ⟨r.entry.key, (completeFrom changed r pairs).2.entry.fields⟩ } := by
  induction pairs generalizing changed r with
  | nil => rfl
  | cons pair rest ih => exact ih _ (r.completeField pair.1 pair.2).2

/-- After a record was completed field by field, it has the fields that it had and those that it lacked. -/
theorem get?_completeFrom (changed : Bool) (r : SetRecord) (pairs : List (String × String)) (field : String) :
    (completeFrom changed r pairs).2.entry.get? field = (r.entry.get? field).or (Pairs.get? field pairs) := by
  induction pairs generalizing changed r with
  | nil => exact Option.or_none.symm
  | cons pair rest ih =>
    obtain ⟨first, value⟩ := pair
    have hfirst : (r.completeField first value).2.entry.get? field =
        if first = field then some ((r.entry.get? first).getD value) else r.entry.get? field :=
      Dict.get?_insertIfNew r.entry.fields first field value
    rw [completeFrom, ih, hfirst, Pairs.get?]
    split
    case isTrue hsame =>
      subst hsame
      cases r.entry.get? first <;> rfl
    case isFalse => rfl

/-- Something has changed if it had before, or if the record lacked one of the fields. -/
theorem completeFrom_changed (changed : Bool) (r : SetRecord) (pairs : List (String × String)) :
    (completeFrom changed r pairs).1 = (changed || pairs.any fun pair => !r.entry.contains pair.1) := by
  induction pairs generalizing changed r with
  | nil => exact (Bool.or_false changed).symm
  | cons pair rest ih =>
    obtain ⟨first, value⟩ := pair
    rw [completeFrom, ih, List.any_cons, Bool.or_assoc]
    cases hfirst : r.entry.contains first with
    | false => simp [completeField, hfirst]
    | true =>
      -- nothing is set
      have hsame : (r.completeField first value).2 = r := by
        unfold Entry.contains at hfirst
        simp [completeField, Entry.insertIfNew, Dict.insertIfNew, hfirst]
      rw [hsame]
      simp [completeField, hfirst]

/-- **Completing a record field by field** gives it the fields that it lacks, and tells whether there are any. -/
theorem complete_eq (r : SetRecord) (fields : Fields) :
    r.complete fields =
      (fields.keys.any fun field => !r.entry.contains field, { r with entry := r.entry.complete fields }) := by
  have hfields : (completeFrom false r fields.toList).2.entry.fields = fields.union r.entry.fields := by
    apply Dict.ext
    intro field
    rw [Dict.get?_union]
    exact get?_completeFrom false r fields.toList field
  apply Prod.ext
  · rw [complete, completeFrom_changed, Bool.false_or, Dict.keys, List.any_map]
    rfl
  · rw [complete, completeFrom_same, hfields]
    rfl

/-- A record that is completed by a description is then completed by its name. -/
theorem completeDescribed_eq (r : SetRecord) (description : Fields) :
    r.completeDescribed description =
      ((r.complete description).1 || ((r.complete description).2.complete (Dict.empty.insert nameField r.name)).1,
        ((r.complete description).2.complete (Dict.empty.insert nameField r.name)).2) := by
  have hname : (r.complete description).2.name = r.name := by rw [complete_eq]
  have hfield : ∀ (r : SetRecord) value, r.completeField nameField value = r.complete (Dict.empty.insert nameField value) :=
    fun r value => Prod.ext (Bool.false_or _).symm rfl
  unfold completeDescribed
  dsimp only
  rw [hfield, hname]

/-! ### Completion -/

/-- A record comes from another one by completion; where nothing changed, it is the same. -/
structure Completes (before : SetRecord) (changed : Bool) (after : SetRecord) : Prop where
  key : after.entry.key = before.entry.key
  kind : after.kind = before.kind
  name : after.name = before.name
  kept : ∀ field value, before.entry.get? field = some value → after.entry.get? field = some value
  unchanged : changed = false → after.entry = before.entry

/-- One completion after the other. -/
theorem Completes.trans {a b c : SetRecord} {changed changed' : Bool} (h : a.Completes changed b)
    (h' : b.Completes changed' c) : a.Completes (changed || changed') c where
  key := h'.key.trans h.key
  kind := h'.kind.trans h.kind
  name := h'.name.trans h.name
  kept field value hvalue := h'.kept field value (h.kept field value hvalue)
  unchanged hboth := by
    rw [Bool.or_eq_false_iff] at hboth
    rw [h'.unchanged hboth.2, h.unchanged hboth.1]

/-- A field that a record has is not lost. -/
theorem Completes.contains {a b : SetRecord} {changed : Bool} (h : a.Completes changed b) {field : String}
    (hfield : a.entry.contains field = true) : b.entry.contains field = true := by
  obtain ⟨value, hvalue⟩ := Option.isSome_iff_exists.mp hfield
  exact Option.isSome_iff_exists.mpr ⟨value, h.kept field value hvalue⟩

/-- Completing a record by fields. -/
theorem completes_complete (r : SetRecord) (fields : Fields) :
    r.Completes (r.complete fields).1 (r.complete fields).2 := by
  rw [complete_eq]
  refine ⟨rfl, rfl, rfl, ?_, ?_⟩
  · intro field value hvalue
    rw [Entry.get?_complete, hvalue]
    rfl
  · intro hsame
    apply Entry.complete_eq_self
    intro field hfield
    have hall := List.any_eq_false.mp hsame field hfield
    simpa using hall

/-- Completing a record by a description gives it its name. -/
theorem contains_completeDescribed (r : SetRecord) (description : Fields) :
    (r.completeDescribed description).2.entry.contains nameField = true := by
  have hget : (r.completeDescribed description).2.entry.get? nameField =
      ((r.complete description).2.entry.get? nameField).or (some r.name) := by
    rw [completeDescribed_eq, (r.complete description).2.complete_eq, Entry.get?_complete]
    exact congrArg _ (Dict.get?_insert_self Dict.empty nameField r.name)
  unfold Entry.contains Dict.contains
  unfold Entry.get? at hget
  rw [hget]
  exact Option.isSome_or.trans (Bool.or_true _)

/-- **Completing a set** fails exactly if the set has to be described and the backend cannot describe
it. Otherwise the record is completed and named. -/
theorem enrich_outcome (r : SetRecord) (backend : Backend) (association : SetAssociation) :
    (r.isNew = true ∧ ∃ cause, backend.describe r.kind r.name = .error cause ∧
        r.enrich backend association = .error (.above (.backend backend.name) cause)) ∨
      ∃ changed after, r.enrich backend association = .ok (changed, after) ∧ r.Completes changed after ∧
        after.entry.contains nameField = true ∧
          (r.isNew = true → ∃ description, backend.describe r.kind r.name = .ok description) := by
  unfold enrich
  cases hnew : r.isNew with
  | false =>
    have hnamed : r.entry.contains nameField = true := by simpa [isNew] using hnew
    have hcompletes := r.completes_complete association.properties
    exact .inr ⟨_, _, rfl, hcompletes, hcompletes.contains hnamed, nofun⟩
  | true =>
    cases hdescribe : backend.describe r.kind r.name with
    | error cause => exact .inl ⟨rfl, cause, rfl, rfl⟩
    | ok description =>
      have hdescribed : r.Completes (r.completeDescribed description).1 (r.completeDescribed description).2 := by
        rw [completeDescribed_eq]
        exact (r.completes_complete description).trans
          ((r.complete description).2.completes_complete (Dict.empty.insert nameField r.name))
      have hassociated := (r.completeDescribed description).2.completes_complete association.properties
      have hnamed := r.contains_completeDescribed description
      exact .inr ⟨_, _, rfl, hdescribed.trans hassociated, hassociated.contains hnamed, fun _ => ⟨description, rfl⟩⟩

end SetRecord

end MediaCatalog
