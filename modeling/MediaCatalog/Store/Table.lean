import MediaCatalog.Record.Entry

/-!
# The table of fields

The store keeps one row per field of an entry, in ascending order of key and field name. An entry
exists for as long as it has a row.

* `Table.upsert`, `Table.write`: one field, or all fields of an entry, set to their values.
* `Table.fieldsOf`, `Table.entries`: the entries that the rows make up.
-/

namespace MediaCatalog

/-- One field of one entry. -/
structure Row where
  key : String
  field : String
  value : String
  deriving DecidableEq, Repr

/-- The order of rows: by key, then by field name. -/
def Row.before (a b : Row) : Prop := a.key < b.key ∨ (a.key = b.key ∧ a.field < b.field)

/-- Which of two rows comes first can be decided. -/
instance (a b : Row) : Decidable (a.before b) := by
  unfold Row.before
  infer_instance

/-- The order of rows is transitive. -/
theorem Row.before_trans {a b c : Row} (h₁ : a.before b) (h₂ : b.before c) : a.before c := by
  rcases h₁ with h₁ | ⟨e₁, h₁⟩ <;> rcases h₂ with h₂ | ⟨e₂, h₂⟩
  · exact .inl (String.lt_trans h₁ h₂)
  · exact .inl (e₂ ▸ h₁)
  · exact .inl (e₁ ▸ h₂)
  · exact .inr ⟨e₁.trans e₂, String.lt_trans h₁ h₂⟩

/-- A row that neither precedes nor concerns the same field as another follows it. -/
theorem Row.before_of_not {a b : Row} (h : ¬a.before b)
    (hne : ¬(b.key = a.key ∧ b.field = a.field)) : b.before a := by
  unfold before at h ⊢
  by_cases hk : b.key = a.key
  · refine .inr ⟨hk, Pairs.lt_of_not_lt_of_ne (fun hf => h (.inr ⟨hk.symm, hf⟩)) fun hf => hne ⟨hk, hf⟩⟩
  · exact .inl (Pairs.lt_of_not_lt_of_ne (fun hf => h (.inl hf)) hk)

namespace Rows

/-- The rows with one field set; the value it had is replaced. -/
def upsert (row : Row) : List Row → List Row
  | [] => [row]
  | r :: rest =>
    if row.before r then row :: r :: rest
    else if r.key = row.key ∧ r.field = row.field then row :: rest
    else r :: upsert row rest

/-- After a row was written, the rows are that row and others of before. -/
theorem mem_upsert {row r : Row} {rows : List Row} (h : r ∈ upsert row rows) : r = row ∨ r ∈ rows := by
  induction rows with
  | nil => simpa [upsert] using h
  | cons head rest ih =>
    unfold upsert at h
    split at h
    · simpa using h
    · split at h
      · rcases List.mem_cons.mp h with rfl | h
        · exact .inl rfl
        · exact .inr (List.mem_cons_of_mem _ h)
      · rcases List.mem_cons.mp h with rfl | h
        · exact .inr List.mem_cons_self
        · exact (ih h).imp_right (List.mem_cons_of_mem _)

/-- **Writing a row** keeps the rows in order. -/
theorem ascending_upsert (row : Row) {rows : List Row} (h : rows.Pairwise Row.before) :
    (upsert row rows).Pairwise Row.before := by
  induction rows with
  | nil => exact List.pairwise_singleton _ _
  | cons head rest ih =>
    have ⟨hhead, hrest⟩ := List.pairwise_cons.mp h
    unfold upsert
    split
    case isTrue hlt =>
      refine List.pairwise_cons.mpr ⟨fun r hr => ?_, h⟩
      rcases List.mem_cons.mp hr with rfl | hr
      · exact hlt
      · exact Row.before_trans hlt (hhead r hr)
    case isFalse hnlt =>
      split
      case isTrue heq =>
        refine List.pairwise_cons.mpr ⟨fun r hr => ?_, hrest⟩
        have := hhead r hr
        unfold Row.before at this ⊢
        rw [heq.1, heq.2] at this
        exact this
      case isFalse hne =>
        refine List.pairwise_cons.mpr ⟨fun r hr => ?_, ih hrest⟩
        rcases mem_upsert hr with rfl | hr
        · exact Row.before_of_not hnlt hne
        · exact hhead r hr

/-- The entries that ascending rows make up: rows with one key in a row belong together. -/
def collect : List Row → List Entry
  | [] => []
  | r :: rest =>
    match collect rest with
    | e :: es =>
      if e.key.text = r.key then { e with fields := e.fields.insert r.field r.value } :: es
      else ⟨⟨r.key⟩, Dict.empty.insert r.field r.value⟩ :: e :: es
    | [] => [⟨⟨r.key⟩, Dict.empty.insert r.field r.value⟩]

end Rows

/-- The rows of a store. -/
structure Table where
  rows : List Row
  ascending : rows.Pairwise Row.before

namespace Table

/-- The table without rows. -/
def empty : Table := ⟨[], List.Pairwise.nil⟩

/-- The table with one field set. -/
def upsert (t : Table) (row : Row) : Table := ⟨Rows.upsert row t.rows, Rows.ascending_upsert row t.ascending⟩

/-- The table with all fields of an entry set; its other fields stay as they are. -/
def write (t : Table) (e : Entry) : Table :=
  e.fields.toList.foldl (fun t field => t.upsert ⟨e.key.text, field.1, field.2⟩) t

/-- The fields stored under a key. -/
def fieldsOf (t : Table) (key : Key) : Fields where
  toList := (t.rows.filter fun r => r.key = key.text).map fun r => (r.field, r.value)
  ascending := by
    refine List.pairwise_map.mpr (List.Pairwise.imp_of_mem ?_ (t.ascending.filter _))
    intro a b ha hb hab
    have ha := (List.mem_filter.mp ha).2
    have hb := (List.mem_filter.mp hb).2
    simp only [decide_eq_true_eq] at ha hb
    rcases hab with h | ⟨_, h⟩
    · exact absurd (ha ▸ hb ▸ h) (String.lt_irrefl _)
    · exact h

/-- The entry stored under a key, blank if there is none. -/
def entryFor (t : Table) (key : Key) : Entry := ⟨key, t.fieldsOf key⟩

/-- The entries of the table in ascending key order. -/
def entries (t : Table) : List Entry := Rows.collect t.rows

/-- The number of different keys in the rows. -/
def count (t : Table) : Nat := (t.rows.map (·.key)).eraseDups.length

end Table

end MediaCatalog
