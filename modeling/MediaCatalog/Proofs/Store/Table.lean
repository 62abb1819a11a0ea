import Mathlib.Data.List.Sort
import Mathlib.Data.Set.Card
import MediaCatalog.Store.Table

/-!
# What the rows of a table say

A table is read through the fields stored under each key. This file says what every operation on
rows does to that reading, and what the entries put together from rows are.

* **Writing** (`Table.fieldsOf_upsert`, `Table.fieldsOf_write`): writing an entry overlays the
  fields under its key by the entry's and leaves every other key alone.
* **Tables are determined by their reading** (`Table.ext_of_fieldsOf`).
* **Entries** (`Rows.collected_collect`, `Table.mem_entries_iff`): the rows put together are the
  stored entries in ascending key order, each once and with all of its fields.
* **Counting** (`Table.encard_stored`): the different keys among the rows are the keys with a field.
-/

namespace MediaCatalog

/-- Keys with the same text are the same. -/
theorem Key.eq_of_text {a b : Key} (h : a.text = b.text) : a = b := by
  cases a
  cases b
  exact congrArg Key.mk h

/-! ## Rows -/

namespace Row

/-- No row stands before itself. -/
theorem not_before_self (r : Row) : ¬r.before r := by
  rintro (h | ⟨-, h⟩)
  · exact String.lt_irrefl _ h
  · exact String.lt_irrefl _ h

/-- Two rows do not stand before each other. -/
theorem before_asymm {a b : Row} (h : a.before b) : ¬b.before a :=
  fun h' => not_before_self a (before_trans h h')

/-- Rows that concern the same field of the same key are not before each other. -/
theorem not_before_of_same {a b : Row} (hk : a.key = b.key) (hf : a.field = b.field) : ¬a.before b := by
  rintro (h | ⟨-, h⟩)
  · exact String.lt_irrefl _ (hk ▸ h)
  · exact String.lt_irrefl _ (hf ▸ h)

/-- The key of an earlier row is not greater. -/
theorem key_le_of_before {a b : Row} (h : a.before b) : a.key = b.key ∨ a.key < b.key := by
  rcases h with h | ⟨h, -⟩
  · exact .inr h
  · exact .inl h

end Row

namespace Rows

/-- Among ascending rows, setting a field replaces its row and keeps the others. -/
theorem mem_upsert_iff {row r : Row} {rows : List Row} (hrows : rows.Pairwise Row.before) :
    r ∈ upsert row rows ↔ r = row ∨ (r ∈ rows ∧ ¬(r.key = row.key ∧ r.field = row.field)) := by
  induction rows with
  | nil => simp [upsert]
  | cons head rest ih =>
    obtain ⟨hhead, hrest⟩ := List.pairwise_cons.mp hrows
    -- a row of the same field as `row` stands neither before nor after it
    have apart : ∀ x ∈ rest, row.before head → ¬(x.key = row.key ∧ x.field = row.field) := by
      rintro x hx hlt ⟨hk, hf⟩
      exact Row.not_before_of_same hk.symm hf.symm (Row.before_trans hlt (hhead x hx))
    unfold upsert
    split
    case isTrue hlt =>
      have hne : ¬(head.key = row.key ∧ head.field = row.field) :=
        fun h => Row.not_before_of_same h.1.symm h.2.symm hlt
      simp only [List.mem_cons]
      constructor
      · rintro (rfl | rfl | hr)
        · exact .inl rfl
        · exact .inr ⟨.inl rfl, hne⟩
        · exact .inr ⟨.inr hr, apart r hr hlt⟩
      · rintro (rfl | ⟨hr, -⟩)
        · exact .inl rfl
        · exact .inr hr
    case isFalse hnlt =>
      split
      case isTrue heq =>
        have hrest' : ∀ x ∈ rest, ¬(x.key = row.key ∧ x.field = row.field) := by
          rintro x hx ⟨hk, hf⟩
          exact Row.not_before_of_same (heq.1.trans hk.symm) (heq.2.trans hf.symm) (hhead x hx)
        simp only [List.mem_cons]
        constructor
        · rintro (rfl | hr)
          · exact .inl rfl
          · exact .inr ⟨.inr hr, hrest' r hr⟩
        · rintro (rfl | ⟨rfl | hr, hne⟩)
          · exact .inl rfl
          · exact absurd heq hne
          · exact .inr hr
      case isFalse hne =>
        simp only [List.mem_cons, ih hrest]
        constructor
        · rintro (rfl | rfl | ⟨hr, h⟩)
          · exact .inr ⟨.inl rfl, hne⟩
          · exact .inl rfl
          · exact .inr ⟨.inr hr, h⟩
        · rintro (rfl | ⟨rfl | hr, h⟩)
          · exact .inr (.inl rfl)
          · exact .inl rfl
          · exact .inr (.inr ⟨hr, h⟩)

/-! ## Entries put together from rows -/

/-- What it means that entries, in ascending key order, hold the fields of some rows and nothing
else. -/
structure Collected (rows : List Row) (entries : List Entry) : Prop where
  ascending : entries.Pairwise fun a b => a.key.text < b.key.text
  exists_row : ∀ e ∈ entries, ∃ r ∈ rows, r.key = e.key.text
  exists_entry : ∀ r ∈ rows, ∃ e ∈ entries, e.key.text = r.key
  get?_iff : ∀ e ∈ entries, ∀ field value, e.get? field = some value ↔ ⟨e.key.text, field, value⟩ ∈ rows

/-- One more row in front either joins the first entry or begins an entry of its own. -/
theorem collect_cons (r : Row) (rest : List Row) :
    (∃ e es, collect rest = e :: es ∧ e.key.text = r.key ∧
      collect (r :: rest) = e.insert r.field r.value :: es) ∨
    ((∀ e es, collect rest = e :: es → e.key.text ≠ r.key) ∧
      collect (r :: rest) = (Entry.blank ⟨r.key⟩).insert r.field r.value :: collect rest) := by
  cases h : collect rest with
  | nil =>
    refine .inr ⟨fun _ _ he => absurd he (by simp), ?_⟩
    rw [collect, h]
    rfl
  | cons e es =>
    by_cases hk : e.key.text = r.key
    · refine .inl ⟨e, es, rfl, hk, ?_⟩
      rw [collect, h]
      exact if_pos hk
    · refine .inr ⟨fun e' es' he => by cases he; exact hk, ?_⟩
      rw [collect, h]
      exact if_neg hk

/-- A row that joins the first of some entries. -/
theorem Collected.join {r : Row} {rest : List Row} {e : Entry} {es : List Entry}
    (hr : ∀ x ∈ rest, r.before x) (h : Collected rest (e :: es)) (hk : e.key.text = r.key) :
    Collected (r :: rest) (e.insert r.field r.value :: es) := by
  have ⟨hlt, hes⟩ := List.pairwise_cons.mp h.ascending
  refine ⟨List.pairwise_cons.mpr ⟨hlt, hes⟩, ?_, ?_, ?_⟩
  · intro x hx
    rcases List.mem_cons.mp hx with rfl | hx
    · exact ⟨r, List.mem_cons_self, hk.symm⟩
    · obtain ⟨y, hy, hyk⟩ := h.exists_row x (List.mem_cons_of_mem _ hx)
      exact ⟨y, List.mem_cons_of_mem _ hy, hyk⟩
  · intro x hx
    rcases List.mem_cons.mp hx with rfl | hx
    · exact ⟨_, List.mem_cons_self, hk⟩
    · obtain ⟨y, hy, hyk⟩ := h.exists_entry x hx
      rcases List.mem_cons.mp hy with rfl | hy
      · exact ⟨_, List.mem_cons_self, hyk⟩
      · exact ⟨y, List.mem_cons_of_mem _ hy, hyk⟩
  · intro x hx field value
    rcases List.mem_cons.mp hx with rfl | hx
    · have hget := h.get?_iff e List.mem_cons_self field value
      simp only [Entry.get?, Entry.insert, Dict.get?_insert] at hget ⊢
      by_cases hf : r.field = field
      · -- the row in front is the only one of its field
        subst hf
        have hnone : (⟨e.key.text, r.field, value⟩ : Row) ∉ rest := by
          intro hv
          exact absurd (hr _ hv) (Row.not_before_of_same hk.symm rfl)
        rw [if_pos rfl, List.mem_cons]
        constructor
        · intro hv
          cases hv
          exact .inl (by rw [hk])
        · rintro (hv | hv)
          · rw [← congrArg Row.value hv]
          · exact absurd hv hnone
      · rw [if_neg hf, hget, List.mem_cons]
        constructor
        · exact .inr
        · rintro (hv | hv)
          · exact absurd (congrArg Row.field hv).symm hf
          · exact hv
    · rw [h.get?_iff x (List.mem_cons_of_mem _ hx), List.mem_cons]
      constructor
      · exact .inr
      · rintro (hv | hv)
        · have hxk : x.key.text = r.key := congrArg Row.key hv
          have := hlt x hx
          rw [hxk, hk] at this
          exact absurd this (String.lt_irrefl _)
        · exact hv

/-- A row that begins an entry of its own in front of some entries. -/
theorem Collected.begin {r : Row} {rest : List Row} {es : List Entry}
    (hr : ∀ x ∈ rest, r.before x) (h : Collected rest es)
    (hk : ∀ e es', es = e :: es' → e.key.text ≠ r.key) :
    Collected (r :: rest) ((Entry.blank ⟨r.key⟩).insert r.field r.value :: es) := by
  -- the keys of the entries are keys of later rows, and the first of them is another one
  have hlt : ∀ e ∈ es, r.key < e.key.text := by
    intro e he
    obtain ⟨first, es', rfl⟩ : ∃ first es', es = first :: es' := by
      cases es with
      | nil => cases he
      | cons first es' => exact ⟨first, es', rfl⟩
    have hfirst : r.key < first.key.text := by
      obtain ⟨x, hx, hxk⟩ := h.exists_row first List.mem_cons_self
      rcases Row.key_le_of_before (hr x hx) with heq | hlt
      · exact absurd (heq.trans hxk).symm (hk first es' rfl)
      · exact hxk ▸ hlt
    rcases List.mem_cons.mp he with rfl | he
    · exact hfirst
    · exact String.lt_trans hfirst ((List.pairwise_cons.mp h.ascending).1 e he)
  refine ⟨List.pairwise_cons.mpr ⟨hlt, h.ascending⟩, ?_, ?_, ?_⟩
  · intro e he
    rcases List.mem_cons.mp he with rfl | he
    · exact ⟨r, List.mem_cons_self, rfl⟩
    · obtain ⟨x, hx, hxk⟩ := h.exists_row e he
      exact ⟨x, List.mem_cons_of_mem _ hx, hxk⟩
  · intro x hx
    rcases List.mem_cons.mp hx with rfl | hx
    · exact ⟨_, List.mem_cons_self, rfl⟩
    · obtain ⟨e, he, hek⟩ := h.exists_entry x hx
      exact ⟨e, List.mem_cons_of_mem _ he, hek⟩
  · intro e he field value
    rcases List.mem_cons.mp he with rfl | he
    · have hnone : (⟨r.key, field, value⟩ : Row) ∉ rest := by
        intro hv
        obtain ⟨e, he, hek⟩ := h.exists_entry _ hv
        have := hlt e he
        rw [hek] at this
        exact String.lt_irrefl _ this
      simp only [Entry.blank, Entry.get?, Entry.insert, Dict.get?_insert, Dict.get?_empty,
        List.mem_cons]
      by_cases hf : r.field = field
      · subst hf
        rw [if_pos rfl]
        constructor
        · intro hv
          cases hv
          exact .inl rfl
        · rintro (hv | hv)
          · rw [← congrArg Row.value hv]
          · exact absurd hv hnone
      · rw [if_neg hf]
        constructor
        · intro hv
          cases hv
        · rintro (hv | hv)
          · exact absurd (congrArg Row.field hv).symm hf
          · exact absurd hv hnone
    · rw [h.get?_iff e he, List.mem_cons]
      constructor
      · exact .inr
      · rintro (hv | hv)
        · have hek : e.key.text = r.key := congrArg Row.key hv
          exact absurd (hek ▸ hlt e he) (String.lt_irrefl _)
        · exact hv

/-- **The entries of ascending rows.** They stand in ascending key order and hold exactly the
fields of the rows. -/
theorem collected_collect {rows : List Row} (h : rows.Pairwise Row.before) :
    Collected rows (collect rows) := by
  induction rows with
  | nil => exact ⟨List.Pairwise.nil, by simp [collect], by simp, by simp [collect]⟩
  | cons r rest ih =>
    have ⟨hr, hrest⟩ := List.pairwise_cons.mp h
    have hcollected := ih hrest
    rcases collect_cons r rest with ⟨e, es, hes, hk, heq⟩ | ⟨hk, heq⟩
    · rw [heq]
      rw [hes] at hcollected
      exact hcollected.join hr hk
    · rw [heq]
      exact hcollected.begin hr hk

end Rows

/-! ## Reading a table -/

namespace Table

variable {t : Table}

/-- The fields stored under a key are those of its rows. -/
theorem get?_fieldsOf {key : Key} {field value : String} :
    (t.fieldsOf key).get? field = some value ↔ ⟨key.text, field, value⟩ ∈ t.rows := by
  rw [← Dict.mem_toList_iff]
  simp only [fieldsOf, List.mem_map, List.mem_filter, decide_eq_true_eq, Prod.mk.injEq]
  constructor
  · rintro ⟨r, ⟨hr, hk⟩, rfl, rfl⟩
    exact hk ▸ hr
  · intro hr
    exact ⟨_, ⟨hr, rfl⟩, rfl, rfl⟩

/-- A key has fields exactly if some row has that key. -/
theorem fieldsOf_isEmpty_eq_false {key : Key} :
    (t.fieldsOf key).isEmpty = false ↔ ∃ r ∈ t.rows, r.key = key.text := by
  simp only [Dict.isEmpty, fieldsOf, List.isEmpty_eq_false_iff, ne_eq, List.map_eq_nil_iff,
    List.filter_eq_nil_iff, not_forall, decide_eq_true_eq, not_not, exists_prop]

/-- **Tables are determined by their reading.** -/
theorem ext_of_fieldsOf {t u : Table} (h : ∀ key, t.fieldsOf key = u.fieldsOf key) : t = u := by
  have hmem : ∀ r, r ∈ t.rows ↔ r ∈ u.rows := by
    rintro ⟨key, field, value⟩
    have ht := @get?_fieldsOf t ⟨key⟩ field value
    rw [h] at ht
    exact ht.symm.trans get?_fieldsOf
  have hnodup : ∀ v : Table, v.rows.Nodup := by
    intro v
    refine v.ascending.imp ?_
    rintro a b hab rfl
    exact Row.not_before_self _ hab
  have hperm : t.rows.Perm u.rows := (List.perm_ext_iff_of_nodup (hnodup t) (hnodup u)).mpr hmem
  have hrows : t.rows = u.rows :=
    hperm.eq_of_pairwise (fun a b _ _ hab hba => absurd hba (Row.before_asymm hab)) t.ascending u.ascending
  cases t
  cases u
  congr

/-- Setting one field changes that field of that key. -/
theorem fieldsOf_upsert (t : Table) (row : Row) (key : Key) :
    (t.upsert row).fieldsOf key =
      if row.key = key.text then (t.fieldsOf key).insert row.field row.value else t.fieldsOf key := by
  apply Dict.ext
  intro field
  apply Option.ext
  intro value
  rw [get?_fieldsOf]
  have hmem : (⟨key.text, field, value⟩ : Row) ∈ (t.upsert row).rows ↔ _ :=
    Rows.mem_upsert_iff t.ascending
  rw [hmem]
  by_cases hk : row.key = key.text
  · rw [if_pos hk, Dict.get?_insert]
    by_cases hf : row.field = field
    · subst hf
      rw [if_pos rfl, Option.some.injEq]
      constructor
      · rintro (heq | ⟨-, hne⟩)
        · rw [← heq]
        · exact absurd ⟨hk.symm, rfl⟩ hne
      · rintro rfl
        exact .inl (by rw [← hk])
    · rw [if_neg hf, get?_fieldsOf]
      constructor
      · rintro (heq | ⟨hr, -⟩)
        · exact absurd (congrArg Row.field heq).symm hf
        · exact hr
      · intro hr
        exact .inr ⟨hr, fun h => hf h.2.symm⟩
  · rw [if_neg hk, get?_fieldsOf]
    constructor
    · rintro (heq | ⟨hr, -⟩)
      · exact absurd (congrArg Row.key heq).symm hk
      · exact hr
    · intro hr
      exact .inr ⟨hr, fun h => hk h.1.symm⟩

/-- Setting several fields of one key overlays the fields of that key. -/
theorem fieldsOf_foldl_upsert (owner key : Key) (pairs : List (String × String)) (t : Table) :
    (pairs.foldl (fun t field => t.upsert ⟨owner.text, field.1, field.2⟩) t).fieldsOf key =
      if owner = key then (t.fieldsOf key).insertMany pairs else t.fieldsOf key := by
  induction pairs generalizing t with
  | nil => simp [Dict.insertMany]
  | cons pair rest ih =>
    rw [List.foldl_cons, ih, fieldsOf_upsert]
    by_cases h : owner = key
    · subst h
      rw [if_pos rfl, if_pos rfl, if_pos rfl]
      rfl
    · have htext : owner.text ≠ key.text := fun heq => h (Key.eq_of_text heq)
      rw [if_neg h, if_neg h, if_neg htext]

/-- **Writing an entry** overlays the fields under its key by its own and leaves every other key
alone. -/
theorem fieldsOf_write (t : Table) (e : Entry) (key : Key) :
    (t.write e).fieldsOf key =
      if e.key = key then (t.fieldsOf key).union e.fields else t.fieldsOf key :=
  fieldsOf_foldl_upsert e.key key e.fields.toList t

/-- A field that is written is there. -/
theorem contains_fieldsOf_write (t : Table) {e : Entry} {field : String} (h : e.contains field = true) :
    ((t.write e).fieldsOf e.key).contains field = true := by
  obtain ⟨value, hvalue⟩ := Option.isSome_iff_exists.mp h
  have hfield : e.fields.get? field = some value := hvalue
  unfold Dict.contains
  rw [fieldsOf_write, if_pos rfl, Dict.get?_union, hfield]
  rfl

/-- The entries of a table stand in ascending key order. -/
theorem entries_ascending (t : Table) : t.entries.Pairwise fun a b => a.key.text < b.key.text :=
  (Rows.collected_collect t.ascending).ascending

/-- **The entries of a table** are those with a field, each with all fields stored under its key. -/
theorem mem_entries_iff {e : Entry} :
    e ∈ t.entries ↔ e = t.entryFor e.key ∧ e.isBlank = false := by
  have hcollected := Rows.collected_collect t.ascending
  have hstored : ∀ x ∈ t.entries, x = t.entryFor x.key := by
    intro x hx
    have hfields : x.fields = t.fieldsOf x.key := by
      apply Dict.ext
      intro field
      apply Option.ext
      intro value
      exact (hcollected.get?_iff x hx field value).trans get?_fieldsOf.symm
    rw [entryFor, ← hfields]
  constructor
  · intro he
    refine ⟨hstored e he, ?_⟩
    rw [hstored e he]
    exact fieldsOf_isEmpty_eq_false.mpr (hcollected.exists_row e he)
  · rintro ⟨heq, hblank⟩
    rw [heq] at hblank
    obtain ⟨r, hr, hk⟩ := fieldsOf_isEmpty_eq_false.mp hblank
    obtain ⟨x, hx, hxk⟩ := hcollected.exists_entry r hr
    have hkey : x.key = e.key := Key.eq_of_text (hxk.trans hk)
    rw [heq, ← hkey, ← hstored x hx]
    exact hx

/-- No text is left twice after duplicates are removed. -/
theorem nodup_eraseDups (l : List String) : l.eraseDups.Nodup := by
  induction hn : l.length using Nat.strong_induction_on generalizing l with
  | _ n ih =>
    cases l with
    | nil => simp
    | cons a rest =>
      rw [List.eraseDups_cons]
      have hlt : (rest.filter fun b => !b == a).length < n := by
        rw [← hn, List.length_cons]
        exact Nat.lt_succ_of_le (List.length_filter_le _ _)
      refine List.nodup_cons.mpr ⟨?_, ih _ hlt _ rfl⟩
      simp

/-- **The count of a table** is the number of keys under which a field is stored. -/
theorem encard_stored (t : Table) :
    {key : Key | (t.fieldsOf key).isEmpty = false}.encard = t.count := by
  have hset : {key : Key | (t.fieldsOf key).isEmpty = false} =
      (((t.rows.map (·.key)).eraseDups.map Key.mk).toFinset : Set Key) := by
    ext key
    simp only [Set.mem_ofPred_eq, fieldsOf_isEmpty_eq_false, List.coe_toFinset, List.mem_map,
      List.mem_eraseDups]
    constructor
    · rintro ⟨r, hr, hk⟩
      exact ⟨r.key, ⟨r, hr, rfl⟩, by rw [hk]⟩
    · rintro ⟨_, ⟨r, hr, rfl⟩, rfl⟩
      exact ⟨r, hr, rfl⟩
  have hnodup : ((t.rows.map (·.key)).eraseDups.map Key.mk).Nodup :=
    (nodup_eraseDups _).map fun a b hab => congrArg Key.text hab
  rw [hset, Set.encard_coe_eq_coe_finsetCard, List.toFinset_card_of_nodup hnodup, List.length_map, count]

end Table

end MediaCatalog
