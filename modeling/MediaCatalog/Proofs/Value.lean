import MediaCatalog.Proofs.Config.Put
import MediaCatalog.Proofs.Moment
import MediaCatalog.Value

/-!
# Values with ordered tables

* `Value.WellFormed`: tables are in ascending order at all levels, moments are in their ranges, and nothing is null.
* `Value.wellFormed_put`: putting a value keeps that.
-/

namespace MediaCatalog

/-! ## Lists of pairs -/

namespace Pairs

variable {α : Type} {entries : List (String × α)}

/-- Of two values set at the same key the later counts. -/
theorem insert_insert (key : String) (v w : α) (entries : List (String × α)) :
    insert key v (insert key w entries) = insert key v entries := by
  induction entries with
  | nil => simp [insert]
  | cons head rest ih =>
    obtain ⟨k, u⟩ := head
    rw [insert]
    by_cases hlt : key < k
    · rw [if_pos hlt, insert, if_neg (String.lt_irrefl key), if_pos rfl, insert, if_pos hlt]
    · rw [if_neg hlt]
      by_cases hk : k = key
      · subst hk
        rw [if_pos rfl, insert, if_neg (String.lt_irrefl k), if_pos rfl, insert, if_neg hlt, if_pos rfl]
      · rw [if_neg hk, insert, if_neg hlt, if_neg hk, ih, insert, if_neg hlt, if_neg hk]

/-- Replacing a value is setting its key. -/
theorem replace_eq_insert (h : Ascending entries) {key : String} {w : α} (hget : get? key entries = some w) (v : α) :
    replace key v entries = insert key v entries := by
  induction entries with
  | nil => cases hget
  | cons head rest ih =>
    obtain ⟨k, u⟩ := head
    obtain ⟨hhead, hrest⟩ := List.pairwise_cons.mp h
    rw [get?] at hget
    rw [replace, insert]
    by_cases hk : k = key
    · rw [if_pos hk, if_neg (hk ▸ String.lt_irrefl k), if_pos hk]
    · rw [if_neg hk] at hget
      have hlt : ¬key < k := fun hlt => String.lt_irrefl key (String.lt_trans hlt (hhead _ (mem_of_get? hget)))
      rw [if_neg hk, if_neg hlt, if_neg hk, ih hrest hget]

/-- Setting keys in turn keeps the ascending order. -/
theorem ascending_foldl_insert {before : List (String × α)} (h : Ascending before) (entries : List (String × α)) :
    Ascending (entries.foldl (fun after e => insert e.1 e.2 after) before) := by
  induction entries generalizing before with
  | nil => exact h
  | cons e entries ih => exact ih (ascending_insert e.1 e.2 h)

/-- After setting the keys of a list in turn, a key of the list has its value there, and any other is as before. -/
theorem get?_foldl_insert (h : Ascending entries) (before : List (String × α)) (key : String) :
    get? key (entries.foldl (fun after e => insert e.1 e.2 after) before) = (get? key entries).or (get? key before) := by
  induction entries generalizing before with
  | nil => rfl
  | cons head rest ih =>
    obtain ⟨k, v⟩ := head
    obtain ⟨hhead, hrest⟩ := List.pairwise_cons.mp h
    rw [List.foldl_cons, ih hrest, get?, get?_insert]
    by_cases hk : k = key
    · subst hk
      rw [if_pos rfl, if_pos rfl, get?_eq_none_of_lt hhead, Option.none_or, Option.some_or]
    · rw [if_neg hk, if_neg hk]

/-- Values that are changed are changed at their keys. -/
theorem get?_map {β : Type} (f : α → β) (key : String) (entries : List (String × α)) :
    get? key (entries.map fun e => (e.1, f e.2)) = (get? key entries).map f := by
  induction entries with
  | nil => rfl
  | cons head rest ih =>
    rw [List.map_cons, get?, get?, ih]
    split <;> rfl

/-- What is left of an ascending list has the values that are left of those at the keys. -/
theorem get?_filter (h : Ascending entries) (keep : String × α → Bool) (key : String) :
    get? key (entries.filter keep) = (get? key entries).filter fun v => keep (key, v) := by
  induction entries with
  | nil => rfl
  | cons head rest ih =>
    obtain ⟨k, v⟩ := head
    obtain ⟨hhead, hrest⟩ := List.pairwise_cons.mp h
    rw [List.filter_cons, get?]
    by_cases hk : k = key
    · subst hk
      rw [if_pos rfl, Option.filter_some]
      split
      · rw [get?, if_pos rfl]
      · exact get?_eq_none_of_lt fun e he => hhead e (List.mem_of_mem_filter he)
    · rw [if_neg hk, ← ih hrest]
      split
      · rw [get?, if_neg hk]
      · rfl

/-- Setting the keys of an ascending list makes the list. -/
theorem foldl_insert_nil (h : Ascending entries) : entries.foldl (fun after e => insert e.1 e.2 after) [] = entries := by
  refine ext_of_ascending (ascending_foldl_insert List.Pairwise.nil entries) h fun key => ?_
  rw [get?_foldl_insert h, get?, Option.or_none]

end Pairs

/-! ## Values -/

namespace Value

/-- Tables are in ascending order at all levels, moments are in their ranges, and nothing is null. -/
inductive WellFormed : Value → Prop where
  | bool (b : Bool) : WellFormed (.bool b)
  | integer (n : Int) : WellFormed (.integer n)
  | float (x : Number.Binary64) : WellFormed (.float x)
  | text (s : String) : WellFormed (.text s)
  | moment {m : Moment} (h : m.Valid) : WellFormed (.moment m)
  | list {items : List Value} (h : ∀ v ∈ items, WellFormed v) : WellFormed (.list items)
  | table {entries : Entries} (hascending : Ascending entries) (h : ∀ e ∈ entries, WellFormed e.2) :
      WellFormed (.table entries)

variable {v : Value} {entries : Entries} {name : String}

/-- The empty table is well formed. -/
theorem wellFormed_empty : WellFormed (.table []) := .table List.Pairwise.nil fun _ he => absurd he List.not_mem_nil

/-- The names in a well-formed table ascend. -/
theorem WellFormed.ascending (h : WellFormed (.table entries)) : Ascending entries := by
  cases h
  assumption

/-- The items of a well-formed list are well formed. -/
theorem WellFormed.of_mem_list {items : List Value} (h : WellFormed (.list items)) : ∀ v ∈ items, v.WellFormed := by
  cases h
  assumption

/-- The values in a well-formed table are well formed. -/
theorem WellFormed.of_mem_table (h : WellFormed (.table entries)) : ∀ e ∈ entries, e.2.WellFormed := by
  cases h
  assumption

/-- So is the value under a name. -/
theorem WellFormed.of_get? (h : WellFormed (.table entries)) (hget : Pairs.get? name entries = some v) : v.WellFormed :=
  h.of_mem_table _ (Pairs.mem_of_get? hget)

/-- A well-formed table stays so when a well-formed value is put into it. -/
theorem WellFormed.insert (h : WellFormed (.table entries)) (hv : v.WellFormed) (name : String) :
    WellFormed (.table (Pairs.insert name v entries)) := by
  refine .table (Pairs.ascending_insert name v h.ascending) fun e he => ?_
  rcases Pairs.mem_insert he with rfl | he
  · exact hv
  · exact h.of_mem_table e he

/-- **Putting a value** keeps the order. -/
theorem wellFormed_put (h : WellFormed (.table entries)) (hv : v.WellFormed) (path : List String) :
    WellFormed (.table (put entries v path).2) := by
  induction path generalizing entries with
  | nil => exact h
  | cons name path ih =>
    cases path with
    | nil => exact h.insert hv name
    | cons next path =>
      rcases put_cons entries v name (List.cons_ne_nil next path) with ⟨-, hput⟩ | ⟨inner, hget, hput⟩ | ⟨w, -, -, hput⟩
      · rw [hput]
        exact h.insert (ih wellFormed_empty) name
      · rw [hput]
        dsimp only
        rw [Pairs.replace_eq_insert h.ascending hget]
        exact h.insert (ih (h.of_get? hget)) name
      · rw [hput]
        exact h

end Value

end MediaCatalog
