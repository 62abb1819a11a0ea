import Mathlib.Data.List.Basic
import MediaCatalog.Config.Load
import MediaCatalog.Proofs.Text.Segments

/-!
# Putting a value at a dotted key

On its way to the place of a value, `put` makes the tables that are missing and enters the others, and it may
meet a value that is no table. What it has made by then would stay. But a table that was just made is empty,
so nothing is met any more once a table was made.

* `Value.Blocks`: a value that is no table stands on the way.
* `Value.put_fst_iff`: a value is put unless something blocks the way; `Value.snd_put_of_fst`: else nothing
  has changed.
* `Value.find?_put_self`, `Value.find?_put_apart`: what is found afterwards at the path, and at the paths apart
  from it.
* `Config.keyNames_eq_iff`: the names in a dotted key are what stands between its points.
* **Main result** (`Config.put_only_at_key`): a value is put at its key and changes nothing apart from it, or the
  document stays as it was; and it is clear which.
-/

namespace MediaCatalog

namespace Value

variable {entries : Entries} {v w : Value} {name : String} {path : List String}

/-! ## Finding along paths -/

/-- The value is a table. -/
def IsTable (v : Value) : Prop := ∃ entries, v = table entries

/-- Below a name stands what is below its value. -/
theorem find?_table_cons (entries : Entries) (name : String) (path : List String) :
    (table entries).find? (name :: path) = (Pairs.get? name entries).bind fun child => child.find? path := by
  rw [find?]

/-- A path is found in entries with one replaced: through the new value if it begins with its name. -/
theorem find?_cons_congr {entries' : Entries} {child : Value}
    (h : ∀ other, Pairs.get? other entries' = if name = other then some child else Pairs.get? other entries)
    (other : String) (path : List String) :
    (table entries').find? (other :: path) =
      if name = other then child.find? path else (table entries).find? (other :: path) := by
  rw [find?_table_cons, find?_table_cons, h]
  split
  · rfl
  · rfl

/-! ## What stands on the way -/

/-- A value that is no table stands on the way to a path: one of its beginnings, but not the path itself, leads
there. -/
def Blocks (entries : Entries) (path : List String) : Prop :=
  ∃ front w, front <+: path ∧ front ≠ path ∧ (table entries).find? front = some w ∧ ¬w.IsTable

/-- Nothing stands on the way where nothing is. -/
theorem not_blocks_nil : ¬Blocks [] path := by
  rintro ⟨front, w, -, -, hfind, hw⟩
  cases front with
  | nil => exact hw ⟨[], (Option.some.inj hfind).symm⟩
  | cons name front => cases hfind

/-- Nothing stands on the way to a name of the entries themselves. -/
theorem not_blocks_singleton : ¬Blocks entries [name] := by
  rintro ⟨front, w, hfront, hne, hfind, hw⟩
  rcases List.prefix_cons_iff.mp hfront with rfl | ⟨rest, rfl, hrest⟩
  · rw [find?, Option.some.injEq] at hfind
    exact hw ⟨entries, hfind.symm⟩
  · exact hne (congrArg (name :: ·) (List.prefix_nil.mp hrest))

/-- On the way to a path below a name stands the value at the name, or what stands on the way from there. -/
theorem blocks_cons_iff (hpath : path ≠ []) :
    Blocks entries (name :: path) ↔
      (∃ w, Pairs.get? name entries = some w ∧ ¬w.IsTable) ∨
        ∃ inner, Pairs.get? name entries = some (table inner) ∧ Blocks inner path := by
  constructor
  · rintro ⟨front, w, hfront, hne, hfind, hw⟩
    rcases List.prefix_cons_iff.mp hfront with rfl | ⟨rest, rfl, hrest⟩
    · rw [find?, Option.some.injEq] at hfind
      exact absurd ⟨entries, hfind.symm⟩ hw
    · rw [find?_table_cons, Option.bind_eq_some_iff] at hfind
      obtain ⟨child, hchild, hfind⟩ := hfind
      by_cases hinner : child.IsTable
      · obtain ⟨inner, rfl⟩ := hinner
        exact .inr ⟨inner, hchild, rest, w, hrest, fun heq => hne (congrArg (name :: ·) heq), hfind, hw⟩
      · exact .inl ⟨child, hchild, hinner⟩
  · rintro (⟨w, hget, hw⟩ | ⟨inner, hget, front, w, hfront, hne, hfind, hw⟩)
    · refine ⟨[name], w, List.prefix_append [name] path, ?_, ?_, hw⟩
      · exact fun heq => hpath (List.cons.inj heq).2.symm
      · rw [find?_table_cons, hget, Option.bind_some, find?]
    · refine ⟨name :: front, w, List.prefix_cons_inj name |>.mpr hfront, ?_, ?_, hw⟩
      · exact fun heq => hne (List.cons.inj heq).2
      · rw [find?_table_cons, hget, Option.bind_some, hfind]

/-! ## Putting a value -/

/-- **How a value is put** below a name: into a new table, or into the table that is there, unless something
else is. -/
theorem put_cons (entries : Entries) (v : Value) (name : String) (hpath : path ≠ []) :
    (Pairs.get? name entries = none ∧
        put entries v (name :: path) = ((put [] v path).1, Pairs.insert name (table (put [] v path).2) entries)) ∨
      (∃ inner, Pairs.get? name entries = some (table inner) ∧
        put entries v (name :: path) = ((put inner v path).1, Pairs.replace name (table (put inner v path).2) entries)) ∨
      ∃ w, Pairs.get? name entries = some w ∧ ¬w.IsTable ∧ put entries v (name :: path) = (false, entries) := by
  rw [put]
  · split
    · next hget => exact .inl ⟨hget, rfl⟩
    · next inner hget => exact .inr (.inl ⟨inner, hget, rfl⟩)
    · next w hother hget =>
      refine .inr (.inr ⟨w, hget, ?_, rfl⟩)
      rintro ⟨inner, rfl⟩
      exact hother inner rfl
  · exact hpath

/-- **A value is put** unless something stands on the way. -/
theorem put_fst_iff (entries : Entries) (v : Value) (hpath : path ≠ []) :
    (put entries v path).1 = true ↔ ¬Blocks entries path := by
  induction path generalizing entries with
  | nil => exact absurd rfl hpath
  | cons name path ih =>
    cases path with
    | nil => exact iff_of_true rfl not_blocks_singleton
    | cons next path =>
      have hne : next :: path ≠ [] := List.cons_ne_nil _ _
      rw [blocks_cons_iff hne]
      rcases put_cons entries v name hne with ⟨hget, hput⟩ | ⟨inner, hget, hput⟩ | ⟨w, hget, hw, hput⟩
      · rw [hput, ih [] hne, hget]
        exact iff_of_true not_blocks_nil (by simp)
      · have htable : (table inner).IsTable := ⟨inner, rfl⟩
        rw [hput, ih inner hne, hget]
        simp [htable]
      · rw [hput]
        exact iff_of_false Bool.false_ne_true fun hfree => hfree (.inl ⟨w, hget, hw⟩)

/-- **A value that is not put** leaves the entries as they were: once a table was made, nothing is in the way. -/
theorem snd_put_of_fst (h : (put entries v path).1 = false) : (put entries v path).2 = entries := by
  induction path generalizing entries with
  | nil => rfl
  | cons name path ih =>
    cases path with
    | nil => cases h
    | cons next path =>
      have hne : next :: path ≠ [] := List.cons_ne_nil _ _
      rcases put_cons entries v name hne with ⟨-, hput⟩ | ⟨inner, hget, hput⟩ | ⟨w, -, -, hput⟩
      · have hdone : (put [] v (next :: path)).1 = true := (put_fst_iff [] v hne).mpr not_blocks_nil
        rw [hput, hdone] at h
        cases h
      · rw [hput] at h ⊢
        rw [ih h, Pairs.replace_eq_self hget]
      · rw [hput]

/-- **A value that is put** is found at its path. -/
theorem find?_put_self (h : (put entries v path).1 = true) : (table (put entries v path).2).find? path = some v := by
  induction path generalizing entries with
  | nil => cases h
  | cons name path ih =>
    cases path with
    | nil =>
      rw [put, find?_cons_congr fun other => Pairs.get?_insert name other v entries, if_pos rfl, find?]
    | cons next path =>
      rcases put_cons entries v name (List.cons_ne_nil next path) with
        ⟨-, hput⟩ | ⟨inner, hget, hput⟩ | ⟨w, -, -, hput⟩
      · rw [hput] at h ⊢
        rw [find?_cons_congr fun other => Pairs.get?_insert name other _ entries, if_pos rfl, ih h]
      · rw [hput] at h ⊢
        rw [find?_cons_congr fun other => Pairs.get?_replace (hget ▸ rfl), if_pos rfl, ih h]
      · rw [hput] at h
        cases h

/-- Two paths apart from each other: neither is a beginning of the other. -/
def Apart (path path' : List String) : Prop := ¬path <+: path' ∧ ¬path' <+: path

/-- A path apart from another one goes on at its first name with another name, or apart from it. -/
theorem Apart.exists_cons {path' : List String} (h : Apart (name :: path) path') :
    ∃ other rest, path' = other :: rest ∧ (name = other → Apart path rest) := by
  obtain ⟨hleft, hright⟩ := h
  cases path' with
  | nil => exact absurd (List.nil_prefix) hright
  | cons other rest =>
    refine ⟨other, rest, rfl, ?_⟩
    rintro rfl
    exact ⟨fun hp => hleft (List.prefix_cons_inj name |>.mpr hp), fun hp => hright (List.prefix_cons_inj name |>.mpr hp)⟩

/-- **Apart from its path** a value changes nothing, whether it is put or not. -/
theorem find?_put_apart {path' : List String} (h : Apart path path') :
    (table (put entries v path).2).find? path' = (table entries).find? path' := by
  induction path generalizing entries path' with
  | nil => exact absurd List.nil_prefix h.1
  | cons name path ih =>
    obtain ⟨other, rest, rfl, happart⟩ := h.exists_cons
    cases path with
    | nil =>
      have hne : name ≠ other := fun heq => (happart heq).1 List.nil_prefix
      rw [put, find?_cons_congr fun other => Pairs.get?_insert name other v entries, if_neg hne]
    | cons next path =>
      rcases put_cons entries v name (List.cons_ne_nil next path) with
        ⟨hget, hput⟩ | ⟨inner, hget, hput⟩ | ⟨w, -, -, hput⟩
      · rw [hput, find?_cons_congr fun other => Pairs.get?_insert name other _ entries]
        split
        · next hsame =>
          -- what was not there is not there now: only the new value was put into the table that was made
          subst hsame
          obtain ⟨first, rest, rfl, -⟩ := (happart rfl).exists_cons
          rw [ih (happart rfl), find?_table_cons, find?_table_cons, hget]
          rfl
        · rfl
      · rw [hput, find?_cons_congr fun other => Pairs.get?_replace (hget ▸ rfl)]
        split
        · next hsame =>
          subst hsame
          rw [ih (happart rfl), find?_table_cons, hget, Option.bind_some]
        · rfl
      · rw [hput]

end Value

/-! ## Dotted keys -/

namespace Config

/-- **The names in a dotted key** are what stands between its points. -/
theorem keyNames_eq_iff {key : String} {names : List String} :
    keyNames key = names ↔ names ≠ [] ∧ (∀ name ∈ names, '.' ∉ name.toList) ∧ key = ".".intercalate names := by
  rw [keyNames, ← List.splitOn_eq_splitOnP, Text.splitOn_eq_names_iff, ← String.toList_inj, String.toList_intercalate]
  rfl

/-! ## Putting a value at a key -/

/-- **How a value is put at a key**: it cannot be if one of the names is empty or the way is blocked, and then the
document stays. -/
theorem put_cases (document : Entries) (key : String) (v : Value) :
    (("" ∈ keyNames key ∨ Value.Blocks document (keyNames key)) ∧
        put document key v = (.error (.invalid (.unsettableKey key)), document)) ∨
      (¬("" ∈ keyNames key ∨ Value.Blocks document (keyNames key)) ∧ (Value.put document v (keyNames key)).1 = true ∧
        put document key v = (.ok (), (Value.put document v (keyNames key)).2)) := by
  have hne : keyNames key ≠ [] := (keyNames_eq_iff.mp rfl).1
  have hempty : (keyNames key).any String.isEmpty = true ↔ "" ∈ keyNames key := by simp
  have hfree := Value.put_fst_iff document v hne
  dsimp only [put]
  cases hdone : Value.put document v (keyNames key) with
  | mk done after =>
    rw [hdone] at hfree
    by_cases hany : "" ∈ keyNames key
    · rw [if_pos (hempty.mpr hany)]
      exact .inl ⟨.inl hany, rfl⟩
    · rw [if_neg (mt hempty.mp hany)]
      cases done with
      | true => exact .inr ⟨not_or.mpr ⟨hany, hfree.mp rfl⟩, rfl, rfl⟩
      | false =>
        have hsame : after = document := by simpa [hdone] using Value.snd_put_of_fst (congrArg Prod.fst hdone)
        rw [hsame]
        exact .inl ⟨.inr (not_not.mp (mt hfree.mpr Bool.false_ne_true)), rfl⟩

/-- **A value is put at its key and nowhere else, or not at all.** Putting a value at a dotted key fails exactly if one
of the names in the key is empty, or a value that is no table stands on the way; then the error names the key, and the
document stays as it was. Otherwise the value is found at the key afterwards, and what is found at a path apart from the
key, or that nothing is, stays. The names in the key are what stands between its points. -/
theorem put_only_at_key (document : Entries) (key : String) (v : Value) :
    let names := keyNames key
    let (outcome, after) := put document key v
    (names ≠ [] ∧ (∀ name ∈ names, '.' ∉ name.toList) ∧ key = ".".intercalate names) ∧
      (outcome ≠ .ok () ↔ "" ∈ names ∨ Value.Blocks document names) ∧
      (outcome ≠ .ok () → outcome = .error (.invalid (.unsettableKey key)) ∧ after = document) ∧
      (outcome = .ok () → (Value.table after).find? names = some v ∧
        ∀ path, Value.Apart names path → (Value.table after).find? path = (Value.table document).find? path) := by
  intro names
  have hnames := keyNames_eq_iff.mp (rfl : keyNames key = names)
  rcases put_cases document key v with ⟨hwhy, hput⟩ | ⟨hfree, hdone, hput⟩
  · rw [hput]
    exact ⟨hnames, iff_of_true (by simp) hwhy, fun _ => ⟨rfl, rfl⟩, fun hok => by cases hok⟩
  · rw [hput]
    exact ⟨hnames, iff_of_false (by simp) hfree, fun hfail => absurd rfl hfail,
      fun _ => ⟨Value.find?_put_self hdone, fun path hpath => Value.find?_put_apart hpath⟩⟩

end Config

end MediaCatalog
