/-!
# Finite maps keyed by text

A `Dict α` maps finitely many texts to values of `α` and lists its keys in ascending order (by
code point, which is also the order of the UTF-8 bytes). Fields of an entry, entries of a store,
mounts and backends are all kept in such maps, so equal contents are equal values (`Dict.ext`).

* `Dict.insert`, `Dict.erase`, `Dict.union`: the operations, each with its look-up equation
  (`get?_insert`, `get?_erase`, `get?_union`).
* `Dict.toList`, `Dict.keys`: the content in ascending key order.
-/

namespace MediaCatalog

/-- A key–value list whose keys ascend strictly. -/
def Ascending {α : Type} (entries : List (String × α)) : Prop :=
  entries.Pairwise fun a b => a.1 < b.1

/-! ### Lists of pairs with ascending keys -/

namespace Pairs

section

variable {κ α : Type} [DecidableEq κ]

/-- The value at a key. -/
def get? (key : κ) : List (κ × α) → Option α
  | [] => none
  | (k, v) :: rest => if k = key then some v else get? key rest

/-- The list with one key set to a value; the value it had is replaced. -/
def insert [LT κ] [DecidableLT κ] (key : κ) (value : α) : List (κ × α) → List (κ × α)
  | [] => [(key, value)]
  | (k, v) :: rest =>
    if key < k then (key, value) :: (k, v) :: rest
    else if k = key then (key, value) :: rest
    else (k, v) :: insert key value rest

/-- The list with the value at a key replaced where it stands; nothing is put at a key that is missing. -/
def replace (key : κ) (value : α) : List (κ × α) → List (κ × α)
  | [] => []
  | (k, v) :: rest => if k = key then (key, value) :: rest else (k, v) :: replace key value rest

/-- The list without a key. -/
def erase (key : κ) (entries : List (κ × α)) : List (κ × α) :=
  entries.filter fun e => e.1 ≠ key

/-- A value that is found at a key stands there in a pair. -/
theorem mem_of_get? {key : κ} {value : α} {entries : List (κ × α)} (h : get? key entries = some value) :
    (key, value) ∈ entries := by
  induction entries with
  | nil => cases h
  | cons entry rest ih =>
    unfold get? at h
    split at h
    case isTrue hkey =>
      cases h
      subst hkey
      exact List.mem_cons_self
    case isFalse => exact List.mem_cons_of_mem _ (ih h)

/-- What stands in the list afterwards was inserted or stood there before. -/
theorem mem_insert [LT κ] [DecidableLT κ] {key : κ} {value : α} {entries : List (κ × α)} {e : κ × α}
    (h : e ∈ insert key value entries) : e = (key, value) ∨ e ∈ entries := by
  induction entries with
  | nil => simpa [insert] using h
  | cons head rest ih =>
    obtain ⟨k, v⟩ := head
    unfold insert at h
    split at h
    · simpa using h
    · split at h
      · rcases List.mem_cons.mp h with rfl | h
        · exact .inl rfl
        · exact .inr (List.mem_cons_of_mem _ h)
      · rcases List.mem_cons.mp h with rfl | h
        · exact .inr List.mem_cons_self
        · exact (ih h).imp_right (List.mem_cons_of_mem _)

/-- The value that was inserted is found at its key, and at other keys what was there. -/
theorem get?_insert [LT κ] [DecidableLT κ] (key key' : κ) (value : α) (entries : List (κ × α)) :
    get? key' (insert key value entries) = if key = key' then some value else get? key' entries := by
  induction entries with
  | nil => simp [insert, get?]
  | cons head rest ih =>
    obtain ⟨k, v⟩ := head
    unfold insert
    split
    · simp [get?]
    · split
      case isTrue heq => subst heq; simp only [get?]; split <;> rfl
      case isFalse hne =>
        simp only [get?, ih]
        by_cases h1 : k = key'
        · subst h1; simp [Ne.symm hne]
        · simp [h1]

/-- The value that was put in place of another is found at its key, and at other keys what was there. -/
theorem get?_replace {key key' : κ} {value : α} {entries : List (κ × α)} (h : (get? key entries).isSome = true) :
    get? key' (replace key value entries) = if key = key' then some value else get? key' entries := by
  induction entries with
  | nil => cases h
  | cons head rest ih =>
    obtain ⟨k, v⟩ := head
    rw [replace]
    by_cases hk : k = key
    · subst hk
      rw [if_pos rfl, get?, get?]
      split <;> rfl
    · rw [get?, if_neg hk] at h
      rw [if_neg hk, get?, get?, ih h]
      by_cases hk' : k = key'
      · rw [if_pos hk', if_pos hk', if_neg fun hsame => hk (hk'.trans hsame.symm)]
      · rw [if_neg hk', if_neg hk']

/-- Replacing a value by itself changes nothing. -/
theorem replace_eq_self {key : κ} {value : α} {entries : List (κ × α)} (h : get? key entries = some value) :
    replace key value entries = entries := by
  induction entries with
  | nil => rfl
  | cons head rest ih =>
    obtain ⟨k, v⟩ := head
    rw [get?] at h
    rw [replace]
    by_cases hk : k = key
    · rw [if_pos hk] at h
      cases h
      rw [if_pos hk, hk]
    · rw [if_neg hk] at h
      rw [if_neg hk, ih h]

/-- At the key that was taken out nothing is found, and at other keys what was there. -/
theorem get?_erase (key key' : κ) (entries : List (κ × α)) :
    get? key' (erase key entries) = if key = key' then none else get? key' entries := by
  induction entries with
  | nil => simp [erase, get?]
  | cons head rest ih =>
    obtain ⟨k, v⟩ := head
    unfold erase at ih ⊢
    by_cases hk : k = key
    · subst hk
      rw [List.filter_cons_of_neg (by simp), ih]
      by_cases h : k = key' <;> simp [get?, h]
    · rw [List.filter_cons_of_pos (by simpa using hk), get?, ih, get?]
      by_cases h : k = key'
      · subst h; simp [Ne.symm hk]
      · simp [h]

end

variable {α : Type}

/-- Of two different texts one is less. -/
theorem lt_of_not_lt_of_ne {a b : String} (h : ¬a < b) (hne : b ≠ a) : b < a := by
  apply Classical.byContradiction
  intro h'
  exact hne (String.le_antisymm (String.not_lt.mp h) (String.not_lt.mp h'))

/-- Keys ascend after an insertion if they did before. -/
theorem ascending_insert (key : String) (value : α) {entries : List (String × α)}
    (h : Ascending entries) : Ascending (insert key value entries) := by
  induction entries with
  | nil => exact List.pairwise_singleton _ _
  | cons head rest ih =>
    obtain ⟨k, v⟩ := head
    have ⟨hhead, hrest⟩ := List.pairwise_cons.mp h
    unfold insert
    split
    case isTrue hlt =>
      refine List.pairwise_cons.mpr ⟨fun e he => ?_, h⟩
      rcases List.mem_cons.mp he with rfl | he
      · exact hlt
      · exact String.lt_trans hlt (hhead e he)
    case isFalse hnlt =>
      split
      case isTrue heq => subst heq; exact List.pairwise_cons.mpr ⟨hhead, hrest⟩
      case isFalse hne =>
        refine List.pairwise_cons.mpr ⟨fun e he => ?_, ih hrest⟩
        rcases mem_insert he with rfl | he
        · exact lt_of_not_lt_of_ne hnlt hne
        · exact hhead e he

/-- Nothing is found at a key that is less than all keys. -/
theorem get?_eq_none_of_lt {key : String} {entries : List (String × α)}
    (h : ∀ e ∈ entries, key < e.1) : get? key entries = none := by
  induction entries with
  | nil => rfl
  | cons head rest ih =>
    obtain ⟨k, v⟩ := head
    have hlt : key < k := h (k, v) List.mem_cons_self
    have hne : k ≠ key := fun heq => String.lt_irrefl key (by rw [heq] at hlt; exact hlt)
    rw [get?, if_neg hne]
    exact ih fun e he => h e (List.mem_cons_of_mem _ he)

/-- Where keys ascend, what is looked up is what is there. -/
theorem mem_iff_get? {entries : List (String × α)} (h : Ascending entries) {key : String} {v : α} :
    (key, v) ∈ entries ↔ get? key entries = some v := by
  induction entries with
  | nil => simp [get?]
  | cons head rest ih =>
    obtain ⟨k, w⟩ := head
    have ⟨hhead, hrest⟩ := List.pairwise_cons.mp h
    rw [List.mem_cons, get?]
    by_cases hk : k = key
    · subst hk
      rw [if_pos rfl]
      constructor
      · rintro (heq | hmem)
        · cases heq; rfl
        · exact absurd (hhead _ hmem) (String.lt_irrefl k)
      · intro heq; cases heq; exact .inl rfl
    · rw [if_neg hk, ← ih hrest]
      constructor
      · rintro (heq | hmem)
        · cases heq; exact absurd rfl hk
        · exact hmem
      · exact .inr

/-- Ascending lists with the same look-ups are the same. -/
theorem ext_of_ascending {l₁ l₂ : List (String × α)} (h₁ : Ascending l₁) (h₂ : Ascending l₂)
    (h : ∀ key, get? key l₁ = get? key l₂) : l₁ = l₂ := by
  induction l₁ generalizing l₂ with
  | nil =>
    cases l₂ with
    | nil => rfl
    | cons head rest => simpa [get?] using h head.1
  | cons a rest ih =>
    obtain ⟨k, v⟩ := a
    have ⟨ha, hrest⟩ := List.pairwise_cons.mp h₁
    cases l₂ with
    | nil => simpa [get?] using h k
    | cons b rest' =>
      obtain ⟨k', v'⟩ := b
      have ⟨hb, hrest'⟩ := List.pairwise_cons.mp h₂
      have hkk : k = k' := by
        apply Classical.byContradiction
        intro hne
        by_cases hlt : k < k'
        · have := h k
          rw [get?, if_pos rfl, get?, if_neg (Ne.symm hne), get?_eq_none_of_lt] at this
          · cases this
          · exact fun e he => String.lt_trans hlt (hb e he)
        · have hlt' : k' < k := lt_of_not_lt_of_ne hlt (Ne.symm hne)
          have := h k'
          rw [get?, if_neg hne, get?, if_pos rfl, get?_eq_none_of_lt] at this
          · cases this
          · exact fun e he => String.lt_trans hlt' (ha e he)
      subst hkk
      have hv : v = v' := by simpa [get?] using h k
      subst hv
      congr 1
      refine ih hrest hrest' fun key => ?_
      by_cases hk : k = key
      · subst hk
        rw [get?_eq_none_of_lt ha, get?_eq_none_of_lt hb]
      · simpa [get?, hk] using h key

end Pairs

/-! ### Maps -/

/-- A finite map from texts to values, its keys in ascending order. -/
structure Dict (α : Type) where
  /-- The keys with their values, in ascending key order. -/
  toList : List (String × α)
  /-- No key occurs twice and the order is fixed. -/
  ascending : Ascending toList

namespace Dict

variable {α : Type}

/-- The map without keys. -/
def empty : Dict α := ⟨[], List.Pairwise.nil⟩

/-- A map without keys. -/
instance : EmptyCollection (Dict α) := ⟨empty⟩

/-- The map without keys is there by default. -/
instance : Inhabited (Dict α) := ⟨empty⟩

/-- The value at a key, if the key is present. -/
def get? (d : Dict α) (key : String) : Option α := Pairs.get? key d.toList

/-- Whether a key is present. -/
def contains (d : Dict α) (key : String) : Bool := (d.get? key).isSome

/-- The map with a key set to a value. -/
def insert (d : Dict α) (key : String) (value : α) : Dict α :=
  ⟨Pairs.insert key value d.toList, Pairs.ascending_insert key value d.ascending⟩

/-- The map with a key set to a value unless it is present. -/
def insertIfNew (d : Dict α) (key : String) (value : α) : Dict α :=
  if d.contains key then d else d.insert key value

/-- The map without a key. -/
def erase (d : Dict α) (key : String) : Dict α :=
  ⟨Pairs.erase key d.toList, d.ascending.filter _⟩

/-- The map with every pair of a list inserted, from left to right. -/
def insertMany (d : Dict α) (pairs : List (String × α)) : Dict α :=
  pairs.foldl (fun d e => d.insert e.1 e.2) d

/-- The map that holds the pairs of a list, a later pair winning over an earlier one. -/
def ofList (pairs : List (String × α)) : Dict α := empty.insertMany pairs

/-- The first map overlaid by the second, whose values win. -/
def union (d e : Dict α) : Dict α := d.insertMany e.toList

/-- The keys, ascending. -/
def keys (d : Dict α) : List String := d.toList.map (·.1)

/-- The values, in ascending key order. -/
def values (d : Dict α) : List α := d.toList.map (·.2)

/-- The number of keys. -/
def size (d : Dict α) : Nat := d.toList.length

/-- Whether there is no key. -/
def isEmpty (d : Dict α) : Bool := d.toList.isEmpty

/-- The map restricted to the pairs that satisfy a test. -/
def filter (p : String → α → Bool) (d : Dict α) : Dict α :=
  ⟨d.toList.filter fun e => p e.1 e.2, d.ascending.filter _⟩

/-- Maps with the same look-ups are equal. -/
theorem ext {d e : Dict α} (h : ∀ key, d.get? key = e.get? key) : d = e := by
  cases d with
  | mk l hl =>
    cases e with
    | mk m hm =>
      congr
      exact Pairs.ext_of_ascending hl hm h

/-- Maps are equal exactly if they have the same look-ups. -/
theorem ext_iff {d e : Dict α} : d = e ↔ ∀ key, d.get? key = e.get? key :=
  ⟨fun h _ => h ▸ rfl, ext⟩

/-- Maps are compared by their pairs. -/
instance [BEq α] : BEq (Dict α) := ⟨fun d e => d.toList == e.toList⟩

/-- Whether two maps are the same can be decided by their pairs. -/
instance [DecidableEq α] : DecidableEq (Dict α) := fun d e =>
  if h : d.toList = e.toList then
    isTrue (by cases d; cases e; congr)
  else isFalse (fun he => h (he ▸ rfl))

/-- Nothing is found in the map without keys. -/
@[simp] theorem get?_empty (key : String) : (empty : Dict α).get? key = none := rfl

/-- After an insertion the value is found at its key, and at other keys what was there. -/
theorem get?_insert (d : Dict α) (key key' : String) (value : α) :
    (d.insert key value).get? key' = if key = key' then some value else d.get? key' :=
  Pairs.get?_insert key key' value d.toList

/-- What was inserted is found at its key. -/
@[simp] theorem get?_insert_self (d : Dict α) (key : String) (value : α) :
    (d.insert key value).get? key = some value := by
  rw [get?_insert, if_pos rfl]

/-- An insertion of what is new keeps the value that was at the key. -/
theorem get?_insertIfNew (d : Dict α) (key key' : String) (value : α) :
    (d.insertIfNew key value).get? key' =
      if key = key' then some ((d.get? key).getD value) else d.get? key' := by
  unfold insertIfNew contains
  split
  case isTrue h =>
    split
    case isTrue heq =>
      subst heq
      obtain ⟨v, hv⟩ := Option.isSome_iff_exists.mp h
      simp [hv]
    case isFalse => rfl
  case isFalse h =>
    rw [get?_insert]
    split
    case isTrue heq =>
      subst heq
      simp at h
      simp [h]
    case isFalse => rfl

/-- Without a key nothing is found at it, and at other keys what was there. -/
theorem get?_erase (d : Dict α) (key key' : String) :
    (d.erase key).get? key' = if key = key' then none else d.get? key' :=
  Pairs.get?_erase key key' d.toList

/-- What is listed is what is looked up. -/
theorem mem_toList_iff {d : Dict α} {key : String} {v : α} :
    (key, v) ∈ d.toList ↔ d.get? key = some v :=
  Pairs.mem_iff_get? d.ascending

/-- After inserting a list of pairs with ascending keys, a key of the list has its value there and
every other key is as before. -/
theorem get?_insertMany (d : Dict α) {pairs : List (String × α)} (h : Ascending pairs)
    (key : String) : (d.insertMany pairs).get? key = (Pairs.get? key pairs).or (d.get? key) := by
  induction pairs generalizing d with
  | nil => simp [insertMany, Pairs.get?]
  | cons head rest ih =>
    obtain ⟨k, v⟩ := head
    have ⟨hhead, hrest⟩ := List.pairwise_cons.mp h
    have : (d.insertMany ((k, v) :: rest)) = (d.insert k v).insertMany rest := rfl
    rw [this, ih _ hrest, Pairs.get?, get?_insert]
    by_cases hk : k = key
    · subst hk
      rw [Pairs.get?_eq_none_of_lt hhead, if_pos rfl, if_pos rfl]
      rfl
    · rw [if_neg hk, if_neg hk]

/-- In a union the second map wins. -/
theorem get?_union (d e : Dict α) (key : String) :
    (d.union e).get? key = (e.get? key).or (d.get? key) :=
  get?_insertMany d e.ascending key

/-- A union overlaid further may be overlaid first. -/
theorem union_insertMany (d e : Dict α) (pairs : List (String × α)) :
    d.union (e.insertMany pairs) = (d.union e).insertMany pairs := by
  induction pairs generalizing e with
  | nil => rfl
  | cons head rest ih =>
    have hinsert : d.union (e.insert head.1 head.2) = (d.union e).insert head.1 head.2 := by
      apply ext
      intro key
      simp only [get?_union, get?_insert]
      split
      · rfl
      · rfl
    have hhead : ∀ f : Dict α, f.insertMany (head :: rest) = (f.insert head.1 head.2).insertMany rest := fun _ => rfl
    rw [hhead, hhead, ih, hinsert]

/-- A map overlaid by itself is unchanged. -/
theorem union_self (d : Dict α) : d.union d = d := by
  apply ext
  intro key
  rw [get?_union, Option.or_self]

/-- Keys ascend. -/
theorem keys_pairwise (d : Dict α) : d.keys.Pairwise (· < ·) :=
  List.pairwise_map.mpr d.ascending

end Dict

end MediaCatalog
