/-!
# Finite maps keyed by numbers

A `NumberMap α` maps finitely many numbers to values of `α`. Its keys are in no particular order: what
is seen of it are its look-ups and how many keys it has.

* `NumberMap.insert`, `NumberMap.erase`: the operations, each with its look-up equation
  (`get?_insert`, `get?_erase`).
-/

namespace MediaCatalog

/-- A finite map from numbers. -/
structure NumberMap (α : Type) where
  pairs : List (Nat × α)
  /-- No number occurs twice. -/
  distinct : pairs.Pairwise fun a b => a.1 ≠ b.1

namespace NumberMap

variable {α : Type}

/-- The map without numbers. -/
def empty : NumberMap α := ⟨[], List.Pairwise.nil⟩

/-- The value at a number, if the number is present. -/
def get? (m : NumberMap α) (key : Nat) : Option α := m.pairs.lookup key

/-- The map without a number. -/
def erase (m : NumberMap α) (key : Nat) : NumberMap α :=
  ⟨m.pairs.filter fun e => e.1 ≠ key, m.distinct.filter _⟩

/-- The map with a number set to a value; the value it had is replaced. -/
def insert (m : NumberMap α) (key : Nat) (value : α) : NumberMap α where
  pairs := (key, value) :: (m.erase key).pairs
  distinct := by
    refine List.pairwise_cons.mpr ⟨?_, (m.erase key).distinct⟩
    intro e he
    have hne := (List.mem_filter.mp he).2
    simpa using Ne.symm (of_decide_eq_true hne)

/-- How many numbers there are. -/
def size (m : NumberMap α) : Nat := m.pairs.length

/-- Nothing stands in an empty map. -/
@[simp] theorem get?_empty (key : Nat) : (empty : NumberMap α).get? key = none := rfl

/-- Looking a number up in a list of pairs from which a number was dropped. -/
theorem lookup_filter_ne (key key' : Nat) (pairs : List (Nat × α)) :
    (pairs.filter fun e => e.1 ≠ key).lookup key' = if key = key' then none else pairs.lookup key' := by
  induction pairs with
  | nil => simp
  | cons head rest ih =>
    obtain ⟨k, v⟩ := head
    by_cases hk : k = key
    · subst hk
      rw [List.filter_cons_of_neg (by simp), ih, List.lookup_cons]
      by_cases h : k = key'
      · rw [if_pos h, if_pos h]
      · rw [if_neg h, if_neg h, beq_false_of_ne (Ne.symm h)]
    · rw [List.filter_cons_of_pos (by simpa using hk), List.lookup_cons, ih, List.lookup_cons]
      by_cases h : k = key'
      · subst h
        simp [Ne.symm hk]
      · rw [beq_false_of_ne (Ne.symm h)]

/-- Under a number that was dropped stands nothing, and under any other what stood there. -/
theorem get?_erase (m : NumberMap α) (key key' : Nat) :
    (m.erase key).get? key' = if key = key' then none else m.get? key' :=
  lookup_filter_ne key key' m.pairs

/-- Under a number that was set stands its value, and under any other what stood there. -/
theorem get?_insert (m : NumberMap α) (key key' : Nat) (value : α) :
    (m.insert key value).get? key' = if key = key' then some value else m.get? key' := by
  have hcons : (m.insert key value).get? key' = if key' == key then some value else (m.erase key).get? key' := by
    unfold get? insert
    rw [List.lookup_cons]
    split <;> simp_all
  rw [hcons, get?_erase]
  by_cases h : key = key'
  · simp [h]
  · simp [h, Ne.symm h]

end NumberMap

end MediaCatalog
