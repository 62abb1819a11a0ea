import Mathlib.Data.List.Basic
import MediaCatalog.Proofs.Text.Identifier
import MediaCatalog.Text.Reader

/-!
# What readers find

A reader is made of others by sequence, choice and repetition. This file takes a success apart into those of the parts.

* `Reader.bind_eq_some_iff` and the equations of the single readers.
* `Reader.Repeats`: a reader finds values one after the other; this is all that is known of a repetition
  (`Reader.repeats_of_repeated`).
* `Reader.Repeats.pieces`: on a text made of pieces a repetition finds the value of each piece, up to where it stops.
* `Reader.OnlyFinds`: what holds of all that a reader finds.
-/

namespace MediaCatalog.Text.Reader

variable {α β : Type} {s s' : List Char}

/-! ## Single readers -/

/-- A given value is found anywhere, and nothing is read. -/
@[simp] theorem pure_apply (a : α) (s : List Char) : (pure a : Reader α) s = some (a, s) := rfl

/-- Nothing is found. -/
@[simp] theorem failure_apply (s : List Char) : (failure : Reader α) s = none := rfl

/-- The text that is left is found. -/
@[simp] theorem get_apply (s : List Char) : (get : Reader (List Char)) s = some (s, s) := rfl

/-- The text that is left becomes another one. -/
@[simp] theorem set_apply (t s : List Char) : (set t : Reader PUnit) s = some (⟨⟩, t) := rfl

/-- The next character is found and stays. -/
@[simp] theorem peek_apply (s : List Char) : peek s = some (s.head?, s) := rfl

/-- The longest run of a class is found, which may be empty. -/
@[simp] theorem takeWhile_apply (p : Char → Bool) (s : List Char) :
    takeWhile p s = some (s.takeWhile p, s.dropWhile p) := rfl

/-- What is found by one reader after another. -/
theorem bind_apply (r : Reader α) (f : α → Reader β) (s : List Char) :
    (r >>= f) s = (r s).bind fun found => f found.1 found.2 := rfl

/-- **Two readers in sequence** find something if the first does and then the second. -/
theorem bind_eq_some_iff {r : Reader α} {f : α → Reader β} {b : β} :
    (r >>= f) s = some (b, s') ↔ ∃ a t, r s = some (a, t) ∧ f a t = some (b, s') := by
  rw [bind_apply, Option.bind_eq_some_iff]
  simp

/-- What is found is changed, what is left is not. -/
@[simp] theorem map_apply (f : α → β) (r : Reader α) (s : List Char) :
    (f <$> r) s = (r s).map fun found => (f found.1, found.2) := by
  change (r s).bind _ = _
  cases r s <;> rfl

/-- It does not matter what is found. -/
@[simp] theorem discard_apply (r : Reader α) (s : List Char) : (discard r) s = (r s).map fun found => (⟨⟩, found.2) := by
  change (r s).bind _ = _
  cases r s <;> rfl

/-- The first of two readers that finds something counts. -/
@[simp] theorem orElse_apply (r r' : Reader α) (s : List Char) : (r <|> r') s = (r s).or (r' s) := by
  change (r s).orElse _ = _
  cases r s <;> rfl

/-- A given text is read exactly where it stands. -/
theorem exactly_eq_some_iff {text : String} {u : Unit} : exactly text s = some (u, s') ↔ s = text.toList ++ s' := by
  simp only [exactly, bind_apply, get_apply, Option.bind_some]
  split
  · next h =>
    obtain ⟨rest, rfl⟩ := List.isPrefixOf_iff_prefix.mp h
    simp [← String.length_toList]
  · next h =>
    refine iff_of_false (by simp) ?_
    rintro rfl
    exact h (List.isPrefixOf_iff_prefix.mpr (List.prefix_append _ _))

/-- A given text is read off the text that it begins. -/
@[simp] theorem exactly_append (text : String) (s : List Char) : exactly text (text.toList ++ s) = some ((), s) :=
  exactly_eq_some_iff.mpr rfl

/-- Behind a given text another reader goes on. -/
theorem exactly_bind (text : String) (r : Reader α) (s : List Char) :
    (do exactly text; r : Reader α) (text.toList ++ s) = r s := by
  rw [bind_apply, exactly_append, Option.bind_some]

/-- What is found in a whole text leaves nothing of it. -/
theorem whole?_eq_some_iff {r : Reader α} {a : α} : whole? r s = some a ↔ r s = some (a, []) := by
  unfold whole?
  split
  · next a' hread => simp [hread]
  · next hnot =>
    refine iff_of_false (fun h => by cases h) fun h => hnot a h

/-- A reader that may find nothing. -/
theorem optional_eq (r : Reader α) (s : List Char) :
    optional r s = some (((r s).map Prod.fst), ((r s).map Prod.snd).getD s) := by
  rw [optional]
  cases r s <;> rfl

/-- A run is read to where it ends, if there is one. -/
theorem takeSome_append {p : Char → Bool} {run rest : List Char} (hne : run ≠ []) (hrun : ∀ c ∈ run, p c = true)
    (hrest : BeginsOutside p rest) : takeSome p (run ++ rest) = some (run, rest) := by
  simp only [takeSome, bind_apply, takeWhile_apply, Option.bind_some]
  rw [takeWhile_append_of_beginsOutside hrun hrest, dropWhile_append_of_beginsOutside hrun hrest,
    if_neg (by simpa using hne)]
  rfl

/-- A run that is read is not empty, and goes on as far as it can. -/
theorem takeSome_eq_some {p : Char → Bool} {run : List Char} (h : takeSome p s = some (run, s')) :
    s = run ++ s' ∧ run ≠ [] ∧ (∀ c ∈ run, p c = true) ∧ BeginsOutside p s' := by
  simp only [takeSome, bind_apply, takeWhile_apply, Option.bind_some] at h
  split at h
  · cases h
  · next hne =>
    cases h
    exact ⟨List.takeWhile_append_dropWhile.symm, by simpa using hne, List.all_eq_true.mp List.all_takeWhile,
      beginsOutside_dropWhile p s⟩

/-- No run is read where none begins. -/
theorem takeSome_eq_none {p : Char → Bool} {rest : List Char} (hrest : BeginsOutside p rest) : takeSome p rest = none := by
  have hrun : rest.takeWhile p = [] := by
    simpa using takeWhile_append_of_beginsOutside (fun c hc => absurd hc List.not_mem_nil) hrest
  simp only [takeSome, bind_apply, takeWhile_apply, Option.bind_some, hrun]
  rfl

/-- An accepted character is read where it stands. -/
theorem one_eq_some_iff {p : Char → Bool} {c : Char} : one p s = some (c, s') ↔ s = c :: s' ∧ p c = true := by
  simp only [one, bind_apply, get_apply, Option.bind_some]
  cases s with
  | nil => simp
  | cons d rest =>
    by_cases hd : p d = true
    · simp only [hd, if_pos, bind_apply, set_apply, Option.bind_some, pure_apply, Option.some.injEq, Prod.mk.injEq,
        List.cons.injEq]
      constructor
      · rintro ⟨rfl, rfl⟩
        exact ⟨⟨rfl, rfl⟩, hd⟩
      · rintro ⟨⟨rfl, rfl⟩, -⟩
        exact ⟨rfl, rfl⟩
    · refine iff_of_false (by simp [hd]) ?_
      rintro ⟨h, hc⟩
      exact hd ((List.cons.inj h).1 ▸ hc)

/-- So many accepted characters are read where they stand. -/
theorem count_eq_some_iff {p : Char → Bool} {n : Nat} {run : List Char} :
    count p n s = some (run, s') ↔ s = run ++ s' ∧ run.length = n ∧ ∀ c ∈ run, p c = true := by
  induction n generalizing s run s' with
  | zero =>
    rw [count, pure_apply, List.length_eq_zero_iff]
    constructor
    · intro h
      cases h
      exact ⟨rfl, rfl, fun c hc => absurd hc List.not_mem_nil⟩
    · rintro ⟨rfl, rfl, -⟩
      rfl
  | succ n ih =>
    rw [count]
    simp only [bind_eq_some_iff, one_eq_some_iff, ih, pure_apply]
    constructor
    · rintro ⟨c, _, ⟨rfl, hc⟩, run, _, ⟨rfl, hlength, hrun⟩, h⟩
      cases h
      exact ⟨rfl, congrArg (· + 1) hlength, List.forall_mem_cons.mpr ⟨hc, hrun⟩⟩
    · rintro ⟨rfl, hlength, hrun⟩
      cases run with
      | nil => cases hlength
      | cons c run =>
        obtain ⟨hc, hrun⟩ := List.forall_mem_cons.mp hrun
        exact ⟨c, _, ⟨rfl, hc⟩, run, _, ⟨rfl, Nat.succ.inj hlength, hrun⟩, rfl⟩

/-! ## Repetition -/

/-- A reader finds values one after the other, from a text to what is left of it. -/
inductive Repeats (r : Reader α) : List Char → List α → List Char → Prop where
  | nil (s : List Char) : Repeats r s [] s
  | cons {s t u : List Char} {a : α} {as : List α} (h : r s = some (a, t)) (hrest : Repeats r t as u) :
      Repeats r s (a :: as) u

variable {r : Reader α} {as : List α}

/-- All that a repetition up to some number finds is found one after the other. -/
theorem repeats_of_upTo {n : Nat} (h : upTo r n s = some (as, s')) : Repeats r s as s' := by
  induction n generalizing s as with
  | zero =>
    cases h
    exact .nil _
  | succ n ih =>
    rw [upTo, bind_eq_some_iff] at h
    obtain ⟨found, t, hfound, h⟩ := h
    rw [optional_eq] at hfound
    cases hr : r s with
    | none =>
      rw [hr] at hfound
      cases hfound
      cases h
      exact .nil _
    | some first =>
      obtain ⟨a, t'⟩ := first
      rw [hr] at hfound
      cases hfound
      obtain ⟨rest, u, hrest, h⟩ := bind_eq_some_iff.mp h
      cases h
      exact .cons hr (ih hrest)

/-- **All that a repetition finds** is found one after the other. -/
theorem repeats_of_repeated (h : repeated r s = some (as, s')) : Repeats r s as s' := by
  obtain ⟨_, _, hget, h⟩ := bind_eq_some_iff.mp h
  cases hget
  exact repeats_of_upTo h

/-- All that is found one after the other, up to where the reader fails, is what a repetition finds that goes on long
enough. -/
theorem upTo_of_repeats {n : Nat} (h : Repeats r s as s') (hend : r s' = none) (hn : as.length ≤ n) :
    upTo r n s = some (as, s') := by
  induction h generalizing n with
  | nil s =>
    cases n with
    | zero => rfl
    | succ n => rw [upTo, bind_apply, optional_eq, hend]; rfl
  | cons hfirst _ ih =>
    cases n with
    | zero => exact absurd hn (by simp)
    | succ n =>
      rw [upTo, bind_apply, optional_eq, hfirst]
      exact bind_eq_some_iff.mpr ⟨_, _, ih hend (Nat.le_of_succ_le_succ hn), rfl⟩

/-- **What a repetition finds** is all that is found one after the other up to where the reader fails. -/
theorem repeated_of_repeats (h : Repeats r s as s') (hend : r s' = none) (hlength : as.length ≤ s.length) :
    repeated r s = some (as, s') := bind_eq_some_iff.mpr ⟨s, s, rfl, upTo_of_repeats h hend hlength⟩

/-- What is found between separators is a first value and what is found after separators. -/
theorem separated_of_repeats {separator : Reader Unit} {a : α} {t : List Char} (hfirst : r s = some (a, t))
    (h : Repeats (do separator; r) t as s') (hend : (do separator; r) s' = none) (hlength : as.length ≤ t.length) :
    separated r separator s = some (a :: as, s') := by
  rw [separated, bind_apply, optional_eq, hfirst]
  exact bind_eq_some_iff.mpr ⟨_, _, repeated_of_repeats h hend hlength, rfl⟩

/-- What is found between separators: nothing, or a first value and then others. -/
theorem separated_cases {separator : Reader Unit} (h : separated r separator s = some (as, s')) :
    (as = [] ∧ s' = s) ∨
      ∃ a t rest, as = a :: rest ∧ r s = some (a, t) ∧ Repeats (do separator; r) t rest s' := by
  rw [separated, bind_eq_some_iff] at h
  obtain ⟨found, t, hfound, h⟩ := h
  rw [optional_eq] at hfound
  cases hr : r s with
  | none =>
    rw [hr] at hfound
    cases hfound
    cases h
    exact .inl ⟨rfl, rfl⟩
  | some first =>
    obtain ⟨a, t'⟩ := first
    rw [hr] at hfound
    cases hfound
    obtain ⟨rest, u, hrest, h⟩ := bind_eq_some_iff.mp h
    cases h
    exact .inr ⟨a, _, rest, rfl, rfl, repeats_of_repeated hrest⟩

/-- **A text made of pieces** is read piece by piece, if each of them can only be read as its value; reading may stop
before the end, but does not go beyond it. What is left in between is stripped of what the reader takes in advance. -/
theorem Repeats.pieces {β : Type} (value : β → α) (text : β → List Char) (strip : List Char → List Char)
    (follows : List Char → Prop) {tail : List Char} {pieces : List β}
    (h : Repeats r (strip (pieces.flatMap text ++ tail)) as s') (hend : r (strip tail) = none) (htail : follows tail)
    (hnext : ∀ b ∈ pieces, ∀ t, follows (text b ++ t))
    (hread : ∀ b ∈ pieces, ∀ t a u, follows t → r (strip (text b ++ t)) = some (a, u) → a = value b ∧ u = strip t) :
    ∃ done left, pieces = done ++ left ∧ as = done.map value ∧ s' = strip (left.flatMap text ++ tail) := by
  induction pieces generalizing as with
  | nil =>
    cases h with
    | nil => exact ⟨[], [], rfl, rfl, rfl⟩
    | cons hfirst =>
      rw [List.flatMap_nil, List.nil_append, hend] at hfirst
      cases hfirst
  | cons b pieces ih =>
    cases h with
    | nil => exact ⟨[], b :: pieces, rfl, rfl, rfl⟩
    | cons hfirst hrest =>
      rw [List.flatMap_cons, List.append_assoc] at hfirst
      have hfollows : follows (pieces.flatMap text ++ tail) := by
        cases pieces with
        | nil => exact htail
        | cons next pieces =>
          rw [List.flatMap_cons, List.append_assoc]
          exact hnext next (List.mem_cons_of_mem _ List.mem_cons_self) _
      obtain ⟨rfl, rfl⟩ := hread b List.mem_cons_self _ _ _ hfollows hfirst
      obtain ⟨done, left, rfl, rfl, rfl⟩ := ih hrest (fun b hb => hnext b (List.mem_cons_of_mem _ hb))
        fun b hb => hread b (List.mem_cons_of_mem _ hb)
      exact ⟨b :: done, left, rfl, rfl, rfl⟩

/-! ## What holds of all that is found -/

/-- Whatever a reader finds has a property. -/
def OnlyFinds (P : α → Prop) (r : Reader α) : Prop := ∀ s a t, r s = some (a, t) → P a

section OnlyFinds

variable {P : α → Prop} {Q : β → Prop}

/-- A given value is all that is found. -/
theorem onlyFinds_pure {a : α} (h : P a) : OnlyFinds P (pure a) := by
  intro s a' t hread
  cases hread
  exact h

/-- Where nothing is found, whatever is found has the property. -/
theorem onlyFinds_failure : OnlyFinds P failure := fun _ _ _ h => by cases h

/-- What comes last is found. -/
theorem OnlyFinds.bind {x : Reader β} {f : β → Reader α} (hx : OnlyFinds Q x) (hf : ∀ b, Q b → OnlyFinds P (f b)) :
    OnlyFinds P (x >>= f) := by
  intro s a t h
  obtain ⟨b, u, hb, h⟩ := bind_eq_some_iff.mp h
  exact hf b (hx _ _ _ hb) _ _ _ h

/-- What comes last is found, whatever comes before. -/
theorem onlyFinds_bind {x : Reader β} {f : β → Reader α} (hf : ∀ b, OnlyFinds P (f b)) : OnlyFinds P (x >>= f) :=
  OnlyFinds.bind (Q := fun _ => True) (fun _ _ _ _ => True.intro) fun b _ => hf b

/-- Whichever of two readers it is, what it finds has the property. -/
theorem OnlyFinds.ite {c : Prop} [Decidable c] {r r' : Reader α} (h : OnlyFinds P r) (h' : OnlyFinds P r') :
    OnlyFinds P (if c then r else r') := by
  split
  · exact h
  · exact h'

/-- What is made of all that is found has the property. -/
theorem OnlyFinds.map {x : Reader β} {f : β → α} (hx : OnlyFinds Q x) (hf : ∀ b, Q b → P (f b)) : OnlyFinds P (f <$> x) := by
  intro s a t h
  rw [map_apply, Option.map_eq_some_iff] at h
  obtain ⟨⟨b, u⟩, hb, h⟩ := h
  cases h
  exact hf b (hx _ _ _ hb)

/-- All that a repetition finds has the property. -/
theorem Repeats.forall (h : Repeats r s as s') (hr : OnlyFinds P r) : ∀ a ∈ as, P a := by
  induction h with
  | nil => exact fun a ha => absurd ha List.not_mem_nil
  | cons hfirst _ ih => exact List.forall_mem_cons.mpr ⟨hr _ _ _ hfirst, ih⟩

/-- What is found in a whole text has the property. -/
theorem OnlyFinds.whole? {a : α} (hr : OnlyFinds P r) (h : whole? r s = some a) : P a := hr _ _ _ (whole?_eq_some_iff.mp h)

/-- What is found again and again has the property each time. -/
theorem OnlyFinds.repeated (hr : OnlyFinds P r) : OnlyFinds (fun as => ∀ a ∈ as, P a) (repeated r) :=
  fun _ _ _ h => (repeats_of_repeated h).forall hr

/-- What is found between separators has the property each time. -/
theorem OnlyFinds.separated (hr : OnlyFinds P r) (separator : Reader Unit) :
    OnlyFinds (fun as => ∀ a ∈ as, P a) (separated r separator) := by
  intro s as t h
  rcases separated_cases h with ⟨rfl, rfl⟩ | ⟨a, t, rest, rfl, hfirst, hrest⟩
  · exact fun a ha => absurd ha List.not_mem_nil
  · exact List.forall_mem_cons.mpr ⟨hr _ _ _ hfirst, hrest.forall (onlyFinds_bind fun _ => hr)⟩

end OnlyFinds

end MediaCatalog.Text.Reader
