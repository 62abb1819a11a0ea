import MediaCatalog.Proofs.Number.Decimal
import MediaCatalog.Proofs.Schema.QueryTemplate
import MediaCatalog.Proofs.Text.Replacement

/-!
# Query templates replace just their references

A query template is filled in with a chain of entries: every reference `$name[n].field` in its text gives way to a value
of the entry it refers to, and everything else stays.

* `Backref.RefersTo`: the entry to which a reference refers; `Backref.Yields`: what it stands for.
* **Values** (`Backref.yields_iff`): a reference stands for one text, which is its value.
* **Filling in** (`QueryPart.replaced_iff_fill`): a text filled in is the text with its references replaced, in one pass.
* **Older entries** (`Backref.value?_append_left`): they matter only to references that reached beyond the chain.
* **Main result** (`QueryTemplate.substitute_eq_iff`): the text of a template with its references replaced; its parts, and
  which of them older entries change.
-/

namespace MediaCatalog

/-! ## What a reference stands for -/

namespace Backref

/-- The number of a reference, however many digits it has. -/
def number (r : Backref) : Nat := Nat.ofDigitChars 10 r.digits 0

/-- A reference counts from the end of the chain by its number. -/
theorem index_eq_number {r : Backref} (h : r.WellFormed) : r.index = r.number := by
  rw [index, Number.digitsValue?, Number.foldl_digitValue? h.digits]
  rfl

/-- The entry of a chain to which a reference refers: its number is the place from the end, the last entry being the
first. -/
def RefersTo (r : Backref) (chain : List Entry) (e : Entry) : Prop :=
  r.name = chainName ∧ ∃ older newer, chain = older ++ e :: newer ∧ r.number = newer.length + 1

/-- What a reference stands for: the key or a field of the entry it refers to; nothing if the entry lacks the field, and
nothing if there is no such entry. -/
inductive Yields (r : Backref) (chain : List Entry) : List Char → Prop
  | key {e : Entry} (h : r.RefersTo chain e) (hkey : String.ofList r.field = Entry.keyField) :
      Yields r chain e.key.text.toList
  | field {e : Entry} {v : String} (h : r.RefersTo chain e) (hfield : String.ofList r.field ≠ Entry.keyField)
      (hv : e.get? (String.ofList r.field) = some v) : Yields r chain v.toList
  | lacking {e : Entry} (h : r.RefersTo chain e) (hfield : String.ofList r.field ≠ Entry.keyField)
      (hv : e.get? (String.ofList r.field) = none) : Yields r chain []
  | nothing (h : ∀ e, ¬r.RefersTo chain e) : Yields r chain []

variable {r : Backref} {chain : List Entry}

/-- A reference to an entry has its value there. -/
theorem value?_of_refersTo (hr : r.WellFormed) {e : Entry} (h : r.RefersTo chain e) :
    r.value? chain = e.keyOrField? (String.ofList r.field) := by
  obtain ⟨hname, older, newer, rfl, hn⟩ := h
  exact value?_append hname ((index_eq_number hr).trans hn)

/-- A reference to no entry has no value. -/
theorem value?_of_not_refersTo (hr : r.WellFormed) (h : ∀ e, ¬r.RefersTo chain e) : r.value? chain = none := by
  refine if_neg ?_
  rintro ⟨hname, hpos, hle⟩
  have hlt : chain.length - r.index < chain.length := by omega
  refine h chain[chain.length - r.index] ⟨hname, chain.take (chain.length - r.index),
    chain.drop (chain.length - r.index + 1), ?_, ?_⟩
  · rw [← List.drop_eq_getElem_cons hlt, List.take_append_drop]
  · rw [← index_eq_number hr, List.length_drop]
    omega

/-- **A reference stands for one text**, which is its value. -/
theorem yields_iff (hr : r.WellFormed) {v : List Char} : r.Yields chain v ↔ ((r.value? chain).getD "").toList = v := by
  constructor
  · intro h
    cases h with
    | key h hkey => rw [value?_of_refersTo hr h, Entry.keyOrField?, if_pos hkey, Option.getD_some]
    | field h hfield hv => rw [value?_of_refersTo hr h, Entry.keyOrField?, if_neg hfield, hv, Option.getD_some]
    | lacking h hfield hv =>
      rw [value?_of_refersTo hr h, Entry.keyOrField?, if_neg hfield, hv]
      rfl
    | nothing h =>
      rw [value?_of_not_refersTo hr h]
      rfl
  · rintro rfl
    by_cases h : ∃ e, r.RefersTo chain e
    · obtain ⟨e, h⟩ := h
      rw [value?_of_refersTo hr h, Entry.keyOrField?]
      split
      case isTrue hkey => exact .key h hkey
      case isFalse hfield =>
        cases hv : e.get? (String.ofList r.field) with
        | some v => exact .field h hfield hv
        | none => exact .lacking h hfield hv
    · have hnone : ∀ e, ¬r.RefersTo chain e := fun e he => h ⟨e, he⟩
      rw [value?_of_not_refersTo hr hnone]
      exact .nothing hnone

/-- **Older entries** in front of a chain change nothing for a reference that does not reach beyond the chain. -/
theorem value?_append_left (hr : r.WellFormed) (h : r.name = chainName → r.number ≤ chain.length) (older : List Entry) :
    r.value? (older ++ chain) = r.value? chain := by
  by_cases hrefers : ∃ e, r.RefersTo chain e
  · obtain ⟨e, he⟩ := hrefers
    obtain ⟨hname, between, newer, rfl, hn⟩ := he
    have hlonger : r.RefersTo (older ++ (between ++ e :: newer)) e :=
      ⟨hname, older ++ between, newer, (List.append_assoc _ _ _).symm, hn⟩
    rw [value?_of_refersTo hr hlonger, value?_of_refersTo hr ⟨hname, between, newer, rfl, hn⟩]
  · have hnone : ∀ e, ¬r.RefersTo chain e := fun e he => hrefers ⟨e, he⟩
    rw [value?_of_not_refersTo hr hnone]
    refine value?_of_not_refersTo hr ?_
    rintro e ⟨hname, before, newer, hsplit, hn⟩
    -- the entry would stand in the chain, as no more than its entries come behind it
    have hle := h hname
    rcases List.append_eq_append_iff.mp hsplit with ⟨x, -, hx⟩ | ⟨x, -, hx⟩
    · exact hnone e ⟨hname, x, newer, hx, hn⟩
    · cases x with
      | nil => exact hnone e ⟨hname, [], newer, hx.symm, hn⟩
      | cons d x =>
        have hlength : newer.length = x.length + chain.length := by
          rw [(List.cons.inj hx).2]
          exact List.length_append
        omega

/-- References as marks of a text. The name ends at the bracket; the field goes as far as it can. -/
def Mark (chain : List Entry) (mark rest value : List Char) : Prop :=
  ∃ r : Backref, mark = '$' :: r.body ∧ r.WellFormed ∧ Text.BeginsOutside Text.isIdentChar rest ∧ r.Yields chain value

end Backref

/-! ## Filling in -/

namespace QueryPart

variable {chain : List Entry}

/-- Where no reference is a mark, none is read. -/
theorem read?_eq_none_of_no_mark {s : List Char}
    (h : ∀ mark rest value, '$' :: s = mark ++ rest → ¬Backref.Mark chain mark rest value) : Backref.read? s = none := by
  rw [Option.eq_none_iff_forall_ne_some]
  rintro ⟨r, rest⟩ hread
  obtain ⟨rfl, hr, hrest⟩ := Backref.read?_eq_some_iff.mp hread
  exact h ('$' :: r.body) rest _ rfl ⟨r, rfl, hr, hrest, (Backref.yields_iff hr).mpr rfl⟩

/-- **A text filled in** is the text with its references replaced by what they stand for. -/
theorem replaced_iff_fill {s out : List Char} : Text.Replaced (Backref.Mark chain) s out ↔ fill chain s = out := by
  refine Text.replaced_iff ?_ ?_ ?_ ?_
  · rintro mark rest value ⟨r, rfl, -⟩
    exact List.cons_ne_nil _ _
  · rw [fill, scan]
    rfl
  · intro c s hnone
    refine fill_literal ?_
    rintro rfl
    exact read?_eq_none_of_no_mark hnone
  · rintro mark rest value ⟨r, rfl, hr, hrest, hvalue⟩
    rw [List.cons_append, fill_backref (Backref.read?_eq_some_iff.mpr ⟨rfl, hr, hrest⟩),
      (Backref.yields_iff hr).mp hvalue]

/-! ## Parts -/

/-- One more character of literal text is one more character in the text of the parts. -/
theorem flatMap_source_consLiteral (c : Char) (parts : List QueryPart) :
    (consLiteral c parts).flatMap source = c :: parts.flatMap source := by
  match parts with
  | [] => rfl
  | literal text :: parts => rfl
  | backref r :: parts => rfl

/-- **The parts of a template** make up its text. -/
theorem flatMap_source_scan (s : List Char) : (scan s).flatMap source = s := by
  fun_induction scan s with
  | case1 => rfl
  | case2 c rest r after h ih =>
    split at h
    next hc =>
      rw [List.flatMap_cons, ih, source, hc, Backref.read?_eq_some h]
      rfl
    next => cases h
  | case3 c rest _ ih => rw [flatMap_source_consLiteral, ih]

/-- Every reference among the parts can be read back. -/
theorem wellFormed_of_mem_scan {s : List Char} {r : Backref} (h : backref r ∈ scan s) : r.WellFormed := by
  fun_induction scan s with
  | case1 => cases h
  | case2 c rest r' after hread ih =>
    rcases List.mem_cons.mp h with heq | h
    · cases heq
      split at hread
      next => exact (Backref.read?_eq_some_iff.mp hread).2.1
      next => cases hread
    · exact ih h
  | case3 c rest _ ih => exact ih (mem_consLiteral_iff.mp h)

end QueryPart

namespace QueryTemplate

/-- **Query templates replace just their references.** A template filled in with a chain is its text with every reference
replaced by what it stands for, from left to right and in one pass. So with older entries in front of the chain the same
parts are filled in, which make up the text of the template, and a part changes only if it is a reference to the chain whose
number is above the length of the chain. -/
theorem substitute_eq_iff (t : QueryTemplate) (chain : List Entry) :
    (∀ out, t.substitute chain = out ↔ Text.Replaced (Backref.Mark chain) t.source.toList out.toList) ∧
      t.parts.flatMap QueryPart.source = t.source.toList ∧
      ∀ older, (t.substitute chain).toList = t.parts.flatMap (QueryPart.substitute chain) ∧
        (t.substitute (older ++ chain)).toList = t.parts.flatMap (QueryPart.substitute (older ++ chain)) ∧
        ∀ part ∈ t.parts, part.substitute (older ++ chain) ≠ part.substitute chain →
          ∃ r, part = .backref r ∧ r.name = Backref.chainName ∧ chain.length < r.number := by
  have hlist : ∀ chain, (t.substitute chain).toList = QueryPart.fill chain t.source.toList :=
    fun chain => String.toList_ofList
  refine ⟨fun out => ?_, QueryPart.flatMap_source_scan _, fun older => ⟨hlist chain, hlist (older ++ chain), ?_⟩⟩
  · rw [QueryPart.replaced_iff_fill, ← hlist, String.toList_inj]
  · intro part hpart hchanged
    match part with
    | .literal text => exact absurd rfl hchanged
    | .backref r =>
      have hr := QueryPart.wellFormed_of_mem_scan hpart
      by_cases hreach : r.name = Backref.chainName ∧ chain.length < r.number
      · exact ⟨r, rfl, hreach⟩
      · have hsame : r.value? (older ++ chain) = r.value? chain :=
          Backref.value?_append_left hr (fun hname => Nat.le_of_not_lt fun hlt => hreach ⟨hname, hlt⟩) older
        exact absurd (congrArg (fun v => (Option.getD v "").toList) hsame) hchanged

end QueryTemplate

end MediaCatalog
