import MediaCatalog.Proofs.Value
import MediaCatalog.Toml.Document

/-!
# Tables as statements build them

* `plainEntries_insert`, `get?_plainEntries`: the finished entries follow the items.
* `alter?_cons`: how a table below a name is changed; `alter?_append`: a change at a path in two parts.
* `Place`: where a path leads in tables under construction. Statements change what stands there and nothing else
  (`Place.putValue?`, `Place.openTable?`, `Place.addElement?`).
* **Main result** (`wellFormed_of_entriesOf?`): statements with ordered values build ordered tables.
-/

namespace MediaCatalog.Toml

variable {items items' inner : Items} {name : String} {path : Path} {o : Origin}

/-! ## Finished entries -/

/-- What stands under a name in the end is what is built there. -/
theorem get?_plainEntries (name : String) (items : Items) :
    Pairs.get? name (plainEntries items) = (Pairs.get? name items).map Item.plain := by
  induction items with
  | nil => rfl
  | cons head rest ih =>
    obtain ⟨k, item⟩ := head
    rw [plainEntries, Pairs.get?, Pairs.get?, ih]
    split <;> rfl

/-- An item that is put under a name stands there in the end. -/
theorem plainEntries_insert (name : String) (item : Item) (items : Items) :
    plainEntries (Pairs.insert name item items) = Pairs.insert name item.plain (plainEntries items) := by
  induction items with
  | nil => rfl
  | cons head rest ih =>
    obtain ⟨k, old⟩ := head
    rw [plainEntries, Pairs.insert, Pairs.insert]
    split
    · rfl
    · split
      · rfl
      · rw [plainEntries, ih]

/-- Each element of a list is finished for itself. -/
theorem plainElements_eq_map (elements : List Items) :
    plainElements elements = elements.map fun items => .table (plainEntries items) := by
  induction elements with
  | nil => rfl
  | cons items elements ih => rw [plainElements, ih, List.map_cons]

/-! ## Changing a table at a path -/

/-- **A change below a name** goes on in a new table, in the table that is there, or in the last element of a list; a value
lets nothing pass, nor does a table with a header if the path is dotted. -/
theorem alter?_cons (dotted : Bool) (change : Origin → Items → Option Items) (o : Origin) (items : Items) (name : String)
    (path : Path) :
    (Pairs.get? name items = none ∧ alter? dotted change o items (name :: path) =
        (alter? dotted change (if dotted then .dotted else .implied) [] path).map fun inner =>
          Pairs.insert name (.table (if dotted then .dotted else .implied) inner) items) ∨
      (∃ known inner, Pairs.get? name items = some (.table known inner) ∧ (dotted = true ∧ known = .header → False) ∧
        alter? dotted change o items (name :: path) = (alter? dotted change known inner path).map fun inner =>
          Pairs.insert name (.table known inner) items) ∨
      (∃ earlier last, Pairs.get? name items = some (.elements earlier last) ∧
        alter? dotted change o items (name :: path) = (alter? dotted change .header last path).map fun last =>
          Pairs.insert name (.elements earlier last) items) ∨
      alter? dotted change o items (name :: path) = none := by
  rw [alter?]
  split
  · next hget => exact .inl ⟨hget, rfl⟩
  · exact .inr (.inr (.inr rfl))
  · next known inner hget =>
    split
    · exact .inr (.inr (.inr rfl))
    · next hopen => exact .inr (.inl ⟨known, inner, hget, by simpa using hopen, rfl⟩)
  · next earlier last hget => exact .inr (.inr (.inl ⟨earlier, last, hget, rfl⟩))

/-- A change at a path in two parts is one at the first part that goes on along the second. -/
theorem alter?_append (dotted : Bool) (change : Origin → Items → Option Items) (o : Origin) (items : Items)
    (path path' : Path) :
    alter? dotted change o items (path ++ path') =
      alter? dotted (fun reached inner => alter? dotted change reached inner path') o items path := by
  induction path generalizing o items with
  | nil => rw [List.nil_append, alter?]
  | cons name path ih =>
    rw [List.cons_append, alter?, alter?]
    split
    · dsimp only
      rw [ih]
    · rfl
    · rw [ih]
    · rw [ih]

/-! ## Places -/

/-- A path leads to a place of some origin in tables under construction: what stands there is changed, and all else is
put around it again. -/
def Place (path : Path) (o : Origin) (around : Items → Items) : Prop :=
  ∀ change inner, alter? false change .header (around inner) path = (change o inner).map around

variable {around : Items → Items}

/-- The top is a place. -/
theorem place_root : Place [] .header id := fun change inner => by
  rw [alter?, Option.map_id]
  rfl

/-- A table at a place is a place. -/
theorem Place.table (h : Place path o around) (name : String) (known : Origin) (inner : Items) :
    Place (path ++ [name]) known fun items => around (Pairs.insert name (.table known items) inner) := by
  intro change items
  rw [alter?_append, h]
  simp only [alter?, Pairs.get?_insert, if_pos, Bool.false_and, Bool.false_eq_true, if_false, Option.map_map]
  refine congrArg (Option.map · _) (funext fun after => ?_)
  rw [Function.comp, Pairs.insert_insert]

/-- The last element of a list at a place is a place. -/
theorem Place.element (h : Place path o around) (name : String) (earlier : List Items) (inner : Items) :
    Place (path ++ [name]) .header fun items => around (Pairs.insert name (.elements earlier items) inner) := by
  intro change items
  rw [alter?_append, h]
  simp only [alter?, Pairs.get?_insert, if_pos, Option.map_map]
  refine congrArg (Option.map · _) (funext fun after => ?_)
  rw [Function.comp, Pairs.insert_insert]

/-- Where nothing stands, a path to something within leads through a table that is only implied. -/
theorem Place.implied (h : Place path o around) (hnew : Pairs.get? name inner = none)
    (change : Origin → Items → Option Items) (path' : Path) :
    alter? false change .header (around inner) (path ++ name :: path') =
      alter? false change .header (around (Pairs.insert name (.table .implied []) inner)) (path ++ name :: path') := by
  rw [alter?_append, alter?_append, h, h]
  simp only [alter?, hnew, Pairs.get?_insert, if_pos, Bool.false_and, Bool.false_eq_true, if_false, Option.map_map]
  refine congrArg (Option.map · _) (funext fun after => ?_)
  rw [Function.comp, Function.comp, Pairs.insert_insert]

/-- **A value is put** at a new name in a place that takes entries. -/
theorem Place.putValue? (h : Place path o around) (ho : o ≠ .dotted) (hnew : Pairs.get? name inner = none) (v : Value) :
    putValue? path [name] v (around inner) = some (around (Pairs.insert name (.value v) inner)) := by
  rw [Toml.putValue?, h]
  simp [putBelow?, alter?, ho, hnew]

/-- **A table is opened** at a new name. -/
theorem Place.openTable? (h : Place path o around) (hnew : Pairs.get? name inner = none) :
    openTable? (path ++ [name]) (around inner) = some (around (Pairs.insert name (.table .header []) inner)) := by
  simp only [Toml.openTable?, List.getLast?_append, List.getLast?_singleton, Option.some_or, List.dropLast_concat, h _ inner,
    hnew]
  rfl

/-- **A first element** makes a list at a new name. -/
theorem Place.addElement?_new (h : Place path o around) (hnew : Pairs.get? name inner = none) :
    addElement? (path ++ [name]) (around inner) = some (around (Pairs.insert name (.elements [] []) inner)) := by
  simp only [addElement?, List.getLast?_append, List.getLast?_singleton, Option.some_or, List.dropLast_concat, h _ inner, hnew]
  rfl

/-- **A further element** follows the last one. -/
theorem Place.addElement?_next (h : Place path o around) (name : String) (earlier : List Items) (last inner : Items) :
    addElement? (path ++ [name]) (around (Pairs.insert name (.elements earlier last) inner)) =
      some (around (Pairs.insert name (.elements (earlier ++ [last]) []) inner)) := by
  simp only [addElement?, List.getLast?_append, List.getLast?_singleton, Option.some_or, List.dropLast_concat, h _ _,
    Pairs.get?_insert, if_pos, Pairs.insert_insert]
  rfl

/-! ## Values at new names -/

/-- Items with values at the names of entries. -/
def putValues (entries : Entries) (items : Items) : Items :=
  entries.foldl (fun items e => Pairs.insert e.1 (.value e.2) items) items

/-- Values that were put at names stand there in the end. -/
theorem plainEntries_putValues (entries : Entries) (items : Items) :
    plainEntries (putValues entries items) =
      entries.foldl (fun after e => Pairs.insert e.1 e.2 after) (plainEntries items) := by
  induction entries generalizing items with
  | nil => rfl
  | cons e entries ih =>
    have hcons : putValues (e :: entries) items = putValues entries (Pairs.insert e.1 (.value e.2) items) := rfl
    rw [hcons, ih, plainEntries_insert, Item.plain, List.foldl_cons]

/-- **Values put one after the other** at new names in ascending order are all put, if each can be put at a new name. -/
theorem foldlM_putValues {β : Type} {step : β → String × Value → Option β} (around : Items → β) {entries : Entries}
    (hstep : ∀ items e, Pairs.get? e.1 items = none →
      step (around items) e = some (around (Pairs.insert e.1 (.value e.2) items)))
    (h : Ascending entries) (hnew : ∀ e ∈ entries, Pairs.get? e.1 items = none) :
    entries.foldlM step (around items) = some (around (putValues entries items)) := by
  induction entries generalizing items with
  | nil => rfl
  | cons e entries ih =>
    obtain ⟨hhead, hrest⟩ := List.pairwise_cons.mp h
    rw [List.foldlM_cons, hstep items e (hnew e List.mem_cons_self)]
    refine ih hrest fun e' he' => ?_
    have hne : e.1 ≠ e'.1 := fun heq => String.lt_irrefl e.1 (heq ▸ hhead e' he')
    rw [Pairs.get?_insert, if_neg hne]
    exact hnew e' (List.mem_cons_of_mem e he')

/-- **A table on one line** with the pairs of ordered entries has these entries. -/
theorem entriesOfPairs?_entries {entries : Entries} (h : Ascending entries) :
    entriesOfPairs? (entries.map fun e => ([e.1], e.2)) = some entries := by
  have hfold : entries.foldlM (fun items e => putBelow? [e.1] e.2 .header items) [] = some (putValues entries []) := by
    refine foldlM_putValues id (fun items e hnew => ?_) h fun _ _ => rfl
    simp [putBelow?, alter?, hnew]
  rw [entriesOfPairs?, List.foldlM_map, hfold, Option.map_some, plainEntries_putValues, plainEntries, Pairs.foldl_insert_nil h]

/-! ## Statements build ordered tables -/

/-- The finished entries are in order at all levels. -/
def Ordered (items : Items) : Prop := (Value.table (plainEntries items)).WellFormed

/-- Nothing is in order. -/
theorem ordered_nil : Ordered [] := Value.wellFormed_empty

/-- Items stay in order when one is put among them that is. -/
theorem Ordered.insert {item : Item} (h : Ordered items) (hitem : item.plain.WellFormed) (name : String) :
    Ordered (Pairs.insert name item items) := by
  rw [Ordered, plainEntries_insert]
  exact Value.WellFormed.insert h hitem name

/-- Each of the items is in order. -/
theorem Ordered.of_get? {item : Item} (h : Ordered items) (hget : Pairs.get? name items = some item) :
    item.plain.WellFormed := by
  have hplain : Pairs.get? name (plainEntries items) = some item.plain := by
    rw [get?_plainEntries, hget]
    rfl
  exact Value.WellFormed.of_get? h hplain

/-- A table is in order if its items are. -/
theorem wellFormed_table : (Item.table o items).plain.WellFormed ↔ Ordered items := by rw [Item.plain, Ordered]

/-- A list of tables is in order if they are. -/
theorem wellFormed_elements {earlier : List Items} {last : Items} :
    (Item.elements earlier last).plain.WellFormed ↔ (∀ items ∈ earlier, Ordered items) ∧ Ordered last := by
  rw [Item.plain, plainElements_eq_map]
  constructor
  · intro h
    have hmem := h.of_mem_list
    exact ⟨fun items hitems => hmem _ (List.mem_append_left _ (List.mem_map_of_mem hitems)),
      hmem _ (List.mem_append_right _ List.mem_cons_self)⟩
  · rintro ⟨hearlier, hlast⟩
    refine .list fun v hv => ?_
    rcases List.mem_append.mp hv with hv | hv
    · obtain ⟨items, hitems, rfl⟩ := List.mem_map.mp hv
      exact hearlier items hitems
    · cases List.mem_singleton.mp hv
      exact hlast

/-- **A change that keeps the order** where it takes place keeps it everywhere. -/
theorem Ordered.alter? {dotted : Bool} {change : Origin → Items → Option Items}
    (hchange : ∀ reached inner inner', Ordered inner → change reached inner = some inner' → Ordered inner')
    (h : Ordered items) (halter : alter? dotted change o items path = some items') : Ordered items' := by
  induction path generalizing o items items' with
  | nil => exact hchange _ _ _ h halter
  | cons name path ih =>
    rcases alter?_cons dotted change o items name path with ⟨-, heq⟩ | ⟨known, inner, hget, -, heq⟩ |
      ⟨earlier, last, hget, heq⟩ | heq
    · rw [heq, Option.map_eq_some_iff] at halter
      obtain ⟨after, hafter, rfl⟩ := halter
      exact h.insert (wellFormed_table.mpr (ih ordered_nil hafter)) name
    · rw [heq, Option.map_eq_some_iff] at halter
      obtain ⟨after, hafter, rfl⟩ := halter
      exact h.insert (wellFormed_table.mpr (ih (wellFormed_table.mp (h.of_get? hget)) hafter)) name
    · rw [heq, Option.map_eq_some_iff] at halter
      obtain ⟨after, hafter, rfl⟩ := halter
      obtain ⟨hearlier, hlast⟩ := wellFormed_elements.mp (h.of_get? hget)
      exact h.insert (wellFormed_elements.mpr ⟨hearlier, ih hlast hafter⟩) name
    · rw [heq] at halter
      cases halter

/-- A value put below a table keeps the order. -/
theorem Ordered.putBelow? {v : Value} (hv : v.WellFormed) (h : Ordered items) (hput : putBelow? path v o items = some items') :
    Ordered items' := by
  unfold Toml.putBelow? at hput
  cases hlast : path.getLast? with
  | none =>
    rw [hlast] at hput
    cases hput
  | some name =>
    rw [hlast] at hput
    refine h.alter? (fun reached inner inner' hinner hchange => ?_) hput
    obtain ⟨-, hchange⟩ := Option.ite_none_left_eq_some.mp hchange
    obtain ⟨-, hchange⟩ := Option.ite_none_left_eq_some.mp hchange
    cases hchange
    exact hinner.insert (by rwa [Item.plain]) name

/-- A table that is opened keeps the order. -/
theorem Ordered.openTable? (h : Ordered items) (hopen : openTable? path items = some items') : Ordered items' := by
  unfold Toml.openTable? at hopen
  cases hlast : path.getLast? with
  | none =>
    rw [hlast] at hopen
    cases hopen
  | some name =>
    rw [hlast] at hopen
    refine h.alter? (fun reached inner inner' hinner hchange => ?_) hopen
    split at hchange
    · cases hchange
      exact hinner.insert (wellFormed_table.mpr ordered_nil) name
    · next known hget =>
      cases hchange
      exact hinner.insert (wellFormed_table.mpr (wellFormed_table.mp (hinner.of_get? hget))) name
    · cases hchange

/-- An element that is added keeps the order. -/
theorem Ordered.addElement? (h : Ordered items) (hadd : addElement? path items = some items') : Ordered items' := by
  unfold Toml.addElement? at hadd
  cases hlast : path.getLast? with
  | none =>
    rw [hlast] at hadd
    cases hadd
  | some name =>
    rw [hlast] at hadd
    refine h.alter? (fun reached inner inner' hinner hchange => ?_) hadd
    split at hchange
    · cases hchange
      exact hinner.insert (wellFormed_elements.mpr ⟨fun _ hmem => absurd hmem List.not_mem_nil, ordered_nil⟩) name
    · next earlier last hget =>
      cases hchange
      obtain ⟨hearlier, hlast⟩ := wellFormed_elements.mp (hinner.of_get? hget)
      refine hinner.insert (wellFormed_elements.mpr ⟨fun items hitems => ?_, ordered_nil⟩) name
      rcases List.mem_append.mp hitems with hitems | hitems
      · exact hearlier items hitems
      · cases List.mem_singleton.mp hitems
        exact hlast
    · cases hchange

/-- What each step keeps holds at the end. -/
theorem keeps_of_foldlM {α β : Type} {P : β → Prop} {f : β → α → Option β} {steps : List α} {b b' : β}
    (hstep : ∀ a ∈ steps, ∀ b b', P b → f b a = some b' → P b') (hb : P b) (h : steps.foldlM f b = some b') : P b' := by
  induction steps generalizing b with
  | nil =>
    cases h
    exact hb
  | cons a steps ih =>
    rw [List.foldlM_cons, Option.bind_eq_bind, Option.bind_eq_some_iff] at h
    obtain ⟨after, hafter, h⟩ := h
    exact ih (fun a ha => hstep a (List.mem_cons_of_mem _ ha)) (hstep a List.mem_cons_self _ _ hb hafter) h

/-- **Pairs with ordered values** make an ordered table on one line. -/
theorem wellFormed_of_entriesOfPairs? {pairs : List (Path × Value)} {entries : Entries}
    (hpairs : ∀ pair ∈ pairs, pair.2.WellFormed) (h : entriesOfPairs? pairs = some entries) :
    (Value.table entries).WellFormed := by
  obtain ⟨items, hitems, rfl⟩ := Option.map_eq_some_iff.mp h
  exact keeps_of_foldlM (P := Ordered) (fun pair hpair _ _ hbefore hput => hbefore.putBelow? (hpairs pair hpair) hput)
    ordered_nil hitems

/-- The value of a statement, if it has one, is in order. -/
def Statement.WellFormed : Statement → Prop
  | .entry _ v => v.WellFormed
  | _ => True

/-- What a statement adds keeps the order. -/
theorem Ordered.add? {p p' : Progress} {s : Statement} (hs : s.WellFormed) (h : Ordered p.items) (hadd : p.add? s = some p') :
    Ordered p'.items := by
  cases s with
  | entry path v =>
    obtain ⟨items, hitems, rfl⟩ := Option.map_eq_some_iff.mp hadd
    exact h.alter? (fun reached inner inner' hinner hput => hinner.putBelow? hs hput) hitems
  | table path =>
    obtain ⟨items, hitems, rfl⟩ := Option.map_eq_some_iff.mp hadd
    exact h.openTable? hitems
  | element path =>
    obtain ⟨items, hitems, rfl⟩ := Option.map_eq_some_iff.mp hadd
    exact h.addElement? hitems

/-- **Statements with ordered values** build ordered tables. -/
theorem wellFormed_of_entriesOf? {statements : List Statement} {entries : Entries}
    (hstatements : ∀ s ∈ statements, s.WellFormed) (h : entriesOf? statements = some entries) :
    (Value.table entries).WellFormed := by
  obtain ⟨progress, hprogress, rfl⟩ := Option.map_eq_some_iff.mp h
  exact keeps_of_foldlM (P := fun progress : Progress => Ordered progress.items)
    (fun s hs _ _ hbefore hadd => hbefore.add? (hstatements s hs) hadd) ordered_nil hprogress

end MediaCatalog.Toml
