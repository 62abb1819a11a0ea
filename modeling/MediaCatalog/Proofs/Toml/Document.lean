import MediaCatalog.Proofs.Toml.Statement
import MediaCatalog.Proofs.Toml.WellFormed

/-!
# Documents are read back

* `Builds`: statements turn tables under construction into others.
* `Describes`, `Part`: the statements for the content of a table build it in any empty place, and those for a value that
  needs a header build it at any new name.
* `describes_of_wellFormed`: they do so for all ordered tables and values.
* **Main result** (`read?_render`): an ordered table that is written and read is the same table, but for what becomes of
  its scalars.
-/

namespace MediaCatalog.Toml

variable {entries : Entries} {v : Value} {name : String} {path header : Path} {statements : List Statement}
variable {items items' inner : Items} {o : Origin} {around : Items → Items}

/-! ## Entries with and without headers -/

/-- The entries of a table that need no header. -/
def plainPart (entries : Entries) : Entries := entries.filter fun e => !needsHeader e.2

/-- The entries of a table that need headers. -/
def headedPart (entries : Entries) : Entries := entries.filter fun e => needsHeader e.2

/-- The entries without headers keep their order. -/
theorem ascending_plainPart (h : Ascending entries) : Ascending (plainPart entries) := List.Pairwise.filter _ h

/-- The entries with headers keep their order. -/
theorem ascending_headedPart (h : Ascending entries) : Ascending (headedPart entries) := List.Pairwise.filter _ h

/-- There are no statements for plain entries exactly if all entries need headers. -/
theorem plainStatements_eq_nil : plainStatements entries = [] ↔ ∀ e ∈ entries, needsHeader e.2 = true := by
  simp [plainStatements]

/-- An entry that needs a header comes first among those that do. -/
theorem headedPart_cons {e : String × Value} (h : needsHeader e.2 = true) (entries : Entries) :
    headedPart (e :: entries) = e :: headedPart entries := List.filter_cons_of_pos h

/-- An entry that needs no header is passed over. -/
theorem headedPart_cons_of_not {e : String × Value} (h : ¬needsHeader e.2 = true) (entries : Entries) :
    headedPart (e :: entries) = headedPart entries := List.filter_cons_of_neg h

/-- The entries of an ordered table are those with and those without headers. -/
theorem get?_parts (h : Ascending entries) (name : String) :
    (Pairs.get? name (headedPart entries)).or (Pairs.get? name (plainPart entries)) = Pairs.get? name entries := by
  rw [headedPart, plainPart, Pairs.get?_filter h, Pairs.get?_filter h]
  cases Pairs.get? name entries with
  | none => rfl
  | some v => cases hv : needsHeader v <;> simp [Option.filter_some, hv]

/-- An entry with a header is not among those without. -/
theorem get?_plainPart (h : Ascending entries) {e : String × Value} (he : e ∈ entries) (hheader : needsHeader e.2 = true) :
    Pairs.get? e.1 (plainPart entries) = none := by
  have hget : Pairs.get? e.1 entries = some e.2 := (Pairs.mem_iff_get? h).mp he
  rw [plainPart, Pairs.get?_filter h, hget]
  simp [Option.filter_some, hheader]

/-- A value that needs no header has no statements of its own. -/
theorem partStatements_eq_nil (h : needsHeader v = false) (path : Path) : partStatements path v = [] := by
  cases v with
  | table entries => cases h
  | list items => rw [partStatements, h, if_neg Bool.false_ne_true]
  | _ => rfl

/-! ## Statements that build tables -/

/-- After a header, statements turn tables under construction into others. -/
def Builds (header : Path) (statements : List Statement) (before after : Items) : Prop :=
  ∃ header', statements.foldlM Progress.add? ⟨before, header⟩ = some ⟨after, header'⟩

/-- No statements build nothing. -/
theorem builds_nil (header : Path) (items : Items) : Builds header [] items items := ⟨header, rfl⟩

/-- What is built by some statements is built on by others. -/
theorem Builds.append {more : List Statement} (h : Builds header statements inner items)
    (hmore : ∀ header, Builds header more items items') : Builds header (statements ++ more) inner items' := by
  obtain ⟨header', hfirst⟩ := h
  obtain ⟨header'', hsecond⟩ := hmore header'
  exact ⟨header'', by rw [List.foldlM_append, hfirst]; exact hsecond⟩

/-- What a header opens is built on. -/
theorem builds_table (hopen : openTable? path inner = some items) (h : Builds path statements items items') (header : Path) :
    Builds header (.table path :: statements) inner items' := by
  obtain ⟨header', h⟩ := h
  exact ⟨header', by rw [List.foldlM_cons, Progress.add?, hopen]; exact h⟩

/-- What a header adds to a list of tables is built on. -/
theorem builds_element (hadd : addElement? path inner = some items) (h : Builds path statements items items') (header : Path) :
    Builds header (.element path :: statements) inner items' := by
  obtain ⟨header', h⟩ := h
  exact ⟨header', by rw [List.foldlM_cons, Progress.add?, hadd]; exact h⟩

/-- The entries without headers are put in the place of the last header. -/
theorem Place.builds_plain (h : Place path o around) (ho : o ≠ .dotted) (hentries : Ascending entries) :
    Builds path (plainStatements entries) (around []) (around (putValues (plainPart entries) [])) := by
  refine ⟨path, ?_⟩
  rw [plainStatements, List.foldlM_map]
  refine foldlM_putValues (fun items => Progress.mk (around items) path) (fun items e hnew => ?_)
    (ascending_plainPart hentries) fun _ _ => rfl
  rw [Progress.add?, h.putValue? ho hnew]
  rfl

/-! ## What the statements for values build -/

/-- The statements for the content of a table build it in an empty place. The last header must be the one of the place if
entries without headers come first. -/
def Describes (entries : Entries) : Prop :=
  ∀ {path : Path} {o : Origin} {around : Items → Items}, Place path o around → o ≠ .dotted →
    ∃ items, plainEntries items = entries ∧ ∀ header, header = path ∨ plainStatements entries = [] →
      Builds header (plainStatements entries ++ innerStatements path entries) (around []) (around items)

/-- The statements for a value that needs a header build it at a new name. -/
def Part (v : Value) : Prop :=
  ∀ {path : Path} {o : Origin} {around : Items → Items} {inner : Items} {name : String},
    Place path o around → Pairs.get? name inner = none →
    ∃ item, item.plain = v ∧ ∀ header,
      Builds header (partStatements (path ++ [name]) v) (around inner) (around (Pairs.insert name item inner))

/-- The statements for the entries that need headers build them one after the other. -/
theorem builds_inner (hparts : ∀ e ∈ entries, needsHeader e.2 = true → Part e.2) (hentries : Ascending entries)
    (h : Place path o around) (hnew : ∀ e ∈ entries, needsHeader e.2 = true → Pairs.get? e.1 inner = none) :
    ∃ items, plainEntries items = (headedPart entries).foldl (fun after e => Pairs.insert e.1 e.2 after) (plainEntries inner) ∧
      ∀ header, Builds header (innerStatements path entries) (around inner) (around items) := by
  induction entries generalizing inner with
  | nil => exact ⟨inner, rfl, fun header => builds_nil header _⟩
  | cons e entries ih =>
    obtain ⟨hhead, hrest⟩ := List.pairwise_cons.mp hentries
    have ih := fun inner => @ih inner (fun e' he' => hparts e' (List.mem_cons_of_mem _ he')) hrest
    have hnew' : ∀ e' ∈ entries, needsHeader e'.2 = true → Pairs.get? e'.1 inner = none := fun e' he' =>
      hnew e' (List.mem_cons_of_mem _ he')
    rw [innerStatements]
    by_cases hheader : needsHeader e.2 = true
    · obtain ⟨item, hitem, hfirst⟩ := hparts e List.mem_cons_self hheader h (hnew e List.mem_cons_self hheader)
      obtain ⟨items, hitems, hothers⟩ := ih (Pairs.insert e.1 item inner) fun e' he' hheader' => by
        have hne : e.1 ≠ e'.1 := fun heq => String.lt_irrefl e.1 (heq ▸ hhead e' he')
        rw [Pairs.get?_insert, if_neg hne]
        exact hnew' e' he' hheader'
      refine ⟨items, ?_, fun header => (hfirst header).append hothers⟩
      rw [hitems, headedPart_cons hheader, List.foldl_cons, plainEntries_insert, hitem]
    · rw [partStatements_eq_nil (Bool.eq_false_iff.mpr hheader), List.nil_append, headedPart_cons_of_not hheader]
      exact ih inner hnew'

/-- **The content of a table** is built if its parts are. -/
theorem describes_of_parts (hparts : ∀ e ∈ entries, needsHeader e.2 = true → Part e.2) (hentries : Ascending entries) :
    Describes entries := by
  intro path o around h ho
  have hput : plainEntries (putValues (plainPart entries) []) = plainPart entries := by
    rw [plainEntries_putValues, plainEntries, Pairs.foldl_insert_nil (ascending_plainPart hentries)]
  have hnew : ∀ e ∈ entries, needsHeader e.2 = true → Pairs.get? e.1 (putValues (plainPart entries) []) = none := by
    intro e he hheader
    rw [← Option.map_eq_none_iff, ← get?_plainEntries, hput]
    exact get?_plainPart hentries he hheader
  obtain ⟨items, hitems, hinner⟩ := builds_inner hparts hentries h hnew
  refine ⟨items, ?_, fun header hheader => ?_⟩
  · refine Pairs.ext_of_ascending ?_ hentries fun name => ?_
    · rw [hitems, hput]
      exact Pairs.ascending_foldl_insert (ascending_plainPart hentries) _
    · rw [hitems, hput, Pairs.get?_foldl_insert (ascending_headedPart hentries), get?_parts hentries]
  · rcases hheader with rfl | hnone
    · exact (h.builds_plain ho hentries).append hinner
    · have hplain : plainPart entries = [] := List.map_eq_nil_iff.mp hnone
      rw [hplain] at hinner
      rw [hnone, List.nil_append]
      exact hinner header

/-! ### Tables without headers -/

/-- A header leads through a place. -/
def Statement.Within (path : Path) : Statement → Prop
  | .entry _ _ => False
  | .table path' => path <+: path'.dropLast
  | .element path' => path <+: path'.dropLast

/-- A header that leads through a place leads through what is above it. -/
theorem Statement.Within.of_prefix {path' : Path} {s : Statement} (h : s.Within path') (hpath : path <+: path') :
    s.Within path := by
  cases s with
  | entry => exact h
  | table => exact hpath.trans h
  | element => exact hpath.trans h

/-- A path leads to the table in which its next name stands. -/
theorem prefix_dropLast_concat (path : Path) (name : String) : path <+: (path ++ [name]).dropLast := by
  rw [List.dropLast_concat]

/-- The statements for a value that needs a header begin with a header. -/
theorem head_partStatements (hv : v.WellFormed) (hheader : needsHeader v = true) (path : Path) (name : String) :
    ∃ s rest, partStatements (path ++ [name]) v = s :: rest ∧ s.Within path := by
  induction hv generalizing path name with
  | @table entries _ _ ih =>
    rw [partStatements, headerOf]
    split
    · exact ⟨.table (path ++ [name]), _, rfl, prefix_dropLast_concat path name⟩
    · next hnone =>
      obtain ⟨hne, hplain⟩ : entries ≠ [] ∧ plainStatements entries = [] := by simpa using hnone
      obtain ⟨e, entries, rfl⟩ := List.exists_cons_of_ne_nil hne
      obtain ⟨s, rest, heq, hs⟩ := ih e List.mem_cons_self (plainStatements_eq_nil.mp hplain e List.mem_cons_self)
        (path ++ [name]) e.1
      rw [hplain, innerStatements, heq]
      exact ⟨s, rest ++ innerStatements (path ++ [name]) entries, rfl, hs.of_prefix (List.prefix_append path [name])⟩
  | @list items _ _ =>
    match items, hheader with
    | .table entries :: items, hheader =>
      rw [partStatements, if_pos hheader, elementStatements]
      exact ⟨.element (path ++ [name]), _, rfl, prefix_dropLast_concat path name⟩
  | _ => cases hheader

/-- A header that leads through a new name makes the table there. -/
theorem Place.add?_implied (h : Place path o around) (hnew : Pairs.get? name inner = none) {s : Statement}
    (hs : s.Within (path ++ [name])) (header : Path) :
    Progress.add? ⟨around inner, header⟩ s =
      Progress.add? ⟨around (Pairs.insert name (.table .implied []) inner), header⟩ s := by
  have himplied (change : Origin → Items → Option Items) {way : Path} (hway : path ++ [name] <+: way) :
      alter? false change .header (around inner) way =
        alter? false change .header (around (Pairs.insert name (.table .implied []) inner)) way := by
    obtain ⟨more, rfl⟩ := hway
    rw [List.append_assoc, List.singleton_append, h.implied hnew]
  cases s with
  | entry path' v => exact hs.elim
  | table path' => simp only [Progress.add?, Toml.openTable?, himplied _ hs]
  | element path' => simp only [Progress.add?, Toml.addElement?, himplied _ hs]

/-- What statements build in a table that is implied they build where there is none yet, if the first is a header within. -/
theorem Place.builds_implied (h : Place path o around) (hnew : Pairs.get? name inner = none) {s : Statement}
    (hs : s.Within (path ++ [name]))
    (hbuilds : Builds header (s :: statements) (around (Pairs.insert name (.table .implied []) inner)) items) :
    Builds header (s :: statements) (around inner) items := by
  obtain ⟨header', hbuilds⟩ := hbuilds
  refine ⟨header', ?_⟩
  rw [List.foldlM_cons] at hbuilds ⊢
  rw [h.add?_implied hnew hs, hbuilds]

/-! ### All values -/

/-- **A table** is built at a new name if its content is built in an empty place. -/
theorem part_table (hcontent : Describes entries) (hentries : (Value.table entries).WellFormed) : Part (.table entries) := by
  intro path o around inner name h hnew
  rw [partStatements, headerOf]
  by_cases hheader : (entries.isEmpty || !(plainStatements entries).isEmpty) = true
  · obtain ⟨items, hitems, hbuilds⟩ := hcontent (h.table name .header inner) (by decide)
    refine ⟨.table .header items, by rw [Item.plain, hitems], fun header => ?_⟩
    rw [if_pos hheader, List.append_assoc, List.singleton_append]
    exact builds_table (h.openTable? hnew) (hbuilds _ (.inl rfl)) header
  · obtain ⟨items, hitems, hbuilds⟩ := hcontent (h.table name .implied inner) (by decide)
    refine ⟨.table .implied items, by rw [Item.plain, hitems], fun header => ?_⟩
    obtain ⟨hne, hplain⟩ : entries ≠ [] ∧ plainStatements entries = [] := by simpa using hheader
    obtain ⟨e, entries, rfl⟩ := List.exists_cons_of_ne_nil hne
    have hfirst : needsHeader e.2 = true := plainStatements_eq_nil.mp hplain e List.mem_cons_self
    obtain ⟨s, rest, heq, hs⟩ := head_partStatements (hentries.of_mem_table e List.mem_cons_self) hfirst (path ++ [name]) e.1
    have hbuilds := hbuilds header (.inr hplain)
    rw [if_neg hheader, List.nil_append, hplain, List.nil_append, innerStatements, heq, List.cons_append]
    rw [hplain, List.nil_append, innerStatements, heq, List.cons_append] at hbuilds
    exact h.builds_implied hnew hs hbuilds

/-- The statements for further elements of a list build them after those that are there. -/
theorem builds_elements {elements : List Entries} (hcontent : ∀ entries ∈ elements, Describes entries) (h : Place path o around)
    (name : String) (inner : Items) (earlier : List Items) (last : Items) :
    ∃ earlier' last', (Item.elements earlier' last').plain = .list (plainElements (earlier ++ [last]) ++ elements.map .table) ∧
      ∀ header, Builds header (elementStatements (path ++ [name]) (elements.map .table))
        (around (Pairs.insert name (.elements earlier last) inner))
        (around (Pairs.insert name (.elements earlier' last') inner)) := by
  induction elements generalizing earlier last with
  | nil =>
    refine ⟨earlier, last, ?_, fun header => builds_nil header _⟩
    rw [Item.plain, plainElements_eq_map, plainElements_eq_map]
    simp
  | cons entries elements ih =>
    obtain ⟨items, hitems, hfirst⟩ := hcontent entries List.mem_cons_self (h.element name (earlier ++ [last]) inner) (by decide)
    obtain ⟨earlier', last', hplain, hothers⟩ := ih (fun entries he => hcontent entries (List.mem_cons_of_mem _ he))
      (earlier ++ [last]) items
    refine ⟨earlier', last', ?_, fun header => ?_⟩
    · rw [hplain, plainElements_eq_map, plainElements_eq_map]
      simp [hitems]
    · rw [List.map_cons, elementStatements, List.append_assoc, List.cons_append, ← List.append_assoc]
      exact builds_element (h.addElement?_next name earlier last inner) ((hfirst _ (.inl rfl)).append hothers) header

/-- **A list of tables** is built at a new name if their contents are built in empty places. -/
theorem part_list {elements : List Entries} (hcontent : ∀ entries ∈ elements, Describes entries) (hne : elements ≠ []) :
    Part (.list (elements.map .table)) := by
  intro path o around inner name h hnew
  obtain ⟨entries, elements, rfl⟩ := List.exists_cons_of_ne_nil hne
  obtain ⟨items, hitems, hfirst⟩ := hcontent entries List.mem_cons_self (h.element name [] inner) (by decide)
  obtain ⟨earlier, last, hplain, hothers⟩ := builds_elements (fun entries he => hcontent entries (List.mem_cons_of_mem _ he)) h
    name inner [] items
  refine ⟨.elements earlier last, ?_, fun header => ?_⟩
  · rw [hplain, plainElements_eq_map]
    simp [hitems]
  · have hheader : needsHeader (.list ((entries :: elements).map .table)) = true := by simp [needsHeader]
    rw [partStatements, if_pos hheader, List.map_cons, elementStatements, List.append_assoc, List.cons_append,
      ← List.append_assoc]
    exact builds_element (h.addElement?_new hnew) ((hfirst _ (.inl rfl)).append hothers) header

/-- A list that needs headers is one of tables. -/
theorem exists_elements {elements : List Value} (h : needsHeader (.list elements) = true) :
    ∃ tables : List Entries, tables ≠ [] ∧ elements = tables.map .table := by
  rw [needsHeader, Bool.and_eq_true, List.all_eq_true] at h
  obtain ⟨hne, hall⟩ := h
  obtain ⟨tables, rfl⟩ : ∃ tables : List Entries, elements = tables.map .table := by
    clear hne
    induction elements with
    | nil => exact ⟨[], rfl⟩
    | cons v elements ih =>
      obtain ⟨tables, rfl⟩ := ih fun w hw => hall w (List.mem_cons_of_mem v hw)
      have hv := hall v List.mem_cons_self
      cases v with
      | table entries => exact ⟨entries :: tables, rfl⟩
      | _ => cases hv
  refine ⟨tables, ?_, rfl⟩
  rintro rfl
  cases hne

/-- **The statements for a well-formed value** build it. -/
theorem builds_of_wellFormed (hv : v.WellFormed) :
    (∀ entries, v = .table entries → Describes entries) ∧ (needsHeader v = true → Part v) := by
  induction hv with
  | @table entries hascending hentries ih =>
    have hcontent : Describes entries := describes_of_parts (fun e he => (ih e he).2) hascending
    refine ⟨fun entries' heq => ?_, fun _ => part_table hcontent (.table hascending hentries)⟩
    cases heq
    exact hcontent
  | @list elements _ ih =>
    refine ⟨nofun, fun hheader => ?_⟩
    obtain ⟨tables, hne, rfl⟩ := exists_elements hheader
    exact part_list (fun entries he => (ih _ (List.mem_map_of_mem he)).1 entries rfl) hne
  | _ => exact ⟨nofun, nofun⟩

/-- **The statements for an ordered table** describe it. -/
theorem entriesOf?_statementsOf (h : (Value.table entries).WellFormed) : entriesOf? (statementsOf entries) = some entries := by
  obtain ⟨items, hitems, hbuilds⟩ := (builds_of_wellFormed h).1 entries rfl place_root (by decide)
  obtain ⟨header, hfold⟩ := hbuilds [] (.inl rfl)
  rw [entriesOf?, statementsOf]
  simp only [id_eq] at hfold
  rw [hfold, Option.map_some, hitems]

/-! ## What the statements become -/

/-- A float becomes a number. -/
theorem valueBack_float (x : Number.Binary64) :
    (∃ n, valueBack (.float x) = .integer n) ∨ ∃ y, valueBack (.float x) = .float y := by
  have hnumber : IsNumber (valueBack (.float x)) := isNumber_floatBack x
  cases hback : valueBack (.float x) with
  | integer n => exact .inl ⟨n, rfl⟩
  | float y => exact .inr ⟨y, rfl⟩
  | _ =>
    rw [hback] at hnumber
    exact hnumber.elim

/-- What a value becomes needs a header exactly if the value does. -/
theorem needsHeader_valueBack (v : Value) : needsHeader (valueBack v) = needsHeader v := by
  cases v with
  | list items =>
    rw [valueBack, itemsBack_eq_map, needsHeader, needsHeader, List.isEmpty_map, List.all_map]
    refine congrArg (!items.isEmpty && items.all ·) (funext fun item => ?_)
    cases item with
    | float x => rcases valueBack_float x with ⟨n, hback⟩ | ⟨y, hback⟩ <;> rw [Function.comp, hback]
    | _ => rfl
  | float x => rcases valueBack_float x with ⟨n, hback⟩ | ⟨y, hback⟩ <;> rw [hback] <;> rfl
  | _ => rfl

/-- The statements for what plain entries become are what their statements become. -/
theorem plainStatements_entriesBack (entries : Entries) :
    plainStatements (entriesBack entries) = (plainStatements entries).map statementBack := by
  have hneeds : (fun e : String × Value => !needsHeader (valueBack e.2)) = fun e => !needsHeader e.2 :=
    funext fun e => by rw [needsHeader_valueBack]
  rw [entriesBack_eq_map, plainStatements, plainStatements, List.filter_map, List.map_map, List.map_map]
  unfold Function.comp
  rw [hneeds]
  rfl

/-- What a table becomes has the header of the table, if that has one. -/
theorem headerOf_entriesBack (path : Path) (entries : Entries) :
    headerOf path (entriesBack entries) = (headerOf path entries).map statementBack := by
  have hempty : (entriesBack entries).isEmpty = entries.isEmpty := by
    rw [entriesBack_eq_map, List.isEmpty_map]
  rw [headerOf, headerOf, plainStatements_entriesBack, List.isEmpty_map, hempty]
  split <;> rfl

/-- What is not a table adds no statements to those for a list of tables. -/
theorem elementStatements_cons_of_not (h : ∀ entries, v ≠ .table entries) (path : Path) (rest : List Value) :
    elementStatements path (v :: rest) = elementStatements path rest := by
  cases v with
  | table entries => exact absurd rfl (h entries)
  | _ => rfl

mutual

/-- The statements for a value become those for what it becomes. -/
theorem partStatements_valueBack (path : Path) :
    ∀ v : Value, partStatements path (valueBack v) = (partStatements path v).map statementBack
  | .table entries => by
    rw [valueBack, partStatements, partStatements, List.map_append, List.map_append, innerStatements_entriesBack,
      plainStatements_entriesBack, headerOf_entriesBack]
  | .list items => by
    rw [valueBack, partStatements, partStatements, ← valueBack, needsHeader_valueBack]
    split
    · exact elementStatements_itemsBack path items
    · rfl
  | .float x => by rcases valueBack_float x with ⟨n, hback⟩ | ⟨y, hback⟩ <;> rw [hback] <;> rfl
  | .null => rfl
  | .bool _ => rfl
  | .integer _ => rfl
  | .text _ => rfl
  | .moment _ => rfl

/-- The statements for the entries of a table become those for what they become. -/
theorem innerStatements_entriesBack (path : Path) :
    ∀ entries : Entries, innerStatements path (entriesBack entries) = (innerStatements path entries).map statementBack
  | [] => rfl
  | (name, v) :: rest => by
    rw [entriesBack, innerStatements, innerStatements, List.map_append, partStatements_valueBack (path ++ [name]) v,
      innerStatements_entriesBack path rest]

/-- The statements for the elements of a list become those for what they become. -/
theorem elementStatements_itemsBack (path : Path) :
    ∀ items : List Value, elementStatements path (itemsBack items) = (elementStatements path items).map statementBack
  | [] => rfl
  | .table entries :: rest => by
    rw [itemsBack, valueBack, elementStatements, elementStatements, List.map_append, List.map_append, List.map_cons,
      plainStatements_entriesBack, innerStatements_entriesBack path entries, elementStatements_itemsBack path rest]
    rfl
  | .list _ :: rest => elementStatements_itemsBack path rest
  | .float x :: rest => by
    have hback : ∀ entries, valueBack (.float x) ≠ .table entries := by
      rcases valueBack_float x with ⟨n, hback⟩ | ⟨y, hback⟩ <;> rw [hback] <;> exact nofun
    rw [itemsBack, elementStatements_cons_of_not hback, elementStatements_itemsBack path rest]
    rfl
  | .null :: rest => elementStatements_itemsBack path rest
  | .bool _ :: rest => elementStatements_itemsBack path rest
  | .integer _ :: rest => elementStatements_itemsBack path rest
  | .text _ :: rest => elementStatements_itemsBack path rest
  | .moment _ :: rest => elementStatements_itemsBack path rest

end

/-- **The statements for a table** become those for what it becomes. -/
theorem statementsOf_entriesBack (entries : Entries) :
    statementsOf (entriesBack entries) = (statementsOf entries).map statementBack := by
  rw [statementsOf, statementsOf, List.map_append, plainStatements_entriesBack, innerStatements_entriesBack]

/-- What a well-formed value becomes is well formed. -/
theorem wellFormed_valueBack (hv : v.WellFormed) : (valueBack v).WellFormed := by
  induction hv with
  | @list items _ ih =>
    rw [valueBack, itemsBack_eq_map]
    exact .list (List.forall_mem_map.mpr ih)
  | @table entries hascending _ ih =>
    rw [valueBack]
    refine .table (ascending_entriesBack hascending) ?_
    rw [entriesBack_eq_map]
    exact List.forall_mem_map.mpr ih
  | bool b => exact .bool b
  | integer n => exact .integer n
  | float x => exact wellFormed_of_isNumber (isNumber_floatBack x)
  | text s => exact .text s
  | moment hm => exact .moment hm

/-! ## Documents -/

/-- The statements for plain entries are valid if the values are well formed. -/
theorem valid_plainStatements (hentries : ∀ e ∈ entries, e.2.WellFormed) : ∀ s ∈ plainStatements entries, s.Valid := by
  intro s hs
  obtain ⟨e, he, rfl⟩ := List.mem_map.mp hs
  exact ⟨List.cons_ne_nil _ _, hentries e (List.mem_of_mem_filter he)⟩

/-- The statements for the entries of a table are valid if those for its values are. -/
theorem valid_innerStatements (hparts : ∀ e ∈ entries, ∀ path ≠ [], ∀ s ∈ partStatements path e.2, s.Valid) (path : Path) :
    ∀ s ∈ innerStatements path entries, s.Valid := by
  induction entries with
  | nil => exact fun s hs => absurd hs List.not_mem_nil
  | cons e entries ih =>
    rw [innerStatements, List.forall_mem_append]
    refine ⟨hparts e List.mem_cons_self _ ?_, ih fun e' he' => hparts e' (List.mem_cons_of_mem _ he')⟩
    exact List.append_ne_nil_of_right_ne_nil path (List.cons_ne_nil e.1 [])

/-- The statements for the elements of a list are valid if those for its tables are. -/
theorem valid_elementStatements {items : List Value} (hpath : path ≠ [])
    (hitems : ∀ v ∈ items, ∀ s ∈ partStatements path v, s.Valid) : ∀ s ∈ elementStatements path items, s.Valid := by
  induction items with
  | nil => exact fun s hs => absurd hs List.not_mem_nil
  | cons v items ih =>
    have ih := ih fun w hw => hitems w (List.mem_cons_of_mem v hw)
    cases v with
    | table entries =>
      have htable := hitems (.table entries) List.mem_cons_self
      rw [partStatements, List.forall_mem_append, List.forall_mem_append] at htable
      obtain ⟨⟨-, hplain⟩, hinner⟩ := htable
      rw [elementStatements, List.forall_mem_append, List.forall_mem_append, List.forall_mem_cons]
      exact ⟨⟨⟨⟨hpath, True.intro⟩, hplain⟩, hinner⟩, ih⟩
    | _ => exact ih

/-- The statements for a well-formed value name something, and their values are well formed. -/
theorem valid_partStatements (hv : v.WellFormed) (hpath : path ≠ []) : ∀ s ∈ partStatements path v, s.Valid := by
  induction hv generalizing path with
  | @table entries _ hentries ih =>
    rw [partStatements, List.forall_mem_append, List.forall_mem_append]
    refine ⟨⟨?_, valid_plainStatements hentries⟩, valid_innerStatements (fun e he path hpath => ih e he hpath) path⟩
    rw [headerOf]
    split
    · exact List.forall_mem_singleton.mpr ⟨hpath, True.intro⟩
    · exact fun s hs => absurd hs List.not_mem_nil
  | @list items _ ih =>
    rw [partStatements]
    split
    · exact valid_elementStatements hpath fun v hv => ih v hv hpath
    · exact fun s hs => absurd hs List.not_mem_nil
  | _ => exact fun s hs => absurd hs List.not_mem_nil

/-- **The statements for a well-formed table** are valid. -/
theorem valid_statementsOf (h : (Value.table entries).WellFormed) : ∀ s ∈ statementsOf entries, s.Valid := by
  rw [statementsOf, List.forall_mem_append]
  exact ⟨valid_plainStatements h.of_mem_table,
    valid_innerStatements (fun e he path hpath => valid_partStatements (h.of_mem_table e he) hpath) []⟩

/-- **An ordered table that is written and read** is the same table, but for what becomes of its scalars. -/
theorem read?_render {found : Entries} (h : (Value.table entries).WellFormed) (hread : read? (render entries) = some found) :
    found = entriesBack entries := by
  obtain ⟨statements, hstatements, hfound⟩ := Option.bind_eq_some_iff.mp hread
  have hback : (Value.table (entriesBack entries)).WellFormed := wellFormed_valueBack h
  rw [readStatements?_writeStatements (valid_statementsOf h) hstatements, ← statementsOf_entriesBack,
    entriesOf?_statementsOf hback] at hfound
  exact (Option.some.inj hfound).symm

end MediaCatalog.Toml
