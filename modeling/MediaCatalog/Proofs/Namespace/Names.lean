import MediaCatalog.Proofs.Namespace.Listing

/-!
# The names in a listing

Below a mount a listing shows each label once, and only labels that a path can hold. The two items
in front of them, `.` and `..`, are put there without a look at the labels, so a result with such a
label is listed beside them.

* **Labels** (`nodup_firstPerName`): the names that are left are distinct.
* **Children** (`Browser.mem_names_childItems_iff`): the names of children are the addressable
  labels of results.
* `Browser.LabelsDots`: a result of the level below a path is labelled `.` or `..`.
* **Main result** (`Browser.list_names`): every name is addressable, no name stands twice after the
  dots, and all names are distinct exactly if no result is labelled like one of the dots.
-/

namespace MediaCatalog

/-! ## Names that are left -/

/-- A name that was seen before is left out. -/
theorem not_mem_names_firstPerName {seen : List String} {name : String} (h : name ∈ seen)
    (items : List (String × NodeKind)) : name ∉ (firstPerName seen items).map Prod.fst := by
  intro hmem
  obtain ⟨⟨_, kind⟩, hitem, rfl⟩ := List.mem_map.mp hmem
  exact (mem_firstPerName_iff.mp hitem).2.1 h

/-- **The names that are left** are distinct. -/
theorem nodup_firstPerName (seen : List String) (items : List (String × NodeKind)) :
    ((firstPerName seen items).map Prod.fst).Nodup := by
  induction items generalizing seen with
  | nil => exact List.nodup_nil
  | cons item rest ih =>
    unfold firstPerName
    split
    · -- the name in front counts as seen from here on
      rw [List.map_cons, List.nodup_cons]
      exact ⟨not_mem_names_firstPerName List.mem_cons_self rest, ih _⟩
    · exact ih seen

/-- The names of mounts are distinct. -/
theorem Mounts.nodup_keys (mounts : Mounts) : mounts.keys.Nodup := by
  refine mounts.keys_pairwise.imp ?_
  rintro name _ hlt rfl
  exact String.lt_irrefl name hlt

namespace Browser

variable {b : Browser} {store : Store} {path : String}

/-! ## The names of children -/

/-- The names of children are distinct. -/
theorem nodup_names_childItems {schema : Schema} {chain : List Entry} {rest : List (String × NodeKind)}
    (h : b.childItems store schema chain = .ok rest) : (rest.map Prod.fst).Nodup := by
  unfold childItems at h
  cases hchildren : schema.children store b.strict chain with
  | error e =>
    rw [hchildren] at h
    cases h
  | ok children =>
    rw [hchildren] at h
    cases h
    exact nodup_firstPerName [] children

/-- **The names of children** are the addressable labels of the results of the level below. -/
theorem mem_names_childItems_iff {schema : Schema} {chain : List Entry} {rest : List (String × NodeKind)}
    (h : b.childItems store schema chain = .ok rest) {name : String} :
    name ∈ rest.map Prod.fst ↔
      isAddressable name = true ∧ ∃ level found, schema.levels[chain.length]? = some level ∧
        level.found store b.strict chain = .ok found ∧ ∃ e ∈ found, e.label level.label = name := by
  constructor
  · intro hmem
    obtain ⟨⟨_, kind⟩, hitem, rfl⟩ := List.mem_map.mp hmem
    obtain ⟨haddr, level, found, e, hlevel, hfound, hfind, -⟩ := (mem_childItems_iff h).mp hitem
    have hlabel := List.find?_some hfind
    exact ⟨haddr, level, found, hlevel, hfound, e, List.mem_of_find?_eq_some hfind, by simpa using hlabel⟩
  · rintro ⟨haddr, level, found, hlevel, hfound, e, he, hlabel⟩
    have hsome : (found.find? fun x => x.label level.label == name).isSome = true :=
      List.find?_isSome.mpr ⟨e, he, by simpa using hlabel⟩
    obtain ⟨first, hfind⟩ := Option.isSome_iff_exists.mp hsome
    have hitem : (name, NodeKind.classify schema chain.length first) ∈ rest :=
      (mem_childItems_iff h).mpr ⟨haddr, level, found, first, hlevel, hfound, hfind, rfl⟩
    exact List.mem_map.mpr ⟨_, hitem, rfl⟩

/-! ## The dots -/

/-- The names of the first two items of every listing. -/
def IsDot (name : String) : Prop := name = "." ∨ name = ".."

/-- The dots could stand in a path. -/
theorem isAddressable_of_isDot {name : String} (h : IsDot name) : isAddressable name = true := by
  rcases h with rfl | rfl <;> decide

/-- The names in a listing are distinct if those after the dots are, and no dot is among them. -/
theorem nodup_names_dots_append_iff {rest : List (String × NodeKind)} (h : (rest.map Prod.fst).Nodup) :
    ((dots ++ rest).map Prod.fst).Nodup ↔ ∀ name ∈ rest.map Prod.fst, ¬IsDot name := by
  have hdots : (dots.map Prod.fst).Nodup := by decide
  rw [List.map_append, List.nodup_append]
  constructor
  · rintro ⟨-, -, hne⟩ name hname hdot
    have hmem : name ∈ dots.map Prod.fst := by
      rcases hdot with rfl | rfl <;> decide
    exact hne name hmem name hname rfl
  · intro hnot
    refine ⟨hdots, h, ?_⟩
    rintro name hmem _ hname rfl
    refine hnot name hname ?_
    simpa [dots, IsDot] using hmem

/-- A result of the level below a path has the label `.` or `..`. -/
def LabelsDots (b : Browser) (store : Store) (path : String) : Prop :=
  ∃ node mount chain schema level found e, b.resolve store path = .ok node ∧ node.place? = some (mount, chain) ∧
    b.mounts.get? mount = some schema ∧ schema.levels[chain.length]? = some level ∧
    level.found store b.strict chain = .ok found ∧ e ∈ found ∧ IsDot (e.label level.label)

/-- Below a mount a dot is the name of a child exactly if some result has it as its label. -/
theorem labelsDots_iff {node : Node} {mount : String} {chain : List Entry} {schema : Schema}
    {rest : List (String × NodeKind)} (hnode : b.resolve store path = .ok node)
    (hplace : node.place? = some (mount, chain)) (hmount : b.mounts.get? mount = some schema)
    (hrest : b.childItems store schema chain = .ok rest) :
    b.LabelsDots store path ↔ ∃ name ∈ rest.map Prod.fst, IsDot name := by
  constructor
  · rintro ⟨node', mount', chain', schema', level, found, e, hnode', hplace', hmount', hlevel, hfound, he, hdot⟩
    rw [hnode] at hnode'
    cases hnode'
    rw [hplace] at hplace'
    cases hplace'
    rw [hmount] at hmount'
    cases hmount'
    exact ⟨_, (mem_names_childItems_iff hrest).mpr
      ⟨isAddressable_of_isDot hdot, level, found, hlevel, hfound, e, he, rfl⟩, hdot⟩
  · rintro ⟨name, hname, hdot⟩
    obtain ⟨-, level, found, hlevel, hfound, e, he, rfl⟩ := (mem_names_childItems_iff hrest).mp hname
    exact ⟨node, mount, chain, schema, level, found, e, hnode, hplace, hmount, hlevel, hfound, he, hdot⟩

/-- The names of mounts are none of the dots. -/
theorem not_isDot_of_isName {name : String} (h : Mounts.isName name = true) : ¬IsDot name := by
  rintro (rfl | rfl)
  · exact absurd h (by decide)
  · exact absurd h (by decide)

/-! ## Listings -/

/-- The dots in front add no name that a path could not hold. -/
theorem addressable_dots_append {rest : List (String × NodeKind)}
    (h : ∀ item ∈ rest, isAddressable item.1 = true) :
    ∀ item ∈ dots ++ rest, item.1 ≠ "" ∧ '/' ∉ item.1.toList := by
  have hdots : ∀ item ∈ dots, isAddressable item.1 = true := by decide
  intro item hitem
  rw [← isAddressable_iff]
  rcases List.mem_append.mp hitem with hitem | hitem
  · exact hdots item hitem
  · exact h item hitem

/-- **The names in a listing.** Each is addressable, and after the two dots none stands twice. All
of them are distinct exactly if no result of the level below the path is labelled `.` or `..`. -/
theorem list_names (b : Browser) (hb : b.mounts.Registered) (store : Store) (path : String)
    (items : List (String × NodeKind)) (h : b.list store path = .ok items) :
    (∀ item ∈ items, item.1 ≠ "" ∧ '/' ∉ item.1.toList) ∧
      (∃ rest, items = dots ++ rest ∧ (rest.map Prod.fst).Nodup) ∧
      ((items.map Prod.fst).Nodup ↔ ¬b.LabelsDots store path) := by
  obtain ⟨node, hnode, ⟨hroot, rfl⟩ | ⟨mount, chain, hplace, hbelow⟩⟩ := list_eq_ok h
  · -- the root: mounts have names of their own that are none of the dots
    have hnames : (b.mounts.keys.map fun name => (name, NodeKind.directory)).map Prod.fst = b.mounts.keys := by
      rw [List.map_map]
      exact List.map_id _
    have hname : ∀ name ∈ b.mounts.keys, Mounts.isName name = true := by
      intro name hmem
      obtain ⟨⟨_, schema⟩, hpair, rfl⟩ := List.mem_map.mp hmem
      exact hb.isName (Dict.mem_toList_iff.mp hpair)
    have hnodup : ((b.mounts.keys.map fun name => (name, NodeKind.directory)).map Prod.fst).Nodup := by
      rw [hnames]
      exact Mounts.nodup_keys _
    refine ⟨addressable_dots_append fun item hitem => ?_, ⟨_, rfl, hnodup⟩, ?_⟩
    · obtain ⟨name, hmem, rfl⟩ := List.mem_map.mp hitem
      exact Mounts.isAddressable_of_isName (hname name hmem)
    · rw [nodup_names_dots_append_iff hnodup, hnames]
      refine iff_of_true (fun name hmem => not_isDot_of_isName (hname name hmem)) ?_
      rintro ⟨node', mount, chain, _, _, _, _, hnode', hplace, -⟩
      rw [hnode] at hnode'
      cases hnode'
      rw [hroot] at hplace
      cases hplace
  · -- below a mount: labels that were left
    obtain ⟨schema, below, -, hmount, -⟩ := place_of_resolve hnode hplace
    rw [below_eq hmount] at hbelow
    cases hrest : b.childItems store schema chain with
    | error e =>
      rw [hrest] at hbelow
      cases hbelow
    | ok rest =>
      rw [hrest] at hbelow
      cases hbelow
      have hnodup := nodup_names_childItems hrest
      refine ⟨addressable_dots_append fun item hitem => ?_, ⟨rest, rfl, hnodup⟩, ?_⟩
      · exact ((mem_names_childItems_iff hrest).mp (List.mem_map.mpr ⟨item, hitem, rfl⟩)).1
      · rw [nodup_names_dots_append_iff hnodup, labelsDots_iff hnode hplace hmount hrest]
        simp only [not_exists, not_and]

/-- Two shows with one title, and one with a title that no path can hold. -/
theorem list_names_of_duplicates :
    let mounts := Dict.empty.insert "tv"
      (Schema.mk "q=\"kind.Equals(show)\" d=\"$title\"" [⟨⟨"kind.Equals(show)"⟩, ⟨"$title"⟩, none, none, none⟩])
    let b : Browser := ⟨mounts, true⟩
    let titled (key title : String) := ((Entry.blank ⟨key⟩).insert "kind" "show").insert "title" title
    let store := Store.ofTable
      (((Table.empty.write (titled "set:1" "Pilot")).write (titled "set:2" "AC/DC")).write (titled "set:3" "Pilot"))
    b.mounts.Registered ∧ b.list store "/tv" = .ok (dots ++ [("Pilot", .directory)]) ∧
      ((dots ++ [("Pilot", NodeKind.directory)]).map Prod.fst).Nodup ∧ ¬b.LabelsDots store "/tv" := by
  intro mounts b titled store
  have hregister : Mounts.register Dict.empty "tv" "q=\"kind.Equals(show)\" d=\"$title\"" = (.ok (), mounts) := by
    decide +kernel
  have hmounts : b.mounts.Registered := Mounts.Registered.empty.of_register hregister
  have hlist : b.list store "/tv" = .ok (dots ++ [("Pilot", .directory)]) :=
    eq_ok_of_toOption (by decide +kernel)
  have hnodup : ((dots ++ [("Pilot", NodeKind.directory)]).map Prod.fst).Nodup := by decide
  exact ⟨hmounts, hlist, hnodup, (list_names b hmounts store "/tv" _ hlist).2.2.mp hnodup⟩

/-- A show with the title `.` is listed under the name of the directory itself. -/
theorem not_nodup_names_of_dot :
    let mounts := Dict.empty.insert "tv"
      (Schema.mk "q=\"kind.Equals(show)\" d=\"$title\"" [⟨⟨"kind.Equals(show)"⟩, ⟨"$title"⟩, none, none, none⟩])
    let b : Browser := ⟨mounts, true⟩
    let e := ((Entry.blank ⟨"set:1"⟩).insert "kind" "show").insert "title" "."
    let store := Store.ofTable (Table.empty.write e)
    Mounts.register Dict.empty "tv" "q=\"kind.Equals(show)\" d=\"$title\"" = (.ok (), mounts) ∧
      b.list store "/tv" = .ok [(".", .directory), ("..", .directory), (".", .directory)] ∧
      ¬([(".", NodeKind.directory), ("..", .directory), (".", .directory)].map Prod.fst).Nodup := by
  intro mounts b e store
  exact ⟨by decide +kernel, eq_ok_of_toOption (by decide +kernel), by decide⟩

end Browser

end MediaCatalog
