import MediaCatalog.Proofs.Namespace.Resolution

/-!
# Listing and resolving describe the same tree

A listing renders every result of a level and leaves out labels that no path can address and labels
that repeat an earlier one; resolution takes the first result with the label asked for.

* **Filtering** (`mem_firstPerName_iff`): an item that is left is the first of its name.
* **Listings** (`Browser.list_eq_ok`): the dots, then the mounts or the children that are left.
* `Browser.IsFirstOfName`: the last entry of a child's chain is the first with its label.
* **Children** (`Browser.mem_mounts_iff_resolve`, `Browser.mem_childItems_iff_resolve`): what is listed
  resolves, at the root and below a mount.
* **Main result** (`Browser.list_agrees_with_resolve`): the items of a listing are exactly the
  names that resolve, with the kinds of their nodes.
-/

namespace MediaCatalog

/-! ## What a listing leaves out -/

/-- **The items that are left** are those with an addressable name that was not seen before, each
the first of its name. -/
theorem mem_firstPerName_iff {seen : List String} {items : List (String × NodeKind)} {name : String}
    {kind : NodeKind} :
    (name, kind) ∈ firstPerName seen items ↔
      isAddressable name = true ∧ name ∉ seen ∧
        items.find? (fun item => item.1 == name) = some (name, kind) := by
  induction items generalizing seen with
  | nil => simp [firstPerName]
  | cons item rest ih =>
    obtain ⟨first, firstKind⟩ := item
    unfold firstPerName
    by_cases hname : first = name
    · subst hname
      rw [List.find?_cons_of_pos (by simp)]
      split
      case isTrue hleft =>
        simp only [Bool.and_eq_true, Bool.not_eq_true', List.contains_eq_mem, decide_eq_false_iff_not] at hleft
        -- later items of the same name are left out
        have hswap : firstKind = kind ↔ kind = firstKind := eq_comm
        rw [List.mem_cons, ih]
        simp [hleft, hswap]
      case isFalse hout =>
        simp only [Bool.and_eq_true, Bool.not_eq_true', List.contains_eq_mem, decide_eq_false_iff_not] at hout
        rw [ih]
        constructor
        · rintro ⟨haddr, hseen, -⟩
          exact absurd ⟨haddr, hseen⟩ hout
        · rintro ⟨haddr, hseen, -⟩
          exact absurd ⟨haddr, hseen⟩ hout
    · rw [List.find?_cons_of_neg (by simpa using hname)]
      split
      · rw [List.mem_cons, ih]
        simp [Ne.symm hname]
      · exact ih

/-! ## Listings -/

/-- A result is known from its value. -/
theorem eq_ok_of_toOption {ε α : Type} {x : Except ε α} {a : α} (h : x.toOption = some a) : x = .ok a := by
  cases x with
  | error e => cases h
  | ok b =>
    cases h
    rfl

namespace Browser

variable {b : Browser} {store : Store} {path : String}

/-- What the listing of a place holds after the dots. -/
def childItems (b : Browser) (store : Store) (schema : Schema) (chain : List Entry) :
    Except NamespaceError (List (String × NodeKind)) := do
  return firstPerName [] (← schema.children store b.strict chain)

/-- A listing at a place is that of the level below its chain. -/
theorem below_eq {schema : Schema} {mount : String} {chain : List Entry}
    (hmount : b.mounts.get? mount = some schema) :
    b.below store mount chain = (b.childItems store schema chain).map (dots ++ ·) := by
  simp only [below, hmount, childItems]
  cases schema.children store b.strict chain <;> rfl

/-- **Listings.** The root lists the mounts, any other directory its children. -/
theorem list_eq_ok {items : List (String × NodeKind)} (h : b.list store path = .ok items) :
    ∃ node, b.resolve store path = .ok node ∧
      ((node.place? = none ∧ items = dots ++ b.mounts.keys.map fun name => (name, .directory)) ∨
        ∃ mount chain, node.place? = some (mount, chain) ∧ b.below store mount chain = .ok items) := by
  unfold list at h
  cases hresolve : b.resolve store path with
  | error e =>
    rw [hresolve] at h
    cases h
  | ok node =>
    rw [hresolve] at h
    refine ⟨node, rfl, ?_⟩
    match node, h with
    | .root, h =>
      cases h
      exact .inl ⟨rfl, rfl⟩
    | .mount name, h => exact .inr ⟨name, [], rfl, h⟩
    | .entry name chain .directory, h => exact .inr ⟨name, chain, rfl, h⟩
    | .entry name chain .file, h => cases h

/-- The children of a place are the first results of the level below with their labels. -/
theorem mem_childItems_iff {schema : Schema} {chain : List Entry} {rest : List (String × NodeKind)}
    (h : b.childItems store schema chain = .ok rest) {name : String} {kind : NodeKind} :
    (name, kind) ∈ rest ↔
      isAddressable name = true ∧ ∃ level found e, schema.levels[chain.length]? = some level ∧
        level.found store b.strict chain = .ok found ∧
        found.find? (fun e => e.label level.label == name) = some e ∧
        kind = NodeKind.classify schema chain.length e := by
  unfold childItems Schema.children at h
  cases hlevel : schema.levels[chain.length]? with
  | none =>
    rw [hlevel] at h
    cases h
    simp [firstPerName]
  | some level =>
    rw [hlevel] at h
    cases hfound : level.found store b.strict chain with
    | error e =>
      simp only [hfound] at h
      cases h
    | ok found =>
      simp only [hfound] at h
      cases h
      rw [mem_firstPerName_iff, List.find?_map]
      have hlabel : ((fun item : String × NodeKind => item.1 == name) ∘
          fun e => (e.label level.label, NodeKind.classify schema chain.length e)) =
          fun e => e.label level.label == name := rfl
      rw [hlabel, Option.map_eq_some_iff]
      constructor
      · rintro ⟨haddr, -, e, hfind, heq⟩
        exact ⟨haddr, level, found, e, rfl, hfound, hfind, (congrArg Prod.snd heq).symm⟩
      · rintro ⟨haddr, _, _, e, heq, hfound', hfind, rfl⟩
        cases heq
        rw [hfound] at hfound'
        cases hfound'
        have hname : e.label level.label = name := by simpa using List.find?_some hfind
        exact ⟨haddr, List.not_mem_nil, e, hfind, by rw [hname]⟩

/-! ## The agreement -/

/-- Below a mount, the last entry of the chain at which the node of a child stands is the first
result, in the order of the level below `path`, whose label is the name of the child. -/
def IsFirstOfName (b : Browser) (store : Store) (path name : String) (child : Node) : Prop :=
  ∀ node mount chain, b.resolve store path = .ok node → node.place? = some (mount, chain) →
    ∃ schema level before e after, b.mounts.get? mount = some schema ∧
      schema.levels[chain.length]? = some level ∧
      level.found store b.strict chain = .ok (before ++ e :: after) ∧
      e.label level.label = name ∧ (∀ x ∈ before, x.label level.label ≠ name) ∧
      child.place? = some (mount, chain ++ [e])

/-- A child that is listed resolves to the first of its name, and a child that resolves is
listed. -/
theorem mem_childItems_iff_resolve {schema : Schema} {mount name : String} {below : List String}
    {chain : List Entry} {rest : List (String × NodeKind)} {kind : NodeKind}
    (hsegments : Text.segments path = mount :: below) (hmount : b.mounts.get? mount = some schema)
    (hchain : schema.chain? store b.strict below = .ok (some chain))
    (hrest : b.childItems store schema chain = .ok rest) (haddr : isAddressable name = true) :
    (name, kind) ∈ rest ↔
      ∃ level found e, schema.levels[chain.length]? = some level ∧
        level.found store b.strict chain = .ok found ∧
        found.find? (fun e => e.label level.label == name) = some e ∧
        kind = NodeKind.classify schema chain.length e ∧
        b.resolve store (path ++ "/" ++ name) = .ok (.entry mount (chain ++ [e]) kind) := by
  have ⟨hne, hslash⟩ := isAddressable_iff.mp haddr
  rw [mem_childItems_iff hrest, and_iff_right haddr, resolve_child hsegments hmount hchain hne hslash]
  constructor
  · rintro ⟨level, found, e, hlevel, hfound, hfind, rfl⟩
    refine ⟨level, found, e, hlevel, hfound, hfind, rfl, ?_⟩
    have hnext : level.next? store b.strict chain name = .ok (some e) := by
      rw [Level.next?, hfound, ← hfind]
      rfl
    simp only [hlevel, hnext]
    rfl
  · rintro ⟨level, found, e, hlevel, hfound, hfind, hkind, -⟩
    exact ⟨level, found, e, hlevel, hfound, hfind, hkind⟩

/-- A name below a place resolves only to the first result with that label. -/
theorem resolve_child_eq_ok {schema : Schema} {mount name : String} {below : List String}
    {chain : List Entry} {node : Node} (hsegments : Text.segments path = mount :: below)
    (hmount : b.mounts.get? mount = some schema)
    (hchain : schema.chain? store b.strict below = .ok (some chain)) (hne : name ≠ "")
    (hslash : '/' ∉ name.toList) (h : b.resolve store (path ++ "/" ++ name) = .ok node) :
    ∃ level found e, schema.levels[chain.length]? = some level ∧
      level.found store b.strict chain = .ok found ∧
      found.find? (fun e => e.label level.label == name) = some e := by
  rw [resolve_child hsegments hmount hchain hne hslash] at h
  cases hlevel : schema.levels[chain.length]? with
  | none =>
    rw [hlevel] at h
    cases h
  | some level =>
    rw [hlevel] at h
    cases hfound : level.found store b.strict chain with
    | error e =>
      simp only [Level.next?, hfound] at h
      cases h
    | ok found =>
      simp only [Level.next?, hfound] at h
      cases hfind : found.find? fun e => e.label level.label == name with
      | none =>
        simp only [bind, Except.bind, pure, Except.pure, hfind] at h
        cases h
      | some e => exact ⟨level, found, e, rfl, hfound, hfind⟩

/-- At the root just the mounts are listed, and each resolves. -/
theorem mem_mounts_iff_resolve (hb : b.mounts.Registered) (hsegments : Text.segments path = []) {name : String}
    {kind : NodeKind} :
    (name, kind) ∈ b.mounts.keys.map (fun name => (name, NodeKind.directory)) ↔
      isAddressable name = true ∧ kind = .directory ∧
        b.resolve store (path ++ "/" ++ name) = .ok (.mount name) := by
  have hkeys : (name, kind) ∈ b.mounts.keys.map (fun name => (name, NodeKind.directory)) ↔
      kind = .directory ∧ ∃ schema, b.mounts.get? name = some schema := by
    simp only [Dict.keys, List.mem_map, Prod.mk.injEq, Prod.exists, ← Dict.mem_toList_iff]
    grind
  rw [hkeys]
  constructor
  · rintro ⟨rfl, schema, hget⟩
    have haddr := Mounts.isAddressable_of_isName (hb.isName hget)
    have ⟨hne, hslash⟩ := isAddressable_iff.mp haddr
    refine ⟨haddr, rfl, ?_⟩
    rw [resolve_child_of_root hsegments hne hslash, hget]
  · rintro ⟨haddr, rfl, hresolve⟩
    have ⟨hne, hslash⟩ := isAddressable_iff.mp haddr
    rw [resolve_child_of_root hsegments hne hslash] at hresolve
    cases hget : b.mounts.get? name with
    | none =>
      rw [hget] at hresolve
      cases hresolve
    | some schema => exact ⟨rfl, schema, rfl⟩

/-- A name at the root resolves to the mount of that name only. -/
theorem resolve_root_child_eq_ok {name : String} {node : Node} (hsegments : Text.segments path = [])
    (hne : name ≠ "") (hslash : '/' ∉ name.toList) (h : b.resolve store (path ++ "/" ++ name) = .ok node) :
    node = .mount name := by
  rw [resolve_child_of_root hsegments hne hslash] at h
  cases hget : b.mounts.get? name with
  | none =>
    rw [hget] at h
    cases h
  | some schema =>
    rw [hget] at h
    cases h
    rfl

/-- At the root there is no level whose results could be in an order. -/
theorem isFirstOfName_of_root {name : String} {node child : Node} (hnode : b.resolve store path = .ok node)
    (hroot : node.place? = none) : b.IsFirstOfName store path name child := by
  intro node' mount chain hnode' hplace
  rw [hnode] at hnode'
  cases hnode'
  rw [hroot] at hplace
  cases hplace

/-- The first result with a label stands at the end of the chain of its node. -/
theorem isFirstOfName_of_find {schema : Schema} {level : Level} {mount name : String} {chain found : List Entry}
    {e : Entry} {kind : NodeKind} {node : Node} (hnode : b.resolve store path = .ok node)
    (hplace : node.place? = some (mount, chain)) (hmount : b.mounts.get? mount = some schema)
    (hlevel : schema.levels[chain.length]? = some level) (hfound : level.found store b.strict chain = .ok found)
    (hfind : found.find? (fun e => e.label level.label == name) = some e) :
    b.IsFirstOfName store path name (.entry mount (chain ++ [e]) kind) := by
  intro node' mount' chain' hnode' hplace'
  rw [hnode] at hnode'
  cases hnode'
  rw [hplace] at hplace'
  cases hplace'
  obtain ⟨hlabel, before, after, rfl, hbefore⟩ := List.find?_eq_some_iff_append.mp hfind
  refine ⟨schema, level, before, e, after, hmount, hlevel, hfound, by simpa using hlabel, ?_, rfl⟩
  intro x hx
  simpa using hbefore x hx

/-- **Listing and resolving describe the same tree.** Every item that a listing holds after the
dots resolves as a child of the path, to a node of the kind that is listed and to the first result
with its label; and every name below the path that resolves is among those items. -/
theorem list_agrees_with_resolve (b : Browser) (hb : b.mounts.Registered) (store : Store) (path : String)
    (items : List (String × NodeKind)) (h : b.list store path = .ok items) :
    ∃ rest, items = dots ++ rest ∧
      (∀ name kind, (name, kind) ∈ rest →
        ∃ node, b.resolve store (path ++ "/" ++ name) = .ok node ∧ node.kind = kind ∧
          b.IsFirstOfName store path name node) ∧
      ∀ name node, name ≠ "" → '/' ∉ name.toList → b.resolve store (path ++ "/" ++ name) = .ok node →
        ∃ kind, (name, kind) ∈ rest := by
  obtain ⟨node, hnode, ⟨hroot, rfl⟩ | ⟨mount, chain, hplace, hbelow⟩⟩ := list_eq_ok h
  · -- the root: its children are the mounts
    have ⟨hsegments, _⟩ := segments_eq_nil_of_resolve hnode hroot
    refine ⟨_, rfl, ?_, ?_⟩
    · intro name kind hmem
      obtain ⟨-, rfl, hresolve⟩ := (mem_mounts_iff_resolve hb hsegments).mp hmem
      exact ⟨.mount name, hresolve, rfl, isFirstOfName_of_root hnode hroot⟩
    · intro name node' hne hslash hresolve
      have hmount := resolve_root_child_eq_ok hsegments hne hslash hresolve
      subst hmount
      have haddr : isAddressable name = true := isAddressable_iff.mpr ⟨hne, hslash⟩
      exact ⟨.directory, (mem_mounts_iff_resolve hb hsegments).mpr ⟨haddr, rfl, hresolve⟩⟩
  · -- below a mount: its children are those of the next level
    obtain ⟨schema, below, hsegments, hmount, hchain⟩ := place_of_resolve hnode hplace
    rw [below_eq hmount] at hbelow
    cases hrest : b.childItems store schema chain with
    | error e =>
      rw [hrest] at hbelow
      cases hbelow
    | ok rest =>
      rw [hrest] at hbelow
      cases hbelow
      refine ⟨rest, rfl, ?_, ?_⟩
      · intro name kind hmem
        have haddr := ((mem_childItems_iff hrest).mp hmem).1
        obtain ⟨level, found, e, hlevel, hfound, hfind, -, hresolve⟩ :=
          (mem_childItems_iff_resolve hsegments hmount hchain hrest haddr).mp hmem
        exact ⟨_, hresolve, rfl, isFirstOfName_of_find hnode hplace hmount hlevel hfound hfind⟩
      · intro name node' hne hslash hresolve
        obtain ⟨level, found, e, hlevel, hfound, hfind⟩ :=
          resolve_child_eq_ok hsegments hmount hchain hne hslash hresolve
        have haddr : isAddressable name = true := isAddressable_iff.mpr ⟨hne, hslash⟩
        exact ⟨_, (mem_childItems_iff hrest).mpr ⟨haddr, level, found, e, hlevel, hfound, hfind, rfl⟩⟩

/-- The agreement at a mount whose level shows the title of a show. -/
theorem list_agrees_with_resolve_at_mount :
    let mounts := Dict.empty.insert "tv"
      (Schema.mk "q=\"kind.Equals(show)\" d=\"$title\"" [⟨⟨"kind.Equals(show)"⟩, ⟨"$title"⟩, none, none, none⟩])
    let b : Browser := ⟨mounts, true⟩
    let e := ((Entry.blank ⟨"set:1"⟩).insert "kind" "show").insert "title" "Pilot"
    let store := Store.ofTable (Table.empty.write e)
    b.mounts.Registered ∧ b.list store "/tv" = .ok (dots ++ [("Pilot", .directory)]) ∧
      ∃ node, b.resolve store ("/tv" ++ "/" ++ "Pilot") = .ok node ∧ node.kind = .directory := by
  intro mounts b e store
  have hregister : Mounts.register Dict.empty "tv" "q=\"kind.Equals(show)\" d=\"$title\"" = (.ok (), mounts) := by
    decide +kernel
  have hmounts : b.mounts.Registered := Mounts.Registered.empty.of_register hregister
  have hlist : b.list store "/tv" = .ok (dots ++ [("Pilot", .directory)]) :=
    eq_ok_of_toOption (by decide +kernel)
  obtain ⟨rest, hrest, hitems, -⟩ := list_agrees_with_resolve b hmounts store "/tv" _ hlist
  have hmem : ("Pilot", NodeKind.directory) ∈ rest := by
    rw [← List.append_cancel_left hrest]
    exact List.mem_singleton_self _
  obtain ⟨node, hnode, hkind, -⟩ := hitems "Pilot" .directory hmem
  exact ⟨hmounts, hlist, node, hnode, hkind⟩

end Browser

end MediaCatalog
