import MediaCatalog.Namespace.Resolution
import MediaCatalog.Proofs.Text.Segments

/-!
# Resolving a child

A path that is one segment longer is resolved by one more level. This file says so for chains of
entries and for nodes, and names what every registered mount has in common.

* `Mounts.Registered`: mounts that came about by registration; their names are addressable
  (`Mounts.Registered.isName`).
* **Chains** (`Schema.chain?_concat`): the chain of one more segment, from the chain before it.
* `Node.place?`: the mount and the chain at which a node stands, if it is not the root.
* **Nodes** (`Browser.resolve_child`): the node of a child, from the place of its parent.
* `Browser.LeadsTo`: the entry at the end of a path; `Browser.leadsTo_iff` finds it level by level. There is
  none while the store is closed (`Browser.isOpen_of_leadsTo`).
-/

namespace MediaCatalog

/-! ## Mounts -/

namespace Mounts

/-- The mounts that registrations lead to. -/
inductive Registered : Mounts → Prop where
  | empty : Registered Dict.empty
  | register {mounts : Mounts} (h : Registered mounts) (name schema : String) :
      Registered (mounts.register name schema).2

/-- The mounts after one more registration. -/
theorem Registered.of_register {mounts mounts' : Mounts} (h : Registered mounts) {name schema : String}
    {outcome : Except NamespaceError Unit} (hregister : mounts.register name schema = (outcome, mounts')) :
    Registered mounts' := by
  have hafter := h.register name schema
  rwa [hregister] at hafter

/-- A registration succeeds with a name that a path can hold and a schema that can be read. It changes nothing
otherwise. -/
theorem register_cases (mounts : Mounts) (name text : String) :
    (isName name = true ∧ ∃ schema, Schema.ofText text = .ok schema ∧
        mounts.register name text = (.ok (), mounts.insert name schema)) ∨
      ∃ reason, mounts.register name text = (.error (.schema reason), mounts) := by
  unfold register
  split
  case isTrue hname =>
    cases Schema.ofText text with
    | error reason => exact .inr ⟨reason, rfl⟩
    | ok schema => exact .inl ⟨hname, schema, rfl, rfl⟩
  case isFalse => exact .inr ⟨_, rfl⟩

/-- Every registered mount has a name that a path can hold. -/
theorem Registered.isName {mounts : Mounts} (h : Registered mounts) {name : String} {schema : Schema}
    (hget : mounts.get? name = some schema) : isName name = true := by
  induction h with
  | empty => cases hget
  | register _ newName text ih =>
    rcases register_cases _ newName text with ⟨hname, _, -, hregister⟩ | ⟨_, hregister⟩ <;> rw [hregister] at hget
    · rw [Dict.get?_insert] at hget
      split at hget
      case isTrue heq => exact heq ▸ hname
      case isFalse => exact ih hget
    · exact ih hget

end Mounts

/-- What a name has to be so that a path can continue by it. -/
theorem isAddressable_iff {name : String} : isAddressable name = true ↔ name ≠ "" ∧ '/' ∉ name.toList := by
  simp [isAddressable]

/-- The segments of a path are the names of which it is made. -/
theorem segments_of_isAddressable {names : List String} (h : ∀ name ∈ names, isAddressable name = true) :
    Text.segments (Text.descend "" names) = names := by
  rw [Text.segments_descend _ fun name hname => isAddressable_iff.mp (h name hname), Text.segments_empty, List.nil_append]

/-- A mount's name is addressable. -/
theorem Mounts.isAddressable_of_isName {name : String} (h : Mounts.isName name = true) :
    isAddressable name = true := by
  rw [isAddressable_iff]
  simp only [isName, Bool.and_eq_true, decide_eq_true_eq, Bool.not_eq_true', List.contains_eq_mem,
    decide_eq_false_iff_not] at h
  exact ⟨h.1.1.1, h.1.1.2⟩

/-! ## Chains -/

/-- One more level continues the chain by the first result with the label, if there is one. -/
def Level.next? (level : Level) (store : Store) (strict : Bool) (chain : List Entry) (segment : String) :
    Except NamespaceError (Option Entry) := do
  return (← level.found store strict chain).find? fun e => e.label level.label == segment

/-- On a closed store no level continues a chain. -/
theorem Level.next?_of_closed {level : Level} {store : Store} {strict : Bool} {chain : List Entry}
    (hclosed : store.isOpen = false) (segment : String) :
    ∃ error, level.next? store strict chain segment = .error error := by
  have hsearch : ∀ q group, store.search q group = .error .database := by
    intro q group
    simp [Store.search, Store.demandOpen, hclosed, bind, Except.bind]
  unfold next? found
  cases Store.compile strict (level.query.substitute chain) with
  | error error => exact ⟨_, rfl⟩
  | ok q =>
    simp only [hsearch]
    exact ⟨_, rfl⟩

/-- A chain grows level by level. -/
theorem Level.extend?_append (store : Store) (strict : Bool) (pairs more : List (Level × String))
    (chain : List Entry) :
    Level.extend? store strict chain (pairs ++ more) =
      Level.extend? store strict chain pairs >>= fun
        | none => pure none
        | some chain => Level.extend? store strict chain more := by
  induction pairs generalizing chain with
  | nil => rfl
  | cons pair rest ih =>
    obtain ⟨level, segment⟩ := pair
    simp only [List.cons_append, Level.extend?]
    cases level.found store strict chain with
    | error e => rfl
    | ok found =>
      simp only [bind, Except.bind]
      cases found.find? fun e => e.label level.label == segment with
      | none => rfl
      | some e => exact ih _

/-- **One level after the other** continues a chain. -/
theorem Level.extend?_cons_eq_some_iff {level : Level} {store : Store} {strict : Bool} {chain chain' : List Entry}
    {segment : String} {rest : List (Level × String)} :
    Level.extend? store strict chain ((level, segment) :: rest) = .ok (some chain') ↔
      ∃ e, level.next? store strict chain segment = .ok (some e) ∧
        Level.extend? store strict (chain ++ [e]) rest = .ok (some chain') := by
  unfold Level.next?
  rw [Level.extend?]
  cases level.found store strict chain with
  | error error => simp [bind, Except.bind]
  | ok found =>
    simp only [bind, Except.bind, pure, Except.pure]
    cases found.find? fun e => e.label level.label == segment <;> simp

/-- A chain has one entry for each level that was gone through. -/
theorem Level.length_extend? {store : Store} {strict : Bool} {pairs : List (Level × String)}
    {chain chain' : List Entry} (h : Level.extend? store strict chain pairs = .ok (some chain')) :
    chain'.length = chain.length + pairs.length := by
  induction pairs generalizing chain with
  | nil =>
    simp only [Level.extend?, Except.ok.injEq, Option.some.injEq] at h
    rw [h]
    rfl
  | cons pair rest ih =>
    obtain ⟨level, segment⟩ := pair
    obtain ⟨e, -, hrest⟩ := Level.extend?_cons_eq_some_iff.mp h
    rw [ih hrest, List.length_append, List.length_singleton, List.length_cons]
    omega

/-- One more segment is met by one more level, if there is one. -/
theorem zip_concat {levels : List Level} {segments : List String} {level : Level}
    (h : levels[segments.length]? = some level) (segment : String) :
    levels.zip (segments ++ [segment]) = levels.zip segments ++ [(level, segment)] := by
  induction segments generalizing levels with
  | nil =>
    cases levels with
    | nil => cases h
    | cons first rest =>
      cases h
      simp
  | cons s segments ih =>
    cases levels with
    | nil => cases h
    | cons first rest =>
      simp only [List.length_cons, List.getElem?_cons_succ] at h
      simp only [List.cons_append, List.zip_cons_cons, ih h]

namespace Schema

variable {schema : Schema} {store : Store} {strict : Bool}

/-- The mount itself is where the empty chain stands. -/
theorem chain?_nil (schema : Schema) (store : Store) (strict : Bool) :
    schema.chain? store strict [] = .ok (some []) := by
  rw [chain?, if_neg (by simp), List.zip_nil_right]
  rfl

/-- The chain of some segments has one entry for each. -/
theorem length_of_chain? {segments : List String} {chain : List Entry}
    (h : schema.chain? store strict segments = .ok (some chain)) :
    chain.length = segments.length ∧ segments.length ≤ schema.levels.length ∧
      Level.extend? store strict [] (schema.levels.zip segments) = .ok (some chain) := by
  unfold chain? at h
  split at h
  case isTrue => cases h
  case isFalse hle =>
    have hlength := Level.length_extend? h
    rw [List.length_zip] at hlength
    refine ⟨?_, by omega, h⟩
    simp only [List.length_nil] at hlength
    omega

/-- **One more segment.** Its chain is the chain before it, continued by the next level. -/
theorem chain?_concat {segments : List String} {chain : List Entry}
    (h : schema.chain? store strict segments = .ok (some chain)) (segment : String) :
    schema.chain? store strict (segments ++ [segment]) =
      match schema.levels[chain.length]? with
      | none => .ok none
      | some level =>
        level.next? store strict chain segment >>= fun e? => pure (e?.map fun e => chain ++ [e]) := by
  obtain ⟨hlength, hle, hextend⟩ := length_of_chain? h
  cases hlevel : schema.levels[chain.length]? with
  | none =>
    have hdeep := List.getElem?_eq_none_iff.mp hlevel
    rw [chain?, if_pos]
    rw [List.length_append, List.length_singleton]
    omega
  | some level =>
    have hlt := (List.getElem?_eq_some_iff.mp hlevel).1
    rw [hlength] at hlevel
    rw [chain?, if_neg, zip_concat hlevel, Level.extend?_append, hextend]
    · simp only [Level.extend?, Level.next?, bind, Except.bind]
      cases level.found store strict chain with
      | error e => rfl
      | ok found =>
        cases hfind : found.find? fun e => e.label level.label == segment <;> simp [hfind, pure, Except.pure]
    · rw [List.length_append, List.length_singleton]
      omega

end Schema

/-! ## Nodes -/

/-- The mount and the chain at which a node stands; the root stands at none. -/
def Node.place? : Node → Option (String × List Entry)
  | root => none
  | mount name => some (name, [])
  | entry name chain _ => some (name, chain)

namespace Browser

variable {b : Browser} {store : Store} {path : String}

/-- A path below the root leads to the chain of its segments below the mount. -/
theorem place_of_resolve {node : Node} {mount : String} {chain : List Entry}
    (h : b.resolve store path = .ok node) (hplace : node.place? = some (mount, chain)) :
    ∃ schema below, Text.segments path = mount :: below ∧ b.mounts.get? mount = some schema ∧
      schema.chain? store b.strict below = .ok (some chain) := by
  unfold resolve at h
  split at h
  · cases h
    cases hplace
  · next name below hsegments =>
    split at h
    · cases h
    · next schema hmount =>
      split at h
      · next hempty =>
        cases h
        cases hplace
        have hbelow : below = [] := List.isEmpty_iff.mp hempty
        subst hbelow
        exact ⟨schema, [], hsegments, hmount, Schema.chain?_nil schema store b.strict⟩
      · cases hchain : schema.chain? store b.strict below with
        | error e =>
          rw [hchain] at h
          cases h
        | ok found =>
          rw [hchain] at h
          cases found with
          | none => cases h
          | some chain' =>
            cases h
            cases hplace
            exact ⟨schema, below, hsegments, hmount, hchain⟩

/-- The root stands at no place, and every other node at one. -/
theorem segments_eq_nil_of_resolve {node : Node} (h : b.resolve store path = .ok node)
    (hplace : node.place? = none) : Text.segments path = [] ∧ node = .root := by
  cases node with
  | root =>
    refine ⟨?_, rfl⟩
    unfold resolve at h
    split at h
    · assumption
    · split at h
      · cases h
      · next schema _ =>
        split at h
        · cases h
        · next below _ _ =>
          rcases hchain : schema.chain? store b.strict _ with e | found
          · rw [hchain] at h
            cases h
          · rw [hchain] at h
            cases found <;> cases h
  | mount name => cases hplace
  | entry mount chain kind => cases hplace

/-- The kind of a node that has an entry. -/
theorem classify_concat (schema : Schema) (chain : List Entry) (e : Entry) :
    ((chain ++ [e]).getLast?.map (NodeKind.classify schema ((chain ++ [e]).length - 1))).getD .directory =
      NodeKind.classify schema chain.length e := by
  simp

/-- **The node of a child** comes from the place of its parent by one more level. -/
theorem resolve_child {schema : Schema} {mount name : String} {below : List String} {chain : List Entry}
    (hsegments : Text.segments path = mount :: below) (hmount : b.mounts.get? mount = some schema)
    (hchain : schema.chain? store b.strict below = .ok (some chain)) (hne : name ≠ "")
    (hslash : '/' ∉ name.toList) :
    b.resolve store (path ++ "/" ++ name) =
      match schema.levels[chain.length]? with
      | none => .error .notFound
      | some level => level.next? store b.strict chain name >>= fun
        | none => .error .notFound
        | some e => .ok (.entry mount (chain ++ [e]) (NodeKind.classify schema chain.length e)) := by
  have hchild : Text.segments (path ++ "/" ++ name) = mount :: (below ++ [name]) := by
    rw [Text.segments_child path hne hslash, hsegments, List.cons_append]
  rw [resolve, hchild]
  simp only [hmount]
  rw [if_neg (by simp), Schema.chain?_concat hchain]
  cases schema.levels[chain.length]? with
  | none => rfl
  | some level =>
    cases hnext : level.next? store b.strict chain name with
    | error e => simp only [hnext]; rfl
    | ok e? =>
      cases e? with
      | none => simp only [hnext]; rfl
      | some e =>
        simp only [hnext]
        exact congrArg (fun kind => Except.ok (Node.entry mount (chain ++ [e]) kind))
          (classify_concat schema chain e)

/-- A name at the root is a mount or nothing. -/
theorem resolve_child_of_root {name : String} (hsegments : Text.segments path = []) (hne : name ≠ "")
    (hslash : '/' ∉ name.toList) :
    b.resolve store (path ++ "/" ++ name) =
      match b.mounts.get? name with
      | none => .error .notFound
      | some _ => .ok (.mount name) := by
  have hchild : Text.segments (path ++ "/" ++ name) = [name] := by
    rw [Text.segments_child path hne hslash, hsegments, List.nil_append]
  rw [resolve, hchild]
  rfl

/-! ## Entries at the ends of paths -/

/-- A path leads to an entry, which appears as a directory or a file. -/
def LeadsTo (b : Browser) (store : Store) (path : String) (e : Entry) (kind : NodeKind) : Prop :=
  ∃ node, b.resolve store path = .ok node ∧ node.entry? = some e ∧ node.kind = kind

/-- **Level by level** a path below a mount leads to the last entry of its chain. -/
theorem leadsTo_iff {schema : Schema} {mount : String} {below : List String} (hsegments : Text.segments path = mount :: below)
    (hmount : b.mounts.get? mount = some schema) (hle : below.length ≤ schema.levels.length) {e : Entry} {kind : NodeKind} :
    b.LeadsTo store path e kind ↔ ∃ chain, below ≠ [] ∧
      Level.extend? store b.strict [] (schema.levels.zip below) = .ok (some chain) ∧ chain.getLast? = some e ∧
        kind = NodeKind.classify schema (chain.length - 1) e := by
  unfold LeadsTo resolve Schema.chain?
  rw [hsegments]
  simp only [hmount, if_neg (Nat.not_lt.mpr hle)]
  by_cases hbelow : below = []
  · subst hbelow
    simp [Node.entry?]
  · rw [if_neg (by simpa using hbelow)]
    rcases Level.extend? store b.strict [] (schema.levels.zip below) with error | chain
    · simp [bind, Except.bind]
    · cases chain with
      | none => simp [bind, Except.bind, throw, throwThe, MonadExceptOf.throw]
      | some chain =>
        cases hlast : chain.getLast? with
        | none => simp [bind, Except.bind, pure, Except.pure, Node.entry?, hlast]
        | some last =>
          simp [bind, Except.bind, pure, Except.pure, Node.entry?, Node.kind, hlast, hbelow]
          grind

/-- On a closed store no path leads to an entry. -/
theorem isOpen_of_leadsTo {e : Entry} {kind : NodeKind} (h : b.LeadsTo store path e kind) : store.isOpen = true := by
  obtain ⟨node, hnode, hentry, -⟩ := h
  match node, hnode, hentry with
  | .entry mount chain kind, hnode, hentry =>
    obtain ⟨schema, below, -, -, hchain⟩ := place_of_resolve hnode rfl
    obtain ⟨-, -, hextend⟩ := Schema.length_of_chain? hchain
    match schema.levels.zip below, hextend with
    | [], hextend =>
      cases hextend
      cases hentry
    | (level, segment) :: rest, hextend =>
      obtain ⟨x, hx, -⟩ := Level.extend?_cons_eq_some_iff.mp hextend
      cases hopen : store.isOpen with
      | true => rfl
      | false =>
        obtain ⟨error, herror⟩ := @Level.next?_of_closed level store b.strict [] hopen segment
        rw [hx] at herror
        cases herror

end Browser

end MediaCatalog
