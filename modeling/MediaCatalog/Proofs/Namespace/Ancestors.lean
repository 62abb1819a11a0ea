import MediaCatalog.Proofs.Namespace.Listing

/-!
# What stands above a path

A path is resolved from the mount downwards, and each level is asked with what was found above it. So whoever
has come to the end of a path has come through everything above it.

* **Chains** (`Schema.chain?_take`): the chain of the first segments is the first part of the chain;
  `Schema.found_of_chain?`: the level below it has been asked.
* **Directories** (`Browser.resolve_ancestor`, `Browser.list_ancestor`): what stands above a path is a directory
  and can be listed.
* **Main result** (`Browser.ancestors_of_resolve`): with a path resolve all that stand above it, each to its part of the
  chain, and so do all spellings of the path.
-/

namespace MediaCatalog

/-! ## Levels one after the other -/

namespace Level

variable {store : Store} {strict : Bool} {chain chain' : List Entry}

/-- A chain that has grown begins with what it was. -/
theorem prefix_of_extend? {pairs : List (Level × String)} (h : extend? store strict chain pairs = .ok (some chain')) :
    chain <+: chain' := by
  induction pairs generalizing chain with
  | nil =>
    cases h
    exact List.prefix_rfl
  | cons pair pairs ih =>
    obtain ⟨level, segment⟩ := pair
    obtain ⟨e, -, hrest⟩ := extend?_cons_eq_some_iff.mp h
    exact (List.prefix_append chain [e]).trans (ih hrest)

/-- A chain that has grown through some levels and then through others was somewhere in between. -/
theorem extend?_append_eq_some {pairs more : List (Level × String)}
    (h : extend? store strict chain (pairs ++ more) = .ok (some chain')) :
    ∃ between, extend? store strict chain pairs = .ok (some between) ∧
      extend? store strict between more = .ok (some chain') := by
  rw [extend?_append] at h
  cases hpairs : extend? store strict chain pairs with
  | error error =>
    rw [hpairs] at h
    cases h
  | ok between? =>
    rw [hpairs] at h
    cases between? with
    | none => cases h
    | some between => exact ⟨between, rfl, h⟩

/-- A level that continues a chain has results. -/
theorem found_of_next? {level : Level} {segment : String} {e : Entry}
    (h : level.next? store strict chain segment = .ok (some e)) : ∃ found, level.found store strict chain = .ok found := by
  unfold next? at h
  cases hfound : level.found store strict chain with
  | error error =>
    rw [hfound] at h
    cases h
  | ok found => exact ⟨found, rfl⟩

end Level

/-! ## Chains -/

namespace Schema

variable {schema : Schema} {store : Store} {strict : Bool} {segments : List String} {chain : List Entry}

/-- The first segments are met by the first levels. -/
theorem zip_take (levels : List Level) (segments : List String) (k : Nat) :
    levels.zip (segments.take k) = (levels.zip segments).take k := by
  induction k generalizing levels segments with
  | zero => simp
  | succ k ih =>
    cases levels with
    | nil => simp
    | cons level levels =>
      cases segments with
      | nil => simp
      | cons segment segments => simp [ih]

/-- A chain passes through the chain of the first segments. -/
theorem extend?_of_chain? (h : schema.chain? store strict segments = .ok (some chain)) {k : Nat}
    (hk : k ≤ segments.length) :
    Level.extend? store strict [] (schema.levels.zip (segments.take k)) = .ok (some (chain.take k)) ∧
      Level.extend? store strict (chain.take k) ((schema.levels.zip segments).drop k) = .ok (some chain) := by
  obtain ⟨-, hle, hextend⟩ := length_of_chain? h
  rw [← List.take_append_drop k (schema.levels.zip segments)] at hextend
  obtain ⟨between, hbefore, hafter⟩ := Level.extend?_append_eq_some hextend
  have hlength := Level.length_extend? hbefore
  rw [List.length_nil, Nat.zero_add, List.length_take, List.length_zip, Nat.min_eq_right hle,
    Nat.min_eq_left hk] at hlength
  have hbetween : between = chain.take k := by
    rw [← hlength]
    exact List.prefix_iff_eq_take.mp (Level.prefix_of_extend? hafter)
  rw [zip_take, ← hbetween]
  exact ⟨hbefore, hafter⟩

/-- **The chain of the first segments** is the first part of the chain. -/
theorem chain?_take (h : schema.chain? store strict segments = .ok (some chain)) {k : Nat} (hk : k ≤ segments.length) :
    schema.chain? store strict (segments.take k) = .ok (some (chain.take k)) := by
  obtain ⟨-, hle, -⟩ := length_of_chain? h
  rw [chain?, if_neg, (extend?_of_chain? h hk).1]
  rw [List.length_take]
  omega

/-- **The level below** the first segments has given its results to the next one. -/
theorem found_of_chain? (h : schema.chain? store strict segments = .ok (some chain)) {k : Nat}
    (hk : k < segments.length) :
    ∃ level found, schema.levels[k]? = some level ∧ level.found store strict (chain.take k) = .ok found := by
  obtain ⟨-, hle, -⟩ := length_of_chain? h
  have hlevels : k < schema.levels.length := Nat.lt_of_lt_of_le hk hle
  have hzip : k < (schema.levels.zip segments).length := by
    rw [List.length_zip]
    exact Nat.lt_min.mpr ⟨hlevels, hk⟩
  have hafter := (extend?_of_chain? h (Nat.le_of_lt hk)).2
  rw [List.drop_eq_getElem_cons hzip, List.getElem_zip] at hafter
  obtain ⟨e, hnext, -⟩ := Level.extend?_cons_eq_some_iff.mp hafter
  obtain ⟨found, hfound⟩ := Level.found_of_next? hnext
  exact ⟨_, found, List.getElem?_eq_getElem hlevels, hfound⟩

end Schema

/-! ## Paths -/

namespace Browser

variable {b : Browser} {store : Store} {path : String}

/-- A path is resolved by its segments. -/
theorem resolve_congr {path' : String} (h : Text.segments path = Text.segments path') :
    b.resolve store path = b.resolve store path' := by
  unfold resolve
  rw [h]

/-- A path of one segment leads to its mount. -/
theorem resolve_mount {schema : Schema} {mount : String} (hsegments : Text.segments path = [mount])
    (hmount : b.mounts.get? mount = some schema) : b.resolve store path = .ok (.mount mount) := by
  unfold resolve
  rw [hsegments]
  simp only [hmount]
  rfl

/-- A path with segments below its mount leads to their chain. -/
theorem resolve_of_chain? {schema : Schema} {mount : String} {below : List String} {chain : List Entry}
    (hsegments : Text.segments path = mount :: below) (hbelow : below ≠ []) (hmount : b.mounts.get? mount = some schema)
    (hchain : schema.chain? store b.strict below = .ok (some chain)) :
    b.resolve store path = .ok (.entry mount chain
      ((chain.getLast?.map (NodeKind.classify schema (chain.length - 1))).getD .directory)) := by
  unfold resolve
  rw [hsegments]
  simp only [hmount]
  rw [if_neg (by simpa using hbelow), hchain]
  rfl

/-- Above the last level every chain stands at a directory. -/
theorem kind_of_lt {schema : Schema} {chain : List Entry} (h : chain.length < schema.levels.length) :
    (chain.getLast?.map (NodeKind.classify schema (chain.length - 1))).getD .directory = .directory := by
  cases hlast : chain.getLast? with
  | none => rfl
  | some e =>
    have hpos : 0 < chain.length := List.length_pos_of_mem (List.mem_of_getLast? hlast)
    exact if_pos (.inl (by omega))

/-- A directory below the root is listed by what stands below its place. -/
theorem list_of_place {node : Node} {mount : String} {chain : List Entry} (h : b.resolve store path = .ok node)
    (hkind : node.kind = .directory) (hplace : node.place? = some (mount, chain)) :
    b.list store path = b.below store mount chain := by
  unfold list
  rw [h]
  match node, hkind, hplace with
  | .mount name, _, rfl => rfl
  | .entry name chain .directory, _, rfl => rfl

variable {schema : Schema} {mount : String} {below : List String} {chain : List Entry} {k : Nat}

/-- **What stands above a path** and below its mount is a directory, at its part of the chain. -/
theorem resolve_ancestor (hsegments : Text.segments path = mount :: below.take k) (hmount : b.mounts.get? mount = some schema)
    (hchain : schema.chain? store b.strict below = .ok (some chain)) (hpos : 1 ≤ k) (hk : k < below.length) :
    b.resolve store path = .ok (.entry mount (chain.take k) .directory) := by
  obtain ⟨hlength, hle, -⟩ := Schema.length_of_chain? hchain
  have htake : (chain.take k).length = k := by
    rw [List.length_take]
    omega
  have hne : below.take k ≠ [] := by
    rw [ne_eq, List.take_eq_nil_iff]
    rintro (hzero | hnil)
    · omega
    · rw [hnil] at hk
      cases hk
  rw [resolve_of_chain? hsegments hne hmount (Schema.chain?_take hchain (Nat.le_of_lt hk)), kind_of_lt (by omega)]

/-- **What stands above a path** can be listed, since the level below has been asked. -/
theorem list_ancestor {node : Node} (hmount : b.mounts.get? mount = some schema)
    (hchain : schema.chain? store b.strict below = .ok (some chain)) (hk : k < below.length)
    (hresolve : b.resolve store path = .ok node) (hkind : node.kind = .directory)
    (hplace : node.place? = some (mount, chain.take k)) : ∃ items, b.list store path = .ok items := by
  obtain ⟨hlength, -, -⟩ := Schema.length_of_chain? hchain
  obtain ⟨level, found, hlevel, hfound⟩ := Schema.found_of_chain? hchain hk
  have htake : (chain.take k).length = k := by
    rw [List.length_take]
    omega
  rw [list_of_place hresolve hkind hplace, below_eq hmount, childItems, Schema.children, htake, hlevel]
  simp only [hfound]
  exact ⟨_, rfl⟩

/-- **Everything above a path resolves.** If the path of some names below a mount resolves, it leads to a chain of one
entry for each; the first names, as long as they are not all, lead to just the first entries, and there stands a
directory; before the first name stands the mount. All of these can be listed. And whatever further slashes the path is
written with, it leads to the same node. -/
theorem ancestors_of_resolve (b : Browser) (store : Store) {mount : String} {names : List String} {node : Node}
    (hnames : ∀ name ∈ mount :: names, isAddressable name = true) (hne : names ≠ [])
    (h : b.resolve store (Text.descend "" (mount :: names)) = .ok node) :
    ∃ chain kind, node = .entry mount chain kind ∧ chain.length = names.length ∧
      (∀ k, 1 ≤ k → k < names.length →
        b.resolve store (Text.descend "" (mount :: names.take k)) = .ok (.entry mount (chain.take k) .directory)) ∧
      b.resolve store (Text.descend "" [mount]) = .ok (.mount mount) ∧
      (∀ k < names.length, ∃ items, b.list store (Text.descend "" (mount :: names.take k)) = .ok items) ∧
      ∀ path, Text.Respelled (Text.descend "" (mount :: names)) path → b.resolve store path = .ok node := by
  have hsegments : ∀ k, Text.segments (Text.descend "" (mount :: names.take k)) = mount :: names.take k := by
    intro k
    refine segments_of_isAddressable fun name hname => hnames name ?_
    exact List.cons_subset_cons mount (List.take_subset k names) hname
  have hall := hsegments names.length
  rw [List.take_length] at hall
  -- the node stands at a place, since the path is not that of the root
  obtain ⟨⟨mount', chain⟩, hplace⟩ : ∃ place, node.place? = some place := by
    refine Option.ne_none_iff_exists'.mp fun hroot => ?_
    rw [(segments_eq_nil_of_resolve h hroot).1] at hall
    cases hall
  obtain ⟨schema, below, hbelow, hmount, hchain⟩ := place_of_resolve h hplace
  rw [hall] at hbelow
  obtain ⟨rfl, rfl⟩ := List.cons.inj hbelow
  obtain ⟨hlength, -, -⟩ := Schema.length_of_chain? hchain
  have hresolve := resolve_of_chain? hall hne hmount hchain
  have hroot : b.resolve store (Text.descend "" [mount]) = .ok (.mount mount) := resolve_mount (hsegments 0) hmount
  have hancestor : ∀ k, 1 ≤ k → k < names.length → b.resolve store (Text.descend "" (mount :: names.take k)) =
      .ok (.entry mount (chain.take k) .directory) :=
    fun k hpos hk => resolve_ancestor (hsegments k) hmount hchain hpos hk
  rw [h, Except.ok.injEq] at hresolve
  refine ⟨chain, _, hresolve, hlength, hancestor, hroot, ?_, ?_⟩
  · intro k hk
    rcases Nat.eq_zero_or_pos k with rfl | hpos
    · exact list_ancestor hmount hchain hk hroot rfl rfl
    · exact list_ancestor hmount hchain hk (hancestor k hpos hk) rfl rfl
  · intro path hpath
    rw [resolve_congr hpath.segments_eq, h]

/-- An episode below its show: the show above it, the mount above that, and the path with more slashes. -/
theorem ancestors_of_resolve_of_episode :
    let level (query : String) : Level := ⟨⟨query⟩, ⟨"$title"⟩, none, none, none⟩
    let schema := Schema.mk "" [level "kind.Equals(series)", level "series.Equals($prev[1].title)"]
    let b : Browser := ⟨Dict.empty.insert "tv" schema, true⟩
    let series := ((Entry.blank ⟨"set:1"⟩).insert "kind" "series").insert "title" "Pilot"
    let episode := ((Entry.blank ⟨"file:1"⟩).insert "series" "Pilot").insert "title" "One"
    let store := Store.ofTable ((Table.empty.write series).write episode)
    (∀ name ∈ ["tv", "Pilot", "One"], isAddressable name = true) ∧ ["Pilot", "One"] ≠ [] ∧
      b.resolve store "/tv/Pilot/One" = .ok (.entry "tv" [series, episode] .file) ∧
      b.resolve store "/tv/Pilot" = .ok (.entry "tv" [series] .directory) ∧ (∃ items, b.list store "/tv/Pilot" = .ok items) ∧
      b.resolve store "/tv//Pilot/One/" = .ok (.entry "tv" [series, episode] .file) := by
  intro level schema b series episode store
  have hnames : ∀ name ∈ ["tv", "Pilot", "One"], isAddressable name = true := by decide
  have hne : ["Pilot", "One"] ≠ [] := List.cons_ne_nil _ _
  have hchain : schema.chain? store b.strict ["Pilot", "One"] = .ok (some [series, episode]) :=
    eq_ok_of_toOption (by decide +kernel)
  have hsegments : Text.segments "/tv/Pilot/One" = ["tv", "Pilot", "One"] := by decide
  have hfile : NodeKind.classify schema 1 episode = .file := by decide
  have hresolve : b.resolve store "/tv/Pilot/One" = .ok (.entry "tv" [series, episode] .file) := by
    rw [resolve_of_chain? hsegments hne rfl hchain]
    exact congrArg (fun kind => Except.ok (Node.entry "tv" [series, episode] kind)) hfile
  obtain ⟨chain, kind, hnode, -, hancestor, -, hlist, hrespelled⟩ := ancestors_of_resolve b store hnames hne hresolve
  cases hnode
  have hspelling : Text.Respelled "/tv/Pilot/One" ("/tv" ++ "//" ++ "Pilot/One" ++ "/") := .trailing (.doubled .same)
  exact ⟨hnames, hne, hresolve, hancestor 1 (by decide) (by decide), hlist 1 (by decide), hrespelled _ hspelling⟩

end Browser

end MediaCatalog
