import MediaCatalog.Namespace.Handles
import MediaCatalog.Proofs.Namespace.Listing
import MediaCatalog.Proofs.Query.Clauses

/-!
# Strict namespaces only refuse

A strict namespace refuses a level query with a rejected clause, where a permissive one leaves the clause out.
Which query a level asks depends on the entries that were found above it, so the two are followed level by level:
they ask the same queries, up to the first one that is refused.

* `strictly`: an answer for which condition texts are compiled strictly; it goes through binds (`strictly_bind`,
  `strictly_append`).
* `Level.asked`, `Mounts.asked`, `Mounts.askedToList`: the condition texts that a permissive namespace compiles.
* **Walks** (`Level.extend?_strict`) and **requests** (`Browser.resolve_strict`, `Browser.list_strict`,
  `Namespace.attributes_strict`): a strict answer is the permissive one, for which the same texts are compiled
  strictly.
* **Main result** (`strict_only_refuses`): a strict answer other than a failure of the store is the permissive
  one, and a request is refused exactly if a text that is compiled for it has a rejected clause.
-/

namespace MediaCatalog

/-! ## Strict answers -/

/-- An answer for which condition texts are compiled strictly: the first rejected clause is a failure of the
store. -/
def strictly {α : Type} (texts : List String) (answer : Except NamespaceError α) : Except NamespaceError α :=
  match texts.findSome? Query.firstRejection? with
  | some rejection => .error (.store (.invalidQuery rejection))
  | none => answer

section strictly

variable {α β : Type} (texts more : List String) (answer : Except NamespaceError α)

/-- Nothing is compiled. -/
theorem strictly_nil : strictly [] answer = answer := rfl

/-- Texts are compiled one after the other. -/
theorem strictly_append : strictly (texts ++ more) answer = strictly texts (strictly more answer) := by
  unfold strictly
  rw [List.findSome?_append]
  cases texts.findSome? Query.firstRejection? <;> rfl

/-- What is done with an answer is done after texts were compiled for it. -/
theorem strictly_bind (f : α → Except NamespaceError β) : strictly texts answer >>= f = strictly texts (answer >>= f) := by
  unfold strictly
  cases texts.findSome? Query.firstRejection? <;> rfl

end strictly

/-- How a strict answer goes with the permissive one, for which condition texts are compiled: it is the same
unless it is a failure of the store, it is refused for the first clause of the texts that is rejected, and it is
the same if none is. -/
structure OnlyRefuses {α : Type} (texts : List String) (strict permissive : Except NamespaceError α) : Prop where
  same : (∀ cause, strict ≠ .error (.store cause)) → permissive = strict
  refused : ∀ rejection, texts.findSome? Query.firstRejection? = some rejection →
    strict = .error (.store (.invalidQuery rejection))
  answered : texts.findSome? Query.firstRejection? = none → strict = permissive

/-- **A strict answer only refuses**, if it is the permissive one for which texts are compiled strictly. -/
theorem onlyRefuses_of_eq {α : Type} {texts : List String} {strict permissive : Except NamespaceError α}
    (h : strict = strictly texts permissive) : OnlyRefuses texts strict permissive := by
  unfold strictly at h
  refine ⟨?_, ?_, ?_⟩
  · intro hstrict
    split at h
    case h_1 rejection _ => exact absurd h (hstrict (.invalidQuery rejection))
    case h_2 => exact h.symm
  · intro rejection hfirst
    rw [hfirst] at h
    exact h
  · intro hfirst
    rw [hfirst] at h
    exact h

/-! ## Walks -/

namespace Level

/-- **The results of a level** are found strictly by compiling its query strictly. -/
theorem found_strict (level : Level) (store : Store) (chain : List Entry) :
    level.found store true chain = strictly [level.query.substitute chain] (level.found store false chain) := by
  unfold found strictly Store.compile Query.compile
  rw [if_pos rfl, if_neg Bool.false_ne_true, Query.ofTextStrict_eq, List.findSome?_singleton]
  cases Query.firstRejection? (level.query.substitute chain) <;> rfl

/-- The condition texts that are compiled while a chain is continued: one for each level, up to the first on
which no result has the label. -/
def asked (store : Store) (chain : List Entry) : List (Level × String) → List String
  | [] => []
  | (level, segment) :: rest =>
    level.query.substitute chain ::
      match level.next? store false chain segment with
      | .ok (some e) => asked store (chain ++ [e]) rest
      | _ => []

/-- **A chain is continued** strictly by compiling the queries of its levels strictly. -/
theorem extend?_strict (store : Store) (chain : List Entry) (pairs : List (Level × String)) :
    extend? store true chain pairs = strictly (asked store chain pairs) (extend? store false chain pairs) := by
  induction pairs generalizing chain with
  | nil => rfl
  | cons pair rest ih =>
    obtain ⟨level, segment⟩ := pair
    rw [asked, ← List.singleton_append (x := level.query.substitute chain), strictly_append, extend?, extend?,
      found_strict, strictly_bind]
    congr 1
    unfold next?
    cases level.found store false chain with
    | error error => rfl
    | ok found =>
      simp only [bind, Except.bind, pure, Except.pure]
      cases found.find? fun e => e.label level.label == segment with
      | none => rfl
      | some e => exact ih (chain ++ [e])

end Level

namespace Schema

/-- The condition texts that are compiled for segments below a mount. -/
def asked (schema : Schema) (store : Store) (segments : List String) : List String :=
  if schema.levels.length < segments.length then [] else Level.asked store [] (schema.levels.zip segments)

/-- Nothing is compiled for the mount itself. -/
theorem asked_nil (schema : Schema) (store : Store) : schema.asked store [] = [] := by
  unfold asked
  rw [if_neg (by simp), List.zip_nil_right, Level.asked]

/-- Segments lead to a chain strictly by compiling the queries on the way strictly. -/
theorem chain?_strict (schema : Schema) (store : Store) (segments : List String) :
    schema.chain? store true segments = strictly (schema.asked store segments) (schema.chain? store false segments) := by
  unfold chain? asked
  split
  · rfl
  · exact Level.extend?_strict store [] (schema.levels.zip segments)

/-- The condition text that is compiled for what stands below a chain. -/
def askedBelow (schema : Schema) (chain : List Entry) : List String :=
  (schema.levels[chain.length]?.map fun level => level.query.substitute chain).toList

/-- What stands below a chain is found strictly by compiling the query of the next level strictly. -/
theorem children_strict (schema : Schema) (store : Store) (chain : List Entry) :
    schema.children store true chain = strictly (schema.askedBelow chain) (schema.children store false chain) := by
  unfold children askedBelow
  cases schema.levels[chain.length]? with
  | none => rfl
  | some level =>
    dsimp only
    rw [Level.found_strict, strictly_bind]
    rfl

end Schema

/-! ## Requests -/

namespace Mounts

/-- The condition texts that are compiled to find the node at a path. -/
def asked (mounts : Mounts) (store : Store) (path : String) : List String :=
  match Text.segments path with
  | [] => []
  | name :: below => ((mounts.get? name).map fun schema => schema.asked store below).getD []

/-- The condition texts that are compiled to list the directory at a path: those to find its node, and the one
of the level below. -/
def askedToList (mounts : Mounts) (store : Store) (path : String) : List String :=
  mounts.asked store path ++
    match (Browser.mk mounts false).resolve store path with
    | .ok (.mount name) => ((mounts.get? name).map fun schema => schema.askedBelow []).getD []
    | .ok (.entry name chain .directory) => ((mounts.get? name).map fun schema => schema.askedBelow chain).getD []
    | _ => []

end Mounts

namespace Browser

variable (mounts : Mounts) (store : Store) (path : String)

/-- **A node** is found strictly by compiling the queries on the way strictly. -/
theorem resolve_strict :
    (Browser.mk mounts true).resolve store path =
      strictly (mounts.asked store path) ((Browser.mk mounts false).resolve store path) := by
  unfold resolve Mounts.asked
  cases Text.segments path with
  | nil => rfl
  | cons name below =>
    dsimp only
    cases mounts.get? name with
    | none => rfl
    | some schema =>
      dsimp only
      rw [Option.map_some, Option.getD_some]
      split
      · next hempty =>
        -- the mount itself: no level is gone through
        obtain rfl := List.isEmpty_iff.mp hempty
        rw [Schema.asked_nil, strictly_nil]
      · rw [Schema.chain?_strict, strictly_bind]

/-- What stands below a chain in a mount, strictly. -/
theorem below_strict (name : String) (chain : List Entry) :
    (Browser.mk mounts true).below store name chain =
      strictly (((mounts.get? name).map fun schema => schema.askedBelow chain).getD [])
        ((Browser.mk mounts false).below store name chain) := by
  unfold below
  cases mounts.get? name with
  | none => rfl
  | some schema =>
    dsimp only
    rw [Option.map_some, Option.getD_some, Schema.children_strict, strictly_bind]

/-- **A directory** is listed strictly by compiling the queries on the way and that of the level below
strictly. -/
theorem list_strict :
    (Browser.mk mounts true).list store path =
      strictly (mounts.askedToList store path) ((Browser.mk mounts false).list store path) := by
  unfold list Mounts.askedToList
  rw [strictly_append, resolve_strict, strictly_bind]
  congr 1
  cases (Browser.mk mounts false).resolve store path with
  | error error => rfl
  | ok node =>
    match node with
    | .root => rfl
    | .mount name => exact below_strict mounts store name []
    | .entry name chain .file => rfl
    | .entry name chain .directory => exact below_strict mounts store name chain

end Browser

/-- **Attributes** are found strictly by compiling the queries on the way to the node strictly. -/
theorem Namespace.attributes_strict {strict permissive : Namespace} {mounts : Mounts}
    (hstrict : strict.browser = ⟨mounts, true⟩) (hpermissive : permissive.browser = ⟨mounts, false⟩) (store : Store)
    (files : FileTree) (path : String) :
    strict.attributes store files path =
      strictly (mounts.asked store path) (permissive.attributes store files path) := by
  unfold attributes
  rw [hstrict, hpermissive, Browser.resolve_strict, strictly_bind]

/-- **Strict namespaces only refuse.** Whatever the mounts, the store and the real files are, a strict namespace
finds the nodes, listings and attributes that a permissive one finds, or the same failures, unless the store
fails; and it refuses a request just for the first rejected clause of the condition texts that are compiled for
it. What is read strictly is what is read otherwise. -/
theorem strict_only_refuses {strict permissive : Namespace} {mounts : Mounts} (hstrict : strict.browser = ⟨mounts, true⟩)
    (hpermissive : permissive.browser = ⟨mounts, false⟩) (store : Store) (files : FileTree) (path : String) :
    OnlyRefuses (mounts.asked store path) (strict.browser.resolve store path) (permissive.browser.resolve store path) ∧
      OnlyRefuses (mounts.askedToList store path) (strict.browser.list store path) (permissive.browser.list store path) ∧
      OnlyRefuses (mounts.asked store path) (strict.attributes store files path)
        (permissive.attributes store files path) ∧
      ∀ text q, Query.ofTextStrict text = .ok q → q = Query.ofText text := by
  refine ⟨?_, ?_, ?_, ?_⟩
  · rw [hstrict, hpermissive]
    exact onlyRefuses_of_eq (Browser.resolve_strict mounts store path)
  · rw [hstrict, hpermissive]
    exact onlyRefuses_of_eq (Browser.list_strict mounts store path)
  · exact onlyRefuses_of_eq (Namespace.attributes_strict hstrict hpermissive store files path)
  · intro text q hq
    rw [Query.ofTextStrict_eq] at hq
    split at hq
    · cases hq
    · cases hq
      rfl

/-- A mount with a malformed query below the shows: the shows are listed strictly as they are otherwise, so is a
path answered that stops before that query, and what stands below a show is refused. -/
theorem strict_only_refuses_below_show :
    let level (query : String) : Level := ⟨⟨query⟩, ⟨"$title"⟩, none, none, none⟩
    let mounts := Dict.empty.insert "tv" (Schema.mk "" [level "kind.Equals(show)", level "title.Frobnicate(x)"])
    let strict : Namespace := ⟨⟨mounts, true⟩, [], 1⟩
    let permissive : Namespace := ⟨⟨mounts, false⟩, [], 1⟩
    let e := ((Entry.blank ⟨"set:1"⟩).insert "kind" "show").insert "title" "Pilot"
    let store := Store.ofTable (Table.empty.write e)
    let files : FileTree := .ofHere [] ⟨4096, 0⟩
    strict.browser = ⟨mounts, true⟩ ∧ permissive.browser = ⟨mounts, false⟩ ∧
      permissive.browser.list store "/tv" = .ok (Browser.dots ++ [("Pilot", .directory)]) ∧
      strict.attributes store files "/tv/Lost/One" = permissive.attributes store files "/tv/Lost/One" ∧
      strict.browser.list store "/tv/Pilot" =
        .error (.store (.invalidQuery (.unknownOperator "Frobnicate" "title.Frobnicate(x)"))) := by
  intro level mounts strict permissive e store files
  have only := @strict_only_refuses strict permissive mounts rfl rfl store files
  have hlist : strict.browser.list store "/tv" = .ok (Browser.dots ++ [("Pilot", .directory)]) :=
    eq_ok_of_toOption (by decide +kernel)
  refine ⟨rfl, rfl, ?_, ?_, ?_⟩
  · rw [(only "/tv").2.1.same (by simp [hlist]), hlist]
  · exact (only "/tv/Lost/One").2.2.1.answered (by decide +kernel)
  · exact (only "/tv/Pilot").2.1.refused _ (by decide +kernel)

end MediaCatalog
