import MediaCatalog.Namespace.Basic
import MediaCatalog.Text.Segments

/-!
# Resolution and listing

A path below a mount is resolved segment by segment. The query of each level is filled in from the
entries resolved so far, the chain, and the first result that is labelled with the segment joins
the chain. A listing shows the labels of all results of the next level.

* `Level.found`: the results of a level after a chain.
* `Schema.chain?`: the entries that segments resolve to.
* `Browser.resolve`, `Browser.list`: nodes and listings of paths.
-/

namespace MediaCatalog

/-- The results of a level after a chain, in order. -/
def Level.found (level : Level) (store : Store) (strict : Bool) (chain : List Entry) :
    Except NamespaceError (List Entry) := do
  let query ← (Store.compile strict (level.query.substitute chain)).mapError .store
  let query := { query with order := level.order, page := level.page }
  (store.search query level.group).mapError .store

/-- The chain continued by one entry per segment, as far as levels go. Nothing if a segment labels
no result. -/
def Level.extend? (store : Store) (strict : Bool) (chain : List Entry) :
    List (Level × String) → Except NamespaceError (Option (List Entry))
  | [] => .ok (some chain)
  | (level, segment) :: rest => do
    match (← level.found store strict chain).find? fun e => e.label level.label == segment with
    | none => return none
    | some e => extend? store strict (chain ++ [e]) rest

namespace Schema

/-- The entries that segments below a mount resolve to, one for each; nothing if there is no such
path. -/
def chain? (schema : Schema) (store : Store) (strict : Bool) (segments : List String) :
    Except NamespaceError (Option (List Entry)) :=
  if schema.levels.length < segments.length then .ok none
  else Level.extend? store strict [] (schema.levels.zip segments)

/-- The names, kinds and entries below a chain, in the order of the results. -/
def children (schema : Schema) (store : Store) (strict : Bool) (chain : List Entry) :
    Except NamespaceError (List (String × NodeKind)) := do
  match schema.levels[chain.length]? with
  | none => return []
  | some level =>
    let found ← level.found store strict chain
    return found.map fun e => (e.label level.label, NodeKind.classify schema chain.length e)

end Schema

/-- What a path leads to. -/
inductive Node where
  | root
  | mount (name : String)
  /-- A path below a mount, with the entry for each segment. -/
  | entry (mount : String) (chain : List Entry) (kind : NodeKind)

namespace Node

/-- How a node appears. -/
def kind : Node → NodeKind
  | root | mount _ => .directory
  | entry _ _ kind => kind

/-- The entry at the end of the path. -/
def entry? : Node → Option Entry
  | root | mount _ => none
  | entry _ chain _ => chain.getLast?

end Node

/-- The mounts, and how their queries are compiled. -/
structure Browser where
  mounts : Mounts
  /-- Whether a level query with a malformed clause fails. -/
  strict : Bool

/-- Whether a label can be reached by a path. -/
def isAddressable (label : String) : Bool := label ≠ "" && !label.toList.contains '/'

/-- The items with an addressable name that no earlier item has. -/
def firstPerName (seen : List String) : List (String × NodeKind) → List (String × NodeKind)
  | [] => []
  | item :: rest =>
    if isAddressable item.1 && !seen.contains item.1 then item :: firstPerName (item.1 :: seen) rest
    else firstPerName seen rest

namespace Browser

/-- The node at a path. -/
def resolve (b : Browser) (store : Store) (path : String) : Except NamespaceError Node :=
  match Text.segments path with
  | [] => .ok .root
  | name :: below =>
    match b.mounts.get? name with
    | none => .error .notFound
    | some schema =>
      if below.isEmpty then .ok (.mount name)
      else do
        match ← schema.chain? store b.strict below with
        | none => throw .notFound
        | some chain =>
          let kind := (chain.getLast?.map (NodeKind.classify schema (chain.length - 1))).getD .directory
          return .entry name chain kind

/-- The first items of every listing. -/
def dots : List (String × NodeKind) := [(".", .directory), ("..", .directory)]

/-- What stands below a chain in a mount. -/
def below (b : Browser) (store : Store) (mount : String) (chain : List Entry) :
    Except NamespaceError (List (String × NodeKind)) :=
  match b.mounts.get? mount with
  | none => .error .notFound
  | some schema => do
    let children ← schema.children store b.strict chain
    return dots ++ firstPerName [] children

/-- The names and kinds in the directory at a path. Below a mount, labels that no path can address
and labels that repeat an earlier one are left out. -/
def list (b : Browser) (store : Store) (path : String) : Except NamespaceError (List (String × NodeKind)) := do
  match ← b.resolve store path with
  | .root => return dots ++ b.mounts.keys.map fun name => (name, .directory)
  | .mount name => b.below store name []
  | .entry _ _ .file => throw .notADirectory
  | .entry name chain .directory => b.below store name chain

end Browser

end MediaCatalog
