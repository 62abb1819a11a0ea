import MediaCatalog.Store.Narrowing

/-!
# The store

A store gives access to a table of entries. It may be read-only, a dry run (writes are accepted and
discarded) or closed (every access to the database fails). Several changes are made together in a
transaction, which works on a table of its own until it is committed; dropping it changes nothing.

A store refuses because it is closed or read-only, and for no other reason. That an open database fails in the
middle of its work, for want of space or because another program holds it, is left out: reads, writes and commits
succeed otherwise.

* `Store.put`, `Store.get?`, `Store.entryFor`, `Store.count`, `Store.search`.
* `Store.begin`, `Transaction.put`, `Transaction.entryFor`, `Store.commit`.
-/

namespace MediaCatalog

/-- What can go wrong in a store. -/
inductive StoreError where
  /-- The database could not be read or written. -/
  | database
  /-- The database has not the expected tables. -/
  | migration
  /-- Stored data has not the expected form. -/
  | invalidData (what : String)
  /-- A strictly compiled query has a rejected clause. -/
  | invalidQuery (rejection : Query.Rejection)
  deriving DecidableEq, Repr

namespace StoreError

/-- The wording of an error. -/
def message : StoreError → String
  | database => "database error"
  | migration => "database migration error"
  | invalidData what => s!"invalid store data: {what}"
  | invalidQuery rejection => s!"invalid query clause: {rejection.message}"

/-- Whether the same call may succeed later. -/
def isRetryable : StoreError → Bool
  | database => true
  | _ => false

end StoreError

/-- What a store may do with its database. -/
inductive Access where
  | readWrite
  | readOnly
  deriving DecidableEq, Repr

/-- A table of entries and what may be done with it. -/
structure Store where
  /-- The committed content. -/
  table : Table
  access : Access
  dryRun : Bool
  isOpen : Bool

/-- Changes that are made together. -/
structure Transaction where
  /-- The content as the transaction sees it. -/
  table : Table
  access : Access
  dryRun : Bool

namespace Table

/-- Writes an entry; a read-only table refuses unless there is nothing to write. -/
def tryWrite (t : Table) (access : Access) (e : Entry) : Except StoreError Table :=
  match access with
  | .readWrite => .ok (t.write e)
  | .readOnly => if e.isBlank then .ok t else .error .database

end Table

namespace Store

/-- A writable store on a table. -/
def ofTable (table : Table) : Store := ⟨table, .readWrite, false, true⟩

/-- The store, if it is open. -/
def demandOpen (s : Store) : Except StoreError Unit := if s.isOpen then .ok () else .error .database

/-- The entry stored under a key, blank if there is none. Only a closed store refuses. -/
def entryFor (s : Store) (key : Key) : Except StoreError Entry := do
  s.demandOpen
  return s.table.entryFor key

/-- The entry stored under a key, if there is one. -/
def get? (s : Store) (key : Key) : Except StoreError (Option Entry) := do
  let e ← s.entryFor key
  return if e.isBlank then none else some e

/-- The number of entries. -/
def count (s : Store) : Except StoreError Nat := do
  s.demandOpen
  return s.table.count

/-- Merges an entry into the store. A closed or read-only store refuses, unless it is a dry run; no other write
fails. -/
def put (s : Store) (e : Entry) : Except StoreError Store := do
  if s.dryRun then return s
  s.demandOpen
  return { s with table := ← s.table.tryWrite s.access e }

/-- Starts a transaction. Only a closed store refuses. -/
def begin (s : Store) : Except StoreError Transaction := do
  s.demandOpen
  return ⟨s.table, s.access, s.dryRun⟩

/-- Publishes what a transaction wrote. A commit does not fail: what the store refuses was refused by
`Transaction.put`. -/
def commit (s : Store) (tx : Transaction) : Store := { s with table := tx.table }

/-- The results of a query, reduced to the first of each group if a field to group by is given. -/
def search (s : Store) (q : Query) (group : Option String) : Except StoreError (List Entry) := do
  s.demandOpen
  return q.select (group.map Query.Target.ofName) (s.table.candidates q.clauses)

/-- Compiles a condition text for the store. -/
def compile (strict : Bool) (text : String) : Except StoreError Query :=
  (Query.compile strict text).mapError .invalidQuery

end Store

namespace Transaction

/-- The entry stored under a key as the transaction sees it. Such a read does not fail. -/
def entryFor (tx : Transaction) (key : Key) : Entry := tx.table.entryFor key

/-- Merges an entry into what the transaction will publish. Only a read-only store refuses, unless it is a dry run. -/
def put (tx : Transaction) (e : Entry) : Except StoreError Transaction := do
  if tx.dryRun then return tx
  return { tx with table := ← tx.table.tryWrite tx.access e }

end Transaction

end MediaCatalog
