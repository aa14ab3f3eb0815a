import Arisa.Database.Tables

/-!
# Database operations

A database method runs against a `World`: what each of its queries meets. A query
is named by the path of call sites that leads to it, so that every query of a
call, nested ones included, may meet other tables, another fault and another
iteration order. A run records the pooled connections it takes and returns. It
has no result when the recursion bound of the model was reached.
-/

namespace Arisa.Database

/-- Where a query or a nested call stands in the method that makes it. -/
inductive Site where
  | connection
  | author
  | channel
  | link
  | displayMembers
  | currentUser
  | members (chunk : Nat)
  | friends (chunk : Nat)
  | rows (chunk : Nat)
  | message (index : Nat)
  | snapshot (index : Nat)
deriving DecidableEq

/-- What one query meets. -/
structure Moment where
  tables : Tables
  /-- `pool.get()` fails. -/
  poolError : Option String
  /-- SQLite reports an error after it returned a number of rows. -/
  fault : Option (Nat × String)
  /-- The iteration order of a `HashSet` of ids. -/
  order : List Int64 → List Int64
  order_perm : ∀ ids, (order ids).Perm ids.dedup

abbrev World := List Site → Moment

/-- The queries made below a call site. -/
def World.below (world : World) (site : Site) : World :=
  fun path => world (site :: path)

inductive PoolEvent where
  | acquire
  | release
deriving DecidableEq

structure Run (α : Type) where
  trace : List PoolEvent
  result : Option (Except DbError α)

/-- A database method with result `α`. -/
def DbM (α : Type) := World → Run α

namespace DbM

variable {α β : Type}

protected def pure (value : α) : DbM α :=
  fun _ => ⟨[], some (.ok value)⟩

def throw (error : DbError) : DbM α :=
  fun _ => ⟨[], some (.error error)⟩

/-- The recursion bound of the model. -/
def outOfFuel : DbM α :=
  fun _ => ⟨[], none⟩

/-- `?` on the first operation, then the second. -/
protected def bind (first : DbM α) (second : α → DbM β) : DbM β :=
  fun world =>
    match (first world).result with
    | some (.ok value) =>
        ⟨(first world).trace ++ (second value world).trace, (second value world).result⟩
    | some (.error error) => ⟨(first world).trace, some (.error error)⟩
    | none => ⟨(first world).trace, none⟩

instance : Monad DbM where
  pure := DbM.pure
  bind := DbM.bind

def ofExcept : Except DbError α → DbM α
  | .ok value => return value
  | .error error => throw error

/-- The result of a call as a value, as `match` and `.ok()` use it. -/
def attempt (operation : DbM α) : DbM (Except DbError α) :=
  fun world => ⟨(operation world).trace, (operation world).result.map .ok⟩

/-- A call made at a site. -/
def atSite (site : Site) (operation : DbM α) : DbM α :=
  fun world => operation (world.below site)

/-- `let connection = self.connection()?` for the rest of a scope: the connection
is returned however the scope is left. -/
def withConnection (body : DbM α) : DbM α :=
  fun world =>
    match (world [.connection]).poolError with
    | some message => ⟨[], some (.error (.pool message))⟩
    | none =>
        let run := body world
        ⟨.acquire :: run.trace ++ [.release], run.result⟩

/-- The rows of a query, in order, up to a fault. -/
def selected (moment : Moment) (select : Tables → List α) : List (Except SqliteError α) :=
  match moment.fault with
  | none => (select moment.tables).map .ok
  | some (count, message) =>
      ((select moment.tables).take count).map .ok ++ [.error (.sqliteFailure message)]

/-- `for row in statement.query_map(...)? { let value = row?; ... }`. -/
def queryMap (select : Tables → List α) (read : α → Except SqliteError β) : DbM (List β) :=
  fun world =>
    ⟨[], some (((selected (world []) select).mapM fun row : Except SqliteError α =>
      row.bind read).mapError .sqlite)⟩

/-- `connection.query_row(...)`. -/
def queryRow (select : Tables → List α) (read : α → Except SqliteError β) : DbM β :=
  fun world =>
    match selected (world []) select with
    | [] => ⟨[], some (.error (.sqlite .queryReturnedNoRows))⟩
    | row :: _ => ⟨[], some ((row.bind read).mapError .sqlite)⟩

/-- `ids.iter().copied().collect::<HashSet<_>>()`, as the order of its iteration. -/
def hashSet (ids : List Int64) : DbM (List Int64) :=
  fun world => ⟨[], some (.ok ((world []).order ids))⟩

/-- A loop whose body is a call, made at a site of its own for each index. -/
def traverseFrom (site : Nat → Site) (call : α → DbM β) : Nat → List α → DbM (List β)
  | _, [] => return []
  | index, item :: rest => do
      let value ← atSite (site index) (call item)
      let values ← traverseFrom site call (index + 1) rest
      return value :: values

def traverse (site : Nat → Site) (call : α → DbM β) (items : List α) : DbM (List β) :=
  traverseFrom site call 0 items

end DbM
end Arisa.Database
