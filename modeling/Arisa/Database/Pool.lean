import Arisa.Database.Mapping
import Arisa.Database.Raw
import Arisa.Semantics.Tasks
import Mathlib.Data.List.Count

/-!
# Operations on the connection pool

Every method takes its connection for a scope in which it makes queries only, so
its trace is a sequence of acquisitions each followed by its release. An operation
that holds a connection never waits for another one, and the pool cannot run dry
among operations that all wait.
-/

namespace Arisa.Database

open Arisa.Proto Arisa.Semantics Arisa.Std DbM

/-- Acquisitions, each followed by its release. -/
inductive Flat : List PoolEvent → Prop where
  | nil : Flat []
  | pair {rest} (flat : Flat rest) : Flat (.acquire :: .release :: rest)

/-- One flat trace after the other is flat. -/
theorem Flat.append {first second : List PoolEvent} (flat : Flat first) (flat' : Flat second) :
    Flat (first ++ second) := by
  induction flat with
  | nil => exact flat'
  | pair _ ih => exact .pair ih

/-- An execution acquires a connection only while it holds none, and holds none at its end. -/
structure Disciplined (trace : List PoolEvent) : Prop where
  acquires : ∀ before after, trace = before ++ .acquire :: after →
    before.count .acquire = before.count .release
  returns : trace.count .acquire = trace.count .release

/-- Whoever gives each connection back before the next holds at most one. -/
theorem Flat.disciplined {trace : List PoolEvent} (flat : Flat trace) : Disciplined trace := by
  induction flat with
  | nil => exact ⟨by simp, rfl⟩
  | @pair rest _ ih =>
      refine ⟨fun before after split => ?_, ?_⟩
      · match before with
        | [] => rfl
        | [first] => simp at split
        | first :: second :: before =>
            simp only [List.cons_append, List.cons.injEq] at split
            obtain ⟨rfl, rfl, split⟩ := split
            simpa using ih.acquires before after split
      · simpa using ih.returns

namespace DbM

variable {α β : Type}

/-- The operation uses the connection it is given and takes none. -/
def Quiet (operation : DbM α) : Prop :=
  ∀ world, (operation world).trace = []

/-- The operation takes one connection after another. -/
def TakesInTurn (operation : DbM α) : Prop :=
  ∀ world, Flat (operation world).trace

/-- A value is returned without the pool. -/
theorem quiet_pure (value : α) : Quiet (pure value : DbM α) := fun _ => rfl

/-- So is an error. -/
theorem quiet_throw (error : DbError) : Quiet (throw error : DbM α) := fun _ => rfl

/-- Beyond the recursion bound nothing is asked of the pool. -/
theorem quiet_outOfFuel : Quiet (outOfFuel : DbM α) := fun _ => rfl

/-- A result at hand is passed on without the pool. -/
theorem quiet_ofExcept (result : Except DbError α) : Quiet (ofExcept result) := by
  cases result with
  | error => exact quiet_throw _
  | ok => exact quiet_pure _

/-- A set is iterated without the pool. -/
theorem quiet_hashSet (ids : List Int64) : Quiet (hashSet ids) := fun _ => rfl

/-- A query runs on the connection its caller holds. -/
theorem quiet_queryMap (select : Tables → List α) (read : α → Except SqliteError β) :
    Quiet (queryMap select read) := fun _ => rfl

/-- So does a query for one row. -/
theorem quiet_queryRow (select : Tables → List α) (read : α → Except SqliteError β) :
    Quiet (queryRow select read) := by
  intro world
  unfold queryRow
  split <;> rfl

/-- A sequence of quiet parts is quiet, whether it stops at an error or not. -/
theorem Quiet.bind {first : DbM α} {second : α → DbM β} (quiet : Quiet first)
    (quiet' : ∀ value, Quiet (second value)) : Quiet (first >>= second) := by
  intro world
  change (DbM.bind first second world).trace = []
  unfold DbM.bind
  split
  · simp [quiet world, quiet' _ world]
  · exact quiet world
  · exact quiet world

/-- Where an operation stands adds no event. -/
theorem Quiet.atSite {operation : DbM α} (quiet : Quiet operation) (site : Site) :
    Quiet (atSite site operation) :=
  fun world => quiet (world.below site)

/-- By induction on the items that are left. -/
theorem Quiet.traverseFrom {call : α → DbM β} (quiet : ∀ item, Quiet (call item))
    (site : Nat → Site) (index : Nat) (items : List α) :
    Quiet (traverseFrom site call index items) := by
  induction items generalizing index with
  | nil => exact quiet_pure _
  | cons item rest ih =>
      exact ((quiet item).atSite _).bind fun _ => (ih _).bind fun _ => quiet_pure _

/-- A loop of quiet calls is quiet. -/
theorem Quiet.traverse {call : α → DbM β} (quiet : ∀ item, Quiet (call item))
    (site : Nat → Site) (items : List α) : Quiet (DbM.traverse site call items) :=
  .traverseFrom quiet site 0 items

/-- What takes no connection takes them one after the other. -/
theorem Quiet.takesInTurn {operation : DbM α} (quiet : Quiet operation) :
    TakesInTurn operation := by
  intro world
  rw [quiet world]
  exact .nil

/-- A scope with a connection, in which no other is taken. -/
theorem Quiet.withConnection {body : DbM α} (quiet : Quiet body) :
    TakesInTurn (withConnection body) := by
  intro world
  unfold DbM.withConnection
  split
  · exact .nil
  · have scope : (.acquire :: (body world).trace ++ [.release] : List PoolEvent) =
        [.acquire, .release] :=
      congrArg (fun inner => .acquire :: inner ++ [.release]) (quiet world)
    exact (congrArg Flat scope).mpr (.pair .nil)

/-- The second part begins when the first has given its connections back, also when it stops at an
error. -/
theorem TakesInTurn.bind {first : DbM α} {second : α → DbM β} (flat : TakesInTurn first)
    (flat' : ∀ value, TakesInTurn (second value)) : TakesInTurn (first >>= second) := by
  intro world
  change Flat (DbM.bind first second world).trace
  unfold DbM.bind
  split
  · exact (flat world).append (flat' _ world)
  · exact flat world
  · exact flat world

/-- Where an operation stands adds no event. -/
theorem TakesInTurn.atSite {operation : DbM α} (flat : TakesInTurn operation) (site : Site) :
    TakesInTurn (atSite site operation) :=
  fun world => flat (world.below site)

/-- An attempt takes what its operation takes. -/
theorem TakesInTurn.attempt {operation : DbM α} (flat : TakesInTurn operation) :
    TakesInTurn (attempt operation) :=
  fun world => flat world

/-- By induction on the items that are left. -/
theorem TakesInTurn.traverseFrom {call : α → DbM β} (flat : ∀ item, TakesInTurn (call item))
    (site : Nat → Site) (index : Nat) (items : List α) :
    TakesInTurn (traverseFrom site call index items) := by
  induction items generalizing index with
  | nil => exact (quiet_pure _).takesInTurn
  | cons item rest ih =>
      exact ((flat item).atSite _).bind fun _ => (ih _).bind fun _ => (quiet_pure _).takesInTurn

/-- A loop takes the connections of its calls in turn. -/
theorem TakesInTurn.traverse {call : α → DbM β} (flat : ∀ item, TakesInTurn (call item))
    (site : Nat → Site) (items : List α) : TakesInTurn (DbM.traverse site call items) :=
  .traverseFrom flat site 0 items

end DbM

/-! ## The methods that are given a connection -/

section Given

variable (serde : Serde) (database : Database)

/-- The current user is read on the connection that the caller holds. -/
theorem quiet_getCurrentUser (channelId : Int64) : Quiet (database.getCurrentUser channelId) := by
  unfold Database.getCurrentUser
  split_ifs
  · exact quiet_queryRow _ _
  · exact quiet_pure _

/-- The same, as a part of a lookup. -/
theorem quiet_loadCurrentUser (channelId : Int64) (uniqueIds : List Int64) :
    Quiet (database.loadCurrentUser channelId uniqueIds) := by
  unfold Database.loadCurrentUser
  split_ifs
  · exact ((quiet_getCurrentUser _ _).atSite _).bind fun _ => quiet_pure _
  · exact quiet_pure _

/-- Both tables of regular users are read on one connection. -/
theorem quiet_loadRegularUsers (userIds : List Int64) (members : Database.Members) :
    Quiet (database.loadRegularUsers userIds members) :=
  (Quiet.traverse (fun _ => quiet_queryMap _ _) _ _).bind fun _ =>
    (Quiet.traverse (fun _ => quiet_queryMap _ _) _ _).bind fun _ => quiet_pure _

/-- The members of open channels are read on one connection. -/
theorem quiet_loadOpenChannelUsers (channelId : Int64) (userIds : List Int64)
    (members : Database.Members) :
    Quiet (database.loadOpenChannelUsers channelId userIds members) :=
  (Quiet.traverse (fun _ => quiet_queryMap _ _) _ _).bind fun _ => quiet_pure _

/-- A lookup of users stays on the connection it was given. -/
theorem quiet_getUsersWithConnection (channelId : Int64) (userIds : List Int64) :
    Quiet (database.getUsersWithConnection channelId userIds) := by
  refine (quiet_hashSet _).bind fun _ => (quiet_loadCurrentUser _ _ _).bind fun _ => ?_
  dsimp only
  split_ifs
  · exact (quiet_loadOpenChannelUsers _ _ _ _).bind fun _ => quiet_ofExcept _
  · exact (quiet_loadRegularUsers _ _ _).bind fun _ => quiet_ofExcept _

/-- The name of a channel is found on one connection, with its members where it needs them. -/
theorem quiet_channelName (channelId : Int64) (room : RoomRow) :
    Quiet (database.channelName serde channelId room) := by
  unfold Database.channelName
  split_ifs
  · exact ((quiet_queryRow _ _).atSite _).bind fun _ => quiet_pure _
  · split
    · exact quiet_pure _
    · split
      · exact ((quiet_getUsersWithConnection _ _ _).atSite _).bind fun _ => quiet_pure _
      · exact quiet_pure _

/-- The chunks of a batch are read on one connection. -/
theorem quiet_loadMessageRows (channelId : Int64) (messageIds uniqueIds : List Int64) :
    Quiet (loadMessageRows channelId messageIds uniqueIds) :=
  (Quiet.traverse (fun _ => quiet_queryMap _ _) _ _).bind fun _ => quiet_ofExcept _

/-- A prepared statement runs on the connection it was prepared on. -/
theorem quiet_queryRaw (base64 : Base64) (statement : Statement) (params : List SqlValue)
    (limit : Nat) : Quiet (queryRaw base64 statement params limit) := fun _ => rfl

end Given

/-! ## The methods that take connections -/

section Methods

variable (serde : Serde) (database : Database)

/-- Each call of `get_users` takes one connection for all its queries. -/
theorem takes_getUsers (channelId : Int64) (userIds : List Int64) :
    TakesInTurn (database.getUsers channelId userIds) := by
  unfold Database.getUsers
  split_ifs
  · exact (quiet_pure _).takesInTurn
  · exact (quiet_getUsersWithConnection _ _ _).withConnection

/-- A single lookup is a lookup of one. -/
theorem takes_getUser (channelId userId : Int64) :
    TakesInTurn (database.getUser channelId userId) := by
  refine (takes_getUsers _ _ _).bind fun members => ?_
  cases members with
  | nil => exact (quiet_throw _).takesInTurn
  | cons member rest => exact (quiet_pure _).takesInTurn

/-- `get_channel` takes one connection, also for the name of the channel. -/
theorem takes_getChannel (channelId : Int64) :
    TakesInTurn (database.getChannel serde channelId) := by
  refine Quiet.withConnection (((quiet_queryRow _ _).atSite _).bind fun _ => ?_)
  exact (quiet_channelName _ _ _ _).bind fun _ => quiet_pure _

/-- The rows of a batch are read on one connection. -/
theorem takes_getMessageRows (channelId : Int64) (messageIds : List Int64) :
    TakesInTurn (getMessageRows channelId messageIds) := by
  unfold getMessageRows
  split_ifs
  · exact (quiet_pure _).takesInTurn
  · exact ((quiet_hashSet _).bind fun _ => quiet_loadMessageRows _ _ _).withConnection

section Recursion

variable {mapMessage : MessageRow → DbM Event}

/-- The connection of the rows is back before the first of them is mapped. -/
theorem takes_getMessages (flat : ∀ row, TakesInTurn (mapMessage row)) (channelId : Int64)
    (messageIds : List Int64) : TakesInTurn (getMessages mapMessage channelId messageIds) :=
  (takes_getMessageRows _ _).bind fun _ => .traverse flat _ _

/-- So it is for a single message. -/
theorem takes_getMessage (flat : ∀ row, TakesInTurn (mapMessage row))
    (channelId messageId : Int64) : TakesInTurn (getMessage mapMessage channelId messageId) := by
  refine (takes_getMessages flat _ _).bind fun events => ?_
  cases events with
  | nil => exact (quiet_throw _).takesInTurn
  | cons event rest => exact (quiet_pure _).takesInTurn

/-- A snapshot is a message that was looked up. -/
theorem takes_getMessageSnapshot (flat : ∀ row, TakesInTurn (mapMessage row))
    (channelId messageId : Int64) :
    TakesInTurn (getMessageSnapshot mapMessage channelId messageId) := by
  refine (takes_getMessage flat _ _).attempt.bind fun found => ?_
  split
  · exact (quiet_pure _).takesInTurn
  · exact (quiet_pure _).takesInTurn
  · exact (quiet_throw _).takesInTurn

/-- The snapshots of a feed are taken one after the other. -/
theorem takes_enrichFeed (flat : ∀ row, TakesInTurn (mapMessage row)) (row : MessageRow)
    (value : FeedValue) (channel : Channel) (author : Option Member) :
    TakesInTurn (enrichFeed serde database mapMessage row value channel author) := by
  have looks := takes_getMessageSnapshot flat
  unfold enrichFeed
  split
  · split_ifs
    · exact (quiet_pure _).takesInTurn
    · exact ((looks _ _).atSite _).bind fun _ => (quiet_pure _).takesInTurn
  · split_ifs
    · exact (quiet_pure _).takesInTurn
    · exact ((looks _ _).atSite _).bind fun _ => (quiet_pure _).takesInTurn
  · exact (TakesInTurn.traverse (looks _) _ _).bind fun _ => (quiet_pure _).takesInTurn
  · exact (quiet_pure _).takesInTurn

/-- One level of `map_message`: channel, author and snapshots each give their connection back. -/
theorem takes_mapMessageBody (flat : ∀ row, TakesInTurn (mapMessage row)) (row : MessageRow) :
    TakesInTurn (mapMessageBody serde database mapMessage row) := by
  refine ((takes_getUser _ _ _).atSite _).attempt.bind fun author => ?_
  refine ((takes_getChannel _ _ _).atSite _).bind fun channel => ?_
  refine (quiet_ofExcept _).takesInTurn.bind fun event => ?_
  split_ifs
  · exact (quiet_pure _).takesInTurn
  · unfold enrichEvent
    split
    · exact (takes_enrichFeed _ _ flat _ _ _ _).bind fun _ => (quiet_pure _).takesInTurn
    · exact (quiet_pure _).takesInTurn

end Recursion

/-- However deep the snapshots go, and also where the recursion does not end. -/
theorem takes_mapMessage (fuel : Nat) (row : MessageRow) :
    TakesInTurn (mapMessage serde database fuel row) := by
  induction fuel generalizing row with
  | zero => exact quiet_outOfFuel.takesInTurn
  | succ fuel ih => exact takes_mapMessageBody serde database ih row

end Methods

/-- The operations of the database layer, with their arguments. -/
inductive Operation where
  | getUser (channelId userId : Int64)
  | getUsers (channelId : Int64) (userIds : List Int64)
  | getChannel (channelId : Int64)
  | getChannelMembers (channelId : Int64)
  | getMessage (channelId messageId : Int64)
  | getMessages (channelId : Int64) (messageIds : List Int64)
  | rawQuery (sql : String) (params : List SqlValue) (limit : Nat)
  | latestMessageDatabaseId
  | messagesAfter (databaseId : Int64) (limit : Nat)
  | mapMessage (row : MessageRow)

section Operations

variable (serde : Serde) (database : Database) (base64 : Base64) (prepare : Prepare)

/-- What an operation does to the pool, up to a depth of the recursion. -/
def Operation.trace (fuel : Nat) (world : World) : Operation → List PoolEvent
  | .getUser channelId userId => (database.getUser channelId userId world).trace
  | .getUsers channelId userIds => (database.getUsers channelId userIds world).trace
  | .getChannel channelId => (database.getChannel serde channelId world).trace
  | .getChannelMembers channelId => (Database.getChannelMembers serde channelId world).trace
  | .getMessage channelId messageId =>
      (Database.getMessage (Database.mapMessage serde database fuel) channelId messageId
        world).trace
  | .getMessages channelId messageIds =>
      (Database.getMessages (Database.mapMessage serde database fuel) channelId messageIds
        world).trace
  | .rawQuery sql params limit => (Database.rawQuery base64 prepare sql params limit world).trace
  | .latestMessageDatabaseId => (Database.latestMessageDatabaseId world).trace
  | .messagesAfter databaseId limit => (Database.messagesAfter databaseId limit world).trace
  | .mapMessage row => (Database.mapMessage serde database fuel row world).trace

/-- Every operation holds one connection at a time, whatever its queries meet and however deep it
recurses. -/
theorem Operation.flat (operation : Operation) (fuel : Nat) (world : World) :
    Flat (operation.trace serde database base64 prepare fuel world) := by
  have maps := takes_mapMessage serde database fuel
  cases operation with
  | getUser channelId userId => exact takes_getUser database channelId userId world
  | getUsers channelId userIds => exact takes_getUsers database channelId userIds world
  | getChannel channelId => exact takes_getChannel serde database channelId world
  | getChannelMembers channelId =>
      exact ((quiet_queryRow _ _).bind fun _ => quiet_pure _).withConnection world
  | getMessage channelId messageId => exact takes_getMessage maps channelId messageId world
  | getMessages channelId messageIds => exact takes_getMessages maps channelId messageIds world
  | rawQuery sql params limit =>
      exact ((quiet_ofExcept _).bind fun _ => quiet_queryRaw _ _ _ _).withConnection world
  | latestMessageDatabaseId => exact (quiet_queryRow _ _).withConnection world
  | messagesAfter databaseId limit => exact (quiet_queryMap _ _).withConnection world
  | mapMessage row => exact maps row world

end Operations

/-! ## Many operations over one pool -/

/-- `max_size(10)`. -/
def poolSize : Nat := 10

/-- A thread without an operation, or in one: the connections it holds and what it has still to
do with the pool. -/
inductive Worker where
  | idle
  | running (held : List Nat) (rest : List PoolEvent)

def Worker.held : Worker → List Nat
  | .idle => []
  | .running held _ => held

/-- The operation is at a `pool.get()`. -/
def Worker.Waits (worker : Worker) : Prop :=
  ∃ held rest, worker = .running held (.acquire :: rest)

inductive PoolLabel where
  | begins
  | acquires (connection : Nat)
  | releases (connection : Nat)
  | ends
deriving DecidableEq

/-- One step of a worker; the shared state is the list of free connections. -/
inductive PoolTurn (Program : List PoolEvent → Prop) :
    List Nat → Worker → PoolLabel → List Nat → Worker → Prop where
  | begins (free : List Nat) (program : List PoolEvent) (given : Program program) :
      PoolTurn Program free .idle .begins free (.running [] program)
  | acquires (free held : List Nat) (rest : List PoolEvent) (connection : Nat)
      (available : connection ∈ free) :
      PoolTurn Program free (.running held (.acquire :: rest)) (.acquires connection)
        (free.erase connection) (.running (connection :: held) rest)
  | releases (free held : List Nat) (rest : List PoolEvent) (connection : Nat) :
      PoolTurn Program free (.running (connection :: held) (.release :: rest))
        (.releases connection) (connection :: free) (.running held rest)
  | ends (free held : List Nat) :
      PoolTurn Program free (.running held []) .ends free .idle

def poolSystem (Program : List PoolEvent → Prop) :
    System (Tasks (List Nat) Worker) (Nat × PoolLabel) :=
  Tasks.system (fun free => free = List.range poolSize) .idle (PoolTurn Program)

/-- Some operation waits for a connection, and each connection is held by one that waits too. -/
structure Deadlocked (tasks : Tasks (List Nat) Worker) : Prop where
  waiting : ∃ index, (tasks.task index).Waits
  exhausted : ∀ connection, connection < poolSize →
    ∃ index, connection ∈ (tasks.task index).held ∧ (tasks.task index).Waits

/-- A worker holds at most one connection, and only until its next step. -/
inductive AtMostOne : Worker → Prop where
  | idle : AtMostOne .idle
  | free {rest} (flat : Flat rest) : AtMostOne (.running [] rest)
  | holding (connection : Nat) {rest} (flat : Flat rest) :
      AtMostOne (.running [connection] (.release :: rest))

/-- Whoever waits for a connection holds none. -/
theorem AtMostOne.held_of_waits {worker : Worker} (atMostOne : AtMostOne worker)
    (waits : worker.Waits) : worker.held = [] := by
  obtain ⟨held, rest, rfl⟩ := waits
  cases atMostOne
  rfl

section System

variable {Program : List PoolEvent → Prop} {trace : List (Nat × PoolLabel)}
  {tasks : Tasks (List Nat) Worker}

/-- No turn makes a worker hold a second connection. -/
theorem PoolTurn.atMostOne (programs : ∀ program, Program program → Flat program)
    {free next : List Nat} {worker after : Worker} {label : PoolLabel}
    (turn : PoolTurn Program free worker label next after) (atMostOne : AtMostOne worker) :
    AtMostOne after := by
  cases turn with
  | begins _ given => exact .free (programs _ given)
  | acquires held rest connection _ =>
      cases atMostOne with
      | free flat =>
          cases flat with
          | pair flat => exact .holding connection flat
  | releases held rest connection =>
      cases atMostOne with
      | holding _ flat => exact .free flat
  | ends => exact .idle

/-- So it is for every worker in every run. -/
theorem workers_atMostOne (programs : ∀ program, Program program → Flat program)
    (run : (poolSystem Program).Runs trace tasks) (index : Nat) :
    AtMostOne (tasks.task index) := by
  have holds : tasks.Holds (fun _ => True) (fun _ => AtMostOne) (fun _ _ => True) := by
    refine Tasks.invariant (fun _ _ => id) (fun _ _ => ⟨trivial, .idle⟩) trivial ?_ run
    intro free worker label next after _ atMostOne turn
    exact ⟨trivial, turn.atMostOne programs atMostOne, fun _ other _ => ⟨other, trivial⟩⟩
  exact holds.own index

/-- A turn moves a connection between the free ones and its worker. -/
theorem PoolTurn.keeps {free next : List Nat} {worker after : Worker} {label : PoolLabel}
    (turn : PoolTurn Program free worker label next after) (atMostOne : AtMostOne worker)
    (connection : Nat) :
    (connection ∈ free → connection ∈ next ∨ connection ∈ after.held) ∧
      (connection ∈ worker.held → connection ∈ next ∨ connection ∈ after.held) := by
  cases turn with
  | begins => exact ⟨.inl, nofun⟩
  | acquires held rest taken _ =>
      refine ⟨fun member => ?_, fun member => .inr (List.mem_cons_of_mem _ member)⟩
      by_cases same : connection = taken
      · exact .inr (same ▸ List.mem_cons_self)
      · exact .inl ((List.mem_erase_of_ne same).mpr member)
  | releases held rest returned =>
      refine ⟨fun member => .inl (List.mem_cons_of_mem _ member), fun member => ?_⟩
      rcases List.mem_cons.mp member with same | kept
      · exact .inl (same ▸ List.mem_cons_self)
      · exact .inr kept
  | ends held =>
      refine ⟨.inl, fun member => ?_⟩
      cases atMostOne
      cases member

/-- No connection is lost: each is free or in the hands of a worker. -/
theorem connection_somewhere (programs : ∀ program, Program program → Flat program)
    (run : (poolSystem Program).Runs trace tasks) {connection : Nat}
    (within : connection < poolSize) :
    connection ∈ tasks.shared ∨ ∃ index, connection ∈ (tasks.task index).held := by
  induction run with
  | @initial tasks valid =>
      left
      rw [valid.1]
      exact List.mem_range.mpr within
  | @step trace tasks label next prior transition ih =>
      obtain ⟨free, after, turn, rfl⟩ := transition
      have keeps := turn.keeps (workers_atMostOne programs prior label.1) connection
      have own : connection ∈ free ∨ connection ∈ after.held →
          connection ∈ free ∨
            ∃ index, connection ∈ ((tasks.advance label.1 free after).task index).held := by
        refine Or.imp_right fun member => ⟨label.1, ?_⟩
        rwa [Tasks.advance_task_self]
      rcases ih with available | ⟨index, member⟩
      · exact own (keeps.1 available)
      · by_cases same : index = label.1
        · exact own (keeps.2 (same ▸ member))
        · refine .inr ⟨index, ?_⟩
          rwa [Tasks.advance_task_of_ne same]

/-- While an operation waits for a connection, a worker can take one or give one back. -/
theorem pool_progress (programs : ∀ program, Program program → Flat program)
    (run : (poolSystem Program).Runs trace tasks) {index : Nat}
    (waits : (tasks.task index).Waits) :
    ∃ worker connection next, (poolSystem Program).Step tasks (worker, .acquires connection) next ∨
      (poolSystem Program).Step tasks (worker, .releases connection) next := by
  rcases connection_somewhere programs run (by decide : 0 < poolSize) with free | ⟨holder, member⟩
  · obtain ⟨held, rest, here⟩ := waits
    have turn := @PoolTurn.acquires Program tasks.shared held rest 0 free
    exact ⟨index, 0, _, .inl ⟨_, _, here ▸ turn, rfl⟩⟩
  · have atMostOne := workers_atMostOne programs run holder
    generalize there : tasks.task holder = worker at atMostOne member
    cases atMostOne with
    | idle => cases member
    | free => cases member
    | @holding connection rest flat =>
        have turn := @PoolTurn.releases Program tasks.shared [] rest connection
        exact ⟨holder, connection, _, .inr ⟨_, _, there ▸ turn, rfl⟩⟩

/-- Those who wait hold nothing, so that no connection is held by one that waits. -/
theorem not_deadlocked (programs : ∀ program, Program program → Flat program)
    (run : (poolSystem Program).Runs trace tasks) : ¬ Deadlocked tasks := by
  intro deadlocked
  obtain ⟨index, held, waits⟩ := deadlocked.exhausted 0 (by decide)
  rw [(workers_atMostOne programs run index).held_of_waits waits] at held
  cases held

end System

/-- Every operation takes its connections one after another, and so no interleaving of operations
ends with all connections in the hands of operations that wait. -/
theorem pool_never_deadlocks (serde : Serde) (database : Database) (base64 : Base64)
    (prepare : Prepare) :
    (∀ (operation : Operation) (fuel : Nat) (world : World),
      Disciplined (operation.trace serde database base64 prepare fuel world)) ∧
    ∀ (trace : List (Nat × PoolLabel)) (tasks : Tasks (List Nat) Worker),
      (poolSystem fun program => ∃ (operation : Operation) (fuel : Nat) (world : World),
        program = operation.trace serde database base64 prepare fuel world).Runs trace tasks →
      ¬ Deadlocked tasks := by
  constructor
  · intro operation fuel world
    exact (operation.flat serde database base64 prepare fuel world).disciplined
  · intro trace tasks run
    refine not_deadlocked ?_ run
    rintro _ ⟨operation, fuel, world, rfl⟩
    exact operation.flat serde database base64 prepare fuel world

end Arisa.Database
