import Arisa.Database.Poller
import Arisa.Service.Rpc

/-!
# The server as a whole

The poller, the event channel with its streams, the action thread and the calls
of any number of clients, interleaved in any order. A run of the server is a run
of each of its parts, so what is true of the parts is true of them together.
-/

namespace Arisa.Service

open Arisa.Android Arisa.Database Arisa.Proto Arisa.Semantics Arisa.Semantics.Broadcast

variable {Failure : Type}

structure Server (Failure : Type) where
  poller : PollerState
  shared : Shared Failure

inductive ServerLabel (Failure : Type) where
  | poller (label : PollerLabel)
  | call (request : Request) (world : CallWorld) (result : Except Status Response)
  /-- A stream is polled by its connection. -/
  | stream (index cursor : Nat) (received : Received Event)
  | thread (label : ProcessorLabel Failure)

section System

variable (serde : Serde) (service : ArisaService) (url : Url)
  (uid : Option Int32) (callingPackage referer : String)

/-- The events that a step of the poller sends. -/
def sentBy : PollerLabel → List Event
  | .take taken => (deliver serde service.database taken.world taken.fuel taken.row).toList
  | .write | .poll _ => []

def Server.send (server : Server Failure) (events : List Event) : Server Failure :=
  { server with shared :=
    { server.shared with hub :=
      { server.shared.hub with sent := server.shared.hub.sent ++ events } } }

inductive ServerStep : Server Failure → ServerLabel Failure → Server Failure → Prop where
  | poller {server : Server Failure} {label : PollerLabel} {next : PollerState}
      (taken : PollerStep serde service.database server.poller label next) :
      ServerStep server (.poller label)
        { server.send (sentBy serde service label) with poller := next }
  | call {server : Server Failure} {request : Request} {world : CallWorld}
      {result : Except Status Response}
      (ends : (handle service world server.shared request).result = some result) :
      ServerStep server (.call request world result)
        { server with shared := (handle service world server.shared request).shared }
  | stream {server : Server Failure} {index cursor : Nat} {received : Received Event} {hub : Hub}
      (polled : HubStep server.shared.hub (.poll index cursor received) hub) :
      ServerStep server (.stream index cursor received)
        { server with shared := { server.shared with hub } }
  | thread {server : Server Failure} {label : ProcessorLabel Failure}
      {processor : Processor Failure}
      (own : ∀ action result, label ≠ .enqueue action result)
      (taken : ProcessorStep url uid callingPackage referer server.shared.processor label
        processor) :
      ServerStep server (.thread label)
        { server with shared := { server.shared with processor } }

/-- The server from the start of its parts. -/
def server : System (Server Failure) (ServerLabel Failure) where
  Initial state :=
    (poller serde service.database).Initial state.poller ∧ hub.Initial state.shared.hub ∧
      (processor url uid callingPackage referer).Initial state.shared.processor
  Step := ServerStep serde service url uid callingPackage referer

end System

/-! ## The parts -/

/-- What a step of the server is for the poller. -/
def pollerPart : ServerLabel Failure → List PollerLabel
  | .poller label => [label]
  | .call .. | .stream .. | .thread _ => []

/-- What it is for the event channel. -/
def hubPart (serde : Serde) (service : ArisaService) : ServerLabel Failure → List HubLabel
  | .poller label => (sentBy serde service label).map .send
  | .call .subscribeEvents _ _ => [.subscribe]
  | .stream index cursor received => [.poll index cursor received]
  | .call .. | .thread _ => []

/-- What it is for the action thread. -/
def processorPart (service : ArisaService) :
    ServerLabel Failure → List (ProcessorLabel Failure)
  | .call request world result =>
      (actionOf service world request).toList.map fun action =>
        .enqueue action ((result.map fun _ => ()).mapError Status.message)
  | .thread label => [label]
  | .poller _ | .stream .. => []

section Parts

variable {serde : Serde} {service : ArisaService} {url : Url}
  {uid : Option Int32} {callingPackage referer : String}
  {trace : List (ServerLabel Failure)} {state next : Server Failure}
  {label : ServerLabel Failure}

/-- Sending a page of events is as many steps of the channel. -/
theorem hub_sends (state : Hub) (events : List Event) :
    hub.Steps state (events.map .send) { state with sent := state.sent ++ events } := by
  induction events using List.reverseRecOn with
  | nil =>
      rw [List.append_nil]
      exact .refl
  | append_singleton events event ih =>
      rw [List.map_append, List.map_singleton, ← List.append_assoc]
      exact ih.step (.send _ event)

/-- For the poller each step of the server is a step or none. -/
theorem poller_simulates
    (taken : ServerStep serde service url uid callingPackage referer state label next) :
    (poller serde service.database).Steps state.poller (pollerPart label) next.poller := by
  cases taken with
  | poller taken => exact .one taken
  | call | stream | thread => exact .refl

/-- For the event channel each step of the server is a few steps. -/
theorem hub_simulates
    (taken : ServerStep serde service url uid callingPackage referer state label next) :
    hub.Steps state.shared.hub (hubPart serde service label) next.shared.hub := by
  cases taken with
  | poller taken => exact hub_sends _ _
  | @call request world result ends =>
      cases request with
      | subscribeEvents => exact .one (.subscribe _)
      | _ =>
          change hub.Steps state.shared.hub [] (handle service world state.shared _).shared.hub
          rw [handle_hub (by simp)]
          exact .refl
  | stream polled => exact .one polled
  | thread own taken => exact .refl

/-- For the Android thread each step of the server is a step or none. -/
theorem processor_simulates
    (taken : ServerStep serde service url uid callingPackage referer state label next) :
    (processor url uid callingPackage referer).Steps state.shared.processor
      (processorPart service label) next.shared.processor := by
  cases taken with
  | poller taken => exact .refl
  | @call request world result ends =>
      change System.Steps _ state.shared.processor
        ((actionOf service world request).toList.map fun action =>
          ProcessorLabel.enqueue action ((result.map fun _ => ()).mapError Status.message))
        (handle service world state.shared request).shared.processor
      cases asked : actionOf service world request with
      | none =>
          rw [(handle_of_no_action asked).1]
          exact .refl
      | some action =>
          obtain ⟨after, returned⟩ := @handle_of_action _ service world state.shared _ _ asked
          have same : ((result.map fun _ => ()).mapError Status.message) =
              (state.shared.processor.enqueue action).1 := by
            rw [ends, Option.some.injEq] at returned
            rw [returned]
            cases (state.shared.processor.enqueue action).1 with
            | ok value => rfl
            | error message => rfl
          rw [after, same]
          exact .one (.enqueue _ action)
  | stream polled => exact .refl
  | thread own taken => exact .one taken

variable (run : (server serde service url uid callingPackage referer).Runs trace state)
include run

/-- A run of the server shows a run of the poller, whose theorems hold in it. -/
theorem poller_runs :
    (poller serde service.database).Runs (trace.flatMap pollerPart) state.poller := by
  apply System.Runs.project Server.poller pollerPart _ _ run
  · intro state valid
    exact valid.1
  · intro state label next taken
    exact poller_simulates taken

/-- It shows a run of the event channel. -/
theorem hub_runs : hub.Runs (trace.flatMap (hubPart serde service)) state.shared.hub := by
  apply System.Runs.project (fun state => state.shared.hub) (hubPart serde service) _ _ run
  · intro state valid
    exact valid.2.1
  · intro state label next taken
    exact hub_simulates taken

/-- It shows a run of the Android thread. -/
theorem processor_runs :
    (processor url uid callingPackage referer).Runs
      (trace.flatMap (processorPart service)) state.shared.processor := by
  apply System.Runs.project (fun state => state.shared.processor) (processorPart service) _ _ run
  · intro state valid
    exact valid.2.2
  · intro state label next taken
    exact processor_simulates taken

end Parts

/-! ## Actions -/

/-- The action of a call that was answered `Ok`. -/
def answeredBy (service : ArisaService) : ServerLabel Failure → List Action
  | .call request world (.ok _) => (actionOf service world request).toList
  | .call _ _ (.error _) | .poller _ | .stream .. | .thread _ => []

def answered (service : ArisaService) (trace : List (ServerLabel Failure)) : List Action :=
  trace.flatMap (answeredBy service)

section Actions

variable {serde : Serde} {service : ArisaService} {url : Url}
  {uid : Option Int32} {callingPackage referer : String}
  {trace : List (ServerLabel Failure)} {state next : Server Failure}
  {label : ServerLabel Failure}

/-- The actions that were accepted, in the order of the trace. -/
theorem accepted_append (first second : List (ProcessorLabel Failure)) :
    accepted (first ++ second) = accepted first ++ accepted second := by
  simp [accepted]

/-- The action thread accepts what is answered `Ok`, step by step. -/
theorem accepted_processorPart
    (taken : ServerStep serde service url uid callingPackage referer state label next) :
    accepted (processorPart service label) = answeredBy service label := by
  cases taken with
  | poller taken => rfl
  | @call request world result ends =>
      change accepted ((actionOf service world request).toList.map fun action =>
        ProcessorLabel.enqueue action ((result.map fun _ => ()).mapError Status.message)) = _
      cases result with
      | ok response =>
          change _ = (actionOf service world request).toList
          cases actionOf service world request <;> rfl
      | error status =>
          change _ = []
          cases actionOf service world request <;> rfl
  | stream polled => rfl
  | @thread label processor own taken =>
      change accepted [label] = []
      cases label with
      | enqueue action result => exact absurd rfl (own action result)
      | attach | receive | process | die => rfl

/-- The thread accepts exactly what the calls were told was accepted, in the order of their
answers. -/
theorem accepted_eq_answered
    (run : (server serde service url uid callingPackage referer).Runs trace state) :
    accepted (trace.flatMap (processorPart service)) = answered service trace := by
  induction run with
  | initial valid => rfl
  | step prior taken ih =>
      rw [List.flatMap_append, List.flatMap_singleton, accepted_append, ih,
        accepted_processorPart taken, answered, answered, List.flatMap_append,
        List.flatMap_singleton]

/-- Over every run of the server: the actions of the calls answered `Ok`, in the order of the
answers, are those the action thread has processed, the one it is at and those that wait. A call is
one step, so that the order of the answers is the order in which the actions were accepted. What has
reached the activity manager is, action by action, a beginning of that action's intents, and the
whole of them just when the action succeeded. A call that failed has no part in it. -/
theorem server_delivers
    (run : (server serde service url uid callingPackage referer).Runs trace state) :
    let processor := state.shared.processor
    answered service trace =
        processor.processed.map Prod.fst ++ processor.thread.current ++ processor.queue ∧
      ∃ parts, Android.delivered processor.env.journal = parts.flatten ∧
        List.Forall₂ (fun entry part => part <+: intents url referer entry.1 ∧
          (entry.2 = .ok () ↔ part = intents url referer entry.1))
          processor.processed parts := by
  have valid := Processor.valid (processor_runs run)
  refine ⟨?_, valid.accounts.delivered_eq⟩
  rw [← accepted_eq_answered run]
  exact valid.ordered

end Actions

/-- A call that meets an empty database and an empty disk. -/
def quietCall : CallWorld where
  database :=
    ⟨feedSerde, fun _ => .ok [], codePoints, fun _ => .error (.sqliteFailure "no such table"),
      fun _ => "", none, World.steady quietTables⟩
  fuel := 1
  storeIo := Media.StoreIo.healthy Media.tallyName Media.tallyName_injective
  io := Media.Io.healthy Media.tallyName Media.tallyName_injective
  directory _ := none
  libraries := ⟨fun _ => "", .ok, fun _ _ data => .ok data, fun _ => .ok .null⟩
  files := Std.FileSystem.ofFiles []

def quietService : ArisaService := ⟨plainDatabase, "/data/data/com.kakao.talk/", "/media"⟩

/-- The server at its start, on a virtual machine that refuses nothing. -/
def quietServer : Server Unit where
  poller := quietState
  shared := ⟨⟨.starting, [], ⟨fun _ => none, 0, []⟩, []⟩, ⟨[], []⟩⟩

/-- The server that has just started. -/
theorem quietServer_runs :
    (server feedSerde quietService percentUrl none "com.android.shell" "referer").Runs []
      quietServer :=
  .initial ⟨⟨rfl, rfl, rfl, World.steady quietTables, rfl, rfl⟩, rfl, rfl, rfl, rfl, rfl⟩

/-- A channel was marked as read while the action thread was still starting. -/
theorem server_delivers_markRead :
    answered quietService [(.call (.markRead ⟨7⟩) quietCall (.ok .empty) : ServerLabel Unit)] =
      [] ++ [] ++ [.markRead 7] :=
  (server_delivers (quietServer_runs.step (.call rfl))).1

/-! ## Events -/

/-- The events of a part of a run. -/
def mappedEvents (serde : Serde) (service : ArisaService) (trace : List (ServerLabel Failure)) :
    List Event :=
  (takenRows (trace.flatMap pollerPart)).filterMap fun taken =>
    deliver serde service.database taken.world taken.fuel taken.row

section Events

variable {serde : Serde} {service : ArisaService} {url : Url}
  {uid : Option Int32} {callingPackage referer : String}
  {before after trace : List (ServerLabel Failure)} {start state next : Server Failure}
  {label : ServerLabel Failure}

/-- The rows that were taken, in the order of the trace. -/
theorem takenRows_append (first second : List PollerLabel) :
    takenRows (first ++ second) = takenRows first ++ takenRows second :=
  List.filterMap_append

/-- One more step adds the event it maps, if it maps one. -/
theorem mappedEvents_concat (trace : List (ServerLabel Failure)) (label : ServerLabel Failure) :
    mappedEvents serde service (trace ++ [label]) =
      mappedEvents serde service trace ++ mappedEvents serde service [label] := by
  simp [mappedEvents, takenRows_append]

/-- A step sends the events of the row it takes. -/
theorem step_sent
    (taken : ServerStep serde service url uid callingPackage referer state label next) :
    next.shared.hub.sent = state.shared.hub.sent ++ mappedEvents serde service [label] := by
  have nothing (other : pollerPart label = []) : mappedEvents serde service [label] = [] := by
    simp [mappedEvents, takenRows, other]
  cases taken with
  | @poller label next taken =>
      change state.shared.hub.sent ++ sentBy serde service label = _
      congr 1
      cases label with
      | write | poll => rfl
      | take entry =>
          simp only [sentBy, mappedEvents, pollerPart, takenRows, List.flatMap_singleton,
            List.filterMap_cons, List.filterMap_nil]
          cases deliver serde service.database entry.world entry.fuel entry.row <;> rfl
  | @call request world result ends =>
      rw [nothing rfl, List.append_nil]
      by_cases subscribes : request = .subscribeEvents
      · subst subscribes
        rfl
      · change (handle service world state.shared request).shared.hub.sent = _
        rw [handle_hub subscribes]
  | stream polled =>
      rw [nothing rfl, List.append_nil]
      cases polled
      rfl
  | thread own taken => rw [nothing rfl, List.append_nil]

/-- A poll does not move the place where a stream began. -/
theorem poll_joined (subscriber : Subscriber) (sent : List Event) :
    (subscriber.poll sent).joined = subscriber.joined := by
  unfold Subscriber.poll
  rcases receive capacity sent subscriber.cursor with ⟨received, cursor⟩
  rfl

/-- A stream that exists keeps the position it joined at. -/
theorem step_joined
    (taken : ServerStep serde service url uid callingPackage referer state label next)
    {index joined : Nat}
    (found : (state.shared.hub.subscribers[index]?).map Subscriber.joined = some joined) :
    (next.shared.hub.subscribers[index]?).map Subscriber.joined = some joined := by
  obtain ⟨subscriber, present, rfl⟩ := Option.map_eq_some_iff.mp found
  have within := (List.getElem?_eq_some_iff.mp present).1
  cases taken with
  | poller taken => exact found
  | @call request world result ends =>
      by_cases subscribes : request = .subscribeEvents
      · subst subscribes
        change ((state.shared.hub.subscribers ++ [_])[index]?).map _ = _
        rw [List.getElem?_append_left within]
        exact found
      · change
          ((handle service world state.shared request).shared.hub.subscribers[index]?).map _ = _
        rw [handle_hub subscribes]
        exact found
  | @stream polled cursor received hub step =>
      obtain ⟨other, atPolled, -, -⟩ := HubStep.of_poll step
      cases step with
      | poll _ subscriber' present' =>
          change ((state.shared.hub.subscribers.set polled _)[index]?).map _ = _
          by_cases same : polled = index
          · subst same
            obtain rfl := Option.some.inj (present.symm.trans present')
            rw [List.getElem?_set_self within, Option.map_some, poll_joined]
          · rw [List.getElem?_set_ne same]
            exact found
  | thread own taken => exact found

/-- What the steps after a subscription have made of the stream and of the channel. -/
theorem steps_account {index joined : Nat}
    (found : (start.shared.hub.subscribers[index]?).map Subscriber.joined = some joined)
    (steps : (server serde service url uid callingPackage referer).Steps start after state) :
    (state.shared.hub.subscribers[index]?).map Subscriber.joined = some joined ∧
      state.shared.hub.sent = start.shared.hub.sent ++ mappedEvents serde service after := by
  apply System.Steps.trace_invariant _ _ steps
  · exact ⟨found, by simp [mappedEvents, takenRows]⟩
  · rintro after state label next ⟨joins, sent⟩ taken
    refine ⟨step_joined taken joins, ?_⟩
    rw [step_sent taken, sent, mappedEvents_concat, List.append_assoc]

/-- The rows are taken in the order of their ids. -/
theorem takenRows_ascending
    (run : (server serde service url uid callingPackage referer).Runs trace state) :
    (takenRows (trace.flatMap pollerPart)).Pairwise fun left right =>
      left.row.databaseId < right.row.databaseId := by
  have passed := (pollerInvariant (poller_runs run)).passed
  have ordered : state.poller.passed.Pairwise Precedes := (rowsAfter_ascending _ _).filter _
  have ascending : (state.poller.passed.map ChatLog.databaseId).Pairwise (· < ·) :=
    List.pairwise_map.mpr ordered
  rw [← readMessages_keys passed, List.map_map] at ascending
  exact List.pairwise_map.mp ascending

/-- Skipped or not, what is delivered keeps the order of the channel. -/
theorem delivered_sublist (polls : List HubLabel) (index : Nat) {sent : List Event}
    {first count : Nat} (within : first + count ≤ sent.length) :
    (Service.delivered polls index sent first count).Sublist (sent.drop first) := by
  have whole := @delivered_all [] index sent first count within fun _ _ _ => rfl
  have kept : (Service.delivered polls index sent first count).Sublist
      (Service.delivered [] index sent first count) := by
    unfold Service.delivered
    apply List.Sublist.filterMap
    apply List.Sublist.trans List.filter_sublist
    have everything : (List.range' first count).filter
        (fun position => !skipped [] index position) = List.range' first count :=
      List.filter_eq_self.mpr fun _ _ => rfl
    rw [everything]
  exact kept.trans (whole ▸ List.take_sublist _ _)

/-- No stream that does not exist is polled. -/
theorem lagged_after {world : CallWorld} {result : Except Status Response}
    (run : (server serde service url uid callingPackage referer).Runs before start)
    {index : Nat} (fresh : start.shared.hub.subscribers.length ≤ index) {cursor missed : Nat}
    (lagged : .poll index cursor (.lagged missed) ∈
      (before ++ .call .subscribeEvents world result :: after).flatMap (hubPart serde service)) :
    .stream index cursor (.lagged missed) ∈ after := by
  obtain ⟨label, inTrace, part⟩ := List.mem_flatMap.mp lagged
  rcases List.mem_append.mp inTrace with early | late
  · have polled : .poll index cursor (.lagged missed) ∈
        before.flatMap (hubPart serde service) := List.mem_flatMap.mpr ⟨label, early, part⟩
    have exists_ := (hub_account (hub_runs run)).polled index cursor _ polled
    omega
  · rcases List.mem_cons.mp late with rfl | late
    · cases List.mem_singleton.mp part
    · cases label with
      | poller label =>
          obtain ⟨event, -, same⟩ := List.mem_map.mp part
          cases same
      | call request other answer =>
          cases request with
          | subscribeEvents => cases List.mem_singleton.mp part
          | _ => cases part
      | stream polled position received =>
          cases List.mem_singleton.mp part
          exact late
      | thread label => cases part

/-- The account of a stream, from the call that returned it on. -/
theorem stream_account {world : CallWorld} {index : Nat}
    (run : (server serde service url uid callingPackage referer).Runs
      (before ++ .call .subscribeEvents world (.ok (.events index)) :: after) state) :
    ∃ subscriber : Subscriber, state.shared.hub.subscribers[index]? = some subscriber ∧
      subscriber.yielded.Sublist ((mappedEvents serde service after).map .ok) ∧
      ((∀ cursor missed, .stream index cursor (.lagged missed) ∉ after) →
        subscriber.yielded <+: (mappedEvents serde service after).map .ok) := by
  have account := hub_account (hub_runs run)
  have split : before ++ .call .subscribeEvents world (.ok (.events index)) :: after =
      before ++ [.call .subscribeEvents world (.ok (.events index))] ++ after := by simp
  obtain ⟨start, reached, steps⟩ := System.Runs.split (split ▸ run)
  obtain ⟨earlier, prior, taken⟩ := reached.of_concat
  cases taken with
  | call ends =>
      have number : earlier.shared.hub.subscribers.length = index := by
        cases ends
        rfl
      have joins : ((earlier.shared.hub.subscribers ++
          [⟨earlier.shared.hub.sent.length, earlier.shared.hub.sent.length, []⟩])[index]?).map
            Subscriber.joined = some earlier.shared.hub.sent.length := by
        rw [← number, List.getElem?_concat_length]
        rfl
      obtain ⟨present, sent⟩ := steps_account joins steps
      obtain ⟨subscriber, found, joined⟩ := Option.map_eq_some_iff.mp present
      change state.shared.hub.sent = earlier.shared.hub.sent ++ _ at sent
      have stream := account.delivered index subscriber found
      have since : state.shared.hub.sent.drop subscriber.joined =
          mappedEvents serde service after := by
        rw [sent, joined, List.drop_left]
      have order := stream.joined_le
      have bound := stream.cursor_le
      refine ⟨subscriber, found, ?_, ?_⟩
      · rw [stream.yielded_eq, ← since]
        exact (delivered_sublist _ index (by omega)).map _
      · intro never
        have kept : ∀ position, skipped ((before ++ .call .subscribeEvents world
            (.ok (.events index)) :: after).flatMap (hubPart serde service)) index position =
              false := by
          intro position
          rw [← Bool.not_eq_true]
          intro skip
          obtain ⟨cursor, missed, lagged, -⟩ := exists_lagged_of_skipped skip
          exact never cursor missed (lagged_after prior (Nat.le_of_eq number) lagged)
        rw [stream.yielded_eq, delivered_all (by omega) fun position _ _ => kept position, ← since]
        exact (List.take_prefix _ _).map _

/-- The stream that a subscription returned yields, in the order of the stored rows and each once,
events of the rows taken since the call was answered, that is since its receiver was created: a call
is one step. The rows are taken in ascending order. As long as no poll of the stream was told that
it lagged, nothing is missing in between. -/
theorem subscription_delivers {world : CallWorld} {index : Nat}
    (run : (server serde service url uid callingPackage referer).Runs
      (before ++ .call .subscribeEvents world (.ok (.events index)) :: after) state) :
    ∃ subscriber, state.shared.hub.subscribers[index]? = some subscriber ∧
      ((takenRows (after.flatMap pollerPart)).Pairwise fun left right =>
        left.row.databaseId < right.row.databaseId) ∧
      subscriber.yielded.Sublist ((mappedEvents serde service after).map .ok) ∧
      ((∀ cursor missed, .stream index cursor (.lagged missed) ∉ after) →
        subscriber.yielded <+: (mappedEvents serde service after).map .ok) := by
  obtain ⟨subscriber, found, ordered, complete⟩ := stream_account run
  refine ⟨subscriber, found, ?_, ordered, complete⟩
  have ascending := takenRows_ascending run
  rw [List.flatMap_append, takenRows_append] at ascending
  exact (List.pairwise_append.mp ascending).2.1

end Events

/-! ## A stream with several events -/

/-- The server with its poller in this state, and what that has sent in the channel. -/
def Server.place (server : Server Failure) (poller : PollerState) : Server Failure :=
  { server with
    poller
    shared := { server.shared with hub := { server.shared.hub with sent := poller.sent } } }

/-- The steps of the poller in the server that it belongs to. -/
theorem place_steps {serde : Serde} {service : ArisaService} {url : Url} {uid : Option Int32}
    {callingPackage referer : String} (server_ : Server Failure) {start state : PollerState}
    {trace : List PollerLabel}
    (steps : (poller serde service.database).Steps start trace state) :
    (server serde service url uid callingPackage referer).Steps (server_.place start)
      (trace.map .poller) (server_.place state) := by
  refine steps.embed server_.place ServerLabel.poller fun before label after taken => ?_
  have sent : after.sent = before.sent ++ sentBy serde service label := by
    cases taken with
    | write => rw [sentBy, List.append_nil]
    | poll =>
        rw [sentBy, List.append_nil, PollerState.poll]
        split <;> rfl
    | take => rfl
  have same : server_.place after =
      { (server_.place before).send (sentBy serde service label) with poller := after } := by
    rw [Server.place, sent]
    rfl
  rw [same]
  exact .poller taken

/-- A stream that has not lagged yields the next event. -/
theorem HubStep.value {hub : Hub} {index : Nat} {subscriber : Subscriber} {event : Event}
    (found : hub.subscribers[index]? = some subscriber) (kept : hub.sent.length ≤ capacity)
    (next : hub.sent[subscriber.cursor]? = some event) :
    HubStep hub (.poll index subscriber.cursor (.value event))
      { hub with
        subscribers := hub.subscribers.set index
          ⟨subscriber.joined, subscriber.cursor + 1, subscriber.yielded ++ [.ok event]⟩ } := by
  have received : Semantics.Broadcast.receive capacity hub.sent subscriber.cursor =
      (.value event, subscriber.cursor + 1) := by
    rw [Semantics.Broadcast.receive, Semantics.Broadcast.oldest, Nat.sub_eq_zero_of_le kept,
      if_neg (Nat.not_lt_zero _), next]
  have polled := HubStep.poll hub index subscriber found
  rwa [received, Subscriber.poll, received] at polled

/-- Two polls of a stream after three messages were stored and mapped. -/
def historyStream (first last : Event) : List (ServerLabel Unit) :=
  historyTrace.map .poller ++ [.stream 0 0 (.value first), .stream 0 1 (.value last)]

/-- The server after its first subscription. -/
def subscribedServer : Server Unit where
  poller := quietState
  shared := { quietServer.shared with hub := ⟨[], [⟨0, 0, []⟩]⟩ }

/-- Its first call is a subscription. -/
theorem subscribedServer_runs :
    (server feedSerde quietService percentUrl none "com.android.shell" "referer").Runs
      ([] ++ [.call .subscribeEvents quietCall (.ok (.events 0))]) subscribedServer :=
  quietServer_runs.step (.call rfl)

/-- The two polls yield what the poller has sent. -/
theorem historyStream_steps : ∃ first last : EventValue, ∃ state : Server Unit,
    (server feedSerde quietService percentUrl none "com.android.shell" "referer").Steps
      subscribedServer (historyStream ⟨some first⟩ ⟨some last⟩) state ∧
      state.shared.hub.subscribers = [⟨0, 2, [.ok ⟨some first⟩, .ok ⟨some last⟩]⟩] := by
  obtain ⟨poller, steps, -⟩ := history_steps
  obtain ⟨first, last, delivers⟩ := historyTaken_delivers
  have sent : poller.sent = [⟨some first⟩, ⟨some last⟩] := by
    rw [(pollerInvariant (quietState_runs.append steps)).sent]
    exact delivers
  have mapped : (server feedSerde quietService percentUrl none "com.android.shell"
      "referer").Steps subscribedServer (historyTrace.map .poller)
      (subscribedServer.place poller) :=
    place_steps subscribedServer steps
  have two : 2 ≤ capacity := by decide
  rw [Server.place, sent] at mapped
  have once := mapped.step (.stream (@HubStep.value _ 0 _ ⟨some first⟩ rfl two rfl))
  have twice := once.step (.stream (@HubStep.value _ 0 _ ⟨some last⟩ rfl two rfl))
  rw [List.append_assoc] at twice
  exact ⟨first, last, _, twice, rfl⟩

/-- A stream was subscribed to before the messages were stored; it yields the two that are not
filtered. -/
theorem subscription_delivers_threeMessages : ∃ first last, ∃ subscriber : Subscriber,
    subscriber.yielded = [.ok first, .ok last] ∧
      ((takenRows ((historyStream first last).flatMap pollerPart)).Pairwise fun left right =>
        left.row.databaseId < right.row.databaseId) ∧
      subscriber.yielded.Sublist
        ((mappedEvents feedSerde quietService (historyStream first last)).map .ok) ∧
      ((∀ cursor missed, .stream 0 cursor (.lagged missed) ∉ historyStream first last) →
        subscriber.yielded <+:
          (mappedEvents feedSerde quietService (historyStream first last)).map .ok) := by
  obtain ⟨first, last, state, steps, yielded⟩ := historyStream_steps
  obtain ⟨subscriber, found, delivered⟩ :=
    @subscription_delivers _ _ _ _ _ _ _ [] _ _ _ _ (subscribedServer_runs.append steps)
  rw [yielded] at found
  cases found
  exact ⟨⟨some first⟩, ⟨some last⟩, _, rfl, delivered⟩

end Arisa.Service
