import Arisa.Client.Connection
import Arisa.Database.Faults
import Arisa.Service.Server

/-!
# A bot connected to the server

One `BotClient` with any number of coroutines against the server. A `run` reads
the stream it has subscribed to; when its connection breaks it subscribes again,
and the new stream starts at the end of what was sent by then.
-/

namespace Arisa.Service

open Arisa.Database Arisa.Proto Arisa.Semantics

variable {Failure : Type}

/-- The stream that a `run` reads, and how many of its items it has received. -/
structure Reading where
  index : Nat
  taken : Nat

structure Bot (Failure : Type) where
  client : Tasks Client.BotClient Client.Task
  server : Server Failure
  /-- By slot; `none` until the server has created the stream. -/
  reading : Nat → Option Reading

inductive BotLabel (Failure : Type) where
  | server (label : ServerLabel Failure)
  | subscribe (slot : Nat) (world : CallWorld) (index : Nat)
  | item (slot : Nat) (event : Event)
  | turn (slot : Nat) (label : Client.Label)

/-- A coroutine outside of `_run_once` has no stream. -/
def keeps (reading : Option Reading) : Client.Task → Option Reading
  | .streaming _ | .dispatching _ => reading
  | .idle | .connecting .. | .calling _ | .sleeping => none

/-- The slot has taken a turn, with the stream it had. -/
def Bot.turn (bot : Bot Failure) (slot : Nat) (client : Client.BotClient) (task : Client.Task)
    (reading : Option Reading) : Bot Failure where
  client := bot.client.advance slot client task
  server := bot.server
  reading := Function.update bot.reading slot (keeps reading task)

/-- The next item of a stream arrives. -/
def Bot.receive (bot : Bot Failure) (slot stub : Nat) (reading : Reading) (event : Event) :
    Bot Failure :=
  let received := (bot.client.shared.receive stub (.item event)).2
  bot.turn slot received.1 received.2 (some { reading with taken := reading.taken + 1 })

/-- A connection may end or fail at any time; the items come from the server. -/
def broken : Client.Transport := fun _ answer => ∀ event, answer ≠ .item event

section System

variable (serde : Serde) (service : ArisaService) (url : Android.Url)
  (uid : Option Int32) (callingPackage referer : String)

inductive BotStep : Bot Failure → BotLabel Failure → Bot Failure → Prop where
  | server {bot : Bot Failure} {label : ServerLabel Failure} {server : Server Failure}
      (taken : ServerStep serde service url uid callingPackage referer bot.server label
        server) :
      BotStep bot (.server label) { bot with server }
  | subscribe {bot : Bot Failure} {slot stub index : Nat} {world : CallWorld}
      {server : Server Failure} (asks : bot.client.task slot = .streaming stub)
      (unsubscribed : bot.reading slot = none)
      (taken : ServerStep serde service url uid callingPackage referer bot.server
        (.call .subscribeEvents world (.ok (.events index))) server) :
      BotStep bot (.subscribe slot world index)
        { bot with server, reading := Function.update bot.reading slot (some ⟨index, 0⟩) }
  | item {bot : Bot Failure} {slot stub : Nat} {reading : Reading} {subscriber : Subscriber}
      {event : Event} (asks : bot.client.task slot = .streaming stub)
      (reads : bot.reading slot = some reading)
      (found : bot.server.shared.hub.subscribers[reading.index]? = some subscriber)
      (next : subscriber.yielded[reading.taken]? = some (.ok event)) :
      BotStep bot (.item slot event) (bot.receive slot stub reading event)
  | turn {bot : Bot Failure} {slot : Nat} {label : Client.Label} {client : Client.BotClient}
      {task : Client.Task}
      (taken : Client.Turn broken bot.client.shared (bot.client.task slot) label client task) :
      BotStep bot (.turn slot label) (bot.turn slot client task (bot.reading slot))

/-- A new client and a server that starts. -/
def bot (reconnect : Bool) : System (Bot Failure) (BotLabel Failure) where
  Initial state :=
    (Client.client broken reconnect).Initial state.client ∧
      (server serde service url uid callingPackage referer).Initial state.server ∧
      ∀ slot, state.reading slot = none
  Step := BotStep serde service url uid callingPackage referer

end System

/-- What a step of the whole is for the server. -/
def serverPart : BotLabel Failure → List (ServerLabel Failure)
  | .server label => [label]
  | .subscribe _ world index => [.call .subscribeEvents world (.ok (.events index))]
  | .item .. | .turn .. => []

/-- What the `run` in a slot is given to dispatch; `_unwrap_event` refuses an event without a
value. -/
def dispatchedBy (slot : Nat) : BotLabel Failure → List EventValue
  | .item receiver event => if receiver = slot then event.value.toList else []
  | .server _ | .subscribe .. | .turn .. => []

def dispatched (slot : Nat) (trace : List (BotLabel Failure)) : List EventValue :=
  trace.flatMap (dispatchedBy slot)

/-- What is dispatched grows with the labels. -/
theorem dispatched_concat (slot : Nat) (trace : List (BotLabel Failure))
    (label : BotLabel Failure) :
    dispatched slot (trace ++ [label]) = dispatched slot trace ++ dispatchedBy slot label := by
  simp [dispatched]

/-- The values of events. -/
def values (events : List Event) : List EventValue :=
  events.filterMap Event.value

/-- The values of the items of a stream. -/
def itemValues (items : List (Except Status Event)) : List EventValue :=
  items.filterMap fun item => item.toOption.bind Event.value

/-- A stream that never lagged has given the values of its events. -/
theorem itemValues_ok (events : List Event) : itemValues (events.map .ok) = values events := by
  rw [itemValues, List.filterMap_map]
  rfl

/-- One more event adds its value, if it has one. -/
theorem itemValues_concat (items : List (Except Status Event)) (event : Event) :
    itemValues (items ++ [.ok event]) = itemValues items ++ event.value.toList := by
  simp only [itemValues, List.filterMap_append, List.append_cancel_left_eq]
  cases value : event.value <;> simp [Except.toOption, value]

/-- The event channel has gone on: nothing that was sent, joined or yielded is taken back. -/
structure Extends (before after : Hub) : Prop where
  sent : before.sent <+: after.sent
  streams : ∀ (index : Nat) (subscriber : Subscriber),
    before.subscribers[index]? = some subscriber →
    ∃ later : Subscriber, after.subscribers[index]? = some later ∧
      later.joined = subscriber.joined ∧
      subscriber.yielded <+: later.yielded

/-- A channel that does nothing has gone on. -/
theorem Extends.refl (state : Hub) : Extends state state :=
  ⟨List.prefix_rfl, fun _ subscriber found => ⟨subscriber, found, rfl, List.prefix_rfl⟩⟩

/-- A channel that has gone on twice has gone on. -/
theorem Extends.trans {first second third : Hub} (left : Extends first second)
    (right : Extends second third) : Extends first third where
  sent := left.sent.trans right.sent
  streams := by
    intro index subscriber found
    obtain ⟨middle, reached, joined, yielded⟩ := left.streams index subscriber found
    obtain ⟨later, present, same, more⟩ := right.streams index middle reached
    exact ⟨later, present, same.trans joined, yielded.trans more⟩

/-- A poll takes back no item that was yielded. -/
theorem poll_yielded (subscriber : Subscriber) (sent : List Event) :
    subscriber.yielded <+: (subscriber.poll sent).yielded := by
  unfold Subscriber.poll
  rcases Semantics.Broadcast.receive capacity sent subscriber.cursor with ⟨received, cursor⟩
  exact List.prefix_append _ _

/-- Every step of the channel goes on from the state before it. -/
theorem HubStep.goesOn {state next : Hub} {label : HubLabel} (taken : HubStep state label next) :
    Extends state next := by
  cases taken with
  | send event => exact ⟨List.prefix_append _ _, (Extends.refl state).streams⟩
  | subscribe =>
      refine ⟨List.prefix_rfl, ?_⟩
      intro index subscriber found
      have within := (List.getElem?_eq_some_iff.mp found).1
      exact ⟨subscriber, by rw [List.getElem?_append_left within, found], rfl, List.prefix_rfl⟩
  | poll polled other present =>
      refine ⟨List.prefix_rfl, ?_⟩
      intro index subscriber found
      have within := (List.getElem?_eq_some_iff.mp found).1
      by_cases same : polled = index
      · subst same
        obtain rfl := Option.some.inj (found.symm.trans present)
        exact ⟨subscriber.poll state.sent, List.getElem?_set_self within, poll_joined _ _,
          poll_yielded _ _⟩
      · exact ⟨subscriber, by rw [List.getElem?_set_ne same, found], rfl, List.prefix_rfl⟩

/-- Any number of steps goes on from it as well. -/
theorem hub_goesOn {trace : List HubLabel} {state next : Hub}
    (steps : hub.Steps state trace next) : Extends state next := by
  induction steps with
  | refl => exact .refl _
  | step _ taken ih => exact ih.trans taken.goesOn

/-- What a slot has been given, seen from the stream it reads: something from before that stream
was joined, and then the items taken from it. -/
def Caught (state : Hub) (given : List EventValue) : Option Reading → Prop
  | none => given.Sublist (values state.sent)
  | some reading => ∃ subscriber before,
      state.subscribers[reading.index]? = some subscriber ∧
      reading.taken ≤ subscriber.yielded.length ∧
      before.Sublist (values (state.sent.take subscriber.joined)) ∧
      given = before ++ itemValues (subscriber.yielded.take reading.taken)

section Caught

variable {state next : Hub} {trace : List HubLabel} {given : List EventValue}
  {reading : Option Reading}

/-- The other parts go on. -/
theorem Caught.goesOn (caught : Caught state given reading) (account : HubAccount trace state)
    (goes : Extends state next) : Caught next given reading := by
  obtain ⟨more, sent⟩ := goes.sent
  cases reading with
  | none =>
      refine List.Sublist.trans caught ?_
      rw [← sent, values, values, List.filterMap_append]
      exact List.sublist_append_left _ _
  | some reading =>
      obtain ⟨subscriber, before, found, taken, earlier, same⟩ := caught
      have stream := account.delivered _ _ found
      have joined := stream.joined_le
      have bound := stream.cursor_le
      obtain ⟨later, present, joins, items, yielded⟩ := goes.streams _ _ found
      refine ⟨later, before, present, ?_, ?_, ?_⟩
      · rw [← yielded, List.length_append]
        omega
      · rw [joins, ← sent, List.take_append_of_le_length (by omega)]
        exact earlier
      · rw [← yielded, List.take_append_of_le_length taken]
        exact same

/-- What a stream yielded was sent after it was joined. -/
theorem yielded_sublist (account : HubAccount trace state) {index : Nat} {subscriber : Subscriber}
    (found : state.subscribers[index]? = some subscriber) :
    (itemValues subscriber.yielded).Sublist (values (state.sent.drop subscriber.joined)) := by
  have stream := account.delivered _ _ found
  have joined := stream.joined_le
  have bound := stream.cursor_le
  rw [stream.yielded_eq, itemValues_ok]
  exact (delivered_sublist _ index (by omega)).filterMap _

/-- Whatever slot and stream, the values were sent in this order. -/
theorem Caught.sublist (caught : Caught state given reading) (account : HubAccount trace state) :
    given.Sublist (values state.sent) := by
  cases reading with
  | none => exact caught
  | some reading =>
      obtain ⟨subscriber, before, found, -, earlier, rfl⟩ := caught
      have items : (itemValues (subscriber.yielded.take reading.taken)).Sublist
          (values (state.sent.drop subscriber.joined)) :=
        ((List.take_sublist _ _).filterMap _).trans (yielded_sublist account found)
      have whole : values state.sent = values (state.sent.take subscriber.joined) ++
          values (state.sent.drop subscriber.joined) := by
        rw [values, values, values, ← List.filterMap_append, List.take_append_drop]
      rw [whole]
      exact earlier.append items

/-- A coroutine goes on with its stream, or has left it. -/
theorem Caught.stays (caught : Caught state given reading) (account : HubAccount trace state)
    (task : Client.Task) : Caught state given (keeps reading task) := by
  cases task with
  | streaming stub | dispatching stub => exact caught
  | idle | connecting caller channel | calling stub | sleeping => exact caught.sublist account

/-- A new stream begins behind everything that was sent. -/
theorem Caught.subscribe (caught : Caught state given none) :
    Caught { state with
      subscribers := state.subscribers ++ [⟨state.sent.length, state.sent.length, []⟩] } given
      (some ⟨state.subscribers.length, 0⟩) := by
  refine ⟨⟨state.sent.length, state.sent.length, []⟩, given, List.getElem?_concat_length,
    Nat.zero_le _, ?_, ?_⟩
  · rw [List.take_length]
    exact caught
  · rw [List.take_nil]
    exact (List.append_nil _).symm

/-- The next item of the stream. -/
theorem Caught.item {reading : Reading} {subscriber : Subscriber} {event : Event}
    (caught : Caught state given (some reading))
    (found : state.subscribers[reading.index]? = some subscriber)
    (item : subscriber.yielded[reading.taken]? = some (.ok event)) :
    Caught state (given ++ event.value.toList)
      (some { reading with taken := reading.taken + 1 }) := by
  obtain ⟨same, before, present, -, earlier, rfl⟩ := caught
  obtain rfl := Option.some.inj (found.symm.trans present)
  have within := (List.getElem?_eq_some_iff.mp item).1
  refine ⟨subscriber, before, found, within, earlier, ?_⟩
  rw [List.take_add_one, item, Option.toList_some, itemValues_concat, List.append_assoc]

end Caught

section Runs

variable {serde : Serde} {service : ArisaService} {url : Android.Url}
  {uid : Option Int32} {callingPackage referer : String} {reconnect : Bool}
  {trace : List (BotLabel Failure)} {state next : Bot Failure} {label : BotLabel Failure}

/-- A step of the whole is a step of the server or none. -/
theorem server_simulates
    (taken : BotStep serde service url uid callingPackage referer state label next) :
    (server serde service url uid callingPackage referer).Steps state.server
      (serverPart label) next.server := by
  cases taken with
  | server taken => exact .one taken
  | subscribe asks unsubscribed taken => exact .one taken
  | item | turn => exact .refl

/-- So a run of the whole is a run of the server, and what holds of that one holds here. -/
theorem server_runs
    (run : (bot serde service url uid callingPackage referer reconnect).Runs trace state) :
    (server serde service url uid callingPackage referer).Runs
      (trace.flatMap serverPart) state.server := by
  apply System.Runs.project Bot.server serverPart _ _ run
  · intro state valid
    exact valid.2.1
  · intro state label next taken
    exact server_simulates taken

/-- Everything in the channel was sent by the poller. -/
theorem server_sent {trace : List (ServerLabel Failure)} {state : Server Failure}
    (run : (server serde service url uid callingPackage referer).Runs trace state) :
    state.shared.hub.sent = mappedEvents serde service trace := by
  induction run with
  | initial valid =>
      rw [valid.2.1]
      rfl
  | step prior taken ih => rw [step_sent taken, ih, mappedEvents_concat]

/-- One step, seen from one slot. -/
theorem caught_step {polls : List HubLabel} {given : List EventValue} {slot : Nat}
    (caught : Caught state.server.shared.hub given (state.reading slot))
    (account : HubAccount polls state.server.shared.hub)
    (taken : BotStep serde service url uid callingPackage referer state label next) :
    Caught next.server.shared.hub (given ++ dispatchedBy slot label) (next.reading slot) := by
  have goes {label : ServerLabel Failure} {server : Server Failure}
      (taken : ServerStep serde service url uid callingPackage referer state.server label
        server) : Extends state.server.shared.hub server.shared.hub :=
    hub_goesOn (hub_simulates taken)
  cases taken with
  | server taken =>
      rw [dispatchedBy, List.append_nil]
      exact caught.goesOn account (goes taken)
  | @subscribe reader stub index world server asks unsubscribed taken =>
      rw [dispatchedBy, List.append_nil]
      by_cases own : slot = reader
      · subst own
        rw [unsubscribed] at caught
        simp only [Function.update_self]
        cases taken with
        | call ends =>
            cases ends
            exact caught.subscribe
      · simp only [Function.update_of_ne own]
        exact caught.goesOn account (goes taken)
  | @item reader stub reading subscriber event asks reads found item =>
      by_cases own : slot = reader
      · subst own
        rw [reads] at caught
        simp only [dispatchedBy, if_true, Bot.receive, Bot.turn, Function.update_self]
        exact (caught.item found item).stays account _
      · have other : dispatchedBy slot (.item reader event : BotLabel Failure) = [] :=
          if_neg (Ne.symm own)
        rw [other, List.append_nil]
        simp only [Bot.receive, Bot.turn, Function.update_of_ne own]
        exact caught
  | @turn turned label client task taken =>
      rw [dispatchedBy, List.append_nil]
      by_cases own : slot = turned
      · subst own
        simp only [Bot.turn, Function.update_self]
        exact caught.stays account task
      · simp only [Bot.turn, Function.update_of_ne own]
        exact caught

/-- At any time each slot has been given what its stream yielded, after something from before the
stream. -/
theorem bot_caught
    (run : (bot serde service url uid callingPackage referer reconnect).Runs trace state)
    (slot : Nat) :
    Caught state.server.shared.hub (dispatched slot trace) (state.reading slot) := by
  induction run with
  | initial valid =>
      rw [valid.2.2 slot]
      exact List.nil_sublist _
  | step prior taken ih =>
      rw [dispatched_concat]
      exact caught_step ih (hub_account (hub_runs (server_runs prior))) taken

/-- However often a `run` loses its connection and subscribes again, and whatever the other
coroutines and clients do meanwhile, the events it dispatches come from rows with ascending ids:
none is dispatched twice, and none out of order. -/
theorem bot_dispatches
    (run : (bot serde service url uid callingPackage referer reconnect).Runs trace state)
    (slot : Nat) :
    ∃ rows : List Taken,
      rows.Sublist (takenRows ((trace.flatMap serverPart).flatMap pollerPart)) ∧
      rows.Pairwise (fun left right => left.row.databaseId < right.row.databaseId) ∧
      dispatched slot trace = rows.filterMap fun taken =>
        (deliver serde service.database taken.world taken.fuel taken.row).bind Event.value := by
  have serves := server_runs run
  have account := hub_account (hub_runs serves)
  have ordered := (bot_caught run slot).sublist account
  rw [server_sent serves, values, mappedEvents, List.filterMap_filterMap] at ordered
  obtain ⟨rows, within, same⟩ := List.sublist_filterMap_iff.mp ordered
  exact ⟨rows, within, (takenRows_ascending serves).sublist within, same⟩

/-- What one stream has given a slot that reads no other. -/
def Given (slot index : Nat) (state : Bot Failure) (given : List EventValue) : Prop :=
  ∃ (subscriber : Subscriber) (taken : Nat),
    state.server.shared.hub.subscribers[index]? = some subscriber ∧
    taken ≤ subscriber.yielded.length ∧
    given = itemValues (subscriber.yielded.take taken) ∧
    ∀ reading, state.reading slot = some reading → reading = ⟨index, taken⟩

/-- While the slot keeps its stream, the other parts change nothing about what it was given. -/
theorem Given.goesOn {slot index : Nat} {given : List EventValue}
    (from_ : Given slot index state given)
    (goes : Extends state.server.shared.hub next.server.shared.hub)
    (reading : ∀ reading, next.reading slot = some reading → state.reading slot = some reading) :
    Given slot index next given := by
  obtain ⟨subscriber, taken, found, within, same, current⟩ := from_
  obtain ⟨later, present, -, more, yielded⟩ := goes.streams _ _ found
  refine ⟨later, taken, present, ?_, ?_, fun other reads => current other (reading other reads)⟩
  · rw [← yielded, List.length_append]
    omega
  · rw [← yielded, List.take_append_of_le_length within]
    exact same

/-- A coroutine that still has a stream has the one it had. -/
theorem keeps_eq_some {reading : Option Reading} {task : Client.Task} {current : Reading}
    (same : keeps reading task = some current) : reading = some current := by
  cases task with
  | streaming stub | dispatching stub => exact same
  | idle | connecting caller channel | calling stub | sleeping => cases same

/-- A step of a bot that does not subscribe again. -/
theorem given_step {slot index : Nat} {given : List EventValue}
    (from_ : Given slot index state given)
    (once : ∀ world number, label ≠ .subscribe slot world number)
    (taken : BotStep serde service url uid callingPackage referer state label next) :
    Given slot index next (given ++ dispatchedBy slot label) := by
  have goes : Extends state.server.shared.hub next.server.shared.hub := by
    cases taken with
    | server taken => exact hub_goesOn (hub_simulates taken)
    | subscribe asks unsubscribed taken => exact hub_goesOn (hub_simulates taken)
    | item | turn => exact .refl _
  cases taken with
  | server taken =>
      rw [dispatchedBy, List.append_nil]
      exact from_.goesOn goes fun _ => id
  | @subscribe reader stub number world server asks unsubscribed taken =>
      rw [dispatchedBy, List.append_nil]
      have other : slot ≠ reader := by
        rintro rfl
        exact once world number rfl
      refine from_.goesOn goes fun reading reads => ?_
      simpa only [Function.update_of_ne other] using reads
  | @item reader stub reading subscriber event asks reads found item =>
      by_cases own : slot = reader
      · subst own
        obtain ⟨same, count, present, within, rfl, current⟩ := from_
        obtain rfl := current reading reads
        obtain rfl := Option.some.inj (found.symm.trans present)
        have inside := (List.getElem?_eq_some_iff.mp item).1
        refine ⟨subscriber, count + 1, found, inside, ?_, ?_⟩
        · rw [List.take_add_one, item, Option.toList_some, itemValues_concat]
          simp only [dispatchedBy, if_true]
        · intro other still
          simp only [Bot.receive, Bot.turn, Function.update_self] at still
          exact (Option.some.inj (keeps_eq_some still)).symm
      · have nothing : dispatchedBy slot (.item reader event : BotLabel Failure) = [] :=
          if_neg (Ne.symm own)
        rw [nothing, List.append_nil]
        refine from_.goesOn goes fun other still => ?_
        simpa only [Bot.receive, Bot.turn, Function.update_of_ne own] using still
  | @turn turned label client task taken =>
      rw [dispatchedBy, List.append_nil]
      refine from_.goesOn goes fun other still => ?_
      by_cases own : slot = turned
      · subst own
        simp only [Bot.turn, Function.update_self] at still
        exact keeps_eq_some still
      · simpa only [Bot.turn, Function.update_of_ne own] using still

/-- While a `run` reads one stream, it dispatches nothing but what was sent since it subscribed,
and as long as the stream was never told that it lagged, all of it up to some point. -/
theorem connection_complete {before after : List (BotLabel Failure)} {slot index : Nat}
    {world : CallWorld}
    (run : (bot serde service url uid callingPackage referer reconnect).Runs
      (before ++ .subscribe slot world index :: after) state)
    (once : ∀ world number, .subscribe slot world number ∉ after) :
    let sent := values (mappedEvents serde service (after.flatMap serverPart))
    (dispatched slot after).Sublist sent ∧
      ((∀ cursor missed, .server (.stream index cursor (.lagged missed)) ∉ after) →
        dispatched slot after <+: sent) := by
  intro sent
  have serves := server_runs run
  rw [List.flatMap_append, List.flatMap_cons] at serves
  obtain ⟨stream, found, ordered, complete⟩ := stream_account serves
  have split : before ++ .subscribe slot world index :: after =
      before ++ [.subscribe slot world index] ++ after := by simp
  obtain ⟨start, reached, steps⟩ := System.Runs.split (split ▸ run)
  obtain ⟨earlier, prior, taken⟩ := reached.of_concat
  have fresh : Given slot index start [] := by
    cases taken with
    | subscribe asks unsubscribed taken =>
        cases taken with
        | call ends =>
            cases ends
            refine ⟨_, 0, List.getElem?_concat_length, Nat.zero_le _, rfl, ?_⟩
            intro reading reads
            simp only [Function.update_self] at reads
            exact (Option.some.inj reads).symm
  have given : (∀ label ∈ after, ∀ world number, label ≠ .subscribe slot world number) →
      Given slot index state (dispatched slot after) := by
    apply System.Steps.trace_invariant _ _ steps
    · exact fun _ => fresh
    · intro trace state label next holds taken never
      rw [dispatched_concat]
      apply given_step (holds fun label member => never label (by simp [member])) _ taken
      exact never label (by simp)
  obtain ⟨subscriber, count, present, -, same, -⟩ := given (by
    rintro label member world number rfl
    exact once world number member)
  obtain rfl := Option.some.inj (found.symm.trans present)
  rw [same]
  refine ⟨?_, fun never => ?_⟩
  · have whole := ((List.take_sublist count _).trans ordered).filterMap
      fun item => item.toOption.bind Event.value
    rwa [← itemValues, ← itemValues, itemValues_ok] at whole
  · have unlagged := complete fun cursor missed lagged => by
      obtain ⟨label, member, part⟩ := List.mem_flatMap.mp lagged
      cases label with
      | server label =>
          obtain rfl := List.mem_singleton.mp part
          exact never cursor missed member
      | subscribe slot world number => cases List.mem_singleton.mp part
      | item | turn => cases part
    have whole := ((List.take_prefix count _).trans unlagged).filterMap
      fun item => item.toOption.bind Event.value
    rwa [← itemValues, ← itemValues, itemValues_ok] at whole

end Runs

/-- A new client before an empty database. -/
def quietBot : Bot Unit where
  client := ⟨.init true, fun _ => .idle⟩
  server := quietServer
  reading _ := none

/-- `run` was started and its health check succeeded. -/
def connectedBot : Bot Unit :=
  (quietBot.turn 0 (quietBot.client.shared.start .run).1 (.connecting .run 0) none).turn 0
    ((quietBot.client.shared.start .run).1.publish 0) (.streaming 0) none

/-- The client gets that far while the server has done nothing. -/
theorem connectedBot_runs :
    (bot feedSerde quietService Android.percentUrl none "com.android.shell" "referer" true).Runs
      [.turn 0 (.started .run), .turn 0 (.published none)] connectedBot := by
  have begun : (bot feedSerde quietService Android.percentUrl none "com.android.shell" "referer"
      true).Runs [] quietBot :=
    .initial ⟨⟨rfl, fun _ => rfl⟩, ⟨⟨rfl, rfl, rfl, World.steady quietTables, rfl, rfl⟩, rfl, rfl,
      rfl, rfl, rfl⟩, fun _ => rfl⟩
  have started := begun.step (@BotStep.turn _ _ _ _ _ _ _ _ 0 _ _ _ (.started _ .run))
  exact started.step (@BotStep.turn _ _ _ _ _ _ _ _ 0 _ _ _ (.published _ .run 0))

/-- The steps of the server in the system that it belongs to. -/
theorem server_steps {serde : Serde} {service : ArisaService} {url : Android.Url}
    {uid : Option Int32} {callingPackage referer : String} {reconnect : Bool} (bot_ : Bot Failure)
    {trace : List (ServerLabel Failure)} {state : Server Failure}
    (steps : (server serde service url uid callingPackage referer).Steps bot_.server trace state) :
    (bot serde service url uid callingPackage referer reconnect).Steps bot_ (trace.map .server)
      { bot_ with server := state } :=
  steps.embed (fun server => { bot_ with server }) BotLabel.server fun _ _ _ taken =>
    BotStep.server taken

/-- Three messages are stored, two of them are sent, received and handled one after the other. -/
def threeMessages (first last : EventValue) : List (BotLabel Unit) :=
  (historyStream ⟨some first⟩ ⟨some last⟩).map .server ++
    [.item 0 ⟨some first⟩, .turn 0 .moved, .item 0 ⟨some last⟩]

def threeMessagesTrace (first last : EventValue) : List (BotLabel Unit) :=
  [.turn 0 (.started .run), .turn 0 (.published none)] ++
    .subscribe 0 quietCall 0 :: threeMessages first last

/-- The whole history is a run. -/
theorem threeMessages_runs : ∃ first last state,
    (bot feedSerde quietService Android.percentUrl none "com.android.shell" "referer" true).Runs
      (threeMessagesTrace first last) state := by
  obtain ⟨first, last, state, steps, yielded⟩ := historyStream_steps
  have stream : state.shared.hub.subscribers[0]? =
      some ⟨0, 2, [.ok ⟨some first⟩, .ok ⟨some last⟩]⟩ := by
    rw [yielded]
    rfl
  have subscribed := connectedBot_runs.step
    (@BotStep.subscribe _ _ _ _ _ _ _ connectedBot 0 0 0 quietCall subscribedServer rfl rfl
      (.call rfl))
  have served := subscribed.append (server_steps _ steps)
  have received := served.step
    (@BotStep.item _ _ _ _ _ _ _ _ 0 0 ⟨0, 0⟩ _ _ rfl rfl stream rfl)
  have handled := received.step
    (@BotStep.turn _ _ _ _ _ _ _ _ 0 _ _ _ (.handled _ 0))
  have finished := handled.step
    (@BotStep.item _ _ _ _ _ _ _ _ 0 0 ⟨0, 1⟩ _ _ rfl rfl stream rfl)
  simp only [List.append_assoc, List.cons_append, List.nil_append] at finished
  exact ⟨first, last, _, finished⟩

/-- Both events are dispatched. -/
theorem dispatched_threeMessages (first last : EventValue) :
    dispatched 0 (threeMessagesTrace first last) = [first, last] := rfl

/-- Of the three rows two are events of the bot, and it is given them in the order of the rows. -/
theorem bot_dispatches_threeMessages : ∃ first last, ∃ rows : List Taken,
    rows.Sublist (takenRows (((threeMessagesTrace first last).flatMap serverPart).flatMap
      pollerPart)) ∧
    rows.Pairwise (fun left right => left.row.databaseId < right.row.databaseId) ∧
    [first, last] = rows.filterMap fun taken =>
      (deliver feedSerde plainDatabase taken.world taken.fuel taken.row).bind Event.value := by
  obtain ⟨first, last, state, run⟩ := threeMessages_runs
  have dispatches := bot_dispatches run 0
  rw [dispatched_threeMessages] at dispatches
  exact ⟨first, last, dispatches⟩

/-- The stream never lags, so the slot has been given everything sent since it subscribed. -/
theorem connection_complete_threeMessages : ∃ first last,
    dispatched 0 (threeMessages first last) = [first, last] ∧
      [first, last] <+: values (mappedEvents feedSerde quietService
        ((threeMessages first last).flatMap serverPart)) := by
  obtain ⟨first, last, state, run⟩ := threeMessages_runs
  refine ⟨first, last, rfl, (connection_complete run ?_).2 ?_⟩
  · simp [threeMessages]
  · simp [threeMessages, historyStream]

end Arisa.Service
