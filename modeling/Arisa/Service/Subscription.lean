import Arisa.Error
import Arisa.Proto
import Arisa.Semantics.Broadcast
import Arisa.Semantics.Execution
import Arisa.Std.Growing
import Mathlib.Data.List.Basic

/-!
# Event subscriptions

The hub is the broadcast channel of `main.rs` with the streams that
`subscribe_events` returned. Sends, subscriptions and polls of any stream
interleave freely; a poll is one receive of the underlying `BroadcastStream`
followed by the closure given to `filter_map`.
-/

namespace Arisa.Service

open Arisa.Proto Arisa.Semantics Arisa.Semantics.Broadcast

/-- `broadcast::channel(128)`. -/
def capacity : Nat := 128

/-- `BroadcastStreamRecvError`. -/
inductive RecvError where
  | lagged (missed : Nat)
deriving DecidableEq

/-- The item `BroadcastStream` makes of a receive; `none` is a pending stream. -/
def streamItem : Received Event → Option (Except RecvError Event)
  | .value event => some (.ok event)
  | .lagged missed => some (.error (.lagged missed))
  | .empty => none

/-- `|event| event.ok().map(Ok)`. -/
def forward : Except RecvError Event → Option (Except Status Event)
  | .ok event => some (.ok event)
  | .error _ => none

structure Subscriber where
  /-- How many events had been sent when the stream was created. -/
  joined : Nat
  cursor : Nat
  yielded : List (Except Status Event)

def Subscriber.poll (subscriber : Subscriber) (sent : List Event) : Subscriber :=
  let (received, cursor) := receive capacity sent subscriber.cursor
  { subscriber with
    cursor
    yielded := subscriber.yielded ++ ((streamItem received).bind forward).toList }

structure Hub where
  sent : List Event
  subscribers : List Subscriber

inductive HubLabel where
  | send (event : Event)
  | subscribe
  | poll (index cursor : Nat) (received : Received Event)
deriving DecidableEq

inductive HubStep : Hub → HubLabel → Hub → Prop where
  | send (hub : Hub) (event : Event) :
      HubStep hub (.send event) { hub with sent := hub.sent ++ [event] }
  | subscribe (hub : Hub) :
      HubStep hub .subscribe
        { hub with subscribers := hub.subscribers ++ [⟨hub.sent.length, hub.sent.length, []⟩] }
  | poll (hub : Hub) (index : Nat) (subscriber : Subscriber)
      (found : hub.subscribers[index]? = some subscriber) :
      HubStep hub
        (.poll index subscriber.cursor (receive capacity hub.sent subscriber.cursor).1)
        { hub with subscribers := hub.subscribers.set index (subscriber.poll hub.sent) }

/-- The server's hub, from its start. -/
def hub : System Hub HubLabel where
  Initial state := state = ⟨[], []⟩
  Step := HubStep

/-- Whether a step made the stream `index` skip a position of the event sequence. -/
def skips (index position : Nat) : HubLabel → Bool
  | .poll polled cursor (.lagged missed) =>
      polled == index && decide (cursor ≤ position ∧ position < cursor + missed)
  | _ => false

def skipped (trace : List HubLabel) (index position : Nat) : Bool :=
  trace.any (skips index position)

/-- Whether an event was skipped is decided lag by lag. -/
@[simp] theorem skipped_concat (trace : List HubLabel) (label : HubLabel) (index position : Nat) :
    skipped (trace ++ [label]) index position =
      (skipped trace index position || skips index position label) := by
  simp [skipped]

/-- A skipped event lies in the gap of some lag notice. -/
theorem exists_lagged_of_skipped {trace : List HubLabel} {index position : Nat}
    (skip : skipped trace index position = true) :
    ∃ cursor missed, .poll index cursor (.lagged missed) ∈ trace ∧
      cursor ≤ position ∧ position < cursor + missed := by
  obtain ⟨label, member, skip⟩ := List.any_eq_true.mp skip
  match label with
  | .send _ | .subscribe | .poll _ _ (.value _) | .poll _ _ .empty => cases skip
  | .poll polled cursor (.lagged missed) =>
      simp only [skips, Bool.and_eq_true, beq_iff_eq, decide_eq_true_eq] at skip
      obtain ⟨rfl, reached, before⟩ := skip
      exact ⟨cursor, missed, member, reached, before⟩

/-- The events at the positions `first`, ..., `first + count - 1` that were not skipped. -/
def delivered (trace : List HubLabel) (index : Nat) (sent : List Event) (first count : Nat) :
    List Event :=
  ((List.range' first count).filter fun position => !skipped trace index position).filterMap
    fun position => sent[position]?

/-- Delivery depends on the trace and on the events only at the positions it covers. -/
theorem delivered_congr {trace trace' : List HubLabel} {index : Nat} {sent sent' : List Event}
    {first count : Nat}
    (agree : ∀ position, first ≤ position → position < first + count →
      skipped trace index position = skipped trace' index position ∧
        sent[position]? = sent'[position]?) :
    delivered trace index sent first count = delivered trace' index sent' first count := by
  unfold delivered
  have sameFilter : (List.range' first count).filter (fun p => !skipped trace index p) =
      (List.range' first count).filter fun p => !skipped trace' index p := by
    apply List.filter_congr
    intro position member
    obtain ⟨low, high⟩ := List.mem_range'_1.mp member
    rw [(agree position low high).1]
  rw [sameFilter]
  apply List.filterMap_congr
  intro position member
  obtain ⟨low, high⟩ := List.mem_range'_1.mp (List.mem_of_mem_filter member)
  exact (agree position low high).2

/-- Positions of one more stretch are delivered after the earlier ones. -/
theorem delivered_add (trace : List HubLabel) (index : Nat) (sent : List Event)
    (first count more : Nat) :
    delivered trace index sent first (count + more) =
      delivered trace index sent first count ++
        delivered trace index sent (first + count) more := by
  simp only [delivered, ← List.filterMap_append, ← List.filter_append, List.range'_append_1]

/-- A stretch skipped as a whole delivers nothing. -/
theorem delivered_skipped {trace : List HubLabel} {index : Nat} (sent : List Event)
    {first count : Nat}
    (gap : ∀ position, first ≤ position → position < first + count →
      skipped trace index position = true) :
    delivered trace index sent first count = [] := by
  have nothing : (List.range' first count).filter (fun p => !skipped trace index p) = [] := by
    rw [List.filter_eq_nil_iff]
    intro position member
    obtain ⟨low, high⟩ := List.mem_range'_1.mp member
    simp [gap position low high]
  rw [delivered, nothing, List.filterMap_nil]

/-- A stretch of which nothing was skipped is delivered as it was sent. -/
theorem delivered_all {trace : List HubLabel} {index : Nat} {sent : List Event}
    {first count : Nat} (within : first + count ≤ sent.length)
    (kept : ∀ position, first ≤ position → position < first + count →
      skipped trace index position = false) :
    delivered trace index sent first count = (sent.drop first).take count := by
  induction count generalizing first with
  | zero => simp [delivered]
  | succ count ih =>
      have here : skipped trace index first = false := kept first (Nat.le_refl _) (by omega)
      have event : sent[first]? = some sent[first] := List.getElem?_eq_getElem (by omega)
      have rest := @ih (first + 1) (by omega)
        fun position low high => kept position (by omega) (by omega)
      have one : delivered trace index sent first 1 = [sent[first]] := by
        simp [delivered, here, event]
      rw [Nat.add_comm count 1, delivered_add, one, rest,
        List.drop_eq_getElem_cons (by omega : first < sent.length), Nat.add_comm 1 count,
        List.take_succ_cons, List.singleton_append]

/-- What a stream has yielded, and how far it has come. -/
structure Delivered (trace : List HubLabel) (index : Nat) (sent : List Event)
    (subscriber : Subscriber) : Prop where
  joined_le : subscriber.joined ≤ subscriber.cursor
  cursor_le : subscriber.cursor ≤ sent.length
  skips_le : ∀ cursor missed, .poll index cursor (.lagged missed) ∈ trace →
    cursor + missed ≤ subscriber.cursor
  yielded_eq : subscriber.yielded =
    (delivered trace index sent subscriber.joined
      (subscriber.cursor - subscriber.joined)).map .ok

/-- No lag notice reaches beyond the cursor. -/
theorem Delivered.not_skipped {trace : List HubLabel} {index : Nat} {sent : List Event}
    {subscriber : Subscriber} (state : Delivered trace index sent subscriber) {position : Nat}
    (ahead : subscriber.cursor ≤ position) : skipped trace index position = false := by
  rw [← Bool.not_eq_true]
  intro skip
  obtain ⟨cursor, missed, lagged, _, before⟩ := exists_lagged_of_skipped skip
  have bound := state.skips_le cursor missed lagged
  omega

/-- A step of anyone else leaves a stream's account as it was. -/
theorem Delivered.frame {trace : List HubLabel} {index : Nat} {sent : List Event}
    {subscriber : Subscriber} (state : Delivered trace index sent subscriber)
    (label : HubLabel) (other : ∀ cursor received, label ≠ .poll index cursor received)
    (more : List Event) :
    Delivered (trace ++ [label]) index (sent ++ more) subscriber where
  joined_le := state.joined_le
  cursor_le := by
    rw [List.length_append]
    exact Nat.le_add_right_of_le state.cursor_le
  skips_le := by
    intro cursor missed member
    rcases List.mem_append.mp member with earlier | final
    · exact state.skips_le cursor missed earlier
    · exact absurd (List.mem_singleton.mp final).symm (other cursor _)
  yielded_eq := by
    rw [state.yielded_eq]
    refine congrArg (List.map Except.ok) (delivered_congr ?_)
    intro position _ high
    have joined := state.joined_le
    have length := state.cursor_le
    have same : skips index position label = false := by
      match label with
      | .send _ | .subscribe | .poll _ _ (.value _) | .poll _ _ .empty => rfl
      | .poll polled cursor (.lagged missed) =>
          have different : polled ≠ index := by
            rintro rfl
            exact other cursor _ rfl
          simp [skips, different]
    rw [skipped_concat, same, Bool.or_false]
    exact ⟨rfl, (List.getElem?_append_left (by omega)).symm⟩

/-- A lag notice: `filter_map` drops it, and the positions it covers are gone. -/
theorem Delivered.lagged {trace : List HubLabel} {index : Nat} {sent : List Event}
    {subscriber : Subscriber} (state : Delivered trace index sent subscriber) {missed : Nat}
    (within : subscriber.cursor + missed ≤ sent.length) :
    Delivered (trace ++ [.poll index subscriber.cursor (.lagged missed)]) index sent
      { subscriber with cursor := subscriber.cursor + missed } := by
  have joined := state.joined_le
  refine ⟨Nat.le_add_right_of_le joined, within, ?_, ?_⟩
  · intro cursor count member
    rcases List.mem_append.mp member with earlier | final
    · exact Nat.le_add_right_of_le (state.skips_le cursor count earlier)
    · cases List.mem_singleton.mp final
      exact Nat.le_refl _
  · have stretch : subscriber.cursor + missed - subscriber.joined =
        subscriber.cursor - subscriber.joined + missed := by omega
    have start : subscriber.joined + (subscriber.cursor - subscriber.joined) =
        subscriber.cursor := by omega
    have gap : delivered (trace ++ [.poll index subscriber.cursor (.lagged missed)]) index sent
        subscriber.cursor missed = [] := by
      apply delivered_skipped
      intro position low high
      rw [skipped_concat]
      simp [skips, low, high]
    simp only [stretch, delivered_add, start, gap, List.append_nil, state.yielded_eq]
    refine congrArg (List.map Except.ok) (delivered_congr ?_)
    intro position _ high
    rw [start] at high
    have outside : skips index position
        (.poll index subscriber.cursor (.lagged missed)) = false := by
      simp only [skips, Bool.and_eq_false_imp, decide_eq_false_iff_not]
      omega
    rw [skipped_concat, outside, Bool.or_false]
    exact ⟨rfl, rfl⟩

/-- A receive that is no lag notice skips nothing. -/
theorem skipped_of_not_lagged {trace : List HubLabel} {index cursor : Nat}
    {received : Received Event} (noLag : ∀ missed, received ≠ .lagged missed) (position : Nat) :
    skipped (trace ++ [.poll index cursor received]) index position =
      skipped trace index position := by
  rw [skipped_concat]
  cases received with
  | value event => exact Bool.or_false _
  | empty => exact Bool.or_false _
  | lagged missed => exact absurd rfl (noLag missed)

/-- After a poll that does not lag no lag notice reaches beyond the cursor either. -/
theorem Delivered.skips_of_not_lagged {trace : List HubLabel} {index : Nat} {sent : List Event}
    {subscriber : Subscriber} (state : Delivered trace index sent subscriber)
    {received : Received Event} (noLag : ∀ missed, received ≠ .lagged missed)
    {cursor missed : Nat}
    (member : .poll index cursor (.lagged missed) ∈
      trace ++ [.poll index subscriber.cursor received]) : cursor + missed ≤ subscriber.cursor := by
  rcases List.mem_append.mp member with earlier | final
  · exact state.skips_le cursor missed earlier
  · cases List.mem_singleton.mp final
    exact absurd rfl (noLag missed)

/-- A value: the next position is delivered. -/
theorem Delivered.value {trace : List HubLabel} {index : Nat} {sent : List Event}
    {subscriber : Subscriber} (state : Delivered trace index sent subscriber) {event : Event}
    (kept : sent[subscriber.cursor]? = some event) :
    Delivered (trace ++ [.poll index subscriber.cursor (.value event)]) index sent
      { subscriber with
        cursor := subscriber.cursor + 1, yielded := subscriber.yielded ++ [.ok event] } := by
  have joined := state.joined_le
  have noLag : ∀ missed, Received.value event ≠ .lagged missed := fun _ => nofun
  refine ⟨Nat.le_add_right_of_le joined, (List.getElem?_eq_some_iff.mp kept).1, ?_, ?_⟩
  · intro cursor missed member
    exact Nat.le_add_right_of_le (state.skips_of_not_lagged noLag member)
  · have stretch : subscriber.cursor + 1 - subscriber.joined =
        subscriber.cursor - subscriber.joined + 1 := by omega
    have start : subscriber.joined + (subscriber.cursor - subscriber.joined) =
        subscriber.cursor := by omega
    have next : delivered (trace ++ [.poll index subscriber.cursor (.value event)]) index sent
        subscriber.cursor 1 = [event] := by
      have here := state.not_skipped (Nat.le_refl subscriber.cursor)
      simp [delivered, skipped_of_not_lagged noLag, here, kept]
    simp only [stretch, delivered_add, start, next, List.map_append, state.yielded_eq]
    rw [delivered_congr fun position _ _ => ⟨(skipped_of_not_lagged noLag position).symm, rfl⟩]
    rfl

/-- Nothing new: the account stays. -/
theorem Delivered.empty {trace : List HubLabel} {index : Nat} {sent : List Event}
    {subscriber : Subscriber} (state : Delivered trace index sent subscriber) :
    Delivered (trace ++ [.poll index subscriber.cursor .empty]) index sent subscriber := by
  have noLag : ∀ missed, (Received.empty : Received Event) ≠ .lagged missed := fun _ => nofun
  refine ⟨state.joined_le, state.cursor_le, ?_, ?_⟩
  · intro cursor missed member
    exact state.skips_of_not_lagged noLag member
  · rw [state.yielded_eq]
    rw [delivered_congr fun position _ _ => ⟨(skipped_of_not_lagged noLag position).symm, rfl⟩]

/-- A poll of the stream itself extends its account by what the receive returned. -/
theorem Delivered.poll {trace : List HubLabel} {index : Nat} {sent : List Event}
    {subscriber : Subscriber} (state : Delivered trace index sent subscriber) :
    Delivered
      (trace ++ [.poll index subscriber.cursor (receive capacity sent subscriber.cursor).1])
      index sent (subscriber.poll sent) := by
  rcases receive_cases capacity sent subscriber.cursor with
    ⟨missed, positive, behind, returned⟩ | ⟨event, kept, returned⟩ | ⟨_, returned⟩
  · have after : subscriber.poll sent =
        { subscriber with cursor := subscriber.cursor + missed } := by
      simp [Subscriber.poll, returned, streamItem, forward]
    rw [after, returned]
    exact state.lagged (by omega)
  · have after : subscriber.poll sent =
        { subscriber with
          cursor := subscriber.cursor + 1, yielded := subscriber.yielded ++ [.ok event] } := by
      simp [Subscriber.poll, returned, streamItem, forward]
    rw [after, returned]
    exact state.value kept
  · have after : subscriber.poll sent = subscriber := by
      simp [Subscriber.poll, returned, streamItem]
    rw [after, returned]
    exact state.empty

/-- What holds of the hub after every run: each stream's account is exact, and
only existing streams were polled. -/
structure HubAccount (trace : List HubLabel) (state : Hub) : Prop where
  delivered : ∀ index subscriber, state.subscribers[index]? = some subscriber →
    Delivered trace index state.sent subscriber
  polled : ∀ index cursor received, .poll index cursor received ∈ trace →
    index < state.subscribers.length

/-- A sent event is ahead of every subscriber. -/
theorem HubAccount.send {trace : List HubLabel} {state : Hub} (account : HubAccount trace state)
    (event : Event) :
    HubAccount (trace ++ [.send event]) { state with sent := state.sent ++ [event] } := by
  refine ⟨?_, ?_⟩
  · intro index subscriber found
    exact (account.delivered index subscriber found).frame (.send event) (by simp) [event]
  · intro index cursor received member
    exact account.polled index cursor received (by simpa using member)

/-- A new subscriber begins behind all that was sent. -/
theorem HubAccount.subscribe {trace : List HubLabel} {state : Hub}
    (account : HubAccount trace state) :
    HubAccount (trace ++ [.subscribe])
      { state with
        subscribers := state.subscribers ++ [⟨state.sent.length, state.sent.length, []⟩] } := by
  refine ⟨?_, ?_⟩
  · intro index subscriber found
    rcases Std.getElem?_concat_eq_some.mp found with earlier | ⟨rfl, rfl⟩
    · simpa using (account.delivered index subscriber earlier).frame .subscribe (by simp) []
    · refine ⟨Nat.le_refl _, Nat.le_refl _, ?_, by simp [Service.delivered]⟩
      intro cursor missed member
      have earlier := account.polled _ cursor _ (by simpa using member)
      omega
  · intro index cursor received member
    have earlier := account.polled index cursor received (by simpa using member)
    rw [List.length_append]
    exact Nat.lt_add_right _ earlier

/-- A poll yields the next event, skips what the buffer has lost, or finds nothing. -/
theorem HubAccount.poll {trace : List HubLabel} {state : Hub} (account : HubAccount trace state)
    {polled : Nat} {subscriber : Subscriber}
    (found : state.subscribers[polled]? = some subscriber) :
    HubAccount
      (trace ++ [.poll polled subscriber.cursor
        (receive capacity state.sent subscriber.cursor).1])
      { state with subscribers := state.subscribers.set polled (subscriber.poll state.sent) } := by
  have exists_polled : polled < state.subscribers.length :=
    (List.getElem?_eq_some_iff.mp found).1
  refine ⟨?_, ?_⟩
  · intro index other entry
    by_cases same : polled = index
    · subst same
      rw [List.getElem?_set_self exists_polled, Option.some.injEq] at entry
      subst entry
      exact (account.delivered polled subscriber found).poll
    · rw [List.getElem?_set_ne same] at entry
      have quiet : ∀ cursor received, HubLabel.poll polled subscriber.cursor
          (receive capacity state.sent subscriber.cursor).1 ≠ .poll index cursor received := by
        intro cursor received equal
        cases equal
        exact same rfl
      simpa using (account.delivered index other entry).frame _ quiet []
  · intro index cursor received member
    rw [List.length_set]
    rcases List.mem_append.mp member with earlier | final
    · exact account.polled index cursor received earlier
    · cases List.mem_singleton.mp final
      exact exists_polled

/-- Every step keeps the account of the channel. -/
theorem HubAccount.preserved {trace : List HubLabel} {state next : Hub} {label : HubLabel}
    (account : HubAccount trace state) (transition : HubStep state label next) :
    HubAccount (trace ++ [label]) next := by
  cases transition with
  | send event => exact account.send event
  | subscribe => exact account.subscribe
  | poll polled subscriber found => exact account.poll found

/-- So in every run each subscriber was yielded what was sent since it joined, less what its lag
notices skip. -/
theorem hub_account {trace : List HubLabel} {state : Hub} (run : hub.Runs trace state) :
    HubAccount trace state := by
  refine System.Runs.invariant ?_ (fun _ _ _ _ account step => account.preserved step) run
  rintro _ rfl
  exact ⟨by simp, by simp⟩

/-- What a poll step says of the state it is taken in. -/
theorem HubStep.of_poll {state next : Hub} {index cursor : Nat} {received : Received Event}
    (transition : HubStep state (.poll index cursor received) next) :
    ∃ subscriber, state.subscribers[index]? = some subscriber ∧ subscriber.cursor = cursor ∧
      (receive capacity state.sent cursor).1 = received := by
  generalize label : HubLabel.poll index cursor received = taken at transition
  cases transition with
  | send | subscribe => cases label
  | poll polled subscriber found =>
      obtain ⟨sameIndex, sameCursor, sameReceived⟩ := HubLabel.poll.inj label
      exact ⟨subscriber, sameIndex ▸ found, sameCursor.symm,
        by rw [sameCursor]; exact sameReceived.symm⟩

/-- A poll in a trace was a receive at the stream's cursor; it returned a lag
notice exactly when the stream was more than `capacity` events behind, and the
notice covers exactly the events that were no longer kept. -/
theorem polled_of_mem {trace : List HubLabel} {state : Hub} (run : hub.Runs trace state)
    {index cursor : Nat} {received : Received Event}
    (polled : .poll index cursor received ∈ trace) :
    ∃ before earlier, hub.Runs before earlier ∧
      before ++ [.poll index cursor received] <+: trace ∧
      (earlier.subscribers[index]?).map Subscriber.cursor = some cursor ∧
      ((∃ missed, received = .lagged missed) ↔ cursor + capacity < earlier.sent.length) ∧
      ∀ missed, received = .lagged missed → cursor + missed + capacity = earlier.sent.length := by
  obtain ⟨before, earlier, next, runs, transition, within⟩ := run.of_mem polled
  obtain ⟨subscriber, found, atCursor, rfl⟩ := HubStep.of_poll transition
  refine ⟨before, earlier, runs, within, by rw [found, ← atCursor]; rfl, ?_⟩
  rcases receive_cases capacity earlier.sent cursor with
    ⟨count, positive, behind, returned⟩ | ⟨event, kept, returned⟩ | ⟨kept, returned⟩
  · rw [returned]
    refine ⟨⟨fun _ => by omega, fun _ => ⟨count, rfl⟩⟩, ?_⟩
    intro missed same
    cases same
    exact behind
  · rw [returned]
    refine ⟨⟨fun lag => ?_, fun behind => ?_⟩, fun missed same => by cases same⟩
    · obtain ⟨missed, same⟩ := lag
      cases same
    · rw [receive, if_pos (by unfold oldest; omega)] at returned
      cases returned
  · rw [returned]
    have length := List.getElem?_eq_none_iff.mp kept
    refine ⟨⟨fun lag => ?_, fun behind => by omega⟩, fun missed same => by cases same⟩
    obtain ⟨missed, same⟩ := lag
    cases same

/-- Every stream yields, in order and once each, the events sent since its
subscription up to its cursor, except those it was told nothing about: at a poll
that finds it more than 128 events behind, and only then, the events older than
the last 128 are skipped without an item. Until that happens it yields a prefix. -/
theorem subscription_exact {trace : List HubLabel} {state : Hub} (run : hub.Runs trace state)
    {index : Nat} {subscriber : Subscriber}
    (found : state.subscribers[index]? = some subscriber) :
    subscriber.joined ≤ subscriber.cursor ∧ subscriber.cursor ≤ state.sent.length ∧
    subscriber.yielded = (delivered trace index state.sent subscriber.joined
      (subscriber.cursor - subscriber.joined)).map .ok ∧
    (∀ cursor received, .poll index cursor received ∈ trace →
      ∃ before earlier, hub.Runs before earlier ∧
        before ++ [.poll index cursor received] <+: trace ∧
        (earlier.subscribers[index]?).map Subscriber.cursor = some cursor ∧
        ((∃ missed, received = .lagged missed) ↔ cursor + 128 < earlier.sent.length) ∧
        ∀ missed, received = .lagged missed → cursor + missed + 128 = earlier.sent.length) ∧
    ((∀ cursor missed, .poll index cursor (.lagged missed) ∉ trace) →
      subscriber.yielded <+: (state.sent.drop subscriber.joined).map .ok) := by
  have account := (hub_account run).delivered index subscriber found
  have joined := account.joined_le
  have length := account.cursor_le
  refine ⟨joined, length, account.yielded_eq, fun cursor received => polled_of_mem run, ?_⟩
  intro never
  have kept : ∀ position, skipped trace index position = false := by
    intro position
    rw [← Bool.not_eq_true]
    intro skip
    obtain ⟨cursor, missed, lagged, _⟩ := exists_lagged_of_skipped skip
    exact never cursor missed lagged
  rw [account.yielded_eq, delivered_all (by omega) fun position _ _ => kept position]
  exact (List.take_prefix _ _).map _

/-- A channel message with nothing but an id. -/
def plainEvent (id : Int64) : Event :=
  ⟨some (.message ⟨id, none, 1, 1, none, none, "", "{}", []⟩)⟩

/-- One event, and then as many as the channel keeps. -/
def burst : List Event := plainEvent 1 :: List.replicate 128 (plainEvent 2)

def burstTrace : List HubLabel :=
  .subscribe :: burst.map .send ++ [.poll 0 0 (.lagged 1), .poll 0 1 (.value (plainEvent 2))]

/-- Sending may go on at any time. -/
theorem sends_run {trace : List HubLabel} {state : Hub} (run : hub.Runs trace state)
    (events : List Event) :
    hub.Runs (trace ++ events.map .send) { state with sent := state.sent ++ events } := by
  induction events generalizing trace state with
  | nil => simpa using run
  | cons event rest ih => simpa using ih (run.step (.send state event))

/-- A stream that is first polled after the burst. -/
theorem burst_run : hub.Runs burstTrace ⟨burst, [⟨0, 2, [.ok (plainEvent 2)]⟩]⟩ := by
  have subscribed : hub.Runs [.subscribe] ⟨[], [⟨0, 0, []⟩]⟩ :=
    (System.Runs.initial rfl).step (HubStep.subscribe ⟨[], []⟩)
  have sent := sends_run subscribed burst
  have lagged := sent.step (.poll _ 0 ⟨0, 0, []⟩ rfl)
  have polled := lagged.step (.poll _ 0 ⟨0, 1, []⟩ (by
    simp [Subscriber.poll, receive, oldest, burst, capacity, streamItem, forward]))
  simpa [Subscriber.poll, receive, oldest, burst, capacity, streamItem, forward, burstTrace]
    using polled

/-- The stream of the burst: its account without the first event. -/
theorem subscription_exact_burst :
    let subscriber : Subscriber := ⟨0, 2, [.ok (plainEvent 2)]⟩
    subscriber.yielded = (delivered burstTrace 0 burst 0 2).map .ok :=
  (@subscription_exact _ _ burst_run 0 _ rfl).2.2.1

/-- A stream does not always yield a prefix of the events sent since its
subscription up to its first error. -/
theorem subscription_skips : ¬ ∀ (trace : List HubLabel) (state : Hub), hub.Runs trace state →
    ∀ (index : Nat) (subscriber : Subscriber), state.subscribers[index]? = some subscriber →
      subscriber.yielded.takeWhile Except.isOk <+:
        (state.sent.drop subscriber.joined).map .ok := by
  intro claimed
  have gapless := claimed _ _ burst_run 0 _ rfl
  have yielded : [Except.ok (plainEvent 2)].takeWhile (@Except.isOk Status Event) =
    [.ok (plainEvent 2)] := rfl
  rw [yielded, List.drop_zero, burst, List.map_cons, List.cons_prefix_cons] at gapless
  exact absurd (Except.ok.inj gapless.1) (by decide)

end Arisa.Service
