import Arisa.Client.Connection

/-!
# Who owns a channel

An open channel should be the one in `_channel` or belong to the `connect` that
is still checking it. A turn moves a channel between these owners or shuts it,
with one exception: a publication over another channel leaves that one open and
without an owner, for good.
-/

namespace Arisa.Client

open Arisa.Proto Arisa.Semantics BotClient

/-- The channel a task is checking. -/
def Task.pending : Task → Option Nat
  | .connecting _ channel => some channel
  | _ => none

/-- The channel a task is checking or whose stub it uses. -/
def Task.holds : Task → Option Nat
  | .connecting _ channel => some channel
  | .calling stub | .streaming stub | .dispatching stub => some stub
  | .idle | .sleeping => none

/-- A channel under check is one that the task holds. -/
theorem Task.holds_of_pending {task : Task} {channel : Nat}
    (pending : task.pending = some channel) : task.holds = some channel := by
  cases task with
  | connecting caller checked => exact pending
  | _ => cases pending

/-- The fields of the client agree, and the channel in `_channel` is open. -/
structure Fits (client : BotClient) : Prop where
  stub : client.stub = client.channel
  current : ∀ channel, client.channel = some channel → client.IsOpen channel
  shut : ∀ channel, channel ∈ client.shut → channel < client.created

/-- A task holds a channel that exists; one it is checking is open and unpublished. -/
structure Own (client : BotClient) (task : Task) : Prop where
  held : ∀ channel, task.holds = some channel → channel < client.created
  pending : ∀ channel, task.pending = some channel →
    client.IsOpen channel ∧ client.channel ≠ some channel

/-- A channel under check is held by one task only. -/
def Apart (task other : Task) : Prop :=
  ∀ channel, (task.pending = some channel → other.holds ≠ some channel) ∧
    (other.pending = some channel → task.holds ≠ some channel)

/-- Which of two tasks is named first does not matter. -/
theorem Apart.symm (task other : Task) (apart : Apart task other) : Apart other task :=
  fun channel => (apart channel).symm

/-- A task that holds nothing has nothing to answer for. -/
theorem Own.of_holds_none {client : BotClient} {task : Task} (nothing : task.holds = none) :
    Own client task where
  held := by
    intro channel held
    rw [nothing] at held
    cases held
  pending := by
    intro channel pending
    rw [Task.holds_of_pending pending] at nothing
    cases nothing

/-- A task that holds nothing shares no channel under check with another. -/
theorem Apart.of_holds_none {task other : Task} (nothing : task.holds = none) :
    Apart task other := by
  intro channel
  refine ⟨fun pending => ?_, fun _ held => ?_⟩
  · rw [Task.holds_of_pending pending] at nothing
    cases nothing
  · rw [nothing] at held
    cases held

/-- A turn keeps the account: the client's, the task's own, and that of any other task. -/
def Preserves (client : BotClient) (task : Task) (next : BotClient) (after : Task) : Prop :=
  Fits client → Own client task →
    Fits next ∧ Own next after ∧
      ∀ other, Own client other → Apart task other → Own next other ∧ Apart after other

/-- Two changes that keep the account keep it one after the other. -/
theorem Preserves.trans {client middle next : BotClient} {task between after : Task}
    (first : Preserves client task middle between) (second : Preserves middle between next after) :
    Preserves client task next after := by
  intro fits own
  obtain ⟨fits, own, undisturbed⟩ := first fits own
  obtain ⟨fits, own, undisturbed'⟩ := second fits own
  refine ⟨fits, own, fun other owns apart => ?_⟩
  obtain ⟨owns, apart⟩ := undisturbed other owns apart
  exact undisturbed' other owns apart

/-- An open channel with neither `_channel` nor the task as its owner. -/
def Loose (client : BotClient) (task : Task) (channel : Nat) : Prop :=
  client.IsOpen channel ∧ client.channel ≠ some channel ∧ task.pending ≠ some channel

/-- What a turn without a publication does to the channels. -/
inductive Effect : BotClient → Task → BotClient → Task → Prop where
  /-- Only `_closed` changes; a stub the task comes to hold is the client's. -/
  | kept {client : BotClient} {task after : Task} (closed : Bool) (settled : task.pending = none)
      (settled' : after.pending = none)
      (held : ∀ channel, after.holds = some channel →
        task.holds = some channel ∨ client.stub = some channel) :
      Effect client task { client with closed } after
  | opened {client : BotClient} {task : Task} (caller : Caller) (settled : task.pending = none)
      (empty : client.channel = none) :
      Effect client task { client with closed := false, created := client.created + 1 }
        (.connecting caller client.created)
  | disconnected {client : BotClient} {task after : Task} (closed : Bool)
      (settled : task.pending = none) (nothing : after.holds = none) :
      Effect client task { client with closed }.disconnect after
  | refused (client : BotClient) (caller : Caller) (channel : Nat) :
      Effect client (.connecting caller channel) (client.shutChannel channel) .idle
  | trans {client middle next : BotClient} {task between after : Task}
      (first : Effect client task middle between) (second : Effect middle between next after) :
      Effect client task next after

/-- `disconnect` shuts the current channel, if there is one, and no other. -/
theorem disconnect_shut (client : BotClient) (channel : Nat) :
    channel ∈ client.disconnect.shut ↔
      channel ∈ client.shut ∨ client.channel = some channel := by
  unfold disconnect
  cases current : client.channel with
  | none => simp
  | some shut =>
      simp only [shutChannel, List.mem_cons, Option.some.injEq]
      rw [Or.comm, eq_comm (a := channel)]

/-- After a disconnect the client has no channel. -/
@[simp] theorem disconnect_channel (client : BotClient) : client.disconnect.channel = none := by
  unfold disconnect
  cases client.channel <;> rfl

/-- After a disconnect it has no stub. -/
@[simp] theorem disconnect_stub (client : BotClient) : client.disconnect.stub = none := by
  unfold disconnect
  cases client.channel <;> rfl

/-- A disconnect makes no new channel. -/
@[simp] theorem disconnect_created (client : BotClient) :
    client.disconnect.created = client.created := by
  unfold disconnect
  cases client.channel <;> rfl

/-- A disconnect leaves open whether the client is closed. -/
@[simp] theorem disconnect_closed (client : BotClient) :
    client.disconnect.closed = client.closed := by
  unfold disconnect
  cases client.channel <;> rfl

/-- Every channel but the current one is as open as before. -/
theorem disconnect_isOpen (client : BotClient) (channel : Nat) :
    client.disconnect.IsOpen channel ↔
      client.IsOpen channel ∧ client.channel ≠ some channel := by
  unfold BotClient.IsOpen
  rw [disconnect_shut, disconnect_created, not_or, and_assoc]

/-- Shutting a channel closes that one only. -/
theorem shutChannel_isOpen (client : BotClient) (shut channel : Nat) :
    (client.shutChannel shut).IsOpen channel ↔ client.IsOpen channel ∧ channel ≠ shut := by
  simp only [BotClient.IsOpen, shutChannel, List.mem_cons, not_or]
  rw [And.comm (a := channel ≠ shut), and_assoc]

/-- A caller that got its stub is checking nothing. -/
theorem proceed_pending (caller : Caller) (stub : Option Nat) :
    (proceed caller stub).pending = none := by
  cases caller <;> cases stub <;> rfl

/-- It holds the stub it was given, and only a call or a stream holds one. -/
theorem proceed_holds {caller : Caller} {stub : Option Nat} {channel : Nat}
    (held : (proceed caller stub).holds = some channel) : stub = some channel := by
  cases caller <;> cases stub <;> first | exact held | cases held

/-! ## The effect of each function of the source -/

/-- A `connect` that finds a channel goes straight on with the stub beside it. -/
theorem connect_of_some (client : BotClient) (caller : Caller) {channel : Nat}
    (current : client.channel = some channel) :
    client.connect caller = (client, proceed caller client.stub) := by
  simp only [connect, current]

/-- One that finds none makes a channel, and checks it before it stores it. -/
theorem connect_of_none (client : BotClient) (caller : Caller) (empty : client.channel = none) :
    client.connect caller =
      ({ client with closed := false, created := client.created + 1 },
        .connecting caller client.created) := by
  simp only [connect, empty]

/-- Either way `connect` has one of the effects, with `_closed` already set as its caller wants
it. -/
theorem connect_effect (client : BotClient) (closed : Bool) (caller : Caller) {task : Task}
    (settled : task.pending = none) :
    Effect client task (connect { client with closed } caller).1
      (connect { client with closed } caller).2 := by
  rcases Option.eq_none_or_eq_some client.channel with empty | ⟨channel, current⟩
  · rw [connect_of_none { client with closed } caller empty]
    exact .opened caller settled empty
  · rw [connect_of_some { client with closed } caller current]
    exact .kept closed settled (proceed_pending ..) fun _ held => .inr (proceed_holds held)

/-- The loop of `run` ends when the client is closed, and else connects for one more stream. -/
theorem iterate_effect (client : BotClient) (closed : Bool) {task : Task}
    (settled : task.pending = none) :
    Effect client task (iterate { client with closed }).1 (iterate { client with closed }).2 := by
  unfold iterate
  cases closed with
  | true => exact .kept true settled rfl nofun
  | false => exact connect_effect client false .run settled

/-- So does a call that a task begins with. -/
theorem start_effect (client : BotClient) (caller : Caller) :
    Effect client .idle (client.start caller).1 (client.start caller).2 := by
  cases caller with
  | connect => exact connect_effect client client.closed .connect rfl
  | call => exact connect_effect client client.closed .call rfl
  | run => exact iterate_effect client false rfl

/-- After a stream the loop ends with the client as it is, or disconnects before it sleeps. -/
theorem afterOnce_effect (client : BotClient) (outcome : Option Failure) {task : Task}
    (settled : task.pending = none) :
    Effect client task (client.afterOnce outcome).1 (client.afterOnce outcome).2 := by
  have ends : Effect client task client .idle := .kept client.closed settled rfl nofun
  have again : Effect client task client.disconnect .sleeping :=
    .disconnected client.closed settled rfl
  cases outcome with
  | some failure =>
      simp only [afterOnce]
      split_ifs <;> assumption
  | none =>
      simp only [afterOnce]
      split_ifs <;> assumption

/-- A failed health check shuts the channel that was checked, and no other. -/
theorem refuse_effect (client : BotClient) (caller : Caller) (channel : Nat) (failure : Failure) :
    Effect client (.connecting caller channel) (client.refuse caller channel failure).1
      (client.refuse caller channel failure).2 := by
  cases caller with
  | connect => exact .refused client .connect channel
  | call => exact .refused client .call channel
  | run => exact (Effect.refused client .run channel).trans (afterOnce_effect _ _ rfl)

/-- An item is dispatched with the client as it is; all else ends the stream. -/
theorem receive_effect (client : BotClient) (stub : Nat) (answer : Answer) :
    Effect client (.streaming stub) (client.receive stub answer).2.1
      (client.receive stub answer).2.2 := by
  cases answer with
  | item event =>
      cases unwrapped : event.value with
      | some value =>
          simp only [receive, unwrapped]
          exact .kept client.closed rfl rfl fun _ held => .inl held
      | none =>
          simp only [receive, unwrapped]
          exact afterOnce_effect client _ rfl
  | ended => exact afterOnce_effect client _ rfl
  | failed failure => exact afterOnce_effect client _ rfl

/-- Only an item of the stream is dispatched. -/
theorem receive_label (client : BotClient) (stub : Nat) (answer : Answer) :
    (client.receive stub answer).1 = .moved ∨
      ∃ event value, answer = .item event ∧ (client.receive stub answer).1 = .dispatched value := by
  cases answer with
  | item event =>
      cases unwrapped : event.value with
      | some value => exact .inr ⟨event, value, rfl, by simp only [receive, unwrapped]⟩
      | none => exact .inl (by simp only [receive, unwrapped])
  | ended | failed => exact .inl rfl

/-- A turn publishes the channel it was checking, or has one of the effects above. -/
theorem Turn.cases_effect {transport : Transport} {client next : BotClient} {task after : Task}
    {label : Label} (turn : Turn transport client task label next after) :
    (∃ caller channel, task = .connecting caller channel ∧ label = .published client.channel ∧
      next = client.publish channel ∧ after = proceed caller (some channel)) ∨
    (∀ previous, label ≠ .published previous) ∧ Effect client task next after := by
  cases turn with
  | started caller => exact .inr ⟨nofun, start_effect client caller⟩
  | published caller channel => exact .inl ⟨caller, channel, rfl, rfl, rfl, rfl⟩
  | refused caller channel failure =>
      exact .inr ⟨nofun, refuse_effect client caller channel failure⟩
  | received stub answer =>
      refine .inr ⟨fun previous => ?_, receive_effect client stub answer⟩
      rcases receive_label client stub answer with moved | ⟨_, value, _, dispatched⟩
      · rw [moved]
        nofun
      · rw [dispatched]
        nofun
  | handled stub => exact .inr ⟨nofun, .kept client.closed rfl rfl fun _ held => .inl held⟩
  | raised stub failure => exact .inr ⟨nofun, afterOnce_effect client _ rfl⟩
  | woken => exact .inr ⟨nofun, iterate_effect client client.closed rfl⟩
  | ended _ elsewhere =>
      have settled : task.pending = none := by
        cases task with
        | connecting caller channel => exact absurd rfl (elsewhere caller channel)
        | _ => rfl
      exact .inr ⟨nofun, .kept client.closed settled rfl nofun⟩
  | closed => exact .inr ⟨nofun, .disconnected true rfl rfl⟩

/-! ## The account -/

/-- A turn that changes only `_closed` keeps the account if the task takes over no stub but the
client's. -/
theorem kept_preserves {client : BotClient} {task after : Task} (closed : Bool)
    (settled : after.pending = none)
    (held : ∀ channel, after.holds = some channel →
      task.holds = some channel ∨ client.stub = some channel) :
    Preserves client task { client with closed } after := by
  intro fits own
  refine ⟨⟨fits.stub, fits.current, fits.shut⟩, ⟨?_, ?_⟩, fun other owns apart => ?_⟩
  · intro channel holds
    rcases held channel holds with earlier | stub
    · exact own.held channel earlier
    · exact (fits.current channel (fits.stub ▸ stub)).1
  · intro channel pending
    rw [settled] at pending
    cases pending
  · refine ⟨⟨owns.held, owns.pending⟩, fun channel => ⟨fun pending => ?_, ?_⟩⟩
    · rw [settled] at pending
      cases pending
    · intro pending holds
      rcases held channel holds with earlier | stub
      · exact (apart channel).2 pending earlier
      · exact (owns.pending channel pending).2 (fits.stub ▸ stub)

/-- A new channel is open and unpublished, and no other task can hold it yet. -/
theorem opened_preserves {client : BotClient} {task : Task} (caller : Caller)
    (empty : client.channel = none) :
    Preserves client task { client with closed := false, created := client.created + 1 }
      (.connecting caller client.created) := by
  intro fits own
  have fresh : client.created ∉ client.shut := fun member =>
    Nat.lt_irrefl _ (fits.shut _ member)
  have still : ∀ {channel}, client.IsOpen channel →
      BotClient.IsOpen { client with closed := false, created := client.created + 1 } channel :=
    fun isOpen => ⟨Nat.lt_succ_of_lt isOpen.1, isOpen.2⟩
  refine ⟨⟨fits.stub, fun channel current => still (fits.current channel current),
    fun channel member => Nat.lt_succ_of_lt (fits.shut channel member)⟩, ⟨?_, ?_⟩,
    fun other owns apart => ⟨⟨?_, ?_⟩, ?_⟩⟩
  · rintro channel ⟨⟩
    exact Nat.lt_succ_self _
  · rintro channel ⟨⟩
    refine ⟨⟨Nat.lt_succ_self _, fresh⟩, ?_⟩
    rw [empty]
    nofun
  · exact fun channel holds => Nat.lt_succ_of_lt (owns.held channel holds)
  · intro channel pending
    obtain ⟨isOpen, unpublished⟩ := owns.pending channel pending
    exact ⟨still isOpen, unpublished⟩
  · intro channel
    refine ⟨?_, ?_⟩
    · rintro ⟨⟩ holds
      exact Nat.lt_irrefl _ (owns.held _ holds)
    · rintro pending ⟨⟩
      exact Nat.lt_irrefl _ (owns.pending _ pending).1.1

/-- A disconnect shuts only what no task is checking, since a checked channel is not the current
one. -/
theorem disconnected_preserves {client : BotClient} {task after : Task} (closed : Bool)
    (nothing : after.holds = none) :
    Preserves client task { client with closed }.disconnect after := by
  intro fits own
  refine ⟨⟨by simp, by simp, ?_⟩, .of_holds_none nothing, fun other owns _ =>
    ⟨⟨?_, ?_⟩, .of_holds_none nothing⟩⟩
  · intro channel member
    rw [disconnect_created]
    rcases (disconnect_shut _ _).mp member with shut | current
    · exact fits.shut channel shut
    · exact (fits.current channel current).1
  · intro channel holds
    rw [disconnect_created]
    exact owns.held channel holds
  · intro channel pending
    rw [disconnect_isOpen, disconnect_channel]
    exact ⟨owns.pending channel pending, nofun⟩

/-- A refused channel was held by its own task only. -/
theorem refused_preserves (client : BotClient) (caller : Caller) (channel : Nat) :
    Preserves client (.connecting caller channel) (client.shutChannel channel) .idle := by
  intro fits own
  refine ⟨⟨fits.stub, ?_, ?_⟩, .of_holds_none rfl, fun other owns apart =>
    ⟨⟨owns.held, ?_⟩, .of_holds_none rfl⟩⟩
  · intro current published
    rw [shutChannel_isOpen]
    refine ⟨fits.current current published, ?_⟩
    rintro rfl
    exact (own.pending current rfl).2 published
  · intro shut member
    rcases List.mem_cons.mp member with rfl | earlier
    · exact own.held shut rfl
    · exact fits.shut shut earlier
  · intro pending checked
    rw [shutChannel_isOpen]
    obtain ⟨isOpen, unpublished⟩ := owns.pending pending checked
    refine ⟨⟨isOpen, ?_⟩, unpublished⟩
    rintro rfl
    exact (apart pending).1 rfl (Task.holds_of_pending checked)

/-- Each of the effects keeps the account. -/
theorem Effect.preserves {client next : BotClient} {task after : Task}
    (effect : Effect client task next after) : Preserves client task next after := by
  induction effect with
  | kept closed _ settled' held => exact kept_preserves closed settled' held
  | opened caller _ empty => exact opened_preserves caller empty
  | disconnected closed _ nothing => exact disconnected_preserves closed nothing
  | refused client caller channel => exact refused_preserves client caller channel
  | trans _ _ first second => exact first.trans second

/-- Publishing makes the checked channel the current one; it was open, and nobody else was checking
it. -/
theorem publish_preserves (client : BotClient) (caller : Caller) (channel : Nat) :
    Preserves client (.connecting caller channel) (client.publish channel)
      (proceed caller (some channel)) := by
  intro fits own
  have unheld : ∀ pending, (proceed caller (some channel)).pending ≠ some pending := by
    intro pending
    rw [proceed_pending]
    nofun
  refine ⟨⟨rfl, ?_, fits.shut⟩, ⟨?_, fun pending checked => absurd checked (unheld pending)⟩,
    fun other owns apart => ⟨⟨owns.held, ?_⟩, fun pending => ⟨?_, ?_⟩⟩⟩
  · rintro current ⟨⟩
    exact (own.pending channel rfl).1
  · intro held holds
    cases proceed_holds holds
    exact own.held channel rfl
  · intro pending checked
    refine ⟨(owns.pending pending checked).1, ?_⟩
    rintro ⟨⟩
    exact (apart channel).1 rfl (Task.holds_of_pending checked)
  · exact fun checked => absurd checked (unheld pending)
  · intro checked holds
    cases proceed_holds holds
    exact (apart channel).1 rfl (Task.holds_of_pending checked)

/-- So does every turn of a task, publications included. -/
theorem Turn.preserves {transport : Transport} {client next : BotClient} {task after : Task}
    {label : Label} (turn : Turn transport client task label next after) :
    Preserves client task next after := by
  rcases turn.cases_effect with ⟨caller, channel, rfl, rfl, rfl, rfl⟩ | ⟨_, effect⟩
  · exact publish_preserves client caller channel
  · exact effect.preserves

/-- The account of a client and its tasks. -/
abbrev Accounted (tasks : Tasks BotClient Task) : Prop :=
  tasks.Holds Fits Own Apart

/-- In every run, whatever tasks come and go, the account is kept. -/
theorem accounted {transport : Transport} {reconnect : Bool} {trace : List (Nat × Label)}
    {tasks : Tasks BotClient Task} (run : (client transport reconnect).Runs trace tasks) :
    Accounted tasks := by
  refine Tasks.invariant Apart.symm ?_ (.of_holds_none rfl) ?_ run
  · rintro _ rfl
    exact ⟨⟨rfl, nofun, nofun⟩, .of_holds_none rfl⟩
  · intro client task label next after fits own turn
    exact turn.preserves fits own

/-! ## Channels without an owner -/

/-- An effect leaves the task no channel to answer for but what it had. -/
theorem Effect.loose_iff {client next : BotClient} {task after : Task}
    (effect : Effect client task next after) (fits : Fits client) (own : Own client task)
    (channel : Nat) : Loose next after channel ↔ Loose client task channel := by
  induction effect with
  | kept closed settled settled' held =>
      unfold Loose
      rw [settled, settled']
      rfl
  | @opened client task caller settled empty =>
      unfold Loose
      rw [settled]
      by_cases fresh : channel = client.created
      · subst fresh
        exact ⟨fun loose => absurd rfl loose.2.2, fun loose => absurd loose.1.1 (Nat.lt_irrefl _)⟩
      · have range : channel < client.created + 1 ↔ channel < client.created := by omega
        have other : (Task.connecting caller client.created).pending ≠ some channel := by
          rintro ⟨⟩
          exact fresh rfl
        simp only [BotClient.IsOpen, range, ne_eq, other, not_false_eq_true, and_true, reduceCtorEq]
  | disconnected closed settled nothing =>
      unfold Loose
      rw [disconnect_isOpen, disconnect_channel, settled]
      have unheld : ∀ {after : Task}, after.holds = none → after.pending ≠ some channel :=
        fun nothing pending => by rw [Task.holds_of_pending pending] at nothing; cases nothing
      simp only [ne_eq, reduceCtorEq, not_false_eq_true, unheld nothing, and_true, BotClient.IsOpen]
  | refused client caller checked =>
      unfold Loose
      rw [shutChannel_isOpen]
      simp only [Task.pending, shutChannel, ne_eq, Option.some.injEq, reduceCtorEq,
        not_false_eq_true, and_true, eq_comm (a := checked)]
      tauto
  | trans first second ih ih' =>
      obtain ⟨fits', own', _⟩ := first.preserves fits own
      exact (ih' fits' own').trans (ih fits own)

/-- An open channel that nobody will ever shut. -/
def Leaked (tasks : Tasks BotClient Task) (channel : Nat) : Prop :=
  tasks.shared.IsOpen channel ∧ tasks.shared.channel ≠ some channel ∧
    ∀ index, (tasks.task index).pending ≠ some channel

/-- A leak is a channel without an owner that no other task is checking. -/
theorem leaked_advance_iff (tasks : Tasks BotClient Task) (index : Nat) (client : BotClient)
    (after : Task) (channel : Nat) :
    Leaked (tasks.advance index client after) channel ↔
      Loose client after channel ∧
        ∀ other, other ≠ index → (tasks.task other).pending ≠ some channel := by
  constructor
  · rintro ⟨isOpen, unpublished, unchecked⟩
    refine ⟨⟨isOpen, unpublished, ?_⟩, fun other different => ?_⟩
    · have here := unchecked index
      rwa [Tasks.advance_task_self] at here
    · have there := unchecked other
      rwa [Tasks.advance_task_of_ne different] at there
  · rintro ⟨⟨isOpen, unpublished, unchecked⟩, others⟩
    refine ⟨isOpen, unpublished, fun other => ?_⟩
    by_cases same : other = index
    · rw [same, Tasks.advance_task_self]
      exact unchecked
    · rw [Tasks.advance_task_of_ne same]
      exact others other same

/-- Whether a channel has leaked can be asked of one task, as long as no other is checking it. -/
theorem leaked_iff_loose (tasks : Tasks BotClient Task) (index channel : Nat) :
    Leaked tasks channel ↔
      Loose tasks.shared (tasks.task index) channel ∧
        ∀ other, other ≠ index → (tasks.task other).pending ≠ some channel := by
  have stays : tasks.advance index tasks.shared (tasks.task index) = tasks := by
    simp [Tasks.advance]
  conv_lhs => rw [← stays]
  exact leaked_advance_iff ..

/-- One turn leaks the channel it publishes over, and no other. -/
theorem leaked_step {transport : Transport} {reconnect : Bool} {tasks next : Tasks BotClient Task}
    {label : Nat × Label} (account : Accounted tasks)
    (step : (client transport reconnect).Step tasks label next) (channel : Nat) :
    Leaked next channel ↔ Leaked tasks channel ∨ label.2 = .published (some channel) := by
  obtain ⟨index, label⟩ := label
  obtain ⟨shared, after, turn, rfl⟩ := step
  rw [leaked_advance_iff, leaked_iff_loose tasks index]
  have own := account.own index
  rcases turn.cases_effect with ⟨caller, checked, here, rfl, rfl, rfl⟩ | ⟨quiet, effect⟩
  · simp only at here
    rw [here] at own
    obtain ⟨isOpen, unpublished⟩ := own.pending checked rfl
    rw [here]
    constructor
    · rintro ⟨⟨wasOpen, replaced, _⟩, others⟩
      by_cases current : tasks.shared.channel = some channel
      · exact .inr (congrArg Label.published current)
      · exact .inl ⟨⟨wasOpen, current, replaced⟩, others⟩
    · rintro (⟨⟨wasOpen, _, unchecked⟩, others⟩ | same)
      · refine ⟨⟨wasOpen, unchecked, ?_⟩, others⟩
        rw [proceed_pending]
        nofun
      · have current : tasks.shared.channel = some channel := Label.published.inj same
        refine ⟨⟨account.shared.current channel current, ?_, ?_⟩, fun other _ checking => ?_⟩
        · intro replaced
          exact unpublished (current.trans replaced.symm)
        · rw [proceed_pending]
          nofun
        · exact ((account.own other).pending channel checking).2 current
  · rw [effect.loose_iff account.shared own channel, or_iff_left (quiet _)]

/-- The channels leaked in a run are those a publication has replaced. -/
theorem leaked_iff {transport : Transport} {reconnect : Bool} {trace : List (Nat × Label)}
    {tasks : Tasks BotClient Task} (run : (client transport reconnect).Runs trace tasks)
    (channel : Nat) :
    Leaked tasks channel ↔ ∃ index, (index, .published (some channel)) ∈ trace := by
  induction run with
  | @initial tasks valid =>
      have empty : tasks.shared = .init reconnect := valid.1
      refine ⟨fun leaked => ?_, nofun⟩
      have created := leaked.1.1
      rw [empty] at created
      exact absurd created (Nat.not_lt_zero _)
  | @step trace tasks label next prior transition ih =>
      rw [leaked_step (accounted prior) transition channel, ih]
      obtain ⟨index, label⟩ := label
      constructor
      · rintro (⟨earlier, member⟩ | rfl)
        · exact ⟨earlier, List.mem_append_left _ member⟩
        · exact ⟨index, List.mem_append_right _ (List.mem_singleton_self _)⟩
      · rintro ⟨earlier, member⟩
        rcases List.mem_append.mp member with before | last
        · exact .inl ⟨earlier, before⟩
        · cases List.mem_singleton.mp last
          exact .inr rfl

/-- No task is inside `connect`. -/
def Quiet (tasks : Tasks BotClient Task) : Prop :=
  ∀ index caller channel, tasks.task index ≠ .connecting caller channel

/-- A quiet client has no channel under check. -/
theorem Quiet.pending {tasks : Tasks BotClient Task} (quiet : Quiet tasks) (index : Nat) :
    (tasks.task index).pending = none := by
  cases here : tasks.task index with
  | connecting caller channel => exact absurd here (quiet index caller channel)
  | _ => rfl

/-- With no `connect` pending, every channel ever created is shut or is the one in `_channel`
exactly if no health check has succeeded while another channel was published. -/
theorem channels_owned_iff (transport : Transport) (reconnect : Bool)
    {trace : List (Nat × Label)} {tasks : Tasks BotClient Task}
    (run : (client transport reconnect).Runs trace tasks) (quiet : Quiet tasks) :
    (∀ channel, channel < tasks.shared.created →
      channel ∈ tasks.shared.shut ∨ tasks.shared.channel = some channel) ↔
      ∀ index previous, (index, .published (some previous)) ∉ trace := by
  constructor
  · intro owned index previous replaced
    obtain ⟨⟨created, unshut⟩, unpublished, _⟩ := (leaked_iff run previous).mpr ⟨index, replaced⟩
    rcases owned previous created with shut | current
    · exact unshut shut
    · exact unpublished current
  · intro orderly channel created
    by_contra unowned
    rw [not_or] at unowned
    have leaked : Leaked tasks channel := by
      refine ⟨⟨created, unowned.1⟩, unowned.2, fun index => ?_⟩
      rw [quiet.pending index]
      nofun
    obtain ⟨index, replaced⟩ := (leaked_iff run channel).mp leaked
    exact orderly index channel replaced

/-- What grpclib can answer: anything while the channel is open, a failure once it is shut. -/
def grpclib : Transport := fun shut answer =>
  shut = true → ∃ failure, answer = .failed failure

/-- A `connect` that finds no channel, makes one and publishes it. -/
theorem channels_owned_oneConnect :
    ∃ tasks : Tasks BotClient Task,
      (client grpclib true).Runs [(0, .started .connect), (0, .published none)] tasks ∧
        ∀ channel, channel < tasks.shared.created →
          channel ∈ tasks.shared.shut ∨ tasks.shared.channel = some channel := by
  have started := (client_start grpclib true).turn 0 (.started _ .connect)
  have published := started.turn 0 (.published _ .connect 0)
  refine ⟨_, published, (channels_owned_iff grpclib true published ?_).mpr ?_⟩
  · intro index caller channel
    match index with
    | 0 => nofun
    | index + 1 => nofun
  · intro index previous replaced
    simp [start, connect, init] at replaced

/-- Two calls that both find no channel: the first of their channels stays open for good. -/
theorem overlappingConnects_leak :
    ∃ tasks : Tasks BotClient Task,
      (client grpclib true).Runs
        [(0, .started .call), (1, .started .call), (0, .published none), (1, .published (some 0))]
        tasks ∧
      Quiet tasks ∧ tasks.shared.channel = some 1 ∧ tasks.shared.IsOpen 0 := by
  have first := (client_start grpclib true).turn 0 (.started _ .call)
  have second := first.turn 1 (.started _ .call)
  have published := second.turn 0 (.published _ .call 0)
  have replaced := published.turn 1 (.published _ .call 1)
  refine ⟨_, replaced, ?_, rfl, by decide, by decide⟩
  intro index caller channel
  match index with
  | 0 | 1 => nofun
  | index + 2 => nofun

end Arisa.Client
