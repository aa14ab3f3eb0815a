import Arisa.Client.Ownership

/-!
# Closing the client

`close` sets `_closed` and shuts the published channel; `run` looks at `_closed`
before every reconnection. A `connect` that is in its health check meanwhile
does not, and publishes its channel after all.
-/

namespace Arisa.Client

open Arisa.Proto Arisa.Semantics BotClient

/-- A `connect`, an API call or `run` is started. -/
def Label.isStart : Label → Bool
  | .started _ => true
  | _ => false

/-- On a closed client the end of a stream ends the loop, whatever it was. -/
theorem afterOnce_of_closed {client : BotClient} (closed : client.closed = true)
    (outcome : Option Failure) : client.afterOnce outcome = (client, .idle) := by
  cases outcome <;> simp [afterOnce, closed]

/-- The loop of a closed client does not connect again. -/
theorem iterate_of_closed {client : BotClient} (closed : client.closed = true) :
    client.iterate = (client, .idle) := by
  simp [iterate, closed]

/-- On a closed client a failed health check ends the loop too. -/
theorem refuse_of_closed {client : BotClient} (closed : client.closed = true) (caller : Caller)
    (channel : Nat) (failure : Failure) :
    client.refuse caller channel failure = (client.shutChannel channel, .idle) := by
  cases caller with
  | connect | call => rfl
  | run =>
      have still : (client.shutChannel channel).closed = true := closed
      exact afterOnce_of_closed still (some failure)

/-- Nothing that is received changes a closed client. -/
theorem receive_of_closed {client : BotClient} (closed : client.closed = true) (stub : Nat)
    (answer : Answer) : (client.receive stub answer).2.1 = client := by
  cases answer with
  | item event =>
      cases unwrapped : event.value with
      | some value => simp only [receive, unwrapped]
      | none => simp only [receive, unwrapped, afterOnce_of_closed closed]
  | ended => simp only [receive, afterOnce_of_closed closed]
  | failed failure => simp only [receive, afterOnce_of_closed closed]

/-- A turn of a closed client that starts nothing: it publishes, closes again, or leaves
`_closed` and `_channel` as they are. -/
theorem Turn.of_closed {transport : Transport} {client next : BotClient} {task after : Task}
    {label : Label} (turn : Turn transport client task label next after)
    (closed : client.closed = true) (starts : label.isStart = false) :
    next.closed = true ∧
      ((∃ previous, label = .published previous ∧ next.channel ≠ none) ∨
        (label = .closed ∧ next.channel = none) ∨
        ((∀ previous, label ≠ .published previous) ∧ label ≠ .closed ∧
          next.channel = client.channel)) := by
  cases turn with
  | started caller => cases starts
  | published caller channel => exact ⟨closed, .inl ⟨_, rfl, nofun⟩⟩
  | refused caller channel failure =>
      rw [refuse_of_closed closed]
      exact ⟨closed, .inr (.inr ⟨nofun, nofun, rfl⟩)⟩
  | received stub answer =>
      rw [receive_of_closed closed]
      rcases receive_label client stub answer with moved | ⟨_, value, _, dispatched⟩
      · rw [moved]
        exact ⟨closed, .inr (.inr ⟨nofun, nofun, rfl⟩)⟩
      · rw [dispatched]
        exact ⟨closed, .inr (.inr ⟨nofun, nofun, rfl⟩)⟩
  | handled stub => exact ⟨closed, .inr (.inr ⟨nofun, nofun, rfl⟩)⟩
  | raised stub failure =>
      rw [afterOnce_of_closed closed]
      exact ⟨closed, .inr (.inr ⟨nofun, nofun, rfl⟩)⟩
  | woken =>
      rw [iterate_of_closed closed]
      exact ⟨closed, .inr (.inr ⟨nofun, nofun, rfl⟩)⟩
  | ended => exact ⟨closed, .inr (.inr ⟨nofun, nofun, rfl⟩)⟩
  | closed =>
      refine ⟨?_, .inr (.inl ⟨rfl, ?_⟩)⟩
      · rw [BotClient.close, disconnect_closed]
      · rw [BotClient.close, disconnect_channel]

/-- The label of `close` belongs to its own turn. -/
theorem Turn.of_close_label {transport : Transport} {client next : BotClient} {task after : Task}
    (turn : Turn transport client task .closed next after) : next = client.close := by
  generalize same : Label.closed = label at turn
  cases turn with
  | closed => rfl
  | received stub answer =>
      rcases receive_label client stub answer with moved | ⟨_, value, _, dispatched⟩
      · rw [moved] at same
        cases same
      · rw [dispatched] at same
        cases same
  | _ => cases same

/-- Among these labels nothing is started. -/
def NoStart (labels : List (Nat × Label)) : Prop :=
  ∀ label, label ∈ labels → label.2.isStart = false

def NoPublication (labels : List (Nat × Label)) : Prop :=
  ∀ index previous, (index, .published previous) ∉ labels

variable {transport : Transport} {reconnect : Bool} {tasks : Tasks BotClient Task}
  {before after : List (Nat × Label)} {closer : Nat}

/-- The state right after `close`, and the steps from there. -/
theorem after_close
    (run : (client transport reconnect).Runs (before ++ (closer, .closed) :: after) tasks) :
    ∃ middle, (client transport reconnect).Steps middle after tasks ∧
      middle.shared.closed = true ∧ middle.shared.channel = none := by
  rw [List.append_cons] at run
  obtain ⟨middle, reached, steps⟩ := run.split
  obtain ⟨earlier, _, transition⟩ := reached.of_concat
  obtain ⟨shared, next, turn, rfl⟩ := transition
  refine ⟨_, steps, ?_⟩
  rw [turn.of_close_label]
  exact ⟨by simp [close], by simp [close]⟩

/-- After `close` the client stays closed, and `_channel` empty without a publication. -/
theorem closed_after
    (run : (client transport reconnect).Runs (before ++ (closer, .closed) :: after) tasks)
    (noStart : NoStart after) :
    tasks.shared.closed = true ∧ (NoPublication after → tasks.shared.channel = none) := by
  obtain ⟨middle, steps, closed, empty⟩ := after_close run
  constructor
  · refine steps.invariant (fun label : Nat × Label => label.2.isStart = false)
      (fun tasks : Tasks BotClient Task => tasks.shared.closed = true) closed ?_ noStart
    rintro state label next starts closed ⟨shared, local', turn, rfl⟩
    exact (turn.of_closed closed starts).1
  · intro quiet
    refine (steps.invariant
      (fun label : Nat × Label =>
        label.2.isStart = false ∧ ∀ previous, label.2 ≠ .published previous)
      (fun tasks : Tasks BotClient Task => tasks.shared.closed = true ∧ tasks.shared.channel = none)
      ⟨closed, empty⟩ ?_ ?_).2
    · rintro state label next ⟨starts, unpublished⟩ ⟨closed, empty⟩ ⟨shared, local', turn, rfl⟩
      obtain ⟨closed, ⟨previous, published, _⟩ | ⟨_, empty⟩ | ⟨_, _, same⟩⟩ :=
        turn.of_closed closed starts
      · exact absurd published (unpublished previous)
      · exact ⟨closed, empty⟩
      · exact ⟨closed, same.trans empty⟩
    · rintro ⟨index, label⟩ member
      refine ⟨noStart _ member, ?_⟩
      rintro previous rfl
      exact quiet index previous member

/-- A health check that succeeds after `close` leaves its channel published. -/
theorem published_after
    (run : (client transport reconnect).Runs (before ++ (closer, .closed) :: after) tasks)
    (noStart : NoStart after) (noClose : ∀ index, (index, .closed) ∉ after) {index : Nat}
    {previous : Option Nat} (published : (index, .published previous) ∈ after) :
    tasks.shared.channel ≠ none := by
  obtain ⟨first, rest, rfl⟩ := List.append_of_mem published
  rw [← List.cons_append, ← List.append_assoc, List.append_cons] at run
  obtain ⟨middle, reached, steps⟩ := run.split
  obtain ⟨earlier, prior, transition⟩ := reached.of_concat
  have closed : earlier.shared.closed = true :=
    (closed_after prior fun label member => noStart label (by simp [member])).1
  obtain ⟨shared, next, turn, rfl⟩ := transition
  refine (steps.invariant (fun label : Nat × Label => label.2.isStart = false ∧ label.2 ≠ .closed)
    (fun tasks : Tasks BotClient Task => tasks.shared.closed = true ∧ tasks.shared.channel ≠ none)
    ?_ ?_ ?_).2
  · obtain ⟨closed, ⟨_, _, there⟩ | ⟨same, _⟩ | ⟨other, _⟩⟩ := turn.of_closed closed rfl
    · exact ⟨closed, there⟩
    · cases same
    · exact absurd rfl (other previous)
  · rintro state label next ⟨starts, notClose⟩ ⟨closed, there⟩ ⟨shared, local', turn, rfl⟩
    obtain ⟨closed, ⟨_, _, there⟩ | ⟨same, _⟩ | ⟨_, _, same⟩⟩ := turn.of_closed closed starts
    · exact ⟨closed, there⟩
    · exact absurd same notClose
    · refine ⟨closed, ?_⟩
      rw [Tasks.advance_shared, same]
      exact there
  · rintro ⟨index, label⟩ member
    refine ⟨noStart _ (by simp [member]), ?_⟩
    rintro rfl
    exact noClose index (by simp [member])

/-- An event is dispatched from a stream over a channel that grpclib let it come from. -/
theorem Turn.of_dispatched {client next : BotClient} {task after : Task} {value : EventValue}
    (turn : Turn transport client task (.dispatched value) next after) :
    ∃ stub event, task = .streaming stub ∧ transport (client.shut.contains stub) (.item event) := by
  generalize same : Label.dispatched value = label at turn
  cases turn with
  | received stub answer answered =>
      rcases receive_label client stub answer with moved | ⟨event, _, rfl, _⟩
      · rw [moved] at same
        cases same
      · exact ⟨stub, event, rfl, answered⟩
  | _ => cases same

/-- Nobody owns a channel that is open while `_channel` is empty and no task is checking it. -/
theorem not_open_of_orderly {trace : List (Nat × Label)}
    (run : (client transport reconnect).Runs trace tasks)
    (orderly : ∀ index previous, (index, .published (some previous)) ∉ trace)
    (empty : tasks.shared.channel = none) {channel : Nat}
    (unchecked : ∀ index, (tasks.task index).pending ≠ some channel) :
    ¬ tasks.shared.IsOpen channel := by
  intro isOpen
  have leaked : Leaked tasks channel := by
    refine ⟨isOpen, ?_, unchecked⟩
    rw [empty]
    nofun
  obtain ⟨index, replaced⟩ := (leaked_iff run channel).mp leaked
  exact orderly index channel replaced

/-- What `close` promises: `run` dispatches nothing more, and once no `connect` is pending the
client is closed and every channel is shut. -/
def Final (after : List (Nat × Label)) (tasks : Tasks BotClient Task) : Prop :=
  (∀ index value, (index, .dispatched value) ∉ after) ∧
    (Quiet tasks → tasks.shared.closed = true ∧ ∀ channel, ¬ tasks.shared.IsOpen channel)

/-- No health check succeeded over a published channel, and none after `close`. -/
def Orderly (before after : List (Nat × Label)) : Prop :=
  (∀ index previous, (index, .published (some previous)) ∉ before ++ after) ∧ NoPublication after

/-- If no publication has replaced a channel and none comes after it, the close is final. -/
theorem final_of_orderly (finalShut : ∀ event, ¬ transport true (.item event))
    (run : (client transport reconnect).Runs (before ++ (closer, .closed) :: after) tasks)
    (noStart : NoStart after) (orderly : Orderly before after) : Final after tasks := by
  have replacedNone : ∀ index previous,
      (index, .published (some previous)) ∉ before ++ (closer, .closed) :: after := by
    intro index previous member
    apply orderly.1 index previous
    rcases List.mem_append.mp member with early | late
    · exact List.mem_append_left _ early
    · rcases List.mem_cons.mp late with same | later
      · cases same
      · exact List.mem_append_right _ later
  obtain ⟨closed, empty⟩ := closed_after run noStart
  constructor
  · intro index value dispatched
    obtain ⟨first, rest, rfl⟩ := List.append_of_mem dispatched
    rw [← List.cons_append, ← List.append_assoc, List.append_cons] at run
    obtain ⟨middle, reached, _⟩ := run.split
    obtain ⟨earlier, prior, transition⟩ := reached.of_concat
    obtain ⟨shared, next, turn, rfl⟩ := transition
    obtain ⟨stub, event, streams, answered⟩ := turn.of_dispatched
    have empty : earlier.shared.channel = none := by
      refine (closed_after prior fun label member => noStart label (by simp [member])).2 ?_
      exact fun index previous member => orderly.2 index previous (by simp [member])
    have account := accounted prior
    have shut : stub ∈ earlier.shared.shut := by
      by_contra unshut
      refine not_open_of_orderly prior ?_ empty ?_
        ⟨(account.own index).held stub (by rw [streams]; rfl), unshut⟩
      · exact fun index previous member => replacedNone index previous
          (by simp only [List.mem_append, List.mem_cons] at member ⊢; tauto)
      · intro other checking
        by_cases same : other = index
        · rw [same, streams] at checking
          cases checking
        · exact (account.apart other index same stub).1 checking (by rw [streams]; rfl)
    rw [List.contains_iff_mem.mpr shut] at answered
    exact finalShut event answered
  · intro quiet
    refine ⟨closed, fun channel => not_open_of_orderly run replacedNone (empty orderly.2) ?_⟩
    intro index
    rw [quiet.pending index]
    nofun

/-- If the close was final, no publication has replaced a channel and none came after it. -/
theorem orderly_of_final
    (run : (client transport reconnect).Runs (before ++ (closer, .closed) :: after) tasks)
    (noStart : NoStart after) (noClose : ∀ index, (index, .closed) ∉ after)
    (quiet : Quiet tasks) (final : Final after tasks) : Orderly before after := by
  obtain ⟨_, noneOpen⟩ := final.2 quiet
  constructor
  · intro index previous replaced
    refine noneOpen previous ((leaked_iff run previous).mpr ⟨index, ?_⟩).1
    rcases List.mem_append.mp replaced with early | late
    · exact List.mem_append_left _ early
    · exact List.mem_append_right _ (List.mem_cons_of_mem _ late)
  · intro index previous published
    obtain ⟨channel, current⟩ :=
      Option.ne_none_iff_exists'.mp (published_after run noStart noClose published)
    exact noneOpen channel ((accounted run).shared.current channel current)

/-- `close` is final if every health check that succeeds does so before it and without a channel
in `_channel`; and if one does otherwise, the client is not left closed with every channel shut. -/
theorem close_final_iff (transport : Transport) (reconnect : Bool)
    (finalShut : ∀ event, ¬ transport true (.item event))
    {before after : List (Nat × Label)} {closer : Nat} {tasks : Tasks BotClient Task}
    (run : (client transport reconnect).Runs (before ++ (closer, .closed) :: after) tasks)
    (noStart : NoStart after) :
    (Orderly before after → Final after tasks) ∧
      (Quiet tasks → (∀ index, (index, .closed) ∉ after) → Final after tasks →
        Orderly before after) :=
  ⟨final_of_orderly finalShut run noStart,
    fun quiet noClose => orderly_of_final run noStart noClose quiet⟩

/-- On a channel that is shut, grpclib gives no more items. -/
theorem grpclib_finalShut (event : Event) : ¬ grpclib true (.item event) := by
  intro answered
  obtain ⟨failure, same⟩ := answered rfl
  cases same

/-- `close` while `run` waits for an event: the stream fails and `run` returns. -/
theorem close_final_streaming :
    ∃ tasks : Tasks BotClient Task,
      (client grpclib true).Runs
        ([(0, .started .run), (0, .published none)] ++ (1, .closed) :: [(0, .moved)]) tasks ∧
      Quiet tasks ∧ Final [(0, .moved)] tasks := by
  have started := (client_start grpclib true).turn 0 (.started _ .run)
  have published := started.turn 0 (.published _ .run 0)
  have closed := published.turn 1 (.closed _)
  have failed : (client grpclib true).Runs
      ([(0, .started .run), (0, .published none)] ++ (1, .closed) :: [(0, .moved)]) _ :=
    closed.turn 0 (.received _ 0 (.failed .streamTerminatedError)
      fun _ => ⟨.streamTerminatedError, rfl⟩)
  refine ⟨_, failed, ?_, (close_final_iff grpclib true grpclib_finalShut failed ?_).1 ?_⟩
  · intro index caller channel
    match index with
    | 0 | 1 => nofun
    | index + 2 => nofun
  · simp [NoStart, Label.isStart]
  · constructor
    · simp
    · simp [NoPublication]

def emptyFeed : FeedEvent := ⟨none, none, none⟩

/-- `close` while `run` is in its health check: the channel is published on the closed client, and
the next event is dispatched. -/
theorem pendingConnect_reopens :
    ∃ tasks : Tasks BotClient Task,
      (client grpclib true).Runs
        ([(0, .started .run)] ++ (1, .closed) ::
          [(0, .published none), (0, .dispatched (.feed emptyFeed))]) tasks ∧
      NoStart [(0, .published none), (0, .dispatched (.feed emptyFeed))] ∧
      Quiet tasks ∧ tasks.shared.closed = true ∧ tasks.shared.IsOpen 0 ∧
      ¬ Final [(0, .published none), (0, .dispatched (.feed emptyFeed))] tasks := by
  have started := (client_start grpclib true).turn 0 (.started _ .run)
  have closed := started.turn 1 (.closed _)
  have published := closed.turn 0 (.published _ .run 0)
  have dispatched := published.turn 0 (.received _ 0 (.item ⟨some (.feed emptyFeed)⟩) nofun)
  refine ⟨_, dispatched, ?_, ?_, rfl, ⟨by decide, by decide⟩, ?_⟩
  · simp [NoStart, Label.isStart]
  · intro index caller channel
    match index with
    | 0 | 1 => nofun
    | index + 2 => nofun
  · intro final
    exact final.1 0 (.feed emptyFeed) (by simp)

end Arisa.Client
