import Arisa.Android.Delivery
import Arisa.Semantics.Execution
import Mathlib.Data.List.Forall2

/-!
# The action thread

`ActionProcessor`: requests put actions into an unbounded channel, and one thread
attaches to the virtual machine, takes the actions out in order and processes
each. A panic of the thread drops the receiver; what is sent afterwards is refused.
-/

namespace Arisa.Android

open Arisa.Config Arisa.Semantics Arisa.Semantics.Faults

inductive Thread where
  | starting
  | running (api : AndroidHiddenApi) (current : Option Action)
  | stopped

namespace Thread

/-- The action in process. -/
def current : Thread → List Action
  | .running _ current => current.toList
  | .starting | .stopped => []

/-- A thread that starts has no action in hand. -/
@[simp] theorem current_starting : starting.current = [] := rfl
/-- A thread that has stopped has none either. -/
@[simp] theorem current_stopped : stopped.current = [] := rfl
/-- A thread that waits for the next action has none. -/
@[simp] theorem current_idle (api : AndroidHiddenApi) : (running api none).current = [] := rfl
/-- The action in hand is the one being processed. -/
@[simp] theorem current_busy (api : AndroidHiddenApi) (action : Action) :
    (running api (some action)).current = [action] := rfl

/-- `send` succeeds as long as the receiver exists. -/
def receives : Thread → Bool
  | .starting | .running .. => true
  | .stopped => false

end Thread

structure Processor (Failure : Type) where
  thread : Thread
  queue : List Action
  env : Env Failure Start
  /-- The actions the loop has been through, with what `process` returned. -/
  processed : List (Action × Except Failure Unit)

inductive ProcessorLabel (Failure : Type) where
  | enqueue (action : Action) (result : Except String Unit)
  | attach (attached : Bool)
  | receive (action : Action)
  | process (action : Action) (outcome : Except Failure Unit)
  | die

variable {Failure : Type}

/-- `ActionProcessor::enqueue`. -/
def Processor.enqueue (processor : Processor Failure) (action : Action) :
    Except String Unit × Processor Failure :=
  if processor.thread.receives then
    (.ok (), { processor with queue := processor.queue ++ [action] })
  else
    (.error "Android action processor stopped", processor)

section Step

variable (url : Url) (uid : Option Int32) (callingPackage referer : String)

/-- The thread up to its loop: the `expect` on the attachment and the one on the API. -/
def Processor.attach (processor : Processor Failure) (attached : Bool) : Processor Failure :=
  if attached then
    match newApi uid callingPackage processor.env with
    | (.ok api, env) => { processor with thread := .running api none, env }
    | (.error _, env) => { processor with thread := .stopped, env }
  else
    { processor with thread := .stopped }

/-- One turn of the loop for the action received. -/
def Processor.process (processor : Processor Failure) (api : AndroidHiddenApi) (action : Action) :
    Except Failure Unit × Processor Failure :=
  let result := Android.process url api referer action processor.env
  (result.1, { processor with
    thread := .running api none
    env := result.2
    processed := processor.processed ++ [(action, result.1)] })

inductive ProcessorStep :
    Processor Failure → ProcessorLabel Failure → Processor Failure → Prop where
  | enqueue (processor : Processor Failure) (action : Action) :
      ProcessorStep processor (.enqueue action (processor.enqueue action).1)
        (processor.enqueue action).2
  | attach (processor : Processor Failure) (attached : Bool)
      (starting : processor.thread = .starting) :
      ProcessorStep processor (.attach attached) (processor.attach uid callingPackage attached)
  | receive (processor : Processor Failure) (api : AndroidHiddenApi) (action : Action)
      (rest : List Action) (idle : processor.thread = .running api none)
      (next : processor.queue = action :: rest) :
      ProcessorStep processor (.receive action)
        { processor with thread := .running api (some action), queue := rest }
  | process (processor : Processor Failure) (api : AndroidHiddenApi) (action : Action)
      (busy : processor.thread = .running api (some action)) :
      ProcessorStep processor
        (.process action (processor.process url referer api action).1)
        (processor.process url referer api action).2
  /-- `eprintln!` panics when standard error cannot be written. -/
  | die (processor : Processor Failure) (api : AndroidHiddenApi) (action : Action)
      (failure : Failure) (idle : processor.thread = .running api none)
      (last : processor.processed.getLast? = some (action, .error failure)) :
      ProcessorStep processor .die { processor with thread := .stopped }

/-- The processor from its `spawn`, with any virtual machine. -/
def processor : System (Processor Failure) (ProcessorLabel Failure) where
  Initial state :=
    state.thread = .starting ∧ state.queue = [] ∧ state.env.journal = [] ∧ state.processed = []
  Step := ProcessorStep url uid callingPackage referer

end Step

/-- The action that a step made `enqueue` accept. -/
def acceptedBy : ProcessorLabel Failure → List Action
  | .enqueue action (.ok ()) => [action]
  | .enqueue _ (.error _) | .attach _ | .receive _ | .process .. | .die => []

/-- The actions that `enqueue` accepted, in order. -/
def accepted (trace : List (ProcessorLabel Failure)) : List Action :=
  trace.flatMap acceptedBy

/-- Nothing is accepted before the first step. -/
@[simp] theorem accepted_nil : accepted ([] : List (ProcessorLabel Failure)) = [] := rfl

/-- What is accepted grows with the trace. -/
@[simp] theorem accepted_concat (trace : List (ProcessorLabel Failure))
    (label : ProcessorLabel Failure) :
    accepted (trace ++ [label]) = accepted trace ++ acceptedBy label := by
  simp [accepted]

/-- What a list of processed actions has left in the journal. -/
inductive Accounts (url : Url) (referer : String) (api : AndroidHiddenApi) :
    List (Action × Except Failure Unit) → List Start → Prop
  | nil : Accounts url referer api [] []
  | concat {processed starts action outcome more}
      (earlier : Accounts url referer api processed starts)
      (last : Delivers api (plan url referer action) outcome more) :
      Accounts url referer api (processed ++ [(action, outcome)]) (starts ++ more)

/-- What is true of the processor at every moment. -/
structure Processor.Valid (url : Url) (uid : Option Int32)
    (callingPackage referer : String) (trace : List (ProcessorLabel Failure))
    (state : Processor Failure) : Prop where
  ordered : accepted trace =
    state.processed.map Prod.fst ++ state.thread.current ++ state.queue
  accounts : Accounts url referer (AndroidHiddenApi.new uid callingPackage)
    state.processed state.env.journal
  configured : ∀ api current, state.thread = .running api current →
    api = AndroidHiddenApi.new uid callingPackage

section Valid

variable {url : Url} {uid : Option Int32} {callingPackage referer : String}
  {trace : List (ProcessorLabel Failure)} {state next : Processor Failure}
  {label : ProcessorLabel Failure}

/-- The API is made without starting anything. -/
theorem emits_newApi (uid : Option Int32) (callingPackage : String) (env : Env Failure Start) :
    Emits (newApi uid callingPackage)
      (fun outcome starts => starts = [] ∧
        ∀ api, outcome = .ok api → api = AndroidHiddenApi.new uid callingPackage) env := by
  have silent : (newApi uid callingPackage : Jni Failure AndroidHiddenApi) =
      (calls 6 >>= fun _ => pure (AndroidHiddenApi.new uid callingPackage)) := by
    simp [newApi, getService, newString, callMethod, call_bind, -bind_pure_comp]
  rw [silent]
  apply Emits.after_calls
  · intro env
    apply emits_pure
    refine ⟨rfl, ?_⟩
    rintro _ ⟨⟩
    rfl
  · intro failure
    refine ⟨rfl, ?_⟩
    rintro _ ⟨⟩

/-- Attaching starts the loop or ends the thread; nothing has been processed yet. -/
theorem Processor.Valid.attach
    (valid : state.Valid url uid callingPackage referer trace)
    (starting : state.thread = .starting) (attached : Bool) :
    (state.attach uid callingPackage attached).Valid url uid callingPackage referer
      (trace ++ [.attach attached]) := by
  have before := valid.ordered
  have accounts := valid.accounts
  rw [starting] at before
  obtain ⟨starts, journal, none, configured⟩ := (emits_newApi uid callingPackage state.env).added
  rw [none, List.append_nil] at journal
  unfold Processor.attach
  cases attached with
  | false => exact ⟨by simpa [acceptedBy] using before, accounts, by rintro _ _ ⟨⟩⟩
  | true =>
      rcases made : newApi uid callingPackage state.env with ⟨outcome, env⟩
      rw [made] at journal configured
      rw [← journal] at accounts
      cases outcome with
      | error failure => exact ⟨by simpa [acceptedBy] using before, accounts, by rintro _ _ ⟨⟩⟩
      | ok api =>
          refine ⟨by simpa [acceptedBy] using before, accounts, ?_⟩
          rintro _ _ ⟨⟩
          exact configured api rfl

/-- Processing adds the starts of the action's intents up to a failure, in order. -/
theorem Processor.Valid.process
    (valid : state.Valid url uid callingPackage referer trace)
    {api : AndroidHiddenApi} {action : Action} (busy : state.thread = .running api (some action)) :
    (state.process url referer api action).2.Valid url uid callingPackage referer
      (trace ++ [.process action (state.process url referer api action).1]) := by
  obtain rfl := valid.configured api (some action) busy
  have before := valid.ordered
  rw [busy] at before
  obtain ⟨starts, journal, delivers⟩ := (emits_process url referer action state.env).added
  refine ⟨?_, ?_, ?_⟩
  · simpa [Processor.process, acceptedBy] using before
  · have extended := valid.accounts.concat delivers
    rwa [← journal] at extended
  · rintro _ _ ⟨⟩
    rfl

/-- Every step keeps the account of the thread. -/
theorem Processor.Valid.step (valid : state.Valid url uid callingPackage referer trace)
    (taken : ProcessorStep url uid callingPackage referer state label next) :
    next.Valid url uid callingPackage referer (trace ++ [label]) := by
  have before := valid.ordered
  cases taken with
  | enqueue action =>
      unfold Processor.enqueue
      split
      · refine ⟨?_, valid.accounts, valid.configured⟩
        simp [before, acceptedBy]
      · refine ⟨?_, valid.accounts, valid.configured⟩
        simp [before, acceptedBy]
  | attach attached starting => exact valid.attach starting attached
  | receive api action rest idle queued =>
      refine ⟨?_, valid.accounts, ?_⟩
      · rw [idle, queued] at before
        simpa [acceptedBy] using before
      · rintro _ _ ⟨⟩
        exact valid.configured _ _ idle
  | process api action busy => exact valid.process busy
  | die api action failure idle last =>
      refine ⟨?_, valid.accounts, by rintro _ _ ⟨⟩⟩
      rw [idle] at before
      simpa [acceptedBy] using before

/-- So in every run the queue, the action in hand and those processed are together what was
accepted. -/
theorem Processor.valid
    (run : (processor url uid callingPackage referer).Runs trace state) :
    state.Valid url uid callingPackage referer trace := by
  apply run.invariant
  · rintro initial ⟨thread, queue, journal, processed⟩
    refine ⟨?_, ?_, ?_⟩
    · simp [thread, queue, processed]
    · rw [processed, journal]
      exact .nil
    · intro api current running
      rw [thread] at running
      cases running
  · intro trace state label next valid taken
    exact valid.step taken

end Valid

/-- The intents an action asks for. -/
def intents (url : Url) (referer : String) (action : Action) : List Intent :=
  (plan url referer action).map Prod.snd

/-- What was delivered falls into one part for each action: all its intents, or those before a
failure. -/
theorem Accounts.delivered_eq {url : Url} {referer : String}
    {api : AndroidHiddenApi} {processed : List (Action × Except Failure Unit)}
    {starts : List Start} (accounts : Accounts url referer api processed starts) :
    ∃ parts, delivered starts = parts.flatten ∧
      List.Forall₂ (fun entry part => part <+: intents url referer entry.1 ∧
        (entry.2 = .ok () ↔ part = intents url referer entry.1)) processed parts := by
  induction accounts with
  | nil => exact ⟨[], rfl, .nil⟩
  | @concat processed starts action outcome more earlier last ih =>
      obtain ⟨parts, same, each⟩ := ih
      obtain ⟨count, bounded, finished, deliveredMore, -⟩ := last.delivered_eq
      refine ⟨parts ++ [(((plan url referer action).take count).map Prod.snd)], ?_, ?_⟩
      · rw [delivered_append, same, deliveredMore, List.flatten_append, List.flatten_singleton]
      · refine List.rel_append each (.cons ⟨?_, ?_⟩ .nil)
        · exact (List.take_prefix _ _).map _
        · change outcome = .ok () ↔ _ = (plan url referer action).map Prod.snd
          rw [finished]
          constructor
          · intro whole
            rw [whole, List.take_length]
          · intro whole
            have lengths := congrArg List.length whole
            rw [List.length_map, List.length_map, List.length_take] at lengths
            omega

/-- Every start is made for the configured package and user. -/
theorem Accounts.configured {url : Url} {referer : String}
    {api : AndroidHiddenApi} {processed : List (Action × Except Failure Unit)}
    {starts : List Start} (accounts : Accounts url referer api processed starts) :
    ∀ start ∈ starts, start.callingPackage = api.callingPackage ∧ start.userId = api.uid := by
  induction accounts with
  | nil => simp
  | concat earlier last ih =>
      intro start member
      rcases List.mem_append.mp member with early | late
      · exact ih start early
      · obtain ⟨count, -, -, -, made⟩ := last.delivered_eq
        obtain ⟨target, intent, callingFeatureId, returned, -, rfl⟩ := made start late
        exact ⟨rfl, rfl⟩

/-- In every run, with requests and the thread in any interleaving and any JNI calls raising, the
accepted actions are processed in the order they were accepted, none twice and none skipped; what
reached the activity manager is, action by action, a beginning of that action's intents, the whole
of them just when it succeeded, so a failing action takes nothing from the others. -/
theorem processor_delivers {url : Url} {uid : Option Int32}
    {callingPackage referer : String} {trace : List (ProcessorLabel Failure)}
    {state : Processor Failure}
    (run : (processor url uid callingPackage referer).Runs trace state) :
    accepted trace = state.processed.map Prod.fst ++ state.thread.current ++ state.queue ∧
      (∃ parts, delivered state.env.journal = parts.flatten ∧
        List.Forall₂ (fun entry part => part <+: intents url referer entry.1 ∧
          (entry.2 = .ok () ↔ part = intents url referer entry.1))
          state.processed parts) ∧
      ∀ start ∈ state.env.journal,
        start.callingPackage = callingPackage ∧ start.userId = uid.getD (-3) := by
  have valid := Processor.valid run
  exact ⟨valid.ordered, valid.accounts.delivered_eq, valid.accounts.configured⟩

/-- A request marked a channel as read while the first signature of `startService` was missing: the
older one started the intent. -/
theorem processor_delivers_markRead :
    ∃ (trace : List (ProcessorLabel Unit)) (state : Processor Unit),
      state.processed = [(.markRead 7, .ok ())] ∧
        state.env.journal.map (fun start => (start.callingFeatureId, start.returned)) =
          [(true, false), (false, true)] ∧
        (accepted trace = state.processed.map Prod.fst ++ state.thread.current ++ state.queue ∧
          (∃ parts, delivered state.env.journal = parts.flatten ∧
            List.Forall₂ (fun entry part => part <+: intents percentUrl "referer" entry.1 ∧
              (entry.2 = .ok () ↔ part = intents percentUrl "referer" entry.1))
              state.processed parts) ∧
          ∀ start ∈ state.env.journal,
            start.callingPackage = "com.android.shell" ∧
              start.userId = (none.getD (-3) : Int32)) := by
  let env : Env Unit Start := ⟨fun number => if number = 21 then some () else none, 0, []⟩
  let first : Processor Unit := ⟨.starting, [], env, []⟩
  have spawned : (processor percentUrl none "com.android.shell" "referer").Runs [] first :=
    .initial ⟨rfl, rfl, rfl, rfl⟩
  have enqueued := spawned.step (.enqueue first (.markRead 7))
  have attached := enqueued.step (.attach _ true rfl)
  have received := attached.step (.receive _ ⟨"com.android.shell", -3⟩ (.markRead 7) [] rfl rfl)
  have processed := received.step (.process _ ⟨"com.android.shell", -3⟩ (.markRead 7) rfl)
  refine ⟨_, _, ?_, ?_, processor_delivers processed⟩
  · rfl
  · decide +kernel

end Arisa.Android
