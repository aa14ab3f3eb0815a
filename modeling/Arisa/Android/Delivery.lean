import Arisa.Android.ContentUri
import Arisa.Android.Intent
import Arisa.Config.Load

/-!
# What an action starts

`android/api.rs` and `ActionProcessor::process`. Every JNI call may be refused. An
action has a plan, the intents it is made of; whatever is refused, the intents
that were started are a prefix of the plan, each started once.
-/

namespace Arisa.Android

open Arisa.Config Arisa.Media Arisa.Semantics.Faults

variable {Failure : Type}

/-- The activity manager's two entry points. -/
inductive Target where
  | service
  | activity
deriving DecidableEq

def Target.method : Target → Bool → String
  | .service, _ => "startService"
  | .activity, true => "startActivity"
  | .activity, false => "startActivityAsUser"

def Target.resolvedType : Target → Option String
  | .service => none
  | .activity => some "*/*"

/-- The record of a start; the arguments that are null or zero are left out. -/
def startOf (api : AndroidHiddenApi) (target : Target) (intent : Intent)
    (callingFeatureId returned : Bool) : Start where
  method := target.method callingFeatureId
  callingFeatureId := callingFeatureId
  callingPackage := api.callingPackage
  intent := intent
  resolvedType := target.resolvedType
  userId := api.uid
  returned := returned

/-- The signature with a feature id first; when that call is refused, the older one. -/
def startOrRetry (prepare : Jni Failure Unit) (api : AndroidHiddenApi) (target : Target)
    (intent : Intent) : Jni Failure Unit := do
  prepare
  let result ← attempt (record fun returned => some (startOf api target intent true returned))
  match result with
  | .ok () => pure ()
  | .error _ => do
      prepare
      record fun returned => some (startOf api target intent false returned)

def startService (api : AndroidHiddenApi) (intent : Intent) : Jni Failure Unit :=
  startOrRetry (do let _ ← newString api.callingPackage) api .service intent

def startActivity (api : AndroidHiddenApi) (intent : Intent) : Jni Failure Unit :=
  startOrRetry (do
    let _ ← newString api.callingPackage
    let _ ← newString "*/*") api .activity intent

/-- `find_class` and `getService`. -/
def getService (name : String) : Jni Failure Unit := do
  call
  let _ ← newString name
  call

/-- `AndroidHiddenApi::new`: after the binder `find_class`, `asInterface` and a global
reference. -/
def newApi (uid : Option Int32) (callingPackage : String) : Jni Failure AndroidHiddenApi := do
  getService "activity"
  calls 3
  pure (AndroidHiddenApi.new uid callingPackage)

section Process

variable (url : Url) (api : AndroidHiddenApi) (referer : String)

/-- The loop of the single mode over the files and their URIs. -/
def sendEach (channelId : Int64) : List (String × MediaFile) → Jni Failure Unit
  | [] => pure ()
  | (uri, file) :: rest => do
      let intent ← sendMedia channelId uri file.mime
      startActivity api intent
      sendEach channelId rest

def process : Action → Jni Failure Unit
  | .reply channelId message threadId => do
      let intent ← reply referer channelId message threadId
      startService api intent
  | .markRead channelId => do
      let intent ← markRead referer channelId
      startService api intent
  | .enterChannel channelId => do
      let intent ← enterChannel channelId
      startActivity api intent
  | .sendMedia channelId files multiple => do
      let uris := files.map (contentUri url)
      if multiple then
        let intent ← sendMediaMultiple channelId uris
        startActivity api intent
      else
        sendEach api channelId (uris.zip files)

/-- The intents an action is made of, in order, and what starts each. -/
def plan : Action → List (Target × Intent)
  | .reply channelId message threadId =>
      [(.service, replyIntent referer channelId message threadId)]
  | .markRead channelId => [(.service, markReadIntent referer channelId)]
  | .enterChannel channelId => [(.activity, enterChannelIntent channelId)]
  | .sendMedia channelId files true =>
      [(.activity, streamIntent "android.intent.action.SEND_MULTIPLE" "*/*"
        (.uris (files.map (contentUri url))) channelId)]
  | .sendMedia channelId files false =>
      files.map fun file =>
        (.activity, streamIntent "android.intent.action.SEND" file.mime
          (.uri (contentUri url file)) channelId)

end Process

section Attempts

variable (api : AndroidHiddenApi)

/-- The starts that one intent can leave. -/
inductive Attempted (target : Target) (intent : Intent) : Except Failure Unit → List Start → Prop
  | refused (failure : Failure) : Attempted target intent (.error failure) []
  | started : Attempted target intent (.ok ()) [startOf api target intent true true]
  | fellBack : Attempted target intent (.ok ())
      [startOf api target intent true false, startOf api target intent false true]
  | gaveUp (failure : Failure) :
      Attempted target intent (.error failure) [startOf api target intent true false]
  | failed (failure : Failure) : Attempted target intent (.error failure)
      [startOf api target intent true false, startOf api target intent false false]

/-- The starts that a plan can leave: the first intent that fails is the last. -/
inductive Delivers : List (Target × Intent) → Except Failure Unit → List Start → Prop
  | done : Delivers [] (.ok ()) []
  | next {target intent rest outcome starts later}
      (first : Attempted api target intent (.ok () : Except Failure Unit) starts)
      (others : Delivers rest outcome later) :
      Delivers ((target, intent) :: rest) outcome (starts ++ later)
  | stopped {target intent rest failure starts}
      (first : Attempted api target intent (.error failure) starts) :
      Delivers ((target, intent) :: rest) (.error failure) starts

/-- One attempt delivers one intent, or fails. -/
theorem Delivers.single {target : Target} {intent : Intent} {outcome : Except Failure Unit}
    {starts : List Start} (attempted : Attempted api target intent outcome starts) :
    Delivers api [(target, intent)] outcome starts := by
  cases outcome with
  | error failure => exact .stopped attempted
  | ok value =>
      have whole := Delivers.next attempted .done
      rwa [List.append_nil] at whole

variable {api}

/-- The second signature is tried only after the first was refused. -/
theorem emits_startOrRetry {prepare : Jni Failure Unit} (count : Nat)
    (prepared : ∀ next : Unit → Jni Failure Unit,
      (prepare >>= next) = (calls count >>= next))
    (target : Target) (intent : Intent) (env : Env Failure Start) :
    Emits (startOrRetry prepare api target intent) (Attempted api target intent) env := by
  rw [startOrRetry, prepared]
  refine .after_calls count (fun env => ?_) (fun failure => .refused failure) env
  have first : Emits
      (attempt (record fun returned => some (startOf api target intent true returned)))
      (fun outcome starts =>
        (outcome = .ok (.ok ()) ∧ starts = [startOf api target intent true true]) ∨
          ∃ failure : Failure, outcome = .ok (.error failure) ∧
            starts = [startOf api target intent true false]) env := by
    have recorded : Emits (record fun returned => some (startOf api target intent true returned))
        (fun outcome starts =>
          (outcome = .ok () ∧ starts = [startOf api target intent true true]) ∨
            ∃ failure : Failure, outcome = .error failure ∧
              starts = [startOf api target intent true false]) env :=
      emits_record (.inl ⟨rfl, rfl⟩) (fun failure => .inr ⟨failure, rfl, rfl⟩) env
    apply recorded.attempt.mono
    rintro _ _ ⟨_, rfl, ⟨rfl, rfl⟩ | ⟨failure, rfl, rfl⟩⟩
    · exact .inl ⟨rfl, rfl⟩
    · exact .inr ⟨failure, rfl, rfl⟩
  apply first.bind
  · rintro result starts (⟨same, rfl⟩ | ⟨failure, same, rfl⟩) later
    · cases same
      exact emits_pure .started later
    · cases same
      simp only [prepared]
      refine .after_calls count (fun env => ?_) (fun other => .gaveUp other) later
      exact emits_record .fellBack (fun other => .failed other) env
  · rintro failure starts (⟨same, -⟩ | ⟨_, same, -⟩)
    · cases same
    · cases same

/-- Starting a service is such an attempt. -/
theorem emits_startService (intent : Intent) (env : Env Failure Start) :
    Emits (startService api intent) (Attempted api .service intent) env := by
  apply emits_startOrRetry 1
  intro next
  simp [newString, callMethod_bind]

/-- Starting an activity is one as well. -/
theorem emits_startActivity (intent : Intent) (env : Env Failure Start) :
    Emits (startActivity api intent) (Attempted api .activity intent) env := by
  apply emits_startOrRetry 2
  intro next
  simp [newString, callMethod_bind]

/-- A builder and the start of what it makes. -/
theorem emits_built {builder : Jni Failure Intent} {count : Nat} {intent : Intent}
    (built : builder = (calls count >>= fun _ => pure intent))
    {target : Target} {start : Intent → Jni Failure Unit}
    (starts : ∀ intent env, Emits (start intent) (Attempted api target intent) env)
    (env : Env Failure Start) :
    Emits (builder >>= start) (Attempted api target intent) env := by
  rw [built, bind_assoc]
  simp only [pure_bind]
  exact .after_calls count (fun env => starts intent env) (fun failure => .refused failure) env

/-- The loop stops at the first file that fails. -/
theorem emits_sendEach (url : Url) (channelId : Int64)
    (files : List MediaFile) (env : Env Failure Start) :
    Emits (sendEach api channelId ((files.map (contentUri url)).zip files))
      (Delivers api (plan url "" (.sendMedia channelId files false))) env := by
  induction files generalizing env with
  | nil => exact emits_pure .done env
  | cons file rest ih =>
      rw [List.map_cons, List.zip_cons_cons, sendEach, ← bind_assoc]
      apply (emits_built (sendMedia_eq channelId (contentUri url file) file.mime)
        emits_startActivity env).bind
      · rintro ⟨⟩ starts attempted later
        exact (ih later).mono fun _ _ => .next attempted
      · intro failure starts attempted
        exact .stopped attempted

/-- Whatever calls are refused, an action starts a beginning of its plan. -/
theorem emits_process (url : Url) (referer : String) (action : Action)
    (env : Env Failure Start) :
    Emits (process url api referer action)
      (Delivers api (plan url referer action)) env := by
  have single {target intent} {computation : Jni Failure Unit}
      (emits : Emits computation (Attempted api target intent) env) :
      Emits computation (Delivers api [(target, intent)]) env :=
    emits.mono fun _ _ => .single api
  cases action with
  | reply channelId message threadId =>
      exact single (emits_built (reply_eq ..) emits_startService env)
  | markRead channelId => exact single (emits_built (markRead_eq ..) emits_startService env)
  | enterChannel channelId =>
      exact single (emits_built (enterChannel_eq ..) emits_startActivity env)
  | sendMedia channelId files multiple =>
      cases multiple with
      | true => exact single (emits_built (sendMediaMultiple_eq ..) emits_startActivity env)
      | false => exact emits_sendEach url channelId files env

end Attempts

/-- The intents of the starts that returned. -/
def delivered (starts : List Start) : List Intent :=
  (starts.filter Start.returned).map Start.intent

/-- Without starts nothing is delivered. -/
@[simp] theorem delivered_nil : delivered [] = [] := rfl

/-- What is delivered by two runs of starts is what each of them delivers. -/
@[simp] theorem delivered_append (first second : List Start) :
    delivered (first ++ second) = delivered first ++ delivered second := by
  simp [delivered]

/-- A start made for an action that got as far as `count` intents: for one of these or for the
next, in the name of the configured package and user. -/
def MadeFor (api : AndroidHiddenApi) (plan : List (Target × Intent)) (count : Nat)
    (start : Start) : Prop :=
  ∃ target intent callingFeatureId returned, (target, intent) ∈ plan.take (count + 1) ∧
    start = startOf api target intent callingFeatureId returned

section Delivered

variable {api : AndroidHiddenApi} {target : Target} {intent : Intent}
  {outcome : Except Failure Unit} {starts : List Start}

/-- An attempt delivers its intent exactly if it succeeds. -/
theorem Attempted.delivered_eq (attempted : Attempted api target intent outcome starts) :
    delivered starts = if outcome.isOk then [intent] else [] := by
  cases attempted <;> rfl

/-- Each of its starts is one of the intent, for the configured package and user. -/
theorem Attempted.madeFor (attempted : Attempted api target intent outcome starts) {start : Start}
    (member : start ∈ starts) :
    ∃ callingFeatureId returned, start = startOf api target intent callingFeatureId returned := by
  cases attempted with
  | refused => cases member
  | started | gaveUp =>
      rw [List.mem_singleton.mp member]
      exact ⟨_, _, rfl⟩
  | fellBack | failed =>
      rcases List.mem_pair.mp member with rfl | rfl
      · exact ⟨_, _, rfl⟩
      · exact ⟨_, _, rfl⟩

/-- What was delivered is a beginning of the plan, all of it just when the action succeeds. -/
theorem Delivers.delivered_eq {plan : List (Target × Intent)}
    (delivers : Delivers api plan outcome starts) :
    ∃ count, count ≤ plan.length ∧ (outcome = .ok () ↔ count = plan.length) ∧
      delivered starts = (plan.take count).map Prod.snd ∧
      ∀ start ∈ starts, MadeFor api plan count start := by
  induction delivers with
  | done => exact ⟨0, Nat.le_refl _, by simp, rfl, by simp⟩
  | @next target intent rest outcome starts later first others ih =>
      obtain ⟨count, bounded, finished, same, made⟩ := ih
      refine ⟨count + 1, Nat.succ_le_succ bounded, ?_, ?_, ?_⟩
      · rw [finished, List.length_cons, Nat.add_right_cancel_iff]
      · rw [delivered_append, first.delivered_eq, same]
        rfl
      · intro start member
        rcases List.mem_append.mp member with early | late
        · obtain ⟨callingFeatureId, returned, rfl⟩ := first.madeFor early
          exact ⟨target, intent, callingFeatureId, returned, List.mem_cons_self .., rfl⟩
        · obtain ⟨target, intent, callingFeatureId, returned, planned, rfl⟩ := made start late
          exact ⟨target, intent, callingFeatureId, returned, List.mem_cons_of_mem _ planned, rfl⟩
  | @stopped target intent rest failure starts first =>
      refine ⟨0, Nat.zero_le _, by simp, ?_, ?_⟩
      · rw [first.delivered_eq]
        rfl
      · intro start member
        obtain ⟨callingFeatureId, returned, rfl⟩ := first.madeFor member
        exact ⟨target, intent, callingFeatureId, returned, List.mem_cons_self .., rfl⟩

end Delivered

/-- Whichever JNI calls raise, processing an action delivers a beginning of its plan, each intent
complete and once, and all of it just when it returns `Ok`; every attempt is made for the
configured package and user. It returns an error only when a call of its own raised. -/
theorem process_delivers (url : Url) (api : AndroidHiddenApi)
    (referer : String) (action : Action) (env : Env Failure Start) :
    let planned := plan url referer action
    let result := process url api referer action env
    ∃ starts count, result.2.journal = env.journal ++ starts ∧
      count ≤ planned.length ∧ (result.1 = .ok () ↔ count = planned.length) ∧
      delivered starts = (planned.take count).map Prod.snd ∧
      (∀ start ∈ starts, MadeFor api planned count start) ∧
      ∀ failure, result.1 = .error failure → ∃ number, env.made ≤ number ∧
        number < result.2.made ∧ env.refuses number = some failure := by
  intro planned result
  have emits : Emits (process url api referer action) (Delivers api planned) env :=
    emits_process url referer action env
  obtain ⟨starts, journal, delivers⟩ := emits.added
  obtain ⟨count, bounded, finished, same, made⟩ := delivers.delivered_eq
  exact ⟨starts, count, journal, bounded, finished, same, made, emits.blamed⟩

end Arisa.Android
