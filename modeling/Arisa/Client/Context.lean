import Arisa.Client.Isolation

/-!
# The context of a handler

`context.py`: what a handler reads of its event and the requests it makes. The
requests are addressed by the envelope, so they do not depend on which part of
the event a route has matched.
-/

namespace Arisa.Client

open Arisa.Proto

inductive ContextError where
  /-- `betterproto2.unwrap` of a message that is not there. -/
  | unwrap
  | valueError (message : String)
deriving DecidableEq

namespace AiriContext

/-- `self.envelope.channel`. -/
def envelopeChannel (context : AiriContext) : Option Channel :=
  match context.envelope with
  | .message message => message.channel
  | .feed feed => feed.channel

def channel (context : AiriContext) : Except ContextError Channel :=
  match context.envelopeChannel with
  | some channel => .ok channel
  | none => .error .unwrap

def threadId (context : AiriContext) : Option Int64 :=
  match context.envelope with
  | .message message => message.threadId
  | .feed _ => none

/-- `reply`, up to the call of the bot. -/
def reply (context : AiriContext) (message : String) (threadReply : Bool) :
    Except ContextError ReplyRequest := do
  let threadId ←
    if threadReply then
      match context.threadId with
      | some threadId => .ok (some threadId)
      | none => .error (.valueError "the current event is not in a thread")
    else .ok none
  let channel ← context.channel
  return ⟨channel.id, message, threadId⟩

def read (context : AiriContext) : Except ContextError MarkReadRequest := do
  let channel ← context.channel
  return ⟨channel.id⟩

def getUsers (context : AiriContext) (userIds : List Int64) :
    Except ContextError GetUsersRequest := do
  let channel ← context.channel
  return ⟨channel.id, userIds⟩

def getChannelMemberIds (context : AiriContext) : Except ContextError GetChannelMembersRequest := do
  let channel ← context.channel
  return ⟨channel.id⟩

def getMessage (context : AiriContext) (messageId : Int64) :
    Except ContextError GetMessageRequest := do
  let channel ← context.channel
  return ⟨channel.id, messageId⟩

def getMessages (context : AiriContext) (messageIds : List Int64) :
    Except ContextError GetMessagesRequest := do
  let channel ← context.channel
  return ⟨channel.id, messageIds⟩

end AiriContext

variable {σ : Type}

/-- Every handler is called with the part of the event that its route is for, in the envelope that
`call_routes` was given, whatever the callbacks do. -/
theorem callRoutes_calls {current : AiriContext} {routes : List (Route σ)} {state : σ}
    {call : Route σ × AiriContext} (member : call ∈ (callRoutes current routes state).calls) :
    call.1 ∈ routes ∧ call.2.envelope = current.envelope ∧
      matchEvent current.envelope call.1.eventType = some call.2.event := by
  induction routes generalizing state with
  | nil => cases member
  | cons route rest ih =>
      have later {state : σ} (member : call ∈ (callRoutes current rest state).calls) :
          call.1 ∈ route :: rest ∧ call.2.envelope = current.envelope ∧
            matchEvent current.envelope call.1.eventType = some call.2.event := by
        obtain ⟨listed, found⟩ := ih member
        exact ⟨List.mem_cons_of_mem _ listed, found⟩
      unfold callRoutes at member
      cases matching : matchEvent current.envelope route.eventType with
      | none =>
          rw [matching] at member
          exact later member
      | some matched =>
          have own : (route, current.withEvent matched).1 ∈ route :: rest ∧
              (current.withEvent matched).envelope = current.envelope ∧
              matchEvent current.envelope route.eventType =
                some (current.withEvent matched).event :=
            ⟨List.mem_cons_self .., rfl, matching⟩
          rw [matching] at member
          simp only at member
          split at member
          · cases member
          · exact later member
          · split at member
            · rw [List.mem_singleton.mp member]
              exact own
            · rcases List.mem_cons.mp member with rfl | member
              · exact own
              · exact later member
            · rcases List.mem_cons.mp member with rfl | member
              · exact own
              · exact later member

/-- What is matched is of the class that was asked for. -/
theorem matchEvent_isInstance {event : EventValue} {eventType : EventType} {matched : Matched}
    (found : matchEvent event eventType = some matched) : matched.isInstance eventType = true := by
  unfold matchEvent at found
  split at found
  · rename_i instance_
    cases found
    exact instance_
  · split at found
    · cases found
    · split at found
      · cases found
      · split at found
        · cases found
        · split at found
          · rename_i instance_
            cases found
            exact instance_
          · cases found

/-- The middlewares leave the envelope of a context alone. -/
def KeepEnvelopes (middlewares : List (PassThrough σ)) : Prop :=
  ∀ middleware ∈ middlewares, ∀ context state,
    (middleware.enter context state).1.envelope = context.envelope

/-- Middlewares that keep the envelope hand on the one they were given. -/
theorem enterAll_envelope {middlewares : List (PassThrough σ)} (keep : KeepEnvelopes middlewares)
    (current : AiriContext) (state : σ) :
    (PassThrough.enterAll middlewares current state).1.envelope = current.envelope := by
  induction middlewares generalizing current state with
  | nil => rfl
  | cons first rest ih =>
      obtain ⟨here, others⟩ := List.forall_mem_cons.mp keep
      rw [PassThrough.enterAll, ih others, here]

/-- The same through any middlewares that leave envelopes alone. -/
theorem dispatch_calls {routes : List (Route σ)} {middlewares : List (PassThrough σ)}
    (keep : KeepEnvelopes middlewares) {event : EventValue} {state : σ}
    {call : Route σ × AiriContext}
    (member : call ∈
      (dispatch routes (middlewares.map PassThrough.middleware) event state).calls) :
    call.1 ∈ routes ∧ call.2.envelope = event ∧
      call.2.event.isInstance call.1.eventType = true := by
  rw [dispatch, PassThrough.foldr_middleware] at member
  obtain ⟨listed, envelope, found⟩ := callRoutes_calls member
  rw [enterAll_envelope keep] at envelope
  exact ⟨listed, envelope, matchEvent_isInstance found⟩

end Arisa.Client
