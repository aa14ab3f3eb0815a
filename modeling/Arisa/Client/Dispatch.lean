import Arisa.Client.Connection

/-!
# How the Python client dispatches an event

`dispatch`, `_match_event` and `_passes` of `client.py`. A callback is a
function of its context and of the state that callbacks share, which includes
the dictionary of the context but not the list of routes. The `except Exception`
of `call_routes` stands around the handler only, so an exception of a filter
ends the dispatch.
-/

namespace Arisa.Client

open Arisa.Proto

/-- What a callback raised: an `Exception`, or a `BaseException` that is none. -/
inductive Raised where
  | exception (failure : Failure)
  | exit
deriving DecidableEq

/-- What `run` sees of it. -/
def Raised.failure : Raised → Failure
  | .exception failure => failure
  | .exit => .other

/-- The classes a matched value can have. -/
inductive EventClass where
  | messageEvent
  | feedEvent
  | feedUserJoined
  | feedUserLeft
  | feedUserKicked
  | feedMessageDeleted
  | feedMessageChanged
  | feedMessageHidden
  | feedHostChanged
  | feedModeratorAdded
  | feedModeratorRemoved
  | feedManagerSpeakerMode
  | feedOpenLinkDeleted
  | feedUnknown
deriving DecidableEq

/-- `route.event_type`, by the classes of its instances. -/
abbrev EventType := EventClass → Bool

/-- What a route can be called with: an event, or the payload of a feed. -/
inductive Matched where
  | event (event : EventValue)
  | payload (feed : FeedValue)
deriving DecidableEq

/-- `type(value)`. -/
def Matched.type : Matched → EventClass
  | .event (.message _) => .messageEvent
  | .event (.feed _) => .feedEvent
  | .payload (.userJoined _) => .feedUserJoined
  | .payload (.userLeft _) => .feedUserLeft
  | .payload (.userKicked _) => .feedUserKicked
  | .payload (.messageDeleted _) => .feedMessageDeleted
  | .payload (.messageChanged _) => .feedMessageChanged
  | .payload (.messageHidden _) => .feedMessageHidden
  | .payload (.hostChanged _) => .feedHostChanged
  | .payload (.moderatorAdded _) => .feedModeratorAdded
  | .payload (.moderatorRemoved _) => .feedModeratorRemoved
  | .payload (.managerSpeakerMode _) => .feedManagerSpeakerMode
  | .payload (.openLinkDeleted _) => .feedOpenLinkDeleted
  | .payload (.unknown _) => .feedUnknown

/-- `isinstance(value, event_type)`. -/
def Matched.isInstance (value : Matched) (eventType : EventType) : Bool :=
  eventType value.type

/-- `_match_event`. -/
def matchEvent (event : EventValue) (eventType : EventType) : Option Matched :=
  if (Matched.event event).isInstance eventType then some (.event event)
  else
    match event with
    | .message _ => none
    | .feed feedEvent =>
        match feedEvent.feed with
        | none => none
        | some payload =>
            match payload.value with
            | none => none
            | some value =>
                if (Matched.payload value).isInstance eventType then some (.payload value)
                else none

/-- `AiriContext`; its `state` is part of the shared state. -/
structure AiriContext where
  event : Matched
  envelope : EventValue
deriving DecidableEq

/-- `_with_event`. -/
def AiriContext.withEvent (context : AiriContext) (event : Matched) : AiriContext :=
  { context with event }

section Callbacks

variable (σ : Type)

/-- A call into user code, awaited to its end. -/
abbrev Callback (α : Type) := σ → Except Raised α × σ

/-- What a filter returns. -/
inductive FilterResult where
  | plain (result : Bool)
  | awaitable (wait : Callback σ Bool)

abbrev Filter := AiriContext → Callback σ (FilterResult σ)

structure Route where
  eventType : EventType
  handler : AiriContext → Callback σ Unit
  filters : List (Filter σ)

/-- How a part of a dispatch ended, and the handlers it called. -/
structure Dispatched where
  result : Except Raised Unit
  state : σ
  calls : List (Route σ × AiriContext)

abbrev Next := AiriContext → σ → Dispatched σ

abbrev Middleware := AiriContext → Next σ → σ → Dispatched σ

end Callbacks

variable {σ : Type}

/-- One turn of the loop of `_passes`. -/
def callFilter (filter : Filter σ) (context : AiriContext) : Callback σ Bool :=
  fun state =>
    match filter context state with
    | (.error raised, after) => (.error raised, after)
    | (.ok (.plain result), after) => (.ok result, after)
    | (.ok (.awaitable wait), after) => wait after

/-- `_passes`. -/
def passes (context : AiriContext) : List (Filter σ) → Callback σ Bool
  | [], state => (.ok true, state)
  | filter :: rest, state =>
      match callFilter filter context state with
      | (.error raised, after) => (.error raised, after)
      | (.ok false, after) => (.ok false, after)
      | (.ok true, after) => passes context rest after

/-- The call of a handler comes before those of the later routes. -/
def Dispatched.called (call : Route σ × AiriContext) (later : Dispatched σ) : Dispatched σ :=
  { later with calls := call :: later.calls }

/-- `call_routes`. -/
def callRoutes (current : AiriContext) : List (Route σ) → σ → Dispatched σ
  | [], state => ⟨.ok (), state, []⟩
  | route :: rest, state =>
      match matchEvent current.envelope route.eventType with
      | none => callRoutes current rest state
      | some matched =>
          let routeContext := current.withEvent matched
          match passes routeContext route.filters state with
          | (.error raised, after) => ⟨.error raised, after, []⟩
          | (.ok false, after) => callRoutes current rest after
          | (.ok true, after) =>
              match route.handler routeContext after with
              | (.error .exit, last) => ⟨.error .exit, last, [(route, routeContext)]⟩
              -- `except Exception` prints the traceback and goes on.
              | (.error (.exception _), last) =>
                  (callRoutes current rest last).called (route, routeContext)
              | (.ok (), last) => (callRoutes current rest last).called (route, routeContext)

/-- `BotClient.dispatch`: the first middleware is the outermost one. -/
def dispatch (routes : List (Route σ)) (middlewares : List (Middleware σ)) (event : EventValue)
    (state : σ) : Dispatched σ :=
  middlewares.foldr (fun middleware inner current => middleware current inner)
    (fun current => callRoutes current routes) ⟨.event event, event⟩ state

/-- `run` after a dispatch: it asks for the next event, or `_run_once` raises. -/
def BotClient.afterDispatch (client : BotClient) (stub : Nat) :
    Except Raised Unit → BotClient × Task
  | .ok () => (client, .streaming stub)
  | .error raised => client.afterOnce (some raised.failure)

/-- These are the turns of `run` in a dispatch. -/
theorem turn_afterDispatch (transport : Transport) (client : BotClient) (stub : Nat)
    (result : Except Raised Unit) :
    Turn transport client (.dispatching stub) .moved (client.afterDispatch stub result).1
      (client.afterDispatch stub result).2 := by
  rcases result with raised | ⟨⟩
  · exact .raised client stub raised.failure
  · exact .handled client stub

/-- `run` survives a dispatch exactly when it returns. -/
theorem afterDispatch_eq_streaming_iff {result : Except Raised Unit} :
    (∀ (client : BotClient) (stub : Nat),
      client.afterDispatch stub result = (client, .streaming stub)) ↔ result = .ok () := by
  constructor
  · intro survives
    rcases result with raised | ⟨⟩
    · have ended := survives (.init false) 0
      simp only [BotClient.afterDispatch, BotClient.afterOnce, BotClient.init, Bool.not_false,
        Bool.true_or, Bool.false_eq_true, if_true, ite_self] at ended
      cases (Prod.mk.inj ended).2
    · rfl
  · rintro rfl client stub
    rfl

end Arisa.Client
