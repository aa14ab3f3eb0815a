import Arisa.Client.Dispatch

/-!
# Whether the routes of a dispatch are isolated from each other

An exception of a handler stays with its route. One of a filter ends the
dispatch, and with it `run`, unless a middleware suppresses it; then the
handlers of the later routes are still lost.
-/

namespace Arisa.Client

open Arisa.Proto

variable {σ : Type}

/-- A callback that leaves the shared state alone and raises nothing but an `Exception`. -/
def Harmless {α : Type} (callback : Callback σ α) : Prop :=
  ∀ state, (callback state).2 = state ∧ (callback state).1 ≠ .error .exit

structure Route.Harmless (route : Route σ) : Prop where
  filters : ∀ filter ∈ route.filters, ∀ context, Client.Harmless (callFilter filter context)
  handler : ∀ context, Client.Harmless (route.handler context)

/-- A middleware that calls `next` exactly once and does not raise itself: what
it passes to `next`, and how it ends, given how `next` ended. -/
structure PassThrough (σ : Type) where
  enter : AiriContext → σ → AiriContext × σ
  leave : AiriContext → σ → Except Raised Unit → σ → Except Raised Unit × σ
  leave_ok : ∀ current state after, (leave current state (.ok ()) after).1 = .ok ()

namespace PassThrough

def middleware (passThrough : PassThrough σ) : Middleware σ :=
  fun current next state =>
    let entered := passThrough.enter current state
    let inner := next entered.1 entered.2
    let left := passThrough.leave current state inner.result inner.state
    ⟨left.1, left.2, inner.calls⟩

/-- The context and the state in which `call_routes` is called. -/
def enterAll : List (PassThrough σ) → AiriContext → σ → AiriContext × σ
  | [], current, state => (current, state)
  | first :: rest, current, state =>
      let entered := first.enter current state
      enterAll rest entered.1 entered.2

/-- How the middlewares end, from the innermost to the outermost. -/
def leaveAll : List (PassThrough σ) → AiriContext → σ → Except Raised Unit → σ →
    Except Raised Unit × σ
  | [], _, _, result, after => (result, after)
  | first :: rest, current, state, result, after =>
      let entered := first.enter current state
      let inner := leaveAll rest entered.1 entered.2 result after
      first.leave current state inner.1 inner.2

/-- Middlewares that pass on do not make a dispatch raise that has returned. -/
theorem leaveAll_ok (middlewares : List (PassThrough σ)) (current : AiriContext)
    (state after : σ) : (leaveAll middlewares current state (.ok ()) after).1 = .ok () := by
  induction middlewares generalizing current state with
  | nil => rfl
  | cons first rest ih =>
      simp only [leaveAll]
      rw [ih]
      exact first.leave_ok current state _

/-- The chain of wrappers around `next`. -/
theorem foldr_middleware (middlewares : List (PassThrough σ)) (next : Next σ)
    (current : AiriContext) (state : σ) :
    (middlewares.map middleware).foldr (fun middleware inner current => middleware current inner)
        next current state =
      let reached := enterAll middlewares current state
      let inner := next reached.1 reached.2
      let left := leaveAll middlewares current state inner.result inner.state
      ⟨left.1, left.2, inner.calls⟩ := by
  induction middlewares generalizing current state with
  | nil => rfl
  | cons first rest ih =>
      rw [List.map_cons, List.foldr_cons]
      simp only [middleware, ih]
      rfl

end PassThrough

/-- What `call_routes` does with one route. -/
inductive Visit where
  | skipped
  | ran (context : AiriContext) (ended : Except Raised Unit)
  /-- A filter raised. -/
  | stopped (raised : Raised)

/-- The visit of a route, in the context and the state that `call_routes` was called in. -/
def Route.visit (entry : AiriContext × σ) (route : Route σ) : Visit :=
  match matchEvent entry.1.envelope route.eventType with
  | none => .skipped
  | some matched =>
      let routeContext := entry.1.withEvent matched
      match passes routeContext route.filters entry.2 with
      | (.error raised, _) => .stopped raised
      | (.ok false, _) => .skipped
      | (.ok true, after) => .ran routeContext (route.handler routeContext after).1

/-- The filter or the handler of the route raises. -/
def Route.raises (entry : AiriContext × σ) (route : Route σ) : Bool :=
  match route.visit entry with
  | .skipped => false
  | .ran _ (.ok ()) => false
  | .ran _ (.error _) => true
  | .stopped _ => true

/-- The call of the route's handler, if there is one. -/
def Route.call (entry : AiriContext × σ) (route : Route σ) : Option (Route σ × AiriContext) :=
  match route.visit entry with
  | .ran context _ => some (route, context)
  | .skipped => none
  | .stopped _ => none

/-- Harmless filters are harmless in a row. -/
theorem passes_harmless {context : AiriContext} {filters : List (Filter σ)}
    (harmless : ∀ filter ∈ filters, Harmless (callFilter filter context)) :
    Harmless (passes context filters) := by
  intro state
  induction filters with
  | nil => exact ⟨rfl, by simp [passes]⟩
  | cons filter rest ih =>
      obtain ⟨first, others⟩ := List.forall_mem_cons.mp harmless
      obtain ⟨unchanged, noExit⟩ := first state
      unfold passes
      rcases answered : callFilter filter context state with ⟨raised | passed, after⟩
      · rw [answered] at unchanged noExit
        exact ⟨unchanged, noExit⟩
      · rw [answered] at unchanged
        cases passed with
        | false => exact ⟨unchanged, by simp⟩
        | true =>
            simp only at unchanged ⊢
            rw [unchanged]
            exact ih others

/-- One turn of the loop over the routes. -/
theorem callRoutes_cons {route : Route σ} (harmless : route.Harmless) (current : AiriContext)
    (rest : List (Route σ)) (state : σ) :
    callRoutes current (route :: rest) state =
      match route.visit (current, state) with
      | .skipped => callRoutes current rest state
      | .ran context _ => (callRoutes current rest state).called (route, context)
      | .stopped raised => ⟨.error raised, state, []⟩ := by
  rw [callRoutes, Route.visit]
  cases matchEvent current.envelope route.eventType with
  | none => rfl
  | some matched =>
      obtain ⟨unchanged, -⟩ := passes_harmless
        (fun filter member => harmless.filters filter member (current.withEvent matched)) state
      simp only
      rcases asked : passes (current.withEvent matched) route.filters state with
        ⟨raised | passed, after⟩
      · rw [asked] at unchanged
        simp only at unchanged ⊢
        rw [unchanged]
      · rw [asked] at unchanged
        simp only at unchanged
        subst unchanged
        cases passed with
        | false => rfl
        | true =>
            obtain ⟨kept, noExit⟩ := harmless.handler (current.withEvent matched) after
            simp only
            rcases handled : route.handler (current.withEvent matched) after with
              ⟨(failure | _) | ⟨⟩, last⟩
            · rw [handled] at kept
              simp only at kept ⊢
              rw [kept]
            · rw [handled] at noExit
              exact absurd rfl noExit
            · rw [handled] at kept
              simp only at kept ⊢
              rw [kept]

section Routes

variable {entry : AiriContext × σ}

/-- A filter of the route raises. -/
def Route.Stops (entry : AiriContext × σ) (route : Route σ) : Prop :=
  ∃ raised, route.visit entry = .stopped raised

/-- The handler of the route runs to its end. -/
def Route.Completes (entry : AiriContext × σ) (route : Route σ) : Prop :=
  ∃ context, route.visit entry = .ran context (.ok ())

/-- A route that does not raise stops nothing. -/
theorem Route.not_stops_of_not_raises {route : Route σ}
    (quiet : route.raises entry = false) : ¬ route.Stops entry := by
  rintro ⟨raised, stopped⟩
  simp [Route.raises, stopped] at quiet

/-- The handlers called are those of the routes before the first one with a filter that raises. -/
theorem callRoutes_append {before : List (Route σ)} (rest : List (Route σ))
    (harmless : ∀ route ∈ before, route.Harmless)
    (goOn : ∀ route ∈ before, ¬ route.Stops entry) :
    callRoutes entry.1 (before ++ rest) entry.2 =
      { callRoutes entry.1 rest entry.2 with
        calls := before.filterMap (Route.call entry) ++
          (callRoutes entry.1 rest entry.2).calls } := by
  induction before with
  | nil => rfl
  | cons route others ih =>
      obtain ⟨harmlessHere, harmlessLater⟩ := List.forall_mem_cons.mp harmless
      obtain ⟨goesOn, laterGoOn⟩ := List.forall_mem_cons.mp goOn
      rw [List.cons_append, callRoutes_cons harmlessHere, ih harmlessLater laterGoOn]
      cases visited : route.visit entry with
      | skipped => simp [Route.call, visited]
      | ran context ended => simp [Route.call, visited, Dispatched.called]
      | stopped raised => exact absurd ⟨raised, visited⟩ goesOn

/-- Where no filter raises, every route that matches is called. -/
theorem callRoutes_of_not_stops {routes : List (Route σ)}
    (harmless : ∀ route ∈ routes, route.Harmless)
    (goOn : ∀ route ∈ routes, ¬ route.Stops entry) :
    callRoutes entry.1 routes entry.2 =
      ⟨.ok (), entry.2, routes.filterMap (Route.call entry)⟩ := by
  have whole := callRoutes_append [] harmless goOn
  simpa [callRoutes] using whole

/-- Otherwise the routes in front of the first such filter are called, and the dispatch raises. -/
theorem callRoutes_of_stops {before after : List (Route σ)} {route : Route σ} {raised : Raised}
    (harmless : ∀ other ∈ before ++ route :: after, other.Harmless)
    (goOn : ∀ earlier ∈ before, ¬ earlier.Stops entry)
    (stopped : route.visit entry = .stopped raised) :
    callRoutes entry.1 (before ++ route :: after) entry.2 =
      ⟨.error raised, entry.2, before.filterMap (Route.call entry)⟩ := by
  have harmlessBefore : ∀ earlier ∈ before, earlier.Harmless :=
    fun earlier member => harmless earlier (List.mem_append_left _ member)
  have harmlessHere : route.Harmless := harmless route (by simp)
  rw [callRoutes_append (route :: after) harmlessBefore goOn, callRoutes_cons harmlessHere, stopped]
  simp

/-- The calls of the routes that do not raise. -/
theorem filter_calls (routes : List (Route σ)) :
    (routes.filterMap (Route.call entry)).filter (fun call => !call.1.raises entry) =
      (routes.filter fun route => !route.raises entry).filterMap (Route.call entry) := by
  induction routes with
  | nil => rfl
  | cons route rest ih =>
      cases visited : route.visit entry with
      | skipped =>
          have quiet : route.raises entry = false := by simp [Route.raises, visited]
          simp [Route.call, visited, quiet, ih]
      | ran context ended =>
          cases ended with
          | error raised =>
              have loud : route.raises entry = true := by simp [Route.raises, visited]
              simp [Route.call, visited, loud, ih]
          | ok value =>
              have quiet : route.raises entry = false := by simp [Route.raises, visited]
              simp [Route.call, visited, quiet, ih]
      | stopped raised =>
          have loud : route.raises entry = true := by simp [Route.raises, visited]
          simp [Route.call, visited, loud, ih]

/-- A route that does not raise calls its handler exactly when this runs to its end. -/
theorem calls_eq_nil_iff (routes : List (Route σ)) :
    (routes.filter fun route => !route.raises entry).filterMap (Route.call entry) = [] ↔
      ∀ route ∈ routes, ¬ route.Completes entry := by
  rw [List.filterMap_eq_nil_iff]
  constructor
  · rintro none route member ⟨context, completes⟩
    have quiet : route.raises entry = false := by simp [Route.raises, completes]
    have silent := none route (List.mem_filter.mpr ⟨member, by simp [quiet]⟩)
    simp [Route.call, completes] at silent
  · intro none route member
    obtain ⟨registered, quiet⟩ := List.mem_filter.mp member
    have notCompletes := none route registered
    cases visited : route.visit entry with
    | skipped => simp [Route.call, visited]
    | ran context ended =>
        cases ended with
        | error raised => simp [Route.raises, visited] at quiet
        | ok value => exact absurd ⟨context, visited⟩ notCompletes
    | stopped raised => simp [Route.call, visited]

/-- Some route has a filter that raises: the first one. -/
theorem exists_first_stop {routes : List (Route σ)}
    (stops : ¬ ∀ route ∈ routes, ¬ route.Stops entry) :
    ∃ before route after raised, routes = before ++ route :: after ∧
      (∀ earlier ∈ before, ¬ earlier.Stops entry) ∧
      route.visit entry = .stopped raised := by
  induction routes with
  | nil => simp at stops
  | cons first rest ih =>
      by_cases here : first.Stops entry
      · obtain ⟨raised, stopped⟩ := here
        exact ⟨[], first, rest, raised, rfl, by simp, stopped⟩
      · have later : ¬ ∀ route ∈ rest, ¬ route.Stops entry :=
          fun none => stops (List.forall_mem_cons.mpr ⟨here, none⟩)
        obtain ⟨before, route, after, raised, rfl, goOn, stopped⟩ := ih later
        exact ⟨first :: before, route, after, raised, rfl,
          List.forall_mem_cons.mpr ⟨here, goOn⟩, stopped⟩

end Routes

/-- The context and the state in which the routes are visited. -/
def reached (middlewares : List (PassThrough σ)) (event : EventValue) (state : σ) :
    AiriContext × σ :=
  PassThrough.enterAll middlewares ⟨.event event, event⟩ state

/-- The middlewares end normally around a `next` that raises. -/
def Suppressed (middlewares : List (PassThrough σ)) (event : EventValue) (state : σ)
    (raised : Raised) : Prop :=
  (PassThrough.leaveAll middlewares ⟨.event event, event⟩ state (.error raised)
    (reached middlewares event state).2).1 = .ok ()

/-- A dispatch returns, and so does not concern `run`, and calls the handlers of
the routes that do not raise as if the others were not registered. -/
structure Isolates (routes : List (Route σ)) (middlewares : List (PassThrough σ))
    (event : EventValue) (state : σ) : Prop where
  returns : (dispatch routes (middlewares.map PassThrough.middleware) event state).result = .ok ()
  calls :
    let raises := Route.raises (reached middlewares event state)
    (dispatch routes (middlewares.map PassThrough.middleware) event state).calls.filter
        (fun call => !raises call.1) =
      (dispatch (routes.filter fun route => !raises route)
        (middlewares.map PassThrough.middleware) event state).calls
  goesOn : ∀ (client : BotClient) (stub : Nat),
    client.afterDispatch stub
        (dispatch routes (middlewares.map PassThrough.middleware) event state).result =
      (client, .streaming stub)

/-- No filter raises; or the middlewares suppress the first exception of a
filter, and no later route would have run its handler to the end. -/
def Contained (routes : List (Route σ)) (middlewares : List (PassThrough σ)) (event : EventValue)
    (state : σ) : Prop :=
  let entry := reached middlewares event state
  (∀ route ∈ routes, ¬ route.Stops entry) ∨
  ∃ before route after raised, routes = before ++ route :: after ∧
    (∀ earlier ∈ before, ¬ earlier.Stops entry) ∧ route.visit entry = .stopped raised ∧
    Suppressed middlewares event state raised ∧
    ∀ later ∈ after, ¬ later.Completes entry

/-- Through middlewares that pass on, the routes see the event in the state that they have
reached. -/
theorem dispatch_eq (routes : List (Route σ)) (middlewares : List (PassThrough σ))
    (event : EventValue) (state : σ) :
    dispatch routes (middlewares.map PassThrough.middleware) event state =
      let entry := reached middlewares event state
      let inner := callRoutes entry.1 routes entry.2
      let left := PassThrough.leaveAll middlewares ⟨.event event, event⟩ state inner.result
        inner.state
      ⟨left.1, left.2, inner.calls⟩ :=
  PassThrough.foldr_middleware middlewares (fun current => callRoutes current routes)
    ⟨.event event, event⟩ state

section Dispatch

variable {routes : List (Route σ)} {middlewares : List (PassThrough σ)} {event : EventValue}
  {state : σ}

/-- A dispatch in which no filter raises. -/
theorem dispatch_of_not_stops (harmless : ∀ route ∈ routes, route.Harmless)
    (goOn : ∀ route ∈ routes, ¬ route.Stops (reached middlewares event state)) :
    (dispatch routes (middlewares.map PassThrough.middleware) event state).result = .ok () ∧
      (dispatch routes (middlewares.map PassThrough.middleware) event state).calls =
        routes.filterMap (Route.call (reached middlewares event state)) := by
  rw [dispatch_eq]
  simp only
  rw [callRoutes_of_not_stops harmless goOn]
  exact ⟨PassThrough.leaveAll_ok middlewares _ state _, rfl⟩

/-- The dispatch without the routes that raise. -/
theorem calls_of_others (harmless : ∀ route ∈ routes, route.Harmless) :
    (dispatch (routes.filter fun route => !route.raises (reached middlewares event state))
      (middlewares.map PassThrough.middleware) event state).calls =
      (routes.filter fun route => !route.raises (reached middlewares event state)).filterMap
        (Route.call (reached middlewares event state)) := by
  refine (dispatch_of_not_stops ?_ ?_).2
  · exact fun route member => harmless route (List.mem_filter.mp member).1
  · intro route member
    have quiet := (List.mem_filter.mp member).2
    exact Route.not_stops_of_not_raises (by simpa using quiet)

/-- So if no filter raises, no route has a part in whether another is called. -/
theorem isolates_of_not_stops (harmless : ∀ route ∈ routes, route.Harmless)
    (goOn : ∀ route ∈ routes, ¬ route.Stops (reached middlewares event state)) :
    Isolates routes middlewares event state := by
  obtain ⟨returned, called⟩ := dispatch_of_not_stops harmless goOn
  refine ⟨returned, ?_, afterDispatch_eq_streaming_iff.mpr returned⟩
  simp only
  rw [called, filter_calls, calls_of_others harmless]

/-- Where a filter raises, the dispatch goes well only if nothing was left to do. -/
theorem isolates_iff_of_stops {before after : List (Route σ)} {route : Route σ} {raised : Raised}
    (harmless : ∀ other ∈ before ++ route :: after, other.Harmless)
    (goOn : ∀ earlier ∈ before, ¬ earlier.Stops (reached middlewares event state))
    (stopped : route.visit (reached middlewares event state) = .stopped raised) :
    Isolates (before ++ route :: after) middlewares event state ↔
      Suppressed middlewares event state raised ∧
        ∀ later ∈ after, ¬ later.Completes (reached middlewares event state) := by
  have whole := dispatch_eq (before ++ route :: after) middlewares event state
  simp only at whole
  rw [callRoutes_of_stops harmless goOn stopped] at whole
  have loud : route.raises (reached middlewares event state) = true := by
    simp [Route.raises, stopped]
  have others := @calls_of_others σ _ middlewares event state harmless
  rw [List.filter_append, List.filter_cons_of_neg (by simp [loud]), List.filterMap_append]
    at others
  rw [← calls_eq_nil_iff]
  constructor
  · intro isolates
    have returned := isolates.returns
    have calls := isolates.calls
    simp only at calls
    rw [List.filter_append, List.filter_cons_of_neg (by simp [loud]), others, whole, filter_calls]
      at calls
    rw [whole] at returned
    exact ⟨returned, List.self_eq_append_right.mp calls⟩
  · rintro ⟨suppressed, nothing⟩
    have returned : (dispatch (before ++ route :: after)
        (middlewares.map PassThrough.middleware) event state).result = .ok () := by
      rw [whole]
      exact suppressed
    refine ⟨returned, ?_, afterDispatch_eq_streaming_iff.mpr returned⟩
    simp only
    rw [List.filter_append, List.filter_cons_of_neg (by simp [loud]), others, whole, filter_calls,
      nothing, List.append_nil]

end Dispatch

/-- The routes of a dispatch are isolated from each other exactly when no filter raises, or when a
middleware suppresses the exception and no later handler is lost. -/
theorem dispatch_isolates_iff (routes : List (Route σ)) (middlewares : List (PassThrough σ))
    (event : EventValue) (state : σ) (harmless : ∀ route ∈ routes, route.Harmless) :
    Isolates routes middlewares event state ↔ Contained routes middlewares event state := by
  constructor
  · intro isolates
    by_cases goOn : ∀ route ∈ routes, ¬ route.Stops (reached middlewares event state)
    · exact .inl goOn
    · obtain ⟨before, route, after, raised, rfl, earlier, stopped⟩ := exists_first_stop goOn
      obtain ⟨suppressed, nothing⟩ :=
        (isolates_iff_of_stops harmless earlier stopped).mp isolates
      exact .inr ⟨before, route, after, raised, rfl, earlier, stopped, suppressed, nothing⟩
  · rintro (goOn | ⟨before, route, after, raised, rfl, earlier, stopped, contained⟩)
    · exact isolates_of_not_stops harmless goOn
    · exact (isolates_iff_of_stops harmless earlier stopped).mpr contained

/-- A route for messages with an asynchronous filter. -/
def messageRoute (filtered : Except Raised Bool) (handled : Except Raised Unit) :
    Route Unit where
  eventType := fun type => type == .messageEvent
  handler _ _ := (handled, ())
  filters := [fun _ _ => (.ok (.awaitable fun _ => (filtered, ())), ())]

/-- A route of the example is harmless if neither its filter nor its handler exits. -/
theorem messageRoute_harmless {filtered : Except Raised Bool} {handled : Except Raised Unit}
    (filterStays : filtered ≠ .error .exit) (handlerStays : handled ≠ .error .exit) :
    (messageRoute filtered handled).Harmless where
  filters := by
    intro filter member context state
    rw [List.mem_singleton.mp member]
    exact ⟨rfl, filterStays⟩
  handler _ _ := ⟨rfl, handlerStays⟩

def textEvent : EventValue :=
  .message ⟨1, none, 0, 1, none, none, "hello", "{}", []⟩

/-- A middleware that only calls `next`. -/
def onlyNext : PassThrough Unit where
  enter current state := (current, state)
  leave _ _ result after := (result, after)
  leave_ok _ _ _ := rfl

/-- A handler that raises, before one that does not. -/
theorem dispatch_isolates_handlerRaises :
    Isolates [messageRoute (.ok true) (.error (.exception .osError)),
      messageRoute (.ok true) (.ok ())] [onlyNext] textEvent () := by
  refine (dispatch_isolates_iff _ _ _ _ ?_).mpr (.inl ?_)
  · rw [List.forall_mem_cons, List.forall_mem_singleton]
    exact ⟨messageRoute_harmless (by simp) (by simp), messageRoute_harmless (by simp) (by simp)⟩
  · rw [List.forall_mem_cons, List.forall_mem_singleton]
    refine ⟨?_, ?_⟩
    · rintro ⟨raised, stopped⟩
      cases stopped
    · rintro ⟨raised, stopped⟩
      cases stopped

/-- A filter that raises an `OSError` ends the dispatch, and `run` reconnects. -/
theorem filterRaises_escapes :
    (∀ route ∈ [messageRoute (.error (.exception .osError)) (.ok ()),
      messageRoute (.ok true) (.ok ())], route.Harmless) ∧
    ¬ Isolates [messageRoute (.error (.exception .osError)) (.ok ()),
      messageRoute (.ok true) (.ok ())] [] textEvent () ∧
    (((BotClient.init true).publish 0).afterDispatch 0
      (dispatch [messageRoute (.error (.exception .osError)) (.ok ()),
        messageRoute (.ok true) (.ok ())] [] textEvent ()).result).2 = .sleeping := by
  refine ⟨?_, fun isolates => ?_, rfl⟩
  · rw [List.forall_mem_cons, List.forall_mem_singleton]
    exact ⟨messageRoute_harmless (by simp) (by simp), messageRoute_harmless (by simp) (by simp)⟩
  · have returned := isolates.returns
    cases returned

end Arisa.Client
