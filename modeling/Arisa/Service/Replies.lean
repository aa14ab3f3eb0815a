import Arisa.Client.Context
import Arisa.Database.Embedded
import Arisa.Service.Bot

/-!
# Where the replies of a bot go

Every event of the server names the channel of its row. A handler addresses its
requests by the event, so they come back to the chat the row is from.
-/

namespace Arisa.Service

open Arisa.Android Arisa.Client Arisa.Database Arisa.Database.DbM Arisa.Proto

/-- The event is complete and says where its row is from. -/
def Addressed (row : MessageRow) : EventValue → Prop
  | .message message =>
      row.messageType ≠ 0 ∧ message.messageId = row.messageId ∧
        message.threadId = row.threadId ∧
        ∃ channel, message.channel = some channel ∧ channel.id = row.channelId
  | .feed feed =>
      row.messageType = 0 ∧ (∃ payload, feed.feed = some ⟨some payload⟩) ∧
        ∃ channel, feed.channel = some channel ∧ channel.id = row.channelId

section Mapping

variable {serde : Serde} {database : Database} {row : MessageRow} {world : World}

/-- An assembled event has the addresses of its row. -/
theorem assembleMessage_addressed {channel : Channel} {author : Option Member} {event : Event}
    (own : channel.id = row.channelId)
    (assembled : assembleMessage serde database row channel author = .ok event) :
    ∃ value, event.value = some value ∧ Addressed row value := by
  unfold assembleMessage at assembled
  split at assembled
  · rename_i feed
    cases parsed : parse serde (messageText serde database row) author row.messageId with
    | error message =>
        rw [parsed] at assembled
        cases assembled
    | ok payload =>
        obtain ⟨json, -, rest⟩ := Std.bind_eq_ok.mp parsed
        obtain ⟨value, -, built⟩ := Std.bind_eq_ok.mp rest
        cases built
        rw [parsed] at assembled
        cases assembled
        exact ⟨_, rfl, feed, ⟨value, rfl⟩, channel, rfl, own⟩
  · rename_i message
    cases assembled
    exact ⟨_, rfl, message, rfl, rfl, channel, rfl, own⟩

/-- It keeps them when its snapshots are put in. -/
theorem enrichEvent_addressed {recurse : MessageRow → DbM Event} {channel : Channel}
    {author : Option Member} {assembled event : Event}
    (addressed : ∃ value, assembled.value = some value ∧ Addressed row value)
    (returned : (enrichEvent serde database recurse row channel author assembled world).result =
      some (.ok event)) :
    ∃ value, event.value = some value ∧ Addressed row value := by
  obtain ⟨assembledValue⟩ := assembled
  obtain ⟨value, rfl, addressed⟩ := addressed
  cases value with
  | message message =>
      cases returned
      exact ⟨_, rfl, addressed⟩
  | feed feed =>
      obtain ⟨feedChannel, payload, feedAuthor⟩ := feed
      obtain ⟨kind, ⟨value, rfl⟩, home⟩ := addressed
      obtain ⟨enriched, -, built⟩ := bind_result_eq_ok.mp returned
      cases built
      exact ⟨_, rfl, kind, ⟨enriched, rfl⟩, home⟩

/-- So every event that a row is mapped to is addressed as the row is. -/
theorem mapMessage_addressed {fuel : Nat} {event : Event}
    (mapped : (mapMessage serde database fuel row world).result = some (.ok event)) :
    ∃ value, event.value = some value ∧ Addressed row value := by
  cases fuel with
  | zero => cases mapped
  | succ fuel =>
      obtain ⟨author, channel, assembled, -, looked, content, rest⟩ := mapMessage_eq_ok.mp mapped
      have own : channel.id = row.channelId := getChannel_id looked
      have addressed := assembleMessage_addressed own content
      split at rest
      · cases rest
        exact addressed
      · exact enrichEvent_addressed addressed rest

end Mapping

/-- The thread of a reply; a feed has none. -/
def replyThread (row : MessageRow) (threadReply : Bool) : Except ContextError (Option Int64) :=
  if threadReply then
    match if row.messageType = 0 then none else row.threadId with
    | some threadId => .ok (some threadId)
    | none => .error (.valueError "the current event is not in a thread")
  else .ok none

section Contexts

variable {row : MessageRow} {context : AiriContext}

/-- The context finds the channel of the row in it. -/
theorem channel_of_addressed (addressed : Addressed row context.envelope) :
    ∃ channel, context.channel = .ok channel ∧ channel.id = row.channelId := by
  obtain ⟨event, envelope⟩ := context
  cases envelope with
  | message message =>
      obtain ⟨-, -, -, channel, found, own⟩ := addressed
      exact ⟨channel, by simp [AiriContext.channel, AiriContext.envelopeChannel, found], own⟩
  | feed feed =>
      obtain ⟨-, -, channel, found, own⟩ := addressed
      exact ⟨channel, by simp [AiriContext.channel, AiriContext.envelopeChannel, found], own⟩

/-- It finds the thread of the row, unless the row is a feed. -/
theorem threadId_of_addressed (addressed : Addressed row context.envelope) :
    context.threadId = if row.messageType = 0 then none else row.threadId := by
  obtain ⟨event, envelope⟩ := context
  cases envelope with
  | message message =>
      obtain ⟨kind, -, thread, -⟩ := addressed
      rw [if_neg kind]
      exact thread
  | feed feed =>
      rw [if_pos addressed.1]
      rfl

/-- A reply becomes an action for the chat, and the thread, that the row is from. -/
theorem reply_of_addressed (addressed : Addressed row context.envelope) (service : ArisaService)
    (world : CallWorld) (text : String) (threadReply : Bool) :
    (context.reply text threadReply).map
        (fun request => actionOf service world (.reply request)) =
      (replyThread row threadReply).map
        fun thread => some (.reply row.channelId text thread) := by
  obtain ⟨channel, found, own⟩ := channel_of_addressed addressed
  unfold AiriContext.reply replyThread
  rw [threadId_of_addressed addressed, found, ← own]
  cases threadReply with
  | false => rfl
  | true =>
      simp only [if_true]
      generalize (if row.messageType = 0 then none else row.threadId) = thread
      cases thread <;> rfl

end Contexts

section Handlers

variable {Failure σ : Type} {serde : Serde} {service : ArisaService}
  {url : Android.Url} {uid : Option Int32} {callingPackage referer : String}
  {reconnect : Bool} {trace : List (BotLabel Failure)} {state : Bot Failure}

/-- What a `run` is given was mapped from a row that was taken. -/
theorem exists_taken_of_dispatched
    (run : (bot serde service url uid callingPackage referer reconnect).Runs trace state)
    {slot : Nat} {value : EventValue} (given : value ∈ dispatched slot trace) :
    ∃ taken ∈ takenRows ((trace.flatMap serverPart).flatMap pollerPart),
      (mapMessage serde service.database taken.fuel taken.row taken.world).result =
        some (.ok ⟨some value⟩) := by
  have serves := server_runs run
  have ordered := (bot_caught run slot).sublist (hub_account (hub_runs serves))
  rw [server_sent serves] at ordered
  obtain ⟨event, listed, unwrapped⟩ := List.mem_filterMap.mp (ordered.subset given)
  obtain ⟨taken, member, delivers⟩ := List.mem_filterMap.mp listed
  refine ⟨taken, member, ?_⟩
  unfold deliver at delivers
  split at delivers
  · cases delivers
  · split at delivers
    · rename_i mapped
      cases delivers
      rw [mapped, ← unwrapped]
    · cases delivers

/-- Whatever a bot is given to dispatch, and whatever its routes, filters and handlers do: the event
was mapped from a row that was taken, every handler is called for a class that its event is of,
finds the channel of its event, and what it replies there becomes an action for the chat that this
row is from, in the thread of the row when it asks for one. -/
theorem handlers_reply_home
    (run : (bot serde service url uid callingPackage referer reconnect).Runs trace state)
    {slot : Nat} {value : EventValue} (given : value ∈ dispatched slot trace)
    (routes : List (Route σ)) {middlewares : List (PassThrough σ)}
    (keep : KeepEnvelopes middlewares) (start : σ) :
    ∃ taken ∈ takenRows ((trace.flatMap serverPart).flatMap pollerPart),
      (mapMessage serde service.database taken.fuel taken.row taken.world).result =
        some (.ok ⟨some value⟩) ∧
      Addressed taken.row value ∧
      ∀ call ∈ (dispatch routes (middlewares.map PassThrough.middleware) value start).calls,
        call.1 ∈ routes ∧ call.2.event.isInstance call.1.eventType = true ∧
        (∃ channel, call.2.channel = .ok channel ∧ channel.id = taken.row.channelId) ∧
        ∀ world text threadReply,
          (call.2.reply text threadReply).map
              (fun request => actionOf service world (.reply request)) =
            (replyThread taken.row threadReply).map
              fun thread => some (.reply taken.row.channelId text thread) := by
  obtain ⟨taken, member, mapped⟩ := exists_taken_of_dispatched run given
  obtain ⟨same, found, addressed⟩ := mapMessage_addressed mapped
  cases found
  refine ⟨taken, member, mapped, addressed, fun call called => ?_⟩
  obtain ⟨listed, envelope, instance_⟩ := dispatch_calls keep called
  rw [← envelope] at addressed
  exact ⟨listed, instance_, channel_of_addressed addressed,
    fun world => reply_of_addressed addressed service world⟩

end Handlers

/-- A route for every event whose handler does nothing. -/
def anyRoute : Route Unit := ⟨fun _ => true, fun _ state => (.ok (), state), []⟩

/-- Of three messages the last one is answered. -/
theorem handlers_reply_home_threeMessages : ∃ first last,
    ∃ taken ∈ takenRows (((threeMessagesTrace first last).flatMap serverPart).flatMap pollerPart),
      (mapMessage feedSerde plainDatabase taken.fuel taken.row taken.world).result =
        some (.ok ⟨some last⟩) ∧
      Addressed taken.row last ∧
      ∀ call ∈ (dispatch [anyRoute] [] last ()).calls,
        call.1 ∈ [anyRoute] ∧ call.2.event.isInstance call.1.eventType = true ∧
        (∃ channel, call.2.channel = .ok channel ∧ channel.id = taken.row.channelId) ∧
        ∀ world text threadReply,
          (call.2.reply text threadReply).map
              (fun request => actionOf quietService world (.reply request)) =
            (replyThread taken.row threadReply).map
              fun thread => some (.reply taken.row.channelId text thread) := by
  obtain ⟨first, last, state, run⟩ := threeMessages_runs
  have given : last ∈ dispatched 0 (threeMessagesTrace first last) := by
    rw [dispatched_threeMessages]
    exact List.mem_cons_of_mem _ (List.mem_singleton_self last)
  exact ⟨first, last, @handlers_reply_home _ _ _ _ _ _ _ _ _ _ _ run 0 last given [anyRoute] []
    (fun _ none => absurd none List.not_mem_nil) ()⟩

end Arisa.Service
