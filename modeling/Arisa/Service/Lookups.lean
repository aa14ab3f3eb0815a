import Arisa.Database.BatchMessages
import Arisa.Service.Replies

/-!
# What a bot looks up again

An event embeds its channel and its author, and a handler may ask for all three by
their ids. As long as the tables stay as the event was mapped from, the calls return
what the event holds.
-/

namespace Arisa.Service

open Arisa.Android Arisa.Client Arisa.Database Arisa.Database.DbM Arisa.Proto Arisa.Std

/-- The channel an event carries. -/
def eventChannel (event : Event) : Option Channel :=
  match event.value with
  | some (.message message) => message.channel
  | some (.feed feed) => feed.channel
  | none => none

/-- No other row has the channel and the id of this one. -/
def OnlyRow (tables : Tables) (row : MessageRow) : Prop :=
  ∃ log, tables.chatLogs.filter (fun log => log.chatId.equals (.integer row.channelId) &&
      log.id.equals (.integer row.messageId)) = [log] ∧ readMessage log = .ok row

/-- A call that meets the tables, with the libraries of the server and no fault of its own. -/
structure Meets (serde : Serde) (tables : Tables) (fuel : Nat) (world : CallWorld) : Prop where
  serde : world.database.serde = serde
  still : world.database.world.Still tables
  joined : world.database.joinError = none
  bound : fuel ≤ world.fuel

/-- What the calls return is what the event holds. -/
structure LookedUp {Failure : Type} (service : ArisaService) (world : CallWorld)
    (shared : Shared Failure) (row : MessageRow) (event : Event) : Prop where
  message : (handle service world shared (.getMessage ⟨row.channelId, row.messageId⟩)).result =
    some (.ok (.message event))
  channel : ∃ channel, eventChannel event = some channel ∧
    (handle service world shared (.getChannel ⟨row.channelId⟩)).result =
      some (.ok (.channel channel))
  author : ∀ member, eventAuthor event = some member ↔
    (handle service world shared (.getUser ⟨row.channelId, row.userId⟩)).result =
      some (.ok (.member member))

section Parts

variable {serde : Serde} {database : Database} {row : MessageRow} {world : World}

/-- What is assembled has the channel it was given. -/
theorem assembleMessage_channel {channel : Channel} {author : Option Member} {assembled : Event}
    (content : assembleMessage serde database row channel author = .ok assembled) :
    eventChannel assembled = some channel := by
  unfold assembleMessage at content
  split at content
  · obtain ⟨payload, -, returned⟩ := bind_eq_ok.mp content
    cases returned
    rfl
  · cases content
    rfl

/-- Completing a feed keeps its channel. -/
theorem enrichEvent_channel {recurse : MessageRow → DbM Event} {channel : Channel}
    {author : Option Member} {assembled event : Event}
    (completed : (enrichEvent serde database recurse row channel author assembled world).result =
      some (.ok event)) : eventChannel event = eventChannel assembled := by
  obtain ⟨value⟩ := assembled
  rcases value with _ | (message | ⟨feedChannel, payload, feedAuthor⟩)
  · cases completed
    rfl
  · cases completed
    rfl
  · rcases payload with _ | ⟨_ | value⟩
    · cases completed
      rfl
    · cases completed
      rfl
    · obtain ⟨enriched, -, returned⟩ := bind_result_eq_ok.mp completed
      cases returned
      rfl

/-- An event holds what the two lookups of its mapping returned. -/
theorem mapMessage_parts {fuel : Nat} {event : Event}
    (mapped : (mapMessage serde database fuel row world).result = some (.ok event)) :
    (∃ author, (database.getUser row.channelId row.userId (world.below .author)).result =
        some author ∧ eventAuthor event = author.toOption) ∧
      ∃ channel, (database.getChannel serde row.channelId (world.below .channel)).result =
        some (.ok channel) ∧ eventChannel event = some channel := by
  cases fuel with
  | zero => cases mapped
  | succ fuel =>
      obtain ⟨author, channel, assembled, asked, looked, content, rest⟩ :=
        mapMessage_eq_ok.mp mapped
      have kept : eventAuthor event = eventAuthor assembled ∧
          eventChannel event = eventChannel assembled := by
        split at rest
        · cases rest
          exact ⟨rfl, rfl⟩
        · exact ⟨enrichEvent_author rest, enrichEvent_channel rest⟩
      rw [attempt_result, atSite_result] at asked
      obtain ⟨outcome, answered, same⟩ := Option.map_eq_some_iff.mp asked
      cases same
      rw [atSite_result] at looked
      exact ⟨⟨author, answered, kept.1.trans (assembleMessage_author content)⟩,
        channel, looked, kept.2.trans (assembleMessage_channel content)⟩

/-- The row is the one that stands for its message. -/
theorem OnlyRow.stands {tables : Tables} (only : OnlyRow tables row) :
    MessageDecodes tables row.channelId row.messageId ∧
      messageRow tables row.channelId row.messageId = some row := by
  obtain ⟨log, selected, read⟩ := only
  have unique {other : ChatLog} (channel : other ∈ channelRows tables row.channelId)
      (same : other.id.equals (.integer row.messageId) = true) : other = log := by
    obtain ⟨listed, own⟩ := List.mem_filter.mp channel
    rw [← List.mem_singleton, ← selected]
    exact List.mem_filter.mpr ⟨listed, by rw [own, same]; rfl⟩
  have decodes : MessageDecodes tables row.channelId row.messageId := by
    intro other channel same
    rw [unique channel same, read]
    exact succeeds_ok row
  have present : HasMessage tables row.channelId row.messageId := by
    have inside : log ∈ [log] := List.mem_singleton.mpr rfl
    rw [← selected] at inside
    obtain ⟨listed, keys⟩ := List.mem_filter.mp inside
    rw [Bool.and_eq_true] at keys
    exact ⟨log, listed, keys⟩
  obtain ⟨other, found⟩ := Option.isSome_iff_exists.mp ((messageRow_isSome decodes).mpr present)
  obtain ⟨source, channel, same, decoded⟩ := row_of_stored (fun _ _ => readMessage_id) found
  rw [unique channel same, read] at decoded
  cases decoded
  exact ⟨decodes, found⟩

end Parts

section Calls

variable {Failure : Type} {serde : Serde} {tables : Tables} {fuel : Nat} {world : CallWorld}

/-- A database call returns what its operation does. -/
theorem Meets.answer_eq_ok {α : Type} (meets : Meets serde tables fuel world)
    {shared : Shared Failure} {respond : α → Response} {operation : DbM α} {response : Response} :
    (answer world shared respond (blocking world.database operation)).result =
        some (.ok response) ↔
      ∃ value, (operation world.database.world).result = some (.ok value) ∧
        respond value = response := by
  simp only [answer, blocking, meets.joined]
  rcases (operation world.database.world).result with _ | error | value
  · simp
  · simp [Except.mapError, Except.map]
  · simp [Except.mapError, Except.map]

variable {service : ArisaService} {row : MessageRow} {event : Event}

/-- Where the tables are as they were, the lookups agree with the event. -/
theorem Meets.lookedUp (meets : Meets serde tables fuel world) (shared : Shared Failure)
    {mapping : World} (still : mapping.Still tables) (only : OnlyRow tables row)
    (mapped : (mapMessage serde service.database fuel row mapping).result = some (.ok event)) :
    LookedUp service world shared row event := by
  obtain ⟨⟨author, asked, holds⟩, channel, looked, carries⟩ := mapMessage_parts mapped
  exact {
    message := by
      obtain ⟨decodes, found⟩ := only.stands
      rw [handle, getMessage, meets.answer_eq_ok]
      refine ⟨event, ?_, rfl⟩
      rw [meets.serde, getMessage_eq_ok meets.still]
      exact ⟨decodes, row, found, mapMessage_extends meets.bound row _ _
        ((mapMessage_mapsTo still).mp mapped)⟩
    channel := by
      refine ⟨channel, carries, ?_⟩
      rw [handle, getChannel, meets.answer_eq_ok]
      refine ⟨channel, ?_, rfl⟩
      rw [meets.serde]
      exact ((getChannel_alike (still.below .channel) meets.still row.channelId).ok_iff
        channel).mp looked
    author := by
      intro member
      rw [handle, getUser, meets.answer_eq_ok]
      have alike : Alike
          (service.database.getUser row.channelId row.userId (mapping.below .author)).result
          (service.database.getUser row.channelId row.userId world.database.world).result :=
        getUser_alike (still.below .author) meets.still row.channelId row.userId
      rw [holds, toOption_eq_some]
      constructor
      · rintro rfl
        exact ⟨member, (alike.ok_iff member).mp asked, rfl⟩
      · rintro ⟨other, returned, same⟩
        cases same
        have here := (alike.ok_iff member).mpr returned
        rw [asked] at here
        exact Option.some.inj here }

end Calls

section Handlers

variable {Failure : Type} {serde : Serde} {service : ArisaService}
  {url : Android.Url} {uid : Option Int32} {callingPackage referer : String}
  {reconnect : Bool} {trace : List (BotLabel Failure)} {state : Bot Failure}

/-- An event that a bot is given to dispatch comes from a row of the table. Where no query of its
mapping failed, the tables have stayed as they were and no query of the call fails, `GetMessage`
with the ids of the row returns the event again, `GetChannel` its channel, and `GetUser` its author,
or an error when it has none. -/
theorem lookups_agree
    (run : (bot serde service url uid callingPackage referer reconnect).Runs trace state)
    {slot : Nat} {value : EventValue} (given : value ∈ dispatched slot trace) :
    ∃ taken ∈ takenRows ((trace.flatMap serverPart).flatMap pollerPart),
      (mapMessage serde service.database taken.fuel taken.row taken.world).result =
        some (.ok ⟨some value⟩) ∧
      Addressed taken.row value ∧
        ∀ tables world, taken.world.Still tables → OnlyRow tables taken.row →
          Meets serde tables taken.fuel world → ∀ shared : Shared Failure,
            LookedUp service world shared taken.row ⟨some value⟩ := by
  obtain ⟨taken, member, mapped⟩ := exists_taken_of_dispatched run given
  obtain ⟨same, found, addressed⟩ := mapMessage_addressed mapped
  cases found
  exact ⟨taken, member, mapped, addressed, fun tables world still only meets shared =>
    meets.lookedUp shared still only mapped⟩

end Handlers

/-- The three messages have ids of their own. -/
theorem historyTaken_onlyRow {taken : Taken} (member : taken ∈ historyTaken) :
    OnlyRow historyTables taken.row ∧ taken.fuel = 1 ∧
      taken.world = World.steady historyTables := by
  simp only [historyTaken, historyRows, List.map_cons, List.map_nil, List.mem_cons,
    List.not_mem_nil, or_false] at member
  rcases member with rfl | rfl | rfl
  · exact ⟨⟨_, rfl, rfl⟩, rfl, rfl⟩
  · exact ⟨⟨_, rfl, rfl⟩, rfl, rfl⟩
  · exact ⟨⟨_, rfl, rfl⟩, rfl, rfl⟩

/-- A call while the table holds the three messages. -/
def historyCall : CallWorld :=
  { quietCall with
    database := { quietCall.database with world := World.steady historyTables } }

/-- The second event of the history, looked up after it. -/
theorem lookups_agree_threeMessages : ∃ first last, ∃ taken : Taken,
    last ∈ dispatched 0 (threeMessagesTrace first last) ∧ taken ∈ historyTaken ∧
      Addressed taken.row last ∧
      LookedUp quietService historyCall quietServer.shared taken.row ⟨some last⟩ := by
  obtain ⟨first, last, state, run⟩ := threeMessages_runs
  have given : last ∈ dispatched 0 (threeMessagesTrace first last) := by
    rw [dispatched_threeMessages]
    exact List.mem_cons_of_mem _ (List.mem_singleton_self last)
  obtain ⟨taken, member, -, addressed, agree⟩ := lookups_agree run given
  have rows : taken ∈ historyTaken := member
  obtain ⟨only, fuel, world⟩ := historyTaken_onlyRow rows
  have meets : Meets feedSerde historyTables taken.fuel historyCall :=
    ⟨rfl, World.steady_still _, rfl, by rw [fuel]; exact Nat.le_refl 1⟩
  exact ⟨first, last, taken, given, rows, addressed,
    agree _ historyCall (by rw [world]; exact World.steady_still _) only meets
      quietServer.shared⟩

end Arisa.Service
