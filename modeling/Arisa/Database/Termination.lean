import Arisa.Database.Snapshots

/-!
# When a mapping ends

The recursion of `map_message` follows the references between stored rows. It
ends exactly when no chain of references leads back to one of its rows.
-/

namespace Arisa.Database

open Arisa.Crypto Arisa.Proto Arisa.Semantics Arisa.Std DbM

variable {serde : Serde} {database : Database} {tables : Tables} {world : World}

/-- The verdict of a snapshot is that of the row it finds. -/
theorem verdict_snapshot_still (still : world.Still tables) (fuel : Nat)
    (channelId messageId : Int64) :
    verdict (getMessageSnapshot (mapMessage serde database fuel) channelId messageId
        world).result =
      match lookup tables channelId messageId with
      | .undecodable => some false
      | .missing => some true
      | .found row => verdict (mapMessage serde database fuel row
          (world.below (.message 0))).result := by
  obtain ⟨outcome, rows, found⟩ := @getMessageRows_result _ _ channelId still messageId
  rw [verdict_getMessageSnapshot (raises_mapMessage serde database fuel), rows]
  cases target : lookup tables channelId messageId with
  | undecodable =>
      simp only [target] at found ⊢
      obtain ⟨error, rfl⟩ := found
      rfl
  | missing =>
      simp only [target] at found ⊢
      subst found
      rfl
  | found row =>
      simp only [target] at found ⊢
      subst found
      exact verdict_traverse_singleton

/-- One level of the recursion, in a channel that can be mapped. -/
theorem verdict_mapMessage_succ (still : world.Still tables) {fuel : Nat} {row : MessageRow}
    (available : ChannelAvailable serde database tables row.channelId) :
    verdict (mapMessage serde database (fuel + 1) row world).result =
      match references serde database row with
      | none => some false
      | some ids =>
          searchAll (fun numbered : Int64 × Nat =>
              verdict (getMessageSnapshot (mapMessage serde database fuel) row.channelId numbered.1
                (world.below (.snapshot numbered.2))).result)
            ids.zipIdx := by
  obtain ⟨outcome, channelResult, succeeds⟩ := @getChannel_result serde database _
    row.channelId _ (still.below .channel)
  obtain ⟨channel, rfl⟩ := succeeds.mpr available
  rw [verdict_mapMessage, channelResult]
  rfl

/-- Without its channel, a row fails at once. -/
theorem verdict_mapMessage_unavailable (still : world.Still tables) {fuel : Nat}
    {row : MessageRow} (unavailable : ¬ ChannelAvailable serde database tables row.channelId) :
    verdict (mapMessage serde database (fuel + 1) row world).result = some false := by
  obtain ⟨outcome, channelResult, succeeds⟩ := @getChannel_result serde database _
    row.channelId _ (still.below .channel)
  rcases outcome with error | channel
  · rw [verdict_mapMessage, channelResult]
    rfl
  · exact absurd (succeeds.mp (succeeds_ok channel)) unavailable

/-- A mapping that ends was an exploration that ended, with the same verdict. -/
theorem search_of_verdict {channelId : Int64}
    (available : ChannelAvailable serde database tables channelId) {fuel : Nat}
    {row : MessageRow} (inChannel : row.channelId = channelId) (still : world.Still tables)
    {outcome : Bool}
    (ended : verdict (mapMessage serde database fuel row world).result = some outcome) :
    search (visit serde database tables) (fuel + 1) (.found row) = some outcome := by
  induction fuel generalizing row world outcome with
  | zero => cases ended
  | succ fuel ih =>
      rw [verdict_mapMessage_succ still (inChannel ▸ available)] at ended
      rw [search, visit]
      cases content : references serde database row with
      | none => simpa [content] using ended
      | some ids =>
          simp only [content, Option.map_some] at ended ⊢
          rw [searchAll_map, ← List.zipIdx_map_fst 0 ids, searchAll_map]
          refine searchAll_mono ?_ ended
          rintro ⟨messageId, index⟩ reached snapshot
          simp only at snapshot ⊢
          rw [verdict_snapshot_still (still.below (.snapshot index))] at snapshot
          cases target : lookup tables row.channelId messageId with
          | undecodable => simpa [target, search, visit] using snapshot
          | missing => simpa [target, search, visit, searchAll] using snapshot
          | found next =>
              simp only [target] at snapshot
              have sameChannel := (lookup_found target).1
              exact ih (sameChannel.trans inChannel)
                ((still.below (.snapshot index)).below (.message 0)) snapshot

/-- An exploration that ends is followed by the mapping, with the same verdict. -/
theorem verdict_of_search {channelId : Int64}
    (available : ChannelAvailable serde database tables channelId) {fuel : Nat}
    {row : MessageRow} (inChannel : row.channelId = channelId) (still : world.Still tables)
    {outcome : Bool}
    (ended : search (visit serde database tables) fuel (.found row) = some outcome) :
    verdict (mapMessage serde database fuel row world).result = some outcome := by
  induction fuel generalizing row world outcome with
  | zero => cases ended
  | succ fuel ih =>
      rw [verdict_mapMessage_succ still (inChannel ▸ available)]
      rw [search, visit] at ended
      cases content : references serde database row with
      | none => simpa [content] using ended
      | some ids =>
          simp only [content, Option.map_some] at ended ⊢
          rw [searchAll_map, ← List.zipIdx_map_fst 0 ids, searchAll_map] at ended
          refine searchAll_mono ?_ ended
          rintro ⟨messageId, index⟩ reached explored
          simp only at explored ⊢
          rw [verdict_snapshot_still (still.below (.snapshot index))]
          cases fuel with
          | zero => cases explored
          | succ fuel =>
              cases target : lookup tables row.channelId messageId with
              | undecodable => simpa [target, search, visit] using explored
              | missing => simpa [target, search, visit, searchAll] using explored
              | found next =>
                  rw [target] at explored
                  have sameChannel := (lookup_found target).1
                  exact ih (sameChannel.trans inChannel)
                    ((still.below (.snapshot index)).below (.message 0)) explored

/-- In a channel that can be mapped, a mapping ends when its exploration does. -/
theorem mapMessage_ends_iff_search (still : world.Still tables) {row : MessageRow}
    (available : ChannelAvailable serde database tables row.channelId) :
    (∃ fuel, (mapMessage serde database fuel row world).result.isSome) ↔
      ∃ fuel, (search (visit serde database tables) fuel (.found row)).isSome := by
  constructor
  · rintro ⟨fuel, ended⟩
    rw [← isSome_verdict, Option.isSome_iff_exists] at ended
    obtain ⟨outcome, found⟩ := ended
    exact ⟨fuel + 1, Option.isSome_iff_exists.mpr
      ⟨outcome, search_of_verdict available rfl still found⟩⟩
  · rintro ⟨fuel, ended⟩
    obtain ⟨outcome, found⟩ := Option.isSome_iff_exists.mp ended
    refine ⟨fuel, ?_⟩
    rw [← isSome_verdict, verdict_of_search available rfl still found]
    rfl

/-- What a mapping can look up: a row of the table, nothing, or a row that does
not decode. -/
def lookups (tables : Tables) (row : MessageRow) : Set Lookup :=
  {target | target = .undecodable ∨ target = .missing ∨ target = .found row ∨
    ∃ log ∈ tables.chatLogs, (readMessage log).toOption.map Lookup.found = some target}

/-- The rows that a mapping can look up are finitely many. -/
theorem lookups_finite (tables : Tables) (row : MessageRow) : (lookups tables row).Finite := by
  have rows : {target | ∃ log ∈ tables.chatLogs,
      (readMessage log).toOption.map Lookup.found = some target}.Finite := by
    refine (List.finite_toSet (tables.chatLogs.filterMap fun log =>
      (readMessage log).toOption.map Lookup.found)).subset ?_
    intro target found
    exact List.mem_filterMap.mpr found
  refine ((Set.finite_singleton Lookup.undecodable).union ((Set.finite_singleton
    Lookup.missing).union ((Set.finite_singleton (Lookup.found row)).union rows))).subset ?_
  intro target member
  exact member

/-- A mapping looks up no other rows than these. -/
theorem lookups_closed (row : MessageRow) :
    ∀ node ∈ lookups tables row, ∀ target,
      Demands (visit serde database tables) target node → target ∈ lookups tables row := by
  rintro node - target ⟨before, after, visited, -⟩
  cases node with
  | undecodable => cases visited
  | missing => simp [visit] at visited
  | found parent =>
      rw [visit, Option.map_eq_some_iff] at visited
      obtain ⟨ids, -, targets⟩ := visited
      have member : target ∈ ids.map (lookup tables parent.channelId) := by simp [targets]
      obtain ⟨messageId, -, rfl⟩ := List.mem_map.mp member
      cases looked : lookup tables parent.channelId messageId with
      | undecodable => exact .inl rfl
      | missing => exact .inr (.inl rfl)
      | found next =>
          obtain ⟨-, -, log, stored, read⟩ := lookup_found looked
          exact .inr (.inr (.inr ⟨log, stored, by rw [read]; rfl⟩))

/-- A mapping ends exactly when its channel cannot be mapped or the references it
follows never lead back to a row they came through. -/
theorem mapMessage_ends_iff (serde : Serde) (database : Database) {tables : Tables}
    {world : World} (still : world.Still tables) (row : MessageRow) :
    (∃ fuel, (mapMessage serde database fuel row world).result.isSome) ↔
      (ChannelAvailable serde database tables row.channelId →
        ¬ Cyclic (visit serde database tables) (.found row)) := by
  by_cases available : ChannelAvailable serde database tables row.channelId
  · rw [mapMessage_ends_iff_search still available,
      search_ends_iff_not_cyclic (lookups_finite tables row) (lookups_closed row)
        (.inr (.inr (.inl rfl)))]
    simp [available]
  · simp only [available, false_implies, iff_true]
    refine ⟨1, ?_⟩
    rw [← isSome_verdict, verdict_mapMessage_unavailable still available]
    rfl

/-! ## Two feeds about each other -/

/-- Base64 refuses the texts used here: JSON starts with a brace. -/
def plainCiphers : Ciphers where
  decode _ := .error "Invalid symbol 123, offset 0."
  aes256Cbc _ _ _ := .error ⟨[]⟩
  sha1 _ := .error ⟨[]⟩

def plainDatabase : Database := ⟨1, ⟨1, plainCiphers⟩⟩

def deletesFirst : String := "\x7b\"feedType\":14,\"logId\":1\x7d"
def deletesSecond : String := "\x7b\"feedType\":14,\"logId\":2\x7d"

/-- The metadata of a message that was synchronized from another device. -/
def syncedText : String := "\x7b\"origin\":\"SYNCMSG\"\x7d"

/-- The JSON reader on these texts. -/
def feedSerde : Serde where
  fromStr text :=
    if text = deletesFirst then
      .ok (.object [("feedType", .number (.posInt 14)), ("logId", .number (.posInt 1))])
    else if text = deletesSecond then
      .ok (.object [("feedType", .number (.posInt 14)), ("logId", .number (.posInt 2))])
    else if text = syncedText then
      .ok (.object [("origin", .string "SYNCMSG")])
    else
      .error "expected value at line 1 column 1"
  toString _ := "\x7b\x7d"

def feedLog (id : Int64) (text : String) : ChatLog :=
  ⟨id, .integer id, .integer 0, .integer 7, .integer 100, .text text, .null, .null, .null,
    .integer 1⟩

def feedRow (id : Int64) (text : String) : MessageRow :=
  ⟨id, id, 0, 7, 100, some text, none, none, none, 1⟩

def plainRoom : ChatRoom :=
  ⟨.integer 7, .text "MultiChat", .null, .null, .null, .null, .null⟩

/-- Two feeds in one channel, each about the deletion of the other. -/
def mutualTables : Tables where
  chatLogs := [feedLog 1 deletesSecond, feedLog 2 deletesFirst]
  chatRooms := [plainRoom]
  openLinks := []
  openProfiles := []
  openChatMembers := []
  users := []
  friends := []
  primaryKey := by decide

/-- The rows of the example hold their feeds as they are. -/
theorem messageText_feedRow (id : Int64) (text : String) :
    messageText feedSerde plainDatabase (feedRow id text) = text :=
  Decryptor.decryptForUser_of_decode_error rfl _ _

/-- Their room can be mapped. -/
theorem plainRoom_available {tables : Tables} (rooms : tables.chatRooms = [plainRoom]) :
    ChannelAvailable feedSerde plainDatabase tables 7 := by
  refine ⟨⟨"MultiChat", none, none, none⟩, ⟨plainRoom, ?_, rfl⟩, by simp [NameAvailable]⟩
  rw [selectRooms, rooms]
  rfl

/-- The first row refers to the second. -/
theorem visit_first : visit feedSerde plainDatabase mutualTables
    (.found (feedRow 1 deletesSecond)) = some [.found (feedRow 2 deletesFirst)] := by
  have refers : references feedSerde plainDatabase (feedRow 1 deletesSecond) = some [2] := by
    simp only [references, messageText_feedRow]
    rfl
  rw [visit, refers]
  rfl

/-- The second row refers to the first. -/
theorem visit_second : visit feedSerde plainDatabase mutualTables
    (.found (feedRow 2 deletesFirst)) = some [.found (feedRow 1 deletesSecond)] := by
  have refers : references feedSerde plainDatabase (feedRow 2 deletesFirst) = some [1] := by
    simp only [references, messageText_feedRow]
    rfl
  rw [visit, refers]
  rfl

/-- The guard cuts only the reference of a row to itself: two feeds about each
other send the recursion back and forth. -/
theorem mutualTables_endless : ¬ ∃ fuel, (mapMessage feedSerde plainDatabase fuel
    (feedRow 1 deletesSecond) (World.steady mutualTables)).result.isSome := by
  have endless : ∀ fuel,
      search (visit feedSerde plainDatabase mutualTables) fuel
        (.found (feedRow 1 deletesSecond)) = none ∧
      search (visit feedSerde plainDatabase mutualTables) fuel
        (.found (feedRow 2 deletesFirst)) = none := by
    intro fuel
    induction fuel with
    | zero => exact ⟨rfl, rfl⟩
    | succ fuel ih =>
        obtain ⟨first, second⟩ := ih
        rw [search, search, visit_first, visit_second]
        simp [searchAll, first, second]
  rw [mapMessage_ends_iff_search (World.steady_still mutualTables) (plainRoom_available rfl)]
  rintro ⟨fuel, ended⟩
  rw [(endless fuel).1] at ended
  cases ended

/-- A feed about its own row refers to nothing. -/
theorem mapMessage_ends_ownRow : ∃ fuel, (mapMessage feedSerde plainDatabase fuel
    (feedRow 2 deletesSecond) (World.steady mutualTables)).result.isSome := by
  refine (mapMessage_ends_iff feedSerde plainDatabase (World.steady_still mutualTables)
    (feedRow 2 deletesSecond)).mpr fun _ cyclic => ?_
  have refers : references feedSerde plainDatabase (feedRow 2 deletesSecond) = some [] := by
    simp only [references, messageText_feedRow]
    rfl
  have alone : ∀ target, ¬ Demands (visit feedSerde plainDatabase mutualTables) target
      (.found (feedRow 2 deletesSecond)) := by
    rintro target ⟨before, after, visited, -⟩
    simp [visit, refers] at visited
  obtain ⟨repeated, reached, loop⟩ := cyclic
  have same : repeated = .found (feedRow 2 deletesSecond) := by
    rcases reached.cases_head with same | ⟨next, demanded, -⟩
    · exact same.symm
    · exact absurd demanded (alone next)
  subst same
  obtain ⟨next, demanded, -⟩ := Relation.TransGen.head'_iff.mp loop
  exact alone next demanded

end Arisa.Database
