import Arisa.Json
import Arisa.Proto
import Arisa.Std.Text

/-!
# Feed payloads

`parse` of `feed.rs`: a feed text as a payload, without the messages it refers to.
-/

namespace Arisa.Database

open Arisa.Proto Arisa.Std

def openChatRewriteType : Int64 := 13

inductive FeedType where
  | unknown
  | userJoined
  | userLeft
  | openLinkUserJoined
  | openLinkDeleted
  | userKicked
  | moderatorAdded
  | moderatorRemoved
  | messageDeleted
  | hostChanged
  | messageChanged
  | messageHidden
  | managerSpeakerMode
deriving DecidableEq

/-- `FeedType::from(i64)`. -/
def FeedType.ofInt64 (value : Int64) : FeedType :=
  if value = 1 then .userJoined
  else if value = 2 then .userLeft
  else if value = 4 then .openLinkUserJoined
  else if value = 5 then .openLinkDeleted
  else if value = 6 then .userKicked
  else if value = 11 then .moderatorAdded
  else if value = 12 then .moderatorRemoved
  else if value = openChatRewriteType ∨ value = 26 then .messageHidden
  else if value = 14 then .messageDeleted
  else if value = 15 then .hostChanged
  else if value = 25 then .messageChanged
  else if value = 27 then .managerSpeakerMode
  else .unknown

def requiredArray (value : Value) (field : String) : Except String (List Value) :=
  match (value.get field).bind Value.asArray with
  | some values => .ok values
  | none => .error ("feed is missing array field " ++ field)

def requiredI64 (value : Value) (field : String) : Except String Int64 :=
  match (value.get field).bind Value.asI64 with
  | some number => .ok number
  | none => .error ("feed is missing integer field " ++ field)

def jsonId (value : Value) : Option Int64 :=
  value.asI64 <|> value.asStr.bind fun text => parseI64 text.toList

def requiredId (value : Value) (field : String) : Except String Int64 :=
  match (value.get field).bind jsonId with
  | some id => .ok id
  | none => .error ("feed is missing integer field " ++ field)

def feedUser (value : Value) : Option FeedUser := do
  let userId ← value.get "userId"
  let id ← jsonId userId
  let nickName ← value.get "nickName"
  let nickname ← nickName.asStr
  return ⟨id, nickname⟩

/-- The payload of each feed type. -/
def feedValue (serde : Serde) (json : Value) (feedTypeId : Int64) (author : Option Member)
    (currentMessageId : Int64) : Except String FeedValue :=
  match FeedType.ofInt64 feedTypeId with
  | .userJoined | .openLinkUserJoined => do
      let members ← requiredArray json "members"
      return .userJoined ⟨members.filterMap feedUser⟩
  | .userLeft => return .userLeft ⟨(json.get "member").bind feedUser⟩
  | .userKicked => return .userKicked ⟨(json.get "member").bind feedUser, author⟩
  | .messageDeleted => do
      let messageId ← requiredId json "logId"
      return .messageDeleted ⟨messageId, none⟩
  | .messageChanged => do
      let messageId ← requiredId json "logId"
      let targetRevision ← requiredI64 json "targetRevision"
      return .messageChanged ⟨messageId, targetRevision, none⟩
  | .messageHidden =>
      if feedTypeId = openChatRewriteType then
        return .messageHidden ⟨[currentMessageId], []⟩
      else do
        let infos ← requiredArray json "chatLogInfos"
        return .messageHidden ⟨infos.filterMap fun info => (info.get "logId").bind jsonId, []⟩
  | .hostChanged =>
      return .hostChanged ⟨(json.get "prevHost").bind feedUser, (json.get "newHost").bind feedUser⟩
  | .moderatorAdded => return .moderatorAdded ⟨(json.get "member").bind feedUser⟩
  | .moderatorRemoved => return .moderatorRemoved ⟨(json.get "member").bind feedUser⟩
  | .managerSpeakerMode => do
      let eventType ← requiredI64 json "eventType"
      if eventType = 1 then return .managerSpeakerMode ⟨true⟩
      else if eventType = 2 then return .managerSpeakerMode ⟨false⟩
      else throw ("invalid manager speaker mode: " ++ toString eventType.toInt)
  | .openLinkDeleted => return .openLinkDeleted ⟨⟩
  | .unknown => return .unknown ⟨serde.toString json⟩

/-- `feed::parse`. -/
def parse (serde : Serde) (raw : String) (author : Option Member) (currentMessageId : Int64) :
    Except String FeedPayload := do
  let json ← (serde.fromStr raw).mapError fun error => "invalid feed JSON: " ++ error
  let feedTypeId := ((json.get "feedType").bind Value.asI64).getD 0
  let value ← feedValue serde json feedTypeId author currentMessageId
  return ⟨some value⟩

end Arisa.Database
