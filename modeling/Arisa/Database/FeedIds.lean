import Arisa.Database.Feed
import Arisa.Std.Decimal
import Mathlib.Data.List.Forall2
import Mathlib.Data.Option.Basic

/-!
# How ids are written in a feed

Two feeds that differ only in whether an id is a number or its decimal text have
the same payload, or fail with the same message.
-/

namespace Arisa.Database

open Arisa.Proto Arisa.Std

/-- The second value is the first, or writes the number in it as a text. -/
inductive IdRespelled : Value → Value → Prop where
  | same (value : Value) : IdRespelled value value
  | text {number : Number} {id : Int64} {text : String}
      (isId : (Value.number number).asI64 = some id) (writes : WritesI64 text.toList id) :
      IdRespelled (.number number) (.string text)

/-- Objects whose members are related as their names say, or equal values. -/
inductive Memberwise (Related : String → Value → Value → Prop) : Value → Value → Prop where
  | same (value : Value) : Memberwise Related value value
  | object {members others : List (String × Value)}
      (each : List.Forall₂ (fun member other => member.1 = other.1 ∧
        Related member.1 member.2 other.2) members others) :
      Memberwise Related (.object members) (.object others)

/-- Arrays whose elements are related, or equal values. -/
inductive Elementwise (Related : Value → Value → Prop) : Value → Value → Prop where
  | same (value : Value) : Elementwise Related value value
  | array {values others : List Value} (each : List.Forall₂ Related values others) :
      Elementwise Related (.array values) (.array others)

/-- The id in a field may be written anew; the other fields are equal. -/
def IdField (field name : String) : Value → Value → Prop :=
  if name = field then IdRespelled else Eq

def UserRespelled : Value → Value → Prop := Memberwise (IdField "userId")

def InfoRespelled : Value → Value → Prop := Memberwise (IdField "logId")

/-- Where ids stand in a feed. -/
def FeedField (name : String) : Value → Value → Prop :=
  if name = "logId" then IdRespelled
  else if name = "member" ∨ name = "prevHost" ∨ name = "newHost" then UserRespelled
  else if name = "members" then Elementwise UserRespelled
  else if name = "chatLogInfos" then Elementwise InfoRespelled
  else Eq

def FeedRespelled : Value → Value → Prop := Memberwise FeedField

/-! ## Fields -/

/-- Members that are related name by name are related at every name that is looked up. -/
theorem lookup_memberwise {Related : String → Value → Value → Prop}
    {members others : List (String × Value)}
    (each : List.Forall₂ (fun member other => member.1 = other.1 ∧
      Related member.1 member.2 other.2) members others) (field : String) :
    Option.Rel (Related field) (members.lookup field) (others.lookup field) := by
  induction each with
  | nil => exact .none
  | @cons member other rest others' head _ ih =>
      obtain ⟨name, value⟩ := member
      obtain ⟨otherName, otherValue⟩ := other
      obtain ⟨rfl, related⟩ := head
      rw [List.lookup_cons, List.lookup_cons]
      by_cases found : field = name
      · subst found
        simpa using Option.Rel.some related
      · rw [beq_false_of_ne found]
        exact ih

/-- A field is looked up in both values alike. -/
theorem Memberwise.get {Related : String → Value → Value → Prop} {value other : Value}
    (refl : ∀ name value, Related name value value) (alike : Memberwise Related value other)
    (field : String) : Option.Rel (Related field) (value.get field) (other.get field) := by
  cases alike with
  | same value =>
      cases value.get field with
      | none => exact .none
      | some found => exact .some (refl field found)
  | object each => exact lookup_memberwise each field

/-- A field is a spelling of itself. -/
theorem idField_refl (field name : String) (value : Value) : IdField field name value value := by
  unfold IdField
  split
  · exact .same value
  · rfl

/-- A field of a feed is a spelling of itself. -/
theorem feedField_refl (name : String) (value : Value) : FeedField name value value := by
  unfold FeedField
  split
  · exact .same value
  · split
    · exact .same value
    · split
      · exact .same value
      · split
        · exact .same value
        · rfl

/-- Equal readings of related values are equal readings of the field. -/
theorem bind_of_rel {α : Type} {Related : Value → Value → Prop} {read : Value → Option α}
    (reads : ∀ value other, Related value other → read other = read value)
    {found other : Option Value} (alike : Option.Rel Related found other) :
    other.bind read = found.bind read := by
  cases alike with
  | none => rfl
  | some related => exact reads _ _ related

/-! ## Readers -/

/-- An id is read the same from a number and from its decimal text. -/
theorem jsonId_respelled (value other : Value) (respelled : IdRespelled value other) :
    jsonId other = jsonId value := by
  cases respelled with
  | same => rfl
  | text isId writes =>
      rw [jsonId, jsonId, isId]
      exact writes.parse

/-- A field that holds no id is read alike. -/
theorem bind_of_eq {α : Type} (read : Value → Option α) {found other : Option Value}
    (alike : Option.Rel Eq found other) : other.bind read = found.bind read :=
  bind_of_rel (fun _ _ same => congrArg read (Eq.symm same)) alike

/-- A user is read the same however his id is spelled. -/
theorem feedUser_respelled (value other : Value) (respelled : UserRespelled value other) :
    feedUser other = feedUser value := by
  have fields := Memberwise.get (idField_refl "userId") respelled
  have ids : (other.get "userId").bind jsonId = (value.get "userId").bind jsonId :=
    bind_of_rel jsonId_respelled (fields "userId")
  have names : (other.get "nickName").bind Value.asStr = (value.get "nickName").bind Value.asStr :=
    bind_of_eq _ (fields "nickName")
  have parts (user : Value) : feedUser user = ((user.get "userId").bind jsonId).bind fun id =>
      ((user.get "nickName").bind Value.asStr).bind fun nickname => some ⟨id, nickname⟩ := by
    simp only [feedUser, Option.bind_eq_bind, Option.bind_assoc]
    rfl
  rw [parts, parts, ids, names]

/-- An entry of `chatLogInfos` gives the same id however it is spelled. -/
theorem logId_respelled (value other : Value) (respelled : InfoRespelled value other) :
    (other.get "logId").bind jsonId = (value.get "logId").bind jsonId :=
  bind_of_rel jsonId_respelled (Memberwise.get (idField_refl _) respelled "logId")

/-- What is read from each element alike is read alike from the array. -/
theorem filterMap_respelled {α : Type} {Related : Value → Value → Prop}
    {read : Value → Option α}
    (reads : ∀ value other, Related value other → read other = read value)
    {values others : List Value} (each : List.Forall₂ Related values others) :
    others.filterMap read = values.filterMap read := by
  induction each with
  | nil => rfl
  | cons head _ ih => rw [List.filterMap_cons, List.filterMap_cons, reads _ _ head, ih]

section Feed

variable {json other : Value}

/-- Of two spellings of a feed each field is a spelling of the other's. -/
theorem FeedRespelled.get (respelled : FeedRespelled json other) (field : String) :
    Option.Rel (FeedField field) (json.get field) (other.get field) :=
  Memberwise.get feedField_refl respelled field

/-- A user in a field of the feed. -/
theorem FeedRespelled.user (respelled : FeedRespelled json other) (field : String)
    (holdsUser : FeedField field = UserRespelled) :
    (other.get field).bind feedUser = (json.get field).bind feedUser :=
  bind_of_rel feedUser_respelled (holdsUser ▸ respelled.get field)

/-- The id that a feed requires is found in both or in neither. -/
theorem FeedRespelled.requiredId (respelled : FeedRespelled json other) :
    requiredId other "logId" = requiredId json "logId" := by
  have ids : (other.get "logId").bind jsonId = (json.get "logId").bind jsonId :=
    bind_of_rel jsonId_respelled (respelled.get "logId")
  rw [Database.requiredId, Database.requiredId, ids]

/-- A number that is no id stands in both as it is. -/
theorem FeedRespelled.requiredI64 (respelled : FeedRespelled json other) (field : String)
    (noId : FeedField field = Eq) :
    requiredI64 other field = requiredI64 json field := by
  have numbers : (other.get field).bind Value.asI64 = (json.get field).bind Value.asI64 :=
    bind_of_eq _ (noId ▸ respelled.get field)
  rw [Database.requiredI64, Database.requiredI64, numbers]

/-- An array in a field of the feed, as a reader of its elements sees it. -/
theorem FeedRespelled.requiredArray {α β : Type} (respelled : FeedRespelled json other)
    (field : String) {Related : Value → Value → Prop}
    (holdsArray : FeedField field = Elementwise Related) {read : Value → Option α}
    (reads : ∀ value other, Related value other → read other = read value)
    (wrap : List α → β) :
    (do let values ← requiredArray other field; return wrap (values.filterMap read) :
      Except String β) =
      do let values ← requiredArray json field; return wrap (values.filterMap read) := by
  have alike := holdsArray ▸ respelled.get field
  unfold Database.requiredArray
  generalize json.get field = found, other.get field = otherFound at alike
  cases alike with
  | none => rfl
  | some related =>
      cases related with
      | same value => rfl
      | array each =>
          change Except.ok (wrap _) = Except.ok (wrap _)
          rw [filterMap_respelled reads each]

/-- So a feed of a known type has one value for all its spellings. -/
theorem feedValue_respelled (serde : Serde) (respelled : FeedRespelled json other)
    {feedTypeId : Int64} (known : FeedType.ofInt64 feedTypeId ≠ .unknown)
    (author : Option Member) (currentMessageId : Int64) :
    feedValue serde other feedTypeId author currentMessageId =
      feedValue serde json feedTypeId author currentMessageId := by
  have member := respelled.user "member" rfl
  have joined := respelled.requiredArray "members" rfl feedUser_respelled
    fun users => FeedValue.userJoined ⟨users⟩
  unfold feedValue
  cases kind : FeedType.ofInt64 feedTypeId with
  | userJoined => exact joined
  | openLinkUserJoined => exact joined
  | userLeft => simp only [member]
  | userKicked => simp only [member]
  | moderatorAdded => simp only [member]
  | moderatorRemoved => simp only [member]
  | messageDeleted => simp only [respelled.requiredId]
  | messageChanged =>
      simp only [respelled.requiredId, respelled.requiredI64 "targetRevision" rfl]
  | messageHidden =>
      by_cases rewritten : feedTypeId = openChatRewriteType
      · simp only [rewritten, if_true]
      · simp only [rewritten, if_false]
        exact respelled.requiredArray "chatLogInfos" rfl logId_respelled fun ids =>
          FeedValue.messageHidden ⟨ids, []⟩
  | hostChanged => simp only [respelled.user "prevHost" rfl, respelled.user "newHost" rfl]
  | managerSpeakerMode => simp only [respelled.requiredI64 "eventType" rfl]
  | openLinkDeleted => rfl
  | unknown => exact absurd kind known

/-- A feed of a known type is parsed alike however its ids are written. -/
theorem parse_respelled (serde : Serde) {raw respelledRaw : String} {json other : Value}
    (read : serde.fromStr raw = .ok json) (otherRead : serde.fromStr respelledRaw = .ok other)
    (respelled : FeedRespelled json other)
    (known : FeedType.ofInt64 (((json.get "feedType").bind Value.asI64).getD 0) ≠ .unknown)
    (author : Option Member) (currentMessageId : Int64) :
    parse serde respelledRaw author currentMessageId =
      parse serde raw author currentMessageId := by
  have feedType : (other.get "feedType").bind Value.asI64 =
      (json.get "feedType").bind Value.asI64 := bind_of_eq _ (respelled.get "feedType")
  simp only [parse, read, otherRead, Except.mapError, bind, Except.bind, feedType]
  rw [feedValue_respelled serde respelled known]

end Feed

def numberFeed : String := "\x7b\"feedType\":14,\"logId\":-5\x7d"
def textFeed : String := "\x7b\"feedType\":14,\"logId\":\"-5\"\x7d"

/-- The JSON reader on the two texts. -/
def respelledSerde : Serde where
  fromStr text :=
    if text = numberFeed then
      .ok (.object [("feedType", .number (.posInt 14)), ("logId", .number (.negInt (-5)))])
    else if text = textFeed then
      .ok (.object [("feedType", .number (.posInt 14)), ("logId", .string "-5")])
    else
      .error "expected value at line 1 column 1"
  toString _ := "\x7b\x7d"

/-- A deletion whose id is spelled as a text. -/
theorem textFeed_parse : parse respelledSerde textFeed none 1 =
    parse respelledSerde numberFeed none 1 := by
  refine parse_respelled respelledSerde rfl rfl (.object ?_) (by decide) none 1
  refine .cons ⟨rfl, rfl⟩ (.cons ⟨rfl, ?_⟩ .nil)
  exact .text rfl (writesI64_toString (-5))

end Arisa.Database
