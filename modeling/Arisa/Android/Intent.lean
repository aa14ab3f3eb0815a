import Arisa.Semantics.Faults

/-!
# Intents

The Java objects that `android/intent.rs` builds, and its functions. A Java
object is changed in place there; here a function returns the changed one.
`reply_eq` and its siblings say which intent each builder makes, and how many
JNI calls it takes on the way.
-/

namespace Arisa.Android

open Arisa.Semantics.Faults

structure ComponentName where
  package : String
  className : String
deriving DecidableEq

/-- The value types of `putExtra` and `putParcelableArrayListExtra` in use. -/
inductive Extra where
  | string (value : String)
  | long (value : Int64)
  | int (value : Int32)
  | bool (value : Bool)
  | bundle (texts : List (String × String))
  | uri (value : String)
  | uris (values : List String)
deriving DecidableEq

/-- A map entry under a new key, or in the place of the old one. -/
def putKey {α : Type} (entries : List (String × α)) (key : String) (value : α) :
    List (String × α) :=
  entries.filter (fun entry => entry.1 ≠ key) ++ [(key, value)]

structure Intent where
  component : Option ComponentName
  action : Option String
  mime : Option String
  package : Option String
  flags : Int32
  extras : List (String × Extra)
  /-- The label and the intent of `ClipData.newIntent`. -/
  clipData : Option (String × Intent)

namespace Intent

/-- `new Intent()`. -/
def new : Intent := ⟨none, none, none, none, 0, [], none⟩

def putExtra (intent : Intent) (key : String) (value : Extra) : Intent :=
  { intent with extras := putKey intent.extras key value }

end Intent

/-- How the activity manager was asked to start an intent, and whether the call returned. -/
structure Start where
  /-- The method and whether its signature has a `calling_feature_id`. -/
  method : String
  callingFeatureId : Bool
  callingPackage : String
  intent : Intent
  resolvedType : Option String
  userId : Int32
  returned : Bool

section Builders

variable {Failure : Type}

abbrev Jni (Failure : Type) := Calling Failure Start

/-- A JNI call for its result. -/
def callMethod {α : Type} (result : α) : Jni Failure α := do
  call
  pure result

def newString (value : String) : Jni Failure String :=
  callMethod value

def newIntent : Jni Failure Intent :=
  callMethod .new

def newBundle : Jni Failure (List (String × String)) :=
  callMethod []

def setComponent (intent : Intent) (className : String) : Jni Failure Intent := do
  let package ← newString "com.kakao.talk"
  let className ← newString className
  let component ← callMethod (⟨package, className⟩ : ComponentName)
  callMethod { intent with component := some component }

def setAction (intent : Intent) (action : String) : Jni Failure Intent := do
  let action ← newString action
  callMethod { intent with action := some action }

def setType (intent : Intent) (mime : String) : Jni Failure Intent := do
  let mime ← newString mime
  callMethod { intent with mime := some mime }

def setPackage (intent : Intent) (package : String) : Jni Failure Intent := do
  let package ← newString package
  callMethod { intent with package := some package }

def addFlags (intent : Intent) (flags : Int32) : Jni Failure Intent :=
  callMethod { intent with flags := intent.flags ||| flags }

def putString (intent : Intent) (key value : String) : Jni Failure Intent := do
  let key ← newString key
  let value ← newString value
  callMethod (intent.putExtra key (.string value))

/-- `put_long`, `put_int`, `put_bool`, `put_bundle` and `put_parcelable`: only the key is
made into a Java object. -/
def putValue (intent : Intent) (key : String) (value : Extra) : Jni Failure Intent := do
  let key ← newString key
  callMethod (intent.putExtra key value)

def putLong (intent : Intent) (key : String) (value : Int64) : Jni Failure Intent :=
  putValue intent key (.long value)

def putInt (intent : Intent) (key : String) (value : Int32) : Jni Failure Intent :=
  putValue intent key (.int value)

def putBool (intent : Intent) (key : String) (value : Bool) : Jni Failure Intent :=
  putValue intent key (.bool value)

def putBundle (intent : Intent) (key : String) (bundle : List (String × String)) :
    Jni Failure Intent :=
  putValue intent key (.bundle bundle)

def putParcelable (intent : Intent) (key uri : String) : Jni Failure Intent :=
  putValue intent key (.uri uri)

def bundlePutText (bundle : List (String × String)) (key value : String) :
    Jni Failure (List (String × String)) := do
  let key ← newString key
  let value ← newString value
  callMethod (putKey bundle key value)

def clipData (label : String) (intent : Intent) : Jni Failure (String × Intent) := do
  let label ← newString label
  callMethod (label, intent)

def parseUri (value : String) : Jni Failure String := do
  let value ← newString value
  callMethod value

/-- The loop of `uri_list`, from the list made so far. -/
def addUris (list : List String) : List String → Jni Failure (List String)
  | [] => pure list
  | value :: rest => do
      let uri ← parseUri value
      let list ← callMethod (list ++ [uri])
      addUris list rest

def uriList (values : List String) : Jni Failure (List String) := do
  let list ← callMethod []
  addUris list values

def notificationIntent (action : String) : Jni Failure Intent := do
  let intent ← newIntent
  let intent ← setComponent intent "com.kakao.talk.notification.NotificationActionService"
  setAction intent action

def shareIntent (action mime : String) : Jni Failure Intent := do
  let intent ← newIntent
  let intent ← setType intent mime
  let intent ← setPackage intent "com.kakao.talk"
  let intent ← setAction intent action
  setComponent intent "com.kakao.talk.activity.RecentExcludeIntentFilterActivity"

def configureShareTarget (intent : Intent) (channelId : Int64) : Jni Failure Intent := do
  let intent ← putLong intent "key_id" channelId
  let intent ← putInt intent "key_type" 1
  let intent ← putBool intent "key_from_direct_share" true
  addFlags intent (0x00000001 ||| 0x10000000 ||| 0x04000000)

def reply (referer : String) (channelId : Int64) (message : String) (threadId : Option Int64) :
    Jni Failure Intent := do
  let intent ← notificationIntent "com.kakao.talk.notification.REPLY_MESSAGE"
  let intent ← putString intent "noti_referer" referer
  let intent ← putLong intent "chat_id" channelId
  let intent ← putBool intent "is_chat_thread_notification" threadId.isSome
  let intent ← match threadId with
    | some threadId => putLong intent "thread_id" threadId
    | none => pure intent
  let results ← newBundle
  let results ← bundlePutText results "reply_message" message
  let clipIntent ← newIntent
  let clipIntent ← putBundle clipIntent "android.remoteinput.resultsData" results
  let clip ← clipData "android.remoteinput.results" clipIntent
  callMethod { intent with clipData := some clip }

def markRead (referer : String) (channelId : Int64) : Jni Failure Intent := do
  let intent ← notificationIntent "com.kakao.talk.notification.READ_MESSAGE"
  let intent ← putString intent "noti_referer" referer
  let intent ← putLong intent "chat_id" channelId
  putBool intent "is_chat_thread_notification" false

def enterChannel (channelId : Int64) : Jni Failure Intent := do
  let intent ← newIntent
  let intent ← setComponent intent "com.kakao.talk.activity.RecentExcludeIntentFilterActivity"
  let intent ← setAction intent "com.kakao.talk.intent.action.ENTER_CHAT_ROOM"
  let intent ← addFlags intent 335544320
  putLong intent "chatRoomId" channelId

def sendMedia (channelId : Int64) (uri mime : String) : Jni Failure Intent := do
  let intent ← shareIntent "android.intent.action.SEND" mime
  let uri ← parseUri uri
  let intent ← putParcelable intent "android.intent.extra.STREAM" uri
  configureShareTarget intent channelId

def sendMediaMultiple (channelId : Int64) (uris : List String) : Jni Failure Intent := do
  let intent ← shareIntent "android.intent.action.SEND_MULTIPLE" "*/*"
  let values ← uriList uris
  let key ← newString "android.intent.extra.STREAM"
  let intent ← callMethod (intent.putExtra key (.uris values))
  configureShareTarget intent channelId

end Builders

/-- The component that opens chats and receives shared files. -/
def filterActivity : ComponentName :=
  ⟨"com.kakao.talk", "com.kakao.talk.activity.RecentExcludeIntentFilterActivity"⟩

def notificationService : ComponentName :=
  ⟨"com.kakao.talk", "com.kakao.talk.notification.NotificationActionService"⟩

/-- The intent of a reply, whole. -/
def replyIntent (referer : String) (channelId : Int64) (message : String)
    (threadId : Option Int64) : Intent where
  component := some notificationService
  action := some "com.kakao.talk.notification.REPLY_MESSAGE"
  mime := none
  package := none
  flags := 0
  extras :=
    [("noti_referer", .string referer), ("chat_id", .long channelId),
      ("is_chat_thread_notification", .bool threadId.isSome)] ++
    threadId.toList.map fun threadId => ("thread_id", .long threadId)
  clipData := some ("android.remoteinput.results",
    Intent.new.putExtra "android.remoteinput.resultsData" (.bundle [("reply_message", message)]))

def markReadIntent (referer : String) (channelId : Int64) : Intent where
  component := some notificationService
  action := some "com.kakao.talk.notification.READ_MESSAGE"
  mime := none
  package := none
  flags := 0
  extras :=
    [("noti_referer", .string referer), ("chat_id", .long channelId),
      ("is_chat_thread_notification", .bool false)]
  clipData := none

def enterChannelIntent (channelId : Int64) : Intent where
  component := some filterActivity
  action := some "com.kakao.talk.intent.action.ENTER_CHAT_ROOM"
  mime := none
  package := none
  flags := 335544320
  extras := [("chatRoomId", .long channelId)]
  clipData := none

/-- The intent that shares `stream` with a chat. -/
def streamIntent (action mime : String) (stream : Extra) (channelId : Int64) : Intent where
  component := some filterActivity
  action := some action
  mime := some mime
  package := some "com.kakao.talk"
  flags := 0x14000001
  extras :=
    [("android.intent.extra.STREAM", stream), ("key_id", .long channelId), ("key_type", .int 1),
      ("key_from_direct_share", .bool true)]
  clipData := none

section Made

variable {Failure α : Type}

/-- A method is one call: the steps of building an intent are counted so. -/
theorem callMethod_bind {β : Type} (result : β) (next : β → Jni Failure α) :
    (callMethod result >>= next) = (calls 1 >>= fun _ => next result) := by
  simp [callMethod, ← call_bind]

/-- Setting the component takes four calls. -/
theorem setComponent_bind (intent : Intent) (className : String) (next : Intent → Jni Failure α) :
    (setComponent intent className >>= next) =
      (calls 4 >>= fun _ =>
        next { intent with component := some ⟨"com.kakao.talk", className⟩ }) := by
  simp [setComponent, newString, callMethod_bind]

/-- Setting the action takes two calls. -/
theorem setAction_bind (intent : Intent) (action : String) (next : Intent → Jni Failure α) :
    (setAction intent action >>= next) =
      (calls 2 >>= fun _ => next { intent with action := some action }) := by
  simp [setAction, newString, callMethod_bind]

/-- A text takes three calls. -/
theorem putString_bind (intent : Intent) (key value : String) (next : Intent → Jni Failure α) :
    (putString intent key value >>= next) =
      (calls 3 >>= fun _ => next (intent.putExtra key (.string value))) := by
  simp [putString, newString, callMethod_bind]

/-- Any other extra takes two calls. -/
theorem putValue_bind (intent : Intent) (key : String) (value : Extra)
    (next : Intent → Jni Failure α) :
    (putValue intent key value >>= next) =
      (calls 2 >>= fun _ => next (intent.putExtra key value)) := by
  simp [putValue, newString, callMethod_bind]

/-- One element takes the two calls of `parse_uri` and the call of `add`. -/
theorem addUris_bind (list values : List String) (next : List String → Jni Failure α) :
    (addUris list values >>= next) =
      (calls (3 * values.length) >>= fun _ => next (list ++ values)) := by
  induction values generalizing list with
  | nil => simp [addUris]
  | cons value rest ih =>
      have count : 3 * (value :: rest).length = 1 + (1 + 1) + 3 * rest.length := by
        rw [List.length_cons]
        omega
      simp only [addUris, parseUri, newString, bind_assoc, callMethod_bind, ih,
        calls_bind_calls, count, List.append_assoc, List.singleton_append]

/-- An intent to the notification service takes seven calls in all. -/
theorem notificationIntent_bind (action : String) (next : Intent → Jni Failure α) :
    (notificationIntent action >>= next) =
      (calls 7 >>= fun _ => next
        { Intent.new with component := some notificationService, action := some action }) := by
  simp [notificationIntent, newIntent, callMethod_bind, setComponent_bind, setAction_bind,
    notificationService]

/-- The intent `share_intent` makes. -/
def sharedIntent (action mime : String) : Intent where
  component := some filterActivity
  action := some action
  mime := some mime
  package := some "com.kakao.talk"
  flags := 0
  extras := []
  clipData := none

/-- An intent that shares takes eleven calls in all. -/
theorem shareIntent_bind (action mime : String) (next : Intent → Jni Failure α) :
    (shareIntent action mime >>= next) =
      (calls 11 >>= fun _ => next (sharedIntent action mime)) := by
  simp [shareIntent, newIntent, setType, setPackage, newString, callMethod_bind, setComponent_bind,
    setAction_bind, filterActivity, sharedIntent, Intent.new]

/-- What `configure_share_target` makes of a share intent with its stream. -/
theorem configureShareTarget_eq (action mime : String) (stream : Extra) (channelId : Int64) :
    (configureShareTarget
      ((sharedIntent action mime).putExtra "android.intent.extra.STREAM" stream) channelId :
        Jni Failure Intent) =
      (calls 7 >>= fun _ => pure (streamIntent action mime stream channelId)) := by
  have flags : (0 : Int32) ||| (0x00000001 ||| 0x10000000 ||| 0x04000000) = 0x14000001 := by
    decide
  simp [configureShareTarget, putLong, putInt, putBool, addFlags, callMethod, call_bind,
    putValue_bind, Intent.putExtra, putKey, streamIntent, sharedIntent, flags, -bind_pure_comp]

end Made

/-- A builder either makes its intent, or one of its calls was refused. -/
theorem reply_eq {Failure : Type} (referer : String) (channelId : Int64) (message : String)
    (threadId : Option Int64) :
    (reply referer channelId message threadId : Jni Failure Intent) =
      (calls (24 + 2 * threadId.toList.length) >>= fun _ =>
        pure (replyIntent referer channelId message threadId)) := by
  cases threadId with
  | none =>
      simp [reply, notificationIntent_bind, putString_bind, putLong, putBool, putValue_bind,
        newBundle, bundlePutText, putBundle, newIntent, clipData, newString, callMethod, call_bind,
        replyIntent, Intent.new, Intent.putExtra, putKey, -bind_pure_comp]
  | some threadId =>
      simp [reply, notificationIntent_bind, putString_bind, putLong, putBool, putValue_bind,
        newBundle, bundlePutText, putBundle, newIntent, clipData, newString, callMethod, call_bind,
        replyIntent, Intent.new, Intent.putExtra, putKey, -bind_pure_comp]

/-- Marking as read makes its calls, any of which may fail, and builds one intent if none does. -/
theorem markRead_eq {Failure : Type} (referer : String) (channelId : Int64) :
    (markRead referer channelId : Jni Failure Intent) =
      (calls 14 >>= fun _ => pure (markReadIntent referer channelId)) := by
  simp [markRead, notificationIntent_bind, putString_bind, putLong, putBool, putValue, newString,
    callMethod, call_bind, markReadIntent, Intent.new, Intent.putExtra, putKey, -bind_pure_comp]

/-- Entering a channel does the same with fewer calls. -/
theorem enterChannel_eq {Failure : Type} (channelId : Int64) :
    (enterChannel channelId : Jni Failure Intent) =
      (calls 10 >>= fun _ => pure (enterChannelIntent channelId)) := by
  have flags : (0 : Int32) ||| 335544320 = 335544320 := by decide
  simp [enterChannel, newIntent, setComponent_bind, setAction_bind, addFlags, putLong, putValue,
    newString, callMethod, call_bind, enterChannelIntent, Intent.new, Intent.putExtra, putKey,
    filterActivity, flags, -bind_pure_comp]

/-- Sharing one file builds its intent in 22 calls. -/
theorem sendMedia_eq {Failure : Type} (channelId : Int64) (uri mime : String) :
    (sendMedia channelId uri mime : Jni Failure Intent) =
      (calls 22 >>= fun _ =>
        pure (streamIntent "android.intent.action.SEND" mime (.uri uri) channelId)) := by
  simp only [sendMedia, shareIntent_bind, parseUri, newString, bind_assoc, callMethod_bind,
    putParcelable, putValue_bind, configureShareTarget_eq, calls_bind_calls]

/-- Sharing several files takes three calls for each of them besides. -/
theorem sendMediaMultiple_eq {Failure : Type} (channelId : Int64) (uris : List String) :
    (sendMediaMultiple channelId uris : Jni Failure Intent) =
      (calls (21 + 3 * uris.length) >>= fun _ =>
        pure (streamIntent "android.intent.action.SEND_MULTIPLE" "*/*" (.uris uris)
          channelId)) := by
  have count : 11 + (1 + (3 * uris.length + (1 + 1)) + 7) = 21 + 3 * uris.length := by omega
  simp only [sendMediaMultiple, shareIntent_bind, uriList, newString, bind_assoc, callMethod_bind,
    addUris_bind, List.nil_append, configureShareTarget_eq, calls_bind_calls, count]

end Arisa.Android
