import Arisa.Android.Processor
import Arisa.Credential
import Arisa.Database.Mapping
import Arisa.Media.Store
import Arisa.Service.RawQuery
import Arisa.Service.Subscription

/-!
# The calls of the service

`ArisaService` of `service.rs`, one definition for each call. A call meets a
world: the database, the media directory and the files of the application as
they are at that time. What it leaves is the state shared with the other calls.
-/

namespace Arisa.Service

open Arisa.Android Arisa.Database Arisa.Media Arisa.Proto Arisa.Std

structure ArisaService where
  database : Database
  appPath : String
  tempDir : String

/-- What one call meets. -/
structure CallWorld where
  database : Surroundings
  /-- The recursion bound of `map_message`. -/
  fuel : Nat
  storeIo : StoreIo
  io : Io
  directory : Directory
  libraries : Credential.Libraries
  files : FileSystem

/-- What the calls share in memory: the sender of the action thread and that of the events. -/
structure Shared (Failure : Type) where
  processor : Processor Failure
  hub : Hub

inductive Request where
  | healthCheck
  | subscribeEvents
  | reply (request : ReplyRequest)
  | markRead (request : MarkReadRequest)
  | enterChannel (request : EnterChannelRequest)
  | sendMedia (request : SendMediaRequest)
  /-- The messages of the stream and the transport errors between them. -/
  | sendMediaByChunk (stream : List (Except Status SendMediaByChunkRequest))
  | getUser (request : GetUserRequest)
  | getUsers (request : GetUsersRequest)
  | getChannel (request : GetChannelRequest)
  | getMessage (request : GetMessageRequest)
  | getMessages (request : GetMessagesRequest)
  | getChannelMembers (request : GetChannelMembersRequest)
  | rawQuery (request : RawQueryRequest)
  | decrypt (request : DecryptRequest)
  | getCredential

inductive Response where
  | empty
  /-- The stream with this number. -/
  | events (index : Nat)
  | member (member : Member)
  | members (response : GetUsersResponse)
  | channel (channel : Channel)
  | message (event : Event)
  | messages (response : GetMessagesResponse)
  | channelMembers (members : ChannelMembers)
  | rows (response : RawQueryResponse)
  | plaintext (response : DecryptResponse)
  | credential (credential : Credential)

/-- What a call returns and leaves; it has no result when the recursion bound was reached. -/
structure Outcome (Failure : Type) where
  result : Option (Except Status Response)
  shared : Shared Failure
  directory : Directory

section Calls

variable {Failure : Type} (service : ArisaService) (world : CallWorld) (shared : Shared Failure)

/-- A call that only reads. -/
def answer {α : Type} (respond : α → Response) (result : Option (Except Status α)) :
    Outcome Failure :=
  ⟨result.map (Except.map respond), shared, world.directory⟩

/-- `self.enqueue(action)`, with the directory as the call has left it. -/
def enqueue (directory : Directory) (action : Action) : Outcome Failure :=
  let (sent, processor) := shared.processor.enqueue action
  ⟨some ((sent.mapError Status.unavailable).map fun () => .empty),
    { shared with processor }, directory⟩

/-- The subscription starts at the end of what was sent. -/
def subscribeEvents : Outcome Failure :=
  let sent := shared.hub.sent.length
  ⟨some (.ok (.events shared.hub.subscribers.length)),
    { shared with hub :=
      { shared.hub with subscribers := shared.hub.subscribers ++ [⟨sent, sent, []⟩] } },
    world.directory⟩

def reply (request : ReplyRequest) : Outcome Failure :=
  enqueue shared world.directory (.reply request.channelId request.message request.threadId)

def markRead (request : MarkReadRequest) : Outcome Failure :=
  enqueue shared world.directory (.markRead request.channelId)

def enterChannel (request : EnterChannelRequest) : Outcome Failure :=
  enqueue shared world.directory (.enterChannel request.channelId)

/-- `Status::from(ArisaError)`. -/
def statusOf : ArisaError → Status
  | .invalidArgument message => .invalidArgument message
  | .notFound message => .notFound message
  | .internal message => .internal message

def sendMedia (request : SendMediaRequest) : Outcome Failure :=
  match MediaMode.tryFrom request.mode with
  | none => ⟨some (.error (.invalidArgument "invalid media mode")), shared, world.directory⟩
  | some mode =>
      match store world.storeIo service.tempDir world.directory request.files with
      | (.error error, directory) => ⟨some (.error (statusOf error)), shared, directory⟩
      | (.ok files, directory) =>
          enqueue shared directory (.sendMedia request.channelId files (mode = .multiple))

def sendMediaByChunk (stream : List (Except Status SendMediaByChunkRequest)) : Outcome Failure :=
  match storeChunks world.io service.tempDir world.directory stream with
  | (.error status, directory) => ⟨some (.error status), shared, directory⟩
  | (.ok media, directory) =>
      enqueue shared directory (.sendMedia media.channelId media.files media.multiple)

def getUser (request : GetUserRequest) : Outcome Failure :=
  answer world shared .member
    (blocking world.database (service.database.getUser request.channelId request.userId))

def getUsers (request : GetUsersRequest) : Outcome Failure :=
  answer world shared (fun members => .members ⟨members⟩)
    (blocking world.database (service.database.getUsers request.channelId request.userIds))

def getChannel (request : GetChannelRequest) : Outcome Failure :=
  answer world shared .channel (blocking world.database
    (service.database.getChannel world.database.serde request.channelId))

def getMessage (request : GetMessageRequest) : Outcome Failure :=
  answer world shared .message (blocking world.database
    (Database.getMessage (mapMessage world.database.serde service.database world.fuel)
      request.channelId request.messageId))

def getMessages (request : GetMessagesRequest) : Outcome Failure :=
  answer world shared (fun events => .messages ⟨events⟩) (blocking world.database
    (Database.getMessages (mapMessage world.database.serde service.database world.fuel)
      request.channelId request.messageIds))

def getChannelMembers (request : GetChannelMembersRequest) : Outcome Failure :=
  answer world shared .channelMembers (blocking world.database
    (Database.getChannelMembers world.database.serde request.channelId))

/-- `Database::decrypt`. -/
def databaseDecrypt (database : Database) (ciphertext : String) (enc : UInt32) :
    Option Int64 → String
  | some userId => database.decryptor.decryptForUser ciphertext enc userId
  | none => database.decryptor.decrypt ciphertext enc

def decrypt (request : DecryptRequest) : Outcome Failure :=
  answer world shared (fun plaintext => .plaintext ⟨plaintext⟩)
    (some (.ok (databaseDecrypt service.database request.ciphertext request.enc request.userId)))

def getCredential : Outcome Failure :=
  answer world shared .credential (some
    ((Credential.read world.libraries world.files service.appPath).mapError Status.internal))

def handle : Request → Outcome Failure
  | .healthCheck => answer world shared (fun () => .empty) (some (.ok ()))
  | .subscribeEvents => subscribeEvents world shared
  | .reply request => reply world shared request
  | .markRead request => markRead world shared request
  | .enterChannel request => enterChannel world shared request
  | .sendMedia request => sendMedia service world shared request
  | .sendMediaByChunk stream => sendMediaByChunk service world shared stream
  | .getUser request => getUser service world shared request
  | .getUsers request => getUsers service world shared request
  | .getChannel request => getChannel service world shared request
  | .getMessage request => getMessage service world shared request
  | .getMessages request => getMessages service world shared request
  | .getChannelMembers request => getChannelMembers world shared request
  | .rawQuery request => answer world shared .rows (rawQuery world.database request)
  | .decrypt request => decrypt service world shared request
  | .getCredential => getCredential service world shared

end Calls

/-- The action that a call asks for, once it has got as far as that. -/
def actionOf (service : ArisaService) (world : CallWorld) : Request → Option Action
  | .reply request => some (.reply request.channelId request.message request.threadId)
  | .markRead request => some (.markRead request.channelId)
  | .enterChannel request => some (.enterChannel request.channelId)
  | .sendMedia request => do
      let mode ← MediaMode.tryFrom request.mode
      let files ← (store world.storeIo service.tempDir world.directory request.files).1.toOption
      return .sendMedia request.channelId files (mode = .multiple)
  | .sendMediaByChunk stream => do
      let media ← (storeChunks world.io service.tempDir world.directory stream).1.toOption
      return .sendMedia media.channelId media.files media.multiple
  | _ => none

/-- Failures that the caller's request or the server's surroundings are to blame for. -/
def Blamable (request : Request) (status : Status) : Prop :=
  status.code = .invalidArgument ∨ status.code = .internal ∨
    ∃ stream, request = .sendMediaByChunk stream ∧ .error status ∈ stream

/-- What a call can do: enqueue its action, subscribe, or leave everything as it was. -/
inductive Effect {Failure : Type} (service : ArisaService) (world : CallWorld)
    (shared : Shared Failure) (request : Request) : Outcome Failure → Prop
  | enqueued {action : Action} (asked : actionOf service world request = some action)
      (directory : Directory) :
      Effect service world shared request (enqueue shared directory action)
  | subscribed (asked : request = .subscribeEvents) :
      Effect service world shared request (subscribeEvents world shared)
  | nothing {outcome : Outcome Failure} (asked : actionOf service world request = none)
      (unsubscribed : request ≠ .subscribeEvents) (same : outcome.shared = shared)
      (blamable : ∀ status, outcome.result = some (.error status) → Blamable request status) :
      Effect service world shared request outcome

section Effects

variable {Failure : Type} {service : ArisaService} {world : CallWorld} {shared : Shared Failure}

/-- A failed query is answered with an internal error. -/
theorem blocking_error {α : Type} {surroundings : Surroundings} {operation : DbM α}
    {status : Status} (failed : blocking surroundings operation = some (.error status)) :
    status.code = .internal := by
  unfold blocking at failed
  split at failed
  · cases failed
    rfl
  · obtain ⟨result, -, same⟩ := Option.map_eq_some_iff.mp failed
    cases result with
    | ok value => cases same
    | error error =>
        cases same
        rfl

/-- A call that reads the database fails with `INTERNAL` only. -/
theorem Effect.read {α : Type} {request : Request} {respond : α → Response}
    {result : Option (Except Status α)} (asked : actionOf service world request = none)
    (unsubscribed : request ≠ .subscribeEvents)
    (blamable : ∀ status, result = some (.error status) → Blamable request status) :
    Effect service world shared request (answer world shared respond result) := by
  refine .nothing asked unsubscribed rfl ?_
  intro status failed
  obtain ⟨inner, found, same⟩ := Option.map_eq_some_iff.mp failed
  cases inner with
  | ok value => cases same
  | error other =>
      cases same
      exact blamable status found

/-- The unary upload fails for an argument or inside the server. -/
theorem storeAll_error {io : StoreIo} {path : String} {files : List Proto.MediaFile}
    {stored : List Media.MediaFile} {directory after : Directory} {error : ArisaError}
    (failed : storeAll io path stored directory files = (.error error, after)) :
    (statusOf error).code = .invalidArgument ∨ (statusOf error).code = .internal := by
  induction files generalizing stored directory with
  | nil => cases failed
  | cons file rest ih =>
      unfold storeAll at failed
      split at failed
      · cases failed
        exact .inl rfl
      · dsimp only at failed
        split at failed
        · cases failed
          exact .inr rfl
        · cases failed
          exact .inr rfl
        · exact ih failed

/-- A unary upload fails with what the caller got wrong, or with an internal error. -/
theorem store_error {io : StoreIo} {path : String} {files : List Proto.MediaFile}
    {directory after : Directory} {error : ArisaError}
    (failed : store io path directory files = (.error error, after)) :
    (statusOf error).code = .invalidArgument ∨ (statusOf error).code = .internal := by
  unfold store at failed
  split at failed
  · cases failed
    exact .inl rfl
  · exact storeAll_error failed

/-- A failure of the message loop that is not one of the transport. -/
def Ordinary (status : Status) : Prop :=
  status.code = .invalidArgument ∨ status.code = .internal

/-- The metadata of a file is refused with an ordinary status. -/
theorem receiveFileMetadata_error {io : Io} {path : String} {expectedCount : Nat} {upload : Upload}
    {metadata : MediaFileMetadata} {failure : UploadFailure}
    (failed : upload.receiveFileMetadata io path expectedCount metadata = .error failure) :
    Ordinary failure.status := by
  unfold Upload.receiveFileMetadata at failed
  split_ifs at failed
  · cases failed
    exact .inl rfl
  · cases failed
    exact .inl rfl
  · cases failed
    exact .inl rfl
  · simp only at failed
    split at failed
    · cases failed
      exact .inr rfl
    · cases failed

/-- A chunk is refused with an ordinary status. -/
theorem receiveChunk_error {io : Io} {upload : Upload} {chunk : Bytes} {failure : UploadFailure}
    (failed : upload.receiveChunk io chunk = .error failure) : Ordinary failure.status := by
  unfold Upload.receiveChunk at failed
  split at failed
  · cases failed
    exact .inl rfl
  split at failed
  · cases failed
    exact .inl rfl
  split at failed
  · cases failed
    exact .inl rfl
  split at failed
  · cases failed
    exact .inl rfl
  split at failed
  · cases failed
    exact .inr rfl
  · cases failed

/-- So is every message of a chunked upload. -/
theorem receive_error {io : Io} {path : String} {expectedCount : Nat} {upload : Upload}
    {message : SendMediaByChunkRequest} {failure : UploadFailure}
    (failed : upload.receive io path expectedCount message = .error failure) :
    Ordinary failure.status := by
  unfold Upload.receive at failed
  split at failed
  · cases failed
    exact .inl rfl
  · exact receiveFileMetadata_error failed
  · exact receiveChunk_error failed
  · cases failed
    exact .inl rfl

/-- The loop passes a transport error on. -/
theorem receiveAll_error {io : Io} {path : String} {expectedCount : Nat} {upload : Upload}
    {stream : List (Except Status SendMediaByChunkRequest)} {failure : UploadFailure}
    (failed : upload.receiveAll io path expectedCount stream = .error failure) :
    Ordinary failure.status ∨ .error failure.status ∈ stream := by
  induction stream generalizing upload with
  | nil =>
      unfold Upload.receiveAll at failed
      split_ifs at failed
      · cases failed
        exact .inl (.inl rfl)
      · cases failed
        exact .inl (.inl rfl)
  | cons item rest ih =>
      cases item with
      | error status =>
          cases failed
          exact .inr (List.mem_cons_self ..)
      | ok message =>
          rw [Upload.receiveAll] at failed
          split at failed
          · rename_i stopped
            cases failed
            exact .inl (receive_error stopped)
          · exact (ih failed).imp_right (List.mem_cons_of_mem _)

/-- A chunked upload fails with an ordinary status, or with the stream's own failure. -/
theorem storeChunks_error {io : Io} {path : String} {directory after : Directory}
    {stream : List (Except Status SendMediaByChunkRequest)} {status : Status}
    (failed : storeChunks io path directory stream = (.error status, after)) :
    Ordinary status ∨ .error status ∈ stream := by
  unfold storeChunks at failed
  split at failed
  · cases failed
  rename_i failure inner
  cases failed
  unfold storeChunksInner at inner
  dsimp only at inner
  split at inner
  · cases inner
    exact .inl (.inl rfl)
  · cases inner
    exact .inr (List.mem_cons_self ..)
  split at inner
  · split_ifs at inner
    · cases inner
      exact .inl (.inl rfl)
    split at inner
    · cases inner
      exact .inl (.inl rfl)
    split at inner
    · rename_i stopped
      cases inner
      exact (receiveAll_error stopped).imp_right (List.mem_cons_of_mem _)
    · cases inner
  · cases inner
    exact .inl (.inl rfl)

/-- A unary upload queues one action or none. -/
theorem Effect.sendMedia (request : SendMediaRequest) :
    Effect service world shared (.sendMedia request)
      (Service.sendMedia service world shared request) := by
  unfold Service.sendMedia
  cases mode : MediaMode.tryFrom request.mode with
  | none =>
      refine .nothing (by simp [actionOf, mode]) (by simp) rfl ?_
      rintro _ ⟨⟩
      exact .inl rfl
  | some mode =>
      simp only
      rcases stored : store world.storeIo service.tempDir world.directory request.files with
        ⟨result, directory⟩
      cases result with
      | ok files => exact .enqueued (by simp [actionOf, *, Except.toOption]) directory
      | error error =>
          refine .nothing (by simp [actionOf, *, Except.toOption]) (by simp) rfl ?_
          rintro _ ⟨⟩
          exact (store_error stored).imp_right .inl

/-- A chunked upload queues one action or none. -/
theorem Effect.sendMediaByChunk (stream : List (Except Status SendMediaByChunkRequest)) :
    Effect service world shared (.sendMediaByChunk stream)
      (Service.sendMediaByChunk service world shared stream) := by
  unfold Service.sendMediaByChunk
  rcases stored : storeChunks world.io service.tempDir world.directory stream with
    ⟨result, directory⟩
  cases result with
  | ok media => exact .enqueued (by simp [actionOf, stored, Except.toOption]) directory
  | error status =>
      refine .nothing (by simp [actionOf, stored, Except.toOption]) (by simp) rfl ?_
      rintro _ ⟨⟩
      rcases storeChunks_error stored with ordinary | transport
      · exact ordinary.imp_right .inl
      · exact .inr (.inr ⟨stream, rfl, transport⟩)

/-- A query of rows queues none. -/
theorem Effect.rawQuery (request : RawQueryRequest) :
    Effect service world shared (.rawQuery request)
      (answer world shared .rows (Service.rawQuery world.database request)) := by
  refine .read rfl (by simp) ?_
  intro status failed
  rcases rawQuery_error failed with ⟨-, argument⟩ | ⟨-, internal⟩
  · exact .inl argument
  · exact .inr (.inl internal)

/-- Every call does one of the three things. -/
theorem handle_effect (service : ArisaService) (world : CallWorld) (shared : Shared Failure)
    (request : Request) : Effect service world shared request
      (handle service world shared request) := by
  have database {α : Type} {request : Request} (respond : α → Response) (operation : DbM α)
      (asked : actionOf service world request = none)
      (unsubscribed : request ≠ .subscribeEvents) :
      Effect service world shared request
        (answer world shared respond (blocking world.database operation)) :=
    .read asked unsubscribed fun status failed => .inr (.inl (blocking_error failed))
  cases request with
  | healthCheck => exact .read rfl (by simp) (by rintro _ ⟨⟩)
  | subscribeEvents => exact .subscribed rfl
  | reply request => exact .enqueued rfl world.directory
  | markRead request => exact .enqueued rfl world.directory
  | enterChannel request => exact .enqueued rfl world.directory
  | sendMedia request => exact .sendMedia request
  | sendMediaByChunk stream => exact .sendMediaByChunk stream
  | getUser request => exact database _ _ rfl (by simp)
  | getUsers request => exact database _ _ rfl (by simp)
  | getChannel request => exact database _ _ rfl (by simp)
  | getMessage request => exact database _ _ rfl (by simp)
  | getMessages request => exact database _ _ rfl (by simp)
  | getChannelMembers request => exact database _ _ rfl (by simp)
  | rawQuery request => exact .rawQuery request
  | decrypt request => exact .read rfl (by simp) (by rintro _ ⟨⟩)
  | getCredential =>
      refine .read rfl (by simp) ?_
      intro status failed
      cases read : Credential.read world.libraries world.files service.appPath with
      | ok credential => simp [read, Except.mapError] at failed
      | error message =>
          simp only [read, Except.mapError, Option.some.injEq, Except.error.injEq] at failed
          subst failed
          exact .inr (.inl rfl)

/-- A call touches the event channel only to subscribe. -/
theorem handle_hub {request : Request} (unsubscribed : request ≠ .subscribeEvents) :
    (handle service world shared request).shared.hub = shared.hub := by
  have effect := handle_effect service world shared request
  generalize handle service world shared request = outcome at effect ⊢
  cases effect with
  | enqueued asked directory => rfl
  | subscribed asked => exact absurd asked unsubscribed
  | nothing asked unsubscribed same blamable => rw [same]

/-- A call that asks for an action enqueues it and answers what `enqueue` did. -/
theorem handle_of_action {request : Request} {action : Action}
    (asked : actionOf service world request = some action) :
    (handle service world shared request).shared.processor =
        (shared.processor.enqueue action).2 ∧
      (handle service world shared request).result =
        some (((shared.processor.enqueue action).1.mapError Status.unavailable).map
          fun () => .empty) := by
  have effect := handle_effect service world shared request
  generalize handle service world shared request = outcome at effect ⊢
  cases effect with
  | enqueued same directory =>
      obtain rfl := Option.some.inj (asked.symm.trans same)
      exact ⟨rfl, rfl⟩
  | subscribed subscribes =>
      subst subscribes
      cases asked
  | nothing none unsubscribed same blamable =>
      rw [asked] at none
      cases none

/-- Any other call leaves the action thread alone, and says itself what is wrong. -/
theorem handle_of_no_action {request : Request}
    (asked : actionOf service world request = none) :
    (handle service world shared request).shared.processor = shared.processor ∧
      ∀ status, (handle service world shared request).result = some (.error status) →
        Blamable request status := by
  have effect := handle_effect service world shared request
  generalize handle service world shared request = outcome at effect ⊢
  cases effect with
  | enqueued same directory =>
      rw [asked] at same
      cases same
  | subscribed subscribes =>
      refine ⟨rfl, ?_⟩
      rintro _ ⟨⟩
  | nothing none unsubscribed same blamable => exact ⟨by rw [same], blamable⟩

end Effects

/-- The actions a call adds to the queue: the one it asked for, if it returned `Ok`. -/
def addedActions {Failure : Type} (service : ArisaService) (world : CallWorld) (request : Request)
    (outcome : Outcome Failure) : List Action :=
  match outcome.result with
  | some (.ok _) => (actionOf service world request).toList
  | some (.error _) | none => []

/-- Of the queue and the event channel, which the calls share, a call changes only the queue, to
which it adds its action when it returns `Ok`; a subscription adds its receiver to the channel, at
the end of what was sent. A call that asks for an action is answered `Ok` or, if the action thread
has stopped, `UNAVAILABLE`. Any other call fails with an error of the request (`INVALID_ARGUMENT`)
or of the server (`INTERNAL`), or with whatever status its own stream failed with. The database,
which a raw query may write to, and the media directory are not part of this state. -/
theorem handle_exact {Failure : Type} (service : ArisaService) (world : CallWorld)
    (shared : Shared Failure) (request : Request) :
    let outcome := handle service world shared request
    let receives := shared.processor.thread.receives
    outcome.shared.processor = { shared.processor with
      queue := shared.processor.queue ++ addedActions service world request outcome } ∧
    (request = .subscribeEvents → outcome.shared.hub =
      { shared.hub with
        subscribers := shared.hub.subscribers ++
          [⟨shared.hub.sent.length, shared.hub.sent.length, []⟩] }) ∧
    (request ≠ .subscribeEvents → outcome.shared.hub = shared.hub) ∧
    (∀ action, actionOf service world request = some action → outcome.result =
      if receives then some (.ok .empty)
      else some (.error (.unavailable "Android action processor stopped"))) ∧
    (actionOf service world request = none →
      ∀ status, outcome.result = some (.error status) → Blamable request status) := by
  intro outcome receives
  have joins : request = .subscribeEvents → outcome.shared.hub =
      { shared.hub with
        subscribers := shared.hub.subscribers ++
          [⟨shared.hub.sent.length, shared.hub.sent.length, []⟩] } := by
    intro subscribes
    subst subscribes
    rfl
  cases asked : actionOf service world request with
  | none =>
      obtain ⟨processor, blamable⟩ := @handle_of_no_action _ service world shared request asked
      have nothing : addedActions service world request outcome = [] := by
        unfold addedActions
        split
        · rw [asked, Option.toList_none]
        · rfl
        · rfl
      refine ⟨?_, joins, handle_hub, ?_, fun _ => blamable⟩
      · rw [nothing, List.append_nil, processor]
      · rintro _ ⟨⟩
  | some action =>
      obtain ⟨processor, result⟩ := @handle_of_action _ service world shared request action asked
      refine ⟨?_, joins, handle_hub, ?_, by rintro ⟨⟩⟩
      · change (handle service world shared request).shared.processor = _
        rw [processor, addedActions, result, asked, Processor.enqueue]
        split
        · rfl
        · simp [Except.mapError, Except.map]
      · rintro _ ⟨⟩
        change (handle service world shared request).result = _
        rw [result, Processor.enqueue]
        split <;> rfl

end Arisa.Service
