import Arisa.Media.Acceptance
import Arisa.Media.Spool

/-!
# What the retention cleanup may delete

The cleanup decides by age alone: it neither knows which uploads are under way
nor which actions wait. Nothing else removes a file that an accepted upload has
stored, so a file is there when its action is processed unless a cleanup has
found it too old before.
-/

namespace Arisa.Media

open Arisa.Android Arisa.Proto Arisa.Semantics Arisa.Std

/-- The paths of the files an activity has stored. -/
def Activity.stored : Activity → List MediaFile
  | .uploading _ _ _ upload => upload.stored
  | .storing _ _ _ stored _ => stored
  | .removing files => files
  | .accepted action => action.files
  | .idle | .sweeping _ | .expiring _ _ => []

/-- The files an activity will hand on; a failed upload hands on nothing. -/
def Activity.promised : Activity → List MediaFile
  | .removing _ => []
  | activity => activity.stored

abbrev SpoolTrace := List (Nat × SpoolLabel)

/-- A cleanup has found the file too old. -/
def Expired (trace : SpoolTrace) (name : String) : Prop :=
  ∃ index written cutoff, (index, .expired name written cutoff) ∈ trace

/-- The file is there unless a cleanup has found it too old. -/
def Kept (trace : SpoolTrace) (spool : Spool) (name : String) : Prop :=
  (spool.modified name).isSome ∨ Expired trace name

/-- The names of the files in the queue. -/
def Spool.queued (spool : Spool) : List MediaFile :=
  spool.queue.flatMap Action.files

structure QueueKept (trace : SpoolTrace) (spool : Spool) : Prop where
  issued : ∀ file ∈ spool.queued, file.path ∈ spool.issued
  kept : ∀ file ∈ spool.queued, Kept trace spool file.path

structure ActivityKept (trace : SpoolTrace) (spool : Spool) (activity : Activity) : Prop where
  issued : ∀ file ∈ activity.stored, file.path ∈ spool.issued
  unqueued : ∀ file ∈ activity.stored, ∀ other ∈ spool.queued, file.path ≠ other.path
  kept : ∀ file ∈ activity.promised, Kept trace spool file.path
  expired : ∀ cutoff name, activity = .expiring cutoff name → Expired trace name

section Concat

variable {trace : SpoolTrace} {label : Nat × SpoolLabel} {spool : Spool}

/-- What a cleanup has found is not forgotten. -/
theorem Expired.concat {name : String} (expired : Expired trace name) :
    Expired (trace ++ [label]) name := by
  obtain ⟨index, written, cutoff, member⟩ := expired
  exact ⟨index, written, cutoff, List.mem_append_left _ member⟩

/-- The files of the queue are kept while the trace grows. -/
theorem QueueKept.concat (queue : QueueKept trace spool) : QueueKept (trace ++ [label]) spool where
  issued := queue.issued
  kept file member := (queue.kept file member).imp_right Expired.concat

/-- The files of an activity are kept while the trace grows. -/
theorem ActivityKept.concat {activity : Activity} (own : ActivityKept trace spool activity) :
    ActivityKept (trace ++ [label]) spool activity where
  issued := own.issued
  unqueued := own.unqueued
  kept file member := (own.kept file member).imp_right Expired.concat
  expired cutoff name same := (own.expired cutoff name same).concat

end Concat

/-- Two activities store different files. -/
def StoredApart (activity other : Activity) : Prop :=
  ∀ file ∈ activity.stored, ∀ another ∈ other.stored, file.path ≠ another.path

/-- Which of two activities is named first does not matter. -/
theorem StoredApart.symm (activity other : Activity) (apart : StoredApart activity other) :
    StoredApart other activity :=
  fun file member another found => (apart another found file member).symm

/-- An activity hands on only files that it has stored. -/
theorem Activity.stored_of_promised {activity : Activity} {file : MediaFile}
    (promised : file ∈ activity.promised) : file ∈ activity.stored := by
  cases activity with
  | removing files => cases promised
  | _ => exact promised

/-- A file that appears under a name never used before. -/
structure Appears (spool next : Spool) (name : String) : Prop where
  unused : name ∉ spool.issued
  issued : name ∈ next.issued
  there : (next.modified name).isSome

/-- What a turn can do: `trace` includes its own label. A file is lost only to a
cleanup that found it too old, or to the failed upload that stored it. -/
structure Frame (trace : SpoolTrace) (spool : Spool) (activity : Activity) (next : Spool)
    (after : Activity) : Prop where
  issued : ∀ name ∈ spool.issued, name ∈ next.issued
  lost : ∀ name, (spool.modified name).isSome →
    (next.modified name).isSome ∨ Expired trace name ∨
      activity.promised = [] ∧ ∃ file ∈ activity.stored, file.path = name
  stored : ∀ file ∈ after.stored, file ∈ activity.stored ∨ Appears spool next file.path
  promised : ∀ file ∈ after.promised, file ∈ activity.promised ∨ Appears spool next file.path
  queued : ∀ file ∈ next.queued,
    file ∈ spool.queued ∨ file ∈ activity.promised ∧ after.stored = []
  expired : ∀ cutoff name, after = .expiring cutoff name → Expired trace name

section Preservation

variable {trace : SpoolTrace} {spool next : Spool}
  {activity after : Activity}

/-- A file kept so far is kept by a turn, unless the turn belongs to the failed upload of it. -/
theorem Frame.kept (frame : Frame trace spool activity next after) {name : String}
    (kept : Kept trace spool name)
    (others : activity.promised = [] → ∀ file ∈ activity.stored, file.path ≠ name) :
    Kept trace next name := by
  rcases kept with there | expired
  · rcases frame.lost name there with still | expired | ⟨failed, file, member, same⟩
    · exact .inl still
    · exact .inr expired
    · exact absurd same (others failed file member)
  · exact .inr expired

/-- A turn keeps the queue, and what it adds are files its activity had promised. -/
theorem Frame.queue (frame : Frame trace spool activity next after)
    (queue : QueueKept trace spool) (own : ActivityKept trace spool activity) :
    QueueKept trace next where
  issued := by
    intro file member
    rcases frame.queued file member with earlier | ⟨promised, _⟩
    · exact frame.issued _ (queue.issued file earlier)
    · exact frame.issued _ (own.issued file (Activity.stored_of_promised promised))
  kept := by
    intro file member
    rcases frame.queued file member with earlier | ⟨promised, _⟩
    · exact frame.kept (queue.kept file earlier) fun _ stored found =>
        own.unqueued stored found file earlier
    · refine frame.kept (own.kept file promised) fun failed => ?_
      rw [failed] at promised
      cases promised

/-- It keeps the files of its own activity, the one it has just made included. -/
theorem Frame.own (frame : Frame trace spool activity next after)
    (queue : QueueKept trace spool) (own : ActivityKept trace spool activity) :
    ActivityKept trace next after where
  issued := by
    intro file member
    rcases frame.stored file member with earlier | appears
    · exact frame.issued _ (own.issued file earlier)
    · exact appears.issued
  unqueued := by
    intro file member other queued same
    rcases frame.queued other queued with earlier | ⟨_, nothing⟩
    · rcases frame.stored file member with stored | appears
      · exact own.unqueued file stored other earlier same
      · exact appears.unused (same ▸ queue.issued other earlier)
    · rw [nothing] at member
      cases member
  kept := by
    intro file member
    rcases frame.promised file member with promised | appears
    · refine frame.kept (own.kept file promised) fun failed => ?_
      rw [failed] at promised
      cases promised
    · exact .inl appears.there
  expired := frame.expired

/-- No other activity stores the file that a turn removes, unless it was too old. -/
theorem Frame.other (frame : Frame trace spool activity next after)
    {other : Activity} (others : ActivityKept trace spool other)
    (apart : StoredApart activity other) :
    ActivityKept trace next other where
  issued file member := frame.issued _ (others.issued file member)
  unqueued := by
    intro file member queued found
    rcases frame.queued queued found with earlier | ⟨promised, _⟩
    · exact others.unqueued file member queued earlier
    · exact (apart queued (Activity.stored_of_promised promised) file member).symm
  kept := by
    intro file member
    refine frame.kept (others.kept file member) fun _ stored found => ?_
    exact apart stored found file (Activity.stored_of_promised member)
  expired := others.expired

/-- A file made in the turn has a name that no other activity has ever seen. -/
theorem Frame.apart (frame : Frame trace spool activity next after) {other : Activity}
    (others : ActivityKept trace spool other) (apart : StoredApart activity other) :
    StoredApart after other := by
  intro file member another found same
  rcases frame.stored file member with stored | appears
  · exact apart file stored another found same
  · exact appears.unused (same ▸ others.issued another found)

end Preservation

/-! ## The turns -/

/-- A refused message leaves the upload as it was. -/
theorem receive_error_upload {io : Io} {path : String} {count : Nat} {upload : Upload}
    {message : SendMediaByChunkRequest} {failure : UploadFailure}
    (failed : upload.receive io path count message = .error failure) :
    failure.upload = upload := by
  unfold Upload.receive Upload.receiveFileMetadata Upload.receiveChunk at failed
  simp only at failed
  repeat' split at failed
  all_goals first
    | rfl
    | cases failed <;> rfl

/-- At the end of the stream the upload is returned as it is. -/
theorem receiveAll_nil_ok {io : Io} {path : String} {count : Nat} {upload final : Upload}
    (ended : upload.receiveAll io path count [] = .ok final) : final = upload := by
  unfold Upload.receiveAll at ended
  split_ifs at ended
  cases ended
  rfl

/-- Where the stream ends too early, the upload is the one to clean up. -/
theorem receiveAll_nil_error {io : Io} {path : String} {count : Nat} {upload : Upload}
    {failure : UploadFailure} (failed : upload.receiveAll io path count [] = .error failure) :
    failure.upload = upload := by
  unfold Upload.receiveAll at failed
  split_ifs at failed
  · cases failed
    rfl
  · cases failed
    rfl

section Turns

variable {path : String} {trace : SpoolTrace} {spool : Spool} {activity after : Activity}

/-- Creating a file removes none. -/
theorem Spool.create_isSome (spool : Spool) (created name : String)
    (there : (spool.modified name).isSome) : ((spool.create created).modified name).isSome := by
  unfold Spool.create
  by_cases same : name = created
  · simp [same]
  · simpa [Function.update_of_ne same] using there

/-- Writing a file removes none. -/
theorem Spool.write_isSome (spool : Spool) (written name : String)
    (there : (spool.modified name).isSome) : ((spool.write written).modified name).isSome := by
  unfold Spool.write
  split_ifs with found
  · by_cases same : name = written
    · simp [same]
    · simpa [Function.update_of_ne same] using there
  · exact there

/-- A write issues no name. -/
theorem Spool.write_issued (spool : Spool) (written : String) :
    (spool.write written).issued = spool.issued := by
  unfold Spool.write
  split_ifs <;> rfl

/-- A write hands nothing to the queue. -/
theorem Spool.write_queued (spool : Spool) (written : String) :
    (spool.write written).queued = spool.queued := by
  unfold Spool.write
  split_ifs <;> rfl

/-- A removal is of the removed name only. -/
theorem Spool.remove_isSome (spool : Spool) {removed name : String} (other : name ≠ removed)
    (there : (spool.modified name).isSome) : ((spool.remove removed).modified name).isSome := by
  simpa [Spool.remove, Function.update_of_ne other] using there

/-- A file created under a fresh name was not there, and now is. -/
theorem Spool.create_appears {name : String} (fresh : name ∉ spool.issued) :
    Appears spool (spool.create name) name where
  unused := fresh
  issued := List.mem_cons_self
  there := by simp [Spool.create]

/-- A turn that neither removes nor creates a file, and hands none on. -/
theorem Frame.still {next : Spool} (issued : next.issued = spool.issued)
    (there : ∀ name, (spool.modified name).isSome → (next.modified name).isSome)
    (queued : ∀ file ∈ next.queued, file ∈ spool.queued)
    (stored : ∀ file ∈ after.stored, file ∈ activity.stored)
    (promised : ∀ file ∈ after.promised, file ∈ activity.promised)
    (calm : ∀ cutoff name, after ≠ .expiring cutoff name) :
    Frame trace spool activity next after where
  issued _ member := issued ▸ member
  lost name found := .inl (there name found)
  stored file member := .inl (stored file member)
  promised file member := .inl (promised file member)
  queued file member := .inl (queued file member)
  expired cutoff name same := absurd same (calm cutoff name)

/-- A turn that creates a file under a new name, for an activity that records it. -/
theorem Frame.creates (name : String) (fresh : name ∉ spool.issued)
    (stored : ∀ file ∈ after.stored, file ∈ activity.stored ∨ file.path = name)
    (promised : ∀ file ∈ after.promised, file ∈ activity.promised ∨ file.path = name)
    (calm : ∀ cutoff expired, after ≠ .expiring cutoff expired) :
    Frame trace spool activity (spool.create name) after where
  issued issued member := List.mem_cons_of_mem _ member
  lost kept found := .inl (spool.create_isSome name kept found)
  stored := by
    intro file member
    refine (stored file member).imp_right fun same => ?_
    rw [same]
    exact Spool.create_appears fresh
  promised := by
    intro file member
    refine (promised file member).imp_right fun same => ?_
    rw [same]
    exact Spool.create_appears fresh
  queued file member := .inl member
  expired cutoff expired same := absurd same (calm cutoff expired)

/-- A message taken by a chunked upload. -/
theorem frame_received {io : Io} {metadata : SendMediaByChunkMetadata} {mode : MediaMode}
    {upload next : Upload} {message : SendMediaByChunkRequest}
    (taken : upload.receive io path metadata.fileCount.toNat message = .ok next)
    (fresh : FreshFor path spool io upload message) :
    Frame trace spool (.uploading io metadata mode upload) (spool.take path io upload message)
      (.uploading io metadata mode next) := by
  have calm : ∀ cutoff name, Activity.uploading io metadata mode next ≠ .expiring cutoff name := by
    rintro _ _ ⟨⟩
  unfold Upload.receive at taken
  cases payload : message.payload with
  | none =>
      rw [payload] at taken
      cases taken
  | some payload' =>
      rw [payload] at taken
      cases payload' with
      | metadata other => cases taken
      | fileMetadata fileMetadata =>
          obtain ⟨_, _, _, _, rfl⟩ := receiveFileMetadata_ok_iff.mp taken
          have effect : spool.take path io upload message =
              spool.create (joinPath path (io.uuid upload.stored.length)) := by
            simp only [Spool.take, payload]
          have recorded : ∀ file ∈ upload.stored ++
              [mediaFile io path upload.stored.length fileMetadata],
              file ∈ upload.stored ∨ file.path = joinPath path (io.uuid upload.stored.length) := by
            intro file member
            refine (List.mem_append.mp member).imp_right fun last => ?_
            rw [List.mem_singleton.mp last]
            rfl
          rw [effect]
          exact .creates _ (fresh fileMetadata payload) recorded recorded calm
      | chunk chunk =>
          cases current : upload.current with
          | none => simp [Upload.receiveChunk, current] at taken
          | some file =>
              obtain ⟨_, written, _, rfl⟩ := (receiveChunk_ok_iff current).mp taken
              have effect : spool.take path io upload message =
                  if chunk.isEmpty then spool else spool.write file.file.path := by
                simp only [Spool.take, payload, current]
              rw [effect]
              split_ifs
              · exact .still rfl (fun _ => id) (fun _ => id) (fun _ => id) (fun _ => id) calm
              · exact .still (spool.write_issued _) (spool.write_isSome _)
                  (fun _ queued => spool.write_queued _ ▸ queued) (fun _ => id) (fun _ => id) calm

/-- A turn that leaves the spool as it was, and hands nothing on. -/
theorem Frame.quiet (stored : after.stored = activity.stored)
    (promised : ∀ file ∈ after.promised, file ∈ activity.promised)
    (calm : ∀ cutoff name, after ≠ .expiring cutoff name) :
    Frame trace spool activity spool after :=
  .still rfl (fun _ => id) (fun _ => id) (fun _ member => stored ▸ member) promised calm

/-- A file of a unary upload is written whole. -/
theorem frame_stored {io : Io} {channelId : Int64} {mode : MediaMode} {stored : List MediaFile}
    {file : Proto.MediaFile} {rest : List Proto.MediaFile}
    (fresh : joinPath path (io.uuid stored.length) ∉ spool.issued) :
    Frame trace spool (.storing io channelId mode stored (file :: rest))
      (spool.create (joinPath path (io.uuid stored.length)))
      (.storing io channelId mode
        (stored ++ [storedFile (joinPath path (io.uuid stored.length)) file]) rest) := by
  have recorded : ∀ other ∈ stored ++ [storedFile (joinPath path (io.uuid stored.length)) file],
      other ∈ stored ∨ other.path = joinPath path (io.uuid stored.length) := by
    intro other member
    refine (List.mem_append.mp member).imp_right fun last => ?_
    rw [List.mem_singleton.mp last]
    rfl
  exact .creates _ fresh recorded recorded nofun

/-- What a failed write leaves behind belongs to no record. -/
theorem frame_storeFailed {io : Io} {channelId : Int64} {mode : MediaMode}
    {stored : List MediaFile} {rest : List Proto.MediaFile} (left : Bool)
    (fresh : joinPath path (io.uuid stored.length) ∉ spool.issued) :
    Frame trace spool (.storing io channelId mode stored rest)
      (if left then spool.create (joinPath path (io.uuid stored.length)) else spool)
      (.removing stored) := by
  split_ifs
  · exact .creates _ fresh (fun _ => .inl) nofun nofun
  · exact .quiet rfl nofun nofun

/-- A failed upload removes a file of its own. -/
theorem frame_removed (file : MediaFile) (rest : List MediaFile) :
    Frame trace spool (.removing (file :: rest)) (spool.remove file.path) (.removing rest) := by
  refine ⟨fun _ => id, ?_, fun _ member => .inl (List.mem_cons_of_mem _ member), nofun,
    fun _ => .inl, nofun⟩
  intro name there
  by_cases same : name = file.path
  · exact .inr (.inr ⟨rfl, file, List.mem_cons_self, same.symm⟩)
  · exact .inl (spool.remove_isSome same there)

/-- The files of an accepted action go from the request to the queue. -/
theorem frame_enqueued (action : Action) :
    Frame trace spool (.accepted action) { spool with queue := spool.queue ++ [action] } .idle := by
  refine ⟨fun _ => id, fun _ => .inl, nofun, nofun, ?_, nofun⟩
  intro file member
  simp only [Spool.queued, List.flatMap_append, List.mem_append] at member ⊢
  refine member.imp_right fun last => ⟨?_, rfl⟩
  rwa [List.flatMap_singleton] at last

/-- An action without files brings none into the queue. -/
theorem frame_requested {action : Action} (fileless : action.files = []) :
    Frame trace spool .idle { spool with queue := spool.queue ++ [action] } .idle := by
  refine .still rfl (fun _ => id) ?_ (fun _ => id) (fun _ => id) nofun
  intro file member
  simpa [Spool.queued, fileless] using member

/-- The first action of the queue leaves it with its files. -/
theorem frame_processed {action : Action} {rest : List Action}
    (first : spool.queue = action :: rest) :
    Frame trace spool .idle { spool with queue := rest } .idle := by
  refine .still rfl (fun _ => id) ?_ (fun _ => id) (fun _ => id) nofun
  intro file member
  simp only [Spool.queued, first, List.flatMap_cons, List.mem_append]
  exact .inr member

/-- The label of a cleanup that finds a file too old is in the trace. -/
theorem frame_expired {cutoff : SystemTime} {name : String} (expired : Expired trace name) :
    Frame trace spool (.sweeping cutoff) spool (.expiring cutoff name) := by
  refine ⟨fun _ => id, fun _ => .inl, nofun, nofun, fun _ => .inl, ?_⟩
  rintro _ _ ⟨⟩
  exact expired

/-- A cleanup removes the file it has found too old. -/
theorem frame_deleted {cutoff : SystemTime} {name : String} (expired : Expired trace name) :
    Frame trace spool (.expiring cutoff name) (spool.remove name) (.sweeping cutoff) := by
  refine ⟨fun _ => id, ?_, nofun, nofun, fun _ => .inl, nofun⟩
  intro other there
  by_cases same : other = name
  · rw [same]
    exact .inr (.inl expired)
  · exact .inl (spool.remove_isSome same there)

/-- What each turn can do to the spool and to the activity that takes it. -/
theorem SpoolTurn.frame {next : Spool} {label : SpoolLabel} {index : Nat}
    (turn : SpoolTurn path spool activity label next after)
    (own : ActivityKept (trace ++ [(index, label)]) spool activity) :
    Frame (trace ++ [(index, label)]) spool activity next after := by
  cases turn with
  | clock => exact .still rfl (fun _ => id) (fun _ => id) (fun _ => id) (fun _ => id) nofun
  | uploadBegins => exact .quiet rfl (fun _ => id) nofun
  | received _ _ _ _ _ _ taken fresh => exact frame_received taken fresh
  | uploadFails _ _ _ upload message failure failed =>
      exact .quiet (congrArg Upload.stored (receive_error_upload failed)) nofun nofun
  | uploadBreaks => exact .quiet rfl nofun nofun
  | uploadEndsEarly _ _ _ upload failure failed =>
      exact .quiet (congrArg Upload.stored (receiveAll_nil_error failed)) nofun nofun
  | uploadEnds _ metadata mode upload final ended =>
      rw [receiveAll_nil_ok ended]
      exact .quiet rfl (fun _ => id) nofun
  | storeBegins => exact .quiet rfl (fun _ => id) nofun
  | stores _ _ _ _ _ _ _ fresh => exact frame_stored fresh
  | storeFails _ _ _ _ _ _ left fresh => exact frame_storeFailed left fresh
  | storeEnds => exact .quiet rfl (fun _ => id) nofun
  | removes file rest => exact frame_removed file rest
  | enqueues action => exact frame_enqueued action
  | requests _ fileless => exact frame_requested fileless
  | processes _ _ first => exact frame_processed first
  | sweepBegins => exact .quiet rfl (fun _ => id) nofun
  | expires cutoff name written => exact frame_expired ⟨index, written, cutoff, by simp⟩
  | deletes cutoff removed => exact frame_deleted (own.expired cutoff removed rfl)
  | leaves => exact .still rfl (fun _ => id) (fun _ => id) nofun nofun nofun

end Turns

/-- What is kept in the directory, along a run. -/
abbrev SpoolKept (trace : SpoolTrace) (tasks : Tasks Spool Activity) : Prop :=
  tasks.Holds (QueueKept trace) (ActivityKept trace) StoredApart

/-- In every run, every file that is stored or queued is there or was found too old. -/
theorem spoolKept {path : String} {trace : SpoolTrace} {tasks : Tasks Spool Activity}
    (run : (spoolSystem path).Runs trace tasks) : SpoolKept trace tasks := by
  induction run with
  | @initial tasks valid =>
      refine ⟨⟨?_, ?_⟩, fun index => ?_, fun index other _ => ?_⟩
      · simp [Spool.queued, valid.1]
      · simp [Spool.queued, valid.1]
      · rw [valid.2 index]
        exact ⟨nofun, nofun, nofun, nofun⟩
      · rw [valid.2 index]
        nofun
  | @step trace tasks label next prior transition kept =>
      obtain ⟨index, label⟩ := label
      obtain ⟨spool, after, turn, rfl⟩ := transition
      have now : SpoolKept (trace ++ [(index, label)]) tasks :=
        kept.mono QueueKept.concat fun _ => ActivityKept.concat
      have frame := turn.frame (now.own index)
      exact now.advance StoredApart.symm (frame.queue now.shared (now.own index))
        (frame.own now.shared (now.own index))
        fun other others apart => ⟨frame.other others apart, frame.apart others apart⟩

/-- The Android thread takes the first action of the queue. -/
theorem SpoolTurn.of_processing {path : String} {spool next : Spool} {activity after : Activity}
    {action : Action} (turn : SpoolTurn path spool activity (.processing action) next after) :
    ∃ rest, spool.queue = action :: rest := by
  cases turn with
  | processes _ rest first => exact ⟨rest, first⟩

/-- When a `SendMedia` starts to be processed, each of its files is there unless a cleanup has
found that file's last write to lie before the cleanup's cutoff. -/
theorem media_kept (path : String) {trace : SpoolTrace} {tasks next : Tasks Spool Activity}
    {index : Nat} {channelId : Int64} {files : List MediaFile} {multiple : Bool}
    (run : (spoolSystem path).Runs trace tasks)
    (starts : (spoolSystem path).Step tasks
      (index, .processing (.sendMedia channelId files multiple)) next) :
    ∀ file ∈ files,
      (∀ other written cutoff, (other, .expired file.path written cutoff) ∉ trace) →
      (tasks.shared.modified file.path).isSome := by
  intro file member young
  obtain ⟨_, _, turn, _⟩ := starts
  obtain ⟨rest, first⟩ := turn.of_processing
  have queued : file ∈ tasks.shared.queued := by
    rw [Spool.queued, first, List.flatMap_cons]
    exact List.mem_append_left _ member
  rcases (spoolKept run).shared.kept file queued with there | ⟨other, written, cutoff, expired⟩
  · exact there
  · exact absurd expired (young other written cutoff)

/-! ## Two uploads -/

section Uploads

/-- A healthy system with names `f`, `ff` and so on. -/
def tallyIo : Io :=
  .healthy (fun number => tallyName (number + 1)) fun _ _ same =>
    Nat.succ_injective (tallyName_injective same)

/-- A new process at the epoch, with an empty directory. -/
def emptySpool : Spool := ⟨0, fun _ => none, [], []⟩

/-- The run without steps, in an empty directory. -/
theorem spool_start : (spoolSystem "/media").Runs [] ⟨emptySpool, fun _ => .idle⟩ :=
  Tasks.start rfl

def firstFile : SendMediaByChunkRequest := fileMetadataMessage ⟨"a.bin", 1, ""⟩

/-- One file, sent and processed within the retention. -/
theorem media_kept_oneFile :
    ∃ trace, ∃ tasks next : Tasks Spool Activity, ∃ file,
      (spoolSystem "/media").Runs trace tasks ∧
      (spoolSystem "/media").Step tasks (1, .processing (.sendMedia 7 [file] false)) next ∧
      (tasks.shared.modified file.path).isSome := by
  have begun := spool_start.turn 0
    (.uploadBegins _ tallyIo ⟨7, 1, 0⟩ .single (by decide) rfl)
  have created := begun.turn 0
    (.received _ tallyIo ⟨7, 1, 0⟩ .single _ _ firstFile rfl fun _ _ => List.not_mem_nil)
  have written := created.turn 0
    (.received _ tallyIo ⟨7, 1, 0⟩ .single _ _ (chunkMessage [1]) rfl nofun)
  have ended := written.turn 0 (.uploadEnds _ tallyIo ⟨7, 1, 0⟩ .single _ _ rfl)
  have enqueued := ended.turn 0 (.enqueues _ _)
  have processed := enqueued.turn 1 (.processes _ _ [] rfl)
  obtain ⟨tasks, run, step⟩ := processed.of_concat
  refine ⟨_, _, _, ⟨"/media/f", defaultMime, some "a.bin"⟩, run, step,
    media_kept "/media" run step _ (List.mem_singleton_self _) ?_⟩
  intro other written cutoff expired
  simp at expired

def secondFile : SendMediaByChunkRequest := fileMetadataMessage ⟨"b.bin", 1, ""⟩

/-- The second file of an upload is announced eleven minutes after the first was written; a
cleanup in between removes the first, and the action is processed without it. -/
theorem slowUpload_loses :
    ∃ trace, ∃ tasks next : Tasks Spool Activity, ∃ first second,
      (spoolSystem "/media").Runs trace tasks ∧
      (spoolSystem "/media").Step tasks
        (1, .processing (.sendMedia 7 [first, second] true)) next ∧
      tasks.shared.modified first.path = none := by
  have begun := spool_start.turn 0
    (.uploadBegins _ tallyIo ⟨7, 2, 1⟩ .multiple (by decide) rfl)
  have created := begun.turn 0
    (.received _ tallyIo ⟨7, 2, 1⟩ .multiple _ _ firstFile rfl fun _ _ => List.not_mem_nil)
  have written := created.turn 0
    (.received _ tallyIo ⟨7, 2, 1⟩ .multiple _ _ (chunkMessage [1]) rfl nofun)
  have later := written.turn 1 (.clock _ (660 * 1000000000))
  have sweeping := later.turn 1 (.sweepBegins _)
  have expired := sweeping.turn 1 (.expires _ _ "/media/f" 0 rfl (by decide))
  have deleted := expired.turn 1 (.deletes _ _ _)
  have swept := deleted.turn 1 (.leaves _ _)
  have announced := swept.turn 0
    (.received _ tallyIo ⟨7, 2, 1⟩ .multiple _ _ secondFile rfl fun _ _ => by decide)
  have complete := announced.turn 0
    (.received _ tallyIo ⟨7, 2, 1⟩ .multiple _ _ (chunkMessage [2]) rfl nofun)
  have ended := complete.turn 0 (.uploadEnds _ tallyIo ⟨7, 2, 1⟩ .multiple _ _ rfl)
  have enqueued := ended.turn 0 (.enqueues _ _)
  refine ⟨_, _, _, ⟨"/media/f", defaultMime, some "a.bin"⟩,
    ⟨"/media/ff", defaultMime, some "b.bin"⟩, enqueued, ⟨_, _, .processes _ _ [] rfl, rfl⟩, ?_⟩
  rfl

end Uploads

end Arisa.Media
