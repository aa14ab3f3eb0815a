import Arisa.Database.Mapping
import Arisa.Std.Interspersed
import Arisa.Std.StableSort

/-!
# What the metadata of a row says

The encryption number of a row, which two readers take from the same field, and
the earlier revisions of its message.
-/

namespace Arisa.Database

open Arisa.Crypto Arisa.Proto Arisa.Std

/-! ## The encryption number -/

/-- `enc` is no text of a number other than zero, and a number in it either fits `u32` or
loses nothing but zeros when it is cut to 32 bits. -/
structure EncReadAlike (metadata : Value) : Prop where
  number : ∀ value, metadata.get "enc" = some (.number (.posInt value)) →
    value.toNat < 2 ^ 32 ∨ value.toNat % 2 ^ 32 = 0
  text : ∀ text, metadata.get "enc" = some (.string text) →
    parseU32 text.toList = none ∨ parseU32 text.toList = some 0

/-- The cast to `u32` gives zero exactly for the multiples of `2 ^ 32`. -/
theorem toUInt32_eq_zero_iff (value : UInt64) :
    value.toUInt32 = 0 ↔ value.toNat % 2 ^ 32 = 0 := by
  rw [← UInt32.toNat_inj, UInt64.toNat_toUInt32]
  rfl

/-- The cast wraps around at 2³². -/
theorem toUInt32_eq_ofNat (value : UInt64) : value.toUInt32 = UInt32.ofNat value.toNat := by
  rw [← UInt32.toNat_inj, UInt64.toNat_toUInt32, UInt32.toNat_ofNat']

/-- So a number is read alike within 32 bits, or where only zero is left of it. -/
theorem encReadAlike_posInt {metadata : Value} {value : UInt64}
    (field : metadata.get "enc" = some (.number (.posInt value))) :
    EncReadAlike metadata ↔ value.toNat < 2 ^ 32 ∨ value.toNat % 2 ^ 32 = 0 := by
  refine ⟨fun alike => alike.number value field, fun kept => ⟨?_, ?_⟩⟩
  · intro other found
    rw [field] at found
    cases found
    exact kept
  · intro text found
    rw [field] at found
    cases found

/-- A text is read alike where the checked reader takes nothing or zero. -/
theorem encReadAlike_string {metadata : Value} {text : String}
    (field : metadata.get "enc" = some (.string text)) :
    EncReadAlike metadata ↔ parseU32 text.toList = none ∨ parseU32 text.toList = some 0 := by
  refine ⟨fun alike => alike.text text field, fun kept => ⟨?_, ?_⟩⟩
  · intro value found
    rw [field] at found
    cases found
  · intro other found
    rw [field] at found
    cases found
    exact kept

/-- A row is decrypted with the number that `metadata_u32` reads from `enc`, or zero, exactly
when the field is read alike. -/
theorem encOf_eq_metadataU32_iff (metadata : Value) :
    encOf (some metadata) = (metadataU32 metadata "enc").getD 0 ↔ EncReadAlike metadata := by
  have wrapping : encOf (some metadata) =
      (((metadata.get "enc").bind Value.asU64).getD 0).toUInt32 := rfl
  have checked : metadataU32 metadata "enc" = (metadata.get "enc").bind fun value =>
      (value.asU64.bind fun value =>
          if value.toNat < 2 ^ 32 then some (UInt32.ofNat value.toNat) else none) <|>
        value.asStr.bind fun text => parseU32 text.toList := rfl
  rw [wrapping, checked]
  -- Values of every other kind are zero to both readers.
  rcases field : metadata.get "enc" with _ | _ | _ | ⟨value | _ | _⟩ | text | _ | _
  case some.number.posInt =>
    rw [encReadAlike_posInt field]
    simp only [Option.bind_some, Value.asU64, Value.asStr, Option.bind_none, Option.getD_some]
    by_cases fits : value.toNat < 2 ^ 32
    · rw [if_pos fits]
      exact iff_of_true (toUInt32_eq_ofNat value) (.inl fits)
    · rw [if_neg fits, or_iff_right fits]
      exact toUInt32_eq_zero_iff value
  case some.string =>
    rw [encReadAlike_string field]
    change (0 : UInt32) = (parseU32 text.toList).getD 0 ↔ _
    cases parseU32 text.toList with
    | none => simp
    | some enc => simp [eq_comm]
  all_goals exact iff_of_true rfl ⟨by simp [field], by simp [field]⟩

def wideEnc : Value := .object [("enc", .number (.posInt 4294967327))]
def textEnc : Value := .object [("enc", .string "31")]

/-- A number beyond `u32` is cut to one inside, and the text of a number is passed over. -/
theorem encOf_differs :
    encOf (some wideEnc) ≠ (metadataU32 wideEnc "enc").getD 0 ∧
      encOf (some textEnc) ≠ (metadataU32 textEnc "enc").getD 0 := by
  decide

/-! ## Revisions -/

/-- The entries of `modifyLog`, which is an array or the JSON text of one. -/
def logEntries (serde : Serde) (metadata : Option Value) : List Value :=
  match metadata.bind fun value => value.get "modifyLog" with
  | some (.array log) => log
  | some (.string text) => ((serde.read text).bind Value.asArray).getD []
  | _ => []

section Revisions

variable {serde : Serde} {database : Database} {userId : Int64}

/-- An entry with a revision, a message and an encryption number, and its decrypted text. -/
structure DecodesRevision (database : Database) (userId : Int64) (entry : Value)
    (revision : MessageRevision) : Prop where
  number : ∃ value, entry.get "revision" = some value ∧ value.asI64 = some revision.revision
  message : ∃ ciphertext enc, entry.get "message" = some (.string ciphertext) ∧
    metadataU32 entry "enc" = some enc ∧
    revision.message = database.decryptor.decryptForUser ciphertext enc userId

/-- An entry in which one of the three is missing or malformed. -/
def Undecodable (database : Database) (userId : Int64) (entry : Value) : Prop :=
  ∀ revision, ¬ DecodesRevision database userId entry revision

/-- Only a string has a text. -/
theorem asStr_eq_some {value : Value} {text : String} :
    value.asStr = some text ↔ value = .string text := by
  cases value <;> simp [Value.asStr]

/-- An entry gives a revision exactly if all of its fields decode. -/
theorem mapRevision_eq_some {entry : Value} {revision : MessageRevision} :
    mapRevision database userId entry = some revision ↔
      DecodesRevision database userId entry revision := by
  obtain ⟨number, text⟩ := revision
  simp only [mapRevision, Option.bind_eq_bind, Option.bind_eq_some_iff, Option.pure_def,
    Option.some.injEq, MessageRevision.mk.injEq, asStr_eq_some]
  constructor
  · rintro ⟨_, ⟨value, found, isNumber⟩, ciphertext, ⟨_, message, rfl⟩, enc, encRead, rfl, rfl⟩
    exact ⟨⟨value, found, isNumber⟩, ciphertext, enc, message, encRead, rfl⟩
  · rintro ⟨⟨value, found, isNumber⟩, ciphertext, enc, message, encRead, rfl⟩
    exact ⟨_, ⟨value, found, isNumber⟩, ciphertext, ⟨_, message, rfl⟩, enc, encRead, rfl, rfl⟩

/-- An entry that gives none has a field that does not decode. -/
theorem undecodable_of_mapRevision {entry : Value}
    (failed : mapRevision database userId entry = none) : Undecodable database userId entry := by
  intro revision decodes
  rw [mapRevision_eq_some.mpr decodes] at failed
  cases failed

/-- The log is decoded entry by entry and then sorted. -/
theorem mapModifyLog_eq (metadata : Option Value) :
    mapModifyLog serde database metadata userId =
      ((logEntries serde metadata).filterMap (mapRevision database userId)).mergeSort
        fun left right => left.revision ≤ right.revision := by
  unfold mapModifyLog modifyLogEntries logEntries
  rcases metadata with _ | metadata
  · simp
  · simp only [Option.bind_eq_bind, Option.bind_some]
    rcases metadata.get "modifyLog" with _ | _ | _ | _ | text | log | _
    case some.string =>
      simp only [Option.bind_some]
      cases serde.read text with
      | none => simp
      | some entries => rfl
    case some.array => rfl
    all_goals simp

/-- The revisions of a message are the decodable entries of its log, each decrypted, in
ascending order, and in the order of the log where they are equal. -/
theorem mapModifyLog_complete (serde : Serde) (database : Database) (userId : Int64) :
    (∀ metadata, ∃ decoded,
      Interspersed (DecodesRevision database userId) (Undecodable database userId)
        (logEntries serde metadata) decoded ∧
      StablySorted MessageRevision.revision decoded
        (mapModifyLog serde database metadata userId)) ∧
    ∀ metadata other log text, metadata.get "modifyLog" = some (.array log) →
      other.get "modifyLog" = some (.string text) → serde.read text = some (.array log) →
      mapModifyLog serde database (some metadata) userId =
        mapModifyLog serde database (some other) userId := by
  constructor
  · intro metadata
    refine ⟨(logEntries serde metadata).filterMap (mapRevision database userId), ?_, ?_⟩
    · exact interspersed_filterMap (fun _ _ => mapRevision_eq_some.mp)
        (fun _ => undecodable_of_mapRevision) _
    · rw [mapModifyLog_eq]
      exact stablySorted_mergeSort _ _
  · intro metadata other log text asArray asText read
    have same : logEntries serde (some metadata) = logEntries serde (some other) := by
      simp [logEntries, asArray, asText, read, Value.asArray]
    rw [mapModifyLog_eq, mapModifyLog_eq, same]

end Revisions

/-- A database whose texts are plain. -/
def logDatabase : Database where
  currentUserId := 1
  decryptor := ⟨1, ⟨fun _ => .error "Invalid symbol 33, offset 1.", fun _ _ _ => .error ⟨[]⟩,
    fun _ => .error ⟨[]⟩⟩⟩

def logText : String := "[\x7b\"revision\":2,\"message\":\"b!\",\"enc\":0\x7d,7]"

def logArray : List Value :=
  [.object [("revision", .number (.posInt 2)), ("message", .string "b!"),
    ("enc", .number (.posInt 0))], .number (.posInt 7)]

def logSerde : Serde where
  fromStr text :=
    if text = logText then .ok (.array logArray) else .error "expected value at line 1 column 1"
  toString _ := "\x7b\x7d"

/-- A log as a text gives the revisions of the array that it spells. -/
theorem logText_revisions :
    mapModifyLog logSerde logDatabase (some (.object [("modifyLog", .array logArray)])) 5 =
      mapModifyLog logSerde logDatabase (some (.object [("modifyLog", .string logText)])) 5 :=
  (mapModifyLog_complete logSerde logDatabase 5).2 _ _ logArray logText rfl rfl rfl

end Arisa.Database
