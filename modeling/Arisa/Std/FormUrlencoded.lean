import Arisa.Std.BigEndian
import Arisa.Std.Split

/-!
# Queries as `application/x-www-form-urlencoded`

Names and values are written by a codec, whose texts have none of the marks of a
URL in them. The pairs of a query are then read back as they were, whatever the
texts contain.
-/

namespace Arisa.Std.FormUrlencoded

/-- How the name or the value of a pair is written, and how it is read. -/
structure Codec where
  write : String → List Char
  read : List Char → Option String

/-- The characters that a component is written in. -/
def isWritten (char : Char) : Bool :=
  char.isAlphanum || char ∈ ['*', '-', '.', '_', '+', '%']

/-- Nothing is lost in a component, and no separator is written in one. -/
structure Codec.Lawful (codec : Codec) : Prop where
  written : ∀ text, ∀ char ∈ codec.write text, isWritten char = true
  read_write : ∀ text, codec.read (codec.write text) = some text

section Pairs

variable (codec : Codec)

/-- A query with one more pair, set apart by an ampersand. -/
def appendPair (query : List Char) (name value : String) : List Char :=
  query ++ (if query.isEmpty then [] else ['&']) ++ codec.write name ++ '=' :: codec.write value

/-- The name before the first `=` and the value after it. -/
def parsePair (piece : List Char) : Option (String × String) := do
  let name ← codec.read (piece.takeWhile (· ≠ '='))
  let value ← codec.read ((piece.dropWhile (· ≠ '=')).drop 1)
  return (name, value)

/-- The pairs of a query, by the rules of form data. -/
def parse (query : List Char) : Option (List (String × String)) :=
  ((split '&' query).filter (· ≠ [])).mapM (parsePair codec)

/-- One pair as it stands between two ampersands. -/
def writtenPair (pair : String × String) : List Char :=
  codec.write pair.1 ++ '=' :: codec.write pair.2

/-- Pairs appended one after another, from an empty query on. -/
def appendPairs (pairs : List (String × String)) : List Char :=
  pairs.foldl (fun query pair => appendPair codec query pair.1 pair.2) []

variable {codec}

/-- No separator, nor any other mark of a URL, is in a written component. -/
theorem Codec.Lawful.not_mem_write {char : Char} (lawful : codec.Lawful)
    (mark : isWritten char = false) (text : String) : char ∉ codec.write text := by
  intro member
  rw [lawful.written text char member] at mark
  cases mark

/-- A pair is read back as it was written. -/
theorem parsePair_writtenPair (lawful : codec.Lawful) (pair : String × String) :
    parsePair codec (writtenPair codec pair) = some pair := by
  obtain ⟨name, value⟩ := pair
  have before : ∀ char ∈ codec.write name, (decide (char ≠ '=')) = true := by
    intro char member
    apply decide_eq_true
    rintro rfl
    exact lawful.not_mem_write (by decide) name member
  have name_eq : (writtenPair codec (name, value)).takeWhile (· ≠ '=') = codec.write name := by
    rw [writtenPair, List.takeWhile_append_of_pos before]
    simp
  have value_eq : ((writtenPair codec (name, value)).dropWhile (· ≠ '=')).drop 1 =
      codec.write value := by
    rw [writtenPair, List.dropWhile_append_of_pos before]
    simp
  rw [parsePair, name_eq, value_eq, lawful.read_write, lawful.read_write]
  rfl

/-- A written pair is never the empty text that a reader passes over. -/
theorem writtenPair_ne_nil (pair : String × String) : writtenPair codec pair ≠ [] := by
  simp [writtenPair]

/-- Of the marks a pair contains only its `=`. -/
theorem not_mem_writtenPair {char : Char} (lawful : codec.Lawful)
    (mark : isWritten char = false) (other : char ≠ '=') (pair : String × String) :
    char ∉ writtenPair codec pair := by
  rw [writtenPair, List.mem_append, List.mem_cons, not_or, not_or]
  exact ⟨lawful.not_mem_write mark _, other, lawful.not_mem_write mark _⟩

/-- The pairs written so far, with an ampersand between each two. -/
theorem foldl_appendPair {query : List Char} (started : query ≠ [])
    (pairs : List (String × String)) :
    pairs.foldl (fun query pair => appendPair codec query pair.1 pair.2) query =
      query ++ (pairs.map (writtenPair codec)).flatMap ('&' :: ·) := by
  induction pairs generalizing query with
  | nil => simp
  | cons pair rest ih =>
      have more :
          appendPair codec query pair.1 pair.2 = query ++ '&' :: writtenPair codec pair := by
        simp [appendPair, writtenPair, started]
      rw [List.foldl_cons, more, ih (by simp)]
      simp

/-- The written query: the first pair, and the others each after an ampersand. -/
theorem appendPairs_cons (pair : String × String) (rest : List (String × String)) :
    appendPairs codec (pair :: rest) =
      writtenPair codec pair ++ (rest.map (writtenPair codec)).flatMap ('&' :: ·) := by
  have first : appendPair codec [] pair.1 pair.2 = writtenPair codec pair := by
    simp [appendPair, writtenPair]
  rw [appendPairs, List.foldl_cons, first, foldl_appendPair (writtenPair_ne_nil pair)]

/-- A query holds written characters, `=` and `&`. -/
theorem not_mem_appendPairs {char : Char} (lawful : codec.Lawful)
    (mark : isWritten char = false) (equals : char ≠ '=') (ampersand : char ≠ '&')
    (pairs : List (String × String)) : char ∉ appendPairs codec pairs := by
  cases pairs with
  | nil => simp [appendPairs]
  | cons pair rest =>
      rw [appendPairs_cons, List.mem_append, not_or]
      refine ⟨not_mem_writtenPair lawful mark equals pair, ?_⟩
      intro member
      obtain ⟨piece, found, within⟩ := List.mem_flatMap.mp member
      obtain ⟨other, -, rfl⟩ := List.mem_map.mp found
      rcases List.mem_cons.mp within with rfl | within
      · exact ampersand rfl
      · exact not_mem_writtenPair lawful mark equals other within

/-- So the pairs of a query are read back one by one. -/
theorem mapM_writtenPair (lawful : codec.Lawful) (pairs : List (String × String)) :
    (pairs.map (writtenPair codec)).mapM (parsePair codec) = some pairs := by
  induction pairs with
  | nil => rfl
  | cons pair rest ih =>
      rw [List.map_cons, List.mapM_cons, parsePair_writtenPair lawful, ih]
      rfl

/-- A query that was written pair by pair is read back pair by pair. -/
theorem parse_appendPairs (lawful : codec.Lawful) (pairs : List (String × String)) :
    parse codec (appendPairs codec pairs) = some pairs := by
  cases pairs with
  | nil => rfl
  | cons pair rest =>
      have pieces : split '&' (appendPairs codec (pair :: rest)) =
          (pair :: rest).map (writtenPair codec) := by
        rw [appendPairs_cons]
        apply split_of_join
        intro piece member
        obtain ⟨other, -, rfl⟩ := List.mem_map.mp (List.map_cons ▸ member)
        exact not_mem_writtenPair lawful (by decide) (by decide) other
      have kept : ((pair :: rest).map (writtenPair codec)).filter (· ≠ []) =
          (pair :: rest).map (writtenPair codec) := by
        apply List.filter_eq_self.mpr
        intro piece member
        obtain ⟨other, -, rfl⟩ := List.mem_map.mp member
        exact decide_eq_true (writtenPair_ne_nil other)
      rw [parse, pieces, kept, mapM_writtenPair lawful]

end Pairs

/-! ## Percent-encoding

A codec that is lawful: the bytes of a text, each as itself, as a plus sign or as
two hexadecimal digits.
-/

/-- A byte that is written as the character it is. -/
def isPlain (byte : UInt8) : Bool :=
  (0x30 ≤ byte && byte ≤ 0x39) || (0x41 ≤ byte && byte ≤ 0x5A) || (0x61 ≤ byte && byte ≤ 0x7A) ||
    byte == 0x2A || byte == 0x2D || byte == 0x2E || byte == 0x5F

/-- A hexadecimal digit in upper case. -/
def hexDigit (value : Nat) : Char :=
  if value < 10 then Char.ofNat (0x30 + value) else Char.ofNat (0x41 + (value - 10))

def serializeByte (byte : UInt8) : List Char :=
  if isPlain byte then [Char.ofNat byte.toNat]
  else if byte = 0x20 then ['+']
  else ['%', hexDigit (byte.toNat / 16), hexDigit (byte.toNat % 16)]

def utf8 (text : String) : Bytes :=
  text.toUTF8.data.toList

def serialize (text : String) : List Char :=
  (utf8 text).flatMap serializeByte

def hexValue (digit : Char) : Option Nat :=
  if '0' ≤ digit ∧ digit ≤ '9' then some (digit.toNat - 0x30)
  else if 'A' ≤ digit ∧ digit ≤ 'F' then some (digit.toNat - 0x41 + 10)
  else if 'a' ≤ digit ∧ digit ≤ 'f' then some (digit.toNat - 0x61 + 10)
  else none

/-- A percent sign that no two digits follow stands for itself. -/
def decode : List Char → Bytes
  | [] => []
  | '+' :: rest => 0x20 :: decode rest
  | '%' :: high :: low :: rest =>
      match hexValue high, hexValue low with
      | some high, some low => UInt8.ofNat (16 * high + low) :: decode rest
      | _, _ => 0x25 :: decode (high :: low :: rest)
  | char :: rest => String.utf8EncodeChar char ++ decode rest

def decodeText (text : List Char) : Option String :=
  String.fromUTF8? ⟨(decode text).toArray⟩

/-- What the 256 bytes are written as, where they are written as one character. -/
theorem plain_char (byte : UInt8) (plain : isPlain byte = true) :
    Char.ofNat byte.toNat ≠ '+' ∧ Char.ofNat byte.toNat ≠ '%' ∧
      isWritten (Char.ofNat byte.toNat) = true ∧
      String.utf8EncodeChar (Char.ofNat byte.toNat) = [byte] := by
  have table : ∀ value : Fin 256, isPlain (UInt8.ofNat value.val) = true →
      Char.ofNat value.val ≠ '+' ∧ Char.ofNat value.val ≠ '%' ∧
        isWritten (Char.ofNat value.val) = true ∧
        String.utf8EncodeChar (Char.ofNat value.val) = [UInt8.ofNat value.val] := by
    decide +kernel
  have same : UInt8.ofNat byte.toNat = byte := UInt8.ofNat_toNat
  have entry := table ⟨byte.toNat, byte.toNat_lt⟩
  rw [same] at entry
  exact entry plain

/-- A hexadecimal digit is read back, and is a character that may be written. -/
theorem hexDigit_digit (value : Nat) (small : value < 16) :
    hexValue (hexDigit value) = some value ∧ isWritten (hexDigit value) = true := by
  have table : ∀ value : Fin 16, hexValue (hexDigit value.val) = some value.val ∧
      isWritten (hexDigit value.val) = true := by
    decide
  exact table ⟨value, small⟩

/-- A character that is neither `+` nor `%` stands for itself. -/
theorem decode_other {char : Char} (plus : char ≠ '+') (percent : char ≠ '%')
    (rest : List Char) : decode (char :: rest) = String.utf8EncodeChar char ++ decode rest := by
  rw [decode]
  · exact plus
  · intro _ _ _ same
    exact absurd same percent

/-- Reading undoes the writing of one byte. -/
theorem decode_serializeByte (byte : UInt8) (rest : List Char) :
    decode (serializeByte byte ++ rest) = byte :: decode rest := by
  unfold serializeByte
  split
  · rename_i plain
    obtain ⟨plus, percent, -, encoded⟩ := plain_char byte plain
    rw [List.singleton_append, decode_other plus percent, encoded, List.singleton_append]
  · split
    · rename_i space
      rw [space]
      rfl
    · have bound := byte.toNat_lt
      obtain ⟨high, -⟩ := hexDigit_digit (byte.toNat / 16) (by omega)
      obtain ⟨low, -⟩ := hexDigit_digit (byte.toNat % 16) (by omega)
      have whole : 16 * (byte.toNat / 16) + byte.toNat % 16 = byte.toNat := by omega
      simp only [List.cons_append, List.nil_append, decode, high, low, whole, UInt8.ofNat_toNat]

/-- A byte is written without marks. -/
theorem isWritten_of_mem_serializeByte {byte : UInt8} {char : Char}
    (member : char ∈ serializeByte byte) : isWritten char = true := by
  unfold serializeByte at member
  split at member
  · rename_i plain
    rw [List.mem_singleton.mp member]
    exact (plain_char byte plain).2.2.1
  · split at member
    · rw [List.mem_singleton.mp member]
      decide
    · have bound := byte.toNat_lt
      simp only [List.mem_cons, List.not_mem_nil, or_false] at member
      rcases member with rfl | rfl | rfl
      · decide
      · exact (hexDigit_digit (byte.toNat / 16) (by omega)).2
      · exact (hexDigit_digit (byte.toNat % 16) (by omega)).2

/-- The bytes of a text are read back. -/
theorem decode_serialize (text : String) : decode (serialize text) = utf8 text := by
  unfold serialize
  induction utf8 text with
  | nil => rfl
  | cons byte rest ih => rw [List.flatMap_cons, decode_serializeByte, ih]

/-- A text is read back. -/
@[simp] theorem decodeText_serialize (text : String) : decodeText (serialize text) = some text := by
  rw [decodeText, decode_serialize, utf8]
  simp [String.fromUTF8?, text.isValidUTF8]
  rfl

def percent : Codec := ⟨serialize, decodeText⟩

/-- The percent encoding is lawful. -/
theorem percent_lawful : percent.Lawful where
  written _ _ member :=
    let ⟨_, _, written⟩ := List.mem_flatMap.mp member
    isWritten_of_mem_serializeByte written
  read_write := decodeText_serialize

end Arisa.Std.FormUrlencoded
