import Arisa.Std.FormUrlencoded
import Arisa.Std.SocketAddr

/-!
# Socket addresses of version 6

The reader of what stands behind the opening bracket, and the texts that the readers of
both versions accept: the port of an address is all that follows its last colon.
-/

namespace Arisa.Std

open FormUrlencoded (hexValue)

/-- The flow information of a parsed address is always zero. -/
structure SocketAddrV6 where
  segments : List Nat
  scopeId : Nat
  port : Nat
deriving DecidableEq

/-- `SocketAddr::port`. -/
def SocketAddr.port : SocketAddr SocketAddrV6 → Nat
  | .v4 address => address.port
  | .v6 address => address.port

def hexadecimal (digits : List Char) : Nat :=
  digits.foldl (fun value digit => value * 16 + (hexValue digit).getD 0) 0

/-- A group of at most four hexadecimal digits. -/
def readHexGroup : Reader Nat := fun text =>
  let digits := text.takeWhile fun char => (hexValue char).isSome
  if digits.isEmpty ∨ 4 < digits.length then none
  else some (hexadecimal digits, text.dropWhile fun char => (hexValue char).isSome)

/-- `read_separator`: the separator stands before every group but the first. -/
def readSeparator {α : Type} (separator : Char) (index : Nat) (reader : Reader α) : Reader α :=
  fun text =>
    if 0 < index then (readGivenChar separator text).bind reader else reader text

/-- `read_groups` of `read_ipv6_addr` with room for so many more groups: the groups, whether an
address of version 4 makes the last two of them, and the rest of the text. -/
def readGroupsV6 : Nat → Nat → List Char → (List Nat × Bool) × List Char
  | 0, _, text => (([], false), text)
  | room + 1, index, text =>
      match if 0 < room then readSeparator ':' index readIpv4Addr text else none with
      | some ([one, two, three, four], rest) =>
          (([one * 256 + two, three * 256 + four], true), rest)
      | _ =>
          match readSeparator ':' index readHexGroup text with
          | some (group, rest) =>
              let ((groups, ipv4), rest) := readGroupsV6 room (index + 1) rest
              ((group :: groups, ipv4), rest)
          | none => (([], false), text)

/-- `::` stands for at least one group of zeros. -/
def readIpv6Addr : Reader (List Nat) := fun text =>
  let ((head, ipv4), rest) := readGroupsV6 8 0 text
  if head.length = 8 then some (head, rest)
  else if ipv4 then none
  else do
    let rest ← readGivenChar ':' rest
    let rest ← readGivenChar ':' rest
    let ((tail, _), rest) := readGroupsV6 (7 - head.length) 0 rest
    return (head ++ List.replicate (8 - head.length - tail.length) 0 ++ tail, rest)

def readScopeId : Reader Nat := fun text => do
  let text ← readGivenChar '%' text
  readNumber (2 ^ 32) none true text

/-- An address with its scope, or with scope 0 when no scope can be read. -/
def readScopedAddr : Reader (List Nat × Nat) := fun text => do
  let (segments, text) ← readIpv6Addr text
  let (scopeId, text) := (readScopeId text).getD (0, text)
  return ((segments, scopeId), text)

def readSocketAddrV6 : Reader SocketAddrV6 := fun text => do
  let ((segments, scopeId), text) ← readScopedAddr text
  let text ← readGivenChar ']' text
  let (port, text) ← readPort text
  return (⟨segments, scopeId, port⟩, text)

/-! ### What a reader leaves -/

/-- What a reader leaves is the end of the text. -/
def Consumes {α : Type} (reader : Reader α) : Prop :=
  ∀ text value rest, reader text = some (value, rest) → rest <:+ text

/-- Reading a given character takes just that character. -/
theorem eq_cons_of_readGivenChar {given : Char} {text rest : List Char}
    (read : readGivenChar given text = some rest) : text = given :: rest := by
  cases text with
  | nil => cases read
  | cons char tail =>
      rw [readGivenChar] at read
      split at read
      · next same =>
          cases read
          rw [same]
      · cases read

/-- What is left is the rest of the text. -/
theorem suffix_of_readGivenChar {given : Char} {text rest : List Char}
    (read : readGivenChar given text = some rest) : rest <:+ text :=
  ⟨[given], (eq_cons_of_readGivenChar read).symm⟩

/-- The digits that `read_number` has read. -/
theorem digits_of_readNumber {bound value : Nat} {maxDigits : Option Nat} {allowZeroPrefix : Bool}
    {text rest : List Char}
    (read : readNumber bound maxDigits allowZeroPrefix text = some (value, rest)) :
    ∃ digits, text = digits ++ rest ∧ IsDecimal digits ∧ value = decimal digits ∧
      value < bound ∧ (∀ most ∈ maxDigits, digits.length ≤ most) ∧
      (allowZeroPrefix = false → NoLeadingZero digits) := by
  simp only [readNumber] at read
  split at read
  · cases read
  · next counted =>
      split at read
      · cases read
      · next zero =>
          split at read
          · cases read
          · next small =>
              cases read
              rw [not_or] at counted
              have filled : text.takeWhile Char.isDigit ≠ [] := fun empty =>
                counted.1 (List.isEmpty_iff.mpr empty)
              refine ⟨text.takeWhile Char.isDigit, List.takeWhile_append_dropWhile.symm,
                ⟨filled, List.all_eq_true.mp List.all_takeWhile⟩, rfl, by omega, ?_, ?_⟩
              · intro most within
                have := counted.2
                rw [Option.mem_def.mp within] at this
                simpa using this
              · intro refused first
                by_contra many
                have positive := List.length_pos_iff.mpr filled
                exact zero ⟨by simp [refused], first, by omega⟩

/-- A number leaves an end of the text. -/
theorem readNumber_consumes (bound : Nat) (maxDigits : Option Nat) (allowZeroPrefix : Bool) :
    Consumes (readNumber bound maxDigits allowZeroPrefix) := by
  intro text value rest read
  obtain ⟨digits, rfl, -⟩ := digits_of_readNumber read
  exact List.suffix_append digits rest

/-- A group of hexadecimal digits leaves an end of the text. -/
theorem readHexGroup_consumes : Consumes readHexGroup := by
  intro text value rest read
  simp only [readHexGroup] at read
  split at read
  · cases read
  · cases read
    exact List.dropWhile_suffix _

/-- What is read behind a separator leaves an end of the text. -/
theorem readSeparator_consumes {α : Type} {reader : Reader α} (consumes : Consumes reader)
    (separator : Char) (index : Nat) : Consumes (readSeparator separator index reader) := by
  intro text value rest read
  simp only [readSeparator] at read
  split at read
  · obtain ⟨after, given, read⟩ := Option.bind_eq_some_iff.mp read
    exact (consumes after value rest read).trans (suffix_of_readGivenChar given)
  · exact consumes text value rest read

/-- A port is a colon and a run of digits, and it is what they denote. -/
theorem readPort_digits {text rest : List Char} {port : Nat}
    (read : readPort text = some (port, rest)) :
    ∃ digits, text = ':' :: (digits ++ rest) ∧ IsDecimal digits ∧ port = decimal digits := by
  obtain ⟨after, given, read⟩ := Option.bind_eq_some_iff.mp read
  obtain ⟨digits, rfl, number, value, -⟩ := digits_of_readNumber read
  exact ⟨digits, eq_cons_of_readGivenChar given, number, value⟩

/-- An octet is at most three digits that denote a byte. -/
theorem digits_of_readOctet {text rest : List Char} {value : Nat}
    (read : readOctet text = some (value, rest)) :
    ∃ octet, text = octet ++ rest ∧ value = decimal octet ∧
      (IsDecimal octet ∧ octet.length ≤ 3) ∧ IsOctet octet := by
  obtain ⟨octet, shape, number, rfl, small, short, zero⟩ := digits_of_readNumber read
  exact ⟨octet, shape, rfl, ⟨number, short 3 rfl⟩, by omega, zero rfl⟩

/-- The octets behind the first one, as they stand in the text. -/
theorem octets_of_readGroups {count index : Nat} {text rest : List Char} {values : List Nat}
    (read : readGroups count (index + 1) text = some (values, rest)) :
    ∃ octets : List (List Char), octets.length = count ∧ text = octets.flatMap ('.' :: ·) ++ rest ∧
      values = octets.map decimal ∧
      ∀ octet ∈ octets, (IsDecimal octet ∧ octet.length ≤ 3) ∧ IsOctet octet := by
  induction count generalizing index text values with
  | zero =>
      cases read
      exact ⟨[], rfl, rfl, rfl, by simp⟩
  | succ count ih =>
      obtain ⟨after, given, read⟩ := Option.bind_eq_some_iff.mp read
      obtain ⟨⟨value, between⟩, first, read⟩ := Option.bind_eq_some_iff.mp read
      obtain ⟨⟨others, left⟩, later, read⟩ := Option.bind_eq_some_iff.mp read
      cases read
      obtain ⟨octet, rfl, rfl, accepted⟩ := digits_of_readOctet first
      obtain ⟨octets, counted, rfl, rfl, each⟩ := ih later
      refine ⟨octet :: octets, by rw [List.length_cons, counted], ?_, rfl, ?_⟩
      · rw [eq_cons_of_readGivenChar given]
        simp
      · exact List.forall_mem_cons.mpr ⟨accepted, each⟩

/-- An address of version 4 is read from its own text as well. -/
theorem host_of_readIpv4Addr {text rest : List Char} {values : List Nat}
    (read : readIpv4Addr text = some (values, rest)) :
    ∃ host, text = host ++ rest ∧ readIpv4Addr host = some (values, []) ∧ host ≠ [] ∧
      ∀ char ∈ host, char.isDigit = true ∨ char = '.' := by
  obtain ⟨⟨value, between⟩, first, read⟩ := Option.bind_eq_some_iff.mp read
  obtain ⟨⟨others, left⟩, later, read⟩ := Option.bind_eq_some_iff.mp read
  cases read
  obtain ⟨octet, rfl, rfl, head⟩ := digits_of_readOctet first
  obtain ⟨octets, counted, rfl, rfl, each⟩ := octets_of_readGroups later
  have accepted : ∀ other ∈ octet :: octets,
      (IsDecimal other ∧ other.length ≤ 3) ∧ IsOctet other :=
    List.forall_mem_cons.mpr ⟨head, each⟩
  refine ⟨octet ++ octets.flatMap ('.' :: ·), by simp, ?_, ?_, ?_⟩
  · have ends : Stops [] := by simp [Stops]
    have alone := readIpv4Addr_eq (by rw [List.length_cons, counted])
      (fun other member => (accepted other member).1) ends
    rw [if_pos fun other member => (accepted other member).2, List.append_nil] at alone
    exact alone
  · exact fun none => head.1.1.nonempty (List.append_eq_nil_iff.mp none).1
  · intro char member
    rcases List.mem_append.mp member with inside | inside
    · exact .inl (head.1.1.digits char inside)
    · obtain ⟨other, listed, inside⟩ := List.mem_flatMap.mp inside
      rcases List.mem_cons.mp inside with rfl | inside
      · exact .inr rfl
      · exact .inl ((each other listed).1.1.digits char inside)

/-- An address of version 4 leaves an end of the text. -/
theorem readIpv4Addr_consumes : Consumes readIpv4Addr := by
  intro text values rest read
  obtain ⟨host, rfl, -⟩ := host_of_readIpv4Addr read
  exact List.suffix_append host rest

/-- A run of groups leaves an end of the text. -/
theorem readGroupsV6_suffix (room index : Nat) (text : List Char) :
    (readGroupsV6 room index text).2 <:+ text := by
  induction room generalizing index text with
  | zero => exact List.suffix_rfl
  | succ room ih =>
      rw [readGroupsV6]
      split
      · next one two three four rest embedded =>
          split at embedded
          · exact readSeparator_consumes readIpv4Addr_consumes ':' index text _ rest embedded
          · cases embedded
      · split
        · next group rest read =>
            exact (ih (index + 1) rest).trans
              (readSeparator_consumes readHexGroup_consumes ':' index text group rest read)
        · exact List.suffix_rfl

/-- An address of version 6 leaves an end of the text. -/
theorem readIpv6Addr_consumes : Consumes readIpv6Addr := by
  intro text value rest read
  have front := readGroupsV6_suffix 8 0 text
  simp only [readIpv6Addr] at read
  split at read
  · cases read
    exact front
  · split at read
    · cases read
    · obtain ⟨first, colon, read⟩ := Option.bind_eq_some_iff.mp read
      obtain ⟨second, again, read⟩ := Option.bind_eq_some_iff.mp read
      cases read
      exact ((readGroupsV6_suffix _ 0 second).trans (suffix_of_readGivenChar again)).trans
        ((suffix_of_readGivenChar colon).trans front)

/-- A scope leaves an end of the text. -/
theorem readScopeId_consumes : Consumes readScopeId := by
  intro text value rest read
  obtain ⟨after, given, read⟩ := Option.bind_eq_some_iff.mp read
  exact (readNumber_consumes _ _ _ after value rest read).trans (suffix_of_readGivenChar given)

/-- An address with its scope leaves an end of the text. -/
theorem readScopedAddr_consumes : Consumes readScopedAddr := by
  intro text value rest read
  obtain ⟨⟨segments, after⟩, address, read⟩ := Option.bind_eq_some_iff.mp read
  have front := readIpv6Addr_consumes text segments after address
  simp only at read
  cases scope : readScopeId after with
  | none =>
      rw [scope] at read
      cases read
      exact front
  | some scopeAndRest =>
      obtain ⟨scopeId, left⟩ := scopeAndRest
      rw [scope] at read
      cases read
      exact (readScopeId_consumes after scopeId left scope).trans front

/-! ### How an address is written -/

/-- A text is an address of the host and the port it is read to. -/
inductive Spells : List Char → List Char → List Char → SocketAddr SocketAddrV6 → Prop
  | v4 {host digits : List Char} {octets : List Nat} :
      readIpv4Addr host = some (octets, []) → host ≠ [] →
      (∀ char ∈ host, char.isDigit = true ∨ char = '.') → IsDecimal digits →
      Spells (host ++ ':' :: digits) host digits (.v4 ⟨octets, decimal digits⟩)
  | v6 {host digits : List Char} {segments : List Nat} {scopeId : Nat} :
      readScopedAddr (host ++ ']' :: ':' :: digits) =
        some ((segments, scopeId), ']' :: ':' :: digits) → IsDecimal digits →
      Spells ('[' :: (host ++ ']' :: ':' :: digits)) host digits
        (.v6 ⟨segments, scopeId, decimal digits⟩)

/-- An address of version 4 that is read to the end is spelled by the whole text. -/
theorem spells_of_readSocketAddrV4 {text : List Char} {address : SocketAddrV4}
    (read : readSocketAddrV4 text = some (address, [])) :
    ∃ host digits, Spells text host digits (.v4 address) := by
  obtain ⟨⟨octets, after⟩, hostRead, read⟩ := Option.bind_eq_some_iff.mp read
  obtain ⟨⟨port, left⟩, portRead, read⟩ := Option.bind_eq_some_iff.mp read
  cases read
  obtain ⟨host, rfl, alone, filled, chars⟩ := host_of_readIpv4Addr hostRead
  obtain ⟨digits, rfl, number, rfl⟩ := readPort_digits portRead
  rw [List.append_nil]
  exact ⟨host, digits, .v4 alone filled chars number⟩

/-- The scoped address is read up to the bracket that closes it. -/
theorem spells_of_readSocketAddrV6 {text : List Char} {address : SocketAddrV6}
    (read : readSocketAddrV6 text = some (address, [])) :
    ∃ host digits, Spells ('[' :: text) host digits (.v6 address) := by
  obtain ⟨⟨⟨segments, scopeId⟩, after⟩, hostRead, read⟩ := Option.bind_eq_some_iff.mp read
  obtain ⟨behind, closed, read⟩ := Option.bind_eq_some_iff.mp read
  obtain ⟨⟨port, left⟩, portRead, read⟩ := Option.bind_eq_some_iff.mp read
  cases read
  obtain ⟨host, rfl⟩ := readScopedAddr_consumes text _ after hostRead
  obtain ⟨digits, rfl, number, rfl⟩ := readPort_digits portRead
  rw [List.append_nil] at closed
  cases eq_cons_of_readGivenChar closed
  exact ⟨host, digits, .v6 hostRead number⟩

/-- Every text that is accepted spells its address. -/
theorem spells_of_parseSocketAddr {text : List Char} {address : SocketAddr SocketAddrV6}
    (parsed : parseSocketAddr readSocketAddrV6 text = some address) :
    ∃ host digits, Spells text host digits address := by
  obtain ⟨⟨found, rest⟩, read, whole⟩ := Option.bind_eq_some_iff.mp parsed
  have ended : rest = [] ∧ found = address := by
    simp only at whole
    split at whole
    · next empty =>
        cases whole
        exact ⟨List.isEmpty_iff.mp empty, rfl⟩
    · cases whole
  obtain ⟨rfl, rfl⟩ := ended
  simp only [readSocketAddr] at read
  split at read
  · next v4Read =>
      cases read
      exact spells_of_readSocketAddrV4 v4Read
  · obtain ⟨inside, bracket, read⟩ := Option.bind_eq_some_iff.mp read
    obtain ⟨⟨v6, left⟩, v6Read, same⟩ := Option.bind_eq_some_iff.mp read
    cases same
    rw [eq_cons_of_readGivenChar bracket]
    exact spells_of_readSocketAddrV6 v6Read

example : parseSocketAddr readSocketAddrV6 "[fe80::1.2.3.4%7]:3000".toList =
    some (.v6 ⟨[0xfe80, 0, 0, 0, 0, 0, 0x102, 0x304], 7, 3000⟩) := by
  decide +kernel

end Arisa.Std
