import Arisa.Std.BigEndian

/-!
# Lossy UTF-8

`String::from_utf8_lossy`: every maximal prefix of a sequence that cannot be
completed is replaced by one U+FFFD.
-/

namespace Arisa.Std

def replacement : Char := Char.ofNat 0xFFFD

def isContinuation (byte : UInt8) : Bool :=
  0x80 ≤ byte && byte ≤ 0xBF

/-- The second bytes that may follow the first byte of a longer sequence. -/
def secondByteValid (first second : UInt8) : Bool :=
  if first = 0xE0 then 0xA0 ≤ second && second ≤ 0xBF
  else if first = 0xED then 0x80 ≤ second && second ≤ 0x9F
  else if first = 0xF0 then 0x90 ≤ second && second ≤ 0xBF
  else if first = 0xF4 then 0x80 ≤ second && second ≤ 0x8F
  else isContinuation second

/-- The code point of a sequence: the payload of the first byte, then six bits each. -/
def codePoint (lead : Nat) (rest : Bytes) : Char :=
  Char.ofNat (rest.foldl (fun code byte => code * 64 + byte.toNat % 64) lead)

def fromUtf8Lossy : Bytes → List Char
  | [] => []
  | first :: rest =>
      if first < 0x80 then
        Char.ofNat first.toNat :: fromUtf8Lossy rest
      else if first < 0xC2 ∨ 0xF4 < first then
        replacement :: fromUtf8Lossy rest
      else
        match rest with
        | [] => [replacement]
        | second :: afterSecond =>
            if ¬ secondByteValid first second then
              replacement :: fromUtf8Lossy (second :: afterSecond)
            else if first < 0xE0 then
              codePoint (first.toNat % 32) [second] :: fromUtf8Lossy afterSecond
            else
              match afterSecond with
              | [] => [replacement]
              | third :: afterThird =>
                  if ¬ isContinuation third then
                    replacement :: fromUtf8Lossy (third :: afterThird)
                  else if first < 0xF0 then
                    codePoint (first.toNat % 16) [second, third] :: fromUtf8Lossy afterThird
                  else
                    match afterThird with
                    | [] => [replacement]
                    | fourth :: afterFourth =>
                        if ¬ isContinuation fourth then
                          replacement :: fromUtf8Lossy (fourth :: afterFourth)
                        else
                          codePoint (first.toNat % 8) [second, third, fourth] ::
                            fromUtf8Lossy afterFourth

end Arisa.Std
