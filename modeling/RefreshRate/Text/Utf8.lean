import RefreshRate.Text.Decimal

namespace RefreshRate.Text

/-!
# Text in UTF-8

Bytes are decoded one by one.  A lead byte says how many bytes follow it and in
which range the next one must be, so that no character has two encodings and no
surrogate has one; every later byte must be a continuation byte.
-/

namespace Utf8

/-- Where and how bytes fail to be text. -/
structure Fault where
  /-- The number of bytes before the character that is broken. -/
  index : Nat
  /-- The number of bytes that cannot be part of a character; none if bytes are missing. -/
  length? : Option Nat
  deriving Repr, DecidableEq

namespace Fault

/-- The fault as a sentence. -/
def message (fault : Fault) : String :=
  match fault.length? with
  | some length =>
      "invalid utf-8 sequence of " ++ Decimal.text length ++ " bytes from index " ++
        Decimal.text fault.index
  | none =>
      "incomplete utf-8 byte sequence from index " ++ Decimal.text fault.index

end Fault

/-- A character of which some bytes have been read. -/
structure Unfinished where
  /-- The number of bytes read. -/
  taken : Nat
  /-- The number of bytes that follow the next one. -/
  following : Nat
  /-- The value of the bytes read. -/
  value : Nat
  /-- The range in which the next byte must be. -/
  low : Nat
  high : Nat
  deriving Repr, DecidableEq

namespace Unfinished

/-- A character with a given lead byte, of which nothing else is read. -/
def ofLead? (lead : Nat) : Option Unfinished :=
  if lead < 0xC2 then
    none
  else if lead < 0xE0 then
    some ⟨1, 0, lead - 0xC0, 0x80, 0xBF⟩
  else if lead < 0xF0 then
    some ⟨1, 1, lead - 0xE0,
      if lead = 0xE0 then 0xA0 else 0x80, if lead = 0xED then 0x9F else 0xBF⟩
  else if lead < 0xF5 then
    some ⟨1, 2, lead - 0xF0,
      if lead = 0xF0 then 0x90 else 0x80, if lead = 0xF4 then 0x8F else 0xBF⟩
  else
    none

/-- Whether a byte can be the next one. -/
def accepts
    (part : Unfinished)
    (byte : Nat) :
    Bool :=
  part.low ≤ byte && byte ≤ part.high

/-- The value together with the next byte. -/
def extendValue
    (part : Unfinished)
    (byte : Nat) :
    Nat :=
  part.value * 64 + (byte - 0x80)

end Unfinished

/-- Decode bytes that follow `index` bytes and the bytes of a partial character. -/
def decodeFrom
    (index : Nat)
    (part? : Option Unfinished) :
    List UInt8 → Except Fault (List Char)
  | [] =>
      match part? with
      | none =>
          .ok []
      | some _ =>
          .error ⟨index, none⟩
  | byte :: rest =>
      match part? with
      | none =>
          if byte.toNat < 0x80 then
            (decodeFrom (index + 1) none rest).map (Char.ofNat byte.toNat :: ·)
          else
            match Unfinished.ofLead? byte.toNat with
            | none =>
                .error ⟨index, some 1⟩
            | some part =>
                decodeFrom index (some part) rest
      | some part =>
          if part.accepts byte.toNat then
            let value := part.extendValue byte.toNat
            match part.following with
            | 0 =>
                (decodeFrom (index + part.taken + 1) none rest).map (Char.ofNat value :: ·)
            | following + 1 =>
                decodeFrom index (some ⟨part.taken + 1, following, value, 0x80, 0xBF⟩) rest
          else
            .error ⟨index, some part.taken⟩

/-- Decode bytes. -/
def decode (bytes : List UInt8) : Except Fault (List Char) :=
  decodeFrom 0 none bytes

end Utf8

end RefreshRate.Text
