/-!
# UTF-8

Strict decoding: the shortest form only, no surrogates, nothing above the last code point. The
first byte that does not fit decides the reason for which a text is refused.
-/

namespace OverlayPatch.Text.Utf8

set_option autoImplicit false

inductive Reason where
  | invalidStart
  | invalidContinuation
  | unexpectedEnd
deriving Repr, DecidableEq

def Reason.message : Reason → String
  | invalidStart => "invalid start byte"
  | invalidContinuation => "invalid continuation byte"
  | unexpectedEnd => "unexpected end of data"

/-- What a lead byte announces: the number of continuation bytes, its own bits, and the
bounds of the first continuation byte. -/
structure Lead where
  more : Nat
  bits : Nat
  low : Nat := 0x80
  high : Nat := 0xBF
deriving Repr, DecidableEq

def lead? (byte : UInt8) : Option Lead :=
  let b := byte.toNat
  if b < 0x80 then some { more := 0, bits := b }
  else if 0xC2 ≤ b ∧ b ≤ 0xDF then some { more := 1, bits := b - 0xC0 }
  else if b = 0xE0 then some { more := 2, bits := 0, low := 0xA0 }
  else if b = 0xED then some { more := 2, bits := 13, high := 0x9F }
  else if 0xE1 ≤ b ∧ b ≤ 0xEF then some { more := 2, bits := b - 0xE0 }
  else if b = 0xF0 then some { more := 3, bits := 0, low := 0x90 }
  else if b = 0xF4 then some { more := 3, bits := 4, high := 0x8F }
  else if 0xF1 ≤ b ∧ b ≤ 0xF3 then some { more := 3, bits := b - 0xF0 }
  else none

/-- Decodes on, within the character that `pending` has begun, if any. -/
def decodeFrom : Option Lead → List UInt8 → Except Reason (List Char)
  | none, [] => .ok []
  | some _, [] => .error .unexpectedEnd
  | none, byte :: bytes =>
      match lead? byte with
      | none => .error .invalidStart
      | some lead =>
          if lead.more = 0 then (decodeFrom none bytes).map (Char.ofNat lead.bits :: ·)
          else decodeFrom (some lead) bytes
  | some lead, byte :: bytes =>
      let b := byte.toNat
      if b < lead.low ∨ lead.high < b then .error .invalidContinuation
      else
        let bits := lead.bits * 64 + (b - 0x80)
        if lead.more = 1 then (decodeFrom none bytes).map (Char.ofNat bits :: ·)
        else decodeFrom (some { more := lead.more - 1, bits }) bytes

def decode (bytes : List UInt8) : Except Reason (List Char) :=
  decodeFrom none bytes

def encode (text : String) : List UInt8 :=
  text.toUTF8.toList

end OverlayPatch.Text.Utf8
