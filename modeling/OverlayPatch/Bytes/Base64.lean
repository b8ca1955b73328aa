/-!
# Base64

Bytes as text, three bytes to four characters, padded with equals signs. Reading is lenient:
characters outside the alphabet are passed over, padding that comes too early too, and what
stands behind complete padding is not read at all.
-/

namespace OverlayPatch.Bytes.Base64

set_option autoImplicit false

/-- The character of six bits. -/
def symbol (bits : Nat) : Char :=
  if bits < 26 then Char.ofNat ('A'.toNat + bits)
  else if bits < 52 then Char.ofNat ('a'.toNat + (bits - 26))
  else if bits < 62 then Char.ofNat ('0'.toNat + (bits - 52))
  else if bits = 62 then '+'
  else '/'

/-- The six bits that a character stands for. -/
def bits? (c : Char) : Option Nat :=
  if c.isUpper then some (c.toNat - 'A'.toNat)
  else if c.isLower then some (c.toNat - 'a'.toNat + 26)
  else if c.isDigit then some (c.toNat - '0'.toNat + 52)
  else if c = '+' then some 62
  else if c = '/' then some 63
  else none

/-- Writes bytes with padding. -/
def encode : List UInt8 → List Char
  | [] => []
  | [a] =>
      let a := a.toNat
      [symbol (a / 4), symbol (a % 4 * 16), '=', '=']
  | [a, b] =>
      let a := a.toNat
      let b := b.toNat
      [symbol (a / 4), symbol (a % 4 * 16 + b / 16), symbol (b % 16 * 4), '=']
  | a :: b :: c :: bytes =>
      let a := a.toNat
      let b := b.toNat
      let c := c.toNat
      symbol (a / 4) :: symbol (a % 4 * 16 + b / 16) :: symbol (b % 16 * 4 + c / 64) ::
        symbol (c % 64) :: encode bytes

inductive Error where
  /-- A character beyond ASCII. -/
  | foreign
  /-- The text ends within a group of four, after this many characters of the alphabet. -/
  | stray (characters : Nat)
  | padding
deriving Repr, DecidableEq

def Error.message : Error → String
  | foreign => "string argument should contain only ASCII characters"
  | stray characters =>
      s!"Invalid base64-encoded string: number of data characters ({characters}) " ++
        "cannot be 1 more than a multiple of 4"
  | padding => "Incorrect padding"

/-- The bits of a group of four that have not yet become a byte. -/
inductive Pending where
  | nothing
  | six (bits : Nat)
  | four (bits : Nat)
  | two (bits : Nat)
deriving Repr, DecidableEq

/-- The number of characters read of the group. -/
def Pending.position : Pending → Nat
  | nothing => 0
  | six _ => 1
  | four _ => 2
  | two _ => 3

/-- Adds six bits; gives the byte that they complete. -/
def Pending.add (v : Nat) : Pending → Option UInt8 × Pending
  | nothing => (none, six v)
  | six bits => (some (UInt8.ofNat (bits * 4 + v / 16)), four (v % 16))
  | four bits => (some (UInt8.ofNat (bits * 16 + v / 4)), two (v % 4))
  | two bits => (some (UInt8.ofNat (bits * 64 + v)), nothing)

/-- Reads on: `pads` padding characters came after the last one of the alphabet, of which there
were `seen`. -/
def decodeFrom : Pending → Nat → Nat → List Char → Except Error (List UInt8)
  | .nothing, _, _, [] => .ok []
  | .six _, _, seen, [] => .error (.stray seen)
  | _, _, _, [] => .error .padding
  | pending, pads, seen, c :: cs =>
      if c = '=' then
        if pending.position < 2 then decodeFrom pending pads seen cs
        else if 4 ≤ pending.position + (pads + 1) then .ok []
        else decodeFrom pending (pads + 1) seen cs
      else
        match bits? c with
        | none => decodeFrom pending pads seen cs
        | some v =>
            let (byte, pending) := pending.add v
            (decodeFrom pending 0 (seen + 1) cs).map (byte.toList ++ ·)

def decode (text : String) : Except Error (List UInt8) :=
  if text.toList.all fun c => c.toNat < 128 then decodeFrom .nothing 0 0 text.toList
  else .error .foreign

end OverlayPatch.Bytes.Base64
