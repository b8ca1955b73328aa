/-!
# Hexadecimal text

Addresses are written in upper-case hexadecimal with a least width. A minus sign counts in
that width, so that a column of signed addresses stays aligned.
-/

namespace OverlayPatch.Number

set_option autoImplicit false

/-- One past the last address: addresses have 32 bits. -/
def addressLimit : Int := 0x100000000

/-- The digits of a natural number in base sixteen, letters in upper case. -/
def hexDigits (n : Nat) : List Char :=
  (Nat.toDigits 16 n).map Char.toUpper

/-- Digits filled up with zeros on the left to a least width. -/
def padZeros (width : Nat) (digits : List Char) : List Char :=
  List.replicate (width - digits.length) '0' ++ digits

/-- A number by its magnitude's digits, zeros standing between the sign and the digits. -/
def padSigned (width : Nat) (digits : Nat → List Char) (n : Int) : List Char :=
  if n < 0 then '-' :: padZeros (width - 1) (digits n.natAbs) else padZeros width (digits n.natAbs)

/-- A signed number in upper-case hexadecimal of at least `width` characters. -/
def hex (width : Nat) (n : Int) : List Char :=
  padSigned width hexDigits n

/-- An address as messages and generated code write it. -/
def address (n : Int) : String :=
  String.ofList ('0' :: 'x' :: hex 8 n)

end OverlayPatch.Number
