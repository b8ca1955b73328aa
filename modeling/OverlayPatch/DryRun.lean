import OverlayPatch.Bytes.Crc32
import OverlayPatch.Engine
import OverlayPatch.Number.Digit
import OverlayPatch.Text.Line

/-!
# Dry runs

A stand-in for a machine-code backend: data directives are assembled as they are, and every
other statement becomes four bytes that depend on its text alone. Layout, branches and
documents can be examined with it where no backend is at hand.

* `.word` and `.byte` take numbers, `.skip` the number of zero bytes to leave;
* a statement runs to the end of its line or to a comment, and a label before it is dropped;
* anything else stands for its own checksum.
-/

namespace OverlayPatch.DryRun

set_option autoImplicit false

/-- Space, tab and carriage return. -/
def isGap (c : Char) : Bool :=
  c == ' ' || c == '\t' || c == '\r'

def trimGaps (cs : List Char) : List Char :=
  (((cs.dropWhile isGap).reverse).dropWhile isGap).reverse

/-- An ASCII letter, digit or underscore. -/
def isLabelChar (c : Char) : Bool :=
  c.isAlphanum || c == '_'

/-- Drops a label and the space after it. -/
def dropLabel (cs : List Char) : List Char :=
  match cs.takeWhile isLabelChar, cs.dropWhile isLabelChar with
  | _ :: _, ':' :: rest => rest.dropWhile fun c => c == ' ' || c == '\t'
  | _, _ => cs

/-- The value of digits that all belong to a base; there must be one at least. -/
def readDigits? (base : Nat) : List Char → Option Nat
  | [] => none
  | cs => cs.foldlM (fun value c => do
      let digit ← if c.toNat < 128 then Number.digitValue? c else none
      if digit < base then some (value * base + digit) else none) 0

/-- A number: decimal, or hexadecimal after `0x`. -/
def readUnsigned? : List Char → Option Nat
  | '0' :: 'x' :: cs => readDigits? 16 cs
  | cs => readDigits? 10 cs

def readNumber? : List Char → Option Int
  | '-' :: cs => (readUnsigned? cs).map fun n => -(n : Int)
  | cs => (readUnsigned? cs).map Int.ofNat

/-- The most bytes that one `.skip` leaves. -/
def skipLimit : Nat := 65536

/-- A number modulo a power of 256, lowest byte first. -/
def wrapped (count : Nat) (n : Int) : List UInt8 :=
  Bytes.littleEndian count (n % (Nat.pow 256 count : Nat)).toNat

/-- The bytes of a data directive, if the statement is one. -/
def data? (word : List Char) (numbers : List Int) : Option (List UInt8) :=
  match String.ofList word, numbers with
  | ".word", numbers => some (numbers.flatMap (wrapped 4))
  | ".byte", numbers => some (numbers.flatMap (wrapped 1))
  | ".skip", [n] => if 0 ≤ n ∧ n ≤ skipLimit then some (List.replicate n.toNat 0) else none
  | _, _ => none

def statement (cs : List Char) : List UInt8 :=
  let word := cs.takeWhile (· ≠ ' ')
  let parts := (Text.splitOn ',' ((cs.dropWhile (· ≠ ' ')).drop 1)).map trimGaps
  let data := (parts.mapM readNumber?).bind (data? word)
  data.getD <|
    Bytes.littleEndian 4 (Bytes.crc32 (Text.Utf8.encode (String.ofList cs))).toNat

def statementOf? (line : List Char) : Option (List Char) :=
  let cs := dropLabel (trimGaps (line.takeWhile (· ≠ '@')))
  if cs.isEmpty then none else some cs

/-- The bytes of a text and the number of its statements; where no byte results, there is
nothing to count. -/
def assemble (text : String) : List UInt8 × Nat :=
  let statements := (Text.splitLines text.toList).filterMap statementOf?
  let data := statements.flatMap statement
  (data, if data.isEmpty then 0 else statements.length)

/-- The encoder that stands in for a backend. It takes every text and has nothing to report. -/
def encoder : Encoder Unit where
  answer text state := (.accepted (assemble text).1 [], state)

end OverlayPatch.DryRun
