import OverlayPatch.Number.Digit
import OverlayPatch.Number.Hex
import OverlayPatch.Text.Blank
import OverlayPatch.Text.Quoted

/-!
# Integer literals

A literal is an optional sign and digits, single underscores standing between digits only,
with blanks around it. Under `Radix.any` a mark such as `0x` chooses the base, and a decimal
literal has no leading zero unless all its digits are zero; under `Radix.hexadecimal` the
mark `0x` may stand or be left out. One underscore may follow a mark.

Decimal text is bounded in length both ways: a longer literal is not read, and a number that
would need one is not written.
-/

namespace OverlayPatch.Number

set_option autoImplicit false

/-- How the base of a literal is chosen. -/
inductive Radix where
  | any
  | decimal
  | hexadecimal
deriving Repr, DecidableEq

inductive LiteralError where
  | malformed (radix : Radix) (text : String)
  | tooLong (digits : Nat)
  /-- The number has too many digits to be written. -/
  | unwritable
deriving Repr, DecidableEq

/-- The base as a message names it, zero where the literal itself chooses. -/
def Radix.shown : Radix → Nat
  | .any => 0
  | .decimal => 10
  | .hexadecimal => 16

/-- The most digits that a decimal literal may have. -/
def decimalLimit : Nat := 4300

/-- A message quotes at most this many characters of a literal. -/
def quotedLimit : Nat := 200

def LiteralError.message : LiteralError → String
  | malformed radix text =>
      s!"invalid literal for int() with base {radix.shown}: " ++
        String.ofList ((Text.quoted text).toList.take quotedLimit)
  | tooLong digits =>
      s!"Exceeds the limit ({decimalLimit} digits) for integer string conversion: " ++
        s!"value has {digits} digits; use sys.set_int_max_str_digits() to increase the limit"
  | unwritable =>
      s!"Exceeds the limit ({decimalLimit} digits) for integer string conversion; " ++
        "use sys.set_int_max_str_digits() to increase the limit"

/-- The blanks that may surround a literal; the information separators are not among them. -/
def isMargin (c : Char) : Bool :=
  Text.isBlank c && !decide (28 ≤ c.toNat ∧ c.toNat ≤ 31)

/-- A base and how its digits are to be read. -/
structure Reading where
  base : Nat
  /-- The digits may only say zero. -/
  zeroOnly : Bool := false
deriving Repr, DecidableEq

/-- The base that the letter of a mark stands for. -/
def markBase? : Char → Option Nat
  | 'x' | 'X' => some 16
  | 'o' | 'O' => some 8
  | 'b' | 'B' => some 2
  | _ => none

/-- The base of a mark at the start of a text. -/
def mark? : List Char → Option Nat
  | c :: m :: _ => if decimalValue? c = some 0 then markBase? m else none
  | _ => none

/-- The text after a mark, and after the one underscore that may follow it. -/
def afterMark : List Char → List Char
  | _ :: _ :: '_' :: cs => cs
  | _ :: _ :: cs => cs
  | cs => cs

/-- Chooses the base of an unsigned literal and drops its mark. -/
def chooseBase (radix : Radix) (cs : List Char) : Reading × List Char :=
  match radix, mark? cs with
  | .any, some base => ({ base }, afterMark cs)
  | .any, none => ({ base := 10, zeroOnly := cs.head?.bind decimalValue? == some 0 }, cs)
  | .hexadecimal, some 16 => ({ base := 16 }, afterMark cs)
  | .hexadecimal, _ => ({ base := 16 }, cs)
  | .decimal, _ => ({ base := 10 }, cs)

def digitIn? (base : Nat) (c : Char) : Option Nat :=
  (digitValue? c).filter (· < base)

/-- Digits stand at both ends and between any two underscores; `gap` says that the
character before was no digit. -/
def wellSpaced : Bool → List Char → Bool
  | gap, [] => !gap
  | gap, c :: cs => if c = '_' then !gap && wellSpaced true cs else wellSpaced false cs

/-- The value of digits in a base, underscores passed over. -/
def digitsValue (base : Nat) (cs : List Char) : Nat :=
  (cs.filterMap (digitIn? base)).foldl (fun value digit => value * base + digit) 0

/-- Reads the digits of a literal whose base is chosen; only blanks may follow. -/
def readDigits (fail : LiteralError) (reading : Reading) (cs : List Char) :
    Except LiteralError Nat :=
  let isBody := fun c => c == '_' || (digitIn? reading.base c).isSome
  let body := cs.takeWhile isBody
  let count := (body.filter (· ≠ '_')).length
  let value := digitsValue reading.base body
  if !wellSpaced true body then .error fail
  else if reading.base = 10 ∧ decimalLimit < count then .error (.tooLong count)
  else if !(cs.dropWhile isBody).all isMargin then .error fail
  else if reading.zeroOnly ∧ value ≠ 0 then .error fail
  else .ok value

def readUnsigned (fail : LiteralError) (radix : Radix) (cs : List Char) :
    Except LiteralError Nat :=
  let chosen := chooseBase radix cs
  readDigits fail chosen.1 chosen.2

def readInt (radix : Radix) (text : String) : Except LiteralError Int :=
  let fail := LiteralError.malformed radix text
  match text.toList.dropWhile isMargin with
  | '-' :: cs => (readUnsigned fail radix cs).map fun n => -(n : Int)
  | '+' :: cs => (readUnsigned fail radix cs).map Int.ofNat
  | cs => (readUnsigned fail radix cs).map Int.ofNat

def decimalDigits (n : Nat) : List Char :=
  Nat.toDigits 10 n

def decimal (n : Int) : List Char :=
  padSigned 0 decimalDigits n

def writeInt (n : Int) : Except LiteralError String :=
  if decimalLimit < (decimalDigits n.natAbs).length then .error .unwritable
  else .ok (String.ofList (decimal n))

end OverlayPatch.Number
