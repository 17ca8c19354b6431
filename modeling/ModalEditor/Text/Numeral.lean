import ModalEditor.Fault
import ModalEditor.Text.Blank
import ModalEditor.Text.DecimalDigit
/-!
# Numerals

Integers as text. Digits of every script are read, and no numeral may have more than 4300 of them,
neither one that is read nor one that is written.
-/
namespace ModalEditor.Text

/-- The longest numeral, in digits. -/
def numeralLimit : Nat := 4300

/-- A number that is read digit by digit: blocks of eighteen digits are gathered apart, so that the
large part is touched once for each block. -/
structure Gathered where
  high : Nat := 0
  low : Nat := 0
  scale : Nat := 1

namespace Gathered

def value (g : Gathered) : Nat := g.high * g.scale + g.low

def push (g : Gathered) (digit : Nat) : Gathered :=
  if 10 * g.scale < 1000000000000000000 then ⟨g.high, 10 * g.low + digit, 10 * g.scale⟩
  else ⟨g.high * (10 * g.scale) + (10 * g.low + digit), 0, 1⟩

theorem value_push (g : Gathered) (digit : Nat) : (g.push digit).value = 10 * g.value + digit := by
  have h : g.high * (10 * g.scale) = 10 * (g.high * g.scale) := Nat.mul_left_comm _ _ _
  unfold push
  split <;> simp only [value, h] <;> omega

end Gathered

/-- The number that decimal digits name, most significant first. -/
def digitsValue (digits : Text) : Nat :=
  (digits.foldl (fun (g : Gathered) c => g.push ((digitValue? c).getD 0)) {}).value

/-- The number that a row of digits names, unless it is too long. -/
def readDigits (digits : Text) : Except Fault Nat :=
  if digits.length ≤ numeralLimit then .ok (digitsValue digits)
  else .error (.numeralTooLong digits.length)

/-- Digits with single underscores between them, without the underscores. -/
def groupedDigits? : Text → Option Text
  | [] => none
  | [c] => if isDecimalDigit c then some [c] else none
  | c :: '_' :: rest => if isDecimalDigit c then (groupedDigits? rest).map (c :: ·) else none
  | c :: rest => if isDecimalDigit c then (groupedDigits? rest).map (c :: ·) else none

/-- Blanks that may stand around a numeral: the separators among the control characters may not. -/
def isNumeralBlank (c : Char) : Bool := isBlank c && !(0x1C ≤ c.toNat && c.toNat ≤ 0x1F)

/-- Reads an integer: blanks on both sides, one sign, digits with single underscores between. -/
def readInt? (t : Text) : Option Int :=
  let inner := ((t.dropWhile isNumeralBlank).reverse.dropWhile isNumeralBlank).reverse
  let number (digits : Text) : Option Nat :=
    (groupedDigits? digits).bind fun ds => (readDigits ds).toOption
  match inner with
  | '-' :: digits => (number digits).map fun n => -(n : Int)
  | '+' :: digits => (number digits).map fun n => (n : Int)
  | digits => (number digits).map fun n => (n : Int)

def intDigits (n : Int) : Text :=
  if n < 0 then '-' :: Nat.toDigits 10 n.natAbs else Nat.toDigits 10 n.natAbs

/-- Writes an integer, unless it has too many digits. -/
def writeInt (n : Int) : Except Fault Text :=
  if (Nat.toDigits 10 n.natAbs).length ≤ numeralLimit then .ok (intDigits n) else .error .numberTooLong

def writeNat (n : Nat) : Except Fault Text := writeInt n

end ModalEditor.Text
