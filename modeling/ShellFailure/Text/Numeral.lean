/-!
# Numerals

Numbers are written in decimal or hexadecimal without padding (`decimal`, `signedDecimal`,
`hexadecimal`), and read back digit by digit from the left: `readInteger` reads a decimal numeral
into a range and says what is wrong with any other text, `readHexadecimal` reads a hexadecimal one
of any size.  A numeral may begin with a plus sign.
-/

namespace ShellFailure.Text

/-! ## Writing -/

/-- The decimal numeral of a number. -/
def decimal (n : Nat) : String := String.ofList (Nat.toDigits 10 n)

/-- The decimal numeral of an integer, with a minus sign when it is negative. -/
def signedDecimal : Int → String
  | .ofNat n => decimal n
  | .negSucc n => "-" ++ decimal (n + 1)

/-- The hexadecimal numeral of a number, in lower case. -/
def hexadecimal (n : Nat) : String := String.ofList (Nat.toDigits 16 n)

/-! ## Reading -/

/-- The value of a decimal digit. -/
def decimalDigit? (c : Char) : Option Nat :=
  if '0' ≤ c ∧ c ≤ '9' then some (c.toNat - '0'.toNat) else none

/-- The value of a hexadecimal digit of either case. -/
def hexDigit? (c : Char) : Option Nat :=
  if '0' ≤ c ∧ c ≤ '9' then some (c.toNat - '0'.toNat)
  else if 'a' ≤ c ∧ c ≤ 'f' then some (c.toNat - 'a'.toNat + 10)
  else if 'A' ≤ c ∧ c ≤ 'F' then some (c.toNat - 'A'.toNat + 10)
  else none

/-- The value of one or more hexadecimal digits. -/
def hexValue? : List Char → Option Nat
  | [] => none
  | cs => cs.foldlM (fun acc c => (hexDigit? c).map (16 * acc + ·)) 0

/-- The value of a hexadecimal numeral: digits, with or without a plus sign before them. -/
def readHexadecimal : List Char → Option Nat
  | '+' :: digits => hexValue? digits
  | digits => hexValue? digits

/-- What is wrong with a numeral. -/
inductive NumeralError
  | empty
  | invalidDigit
  | tooLarge
  | tooSmall
  deriving DecidableEq, Repr

/-- The wording of a numeral's fault. -/
def NumeralError.message : NumeralError → String
  | .empty => "cannot parse integer from empty string"
  | .invalidDigit => "invalid digit found in string"
  | .tooLarge => "number too large to fit in target type"
  | .tooSmall => "number too small to fit in target type"

/-- The least and the greatest integer of a type of numbers. -/
structure IntegerRange where
  least : Int
  greatest : Int

/-- The signed integers of 32 bits. -/
def IntegerRange.signed32 : IntegerRange := ⟨-2147483648, 2147483647⟩

/-- The unsigned integers of 32 bits. -/
def IntegerRange.unsigned32 : IntegerRange := ⟨0, 4294967295⟩

/-- Reads digits away from zero, upwards or downwards; the first digit that is none, or that
leaves the range, is the fault. -/
def readDigits (range : IntegerRange) (up : Bool) (digits : List Char) :
    Except NumeralError Int :=
  digits.foldlM (fun (acc : Int) c =>
    match decimalDigit? c with
    | none => .error .invalidDigit
    | some d =>
        let value := if up then 10 * acc + d else 10 * acc - d
        if range.greatest < value then .error .tooLarge
        else if value < range.least then .error .tooSmall
        else .ok value) 0

/-- Reads a decimal numeral with a plus sign, or with a minus sign where the range has negative
numbers, or with no sign.  A sign alone is an invalid digit. -/
def readInteger (range : IntegerRange) (text : String) : Except NumeralError Int :=
  match text.toList with
  | [] => .error .empty
  | ['+'] => .error .invalidDigit
  | ['-'] => .error .invalidDigit
  | '+' :: digits => readDigits range true digits
  | '-' :: digits =>
      if range.least < 0 then readDigits range false digits else .error .invalidDigit
  | digits => readDigits range true digits

end ShellFailure.Text
