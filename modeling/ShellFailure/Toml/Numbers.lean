import ShellFailure.Text.Numeral

/-!
# Numbers and dates of a settings file

Only the form of a number or a date is checked.  Each reader gives the text after what it read.  An
integer must fit in 64 bits with a sign, a float may not be so large that the nearest one is
infinite, and a date must be one of the calendar.
-/

namespace ShellFailure.Toml

open Text

/-! ## Digits -/

/-- Reads the digits after the first one of a numeral; an underscore may stand between two. -/
def readMoreDigits (isDigit : Char → Bool) : List Char → List Char × List Char
  | [] => ([], [])
  | '_' :: c :: cs =>
      if isDigit c then
        let (digits, rest) := readMoreDigits isDigit cs
        (c :: digits, rest)
      else ([], '_' :: c :: cs)
  | c :: cs =>
      if isDigit c then
        let (digits, rest) := readMoreDigits isDigit cs
        (c :: digits, rest)
      else ([], c :: cs)

/-- Reads a numeral of one or more digits. -/
def readDigitRun (isDigit : Char → Bool) : List Char → Option (List Char × List Char)
  | [] => none
  | c :: cs =>
      if isDigit c then
        let (digits, rest) := readMoreDigits isDigit cs
        some (c :: digits, rest)
      else none

/-- Reads a sign, if there is one, and says whether it is a minus. -/
def readSign : List Char → Bool × List Char
  | '+' :: cs => (false, cs)
  | '-' :: cs => (true, cs)
  | cs => (false, cs)

/-- Reads a decimal numeral that does not begin with a needless zero. -/
def readUnpadded : List Char → Option (List Char × List Char)
  | '0' :: cs => some (['0'], cs)
  | cs => readDigitRun Char.isDigit cs

/-- The value of digits in a base. -/
def digitsValue (base : Nat) (digits : List Char) : Nat :=
  digits.foldl (fun acc c => base * acc + (hexDigit? c).getD 0) 0

/-! ## Integers -/

/-- The number of integers of 64 bits that are not negative. -/
def integerBound : Nat := Nat.pow 2 63

/-- Reads an integer without a sign in a base other than ten. -/
def readBased (base : Nat) (isDigit : Char → Bool) (cs : List Char) : Option (List Char) := do
  let (digits, rest) ← readDigitRun isDigit cs
  if digitsValue base digits < integerBound then some rest else none

/-- Reads an integer. -/
def readInteger? : List Char → Option (List Char)
  | '0' :: 'x' :: cs => readBased 16 (fun c => (hexDigit? c).isSome) cs
  | '0' :: 'o' :: cs => readBased 8 (fun c => '0' ≤ c && c ≤ '7') cs
  | '0' :: 'b' :: cs => readBased 2 (fun c => c = '0' || c = '1') cs
  | cs => do
      let (negative, cs) := readSign cs
      let (digits, rest) ← readUnpadded cs
      let value := digitsValue 10 digits
      if value < integerBound ∨ (negative ∧ value = integerBound) then some rest else none

/-! ## Floats -/

/-- Is a decimal number, its digits times a power of ten, so large that the nearest float is
infinite?  The bound lies half a step above the greatest float. -/
def overflowsFloat (digits : List Char) (exponent : Int) : Bool :=
  let digits := digits.dropWhile (· = '0')
  let magnitude := digits.length + exponent
  if digits = [] ∨ magnitude ≤ 300 then false
  else if 320 ≤ magnitude then true
  else
    let bound := Nat.pow 2 1024 - Nat.pow 2 970
    bound * Nat.pow 10 (-exponent).toNat ≤ digitsValue 10 digits * Nat.pow 10 exponent.toNat

/-- Reads the exponent of a float. -/
def readExponent : List Char → Option (Int × List Char)
  | c :: cs =>
      if c = 'e' ∨ c = 'E' then do
        let (negative, cs) := readSign cs
        let (digits, rest) ← readDigitRun Char.isDigit cs
        let value : Int := digitsValue 10 digits
        return (if negative then -value else value, rest)
      else none
  | [] => none

/-- Reads the digits after the point of a float. -/
def readFraction : List Char → Option (List Char × List Char)
  | '.' :: cs => readDigitRun Char.isDigit cs
  | _ => none

/-- Reads what makes a numeral a float: a fraction, an exponent, or both. -/
def readFloatTail (cs : List Char) : Option (List Char × Int × List Char) :=
  match readFraction cs with
  | some (fraction, rest) =>
      match readExponent rest with
      | some (exponent, rest) => some (fraction, exponent, rest)
      | none => some (fraction, 0, rest)
  | none => (readExponent cs).map fun (exponent, rest) => ([], exponent, rest)

/-- Reads one of the words for a float that is no number of digits. -/
def readSpecialFloat : List Char → Option (List Char)
  | 'i' :: 'n' :: 'f' :: cs => some cs
  | 'n' :: 'a' :: 'n' :: cs => some cs
  | _ => none

/-- Reads a float.  One that overflows downwards is taken. -/
def readFloat? (cs : List Char) : Option (List Char) :=
  let (negative, cs) := readSign cs
  match readSpecialFloat cs with
  | some rest => some rest
  | none => do
      let (digits, rest) ← readUnpadded cs
      let (fraction, exponent, rest) ← readFloatTail rest
      if ! negative ∧ overflowsFloat (digits ++ fraction) (exponent - fraction.length) then none
      else some rest

/-! ## Dates -/

/-- Reads a numeral of exactly two digits. -/
def readTwoDigits : List Char → Option (Nat × List Char)
  | a :: b :: cs => do return (10 * (← decimalDigit? a) + (← decimalDigit? b), cs)
  | _ => none

/-- Reads a character. -/
def expect (c : Char) : List Char → Option (List Char)
  | d :: cs => if d = c then some cs else none
  | [] => none

/-- The number of days of a month, counted from one. -/
def daysOfMonth (year month : Nat) : Nat :=
  if month = 2 then
    if year % 4 = 0 ∧ (year % 100 ≠ 0 ∨ year % 400 = 0) then 29 else 28
  else if month = 4 ∨ month = 6 ∨ month = 9 ∨ month = 11 then 30
  else 31

/-- Reads a day of the calendar. -/
def readDay (cs : List Char) : Option (List Char) := do
  let (century, cs) ← readTwoDigits cs
  let (year, cs) ← readTwoDigits cs
  let (month, cs) ← readTwoDigits (← expect '-' cs)
  let (day, cs) ← readTwoDigits (← expect '-' cs)
  if 1 ≤ month ∧ month ≤ 12 ∧ 1 ≤ day ∧ day ≤ daysOfMonth (100 * century + year) month then
    some cs
  else none

/-- Reads an hour and a minute. -/
def readHourMinute (cs : List Char) : Option (List Char) := do
  let (hour, cs) ← readTwoDigits cs
  let (minute, cs) ← readTwoDigits (← expect ':' cs)
  if hour ≤ 23 ∧ minute ≤ 59 then some cs else none

/-- Reads a time of day; a minute may have a leap second. -/
def readTime (cs : List Char) : Option (List Char) := do
  let cs ← readHourMinute cs
  let (second, cs) ← readTwoDigits (← expect ':' cs)
  if 60 < second then none
  else
    match cs with
    | '.' :: c :: rest => some (if c.isDigit then rest.dropWhile Char.isDigit else cs)
    | _ => some cs

/-- The text after an offset from universal time, if it begins with one. -/
def skipOffset (cs : List Char) : List Char :=
  match cs with
  | 'Z' :: rest => rest
  | 'z' :: rest => rest
  | '+' :: rest => (readHourMinute rest).getD cs
  | '-' :: rest => (readHourMinute rest).getD cs
  | _ => cs

/-- The text after a time of day that belongs to the date before it, if there is one. -/
def skipTimeOfDate (cs : List Char) : List Char :=
  match cs with
  | c :: rest =>
      if c = 'T' ∨ c = 't' ∨ c = ' ' then
        match readTime rest with
        | some after => skipOffset after
        | none => cs
      else cs
  | [] => cs

/-- Reads a day, a day with a time, or a time. -/
def readDate? (cs : List Char) : Option (List Char) :=
  match readDay cs with
  | some rest => some (skipTimeOfDate rest)
  | none => readTime cs

end ShellFailure.Toml
