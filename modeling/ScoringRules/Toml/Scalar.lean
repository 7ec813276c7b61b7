import ScoringRules.Json
import ScoringRules.Text

/-!
# Unquoted values

The values that are written without quotes: booleans, integers, floats, and dates and times. Digits
may be grouped by underscores, each of which stands between two digits or behind a sign. Decimal
numbers have no superfluous zeros in front.

What is written as a number need not be one that can be represented: it may be too large, or lack
digits of its base. A document may hold it all the same, as long as nobody asks for its value.

- `Scalar.ofText?` reads an unquoted text
- `Scalar.toJson?` is the JSON value of a scalar that has one
-/

namespace ScoringRules.Toml

inductive Scalar where
  | string (value : String)
  | boolean (value : Bool)
  | integer (value : Int)
  /-- The float `mantissa · 10 ^ exponent`. -/
  | float (mantissa exponent : Int)
  | nonFinite
  /-- An integer that is written without the digits of its base. -/
  | undigited
  /-- A date, a time, or both, as it is written. -/
  | dateTime (text : String)
deriving DecidableEq, Repr

/-- The integers that can be represented. -/
def IsRepresentable (value : Int) : Prop :=
  -(Nat.pow 2 127 : Int) ≤ value ∧ value < Nat.pow 2 128

instance : DecidablePred IsRepresentable := fun value =>
  inferInstanceAs (Decidable (-(Nat.pow 2 127 : Int) ≤ value ∧ value < Nat.pow 2 128))

/-- Whether `mantissa · 10 ^ exponent` is below all numbers that round to infinity in double
precision. These start half a unit above the greatest double. What is below one, and what has more
than three hundred and nine digits, is told apart without raising ten to the exponent. -/
def isFinite (mantissa : Nat) (exponent : Int) : Bool :=
  if mantissa = 0 ∨ exponent < -(Nat.log2 mantissa : Int) then true
  else if 309 ≤ exponent then false
  else
    mantissa * Nat.pow 10 exponent.toNat
      < (Nat.pow 2 1024 - Nat.pow 2 970) * Nat.pow 10 (-exponent).toNat

/-- The JSON value of a scalar, unless it is a number that cannot be represented. JSON has neither
infinities nor dates: an infinity is null, and a date an object of its own form. -/
def Scalar.toJson? : Scalar → Option Json
  | string value => some (.string value)
  | boolean value => some (.bool value)
  | integer value => if IsRepresentable value then some (.integer value) else none
  | float mantissa exponent =>
      if mantissa = 0 then some (.decimal 0 0)
      else if isFinite mantissa.natAbs exponent then
        some (.decimal (mantissa * Nat.pow 10 exponent.toNat) (-exponent).toNat)
      else none
  | nonFinite => some .null
  | undigited => none
  | dateTime text => some (.object [("datetime", .string text)])

/-! ## Digits -/

/-- The number that a sequence of digit values denotes. -/
def ofDigits (base : Nat) (digits : List Nat) : Nat :=
  digits.foldl (fun number digit => base * number + digit) 0

/-- The digit values of a text in which underscores may stand between digits. -/
def digits? (base : Nat) (text : List Char) : Option (List Nat) := do
  let (first, later) := Text.splitList '_' text
  let runs ← (first :: later).mapM fun run =>
    if run.isEmpty then none else run.mapM (Text.digitValue? base)
  return runs.flatten

inductive Sign where
  | plus
  | minus
deriving DecidableEq, Repr

def cutSign : List Char → Option Sign × List Char
  | '+' :: body => (some .plus, body)
  | '-' :: body => (some .minus, body)
  | body => (none, body)

def signed (sign : Option Sign) (magnitude : Nat) : Int :=
  if sign = some .minus then -magnitude else magnitude

/-- The digit values of a decimal number, which starts with a zero only when that is all of it.
Behind a sign an underscore may come first, and then zeros as well. -/
def decimalDigits? (sign : Option Sign) (text : List Char) : Option (List Nat) :=
  match sign, text with
  | some _, '_' :: text => digits? 10 text
  | _, _ =>
      match digits? 10 text with
      | some (0 :: _ :: _) => none
      | digits => digits

/-! ## Numbers -/

/-- The base that a letter after a zero stands for, and the digits after it. -/
def cutBase? : List Char → Option (Nat × List Char)
  | '0' :: 'x' :: body => some (16, body)
  | '0' :: 'o' :: body => some (8, body)
  | '0' :: 'b' :: body => some (2, body)
  | _ => none

/-- Whether a text starts with a digit of some base. -/
def startsWithDigit (text : List Char) : Bool :=
  text.head?.any fun c => (Text.digitValue? 16 c).isSome

/-- Whether a decimal integer starts a text and underscores group the rest of it. The groups are
only looked at where they meet an underscore, for a digit of any base. -/
def isGrouped (sign : Option Sign) (text : List Char) : Bool :=
  let (first, later) := Text.splitList '_' text
  (first.head?.any (· ≠ '0') || (first.isEmpty && sign.isSome)) && first.all Char.isDigit &&
    !later.isEmpty && later.all startsWithDigit && later.dropLast.all (startsWithDigit ·.reverse) &&
    text.all fun c => c ≠ '.' ∧ c ≠ 'e' ∧ c ≠ 'E' ∧ c ≠ ' '

/-- Reads an integer: with a base and no sign, or decimal with an optional sign. -/
def integer? (text : List Char) : Option Scalar :=
  match cutBase? text with
  | some (_, []) => some .undigited
  | some (base, body) => (digits? base body).map fun digits => .integer (ofDigits base digits)
  | none =>
      let (sign, body) := cutSign text
      match decimalDigits? sign body with
      | some digits => some (.integer (signed sign (ofDigits 10 digits)))
      | none => if isGrouped sign body then some .undigited else none

/-- The value of the exponent part of a float, which is zero when there is none. -/
def exponent? : Option (List Char) → Option Int
  | none => some 0
  | some text =>
      let (sign, body) := cutSign text
      (digits? 10 body).map fun digits => signed sign (ofDigits 10 digits)

/-- The digit values of the fraction of a float, of which there are none when there is no
fraction. -/
def fraction? : Option (List Char) → Option (List Nat)
  | none => some []
  | some text => digits? 10 text

/-- Reads a float, which has a fraction, an exponent, or both, or is one of the special values. -/
def float? (text : List Char) : Option Scalar :=
  let (sign, body) := cutSign text
  if body = "inf".toList ∨ body = "nan".toList then some .nonFinite
  else
    let (number, exponent) := Text.cutChars 'e' (body.map fun c => if c = 'E' then 'e' else c)
    let (whole, fraction) := Text.cutChars '.' number
    if fraction.isNone ∧ exponent.isNone then none
    else do
      let fraction ← fraction? fraction
      let mantissa := ofDigits 10 ((← decimalDigits? sign whole) ++ fraction)
      return .float (signed sign mantissa) ((← exponent? exponent) - fraction.length)

/-! ## Dates and times -/

/-- The number written by exactly the given count of decimal digits at the start of a text, and what
follows it. -/
def fixedNumber? (count : Nat) (text : List Char) : Option (Nat × List Char) := do
  let digits := text.take count
  if digits.length < count then none
  else return (ofDigits 10 (← digits.mapM (Text.digitValue? 10)), text.drop count)

/-- What follows an expected character. -/
def expect? (expected : Char) : List Char → Option (List Char)
  | [] => none
  | c :: later => if c = expected then some later else none

def daysOf (year month : Nat) : Nat :=
  if month = 2 then
    if year % 4 = 0 ∧ (year % 100 ≠ 0 ∨ year % 400 = 0) then 29 else 28
  else if month = 4 ∨ month = 6 ∨ month = 9 ∨ month = 11 then 30
  else 31

def date? (text : List Char) : Option (List Char) := do
  let (year, text) ← fixedNumber? 4 text
  let (month, text) ← fixedNumber? 2 (← expect? '-' text)
  let (day, text) ← fixedNumber? 2 (← expect? '-' text)
  if 1 ≤ month ∧ month ≤ 12 ∧ 1 ≤ day ∧ day ≤ daysOf year month then some text else none

def clock? (text : List Char) : Option (List Char) := do
  let (hours, text) ← fixedNumber? 2 text
  let (minutes, text) ← fixedNumber? 2 (← expect? ':' text)
  if hours < 24 ∧ minutes < 60 then some text else none

/-- Passes over the fraction of a second, if there is one. -/
def secondFraction? : List Char → Option (List Char)
  | '.' :: text =>
      if (text.takeWhile Char.isDigit).isEmpty then none else some (text.dropWhile Char.isDigit)
  | text => some text

/-- Passes over a time of the day, whose seconds may be left out. -/
def time? (text : List Char) : Option (List Char) := do
  match ← clock? text with
  | ':' :: text =>
      let (seconds, text) ← fixedNumber? 2 text
      if seconds ≤ 60 then secondFraction? text else none
  | text => some text

/-- Passes over an offset from universal time, if there is one. -/
def offset? : List Char → Option (List Char)
  | [] => some []
  | 'Z' :: text | 'z' :: text => some text
  | '+' :: text | '-' :: text => clock? text
  | _ :: _ => none

/-- Whether a text is a date, a time, or a date and a time with an optional offset. -/
def IsDateTime (text : List Char) : Prop :=
  time? text = some [] ∨
    match date? text with
    | some [] => True
    | some (mark :: later) =>
        (mark = 'T' ∨ mark = 't' ∨ mark = ' ') ∧ (time? later).bind offset? = some []
    | none => False

instance : DecidablePred IsDateTime := fun text => by
  unfold IsDateTime
  split <;> infer_instance

def dateTime? (text : List Char) : Option Scalar :=
  if IsDateTime text then some (.dateTime (String.ofList text)) else none

def Scalar.ofText? (text : List Char) : Option Scalar :=
  if text = "true".toList then some (.boolean true)
  else if text = "false".toList then some (.boolean false)
  else (integer? text).or <| (float? text).or <| dateTime? text

end ScoringRules.Toml
