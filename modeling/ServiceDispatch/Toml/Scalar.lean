import ServiceDispatch.Datum
import ServiceDispatch.Toml.Text

/-!
# Numbers, dates and truth values in TOML

Numbers may hold underscores between digits. Which number a fractional one is, and which day a date
is, plays no part in what is read from them, but whether they are well-formed does.
-/

namespace ServiceDispatch.Toml

/-- The value of a digit in a base. -/
def digitIn? (base : Nat) (c : Char) : Option Nat := (Text.hexDigit? c).filter (· < base)

/-- Reads the digits that follow a value, single underscores between them. -/
def moreDigits (base value : Nat) : List Char → Nat × List Char
  | '_' :: c :: rest =>
    match digitIn? base c with
    | some digit => moreDigits base (value * base + digit) rest
    | none => (value, '_' :: c :: rest)
  | c :: rest =>
    match digitIn? base c with
    | some digit => moreDigits base (value * base + digit) rest
    | none => (value, c :: rest)
  | [] => (value, [])

/-- Reads digits, leading zeros included. -/
def digits? (base : Nat) : Reader Nat
  | c :: rest => (digitIn? base c).map fun digit => moreDigits base digit rest
  | [] => none

/-- Reads digits without leading zeros. -/
def plainDigits? : Reader Nat
  | '0' :: rest => some (0, rest)
  | text => digits? 10 text

/-- Reads a sign, which may be missing; whether it is the negative one. -/
def sign : List Char → Bool × List Char
  | '+' :: rest => (false, rest)
  | '-' :: rest => (true, rest)
  | text => (false, text)

/-- A whole number as data, if it fits in 64 bits. -/
def fitting? (n : Int) (rest : List Char) : Option (Datum × List Char) :=
  if -0x8000000000000000 ≤ n && n < 0x8000000000000000 then some (.integer n, rest) else none

/-- Reads a whole number. Only decimal ones have signs. -/
def integer? : Reader Datum
  | '0' :: 'x' :: rest => (digits? 16 rest).bind fun found => fitting? found.1 found.2
  | '0' :: 'o' :: rest => (digits? 8 rest).bind fun found => fitting? found.1 found.2
  | '0' :: 'b' :: rest => (digits? 2 rest).bind fun found => fitting? found.1 found.2
  | text =>
    let (negative, unsigned) := sign text
    (plainDigits? unsigned).bind fun found =>
      fitting? (if negative then -found.1 else found.1) found.2

/-- Reads the exponent of a number. -/
def exponent? : Reader Int
  | c :: rest =>
    if c = 'e' || c = 'E' then
      let (negative, unsigned) := sign rest
      (digits? 10 unsigned).map fun found =>
        (if negative then -(found.1 : Int) else found.1, found.2)
    else none
  | [] => none

/-- Reads the digits after the point of a number: their value and how many they are. -/
def fraction? : Reader (Nat × Nat)
  | '.' :: rest =>
    (digits? 10 rest).map fun found =>
      let read := rest.take (rest.length - found.2.length)
      ((found.1, (read.filter Char.isDigit).length), found.2)
  | _ => none

/-- A number `coefficient · 10 ^ exponent` without a sign. -/
structure Decimal where
  /-- Its digits without the point. -/
  coefficient : Nat
  /-- How far the point lies behind them. -/
  exponent : Int

/-- The least number that rounds to none with a significand of 53 bits and an exponent of 11: half
way between the greatest of these and the next power of two. -/
def overflowBound : Nat := 0x3fffffffffffff * Nat.pow 2 970

/-- Whether a number is too large for a fractional one of 64 bits. The bound has 309 digits, so that
numbers of more digits lie above it and those of fewer below; only the others are compared. -/
def Decimal.overflows (decimal : Decimal) : Bool :=
  let digits := (Nat.toDigits 10 decimal.coefficient).length + decimal.exponent
  decimal.coefficient ≠ 0 &&
    (309 < digits || (digits = 309 &&
      (match decimal.exponent with
      | .ofNat n => overflowBound ≤ decimal.coefficient * Nat.pow 10 n
      | .negSucc n => overflowBound * Nat.pow 10 (n + 1) ≤ decimal.coefficient)))

/-- Reads the digits of a number that is not given as a whole one. -/
def decimal? (text : List Char) : Option (Decimal × List Char) := do
  let (whole, rest) ← plainDigits? text
  match fraction? rest with
  | some ((part, count), rest) =>
    let (exponent, rest) := (exponent? rest).getD (0, rest)
    return (⟨whole * Nat.pow 10 count + part, exponent - count⟩, rest)
  | none =>
    let (exponent, rest) ← exponent? rest
    return (⟨whole, exponent⟩, rest)

/-- Reads a number that is not given as a whole one. One without a minus sign must not be too
large. -/
def fractional? (text : List Char) : Option (Datum × List Char) :=
  match sign text with
  | (_, 'i' :: 'n' :: 'f' :: rest) => some (.fractional, rest)
  | (_, 'n' :: 'a' :: 'n' :: rest) => some (.fractional, rest)
  | (negative, unsigned) =>
    (decimal? unsigned).bind fun (decimal, rest) =>
      if !negative && decimal.overflows then none else some (.fractional, rest)

/-- Reads a number of so many decimal digits that lies between bounds. -/
def fixed? (count low high : Nat) (text : List Char) : Option (Nat × List Char) :=
  let digits := text.take count
  let value := digits.foldl (fun value c => value * 10 + (c.toNat - '0'.toNat)) 0
  if digits.length = count && digits.all Char.isDigit && low ≤ value && value ≤ high then
    some (value, text.drop count)
  else none

/-- What is left after a character. -/
def afterCharacter? (wanted : Char) : List Char → Option (List Char)
  | c :: rest => if c = wanted then some rest else none
  | [] => none

/-- Number of days of a month. -/
def daysIn (year month : Nat) : Nat :=
  if month = 2 then
    if (year % 4 = 0 ∧ year % 100 ≠ 0) ∨ year % 400 = 0 then 29 else 28
  else if month ∈ [4, 6, 9, 11] then 30
  else 31

/-- Past a day. -/
def day? (text : List Char) : Option (List Char) := do
  let (year, rest) ← fixed? 4 0 9999 text
  let (month, rest) ← fixed? 2 1 12 (← afterCharacter? '-' rest)
  let (_, rest) ← fixed? 2 1 (daysIn year month) (← afterCharacter? '-' rest)
  return rest

/-- Past a time of day; a minute may have a leap second. -/
def time? (text : List Char) : Option (List Char) := do
  let (_, rest) ← fixed? 2 0 23 text
  let (_, rest) ← fixed? 2 0 59 (← afterCharacter? ':' rest)
  let (_, rest) ← fixed? 2 0 60 (← afterCharacter? ':' rest)
  match rest with
  | '.' :: c :: more => return if c.isDigit then more.dropWhile Char.isDigit else rest
  | _ => return rest

/-- Past the distance of a clock from universal time. -/
def offset? : List Char → Option (List Char)
  | 'Z' :: rest => some rest
  | 'z' :: rest => some rest
  | c :: rest =>
    if c = '+' || c = '-' then do
      let (_, rest) ← fixed? 2 0 23 rest
      let (_, rest) ← fixed? 2 0 59 (← afterCharacter? ':' rest)
      return rest
    else none
  | [] => none

/-- Past what may follow a day: a time, and the distance of its clock. -/
def afterDay (text : List Char) : List Char :=
  match text with
  | c :: rest =>
    if c = 'T' || c = 't' || c = ' ' then
      match time? rest with
      | some left => (offset? left).getD left
      | none => text
    else text
  | [] => text

/-- A date as data: a table with one entry of a reserved name. -/
def dateDatum (text rest : List Char) : Datum :=
  .table [("$date", .text (String.ofList (text.take (text.length - rest.length))))]

/-- Reads a day, a time of day or both. -/
def date? (text : List Char) : Option (Datum × List Char) :=
  match day? text with
  | some rest => some (dateDatum text (afterDay rest), afterDay rest)
  | none => (time? text).map fun rest => (dateDatum text rest, rest)

/-- Reads a number, a date or a truth value. -/
def scalar? : Reader Datum
  | 't' :: 'r' :: 'u' :: 'e' :: rest => some (.flag true, rest)
  | 'f' :: 'a' :: 'l' :: 's' :: 'e' :: rest => some (.flag false, rest)
  | text => (date? text).or ((fractional? text).or (integer? text))

end ServiceDispatch.Toml
