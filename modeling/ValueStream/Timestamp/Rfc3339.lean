import ValueStream.Timestamp.Basic
import ValueStream.Number.Integer

/-!
# Timestamps as text

The format is `2012-01-02T03:04:05.123Z`: a date and a time at the offset, a fraction of the
second without trailing zeros if there is one, and the offset, which is `Z` for universal time and
otherwise a sign, hours and minutes. Only the years 0 to 9999 and offsets of less than a day in
whole minutes can be written.

Reading takes any single character between date and time, drops digits of the fraction past the
ninth, and takes either case of `Z`. The second 60 is read as the last nanosecond before it, and
only where a leap second can be: at midnight, at universal time, after the last day of a month.
A text is read from left to right and the first fault decides; the ranges of date and time are
looked at when all is read.
-/

namespace ValueStream

namespace Timestamp

/-! ## Writing -/

/-- The parts that can keep a timestamp from being written. -/
inductive FormatError
  /-- The year at the offset has no four digits. -/
  | year
  /-- The offset is a day or more. -/
  | offsetHour
  /-- The offset is not a number of minutes. -/
  | offsetSecond
deriving DecidableEq

/-- What is said of a timestamp that cannot be written. -/
def FormatError.message : FormatError → String
  | year => "The year component cannot be formatted into the requested format."
  | offsetHour => "The offset_hour component cannot be formatted into the requested format."
  | offsetSecond => "The offset_second component cannot be formatted into the requested format."

/-- The last decimal digits of a number, a given count of them. -/
def fixedDigits : Nat → Nat → List Char
  | 0, _ => []
  | count + 1, n => fixedDigits count (n / 10) ++ [Nat.digitChar (n % 10)]

/-- The nanoseconds as a fraction, with a point, or nothing for zero. -/
def fractionChars (nanos : Nat) : List Char :=
  if nanos = 0 then []
  else '.' :: ((fixedDigits 9 nanos).reverse.dropWhile (· == '0')).reverse

/-- The offset. -/
def offsetChars (offset : Int) : List Char :=
  if offset = 0 then ['Z']
  else
    let minutes := offset.natAbs / 60
    (if offset < 0 then '-' else '+') :: fixedDigits 2 (minutes / 60) ++ ':' ::
      fixedDigits 2 (minutes % 60)

/-- The written form of a date and a time. -/
def localChars (date : Date) (second : Nat) : List Char :=
  fixedDigits 4 date.year.toNat ++ '-' :: fixedDigits 2 date.month ++ '-' ::
    fixedDigits 2 date.day ++ 'T' :: fixedDigits 2 (second / 3600) ++ ':' ::
    fixedDigits 2 (second / 60 % 60) ++ ':' :: fixedDigits 2 (second % 60)

/-- The written form, if there is one. -/
def format (t : Timestamp) : Except FormatError (List Char) :=
  if t.localDate.year < 0 ∨ 9999 < t.localDate.year then .error .year
  else if 86400 ≤ t.offset.natAbs then .error .offsetHour
  else if t.offset.natAbs % 60 ≠ 0 then .error .offsetSecond
  else .ok (localChars t.localDate t.secondOfDay ++ fractionChars t.nanos ++ offsetChars t.offset)

/-! ## Reading -/

/-- The parts of the written form. -/
inductive Component
  | year
  | month
  | day
  | separator
  | hour
  | minute
  | second
  | subsecond
  | offsetHour
  | offsetMinute
deriving DecidableEq

/-- The name of a part. -/
def Component.name : Component → String
  | year => "year"
  | month => "month"
  | day => "day"
  | separator => "separator"
  | hour => "hour"
  | minute => "minute"
  | second => "second"
  | subsecond => "subsecond"
  | offsetHour => "offset hour"
  | offsetMinute => "offset minute"

/-- Why a text is no timestamp. -/
inductive ParseError
  /-- A part is not written with its digits. -/
  | component (c : Component)
  /-- A hyphen or colon is missing. -/
  | literal
  /-- Something follows the offset. -/
  | trailing
  /-- A part is out of its range; `note` says what the range depends on. -/
  | range (c : Component) (least greatest : Int) (note : String)
deriving DecidableEq

/-- What is said of a text that is no timestamp. -/
def ParseError.message : ParseError → String
  | component c => "the '" ++ c.name ++ "' component could not be parsed"
  | literal => "a character literal was not valid"
  | trailing => "unexpected trailing characters; the end of input was expected"
  | range c least greatest note =>
    c.name ++ " must be in the range " ++ String.ofList (Integer.chars least) ++ "..=" ++
      String.ofList (Integer.chars greatest) ++ note

/-- Reads from the front of a text. -/
abbrev Reader := StateT (List Char) (Except ParseError)

/-- Reads a number of a given count of digits. -/
def readFixed (count : Nat) (c : Component) : Reader Nat := fun cs ↦
  let ds := cs.take count
  if ds.length = count ∧ ds.all Char.isDigit then .ok (Nat.ofDigitChars 10 ds 0, cs.drop count)
  else .error (.component c)

/-- Reads one given character. -/
def readLiteral (expected : Char) : Reader Unit
  | c :: cs => if c = expected then .ok ((), cs) else .error .literal
  | [] => .error .literal

/-- Reads the character between date and time. A separator is one byte long, so that the rest of a
longer character is no hour. -/
def readSeparator : Reader Unit
  | c :: cs => if c.toNat < 128 then .ok ((), cs) else .error (.component .hour)
  | [] => .error (.component .separator)

/-- Reads the fraction of a second, if there is one, as nanoseconds. -/
def readFraction : Reader Nat
  | '.' :: cs =>
    let ds := cs.takeWhile Char.isDigit
    if ds.isEmpty then .error (.component .subsecond)
    else
      let leading := Nat.ofDigitChars 10 (ds.take 9) 0
      .ok (leading * Nat.pow 10 (9 - ds.length), cs.dropWhile Char.isDigit)
  | cs => .ok (0, cs)

/-- Reads the sign of an offset: whether it is a minus sign. -/
def readSign : Reader Bool
  | '+' :: cs => .ok (false, cs)
  | '-' :: cs => .ok (true, cs)
  | _ => .error (.component .offsetHour)

/-- Reads hours and minutes of an offset, in seconds. -/
def readClockOffset : Reader Int := do
  let negative ← readSign
  let hours ← readFixed 2 .offsetHour
  if 23 < hours then throw (.component .offsetHour)
  readLiteral ':'
  let minutes ← readFixed 2 .offsetMinute
  if 59 < minutes then throw (.range .offsetMinute (-59) 59 "")
  let offset : Int := (hours * 60 + minutes) * 60
  return if negative then -offset else offset

/-- Reads the offset. -/
def readOffset : Reader Int
  | 'Z' :: cs => .ok (0, cs)
  | 'z' :: cs => .ok (0, cs)
  | cs => readClockOffset cs

/-- The end of the text. -/
def readEnd : Reader Unit
  | [] => .ok ((), [])
  | _ => .error .trailing

/-- The numbers of a written timestamp. -/
structure Fields where
  /-- The year. -/
  year : Nat
  /-- The month. -/
  month : Nat
  /-- The day of the month. -/
  day : Nat
  /-- The hour. -/
  hour : Nat
  /-- The minute. -/
  minute : Nat
  /-- The second. -/
  second : Nat
  /-- The nanoseconds. -/
  nanos : Nat
  /-- The offset in seconds. -/
  offset : Int

/-- Reads the numbers of a whole text. -/
def readFields : Reader Fields := do
  let year ← readFixed 4 .year
  readLiteral '-'
  let month ← readFixed 2 .month
  if month = 0 then throw (.component .month)
  readLiteral '-'
  let day ← readFixed 2 .day
  readSeparator
  let hour ← readFixed 2 .hour
  readLiteral ':'
  let minute ← readFixed 2 .minute
  readLiteral ':'
  let second ← readFixed 2 .second
  let nanos ← readFraction
  let offset ← readOffset
  readEnd
  return ⟨year, month, day, hour, minute, second, nanos, offset⟩

/-- Checks the ranges of date and time. -/
def Fields.check (f : Fields) : Except ParseError Unit := do
  if 12 < f.month then throw (.range .month 1 12 "")
  let days := Date.monthLength f.year f.month
  if f.day = 0 ∨ days < f.day then throw (.range .day 1 days " for the given month and year")
  if 23 < f.hour then throw (.range .hour 0 23 "")
  if 59 < f.minute then throw (.range .minute 0 59 "")
  if 60 < f.second then throw (.range .second 0 59 "")

/-- The timestamp of numbers in their ranges; a leap second becomes the nanosecond before it. -/
def Fields.timestamp (f : Fields) : Timestamp :=
  let date : Date := ⟨f.year, f.month, f.day⟩
  let minutes := f.hour * 60 + f.minute
  if f.second = 60 then ofLocal date (minutes * 60 + 59) 999999999 f.offset (by decide)
  else
    ofLocal date (minutes * 60 + f.second) (f.nanos % 1000000000) f.offset
      (Nat.mod_lt _ (by decide))

/-- Reads a timestamp. -/
def parse (cs : List Char) : Except ParseError Timestamp := do
  let (f, _) ← readFields cs
  f.check
  let t := f.timestamp
  if f.second = 60 ∧ t.isBeforeLeapSecond = false then
    throw (.range .second 0 59 " because leap seconds are not supported")
  return t

end Timestamp

end ValueStream
