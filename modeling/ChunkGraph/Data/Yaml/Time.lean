import ChunkGraph.Failure
import ChunkGraph.Number.Literal
import ChunkGraph.Text.Search

/-!
# Points in time

A plain scalar may have the form of a date, alone or with a time of day behind
it, and perhaps a zone. Such a scalar is read as a point in time and stands for
the text of its standard form: the parts in fixed widths, the fraction of a
second in six places if it is not zero, and the zone as a signed offset.

## Main definitions

* `Moment` — the parts of a point in time, as they are written.
* `Moment.ofText?` — the parts, if a text has the form.
* `Moment.standard` — the standard form, if the parts are in range.
-/

namespace ChunkGraph.Data.Yaml

open ChunkGraph.Number

/-- The zone of a point in time: an offset in hours and minutes. -/
structure Zone where
  /-- The offset goes back. -/
  negative : Bool := false
  /-- Hours. -/
  hours : Nat := 0
  /-- Minutes. -/
  minutes : Nat := 0
  deriving DecidableEq, Repr

/-- The time of day of a point in time. -/
structure DayTime where
  /-- The hour. -/
  hour : Nat
  /-- The minute. -/
  minute : Nat
  /-- The second. -/
  second : Nat
  /-- The digits behind the point. -/
  fraction : List Char := []
  /-- The zone. -/
  zone : Option Zone := none
  deriving DecidableEq, Repr

/-- A point in time, as it is written. -/
structure Moment where
  /-- The year. -/
  year : Nat
  /-- The month. -/
  month : Nat
  /-- The day. -/
  day : Nat
  /-- The time of day. -/
  time : Option DayTime := none
  deriving DecidableEq, Repr

/-- The value of ASCII digits. -/
def digitsNumber (digits : List Char) : Nat :=
  ofDigits (digits.map fun c => c.toNat - '0'.toNat)

/-- From `least` to `most` digits in front, as a number, and what follows them. -/
def takeNumber (least most : Nat) (text : List Char) : Option (Nat × List Char) :=
  let digits := (text.take most).takeWhile Text.isAsciiDigit
  if least ≤ digits.length then some (digitsNumber digits, text.drop digits.length) else none

/-- The given character in front, and what follows it. -/
def takeChar (c : Char) (text : List Char) : Option (List Char) :=
  match text with
  | d :: rest => if c == d then some rest else none
  | [] => none

/-- The character is a blank or a tab. -/
def isTimeBlank (c : Char) : Bool := c == ' ' || c == '\t'

/-- The zone that a text stands for; the empty text stands for none. -/
def zoneOf? (text : List Char) : Option (Option Zone) :=
  if text.isEmpty then some none
  else
    match text.dropWhile isTimeBlank with
    | ['Z'] => some (some {})
    | sign :: rest =>
        if sign == '+' || sign == '-' then do
          let (hours, rest) ← takeNumber 1 2 rest
          match rest with
          | [] => return some { negative := sign == '-', hours }
          | ':' :: rest =>
              match ← takeNumber 2 2 rest with
              | (minutes, []) => return some { negative := sign == '-', hours, minutes }
              | _ => none
          | _ => none
        else none
    | [] => none

/-- The time of day that the text behind a date stands for. -/
def dayTimeOf? (text : List Char) : Option DayTime := do
  let rest ← match text with
    | c :: rest =>
        if c == 'T' || c == 't' then some rest
        else if isTimeBlank c then some (rest.dropWhile isTimeBlank)
        else none
    | [] => none
  let (hour, rest) ← takeNumber 1 2 rest
  let rest ← takeChar ':' rest
  let (minute, rest) ← takeNumber 2 2 rest
  let rest ← takeChar ':' rest
  let (second, rest) ← takeNumber 2 2 rest
  let (fraction, rest) := match rest with
    | '.' :: rest => (rest.takeWhile Text.isAsciiDigit, rest.dropWhile Text.isAsciiDigit)
    | rest => ([], rest)
  return { hour, minute, second, fraction, zone := ← zoneOf? rest }

/-- The point in time that a text has the form of. A date alone has two digits for the month and
the day; with a time of day behind it one is enough. -/
def Moment.ofText? (text : List Char) : Option Moment := do
  let (year, rest) ← takeNumber 4 4 text
  let rest ← takeChar '-' rest
  let (month, behindMonth) ← takeNumber 1 2 rest
  let rest ← takeChar '-' behindMonth
  let (day, behind) ← takeNumber 1 2 rest
  if behind.isEmpty then
    -- The year, two dashes and four digits.
    if text.length == 10 then return { year, month, day } else none
  else return { year, month, day, time := ← dayTimeOf? behind }

/-- The number of days of a month. -/
def monthLength (year month : Nat) : Nat :=
  let leap := year % 4 == 0 && (year % 100 != 0 || year % 400 == 0)
  if month == 2 then (if leap then 29 else 28)
  else if month == 4 || month == 6 || month == 9 || month == 11 then 30
  else 31

/-- What is out of range in a point in time, if anything is. -/
def Moment.fault? (m : Moment) : Option TimeFault :=
  let time := m.time.getD ⟨0, 0, 0, [], none⟩
  if m.year == 0 then some .year
  else if m.month == 0 || 12 < m.month then some .month
  else if m.day == 0 || monthLength m.year m.month < m.day then some .day
  else if 23 < time.hour then some .hour
  else if 59 < time.minute then some .minute
  else if 59 < time.second then some .second
  else none

/-- A number in at least `width` digits. -/
def padded (width n : Nat) : List Char :=
  List.replicate (width - (natural n).length) '0' ++ natural n

/-- The standard form of a zone. -/
def Zone.chars (z : Zone) : List Char :=
  let minutes := z.hours * 60 + z.minutes
  (if z.negative && minutes != 0 then '-' else '+') ::
    padded 2 (minutes / 60) ++ ':' :: padded 2 (minutes % 60)

/-- The standard form of the digits behind the point: six places, or nothing for zero. -/
def fractionChars (digits : List Char) : List Char :=
  let places := digits.take 6
  if places.all (· == '0') then [] else '.' :: places ++ List.replicate (6 - places.length) '0'

/-- The standard form of a time of day. -/
def DayTime.chars (t : DayTime) : List Char :=
  padded 2 t.hour ++ ':' :: padded 2 t.minute ++ ':' :: padded 2 t.second ++
    fractionChars t.fraction ++ (t.zone.map Zone.chars).getD []

/-- The standard form of a point in time, or what is out of range. -/
def Moment.standard (m : Moment) : Except Failure (List Char) :=
  match m.fault? with
  | some fault => .error (.notATime fault)
  | none =>
      .ok (padded 4 m.year ++ '-' :: padded 2 m.month ++ '-' :: padded 2 m.day ++
        ((m.time.map fun t => ' ' :: t.chars).getD []))

end ChunkGraph.Data.Yaml
