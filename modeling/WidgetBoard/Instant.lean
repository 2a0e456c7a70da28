import WidgetBoard.Text.Blank

/-!
# Instants

An instant is a moment of universal time: a day, a second of that day and the nanoseconds in it.  A
leap second is the second before it with a billion nanoseconds or more.

* `daysOfDate`, `dateOfDays`  the proleptic Gregorian calendar as a count of days from 1970-01-01;
* `Instant.ofText?`           RFC 3339, read liberally: blanks may stand between the parts, `T` may be
                              a space, the offset may be `Z`, `UTC` or hours and minutes;
* `Instant.toText`            RFC 3339 with `Z`, and with 0, 3, 6 or 9 digits of the second, the fewest
                              that lose nothing.
-/

namespace WidgetBoard

/-! ## The calendar -/

structure Date where
  year : Int
  month : Nat
  day : Nat
  deriving DecidableEq, Repr

def isLeapYear (y : Int) : Bool :=
  y % 4 == 0 && (y % 100 != 0 || y % 400 == 0)

def daysInMonth (y : Int) (m : Nat) : Nat :=
  match m with
  | 2 => if isLeapYear y then 29 else 28
  | 4 | 6 | 9 | 11 => 30
  | _ => 31

/-- years that a date may lie in -/
def yearInRange (y : Int) : Bool :=
  -262143 ≤ y && y ≤ 262142

def Date.valid (d : Date) : Bool :=
  yearInRange d.year && 1 ≤ d.month && d.month ≤ 12 && 1 ≤ d.day
    && d.day ≤ daysInMonth d.year d.month

/-- days from 1970-01-01, in eras of 400 years that begin in March -/
def daysOfDate (d : Date) : Int :=
  let y := if d.month ≤ 2 then d.year - 1 else d.year
  let era := y.fdiv 400
  let yearOfEra := y - era * 400
  let dayOfYear := (153 * ((d.month + 9) % 12) + 2) / 5 + d.day - 1
  let dayOfEra := yearOfEra * 365 + yearOfEra.fdiv 4 - yearOfEra.fdiv 100 + dayOfYear
  era * 146097 + dayOfEra - 719468

def dateOfDays (n : Int) : Date :=
  let z := n + 719468
  let era := z.fdiv 146097
  let dayOfEra := (z - era * 146097).toNat
  let yearOfEra := (dayOfEra - dayOfEra / 1460 + dayOfEra / 36524 - dayOfEra / 146096) / 365
  let dayOfYear := dayOfEra - (365 * yearOfEra + yearOfEra / 4 - yearOfEra / 100)
  let m := (5 * dayOfYear + 2) / 153
  let month := if m < 10 then m + 3 else m - 9
  let year := yearOfEra + era * 400
  ⟨if month ≤ 2 then year + 1 else year, month, dayOfYear - (153 * m + 2) / 5 + 1⟩

/-! ## Instants -/

structure Instant where
  day : Int
  second : Nat
  nano : Nat
  deriving DecidableEq, Repr

def secondsPerDay : Nat := 86400

def nanosPerSecond : Nat := 1000000000

namespace Instant

/-! ### Reading -/

def dropBlanks (cs : List Char) : List Char :=
  cs.dropWhile Text.isBlank

def numberOf (ds : List Char) : Nat :=
  ds.foldl (fun n d => 10 * n + (d.toNat - 48)) 0

/-- at least one digit and at most `width`, behind blanks -/
def field? (width : Nat) (cs : List Char) : Option (Nat × List Char) :=
  let cs := dropBlanks cs
  let ds := (cs.take width).takeWhile Char.isDigit
  if ds.isEmpty then none else some (numberOf ds, cs.drop ds.length)

/-- a year of at most four digits, or of any number behind a sign -/
def year? (cs : List Char) : Option (Int × List Char) :=
  let signed (r : List Char) (sign : Int) : Option (Int × List Char) :=
    let ds := r.takeWhile Char.isDigit
    if ds.isEmpty then none else some (sign * numberOf ds, r.drop ds.length)
  match dropBlanks cs with
  | '-' :: r => signed r (-1)
  | '+' :: r => signed r 1
  | r => (field? 4 r).map fun p => (Int.ofNat p.1, p.2)

/-- a mark, behind blanks -/
def mark? (c : Char) (cs : List Char) : Option (List Char) :=
  match dropBlanks cs with
  | d :: r => if c = d then some r else none
  | [] => none

def date? (cs : List Char) : Option (Date × List Char) := do
  let (year, cs) ← year? cs
  let cs ← mark? '-' cs
  let (month, cs) ← field? 2 cs
  let cs ← mark? '-' cs
  let (day, cs) ← field? 2 cs
  let date := ⟨year, month, day⟩
  if date.valid then some (date, cs) else none

/-- the nanoseconds of a fraction: nine digits count, any more are dropped -/
def fraction? (cs : List Char) : Option (Nat × List Char) :=
  match cs with
  | '.' :: r =>
    let ds := r.takeWhile Char.isDigit
    if ds.isEmpty then none
    else some (numberOf ((ds ++ List.replicate 9 '0').take 9), r.drop ds.length)
  | _ => some (0, cs)

/-- hours, minutes, seconds and nanoseconds -/
def time? (cs : List Char) : Option (Nat × Nat × List Char) := do
  let (hour, cs) ← field? 2 cs
  let cs ← mark? ':' cs
  let (minute, cs) ← field? 2 cs
  let cs ← mark? ':' cs
  let (second, cs) ← field? 2 cs
  let (nano, cs) ← fraction? cs
  if hour < 24 ∧ minute < 60 ∧ second ≤ 60 then
    let start := 3600 * hour + 60 * minute
    if second = 60 then some (start + 59, nanosPerSecond + nano, cs)
    else some (start + second, nano, cs)
  else none

def twoDigits? : List Char → Option (Nat × List Char)
  | a :: b :: r => if a.isDigit && b.isDigit then some (numberOf [a, b], r) else none
  | _ => none

/-- seconds east of universal time, less than a day -/
def offset? (cs : List Char) : Option (Int × List Char) :=
  match cs with
  | u :: t :: c :: r =>
    if [u.toUpper, t.toUpper, c.toUpper] = ['U', 'T', 'C'] then some (0, r) else zone? cs
  | _ => zone? cs
where
  zone? : List Char → Option (Int × List Char)
    | 'Z' :: r | 'z' :: r => some (0, r)
    | '+' :: r => clock? r 1
    | '-' :: r | '\u2212' :: r => clock? r (-1)
    | _ => none
  clock? (cs : List Char) (sign : Int) : Option (Int × List Char) := do
    let (hours, cs) ← twoDigits? cs
    let (minutes, cs) ← twoDigits? (cs.dropWhile fun c => c == ':' || Text.isBlank c)
    let seconds := 3600 * hours + 60 * minutes
    if minutes < 60 ∧ seconds < secondsPerDay then some (sign * seconds, cs) else none

def ofText? (s : String) : Option Instant := do
  let (date, cs) ← date? s.toList
  let cs ← match cs with
    | 'T' :: r | 't' :: r | ' ' :: r => some r
    | _ => none
  let (second, nano, cs) ← time? cs
  let (east, cs) ← offset? (dropBlanks cs)
  if (dropBlanks cs).isEmpty then
    let n := daysOfDate date * secondsPerDay + second - east
    let day := n.fdiv secondsPerDay
    if yearInRange (dateOfDays day).year then
      some ⟨day, (n - day * secondsPerDay).toNat, nano⟩
    else none
  else none

/-! ### Writing -/

def padZeros (width n : Nat) : String :=
  let ds := (toString n).toList
  String.ofList (List.replicate (width - ds.length) '0' ++ ds)

def yearText (y : Int) : String :=
  if 0 ≤ y ∧ y ≤ 9999 then padZeros 4 y.toNat
  else (if y < 0 then "-" else "+") ++ padZeros 4 y.natAbs

def fractionText (nano : Nat) : String :=
  if nano = 0 then ""
  else if nano % 1000000 = 0 then "." ++ padZeros 3 (nano / 1000000)
  else if nano % 1000 = 0 then "." ++ padZeros 6 (nano / 1000)
  else "." ++ padZeros 9 nano

def toText (t : Instant) : String :=
  let d := dateOfDays t.day
  let leap := t.nano / nanosPerSecond
  yearText d.year ++ "-" ++ padZeros 2 d.month ++ "-" ++ padZeros 2 d.day
    ++ "T" ++ padZeros 2 (t.second / 3600) ++ ":" ++ padZeros 2 (t.second / 60 % 60)
    ++ ":" ++ padZeros 2 (t.second % 60 + leap) ++ fractionText (t.nano % nanosPerSecond) ++ "Z"

end Instant

end WidgetBoard
