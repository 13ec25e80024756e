import PolicyOperator.Duration
import PolicyOperator.Text.Blank
import PolicyOperator.Text.Scan

/-!
# Instants

Points in time, to the nanosecond, and their RFC 3339 text. The text that is written holds whole
seconds in UTC; the text that is read may have fewer digits, a fraction and an offset. Any minute may
have a leap second, its second 60.
-/

namespace PolicyOperator

/-! ## The calendar -/

/-- A day of the proleptic Gregorian calendar. -/
structure Date where
  year : Int
  month : Nat
  day : Nat
  deriving DecidableEq, Repr

namespace Date

def isLeap (year : Int) : Bool := year % 4 == 0 && (year % 100 != 0 || year % 400 == 0)

def daysInMonth (year : Int) : Nat → Nat
  | 2 => if isLeap year then 29 else 28
  | 4 | 6 | 9 | 11 => 30
  | _ => 31

/-- The day exists. -/
def isValid (d : Date) : Bool :=
  1 ≤ d.month && d.month ≤ 12 && 1 ≤ d.day && d.day ≤ daysInMonth d.year d.month

/-- Days since 1 January 1970. Years are counted from March, so a leap day ends its year. -/
def toDays (d : Date) : Int :=
  let year := if d.month ≤ 2 then d.year - 1 else d.year
  let era := year / 400
  let yearOfEra := year % 400
  let dayOfYear : Int := (153 * ((d.month + 9) % 12) + 2) / 5 + d.day - 1
  era * 146097 + (yearOfEra * 365 + yearOfEra / 4 - yearOfEra / 100 + dayOfYear) - 719468

/-- The day that lies `days` after 1 January 1970. -/
def ofDays (days : Int) : Date :=
  let shifted := days + 719468
  let era := shifted / 146097
  let dayOfEra := shifted % 146097
  let yearOfEra := (dayOfEra - dayOfEra / 1460 + dayOfEra / 36524 - dayOfEra / 146096) / 365
  let dayOfYear := dayOfEra - (365 * yearOfEra + yearOfEra / 4 - yearOfEra / 100)
  let march := (5 * dayOfYear + 2) / 153
  let day := dayOfYear - (153 * march + 2) / 5 + 1
  let month := if march < 10 then march + 3 else march - 9
  { year := yearOfEra + era * 400 + (if month ≤ 2 then 1 else 0)
    month := month.toNat
    day := day.toNat }

/-- The days that dates can be written for lie within these years. -/
def hasYear (year : Int) : Bool := -262143 ≤ year && year ≤ 262142

end Date

/-! ## Instants -/

/-- A point in time. -/
structure Instant where
  /-- Seconds since 1 January 1970, 00:00 UTC, rounded down. -/
  seconds : Int
  /-- Nanoseconds since the start of that second. A leap second has no number of its own: in it they
  go on from 10⁹. -/
  nanosecond : Nat := 0
  deriving DecidableEq, Repr, Inhabited

namespace Instant

/-- The nanoseconds of a second. -/
def perSecond : Nat := 1000000000

/-- The start of the instant's second. -/
def wholeSeconds (t : Instant) : Instant where
  seconds := t.seconds
  nanosecond := t.nanosecond / perSecond * perSecond

def add (t : Instant) (d : Duration) : Instant where
  seconds := t.seconds + (t.nanosecond + d.nanoseconds) / perSecond
  nanosecond := (t.nanosecond + d.nanoseconds) % perSecond

/-- How long ago `earlier` was, with the leap second that it may have been in; nothing when it is
still to come. -/
def since? (now earlier : Instant) : Option Duration :=
  let leap : Int := if perSecond ≤ earlier.nanosecond ∧ earlier.seconds < now.seconds then 1 else 0
  let age := (now.seconds - earlier.seconds + leap) * perSecond + now.nanosecond - earlier.nanosecond
  if 0 ≤ age then some ⟨age.toNat⟩ else none

@[simp] theorem wholeSeconds_wholeSeconds (t : Instant) :
    t.wholeSeconds.wholeSeconds = t.wholeSeconds := by
  simp [wholeSeconds, perSecond]

/-! ## Text -/

/-- A number in decimal, filled up with zeros to `width` digits. -/
def padded (width n : Nat) : String :=
  let digits := toString n
  String.ofList (List.replicate (width - digits.length) '0') ++ digits

theorem ofDigitChars_padded (width n : Nat) :
    Nat.ofDigitChars 10 (padded width n).toList 0 = n := by
  have hdigits : (toString n).toList = Nat.toDigits 10 n := Nat.toList_repr
  rw [padded, String.toList_append, String.toList_ofList, Nat.ofDigitChars_append,
    Nat.ofDigitChars_replicate_zero, Nat.mul_zero, hdigits, Nat.ofDigitChars_ten_toDigits]

/-- Years of four digits stand as they are; others carry their sign. -/
def yearText (year : Int) : String :=
  if 0 ≤ year ∧ year ≤ 9999 then padded 4 year.toNat
  else (if year < 0 then "-" else "+") ++ padded 4 year.natAbs

/-- The instant's second as `YYYY-MM-DDThh:mm:ssZ`. -/
def toText (t : Instant) : String :=
  let days := t.seconds / 86400
  let rest := (t.seconds % 86400).toNat
  let date := Date.ofDays days
  yearText date.year ++ "-" ++ padded 2 date.month ++ "-" ++ padded 2 date.day ++ "T" ++
    padded 2 (rest / 3600) ++ ":" ++ padded 2 (rest / 60 % 60) ++ ":" ++
    padded 2 (rest % 60 + t.nanosecond / perSecond) ++ "Z"

/-- Blank characters, then one to `width` digits. -/
def readField (width : Nat) (cs : List Char) : Option (Nat × List Char) := do
  let cs := Text.trimStart cs
  let (digits, rest) := Text.spanDigits cs
  let value ← Text.numeral? 10 (digits.take width)
  return (value, digits.drop width ++ rest)

/-- Blank characters, then a year: one to four digits, or a sign and any number of digits. -/
def readYear (cs : List Char) : Option (Int × List Char) :=
  let signed (sign : Int) (cs : List Char) : Option (Int × List Char) := do
    let (digits, rest) := Text.spanDigits cs
    let value ← Text.numeral? 10 digits
    return (sign * value, rest)
  match Text.trimStart cs with
  | '-' :: rest => signed (-1) rest
  | '+' :: rest => signed 1 rest
  | cs => do
    let (value, rest) ← readField 4 cs
    return (value, rest)

/-- Blank characters, then a separator. -/
def readMark (mark : Char) (cs : List Char) : Option (List Char) :=
  match Text.trimStart cs with
  | c :: rest => if c = mark then some rest else none
  | [] => none

/-- The nanoseconds that a fraction writes; digits beyond the ninth are dropped. -/
def readFraction (cs : List Char) : Option (Nat × List Char) :=
  match cs with
  | '.' :: rest => do
    let (digits, rest) := Text.spanDigits rest
    guard !digits.isEmpty
    let nine := (digits ++ List.replicate 9 '0').take 9
    return (← Text.numeral? 10 nine, rest)
  | _ => some (0, cs)

/-- The offset from UTC in seconds: `Z`, `UTC`, or a sign, two digits, any colons and blanks, and two
digits. -/
def readOffset (cs : List Char) : Option (Int × List Char) :=
  let signed (sign : Int) : List Char → Option (Int × List Char)
    | a :: b :: rest => do
      let hours ← Text.numeral? 10 [a, b]
      match rest.dropWhile fun c => c == ':' || Text.isBlank c with
      | c :: d :: rest => do
        let minutes ← Text.numeral? 10 [c, d]
        guard (minutes < 60)
        return (sign * (hours * 3600 + minutes * 60), rest)
      | _ => none
    | _ => none
  match cs with
  | '+' :: rest => signed 1 rest
  | '-' :: rest => signed (-1) rest
  | '−' :: rest => signed (-1) rest
  | c :: rest =>
    if c = 'Z' ∨ c = 'z' then some (0, rest)
    else match cs with
      | u :: t :: z :: rest =>
        if (u = 'U' ∨ u = 'u') ∧ (t = 'T' ∨ t = 't') ∧ (z = 'C' ∨ z = 'c') then some (0, rest)
        else none
      | _ => none
  | [] => none

/-- The instant that a text names. Date and time are parted by `T` or a space. -/
def ofText? (s : String) : Option Instant := do
  let (year, cs) ← readYear s.toList
  let cs ← readMark '-' cs
  let (month, cs) ← readField 2 cs
  let cs ← readMark '-' cs
  let (day, cs) ← readField 2 cs
  let cs ← match cs with
    | c :: rest => if c = 'T' ∨ c = 't' ∨ c = ' ' then some rest else none
    | [] => none
  let (hour, cs) ← readField 2 cs
  let cs ← readMark ':' cs
  let (minute, cs) ← readField 2 cs
  let cs ← readMark ':' cs
  let (second, cs) ← readField 2 cs
  let (fraction, cs) ← readFraction cs
  let (offset, cs) ← readOffset (Text.trimStart cs)
  guard (Text.trimStart cs).isEmpty
  let date : Date := ⟨year, month, day⟩
  guard (date.isValid && Date.hasYear year)
  guard (hour < 24 ∧ minute < 60 ∧ second ≤ 60 ∧ offset.natAbs < 86400)
  let numbered := min second 59
  let seconds : Int := date.toDays * 86400 + hour * 3600 + minute * 60 + numbered - offset
  guard (Date.hasYear (Date.ofDays (seconds / 86400)).year)
  return { seconds, nanosecond := (second - numbered) * perSecond + fraction }

example : (ofText? "2020-01-02T03:04:05.678+02:00").map toText = some "2020-01-02T01:04:05Z" := by
  decide +kernel

example : (ofText? "2016-12-31T23:59:60.5Z").map toText = some "2016-12-31T23:59:60Z" := by
  decide +kernel

end Instant

end PolicyOperator
