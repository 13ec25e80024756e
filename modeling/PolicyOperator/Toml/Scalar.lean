import PolicyOperator.Instant
import PolicyOperator.Toml.Basic

/-!
# TOML scalars

Texts in their four kinds of quotes, whole numbers in four bases, numbers with a fraction or
exponent, and dates.
-/

namespace PolicyOperator.Toml

def isBlank (c : Char) : Bool := c == ' ' || c == '\t'

/-- The character may stand in a comment or a text as it is. -/
def isPlain (c : Char) : Bool := c == '\t' || (' ' ≤ c && c ≠ '\x7f')

/-! ## Texts on one line -/

/-- The character of a one-letter escape. -/
def escaped? : Char → Option Char
  | 'b' => some '\x08'
  | 't' => some '\t'
  | 'n' => some '\n'
  | 'f' => some '\x0c'
  | 'r' => some '\r'
  | 'e' => some '\x1b'
  | '"' => some '"'
  | '\\' => some '\\'
  | _ => none

/-- How many hexadecimal digits follow the letter of an escape. -/
def escapeWidth? : Char → Option Nat
  | 'x' => some 2
  | 'u' => some 4
  | 'U' => some 8
  | _ => none

/-- The character of a number, which must not be half of a surrogate pair. -/
def scalarValue? (n : Nat) : Option Char := if n.isValidChar then some (Char.ofNat n) else none

/-- The character that an escape stands for, after its backslash. -/
def escape? : List Char → Option (Char × List Char)
  | [] => none
  | c :: rest =>
    match escapeWidth? c with
    | some width => do
      guard ((rest.take width).length = width)
      return (← scalarValue? (← Text.numeral? 16 (rest.take width)), rest.drop width)
    | none => do return (← escaped? c, rest)

/-- A text up to its closing quote. -/
def basic? : (fuel : Nat) → List Char → Option (List Char × List Char)
  | 0, _ => none
  | _, [] => none
  | _, '"' :: rest => some ([], rest)
  | fuel + 1, '\\' :: rest => do
    let (c, rest) ← escape? rest
    let (body, rest) ← basic? fuel rest
    return (c :: body, rest)
  | fuel + 1, c :: rest => do
    guard (isPlain c)
    let (body, rest) ← basic? fuel rest
    return (c :: body, rest)

/-- A text without escapes up to its closing quote. -/
def literal? : List Char → Option (List Char × List Char)
  | [] => none
  | '\'' :: rest => some ([], rest)
  | c :: rest => do
    guard (isPlain c)
    let (body, rest) ← literal? rest
    return (c :: body, rest)

/-! ## Texts on several lines -/

/-- The line break at the start of such a text does not count. -/
def dropLineBreak : List Char → List Char
  | '\n' :: rest => rest
  | '\r' :: '\n' :: rest => rest
  | cs => cs

/-- A backslash at the end of a line takes the break and all blanks up to the next text with it. -/
def joinedLine? (cs : List Char) : Option (List Char) :=
  let spaced := cs.dropWhile isBlank
  match spaced with
  | '\n' :: _ | '\r' :: '\n' :: _ =>
    some (spaced.dropWhile fun c => isBlank c || c == '\n' || c == '\r')
  | _ => none

/-- Three quotes close a text; up to two more before them belong to it. -/
def closing? (quote : Char) : List Char → Option (List Char × List Char)
  | a :: b :: c :: rest =>
    if a = quote ∧ b = quote ∧ c = quote then
      let more := (rest.takeWhile (· = quote)).take 2
      some (more, rest.drop more.length)
    else none
  | _ => none

/-- A text on several lines up to its closing quotes. -/
def block? (quote : Char) (escapes : Bool) : (fuel : Nat) → List Char →
    Option (List Char × List Char)
  | 0, _ => none
  | fuel + 1, cs =>
    match closing? quote cs with
    | some (more, rest) => some (more, rest)
    | none =>
      let keep (c : Char) (rest : List Char) : Option (List Char × List Char) := do
        let (body, rest) ← block? quote escapes fuel rest
        return (c :: body, rest)
      match cs with
      | [] => none
      | '\\' :: rest =>
        if escapes then
          match joinedLine? rest with
          | some rest => block? quote escapes fuel rest
          | none => do
            let (c, rest) ← escape? rest
            keep c rest
        else keep '\\' rest
      | '\r' :: '\n' :: rest => do
        let (body, rest) ← keep '\n' rest
        return ('\r' :: body, rest)
      | c :: rest => if isPlain c || c == '\n' then keep c rest else none

/-- A text that starts with a quote. -/
def text? : List Char → Option (String × List Char)
  | '"' :: '"' :: '"' :: rest =>
    let rest := dropLineBreak rest
    (block? '"' true (rest.length + 1) rest).map fun (body, rest) => (String.ofList body, rest)
  | '\'' :: '\'' :: '\'' :: rest =>
    let rest := dropLineBreak rest
    (block? '\'' false (rest.length + 1) rest).map fun (body, rest) => (String.ofList body, rest)
  | '"' :: rest =>
    (basic? (rest.length + 1) rest).map fun (body, rest) => (String.ofList body, rest)
  | '\'' :: rest => (literal? rest).map fun (body, rest) => (String.ofList body, rest)
  | _ => none

/-! ## Numbers -/

/-- Digits of a base, among which single underscores may stand. -/
def grouped? (base : Nat) (cs : List Char) : Option (List Char) := do
  let groups := cs.splitOn '_'
  guard (groups.all fun g => !g.isEmpty && g.all fun c => (Text.digitIn? base c).isSome)
  return groups.flatten

/-- Decimal digits without a needless zero in front. -/
def decimal? (cs : List Char) : Option (List Char) := do
  let digits ← grouped? 10 cs
  guard (digits.length = 1 ∨ digits.head? ≠ some '0')
  return digits

/-- The sign in front, as whether it is a minus, and the rest. -/
def signed : List Char → Bool × List Char
  | '-' :: rest => (true, rest)
  | '+' :: rest => (false, rest)
  | cs => (false, cs)

/-- A whole number of at most 128 bits. -/
def int? (cs : List Char) : Option Int := do
  let n : Int ← match cs with
    | '0' :: 'x' :: digits => (grouped? 16 digits).bind fun ds => (Text.numeral? 16 ds).map Nat.cast
    | '0' :: 'o' :: digits => (grouped? 8 digits).bind fun ds => (Text.numeral? 8 ds).map Nat.cast
    | '0' :: 'b' :: digits => (grouped? 2 digits).bind fun ds => (Text.numeral? 2 ds).map Nat.cast
    | cs =>
      let (negative, digits) := signed cs
      ((decimal? digits).bind (Text.numeral? 10)).map fun n =>
        if negative then -(n : Int) else n
  guard (-(Nat.pow 2 127 : Nat) ≤ n ∧ n < (Nat.pow 2 128 : Nat))
  return n

/-- The places after a point, none when there is no point, and the rest. -/
def places? (cs : List Char) : Option (List Char × List Char) :=
  match cs with
  | '.' :: rest => do
    let (places, rest) := rest.span fun c => c ≠ 'e' ∧ c ≠ 'E'
    return (← grouped? 10 places, rest)
  | cs => some ([], cs)

/-- The exponent, zero when there is none. -/
def exponent? : List Char → Option Int
  | [] => some 0
  | _ :: rest => do
    let (negative, digits) := signed rest
    let n ← Text.numeral? 10 (← grouped? 10 digits)
    return if negative then -(n : Int) else n

/-- The largest number stands for infinity and for what is no number. -/
def beyond (negative : Bool) : Binary64 := ⟨negative, Nat.pow 2 53 - 1, Binary64.greatestExponent⟩

/-- A number with a fraction or an exponent. -/
def float? (cs : List Char) : Option Binary64 := do
  let (negative, cs) := signed cs
  if cs = ['i', 'n', 'f'] ∨ cs = ['n', 'a', 'n'] then
    return beyond negative
  let (whole, rest) := cs.span fun c => c ≠ '.' ∧ c ≠ 'e' ∧ c ≠ 'E'
  guard (!rest.isEmpty)
  let whole ← decimal? whole
  let (places, rest) ← places? rest
  let exponent ← exponent? rest
  let digits := whole ++ places
  let n ← Text.numeral? 10 digits
  let power := exponent - places.length
  if n = 0 ∨ power + digits.length < -400 then
    return .zero negative
  guard (power < 400)
  let (num, den) := Binary64.scale 10 power n 1
  Binary64.ofRatio negative num den

/-! ## Dates -/

/-- A number of exactly so many digits. -/
def fixed? (width : Nat) (cs : List Char) : Option (Nat × List Char) := do
  let digits := cs.take width
  guard (digits.length = width ∧ digits.all fun c => (Text.digit? c).isSome)
  return (← Text.numeral? 10 digits, cs.drop width)

/-- The rest after a given character. -/
def mark? (mark : Char) (cs : List Char) : Option (List Char) := Text.dropPrefix? [mark] cs

/-- The rest after a day of the calendar. -/
def date? (cs : List Char) : Option (List Char) := do
  let (year, cs) ← fixed? 4 cs
  let (month, cs) ← fixed? 2 (← mark? '-' cs)
  let (day, cs) ← fixed? 2 (← mark? '-' cs)
  guard (Date.isValid ⟨year, month, day⟩)
  return cs

/-- The rest after seconds and their fraction, if there are any. -/
def secondsPart? (cs : List Char) : Option (List Char) :=
  match cs with
  | ':' :: rest => do
    let (second, cs) ← fixed? 2 rest
    guard (second ≤ 60)
    match cs with
    | '.' :: rest =>
      let (digits, rest) := Text.spanDigits rest
      guard (!digits.isEmpty)
      return rest
    | cs => return cs
  | cs => some cs

/-- The rest after a time of day. -/
def time? (cs : List Char) : Option (List Char) := do
  let (hour, cs) ← fixed? 2 cs
  let (minute, cs) ← fixed? 2 (← mark? ':' cs)
  guard (hour < 24 ∧ minute < 60)
  secondsPart? cs

/-- The rest after an offset from UTC, if there is one. -/
def offset? (cs : List Char) : Option (List Char) :=
  match cs with
  | [] => some []
  | c :: rest =>
    if c = 'Z' ∨ c = 'z' then some rest
    else if c = '+' ∨ c = '-' then do
      let (hour, cs) ← fixed? 2 rest
      let (minute, cs) ← fixed? 2 (← mark? ':' cs)
      guard (hour < 24 ∧ minute < 60)
      return cs
    else none

/-- A date, a time, or both, and with both perhaps an offset. -/
def isDateTime (cs : List Char) : Bool :=
  match date? cs with
  | some [] => true
  | some (c :: rest) =>
    (c == 'T' || c == 't' || c == ' ') && (time? rest).bind offset? == some []
  | none => time? cs == some []

/-! ## Scalars without quotes -/

/-- The character may stand in a number, a date or a word. -/
def isScalarChar (c : Char) : Bool :=
  c.isAlphanum || c == '_' || c == '+' || c == '-' || c == '.' || c == ':'

/-- The characters of a scalar, and the rest. A space may part the time from a date. -/
def spanScalar (cs : List Char) : List Char × List Char :=
  let (first, rest) := cs.span isScalarChar
  match date? first, rest with
  | some [], ' ' :: a :: b :: ':' :: _ =>
    if (Text.digit? a).isSome && (Text.digit? b).isSome then
      let (second, rest) := (rest.drop 1).span isScalarChar
      (first ++ ' ' :: second, rest)
    else (first, rest)
  | _, _ => (first, rest)

/-- A number, a date or a truth value. -/
def scalar? (cs : List Char) : Option (Toml × List Char) := do
  let (word, rest) := spanScalar cs
  let value : Toml ←
    if word = ['t', 'r', 'u', 'e'] then some (.bool true)
    else if word = ['f', 'a', 'l', 's', 'e'] then some (.bool false)
    else if isDateTime word then some (.dateTime (String.ofList word))
    else ((int? word).map .int).or ((float? word).map .float)
  return (value, rest)

end PolicyOperator.Toml
