import PolicyOperator.Json.Draft
import PolicyOperator.Text.Scan

/-!
# Reading JSON text

`Draft.ofText?` reads one value and nothing after it. What is well written but stands for no value
becomes an unreadable part: half of a surrogate pair, a number beyond all doubles, and lists and
objects that lie more than 127 deep. A whole number that fits 64 bits stays whole; any other number
is a double. `Json.ofText?` reads a value all of whose parts can be read.
-/

namespace PolicyOperator.Draft

namespace Reader

def skipBlanks (cs : List Char) : List Char :=
  cs.dropWhile fun c => c == ' ' || c == '\n' || c == '\t' || c == '\r'

/-! ## Texts -/

/-- The body of a text up to its closing quote, escapes untouched, and what follows the quote. -/
def splitText : List Char → Option (List Char × List Char)
  | [] => none
  | '"' :: rest => some ([], rest)
  | '\\' :: c :: rest => (splitText rest).map fun (body, rest) => ('\\' :: c :: body, rest)
  | c :: rest => (splitText rest).map fun (body, rest) => (c :: body, rest)

/-- The character of a one-letter escape. -/
def escaped? : Char → Option Char
  | '"' => some '"'
  | '\\' => some '\\'
  | '/' => some '/'
  | 'b' => some '\x08'
  | 'f' => some '\x0c'
  | 'n' => some '\n'
  | 'r' => some '\r'
  | 't' => some '\t'
  | _ => none

def isHighSurrogate (n : Nat) : Bool := 0xD800 ≤ n && n ≤ 0xDBFF

def isLowSurrogate (n : Nat) : Bool := 0xDC00 ≤ n && n ≤ 0xDFFF

/-- Control characters are escaped, and every escape is one. -/
def isWritten : List Char → Bool
  | [] => true
  | '\\' :: 'u' :: a :: b :: c :: d :: rest =>
    (Text.numeral? 16 [a, b, c, d]).isSome && isWritten rest
  | '\\' :: c :: rest => (escaped? c).isSome && isWritten rest
  | c :: rest => c ≠ '\\' && ' ' ≤ c && isWritten rest

/-- Replaces the escapes in a text's body. The two halves of a surrogate pair have to stand
together. -/
def unescape : List Char → Option (List Char)
  | [] => some []
  | '\\' :: 'u' :: a :: b :: c :: d :: rest => do
    let n ← Text.numeral? 16 [a, b, c, d]
    if isHighSurrogate n then
      match rest with
      | '\\' :: 'u' :: e :: f :: g :: h :: rest =>
        let m ← Text.numeral? 16 [e, f, g, h]
        guard (isLowSurrogate m)
        return Char.ofNat (0x10000 + (n - 0xD800) * 0x400 + (m - 0xDC00)) :: (← unescape rest)
      | _ => none
    else
      guard (!isLowSurrogate n)
      return Char.ofNat n :: (← unescape rest)
  | '\\' :: c :: rest => do return (← escaped? c) :: (← unescape rest)
  | c :: rest => do return c :: (← unescape rest)

/-- The text whose opening quote has been read; nothing for half of a surrogate pair. -/
def text? (cs : List Char) : Option (Option String × List Char) := do
  let (body, rest) ← splitText cs
  guard (isWritten body)
  return ((unescape body).map String.ofList, rest)

/-! ## Numbers -/

/-- Appends digits to a number as long as it fits 64 bits; the digits that are left. -/
def fill (n : Nat) : List Char → Nat × List Char
  | [] => (n, [])
  | d :: ds =>
    let next := n * 10 + (Text.digit? d).getD 0
    if next < UInt64.size then fill next ds else (n, d :: ds)

/-- A decimal exponent, zero when there is none. -/
def exponent? : List Char → Option (Int × List Char)
  | c :: rest =>
    if c = 'e' ∨ c = 'E' then do
      let (sign, rest) := match rest with
        | '+' :: rest => ((1 : Int), rest)
        | '-' :: rest => (-1, rest)
        | rest => (1, rest)
      let (digits, rest) := Text.spanDigits rest
      return (sign * (← Text.numeral? 10 digits), rest)
    else some (0, c :: rest)
  | [] => some (0, [])

/-- A double whose significand is cut to the digits that fit 64 bits. -/
def real (negative : Bool) (n : Nat) (exponent : Int) : Draft :=
  match (Binary64.ofRatio negative n 1).bind fun x => x.timesPowerOfTen exponent with
  | some x => .real x
  | none => .unreadable

/-- A number. -/
def number? (cs : List Char) : Option (Draft × List Char) := do
  let (negative, cs) := match cs with
    | '-' :: rest => (true, rest)
    | cs => (false, cs)
  let (digits, rest) := Text.spanDigits cs
  guard (!digits.isEmpty)
  guard (digits.length = 1 ∨ digits.head? ≠ some '0')
  let (n, left) := fill 0 digits
  match rest with
  | '.' :: rest =>
    let (places, rest) := Text.spanDigits rest
    guard (!places.isEmpty)
    let (m, unread) := fill n places
    let place : Int := left.length - (places.length - unread.length : Nat)
    let (exponent, rest) ← exponent? rest
    return (real negative m (place + exponent), rest)
  | _ =>
    let hasExponent := rest.head?.any fun c => c == 'e' || c == 'E'
    let (exponent, after) ← exponent? rest
    if hasExponent || !left.isEmpty then
      return (real negative n (left.length + exponent), after)
    else if !negative then return (.int n, rest)
    else if n = 0 ∨ Nat.pow 2 63 < n then return (real true n 0, rest)
    else return (.int (-n), rest)

/-! ## Values -/

/-- What a list or an object comes to when `depth` of them may still lie in one another. -/
def within (depth : Nat) (d : Draft) : Draft := if depth = 0 then .unreadable else d

/-- The object of members whose keys can all be read. -/
def object (members : List (Option String × Draft)) : Draft :=
  match members.mapM fun (key, value) => key.map fun key => (key, value) with
  | some members => .obj members
  | none => .unreadable

mutual

/-- A value whose lists and objects may lie `depth` deep. Each call reads a character, so the number
of characters bounds the calls. -/
def value? : (fuel depth : Nat) → List Char → Option (Draft × List Char)
  | 0, _, _ => none
  | fuel + 1, depth, cs =>
    match skipBlanks cs with
    | 'n' :: 'u' :: 'l' :: 'l' :: rest => some (.null, rest)
    | 't' :: 'r' :: 'u' :: 'e' :: rest => some (.bool true, rest)
    | 'f' :: 'a' :: 'l' :: 's' :: 'e' :: rest => some (.bool false, rest)
    | '"' :: rest => (text? rest).map fun (s, rest) => (s.elim .unreadable .str, rest)
    | '[' :: rest =>
      match skipBlanks rest with
      | ']' :: rest => some (within depth (.arr []), rest)
      | rest =>
        (items? fuel (depth - 1) rest).map fun (items, rest) => (within depth (.arr items), rest)
    | '\x7b' :: rest =>
      match skipBlanks rest with
      | '\x7d' :: rest => some (within depth (.obj []), rest)
      | rest =>
        (members? fuel (depth - 1) rest).map fun (members, rest) =>
          (within depth (object members), rest)
    | cs => number? cs

/-- The items up to the closing bracket. -/
def items? : (fuel depth : Nat) → List Char → Option (List Draft × List Char)
  | 0, _, _ => none
  | fuel + 1, depth, cs => do
    let (item, rest) ← value? fuel depth cs
    match skipBlanks rest with
    | ',' :: rest =>
      let (items, rest) ← items? fuel depth rest
      return (item :: items, rest)
    | ']' :: rest => return ([item], rest)
    | _ => none

/-- The members up to the closing brace. -/
def members? : (fuel depth : Nat) → List Char →
    Option (List (Option String × Draft) × List Char)
  | 0, _, _ => none
  | fuel + 1, depth, cs => do
    let (key, rest) ← match skipBlanks cs with
      | '"' :: rest => text? rest
      | _ => none
    let (value, rest) ← match skipBlanks rest with
      | ':' :: rest => value? fuel depth rest
      | _ => none
    match skipBlanks rest with
    | ',' :: rest =>
      let (members, rest) ← members? fuel depth rest
      return ((key, value) :: members, rest)
    | '\x7d' :: rest => return ([(key, value)], rest)
    | _ => none

end

end Reader

/-- The draft that a text writes; nothing when it is none, or something follows it. -/
def ofText? (s : String) : Option Draft := do
  let cs := s.toList
  let (draft, rest) ← Reader.value? (cs.length + 1) 127 cs
  guard (Reader.skipBlanks rest).isEmpty
  return draft

end PolicyOperator.Draft

namespace PolicyOperator.Json

/-- The value that a text writes. -/
def ofText? (s : String) : Option Json := (Draft.ofText? s).bind Draft.value?

example : ofText? " [1, -2.50, \"a\\u00e9\\n\", null] " =
    some (.arr [.int 1, .real ⟨true, 5629499534213120, -51⟩, .str "aé\n", .null]) := by
  decide +kernel

/-- Half of a surrogate pair is well written, but no value. -/
example : (Draft.ofText? "[\"\\ud800\"]").isSome ∧ ofText? "[\"\\ud800\"]" = none := by
  decide +kernel

end PolicyOperator.Json
