import PolicyOperator.Yaml.Plain

/-!
# Text scalars

How a text is written: plain where that reads back, in single quotes where a plain scalar would be
taken for something else, as a literal block when it has lines, and in double quotes when it holds
characters that the other styles cannot show.
-/

namespace PolicyOperator.Yaml

inductive ScalarStyle where
  | plain
  | singleQuoted
  | doubleQuoted
  | literal
  deriving DecidableEq, Repr

/-! ## What a text holds -/

/-- A character that ends a line. -/
def isBreak (c : Char) : Bool :=
  c == '\n' || c == '\r' || c.toNat == 0x85 || c.toNat == 0x2028 || c.toNat == 0x2029

/-- A space, a tab, a line break, or the end of the text. -/
def isGap : Option Char → Bool
  | none => true
  | some c => c == ' ' || c == '\t' || isBreak c || c.toNat == 0

/-- The character may stand unescaped. -/
def isPrintable (c : Char) : Bool :=
  let n := c.toNat
  n == 0x0A || (0x20 ≤ n && n ≤ 0x7E) ||
    (0xA0 ≤ n && n != 0xFEFF && n != 0xFFFE && n != 0xFFFF)

/-- Characters that mean something at the start of a scalar. -/
def isIndicator (c : Char) : Bool := "#,[]\x7b\x7d&*!|>'\"%@`".toList.contains c

/-- After the first character, a colon before a gap and a hash after one mean something. -/
def hasInnerIndicator (before : Char) : List Char → Bool
  | [] => false
  | c :: rest =>
    (c == ':' && isGap rest.head?) || (c == '#' && isGap (some before)) || hasInnerIndicator c rest

/-- The text would be taken for structure. -/
def hasIndicator (cs : List Char) : Bool :=
  (Text.dropPrefix? ['-', '-', '-'] cs).isSome || (Text.dropPrefix? ['.', '.', '.'] cs).isSome ||
    match cs with
    | [] => false
    | c :: rest =>
      isIndicator c || ((c == '?' || c == ':' || c == '-') && isGap rest.head?) ||
        hasInnerIndicator c rest

/-- Some character for which `p` holds stands right before one for which `q` holds. -/
def hasPair (p q : Char → Bool) (cs : List Char) : Bool :=
  (cs.zip cs.tail).any fun (a, b) => p a && q b

def isSpace (c : Char) : Bool := c == ' '

/-- The text cannot be shown without escapes. -/
def needsEscapes (cs : List Char) : Bool :=
  cs.any (!isPrintable ·) || hasPair isSpace isBreak cs

/-- A plain scalar can hold the text in a block. -/
def plainAllowed (cs : List Char) : Bool :=
  let edges := [cs.head?, cs.getLast?].any fun c => c.any fun c => isSpace c || isBreak c
  !(edges || needsEscapes cs || cs.any isBreak || hasIndicator cs)

/-- Single quotes can hold the text. -/
def singleAllowed (cs : List Char) : Bool := !(needsEscapes cs || hasPair isBreak isSpace cs)

/-- A literal block can hold the text. -/
def literalAllowed (cs : List Char) : Bool :=
  !cs.isEmpty && !(needsEscapes cs || cs.getLast?.any isSpace)

/-- The style of a text; keys have to stay on one line. -/
def styleOf (asKey : Bool) (cs : List Char) : ScalarStyle :=
  let quoted := if singleAllowed cs then .singleQuoted else .doubleQuoted
  if asKey && cs.any isBreak then .doubleQuoted
  else if cs.contains '\n' then
    if literalAllowed cs then .literal else .doubleQuoted
  else if readsAsOther cs then quoted
  else if plainAllowed cs then .plain
  else quoted

/-! ## Writing -/

/-- A hexadecimal digit in upper case. -/
def hexDigit (n : Nat) : Char := if n < 10 then Char.ofNat (48 + n) else Char.ofNat (55 + n)

/-- `width` hexadecimal digits. -/
def hexDigits : (width n : Nat) → List Char
  | 0, _ => []
  | width + 1, n => hexDigits width (n / 16) ++ [hexDigit (n % 16)]

/-- A character inside double quotes. -/
def escapedChar (c : Char) : List Char :=
  let n := c.toNat
  if isPrintable c && !isBreak c && c != '"' && c != '\\' then [c]
  else '\\' :: match n with
    | 0x00 => ['0']
    | 0x07 => ['a']
    | 0x08 => ['b']
    | 0x09 => ['t']
    | 0x0A => ['n']
    | 0x0B => ['v']
    | 0x0C => ['f']
    | 0x0D => ['r']
    | 0x1B => ['e']
    | 0x22 => ['"']
    | 0x5C => ['\\']
    | 0x85 => ['N']
    | 0x2028 => ['L']
    | 0x2029 => ['P']
    | n =>
      if n ≤ 0xFF then 'x' :: hexDigits 2 n
      else if n ≤ 0xFFFF then 'u' :: hexDigits 4 n
      else 'U' :: hexDigits 8 n

def spaces (n : Nat) : List Char := List.replicate n ' '

/-- Single-quoted text: quotes are doubled, and a line that follows a break is indented, also the
one that holds the closing quote alone. -/
def singleBody (indent : Nat) (afterBreak : Bool) : List Char → List Char
  | [] => if afterBreak then spaces indent else []
  | c :: rest =>
    if isBreak c then c :: singleBody indent true rest
    else
      let margin := if afterBreak then spaces indent else []
      margin ++ (if c == '\'' then ['\'', '\''] else [c]) ++ singleBody indent false rest

/-- The lines of a literal block: each that is not blank is indented. -/
def literalBody (indent : Nat) (afterBreak : Bool) : List Char → List Char
  | [] => []
  | c :: rest =>
    if isBreak c then c :: literalBody indent true rest
    else (if afterBreak then spaces indent else []) ++ c :: literalBody indent false rest

/-- What follows the bar of a literal block: the indentation when the text starts with a gap, and
whether breaks at the end are dropped or kept. -/
def literalHints (cs : List Char) : List Char :=
  let indentation := if cs.head?.any fun c => isSpace c || isBreak c then ['2'] else []
  let ending :=
    match cs.reverse with
    | [] => ['-']
    | last :: rest =>
      if !isBreak last then ['-']
      else match rest with
        | [] => ['+']
        | c :: _ => if isBreak c then ['+'] else []
  indentation ++ ending

/-- The text of a scalar whose further lines are indented by `indent`. -/
def scalarText (asKey : Bool) (indent : Nat) (s : String) : String :=
  let cs := s.toList
  match styleOf asKey cs with
  | .plain => s
  | .singleQuoted => "'" ++ String.ofList (singleBody indent false cs) ++ "'"
  | .doubleQuoted => "\"" ++ String.ofList (cs.flatMap escapedChar) ++ "\""
  | .literal =>
    "|" ++ String.ofList (literalHints cs) ++ "\n" ++ String.ofList (literalBody indent true cs)

end PolicyOperator.Yaml
