import PolicyOperator.Text.Blank
import PolicyOperator.Text.Letters
import PolicyOperator.Text.Scan

/-!
# Patterns

The regular expressions that the value of a field can be matched with. Only whether a text is one
is told here. A pattern stands between braces, so no brace closes in it, and whatever asks for one
is refused: a counted repetition, and a character or a property named in braces. A pattern is
matched without looking around, and it matches text, never bytes that are not one.
-/

namespace PolicyOperator.Pattern

/-- How the parts of a pattern are read. -/
structure Mode where
  /-- Blanks and comments between the parts do not count. -/
  spaced : Bool := false
  /-- Classes hold characters of all scripts, not only of ASCII. -/
  unicode : Bool := true
  deriving DecidableEq, Repr

/-- What follows the blanks and comments in front; a comment ends with its line. -/
def skipBlanks (comment : Bool) : List Char → List Char
  | [] => []
  | c :: cs =>
    if comment then skipBlanks (c != '\n') cs
    else if Text.isBlank c then skipBlanks false cs
    else if c = '#' then skipBlanks true cs
    else c :: cs

/-- The first character after the blanks and the sign that opens a comment, if there is one. -/
def peekBlanks (all : List Char) (comment : Bool) : List Char → Option Char
  | [] => all.head?
  | c :: cs =>
    if Text.isBlank c then peekBlanks all comment cs
    else if !comment && c == '#' then peekBlanks all true cs
    else some c

namespace Mode

/-- The text from its next part on. -/
def skip (m : Mode) (cs : List Char) : List Char := if m.spaced then skipBlanks false cs else cs

/-- The next character that counts. -/
def peek (m : Mode) (cs : List Char) : Option Char :=
  if m.spaced then peekBlanks cs false cs else cs.head?

end Mode

/-! ## Single characters and escapes -/

/-- A part of a pattern that has no parts of its own. -/
inductive Atom where
  | char (c : Char)
  /-- A character given by two hexadecimal digits. -/
  | byte (c : Char)
  | any
  /-- The start or the end of a line or of the text. -/
  | edge
  /-- A place where a word starts or ends, or where none does. -/
  | wordEdge
  /-- Digits, blanks or word characters, or all but those. -/
  | shorthand (complement : Bool)
  /-- The characters of a general category. -/
  | category
  deriving DecidableEq, Repr

/-- The general categories that have a letter of their own. -/
def categories : List Char := ['C', 'L', 'M', 'N', 'P', 'S', 'Z']

/-- The number that so many hexadecimal digits write, and what follows. -/
def hex? (m : Mode) : Nat → Nat → List Char → Option (Nat × List Char)
  | 0, value, cs => some (value, m.skip cs)
  | digits + 1, value, cs =>
    match m.skip cs with
    | [] => none
    | c :: rest => do hex? m digits (value * 16 + (← Text.digitIn? 16 c)) rest

/-- The character that so many hexadecimal digits name, and what follows. -/
def hexChar? (m : Mode) (digits : Nat) (cs : List Char) : Option (Char × List Char) := do
  let (n, rest) ← hex? m digits 0 cs
  if h : n.isValidChar then some (Char.ofNatAux n h, rest) else none

/-- What follows a backslash. ASCII characters stand for themselves, but for letters and digits. -/
def escape? (m : Mode) : List Char → Option (Atom × List Char)
  | [] => none
  | c :: cs =>
    match c with
    | 'x' => (hexChar? m 2 cs).map fun (c, rest) => (.byte c, rest)
    | 'u' => (hexChar? m 4 cs).map fun (c, rest) => (.char c, rest)
    | 'U' => (hexChar? m 8 cs).map fun (c, rest) => (.char c, rest)
    | 'p' | 'P' =>
      match m.skip cs with
      | c :: rest => if categories.contains c.toUpper then some (.category, m.skip rest) else none
      | [] => none
    | 'd' | 's' | 'w' => some (.shorthand false, cs)
    | 'D' | 'S' | 'W' => some (.shorthand true, cs)
    | 'a' => some (.char '\x07', cs)
    | 'f' => some (.char '\x0c', cs)
    | 'n' => some (.char '\n', cs)
    | 'r' => some (.char '\r', cs)
    | 't' => some (.char '\t', cs)
    | 'v' => some (.char '\x0b', cs)
    | 'A' | 'z' => some (.edge, cs)
    | 'b' | 'B' | '<' | '>' => some (.wordEdge, cs)
    | c => if c.isAlphanum || '\x7f' < c then none else some (.char c, cs)

namespace Atom

/-- The atom can be matched: without all scripts nothing may stand for a byte beyond ASCII, with
them the edge of a word cannot be told. -/
def isMatchable (m : Mode) : Atom → Bool
  | char _ | edge => true
  | byte c => m.unicode || c ≤ '\x7f'
  | any | category => m.unicode
  | wordEdge => !m.unicode
  | shorthand complement => m.unicode || !complement

/-- The character, if the atom is one that a class can hold. -/
def member? (m : Mode) : Atom → Option Char
  | char c | byte c => if m.unicode || c ≤ '\x7f' then some c else none
  | _ => none

/-- A class can hold the atom. -/
def isMember (m : Mode) : Atom → Bool
  | char c => (member? m (.char c)).isSome
  | byte c => (member? m (.byte c)).isSome
  | shorthand complement => m.unicode || !complement
  | category => m.unicode
  | any | edge | wordEdge => false

end Atom

/-! ## Classes -/

/-- Parts side by side: how many there are, and how deep the deepest one is. -/
structure Parts where
  count : Nat := 0
  depth : Nat := 0
  deriving DecidableEq, Repr

namespace Parts

def add (p : Parts) (depth : Nat) : Parts := ⟨p.count + 1, max p.depth depth⟩

/-- The depth of the whole: several parts lie one level deeper than a single one. -/
def height (p : Parts) : Nat := if p.count ≤ 1 then p.depth else p.depth + 1

end Parts

/-- The names that classes of ASCII characters have. -/
def classNames : List String :=
  ["alnum", "alpha", "ascii", "blank", "cntrl", "digit", "graph", "lower", "print", "punct",
    "space", "upper", "word", "xdigit"]

/-- A named class after its opening bracket: whether it is a complement, and what follows. -/
def namedClass? (cs : List Char) : Option (Bool × List Char) :=
  match cs with
  | ':' :: cs =>
    let (complement, cs) := match cs with
      | '^' :: cs => (true, cs)
      | cs => (false, cs)
    match cs.dropWhile (· ≠ ':') with
    | ':' :: ']' :: rest =>
      if classNames.contains (String.ofList (cs.takeWhile (· ≠ ':'))) then some (complement, rest)
      else none
    | _ => none
  | _ => none

/-- One character of a class, written as itself or with a backslash. -/
def classAtom? (m : Mode) : List Char → Option (Atom × List Char)
  | [] => none
  | '\\' :: cs => escape? m cs
  | c :: cs => some (.char c, cs)

/-- What follows a character of a class or a range of them; the ends of a range must be in order. -/
def classRange? (m : Mode) (cs : List Char) : Option (List Char) := do
  let (first, rest) ← classAtom? m cs
  match m.skip rest with
  | '-' :: after =>
    if m.peek after = some ']' || m.peek after = some '-' then
      if first.isMember m then some ('-' :: after) else none
    else
      let (last, rest) ← classAtom? m (m.skip after)
      if (← first.member? m) ≤ (← last.member? m) then some rest else none
  | rest => if first.isMember m then some rest else none

/-- The depth of a class so far: what stands left of an operator, and the parts right of it. -/
def classDepth (left : Option Nat) (parts : Parts) : Nat :=
  match left with
  | none => parts.height
  | some depth => max depth parts.height + 1

/-- The complement sign of a class, if it has one; there is no complement without all scripts. -/
def complement? (m : Mode) (cs : List Char) : Option (List Char) :=
  match m.skip cs with
  | '^' :: rest => if m.unicode then some rest else none
  | rest => some rest

/-- The depth of a class and what follows it. At its start dashes stand for themselves, and so does
a bracket that would close it. Each step takes a character, so `fuel` is their number. -/
def class? (m : Mode) (fuel : Nat) (start : Bool) (left : Option Nat) (parts : Parts)
    (cs : List Char) : Option (Nat × List Char) :=
  match fuel with
  | 0 => none
  | fuel + 1 =>
    match m.skip cs, start with
    | [], _ => none
    | '-' :: rest, true => class? m fuel true left (parts.add 0) rest
    | ']' :: rest, start =>
      if start && parts.count == 0 then class? m fuel false left (parts.add 0) rest
      else some (classDepth left parts + 1, rest)
    | '[' :: rest, _ =>
      match namedClass? rest with
      | some (complement, rest) =>
        if m.unicode || !complement then class? m fuel false left (parts.add 0) rest else none
      | none => do
        let (depth, rest) ← class? m fuel true none {} (← complement? m rest)
        class? m fuel false left (parts.add depth) rest
    | '&' :: '&' :: rest, _ | '-' :: '-' :: rest, _ | '~' :: '~' :: rest, _ =>
      class? m fuel false (some (classDepth left parts)) {} rest
    | rest, _ => do class? m fuel false left (parts.add 0) (← classRange? m rest)

/-! ## Groups -/

/-- The flags that can be set. -/
def flags : List Char := ['i', 'm', 's', 'U', 'u', 'R', 'x']

/-- The flags up to the colon or the bracket that ends them, that sign, and what follows. A dash
parts off those to unset; nothing stands twice. -/
def flags? (seen : List Char) : List Char → Option (List Char × Char × List Char)
  | [] => none
  | c :: cs =>
    if c = ':' || c = ')' then if seen.getLast? = some '-' then none else some (seen, c, cs)
    else if (c = '-' || flags.contains c) && !seen.contains c then flags? (seen ++ [c]) cs
    else none

/-- Whether flags set one, unset it or leave it as it was. -/
def flagState (given : List Char) (flag : Char) (before : Bool) : Bool :=
  if given.contains flag then (given.takeWhile (· ≠ '-')).contains flag else before

/-- The mode that flags lead to. -/
def Mode.afterFlags (m : Mode) (given : List Char) : Mode where
  spaced := flagState given 'x' m.spaced
  unicode := flagState given 'u' m.unicode

/-- The name of a group: a letter or a low line first, then also digits, points and brackets. -/
def isGroupName : List Char → Bool
  | [] => false
  | c :: cs =>
    (c == '_' || Text.isLetter c) &&
      cs.all fun c => c == '_' || c == '.' || c == '[' || c == ']' || Text.isLetterOrNumber c

/-- What an opening bracket starts. -/
inductive Opening where
  /-- The mode of what follows. -/
  | flags (mode : Mode) (rest : List Char)
  /-- A group, and the names that groups have so far. -/
  | group (mode : Mode) (names : List String) (rest : List Char)

/-- A group with a name of its own. -/
def namedGroup? (m : Mode) (names : List String) (cs : List Char) : Option Opening :=
  let name := cs.takeWhile (· ≠ '>')
  match cs.dropWhile (· ≠ '>') with
  | [] => none
  | _ :: rest =>
    if isGroupName name && !names.contains (String.ofList name) then
      some (.group m (String.ofList name :: names) rest)
    else none

/-- What follows an opening bracket. -/
def opening? (m : Mode) (names : List String) (cs : List Char) : Option Opening :=
  match m.skip cs with
  | '?' :: '=' :: _ | '?' :: '!' :: _ | '?' :: '<' :: '=' :: _ | '?' :: '<' :: '!' :: _ => none
  | '?' :: 'P' :: '<' :: rest | '?' :: '<' :: rest => namedGroup? m names rest
  | '?' :: rest =>
    match flags? [] rest with
    | none => none
    | some (given, close, rest) =>
      if close = ':' then some (.group (m.afterFlags given) names rest)
      else if given.isEmpty then none
      else some (.flags (m.afterFlags given) rest)
  | rest => some (.group m names rest)

/-! ## Whole patterns -/

/-- The alternatives of a group up to a place. -/
structure Body where
  /-- The finished alternatives. -/
  branches : Parts := {}
  /-- The parts of the alternative at hand. -/
  parts : Parts := {}
  /-- The depth of the part before the place, if that can be repeated. -/
  last : Option Nat := none
  deriving DecidableEq, Repr

namespace Body

/-- One more part. -/
def add (b : Body) (depth : Nat) : Body := { b with parts := b.parts.add depth, last := some depth }

/-- One more part that cannot be repeated. -/
def addFlags (b : Body) : Body := { b with parts := b.parts.add 0, last := none }

/-- The last part, repeated. -/
def repeat? (b : Body) : Option Body :=
  b.last.map fun depth =>
    { b with
      parts := { b.parts with depth := max b.parts.depth (depth + 1) }
      last := some (depth + 1) }

/-- The alternative at hand is finished. -/
def branch (b : Body) : Body where
  branches := b.branches.add b.parts.height

/-- The depth of the whole. -/
def height (b : Body) : Nat := (b.branches.add b.parts.height).height

end Body

/-- What the characters of a text start when they are read outside classes. -/
def atom? (m : Mode) : List Char → Option (Atom × List Char)
  | [] => none
  | '\\' :: cs => escape? m cs
  | '.' :: cs => some (.any, cs)
  | '^' :: cs | '$' :: cs => some (.edge, cs)
  | c :: cs => some (.char c, cs)

/-- The depth of a group's body, the names of groups so far, and what follows from the closing
bracket on. Each step takes a character, so `fuel` is their number. -/
def body? (fuel : Nat) (m : Mode) (names : List String) (b : Body) (cs : List Char) :
    Option (Nat × List String × List Char) :=
  match fuel with
  | 0 => none
  | fuel + 1 =>
    match m.skip cs with
    | [] => some (b.height, names, [])
    | ')' :: rest => some (b.height, names, ')' :: rest)
    | '|' :: rest => body? fuel m names b.branch rest
    | '(' :: rest =>
      match opening? m names rest with
      | none => none
      | some (.flags mode rest) => body? fuel mode names b.addFlags rest
      | some (.group mode names rest) =>
        match body? fuel mode names {} rest with
        | some (depth, names, ')' :: rest) => body? fuel m names (b.add (depth + 1)) rest
        | _ => none
    | '[' :: rest => do
      let (depth, rest) ← class? m rest.length.succ true none {} (← complement? m rest)
      body? fuel m names (b.add depth) rest
    | '?' :: rest | '*' :: rest | '+' :: rest => do
      let b ← b.repeat?
      match rest with
      | '?' :: rest => body? fuel m names b rest
      | rest => body? fuel m names b rest
    | '\x7b' :: _ => none
    | rest => do
      let (atom, rest) ← atom? m rest
      if atom.isMatchable m then body? fuel m names (b.add 0) rest else none

/-- How deep the parts of a pattern may lie within each other. -/
def maxDepth : Nat := 250

/-- The text is a pattern. -/
def isPattern (cs : List Char) : Bool :=
  match body? (cs.length + 1) {} [] {} cs with
  | some (depth, _, []) => depth ≤ maxDepth
  | _ => false

example : isPattern "a|(?i)[^z-]*?".toList = true ∧ isPattern "[z-a]".toList = false ∧
    isPattern "(a".toList = false ∧ isPattern "\\bx".toList = false := by
  decide +kernel

end PolicyOperator.Pattern
