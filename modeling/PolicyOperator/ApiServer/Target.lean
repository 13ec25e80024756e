import PolicyOperator.Text.Utf8

/-!
# Targets of requests

What a request asks for: a path and parameters. As text the two are parted by a question mark, and
what follows a `#` is not sent. Names are put into the text as they are, so a name with one of these
marks moves the border; the values of parameters are encoded.
-/

namespace PolicyOperator.ApiServer

/-! ## Encoded values -/

/-- The byte may stand in an encoded value as it is. -/
def isFormByte (b : Nat) : Bool :=
  (Char.ofNat b).isAlphanum || b == 0x2A || b == 0x2D || b == 0x2E || b == 0x5F

/-- A byte in an encoded value; a space is a plus sign. -/
def formByte (b : Nat) : List Char :=
  if isFormByte b then [Char.ofNat b]
  else if b = 0x20 then ['+']
  else ['%', (Nat.digitChar (b / 16)).toUpper, (Nat.digitChar (b % 16)).toUpper]

def encodeForm (s : String) : String := String.ofList ((Text.utf8Bytes s).flatMap formByte)

/-- The bytes that encoded bytes stand for. A percent sign without two digits stands for itself. -/
def formBytes : List Nat → List Nat
  | [] => []
  | 0x25 :: a :: b :: rest =>
    match Text.numeral? 16 [Char.ofNat a, Char.ofNat b] with
    | some n => n :: formBytes rest
    | none => 0x25 :: formBytes (a :: b :: rest)
  | b :: rest => (if b = 0x2B then 0x20 else b) :: formBytes rest

def decodeForm (bytes : List Nat) : String := String.ofList (Text.decodeUtf8 (formBytes bytes))

/-- The parts of a query between its `&`. -/
def formParts : List Nat → List (List Nat)
  | [] => [[]]
  | b :: rest =>
    if b = 0x26 then [] :: formParts rest
    else (formParts rest).modifyHead (b :: ·)

/-- The parameters of a query. Each is parted at its first `=`; empty parts are none. -/
def formPairs (query : List Nat) : List (String × String) :=
  ((formParts query).filter (· ≠ [])).map fun part =>
    let (key, value) := part.span (· ≠ 0x3D)
    (decodeForm key, decodeForm value.tail)

/-! ## Targets -/

structure Target where
  path : String
  /-- The parameters, in the order in which they are written. -/
  query : List (String × String) := []
  deriving DecidableEq, Repr

namespace Target

/-- The text of a target: a path, and parameters behind it. -/
def textOf (path : String) (params : List (String × String)) : String :=
  path ++ "?" ++ String.join (params.map fun (key, value) =>
    "&" ++ encodeForm key ++ "=" ++ encodeForm value)

/-- The character may stand in a path as it is. -/
def isPathChar (c : Char) : Bool :=
  '!' ≤ c && c ≠ '<' && c ≠ '>' && c ≠ '\x60' && c ≠ '\x7f'

/-- The character may stand in a query as it is. -/
def isQueryChar (c : Char) : Bool :=
  '!' ≤ c && c ≠ '"' && c ≠ '<' && c ≠ '>' && c ≠ '\x7f'

/-- How many bytes the text of a target may have. -/
def maxSize : Nat := 65534

/-- The target that a text writes; nothing when it is too long or holds a character that has no place
there. -/
def ofText? (s : String) : Option Target := do
  guard (s.utf8ByteSize ≤ maxSize)
  let (path, rest) := s.toList.span fun c => c ≠ '?' && c ≠ '#'
  guard (path.all isPathChar)
  let query := match rest with
    | '?' :: rest => rest.takeWhile (· ≠ '#')
    | _ => []
  guard (query.all isQueryChar)
  return { path := String.ofList path, query := formPairs (Text.utf8Bytes (String.ofList query)) }

example : ofText? (textOf "/a?b" [("c d", "é&")]) =
    some { path := "/a", query := [("b?", ""), ("c d", "é&")] } := by
  decide +kernel

/-- What follows a `#` is cut off, parameters too. -/
example : ofText? (textOf "/a#b" [("c", "d")]) = some { path := "/a" } := by
  decide +kernel

end Target

end PolicyOperator.ApiServer
