import PolicyOperator.Text.Unseen

/-!
# Quoted text that shows everything

Text between quotes in which characters that cannot be seen are written by their number.
-/

namespace PolicyOperator.Text

/-- The hexadecimal digits of a number, in lower case. -/
def hexText (n : Nat) : String := String.ofList (Nat.toDigits 16 n)

/-- A character that cannot be seen, by its number. -/
def numbered (c : Char) : List Char :=
  ['\\', 'u', '\x7b'] ++ (hexText c.toNat).toList ++ ['\x7d']

/-- A character inside the quotes. -/
def debugChar (c : Char) : List Char :=
  match c with
  | '"' => ['\\', '"']
  | '\\' => ['\\', '\\']
  | '\n' => ['\\', 'n']
  | '\r' => ['\\', 'r']
  | '\t' => ['\\', 't']
  | '\x00' => ['\\', '0']
  | c => if isUnseen c then numbered c else [c]

/-- The text between quotes. -/
def debugQuoted (s : String) : String :=
  "\"" ++ String.ofList (s.toList.flatMap debugChar) ++ "\""

example : debugQuoted "a\"é\n\u200b" = "\"a\\\"é\\n\\u\x7b200b\x7d\"" := by
  decide +kernel

end PolicyOperator.Text
