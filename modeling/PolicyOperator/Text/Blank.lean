/-!
# Blank characters

The characters with the Unicode property `White_Space`, and trimming by them.
-/

namespace PolicyOperator.Text

/-- The character has the Unicode property `White_Space`. -/
def isBlank (c : Char) : Bool :=
  let n := c.toNat
  (0x09 ≤ n && n ≤ 0x0D) || n == 0x20 || n == 0x85 || n == 0xA0 || n == 0x1680 ||
    (0x2000 ≤ n && n ≤ 0x200A) || n == 0x2028 || n == 0x2029 || n == 0x202F || n == 0x205F ||
    n == 0x3000

/-- Drops blank characters at the front. -/
def trimStart (cs : List Char) : List Char := cs.dropWhile isBlank

/-- Drops blank characters at the back. -/
def trimEnd (cs : List Char) : List Char := (cs.reverse.dropWhile isBlank).reverse

/-- Drops blank characters at both ends. -/
def trim (cs : List Char) : List Char := trimEnd (trimStart cs)

end PolicyOperator.Text

namespace PolicyOperator

/-- The text without blank characters at both ends. -/
def trimmed (s : String) : String := String.ofList (Text.trim s.toList)

/-- The text without blank characters at its end. -/
def trimmedEnd (s : String) : String := String.ofList (Text.trimEnd s.toList)

/-- The text has no character but blank ones. -/
def blank (s : String) : Bool := s.toList.all Text.isBlank

/-- ASCII white space is blank. -/
theorem Text.isBlank_of_isWhitespace {c : Char} (h : c.isWhitespace) : Text.isBlank c := by
  simp only [Char.isWhitespace, Bool.or_eq_true, decide_eq_true_eq] at h
  rcases h with ((h | h) | h) | h <;> subst h <;> decide

end PolicyOperator
