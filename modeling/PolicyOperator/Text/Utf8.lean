import PolicyOperator.Text.Scan

/-!
# Text from bytes

The characters that bytes write in UTF-8. Bytes that write none are replaced: each longest run that
could have begun a character becomes one replacement character, and so does every other byte.
-/

namespace PolicyOperator.Text

/-- How many bytes follow a first byte, and between which bounds the next one lies. -/
def sequence? (first : Nat) : Option (Nat × Nat × Nat) :=
  if 0xC2 ≤ first ∧ first ≤ 0xDF then some (1, 0x80, 0xBF)
  else if first = 0xE0 then some (2, 0xA0, 0xBF)
  else if first = 0xED then some (2, 0x80, 0x9F)
  else if 0xE1 ≤ first ∧ first ≤ 0xEF then some (2, 0x80, 0xBF)
  else if first = 0xF0 then some (3, 0x90, 0xBF)
  else if first = 0xF4 then some (3, 0x80, 0x8F)
  else if 0xF1 ≤ first ∧ first ≤ 0xF3 then some (3, 0x80, 0xBF)
  else none

/-- The bits of a character that its first byte holds. -/
def leadingBits (first following : Nat) : Nat := first % Nat.pow 2 (6 - following)

/-- Reads the bytes that are missing from a character, the next of which lies between two bounds. -/
def finish : (missing low high value : Nat) → List Nat → Char × List Nat
  | 0, _, _, value, bytes => (Char.ofNat value, bytes)
  | _ + 1, _, _, _, [] => ('\ufffd', [])
  | missing + 1, low, high, value, b :: bytes =>
    if low ≤ b ∧ b ≤ high then finish missing 0x80 0xBF (value * 64 + b % 64) bytes
    else ('\ufffd', b :: bytes)

theorem length_finish_le (missing low high value : Nat) (bytes : List Nat) :
    (finish missing low high value bytes).2.length ≤ bytes.length := by
  fun_induction finish missing low high value bytes with
  | case3 _ _ _ _ _ _ _ ih => simp only [List.length_cons]; omega
  | _ => simp

/-- The characters of bytes. -/
def decodeUtf8 : List Nat → List Char
  | [] => []
  | first :: bytes =>
    if first < 0x80 then Char.ofNat first :: decodeUtf8 bytes
    else
      match sequence? first with
      | none => '\ufffd' :: decodeUtf8 bytes
      | some (following, low, high) =>
        let r := finish following low high (leadingBits first following) bytes
        r.1 :: decodeUtf8 r.2
  termination_by bytes => bytes.length
  decreasing_by
    · simp
    · simp
    · exact Nat.lt_succ_of_le (length_finish_le ..)

/-- The bytes of a text. -/
def utf8Bytes (s : String) : List Nat := s.toUTF8.data.toList.map UInt8.toNat

example : decodeUtf8 [0x61, 0xE6, 0x97, 0xA5, 0xE6, 0x97, 0x62, 0xFF] =
    ['a', '日', '\ufffd', 'b', '\ufffd'] := by
  decide +kernel

end PolicyOperator.Text
