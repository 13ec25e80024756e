import Mathlib.Data.List.TakeDrop
import Mathlib.Data.List.TakeWhile
import PolicyOperator.ApiServer.Target
import PolicyOperator.Proofs.Text.Order

/-!
# Requests arrive

A target that is put into a text is read off it again (`Target.ofText?_textOf`), if its path has
none of the marks that end a path. The parameters may hold anything. This is a round trip in parts,
from the inside out:

* the bytes of a text are decoded to that text (`Text.decodeUtf8_utf8Bytes`);
* what was written for a byte is read as that byte (`formBytes_formByte`), so an encoded value is
  read back (`decodeForm_encodeForm`);
* an encoded value has no `&` and no `=` (`Encoded`), so a query is parted where its parameters were
  joined (`formPairs_written`).
-/

namespace PolicyOperator

/-! ## Bytes -/

namespace Text

variable {n : Nat} {rest : List Nat}

theorem finish_zero (low high value : Nat) (bytes : List Nat) :
    finish 0 low high value bytes = (Char.ofNat value, bytes) := rfl

/-- A byte between the bounds adds six bits. -/
theorem finish_cons {missing low high value x : Nat} (hlow : low ≤ x % 64 + 0x80)
    (hhigh : x % 64 + 0x80 ≤ high) :
    finish (missing + 1) low high value ((x % 64 + 0x80) :: rest) =
      finish missing 0x80 0xBF (value * 64 + x % 64) rest := by
  have hbits : (x % 64 + 0x80) % 64 = x % 64 := by omega
  rw [finish, if_pos ⟨hlow, hhigh⟩, hbits]

theorem finish_cons_plain (missing value x : Nat) (rest : List Nat) :
    finish (missing + 1) 0x80 0xBF value ((x % 64 + 0x80) :: rest) =
      finish missing 0x80 0xBF (value * 64 + x % 64) rest :=
  finish_cons (by omega) (by omega)

theorem leadingBits_add {following mark bits : Nat} (hmark : mark % 2 ^ (6 - following) = 0)
    (hbits : bits < 2 ^ (6 - following)) : leadingBits (bits + mark) following = bits := by
  show (bits + mark) % 2 ^ (6 - following) = bits
  rw [Nat.add_mod, hmark, Nat.add_zero, Nat.mod_mod, Nat.mod_eq_of_lt hbits]

theorem sequence?_two (hlow : 0x80 ≤ n) (hhigh : n ≤ 0x7FF) :
    sequence? (n / 64 + 0xC0) = some (1, 0x80, 0xBF) := by
  rw [sequence?, if_pos (by omega)]

/-- The bounds of the second byte keep out what has a shorter form, and the surrogates. -/
theorem sequence?_three (hlow : 0x800 ≤ n) (hhigh : n ≤ 0xFFFF)
    (hvalid : n < 0xD800 ∨ 0xDFFF < n) :
    ∃ low high, sequence? (n / 4096 + 0xE0) = some (2, low, high) ∧
      low ≤ n / 64 % 64 + 0x80 ∧ n / 64 % 64 + 0x80 ≤ high := by
  unfold sequence?
  rw [if_neg (by omega)]
  split_ifs
  · exact ⟨_, _, rfl, by omega, by omega⟩
  · exact ⟨_, _, rfl, by omega, by omega⟩
  · exact ⟨_, _, rfl, by omega, by omega⟩
  all_goals omega

theorem sequence?_four (hlow : 0x10000 ≤ n) (hhigh : n < 0x110000) :
    ∃ low high, sequence? (n / 262144 + 0xF0) = some (3, low, high) ∧
      low ≤ n / 4096 % 64 + 0x80 ∧ n / 4096 % 64 + 0x80 ≤ high := by
  unfold sequence?
  rw [if_neg (by omega), if_neg (by omega), if_neg (by omega), if_neg (by omega)]
  split_ifs
  · exact ⟨_, _, rfl, by omega, by omega⟩
  · exact ⟨_, _, rfl, by omega, by omega⟩
  · exact ⟨_, _, rfl, by omega, by omega⟩
  all_goals omega

theorem decodeUtf8_charBytes_append (c : Char) (rest : List Nat) :
    decodeUtf8 (charBytes c ++ rest) = c :: decodeUtf8 rest := by
  have hvalid := toNat_valid c
  have hself : ∀ m, m = c.toNat → Char.ofNat m = c := by
    rintro m rfl
    exact Char.ofNat_toNat c
  rw [charBytes_eq]
  split_ifs with h1 h2 h3 <;> simp only [List.cons_append, List.nil_append]
  · rw [decodeUtf8, if_pos (by omega), hself _ rfl]
  · rw [decodeUtf8, if_neg (by omega), sequence?_two (by omega) h2]
    simp only [finish_cons_plain, finish_zero]
    rw [leadingBits_add (by decide) (by omega), hself _ (by omega)]
  · obtain ⟨low, high, hsequence, hlow, hhigh⟩ :=
      sequence?_three (n := c.toNat) (by omega) h3 (by omega)
    rw [decodeUtf8, if_neg (by omega), hsequence]
    simp only [finish_cons hlow hhigh, finish_cons_plain, finish_zero]
    rw [leadingBits_add (by decide) (by omega), hself _ (by omega)]
  · obtain ⟨low, high, hsequence, hlow, hhigh⟩ :=
      sequence?_four (n := c.toNat) (by omega) (by omega)
    rw [decodeUtf8, if_neg (by omega), hsequence]
    simp only [finish_cons hlow hhigh, finish_cons_plain, finish_zero]
    rw [leadingBits_add (by decide) (by omega), hself _ (by omega)]

theorem decodeUtf8_utf8Bytes (s : String) : decodeUtf8 (utf8Bytes s) = s.toList := by
  rw [utf8Bytes_eq]
  induction s.toList with
  | nil => simp [decodeUtf8]
  | cons c cs ih => rw [List.flatMap_cons, decodeUtf8_charBytes_append, ih]

theorem lt_of_mem_utf8Bytes {s : String} {b : Nat} (h : b ∈ utf8Bytes s) : b < 256 := by
  obtain ⟨byte, -, rfl⟩ := List.mem_map.1 h
  exact byte.toNat_lt

/-- Characters of one byte are their own codes. -/
theorem utf8Bytes_ofList {cs : List Char} (h : ∀ c ∈ cs, c.toNat < 0x80) :
    utf8Bytes (String.ofList cs) = cs.map Char.toNat := by
  rw [utf8Bytes_eq, String.toList_ofList]
  induction cs with
  | nil => rfl
  | cons c cs ih =>
    have hc : c.toNat < 0x80 := h c List.mem_cons_self
    rw [List.flatMap_cons, charBytes_eq, if_pos (by omega), List.map_cons,
      ih fun c' hc' => h c' (List.mem_cons_of_mem _ hc')]
    rfl

end Text

namespace ApiServer

open Text

/-! ## Encoded values -/

/-- A character of an encoded value. None of them has a meaning in a query. -/
structure Encoded (c : Char) : Prop where
  ascii : c.toNat < 0x80
  ne_ampersand : c ≠ '&'
  ne_equals : c ≠ '='
  ne_hash : c ≠ '#'
  isQueryChar : Target.isQueryChar c = true

instance (c : Char) : Decidable (Encoded c) :=
  decidable_of_iff (c.toNat < 0x80 ∧ c ≠ '&' ∧ c ≠ '=' ∧ c ≠ '#' ∧ Target.isQueryChar c = true)
    ⟨fun ⟨h1, h2, h3, h4, h5⟩ => ⟨h1, h2, h3, h4, h5⟩,
      fun ⟨h1, h2, h3, h4, h5⟩ => ⟨h1, h2, h3, h4, h5⟩⟩

theorem encoded_formByte {b : Nat} (hb : b < 256) {c : Char} (hc : c ∈ formByte b) : Encoded c := by
  have hall : ∀ b < 256, (formByte b).all (fun c => decide (Encoded c)) = true := by
    decide +kernel
  exact of_decide_eq_true (List.all_eq_true.1 (hall b hb) c hc)

theorem digitIn?_digitChar : ∀ n < 16, digitIn? 16 (Nat.digitChar n).toUpper = some n := by
  decide

/-- Two digits in base sixteen say the byte that they were written for. -/
theorem numeral?_byte {b : Nat} (hb : b < 256) :
    numeral? 16 [(Nat.digitChar (b / 16)).toUpper, (Nat.digitChar (b % 16)).toUpper] = some b := by
  have hhigh := digitIn?_digitChar (b / 16) (by omega)
  have hlow := digitIn?_digitChar (b % 16) (by omega)
  simp only [numeral?, List.foldl_cons, List.foldl_nil, hhigh, hlow, Option.bind_eq_bind,
    Option.bind_some, Option.pure_def, Option.some.injEq]
  omega

theorem plain_of_isFormByte : ∀ b < 256, isFormByte b = true →
    b ≠ 0x25 ∧ b ≠ 0x2B ∧ (Char.ofNat b).toNat = b := by
  decide +kernel

theorem formBytes_cons_of_ne {b : Nat} (h : b ≠ 0x25) (rest : List Nat) :
    formBytes (b :: rest) = (if b = 0x2B then 0x20 else b) :: formBytes rest := by
  rw [formBytes]
  rintro a c rest' heq
  exact absurd heq h

/-- What was written for a byte is read as that byte. -/
theorem formBytes_formByte {b : Nat} (hb : b < 256) (rest : List Nat) :
    formBytes ((formByte b).map Char.toNat ++ rest) = b :: formBytes rest := by
  unfold formByte
  split
  · next hplain =>
    obtain ⟨hpercent, hplus, hself⟩ := plain_of_isFormByte b hb hplain
    rw [List.map_singleton, hself, List.singleton_append, formBytes_cons_of_ne hpercent,
      if_neg hplus]
  · split
    · next hspace =>
      subst hspace
      exact formBytes_cons_of_ne (by decide) rest
    · simp only [List.map_cons, List.map_nil, List.cons_append, List.nil_append]
      show formBytes (0x25 :: _ :: _ :: rest) = _
      rw [formBytes, Char.ofNat_toNat, Char.ofNat_toNat, numeral?_byte hb]

theorem encoded_encodeForm (s : String) : ∀ c ∈ (encodeForm s).toList, Encoded c := by
  intro c hc
  rw [encodeForm, String.toList_ofList] at hc
  obtain ⟨b, hb, hc⟩ := List.mem_flatMap.1 hc
  exact encoded_formByte (lt_of_mem_utf8Bytes hb) hc

/-- An encoded value is read back. -/
theorem decodeForm_encodeForm (s : String) :
    decodeForm ((encodeForm s).toList.map Char.toNat) = s := by
  have hbytes : ∀ bytes : List Nat, (∀ b ∈ bytes, b < 256) →
      formBytes ((bytes.flatMap formByte).map Char.toNat) = bytes := by
    intro bytes hbound
    induction bytes with
    | nil => rfl
    | cons b bytes ih =>
      rw [List.flatMap_cons, List.map_append, formBytes_formByte (hbound b List.mem_cons_self),
        ih fun b' hb' => hbound b' (List.mem_cons_of_mem _ hb')]
  rw [decodeForm, encodeForm, String.toList_ofList,
    hbytes _ fun b hb => lt_of_mem_utf8Bytes hb, decodeUtf8_utf8Bytes, String.ofList_toList]

/-! ## Queries -/

/-- A parameter as it is written behind its `&`. -/
def written (param : String × String) : List Char :=
  (encodeForm param.1).toList ++ '=' :: (encodeForm param.2).toList

theorem formParts_of_notMem {bytes : List Nat} (h : 0x26 ∉ bytes) : formParts bytes = [bytes] := by
  induction bytes with
  | nil => rfl
  | cons b bytes ih =>
    rw [List.mem_cons, not_or] at h
    rw [formParts, if_neg (Ne.symm h.1), ih h.2]
    rfl

theorem formParts_append {bytes : List Nat} (h : 0x26 ∉ bytes) (rest : List Nat) :
    formParts (bytes ++ 0x26 :: rest) = bytes :: formParts rest := by
  induction bytes with
  | nil => simp [formParts]
  | cons b bytes ih =>
    rw [List.mem_cons, not_or] at h
    rw [List.cons_append, formParts, if_neg (Ne.symm h.1), ih h.2]
    rfl

/-- Parts that have no `&` are found between those put there. -/
theorem formParts_flatMap {parts : List (List Nat)} (hparts : ∀ part ∈ parts, 0x26 ∉ part) :
    formParts (parts.flatMap (0x26 :: ·)) = [] :: parts := by
  suffices h : ∀ front : List Nat, 0x26 ∉ front →
      formParts (front ++ parts.flatMap (0x26 :: ·)) = front :: parts from h [] (by simp)
  induction parts with
  | nil =>
    intro front hfront
    rw [List.flatMap_nil, List.append_nil, formParts_of_notMem hfront]
  | cons part parts ih =>
    intro front hfront
    rw [List.flatMap_cons, List.cons_append, formParts_append hfront,
      ih (fun p hp => hparts p (List.mem_cons_of_mem _ hp)) part (hparts part List.mem_cons_self)]

/-- A character of a written parameter. -/
theorem of_mem_written {param : String × String} {c : Char} (h : c ∈ written param) :
    Encoded c ∨ c = '=' := by
  rcases List.mem_append.1 h with h | h
  · exact .inl (encoded_encodeForm _ c h)
  · rcases List.mem_cons.1 h with rfl | h
    · exact .inr rfl
    · exact .inl (encoded_encodeForm _ c h)

/-- A parameter is parted at its first `=`, and there is none in its key. -/
theorem span_written (param : String × String) :
    ((written param).map Char.toNat).span (· ≠ 0x3D) =
      ((encodeForm param.1).toList.map Char.toNat,
        0x3D :: (encodeForm param.2).toList.map Char.toNat) := by
  have hkey : ∀ b ∈ (encodeForm param.1).toList.map Char.toNat, decide (b ≠ 0x3D) = true := by
    intro b hb
    obtain ⟨c, hc, rfl⟩ := List.mem_map.1 hb
    have hne : c ≠ '=' := (encoded_encodeForm _ c hc).ne_equals
    exact decide_eq_true fun hcode => hne (Char.toNat_inj.1 hcode)
  rw [written, List.map_append, List.span_eq_takeWhile_dropWhile,
    List.takeWhile_append_of_pos hkey, List.dropWhile_append_of_pos hkey]
  simp

theorem formPairs_written (params : List (String × String)) :
    formPairs ((params.flatMap fun param => '&' :: written param).map Char.toNat) = params := by
  have hjoined : (params.flatMap fun param => '&' :: written param).map Char.toNat =
      (params.map fun param => (written param).map Char.toNat).flatMap (0x26 :: ·) := by
    rw [List.map_flatMap, List.flatMap_map]
    rfl
  have hamp : ∀ part ∈ params.map fun param => (written param).map Char.toNat, 0x26 ∉ part := by
    intro part hpart hmem
    obtain ⟨param, -, rfl⟩ := List.mem_map.1 hpart
    obtain ⟨c, hc, hcode⟩ := List.mem_map.1 hmem
    obtain rfl : c = '&' := Char.toNat_inj.1 hcode
    rcases of_mem_written hc with hencoded | heq
    · exact hencoded.ne_ampersand rfl
    · exact absurd heq (by decide)
  have hne : ∀ part ∈ params.map fun param => (written param).map Char.toNat,
      decide (part ≠ []) = true := by
    intro part hpart
    obtain ⟨param, -, rfl⟩ := List.mem_map.1 hpart
    simp [written]
  rw [hjoined, formPairs, formParts_flatMap hamp, List.filter_cons_of_neg (by simp),
    List.filter_eq_self.2 hne, List.map_map]
  refine (List.map_congr_left fun param _ => ?_).trans (List.map_id params)
  simp only [Function.comp_apply, span_written, List.tail_cons, decodeForm_encodeForm, id]

/-! ## Targets -/

namespace Target

variable {path : String} {params : List (String × String)}

theorem toList_textOf (path : String) (params : List (String × String)) :
    (textOf path params).toList =
      path.toList ++ '?' :: params.flatMap fun param => '&' :: written param := by
  have hparam : ∀ param : String × String,
      ("&" ++ encodeForm param.1 ++ "=" ++ encodeForm param.2).toList = '&' :: written param := by
    intro param
    simp [written]
  rw [textOf, String.toList_append, String.toList_append, String.toList_join, List.flatMap_map]
  simp only [hparam]
  simp

/-- A path that a target holds: each of its characters may stand there, and none ends it. -/
def Whole (path : String) : Prop := ∀ c ∈ path.toList, isPathChar c = true ∧ c ≠ '?' ∧ c ≠ '#'

instance (path : String) : Decidable (Whole path) := List.decidableBAll _ path.toList

theorem span_whole (hpath : Whole path) (query : List Char) :
    (path.toList ++ '?' :: query).span (fun c => c ≠ '?' && c ≠ '#') =
      (path.toList, '?' :: query) := by
  have hstays : ∀ c ∈ path.toList, (c ≠ '?' && c ≠ '#') = true := by
    intro c hc
    obtain ⟨-, hquery, hhash⟩ := hpath c hc
    simp [hquery, hhash]
  rw [List.span_eq_takeWhile_dropWhile, List.takeWhile_append_of_pos hstays,
    List.dropWhile_append_of_pos hstays]
  simp

/-- What is asked for is what arrives. -/
theorem ofText?_textOf (hpath : Whole path) (hsize : (textOf path params).utf8ByteSize ≤ maxSize) :
    ofText? (textOf path params) = some { path, query := params } := by
  have hquery : ∀ c ∈ params.flatMap fun param => '&' :: written param,
      c.toNat < 0x80 ∧ c ≠ '#' ∧ isQueryChar c = true := by
    intro c hc
    obtain ⟨param, -, hc⟩ := List.mem_flatMap.1 hc
    rcases List.mem_cons.1 hc with rfl | hc
    · decide
    · rcases of_mem_written hc with hencoded | rfl
      · exact ⟨hencoded.ascii, hencoded.ne_hash, hencoded.isQueryChar⟩
      · decide
  have hcut : (params.flatMap fun param => '&' :: written param).takeWhile (· ≠ '#') =
      params.flatMap fun param => '&' :: written param := by
    refine List.takeWhile_eq_self_iff.2 fun c hc => ?_
    exact decide_eq_true (hquery c hc).2.1
  have hpathOk : path.toList.all isPathChar = true :=
    List.all_eq_true.2 fun c hc => (hpath c hc).1
  have hqueryOk : (params.flatMap fun param => '&' :: written param).all isQueryChar = true :=
    List.all_eq_true.2 fun c hc => (hquery c hc).2.2
  simp only [ofText?, toList_textOf, span_whole hpath, hcut, hpathOk, hqueryOk, guard, if_pos hsize]
  rw [utf8Bytes_ofList fun c hc => (hquery c hc).1, formPairs_written]
  simp

end Target

end ApiServer

end PolicyOperator
