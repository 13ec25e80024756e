import PolicyOperator.Proofs.Wire.Calendar

/-!
# The text of instants

`ofText?_toText`: the text of an instant is read back as that instant, without its fraction of a
second. It holds of the instants that can be written (`Writable`), and these are the ones that are
read (`writable_of_ofText?`): their year has a date, and a leap second comes last in its minute.
-/

namespace PolicyOperator

/-! ## Digits -/

namespace Text

theorem digit?_of_isDigit {c : Char} (h : c.isDigit) : digit? c = some (c.toNat - '0'.toNat) := by
  have hrange : '0' ≤ c ∧ c ≤ '9' := by
    simpa [Char.isDigit, Char.le_def, ge_iff_le] using h
  rw [digit?, if_pos hrange]

theorem digitIn?_ten {c : Char} (h : c.isDigit) :
    digitIn? 10 c = some (c.toNat - '0'.toNat) := by
  have hrange : '0' ≤ c ∧ c ≤ '9' := by
    simpa [Char.isDigit, Char.le_def, ge_iff_le] using h
  have hvalue : c.toNat - '0'.toNat < 10 := by
    have hle : c.toNat ≤ '9'.toNat := hrange.2
    have h9 : '9'.toNat = 57 := rfl
    have h0 : '0'.toNat = 48 := rfl
    omega
  simp only [digitIn?, hrange, and_self, if_true]
  exact Option.filter_some_pos (by simpa using hvalue)

theorem isBlank_of_isDigit {c : Char} (h : c.isDigit) : isBlank c = false := by
  have hrange : 48 ≤ c.toNat ∧ c.toNat ≤ 57 := by
    simpa [Char.isDigit, ge_iff_le, UInt32.le_iff_toNat_le] using h
  simp [isBlank]
  omega

theorem foldl_digits {cs : List Char} (h : ∀ c ∈ cs, c.isDigit) (acc : Nat) :
    cs.foldl (fun acc c => do return (← acc) * 10 + (← digitIn? 10 c)) (some acc) =
      some (Nat.ofDigitChars 10 cs acc) := by
  induction cs generalizing acc with
  | nil => rfl
  | cons c cs ih =>
    simp only [List.mem_cons, forall_eq_or_imp] at h
    rw [List.foldl_cons, Nat.ofDigitChars_cons, Nat.mul_comm 10 acc]
    simp only [digitIn?_ten h.1, Option.bind_eq_bind, Option.bind_some, Option.pure_def]
    exact ih h.2 _

theorem numeral?_digits {cs : List Char} (hne : cs ≠ []) (h : ∀ c ∈ cs, c.isDigit) :
    numeral? 10 cs = some (Nat.ofDigitChars 10 cs 0) := by
  rw [numeral?]
  · exact foldl_digits h 0
  · exact hne

theorem numeral?_lt {cs : List Char} {n : Nat} (h : numeral? 10 cs = some n) :
    n < 10 ^ cs.length := by
  have hfold : ∀ (cs : List Char) (acc : Option Nat) (k : Nat), (∀ m, acc = some m → m < 10 ^ k) →
      ∀ m, cs.foldl (fun acc c => do return (← acc) * 10 + (← digitIn? 10 c)) acc = some m →
        m < 10 ^ (k + cs.length) := by
    intro cs
    induction cs with
    | nil => exact fun acc k hacc m hm => hacc m hm
    | cons c cs ih =>
      intro acc k hacc m hm
      rw [List.length_cons, ← Nat.add_assoc, Nat.add_right_comm]
      refine ih _ (k + 1) (fun m' hm' => ?_) m hm
      simp only [Option.bind_eq_bind, Option.bind_eq_some_iff, Option.pure_def,
        Option.some.injEq] at hm'
      obtain ⟨a, ha, b, hb, rfl⟩ := hm'
      have hdigit : b < 10 := by
        simpa using (Option.filter_eq_some_iff.1 hb).2
      have hlt := hacc a ha
      rw [Nat.pow_succ]
      omega
  cases cs with
  | nil => cases h
  | cons c cs =>
    have := hfold (c :: cs) (some 0) 0 (by simp) n h
    simpa using this

theorem spanDigits_append {ds : List Char} {c : Char} {rest : List Char}
    (h : ∀ d ∈ ds, d.isDigit) (hc : digit? c = none) :
    spanDigits (ds ++ c :: rest) = (ds, c :: rest) := by
  rw [spanDigits, List.span_eq_takeWhile_dropWhile, List.takeWhile_append_of_pos,
    List.dropWhile_append_of_pos]
  · simp [hc]
  · exact fun d hd => by rw [digit?_of_isDigit (h d hd)]; rfl
  · exact fun d hd => by rw [digit?_of_isDigit (h d hd)]; rfl

theorem trimStart_cons {c : Char} {cs : List Char} (h : isBlank c = false) :
    trimStart (c :: cs) = c :: cs := by
  simp [trimStart, h]

theorem trimStart_digits {ds cs : List Char} (hne : ds ≠ []) (h : ∀ d ∈ ds, d.isDigit) :
    trimStart (ds ++ cs) = ds ++ cs := by
  cases ds with
  | nil => exact absurd rfl hne
  | cons d ds => exact trimStart_cons (isBlank_of_isDigit (h d List.mem_cons_self))

end Text

namespace Instant

/-! ## Numbers -/

theorem isDigit_of_mem_padded {width n : Nat} {c : Char} (h : c ∈ (padded width n).toList) :
    c.isDigit := by
  have hdigits : (toString n).toList = Nat.toDigits 10 n := Nat.toList_repr
  rw [padded, String.toList_append, String.toList_ofList, hdigits, List.mem_append] at h
  obtain h | h := h
  · rw [List.eq_of_mem_replicate h]
    rfl
  · exact Nat.isDigit_of_mem_toDigits (by omega) (by omega) h

theorem length_padded {width n : Nat} (h : n < 10 ^ width) (hwidth : 0 < width) :
    (padded width n).toList.length = width := by
  have hdigits : (toString n).toList = Nat.toDigits 10 n := Nat.toList_repr
  have hle : (toString n).length ≤ width := by
    rw [← String.length_toList, hdigits]
    exact (Nat.length_toDigits_le_iff (by omega) hwidth).2 h
  rw [padded, String.toList_append, String.toList_ofList, List.length_append,
    List.length_replicate, String.length_toList]
  omega

theorem padded_ne_nil {width n : Nat} : (padded width n).toList ≠ [] := by
  have hdigits : (toString n).toList = Nat.toDigits 10 n := Nat.toList_repr
  rw [padded, String.toList_append, hdigits]
  simp [Nat.toDigits_ne_nil]

variable {c : Char} {rest : List Char}

theorem readField_padded {width n : Nat} (h : n < 10 ^ width) (hwidth : 0 < width)
    (hc : Text.digit? c = none) :
    readField width ((padded width n).toList ++ c :: rest) = some (n, c :: rest) := by
  have hdigits : ∀ d ∈ (padded width n).toList, d.isDigit := fun d hd => isDigit_of_mem_padded hd
  have hlength := length_padded h hwidth
  simp [readField, Text.trimStart_digits padded_ne_nil hdigits,
    Text.spanDigits_append hdigits hc, List.take_of_length_le hlength.le,
    List.drop_of_length_le hlength.le, Text.numeral?_digits padded_ne_nil hdigits,
    ofDigitChars_padded]

theorem readMark_cons (h : Text.isBlank c = false) : readMark c (c :: rest) = some rest := by
  simp [readMark, Text.trimStart_cons h]

theorem readYear_yearText (year : Int) (hc : Text.digit? c = none) :
    readYear ((yearText year).toList ++ c :: rest) = some (year, c :: rest) := by
  have hminus : Text.isBlank '-' = false := by decide
  have hplus : Text.isBlank '+' = false := by decide
  have hall (n : Nat) : ∀ d ∈ (padded 4 n).toList, d.isDigit := fun d hd => isDigit_of_mem_padded hd
  by_cases hfour : 0 ≤ year ∧ year ≤ 9999
  · have hread : readField 4 ((padded 4 year.toNat).toList ++ c :: rest) =
        some (year.toNat, c :: rest) := readField_padded (by omega) (by omega) hc
    have hne : (padded 4 year.toNat).toList ≠ [] := padded_ne_nil
    rw [yearText, if_pos hfour, readYear, Text.trimStart_digits padded_ne_nil (hall _)]
    -- the first character is a digit, so no sign
    obtain ⟨d, ds, hds⟩ := List.exists_cons_of_ne_nil hne
    have hd : d.isDigit := hall year.toNat d (by simp [hds])
    split
    · next h => rw [hds] at h; cases h; cases hd
    · next h => rw [hds] at h; cases h; cases hd
    · simp [hread, hfour.1]
  · rw [yearText, if_neg hfour, readYear]
    by_cases hneg : year < 0
    · simp [hneg, Text.trimStart_cons hminus, Text.spanDigits_append (hall _) hc,
        Text.numeral?_digits padded_ne_nil (hall _), ofDigitChars_padded, abs_of_neg hneg]
    · simp [hneg, Text.trimStart_cons hplus, Text.spanDigits_append (hall _) hc,
        Text.numeral?_digits padded_ne_nil (hall _), ofDigitChars_padded, Int.le_of_not_gt hneg]

/-! ## Instants that can be written -/

/-- The instant lies in the years that are written, and only the last second of a minute is a leap
second. -/
structure Writable (t : Instant) : Prop where
  year : Date.hasYear (Date.ofDays (t.seconds / 86400)).year
  nanosecond : t.nanosecond < 2 * perSecond
  leap : perSecond ≤ t.nanosecond → t.seconds % 60 = 59

theorem readFraction_lt {cs rest : List Char} {n : Nat} (h : readFraction cs = some (n, rest)) :
    n < perSecond := by
  unfold readFraction at h
  split at h
  · next cs =>
    simp only [Option.bind_eq_bind, Option.bind_eq_some_iff, Option.pure_def] at h
    obtain ⟨-, -, value, hvalue, heq⟩ := h
    cases heq
    exact (Text.numeral?_lt hvalue).trans_le
      (Nat.pow_le_pow_right (by omega) (List.length_take_le _ _))
  · cases h
    decide

theorem readOffset_mod {cs rest : List Char} {offset : Int}
    (h : readOffset cs = some (offset, rest)) : offset % 60 = 0 := by
  unfold readOffset at h
  extract_lets signed at h
  have hsigned : ∀ sign cs, signed sign cs = some (offset, rest) → offset % 60 = 0 := by
    intro sign cs hs
    simp only [signed] at hs
    split at hs
    · obtain ⟨hours, -, hs⟩ := Option.bind_eq_some_iff.1 hs
      split at hs
      · obtain ⟨minutes, -, hs⟩ := Option.bind_eq_some_iff.1 hs
        obtain ⟨-, -, hs⟩ := Option.bind_eq_some_iff.1 hs
        cases hs
        rw [show (hours : Int) * 3600 + minutes * 60 = (hours * 60 + minutes) * 60 by ring,
          ← mul_assoc]
        exact Int.mul_emod_left _ _
      · cases hs
    · cases hs
  split at h
  · exact hsigned _ _ h
  · exact hsigned _ _ h
  · exact hsigned _ _ h
  · split at h
    · cases h
      rfl
    · split at h
      · split at h
        · cases h
          rfl
        · cases h
      · cases h
  · cases h

theorem writable_of_ofText? {s : String} {t : Instant} (h : ofText? s = some t) : t.Writable := by
  unfold ofText? at h
  obtain ⟨⟨year, cs⟩, -, h⟩ := Option.bind_eq_some_iff.1 h
  obtain ⟨cs, -, h⟩ := Option.bind_eq_some_iff.1 h
  obtain ⟨⟨month, cs⟩, -, h⟩ := Option.bind_eq_some_iff.1 h
  obtain ⟨cs, -, h⟩ := Option.bind_eq_some_iff.1 h
  obtain ⟨⟨day, cs⟩, -, h⟩ := Option.bind_eq_some_iff.1 h
  dsimp only at h
  split at h
  · split at h
    · obtain ⟨cs, -, h⟩ := Option.bind_eq_some_iff.1 h
      obtain ⟨⟨hour, cs⟩, -, h⟩ := Option.bind_eq_some_iff.1 h
      obtain ⟨cs, -, h⟩ := Option.bind_eq_some_iff.1 h
      obtain ⟨⟨minute, cs⟩, -, h⟩ := Option.bind_eq_some_iff.1 h
      obtain ⟨cs, -, h⟩ := Option.bind_eq_some_iff.1 h
      obtain ⟨⟨second, cs⟩, -, h⟩ := Option.bind_eq_some_iff.1 h
      obtain ⟨⟨fraction, cs⟩, hfraction, h⟩ := Option.bind_eq_some_iff.1 h
      obtain ⟨⟨offset, cs⟩, hoffset, h⟩ := Option.bind_eq_some_iff.1 h
      obtain ⟨-, -, h⟩ := Option.bind_eq_some_iff.1 h
      obtain ⟨-, -, h⟩ := Option.bind_eq_some_iff.1 h
      obtain ⟨_, hbounds, h⟩ := Option.bind_eq_some_iff.1 h
      obtain ⟨_, hyear, h⟩ := Option.bind_eq_some_iff.1 h
      have hlt := readFraction_lt hfraction
      have hmod := readOffset_mod hoffset
      rw [Option.guard_eq_some'] at hbounds hyear
      cases h
      refine ⟨hyear, ?_, fun hleap => ?_⟩
      · simp only [perSecond] at hlt ⊢
        omega
      · simp only [perSecond] at hlt hleap ⊢
        omega
    · cases h
  · cases h

/-! ## Texts that are written -/

@[simp] theorem toText_wholeSeconds (t : Instant) : t.wholeSeconds.toText = t.toText := by
  simp [toText, wholeSeconds, perSecond]

/-- The text of a day and a time of day in UTC is read field by field. -/
theorem ofText?_written {date : Date} {hour minute second : Nat} (hvalid : date.isValid)
    (hyear : Date.hasYear date.year) (hhour : hour < 24) (hminute : minute < 60)
    (hsecond : second ≤ 60)
    (hday : Date.hasYear (Date.ofDays ((date.toDays * 86400 + hour * 3600 + minute * 60 +
      (min second 59 : Nat)) / 86400)).year) :
    ofText? (yearText date.year ++ "-" ++ padded 2 date.month ++ "-" ++ padded 2 date.day ++ "T" ++
        padded 2 hour ++ ":" ++ padded 2 minute ++ ":" ++ padded 2 second ++ "Z") =
      some ⟨date.toDays * 86400 + hour * 3600 + minute * 60 + (min second 59 : Nat),
        (second - min second 59) * perSecond⟩ := by
  obtain ⟨hmonth, hdayOf⟩ := Date.two_digits_of_isValid hvalid
  have hdash : Text.digit? '-' = none ∧ Text.isBlank '-' = false := by decide
  have hcolon : Text.digit? ':' = none ∧ Text.isBlank ':' = false := by decide
  have hT : Text.digit? 'T' = none := by decide
  have hZ : Text.digit? 'Z' = none := by decide
  have hfraction : readFraction ['Z'] = some (0, ['Z']) := rfl
  have hoffset : readOffset (Text.trimStart ['Z']) = some (0, []) := by decide
  have htext : (yearText date.year ++ "-" ++ padded 2 date.month ++ "-" ++ padded 2 date.day ++
      "T" ++ padded 2 hour ++ ":" ++ padded 2 minute ++ ":" ++ padded 2 second ++ "Z").toList =
      (yearText date.year).toList ++ '-' :: ((padded 2 date.month).toList ++ '-' ::
        ((padded 2 date.day).toList ++ 'T' :: ((padded 2 hour).toList ++ ':' ::
          ((padded 2 minute).toList ++ ':' :: ((padded 2 second).toList ++ ['Z']))))) := by
    simp
  rw [ofText?, htext]
  refine Option.bind_eq_some_iff.2 ⟨_, readYear_yearText _ hdash.1, ?_⟩
  refine Option.bind_eq_some_iff.2 ⟨_, readMark_cons hdash.2, ?_⟩
  refine Option.bind_eq_some_iff.2 ⟨_, readField_padded hmonth two_pos hdash.1, ?_⟩
  refine Option.bind_eq_some_iff.2 ⟨_, readMark_cons hdash.2, ?_⟩
  refine Option.bind_eq_some_iff.2 ⟨_, readField_padded hdayOf two_pos hT, ?_⟩
  dsimp only
  rw [if_pos (.inl rfl)]
  refine Option.bind_eq_some_iff.2 ⟨_, rfl, ?_⟩
  refine Option.bind_eq_some_iff.2 ⟨_, readField_padded (by omega) two_pos hcolon.1, ?_⟩
  refine Option.bind_eq_some_iff.2 ⟨_, readMark_cons hcolon.2, ?_⟩
  refine Option.bind_eq_some_iff.2 ⟨_, readField_padded (by omega) two_pos hcolon.1, ?_⟩
  refine Option.bind_eq_some_iff.2 ⟨_, readMark_cons hcolon.2, ?_⟩
  refine Option.bind_eq_some_iff.2 ⟨_, readField_padded (by omega) two_pos hZ, ?_⟩
  refine Option.bind_eq_some_iff.2 ⟨_, hfraction, ?_⟩
  refine Option.bind_eq_some_iff.2 ⟨_, hoffset, ?_⟩
  refine Option.bind_eq_some_iff.2 ⟨(), rfl, ?_⟩
  refine Option.bind_eq_some_iff.2 ⟨(), by simp [hvalid, hyear], ?_⟩
  refine Option.bind_eq_some_iff.2 ⟨(), by simp [hhour, hminute, hsecond], ?_⟩
  refine Option.bind_eq_some_iff.2 ⟨(), by simpa using hday, ?_⟩
  simp

/-- An instant is read back from its text, without its fraction of a second. -/
theorem ofText?_toText {t : Instant} (h : t.Writable) : ofText? t.toText = some t.wholeSeconds := by
  have hdays := Date.toDays_ofDays (t.seconds / 86400)
  have hnano := h.nanosecond
  have hleap := h.leap
  simp only [perSecond] at hnano hleap
  -- a leap second is written as the second 60, and read as part of the second before
  have hsecond : min ((t.seconds % 86400).toNat % 60 + t.nanosecond / perSecond) 59 =
      (t.seconds % 86400).toNat % 60 := by
    simp only [perSecond]
    omega
  have hseconds : (Date.ofDays (t.seconds / 86400)).toDays * 86400 +
      ((t.seconds % 86400).toNat / 3600 : Nat) * 3600 +
      ((t.seconds % 86400).toNat / 60 % 60 : Nat) * 60 +
      (min ((t.seconds % 86400).toNat % 60 + t.nanosecond / perSecond) 59 : Nat) = t.seconds := by
    rw [hdays, hsecond]
    omega
  rw [toText, ofText?_written (Date.isValid_ofDays _) h.year (by omega) (by omega)
    (by simp only [perSecond]; omega) (by rw [hseconds]; exact h.year), hseconds, hsecond,
    Nat.add_sub_cancel_left]
  rfl

end Instant

end PolicyOperator
