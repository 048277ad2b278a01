/-
  WorkflowLint/Proofs/Json/Token.lean
  ===================================
  **What is written between brackets is decoded.**

  Digits, characters, strings and numbers are read one after the other as they were
  written, each up to what follows it.  A string ends at its own quote, whatever
  characters it has (`string?_flatMap`), and a number ends where no character can
  belong to a number (`number?_ofInt`, `number?_append`).
-/
import WorkflowLint.Json.Basic
import WorkflowLint.Proofs.Json.Decode
import WorkflowLint.Proofs.Text.Trim

namespace WorkflowLint

namespace Json

open JsonValue

/-! ### Digits -/

/-- A number in at least `width` digits of a base. -/
def padded (base width n : Nat) : Text :=
  List.replicate (width - (Nat.toDigits base n).length) '0' ++ Nat.toDigits base n

theorem padded_one {base n : Nat} (h : n < base) : padded base 1 n = [n.digitChar] := by
  rw [padded, Nat.toDigits_of_lt_base h]
  rfl

/-- The last digit, and those before it. -/
theorem padded_succ {base width : Nat} (hbase : 1 < base) (hwidth : 0 < width) (n : Nat) :
    padded base (width + 1) n = padded base width (n / base) ++ [(n % base).digitChar] := by
  by_cases hlt : n < base
  · obtain ⟨width, rfl⟩ := Nat.exists_eq_succ_of_ne_zero (Nat.ne_of_gt hwidth)
    rw [padded, padded, Nat.toDigits_of_lt_base hlt, Nat.div_eq_of_lt hlt, Nat.toDigits_zero,
      Nat.mod_eq_of_lt hlt, List.length_singleton, List.length_singleton, Nat.succ_eq_add_one,
      Nat.add_sub_cancel, Nat.add_sub_cancel, ← List.replicate_succ']
  · rw [padded, padded, Nat.toDigits_of_base_le hbase (Nat.le_of_not_lt hlt), List.length_append,
      List.length_singleton, Nat.add_sub_add_right, List.append_assoc]

/-- The four hexadecimal digits of a UTF-16 unit. -/
theorem hex_four {unit : Nat} (h : unit < 0x10000) :
    hex 4 unit = [(unit / 16 / 16 / 16).digitChar, (unit / 16 / 16 % 16).digitChar,
      (unit / 16 % 16).digitChar, (unit % 16).digitChar] := by
  have hpadded : hex 4 unit = padded 16 4 unit := rfl
  rw [hpadded, padded_succ (by decide) (by decide), padded_succ (by decide) (by decide),
    padded_succ (by decide) (by decide), padded_one (by omega)]
  rfl

theorem hexValue?_digitChar : ∀ digit < 16, hexValue? digit.digitChar = some digit := by
  decide

/-! ### Characters -/

theorem unit?_hex {unit : Nat} (h : unit < 0x10000) (rest : Text) :
    unit? (hex 4 unit ++ rest) = some (unit, rest) := by
  rw [hex_four h]
  simp only [List.cons_append, List.nil_append, unit?]
  rw [hexValue?_digitChar _ (by omega), hexValue?_digitChar _ (by omega),
    hexValue?_digitChar _ (by omega), hexValue?_digitChar _ (by omega)]
  simp only [Option.some_inj, Prod.mk.injEq, and_true]
  omega

theorem escapeUnit_append (unit : Nat) (rest : Text) :
    escapeUnit unit ++ rest = '\\' :: 'u' :: (hex 4 unit ++ rest) := rfl

theorem lowHalf?_escapeUnit {unit : Nat} (hlow : 0xDC00 ≤ unit) (hhigh : unit ≤ 0xDFFF)
    (rest : Text) : lowHalf? (escapeUnit unit ++ rest) = some (unit, rest) := by
  rw [escapeUnit_append, lowHalf?, unit?_hex (by omega)]
  simp [hlow, hhigh]

/-- The escape of one unit is read as the character with its number. -/
theorem unicode?_of_lt {c : Char} (h : c.toNat < 0x10000) (rest : Text) :
    unicode? (hex 4 c.toNat ++ rest) = some (c, rest) := by
  have hvalid : c.toNat < 0xD800 ∨ 0xDFFF < c.toNat ∧ c.toNat < 0x110000 := c.valid
  rw [unicode?, unit?_hex h]
  simp only
  rw [if_neg (by omega), if_neg (by omega), Char.ofNat_toNat]

/-- Two halves are read as one character. -/
theorem unicode?_halves {text rest after : Text} {high low : Nat}
    (hhigh : unit? text = some (high, rest)) (hlow : lowHalf? rest = some (low, after))
    (hrange : 0xD800 ≤ high ∧ high ≤ 0xDBFF) :
    unicode? text =
      some (Char.ofNat (0x10000 + (high - 0xD800) * 0x400 + (low - 0xDC00)), after) := by
  rw [unicode?, hhigh]
  simp only
  rw [if_pos hrange, hlow, Option.map_some]

/-- The escapes of two halves are read as the character that was halved. -/
theorem unicode?_of_le {c : Char} (h : 0x10000 ≤ c.toNat) {high low : Nat}
    (hhigh : high = 0xD800 + (c.toNat - 0x10000) / 0x400)
    (hlow : low = 0xDC00 + (c.toNat - 0x10000) % 0x400) (rest : Text) :
    unicode? (hex 4 high ++ (escapeUnit low ++ rest)) = some (c, rest) := by
  have hvalid : c.toNat < 0xD800 ∨ 0xDFFF < c.toNat ∧ c.toNat < 0x110000 := c.valid
  have hjoin : 0x10000 + (high - 0xD800) * 0x400 + (low - 0xDC00) = c.toNat := by omega
  rw [unicode?_halves (unit?_hex (by omega) _) (lowHalf?_escapeUnit (by omega) (by omega) rest)
    ⟨by omega, by omega⟩, hjoin, Char.ofNat_toNat]

/-! ### Strings -/

/-- An escape is read as its character. -/
theorem characters?_escape {steps : Nat} {c : Char} {text rest : Text}
    (h : escape? text = some (c, rest)) :
    characters? (steps + 1) ('\\' :: text) =
      (characters? steps rest).map fun (text, rest) => (c :: text, rest) := by
  rw [characters?, if_neg (by decide), if_pos rfl, h, Option.bind_some]

theorem characters?_unicode {steps : Nat} {c : Char} {text rest : Text}
    (h : unicode? text = some (c, rest)) :
    characters? (steps + 1) ('\\' :: 'u' :: text) =
      (characters? steps rest).map fun (text, rest) => (c :: text, rest) :=
  characters?_escape h

/-- A character is read as it was written. -/
theorem characters?_escapeChar (steps : Nat) (c : Char) (rest : Text) :
    characters? (steps + 1) (escapeChar c ++ rest) =
      (characters? steps rest).map fun (text, rest) => (c :: text, rest) := by
  rw [escapeChar]
  -- the characters that have an escape of their own
  iterate 7
    split
    · rename_i h
      rw [h]
      exact characters?_escape rfl
  rename_i hquote hbackslash _ _ _ _ _
  split
  · rename_i hprintable
    rw [List.singleton_append, characters?, if_neg hquote, if_neg hbackslash,
      if_neg (Char.not_lt.mpr hprintable.1)]
  split
  · rename_i hlt
    rw [escapeUnit_append]
    exact characters?_unicode (unicode?_of_lt hlt rest)
  · rename_i hle
    rw [List.append_assoc, escapeUnit_append]
    exact characters?_unicode (unicode?_of_le (Nat.le_of_not_lt hle) rfl rfl rest)

theorem escapeChar_ne_nil (c : Char) : escapeChar c ≠ [] := by
  rw [escapeChar]
  iterate 7
    split
    · exact List.cons_ne_nil _ _
  split
  · exact List.cons_ne_nil _ _
  split <;> exact List.cons_ne_nil _ _

/-- No character is written as nothing. -/
theorem length_le_flatMap_escapeChar (text : Text) :
    text.length ≤ (text.flatMap escapeChar).length := by
  induction text with
  | nil => exact Nat.le_refl 0
  | cons c rest ih =>
    have hpos := List.length_pos_iff.mpr (escapeChar_ne_nil c)
    rw [List.flatMap_cons, List.length_append, List.length_cons]
    omega

theorem characters?_flatMap {steps : Nat} {text : Text} (h : text.length < steps) (rest : Text) :
    characters? steps (text.flatMap escapeChar ++ '"' :: rest) = some (text, rest) := by
  induction text generalizing steps with
  | nil =>
    obtain ⟨steps, rfl⟩ := Nat.exists_eq_succ_of_ne_zero (Nat.ne_of_gt h)
    rw [List.flatMap_nil, List.nil_append, characters?, if_pos rfl]
  | cons c text ih =>
    obtain ⟨steps, rfl⟩ := Nat.exists_eq_succ_of_ne_zero (Nat.ne_zero_of_lt h)
    rw [List.flatMap_cons, List.append_assoc, characters?_escapeChar,
      ih (Nat.lt_of_succ_lt_succ h), Option.map_some]

/-- A quoted string is read up to its last quote. -/
theorem string?_flatMap (text rest : Text) :
    string? (text.flatMap escapeChar ++ '"' :: rest) = some (text, rest) := by
  have hle := length_le_flatMap_escapeChar text
  refine characters?_flatMap ?_ rest
  rw [List.length_append, List.length_cons]
  omega

/-! ### Numbers -/

/-- Whether a text does not go on with a character that could belong to a number. -/
def EndsNumber (rest : Text) : Prop :=
  ∀ c, rest.head? = some c → c.isDigit = false ∧ c ≠ '.' ∧ c ≠ 'e' ∧ c ≠ 'E'

theorem digits?_append {digits rest : Text} (hne : digits ≠ [])
    (hdigits : ∀ c ∈ digits, c.isDigit = true)
    (hrest : ∀ c, rest.head? = some c → c.isDigit = false) :
    digits? (digits ++ rest) = some (digits, rest) := by
  have htake : rest.takeWhile Char.isDigit = [] := by
    cases rest with
    | nil => rfl
    | cons c rest => rw [List.takeWhile_cons, hrest c rfl, if_neg Bool.false_ne_true]
  have hdrop : rest.dropWhile Char.isDigit = rest := by
    cases rest with
    | nil => rfl
    | cons c rest => rw [List.dropWhile_cons, hrest c rfl, if_neg Bool.false_ne_true]
  rw [digits?, List.takeWhile_append_of_pos hdigits, List.dropWhile_append_of_pos hdigits, htake,
    hdrop, List.append_nil]
  exact if_neg (by simpa using hne)

theorem isDigit_of_mem_ofNat {n : Nat} {c : Char} (h : c ∈ Text.ofNat n) : c.isDigit = true :=
  Nat.isDigit_of_mem_toDigits (by decide) (by decide) h

/-- A number that is not zero does not start with a zero. -/
theorem head?_ofNat {n : Nat} (h : 0 < n) : (Text.ofNat n).head? ≠ some '0' := by
  induction n using Nat.strongRecOn with
  | ind n ih =>
    rw [Text.ofNat, Nat.toDigits_eq_if (by decide)]
    split
    · simp [Nat.ne_of_gt h]
    · have hlater := ih (n / 10) (by omega) (by omega)
      rw [Text.ofNat] at hlater
      rwa [List.head?_append, Option.or_of_isSome (List.isSome_head?.mpr Nat.toDigits_ne_nil)]

theorem whole?_ofNat (n : Nat) {rest : Text}
    (hrest : ∀ c, rest.head? = some c → c.isDigit = false) :
    whole? (Text.ofNat n ++ rest) = some (Text.ofNat n, rest) := by
  have hne : Text.ofNat n ≠ [] := Nat.toDigits_ne_nil
  rw [whole?, digits?_append hne (fun c => isDigit_of_mem_ofNat) hrest, Option.filter_some]
  refine if_pos ?_
  cases n with
  | zero => rfl
  | succ n => simp [head?_ofNat]

theorem sign_of_ne {c : Char} (hc : c ≠ '-') (text : Text) :
    sign (c :: text) = (false, c :: text) := by
  rw [sign]
  rintro _ heq
  exact hc (List.cons.inj heq).1

theorem sign_ofNat (n : Nat) (rest : Text) :
    sign (Text.ofNat n ++ rest) = (false, Text.ofNat n ++ rest) := by
  cases hdigits : Text.ofNat n with
  | nil => exact absurd hdigits Nat.toDigits_ne_nil
  | cons c digits =>
    have hc : c.isDigit = true := isDigit_of_mem_ofNat (hdigits ▸ List.mem_cons_self ..)
    have hne : c ≠ '-' := by
      rintro rfl
      exact absurd hc (by decide)
    rw [List.cons_append, sign_of_ne hne]

theorem exponent?_of_endsNumber {rest : Text} (h : EndsNumber rest) :
    exponent? rest = some (0, rest) := by
  cases rest with
  | nil => rfl
  | cons c rest =>
    obtain ⟨-, -, he, hE⟩ := h c rfl
    rw [exponent?, if_neg (by simp [he, hE])]

theorem fraction?_of_endsNumber {rest : Text} (h : EndsNumber rest) :
    fraction? rest = some ([], rest) := by
  rw [fraction?]
  rintro after rfl
  exact (h '.' rfl).2.1 rfl

/-- Digits behind a sign are read as a number without a fraction. -/
theorem number?_eq {text rest : Text} {negative : Bool} {n : Nat}
    (hsign : sign text = (negative, Text.ofNat n ++ rest)) (h : EndsNumber rest) :
    number? text = some (.number negative n 0, rest) := by
  have hrest : ∀ c, rest.head? = some c → c.isDigit = false := fun c hc => (h c hc).1
  have hdigits : Nat.ofDigitChars 10 (Text.ofNat n ++ []) 0 = n := by
    rw [List.append_nil, Text.ofNat, Nat.ofDigitChars_ten_toDigits]
  rw [number?, hsign, whole?_ofNat n hrest, Option.bind_some]
  simp only [fraction?_of_endsNumber h, Option.bind_some, exponent?_of_endsNumber h,
    Option.map_some, hdigits]
  rfl

/-- An integer as it is decoded. -/
def intValue (value : Int) : JsonValue := .number (decide (value < 0)) value.natAbs 0

/-- An integer is read as it was written. -/
theorem number?_ofInt (value : Int) {rest : Text} (h : EndsNumber rest) :
    number? (Text.ofInt value ++ rest) = some (intValue value, rest) := by
  cases value with
  | ofNat n =>
    have hvalue : intValue (Int.ofNat n) = .number false n 0 := by
      have hsign : decide (Int.ofNat n < 0) = false :=
        decide_eq_false (Int.not_lt.mpr (Int.natCast_nonneg n))
      rw [intValue, hsign]
      rfl
    rw [hvalue]
    exact number?_eq (sign_ofNat n rest) h
  | negSucc n =>
    have hvalue : intValue (Int.negSucc n) = .number true (n + 1) 0 := by
      rw [intValue, decide_eq_true (Int.negSucc_lt_zero n)]
      rfl
    rw [hvalue]
    have hsign : sign ('-' :: (Text.ofNat (n + 1) ++ rest)) =
        (true, Text.ofNat (n + 1) ++ rest) := rfl
    exact number?_eq hsign h

/-! ### Numbers of any form -/

section Readers

variable {text rest digits after : Text}

theorem of_digits? (h : digits? text = some (digits, after)) :
    text = digits ++ after ∧ digits ≠ [] ∧ (∀ c ∈ digits, c.isDigit = true) ∧
      ∀ c, after.head? = some c → c.isDigit = false := by
  rw [digits?] at h
  split at h
  · cases h
  · rename_i hempty
    cases h
    refine ⟨(List.takeWhile_append_dropWhile ..).symm, by simpa using hempty, ?_, ?_⟩
    · exact List.all_eq_true.mp (List.all_takeWhile ..)
    · intro c hc
      have hnot := List.head?_dropWhile_not Char.isDigit text
      rw [hc] at hnot
      simpa using hnot

/-- A sign is read alike whatever follows. -/
theorem sign_append (h : text ≠ []) (rest : Text) :
    sign (text ++ rest) = ((sign text).1, (sign text).2 ++ rest) := by
  cases text with
  | nil => exact absurd rfl h
  | cons c text =>
    by_cases hc : c = '-'
    · rw [hc]
      rfl
    · rw [List.cons_append, sign_of_ne hc, sign_of_ne hc, List.cons_append]

theorem exponentSign_append (h : text ≠ []) (rest : Text) :
    exponentSign (text ++ rest) = ((exponentSign text).1, (exponentSign text).2 ++ rest) := by
  cases text with
  | nil => exact absurd rfl h
  | cons c text =>
    by_cases hc : c = '+'
    · rw [hc]
      rfl
    · have hsign (other : Text) : exponentSign (c :: other) = sign (c :: other) := by
        rw [exponentSign]
        rintro _ heq
        exact hc (List.cons.inj heq).1
      rw [List.cons_append, hsign, hsign, ← List.cons_append, sign_append h]

variable (hrest : EndsNumber rest)

include hrest

/-- Digits are read alike before a text that does not go on with a number. -/
theorem digits?_append_endsNumber (h : digits? text = some (digits, after)) :
    digits? (text ++ rest) = some (digits, after ++ rest) := by
  obtain ⟨rfl, hne, hdigits, hafter⟩ := of_digits? h
  rw [List.append_assoc]
  refine digits?_append hne hdigits fun c hc => ?_
  cases after with
  | nil => exact (hrest c hc).1
  | cons d after => exact hafter c hc

theorem whole?_append (h : whole? text = some (digits, after)) :
    whole? (text ++ rest) = some (digits, after ++ rest) := by
  rw [whole?, Option.filter_eq_some_iff] at h ⊢
  exact ⟨digits?_append_endsNumber hrest h.1, h.2⟩

theorem fraction?_append (h : fraction? text = some (digits, after)) :
    fraction? (text ++ rest) = some (digits, after ++ rest) := by
  cases text with
  | nil =>
    cases h
    exact fraction?_of_endsNumber hrest
  | cons c text =>
    by_cases hc : c = '.'
    · rw [hc] at h ⊢
      exact digits?_append_endsNumber hrest h
    · have hnone (other : Text) : fraction? (c :: other) = some ([], c :: other) := by
        rw [fraction?]
        rintro _ heq
        exact hc (List.cons.inj heq).1
      rw [hnone] at h
      cases h
      exact hnone (text ++ rest)

theorem exponent?_append {exponent : Int} (h : exponent? text = some (exponent, after)) :
    exponent? (text ++ rest) = some (exponent, after ++ rest) := by
  cases text with
  | nil =>
    cases h
    exact exponent?_of_endsNumber hrest
  | cons c text =>
    rw [List.cons_append, exponent?]
    rw [exponent?] at h
    split at h
    · rename_i hc
      rw [if_pos hc]
      obtain ⟨⟨digits, behind⟩, hdigits, heq⟩ := Option.map_eq_some_iff.mp h
      cases heq
      have hne : text ≠ [] := by
        rintro rfl
        cases hdigits
      rw [exponentSign_append hne, digits?_append_endsNumber hrest hdigits]
      rfl
    · rename_i hc
      rw [if_neg hc]
      cases h
      rfl

end Readers

/-- A number is read in its parts. -/
theorem exists_of_number? {text rest : Text} {number : JsonValue}
    (h : number? text = some (number, rest)) :
    ∃ whole afterWhole fraction afterFraction exponent,
      whole? (sign text).2 = some (whole, afterWhole) ∧
      fraction? afterWhole = some (fraction, afterFraction) ∧
      exponent? afterFraction = some (exponent, rest) ∧
      number = .number (sign text).1 (Nat.ofDigitChars 10 (whole ++ fraction) 0)
        (exponent - fraction.length) := by
  obtain ⟨⟨whole, afterWhole⟩, hwhole, h⟩ := Option.bind_eq_some_iff.mp h
  obtain ⟨⟨fraction, afterFraction⟩, hfraction, h⟩ := Option.bind_eq_some_iff.mp h
  obtain ⟨⟨exponent, behind⟩, hexponent, h⟩ := Option.map_eq_some_iff.mp h
  cases h
  exact ⟨whole, afterWhole, fraction, afterFraction, exponent, hwhole, hfraction, hexponent, rfl⟩

/-- A number starts with a digit or a sign. -/
theorem exists_cons_of_number? {text rest : Text} {number : JsonValue}
    (h : number? text = some (number, rest)) :
    ∃ c more, text = c :: more ∧ (c.isDigit = true ∨ c = '-') := by
  obtain ⟨whole, _, _, _, _, hwhole, -⟩ := exists_of_number? h
  rw [whole?, Option.filter_eq_some_iff] at hwhole
  obtain ⟨htext, hne, hdigits, -⟩ := of_digits? hwhole.1
  cases text with
  | nil => exact absurd (List.nil_eq_append_iff.mp htext).1 hne
  | cons c more =>
    refine ⟨c, more, rfl, ?_⟩
    by_cases hc : c = '-'
    · exact Or.inr hc
    · rw [sign_of_ne hc] at htext
      cases whole with
      | nil => exact absurd rfl hne
      | cons d whole =>
        rw [(List.cons.inj htext).1]
        exact Or.inl (hdigits d (List.mem_cons_self ..))

/-- A whole number is read alike before a text that does not go on with it. -/
theorem number?_append {text rest : Text} {number : JsonValue}
    (h : number? text = some (number, [])) (hrest : EndsNumber rest) :
    number? (text ++ rest) = some (number, rest) := by
  obtain ⟨c, more, htext, -⟩ := exists_cons_of_number? h
  have hne : text ≠ [] := htext ▸ List.cons_ne_nil c more
  obtain ⟨whole, afterWhole, fraction, afterFraction, exponent, hwhole, hfraction, hexponent,
    rfl⟩ := exists_of_number? h
  rw [number?, sign_append hne, whole?_append hrest hwhole, Option.bind_some]
  simp only [fraction?_append hrest hfraction, Option.bind_some,
    exponent?_append hrest hexponent, Option.map_some, List.nil_append]

end Json

end WorkflowLint
