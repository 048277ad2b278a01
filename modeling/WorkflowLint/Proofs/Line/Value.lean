/-
  WorkflowLint/Proofs/Line/Value.lean
  ===================================
  **Reading a value that was written.**

  A text that needs no quotes, `true`, `false` and a number in decimal digits are
  read back as what was written.  The predicates of this file say which texts
  these are and which keys can be written in front of them; each of them can be
  decided.
-/
import WorkflowLint.Proofs.Line.Comment
import WorkflowLint.Proofs.Line.Pair

namespace WorkflowLint.Line

open Text (isBlank allBlank Tight)

/-! ### Texts that can be written without quotes -/

/-- A text that stands on a line as it is: it is trimmed and not empty, and has no line
    feed, hash sign or quote. -/
def IsPlainText (text : Text) : Prop :=
  text ≠ [] ∧ Text.trim text = text ∧ ∀ c ∈ text, c ≠ '\n' ∧ c ≠ '#' ∧ isQuote c = false

/-- A plain text that denotes itself after a key. -/
def IsString (text : Text) : Prop :=
  IsPlainText text ∧ isBlockIndicator text = false ∧ text ≠ "true" ∧ text ≠ "false" ∧
    ∃ c ∈ text, Text.isDigit c = false

/-- A text without a colon that a blank follows or that ends the text. -/
def HoldsNoPair (text : Text) : Prop :=
  ∀ front rest, text = front ++ ':' :: rest → startsBlank rest = false

/-- A key that can be written without quotes. -/
def IsKey (key : Text) : Prop :=
  key ≠ [] ∧ ∀ c ∈ key, isBlank c = false ∧ isQuote c = false ∧ c ≠ '#' ∧ c ≠ ':'

theorem cutAtColon?_eq_none_iff {text : Text} : cutAtColon? text = none ↔ HoldsNoPair text := by
  constructor
  · intro h front rest htext
    subst htext
    induction front with
    | nil =>
      rw [List.nil_append, cutAtColon?] at h
      split at h
      · cases h
      · rename_i hcolon
        simpa using hcolon
    | cons c front ih =>
      rw [List.cons_append, cutAtColon?] at h
      split at h
      · cases h
      · exact ih (Option.map_eq_none_iff.mp h)
  · intro h
    induction text with
    | nil => rfl
    | cons c text ih =>
      have hc : ¬(c = ':' ∧ startsBlank text = true) := by
        rintro ⟨rfl, hblank⟩
        rw [h [] text rfl] at hblank
        cases hblank
      have htail : HoldsNoPair text := fun front rest htext =>
        h (c :: front) rest (by rw [htext, List.cons_append])
      rw [cutAtColon?, if_neg hc, ih htail]
      rfl

-- the characters of a text are gone through, not all characters there are
instance (text : Text) : Decidable (IsPlainText text) :=
  have := List.decidableBAll (fun c => c ≠ '\n' ∧ c ≠ '#' ∧ isQuote c = false) text
  inferInstanceAs (Decidable (_ ∧ _))

instance (text : Text) : Decidable (IsString text) :=
  have := List.decidableBEx (fun c => Text.isDigit c = false) text
  inferInstanceAs (Decidable (_ ∧ _))

instance (text : Text) : Decidable (HoldsNoPair text) :=
  decidable_of_iff _ cutAtColon?_eq_none_iff

instance (key : Text) : Decidable (IsKey key) :=
  have := List.decidableBAll
    (fun c => isBlank c = false ∧ isQuote c = false ∧ c ≠ '#' ∧ c ≠ ':') key
  inferInstanceAs (Decidable (_ ∧ _))

/-! ### What a line can hold -/

/-- A text that is read from a line as it was written. -/
structure IsContent (text : Text) : Prop where
  ne_nil : text ≠ []
  tight : Tight text
  plain : ∀ c ∈ text, c ≠ '\n' ∧ c ≠ '#'

theorem IsPlainText.isContent {text : Text} (h : IsPlainText text) : IsContent text :=
  ⟨h.1, Text.trim_eq_self_iff.mp h.2.1, fun c hc => ⟨(h.2.2 c hc).1, (h.2.2 c hc).2.1⟩⟩

theorem IsPlainText.head {text : Text} (h : IsPlainText text) :
    ∀ c, text.head? = some c → isQuote c = false :=
  fun c hc => (h.2.2 c (List.mem_of_head? hc)).2.2

theorem IsContent.hash {text : Text} (h : IsContent text) : '#' ∉ text :=
  fun hmem => (h.plain '#' hmem).2 rfl

theorem IsContent.feed {text : Text} (h : IsContent text) : '\n' ∉ text :=
  fun hmem => (h.plain '\n' hmem).1 rfl

theorem IsContent.trim_space {text : Text} (h : IsContent text) :
    Text.trim (' ' :: text) = text := by
  have hblank : allBlank [' '] = true := rfl
  exact (Text.trim_append_left hblank text).trans h.tight.trim_eq

theorem IsContent.blankWidth_space {text : Text} (h : IsContent text) :
    Text.blankWidth (' ' :: text) = 1 := by
  have hblank : allBlank [' '] = true := rfl
  exact Text.blankWidth_append hblank h.tight.1

/-- A text without blanks and hash signs is content. -/
theorem isContent_of_forall {text : Text} (hne : text ≠ [])
    (h : ∀ c ∈ text, isBlank c = false ∧ c ≠ '#') : IsContent text := by
  refine ⟨hne, ⟨?_, ?_⟩, ?_⟩
  · intro c hc
    exact (h c (List.mem_of_head? hc)).1
  · intro c hc
    exact (h c (List.mem_of_getLast? hc)).1
  · intro c hc
    refine ⟨?_, (h c hc).2⟩
    rintro rfl
    exact absurd (h '\n' hc).1 (by decide)

/-- More content may follow characters that are neither a line feed nor a hash sign. -/
theorem IsContent.prepend {text front : Text} (h : IsContent text)
    (hhead : ∀ c, front.head? = some c → isBlank c = false)
    (hplain : ∀ c ∈ front, c ≠ '\n' ∧ c ≠ '#') : IsContent (front ++ text) := by
  refine ⟨by simp [h.ne_nil], ⟨?_, ?_⟩, ?_⟩
  · intro c hc
    rw [List.head?_append] at hc
    cases hfront : front.head? with
    | none => exact h.tight.1 c (by simpa [hfront] using hc)
    | some d => exact hhead c (by simpa [hfront] using hc)
  · intro c hc
    rw [List.getLast?_append, List.getLast?_eq_some_getLast h.ne_nil, Option.some_or] at hc
    exact h.tight.2 c (by rw [List.getLast?_eq_some_getLast h.ne_nil, hc])
  · intro c hc
    rcases List.mem_append.mp hc with hfront | htext
    · exact hplain c hfront
    · exact h.plain c htext

/-! ### Reading scalars -/

theorem mapM_eq_none {α β : Type} {f : α → Option β} {list : List α}
    (h : ∃ x ∈ list, f x = none) : list.mapM f = none := by
  induction list with
  | nil => simp at h
  | cons x rest ih =>
    obtain ⟨y, hy, hnone⟩ := h
    rw [List.mapM_cons]
    cases hx : f x with
    | none => rfl
    | some value =>
      rcases List.mem_cons.mp hy with rfl | hrest
      · rw [hnone] at hx
        cases hx
      · rw [ih ⟨y, hrest, hnone⟩]
        rfl

theorem digits?_eq_none {text : Text} (hfeed : '\n' ∉ text)
    (h : ∃ c ∈ text, Text.isDigit c = false) : digits? text = none := by
  have hlast : text.getLast? ≠ some '\n' := fun hlast => hfeed (List.mem_of_getLast? hlast)
  have hnone : ∃ c ∈ text, Text.digitValue? c = none := by
    obtain ⟨c, hc, hdigit⟩ := h
    exact ⟨c, hc, by simpa [Text.isDigit] using hdigit⟩
  rw [digits?]
  simp only [if_neg hlast, mapM_eq_none hnone, ite_self]

/-- A row of decimal digits has a value for each of them. -/
theorem exists_mapM_digitValue? {text : Text} (h : ∀ c ∈ text, Text.isDigit c = true) :
    ∃ values, text.mapM Text.digitValue? = some values ∧ values.length = text.length := by
  induction text with
  | nil => exact ⟨[], rfl, rfl⟩
  | cons c rest ih =>
    obtain ⟨value, hfirst⟩ := Option.isSome_iff_exists.mp (h c (List.mem_cons_self ..))
    obtain ⟨values, hrest, hlength⟩ := ih fun d hd => h d (List.mem_cons_of_mem _ hd)
    refine ⟨value :: values, ?_, by simp [hlength]⟩
    rw [List.mapM_cons, hfirst, hrest]
    rfl

theorem digits?_eq_some {text : Text} (hne : text ≠ []) (hfeed : '\n' ∉ text) {values : List Nat}
    (hvalues : text.mapM Text.digitValue? = some values) : digits? text = some values := by
  have hlast : text.getLast? ≠ some '\n' := fun hlast => hfeed (List.mem_of_getLast? hlast)
  have hempty : text.isEmpty = false := by simp [hne]
  rw [digits?]
  simp only [if_neg hlast, hempty, Bool.false_eq_true, if_false, hvalues]

theorem IsString.readScalar_eq {text : Text} (h : IsString text) :
    readScalar text = .ok (.str text) := by
  obtain ⟨hplain, -, htrue, hfalse, hdigit⟩ := h
  rw [readScalar, hplain.2.1, stripQuotes_of_head hplain.head]
  simp only [if_neg htrue, if_neg hfalse, digits?_eq_none hplain.isContent.feed hdigit]

theorem readValue_of_readScalar {text : Text} {scalar : Scalar} (hne : text ≠ [])
    (hindicator : isBlockIndicator text = false) (h : readScalar text = .ok scalar) :
    readValue text = .ok (.scalar scalar) := by
  rw [readValue, if_neg (by simpa using hne), hindicator, h]
  rfl

theorem IsString.readValue_eq {text : Text} (h : IsString text) :
    readValue text = .ok (.scalar (.str text)) :=
  readValue_of_readScalar h.1.1 h.2.1 h.readScalar_eq

/-! ### Reading numbers -/

theorem digitValue?_digitChar : ∀ digit < 10, Text.digitValue? digit.digitChar = some digit := by
  decide

/-- The digits of a number are read as digits, and they denote it. -/
theorem mapM_digitValue?_ofNat (n : Nat) : ∃ values, (Text.ofNat n).mapM Text.digitValue? =
    some values ∧ Text.ofDigitValues values = n ∧ values.length = (Text.ofNat n).length := by
  induction n using Nat.strongRecOn with
  | ind n ih =>
    rw [Text.ofNat, Nat.toDigits_eq_if (by decide)]
    split
    · rename_i hlt
      refine ⟨[n], ?_, by simp [Text.ofDigitValues], rfl⟩
      rw [List.mapM_cons, digitValue?_digitChar n hlt]
      rfl
    · rename_i hle
      obtain ⟨values, hvalues, hnumber, hlength⟩ := ih (n / 10) (by omega)
      rw [Text.ofNat] at hvalues hlength
      refine ⟨values ++ [n % 10], ?_, ?_, by simp [hlength]⟩
      · rw [List.mapM_append, hvalues, List.mapM_cons,
          digitValue?_digitChar (n % 10) (Nat.mod_lt n (by decide))]
        rfl
      · rw [Text.ofDigitValues, List.foldl_append]
        rw [Text.ofDigitValues] at hnumber
        rw [hnumber, List.foldl_cons, List.foldl_nil]
        omega

theorem isBlank_of_isDigit {c : Char} (h : c.isDigit = true) : isBlank c = false := by
  have hrange : ∀ code < 58, 48 ≤ code → Text.inRanges code Text.blankRanges = false := by decide
  simp only [Char.isDigit, Bool.and_eq_true, decide_eq_true_eq] at h
  have hlower : 48 ≤ c.toNat := UInt32.le_iff_toNat_le.mp h.1
  have hupper : c.toNat ≤ 57 := UInt32.le_iff_toNat_le.mp h.2
  exact hrange c.toNat (by omega) hlower

/-- A row of digits. -/
def IsDigits (text : Text) : Prop := text ≠ [] ∧ ∀ c ∈ text, c.isDigit = true

theorem isDigits_ofNat (n : Nat) : IsDigits (Text.ofNat n) :=
  ⟨Nat.toDigits_ne_nil, fun _ h => Nat.isDigit_of_mem_toDigits (by decide) (by decide) h⟩

section IsDigits

variable {text : Text} (h : IsDigits text)

include h

theorem IsDigits.ne_of_mem {c d : Char} (hc : c ∈ text) (hd : d.isDigit = false) : c ≠ d := by
  rintro rfl
  rw [h.2 c hc] at hd
  cases hd

theorem IsDigits.isContent : IsContent text :=
  isContent_of_forall h.1 fun c hc => ⟨isBlank_of_isDigit (h.2 c hc), h.ne_of_mem hc (by decide)⟩

theorem IsDigits.isBlockIndicator_eq : isBlockIndicator text = false := by
  cases htext : text with
  | nil => rfl
  | cons c rest =>
    have hmem : c ∈ text := by rw [htext]; exact List.mem_cons_self ..
    simp [isBlockIndicator, h.ne_of_mem hmem (d := '|') (by decide),
      h.ne_of_mem hmem (d := '>') (by decide)]

/-- A row of digits is read as their number, unless it is too long. -/
theorem IsDigits.readScalar_eq {values : List Nat}
    (hvalues : text.mapM Text.digitValue? = some values) :
    readScalar text =
      if values.length ≤ digitLimit then .ok (.int (Text.ofDigitValues values))
      else .error (.tooManyDigits values.length) := by
  have hquote : ∀ c, text.head? = some c → isQuote c = false := by
    intro c hc
    have hmem := List.mem_of_head? hc
    simp [isQuote, h.ne_of_mem hmem (d := '"') (by decide),
      h.ne_of_mem hmem (d := '\'') (by decide)]
  have hword : ∀ word : Text, word.any (fun c => !c.isDigit) = true → text ≠ word := by
    rintro word hany rfl
    obtain ⟨c, hc, hdigit⟩ := List.any_eq_true.mp hany
    exact h.ne_of_mem hc (by simpa using hdigit) rfl
  have hdigits : digits? text = some values := digits?_eq_some h.1 h.isContent.feed hvalues
  rw [readScalar, h.isContent.tight.trim_eq, stripQuotes_of_head hquote]
  simp only [if_neg (hword "true" (by decide)), if_neg (hword "false" (by decide)), hdigits]

theorem IsDigits.isDigit {c : Char} (hc : c ∈ text) : Text.isDigit c = true := by
  have hdigit := h.2 c hc
  have hrange : ∀ code < 58, 48 ≤ code → Text.isDigit (Char.ofNat code) = true := by decide
  simp only [Char.isDigit, Bool.and_eq_true, decide_eq_true_eq] at hdigit
  have hlower : 48 ≤ c.toNat := UInt32.le_iff_toNat_le.mp hdigit.1
  have hupper : c.toNat ≤ 57 := UInt32.le_iff_toNat_le.mp hdigit.2
  rw [← Char.ofNat_toNat c]
  exact hrange c.toNat (by omega) hlower

/-- A number of too many digits is refused. -/
theorem IsDigits.readValue_long (hlong : digitLimit < text.length) :
    readValue text = .error (.tooManyDigits text.length) := by
  obtain ⟨values, hvalues, hlength⟩ := exists_mapM_digitValue? fun _ hc => h.isDigit hc
  rw [readValue, List.isEmpty_eq_false_iff.mpr h.1, if_neg Bool.false_ne_true,
    h.isBlockIndicator_eq, if_neg Bool.false_ne_true, h.readScalar_eq hvalues, hlength,
    if_neg (Nat.not_le.mpr hlong)]
  rfl

end IsDigits

/-- A number of not too many digits is read as what it is. -/
theorem readValue_ofNat {n : Nat} (h : (Text.ofNat n).length ≤ digitLimit) :
    readValue (Text.ofNat n) = .ok (.scalar (.int n)) := by
  obtain ⟨values, hvalues, hnumber, hlength⟩ := mapM_digitValue?_ofNat n
  have hdigits := isDigits_ofNat n
  apply readValue_of_readScalar hdigits.1 hdigits.isBlockIndicator_eq
  rw [hdigits.readScalar_eq hvalues, hlength, if_pos h, hnumber]

/-! ### Block indicators -/

theorem of_mem_isBlockHeader {header : Text} (h : isBlockHeader header = true) :
    ∀ c ∈ header, isChompSign c = true ∨ isIndentDigit c = true := by
  match header, h with
  | [], _ => simp
  | [c], h => simpa [isBlockHeader] using h
  | [c, d], h =>
    simp only [isBlockHeader, Bool.or_eq_true, Bool.and_eq_true] at h
    intro e he
    rw [List.mem_cons, List.mem_singleton] at he
    rcases he with rfl | rfl
    · exact h.imp And.left And.left
    · exact (h.imp And.right And.right).symm

theorem of_mem_isBlockIndicator {text : Text} (h : isBlockIndicator text = true) :
    ∀ c ∈ text, isBlank c = false ∧ c ≠ '#' := by
  cases text with
  | nil => cases h
  | cons c header =>
    simp only [isBlockIndicator, Bool.and_eq_true, Bool.or_eq_true, beq_iff_eq] at h
    intro d hd
    rcases List.mem_cons.mp hd with rfl | hheader
    · rcases h.1 with rfl | rfl <;> decide
    · rcases of_mem_isBlockHeader h.2 d hheader with hsign | hdigit
      · simp only [isChompSign, Bool.or_eq_true, beq_iff_eq] at hsign
        rcases hsign with rfl | rfl <;> decide
      · have hnumeral : d.isDigit = true := by
          simp only [isIndentDigit, Bool.and_eq_true, decide_eq_true_eq] at hdigit
          simp only [Char.isDigit, Bool.and_eq_true, decide_eq_true_eq]
          exact ⟨Nat.le_trans (by decide) hdigit.1, hdigit.2⟩
        refine ⟨isBlank_of_isDigit hnumeral, ?_⟩
        rintro rfl
        cases hnumeral

theorem isContent_of_isBlockIndicator {text : Text} (h : isBlockIndicator text = true) :
    IsContent text := by
  refine isContent_of_forall ?_ (of_mem_isBlockIndicator h)
  rintro rfl
  cases h

theorem readValue_of_isBlockIndicator {text : Text} (h : isBlockIndicator text = true) :
    readValue text = .ok .block := by
  rw [readValue, if_neg (by simpa using (isContent_of_isBlockIndicator h).ne_nil), if_pos h]

/-! ### Pairs -/

/-- A pair as it is written; a missing value leaves nothing behind the colon. -/
def pairText (key value : Text) : Text :=
  key ++ ':' :: if value.isEmpty then [] else ' ' :: value

theorem IsKey.isContent {key : Text} (h : IsKey key) : IsContent key :=
  isContent_of_forall h.1 fun c hc => ⟨(h.2 c hc).1, (h.2 c hc).2.2.1⟩

theorem IsKey.head {key : Text} (h : IsKey key) : ∀ c, key.head? = some c → isQuote c = false :=
  fun c hc => (h.2 c (List.mem_of_head? hc)).2.1

theorem IsKey.colon {key : Text} (h : IsKey key) : ':' ∉ key :=
  fun hmem => (h.2 ':' hmem).2.2.2 rfl

variable {key value : Text}

theorem isContent_pairText (hkey : IsKey key) (hvalue : value = [] ∨ IsContent value) :
    IsContent (pairText key value) := by
  have hcolon : IsContent (':' :: if value.isEmpty then [] else ' ' :: value) := by
    rcases hvalue with rfl | hvalue
    · exact isContent_of_forall (List.cons_ne_nil _ _) (Text.forall_mem_of_all (by decide))
    · rw [if_neg (by simpa using hvalue.ne_nil)]
      have hhead : ∀ c, [':', ' '].head? = some c → isBlank c = false := by
        rintro c ⟨⟩
        rfl
      exact hvalue.prepend hhead (Text.forall_mem_of_all (by decide))
  exact hcolon.prepend hkey.isContent.tight.1 hkey.isContent.plain

/-- A written pair is read as the pair. -/
theorem splitPair_pairText (hkey : IsKey key) (hvalue : value = [] ∨ IsContent value) :
    splitPair (pairText key value) = some (key, value) := by
  have hrest : startsBlank (if value.isEmpty then [] else ' ' :: value) = true := by
    split <;> rfl
  have htrim : Text.trim (if value.isEmpty then [] else ' ' :: value) = value := by
    rcases hvalue with rfl | hvalue
    · rfl
    · rw [if_neg (by simpa using hvalue.ne_nil)]
      exact hvalue.trim_space
  rw [pairText, splitPair_append hkey.1 hkey.colon hkey.head hrest, htrim,
    hkey.isContent.tight.trim_eq, stripQuotes_of_head hkey.head]

end WorkflowLint.Line
