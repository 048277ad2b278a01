/-
  WorkflowLint/Proofs/Json/Plain.lean
  ===================================
  **What is written is printable ASCII.**

  A value over several lines has no characters but line feeds and the characters from
  the space to the tilde, whatever characters its strings have (`plain_pretty`).  Each
  function that writes a part has a lemma of its own; a floating-point number is a text
  that was read as a number, and each function that reads a part of one has a lemma.
-/
import WorkflowLint.Proofs.Json.RoundTrip

namespace WorkflowLint

namespace Json

open JsonValue

/-- Whether a character is a line feed or printable ASCII, from the space to the tilde. -/
def IsPlain (c : Char) : Prop := c.toNat = 0x0A ∨ 0x20 ≤ c.toNat ∧ c.toNat ≤ 0x7E

instance (c : Char) : Decidable (IsPlain c) :=
  inferInstanceAs (Decidable (c.toNat = 0x0A ∨ 0x20 ≤ c.toNat ∧ c.toNat ≤ 0x7E))

/-- Whether a text has no characters but line feeds and printable ASCII. -/
def Plain (text : Text) : Prop := ∀ c ∈ text, IsPlain c

instance (text : Text) : Decidable (Plain text) := List.decidableBAll IsPlain text

theorem plain_nil : Plain [] := List.forall_mem_nil _

theorem Plain.append {front back : Text} (hfront : Plain front) (hback : Plain back) :
    Plain (front ++ back) := List.forall_mem_append.mpr ⟨hfront, hback⟩

theorem Plain.cons {c : Char} {text : Text} (h : Plain text) (hc : IsPlain c) :
    Plain (c :: text) := List.forall_mem_cons.mpr ⟨hc, h⟩

theorem plain_of_isDigit {text : Text} (h : ∀ c ∈ text, c.isDigit = true) : Plain text := by
  intro c hc
  have hdigit := h c hc
  rw [Char.isDigit, Bool.and_eq_true, decide_eq_true_eq, decide_eq_true_eq] at hdigit
  have hzero : '0'.toNat ≤ c.toNat := hdigit.1
  have hnine : c.toNat ≤ '9'.toNat := hdigit.2
  exact .inr ⟨Nat.le_trans (by decide) hzero, Nat.le_trans hnine (by decide)⟩

/-! ### Strings -/

theorem isPlain_digitChar : ∀ digit < 16, IsPlain digit.digitChar := by decide

theorem plain_escapeUnit {unit : Nat} (h : unit < 0x10000) : Plain (escapeUnit unit) := by
  have hplain {digit : Nat} (hlt : digit < 16) : IsPlain digit.digitChar :=
    isPlain_digitChar digit hlt
  rw [escapeUnit, hex_four h]
  refine Plain.append (by decide) ?_
  exact (((plain_nil.cons (hplain (by omega))).cons (hplain (by omega))).cons
    (hplain (by omega))).cons (hplain (by omega))

theorem plain_escapeChar (c : Char) : Plain (escapeChar c) := by
  have hvalid : c.toNat < 0xD800 ∨ 0xDFFF < c.toNat ∧ c.toNat < 0x110000 := c.valid
  rw [escapeChar]
  -- the characters that have an escape of their own
  iterate 7
    split
    · decide
  split
  · rename_i hprintable
    exact List.forall_mem_singleton.mpr (.inr hprintable)
  split
  · rename_i hlt
    exact plain_escapeUnit hlt
  · exact (plain_escapeUnit (by omega)).append (plain_escapeUnit (by omega))

theorem plain_quote (text : Text) : Plain (quote text) := by
  have hcharacters : Plain (text.flatMap escapeChar) := by
    intro c hc
    obtain ⟨d, -, hd⟩ := List.mem_flatMap.mp hc
    exact plain_escapeChar d c hd
  exact (hcharacters.cons (by decide)).append (by decide)

/-! ### Numbers -/

theorem plain_ofNat (n : Nat) : Plain (Text.ofNat n) :=
  plain_of_isDigit fun _ => isDigit_of_mem_ofNat

theorem plain_ofInt (value : Int) : Plain (Text.ofInt value) := by
  cases value with
  | ofNat n => exact plain_ofNat n
  | negSucc n => exact (plain_ofNat (n + 1)).cons (by decide)

theorem plain_of_sign {text : Text} (h : Plain (sign text).2) : Plain text := by
  cases text with
  | nil => exact plain_nil
  | cons c text =>
    by_cases hc : c = '-'
    · rw [hc] at h ⊢
      exact Plain.cons h (by decide)
    · rwa [sign_of_ne hc] at h

theorem plain_of_exponentSign {text : Text} (h : Plain (exponentSign text).2) : Plain text := by
  rw [exponentSign.eq_def] at h
  split at h
  · exact Plain.cons h (by decide)
  · exact plain_of_sign h

theorem plain_of_digits? {text digits rest : Text} (h : digits? text = some (digits, rest))
    (hrest : Plain rest) : Plain text := by
  obtain ⟨rfl, -, hdigits, -⟩ := of_digits? h
  exact (plain_of_isDigit hdigits).append hrest

theorem plain_of_fraction? {text digits rest : Text} (h : fraction? text = some (digits, rest))
    (hrest : Plain rest) : Plain text := by
  rw [fraction?.eq_def] at h
  split at h
  · exact (plain_of_digits? h hrest).cons (by decide)
  · cases h
    exact hrest

theorem plain_of_exponent? {text rest : Text} {exponent : Int}
    (h : exponent? text = some (exponent, rest)) (hrest : Plain rest) : Plain text := by
  cases text with
  | nil => exact plain_nil
  | cons c text =>
    rw [exponent?] at h
    split at h
    · rename_i hc
      obtain ⟨⟨digits, after⟩, hdigits, heq⟩ := Option.map_eq_some_iff.mp h
      cases heq
      have htext := plain_of_exponentSign (plain_of_digits? hdigits hrest)
      rcases hc with rfl | rfl <;> exact htext.cons (by decide)
    · cases h
      exact hrest

/-- A text that is read as a number is printable. -/
theorem plain_of_number? {text : Text} {number : JsonValue}
    (h : number? text = some (number, [])) : Plain text := by
  obtain ⟨whole, afterWhole, fraction, afterFraction, exponent, hwhole, hfraction, hexponent,
    -⟩ := exists_of_number? h
  rw [whole?, Option.filter_eq_some_iff] at hwhole
  have hlast := plain_of_exponent? hexponent plain_nil
  exact plain_of_sign (plain_of_digits? hwhole.1 (plain_of_fraction? hfraction hlast))

/-! ### Values -/

theorem plain_newline (level : Nat) : Plain (newline level) := by
  have hspaces : Plain (List.replicate (2 * level) ' ') := by
    intro c hc
    rw [List.eq_of_mem_replicate hc]
    decide
  exact hspaces.cons (by decide)

theorem plain_prettyItems {items : List Json} {level : Nat}
    (h : ∀ item ∈ items, Plain (pretty level item)) : Plain (prettyItems level items) := by
  induction items with
  | nil => exact plain_nil
  | cons item items ih =>
    obtain ⟨hitem, hitems⟩ := List.forall_mem_cons.mp h
    exact (((plain_newline level).cons (by decide)).append hitem).append (ih hitems)

theorem plain_prettyMembers {members : List (Text × Json)} {level : Nat}
    (h : ∀ member ∈ members, Plain (pretty level member.2)) :
    Plain (prettyMembers level members) := by
  induction members with
  | nil => exact plain_nil
  | cons member members ih =>
    obtain ⟨hmember, hmembers⟩ := List.forall_mem_cons.mp h
    have hkey := ((plain_newline level).cons (by decide : IsPlain ',')).append
      (plain_quote member.1)
    exact ((hkey.append (by decide)).append hmember).append (ih hmembers)

/-- A value over several lines is printable ASCII. -/
theorem plain_pretty {json : Json} (hjson : Numeric json) (level : Nat) :
    Plain (pretty level json) := by
  induction hjson generalizing level with
  | null => exact (by decide : Plain "null")
  | bool value =>
    cases value with
    | true => exact (by decide : Plain "true")
    | false => exact (by decide : Plain "false")
  | int value => exact plain_ofInt value
  | float hfloat => exact plain_of_number? hfloat
  | str value => exact plain_quote value
  | @array items _ ih =>
    cases items with
    | nil => exact (by decide : Plain "[]")
    | cons item items =>
      obtain ⟨hitem, hitems⟩ := List.forall_mem_cons.mp ih
      have hrest := plain_prettyItems fun other hother => hitems other hother (level + 1)
      have hopen := ((plain_newline (level + 1)).cons (by decide : IsPlain '[')).append
        (hitem (level + 1))
      exact ((hopen.append hrest).append (plain_newline level)).append (by decide)
  | @object members _ ih =>
    cases members with
    | nil => exact (by decide : Plain ['{', '}'])
    | cons member members =>
      obtain ⟨hmember, hmembers⟩ := List.forall_mem_cons.mp ih
      have hrest := plain_prettyMembers fun other hother => hmembers other hother (level + 1)
      have hkey := ((plain_newline (level + 1)).cons (by decide : IsPlain '{')).append
        (plain_quote member.1)
      have hopen := (hkey.append (by decide : Plain ": ")).append (hmember (level + 1))
      exact ((hopen.append hrest).append (plain_newline level)).append (by decide)

end Json

end WorkflowLint
