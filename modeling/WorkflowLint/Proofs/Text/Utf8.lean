/-
  WorkflowLint/Proofs/Text/Utf8.lean
  ==================================
  **Stored texts are read back.**

  Decoding undoes encoding (`decode_encode`): the lead octet of a code point tells
  how many octets follow, and each of them adds six bits to those before.  A stored
  text loses its first character when it is read only if that character looks like a
  byte order mark (`decodeMarked_encode`).
-/
import WorkflowLint.Text.Utf8

namespace WorkflowLint.Utf8

/-! ### Octets -/

theorem toNat_octet {n : Nat} (h : n < 256) : (octet n).toNat = n := by
  rw [octet, UInt8.toNat_ofNat']
  exact Nat.mod_eq_of_lt h

theorem toNat_continuation (n : Nat) : (continuation n).toNat = 0x80 + n % 0x40 :=
  toNat_octet (by omega)

section

variable {low high start : Nat} (position code : Nat) (rest : Octets)

/-! ### Continuation octets -/

/-- The last octet of a code point completes it. -/
theorem decodeFrom_last (hlow : low ≤ 0x80 + code % 0x40) (hhigh : 0x80 + code % 0x40 ≤ high) :
    decodeFrom position (some ⟨1, low, high, code / 0x40, start⟩) (continuation code :: rest) =
      (decodeFrom (position + 1) none rest).map fun text => Char.ofNat code :: text := by
  have hbits : code / 0x40 * 0x40 + (0x80 + code % 0x40) % 0x40 = code := by omega
  rw [decodeFrom, toNat_continuation, if_pos ⟨hlow, hhigh⟩, if_pos rfl]
  simp only [hbits]

/-- Any other octet adds its bits to those before it. -/
theorem decodeFrom_continuation {owed : Nat} (howed : owed ≠ 0) (hlow : low ≤ 0x80 + code % 0x40)
    (hhigh : 0x80 + code % 0x40 ≤ high) :
    decodeFrom position (some ⟨owed + 1, low, high, code / 0x40, start⟩)
        (continuation code :: rest) =
      decodeFrom (position + 1) (some ⟨owed, 0x80, 0xBF, code, start⟩) rest := by
  have hbits : code / 0x40 * 0x40 + (0x80 + code % 0x40) % 0x40 = code := by omega
  rw [decodeFrom, toNat_continuation, if_pos ⟨hlow, hhigh⟩, if_neg (by simpa using howed)]
  simp only [hbits, Nat.add_sub_cancel]

theorem decodeFrom_last_two (hlow : low ≤ 0x80 + code / 0x40 % 0x40)
    (hhigh : 0x80 + code / 0x40 % 0x40 ≤ high) :
    decodeFrom position (some ⟨2, low, high, code / 0x1000, start⟩)
        (continuation (code / 0x40) :: continuation code :: rest) =
      (decodeFrom (position + 2) none rest).map fun text => Char.ofNat code :: text := by
  rw [show code / 0x1000 = code / 0x40 / 0x40 by omega,
    decodeFrom_continuation _ _ _ Nat.one_ne_zero hlow hhigh,
    decodeFrom_last _ _ _ (by omega) (by omega)]

theorem decodeFrom_last_three (hlow : low ≤ 0x80 + code / 0x1000 % 0x40)
    (hhigh : 0x80 + code / 0x1000 % 0x40 ≤ high) :
    decodeFrom position (some ⟨3, low, high, code / 0x40000, start⟩)
        (continuation (code / 0x1000) :: continuation (code / 0x40) :: continuation code :: rest) =
      (decodeFrom (position + 3) none rest).map fun text => Char.ofNat code :: text := by
  rw [show code / 0x40000 = code / 0x1000 / 0x40 by omega,
    decodeFrom_continuation _ _ _ (Nat.succ_ne_zero 1) hlow hhigh,
    decodeFrom_last_two _ _ _ (by omega) (by omega)]

/-! ### Lead octets -/

/-- An octet that starts a code point of several octets goes on as the pending character says. -/
theorem decodeFrom_lead {lead : Nat} {pending : Pending} (hlarge : 0x80 ≤ lead)
    (hsmall : lead < 256) (hpending : pendingAfter? position lead = some pending) :
    decodeFrom position none (octet lead :: rest) =
      decodeFrom (position + 1) (some pending) rest := by
  rw [decodeFrom, toNat_octet hsmall, if_neg (Nat.not_lt.mpr hlarge), hpending]

/-- The lead of three octets keeps out overlong forms and surrogates. -/
theorem exists_pendingAfter?_three (hlow : 0x800 ≤ code) (hhigh : code < 0x10000)
    (hvalid : code < 0xD800 ∨ 0xDFFF < code) :
    ∃ low high, pendingAfter? position (0xE0 + code / 0x1000) =
        some ⟨2, low, high, code / 0x1000, position⟩ ∧
      low ≤ 0x80 + code / 0x40 % 0x40 ∧ 0x80 + code / 0x40 % 0x40 ≤ high := by
  rw [pendingAfter?, if_neg (by omega)]
  by_cases hfirst : code / 0x1000 = 0
  · refine ⟨0xA0, 0xBF, ?_, by omega, by omega⟩
    rw [hfirst, if_pos rfl]
  · rw [if_neg (by omega)]
    by_cases hsurrogate : code / 0x1000 = 0xD
    · refine ⟨0x80, 0x9F, ?_, by omega, by omega⟩
      rw [hsurrogate, if_pos rfl]
    · refine ⟨0x80, 0xBF, ?_, by omega, by omega⟩
      rw [if_neg (by omega), if_pos (by omega), Nat.add_sub_cancel_left]

/-- The lead of four octets keeps out overlong forms and code points above U+10FFFF. -/
theorem exists_pendingAfter?_four (hlow : 0x10000 ≤ code) (hhigh : code < 0x110000) :
    ∃ low high, pendingAfter? position (0xF0 + code / 0x40000) =
        some ⟨3, low, high, code / 0x40000, position⟩ ∧
      low ≤ 0x80 + code / 0x1000 % 0x40 ∧ 0x80 + code / 0x1000 % 0x40 ≤ high := by
  rw [pendingAfter?, if_neg (by omega), if_neg (by omega), if_neg (by omega), if_neg (by omega)]
  by_cases hfirst : code / 0x40000 = 0
  · refine ⟨0x90, 0xBF, ?_, by omega, by omega⟩
    rw [hfirst, if_pos rfl]
  · rw [if_neg (by omega)]
    by_cases hlast : code / 0x40000 = 4
    · refine ⟨0x80, 0x8F, ?_, by omega, by omega⟩
      rw [hlast, if_neg (by decide), if_pos rfl]
    · refine ⟨0x80, 0xBF, ?_, by omega, by omega⟩
      rw [if_pos (by omega), Nat.add_sub_cancel_left]

/-! ### Code points -/

/-- A code point that was encoded is decoded first, and then what follows it. -/
theorem decodeFrom_encodeCode (hvalid : code.isValidChar) :
    decodeFrom position none (encodeCode code ++ rest) =
      (decodeFrom (position + (encodeCode code).length) none rest).map
        fun text => Char.ofNat code :: text := by
  have hrange : code < 0xD800 ∨ 0xDFFF < code ∧ code < 0x110000 := hvalid
  rw [encodeCode]
  by_cases hone : code < 0x80
  · rw [if_pos hone, List.singleton_append, decodeFrom, toNat_octet (by omega), if_pos hone]
    rfl
  · rw [if_neg hone]
    by_cases htwo : code < 0x800
    · have hpending : pendingAfter? position (0xC0 + code / 0x40) =
          some ⟨1, 0x80, 0xBF, code / 0x40, position⟩ := by
        rw [pendingAfter?, if_pos (by omega), Nat.add_sub_cancel_left]
      rw [if_pos htwo]
      simp only [List.cons_append, List.nil_append]
      rw [decodeFrom_lead _ _ (by omega) (by omega) hpending,
        decodeFrom_last _ _ _ (by omega) (by omega)]
      rfl
    · rw [if_neg htwo]
      by_cases hthree : code < 0x10000
      · obtain ⟨low, high, hpending, hlow, hhigh⟩ :=
          exists_pendingAfter?_three position code (by omega) hthree (by omega)
        rw [if_pos hthree]
        simp only [List.cons_append, List.nil_append]
        rw [decodeFrom_lead _ _ (by omega) (by omega) hpending,
          decodeFrom_last_two _ _ _ hlow hhigh]
        rfl
      · obtain ⟨low, high, hpending, hlow, hhigh⟩ :=
          exists_pendingAfter?_four position code (by omega) (by omega)
        rw [if_neg hthree]
        simp only [List.cons_append, List.nil_append]
        rw [decodeFrom_lead _ _ (by omega) (by omega) hpending,
          decodeFrom_last_three _ _ _ hlow hhigh]
        rfl

end

/-! ### Texts -/

theorem decodeFrom_encode (position : Nat) (text : Text) :
    decodeFrom position none (encode text) = .ok text := by
  induction text generalizing position with
  | nil => rfl
  | cons c rest ih =>
    have hencode : encode (c :: rest) = encodeCode c.toNat ++ encode rest := List.flatMap_cons
    have hvalid : c.toNat.isValidChar := c.valid
    rw [hencode, decodeFrom_encodeCode position _ _ hvalid, ih, Char.ofNat_toNat]
    rfl

/-- Decoding undoes encoding. -/
theorem decode_encode (text : Text) : decode (encode text) = .ok text := decodeFrom_encode 0 text

theorem encode_inj {text other : Text} (h : encode text = encode other) : text = other := by
  have hdecode := decode_encode text
  rw [h, decode_encode] at hdecode
  exact (Except.ok.inj hdecode).symm

/-- Octets that start with the mark are a text that starts with its character. -/
theorem head?_of_decode_mark {rest : Octets} {text : Text}
    (hdecode : decode (byteOrderMark ++ rest) = .ok text) : text.head? = some '\uFEFF' := by
  have hmark : decode (byteOrderMark ++ rest) =
      (decodeFrom 3 none rest).map fun text => '\uFEFF' :: text :=
    decodeFrom_encodeCode 0 0xFEFF rest (by decide)
  rw [hmark] at hdecode
  cases hrest : decodeFrom 3 none rest with
  | error error =>
    rw [hrest] at hdecode
    cases hdecode
  | ok others =>
    rw [hrest] at hdecode
    cases hdecode
    rfl

/-- Octets that only start a mark are no characters, and the mark is one. -/
theorem head?_of_decode_markStart {octets : Octets} {text : Text} (h : octets <+: byteOrderMark)
    (hne : octets ≠ []) (hdecode : decode octets = .ok text) : text.head? = some '\uFEFF' := by
  simp only [byteOrderMark, List.prefix_cons_iff, List.prefix_nil] at h
  rcases h with rfl | ⟨_, rfl, rfl | ⟨_, rfl, rfl | ⟨_, rfl, rfl⟩⟩⟩
  · exact absurd rfl hne
  · cases hdecode
  · cases hdecode
  · exact head?_of_decode_mark hdecode

/-- A text that does not start with the character of the mark is read as it was stored. -/
theorem decodeMarked_encode {text : Text} (h : text.head? ≠ some '\uFEFF') :
    decodeMarked (encode text) = .ok text := by
  have hdecode := decode_encode text
  rw [decodeMarked]
  split
  · rename_i hstart
    by_cases hnil : encode text = []
    · rw [hnil] at hdecode
      exact hdecode
    · exact absurd (head?_of_decode_markStart (List.isPrefixOf_iff_prefix.mp hstart) hnil hdecode) h
  · split
    · rename_i hstart
      obtain ⟨rest, hrest⟩ := List.isPrefixOf_iff_prefix.mp hstart
      rw [← hrest] at hdecode
      exact absurd (head?_of_decode_mark hdecode) h
    · exact hdecode

/-! ### Line ends -/

/-- A text without carriage returns has the line ends that it is read with. -/
theorem normalizeLineEnds_of_not_mem {text : Text} (h : '\r' ∉ text) :
    normalizeLineEnds text = text := by
  induction text with
  | nil => rfl
  | cons c rest ih =>
    rw [List.mem_cons, not_or] at h
    have hc : c ≠ '\r' := fun e => h.1 e.symm
    rw [normalizeLineEnds, if_neg hc, ih h.2]
    rintro _ rfl
    exact absurd rfl hc

theorem not_mem_normalizeLineEnds (text : Text) : '\r' ∉ normalizeLineEnds text := by
  fun_induction normalizeLineEnds text with
  | case1 => exact List.not_mem_nil
  | case2 rest ih =>
    rw [List.mem_cons, not_or]
    exact ⟨by decide, ih⟩
  | case3 c rest _ ih =>
    rw [List.mem_cons, not_or]
    refine ⟨?_, ih⟩
    split
    · decide
    · rename_i hc
      exact fun e => hc e.symm

end WorkflowLint.Utf8
