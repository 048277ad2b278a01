/-
  WorkflowLint/Proofs/Json/RoundTrip.lean
  =======================================
  **What is written is decoded.**

  A value over several lines is decoded as the value that it was written from, however
  deep it is (`value?_pretty`, `decode?_pretty`).  All that is asked is that its
  floating-point numbers are written as JSON has numbers (`Numeric`), which not all are:
  there is no number for an infinity.  The proof is one induction over such a value, with
  the items of an array and the members of an object each read up to what follows them.
-/
import WorkflowLint.Proofs.Json.Token

namespace WorkflowLint

namespace Json

open JsonValue

/-! ### What a value says -/

/-- A value whose floating-point numbers are written as numbers. -/
inductive Numeric : Json → Prop
  | null : Numeric .null
  | bool (value : Bool) : Numeric (.bool value)
  | int (value : Int) : Numeric (.int value)
  | float {literal : Text} {number : JsonValue} (h : number? literal = some (number, [])) :
      Numeric (.float literal)
  | str (value : Text) : Numeric (.str value)
  | array {items : List Json} (h : ∀ item ∈ items, Numeric item) : Numeric (.array items)
  | object {members : List (Text × Json)} (h : ∀ member ∈ members, Numeric member.2) :
      Numeric (.object members)

mutual

/-- What a written value says. -/
def value : Json → JsonValue
  | .null => .null
  | .bool value => .bool value
  | .int value => intValue value
  | .float literal => ((number? literal).map Prod.fst).getD .null
  | .str value => .str value
  | .array items => .array (values items)
  | .object members => .object (memberValues members)

/-- What written items say. -/
def values : List Json → List JsonValue
  | [] => []
  | item :: items => item.value :: values items

/-- What written members say. -/
def memberValues : List (Text × Json) → List (Text × JsonValue)
  | [] => []
  | (key, item) :: members => (key, item.value) :: memberValues members

end

theorem values_eq_map (items : List Json) : values items = items.map value := by
  induction items with
  | nil => rfl
  | cons item items ih => rw [values, ih, List.map_cons]

/-! ### Blanks -/

theorem skipSpace_cons {c : Char} (h : isSpace c = false) (rest : Text) :
    skipSpace (c :: rest) = c :: rest := by
  rw [skipSpace, List.dropWhile_cons, h, if_neg Bool.false_ne_true]

theorem isSpace_of_mem_newline {level : Nat} {c : Char} (h : c ∈ newline level) :
    isSpace c = true := by
  rcases List.mem_cons.mp h with rfl | h
  · rfl
  · rw [List.eq_of_mem_replicate h]
    rfl

/-- Line breaks and indentation are skipped. -/
theorem skipSpace_newline (level : Nat) (text : Text) :
    skipSpace (newline level ++ text) = skipSpace text :=
  List.dropWhile_append_of_pos fun _ => isSpace_of_mem_newline

theorem value?_newline (steps level : Nat) (text : Text) :
    value? steps (newline level ++ text) = value? steps text := by
  cases steps with
  | zero => rfl
  | succ steps => rw [value?, value?, skipSpace_newline]

theorem value?_space (steps : Nat) (text : Text) :
    value? steps (' ' :: text) = value? steps text := by
  cases steps with
  | zero => rfl
  | succ steps => rw [value?, value?]; rfl

theorem members?_newline (steps level : Nat) (text : Text) :
    members? steps (newline level ++ text) = members? steps text := by
  cases steps with
  | zero => rfl
  | succ steps => rw [members?, members?, skipSpace_newline]

/-! ### Values without parts -/

theorem value?_quote (steps : Nat) (text rest : Text) :
    value? (steps + 1) (quote text ++ rest) = some (.str text, rest) := by
  have hquote : quote text ++ rest = '"' :: (text.flatMap escapeChar ++ '"' :: rest) := by
    rw [quote, List.append_assoc]
    rfl
  rw [hquote, value?, skipSpace_cons rfl]
  simp only
  rw [if_pos trivial, string?_flatMap, Option.map_some]

/-- A number starts with no other character than a digit or a sign. -/
theorem ne_of_startsNumber {c d : Char} (h : c.isDigit = true ∨ c = '-')
    (hdigit : d.isDigit = false) (hsign : d ≠ '-') : c ≠ d := by
  rintro rfl
  rcases h with h | h
  · exact absurd h (by rw [hdigit]; decide)
  · exact hsign h

theorem isSpace_of_startsNumber {c : Char} (h : c.isDigit = true ∨ c = '-') :
    isSpace c = false := by
  have hspace := ne_of_startsNumber (d := ' ') h rfl (by decide)
  have htab := ne_of_startsNumber (d := '\t') h rfl (by decide)
  have hfeed := ne_of_startsNumber (d := '\n') h rfl (by decide)
  have hreturn := ne_of_startsNumber (d := '\r') h rfl (by decide)
  simp [isSpace, hspace, htab, hfeed, hreturn]

/-- A text that starts with a digit or a sign is read as a number. -/
theorem value?_eq_number? {c : Char} (h : c.isDigit = true ∨ c = '-') (steps : Nat)
    (rest : Text) : value? (steps + 1) (c :: rest) = number? (c :: rest) := by
  have hne {d : Char} (hdigit : d.isDigit = false) (hsign : d ≠ '-') : c ≠ d :=
    ne_of_startsNumber h hdigit hsign
  rw [value?, skipSpace_cons (isSpace_of_startsNumber h)]
  simp only
  rw [if_neg (hne rfl (by decide)), if_neg (hne rfl (by decide)), if_neg (hne rfl (by decide)),
    if_neg (hne rfl (by decide)), if_neg (hne rfl (by decide)), if_neg (hne rfl (by decide))]

theorem exists_ofNat (n : Nat) : ∃ c digits, Text.ofNat n = c :: digits ∧ c.isDigit = true := by
  cases hdigits : Text.ofNat n with
  | nil => exact absurd hdigits Nat.toDigits_ne_nil
  | cons c digits =>
    exact ⟨c, digits, rfl, isDigit_of_mem_ofNat (hdigits ▸ List.mem_cons_self ..)⟩

theorem exists_ofInt (value : Int) :
    ∃ c digits, Text.ofInt value = c :: digits ∧ (c.isDigit = true ∨ c = '-') := by
  cases value with
  | ofNat n =>
    obtain ⟨c, digits, hdigits, hc⟩ := exists_ofNat n
    exact ⟨c, digits, hdigits, .inl hc⟩
  | negSucc n => exact ⟨'-', _, rfl, .inr rfl⟩

theorem value?_ofInt (steps : Nat) (value : Int) {rest : Text} (h : EndsNumber rest) :
    value? (steps + 1) (Text.ofInt value ++ rest) = some (intValue value, rest) := by
  obtain ⟨c, digits, hdigits, hc⟩ := exists_ofInt value
  rw [← number?_ofInt value h, hdigits]
  exact value?_eq_number? hc steps _

theorem value?_float (steps : Nat) {literal rest : Text} {number : JsonValue}
    (hnumber : number? literal = some (number, [])) (h : EndsNumber rest) :
    value? (steps + 1) (literal ++ rest) = some (number, rest) := by
  obtain ⟨c, more, hliteral, hc⟩ := exists_cons_of_number? hnumber
  rw [← number?_append hnumber h, hliteral]
  exact value?_eq_number? hc steps _

/-! ### Values with parts -/

/-- A written value starts with a character that is neither a blank nor ends an array. -/
theorem exists_pretty (level : Nat) {json : Json} (hjson : Numeric json) :
    ∃ c more, pretty level json = c :: more ∧ isSpace c = false ∧ c ≠ ']' := by
  have hnumber {c : Char} (h : c.isDigit = true ∨ c = '-') : isSpace c = false ∧ c ≠ ']' := by
    constructor
    · exact isSpace_of_startsNumber h
    · rintro rfl
      exact absurd h (by decide)
  cases hjson with
  | null => exact ⟨_, _, rfl, rfl, by decide⟩
  | bool value => cases value <;> exact ⟨_, _, rfl, rfl, by decide⟩
  | int value =>
    obtain ⟨c, digits, hdigits, hc⟩ := exists_ofInt value
    exact ⟨c, digits, hdigits, hnumber hc⟩
  | float hfloat =>
    obtain ⟨c, more, hliteral, hc⟩ := exists_cons_of_number? hfloat
    exact ⟨c, more, hliteral, hnumber hc⟩
  | str value => exact ⟨'"', _, rfl, rfl, by decide⟩
  | @array items _ => cases items <;> exact ⟨_, _, rfl, rfl, by decide⟩
  | @object members _ => cases members <;> exact ⟨_, _, rfl, rfl, by decide⟩

theorem head?_skipSpace_pretty (level : Nat) {json : Json} (hjson : Numeric json) (rest : Text) :
    (skipSpace (newline level ++ (pretty level json ++ rest))).head? ≠ some ']' := by
  obtain ⟨c, more, hpretty, hspace, hne⟩ := exists_pretty level hjson
  rw [skipSpace_newline, hpretty, List.cons_append, skipSpace_cons hspace]
  simp [hne]

theorem head?_skipSpace_quote (level : Nat) (key rest : Text) :
    (skipSpace (newline level ++ (quote key ++ rest))).head? ≠ some '}' := by
  rw [skipSpace_newline, quote, List.cons_append, List.cons_append, skipSpace_cons rfl]
  simp

theorem value?_array {steps : Nat} {text : Text} (h : (skipSpace text).head? ≠ some ']') :
    value? (steps + 1) ('[' :: text) =
      (items? steps text).map fun (items, rest) => (.array items, rest) := by
  rw [value?, skipSpace_cons rfl]
  simp only
  rw [if_neg (by decide), if_pos trivial, if_neg h]

theorem value?_object {steps : Nat} {text : Text} (h : (skipSpace text).head? ≠ some '}') :
    value? (steps + 1) ('{' :: text) =
      (members? steps text).map fun (members, rest) => (.object members, rest) := by
  rw [value?, skipSpace_cons rfl]
  simp only
  rw [if_neg (by decide), if_neg (by decide), if_pos trivial, if_neg h]

theorem items?_newline (steps level : Nat) (text : Text) :
    items? steps (newline level ++ text) = items? steps text := by
  cases steps with
  | zero => rfl
  | succ steps => rw [items?, items?, value?_newline]

/-- A comma goes on to the next item. -/
theorem items?_comma {steps : Nat} {text rest : Text} {item : JsonValue}
    (h : value? steps text = some (item, ',' :: rest)) :
    items? (steps + 1) text =
      (items? steps rest).map fun (items, rest) => (item :: items, rest) := by
  rw [items?, h, Option.bind_some]
  rfl

/-- A bracket on a later line ends the items. -/
theorem items?_close {steps level : Nat} {text rest : Text} {item : JsonValue}
    (h : value? steps text = some (item, newline level ++ ']' :: rest)) :
    items? (steps + 1) text = some ([item], rest) := by
  rw [items?, h, Option.bind_some]
  simp only
  rw [skipSpace_newline]
  rfl

/-- A member is read by its key and its value. -/
theorem members?_quote (steps : Nat) (key text : Text) :
    members? (steps + 1) (quote key ++ ':' :: text) =
      (value? steps text).bind fun (value, rest) =>
        match skipSpace rest with
        | ',' :: rest =>
          (members? steps rest).map fun (members, rest) => ((key, value) :: members, rest)
        | '}' :: rest => some ([(key, value)], rest)
        | _ => none := by
  have hquote : quote key ++ ':' :: text =
      '"' :: (key.flatMap escapeChar ++ '"' :: ':' :: text) := by
    rw [quote, List.append_assoc]
    rfl
  rw [hquote, members?, skipSpace_cons rfl]
  simp only
  rw [string?_flatMap, Option.bind_some]
  simp only
  rw [skipSpace_cons rfl]
  rfl

/-- A comma goes on to the next member. -/
theorem members?_comma {steps : Nat} {key text rest : Text} {value : JsonValue}
    (h : value? steps text = some (value, ',' :: rest)) :
    members? (steps + 1) (quote key ++ ':' :: text) =
      (members? steps rest).map fun (members, rest) => ((key, value) :: members, rest) := by
  rw [members?_quote, h, Option.bind_some]
  rfl

/-- A brace on a later line ends the members. -/
theorem members?_close {steps level : Nat} {key text rest : Text} {value : JsonValue}
    (h : value? steps text = some (value, newline level ++ '}' :: rest)) :
    members? (steps + 1) (quote key ++ ':' :: text) = some ([(key, value)], rest) := by
  rw [members?_quote, h, Option.bind_some]
  simp only
  rw [skipSpace_newline]
  rfl

/-! ### Values of any depth -/

/-- Whether a value is read as it was written, given a step for every character. -/
def Decodes (json : Json) : Prop :=
  ∀ (level steps : Nat) (rest : Text), (pretty level json).length ≤ steps → EndsNumber rest →
    value? steps (pretty level json ++ rest) = some (json.value, rest)

/-- A written value has a character, so there is a step to read it. -/
theorem decodes_of_step {json : Json} (hjson : Numeric json)
    (h : ∀ (level steps : Nat) (rest : Text), (pretty level json).length ≤ steps + 1 →
      EndsNumber rest →
        value? (steps + 1) (pretty level json ++ rest) = some (json.value, rest)) :
    Decodes json := by
  intro level steps rest hsteps hrest
  obtain ⟨c, more, hpretty, -, -⟩ := exists_pretty level hjson
  have hlength : (pretty level json).length = more.length + 1 := by
    rw [hpretty, List.length_cons]
  obtain ⟨steps, rfl⟩ := Nat.exists_eq_succ_of_ne_zero (by omega : steps ≠ 0)
  exact h level steps rest hsteps hrest

theorem endsNumber_nil : EndsNumber [] := by
  rintro c hc
  cases hc

theorem endsNumber_comma (rest : Text) : EndsNumber (',' :: rest) := by
  rintro c hc
  cases hc
  decide

theorem endsNumber_newline (level : Nat) (rest : Text) : EndsNumber (newline level ++ rest) := by
  rintro c hc
  cases hc
  decide

/-- The items of an array are read one after the other. -/
theorem items?_prettyItems {item : Json} {items : List Json} (hitem : Decodes item)
    (hitems : ∀ other ∈ items, Decodes other) {level outer steps : Nat}
    (hsteps : (pretty level item).length + (prettyItems level items).length < steps)
    (rest : Text) :
    items? steps (pretty level item ++ (prettyItems level items ++
      (newline outer ++ ']' :: rest))) = some (item.value :: values items, rest) := by
  induction items generalizing item steps with
  | nil =>
    obtain ⟨steps, rfl⟩ := Nat.exists_eq_succ_of_ne_zero (Nat.ne_zero_of_lt hsteps)
    rw [prettyItems, List.nil_append,
      items?_close (hitem level steps _ (by omega) (endsNumber_newline outer _)), values]
  | cons next items ih =>
    obtain ⟨steps, rfl⟩ := Nat.exists_eq_succ_of_ne_zero (Nat.ne_zero_of_lt hsteps)
    obtain ⟨hnext, hitems⟩ := List.forall_mem_cons.mp hitems
    have hlength : (pretty level next).length + (prettyItems level items).length <
        (prettyItems level (next :: items)).length := by
      simp only [prettyItems, List.cons_append, List.length_cons, List.length_append]
      omega
    have hlater := @ih next hnext hitems steps (by omega)
    simp only [prettyItems, List.cons_append, List.append_assoc]
    rw [items?_comma (hitem level steps _ (by omega) (endsNumber_comma _)), items?_newline,
      hlater, Option.map_some, values]

/-- The members of an object are read one after the other. -/
theorem members?_prettyMembers {key : Text} {item : Json} {members : List (Text × Json)}
    (hitem : Decodes item) (hmembers : ∀ other ∈ members, Decodes other.2)
    {level outer steps : Nat}
    (hsteps : (pretty level item).length + (prettyMembers level members).length < steps)
    (rest : Text) :
    members? steps (quote key ++ ':' :: ' ' :: (pretty level item ++
      (prettyMembers level members ++ (newline outer ++ '}' :: rest)))) =
        some ((key, item.value) :: memberValues members, rest) := by
  induction members generalizing key item steps with
  | nil =>
    obtain ⟨steps, rfl⟩ := Nat.exists_eq_succ_of_ne_zero (Nat.ne_zero_of_lt hsteps)
    have hread := hitem level steps _ (by omega) (endsNumber_newline outer ('}' :: rest))
    rw [← value?_space] at hread
    rw [prettyMembers, List.nil_append, members?_close hread, memberValues]
  | cons next members ih =>
    obtain ⟨steps, rfl⟩ := Nat.exists_eq_succ_of_ne_zero (Nat.ne_zero_of_lt hsteps)
    obtain ⟨hnext, hmembers⟩ := List.forall_mem_cons.mp hmembers
    have hmore : prettyMembers level (next :: members) ++ (newline outer ++ '}' :: rest) =
        ',' :: (newline level ++ (quote next.1 ++ ':' :: ' ' :: (pretty level next.2 ++
          (prettyMembers level members ++ (newline outer ++ '}' :: rest))))) := by
      simp only [prettyMembers, List.cons_append, List.append_assoc]
      rfl
    have hlength : (pretty level next.2).length + (prettyMembers level members).length <
        (prettyMembers level (next :: members)).length := by
      simp only [prettyMembers, List.cons_append, List.length_cons, List.length_append]
      omega
    have hlater := @ih next.1 next.2 hnext hmembers steps (by omega)
    have hread := hitem level steps _ (by omega) (endsNumber_comma
      (newline level ++ (quote next.1 ++ ':' :: ' ' :: (pretty level next.2 ++
        (prettyMembers level members ++ (newline outer ++ '}' :: rest))))))
    rw [← value?_space] at hread
    rw [hmore, members?_comma hread, members?_newline, hlater, Option.map_some, memberValues]

/-- A value is read as it was written, up to what follows it. -/
theorem value?_pretty {json : Json} (hjson : Numeric json) : Decodes json := by
  induction hjson with
  | null => exact decodes_of_step .null fun _ _ _ _ _ => rfl
  | bool value => cases value <;> exact decodes_of_step (.bool _) fun _ _ _ _ _ => rfl
  | int value =>
    exact decodes_of_step (.int value) fun _ steps _ _ hrest => value?_ofInt steps value hrest
  | float hfloat =>
    refine decodes_of_step (.float hfloat) fun _ steps _ _ hrest => ?_
    rw [value, hfloat]
    exact value?_float steps hfloat hrest
  | str value =>
    exact decodes_of_step (.str value) fun _ steps rest _ _ => value?_quote steps value rest
  | @array items hitems ih =>
    refine decodes_of_step (.array hitems) fun level steps rest hsteps hrest => ?_
    cases items with
    | nil => rfl
    | cons item items =>
      obtain ⟨hfirst, hlater⟩ := List.forall_mem_cons.mp ih
      simp only [pretty, List.cons_append, List.append_assoc, List.length_cons,
        List.length_append, List.nil_append] at hsteps ⊢
      rw [value?_array (head?_skipSpace_pretty _ (hitems item (List.mem_cons_self ..)) _),
        items?_newline, items?_prettyItems hfirst hlater (by omega), Option.map_some, value,
        values]
  | @object members hmembers ih =>
    refine decodes_of_step (.object hmembers) fun level steps rest hsteps hrest => ?_
    cases members with
    | nil => rfl
    | cons member members =>
      obtain ⟨hfirst, hlater⟩ := List.forall_mem_cons.mp ih
      simp only [pretty, List.cons_append, List.append_assoc, List.length_cons,
        List.length_append, List.nil_append] at hsteps ⊢
      rw [value?_object (head?_skipSpace_quote _ _ _), members?_newline]
      refine (congrArg _ (members?_prettyMembers hfirst hlater (by omega) rest)).trans ?_
      rw [Option.map_some, value, memberValues]

/-- A value that is written over several lines is decoded. -/
theorem decode?_pretty {json : Json} (hjson : Numeric json) :
    decode? (pretty 0 json) = some json.value := by
  have hread := value?_pretty hjson 0 _ [] (Nat.le_refl _) endsNumber_nil
  rw [List.append_nil] at hread
  rw [decode?, hread]
  rfl

end Json

end WorkflowLint
