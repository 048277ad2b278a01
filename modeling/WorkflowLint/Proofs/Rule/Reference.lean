/-
  WorkflowLint/Proofs/Rule/Reference.lean
  =======================================
  **One reference, read twice.**

  The rules on actions read references off the raw lines, and the outline reads the
  values of its keys off the same lines on a way of its own: first the comment goes, then
  the dash, then the key.  On a line that starts with `uses:`, both come to the same
  reference (`usesReference?_of_splitPair`), because nothing in front of the value opens
  a quote or a comment.  So no reference in the outline that is outdated or names no
  version is missed (`evaluate_uses`).
-/
import Mathlib.Data.List.Basic
import WorkflowLint.Proofs.Outline.Uses
import WorkflowLint.Proofs.Rule.Content
import WorkflowLint.Proofs.Rule.Found

namespace WorkflowLint

open Text (isBlank allBlank)

namespace Line

open Outline (Content content?)

/-! ### The value behind the key -/

variable {line more value : Text} {content : Content}

theorem exists_head_of_startsBlank {text : Text} (h : startsBlank text = true) (hne : text ≠ []) :
    ∃ c, text.head? = some c ∧ isBlank c = true := by
  cases text with
  | nil => exact absurd rfl hne
  | cons c rest => exact ⟨c, rfl, h⟩

/-- Where `uses` is the key, a blank and the value come after the colon. -/
theorem value_of_splitPair (h : splitPair ("uses:" ++ more) = some (Catalog.usesKey, value)) :
    startsBlank more = true ∧ Text.trim more = value := by
  obtain ⟨margin, quote, blanks, after, hmargin, hquote, hblanks, htext, hafter, hvalue⟩ :=
    eq_append_of_splitPair h
  have hnil : margin = [] := by
    cases margin with
    | nil => rfl
    | cons c margin =>
      obtain rfl : 'u' = c := (List.cons.inj htext).1
      rw [Text.allBlank_cons, Bool.and_eq_true] at hmargin
      exact absurd hmargin.1 (by decide)
  subst hnil
  obtain rfl : quote = [] := by
    rcases hquote with rfl | rfl | rfl
    · rfl
    · exact absurd (List.cons.inj htext).1 (by decide)
    · exact absurd (List.cons.inj htext).1 (by decide)
  have hcolon : ':' :: more = blanks ++ ':' :: after := by
    simpa [Catalog.usesKey] using htext
  cases blanks with
  | nil =>
    obtain rfl : more = after := (List.cons.inj hcolon).2
    exact ⟨hafter, hvalue⟩
  | cons c blanks =>
    obtain rfl : ':' = c := (List.cons.inj hcolon).1
    rw [Text.allBlank_cons, Bool.and_eq_true] at hblanks
    exact absurd hblanks.1 (by decide)

/-- The same behind the dash of a list item. -/
theorem value_of_field {dash : Text} (hdash : IsDash dash)
    (htext : content.text = dash ++ ("uses:" ++ more))
    (hpair : splitPair content.field = some (Catalog.usesKey, value)) (hne : value ≠ []) :
    (∃ c, more.head? = some c ∧ isBlank c = true) ∧ Text.trim more = value := by
  have hvalue {more : Text}
      (h : splitPair ("uses:" ++ more) = some (Catalog.usesKey, value)) :
      (∃ c, more.head? = some c ∧ isBlank c = true) ∧ Text.trim more = value := by
    obtain ⟨hblank, htrim⟩ := value_of_splitPair h
    refine ⟨exists_head_of_startsBlank hblank ?_, htrim⟩
    rintro rfl
    exact hne htrim.symm
  rcases hdash with rfl | ⟨c, blanks, rfl, hc, hblanks⟩
  · have hfield : content.field = "uses:" ++ more := by
      rw [Content.field, Content.isItem, htext]
      rfl
    exact hvalue (hfield ▸ hpair)
  · by_cases hspace : c = ' '
    · subst hspace
      have hitem : content.isItem = true := by
        rw [Content.isItem, htext]
        simp
      have hfield : content.field = "uses:" ++ Text.trimRight more := by
        have hfront : allBlank (' ' :: blanks) = true := by
          rw [Text.allBlank_cons, hblanks]
          rfl
        have hrest : content.text.drop 1 = (' ' :: blanks) ++ ("uses:" ++ more) := by
          rw [htext]
          rfl
        rw [Content.field, hitem, if_pos rfl, hrest, Text.trim_append_left hfront, Text.trim,
          Text.trimLeft_of_head (by rintro d ⟨⟩; decide)]
        exact Text.trimRight_append_left (by rintro d ⟨⟩; decide) more
      obtain ⟨⟨d, hd, hblank⟩, htrim⟩ := hvalue (hfield ▸ hpair)
      exact ⟨⟨d, Text.head?_dropRightWhile hd, hblank⟩, Text.trim_trimRight more ▸ htrim⟩
    · -- such a dash belongs to the key
      have hitem : content.isItem = false := by
        rw [Content.isItem, htext]
        simp [List.isPrefixOf, Ne.symm hspace]
      rw [Content.field, hitem, if_neg Bool.false_ne_true, htext] at hpair
      exact absurd hpair (splitPair_dash_ne (by decide) (by decide))

/-! ### Both ways of reading -/

theorem ne_hash_of_isDash {dash : Text} (h : IsDash dash) :
    ∀ c ∈ dash ++ "uses:".toList, c ≠ '#' ∧ isQuote c = false := by
  intro c hc
  rcases List.mem_append.mp hc with hc | hc
  · rcases h with rfl | ⟨d, blanks, rfl, hd, hblanks⟩
    · exact absurd hc List.not_mem_nil
    · rcases List.mem_cons.mp hc with rfl | hc
      · decide
      · have hfront : allBlank (d :: blanks) = true := by
          rw [Text.allBlank_cons, hd, hblanks]
          rfl
        exact ne_hash_of_allBlank hfront c hc
  · exact Text.forall_mem_of_all (P := fun c => c ≠ '#' ∧ isQuote c = false) (by decide) c hc

/-- What stands between text without hash signs and quotes and a comment can be read off behind
    that text as well, if it starts with a blank. -/
theorem stripComment_trim_of_append {front rest : Text}
    (hplain : ∀ c ∈ front, c ≠ '#' ∧ isQuote c = false)
    (hlast : ∀ c, front.getLast? = some c → isBlank c = false)
    (h : stripComment (front ++ Text.trimRight rest) = front ++ more)
    (hmore : ∃ c, more.head? = some c ∧ isBlank c = true) :
    stripComment (Text.trim rest) = Text.trim more := by
  obtain ⟨c, hhead, hblank⟩ := hmore
  have hsplit := Text.takeWhile_append_trimLeft (Text.trimRight rest)
  rw [Text.trimLeft_trimRight] at hsplit
  have hgap := Text.allBlank_takeWhile (Text.trimRight rest)
  have hne : (Text.trimRight rest).takeWhile isBlank ≠ [] := by
    obtain ⟨tail, htail⟩ := stripComment_prefix (front ++ Text.trimRight rest)
    rw [h, List.append_assoc, List.append_cancel_left_eq] at htail
    cases more with
    | nil => cases hhead
    | cons d more =>
      obtain rfl : d = c := Option.some_inj.mp hhead
      rw [← htail, List.cons_append, List.takeWhile_cons_of_pos hblank]
      exact List.cons_ne_nil _ _
  -- behind the blanks, a comment starts where it starts on the whole
  have hfront : ∀ d ∈ front ++ (Text.trimRight rest).takeWhile isBlank,
      d ≠ '#' ∧ isQuote d = false :=
    fun d hd => (List.mem_append.mp hd).elim (hplain d) (ne_hash_of_allBlank hgap d)
  have hsame := trimRight_stripComment_append hfront
    (fun d hd => by
      rw [List.getLast?_append_of_ne_nil _ hne] at hd
      exact Text.allBlank_iff.mp hgap d (List.mem_of_getLast? hd))
    (Text.trim rest)
  rw [List.append_assoc, hsplit, h, Text.trimRight_append_left hlast, List.append_assoc,
    Text.trimRight_append_left hlast, List.append_cancel_left_eq] at hsame
  rw [← Text.trim_trimRight more, hsame, Text.trim_trimRight, Text.trim_append_left hgap,
    (tight_stripComment (Text.tight_trim rest)).trim_eq]

/-- On a line that starts with `uses:`, the reference is the value of the key without its
    quotes. -/
theorem usesReference?_of_splitPair (huses : IsUsesLine line) (hfeed : '\n' ∉ line)
    (hcontent : content? line = some content)
    (hpair : splitPair content.field = some (Catalog.usesKey, value)) (hne : value ≠ []) :
    usesReference? line = some (stripQuotes value) := by
  obtain ⟨margin, dash, rest, rfl, hmargin, hdash⟩ := huses
  have hrest : '\n' ∉ rest := by
    simp only [List.mem_append, not_or] at hfeed
    exact hfeed.2.2.2
  have hplain := ne_hash_of_isDash hdash
  have hlast : ∀ c, (dash ++ "uses:".toList).getLast? = some c → isBlank c = false := by
    intro c hc
    rw [List.getLast?_append] at hc
    obtain rfl : ':' = c := Option.some_inj.mp hc
    decide
  have htext : content.text = stripComment (dash ++ "uses:".toList ++ Text.trimRight rest) := by
    obtain ⟨-, rfl⟩ := Outline.content?_eq_some_iff.mp hcontent
    simp only
    rw [Text.trim, Text.trimLeft_append hmargin, Text.trimLeft_of_head (hdash.head rest),
      ← List.append_assoc, Text.trimRight_append_left hlast]
  obtain ⟨more, hmore, -⟩ :=
    exists_stripComment_append (by simp) hplain hlast (Text.trimRight rest)
  obtain ⟨hhead, hvalue⟩ :=
    value_of_field hdash (by rw [htext, hmore, List.append_assoc]) hpair hne
  rw [usesReference?_append hmargin hdash hrest,
    stripComment_trim_of_append hplain hlast hmore hhead, hvalue]

end Line

/-! ### References in the outline -/

open Line (stripQuotes)

/-- The string that a key has as its value is what stands behind the key, without quotes. -/
theorem Outline.ReadFrom.eq_stripQuotes {number : Int} {text value : Text} {line : Option Int}
    (h : ReadFrom number text (.scalar (.str value) line)) (hne : value ≠ []) :
    text ≠ [] ∧ value = stripQuotes (Text.trim text) := by
  cases h with
  | block => exact absurd rfl hne
  | scalar htext hblock hread =>
    refine ⟨htext, ?_⟩
    rw [Line.readScalar] at hread
    split at hread
    · cases hread
    · split at hread
      · cases hread
      · split at hread
        · cases hread
          rfl
        · split at hread
          · cases hread
          · cases hread

/-- The finding about a reference that names no version. -/
def unpinnedFinding (number : Int) (action : Text) : Diagnostic :=
  { severity := .error
    message := "Action \"" ++ action
      ++ "\" missing version tag. Pin to a specific version (e.g., @v4 or @sha)."
    line := some number
    ruleId := some "actions/unpinned" }

theorem isUnpinned_iff {action : Text} : Line.isUnpinned action = true ↔
    action ≠ [] ∧ action.head? ≠ some '.' ∧ ¬"docker://".toList <+: action ∧ '@' ∉ action := by
  simp [Line.isUnpinned, and_assoc, ← Bool.not_eq_true]

/-- A string that some key `uses` of the outline has as its value is what is read off the line of
    the key, if that starts with `uses:`.  It is reported there if it is outdated, and if it names
    no version, unless it is a path or a container image. -/
theorem evaluate_uses {text : Text} {document : Document}
    (hload : Document.load text = .ok document) {address : Address}
    {entries : List (Entry Node)} {mapLine : Option Int}
    (hat : document.outline.tree.at? address = some (.mapping entries mapLine))
    {entry : Entry Node} (hentry : entry ∈ entries) (hkey : entry.key = "uses".toList)
    {value : Text} {valueLine : Option Int}
    (hvalue : entry.value = .scalar (.str value) valueLine) (hne : value ≠ []) :
    ∃ (index : Nat) (line : Text), entry.line = some (index + 1 : Int) ∧
      (Text.lines text)[index]? = some line ∧
      (Line.IsUsesLine line → Line.usesReference? line = some value ∧ ∀ strict : Bool,
        (∀ deprecation, Catalog.deprecation? value = some deprecation →
          StructureRule.deprecationFinding (index + 1) deprecation ∈
            (document.evaluate strict Rule.all).diagnostics) ∧
        ('@' ∉ value → value.head? ≠ some '.' → ¬"docker://".toList <+: value →
          unpinnedFinding (index + 1) value ∈
            (document.evaluate strict Rule.all).diagnostics)) := by
  have hblank := Document.allBlank_eq_false hload hat hentry
  have hlines := Document.lines_of_load hload
  obtain ⟨number, source, hnumber, ⟨index, line, content, rfl, hline, hcontent, hpair⟩, hread⟩ :=
    (Document.keysRecorded_of_load hload).exists_hasPair hat hentry
  refine ⟨index, line, hnumber, hlines ▸ hline, fun huses => ?_⟩
  rw [hkey] at hpair
  rw [hvalue] at hread
  obtain ⟨hsource, hstrip⟩ := hread.eq_stripQuotes hne
  obtain ⟨-, -, -, after, -, -, -, -, -, htrim⟩ := Line.eq_append_of_splitPair hpair
  have hfeed : '\n' ∉ line :=
    Text.not_mem_of_mem_lines (hlines ▸ List.mem_of_getElem? hline)
  have hreference : Line.usesReference? line = some value := by
    rw [Line.usesReference?_of_splitPair huses hfeed hcontent hpair hsource, hstrip,
      ← htrim, (Text.tight_trim after).trim_eq]
  refine ⟨hreference, fun strict =>
    ⟨fun deprecation hdeprecation => ?_, fun hversion hdot hdocker => ?_⟩⟩
  · have hfound : StructureRule.deprecationFinding (index + 1) deprecation ∈
        document.foundBy strict StructureRule.deprecatedAction.id := by
      refine (Document.mem_foundBy_deprecatedAction hblank).mpr
        ⟨index, line, deprecation, hline, ?_, rfl⟩
      rw [StructureRule.deprecationOn?, hreference, Option.bind_some, hdeprecation]
    exact (Document.mem_foundBy.mp hfound).1
  · have hunpinned := isUnpinned_iff.mpr ⟨hne, hdot, hdocker, hversion⟩
    have hfound : unpinnedFinding (index + 1) value ∈
        document.foundBy strict ContentRule.unpinnedAction.id := by
      refine (Document.mem_foundBy_contentRule hblank).mpr ⟨index, line, hline, ?_⟩
      rw [ContentRule.check, ContentRule.objections_unpinnedAction]
      simp only [hreference, Option.filter, hunpinned]
      exact List.mem_singleton.mpr rfl
    exact (Document.mem_foundBy.mp hfound).1

/-- An outdated reference in quotes, with more than one blank behind the dash and a comment behind
    the reference, and a reference without a version. -/
theorem evaluate_uses_steps :
    let text : Text := "steps:\n-  uses: 'actions/cache@v2' # old\n- uses: octo/cat"
    let cache : Entry Node := ⟨"uses", some 2, .scalar (.str "actions/cache@v2") (some 2)⟩
    let cat : Entry Node := ⟨"uses", some 3, .scalar (.str "octo/cat") (some 3)⟩
    let document : Document := ⟨text, Text.lines text,
      .mapping [⟨"steps", some 1, .sequence
        [.mapping [cache] (some 2), .mapping [cat] (some 3)] (some 2)⟩] none, []⟩
    Document.load text = .ok document ∧
      StructureRule.deprecationFinding 2 ⟨"actions/cache@v2", "actions/cache@v4"⟩ ∈
        (document.evaluate false Rule.all).diagnostics ∧
      unpinnedFinding 3 "octo/cat" ∈ (document.evaluate false Rule.all).diagnostics := by
  intro text cache cat document
  have hload : Document.load text = .ok document := rfl
  have hcache : document.outline.tree.at? [.key "steps", .item 0] =
      some (.mapping [cache] (some 2)) := rfl
  have hcat : document.outline.tree.at? [.key "steps", .item 1] =
      some (.mapping [cat] (some 3)) := rfl
  refine ⟨hload, ?_, ?_⟩
  · obtain ⟨index, line, hindex, hline, h⟩ :=
      evaluate_uses hload hcache (List.mem_singleton_self _) rfl rfl (by decide)
    obtain rfl : index = 1 := by
      have := Option.some_inj.mp hindex
      omega
    obtain rfl : "-  uses: 'actions/cache@v2' # old".toList = line := Option.some_inj.mp hline
    exact ((h (by decide)).2 false).1 _ (by decide)
  · obtain ⟨index, line, hindex, hline, h⟩ :=
      evaluate_uses hload hcat (List.mem_singleton_self _) rfl rfl (by decide)
    obtain rfl : index = 2 := by
      have := Option.some_inj.mp hindex
      omega
    obtain rfl : "- uses: octo/cat".toList = line := Option.some_inj.mp hline
    exact ((h (by decide)).2 false).2 (by decide) (by decide) (by decide)

end WorkflowLint
