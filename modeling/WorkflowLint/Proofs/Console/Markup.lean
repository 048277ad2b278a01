/-
  WorkflowLint/Proofs/Console/Markup.lean
  =======================================
  **What a run says is well-formed.**

  Tags must match, so text from elsewhere could break what is printed around it.  All that is
  asked of a console is that it prints markup in which they do, with escaped text where it
  cannot be taken for a tag (`PrintsMarkup`).  What a lint run says is of this kind whatever
  its paths, messages and fixes hold, because they are escaped (`isWellFormed_page`).
-/
import WorkflowLint.Console.Report
import WorkflowLint.Proofs.Console.Telling
import WorkflowLint.Proofs.Line.Value

namespace WorkflowLint.Console

/-! ### Markup -/

/-- The opening tag of a style. -/
def openTag (style : Text) : Text := '[' :: (style ++ [']'])

/-- The closing tag of a style. -/
def closeTag (style : Text) : Text := '[' :: '/' :: (style ++ [']'])

/-- A text in a style. -/
def styled (style text : Text) : Text := openTag style ++ (text ++ closeTag style)

theorem styled_append (style text rest : Text) :
    styled style text ++ rest = openTag style ++ (text ++ (closeTag style ++ rest)) := by
  simp [styled]

/-- The styles that are used in a run. -/
def styles : List Text :=
  ["bold", "dim", "red", "yellow", "green", "bold red", "bold cyan", "bold white on red",
   "bold white on yellow", "bold white on green"]

/-- Text that stands for itself. -/
def IsPlain (text : Text) : Prop := ∀ c ∈ text, c ≠ '\\' ∧ c ≠ '[' ∧ c ≠ ']'

instance (text : Text) : Decidable (IsPlain text) := List.decidableBAll _ text

/-- Markup in which tags match: plain text, text in a style, and escaped text.  Escaped text
    ends what is in a style, or the whole, or a line before one that starts with a tag. -/
inductive IsMarkup (escape : Text → Text) : Text → Prop
  | nil : IsMarkup escape []
  | plain {text rest : Text} (htext : IsPlain text) (hrest : IsMarkup escape rest) :
      IsMarkup escape (text ++ rest)
  | styled {style text rest : Text} (hstyle : style ∈ styles) (htext : IsPlain text)
      (hrest : IsMarkup escape rest) : IsMarkup escape (styled style text ++ rest)
  | styledEscaped {style front : Text} (hstyle : style ∈ styles) (hfront : IsPlain front)
      (text : Text) : IsMarkup escape (styled style (front ++ escape text))
  | escaped (text : Text) : IsMarkup escape (escape text)
  | escapedLine (text : Text) {style rest : Text}
      (hrest : IsMarkup escape (openTag style ++ rest)) :
      IsMarkup escape (escape text ++ '\n' :: (openTag style ++ rest))

/-- A table whose cells are markup and whose styles are in use. -/
structure Table.IsWellFormed (escape : Text → Text) (table : Table) : Prop where
  title : ∀ title ∈ table.title, IsMarkup escape title
  headerStyle : table.headerStyle ∈ [] :: styles
  columns : ∀ column ∈ table.columns, column.style ∈ [] :: styles ∧ IsMarkup escape column.header
  cells : ∀ row ∈ table.rows, ∀ cell ∈ row, IsMarkup escape cell

/-- Lines and tables of markup. -/
inductive IsWellFormed (escape : Text → Text) : Printable → Prop
  | blank : IsWellFormed escape .blank
  | markup {text : Text} (h : IsMarkup escape text) : IsWellFormed escape (.markup text)
  | table {table : Table} (h : table.IsWellFormed escape) : IsWellFormed escape (.table table)

/-- Whether a console prints what is well-formed, one thing after the other. -/
def PrintsMarkup (console : Console) : Prop :=
  ∀ printables : List Printable,
    (∀ printable ∈ printables, IsWellFormed console.escape printable) →
      (console.tell console.start printables).fault = none

/-! ### Plain text -/

section Plain

variable {escape : Text → Text} {text rest : Text}

theorem isPlain_append : IsPlain (text ++ rest) ↔ IsPlain text ∧ IsPlain rest :=
  List.forall_mem_append

theorem isPlain_ofNat (n : Nat) : IsPlain (Text.ofNat n) := by
  intro c hc
  have hother {d : Char} (hd : d.isDigit = false) : c ≠ d :=
    (Line.isDigits_ofNat n).ne_of_mem hc hd
  exact ⟨hother (by decide), hother (by decide), hother (by decide)⟩

theorem isPlain_ofInt (n : Int) : IsPlain (Text.ofInt n) := by
  cases n with
  | ofNat n => exact isPlain_ofNat n
  | negSucc n => exact List.forall_mem_cons.mpr ⟨by decide, isPlain_ofNat (n + 1)⟩

/-- Plain text alone is markup. -/
theorem IsMarkup.of_isPlain (h : IsPlain text) : IsMarkup escape text :=
  List.append_nil text ▸ IsMarkup.plain h IsMarkup.nil

/-- Plain text in a style alone is markup. -/
theorem IsMarkup.of_styled {style : Text} (hstyle : style ∈ styles) (h : IsPlain text) :
    IsMarkup escape (Console.styled style text) :=
  List.append_nil (Console.styled style text) ▸ IsMarkup.styled hstyle h IsMarkup.nil

end Plain

/-! ### What a run says -/

variable {console : Console}

theorem isWellFormed_header (count : Nat) : IsWellFormed console.escape (header count) := by
  have hline : ("\n[bold cyan]  pipelint[/bold cyan] [dim]Validating " ++ Text.ofNat count
      ++ " workflow file(s)[/dim]" : Text) =
      "\n" ++ (styled "bold cyan" "  pipelint" ++ (" " ++
        styled "dim" ("Validating " ++ (Text.ofNat count ++ " workflow file(s)")))) := by
    simp [styled, openTag, closeTag]
  have hcount : IsPlain ("Validating " ++ (Text.ofNat count ++ " workflow file(s)")) :=
    isPlain_append.mpr ⟨by decide, isPlain_append.mpr ⟨isPlain_ofNat count, by decide⟩⟩
  rw [header, hline]
  apply IsWellFormed.markup
  apply IsMarkup.plain (by decide)
  apply IsMarkup.styled (by decide) (by decide)
  apply IsMarkup.plain (by decide)
  exact IsMarkup.of_styled (by decide) hcount

theorem isWellFormed_noFilesBlock (path : Text) :
    ∀ printable ∈ console.noFilesBlock path, IsWellFormed console.escape printable := by
  have hfirst : ("\n[yellow]  No workflow files found at: " ++ console.escape path ++ "[/yellow]"
      : Text) = "\n" ++ styled "yellow" ("  No workflow files found at: ".toList ++
        console.escape path) := by
    simp [styled, openTag, closeTag]
  have hsecond :
      "[dim]  Looking for .yml/.yaml files in .github/workflows/ or the given path[/dim]\n".toList =
      styled "dim" "  Looking for .yml/.yaml files in .github/workflows/ or the given path" ++
        "\n" := by
    simp [styled, openTag, closeTag]
  rw [noFilesBlock, hfirst, hsecond]
  refine List.forall_mem_cons.mpr ⟨.markup ?_, List.forall_mem_singleton.mpr (.markup ?_)⟩
  · apply IsMarkup.plain (by decide)
    exact IsMarkup.styledEscaped (by decide) (by decide) path
  · apply IsMarkup.styled (by decide) (by decide)
    exact IsMarkup.of_isPlain (by decide)

/-- The line with a path is markup, if the sign before it is a character in a style. -/
theorem isMarkup_pathLine (style symbol path : Text) (hstyle : style ∈ styles)
    (hsymbol : IsPlain symbol) :
    IsMarkup console.escape (console.pathLine (styled style symbol) path) := by
  have hline : console.pathLine (styled style symbol) path =
      "\n".toList ++ (styled style symbol ++ (" ".toList ++
        styled "bold" ([] ++ console.escape path))) := by
    simp [pathLine, styled, openTag, closeTag]
  rw [hline]
  apply IsMarkup.plain (by decide)
  apply IsMarkup.styled hstyle hsymbol
  apply IsMarkup.plain (by decide)
  exact IsMarkup.styledEscaped (by decide) (by decide) path

theorem isMarkup_pathLine_icon (report : Report) :
    IsMarkup console.escape (console.pathLine (icon report) report.file) := by
  rw [icon]
  split
  · exact isMarkup_pathLine "red" "✗" _ (by decide) (by decide)
  · split
    · exact isMarkup_pathLine "yellow" "⚠" _ (by decide) (by decide)
    · exact isMarkup_pathLine "green" "✓" _ (by decide) (by decide)

theorem isMarkup_messageCell (fixed : Bool) (diagnostic : Diagnostic) :
    IsMarkup console.escape (console.messageCell fixed diagnostic) := by
  rw [messageCell]
  split
  · rename_i fix _
    split
    · exact IsMarkup.escaped _
    · have hfix : console.escape diagnostic.message ++ "\n[dim]fix: " ++ console.escape fix
          ++ "[/dim]" = console.escape diagnostic.message ++
            '\n' :: styled "dim" ("fix: ".toList ++ console.escape fix) := by
        simp [styled, openTag, closeTag]
      rw [hfix]
      exact IsMarkup.escapedLine _ (IsMarkup.styledEscaped (by decide) (by decide) fix)
  · exact IsMarkup.escaped _

theorem isWellFormed_findingTable (report : Report) :
    (console.findingTable report).IsWellFormed console.escape where
  title title h := by cases h
  headerStyle := List.mem_cons_self ..
  columns := by
    intro column hcolumn
    have hall : ∀ column ∈ findingColumns, column.style ∈ [] :: styles ∧ IsPlain column.header := by
      decide
    exact ⟨(hall column hcolumn).1, .of_isPlain (hall column hcolumn).2⟩
  cells := by
    intro row hrow cell hcell
    obtain ⟨diagnostic, -, rfl⟩ := List.mem_map.mp hrow
    have hline : IsMarkup console.escape (lineCell diagnostic) := by
      rw [lineCell]
      split
      · exact .nil
      · split
        · exact .nil
        · exact .of_isPlain (List.forall_mem_cons.mpr ⟨by decide, isPlain_ofInt _⟩)
    have hseverity : IsMarkup console.escape (severityCell diagnostic) := by
      have herror : IsMarkup console.escape (styled "red" "error") :=
        .of_styled (by decide) (by decide)
      have hwarning : IsMarkup console.escape (styled "yellow" "warn") :=
        .of_styled (by decide) (by decide)
      rw [severityCell]
      split
      · exact herror
      · exact hwarning
    have hmessage : IsMarkup console.escape (console.messageCell report.fixed diagnostic) :=
      isMarkup_messageCell report.fixed diagnostic
    have hcells : ∀ cell ∈ [lineCell diagnostic, severityCell diagnostic,
        console.messageCell report.fixed diagnostic], IsMarkup console.escape cell := by
      simp [hline, hseverity, hmessage]
    exact hcells cell hcell

/-- What is said about a file is well-formed. -/
theorem isWellFormed_outcomeBlock (outcome : FileOutcome) :
    ∀ printable ∈ console.outcomeBlock outcome, IsWellFormed console.escape printable := by
  have hgreen (word : Text) (hword : IsPlain word) :
      IsWellFormed console.escape (.markup ("  ".toList ++ styled "green" word)) :=
    .markup (.plain (by decide) (.of_styled (by decide) hword))
  cases outcome with
  | linted report =>
    rw [outcomeBlock, reportBlock]
    refine List.forall_mem_append.mpr
      ⟨List.forall_mem_cons.mpr ⟨.markup (isMarkup_pathLine_icon report), ?_⟩,
        List.forall_mem_singleton.mpr ?_⟩
    · split
      · exact List.forall_mem_singleton.mpr (hgreen "(auto-fixed)" (by decide))
      · exact List.forall_mem_nil _
    · split
      · exact hgreen "No issues found" (by decide)
      · exact .table (isWellFormed_findingTable report)
  | failed failure =>
    have hreason : ("  [bold red]Could not process file:[/bold red] "
        ++ console.escape failure.error : Text) =
        "  " ++ (styled "bold red" "Could not process file:" ++ (" " ++
          console.escape failure.error)) := by
      simp [styled, openTag, closeTag]
    rw [outcomeBlock, failureBlock, hreason]
    refine List.forall_mem_cons.mpr ⟨.markup ?_, List.forall_mem_singleton.mpr (.markup ?_)⟩
    · exact isMarkup_pathLine "red" "✗" _ (by decide) (by decide)
    · apply IsMarkup.plain (by decide)
      apply IsMarkup.styled (by decide) (by decide)
      exact IsMarkup.plain (by decide) (IsMarkup.escaped _)

theorem isWellFormed_verdictBlock (summary : Summary) :
    ∀ printable ∈ verdictBlock summary, IsWellFormed console.escape printable := by
  have hverdict (style word details : Text) (hstyle : style ∈ styles) (hword : IsPlain word)
      (hdetails : IsPlain details) :
      IsMarkup console.escape ("  ".toList ++ (styled style word ++ details)) :=
    .plain (by decide) (.styled hstyle hword (.of_isPlain hdetails))
  have hline : IsMarkup console.escape (verdictLine summary) := by
    rw [verdictLine]
    split
    · have hdetails : IsPlain (" ".toList ++ (Text.ofInt summary.errors ++ (" error(s), ".toList ++
          (Text.ofInt summary.warnings ++ " warning(s)".toList)))) := by
        simp only [isPlain_append]
        exact ⟨by decide, isPlain_ofInt _, by decide, isPlain_ofInt _, by decide⟩
      have hfail := hverdict "bold white on red" " FAIL " _ (by decide) (by decide) hdetails
      simpa [styled, openTag, closeTag] using hfail
    · have hdetails :
          IsPlain (" ".toList ++ (Text.ofInt summary.warnings ++ " warning(s)".toList)) := by
        simp only [isPlain_append]
        exact ⟨by decide, isPlain_ofInt _, by decide⟩
      have hwarn := hverdict "bold white on yellow" " WARN " _ (by decide) (by decide) hdetails
      simpa [styled, openTag, closeTag] using hwarn
    · exact hverdict "bold white on green" " PASS " " All workflows valid" (by decide)
        (by decide) (by decide)
  exact List.forall_mem_cons.mpr ⟨.blank, List.forall_mem_cons.mpr ⟨.markup hline,
    List.forall_mem_singleton.mpr .blank⟩⟩

/-- All that a run over files says. -/
def page (console : Console) (count : Nat) (outcomes : List FileOutcome) (summary : Summary) :
    List Printable :=
  header count :: (outcomes.flatMap console.outcomeBlock ++ verdictBlock summary)

/-- Whatever became of the files of a run, what is said about them is well-formed. -/
theorem isWellFormed_page (count : Nat) (outcomes : List FileOutcome) (summary : Summary) :
    ∀ printable ∈ console.page count outcomes summary, IsWellFormed console.escape printable := by
  refine List.forall_mem_cons.mpr ⟨isWellFormed_header count, List.forall_mem_append.mpr ⟨?_,
    isWellFormed_verdictBlock summary⟩⟩
  intro printable hprintable
  obtain ⟨outcome, -, hmem⟩ := List.mem_flatMap.mp hprintable
  exact isWellFormed_outcomeBlock outcome printable hmem

end WorkflowLint.Console
