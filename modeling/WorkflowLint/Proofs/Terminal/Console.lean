/-
  WorkflowLint/Proofs/Terminal/Console.lean
  =========================================
  **The console prints what is well-formed.**

  Markup of each form can be shown wherever it stands, whatever styles are open
  (`shows_of_isMarkup`), so lines and tables of it are printed (`printsMarkup_console`).
-/
import WorkflowLint.Proofs.Terminal.Markup
import WorkflowLint.Terminal.Console

namespace WorkflowLint.Terminal

open WorkflowLint.Console (IsMarkup IsWellFormed Printable PrintsMarkup closeTag openTag styled)

variable {markup : Text}

/-! ### Markup -/

theorem isStyle_of_mem : ∀ style ∈ Console.styles, IsStyle style := by
  decide +kernel

/-- Markup can be shown, whatever styles are open. -/
theorem shows_of_isMarkup (h : IsMarkup escape markup) (stack : List OpenTag) :
    Shows stack 0 markup := by
  induction h generalizing stack with
  | nil => exact shows_nil stack 0
  | plain htext hrest ih => exact (ih stack).plain htext
  | styled hstyle htext hrest ih => exact (ih stack).styled (isStyle_of_mem _ hstyle) htext
  | @styledEscaped style front hstyle hfront text =>
    have hmarkup : styled style (front ++ escape text) =
        openTag style ++ (front ++ (escape text ++ (closeTag style ++ []))) := by
      simp [styled]
    have hclosed : Shows (⟨style, none⟩ :: stack) 0 (escape text ++ (closeTag style ++ [])) :=
      Shows.styled_escape (isStyle_of_mem style hstyle) (fun stack => shows_nil stack 0) text
    rw [hmarkup]
    exact (hclosed.plain hfront).open_tag (isStyle_of_mem style hstyle)
  | escaped text =>
    rw [← List.append_nil (escape text)]
    exact shows_escape rfl rfl (fun slashes => shows_nil stack slashes) text
  | escapedLine text hrest ih =>
    -- the line feed cannot begin a tag, and the tag behind it keeps an open bracket from closing
    exact shows_escape rfl rfl
      (fun slashes => (ih stack).cons (by decide) (by decide) slashes) text

theorem exists_render (h : IsMarkup escape markup) : ∃ text, render markup = .ok text := by
  obtain ⟨text, htext⟩ := shows_of_isMarkup h [] 0
  rw [render_eq, htext]
  exact ⟨_, rfl⟩

/-! ### Tables -/

theorem exists_mapM {α β ε : Type} {f : α → Except ε β} {items : List α}
    (h : ∀ item ∈ items, ∃ result, f item = .ok result) :
    ∃ results, items.mapM f = .ok results := by
  induction items with
  | nil => exact ⟨[], rfl⟩
  | cons item items ih =>
    obtain ⟨⟨result, hresult⟩, hitems⟩ := List.forall_mem_cons.mp h
    obtain ⟨results, hresults⟩ := ih hitems
    rw [List.mapM_cons, hresult]
    simp only [bind, Except.bind]
    rw [hresults]
    exact ⟨result :: results, rfl⟩

theorem exists_cells {row : List Text} (h : ∀ cell ∈ row, IsMarkup escape cell) :
    ∃ cells, row.mapM cellOf = .ok cells := by
  refine exists_mapM fun cell hcell => ?_
  obtain ⟨text, htext⟩ := exists_render (h cell hcell)
  rw [cellOf, htext]
  exact ⟨_, rfl⟩

theorem exists_linesOfTable {table : Console.Table} (h : table.IsWellFormed escape) :
    ∃ lines, linesOfTable table = .ok lines := by
  have hheader : ∀ cell ∈ table.columns.map Console.Column.header, IsMarkup escape cell := by
    intro cell hcell
    obtain ⟨column, hcolumn, rfl⟩ := List.mem_map.mp hcell
    exact (h.columns column hcolumn).2
  have hrows : ∀ row ∈ rowsOf table, ∀ cell ∈ row, IsMarkup escape cell := by
    rw [rowsOf]
    split
    · exact List.forall_mem_cons.mpr ⟨hheader, h.cells⟩
    · exact h.cells
  obtain ⟨rows, hcells⟩ := exists_mapM fun row hrow => exists_cells (hrows row hrow)
  rw [linesOfTable, hcells]
  cases htitle : table.title with
  | none => exact ⟨_, rfl⟩
  | some title =>
    obtain ⟨text, htext⟩ := exists_render (h.title title htitle)
    simp only [bind, Except.bind, htext]
    exact ⟨_, rfl⟩

/-! ### The console -/

theorem exists_print {printable : Printable} (h : IsWellFormed escape printable) :
    ∃ text, print printable = .ok text := by
  cases h with
  | blank => exact ⟨_, rfl⟩
  | markup hmarkup =>
    obtain ⟨text, htext⟩ := exists_render hmarkup
    rw [print, htext]
    exact ⟨_, rfl⟩
  | table htable =>
    obtain ⟨lines, hlines⟩ := exists_linesOfTable htable
    rw [print, hlines]
    exact ⟨_, rfl⟩

theorem printsMarkup_console : PrintsMarkup console := by
  intro printables h
  induction printables with
  | nil => rfl
  | cons printable rest ih =>
    obtain ⟨hfirst, hrest⟩ := List.forall_mem_cons.mp h
    obtain ⟨text, htext⟩ := exists_print hfirst
    have hprint : console.print console.start printable = (.ok text, console.start) := by
      have heq : console.print console.start printable =
          ((print printable).mapError MarkupFault.toLibrary, console.start) := rfl
      rw [heq, htext]
      rfl
    rw [Console.tell, hprint]
    exact ih hrest

end WorkflowLint.Terminal
