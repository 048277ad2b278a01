/-
  WorkflowLint/Proofs/FileSystem/ReadBack.lean
  ============================================
  **Reading what was stored.**

  What is read is the text that was stored, but for a byte order mark at its start and
  for its carriage returns (`Utf8.asRead`).  A stored text is found again by the path
  that it was stored under, unless the way to the directory of the path went through
  the very entry that the text has replaced: then that entry was a link to a directory,
  it is a file now, and nothing is found behind it (`readText_replaceText`).
-/
import WorkflowLint.Proofs.FileSystem.Replace

namespace WorkflowLint

namespace Utf8

/-! ### What reading makes of a text -/

/-- A text without the character of the byte order mark at its start. -/
def withoutMark : Text → Text
  | '\uFEFF' :: rest => rest
  | text => text

/-- What is read of a text that was stored: a mark at its start is dropped, and then every
    carriage return, alone or with a line feed after it, is a line feed. -/
def asRead (text : Text) : Text := normalizeLineEnds (withoutMark text)

theorem withoutMark_of_head?_ne {text : Text} (h : text.head? ≠ some '\uFEFF') :
    withoutMark text = text := by
  rw [withoutMark]
  rintro rest rfl
  exact h rfl

theorem exists_of_head? {text : Text} (h : text.head? = some '\uFEFF') :
    ∃ rest, text = '\uFEFF' :: rest ∧ withoutMark text = rest := by
  obtain ⟨rest, rfl⟩ := List.head?_eq_some_iff.mp h
  exact ⟨rest, rfl, rfl⟩

/-- Decoding a stored text drops the mark at its start and nothing else. -/
theorem decodeMarked_encode_eq (text : Text) :
    decodeMarked (encode text) = .ok (withoutMark text) := by
  by_cases hmark : text.head? = some '\uFEFF'
  · obtain ⟨rest, rfl, hrest⟩ := exists_of_head? hmark
    have hencode : encode ('\uFEFF' :: rest) = byteOrderMark ++ encode rest := List.flatMap_cons
    rw [hrest, hencode, decodeMarked]
    split
    · rename_i hprefix
      -- only the mark by itself starts the mark
      have hlength := (List.isPrefixOf_iff_prefix.mp hprefix).length_le
      rw [List.length_append] at hlength
      have hnil : encode rest = [] := List.length_eq_zero_iff.mp (by omega)
      have hdecode := decode_encode rest
      rw [hnil] at hdecode
      exact hdecode
    · rw [if_pos (List.isPrefixOf_iff_prefix.mpr (List.prefix_append ..)), List.drop_left,
        decode_encode]
  · rw [decodeMarked_encode hmark, withoutMark_of_head?_ne hmark]

theorem length_normalizeLineEnds_le (text : Text) :
    (normalizeLineEnds text).length ≤ text.length := by
  fun_induction normalizeLineEnds text with
  | case1 => exact Nat.le_refl _
  | case2 rest ih =>
    simp only [List.length_cons]
    omega
  | case3 c rest _ ih => exact Nat.succ_le_succ ih

/-- A text is read as it was stored exactly if it has no carriage return and no mark at its
    start. -/
theorem asRead_eq_self_iff {text : Text} :
    asRead text = text ↔ '\r' ∉ text ∧ text.head? ≠ some '\uFEFF' := by
  constructor
  · intro hread
    refine ⟨hread ▸ not_mem_normalizeLineEnds _, fun hmark => ?_⟩
    obtain ⟨rest, htext, hrest⟩ := exists_of_head? hmark
    have hle := length_normalizeLineEnds_le rest
    rw [asRead, hrest, htext] at hread
    rw [hread, List.length_cons] at hle
    omega
  · rintro ⟨hreturn, hmark⟩
    rw [asRead, withoutMark_of_head?_ne hmark, normalizeLineEnds_of_not_mem hreturn]

end Utf8

namespace FileSystem

variable {fs fs' : FileSystem} {path : Path} {directory : Place} {name draft : Text}
  {octets : Octets}

/-! ### The directory after a replacement -/

/-- The directory of a path is reached without what stands under the last name. -/
def ReachedAside (fs : FileSystem) (path : Path) : Prop :=
  ∃ directory, Holds fs directory path ∧ Holds (fs.remove (directory ++ [path.name])) directory path

theorem blocks_of_absent {place : Place} (h : fs.item? place = none) : fs.Blocks place := by
  refine ⟨by simp [h], fun target htarget => ?_⟩
  rw [h] at htarget
  cases htarget

theorem item?_remove_self (fs : FileSystem) (directory : Place) (name : Text) :
    (fs.remove (directory ++ [name])).item? (directory ++ [name]) = none := by
  rw [item?_remove, if_neg (List.append_ne_nil_of_right_ne_nil _ (List.cons_ne_nil _ _)),
    if_pos rfl]

theorem item?_remove_of_ne {place other : Place} (h : other ≠ place) :
    (fs.remove place).item? other = fs.item? other := by
  rw [item?_remove, if_neg h]
  split
  · rename_i hroot
    rw [hroot]
    rfl
  · rfl

/-- What is not there is in nobody's way: a directory that is reached without it is reached. -/
theorem Holds.of_remove {place : Place} (hplace : (fs.remove place).item? place = none)
    (h : Holds (fs.remove place) directory path) : Holds fs directory path := by
  refine h.of_blocks (fun other => ?_) rfl
  by_cases hother : other = place
  · rw [hother]
    exact Or.inr (blocks_of_absent hplace)
  · exact Or.inl (item?_remove_of_ne hother).symm

/-- What stands under the last name of a path is a link to a directory. -/
def EndsInDirectoryLink (fs : FileSystem) (path : Path) : Prop :=
  ∃ directory target links goal, Holds fs directory path ∧
    fs.item? (directory ++ [path.name]) = some (.link target) ∧
    Leads fs (targetStart directory target) (targetParts target) links goal ∧
    fs.item? goal = some .directory

/-- Only a link to a directory can be on the way to its own directory. -/
theorem Holds.endsInDirectoryLink (h : Holds fs directory path)
    (hitem : fs.item? (directory ++ [path.name]) ≠ some .directory)
    (hnot : ¬fs.ReachedAside path) : fs.EndsInDirectoryLink path := by
  have hblocks : ¬fs.Blocks (directory ++ [path.name]) := by
    refine fun hblocks => hnot ⟨directory, h, h.of_blocks (fun other => ?_) rfl⟩
    by_cases hother : other = directory ++ [path.name]
    · exact Or.inr (hother ▸ hblocks)
    · exact Or.inl (item?_remove_of_ne hother)
  simp only [Blocks, not_and, not_forall, List.dropLast_concat] at hblocks
  obtain ⟨target, hlink, links, goal, hleads, hgoal⟩ := hblocks hitem
  exact ⟨directory, target, links, goal, h, hlink, hleads, Decidable.not_not.mp hgoal⟩

/-- After a replacement, a directory is reached if it was reached without what was replaced. -/
theorem holds_replaced_iff (hdraft : Writable fs (directory ++ [draft])) (hne : draft ≠ name)
    {other : Place} :
    Holds (fs.replaced (directory ++ [draft]) (directory ++ [name]) octets) other path ↔
      Holds (fs.remove (directory ++ [name])) other path := by
  have hremoved := item?_remove_self fs directory name
  have hafter := item?_replaced fs directory draft name octets
  have hplaces : directory ++ [draft] ≠ directory ++ [name] := by simpa using hne
  -- outside the two places of the replacement, both file systems are as before
  have hsame {place : Place} (htarget : place ≠ directory ++ [name])
      (hplace : place ≠ directory ++ [draft]) :
      (fs.replaced (directory ++ [draft]) (directory ++ [name]) octets).item? place =
        (fs.remove (directory ++ [name])).item? place := by
    rw [hafter, if_neg htarget, if_neg hplace, item?_remove_of_ne htarget]
  constructor
  · intro h
    refine h.of_blocks (fun place => ?_) rfl
    by_cases htarget : place = directory ++ [name]
    · refine Or.inr ⟨?_, fun target hlink => ?_⟩
      · simp [hafter, htarget]
      · rw [hafter, if_pos htarget] at hlink
        cases hlink
    · by_cases hplace : place = directory ++ [draft]
      · refine Or.inr (blocks_of_absent ?_)
        rw [hafter, if_neg htarget, if_pos hplace]
      · exact Or.inl (hsame htarget hplace).symm
  · intro h
    refine h.of_blocks (fun place => ?_) rfl
    by_cases htarget : place = directory ++ [name]
    · rw [htarget]
      exact Or.inr (blocks_of_absent hremoved)
    · by_cases hplace : place = directory ++ [draft]
      · have hitem : (fs.remove (directory ++ [name])).item? place = fs.item? place :=
          item?_remove_of_ne htarget
        refine Or.inr (Writable.blocks ⟨?_, ?_⟩) <;> rw [hitem, hplace]
        · exact hdraft.not_directory
        · exact hdraft.not_link
      · exact Or.inl (hsame htarget hplace)

/-! ### Reading after a replacement -/

/-- What is read is found in a directory. -/
theorem exists_holds_of_readOctets (hname : IsName path.name)
    (h : fs.readOctets path = .ok octets) : ∃ directory, Holds fs directory path := by
  rw [readOctets] at h
  cases hwalk : fs.walk .followed path with
  | error fault =>
    rw [hwalk] at h
    cases h
  | ok place => exact exists_holds_of_walk rfl hname.ne_nil (Or.inl ⟨place, hwalk⟩)

theorem readText_eq (h : fs.readOctets path = .ok (Utf8.encode text)) :
    fs.readText path = .ok (Utf8.asRead text) := by
  rw [readText, h]
  simp only [Utf8.decodeMarked_encode_eq]
  rfl

/-- A stored text is read exactly if the directory is reached without what it has replaced. -/
theorem Holds.readText_replaced_iff (h : Holds fs directory path) (hnull : path.hasNull = false)
    (hname : IsName path.name) (hdraft : Writable fs (directory ++ [draftName path]))
    (text read : Text) :
    (fs.replaced (directory ++ [draftName path]) (directory ++ [path.name])
        (Utf8.encode text)).readText path = .ok read ↔
      fs.ReachedAside path ∧ read = Utf8.asRead text := by
  have hiff {other : Place} : Holds (fs.replaced (directory ++ [draftName path])
      (directory ++ [path.name]) (Utf8.encode text)) other path ↔
        Holds (fs.remove (directory ++ [path.name])) other path :=
    holds_replaced_iff hdraft (draftName_ne path)
  have hitem := item?_replaced fs directory (draftName path) path.name (Utf8.encode text)
    (directory ++ [path.name])
  rw [if_pos rfl] at hitem
  have hread (hafter : Holds (fs.remove (directory ++ [path.name])) directory path) :
      (fs.replaced (directory ++ [draftName path]) (directory ++ [path.name])
        (Utf8.encode text)).readText path = .ok (Utf8.asRead text) := by
    apply readText_eq
    rw [readOctets, (hiff.mpr hafter).walk_item hnull rfl hname hitem (Or.inr (by simp))]
    simp only [hitem]
  constructor
  · intro hsome
    obtain ⟨octets, hoctets, -⟩ := exists_of_readText hsome
    obtain ⟨other, hother⟩ := exists_holds_of_readOctets hname hoctets
    have hremoved := hiff.mp hother
    obtain rfl : directory = other :=
      h.unique (hremoved.of_remove (item?_remove_self fs directory path.name))
    rw [hread hremoved] at hsome
    exact ⟨⟨directory, h, hremoved⟩, (Except.ok.inj hsome).symm⟩
  · rintro ⟨⟨other, hother, hremoved⟩, rfl⟩
    obtain rfl := h.unique hother
    exact hread hremoved

/-- Where a text has been stored, it is read back if the directory is reached without what it has
    replaced, and nothing is read otherwise; then a link to a directory has been replaced.  It is
    read as it was stored exactly if it has no carriage return and no mark at its start, and no
    text is ever read with a carriage return. -/
theorem readText_replaceText {text : Text} (hlink : fs.DraftIsNoLink path)
    (hstored : fs.replaceText path text = (.ok (), fs')) :
    (∀ read, fs'.readText path = .ok read ↔ fs.ReachedAside path ∧ read = Utf8.asRead text) ∧
      (¬fs.ReachedAside path → fs.EndsInDirectoryLink path) ∧
      (Utf8.asRead text = text ↔ '\r' ∉ text ∧ text.head? ≠ some '\uFEFF') ∧
      ∀ (other : FileSystem) (source : Path) (read : Text),
        other.readText source = .ok read → '\r' ∉ read := by
  have hend := replacement_replaceText hlink text
  rw [hstored] at hend
  cases hend with
  | done hholds hnull hname hdraft htarget =>
    refine ⟨fun read => hholds.readText_replaced_iff hnull hname hdraft text read,
      hholds.endsInDirectoryLink htarget, Utf8.asRead_eq_self_iff,
      fun other source read hread => ?_⟩
    obtain ⟨-, -, hreturn⟩ := exists_of_readText hread
    exact hreturn

/-- A text with a mark and with carriage returns of all kinds, stored in the place of a link. -/
theorem readText_replaceText_link :
    let fs : FileSystem := ⟨[(["w.yml".toList], .file []), (["a.yml".toList], .link "w.yml")], []⟩
    let path : Path := ⟨.here, ["a.yml"]⟩
    ∃ fs', fs.DraftIsNoLink path ∧
      fs.replaceText path "\uFEFFa\r\r\nb\r" = (.ok (), fs') ∧
      fs'.readText path = .ok "a\n\nb\n" := by
  intro fs path
  have hwalk : fs.walk .kept (draftOf path) = .error (.absent ["a.yml.pipelint.tmp".toList]) := rfl
  have hlink : fs.DraftIsNoLink path := by
    intro place hplace
    rw [hwalk] at hplace
    cases hplace
  have hstored : fs.replaceText path "\uFEFFa\r\r\nb\r" =
    (.ok (), (fs.replaceText path "\uFEFFa\r\r\nb\r").2) := rfl
  have hreached : fs.ReachedAside path :=
    ⟨[], ⟨⟨0, Nat.zero_le _, .here⟩, rfl⟩, ⟨⟨0, Nat.zero_le _, .here⟩, rfl⟩⟩
  exact ⟨_, hlink, hstored, ((readText_replaceText hlink hstored).1 _).mpr ⟨hreached, rfl⟩⟩

/-- A link that stands on the way to its own directory is replaced by a file, and the way is
    gone. -/
theorem readText_replaceText_throughLink :
    let fs : FileSystem := ⟨[(["sub".toList], .directory), (["l".toList], .link "sub")], []⟩
    let path : Path := ⟨.here, ["l", "..", "l"]⟩
    fs.DraftIsNoLink path ∧ ∃ fs', fs.replaceText path "x" = (.ok (), fs') ∧
      fs'.readText path = .error (.refused .notDirectory path) := by
  intro fs path
  have hwalk : fs.walk .kept (draftOf path) = .error (.absent ["l.pipelint.tmp".toList]) := rfl
  refine ⟨fun place hplace => ?_, (fs.replaceText path "x").2, rfl, rfl⟩
  rw [hwalk] at hplace
  cases hplace

end FileSystem

end WorkflowLint
