import Mathlib.Algebra.GroupWithZero.Nat
import ClusterProbe.Report.Table
import Mathlib.Data.List.Forall2
import Mathlib.Order.Bounds.Basic

/-!
# The layout of tables

A line is a row of strips, one for each cell that stands under a header: the cell, and spaces up to
the start of the next column. What is blank at the end of the line is cut off, so a line is the
beginning of its strips (`Table.LaidOut`). A column is as wide as its longest cell, so every cell
fits, and the columns of all lines start at the same places.
-/
namespace ClusterProbe.Table

variable {headers : List String} {rows : List (List String)} {ws : List Nat} {cells : List String}
  {i w : Nat} {cell : String}

/-! ## Widths -/

/-- The lengths of the cells in column `i`. -/
def lengthsAt (lines : List (List String)) (i : Nat) : Set Nat :=
  {n | ∃ cells ∈ lines, ∃ cell, cells[i]? = some cell ∧ cell.length = n}

theorem isGreatest_foldl_max (a : Nat) (cells : List String) :
    IsGreatest (insert a {n | ∃ c ∈ cells, c.length = n})
      (cells.foldl (fun w c => max w c.length) a) := by
  induction cells generalizing a with
  | nil => simp
  | cons c cells ih =>
    obtain ⟨hmem, hub⟩ := ih (max a c.length)
    have hmax := hub (Set.mem_insert _ _)
    rw [List.foldl_cons]
    constructor
    · rcases hmem with heq | ⟨d, hd, hlen⟩
      · rcases le_total c.length a with hle | hle
        · exact .inl (heq.trans (max_eq_left hle))
        · exact .inr ⟨c, List.mem_cons_self, (heq.trans (max_eq_right hle)).symm⟩
      · exact .inr ⟨d, List.mem_cons_of_mem c hd, hlen⟩
    · rintro n (rfl | ⟨d, hd, rfl⟩)
      · exact (le_max_left _ _).trans hmax
      · rcases List.mem_cons.1 hd with rfl | hd
        · exact (le_max_right _ _).trans hmax
        · exact hub (.inr ⟨d, hd, rfl⟩)

@[simp] theorem length_widths (headers : List String) (rows : List (List String)) :
    (widths headers rows).length = headers.length := by
  simp [widths]

theorem getElem?_widths :
    (widths headers rows)[i]? =
      headers[i]?.map fun header => columnWidth header (rows.filterMap (·[i]?)) := by
  simp [widths, List.getElem?_zipIdx, Function.comp_def]

/-- A column is as wide as the longest of its header and its cells. -/
theorem isGreatest_widths (hw : (widths headers rows)[i]? = some w) :
    IsGreatest (lengthsAt (headers :: rows) i) w := by
  rw [getElem?_widths] at hw
  obtain ⟨header, hheader, rfl⟩ := Option.map_eq_some_iff.1 hw
  have hset : lengthsAt (headers :: rows) i =
      insert header.length {n | ∃ c ∈ rows.filterMap (·[i]?), c.length = n} := by
    ext n
    simp only [lengthsAt, Set.mem_ofPred_eq, List.mem_cons, exists_eq_or_imp, hheader,
      Option.some.injEq, exists_eq_left', List.mem_filterMap, Set.mem_insert_iff]
    refine or_congr eq_comm ⟨?_, ?_⟩
    · rintro ⟨row, hrow, c, hc, hlen⟩
      exact ⟨c, ⟨row, hrow, hc⟩, hlen⟩
    · rintro ⟨c, ⟨row, hrow, hc⟩, hlen⟩
      exact ⟨row, hrow, c, hc, hlen⟩
  rw [hset]
  exact isGreatest_foldl_max _ _

/-- Every cell under a header fits into its column. -/
theorem le_of_mem_zip (hcells : cells ∈ headers :: rows) :
    ∀ p ∈ cells.zip (widths headers rows), p.1.length ≤ p.2 := by
  intro p hp
  obtain ⟨i, hi⟩ := List.mem_iff_getElem?.1 hp
  obtain ⟨hcell, hw⟩ := List.getElem?_zip_eq_some.1 hi
  exact (isGreatest_widths hw).2 ⟨cells, hcells, p.1, hcell, rfl⟩

/-! ## Strips -/

/-- The cells side by side, each with its spaces up to the start of the next column. -/
def strips (ps : List (String × Nat)) : List Char :=
  ps.flatMap fun (cell, w) => padCell cell w ++ [' ', ' ']

/-- Where a column starts: behind the columns before it, with two spaces after each. -/
def offset (ws : List Nat) (i : Nat) : Nat :=
  ((ws.take i).map (· + 2)).sum

theorem offset_succ (hw : ws[i]? = some w) : offset ws (i + 1) = offset ws i + (w + 2) := by
  rw [offset, List.take_add_one, hw, List.map_append, List.sum_append]
  rfl

theorem intercalate_append {sep : List Char} {parts : List (List Char)} (h : parts ≠ []) :
    sep.intercalate parts ++ sep = parts.flatMap (· ++ sep) := by
  induction parts with
  | nil => exact absurd rfl h
  | cons part parts ih =>
    by_cases hnil : parts = []
    · simp [hnil]
    · rw [List.intercalate_cons_of_ne_nil hnil, List.flatMap_cons, ← ih hnil]
      simp only [List.append_assoc]

/-- The two spaces behind the last cell of a line make no difference, since they are cut off. -/
theorem line_eq (ws : List Nat) (cells : List String) :
    line ws cells = Text.trimEnd (strips (cells.zip ws)) := by
  have hblank : ∀ c ∈ [' ', ' '], Text.isBlank c = true := by simp [Text.isBlank]
  by_cases hnil : cells.zip ws = []
  · simp [line, strips, hnil]
  · rw [line, ← Text.trimEnd_append_blanks _ hblank, intercalate_append (by simpa using hnil),
      List.flatMap_map]
    rfl

theorem padCell_eq (cell : String) (w : Nat) :
    padCell cell w = cell.toList ++ List.replicate (w - cell.length) ' ' := by
  rw [padCell, List.rightpad, String.length_toList]

theorem length_padCell (h : cell.length ≤ w) : (padCell cell w).length = w := by
  rw [padCell_eq, List.length_append, List.length_replicate, String.length_toList]
  omega

theorem length_strips (h : ∀ p ∈ cells.zip ws, p.1.length ≤ p.2) :
    (strips (cells.zip ws)).length = offset ws cells.length := by
  induction cells generalizing ws with
  | nil => rfl
  | cons cell cells ih =>
    cases ws with
    | nil => simp [strips, offset]
    | cons w ws =>
      rw [List.zip_cons_cons] at h ⊢
      have hcell := length_padCell (h _ List.mem_cons_self)
      have hrest := ih fun p hp => h p (List.mem_cons_of_mem _ hp)
      simp only [strips, List.flatMap_cons, List.length_append] at hrest ⊢
      rw [hcell, hrest]
      simp [offset]

/-- The strip of a cell stands between the strips before it, which end where its column starts, and
those behind it. -/
theorem exists_strips (h : ∀ p ∈ cells.zip ws, p.1.length ≤ p.2) (hcell : cells[i]? = some cell)
    (hw : ws[i]? = some w) : ∃ before behind, before.length = offset ws i ∧
      strips (cells.zip ws) =
        before ++ (cell.toList ++ (List.replicate (w - cell.length + 2) ' ' ++ behind)) := by
  have hp : (cells.zip ws)[i]? = some (cell, w) := List.getElem?_zip_eq_some.2 ⟨hcell, hw⟩
  obtain ⟨hi, hp⟩ := List.getElem?_eq_some_iff.1 hp
  refine ⟨strips ((cells.zip ws).take i), strips ((cells.zip ws).drop (i + 1)), ?_, ?_⟩
  · have htake : (cells.zip ws).take i = (cells.take i).zip (ws.take i) := List.take_zipWith
    have hlt : i < cells.length := (List.getElem?_eq_some_iff.1 hcell).1
    rw [htake, length_strips fun p hp => h p (List.mem_of_mem_take (htake ▸ hp)), offset,
      List.take_take, List.length_take]
    congr 4
    omega
  · conv_lhs => rw [← List.take_append_drop i (cells.zip ws), List.drop_eq_getElem_cons hi, hp]
    simp only [strips, List.flatMap_append, List.flatMap_cons, padCell_eq, List.append_assoc,
      List.replicate_add]
    rfl

/-! ## Lines -/

/-- What is found on a line for cells in columns of these widths. -/
structure LaidOut (ws : List Nat) (cells : List String) (chars : List Char) : Prop where
  /-- The line does not end with a blank. -/
  trimmed : ∀ front last, chars = front ++ [last] → Text.isBlank last = false
  /-- A cell under a header stands where its column starts, but for blanks at its end that the line
  may lack. -/
  shown : ∀ i cell, i < ws.length → cells[i]? = some cell → ∃ lacking,
    cell.toList = (chars.drop (offset ws i)).take cell.length ++ lacking ∧
      ∀ c ∈ lacking, Text.isBlank c = true
  /-- From the end of a cell to the next column there are only spaces. -/
  spaced : ∀ i cell p c, i < ws.length → cells[i]? = some cell →
    offset ws i + cell.length ≤ p → p < offset ws (i + 1) → chars[p]? = some c → c = ' '
  /-- Nothing stands behind the last column that the line has a cell for. -/
  ends : chars.length ≤ offset ws cells.length

theorem laidOut_line (h : ∀ p ∈ cells.zip ws, p.1.length ≤ p.2) :
    LaidOut ws cells (line ws cells) := by
  -- the line is the beginning of its strips, and only blanks are missing
  obtain ⟨after, hsplit, hblank⟩ := Text.exists_trimEnd (strips (cells.zip ws))
  rw [← line_eq] at hsplit
  refine ⟨?_, ?_, ?_, ?_⟩
  · intro front last hline
    exact Text.last_trimEnd ((line_eq ws cells).symm.trans hline)
  · intro i cell hi hcell
    obtain ⟨before, behind, hlength, hstrips⟩ :=
      exists_strips h hcell (List.getElem?_eq_getElem hi)
    refine ⟨(after.drop (offset ws i - (line ws cells).length)).take
      (cell.length - ((line ws cells).drop (offset ws i)).length), ?_, fun c hc =>
        hblank c (List.mem_of_mem_drop (List.mem_of_mem_take hc))⟩
    rw [← List.take_append, ← List.drop_append, ← hsplit, hstrips, ← hlength, List.drop_left,
      List.take_left' (String.length_toList)]
  · intro i cell p c hi hcell hstart hend hc
    obtain ⟨before, behind, hlength, hstrips⟩ :=
      exists_strips h hcell (List.getElem?_eq_getElem hi)
    rw [offset_succ (List.getElem?_eq_getElem hi)] at hend
    have hfits : cell.length ≤ ws[i] :=
      h (cell, ws[i]) (List.mem_iff_getElem?.2
        ⟨i, List.getElem?_zip_eq_some.2 ⟨hcell, List.getElem?_eq_getElem hi⟩⟩)
    have hp : (strips (cells.zip ws))[p]? = some c := by
      rw [hsplit, List.getElem?_append_left (List.getElem?_eq_some_iff.1 hc).1, hc]
    rw [hstrips, List.getElem?_append_right (by omega),
      List.getElem?_append_right (by rw [String.length_toList]; omega),
      List.getElem?_append_left (by rw [List.length_replicate, String.length_toList]; omega)] at hp
    exact (List.mem_replicate.1 (List.mem_of_getElem? hp)).2
  · rw [← length_strips h, hsplit, List.length_append]
    exact Nat.le_add_right _ _

theorem newline_not_mem_line (h : ∀ cell ∈ cells, '\n' ∉ cell.toList) : '\n' ∉ line ws cells := by
  obtain ⟨after, hsplit, -⟩ := Text.exists_trimEnd (strips (cells.zip ws))
  rw [← line_eq] at hsplit
  intro hmem
  have hstrips : '\n' ∈ strips (cells.zip ws) := hsplit ▸ List.mem_append_left after hmem
  obtain ⟨⟨cell, w⟩, hp, hc⟩ := List.mem_flatMap.1 hstrips
  dsimp only at hc
  rw [padCell_eq, List.append_assoc] at hc
  rcases List.mem_append.1 hc with hc | hc
  · exact h cell (List.of_mem_zip hp).1 hc
  · simp at hc

/-! ## Tables -/

theorem splitOn_lines {lines : List (List Char)} (h : ∀ l ∈ lines, '\n' ∉ l) :
    (lines.flatMap (· ++ ['\n'])).splitOn '\n' = lines ++ [[]] := by
  induction lines with
  | nil => rfl
  | cons l lines ih =>
    rw [List.flatMap_cons, List.append_assoc, List.singleton_append,
      List.splitOn_append_cons_self_of_not_mem (h l List.mem_cons_self),
      ih fun l' hl' => h l' (List.mem_cons_of_mem l hl'), List.cons_append]

theorem widths_take (headers : List String) (rows : List (List String)) :
    widths headers (rows.map (·.take headers.length)) = widths headers rows := by
  refine List.ext_getElem? fun i => ?_
  rw [getElem?_widths, getElem?_widths]
  cases hheader : headers[i]? with
  | none => rfl
  | some header =>
    have hi : i < headers.length := (List.getElem?_eq_some_iff.1 hheader).1
    have htake (row : List String) : (row.take headers.length)[i]? = row[i]? :=
      List.getElem?_take_of_lt hi
    simp only [List.filterMap_map, Function.comp_def, htake]

theorem line_take (ws : List Nat) (cells : List String) :
    line ws (cells.take ws.length) = line ws cells := by
  have hzip : (cells.take ws.length).zip ws = cells.zip ws := by
    conv_lhs => rw [List.zip_eq_zip_take_min, List.take_take, List.length_take]
    conv_rhs => rw [List.zip_eq_zip_take_min]
    simp [Nat.min_comm]
  rw [line_eq, line_eq, hzip]

theorem format_take (headers : List String) (rows : List (List String)) :
    format headers (rows.map (·.take headers.length)) = format headers rows := by
  have hline (cells : List String) :
      line (widths headers rows) (cells.take headers.length) =
        line (widths headers rows) cells := by
    rw [← length_widths headers rows, line_take]
  simp only [format, widths_take, List.flatMap_cons, List.flatMap_map, hline]

/-- **Aligned columns.** The text of a table has one line for the headers and one for each row, in
this order, and each is laid out in columns as wide as their longest cells. Cells beyond the headers
make no difference. -/
theorem columns_aligned (headers : List String) (rows : List (List String))
    (h : ∀ cells ∈ headers :: rows, ∀ cell ∈ cells, '\n' ∉ cell.toList) :
    ∃ (ws : List Nat) (lines : List (List Char)), ws.length = headers.length ∧
      (∀ i w, ws[i]? = some w → IsGreatest (lengthsAt (headers :: rows) i) w) ∧
      (format headers rows).toList.splitOn '\n' = lines ++ [[]] ∧
      List.Forall₂ (LaidOut ws) (headers :: rows) lines ∧
      format headers (rows.map (·.take headers.length)) = format headers rows := by
  refine ⟨widths headers rows, (headers :: rows).map (line (widths headers rows)),
    length_widths headers rows, fun i w => isGreatest_widths, ?_, ?_, format_take headers rows⟩
  · have hlines : ∀ l ∈ (headers :: rows).map (line (widths headers rows)), '\n' ∉ l := by
      intro l hl
      obtain ⟨cells, hcells, rfl⟩ := List.mem_map.1 hl
      exact newline_not_mem_line (h cells hcells)
    rw [← splitOn_lines hlines, List.flatMap_map, format, String.toList_ofList]
  · rw [List.forall₂_map_right_iff, List.forall₂_same]
    exact fun cells hcells => laidOut_line (le_of_mem_zip hcells)

/-- One row is longer than the headers, one is shorter and ends with blanks, one is empty. -/
theorem columns_aligned_ragged :
    let headers := ["A", "LONG HEADER"]
    let rows := [["wide cell", "é", "unseen"], ["x \t"], []]
    (∀ cells ∈ headers :: rows, ∀ cell ∈ cells, '\n' ∉ cell.toList) ∧
      format headers rows = "A          LONG HEADER\nwide cell  é\nx\n\n" ∧
      ∃ (ws : List Nat) (lines : List (List Char)), ws.length = 2 ∧
        (format headers rows).toList.splitOn '\n' = lines ++ [[]] ∧
        List.Forall₂ (LaidOut ws) (headers :: rows) lines := by
  intro headers rows
  have hclear : ∀ cells ∈ headers :: rows, ∀ cell ∈ cells, '\n' ∉ cell.toList := by decide
  have htext : format headers rows = "A          LONG HEADER\nwide cell  é\nx\n\n" := by
    decide +kernel
  obtain ⟨ws, lines, hlength, -, hlines, hlaidOut, -⟩ := columns_aligned headers rows hclear
  exact ⟨hclear, htext, ws, lines, hlength, hlines, hlaidOut⟩

end ClusterProbe.Table
