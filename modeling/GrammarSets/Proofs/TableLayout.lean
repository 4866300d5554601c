import Mathlib.Data.List.Basic
import GrammarSets.Report

/-!
# The table is aligned

A line of the table has three segments, with bars around and between them. In a border the segments
are strokes, in the other lines they are cells filled up with blanks. No cell is longer than its
column is wide, so the segments of a column are all two longer than its width and the bars stand
below each other. Lengths count code points, as widths do. Only a name can break a line, and only
with a newline of its own (`newline_not_mem_layout`). All cells of a column are formatted with its
width, the header among them, so one column above the limit is enough for there to be no table.
-/
namespace GrammarSets

/-- The name of a terminal. The marks have none. -/
def Lookahead.name? : Lookahead → Option String
  | .terminal name => some name
  | .empty => none
  | .endOfInput => none

/-- The terminals in the sets of a row. -/
def Row.terminals (row : Row) : List String :=
  (row.first.toList ++ row.follow.toList).filterMap Lookahead.name?

/-- The names that a row shows. -/
def Row.names (row : Row) : List String := row.nonterminal :: row.terminals

theorem Row.mem_terminals {row : Row} {name : String} :
    name ∈ row.terminals ↔ .terminal name ∈ row.first.toList ++ row.follow.toList := by
  rw [terminals, List.mem_filterMap]
  constructor
  · intro ⟨a, ha, hname⟩
    cases a with
    | terminal other =>
        cases hname
        exact ha
    | empty => cases hname
    | endOfInput => cases hname
  · exact fun h => ⟨_, h, rfl⟩

/-- What holds of the marks and of the names in a row holds of all texts in its sets. -/
theorem Row.text_of_names {row : Row} {P : String → Prop} (hempty : P Symbol.emptyMark)
    (hend : P Lookahead.endMark) (h : ∀ name ∈ row.names, P name) {a : Lookahead}
    (ha : a ∈ row.first.toList ++ row.follow.toList) : P a.text := by
  cases a with
  | terminal name => exact h name (List.mem_cons_of_mem _ (mem_terminals.2 ha))
  | empty => exact hempty
  | endOfInput => exact hend

namespace Report

/-- Three segments with bars around and between them. -/
def framed (left middle right : Char) (s₁ s₂ s₃ : List Char) : List Char :=
  left :: s₁ ++ middle :: s₂ ++ middle :: s₃ ++ [right]

/-- The segment of a border in a column of some width. -/
def stroke (width : Nat) : List Char := List.replicate (width + 2) '─'

/-- A blank, a text, and blanks up to the next bar in a column of some width. -/
def filled (text : String) (width : Nat) : List Char :=
  ' ' :: (text.toList ++ List.replicate (width - text.length + 1) ' ')

section Segments

variable {left middle right : Char} {s₁ s₂ s₃ : List Char} {w₁ w₂ w₃ : Nat} {text : String}

theorem length_stroke (w : Nat) : (stroke w).length = w + 2 := List.length_replicate

theorem length_filled {w : Nat} (h : text.length ≤ w) : (filled text w).length = w + 2 := by
  simp only [filled, List.length_cons, List.length_append, List.length_replicate,
    String.length_toList]
  omega

/-- Each bar with the segment behind it. -/
theorem framed_eq : framed left middle right s₁ s₂ s₃ =
    left :: s₁ ++ (middle :: s₂ ++ (middle :: s₃ ++ [right])) := by
  simp only [framed, List.append_assoc]

theorem length_framed :
    (framed left middle right s₁ s₂ s₃).length = s₁.length + s₂.length + s₃.length + 4 := by
  simp only [framed, List.length_append, List.length_cons, List.length_nil]
  omega

theorem not_mem_framed {c : Char} (h₁ : c ∉ s₁) (h₂ : c ∉ s₂) (h₃ : c ∉ s₃)
    (hbars : c ∉ [left, middle, right]) : c ∉ framed left middle right s₁ s₂ s₃ := by
  simp only [framed, List.mem_append, List.mem_cons, List.not_mem_nil] at hbars ⊢
  grind

/-- What stands at the places of the bars, for columns of the widths `w₁`, `w₂` and `w₃`. -/
def barsOf (w₁ w₂ w₃ : Nat) (l : List Char) : List (Option Char) :=
  [l[0]?, l[w₁ + 3]?, l[w₁ + w₂ + 6]?, l[w₁ + w₂ + w₃ + 9]?]

theorem getElem?_cons_append (a : Char) (s t : List Char) (i : Nat) :
    (a :: s ++ t)[s.length + 1 + i]? = t[i]? := by
  rw [List.getElem?_append_right] <;> simp

theorem barsOf_framed (h₁ : s₁.length = w₁ + 2) (h₂ : s₂.length = w₂ + 2)
    (h₃ : s₃.length = w₃ + 2) :
    barsOf w₁ w₂ w₃ (framed left middle right s₁ s₂ s₃) =
      [some left, some middle, some middle, some right] := by
  -- Each place is counted from the bar before it, with that bar and its segment in between.
  have hplaces : w₁ + 3 = s₁.length + 1 + 0 ∧
      w₁ + w₂ + 6 = s₁.length + 1 + (s₂.length + 1 + 0) ∧
      w₁ + w₂ + w₃ + 9 = s₁.length + 1 + (s₂.length + 1 + (s₃.length + 1 + 0)) := by omega
  simp only [barsOf, framed_eq, hplaces, getElem?_cons_append]
  simp

end Segments

section Lines

theorem border_eq (w₁ w₂ w₃ : Nat) {left middle right : String} {l m r : Char}
    (hl : left.toList = [l]) (hm : middle.toList = [m]) (hr : right.toList = [r]) :
    border [w₁, w₂, w₃] left middle right =
      String.ofList (framed l m r (stroke w₁) (stroke w₂) (stroke w₃)) := by
  simp [← String.toList_inj, border, framed, stroke, hl, hm, hr]

theorem pad_eq (text : String) (width : Nat) :
    pad text width =
      if width ≤ maxWidth then some (String.ofList (filled text width)) else none := by
  have hpadded : " " ++ text ++ String.ofList (List.replicate (width - text.length) ' ') ++ " " =
      String.ofList (filled text width) := by
    simp [← String.toList_inj, filled, List.replicate_succ']
  rw [pad, hpadded]

/-- One width above the limit is enough for none of the cells to be there. -/
theorem mapM_pad (cells : List (String × Nat)) :
    (cells.mapM fun (cell, width) => pad cell width) =
      if ∀ c ∈ cells, c.2 ≤ maxWidth then
        some (cells.map fun c => String.ofList (filled c.1 c.2)) else none := by
  induction cells with
  | nil => rfl
  | cons c cells ih =>
      rw [List.mapM_cons, ih]
      simp only [pad_eq, List.forall_mem_cons]
      by_cases hc : c.2 ≤ maxWidth
      · by_cases hcells : ∀ c ∈ cells, c.2 ≤ maxWidth
        · rw [if_pos hc, if_pos hcells, if_pos ⟨hc, hcells⟩]
          rfl
        · rw [if_pos hc, if_neg hcells, if_neg fun h => hcells h.2]
          rfl
      · have hall : ¬ (c.2 ≤ maxWidth ∧ ∀ c ∈ cells, c.2 ≤ maxWidth) := fun h => hc h.1
        rw [if_neg hc, if_neg hall]
        rfl

/-- The line of three cells. -/
def cellLine (w₁ w₂ w₃ : Nat) (t₁ t₂ t₃ : String) : List Char :=
  framed '│' '│' '│' (filled t₁ w₁) (filled t₂ w₂) (filled t₃ w₃)

theorem line_eq (w₁ w₂ w₃ : Nat) (t₁ t₂ t₃ : String) :
    line [w₁, w₂, w₃] [t₁, t₂, t₃] = if ∀ w ∈ [w₁, w₂, w₃], w ≤ maxWidth then
      some (String.ofList (cellLine w₁ w₂ w₃ t₁ t₂ t₃)) else none := by
  have hwidths : (∀ c ∈ [t₁, t₂, t₃].zip [w₁, w₂, w₃], c.2 ≤ maxWidth) ↔
      ∀ w ∈ [w₁, w₂, w₃], w ≤ maxWidth := by simp
  rw [line, mapM_pad]
  simp only [hwidths]
  split
  · simp [← String.toList_inj, cellLine, framed]
  · rfl

/-- The line of a row. -/
def rowLine (w₁ w₂ w₃ : Nat) (row : Row) : List Char :=
  cellLine w₁ w₂ w₃ row.nonterminal (setText row.first.toList) (setText row.follow.toList)

/-- The lines of the table, for columns of the widths `w₁`, `w₂` and `w₃`. -/
def layout (w₁ w₂ w₃ : Nat) (rows : List Row) : List (List Char) :=
  [framed '┌' '┬' '┐' (stroke w₁) (stroke w₂) (stroke w₃),
      cellLine w₁ w₂ w₃ "Non-Terminal" "FIRST Set" "FOLLOW Set",
      framed '├' '┼' '┤' (stroke w₁) (stroke w₂) (stroke w₃)] ++
    rows.map (rowLine w₁ w₂ w₃) ++
    [framed '└' '┴' '┘' (stroke w₁) (stroke w₂) (stroke w₃)]

variable {rows : List Row} {w₁ w₂ w₃ : Nat}

/-- What holds of borders and of lines of cells holds of all lines. -/
theorem forall_layout {P : List Char → Prop}
    (hborder : ∀ left middle right, [left, middle, right] ⊆ "┌┬┐├┼┤└┴┘".toList →
      P (framed left middle right (stroke w₁) (stroke w₂) (stroke w₃)))
    (hhead : P (cellLine w₁ w₂ w₃ "Non-Terminal" "FIRST Set" "FOLLOW Set"))
    (hrows : ∀ row ∈ rows, P (rowLine w₁ w₂ w₃ row)) : ∀ l ∈ layout w₁ w₂ w₃ rows, P l := by
  intro l hl
  simp only [layout, List.mem_append, List.mem_cons, List.mem_map, List.not_mem_nil, or_false] at hl
  rcases hl with ((rfl | rfl | rfl) | ⟨row, hrow, rfl⟩) | rfl
  · exact hborder _ _ _ (by decide)
  · exact hhead
  · exact hborder _ _ _ (by decide)
  · exact hrows row hrow
  · exact hborder _ _ _ (by decide)

theorem length_layout : (layout w₁ w₂ w₃ rows).length = rows.length + 4 := by
  simp [layout]

theorem getElem?_layout {i : Nat} {row : Row} (h : rows[i]? = some row) :
    (layout w₁ w₂ w₃ rows)[i + 3]? = some (rowLine w₁ w₂ w₃ row) := by
  have hlt : i < (rows.map (rowLine w₁ w₂ w₃)).length := by
    rw [List.length_map]
    exact (List.getElem?_eq_some_iff.1 h).1
  have hskip : (layout w₁ w₂ w₃ rows)[i + 3]? = (rows.map (rowLine w₁ w₂ w₃) ++
      [framed '└' '┴' '┘' (stroke w₁) (stroke w₂) (stroke w₃)])[i]? := rfl
  rw [hskip, List.getElem?_append_left hlt, List.getElem?_map, h, Option.map_some]

end Lines

section Widths

/-- No text is longer than its column is wide. -/
structure Fits (w₁ w₂ w₃ : Nat) (t₁ t₂ t₃ : String) : Prop where
  first : t₁.length ≤ w₁
  second : t₂.length ≤ w₂
  third : t₃.length ≤ w₃

def RowFits (w₁ w₂ w₃ : Nat) (row : Row) : Prop :=
  Fits w₁ w₂ w₃ row.nonterminal (setText row.first.toList) (setText row.follow.toList)

variable {w₁ w₂ w₃ : Nat} {t₁ t₂ t₃ : String} {left middle right : Char}

/-- A column is as wide as the longest of its texts. -/
theorem max?_width (c : Column) (rows : List Row) :
    ((c.header :: rows.map c.cell).map String.length).max? = some (c.width rows) := by
  rw [List.map_cons, List.max?_cons', List.map_map]
  rfl

theorem length_header_le (c : Column) (rows : List Row) : c.header.length ≤ c.width rows :=
  (List.max?_eq_some_iff.1 (max?_width c rows)).2 _ List.mem_cons_self

theorem length_cell_le (c : Column) {rows : List Row} {row : Row} (h : row ∈ rows) :
    (c.cell row).length ≤ c.width rows := by
  apply (List.max?_eq_some_iff.1 (max?_width c rows)).2
  exact List.mem_map_of_mem (List.mem_cons_of_mem _ (List.mem_map_of_mem h))

theorem length_border :
    (framed left middle right (stroke w₁) (stroke w₂) (stroke w₃)).length =
      w₁ + w₂ + w₃ + 10 := by
  rw [length_framed, length_stroke, length_stroke, length_stroke]
  omega

theorem length_cellLine (h : Fits w₁ w₂ w₃ t₁ t₂ t₃) :
    (cellLine w₁ w₂ w₃ t₁ t₂ t₃).length = w₁ + w₂ + w₃ + 10 := by
  rw [cellLine, length_framed, length_filled h.first, length_filled h.second,
    length_filled h.third]
  omega

theorem barsOf_border :
    barsOf w₁ w₂ w₃ (framed left middle right (stroke w₁) (stroke w₂) (stroke w₃)) =
      [some left, some middle, some middle, some right] :=
  barsOf_framed (length_stroke w₁) (length_stroke w₂) (length_stroke w₃)

theorem barsOf_cellLine (h : Fits w₁ w₂ w₃ t₁ t₂ t₃) :
    barsOf w₁ w₂ w₃ (cellLine w₁ w₂ w₃ t₁ t₂ t₃) = [some '│', some '│', some '│', some '│'] :=
  barsOf_framed (length_filled h.first) (length_filled h.second) (length_filled h.third)

variable {rows : List Row}

theorem length_of_mem_layout (hhead : Fits w₁ w₂ w₃ "Non-Terminal" "FIRST Set" "FOLLOW Set")
    (hrows : ∀ row ∈ rows, RowFits w₁ w₂ w₃ row) {l : List Char} (hl : l ∈ layout w₁ w₂ w₃ rows) :
    l.length = w₁ + w₂ + w₃ + 10 := by
  revert l
  apply forall_layout
  · exact fun _ _ _ _ => length_border
  · exact length_cellLine hhead
  · exact fun row hrow => length_cellLine (hrows row hrow)

theorem map_barsOf_layout (hhead : Fits w₁ w₂ w₃ "Non-Terminal" "FIRST Set" "FOLLOW Set")
    (hrows : ∀ row ∈ rows, RowFits w₁ w₂ w₃ row) :
    (layout w₁ w₂ w₃ rows).map (barsOf w₁ w₂ w₃) =
      ["┌┬┬┐", "││││", "├┼┼┤"].map (fun bars => bars.toList.map some) ++
        rows.map (fun _ => "││││".toList.map some) ++ ["└┴┴┘".toList.map some] := by
  have hrow : (rows.map (rowLine w₁ w₂ w₃)).map (barsOf w₁ w₂ w₃) =
      rows.map fun _ => "││││".toList.map some := by
    rw [List.map_map]
    exact List.map_congr_left fun row hrow => barsOf_cellLine (hrows row hrow)
  rw [layout, List.map_append, List.map_append, hrow]
  simp only [List.map_cons, List.map_nil, barsOf_border, barsOf_cellLine hhead]
  rfl

theorem fits_header (rows : List Row) :
    Fits (nameColumn.width rows) (firstColumn.width rows) (followColumn.width rows)
      "Non-Terminal" "FIRST Set" "FOLLOW Set" :=
  ⟨length_header_le nameColumn rows, length_header_le firstColumn rows,
    length_header_le followColumn rows⟩

theorem fits_row {row : Row} (h : row ∈ rows) :
    RowFits (nameColumn.width rows) (firstColumn.width rows) (followColumn.width rows) row :=
  ⟨length_cell_le nameColumn h, length_cell_le firstColumn h, length_cell_le followColumn h⟩

end Widths

section Newlines

theorem not_mem_intercalate {c : Char} {s : List Char} {xs : List (List Char)} (hs : c ∉ s)
    (hxs : ∀ x ∈ xs, c ∉ x) : c ∉ s.intercalate xs := by
  induction xs with
  | nil => simp
  | cons x xs ih =>
      cases xs with
      | nil => simpa using hxs
      | cons y ys =>
          have hx : c ∉ x := hxs x List.mem_cons_self
          have htail : c ∉ s.intercalate (y :: ys) :=
            ih fun z hz => hxs z (List.mem_cons_of_mem _ hz)
          simp only [List.intercalate_cons_cons, List.mem_append]
          grind

theorem not_mem_setText {c : Char} {members : List Lookahead} (hc : c ∉ ['\x7b', ' ', ',', '\x7d'])
    (h : ∀ a ∈ members, c ∉ a.text.toList) : c ∉ (setText members).toList := by
  have hjoined : c ∉ (", ".intercalate (members.map Lookahead.text)).toList := by
    rw [String.toList_intercalate]
    apply not_mem_intercalate
    · simp_all
    · simpa using h
  simp only [setText]
  split
  · simp_all
  · simp_all

theorem not_mem_filled {c : Char} {text : String} (w : Nat) (hc : c ≠ ' ') (h : c ∉ text.toList) :
    c ∉ filled text w := by
  simp [filled, hc, h]

theorem not_mem_stroke {c : Char} (w : Nat) (hc : c ≠ '─') : c ∉ stroke w := by
  simp [stroke, hc]

theorem newline_not_mem_border (w₁ w₂ w₃ : Nat) {left middle right : Char}
    (h : '\n' ∉ [left, middle, right]) :
    '\n' ∉ framed left middle right (stroke w₁) (stroke w₂) (stroke w₃) := by
  have hstroke : ∀ w, '\n' ∉ stroke w := fun w => not_mem_stroke w (by decide)
  exact not_mem_framed (hstroke w₁) (hstroke w₂) (hstroke w₃) h

theorem newline_not_mem_cellLine (w₁ w₂ w₃ : Nat) {t₁ t₂ t₃ : String} (h₁ : '\n' ∉ t₁.toList)
    (h₂ : '\n' ∉ t₂.toList) (h₃ : '\n' ∉ t₃.toList) : '\n' ∉ cellLine w₁ w₂ w₃ t₁ t₂ t₃ := by
  have hblank : '\n' ≠ ' ' := by decide
  exact not_mem_framed (not_mem_filled w₁ hblank h₁) (not_mem_filled w₂ hblank h₂)
    (not_mem_filled w₃ hblank h₃) (by decide)

theorem newline_not_mem_rowLine (w₁ w₂ w₃ : Nat) {row : Row}
    (h : ∀ name ∈ row.names, '\n' ∉ name.toList) : '\n' ∉ rowLine w₁ w₂ w₃ row := by
  have hset : ∀ members, members ⊆ row.first.toList ++ row.follow.toList →
      '\n' ∉ (setText members).toList := by
    intro members hmembers
    apply not_mem_setText (by decide)
    intro a ha
    exact Row.text_of_names (P := fun text => '\n' ∉ text.toList) (by decide) (by decide) h
      (hmembers ha)
  exact newline_not_mem_cellLine w₁ w₂ w₃ (h _ List.mem_cons_self)
    (hset _ (List.subset_append_left _ _)) (hset _ (List.subset_append_right _ _))

variable {rows : List Row}

/-- No line holds a newline, if no name does. -/
theorem newline_not_mem_layout (w₁ w₂ w₃ : Nat)
    (h : ∀ row ∈ rows, ∀ name ∈ row.names, '\n' ∉ name.toList) :
    ∀ l ∈ layout w₁ w₂ w₃ rows, '\n' ∉ l := by
  apply forall_layout
  · intro left middle right hbars
    exact newline_not_mem_border _ _ _ fun hn => absurd (hbars hn) (by decide)
  · exact newline_not_mem_cellLine _ _ _ (by decide) (by decide) (by decide)
  · exact fun row hrow => newline_not_mem_rowLine _ _ _ (h row hrow)

end Newlines

section Texts

variable {rows : List Row} {w₁ w₂ w₃ : Nat} (h₁ : nameColumn.width rows = w₁)
  (h₂ : firstColumn.width rows = w₂) (h₃ : followColumn.width rows = w₃)
include h₁ h₂ h₃

/-- The lines of the table, or none of them if a column is above the limit. -/
theorem tableLines_eq :
    tableLines rows = if ∀ w ∈ [w₁, w₂, w₃], w ≤ maxWidth then
      some ((layout w₁ w₂ w₃ rows).map String.ofList) else none := by
  have hwidths : columns.map (Column.width rows) = [w₁, w₂, w₃] := by
    rw [← h₁, ← h₂, ← h₃]
    rfl
  have hheaders : columns.map Column.header = ["Non-Terminal", "FIRST Set", "FOLLOW Set"] := rfl
  have hcells : ∀ row, columns.map (fun c => c.cell row) =
      [row.nonterminal, setText row.first.toList, setText row.follow.toList] := fun _ => rfl
  have htop : border [w₁, w₂, w₃] "┌" "┬" "┐" =
      String.ofList (framed '┌' '┬' '┐' (stroke w₁) (stroke w₂) (stroke w₃)) :=
    border_eq w₁ w₂ w₃ rfl rfl rfl
  have hbelow : border [w₁, w₂, w₃] "├" "┼" "┤" =
      String.ofList (framed '├' '┼' '┤' (stroke w₁) (stroke w₂) (stroke w₃)) :=
    border_eq w₁ w₂ w₃ rfl rfl rfl
  have hend : border [w₁, w₂, w₃] "└" "┴" "┘" =
      String.ofList (framed '└' '┴' '┘' (stroke w₁) (stroke w₂) (stroke w₃)) :=
    border_eq w₁ w₂ w₃ rfl rfl rfl
  simp only [tableLines, hwidths, hheaders, hcells, line_eq, htop, hbelow, hend]
  split
  · have hbody : (rows.mapM fun row => some (String.ofList (cellLine w₁ w₂ w₃ row.nonterminal
        (setText row.first.toList) (setText row.follow.toList)))) =
        some ((rows.map (rowLine w₁ w₂ w₃)).map String.ofList) := by
      rw [List.map_map]
      exact List.mapM_pure
    rw [hbody]
    simp [layout]
  · rfl

/-- There is a table exactly if no column is wider than a cell can be formatted. -/
theorem isSome_table : (table rows).isSome ↔ ∀ w ∈ [w₁, w₂, w₃], w ≤ maxWidth := by
  rw [table, tableLines_eq h₁ h₂ h₃, Option.isSome_map]
  split
  · next h => exact iff_of_true rfl h
  · next h => exact iff_of_false Bool.false_ne_true h

/-- The lines of the table can be read off its text. -/
theorem splitOn_table {text : String} (htext : table rows = some text)
    (h : ∀ row ∈ rows, ∀ name ∈ row.names, '\n' ∉ name.toList) :
    text.toList.splitOn '\n' = layout w₁ w₂ w₃ rows := by
  have hfits := (isSome_table h₁ h₂ h₃).1 (Option.isSome_of_eq_some htext)
  rw [table, tableLines_eq h₁ h₂ h₃, if_pos hfits] at htext
  cases htext
  have hjoined : ("\n".intercalate ((layout w₁ w₂ w₃ rows).map String.ofList)).toList =
      ['\n'].intercalate (layout w₁ w₂ w₃ rows) := by
    rw [String.toList_intercalate, List.map_map]
    simp [Function.comp_def]
  rw [hjoined]
  exact List.splitOn_intercalate '\n' (newline_not_mem_layout w₁ w₂ w₃ h) (by simp [layout])

end Texts

/-- The columns of the table are as wide as their longest texts. If one of them is wider than a cell
can be formatted, there is no table. Otherwise the table of `n` rows has `n + 4` lines, all lines
are equally long, their bars stand at the same places, and between the bars of the line of a row are
the texts of the row, whole, and filled up with blanks. -/
theorem table_aligned (rows : List Row)
    (h : ∀ row ∈ rows, ∀ name ∈ row.names, '\n' ∉ name.toList) :
    ∃ w₁ w₂ w₃,
      (("Non-Terminal" :: rows.map Row.nonterminal).map String.length).max? = some w₁ ∧
      (("FIRST Set" :: rows.map fun row => setText row.first.toList).map String.length).max? =
        some w₂ ∧
      (("FOLLOW Set" :: rows.map fun row => setText row.follow.toList).map String.length).max? =
        some w₃ ∧
      ((table rows).isSome ↔ ∀ w ∈ [w₁, w₂, w₃], w ≤ maxWidth) ∧
      ∀ text, table rows = some text → ∃ lines,
        text.toList.splitOn '\n' = lines ∧ lines.length = rows.length + 4 ∧
        (∀ l ∈ lines, l.length = w₁ + w₂ + w₃ + 10) ∧
        lines.map (barsOf w₁ w₂ w₃) =
          ["┌┬┬┐", "││││", "├┼┼┤"].map (fun bars => bars.toList.map some) ++
            rows.map (fun _ => "││││".toList.map some) ++ ["└┴┴┘".toList.map some] ∧
        ∀ i row, rows[i]? = some row → lines[i + 3]? = some (rowLine w₁ w₂ w₃ row) ∧
          row.nonterminal.length ≤ w₁ ∧ (setText row.first.toList).length ≤ w₂ ∧
            (setText row.follow.toList).length ≤ w₃ := by
  have hheader := fits_header rows
  have hrows : ∀ row ∈ rows, RowFits _ _ _ row := fun row hrow => fits_row hrow
  refine ⟨_, _, _, max?_width nameColumn rows, max?_width firstColumn rows,
    max?_width followColumn rows, isSome_table rfl rfl rfl, fun text htext => ?_⟩
  refine ⟨_, splitOn_table rfl rfl rfl htext h, length_layout,
    fun l hl => length_of_mem_layout hheader hrows hl, map_barsOf_layout hheader hrows, ?_⟩
  intro i row hi
  have hrow := hrows row (List.mem_of_getElem? hi)
  exact ⟨getElem?_layout hi, hrow.first, hrow.second, hrow.third⟩

/-- A name that is wider than its header, and longer in bytes than in code points. -/
def wideRows : List Row :=
  [⟨"größerer_Ausdruck", {.terminal "→"}, {.endOfInput}⟩, ⟨"T", {.empty}, ∅⟩]

theorem table_aligned_wide :
    (∀ row ∈ wideRows, ∀ name ∈ row.names, '\n' ∉ name.toList) ∧
    ∃ text lines, table wideRows = some text ∧ text.toList.splitOn '\n' = lines ∧
      lines.length = 6 ∧ (∀ l ∈ lines, l.length = 17 + 9 + 10 + 10) ∧
      lines[3]? = some "│ größerer_Ausdruck │ \x7b → \x7d     │ \x7b $ \x7d      │".toList := by
  have hnames : ∀ row ∈ wideRows, ∀ name ∈ row.names, '\n' ∉ name.toList := by decide
  obtain ⟨w₁, w₂, w₃, h₁, h₂, h₃, hsome, htable⟩ := table_aligned wideRows hnames
  cases h₁.symm.trans (show _ = some 17 by decide)
  cases h₂.symm.trans (show _ = some 9 by decide)
  cases h₃.symm.trans (show _ = some 10 by decide)
  obtain ⟨text, htext⟩ := Option.isSome_iff_exists.1 (hsome.2 (by decide))
  obtain ⟨lines, hlines, hcount, hlength, _, hrows⟩ := htable text htext
  have hline : (wideRows.map (rowLine 17 9 10))[0]? =
      some "│ größerer_Ausdruck │ \x7b → \x7d     │ \x7b $ \x7d      │".toList := by decide +kernel
  exact ⟨hnames, text, lines, htext, hlines, hcount, hlength, (hrows 0 _ rfl).1.trans hline⟩

/-- A row with a name of `n` letters. -/
def longRow (n : Nat) : Row := ⟨String.ofList (List.replicate n 'a'), ∅, ∅⟩

theorem newline_not_mem_longRow (n : Nat) : ∀ name ∈ (longRow n).names, '\n' ∉ name.toList := by
  have hnames : (longRow n).names = [(longRow n).nonterminal] := rfl
  rw [hnames]
  simp [longRow]

theorem table_longRow {n : Nat} (h : maxWidth < n) : table [longRow n] = none := by
  have hlength : (nameColumn.cell (longRow n)).length = n := by simp [nameColumn, longRow]
  have hcell : (nameColumn.cell (longRow n)).length ≤ nameColumn.width [longRow n] :=
    length_cell_le nameColumn List.mem_cons_self
  rw [hlength] at hcell
  rw [← Option.not_isSome_iff_eq_none, isSome_table rfl rfl rfl]
  exact fun hfits => absurd (hfits _ List.mem_cons_self) (Nat.not_le.2 (Nat.lt_of_lt_of_le h hcell))

/-- Columns grow only up to the limit: for a name of 65536 letters there is no table. -/
theorem not_table_longRow :
    (∀ name ∈ (longRow 65536).names, '\n' ∉ name.toList) ∧ table [longRow 65536] = none ∧
    ¬ ∀ rows : List Row, (∀ row ∈ rows, ∀ name ∈ row.names, '\n' ∉ name.toList) →
      ∃ text, table rows = some text ∧
        (text.toList.splitOn '\n').length = rows.length + 4 := by
  have hnames := newline_not_mem_longRow 65536
  have hnone : table [longRow 65536] = none := table_longRow (Nat.lt_succ_self maxWidth)
  refine ⟨hnames, hnone, fun haligned => ?_⟩
  obtain ⟨text, htext, _⟩ := haligned [longRow 65536] (List.forall_mem_singleton.2 hnames)
  cases hnone.symm.trans htext

end Report
end GrammarSets
