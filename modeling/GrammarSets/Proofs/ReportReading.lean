import Mathlib.Data.List.DropRight
import GrammarSets.Proofs.Rows
import GrammarSets.Proofs.TableLayout
import GrammarSets.Proofs.WellFormed

/-!
# Both reports can be read back

Names are not quoted in a report, and they may hold commas, braces, brackets and bars. Still nothing
is lost, since they are words: not empty, and without blanks. The words of a plain line are a head
around a name, `=`, and the words of a set; of these each member but the last has one comma more
than its name. In the table nothing tells a bar from a name that holds one, so a reader takes the
widths of the columns from the upper border, which shows no names, and cuts the other lines at these
places.
-/
namespace GrammarSets

/-- A text that is not empty and has no blanks. -/
def Word (text : String) : Prop := text ≠ "" ∧ ∀ c ∈ text.toList, Text.isBlank c = false

instance (text : String) : Decidable (Word text) :=
  decidable_of_iff (text ≠ "" ∧ text.toList.all (fun c => !Text.isBlank c) = true) (by simp [Word])

theorem Word.not_mem {text : String} (h : Word text) {c : Char} (hc : Text.isBlank c = true) :
    c ∉ text.toList := by
  intro hm
  rw [h.2 c hm] at hc
  cases hc

/-- What a report shows of a row: names, without telling the marks from terminals. -/
structure Shown where
  nonterminal : String
  first : List String
  follow : List String
deriving DecidableEq

def Row.shown (row : Row) : Shown :=
  ⟨row.nonterminal, row.first.toList.map Lookahead.text, row.follow.toList.map Lookahead.text⟩

namespace Report

section Sets

/-- Texts with a comma behind each but the last. -/
def commas : List (List Char) → List (List Char)
  | [] => []
  | x :: xs => (if xs = [] then x else x ++ [',']) :: commas xs

def uncommas : List (List Char) → List (List Char)
  | [] => []
  | w :: ws => (if ws = [] then w else w.dropLast) :: uncommas ws

theorem commas_eq_nil {xs : List (List Char)} : commas xs = [] ↔ xs = [] := by
  cases xs <;> simp [commas]

theorem uncommas_commas (xs : List (List Char)) : uncommas (commas xs) = xs := by
  induction xs with
  | nil => rfl
  | cons x xs ih =>
      rw [commas, uncommas, ih]
      by_cases hxs : xs = []
      · simp [hxs, commas]
      · simp [hxs, commas_eq_nil]

/-- Joining words with blanks puts a comma and a blank between any two. -/
theorem intercalate_commas (x z : List Char) (xs : List (List Char)) :
    [' '].intercalate (commas (x :: xs) ++ [z]) = [',', ' '].intercalate (x :: xs) ++ ' ' :: z := by
  induction xs generalizing x with
  | nil => simp [commas]
  | cons y ys ih =>
      have hne : commas (y :: ys) ++ [z] ≠ [] := by simp
      rw [commas, if_neg (List.cons_ne_nil y ys), List.cons_append,
        List.intercalate_cons_of_ne_nil hne, ih, List.intercalate_cons_cons]
      simp

/-- The words of a set in a report. -/
def setWords (texts : List String) : List (List Char) :=
  ['\x7b'] :: (commas (texts.map String.toList) ++ [['\x7d']])

/-- Reads a set from its words. -/
def readSet (words : List (List Char)) : List String :=
  (uncommas words.tail.dropLast).map String.ofList

variable {members : List Lookahead} {texts : List String}

theorem readSet_setWords (texts : List String) : readSet (setWords texts) = texts := by
  simp [readSet, setWords, uncommas_commas]

theorem toList_setText (h : ∀ a ∈ members, Word a.text) :
    (setText members).toList = [' '].intercalate (setWords (members.map Lookahead.text)) := by
  cases members with
  | nil => rfl
  | cons a as =>
      have ha : a.text ≠ "" := (h a List.mem_cons_self).1
      -- The short form for an empty join is for sets without members: a word is never empty.
      have hjoined : ", ".intercalate ((a :: as).map Lookahead.text) ≠ "" := by
        cases as <;> simp [ha]
      have hlist : (", ".intercalate ((a :: as).map Lookahead.text)).toList =
          [',', ' '].intercalate (((a :: as).map Lookahead.text).map String.toList) :=
        String.toList_intercalate
      simp only [setText, if_neg hjoined, String.toList_append, hlist]
      have hne : commas (((a :: as).map Lookahead.text).map String.toList) ++ [['\x7d']] ≠ [] := by
        simp
      rw [setWords, List.intercalate_cons_of_ne_nil hne, List.map_cons, List.map_cons,
        intercalate_commas]
      simp

theorem blank_not_mem_commas {xs : List (List Char)} (h : ∀ x ∈ xs, ' ' ∉ x) :
    ∀ w ∈ commas xs, ' ' ∉ w := by
  induction xs with
  | nil => simp [commas]
  | cons x xs ih =>
      intro w hw
      cases List.mem_cons.1 hw with
      | inl he =>
          have hx : ' ' ∉ x := h x List.mem_cons_self
          subst he
          split
          · exact hx
          · simpa using hx
      | inr hm => exact ih (fun y hy => h y (List.mem_cons_of_mem _ hy)) w hm

theorem blank_not_mem_setWords (h : ∀ text ∈ texts, Word text) : ∀ w ∈ setWords texts, ' ' ∉ w := by
  have htexts : ∀ x ∈ texts.map String.toList, ' ' ∉ x := by
    intro x hx
    obtain ⟨text, ht, rfl⟩ := List.mem_map.1 hx
    exact (h text ht).not_mem rfl
  have hcommas := blank_not_mem_commas htexts
  intro w hw
  simp only [setWords, List.mem_cons, List.mem_append, List.not_mem_nil, or_false] at hw
  rcases hw with rfl | hw | rfl
  · decide
  · exact hcommas w hw
  · decide

/-- A set is read from its text. -/
theorem splitOn_setText (h : ∀ a ∈ members, Word a.text) :
    (setText members).toList.splitOn ' ' = setWords (members.map Lookahead.text) := by
  rw [toList_setText h]
  apply List.splitOn_intercalate ' ' _ (List.cons_ne_nil _ _)
  apply blank_not_mem_setWords
  simpa using h

end Sets

section Plain

/-- Reads the name between a head, such as `FIRST(`, and a closing bracket. -/
def readName (head : String) (word : List Char) : String :=
  .ofList (word.drop head.length).dropLast

/-- Reads the two lines of each row. -/
def readLines : List (List Char) → List Shown
  | first :: follow :: rest =>
      ⟨readName "FIRST(" ((first.splitOn ' ').headD []), readSet ((first.splitOn ' ').drop 2),
        readSet ((follow.splitOn ' ').drop 2)⟩ :: readLines rest
  | _ => []

def readPlain (text : String) : List Shown := readLines (text.toList.splitOn '\n')

variable {members : List Lookahead} {name : String} {row : Row} {rows : List Row}

theorem readName_append (head name : String) :
    readName head (head.toList ++ name.toList ++ [')']) = name := by
  rw [readName, List.append_assoc, List.drop_left' String.length_toList, List.dropLast_concat,
    String.ofList_toList]

/-- The words of a line. -/
theorem splitOn_line (head : String) (hhead : ' ' ∉ head.toList) (hname : Word name)
    (hmembers : ∀ a ∈ members, Word a.text) :
    (head ++ name ++ ") = " ++ setText members).toList.splitOn ' ' =
      (head.toList ++ name.toList ++ [')']) :: ['='] :: setWords (members.map Lookahead.text) := by
  have hfirst : ' ' ∉ head.toList ++ name.toList ++ [')'] := by
    have hn : ' ' ∉ name.toList := hname.not_mem rfl
    simp [hhead, hn]
  have hlist : (head ++ name ++ ") = " ++ setText members).toList =
      (head.toList ++ name.toList ++ [')']) ++
        ' ' :: (['='] ++ ' ' :: (setText members).toList) := by simp
  rw [hlist, List.splitOn_append_cons_self_of_not_mem hfirst,
    List.splitOn_append_cons_self_of_not_mem (by decide), splitOn_setText hmembers]

/-- If the names in a row are words, so are all texts in its sets. -/
theorem word_text (h : ∀ name ∈ row.names, Word name) :
    (∀ a ∈ row.first.toList, Word a.text) ∧ ∀ a ∈ row.follow.toList, Word a.text := by
  have hword : ∀ a ∈ row.first.toList ++ row.follow.toList, Word a.text := fun a ha =>
    Row.text_of_names (by decide) (by decide) h ha
  exact ⟨fun a ha => hword a (List.mem_append_left _ ha),
    fun a ha => hword a (List.mem_append_right _ ha)⟩

theorem readLines_plainLines (h : ∀ row ∈ rows, ∀ name ∈ row.names, Word name) :
    readLines ((rows.flatMap plainLines).map String.toList) = rows.map Row.shown := by
  induction rows with
  | nil => rfl
  | cons row rows ih =>
      have hrow := h row List.mem_cons_self
      have hname : Word row.nonterminal := hrow _ List.mem_cons_self
      have htail := ih fun r hr => h r (List.mem_cons_of_mem _ hr)
      have hfirst := splitOn_line "FIRST(" (by decide) hname (word_text hrow).1
      have hfollow := splitOn_line "FOLLOW(" (by decide) hname (word_text hrow).2
      rw [List.flatMap_cons, List.map_append, plainLines]
      simp only [List.map_cons, List.map_nil, List.cons_append, List.nil_append, readLines, hfirst,
        hfollow, htail, List.headD_cons, readName_append, List.drop_succ_cons, List.drop_zero,
        readSet_setWords]
      rfl

theorem newline_not_mem_plainLines (h : ∀ name ∈ row.names, Word name) :
    ∀ l ∈ plainLines row, '\n' ∉ l.toList := by
  have hname : '\n' ∉ row.nonterminal.toList := (h _ List.mem_cons_self).not_mem rfl
  have hset : ∀ {members}, (∀ a ∈ members, Word a.text) → '\n' ∉ (setText members).toList :=
    fun hmembers => not_mem_setText (by decide) fun a ha => (hmembers a ha).not_mem rfl
  have hfirst := hset (word_text h).1
  have hfollow := hset (word_text h).2
  simp [plainLines, hname, hfirst, hfollow]

/-- Reading the plain report gives what it shows. -/
theorem readPlain_plain (h : ∀ row ∈ rows, ∀ name ∈ row.names, Word name) :
    readPlain (plain rows) = rows.map Row.shown := by
  -- The report of no rows is one empty line, so it is not the join of its lines.
  cases rows with
  | nil => rfl
  | cons row rows =>
      have hlines : ∀ l ∈ ((row :: rows).flatMap plainLines).map String.toList, '\n' ∉ l := by
        intro l hl
        obtain ⟨line, hline, rfl⟩ := List.mem_map.1 hl
        obtain ⟨r, hr, hline⟩ := List.mem_flatMap.1 hline
        exact newline_not_mem_plainLines (h r hr) line hline
      have hjoined : (plain (row :: rows)).toList =
          ['\n'].intercalate (((row :: rows).flatMap plainLines).map String.toList) :=
        String.toList_intercalate
      rw [readPlain, hjoined, List.splitOn_intercalate '\n' hlines (by simp [plainLines]),
        readLines_plainLines h]

end Plain

section Table

/-- The text in a cell. -/
def readCell (segment : List Char) : List Char := segment.tail.rdropWhile (· == ' ')

/-- Reads the line of a row whose segments have the given lengths. -/
def readRow (n₁ n₂ n₃ : Nat) (l : List Char) : Shown :=
  ⟨.ofList (readCell ((l.drop 1).take n₁)),
    readSet ((readCell ((l.drop (n₁ + 2)).take n₂)).splitOn ' '),
    readSet ((readCell ((l.drop (n₁ + n₂ + 3)).take n₃)).splitOn ' ')⟩

/-- Reads the table. The lengths of the segments are those in the upper border. -/
def readTable (text : String) : List Shown :=
  let lines := text.toList.splitOn '\n'
  match ((lines.headD []).splitOn '┬').map List.length with
  | [n₁, n₂, n₃] => ((lines.drop 3).dropLast).map (readRow (n₁ - 1) n₂ (n₃ - 1))
  | _ => []

variable {rows : List Row} {row : Row} {text : String} {w₁ w₂ w₃ : Nat}

theorem rdropWhile_append_replicate (x : List Char) (n : Nat) :
    (x ++ List.replicate n ' ').rdropWhile (· == ' ') = x.rdropWhile (· == ' ') := by
  induction n with
  | zero => rw [List.replicate_zero, List.append_nil]
  | succ n ih =>
      rw [List.replicate_succ', ← List.append_assoc, List.rdropWhile_concat_pos _ _ _ rfl, ih]

theorem readCell_filled (w : Nat) (h : text.toList.getLast? ≠ some ' ') :
    readCell (filled text w) = text.toList := by
  have hself : text.toList.rdropWhile (· == ' ') = text.toList := by
    rw [List.rdropWhile_eq_self_iff]
    intro hne hblank
    apply h
    rw [List.getLast?_eq_some_getLast hne, eq_of_beq hblank]
  rw [readCell, filled, List.tail_cons, rdropWhile_append_replicate, hself]

theorem getLast?_setText (members : List Lookahead) :
    (setText members).toList.getLast? = some '\x7d' := by
  simp only [setText]
  split
  · rfl
  · simp [List.getLast?_cons, List.getLast?_append]

theorem drop_cons_append (a : Char) (s t : List Char) (n : Nat) :
    (a :: s ++ t).drop (s.length + 1 + n) = t.drop n := by
  rw [← List.drop_drop, List.drop_left' (List.length_cons)]

/-- Where the segments of a line are. -/
theorem segments_framed (left middle right : Char) (s₁ s₂ s₃ : List Char) :
    ((framed left middle right s₁ s₂ s₃).drop 1).take s₁.length = s₁ ∧
    ((framed left middle right s₁ s₂ s₃).drop (s₁.length + 2)).take s₂.length = s₂ ∧
    ((framed left middle right s₁ s₂ s₃).drop (s₁.length + s₂.length + 3)).take s₃.length =
      s₃ := by
  have hplaces : s₁.length + 2 = s₁.length + 1 + 1 ∧
      s₁.length + s₂.length + 3 = s₁.length + 1 + (s₂.length + 1 + 1) := by omega
  rw [framed_eq, hplaces.1, hplaces.2, drop_cons_append, drop_cons_append, drop_cons_append]
  simp only [List.cons_append, List.drop_succ_cons, List.drop_zero, List.take_left', and_self]

theorem readRow_rowLine (h : ∀ name ∈ row.names, Word name) (hfits : RowFits w₁ w₂ w₃ row) :
    readRow (w₁ + 2) (w₂ + 2) (w₃ + 2) (rowLine w₁ w₂ w₃ row) = row.shown := by
  -- No text ends in a blank, so the blanks behind it are those it was filled up with.
  have hname : row.nonterminal.toList.getLast? ≠ some ' ' := fun hblank =>
    (h _ List.mem_cons_self).not_mem rfl (List.mem_of_getLast? hblank)
  have hset : ∀ members, (setText members).toList.getLast? ≠ some ' ' := by
    intro members
    rw [getLast?_setText]
    decide
  obtain ⟨h₁, h₂, h₃⟩ := segments_framed '│' '│' '│' (filled row.nonterminal w₁)
    (filled (setText row.first.toList) w₂) (filled (setText row.follow.toList) w₃)
  rw [length_filled hfits.first] at h₁ h₂ h₃
  rw [length_filled hfits.second] at h₂ h₃
  rw [length_filled hfits.third] at h₃
  rw [readRow, rowLine, cellLine, h₁, h₂, h₃, readCell_filled _ hname, readCell_filled _ (hset _),
    readCell_filled _ (hset _), splitOn_setText (word_text h).1, splitOn_setText (word_text h).2,
    readSet_setWords, readSet_setWords, String.ofList_toList]
  rfl

theorem splitOn_upperBorder (w₁ w₂ w₃ : Nat) :
    ((framed '┌' '┬' '┐' (stroke w₁) (stroke w₂) (stroke w₃)).splitOn '┬').map List.length =
      [w₁ + 3, w₂ + 2, w₃ + 3] := by
  have hstroke : ∀ w, '┬' ∉ stroke w := fun w => not_mem_stroke w (by decide)
  have hjoined : framed '┌' '┬' '┐' (stroke w₁) (stroke w₂) (stroke w₃) =
      ['┬'].intercalate ['┌' :: stroke w₁, stroke w₂, stroke w₃ ++ ['┐']] := by
    simp [framed]
  rw [hjoined, List.splitOn_intercalate '┬' (by simp [hstroke]) (by simp)]
  simp [length_stroke]

/-- Reading the table, where there is one, gives what it shows. -/
theorem readTable_table {text : String} (htext : table rows = some text)
    (h : ∀ row ∈ rows, ∀ name ∈ row.names, Word name) : readTable text = rows.map Row.shown := by
  have hnewline : ∀ row ∈ rows, ∀ name ∈ row.names, '\n' ∉ name.toList :=
    fun row hr name hn => (h row hr name hn).not_mem rfl
  have hrows : ∀ row ∈ rows, RowFits _ _ _ row := fun row hr => fits_row hr
  simp only [readTable, splitOn_table rfl rfl rfl htext hnewline]
  simp only [layout, List.cons_append, List.nil_append, List.headD_cons, splitOn_upperBorder,
    List.drop_succ_cons, List.drop_zero, List.dropLast_concat, List.map_map]
  exact List.map_congr_left fun row hr => readRow_rowLine (h row hr) (hrows row hr)

end Table
end Report

section Marks

theorem map_map_eq_self {α β : Type} {f : α → β} {g : β → α} {xs : List α}
    (h : ∀ x ∈ xs, g (f x) = x) : (xs.map f).map g = xs := by
  rw [List.map_map]
  exact (List.map_congr_left h).trans (List.map_id' xs)

/-- Reads a member of a set, where no terminal is spelled like a mark. -/
def Lookahead.ofText (text : String) : Lookahead :=
  if text = Symbol.emptyMark then .empty
  else if text = endMark then .endOfInput
  else .terminal text

theorem Lookahead.ofText_text {a : Lookahead}
    (h : ∀ name, a = .terminal name → name ≠ Symbol.emptyMark ∧ name ≠ endMark) :
    ofText a.text = a := by
  cases a with
  | terminal name =>
      have hname := h name rfl
      rw [text, ofText, if_neg hname.1, if_neg hname.2]
  | empty => rfl
  | endOfInput => rfl

/-- The row that shows something, if no terminal is spelled like a mark. -/
def Shown.row (s : Shown) : Row :=
  ⟨s.nonterminal, .ofList (s.first.map Lookahead.ofText), .ofList (s.follow.map Lookahead.ofText)⟩

theorem Row.row_shown {row : Row}
    (h : ∀ name ∈ row.terminals, name ≠ Symbol.emptyMark ∧ name ≠ Lookahead.endMark) :
    row.shown.row = row := by
  have hset : ∀ set : LookaheadSet, set.toList ⊆ row.first.toList ++ row.follow.toList →
      OrderedSet.ofList ((set.toList.map Lookahead.text).map Lookahead.ofText) = set := by
    intro set hset
    have hread : ∀ a ∈ set.toList, Lookahead.ofText a.text = a := by
      intro a ha
      apply Lookahead.ofText_text
      rintro name rfl
      exact h name (mem_terminals.2 (hset ha))
    rw [map_map_eq_self hread]
    exact OrderedSet.ext fun a => OrderedSet.mem_ofList
  have hfirst := hset row.first (List.subset_append_left _ _)
  have hfollow := hset row.follow (List.subset_append_right _ _)
  rw [shown, Shown.row, hfirst, hfollow]

end Marks

/-- The names in the rows of a grammar that was read are words. -/
theorem Source.word_of_mem_rows {s : Source} {settings : Settings} {g : Grammar}
    (h : (s.read settings).value = .ok g) {row : Row} (hrow : row ∈ g.analyze.value.rows g) :
    ∀ name ∈ row.names, Word name := by
  obtain ⟨d, hd, hg⟩ := read_eq_ok_iff.1 h
  have haccepted : d.Accepted := accepted_of_collect hd Draft.accepted_empty
  rw [← d.ofRules_toRules] at hg
  have hformed : g.WellFormed :=
    Grammar.wellFormed_of_classify hg fun r hr => haccepted.of_mem_toRules hr
  obtain ⟨hname, hfirst, hfollow⟩ := Analysis.mem_rows.1 hrow
  have hterminal : ∀ name ∈ row.terminals, name ∈ g.terminals := by
    intro name hn
    cases List.mem_append.1 (Row.mem_terminals.1 hn) with
    | inl ha => simpa using Grammar.mem_terminals_of_firstSet hfirst ha
    | inr ha => simpa using Grammar.mem_terminals_of_followSet hfollow ha
  intro name hn
  have hsymbol : Text.IsSymbol name.toList := by
    apply hformed.names
    cases List.mem_cons.1 hn with
    | inl he => exact .inl (he ▸ hname)
    | inr hn => exact .inr (hterminal name hn)
  exact ⟨fun he => hsymbol.nonempty (String.toList_eq_nil_iff.2 he), hsymbol.noBlank⟩

namespace Report

/-- Rows with the same plain report, or with the same text for a table, show the same names in the
same places. If no terminal is spelled like a mark, they are the same rows. All names must be words,
as they are in a grammar that was read. -/
theorem reports_readable :
    (∀ rows rows' : List Row, (∀ row ∈ rows ++ rows', ∀ name ∈ row.names, Word name) →
      (plain rows = plain rows' ∨ ∃ text, table rows = some text ∧ table rows' = some text) →
      rows.map Row.shown = rows'.map Row.shown ∧
      ((∀ row ∈ rows ++ rows', ∀ name ∈ row.terminals,
        name ≠ Symbol.emptyMark ∧ name ≠ Lookahead.endMark) → rows = rows')) ∧
    ∀ (s : Source) (settings : Settings) (g : Grammar), (s.read settings).value = .ok g →
      ∀ row ∈ g.analyze.value.rows g, ∀ name ∈ row.names, Word name := by
  constructor
  · intro rows rows' h heq
    have hrows : ∀ row ∈ rows, ∀ name ∈ row.names, Word name :=
      fun row hr => h row (List.mem_append_left _ hr)
    have hrows' : ∀ row ∈ rows', ∀ name ∈ row.names, Word name :=
      fun row hr => h row (List.mem_append_right _ hr)
    have hshown : rows.map Row.shown = rows'.map Row.shown := by
      cases heq with
      | inl hplain => rw [← readPlain_plain hrows, hplain, readPlain_plain hrows']
      | inr htable =>
          obtain ⟨text, htext, htext'⟩ := htable
          rw [← readTable_table htext hrows, readTable_table htext' hrows']
    refine ⟨hshown, fun hmarks => ?_⟩
    have hread : ∀ row ∈ rows ++ rows', row.shown.row = row := fun row hr =>
      Row.row_shown (hmarks row hr)
    rw [← map_map_eq_self fun row hr => hread row (List.mem_append_left _ hr), hshown,
      map_map_eq_self fun row hr => hread row (List.mem_append_right _ hr)]
  · exact fun s settings g h row hrow => Source.word_of_mem_rows h hrow

/-- Rows with a terminal that is spelled like the end of the input, or with the end of the input. -/
def dollarRows (dollar : Lookahead) : List Row :=
  [⟨"A=", .ofList [.terminal ",", .terminal "│", .empty], {dollar}⟩,
    ⟨"B)", ∅, .ofList [.terminal "!", dollar]⟩]

/-- The plain reports are the same, so the same is shown, though the rows are not the same. With the
terminal `#` in the place of `$`, the texts of the tables differ. -/
theorem reports_readable_dollar :
    (∀ row ∈ dollarRows (.terminal "$") ++ dollarRows .endOfInput, ∀ name ∈ row.names, Word name) ∧
    plain (dollarRows (.terminal "$")) = plain (dollarRows .endOfInput) ∧
    (dollarRows (.terminal "$")).map Row.shown = (dollarRows .endOfInput).map Row.shown ∧
    dollarRows (.terminal "$") ≠ dollarRows .endOfInput ∧
    (∃ text text', table (dollarRows (.terminal "#")) = some text ∧
      table (dollarRows .endOfInput) = some text' ∧ text ≠ text') ∧
    (Source.scattered.read ⟨"end", some "E"⟩).value = .ok Source.scatteredGrammar ∧
    ∀ row ∈ Source.scatteredGrammar.analyze.value.rows Source.scatteredGrammar,
      ∀ name ∈ row.names, Word name := by
  have hwords : ∀ row ∈ dollarRows (.terminal "$") ++ dollarRows .endOfInput,
      ∀ name ∈ row.names, Word name := by decide +kernel
  have hwords' : ∀ row ∈ dollarRows (.terminal "#") ++ dollarRows .endOfInput,
      ∀ name ∈ row.names, Word name := by decide +kernel
  have hmarks : ∀ row ∈ dollarRows (.terminal "#") ++ dollarRows .endOfInput,
      ∀ name ∈ row.terminals, name ≠ Symbol.emptyMark ∧ name ≠ Lookahead.endMark := by
    decide +kernel
  have hplain : plain (dollarRows (.terminal "$")) = plain (dollarRows .endOfInput) := by
    decide +kernel
  have hne : dollarRows (.terminal "#") ≠ dollarRows .endOfInput := by decide +kernel
  have hsome : (table (dollarRows (.terminal "#"))).isSome := by decide +kernel
  have hsome' : (table (dollarRows .endOfInput)).isSome := by decide +kernel
  obtain ⟨hreports, hread⟩ := reports_readable
  refine ⟨hwords, hplain, (hreports _ _ hwords (.inl hplain)).1, by decide +kernel, ?_,
    Source.read_scattered, hread _ _ _ Source.read_scattered⟩
  obtain ⟨text, htext⟩ := Option.isSome_iff_exists.1 hsome
  obtain ⟨text', htext'⟩ := Option.isSome_iff_exists.1 hsome'
  refine ⟨text, text', htext, htext', ?_⟩
  rintro rfl
  exact hne ((hreports _ _ hwords' (.inr ⟨text, htext, htext'⟩)).2 hmarks)

end Report
end GrammarSets
