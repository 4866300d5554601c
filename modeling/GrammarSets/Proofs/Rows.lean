import Mathlib.Data.List.Basic
import GrammarSets.Analysis
import GrammarSets.Proofs.FirstSoundness
import GrammarSets.Proofs.FollowClosure

/-!
# Every nonterminal has one row

A nonterminal without a FIRST set or without a FOLLOW set would have no row, and nothing would tell.
It does not happen: the walk settles every nonterminal, and the sweeps begin with a set for each.
What the sets can hold is read off derivations for FIRST. For FOLLOW, the terminals of the grammar
and the end of the input make up a closed family, which bounds what the sweeps end in.
-/
namespace GrammarSets

namespace Analysis

variable {a : Analysis} {g : Grammar} {name : String} {row : Row}

theorem row?_eq_some_iff : a.row? name = some row ↔ row.nonterminal = name ∧
    a.first.get? (.nonterminal name) = some row.first ∧ a.follow.get? name = some row.follow := by
  unfold row?
  cases a.first.get? (.nonterminal name) with
  | none => simp
  | some first =>
      cases a.follow.get? name with
      | none => simp
      | some follow =>
          simp only [Option.some.injEq]
          constructor
          · rintro rfl
            exact ⟨rfl, rfl, rfl⟩
          · rintro ⟨rfl, rfl, rfl⟩
            rfl

theorem mem_rows : row ∈ a.rows g ↔ row.nonterminal ∈ g.nonterminals ∧
    a.first.get? (.nonterminal row.nonterminal) = some row.first ∧
      a.follow.get? row.nonterminal = some row.follow := by
  simp only [rows, List.mem_filterMap, row?_eq_some_iff]
  grind

/-- With both sets for each nonterminal, there is a row for each. -/
theorem map_nonterminal_rows
    (hfirst : ∀ name ∈ g.nonterminals, ∃ set, a.first.get? (.nonterminal name) = some set)
    (hfollow : ∀ name ∈ g.nonterminals, ∃ set, a.follow.get? name = some set) :
    (a.rows g).map Row.nonterminal = g.nonterminals := by
  have hname : ∀ name ∈ g.nonterminals, (a.row? name).map Row.nonterminal = some name := by
    intro name hn
    obtain ⟨first, hf⟩ := hfirst name hn
    obtain ⟨follow, hw⟩ := hfollow name hn
    have hrow : a.row? name = some ⟨name, first, follow⟩ := row?_eq_some_iff.2 ⟨rfl, hf, hw⟩
    rw [hrow, Option.map_some]
  rw [rows, List.map_filterMap, List.filterMap_congr hname, List.filterMap_some]

end Analysis

namespace Grammar

variable {g : Grammar} {name : String} {set : LookaheadSet} {a : Lookahead}

theorem mem_terminals_of_firstSet (h : g.firstSets.value.get? (.nonterminal name) = some set)
    (ha : a ∈ set) : a = .empty ∨ ∃ t ∈ g.terminals, a = .terminal t := by
  have hfirst : g.FirstOf [.nonterminal name] a := sound_firstSet h a ha
  cases a with
  | terminal t => exact .inr ⟨t, mem_terminals_of_firstOf hfirst, rfl⟩
  | empty => exact .inl rfl
  | endOfInput => exact absurd hfirst not_firstOf_endOfInput

/-- What can come first behind a nonterminal of a rule. -/
theorem mem_terminals_of_next {lhs : String} {alternative : List Symbol} {x : Symbol}
    (hm : alternative ∈ g.alternatives lhs) (hx : x ∈ alternative)
    (ha : a ∈ g.firstSets.value.ofSequence [x]) (hne : a ≠ .empty) :
    ∃ t ∈ g.terminals, a = .terminal t := by
  have hfirst : g.FirstOf [x] a := sound_ofSequence (fun _ _ => sound_firstSet) [x] a ha
  cases x with
  | terminal t =>
      have ht : t ∈ g.terminals := mem_terminals.2 (mem_symbols.2 ⟨lhs, alternative, hm, hx⟩)
      exact ⟨t, ht, firstOf_terminal.1 hfirst⟩
  | empty => exact absurd (firstOf_empty.1 hfirst) hne
  | nonterminal name =>
      cases a with
      | terminal t => exact ⟨t, mem_terminals_of_firstOf hfirst, rfl⟩
      | empty => exact absurd rfl hne
      | endOfInput => exact absurd hfirst not_firstOf_endOfInput

/-- The terminals of a grammar and the end of the input are all that sweeping needs. -/
theorem closed_terminals (g : Grammar) : Follow.Closed g g.firstSets.value
    fun _ a => a = .endOfInput ∨ ∃ t ∈ g.terminals, a = .terminal t where
  next hm _ ha hne := .inr (mem_terminals_of_next hm (by simp) ha hne)
  vanish _ _ _ ha := ha
  last _ _ ha := ha

theorem mem_terminals_of_followSet {start : String}
    (h : (g.followSets g.firstSets.value start).value.get? name = some set) (ha : a ∈ set) :
    a = .endOfInput ∨ ∃ t ∈ g.terminals, a = .terminal t := by
  have hleast := Follow.least_followSets g g.firstSets.value start
  have hfollow : (g.followSets g.firstSets.value start).value.family name a := by
    rw [FollowSets.family, FollowSets.of, h]
    exact ha
  exact hleast.least _ g.closed_terminals (fun _ _ hend => .inl hend.2) name a hfollow

theorem endOfInput_mem_followSet (g : Grammar) (first : FirstSets) (start : String) :
    ∃ set, (g.followSets first start).value.get? start = some set ∧ .endOfInput ∈ set := by
  have hend : (g.followSets first start).value.family start .endOfInput :=
    (Follow.least_followSets g first start).contains start _ ⟨rfl, rfl⟩
  rw [FollowSets.family, FollowSets.of] at hend
  cases hs : (g.followSets first start).value.get? start with
  | none => simp [hs] at hend
  | some set => exact ⟨set, rfl, by simpa [hs] using hend⟩

/-- There is one row for each nonterminal, in the order of their definition, with the two sets of
the nonterminal. FIRST sets hold terminals of the grammar and perhaps the empty string, FOLLOW sets
such terminals and perhaps the end of the input, and the end of the input follows the start
symbol. -/
theorem rows_complete (g : Grammar) :
    ((g.analyze.value.rows g).map Row.nonterminal = g.nonterminals ∧ g.nonterminals.Nodup) ∧
    (∀ row ∈ g.analyze.value.rows g,
      (g.analyze.value.first.get? (.nonterminal row.nonterminal) = some row.first ∧
        ∀ a ∈ row.first, a = .empty ∨ ∃ t ∈ g.terminals, a = .terminal t) ∧
      g.analyze.value.follow.get? row.nonterminal = some row.follow ∧
        ∀ a ∈ row.follow, a = .endOfInput ∨ ∃ t ∈ g.terminals, a = .terminal t) ∧
    ∃ set, g.analyze.value.follow.get? g.start = some set ∧ .endOfInput ∈ set := by
  refine ⟨⟨?_, g.rules.distinct⟩, ?_, g.endOfInput_mem_followSet g.firstSets.value g.start⟩
  · apply Analysis.map_nonterminal_rows
    · exact fun name hn => exists_firstSet (nonterminal_mem_vocabulary.2 hn)
    · exact fun name hn => Follow.exists_followSet g.firstSets.value g.start hn
  · intro row hrow
    obtain ⟨_, hfirst, hfollow⟩ := Analysis.mem_rows.1 hrow
    exact ⟨⟨hfirst, fun a => mem_terminals_of_firstSet hfirst⟩, hfollow,
      fun a => mem_terminals_of_followSet hfollow⟩

/-- Lists, by way of a left recursive symbol: `L → ε | M id` and `M → L ,`. -/
def lists : Grammar where
  start := "L"
  rules := ⟨[("L", [[.empty], [.nonterminal "M", .terminal "id"]]),
    ("M", [[.nonterminal "L", .terminal ","]])], by decide⟩

def listsRows : List Row :=
  [⟨"L", .ofList [.terminal ",", .empty], .ofList [.terminal ",", .endOfInput]⟩,
    ⟨"M", {.terminal ","}, {.terminal "id"}⟩]

theorem rows_complete_lists :
    lists.analyze.value.rows lists = listsRows ∧
    listsRows.map Row.nonterminal = lists.nonterminals ∧
    (∀ row ∈ listsRows, (∀ a ∈ row.first, a = .empty ∨ ∃ t ∈ lists.terminals, a = .terminal t) ∧
      ∀ a ∈ row.follow, a = .endOfInput ∨ ∃ t ∈ lists.terminals, a = .terminal t) ∧
    ∃ set, lists.analyze.value.follow.get? "L" = some set ∧ .endOfInput ∈ set := by
  have hrows : lists.analyze.value.rows lists = listsRows := by decide +kernel
  obtain ⟨⟨hnames, _⟩, hsets, hend⟩ := rows_complete lists
  rw [hrows] at hnames hsets
  exact ⟨hrows, hnames, fun row hrow => ⟨(hsets row hrow).1.2, (hsets row hrow).2.2⟩, hend⟩

end Grammar
end GrammarSets
