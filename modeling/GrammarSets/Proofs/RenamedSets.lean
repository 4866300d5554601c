import Mathlib.Logic.Equiv.Basic
import GrammarSets.Analysis
import GrammarSets.Proofs.Extension

/-!
# Names carry no meaning

Renaming the symbols of a grammar renames its FIRST and FOLLOW sets and changes nothing else. Each
grammar is embedded in the renamed one, which settles the FIRST sets of its symbols, with left
recursion or without; and the renamed grammar has no other symbols. The renamed FOLLOW sets go
through the same sweeps, place by place (`step_occurrence`), grow at the same places, and settle after
the same number of rounds. The end of the input is a mark and no name, so a symbol may well be
called `$`.
-/
namespace GrammarSets

variable {r : Renaming} {g : Grammar} {first first' : FirstSets} {follow : FollowSets}

namespace FirstSets

/-- A table has the sets of another one under other names, and no other sets. -/
def Renamed (r : Renaming) (first first' : FirstSets) : Prop :=
  ∀ y set', first'.get? y = some set' ↔
    ∃ x set, first.get? x = some set ∧ r.symbol x = y ∧ r.set set = set'

theorem Matches.renamed (h : first.Matches r first')
    (hnames : ∀ y set, first'.get? y = some set → ∃ x, r.symbol x = y) :
    first.Renamed r first' := by
  intro y set'
  constructor
  · intro hy
    obtain ⟨x, rfl⟩ := hnames y set' hy
    rw [h] at hy
    obtain ⟨set, hs, rfl⟩ := Option.map_eq_some_iff.1 hy
    exact ⟨x, set, hs, rfl, rfl⟩
  · rintro ⟨x, set, hs, rfl, rfl⟩
    exact h.get?_eq_some hs

theorem Matches.ofSequence (h : first.Matches r first') (xs : List Symbol) :
    first'.ofSequence (xs.map r.symbol) = r.set (first.ofSequence xs) := by
  induction xs with
  | nil => exact (r.set_singleton .empty).symm
  | cons x xs ih =>
      rw [List.map_cons]
      cases hx : first.get? x with
      | none =>
          rw [ofSequence_of_get?_none hx, ofSequence_of_get?_none (h.get?_eq_none hx), r.set_empty]
      | some set =>
          rw [ofSequence_of_get?_some hx, ofSequence_of_get?_some (h.get?_eq_some hx), ih]
          by_cases he : .empty ∈ set
          · rw [if_pos he, if_pos (r.empty_mem_set.2 he), r.set_union, r.set_erase_empty]
          · rw [if_neg he, if_neg fun h => he (r.empty_mem_set.1 h)]

end FirstSets

namespace Renaming

variable (r)

theorem nonterminals_grammar (g : Grammar) :
    (r.grammar g).nonterminals = g.nonterminals.map r := by
  simp [grammar, Grammar.nonterminals]

theorem get?_grammar (g : Grammar) (name : String) :
    (r.grammar g).rules.get? (r name) = (g.rules.get? name).map r.alternatives := by
  simp [grammar]

theorem symbols_grammar (g : Grammar) : (r.grammar g).symbols = g.symbols.map r.symbol := by
  simp [grammar, Grammar.symbols, Table.mapKeys, Table.mapValues, alternatives, List.flatMap_map,
    List.map_flatMap]

theorem terminals_grammar (g : Grammar) : (r.grammar g).terminals = g.terminals.image r := by
  refine OrderedSet.ext fun name => ?_
  rw [Grammar.mem_terminals, symbols_grammar, List.mem_map, OrderedSet.mem_image]
  constructor
  · rintro ⟨x, hx, he⟩
    cases x with
    | terminal old => exact ⟨old, Grammar.mem_terminals.2 hx, Symbol.terminal.inj he⟩
    | nonterminal old => cases he
    | empty => cases he
  · rintro ⟨old, ht, rfl⟩
    exact ⟨.terminal old, Grammar.mem_terminals.1 ht, rfl⟩

theorem embeds_grammar (h : g.SelfContained) : g.Embeds r (r.grammar g) where
  selfContained := h
  rules name alternatives hr := by rw [get?_grammar, hr, Option.map_some]
  nonterminals := nonterminals_grammar r g ▸ List.prefix_rfl

theorem selfContained_grammar (h : g.SelfContained) : (r.grammar g).SelfContained := by
  intro lhs alternative hm name hn
  have hx : .nonterminal name ∈ g.symbols.map r.symbol :=
    symbols_grammar r g ▸ Grammar.mem_symbols.2 ⟨lhs, alternative, hm, hn⟩
  obtain ⟨x, hx, he⟩ := List.mem_map.1 hx
  obtain ⟨lhs, alternative, hm, hx⟩ := Grammar.mem_symbols.1 hx
  rw [nonterminals_grammar, List.mem_map]
  cases x with
  | terminal old => cases he
  | nonterminal old => exact ⟨old, h lhs alternative hm old hx, Symbol.nonterminal.inj he⟩
  | empty => cases he

/-- All symbols of the renamed grammar are renamed ones. -/
theorem mem_vocabulary_grammar {y : Symbol} :
    y ∈ (r.grammar g).vocabulary ↔ ∃ x ∈ g.vocabulary, r.symbol x = y := by
  simp [Grammar.vocabulary, nonterminals_grammar, terminals_grammar, OrderedSet.mem_toList, symbol,
    or_and_right, exists_or, eq_comm (a := y) (b := Symbol.empty)]

/-- The FIRST sets are the same under other names. -/
theorem matches_firstSets (h : g.SelfContained) :
    g.firstSets.value.Matches r (r.grammar g).firstSets.value := by
  intro x
  by_cases hx : x ∈ g.vocabulary
  · obtain ⟨set, hs, hs'⟩ := (r.embeds_grammar h).exists_firstSet hx
    rw [hs, hs', Option.map_some]
  · have hx' : r.symbol x ∉ (r.grammar g).vocabulary := by
      rw [mem_vocabulary_grammar]
      rintro ⟨y, hy, he⟩
      exact hx (r.symbol_injective he ▸ hy)
    have hnone : ∀ set, g.firstSets.value.get? x ≠ some set := fun set hs =>
      hx (h.mem_vocabulary_of_firstSet hs)
    have hnone' : ∀ set, (r.grammar g).firstSets.value.get? (r.symbol x) ≠ some set := fun set hs =>
      hx' ((r.selfContained_grammar h).mem_vocabulary_of_firstSet hs)
    rw [Option.eq_none_iff_forall_ne_some.2 hnone, Option.eq_none_iff_forall_ne_some.2 hnone',
      Option.map_none]

theorem renamed_firstSets (h : g.SelfContained) :
    g.firstSets.value.Renamed r (r.grammar g).firstSets.value := by
  refine (r.matches_firstSets h).renamed fun y set hs => ?_
  obtain ⟨x, _, he⟩ :=
    r.mem_vocabulary_grammar.1 ((r.selfContained_grammar h).mem_vocabulary_of_firstSet hs)
  exact ⟨x, he⟩

section Follow
open Follow

def occurrence (o : Occurrence) : Occurrence := ⟨r o.lhs, r o.name, o.next.map r.symbol⟩

def followSets (follow : FollowSets) : FollowSets :=
  (follow.mapValues r.set).mapKeys r r.injective

def growth (e : Growth) : Growth := ⟨r e.name, r.set e.set⟩

def sweep (s : Sweep) : Sweep := ⟨r.followSets s.sets, s.growths.map r.growth⟩

def run (x : Run) : Run := ⟨r.followSets x.sets, x.rounds.map (List.map r.growth)⟩

theorem occurrences_grammar (g : Grammar) :
    (r.grammar g).occurrences = g.occurrences.map r.occurrence := by
  have halternative : ∀ lhs alternative, Occurrence.inAlternative (r lhs) (alternative.map r.symbol) =
      (Occurrence.inAlternative lhs alternative).map r.occurrence := by
    intro lhs alternative
    induction alternative with
    | nil => rfl
    | cons x xs ih =>
        cases x <;> simp [Occurrence.inAlternative, symbol, occurrence, ih]
  simp [grammar, Grammar.occurrences, Table.mapKeys, Table.mapValues, alternatives, halternative,
    List.flatMap_map, List.map_flatMap]

theorem of_followSets (follow : FollowSets) (name : String) :
    (r.followSets follow).of (r name) = r.set (follow.of name) := by
  rw [FollowSets.of, followSets, Table.get?_mapKeys, Table.get?_mapValues, FollowSets.of]
  cases follow.get? name with
  | none => exact r.set_empty.symm
  | some set => rfl

theorem extend_followSets (follow : FollowSets) (name : String) (more : LookaheadSet) :
    (r.followSets follow).extend (r name) (r.set more) = r.followSets (follow.extend name more) := by
  have hvalues : (follow.extend name more).mapValues r.set =
      (follow.mapValues r.set).update name fun old => old.getD ∅ ∪ r.set more := by
    refine Table.mapValues_update follow name fun old => ?_
    cases old <;> simp [r.set_union, r.set_empty]
  rw [followSets, followSets, hvalues, Table.mapKeys_update]
  rfl

theorem initial_grammar (g : Grammar) (start : String) :
    FollowSets.initial (r.grammar g) (r start) = r.followSets (.initial g start) := by
  have hempty : (r.grammar g).rules.mapValues (fun _ => (∅ : LookaheadSet)) =
      r.followSets (g.rules.mapValues fun _ => ∅) := by
    apply Table.ext
    simp [grammar, followSets, Table.mapKeys, Table.mapValues, r.set_empty]
  have hend : ({.endOfInput} : LookaheadSet) = r.set {.endOfInput} :=
    (r.set_singleton .endOfInput).symm
  rw [FollowSets.initial, hempty, hend, extend_followSets]
  rfl

variable {r}

theorem ahead_occurrence (h : first.Matches r first') (o : Occurrence) :
    ahead first' (r.occurrence o) = r.set (ahead first o) := by
  rw [ahead, ahead, ← h.ofSequence]
  cases ho : o.next <;> simp [occurrence, ho]

theorem additions_occurrence (h : first.Matches r first') (follow : FollowSets) (o : Occurrence) :
    additions first' (r.followSets follow) (r.occurrence o) = r.set (additions first follow o) := by
  unfold additions
  simp only [ahead_occurrence h, r.empty_mem_set]
  split
  · rw [r.set_union, r.set_erase_empty, ← r.of_followSets]
    rfl
  · rw [r.set_erase_empty]

/-- A place adds the same members under other names, and makes the same set grow. -/
theorem step_occurrence (h : first.Matches r first') (s : Sweep) (o : Occurrence) :
    step first' (r.sweep s) (r.occurrence o) = r.sweep (step first s o) := by
  have hsets : (r.followSets s.sets).extend (r o.name) (r.set (additions first s.sets o)) =
      r.followSets (s.sets.extend o.name (additions first s.sets o)) := r.extend_followSets _ _ _
  simp only [step, sweep, additions_occurrence h]
  simp only [occurrence, hsets, r.of_followSets, r.set_injective.eq_iff]
  split
  · rfl
  · rw [List.map_append]
    rfl

theorem sweep_grammar (h : first.Matches r first') (follow : FollowSets) :
    Follow.sweep (r.grammar g) first' (r.followSets follow) = r.sweep (Follow.sweep g first follow) := by
  have hfold : ∀ (os : List Occurrence) (s : Sweep),
      (os.map r.occurrence).foldl (step first') (r.sweep s) = r.sweep (os.foldl (step first) s) := by
    intro os
    induction os with
    | nil => exact fun s => rfl
    | cons o os ih =>
        intro s
        rw [List.map_cons, List.foldl_cons, List.foldl_cons, step_occurrence h, ih]
  rw [Follow.sweep, r.occurrences_grammar]
  exact hfold g.occurrences ⟨follow, []⟩

/-- The same rounds under other names, up to the one that changes nothing. -/
theorem settle_grammar (h : first.Matches r first') (follow : FollowSets) :
    settle (r.grammar g) first' (r.followSets follow) = r.run (settle g first follow) := by
  have hchanged : ∀ follow, (Follow.sweep (r.grammar g) first' (r.followSets follow)).changed =
      (Follow.sweep g first follow).changed := by
    intro follow
    rw [sweep_grammar h]
    simp [Sweep.changed, sweep]
  -- By the rounds of the first run: the second one changes something in the same rounds.
  induction follow using settle.induct g first with
  | case1 follow s hs ih =>
      rw [settle_of_changed ((hchanged follow).trans hs), settle_of_changed hs, sweep_grammar h]
      exact congrArg (fun x : Run => (⟨x.sets, _ :: x.rounds⟩ : Run)) ih
  | case2 follow s hs =>
      rw [settle_of_not_changed fun hc => hs ((hchanged follow).symm.trans hc),
        settle_of_not_changed hs, sweep_grammar h]
      rfl

/-- The FOLLOW sets are the same under other names. -/
theorem followSets_grammar (h : first.Matches r first') (g : Grammar) (start : String) :
    ((r.grammar g).followSets first' (r start)).value =
      r.followSets (g.followSets first start).value := by
  have hsettle := congrArg Run.sets (settle_grammar (g := g) h (.initial g start))
  rwa [← r.initial_grammar] at hsettle

end Follow

end Renaming

namespace Grammar

/-- Other names for the symbols of some rules give the same outcome under these names: the same
fault, or the same grammar, with the same FIRST set for each symbol and the same FOLLOW set for each
nonterminal. -/
theorem analyze_renamed (r : Renaming) (rules : List Rule) (start : Option String) :
    (Draft.ofRules (rules.map r.rule)).classify (start.map r) =
      (((Draft.ofRules rules).classify start).map r.grammar).mapError r.fault ∧
    ∀ g, (Draft.ofRules rules).classify start = .ok g →
      (r.grammar g).start = r g.start ∧ (r.grammar g).nonterminals = g.nonterminals.map r ∧
      (r.grammar g).terminals = g.terminals.image r ∧
      (∀ name, (r.grammar g).rules.get? (r name) = (g.rules.get? name).map r.alternatives) ∧
      g.analyze.value.first.Renamed r (r.grammar g).analyze.value.first ∧
      (r.grammar g).analyze.value.follow = r.followSets g.analyze.value.follow := by
  constructor
  · rw [r.ofRules_rule, r.classify_draft]
  · intro g hg
    have hclosed : g.SelfContained := selfContained_of_classify hg
    exact ⟨rfl, r.nonterminals_grammar g, r.terminals_grammar g, r.get?_grammar g,
      r.renamed_firstSets hclosed, Renaming.followSets_grammar (r.matches_firstSets hclosed) g g.start⟩

/-- `x` is called `$`, as the end of the input is shown, and `$` is called `x`. -/
def dollarNames : Renaming where
  name := Equiv.swap "x" "$"
  injective := (Equiv.swap "x" "$").injective
  emptyMark := by decide

/-- The FIRST sets of the left-recursive rules of `cutShort` are cut short in the same way, and a
terminal `$` in a FIRST set leaves the end of the input in the FOLLOW sets alone. -/
theorem analyze_renamed_dollar :
    (Draft.ofRules cutShortRules).classify none = .ok cutShort ∧
    (Draft.ofRules [⟨"A", [["B", "a"], ["$"]]⟩, ⟨"B", [["A", "b"], ["c"]]⟩]).classify none =
      .ok (dollarNames.grammar cutShort) ∧
    (dollarNames.grammar cutShort).analyze.value.first.get? (.nonterminal "A") =
      some (.ofList [.terminal "$", .terminal "c"]) ∧
    (dollarNames.grammar cutShort).analyze.value.first.get? (.nonterminal "B") =
      some {.terminal "c"} ∧
    (dollarNames.grammar cutShort).analyze.value.follow.get? "A" =
      some (.ofList [.terminal "b", .endOfInput]) := by
  have hcut : (Draft.ofRules cutShortRules).classify none = .ok cutShort := rfl
  obtain ⟨hclassify, hsets⟩ := analyze_renamed dollarNames cutShortRules none
  obtain ⟨-, -, -, -, hfirst, hfollow⟩ := hsets cutShort hcut
  rw [hcut] at hclassify
  have hA : cutShort.analyze.value.first.get? (.nonterminal "A") =
      some (.ofList [.terminal "x", .terminal "c"]) := by decide +kernel
  have hA' : dollarNames.set (.ofList [.terminal "x", .terminal "c"]) =
      .ofList [.terminal "$", .terminal "c"] := by
    decide +kernel
  have hB' : dollarNames.set {.terminal "c"} = {.terminal "c"} := by decide +kernel
  refine ⟨hcut, hclassify, (hfirst _ _).2 ⟨_, _, hA, rfl, hA'⟩,
    (hfirst _ _).2 ⟨_, _, firstSets_cutShort, rfl, hB'⟩, ?_⟩
  rw [hfollow]
  decide +kernel

end Grammar
end GrammarSets
