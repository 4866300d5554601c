import GrammarSets.Proofs.Embedding
import GrammarSets.Proofs.FirstWarnings
import GrammarSets.Proofs.RuleOrder

/-!
# More rules for new symbols

Rules may be added for symbols that no earlier rule mentions. The added rules may use the earlier
symbols in any way, but what the earlier rules say stays the same, as written and as classified, so
the earlier grammar is embedded in the extended one. FIRST sets stay the same by that, also where
the walk loses members. FOLLOW sets can only grow: the sets of the extended grammar are closed under
the earlier rules, too.
-/
namespace GrammarSets

namespace Rule

/-- A rule defines a symbol or uses it. -/
def Mentions (r : Rule) (name : String) : Prop :=
  r.lhs = name ∨ ∃ alternative ∈ r.alternatives, name ∈ alternative

instance (r : Rule) (name : String) : Decidable (r.Mentions name) :=
  inferInstanceAs (Decidable (r.lhs = name ∨ ∃ alternative ∈ r.alternatives, name ∈ alternative))

variable {rules more : List Rule} {name : String}

/-- Symbols defined by earlier rules come first. -/
theorem isPrefix_defined (rules more : List Rule) : defined rules <+: defined (rules ++ more) := by
  unfold defined
  rw [List.map_append, List.eraseDups_append]
  exact List.prefix_append _ _

/-- Rules for other symbols say nothing of a symbol. -/
theorem written_extended (h : ∀ r ∈ more, r.lhs ≠ name) :
    written (rules ++ more) name = written rules name := by
  have hmore : more.filter (fun r => r.lhs = name) = [] :=
    List.filter_eq_nil_iff.2 fun r hr => by simp [h r hr]
  rw [written, List.filter_append, hmore, List.append_nil, written]

/-- Rules for other symbols do not change what a symbol is. -/
theorem kind_extended (h : ∀ r ∈ more, r.lhs ≠ name) :
    kind (rules ++ more) name = kind rules name := by
  have hmore : name ∉ more.map lhs := by
    rw [List.mem_map]
    rintro ⟨r, hr, he⟩
    exact h r hr he
  simp only [kind, List.map_append, List.mem_append, hmore, or_false]

end Rule

namespace Grammar
open Rule

variable {g g' : Grammar} {rules more : List Rule}

/-- Added rules for new symbols leave the rules for the earlier ones as they are. -/
theorem get?_extended {start start' : Option String}
    (hfresh : ∀ added ∈ more, ∀ r ∈ rules, ¬ r.Mentions added.lhs)
    (hg : (Draft.ofRules rules).classify start = .ok g)
    (hg' : (Draft.ofRules (rules ++ more)).classify start' = .ok g') {name : String}
    (hn : name ∈ g.nonterminals) : g'.rules.get? name = g.rules.get? name := by
  have hother : ∀ r ∈ rules, ∀ other, r.Mentions other → ∀ added ∈ more, added.lhs ≠ other := by
    rintro r hr other hm added ha rfl
    exact hfresh added ha r hr hm
  rw [nonterminals_of_classify hg] at hn
  obtain ⟨r, hr, hlhs⟩ := mem_defined.1 hn
  have hwritten : written (rules ++ more) name = written rules name :=
    written_extended (hother r hr name (.inl hlhs))
  have hkind : ∀ alternative ∈ written rules name,
      alternative.map (kind (rules ++ more)) = alternative.map (kind rules) := by
    intro alternative ha
    obtain ⟨r, hr, _, hm⟩ := mem_written.1 ha
    refine List.map_congr_left fun text htext => kind_extended (hother r hr text ?_)
    exact .inr ⟨alternative, hm, htext⟩
  rw [get?_of_classify hg, get?_of_classify hg', if_pos hn,
    if_pos ((isPrefix_defined rules more).subset hn), hwritten]
  exact congrArg some (List.map_congr_left hkind)

/-- The earlier grammar is embedded in the extended one. -/
theorem embeds_extended {start start' : Option String}
    (hfresh : ∀ added ∈ more, ∀ r ∈ rules, ¬ r.Mentions added.lhs)
    (hg : (Draft.ofRules rules).classify start = .ok g)
    (hg' : (Draft.ofRules (rules ++ more)).classify start' = .ok g') :
    g.Embeds Renaming.identity g' where
  selfContained := selfContained_of_classify hg
  rules name alternatives hr := by
    have hname : g'.rules.get? name = some alternatives := by
      rw [get?_extended hfresh hg hg' (Table.mem_keys_of_get? hr), hr]
    rw [Renaming.alternatives_identity]
    exact hname
  nonterminals := by
    have hmap : g.nonterminals.map Renaming.identity = g.nonterminals := List.map_id' _
    rw [hmap, nonterminals_of_classify hg, nonterminals_of_classify hg']
    exact isPrefix_defined rules more

/-- With the same names, an embedded grammar has the FIRST sets of the larger one. -/
theorem Embeds.get?_firstSets_identity (h : g.Embeds Renaming.identity g') {x : Symbol}
    (hx : x ∈ g.vocabulary) : g'.firstSets.value.get? x = g.firstSets.value.get? x := by
  obtain ⟨set, hs, hs'⟩ := h.exists_firstSet hx
  rw [Renaming.symbol_identity, Renaming.set_identity] at hs'
  rw [hs, hs']

/-- What follows a nonterminal follows it in a larger grammar, too. -/
theorem Embeds.followSets_subset (h : g.Embeds Renaming.identity g') (start name : String) :
    (g.followSets g.firstSets.value start).value.of name ⊆
      (g'.followSets g'.firstSets.value start).value.of name := by
  have hwithin : g.Within g' := by
    intro lhs alternative hm
    have halternatives := h.alternatives (mem_nonterminals_of_mem hm)
    rw [Renaming.alternatives_identity] at halternatives
    exact halternatives ▸ hm
  have hfirst : ∀ x ∈ g.symbols,
      g.firstSets.value.ofSequence [x] = g'.firstSets.value.ofSequence [x] := by
    intro x hx
    obtain ⟨lhs, alternative, hm, hx⟩ := mem_symbols.1 hx
    have hvocabulary := h.selfContained.mem_vocabulary lhs alternative hm x hx
    refine FirstSets.ofSequence_congr fun y hy => ?_
    obtain rfl := List.mem_singleton.1 hy
    exact (h.get?_firstSets_identity hvocabulary).symm
  have hlarger := Follow.least_followSets g' g'.firstSets.value start
  have hsmaller := Follow.least_followSets g g.firstSets.value start
  exact hsmaller.least _ (hlarger.closed.mono hwithin hfirst) hlarger.contains name

/-- Rules added for symbols that no earlier rule mentions change neither the start symbol nor the
FIRST set of any earlier symbol, even if there is left recursion, and FOLLOW sets of earlier
nonterminals keep all that they have. -/
theorem analyze_extended (rules more : List Rule) (hrules : rules ≠ [])
    (hfresh : ∀ added ∈ more, ∀ r ∈ rules, ¬ r.Mentions added.lhs) :
    ∃ g g', (Draft.ofRules rules).classify none = .ok g ∧
      (Draft.ofRules (rules ++ more)).classify none = .ok g' ∧ g'.start = g.start ∧
      (∀ x ∈ g.vocabulary, ∃ set, g.analyze.value.first.get? x = some set ∧
        g'.analyze.value.first.get? x = some set) ∧
      ∀ name ∈ g.nonterminals, ∃ set set', g.analyze.value.follow.get? name = some set ∧
        g'.analyze.value.follow.get? name = some set' ∧ set ⊆ set' := by
  obtain ⟨first, rest, rfl⟩ := List.exists_cons_of_ne_nil hrules
  obtain ⟨g, hg, hstart⟩ :=
    Draft.classify_of_startSymbol (Draft.startSymbol_none_ofRules (first :: rest))
  obtain ⟨g', hg', hstart'⟩ :=
    Draft.classify_of_startSymbol (Draft.startSymbol_none_ofRules (first :: rest ++ more))
  have hembeds : g.Embeds Renaming.identity g' := embeds_extended hfresh hg hg'
  have hsame : g'.start = g.start := hstart'.trans hstart.symm
  refine ⟨g, g', hg, hg', hsame, ?_, ?_⟩
  · intro x hx
    obtain ⟨set, hs⟩ := exists_firstSet hx
    exact ⟨set, hs, (hembeds.get?_firstSets_identity hx).trans hs⟩
  · intro name hn
    have hn' : name ∈ g'.nonterminals := hembeds.nonterminals.subset (List.mem_map_of_mem hn)
    obtain ⟨set, hs⟩ := Follow.exists_followSet g.firstSets.value g.start hn
    obtain ⟨set', hs'⟩ := Follow.exists_followSet g'.firstSets.value g'.start hn'
    refine ⟨set, set', hs, hs', ?_⟩
    have hsubset := hembeds.followSets_subset g.start name
    rw [← hsame] at hsubset
    simpa [FollowSets.of, hsame ▸ hs, hs'] using hsubset

/-- The rules of `cutShort`. -/
def cutShortRules : List Rule := [⟨"A", [["B", "a"], ["x"]]⟩, ⟨"B", [["A", "b"], ["c"]]⟩]

/-- `C → D B d | A` and `D → C e`, which begin with each other. -/
def addedRules : List Rule := [⟨"C", [["D", "B", "d"], ["A"]]⟩, ⟨"D", [["C", "e"]]⟩]

/-- The FIRST set of `B` still lacks `x`. -/
theorem analyze_extended_cutShort :
    cutShortRules ≠ [] ∧ (∀ added ∈ addedRules, ∀ r ∈ cutShortRules, ¬ r.Mentions added.lhs) ∧
    (Draft.ofRules cutShortRules).classify none = .ok cutShort ∧
    cutShort.analyze.value.follow.get? "B" = some {.terminal "a"} ∧
    ∃ g', (Draft.ofRules (cutShortRules ++ addedRules)).classify none = .ok g' ∧ g'.start = "A" ∧
      g'.analyze.value.first.get? (.nonterminal "B") = some {.terminal "c"} ∧
      ∃ set, g'.analyze.value.follow.get? "B" = some set ∧ .terminal "a" ∈ set := by
  have hfresh : ∀ added ∈ addedRules, ∀ r ∈ cutShortRules, ¬ r.Mentions added.lhs := by decide
  have hcut : (Draft.ofRules cutShortRules).classify none = .ok cutShort := rfl
  have hfollow : cutShort.analyze.value.follow.get? "B" = some {.terminal "a"} := by decide +kernel
  obtain ⟨g, g', hg, hg', hstart, hfirst, hset⟩ :=
    analyze_extended cutShortRules addedRules (by decide) hfresh
  cases hcut.symm.trans hg
  obtain ⟨first, hB, hB'⟩ := hfirst (.nonterminal "B") (by decide)
  cases firstSets_cutShort.symm.trans hB
  obtain ⟨follow, follow', ha, ha', hsubset⟩ := hset "B" (by decide)
  cases hfollow.symm.trans ha
  exact ⟨by decide, hfresh, hcut, hfollow, g', hg', hstart, hB', follow', ha',
    hsubset _ (OrderedSet.mem_singleton.2 rfl)⟩

end Grammar
end GrammarSets
