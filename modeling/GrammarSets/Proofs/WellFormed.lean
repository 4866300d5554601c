import GrammarSets.Proofs.PrintedGrammar

/-!
# Grammars that were read are well formed

The walk, the sweeps and the reports pass over what a table does not have, so they rely on grammars
without gaps. A grammar made of rules as lines spell them has none (`wellFormed_of_classify`): what
each rule guarantees of its own alternatives is kept when several rules for one symbol are put
together, and classifying sorts every written symbol, wherever it was defined.
-/
namespace GrammarSets

/-- What reading guarantees of a grammar. -/
structure Grammar.WellFormed (g : Grammar) : Prop where
  distinct : g.nonterminals.Nodup
  ruled : ∀ name, name ∈ g.nonterminals ↔ ∃ alternatives, g.rules.get? name = some alternatives
  start : g.start ∈ g.nonterminals
  nonempty : ∀ name ∈ g.nonterminals, g.alternatives name ≠ []
  selfContained : g.SelfContained
  terminals : ∀ name, name ∈ g.terminals ↔
    ∃ lhs, ∃ alternative ∈ g.alternatives lhs, .terminal name ∈ alternative
  apart : ∀ name ∈ g.terminals, name ∉ g.nonterminals ∧ name ≠ Symbol.emptyMark
  noLead : ∀ name, ∀ alternative ∈ g.alternatives name,
    alternative.head? ≠ some (.nonterminal name)
  names : ∀ name, name ∈ g.nonterminals ∨ name ∈ g.terminals → Text.IsSymbol name.toList
  noComment : ∀ name ∈ g.nonterminals, name.toList.head? ≠ some ';'

namespace Grammar
open Rule

variable {g : Grammar} {rules : List Rule} {start : Option String} {name : String}

theorem start_mem_nonterminals (h : (Draft.ofRules rules).classify start = .ok g) :
    g.start ∈ g.nonterminals := by
  have hstart : (Draft.ofRules rules).defines g.start = true :=
    Draft.defines_of_startSymbol (Draft.classify_eq_ok_iff.1 h).1
  rw [nonterminals_of_classify h]
  exact Draft.defines_ofRules.1 hstart

/-- A terminal was written in some rule, is not the empty mark, and no rule defines it. -/
theorem written_of_mem_terminals (h : (Draft.ofRules rules).classify start = .ok g)
    (hn : name ∈ g.terminals) : name ∉ g.nonterminals ∧ name ≠ Symbol.emptyMark ∧
      ∃ r ∈ rules, ∃ texts ∈ r.alternatives, name ∈ texts := by
  obtain ⟨r, hr, texts, ht, text, htext, hk⟩ := ((classifies_of_classify h).terminals name).1 hn
  obtain ⟨rfl, hmark, hdefined⟩ := kind_eq_terminal_iff.1 hk
  rw [nonterminals_of_classify h]
  exact ⟨hdefined, hmark, r, hr, texts, ht, htext⟩

theorem not_lead_of_classify (h : (Draft.ofRules rules).classify start = .ok g)
    (hrules : ∀ r ∈ rules, r.Accepted) {alternative : List Symbol}
    (ha : alternative ∈ g.alternatives name) :
    alternative.head? ≠ some (.nonterminal name) := by
  obtain ⟨r, hr, rfl, texts, ht, rfl⟩ := exists_rule_of_mem h ha
  rw [List.head?_map]
  intro hlead
  obtain ⟨text, hhead, hk⟩ := Option.map_eq_some_iff.1 hlead
  have htext : text = r.lhs := (kind_eq_nonterminal_iff.1 hk).1
  exact (hrules r hr).noLead texts ht (htext ▸ hhead)

theorem wellFormed_of_classify (h : (Draft.ofRules rules).classify start = .ok g)
    (hrules : ∀ r ∈ rules, r.Accepted) : g.WellFormed := by
  have hdefined : ∀ name ∈ g.nonterminals, ∃ r ∈ rules, r.lhs = name := by
    intro name hn
    rw [nonterminals_of_classify h] at hn
    exact mem_defined.1 hn
  have hnonempty : ∀ name ∈ g.nonterminals, g.alternatives name ≠ [] := by
    intro name hn
    obtain ⟨r, hr, rfl⟩ := hdefined name hn
    obtain ⟨texts, ht⟩ := List.exists_mem_of_ne_nil _ (hrules r hr).nonempty
    have hwritten : texts ∈ written rules r.lhs := mem_written.2 ⟨r, hr, rfl, ht⟩
    rw [alternatives_of_classify h]
    exact List.ne_nil_of_mem (List.mem_map_of_mem hwritten)
  have hterminals : ∀ name, name ∈ g.terminals ↔
      ∃ lhs, ∃ alternative ∈ g.alternatives lhs, .terminal name ∈ alternative := fun name => by
    rw [mem_terminals, mem_symbols]
  have hnames : ∀ name, name ∈ g.nonterminals ∨ name ∈ g.terminals →
      Text.IsSymbol name.toList := by
    intro name hn
    rcases hn with hn | hn
    · obtain ⟨r, hr, rfl⟩ := hdefined name hn
      exact (hrules r hr).lhs
    · obtain ⟨_, _, r, hr, texts, ht, hname⟩ := written_of_mem_terminals h hn
      exact (hrules r hr).symbols texts ht name hname
  exact
    { distinct := g.rules.distinct
      ruled := fun name => g.rules.mem_keys_iff
      start := start_mem_nonterminals h
      nonempty := hnonempty
      selfContained := selfContained_of_classify h
      terminals := hterminals
      apart := fun name hn =>
        have hwritten := written_of_mem_terminals h hn
        ⟨hwritten.1, hwritten.2.1⟩
      noLead := fun name alternative ha => not_lead_of_classify h hrules ha
      names := hnames
      noComment := fun name hn => by
        obtain ⟨r, hr, rfl⟩ := hdefined name hn
        exact (hrules r hr).noComment }

end Grammar

namespace Source

/-- Whatever the lines, their source and the settings, a grammar that is read from them is well
formed. -/
theorem wellFormed_of_read (s : Source) (settings : Settings) (g : Grammar)
    (h : (s.read settings).value = .ok g) : g.WellFormed := by
  obtain ⟨d, hd, hg⟩ := read_eq_ok_iff.1 h
  have haccepted : d.Accepted := accepted_of_collect hd Draft.accepted_empty
  rw [← d.ofRules_toRules] at hg
  exact Grammar.wellFormed_of_classify hg fun r hr => haccepted.of_mem_toRules hr

/-- `R` is defined on two lines, with a comment and the line for `E` between them. -/
theorem wellFormed_of_read_scattered :
    (scattered.read ⟨"end", some "E"⟩).value = .ok scatteredGrammar ∧
    scatteredGrammar.WellFormed :=
  ⟨read_scattered, wellFormed_of_read _ _ _ read_scattered⟩

end Source
end GrammarSets
