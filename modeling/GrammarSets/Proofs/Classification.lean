import Mathlib.Data.List.Induction
import GrammarSets.Grammar

/-!
# What classifying makes of a sequence of rules

Rules for one symbol may come in several pieces, with others between them, and a symbol may be
used before it is defined. What a grammar should be is said here of the rules as they came: which
symbols they define and in which order (`Rule.defined`), what they say of a symbol in all
(`Rule.written`), and what a written symbol is among them (`Rule.kind`). The draft is related to
that rule by rule, from the last one back; everything on grammars follows from its entries.
-/
namespace GrammarSets

theorem eraseDups_append_singleton {α : Type} [BEq α] [LawfulBEq α] (as : List α) (a : α) :
    (as ++ [a]).eraseDups = if a ∈ as then as.eraseDups else as.eraseDups ++ [a] := by
  rw [List.eraseDups_append]
  by_cases h : a ∈ as
  · simp [List.removeAll, h]
  · simp [List.removeAll, h, List.eraseDups_cons]

namespace Rule

/-- The symbols that some rules define, in the order of their first rules. -/
def defined (rules : List Rule) : List String := (rules.map lhs).eraseDups

/-- The alternatives of all rules for a symbol, in the order of the rules. -/
def written (rules : List Rule) (name : String) : List (List String) :=
  (rules.filter fun r => r.lhs = name).flatMap alternatives

/-- What a written symbol is among some rules. -/
def kind (rules : List Rule) (text : String) : Symbol :=
  if text = Symbol.emptyMark then .empty
  else if text ∈ rules.map lhs then .nonterminal text
  else .terminal text

theorem mem_defined {rules : List Rule} {name : String} :
    name ∈ defined rules ↔ ∃ r ∈ rules, r.lhs = name := by
  simp [defined]

theorem kind_eq_nonterminal_iff {rules : List Rule} {text name : String} :
    kind rules text = .nonterminal name ↔
      text = name ∧ name ≠ Symbol.emptyMark ∧ name ∈ defined rules := by
  unfold kind defined
  rw [List.mem_eraseDups]
  split
  · grind
  · split <;> grind

theorem kind_eq_terminal_iff {rules : List Rule} {text name : String} :
    kind rules text = .terminal name ↔
      text = name ∧ name ≠ Symbol.emptyMark ∧ name ∉ defined rules := by
  unfold kind defined
  rw [List.mem_eraseDups]
  split
  · grind
  · split <;> grind

theorem defined_append (rules : List Rule) (r : Rule) :
    defined (rules ++ [r]) =
      if r.lhs ∈ defined rules then defined rules else defined rules ++ [r.lhs] := by
  unfold defined
  rw [List.map_append]
  simp only [List.map_cons, List.map_nil, eraseDups_append_singleton, List.mem_eraseDups]

theorem mem_written {rules : List Rule} {name : String} {alternative : List String} :
    alternative ∈ written rules name ↔
      ∃ r ∈ rules, r.lhs = name ∧ alternative ∈ r.alternatives := by
  simp [written, and_assoc]

theorem written_append (rules : List Rule) (r : Rule) (name : String) :
    written (rules ++ [r]) name =
      if name = r.lhs then written rules name ++ r.alternatives else written rules name := by
  unfold written
  rw [List.filter_append, List.flatMap_append]
  by_cases h : name = r.lhs
  · simp [h]
  · have h' : r.lhs ≠ name := fun he => h he.symm
    simp [h, h']

theorem written_eq_nil {rules : List Rule} {name : String} (h : name ∉ defined rules) :
    written rules name = [] := by
  rw [List.eq_nil_iff_forall_not_mem]
  intro alternative ha
  obtain ⟨r, hr, hn, _⟩ := mem_written.1 ha
  exact h (mem_defined.2 ⟨r, hr, hn⟩)

end Rule

namespace Draft
open Rule

theorem ofRules_append (rules : List Rule) (r : Rule) :
    ofRules (rules ++ [r]) = (ofRules rules).add r := by
  simp [ofRules]

/-- Symbols stand in a draft in the order of their first rules. -/
theorem keys_ofRules (rules : List Rule) : (ofRules rules).rules.keys = defined rules := by
  induction rules using List.reverseRecOn with
  | nil => rfl
  | append_singleton rules r ih => rw [ofRules_append, keys_add, ih, defined_append]

/-- A draft has all that its rules say of a symbol, in their order. -/
theorem get?_ofRules (rules : List Rule) (name : String) :
    (ofRules rules).rules.get? name =
      if name ∈ defined rules then some (written rules name) else none := by
  induction rules using List.reverseRecOn with
  | nil => rfl
  | append_singleton rules r ih =>
      have hdefined : name ∈ defined (rules ++ [r]) ↔ name ∈ defined rules ∨ name = r.lhs := by
        simp [defined]
      rw [ofRules_append, get?_add, ih, written_append]
      by_cases hn : name = r.lhs
      · rw [if_pos hn, if_pos (hdefined.2 (.inr hn)), if_pos hn]
        by_cases hd : name ∈ defined rules
        · rw [if_pos hd, Option.getD_some]
        · rw [if_neg hd, Option.getD_none, written_eq_nil hd]
      · simp only [hdefined, hn, or_false, if_false]

theorem defines_ofRules {rules : List Rule} {name : String} :
    (ofRules rules).defines name = true ↔ name ∈ defined rules := by
  rw [defines, get?_ofRules]
  split <;> simp_all

/-- What a symbol is does not depend on where it is used or defined. -/
theorem classifySymbol_ofRules (rules : List Rule) (text : String) :
    (ofRules rules).classifySymbol text = kind rules text := by
  have hdefined : (ofRules rules).defines text = true ↔ text ∈ rules.map lhs :=
    defines_ofRules.trans List.mem_eraseDups
  simp only [classifySymbol, kind, hdefined]

theorem classify_eq_ok_iff {d : Draft} {start : Option String} {g : Grammar} :
    d.classify start = .ok g ↔ d.startSymbol start = .ok g.start ∧ g.rules =
      d.rules.mapValues fun alternatives => alternatives.map (List.map d.classifySymbol) := by
  rw [classify]
  cases hs : d.startSymbol start with
  | error fault => simp
  | ok name =>
      constructor
      · rintro ⟨⟩
        exact ⟨rfl, rfl⟩
      · rintro ⟨⟨⟩, hr⟩
        rw [← hr]

theorem classify_of_startSymbol {d : Draft} {start : Option String} {name : String}
    (h : d.startSymbol start = .ok name) : ∃ g, d.classify start = .ok g ∧ g.start = name :=
  ⟨⟨name, _⟩, classify_eq_ok_iff.2 ⟨h, rfl⟩, rfl⟩

theorem classify_eq_error_iff {d : Draft} {start : Option String} {fault : GrammarFault} :
    d.classify start = .error fault ↔ d.startSymbol start = .error fault := by
  rw [classify]
  cases d.startSymbol start <;> simp

theorem startSymbol_some_ofRules (rules : List Rule) (name : String) :
    (ofRules rules).startSymbol (some name) =
      if name ∈ defined rules then .ok name else .error (.undefinedStart name) := by
  simp only [startSymbol, defines_ofRules]

theorem exists_classify_some {rules : List Rule} {name : String} (h : name ∈ defined rules) :
    ∃ g, (ofRules rules).classify (some name) = .ok g ∧ g.start = name :=
  classify_of_startSymbol ((startSymbol_some_ofRules rules name).trans (if_pos h))

theorem startSymbol_none_ofRules (rules : List Rule) :
    (ofRules rules).startSymbol none =
      match rules with
      | [] => .error .noRules
      | first :: _ => .ok first.lhs := by
  rw [startSymbol, keys_ofRules]
  cases rules with
  | nil => rfl
  | cons first rest => simp [defined, List.eraseDups_cons]

end Draft

namespace Grammar
open Rule

/-- What a grammar should be, given the rules it was made of. -/
structure Classifies (g : Grammar) (rules : List Rule) : Prop where
  nonterminals : g.nonterminals = defined rules
  get? : ∀ name, g.rules.get? name =
    if name ∈ defined rules then some ((written rules name).map (List.map (kind rules))) else none
  texts : ∀ name, (g.alternatives name).map (List.map Symbol.text) = written rules name
  terminals : ∀ name, name ∈ g.terminals ↔
    ∃ r ∈ rules, ∃ alternative ∈ r.alternatives, ∃ text ∈ alternative,
      kind rules text = .terminal name

variable {g : Grammar} {rules : List Rule} {start : Option String}

theorem get?_of_classify (h : (Draft.ofRules rules).classify start = .ok g) (name : String) :
    g.rules.get? name =
      if name ∈ defined rules then some ((written rules name).map (List.map (kind rules)))
      else none := by
  have hkind : (Draft.ofRules rules).classifySymbol = kind rules :=
    funext (Draft.classifySymbol_ofRules rules)
  rw [(Draft.classify_eq_ok_iff.1 h).2, Table.get?_mapValues, Draft.get?_ofRules, hkind]
  split <;> rfl

theorem nonterminals_of_classify (h : (Draft.ofRules rules).classify start = .ok g) :
    g.nonterminals = defined rules := by
  rw [nonterminals, (Draft.classify_eq_ok_iff.1 h).2, Table.keys_mapValues, Draft.keys_ofRules]

theorem alternatives_of_classify (h : (Draft.ofRules rules).classify start = .ok g)
    (name : String) : g.alternatives name = (written rules name).map (List.map (kind rules)) := by
  rw [alternatives, get?_of_classify h]
  split
  · rfl
  · next hn => rw [written_eq_nil hn, Option.getD_none, List.map_nil]

theorem text_kind (rules : List Rule) (text : String) : (kind rules text).text = text := by
  rw [← Draft.classifySymbol_ofRules]
  exact Draft.text_classifySymbol _ _

/-- An alternative of a grammar was written in some rule. -/
theorem exists_rule_of_mem (h : (Draft.ofRules rules).classify start = .ok g) {name : String}
    {alternative : List Symbol} (ha : alternative ∈ g.alternatives name) :
    ∃ r ∈ rules, r.lhs = name ∧ ∃ texts ∈ r.alternatives, alternative = texts.map (kind rules) := by
  rw [alternatives_of_classify h] at ha
  obtain ⟨texts, ht, he⟩ := List.mem_map.1 ha
  obtain ⟨r, hr, hn, hm⟩ := mem_written.1 ht
  exact ⟨r, hr, hn, texts, hm, he.symm⟩

/-- A nonterminal that is used has a rule, whether it comes earlier or later. -/
theorem selfContained_of_classify (h : (Draft.ofRules rules).classify start = .ok g) :
    g.SelfContained := by
  intro lhs alternative ha name hn
  obtain ⟨r, _, _, texts, _, rfl⟩ := exists_rule_of_mem h ha
  obtain ⟨text, _, hk⟩ := List.mem_map.1 hn
  rw [nonterminals_of_classify h]
  exact (kind_eq_nonterminal_iff.1 hk).2.2

theorem classifies_of_classify (h : (Draft.ofRules rules).classify start = .ok g) :
    g.Classifies rules := by
  refine ⟨nonterminals_of_classify h, get?_of_classify h, ?_, ?_⟩
  · intro name
    have htexts : ∀ xs : List String, (xs.map (kind rules)).map Symbol.text = xs := by
      intro xs
      rw [List.map_map]
      exact List.map_id'' (text_kind rules) xs
    rw [alternatives_of_classify h, List.map_map]
    exact List.map_id'' htexts _
  · intro name
    rw [mem_terminals, mem_symbols]
    constructor
    · rintro ⟨lhs, alternative, ha, hx⟩
      obtain ⟨r, hr, _, texts, hm, rfl⟩ := exists_rule_of_mem h ha
      obtain ⟨text, htext, hk⟩ := List.mem_map.1 hx
      exact ⟨r, hr, texts, hm, text, htext, hk⟩
    · rintro ⟨r, hr, texts, hm, text, htext, hk⟩
      refine ⟨r.lhs, texts.map (kind rules), ?_, List.mem_map.2 ⟨text, htext, hk⟩⟩
      rw [alternatives_of_classify h]
      exact List.mem_map_of_mem (mem_written.2 ⟨r, hr, rfl, hm⟩)

end Grammar

namespace Draft
open Rule

/-- Classifying fails exactly if the start symbol asked for has no rule, or if none is asked for
and there are no rules; otherwise it gives the grammar of the rules, which starts from the symbol
asked for or from the first defined. -/
theorem classify_exact (rules : List Rule) :
    (∀ name, (ofRules rules).classify (some name) = .error (.undefinedStart name) ↔
      ∀ r ∈ rules, r.lhs ≠ name) ∧
    ((ofRules rules).classify none = .error .noRules ↔ rules = []) ∧
    (∀ r ∈ rules, ∃ g, (ofRules rules).classify (some r.lhs) = .ok g ∧ g.start = r.lhs ∧
      g.Classifies rules) ∧
    ∀ first rest, rules = first :: rest →
      ∃ g, (ofRules rules).classify none = .ok g ∧ g.start = first.lhs ∧ g.Classifies rules := by
  refine ⟨?_, ?_, ?_, ?_⟩
  · intro name
    rw [classify_eq_error_iff, startSymbol_some_ofRules]
    split
    · next hd =>
        obtain ⟨r, hr, hn⟩ := mem_defined.1 hd
        exact iff_of_false nofun fun h => h r hr hn
    · next hd => exact iff_of_true rfl fun r hr hn => hd (mem_defined.2 ⟨r, hr, hn⟩)
  · rw [classify_eq_error_iff, startSymbol_none_ofRules]
    cases rules <;> simp
  · intro r hr
    obtain ⟨g, hg, hstart⟩ := exists_classify_some (mem_defined.2 ⟨r, hr, rfl⟩)
    exact ⟨g, hg, hstart, Grammar.classifies_of_classify hg⟩
  · rintro first rest rfl
    obtain ⟨g, hg, hstart⟩ := classify_of_startSymbol (startSymbol_none_ofRules (first :: rest))
    exact ⟨g, hg, hstart, Grammar.classifies_of_classify hg⟩

/-- `S → a B | ε`, `B` without an alternative, `A → c`, `S → A b` and a rule for the empty mark:
`S` is defined in two pieces, `A` is defined before it is used and `B` after it. -/
def interleaved : List Rule :=
  [⟨"S", [["a", "B"], ["ε"]]⟩, ⟨"B", []⟩, ⟨"A", [["c"]]⟩, ⟨"S", [["A", "b"]]⟩, ⟨"ε", [["d"]]⟩]

theorem classify_exact_interleaved :
    (defined interleaved = ["S", "B", "A", "ε"] ∧
      written interleaved "S" = [["a", "B"], ["ε"], ["A", "b"]] ∧
      ["a", "B", "ε", "A"].map (kind interleaved) =
        [.terminal "a", .nonterminal "B", .empty, .nonterminal "A"]) ∧
    (∃ g, (ofRules interleaved).classify (some "A") = .ok g ∧ g.start = "A" ∧
      g.Classifies interleaved) ∧
    ∃ g, (ofRules interleaved).classify none = .ok g ∧ g.start = "S" ∧
      g.Classifies interleaved := by
  obtain ⟨_, _, hasked, hfirst⟩ := classify_exact interleaved
  exact ⟨by decide +kernel, hasked ⟨"A", [["c"]]⟩ (by decide), hfirst _ _ rfl⟩

end Draft
end GrammarSets
