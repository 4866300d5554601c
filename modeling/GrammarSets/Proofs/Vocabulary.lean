import Mathlib.Data.List.Forall2
import GrammarSets.Proofs.StopLine
import GrammarSets.Proofs.WellFormed

/-!
# Nonterminals, terminals and the empty mark

What a written symbol is depends on the rules before the line that stops the reading and on nothing
else (`classify_of_read`). The vocabulary should fall into three parts: what these rules define,
the empty mark, and everything else (`Grammar.Partitioned`). A rule for the empty mark spoils that:
the mark is then one of the nonterminals, and still the empty string wherever it is written. The
parts are disjoint exactly if there is no such rule, and all other symbols are what they should be
even if there is one.
-/
namespace GrammarSets

/-- The rules on the lines of a source, up to the line that stops the reading. -/
def Source.rules (s : Source) (settings : Settings) : List Rule :=
  (s.lines.takeWhile fun line => !settings.stops line).filterMap Line.rule?

/-- The alternatives of a grammar are those of some rules, place by place, and each symbol is
related to the text written in its place. -/
def Grammar.Reads (g : Grammar) (rules : List Rule) (related : String → Symbol → Prop) : Prop :=
  ∀ name, List.Forall₂ (List.Forall₂ related) (Rule.written rules name) (g.alternatives name)

/-- A symbol is written as a text, and is a nonterminal exactly if that text should be one. -/
def Symbol.Denotes (nonterminal : String → Prop) (text : String) (x : Symbol) : Prop :=
  x.text = text ∧ (x = .nonterminal text ↔ nonterminal text)

/-- The symbols of a grammar are divided into nonterminals, terminals and the empty mark as its
rules demand it. -/
structure Grammar.Partitioned (g : Grammar) (rules : List Rule) : Prop where
  /-- What is written is a nonterminal exactly if a rule defines it. -/
  reads : g.Reads rules (Symbol.Denotes fun text => ∃ r ∈ rules, r.lhs = text)
  /-- What is written in the same way is the same. -/
  single : ∀ x ∈ g.symbols, ∀ y ∈ g.symbols, x.text = y.text → x = y
  /-- No nonterminal is the empty mark or a terminal too. -/
  apart : ∀ name ∈ g.nonterminals, name ≠ Symbol.emptyMark ∧ name ∉ g.terminals

namespace Source
variable {s : Source} {settings : Settings} {name : String} {n : Nat} {draft d : Draft}
variable {g : Grammar}

/-- Of the lines that stop the reading only an end token lets it give a draft. -/
theorem draft_of_stops {stop : Line} {rest : List Line} (hs : settings.stops stop = true)
    (h : (collect name settings n (stop :: rest) draft).value = .ok d) : d = draft := by
  cases lineKind settings stop with
  | unreadable fault =>
      rw [collect_unreadable] at h
      cases h
  | ended he =>
      rw [collect_ended he] at h
      cases h
      rfl
  | skipped he hl => simp [Settings.stops, he, hl] at hs
  | refused he hl ho =>
      rw [collect_refused he hl (ruleAt_eq_fault_iff.2 ho)] at h
      cases h
  | rule he hl ho => simp [Settings.stops, he, ho, Except.isOk, Except.toBool] at hs

theorem draft_of_collect {lines : List Line}
    (h : (collect name settings n lines draft).value = .ok d) :
    d = (Source.rules ⟨name, lines⟩ settings).foldl Draft.add draft := by
  induction lines generalizing n draft with
  | nil =>
      rw [collect_nil] at h
      cases h
      rfl
  | cons line rest ih =>
      cases hs : settings.stops line with
      | true =>
          rw [draft_of_stops hs h]
          simp [rules, hs]
      | false =>
          rw [collect_passed_cons hs] at h
          rw [ih h]
          cases hr : line.rule? <;> simp [rules, hs, hr]

theorem classify_of_read (h : (s.read settings).value = .ok g) :
    (Draft.ofRules (s.rules settings)).classify settings.start = .ok g := by
  obtain ⟨d, hd, hg⟩ := read_eq_ok_iff.1 h
  rw [draft_of_collect hd] at hg
  exact hg

end Source

namespace Grammar
open Rule

variable {g : Grammar} {rules : List Rule} {start : Option String}

theorem reads_of_classify (h : (Draft.ofRules rules).classify start = .ok g)
    {related : String → Symbol → Prop} (hk : ∀ text, related text (kind rules text)) :
    g.Reads rules related := by
  intro name
  rw [alternatives_of_classify h, List.forall₂_map_right_iff]
  refine List.forall₂_same.2 fun texts _ => ?_
  rw [List.forall₂_map_right_iff]
  exact List.forall₂_same.2 fun text _ => hk text

theorem denotes_kind (rules : List Rule) (text : String) :
    Symbol.Denotes (fun text => text ≠ Symbol.emptyMark ∧ ∃ r ∈ rules, r.lhs = text) text
      (kind rules text) := by
  refine ⟨text_kind rules text, ?_⟩
  rw [kind_eq_nonterminal_iff, mem_defined]
  simp

theorem kind_text_of_mem (h : (Draft.ofRules rules).classify start = .ok g) {x : Symbol}
    (hx : x ∈ g.symbols) : kind rules x.text = x := by
  obtain ⟨name, alternative, ha, hx⟩ := mem_symbols.1 hx
  obtain ⟨_, _, _, texts, _, rfl⟩ := exists_rule_of_mem h ha
  obtain ⟨text, _, rfl⟩ := List.mem_map.1 hx
  rw [text_kind]

theorem eq_of_text_eq (h : (Draft.ofRules rules).classify start = .ok g) {x y : Symbol}
    (hx : x ∈ g.symbols) (hy : y ∈ g.symbols) (he : x.text = y.text) : x = y := by
  rw [← kind_text_of_mem h hx, he, kind_text_of_mem h hy]

theorem not_mem_terminals (h : (Draft.ofRules rules).classify start = .ok g) {name : String}
    (hn : name ∈ g.nonterminals) : name ∉ g.terminals :=
  fun ht => (written_of_mem_terminals h ht).1 hn

theorem partitioned_iff (h : (Draft.ofRules rules).classify start = .ok g) :
    g.Partitioned rules ↔ ∀ r ∈ rules, r.lhs ≠ Symbol.emptyMark := by
  constructor
  · intro hp r hr
    have hn : r.lhs ∈ g.nonterminals := by
      rw [nonterminals_of_classify h]
      exact mem_defined.2 ⟨r, hr, rfl⟩
    exact (hp.apart r.lhs hn).1
  · intro hmark
    have hdefined : ∀ text, (∃ r ∈ rules, r.lhs = text) → text ≠ Symbol.emptyMark := by
      rintro _ ⟨r, hr, rfl⟩
      exact hmark r hr
    refine ⟨reads_of_classify h fun text => ?_, fun _ hx _ hy he => eq_of_text_eq h hx hy he,
      fun name hn => ⟨?_, not_mem_terminals h hn⟩⟩
    · obtain ⟨htext, hk⟩ := denotes_kind rules text
      exact ⟨htext, hk.trans (and_iff_right_of_imp (hdefined text))⟩
    · rw [nonterminals_of_classify h] at hn
      exact hdefined name (mem_defined.1 hn)

end Grammar

namespace Source

/-- In a grammar that is read, what is written is a nonterminal exactly if it is not the empty mark
and a rule defines it, it is the same wherever it is written, and no nonterminal is a terminal too.
Nonterminals, terminals and the empty mark divide the vocabulary exactly if no rule defines the
empty mark. -/
theorem vocabulary_of_read (s : Source) (settings : Settings) (g : Grammar)
    (h : (s.read settings).value = .ok g) :
    (g.Reads (s.rules settings) (Symbol.Denotes fun text =>
      text ≠ Symbol.emptyMark ∧ ∃ r ∈ s.rules settings, r.lhs = text)) ∧
    (∀ x ∈ g.symbols, ∀ y ∈ g.symbols, x.text = y.text → x = y) ∧
    (∀ name ∈ g.nonterminals, name ∉ g.terminals) ∧
    (g.Partitioned (s.rules settings) ↔ ∀ r ∈ s.rules settings, r.lhs ≠ Symbol.emptyMark) := by
  have hg := classify_of_read h
  exact ⟨Grammar.reads_of_classify hg (Grammar.denotes_kind _),
    fun _ hx _ hy he => Grammar.eq_of_text_eq hg hx hy he,
    fun _ hn => Grammar.not_mem_terminals hg hn, Grammar.partitioned_iff hg⟩

theorem vocabulary_of_read_scattered :
    (scattered.read ⟨"end", some "E"⟩).value = .ok scatteredGrammar ∧
    scatteredGrammar.Partitioned (scattered.rules ⟨"end", some "E"⟩) := by
  obtain ⟨_, _, _, hpartitioned⟩ := vocabulary_of_read _ _ _ read_scattered
  exact ⟨read_scattered, hpartitioned.2 (by decide +kernel)⟩

/-- A rule that writes the empty mark, and one that defines it. -/
def markDefined : Source := ⟨"", [.ok "S -> ε", .ok "ε -> b S"]⟩

def markDefinedGrammar : Grammar where
  start := "S"
  rules := ⟨[("S", [[.empty]]), ("ε", [[.terminal "b", .nonterminal "S"]])], by decide⟩

/-- The empty mark has a rule and is a nonterminal, but it is read as the empty string. -/
theorem not_partitioned_markDefined :
    (markDefined.read ⟨"end", none⟩).value = .ok markDefinedGrammar ∧
    markDefined.rules ⟨"end", none⟩ = [⟨"S", [["ε"]]⟩, ⟨"ε", [["b", "S"]]⟩] ∧
    markDefinedGrammar.nonterminals = ["S", "ε"] ∧
    markDefinedGrammar.alternatives "S" = [[.empty]] ∧
    ¬ ∀ s settings g, (Source.read s settings).value = .ok g →
      g.Partitioned (s.rules settings) := by
  have hread : (markDefined.read ⟨"end", none⟩).value = .ok markDefinedGrammar := by
    decide +kernel
  refine ⟨hread, by decide +kernel, by decide +kernel, by decide +kernel, fun hall => ?_⟩
  have hmark : "ε" ∈ markDefinedGrammar.nonterminals := by decide +kernel
  exact ((hall _ _ _ hread).apart "ε" hmark).1 rfl

end Source
end GrammarSets
