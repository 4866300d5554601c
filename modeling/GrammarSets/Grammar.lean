import GrammarSets.Fault
import GrammarSets.Lookahead
import GrammarSets.Rule
import GrammarSets.Table

/-!
# Grammars

Rules arrive one by one into a draft, which keeps their alternatives as they are
written; a second rule for the same symbol adds to the first. Classifying a draft
decides what each written symbol is: the empty mark, a nonterminal if any rule
defines it, and otherwise a terminal.
-/
namespace GrammarSets

/-- Rules collected so far, in the order in which their symbols were first defined. -/
structure Draft where
  rules : Table String (List (List String))
deriving DecidableEq

/-- A context-free grammar: alternatives by nonterminal, and the symbol to start from. -/
structure Grammar where
  start : String
  rules : Table String (List (List Symbol))
deriving DecidableEq

namespace Grammar

/-- The nonterminals in the order of their first definition. -/
def nonterminals (g : Grammar) : List String := g.rules.keys

/-- The alternatives of a nonterminal; none if it has no rule. -/
def alternatives (g : Grammar) (name : String) : List (List Symbol) :=
  (g.rules.get? name).getD []

theorem alternatives_of_get? {g : Grammar} {name : String} {alternatives : List (List Symbol)}
    (h : g.rules.get? name = some alternatives) : g.alternatives name = alternatives := by
  rw [Grammar.alternatives, h, Option.getD_some]

theorem alternatives_of_no_rule {g : Grammar} {name : String} (h : g.rules.get? name = none) :
    g.alternatives name = [] := by
  rw [alternatives, h, Option.getD_none]

theorem mem_alternatives {g : Grammar} {name : String} {alternative : List Symbol} :
    alternative ∈ g.alternatives name ↔
      ∃ alternatives, g.rules.get? name = some alternatives ∧ alternative ∈ alternatives := by
  unfold alternatives
  cases g.rules.get? name <;> simp

theorem mem_nonterminals_of_mem {g : Grammar} {name : String} {alternative : List Symbol}
    (h : alternative ∈ g.alternatives name) : name ∈ g.nonterminals := by
  obtain ⟨_, hr, _⟩ := mem_alternatives.1 h
  exact Table.mem_keys_of_get? hr

/-- The rules use no nonterminals but those that have rules. -/
def SelfContained (g : Grammar) : Prop :=
  ∀ lhs, ∀ alternative ∈ g.alternatives lhs, ∀ name, .nonterminal name ∈ alternative →
    name ∈ g.nonterminals

/-- Every symbol that stands in an alternative, in reading order. -/
def symbols (g : Grammar) : List Symbol := g.rules.entries.flatMap fun e => e.2.flatten

/-- The name of a terminal. -/
def terminalName? : Symbol → Option String
  | .terminal name => some name
  | _ => none

/-- The terminals, in order. -/
def terminals (g : Grammar) : OrderedSet String :=
  OrderedSet.ofList (g.symbols.filterMap terminalName?)

theorem mem_symbols {g : Grammar} {x : Symbol} :
    x ∈ g.symbols ↔ ∃ name, ∃ alternative ∈ g.alternatives name, x ∈ alternative := by
  simp only [symbols, List.mem_flatMap, List.mem_flatten, Prod.exists, Table.mem_entries_iff]
  constructor
  · rintro ⟨name, alternatives, hr, alternative, hm, hx⟩
    exact ⟨name, alternative, mem_alternatives.2 ⟨alternatives, hr, hm⟩, hx⟩
  · rintro ⟨name, alternative, hm, hx⟩
    obtain ⟨alternatives, hr, hm⟩ := mem_alternatives.1 hm
    exact ⟨name, alternatives, hr, alternative, hm, hx⟩

theorem mem_terminals {g : Grammar} {name : String} :
    name ∈ g.terminals ↔ .terminal name ∈ g.symbols := by
  have hname : ∀ x, terminalName? x = some name ↔ x = .terminal name := by
    intro x
    cases x <;> simp [terminalName?]
  simp [terminals, OrderedSet.mem_ofList, List.mem_filterMap, hname]

end Grammar

namespace Draft

instance : EmptyCollection Draft := ⟨⟨∅⟩⟩

/-- Adds the alternatives of a rule to those its symbol already has. -/
def add (d : Draft) (r : Rule) : Draft :=
  ⟨d.rules.update r.lhs fun old => old.getD [] ++ r.alternatives⟩

/-- The draft of a sequence of rules. -/
def ofRules (rules : List Rule) : Draft := rules.foldl add ∅

theorem get?_add (d : Draft) (r : Rule) (name : String) :
    (d.add r).rules.get? name =
      if name = r.lhs then some ((d.rules.get? name).getD [] ++ r.alternatives)
      else d.rules.get? name := by
  rw [add, Table.get?_update]
  by_cases h : name = r.lhs
  · simp [h]
  · simp [h]

theorem keys_add (d : Draft) (r : Rule) :
    (d.add r).rules.keys =
      if r.lhs ∈ d.rules.keys then d.rules.keys else d.rules.keys ++ [r.lhs] :=
  Table.keys_update d.rules r.lhs _

/-- Whether a symbol has a rule. -/
def defines (d : Draft) (name : String) : Bool := (d.rules.get? name).isSome

/-- What a written symbol is, given all the rules. -/
def classifySymbol (d : Draft) (text : String) : Symbol :=
  if text = Symbol.emptyMark then .empty
  else if d.defines text then .nonterminal text
  else .terminal text

/-- Classifying a symbol does not change how it is written. -/
theorem text_classifySymbol (d : Draft) (text : String) : (d.classifySymbol text).text = text := by
  unfold classifySymbol
  split
  · next h => exact h.symm
  · split <;> rfl

/-- The start symbol: the one asked for, which must have a rule, or else the first defined. -/
def startSymbol (d : Draft) : Option String → Except GrammarFault String
  | some name => if d.defines name then .ok name else .error (.undefinedStart name)
  | none =>
      match d.rules.keys with
      | first :: _ => .ok first
      | [] => .error .noRules

/-- The grammar of a draft. -/
def classify (d : Draft) (start : Option String) : Except GrammarFault Grammar :=
  match d.startSymbol start with
  | .ok name => .ok ⟨name, d.rules.mapValues fun alts => alts.map (List.map d.classifySymbol)⟩
  | .error fault => .error fault

end Draft
end GrammarSets
