/-!
# Symbols of a grammar

A symbol is a terminal, a nonterminal, or the mark of the empty string. Terminals
come before nonterminals and the empty mark comes last; names are ordered by code
point.
-/
namespace GrammarSets

/-- What an alternative of a rule is made of. -/
inductive Symbol where
  | terminal (name : String)
  | nonterminal (name : String)
  | empty
deriving DecidableEq

namespace Symbol

/-- How the empty string is written on the right side of a rule. -/
def emptyMark : String := "ε"

/-- A symbol as it is written. -/
def text : Symbol → String
  | terminal name => name
  | nonterminal name => name
  | empty => emptyMark

/-- Terminals, then nonterminals, then the empty mark; names by code point. -/
def order : Symbol → Symbol → Ordering
  | terminal a, terminal b => compare a b
  | terminal _, _ => .lt
  | nonterminal _, terminal _ => .gt
  | nonterminal a, nonterminal b => compare a b
  | nonterminal _, empty => .lt
  | empty, empty => .eq
  | empty, _ => .gt

instance : Ord Symbol := ⟨order⟩

/-- Symbols in order, equal ones side by side. -/
def sort (symbols : List Symbol) : List Symbol :=
  symbols.mergeSort fun a b => (compare a b).isLE

end Symbol
end GrammarSets
