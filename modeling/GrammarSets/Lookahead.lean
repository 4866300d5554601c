import GrammarSets.OrderedSet
import GrammarSets.Symbol

/-!
# Lookaheads

A member of a FIRST or FOLLOW set is a terminal, the empty string, or the end of
the input. A terminal is never confused with the two marks, however it is
spelled. Sets list terminals by code point, then the empty string, then the end.
-/
namespace GrammarSets

/-- A member of a FIRST or FOLLOW set. -/
inductive Lookahead where
  | terminal (name : String)
  | empty
  | endOfInput
deriving DecidableEq

namespace Lookahead

/-- How the end of the input is written. -/
def endMark : String := "$"

/-- A lookahead as it is written in a report. -/
def text : Lookahead → String
  | terminal name => name
  | empty => Symbol.emptyMark
  | endOfInput => endMark

/-- Terminals by code point, then the empty string, then the end of the input. -/
def order : Lookahead → Lookahead → Ordering
  | terminal a, terminal b => compare a b
  | terminal _, _ => .lt
  | empty, terminal _ => .gt
  | empty, empty => .eq
  | empty, endOfInput => .lt
  | endOfInput, endOfInput => .eq
  | endOfInput, _ => .gt

instance : Ord Lookahead := ⟨order⟩

theorem compare_terminal (a b : String) : compare (terminal a) (terminal b) = compare a b := rfl

instance : Std.LawfulEqOrd Lookahead where
  compare_self {a} := by
    cases a with
    | terminal a => rw [compare_terminal, Std.ReflOrd.compare_self]
    | empty => rfl
    | endOfInput => rfl
  eq_of_compare {a b} h := by
    cases a <;> cases b
    · rw [compare_terminal] at h
      rw [Std.LawfulEqOrd.eq_of_compare h]
    all_goals trivial

instance : Std.TransOrd Lookahead where
  eq_swap {a b} := by
    cases a <;> cases b
    · rw [compare_terminal, compare_terminal]
      exact Std.OrientedCmp.eq_swap
    all_goals rfl
  isLE_trans {a b c} h k := by
    cases a <;> cases b <;> cases c
    · rw [compare_terminal] at h k ⊢
      exact Std.TransCmp.isLE_trans h k
    all_goals trivial

end Lookahead

/-- A FIRST or FOLLOW set. -/
abbrev LookaheadSet := OrderedSet Lookahead

end GrammarSets
