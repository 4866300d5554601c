import GrammarSets.Follow

/-!
# The analysis of a grammar

FIRST and FOLLOW sets together, and the rows in which a report shows them.
-/
namespace GrammarSets

/-- The FIRST sets and the FOLLOW sets of a grammar. -/
structure Analysis where
  first : FirstSets
  follow : FollowSets

/-- A nonterminal and its two sets. -/
structure Row where
  nonterminal : String
  first : LookaheadSet
  follow : LookaheadSet
deriving DecidableEq

namespace Grammar

/-- Computes the FIRST sets, and with them the FOLLOW sets from the start symbol. -/
def analyze (g : Grammar) : Logged Analysis := do
  let first ← g.firstSets
  .note (.firstComputed g.nonterminals.length)
  let follow ← g.followSets first g.start
  .note (.followComputed g.start)
  return ⟨first, follow⟩

end Grammar

namespace Analysis

/-- The row of a nonterminal, if it has both sets. -/
def row? (a : Analysis) (name : String) : Option Row :=
  match a.first.get? (.nonterminal name), a.follow.get? name with
  | some first, some follow => some ⟨name, first, follow⟩
  | _, _ => none

/-- The rows of the nonterminals of a grammar, in the order of their definition. -/
def rows (a : Analysis) (g : Grammar) : List Row := g.nonterminals.filterMap a.row?

end Analysis
end GrammarSets
