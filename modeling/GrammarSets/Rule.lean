import GrammarSets.Fault
import GrammarSets.Token

/-!
# Rules as they are written

A rule line has one arrow, a single symbol before it, and alternatives separated
by bars after it. Whether a symbol is a terminal is not known yet: that depends on
every other rule. A rule of which an alternative begins with the symbol it
defines is refused.
-/
namespace GrammarSets

/-- A nonterminal and some of its alternatives, as they are written. -/
structure Rule where
  lhs : String
  alternatives : List (List String)
deriving DecidableEq

namespace Rule

/-- The text of a symbol token. -/
def symbolText? : Token → Option String
  | .symbol text => some text
  | _ => none

/-- The alternatives between bars, one more than there are bars. -/
def alternativesOf (tokens : List Token) : List (List String) :=
  (tokens.splitOn .bar).map fun part => part.filterMap symbolText?

/-- Whether an alternative begins with a given symbol. -/
def leads (name : String) (alternative : List String) : Bool :=
  alternative.head? == some name

/-- Refuses alternatives of which one begins with the symbol they define. -/
def check (lhs : String) (alternatives : List (List String)) : Except RuleFault Unit :=
  if alternatives.any (leads lhs) then .error (.leftRecursion lhs) else .ok ()

/-- The rule that the tokens of a line spell. -/
def ofTokens (tokens : List Token) : Except RuleFault Rule :=
  match Token.sides tokens with
  | [[.symbol lhs], right] =>
      let alternatives := alternativesOf right
      match check lhs alternatives with
      | .ok () => .ok ⟨lhs, alternatives⟩
      | .error fault => .error fault
  | [_, _] => .error .missingNonterminal
  | _ => .error .malformed

/-- The rule that a line spells. -/
def ofLine (line : String) : Except RuleFault Rule := ofTokens (Token.ofLine line)

end Rule
end GrammarSets
