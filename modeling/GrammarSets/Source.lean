import GrammarSets.Grammar
import GrammarSets.Record
import GrammarSets.Text.Lines
import GrammarSets.Text.Lowercase

/-!
# Reading a grammar from a source

A source is read line by line. A line that says the end token, in upper or lower
case, ends the input; a blank line and a line that begins with a semicolon are
passed over; any other line must be a rule. The first line that cannot be read or
is no rule ends the reading with a failure there. What lies beyond the last line
looked at has no influence.
-/
namespace GrammarSets

/-- How rules are read. -/
structure Settings where
  /-- The line that ends the input, without regard to case. -/
  endToken : String
  /-- The start symbol, if not the first one defined. -/
  start : Option String

namespace Settings

/-- The end token unless another is asked for. -/
def defaultEndToken : String := "end"

/-- Whether a line, without the blanks around it, is the end token. -/
def endsAt (settings : Settings) (line : String) : Bool :=
  Text.lower (Text.trim line.toList) == Text.lower settings.endToken.toList

end Settings

/-- Whether a line should hold a rule: it is neither blank nor a comment. -/
def isRuleLine (line : String) : Bool :=
  match Text.trim line.toList with
  | [] => false
  | c :: _ => c != ';'

/-- A line of input, or the reason why it could not be read. -/
abbrev Line := Except ReadFault String

/-- The lines of a file; a line that is no valid text cannot be read. -/
def Line.ofBytes (bytes : List UInt8) : List Line := (Text.lines bytes).map Text.decode

/-- A named sequence of lines. -/
structure Source where
  name : String
  lines : List Line

namespace Source

/-- The rule that a line at some place spells. -/
def ruleAt (location : Location) (line : String) : Except Failure Rule :=
  (Rule.ofLine line).mapError fun fault => ⟨location, .rule fault⟩

/-- Adds the rules of some lines to a draft; the first line has number `n`. -/
def collect (name : String) (settings : Settings) :
    Nat → List Line → Draft → Logged (Except Failure Draft)
  | _, [], draft => return .ok draft
  | n, .error fault :: _, _ => return .error ⟨⟨name, n⟩, .unreadable fault⟩
  | n, .ok line :: rest, draft =>
      if settings.endsAt line then do
        .note (.endReached ⟨name, n⟩)
        return .ok draft
      else if isRuleLine line then
        match ruleAt ⟨name, n⟩ line with
        | .error failure => return .error failure
        | .ok rule => do
            .note (.ruleExtended rule.lhs rule.alternatives.length)
            collect name settings (n + 1) rest (draft.add rule)
      else collect name settings (n + 1) rest draft

/-- The grammar of a draft that came from a source. -/
def classify (name : String) (settings : Settings) (draft : Draft) :
    Logged (Except Failure Grammar) :=
  match draft.classify settings.start with
  | .error fault => return .error ⟨.whole name, .grammar fault⟩
  | .ok g => do
      .note (.classified g.nonterminals.length g.terminals.size)
      .note (.sourceRead g.nonterminals.length name)
      return .ok g

/-- The grammar that a source spells. -/
def read (s : Source) (settings : Settings) : Logged (Except Failure Grammar) := do
  match ← collect s.name settings 1 s.lines ∅ with
  | .error failure => return .error failure
  | .ok draft => classify s.name settings draft

end Source
end GrammarSets
