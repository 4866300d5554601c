import GrammarSets.Fault
import GrammarSets.Lookahead
import GrammarSets.Text.Quoted

/-!
# The account of a run

Reading rules and computing sets leave records behind. A record is kept as what
happened; its severity and wording are read off it. `Logged` pairs a result with
the records of its computation, oldest first.
-/
namespace GrammarSets

/-- How much a record matters, most pressing first. -/
inductive Severity where
  | error
  | warn
  | info
  | debug
  | trace
deriving DecidableEq

/-- The place of a severity in a count from the most pressing. -/
def Severity.rank : Severity → Nat
  | error => 1
  | warn => 2
  | info => 3
  | debug => 4
  | trace => 5

/-- Something that happened during a run. -/
inductive Record where
  /-- A symbol was given more alternatives. -/
  | ruleExtended (name : String) (more : Nat)
  /-- The line that ends the input was met. -/
  | endReached (location : Location)
  /-- The rules were made into a grammar. -/
  | classified (nonterminals terminals : Nat)
  /-- A source was read to its end. -/
  | sourceRead (rules : Nat) (source : String)
  /-- A nonterminal was met again while its own FIRST set was being collected. -/
  | reentered (name : String)
  /-- The FIRST set of a symbol was fixed. -/
  | firstSettled (symbol : Symbol) (set : LookaheadSet)
  /-- The FIRST sets are complete. -/
  | firstComputed (nonterminals : Nat)
  /-- A FOLLOW set received new members. -/
  | followGrew (name : String) (set : LookaheadSet)
  /-- A sweep over the rules added nothing. -/
  | followSettled (sweeps : Nat)
  /-- The FOLLOW sets are complete. -/
  | followComputed (start : String)
deriving DecidableEq

namespace Record

def severity : Record → Severity
  | ruleExtended .. => .debug
  | endReached _ => .debug
  | classified .. => .debug
  | sourceRead .. => .info
  | reentered _ => .warn
  | firstSettled .. => .trace
  | firstComputed _ => .info
  | followGrew .. => .trace
  | followSettled _ => .debug
  | followComputed _ => .info

/-- A lookahead as records show it, with the name of a terminal in quotes. -/
def memberText : Lookahead → String
  | .terminal name => "Terminal(" ++ Text.quoted name ++ ")"
  | .empty => "Empty"
  | .endOfInput => "End"

/-- A set as records show it. -/
def setText (set : LookaheadSet) : String :=
  "\x7b" ++ ", ".intercalate (set.toList.map memberText) ++ "\x7d"

def text : Record → String
  | ruleExtended name more => "rule `" ++ name ++ "` gets " ++ more.repr ++ " more alternative(s)"
  | endReached location => "end token reached at " ++ location.text
  | classified nonterminals terminals =>
      "classified " ++ nonterminals.repr ++ " nonterminal(s) and " ++ terminals.repr ++
        " terminal(s)"
  | sourceRead rules source => "read " ++ rules.repr ++ " rule(s) from " ++ source
  | reentered name =>
      "`" ++ name ++ "` is left recursive through other symbols, its FIRST set may be incomplete"
  | firstSettled symbol set => "FIRST(" ++ symbol.text ++ ") = " ++ setText set
  | firstComputed nonterminals =>
      "computed FIRST sets of " ++ nonterminals.repr ++ " nonterminal(s)"
  | followGrew name set => "FOLLOW(" ++ name ++ ") grew to " ++ setText set
  | followSettled sweeps => "FOLLOW sets settled after " ++ sweeps.repr ++ " sweep(s)"
  | followComputed start => "computed FOLLOW sets from start symbol `" ++ start ++ "`"

/-- Whether a record is kept when nothing less pressing than `limit` is; without a limit
nothing is kept. -/
def keptAt (limit : Option Severity) (r : Record) : Bool :=
  match limit with
  | none => false
  | some s => r.severity.rank ≤ s.rank

end Record

/-- A result and the records of its computation, oldest first. -/
structure Logged (α : Type) where
  value : α
  records : List Record

namespace Logged

variable {α β : Type}

instance : Monad Logged where
  pure a := ⟨a, []⟩
  bind x f := ⟨(f x.value).value, x.records ++ (f x.value).records⟩

/-- A record and nothing else. -/
def note (r : Record) : Logged Unit := ⟨(), [r]⟩

@[simp] theorem value_pure (a : α) : (pure a : Logged α).value = a := rfl

@[simp] theorem records_pure (a : α) : (pure a : Logged α).records = [] := rfl

@[simp] theorem value_bind (x : Logged α) (f : α → Logged β) :
    (x >>= f).value = (f x.value).value := rfl

@[simp] theorem records_bind (x : Logged α) (f : α → Logged β) :
    (x >>= f).records = x.records ++ (f x.value).records := rfl

@[simp] theorem value_note (r : Record) : (note r).value = () := rfl

@[simp] theorem records_note (r : Record) : (note r).records = [r] := rfl

end Logged
end GrammarSets
