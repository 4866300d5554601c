/-!
# What can go wrong, and where

Reading rules fails for one of three reasons: a line is not a rule, the rules do
not make a grammar, or the input cannot be read. A failure is a fault with the
place at which it was found.
-/
namespace GrammarSets

/-- A line of a source. Lines count from one; line zero stands for the whole source. -/
structure Location where
  source : String
  line : Nat
deriving DecidableEq

namespace Location

/-- A whole source rather than one of its lines. -/
def whole (source : String) : Location := ⟨source, 0⟩

/-- The source, followed by the line if there is one. -/
def text (l : Location) : String :=
  if l.line = 0 then l.source else l.source ++ ":" ++ Nat.repr l.line

end Location

/-- Why a line is not a rule. -/
inductive RuleFault where
  /-- The line does not have exactly one arrow. -/
  | malformed
  /-- Something other than a single symbol stands before the arrow. -/
  | missingNonterminal
  /-- An alternative begins with the symbol it defines. -/
  | leftRecursion (name : String)
deriving DecidableEq

/-- Why rules do not make a grammar. -/
inductive GrammarFault where
  | noRules
  /-- The start symbol asked for has no rule. -/
  | undefinedStart (name : String)
deriving DecidableEq

/-- The kinds of trouble an input can give. -/
inductive ReadCause where
  | missing
  | forbidden
  | directory
  | notDirectory
  | nameTooLong
  | invalidPath
  | invalidText
  | endedEarly
  | other
deriving DecidableEq

/-- Why an input cannot be read, with the words of the system that refused it. -/
structure ReadFault where
  cause : ReadCause
  message : String
deriving DecidableEq

/-- Why reading rules failed. -/
inductive Fault where
  | rule (fault : RuleFault)
  | grammar (fault : GrammarFault)
  | unreadable (fault : ReadFault)
deriving DecidableEq

/-- A fault and where it was found. -/
structure Failure where
  location : Location
  fault : Fault
deriving DecidableEq

namespace RuleFault

def message : RuleFault → String
  | malformed => "Invalid rule format. Use: NonTerminal -> production1 | production2"
  | missingNonterminal => "Expected a single nonterminal before the arrow"
  | leftRecursion name =>
      "Left recursion detected in `" ++ name ++ "`, grammar is invalid for top-down parsing"

end RuleFault

namespace GrammarFault

def message : GrammarFault → String
  | noRules => "No rules were entered"
  | undefinedStart name => "Start symbol `" ++ name ++ "` has no rule"

end GrammarFault

namespace ReadFault

def missing : ReadFault := ⟨.missing, "No such file or directory (os error 2)"⟩

def forbidden : ReadFault := ⟨.forbidden, "Permission denied (os error 13)"⟩

def notDirectory : ReadFault := ⟨.notDirectory, "Not a directory (os error 20)"⟩

def directory : ReadFault := ⟨.directory, "Is a directory (os error 21)"⟩

def nameTooLong : ReadFault := ⟨.nameTooLong, "File name too long (os error 36)"⟩

def invalidPath : ReadFault := ⟨.invalidPath, "file name contained an unexpected NUL byte"⟩

def invalidText : ReadFault := ⟨.invalidText, "stream did not contain valid UTF-8"⟩

end ReadFault

namespace Fault

def message : Fault → String
  | rule fault => fault.message
  | grammar fault => fault.message
  | unreadable fault => "File error: " ++ fault.message

/-- Faults are alike when they are equal, except that the words of a read fault do not count. -/
def alike : Fault → Fault → Bool
  | unreadable a, unreadable b => decide (a.cause = b.cause)
  | a, b => decide (a = b)

end Fault

namespace Failure

/-- The failure as it is shown on a terminal, the place in bold red. -/
def text (f : Failure) : String :=
  "\x1b[31;49;1m[" ++ f.location.text ++ "]\x1b[39;49;1m  " ++ f.fault.message ++ "\x1b[0m"

end Failure
end GrammarSets
