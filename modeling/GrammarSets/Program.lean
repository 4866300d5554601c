import GrammarSets.Arguments
import GrammarSets.Folder

/-!
# What the program answers

The program reads a grammar from a file or from its input, and writes a report of
its sets. Its answer is a value: what goes to the two outputs, and the exit code.
-/
namespace GrammarSets

/-- What a run of the program leaves behind. -/
structure Outcome where
  code : Nat
  output : String
  errors : String
deriving DecidableEq

namespace UsageFault

def message : UsageFault → String
  | unknownArgument => "unexpected argument"
  | invalidValue => "invalid or missing value"
  | repeated => "an option cannot be used twice"
  | unexpectedValue => "a value was given to an option that takes none"

end UsageFault

namespace Program

/-- The name of the input of the program as a source. -/
def inputName : String := "<stdin>"

/-- Reads a grammar from what a name stands for, unless that cannot be opened. -/
def readOpened (name : String) (opened : Except ReadFault (List Line)) (settings : Settings) :
    Logged (Except Failure Grammar) :=
  match opened with
  | .ok lines => Source.read ⟨name, lines⟩ settings
  | .error fault => return .error ⟨.whole name, .unreadable fault⟩

/-- The name of the source that the arguments ask for. -/
def sourceName (a : Arguments) : String := a.file.getD inputName

/-- A run that ends in a panic. The thread and the place in a library that are told besides the
message are left out. -/
def panicked (message : String) : Outcome := ⟨101, "", message ++ "\n"⟩

/-- The answer to a run, given the lines of the source that the arguments ask for. -/
def report (a : Arguments) (opened : Except ReadFault (List Line)) : Outcome :=
  match (readOpened (sourceName a) opened a.settings).value with
  | .error failure => ⟨1, "", failure.text ++ "\n"⟩
  | .ok g =>
      match Report.render a.format (g.analyze.value.rows g) with
      | some text => ⟨0, text ++ "\n", ""⟩
      | none => panicked Report.tooWide

/-- The answer to a command line that is refused. -/
def refuse (fault : UsageFault) : Outcome :=
  ⟨2, "", "error: " ++ fault.message ++ "\n\n" ++ Help.usage ++
    "\n\nFor more information, try '--help'.\n"⟩

/-- The answer to a question about the program. -/
def inform (topic : Help.Topic) : Outcome := ⟨0, Help.text topic, ""⟩

/-- The answer to a command line, in a folder and with some input. -/
def answer (arguments : List String) (folder : Folder) (input : List UInt8) : Outcome :=
  match Request.ofArguments arguments with
  | .error fault => refuse fault
  | .ok (.inform topic) => inform topic
  | .ok (.run a) =>
      match a.file with
      | some path => report a (((folder.withInput input).find path).map Content.lines)
      | none => report a (.ok (Line.ofBytes input))

end Program
end GrammarSets
