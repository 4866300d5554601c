import GrammarSets.Help
import GrammarSets.Report
import GrammarSets.Source

/-!
# The command line

Arguments are read from left to right. Three options take a value, which is
written after the option, after `=`, or as the next argument; at most one
argument is a file. The value that comes as an argument of its own is looked at
only when the next option or file is met or the arguments end (`close`), so an
unknown option further right is reported first.
-/
namespace GrammarSets

/-- What the command line asks for. -/
structure Arguments where
  file : Option String
  start : Option String
  endToken : String
  format : Format
deriving DecidableEq

/-- Why a command line is refused. -/
inductive UsageFault where
  /-- An option that does not exist, or a second file. -/
  | unknownArgument
  /-- A value is missing, or is not one the option takes. -/
  | invalidValue
  /-- An option is given twice. -/
  | repeated
  /-- A value is attached to an option that takes none. -/
  | unexpectedValue
deriving DecidableEq

/-- What to do about a command line. -/
inductive Request where
  | run (arguments : Arguments)
  | inform (topic : Help.Topic)
deriving DecidableEq

namespace Arguments

/-- What a value can be for. -/
inductive Slot where
  | file
  | start
  | endToken
  | format
deriving DecidableEq

/-- The values taken so far. `waiting` is the slot met last whose value has not been looked
at, if it has one; after `--` only files are left. -/
structure Scan where
  taken : List (Slot × String)
  waiting : Option (Slot × Option String)
  hasFile : Bool
  onlyFiles : Bool

/-- Before the first argument. -/
def Scan.initial : Scan := ⟨[], none, false, false⟩

/-- The format of a name. -/
def format? : String → Option Format
  | "table" => some .table
  | "plain" => some .plain
  | _ => none

/-- Whether a slot takes a value. -/
def accepts : Slot → String → Bool
  | .file, value => value != ""
  | .format, value => (format? value).isSome
  | _, _ => true

/-- Puts a value into a slot that is free. -/
def Scan.take (s : Scan) (slot : Slot) (value : String) : Except UsageFault Scan :=
  if (s.taken.lookup slot).isSome then .error .repeated
  else if accepts slot value then .ok { s with taken := (slot, value) :: s.taken }
  else .error .invalidValue

/-- Looks at the value that waits, if any. -/
def Scan.close (s : Scan) : Except UsageFault Scan :=
  match s.waiting with
  | none => .ok s
  | some (_, none) => .error .invalidValue
  | some (slot, some value) => { s with waiting := none }.take slot value

/-- What an option asks for. -/
inductive Meaning where
  | value (slot : Slot)
  | question (topic : Help.Topic)

/-- The options by their long names. -/
def ofLongName? : String → Option Meaning
  | "start" => some (.value .start)
  | "end-token" => some (.value .endToken)
  | "format" => some (.value .format)
  | "help" => some (.question .longHelp)
  | "version" => some (.question .version)
  | _ => none

/-- The options by their letters. -/
def ofLetter? : Char → Option Meaning
  | 's' => some (.value .start)
  | 'e' => some (.value .endToken)
  | 'f' => some (.value .format)
  | 'h' => some (.question .shortHelp)
  | 'V' => some (.question .version)
  | _ => none

/-- What has been read of a command line: more to come, or an answer already. -/
inductive Progress where
  | more (scan : Scan)
  | done (request : Request)

/-- An option that takes a value, with the value if it is attached. -/
def Scan.option (s : Scan) (slot : Slot) (attached : Option String) :
    Except UsageFault Progress := do
  let s ← s.close
  match attached with
  | some value => return .more (← s.take slot value)
  | none => return .more { s with waiting := some (slot, none) }

/-- An option written with two dashes, without them: a name, and perhaps a value after `=`. -/
def Scan.long (s : Scan) (text : List Char) : Except UsageFault Progress :=
  let attached := match text.dropWhile (· != '=') with
    | _ :: value => some (String.ofList value)
    | [] => none
  match ofLongName? (String.ofList (text.takeWhile (· != '='))), attached with
  | none, _ => .error .unknownArgument
  | some (.value slot), _ => s.option slot attached
  | some (.question _), some _ => .error .unexpectedValue
  | some (.question topic), none => do
      let _ ← s.close
      return .done (.inform topic)

/-- An option written with one dash, without it: a letter, and perhaps a value right after it
or after `=`. -/
def Scan.short (s : Scan) (letter : Char) (rest : List Char) : Except UsageFault Progress :=
  let attached := match rest with
    | [] => none
    | '=' :: value => some (String.ofList value)
    | value => some (String.ofList value)
  match ofLetter? letter with
  | none => .error .unknownArgument
  | some (.value slot) => s.option slot attached
  | some (.question topic) => do
      let _ ← s.close
      return .done (.inform topic)

/-- An argument that is no option: the value of the option before it, or the file. -/
def Scan.plain (s : Scan) (text : String) : Except UsageFault Progress :=
  match s.waiting, s.onlyFiles with
  | some (slot, none), false => .ok (.more { s with waiting := some (slot, some text) })
  | _, _ =>
      if s.hasFile then .error .unknownArgument
      else do
        let s ← s.close
        return .more { s with waiting := some (.file, some text), hasFile := true }

/-- Reads one argument. -/
def Scan.next (s : Scan) (argument : String) : Except UsageFault Progress :=
  if s.onlyFiles then s.plain argument
  else
    match argument.toList with
    | ['-', '-'] => .ok (.more { s with onlyFiles := true })
    | '-' :: '-' :: text => s.long text
    | '-' :: letter :: rest => s.short letter rest
    | _ => s.plain argument

/-- The arguments of a scan that is over; what was not given has its default. -/
def Scan.arguments (s : Scan) : Arguments where
  file := s.taken.lookup .file
  start := s.taken.lookup .start
  endToken := (s.taken.lookup .endToken).getD Settings.defaultEndToken
  format := ((s.taken.lookup .format).bind format?).getD .table

/-- Reads arguments until one of them asks for something else than a run. -/
def Scan.finish (s : Scan) : List String → Except UsageFault Request
  | [] => do
      let s ← s.close
      return .run s.arguments
  | argument :: rest => do
      match ← s.next argument with
      | .done request => return request
      | .more s => s.finish rest

/-- How rules are read according to the arguments. -/
def settings (a : Arguments) : Settings := ⟨a.endToken, a.start⟩

end Arguments

/-- What a command line asks for. -/
def Request.ofArguments (arguments : List String) : Except UsageFault Request :=
  Arguments.Scan.initial.finish arguments

end GrammarSets
