import GrammarSets.Program

/-!
# The program

The outer layer: it fetches what the arguments ask for, and writes the outcome
that the library computes from it.
-/
namespace GrammarSets.Program

/-- The words for a refusal of the system. -/
def refusal : IO.Error → Except ReadFault (List Line)
  | .noFileOrDirectory .. => .error .missing
  | .permissionDenied .. => .error .forbidden
  | .inappropriateType _ 21 _ => .ok Content.directory.lines
  | .inappropriateType .. => .error .notDirectory
  | e => .error ⟨.other, e.toString⟩

/-- The lines of a file. -/
def openFile (path : String) : IO (Except ReadFault (List Line)) := do
  try
    let bytes ← IO.FS.readBinFile path
    return .ok (Line.ofBytes bytes.toList)
  catch e => return refusal e

/-- All that is left of a stream. -/
partial def readToEnd (stream : IO.FS.Stream) (bytes : ByteArray) : IO ByteArray := do
  let more ← stream.read 65536
  if more.isEmpty then return bytes
  readToEnd stream (bytes ++ more)

/-- Asks for rules one by one, until the end token or the end of the input. -/
partial def askForRules (stream : IO.FS.Stream) (settings : Settings) (bytes : ByteArray) :
    IO ByteArray := do
  IO.eprint "Enter rule: "
  let line ← stream.getLine
  let bytes := bytes ++ line.toUTF8
  if line.isEmpty || settings.endsAt line then return bytes
  askForRules stream settings bytes

/-- The lines of the input; somebody who types them is asked for them. -/
def openInput (settings : Settings) : IO (Except ReadFault (List Line)) := do
  let stream ← IO.getStdin
  let bytes ←
    if ← stream.isTty then
      IO.eprintln ("Enter grammar rules, or `" ++ settings.endToken ++ "` to finish")
      askForRules stream settings .empty
    else readToEnd stream .empty
  return .ok (Line.ofBytes bytes.toList)

/-- The outcome of a command line. -/
def run (arguments : List String) : IO Outcome := do
  match Request.ofArguments arguments with
  | .error fault => return refuse fault
  | .ok (.run a) =>
      let opened ← match a.file with
        | some path => openFile path
        | none => openInput a.settings
      return report a opened
  | .ok (.inform topic) => return inform topic

end GrammarSets.Program

def main (arguments : List String) : IO UInt32 := do
  let outcome ← GrammarSets.Program.run arguments
  IO.print outcome.output
  IO.eprint outcome.errors
  return outcome.code.toUInt32
