import GrammarSets.Fault

/-!
# Lines of bytes

A line ends at a line feed, and one carriage return right before the line feed
belongs to the ending. After a final line feed there is no further line; a last
line without a line feed is kept as it is. A line is text if its bytes are valid
UTF-8.
-/
namespace GrammarSets.Text

/-- Removes one carriage return at the end. -/
def dropReturn (bytes : List UInt8) : List UInt8 :=
  if bytes.getLast? = some 0x0D then bytes.dropLast else bytes

/-- The lines among the pieces between line feeds. -/
def closeLines : List (List UInt8) → List (List UInt8)
  | [] => []
  | [last] => if last = [] then [] else [last]
  | piece :: rest => dropReturn piece :: closeLines rest

/-- The lines of some bytes, without their endings. -/
def lines (bytes : List UInt8) : List (List UInt8) := closeLines (bytes.splitOn 0x0A)

/-- The text that the bytes of a line spell. -/
def decode (bytes : List UInt8) : Except ReadFault String :=
  match String.fromUTF8? bytes.toByteArray with
  | some text => .ok text
  | none => .error .invalidText

end GrammarSets.Text
