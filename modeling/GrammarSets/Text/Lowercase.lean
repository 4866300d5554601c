import GrammarSets.Text.Cased
import GrammarSets.Text.LetterCase

/-!
# Lower case of a text

Full Unicode lower case without regard to language. A capital sigma becomes a
final sigma when it ends a word: looking through case-ignorable characters, a
cased letter stands before it and none stands after it. Every other character
has a lower case of its own.
-/
namespace GrammarSets.Text

/-- Whether the first character that is not case-ignorable is cased. -/
def meetsCased (cs : List Char) : Bool :=
  match cs.dropWhile isCaseIgnorable with
  | [] => false
  | c :: _ => isCased c

/-- The lower case of one character, given the text before it, nearest character first, and
the text after it. -/
def lowerChar (before : List Char) (c : Char) (after : List Char) : List Char :=
  if c = 'Σ' then [if meetsCased before && !meetsCased after then 'ς' else 'σ']
  else if c = 'İ' then ['i', '\u0307']
  else [smallLetter c]

/-- The lower case of a text, given the text before it, nearest character first. -/
def lowerFrom (before : List Char) : List Char → List Char
  | [] => []
  | c :: cs => lowerChar before c cs ++ lowerFrom (c :: before) cs

/-- The lower case of a text. -/
def lower (cs : List Char) : List Char := lowerFrom [] cs

theorem lowerChar_hyphen (before after : List Char) : lowerChar before '-' after = ['-'] := rfl

/-- A hyphen has no case. -/
theorem hyphen_mem_lowerFrom {before cs : List Char} (h : '-' ∈ cs) : '-' ∈ lowerFrom before cs := by
  induction cs generalizing before with
  | nil => exact h
  | cons c cs ih =>
      rw [lowerFrom]
      rcases List.mem_cons.1 h with rfl | h
      · exact List.mem_append_left _ (lowerChar_hyphen before cs ▸ List.mem_cons_self)
      · exact List.mem_append_right _ (ih h)

theorem hyphen_mem_lower {cs : List Char} (h : '-' ∈ cs) : '-' ∈ lower cs := hyphen_mem_lowerFrom h

end GrammarSets.Text
