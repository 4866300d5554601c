import GrammarSets.Text.Blank

/-!
# Tokens of a rule line

A rule line is made of arrows, bars and symbols. An arrow is written `->` or `→`
and a bar `|`. A symbol is a longest run of characters that holds no blank and no
bar and in which no arrow begins, so `a-b` is one symbol and `a->b` is three
tokens. Blanks separate symbols and mean nothing else.
-/
namespace GrammarSets

/-- A token of a rule line. -/
inductive Token where
  | arrow
  | bar
  | symbol (text : String)
deriving DecidableEq

namespace Token
open Text

/-- What stands after an arrow at the head of a text; `none` without an arrow there. -/
def afterArrow? : List Char → Option (List Char)
  | '→' :: rest => some rest
  | '-' :: '>' :: rest => some rest
  | _ => none

/-- Whether a symbol cannot go on with this text: a blank, a bar or an arrow comes next. -/
def stops : List Char → Bool
  | [] => true
  | c :: cs => isBlank c || c == '|' || (afterArrow? (c :: cs)).isSome

/-- The symbol characters at the head of a text, and the text after them. -/
def takeSymbol : List Char → List Char × List Char
  | [] => ([], [])
  | c :: cs =>
      if stops (c :: cs) then ([], c :: cs)
      else
        let r := takeSymbol cs
        (c :: r.1, r.2)

theorem length_afterArrow? {cs rest : List Char} (h : afterArrow? cs = some rest) :
    rest.length < cs.length := by
  unfold afterArrow? at h
  split at h
  · cases h
    exact Nat.lt_succ_self _
  · cases h
    exact Nat.lt_succ_of_lt (Nat.lt_succ_self _)
  · cases h

theorem takeSymbol_append (cs : List Char) : (takeSymbol cs).1 ++ (takeSymbol cs).2 = cs := by
  induction cs with
  | nil => rfl
  | cons c cs ih =>
      rw [takeSymbol]
      split
      · rfl
      · simp [ih]

/-- A symbol ends only where it cannot go on. -/
theorem stops_takeSymbol (cs : List Char) : stops (takeSymbol cs).2 = true := by
  induction cs with
  | nil => rfl
  | cons c cs ih =>
      rw [takeSymbol]
      split
      · next h => exact h
      · exact ih

theorem length_takeSymbol_le (cs : List Char) : (takeSymbol cs).2.length ≤ cs.length := by
  have h := congrArg List.length (takeSymbol_append cs)
  rw [List.length_append] at h
  omega

/-- The tokens of a text, from left to right. -/
def scan : List Char → List Token
  | [] => []
  | c :: cs =>
      if isBlank c then scan cs
      else if c = '|' then bar :: scan cs
      else
        match _h : afterArrow? (c :: cs) with
        | some rest => arrow :: scan rest
        | none => symbol (String.ofList (c :: (takeSymbol cs).1)) :: scan (takeSymbol cs).2
termination_by cs => cs.length
decreasing_by
  · exact Nat.lt_succ_self _
  · exact Nat.lt_succ_self _
  · exact length_afterArrow? _h
  · exact Nat.lt_succ_of_le (length_takeSymbol_le cs)

/-- The tokens of a line. -/
def ofLine (line : String) : List Token := scan line.toList

/-- The parts of a line between its arrows, one more than it has arrows. -/
def sides (tokens : List Token) : List (List Token) := tokens.splitOn arrow

end Token
end GrammarSets
