/-!
# Blank characters

The blank characters are those with the Unicode property White_Space. Control
characters such as U+001C, the zero width space U+200B and the byte order mark
U+FEFF do not have it.
-/
namespace GrammarSets.Text

/-- A character with the property White_Space. -/
def isBlank (c : Char) : Bool :=
  (0x9 ≤ c.val && c.val ≤ 0xD) || c.val == 0x20 || c.val == 0x85 || c.val == 0xA0 ||
    c.val == 0x1680 || (0x2000 ≤ c.val && c.val ≤ 0x200A) || c.val == 0x2028 ||
    c.val == 0x2029 || c.val == 0x202F || c.val == 0x205F || c.val == 0x3000

/-- A text without the blanks at its end. -/
def trimEnd (cs : List Char) : List Char := (cs.reverse.dropWhile isBlank).reverse

/-- A text without the blanks at either end. -/
def trim (cs : List Char) : List Char := trimEnd (cs.dropWhile isBlank)

theorem trim_cons_of_blank {c : Char} (h : isBlank c = true) (cs : List Char) :
    trim (c :: cs) = trim cs := by
  rw [trim, List.dropWhile_cons_of_pos h, trim]

theorem trim_cons_of_not_blank {c : Char} (h : isBlank c = false) (cs : List Char) :
    trim (c :: cs) = c :: trimEnd cs := by
  rw [trim, List.dropWhile_cons_of_neg (by simp [h]), trimEnd, trimEnd, List.reverse_cons,
    List.dropWhile_append]
  split
  · next he => simp [List.isEmpty_iff.1 he, h]
  · simp

theorem mem_dropWhile_of_not {c : Char} {cs : List Char} (h : isBlank c = false) (hm : c ∈ cs) :
    c ∈ cs.dropWhile isBlank := by
  induction cs with
  | nil => exact hm
  | cons d cs ih =>
      rw [List.dropWhile_cons]
      split
      · next hd =>
          rcases List.mem_cons.1 hm with rfl | hm
          · simp [h] at hd
          · exact ih hm
      · exact hm

/-- Only blanks are removed. -/
theorem mem_trim {c : Char} {cs : List Char} (h : isBlank c = false) (hm : c ∈ cs) : c ∈ trim cs :=
  List.mem_reverse.2 (mem_dropWhile_of_not h (List.mem_reverse.2 (mem_dropWhile_of_not h hm)))

end GrammarSets.Text
