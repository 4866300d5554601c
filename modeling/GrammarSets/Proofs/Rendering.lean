import Mathlib.Data.List.Forall2
import GrammarSets.Token

/-!
# Reading tokens is the inverse of writing them

A token list can be written in many ways: an arrow has two spellings, and blanks may
stand anywhere between tokens. `Renders` holds of a token list and each text that
writes it. Two symbols side by side need a blank between them, and no other
tokens do, since an arrow or a bar ends a symbol by itself.

The tokens of a text are the only list of proper tokens that the text renders. One
direction follows the reading of a text (`renders_scan`), the other its writing
(`scan_of_renders`). Both turn on `stops`: a symbol is read up to where it stops, and
what comes after a symbol in a rendering makes it stop there.
-/
namespace GrammarSets

/-- No blank, bar or arrow stands in a text. -/
structure Text.Unbroken (text : List Char) : Prop where
  noBlank : ∀ c ∈ text, isBlank c = false
  noBar : '|' ∉ text
  noArrow : '→' ∉ text
  noAsciiArrow : ¬ ['-', '>'] <:+: text

/-- The text of a symbol: unbroken and not empty. -/
structure Text.IsSymbol (text : List Char) : Prop extends Unbroken text where
  nonempty : text ≠ []

namespace Token
open Text

/-- A symbol token has the text of a symbol. -/
def Proper : Token → Prop
  | symbol text => IsSymbol text.toList
  | _ => True

/-- The spellings of a token. -/
inductive Spells : Token → List Char → Prop
  | asciiArrow : Spells arrow ['-', '>']
  | arrow : Spells arrow ['→']
  | bar : Spells bar ['|']
  | symbol (text : String) : Spells (symbol text) text.toList

/-- A symbol that is followed by a symbol has a blank behind it. -/
def Apart (t : Token) (tokens : List Token) (rest : List Char) : Prop :=
  ∀ text other, t = symbol text → tokens.head? = some (symbol other) →
    ∃ c cs, rest = c :: cs ∧ isBlank c = true

/-- A text writes tokens: their spellings in order, any blanks around them, and at least one
between two symbols. -/
inductive Renders : List Token → List Char → Prop
  | nil : Renders [] []
  | blank {tokens : List Token} {cs : List Char} {c : Char} : isBlank c = true →
      Renders tokens cs → Renders tokens (c :: cs)
  | token {t : Token} {tokens : List Token} {spelling cs : List Char} : Spells t spelling →
      Apart t tokens cs → Renders tokens cs → Renders (t :: tokens) (spelling ++ cs)

theorem afterArrow?_eq_some_iff {cs rest : List Char} :
    afterArrow? cs = some rest ↔ cs = '→' :: rest ∨ cs = '-' :: '>' :: rest := by
  unfold afterArrow?
  split
  · simp
  · simp
  · next h₁ h₂ =>
      refine ⟨fun h => by simp at h, ?_⟩
      rintro (rfl | rfl)
      · exact absurd rfl (h₁ rest)
      · exact absurd rfl (h₂ rest)

theorem spells_of_afterArrow? {cs rest : List Char} (h : afterArrow? cs = some rest) :
    ∃ spelling, Spells arrow spelling ∧ cs = spelling ++ rest := by
  rcases afterArrow?_eq_some_iff.1 h with rfl | rfl
  · exact ⟨_, .arrow, rfl⟩
  · exact ⟨_, .asciiArrow, rfl⟩

theorem stops_cons {c : Char} {cs : List Char} : stops (c :: cs) = true ↔
    isBlank c = true ∨ c = '|' ∨ c = '→' ∨ ∃ rest, c = '-' ∧ cs = '>' :: rest := by
  simp only [stops, Bool.or_eq_true, beq_iff_eq, Option.isSome_iff_exists,
    afterArrow?_eq_some_iff, List.cons.injEq, or_assoc]
  refine or_congr_right (or_congr_right ?_)
  constructor
  · rintro ⟨rest, ⟨h, _⟩ | h⟩
    · exact .inl h
    · exact .inr ⟨rest, h⟩
  · rintro (h | ⟨rest, h⟩)
    · exact ⟨cs, .inl ⟨h, rfl⟩⟩
    · exact ⟨rest, .inr h⟩

section Scan

theorem scan_nil : scan [] = [] := by rw [scan.eq_def]

theorem scan_cons (c : Char) (cs : List Char) : scan (c :: cs) =
    if isBlank c then scan cs
    else if c = '|' then bar :: scan cs
    else
      match afterArrow? (c :: cs) with
      | some rest => arrow :: scan rest
      | none => symbol (String.ofList (c :: (takeSymbol cs).1)) :: scan (takeSymbol cs).2 := by
  rw [scan.eq_def]
  dsimp only
  split
  · rfl
  · split
    · rfl
    · split <;> simp_all

theorem scan_blank {c : Char} (h : isBlank c = true) (cs : List Char) : scan (c :: cs) = scan cs := by
  rw [scan_cons, if_pos h]

theorem scan_bar (cs : List Char) : scan ('|' :: cs) = bar :: scan cs := by
  rw [scan_cons, if_neg (by decide), if_pos rfl]

theorem scan_arrow {spelling : List Char} (h : Spells arrow spelling) (cs : List Char) :
    scan (spelling ++ cs) = arrow :: scan cs := by
  cases h with
  | asciiArrow | arrow =>
      simp only [List.cons_append, List.nil_append]
      rw [scan_cons, if_neg (by decide), if_neg (by decide)]
      rfl

/-- Where a symbol does not stop, a symbol begins. -/
theorem scan_of_not_stops {c : Char} {cs : List Char} (h : stops (c :: cs) = false) :
    scan (c :: cs) = symbol (String.ofList (takeSymbol (c :: cs)).1) ::
      scan (takeSymbol (c :: cs)).2 := by
  have hne : ¬ stops (c :: cs) = true := by simp [h]
  simp only [stops, Bool.or_eq_false_iff, beq_eq_false_iff_ne] at h
  obtain ⟨⟨hblank, hbar⟩, harrow⟩ := h
  rw [scan_cons, takeSymbol, if_neg hne, if_neg (by simp [hblank]), if_neg hbar]
  split
  · next hs => simp [hs] at harrow
  · rfl

end Scan

section Symbols

theorem stops_append {c : Char} {cs : List Char} (h : stops (c :: cs) = true) (rest : List Char) :
    stops (c :: (cs ++ rest)) = true := by
  rw [stops_cons] at h ⊢
  refine h.imp_right (Or.imp_right (Or.imp_right ?_))
  rintro ⟨tail, hc, rfl⟩
  exact ⟨tail ++ rest, hc, rfl⟩

/-- What makes a symbol stop does not complete an arrow with the end of the symbol. -/
theorem stops_append_eq_false {c : Char} {cs rest : List Char} (h : stops (c :: cs) = false)
    (hr : stops rest = true) : stops (c :: (cs ++ rest)) = false := by
  rw [Bool.eq_false_iff] at h ⊢
  intro hs
  apply h
  rw [stops_cons] at hs ⊢
  refine hs.imp_right (Or.imp_right (Or.imp_right ?_))
  rintro ⟨tail, hc, he⟩
  cases cs with
  | nil =>
      rw [List.nil_append] at he
      rw [he] at hr
      exact absurd hr (by simp [stops_cons, show isBlank '>' = false from rfl])
  | cons d cs => exact ⟨cs, hc, by rw [(List.cons.inj he).1]⟩

theorem unbroken_nil : Unbroken [] := ⟨by simp, by simp, by simp, by simp⟩

/-- A text is unbroken if a symbol that begins with it stops nowhere inside. -/
theorem unbroken_cons {c : Char} {cs : List Char} :
    Unbroken (c :: cs) ↔ stops (c :: cs) = false ∧ Unbroken cs := by
  have harrow : ['-', '>'] <+: c :: cs ↔ ∃ rest, c = '-' ∧ cs = '>' :: rest := by
    simp only [List.cons_prefix_cons]
    constructor
    · rintro ⟨hc, tail, rfl⟩
      exact ⟨tail, hc.symm, rfl⟩
    · rintro ⟨rest, rfl, rfl⟩
      simp
  rw [Bool.eq_false_iff, Ne, stops_cons]
  constructor
  · rintro ⟨hblank, hbar, hstem, hascii⟩
    rw [List.forall_mem_cons] at hblank
    rw [List.mem_cons, not_or] at hbar hstem
    rw [List.infix_cons_iff, not_or, harrow] at hascii
    refine ⟨?_, hblank.2, hbar.2, hstem.2, hascii.2⟩
    rintro (h | h | h | h)
    · simp [hblank.1] at h
    · exact hbar.1 h.symm
    · exact hstem.1 h.symm
    · exact hascii.1 h
  · rintro ⟨h, hblank, hbar, hstem, hascii⟩
    simp only [not_or] at h
    refine ⟨List.forall_mem_cons.2 ⟨by simpa using h.1, hblank⟩, ?_, ?_, ?_⟩
    · rw [List.mem_cons, not_or]
      exact ⟨fun he => h.2.1 he.symm, hbar⟩
    · rw [List.mem_cons, not_or]
      exact ⟨fun he => h.2.2.1 he.symm, hstem⟩
    · rw [List.infix_cons_iff, not_or, harrow]
      exact ⟨h.2.2.2, hascii⟩

theorem takeSymbol_of_stops {cs : List Char} (h : stops cs = true) : takeSymbol cs = ([], cs) := by
  cases cs with
  | nil => rfl
  | cons c cs => rw [takeSymbol, if_pos h]

/-- The text of a symbol is taken as a whole, if what comes after it makes it stop. -/
theorem takeSymbol_of_unbroken {text rest : List Char} (ht : Unbroken text)
    (hr : stops rest = true) : takeSymbol (text ++ rest) = (text, rest) := by
  induction text with
  | nil => exact takeSymbol_of_stops hr
  | cons c cs ih =>
      obtain ⟨hc, hcs⟩ := unbroken_cons.1 ht
      have hgo := stops_append_eq_false hc hr
      rw [List.cons_append, takeSymbol, if_neg (by simp [hgo]), ih hcs]

theorem unbroken_takeSymbol (cs : List Char) : Unbroken (takeSymbol cs).1 := by
  induction cs with
  | nil => exact unbroken_nil
  | cons c cs ih =>
      rw [takeSymbol]
      split
      · exact unbroken_nil
      · next h =>
          -- What stops the symbol in the part taken would stop it in the whole text too.
          refine unbroken_cons.2 ⟨?_, ih⟩
          rw [Bool.eq_false_iff]
          intro hs
          have hall := stops_append hs (takeSymbol cs).2
          rw [takeSymbol_append] at hall
          exact h hall

theorem isSymbol_takeSymbol {c : Char} {cs : List Char} (h : stops (c :: cs) = false) :
    IsSymbol (takeSymbol (c :: cs)).1 where
  toUnbroken := unbroken_takeSymbol _
  nonempty := by simp [takeSymbol, h]

/-- A symbol is read as a whole, if what comes after it makes it stop. -/
theorem scan_symbol {text rest : List Char} (ht : IsSymbol text) (hr : stops rest = true) :
    scan (text ++ rest) = symbol (String.ofList text) :: scan rest := by
  cases text with
  | nil => exact absurd rfl ht.nonempty
  | cons c cs =>
      have hgo := stops_append_eq_false (unbroken_cons.1 ht.toUnbroken).1 hr
      rw [List.cons_append, scan_of_not_stops hgo, ← List.cons_append,
        takeSymbol_of_unbroken ht.toUnbroken hr]

end Symbols

/-- What holds of a text and its tokens, by what the text begins with. -/
theorem scan_induction {P : List Char → List Token → Prop} (nil : P [] [])
    (blank : ∀ c cs, isBlank c = true → P cs (scan cs) → P (c :: cs) (scan cs))
    (bar : ∀ cs, P cs (scan cs) → P ('|' :: cs) (bar :: scan cs))
    (arrow : ∀ spelling cs, Spells arrow spelling → P cs (scan cs) →
      P (spelling ++ cs) (arrow :: scan cs))
    (symbol : ∀ text cs, IsSymbol text → stops cs = true → P cs (scan cs) →
      P (text ++ cs) (symbol (String.ofList text) :: scan cs))
    (cs : List Char) : P cs (scan cs) := by
  induction cs using scan.induct with
  | case1 =>
      rw [scan_nil]
      exact nil
  | case2 c cs hc ih =>
      rw [scan_blank hc]
      exact blank c cs hc ih
  | case3 cs _ ih =>
      rw [scan_bar]
      exact bar cs ih
  | case4 c cs _ _ rest h ih =>
      obtain ⟨spelling, hs, he⟩ := spells_of_afterArrow? h
      rw [he, scan_arrow hs]
      exact arrow spelling rest hs ih
  | case5 c cs hblank hbar harrow ih =>
      have hs : stops (c :: cs) = false := by simp [stops, hblank, hbar, harrow]
      have htake : takeSymbol (c :: cs) = (c :: (takeSymbol cs).1, (takeSymbol cs).2) := by
        rw [takeSymbol, if_neg (by simp [hs])]
      have htext := isSymbol_takeSymbol hs
      have hall := takeSymbol_append (c :: cs)
      -- The recursion takes the first character by itself, and the symbol is taken with it.
      rw [scan_of_not_stops hs]
      rw [htake] at htext hall ⊢
      have hP := symbol _ _ htext (stops_takeSymbol cs) ih
      rwa [hall] at hP

/-- The tokens of a text are proper. -/
theorem proper_of_mem_scan {cs : List Char} : ∀ t ∈ scan cs, t.Proper := by
  refine scan_induction (P := fun _ tokens => ∀ t ∈ tokens, t.Proper) ?_ ?_ ?_ ?_ ?_ cs
  · simp
  · exact fun _ _ _ ih => ih
  · exact fun _ ih => List.forall_mem_cons.2 ⟨trivial, ih⟩
  · exact fun _ _ _ ih => List.forall_mem_cons.2 ⟨trivial, ih⟩
  · intro text _ ht _ ih
    refine List.forall_mem_cons.2 ⟨?_, ih⟩
    rwa [Proper, String.toList_ofList]

/-- A symbol that comes next where a symbol has stopped has a blank before it. -/
theorem blank_of_stops {cs : List Char} {text : String} (hs : stops cs = true)
    (h : (scan cs).head? = some (symbol text)) : ∃ c rest, cs = c :: rest ∧ isBlank c = true := by
  cases cs with
  | nil => simp [scan_nil] at h
  | cons c cs =>
      refine ⟨c, cs, rfl, ?_⟩
      rcases stops_cons.1 hs with hc | rfl | rfl | ⟨rest, rfl, rfl⟩
      · exact hc
      · simp [scan_bar] at h
      · rw [show '→' :: cs = ['→'] ++ cs from rfl, scan_arrow .arrow] at h
        simp at h
      · rw [show '-' :: '>' :: rest = ['-', '>'] ++ rest from rfl, scan_arrow .asciiArrow] at h
        simp at h

theorem apart_arrow (tokens : List Token) (rest : List Char) : Apart arrow tokens rest :=
  fun _ _ h => nomatch h

theorem apart_bar (tokens : List Token) (rest : List Char) : Apart bar tokens rest :=
  fun _ _ h => nomatch h

/-- A text writes the tokens that are read from it. -/
theorem renders_scan (cs : List Char) : Renders (scan cs) cs := by
  refine scan_induction (P := fun cs tokens => Renders tokens cs) .nil ?_ ?_ ?_ ?_ cs
  · exact fun _ _ hc ih => .blank hc ih
  · exact fun _ ih => .token .bar (apart_bar _ _) ih
  · exact fun _ _ hs ih => .token hs (apart_arrow _ _) ih
  · intro text rest _ hs ih
    have hspell := Spells.symbol (String.ofList text)
    rw [String.toList_ofList] at hspell
    exact .token hspell (fun _ _ _ h => blank_of_stops hs h) ih

/-- A symbol stops at what comes after it in a text that writes it. -/
theorem Renders.stops {tokens : List Token} {cs : List Char} {text : String}
    (h : Renders tokens cs) (ha : Apart (symbol text) tokens cs) : stops cs = true := by
  cases h with
  | nil => rfl
  | blank hc => exact stops_cons.2 (.inl hc)
  | token hs =>
      cases hs with
      | asciiArrow => exact stops_cons.2 (.inr (.inr (.inr ⟨_, rfl, rfl⟩)))
      | arrow => exact stops_cons.2 (.inr (.inr (.inl rfl)))
      | bar => exact stops_cons.2 (.inr (.inl rfl))
      | symbol other =>
          obtain ⟨c, rest, he, hc⟩ := ha text other rfl rfl
          rw [he]
          exact stops_cons.2 (.inl hc)

/-- Proper tokens are read back from each text that writes them. -/
theorem scan_of_renders {tokens : List Token} {cs : List Char} (h : Renders tokens cs)
    (hp : ∀ t ∈ tokens, t.Proper) : scan cs = tokens := by
  induction h with
  | nil => exact scan_nil
  | blank hc _ ih => rw [scan_blank hc, ih hp]
  | @token t tokens spelling cs hs ha hr ih =>
      rw [List.forall_mem_cons] at hp
      obtain ⟨ht, hp⟩ := hp
      cases hs with
      | asciiArrow => rw [scan_arrow .asciiArrow, ih hp]
      | arrow => rw [scan_arrow .arrow, ih hp]
      | bar => rw [List.singleton_append, scan_bar, ih hp]
      | symbol text => rw [scan_symbol ht (hr.stops ha), String.ofList_toList, ih hp]

/-- A text that writes a symbol first begins with it, blanks aside. -/
theorem Renders.head?_trim {text : String} {tokens : List Token} {cs : List Char}
    (h : Renders (symbol text :: tokens) cs) (ht : IsSymbol text.toList) :
    (trim cs).head? = text.toList.head? := by
  generalize he : symbol text :: tokens = all at h
  induction h with
  | nil => cases he
  | blank hc _ ih =>
      rw [trim_cons_of_blank hc]
      exact ih he
  | token hs =>
      obtain ⟨rfl, rfl⟩ := List.cons.inj he
      cases hs with
      | symbol =>
          obtain ⟨c, cs, hcs⟩ := List.exists_cons_of_ne_nil ht.nonempty
          have hc : isBlank c = false := ht.noBlank c (hcs ▸ List.mem_cons_self)
          rw [hcs, List.cons_append, trim_cons_of_not_blank hc]
          rfl

theorem Spells.noBlank {t : Token} {spelling : List Char} (h : Spells t spelling) (ht : t.Proper) :
    ∀ c ∈ spelling, isBlank c = false := by
  cases h with
  | symbol text => exact ht.noBlank
  | asciiArrow | arrow | bar => simp [isBlank]

/-- Without its blanks a text consists of the spellings of its tokens. -/
theorem Renders.exists_spellings {tokens : List Token} {cs : List Char} (h : Renders tokens cs)
    (hp : ∀ t ∈ tokens, t.Proper) :
    ∃ spellings, List.Forall₂ Spells tokens spellings ∧
      spellings.flatten = cs.filter (!isBlank ·) := by
  induction h with
  | nil => exact ⟨[], .nil, rfl⟩
  | blank hc _ ih =>
      obtain ⟨spellings, hs, he⟩ := ih hp
      exact ⟨spellings, hs, by simp [hc, he]⟩
  | @token t tokens spelling cs hs _ _ ih =>
      rw [List.forall_mem_cons] at hp
      obtain ⟨spellings, hrest, he⟩ := ih hp.2
      have hkeep : spelling.filter (!isBlank ·) = spelling :=
        List.filter_eq_self.2 fun c hc => by simp [hs.noBlank hp.1 c hc]
      exact ⟨spelling :: spellings, .cons hs hrest, by simp [he, hkeep]⟩

/-- The tokens of a line are the only proper tokens that the line writes; its characters other than
blanks are those of their spellings; and no symbol among them is empty. -/
theorem ofLine_eq_iff_renders (line : String) :
    (∀ tokens, ofLine line = tokens ↔ (∀ t ∈ tokens, t.Proper) ∧ Renders tokens line.toList) ∧
    (∃ spellings, List.Forall₂ Spells (ofLine line) spellings ∧
      spellings.flatten = line.toList.filter (!isBlank ·)) ∧
    symbol "" ∉ ofLine line := by
  have hrenders := renders_scan line.toList
  have hproper : ∀ t ∈ ofLine line, t.Proper := proper_of_mem_scan
  refine ⟨fun tokens => ⟨?_, fun h => scan_of_renders h.2 h.1⟩,
    hrenders.exists_spellings hproper, fun h => ?_⟩
  · rintro rfl
    exact ⟨hproper, hrenders⟩
  · exact (hproper _ h).nonempty rfl

/-- An arrow is found as early as one can begin, inside of a run of its characters too. -/
example : ofLine "-->>|a→" = [symbol "-", arrow, symbol ">", bar, symbol "a", arrow] := by
  decide +kernel

end Token
end GrammarSets
