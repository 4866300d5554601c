import GrammarSets.Source

/-!
# Which lines are rules

A line is a rule if it has one arrow, a single symbol before the arrow, and no
alternative that begins with this symbol; the first of these that fails is reported.
The alternatives are the parts between bars. Nothing on the line is lost by splitting
it: written back with a bar between them, the alternatives give the tokens after the
arrow (`spell_alternativesOf`), and they are what is read from tokens so written
(`alternativesOf_spell`).
-/
namespace GrammarSets

/-- A part of a list that holds no separator, and has a separator or an end of the list on either
side. -/
def Segment {α : Type} (sep : α) (xs part : List α) : Prop :=
  sep ∉ part ∧ ∃ before after, xs = before ++ part ++ after ∧
    (before = [] ∨ ∃ init, before = init ++ [sep]) ∧ (after = [] ∨ ∃ rest, after = sep :: rest)

section Segments
variable {α : Type} [BEq α] [LawfulBEq α] {sep : α}

/-- Lists by their first separator. -/
theorem separator_induction (sep : α) {P : List α → Prop} (single : ∀ xs, sep ∉ xs → P xs)
    (append : ∀ part rest, sep ∉ part → P rest → P (part ++ sep :: rest)) (xs : List α) : P xs := by
  generalize hn : xs.length = n
  induction n using Nat.strongRecOn generalizing xs with
  | ind n ih =>
      by_cases hx : sep ∈ xs
      · obtain ⟨part, rest, rfl, hp⟩ := List.eq_append_cons_of_mem hx
        have hlt : rest.length < n := by
          simp only [List.length_append, List.length_cons] at hn
          omega
        exact append part rest hp (ih _ hlt rest rfl)
      · exact single xs hx

theorem length_splitOn (sep : α) (xs : List α) : (xs.splitOn sep).length = xs.count sep + 1 := by
  induction xs using separator_induction sep with
  | single xs hx => rw [List.splitOn_eq_singleton hx, List.count_eq_zero.2 hx, List.length_singleton]
  | append part rest hp ih =>
      rw [List.splitOn_append_cons_self_of_not_mem hp, List.length_cons, ih, List.count_append,
        List.count_eq_zero.2 hp, List.count_cons_self]
      omega

theorem segment_of_mem_splitOn {xs part : List α} (h : part ∈ xs.splitOn sep) :
    Segment sep xs part := by
  induction xs using separator_induction sep with
  | single xs hx =>
      rw [List.splitOn_eq_singleton hx, List.mem_singleton] at h
      subst h
      exact ⟨hx, [], [], by simp, .inl rfl, .inl rfl⟩
  | append first rest hf ih =>
      rw [List.splitOn_append_cons_self_of_not_mem hf, List.mem_cons] at h
      rcases h with rfl | h
      · exact ⟨hf, [], sep :: rest, by simp, .inl rfl, .inr ⟨rest, rfl⟩⟩
      · obtain ⟨hp, before, after, rfl, hbefore, hafter⟩ := ih h
        refine ⟨hp, first ++ sep :: before, after, by simp, .inr ?_, hafter⟩
        rcases hbefore with rfl | ⟨init, rfl⟩
        · exact ⟨first, rfl⟩
        · exact ⟨first ++ sep :: init, by simp⟩

theorem mem_splitOn_of_segment {xs part : List α} (h : Segment sep xs part) :
    part ∈ xs.splitOn sep := by
  obtain ⟨hp, before, after, rfl, hbefore, hafter⟩ := h
  have hmem : part ∈ (part ++ after).splitOn sep := by
    rcases hafter with rfl | ⟨rest, rfl⟩
    · rw [List.append_nil, List.splitOn_eq_singleton hp]
      exact List.mem_singleton.2 rfl
    · rw [List.splitOn_append_cons_self_of_not_mem hp]
      exact List.mem_cons_self
  rcases hbefore with rfl | ⟨init, rfl⟩
  · exact hmem
  · have hsplit : init ++ [sep] ++ part ++ after = init ++ sep :: (part ++ after) := by simp
    rw [hsplit, List.splitOn_append_cons_self]
    exact List.mem_append_right _ hmem

/-- Splitting a list gives its segments. -/
theorem mem_splitOn_iff {xs part : List α} : part ∈ xs.splitOn sep ↔ Segment sep xs part :=
  ⟨segment_of_mem_splitOn, mem_splitOn_of_segment⟩

end Segments

namespace Rule

/-- Alternatives as they are written, with a bar between them. -/
def spell (alternatives : List (List String)) : List Token :=
  [Token.bar].intercalate (alternatives.map (List.map .symbol))

theorem spell_cons {alternative : List String} {rest : List (List String)} (h : rest ≠ []) :
    spell (alternative :: rest) = alternative.map .symbol ++ .bar :: spell rest := by
  rw [spell, List.map_cons, List.intercalate_cons_of_ne_nil (by simpa using h), spell]
  simp

theorem symbol_mem_spell {alternatives : List (List String)} {text : String} :
    .symbol text ∈ spell alternatives ↔ ∃ alternative ∈ alternatives, text ∈ alternative := by
  induction alternatives with
  | nil => simp [spell]
  | cons alternative rest ih =>
      by_cases h : rest = []
      · simp [h, spell]
      · rw [spell_cons h, List.mem_append, List.mem_cons, ih]
        simp

theorem arrow_not_mem_spell (alternatives : List (List String)) : .arrow ∉ spell alternatives := by
  induction alternatives with
  | nil => simp [spell]
  | cons alternative rest ih =>
      by_cases h : rest = []
      · simp [h, spell]
      · rw [spell_cons h, List.mem_append, List.mem_cons, not_or, not_or]
        exact ⟨by simp, by simp, ih⟩

theorem filterMap_symbolText? (texts : List String) :
    (texts.map Token.symbol).filterMap symbolText? = texts := by
  rw [List.filterMap_map]
  exact List.filterMap_some

/-- Tokens without arrows and bars are symbols. -/
theorem map_filterMap_symbolText? {tokens : List Token} (ha : .arrow ∉ tokens)
    (hb : .bar ∉ tokens) : (tokens.filterMap symbolText?).map Token.symbol = tokens := by
  induction tokens with
  | nil => rfl
  | cons t tokens ih =>
      rw [List.mem_cons, not_or] at ha hb
      cases t with
      | arrow => exact absurd rfl ha.1
      | bar => exact absurd rfl hb.1
      | symbol text => simpa [symbolText?] using ih ha.2 hb.2

/-- Without an arrow, the alternatives are all that stands between the bars. -/
theorem map_alternativesOf {tokens : List Token} (h : .arrow ∉ tokens) :
    (alternativesOf tokens).map (List.map .symbol) = tokens.splitOn .bar := by
  have hpart : ∀ part ∈ tokens.splitOn .bar, (part.filterMap symbolText?).map .symbol = part := by
    intro part hp
    obtain ⟨hb, before, after, rfl, _, _⟩ := mem_splitOn_iff.1 hp
    rw [List.mem_append, List.mem_append, not_or, not_or] at h
    exact map_filterMap_symbolText? h.1.2 hb
  rw [alternativesOf, List.map_map]
  exact (List.map_congr_left hpart).trans (List.map_id _)

theorem spell_alternativesOf {tokens : List Token} (h : .arrow ∉ tokens) :
    spell (alternativesOf tokens) = tokens := by
  rw [spell, map_alternativesOf h, List.intercalate_splitOn]

theorem alternativesOf_spell {alternatives : List (List String)} (h : alternatives ≠ []) :
    alternativesOf (spell alternatives) = alternatives := by
  have hbar : ∀ part ∈ alternatives.map (List.map Token.symbol), .bar ∉ part := by
    simp
  rw [alternativesOf, spell, List.splitOn_intercalate _ hbar (by simpa using h), List.map_map]
  exact List.map_id'' filterMap_symbolText? _

theorem length_alternativesOf (tokens : List Token) :
    (alternativesOf tokens).length = tokens.count .bar + 1 := by
  rw [alternativesOf, List.length_map, length_splitOn]

/-- An alternative begins with a symbol exactly if the part it is written by does. -/
theorem any_leads_iff {lhs : String} {right : List Token} (h : .arrow ∉ right) :
    (alternativesOf right).any (leads lhs) = true ↔
      ∃ part, Segment .bar right part ∧ part.head? = some (.symbol lhs) := by
  simp only [← mem_splitOn_iff, ← map_alternativesOf h, List.mem_map, List.any_eq_true]
  constructor
  · rintro ⟨alternative, hm, hl⟩
    refine ⟨_, ⟨alternative, hm, rfl⟩, ?_⟩
    rw [List.head?_map, eq_of_beq hl]
    rfl
  · rintro ⟨_, ⟨alternative, hm, rfl⟩, hh⟩
    refine ⟨alternative, hm, ?_⟩
    rw [List.head?_map, Option.map_eq_some_iff] at hh
    obtain ⟨_, hh, ⟨⟩⟩ := hh
    simp [leads, hh]

theorem sides_append {left right : List Token} (hl : .arrow ∉ left) (hr : .arrow ∉ right) :
    Token.sides (left ++ .arrow :: right) = [left, right] := by
  rw [Token.sides, List.splitOn_append_cons_self_of_not_mem hl, List.splitOn_eq_singleton hr]

theorem ofTokens_of_symbol {lhs : String} {right : List Token} (hr : .arrow ∉ right) :
    ofTokens (.symbol lhs :: .arrow :: right) =
      if (alternativesOf right).any (leads lhs) then .error (.leftRecursion lhs)
      else .ok ⟨lhs, alternativesOf right⟩ := by
  have hsides : Token.sides (.symbol lhs :: .arrow :: right) = [[.symbol lhs], right] :=
    sides_append (by simp : .arrow ∉ [Token.symbol lhs]) hr
  simp only [ofTokens, hsides, check]
  by_cases h : (alternativesOf right).any (leads lhs) = true
  · rw [if_pos h, if_pos h]
  · rw [if_neg h, if_neg h]

theorem ofTokens_of_not_symbol {left right : List Token} (hl : .arrow ∉ left) (hr : .arrow ∉ right)
    (h : ∀ lhs, left ≠ [.symbol lhs]) :
    ofTokens (left ++ .arrow :: right) = .error .missingNonterminal := by
  rw [ofTokens, sides_append hl hr]
  split
  · next lhs _ he =>
      cases he
      exact absurd rfl (h lhs)
  · rfl
  · next hne => exact absurd rfl (hne left right)

theorem exists_sides {tokens : List Token} (h : tokens.count .arrow = 1) :
    ∃ left right, tokens = left ++ .arrow :: right ∧ .arrow ∉ left ∧ .arrow ∉ right := by
  obtain ⟨left, right, rfl, hl⟩ :=
    List.eq_append_cons_of_mem (List.count_pos_iff.1 (by omega) : .arrow ∈ tokens)
  rw [List.count_append, List.count_cons_self, List.count_eq_zero.2 hl] at h
  exact ⟨left, right, rfl, hl, List.count_eq_zero.1 (by omega)⟩

theorem ofTokens_eq_malformed_iff {tokens : List Token} :
    ofTokens tokens = .error .malformed ↔ tokens.count .arrow ≠ 1 := by
  by_cases h : tokens.count .arrow = 1
  · refine iff_of_false ?_ (not_not_intro h)
    obtain ⟨left, right, rfl, hl, hr⟩ := exists_sides h
    by_cases hs : ∃ lhs, left = [.symbol lhs]
    · obtain ⟨lhs, rfl⟩ := hs
      rw [List.singleton_append, ofTokens_of_symbol hr]
      split <;> simp
    · rw [ofTokens_of_not_symbol hl hr fun lhs he => hs ⟨lhs, he⟩]
      simp
  · have hlength : (Token.sides tokens).length = tokens.count .arrow + 1 := length_splitOn _ _
    have hsides : ∀ left right, Token.sides tokens ≠ [left, right] := by
      intro left right he
      rw [he, List.length_cons, List.length_singleton] at hlength
      omega
    refine iff_of_true ?_ h
    rw [ofTokens]
    split
    · next he => exact absurd he (hsides _ _)
    · next he => exact absurd he (hsides _ _)
    · rfl

/-- Rules are accepted as they are written, if there is an alternative and none begins with the
symbol that is defined. -/
theorem ofTokens_eq_ok_iff {tokens : List Token} {r : Rule} :
    ofTokens tokens = .ok r ↔ tokens = .symbol r.lhs :: .arrow :: spell r.alternatives ∧
      r.alternatives ≠ [] ∧ ∀ alternative ∈ r.alternatives, alternative.head? ≠ some r.lhs := by
  have hleads : ∀ lhs (alternatives : List (List String)), alternatives.any (leads lhs) = true ↔
      ¬ ∀ alternative ∈ alternatives, alternative.head? ≠ some lhs := by
    simp [leads]
  constructor
  · intro h
    have hcount : tokens.count .arrow = 1 := Decidable.byContradiction fun hne => by
      cases (ofTokens_eq_malformed_iff.2 hne).symm.trans h
    obtain ⟨left, right, rfl, hl, hr⟩ := exists_sides hcount
    by_cases hs : ∃ lhs, left = [.symbol lhs]
    · obtain ⟨lhs, rfl⟩ := hs
      rw [List.singleton_append, ofTokens_of_symbol hr] at h
      split at h
      · cases h
      · next hno =>
          cases h
          have hpos : 0 < (alternativesOf right).length := by
            rw [length_alternativesOf]
            omega
          rw [hleads, Classical.not_not] at hno
          exact ⟨by rw [spell_alternativesOf hr, List.singleton_append],
            List.ne_nil_of_length_pos hpos, hno⟩
    · cases (ofTokens_of_not_symbol hl hr fun lhs he => hs ⟨lhs, he⟩).symm.trans h
  · rintro ⟨rfl, hne, hall⟩
    rw [ofTokens_of_symbol (arrow_not_mem_spell _), alternativesOf_spell hne, if_neg]
    exact fun h => (hleads _ _).1 h hall

end Rule

namespace Source

theorem ruleAt_eq_error_iff {location : Location} {line : String} {failure : Failure} :
    ruleAt location line = .error failure ↔
      ∃ fault, Rule.ofLine line = .error fault ∧ failure = ⟨location, .rule fault⟩ := by
  rw [ruleAt]
  cases Rule.ofLine line with
  | error fault =>
      constructor
      · rintro ⟨⟩
        exact ⟨fault, rfl, rfl⟩
      · rintro ⟨_, ⟨⟩, rfl⟩
        rfl
  | ok rule =>
      constructor
      · rintro ⟨⟩
      · rintro ⟨_, ⟨⟩, _⟩

theorem ruleAt_eq_fault_iff {location : Location} {line : String} {fault : RuleFault} :
    ruleAt location line = .error ⟨location, .rule fault⟩ ↔ Rule.ofLine line = .error fault := by
  rw [ruleAt_eq_error_iff]
  simp

theorem ruleAt_eq_ok_iff {location : Location} {line : String} {rule : Rule} :
    ruleAt location line = .ok rule ↔ Rule.ofLine line = .ok rule := by
  rw [ruleAt]
  cases Rule.ofLine line with
  | error fault =>
      constructor
      · rintro ⟨⟩
      · rintro ⟨⟩
  | ok other =>
      constructor
      · rintro ⟨⟩
        rfl
      · rintro ⟨⟩
        rfl

/-- A line is refused as malformed exactly if it does not have one arrow, then for want of a
nonterminal exactly if the left side is not one symbol, then for left recursion exactly if a segment
of the right side begins with this symbol; otherwise it gives a rule for this symbol, whose
alternatives are one more than the bars and are written as the right side. A refusal is placed where
the line is. -/
theorem ruleAt_exact (location : Location) (line : String) :
    (ruleAt location line = .error ⟨location, .rule .malformed⟩ ↔
      (Token.ofLine line).count .arrow ≠ 1) ∧
    (∀ left right, Token.ofLine line = left ++ .arrow :: right → .arrow ∉ left → .arrow ∉ right →
      (ruleAt location line = .error ⟨location, .rule .missingNonterminal⟩ ↔
        ∀ lhs, left ≠ [.symbol lhs]) ∧
      ∀ lhs, left = [.symbol lhs] →
        (ruleAt location line = .error ⟨location, .rule (.leftRecursion lhs)⟩ ↔
          ∃ part, Segment .bar right part ∧ part.head? = some (.symbol lhs)) ∧
        ((¬ ∃ part, Segment .bar right part ∧ part.head? = some (.symbol lhs)) →
          ∃ alternatives, ruleAt location line = .ok ⟨lhs, alternatives⟩ ∧
            alternatives.length = right.count .bar + 1 ∧ Rule.spell alternatives = right)) ∧
    ∀ failure, ruleAt location line = .error failure → failure.location = location := by
  refine ⟨?_, ?_, ?_⟩
  · rw [ruleAt_eq_fault_iff]
    exact Rule.ofTokens_eq_malformed_iff
  · intro left right he hl hr
    simp only [ruleAt_eq_fault_iff, ruleAt_eq_ok_iff, Rule.ofLine, he]
    refine ⟨⟨?_, Rule.ofTokens_of_not_symbol hl hr⟩, ?_⟩
    · rintro h lhs rfl
      rw [List.singleton_append, Rule.ofTokens_of_symbol hr] at h
      split at h <;> simp at h
    · rintro lhs rfl
      rw [List.singleton_append, Rule.ofTokens_of_symbol hr, ← Rule.any_leads_iff hr]
      constructor
      · split <;> simp_all
      · intro h
        rw [if_neg h]
        exact ⟨_, rfl, Rule.length_alternativesOf right, Rule.spell_alternativesOf hr⟩
  · intro failure h
    obtain ⟨_, _, rfl⟩ := ruleAt_eq_error_iff.1 h
    rfl

/-- An empty alternative stands in the middle, and the symbol defined comes again but not first. -/
theorem ofLine_gapped : Token.ofLine "S→a S||c" =
    [.symbol "S"] ++ .arrow :: [.symbol "a", .symbol "S", .bar, .bar, .symbol "c"] := by decide +kernel

theorem ofLine_recursive : Token.ofLine "S→a|S" =
    [.symbol "S"] ++ .arrow :: [.symbol "a", .bar, .symbol "S"] := by decide +kernel

theorem ruleAt_exact_gapped :
    (∃ alternatives, ruleAt ⟨"rules", 4⟩ "S→a S||c" = .ok ⟨"S", alternatives⟩ ∧
      alternatives.length = 3 ∧
      Rule.spell alternatives = [.symbol "a", .symbol "S", .bar, .bar, .symbol "c"]) ∧
    ∃ failure, ruleAt ⟨"rules", 4⟩ "S→a|S" = .error failure ∧ failure.location = ⟨"rules", 4⟩ := by
  have hno : ¬ ∃ part, Segment Token.bar [.symbol "a", .symbol "S", .bar, .bar, .symbol "c"] part ∧
      part.head? = some (.symbol "S") := by
    rintro ⟨part, hp, hs⟩
    have hall : ∀ part ∈ [Token.symbol "a", .symbol "S", .bar, .bar, .symbol "c"].splitOn .bar,
        part.head? ≠ some (.symbol "S") := by decide
    exact hall part (mem_splitOn_iff.2 hp) hs
  have hrec : Segment Token.bar [.symbol "a", .bar, .symbol "S"] [.symbol "S"] :=
    mem_splitOn_iff.1 (by decide)
  obtain ⟨_, hshape, hplace⟩ := ruleAt_exact ⟨"rules", 4⟩ "S→a|S"
  have hfault := ((hshape _ _ ofLine_recursive (by decide) (by decide)).2 "S" rfl).1.2
    ⟨_, hrec, rfl⟩
  refine ⟨?_, _, hfault, hplace _ hfault⟩
  have hgapped := (ruleAt_exact ⟨"rules", 4⟩ "S→a S||c").2.1 _ _ ofLine_gapped (by decide) (by decide)
  exact (hgapped.2 "S" rfl).2 hno

end Source
end GrammarSets
