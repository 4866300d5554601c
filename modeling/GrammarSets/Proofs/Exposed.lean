import GrammarSets.Proofs.Derivation

/-!
# What a form begins with

A form exposes a symbol if all that stands before the symbol can vanish. What a nonterminal unfolds
to is exposed by one of its alternatives. A derivation can expand the symbols of a form in any
order, but a terminal at the front of a derived form is found without one: by unfolding a symbol
that the form exposes, one symbol at a time (`firstOf_terminal_iff_unfolds`).
-/
namespace GrammarSets.Grammar
open Relation GrammarSets.Symbol

variable {g : Grammar} {form u v : List Symbol} {x y : Symbol} {name : String}

/-- `x` stands in a form, and all that stands before it can vanish. -/
def Exposes (g : Grammar) (form : List Symbol) (x : Symbol) : Prop :=
  ∃ before after, form = before ++ x :: after ∧ g.FirstOf before .empty

theorem not_exposes_nil : ¬ g.Exposes [] x := by
  rintro ⟨before, after, he, _⟩
  simp at he

theorem exposes_append :
    g.Exposes (u ++ v) x ↔ g.Exposes u x ∨ (g.FirstOf u .empty ∧ g.Exposes v x) := by
  constructor
  · rintro ⟨before, after, he, hb⟩
    rcases append_eq_append_cons he with ⟨m, rfl, rfl⟩ | ⟨m, rfl, rfl⟩
    · exact .inl ⟨before, m, rfl, hb⟩
    · have hboth : g.FirstOf u .empty ∧ g.FirstOf m .empty := by simpa [firstOf_append] using hb
      exact .inr ⟨hboth.1, m, after, rfl, hboth.2⟩
  · rintro (⟨before, after, rfl, hb⟩ | ⟨hu, before, after, rfl, hb⟩)
    · exact ⟨before, after ++ v, by simp, hb⟩
    · exact ⟨u ++ before, after, by simp, firstOf_append.2 (.inr ⟨hu, hb⟩)⟩

theorem exposes_singleton : g.Exposes [y] x ↔ x = y := by
  constructor
  · rintro ⟨before, after, he, _⟩
    obtain ⟨_, he⟩ | ⟨_, he⟩ := List.append_eq_singleton_iff.1 he.symm
    · exact (List.cons.inj he).1
    · exact absurd he (List.cons_ne_nil _ _)
  · rintro rfl
    exact ⟨[], [], rfl, firstOf_nil.2 rfl⟩

theorem exposes_cons :
    g.Exposes (y :: form) x ↔ x = y ∨ (g.FirstOf [y] .empty ∧ g.Exposes form x) := by
  have h : g.Exposes ([y] ++ form) x ↔ _ := exposes_append
  rwa [exposes_singleton] at h

theorem Exposes.mem (h : g.Exposes form x) : x ∈ form := by
  obtain ⟨before, after, rfl, _⟩ := h
  simp

/-- What an exposed symbol begins with, the form begins with. -/
theorem Exposes.firstOf {a : Lookahead} (h : g.Exposes form x) (ha : g.FirstOf [x] a)
    (hne : a ≠ .empty) : g.FirstOf form a := by
  obtain ⟨before, after, rfl, hb⟩ := h
  exact firstOf_append.2 (.inr ⟨hb, firstOf_cons.2 (.inl ⟨hne, ha⟩)⟩)

/-- `x` is a nonterminal, and one of its alternatives exposes `y`. -/
def Unfolds (g : Grammar) (x y : Symbol) : Prop :=
  ∃ name, x = .nonterminal name ∧ ∃ alternative ∈ g.alternatives name, g.Exposes alternative y

theorem unfolds_nonterminal :
    g.Unfolds (.nonterminal name) y ↔
      ∃ alternative ∈ g.alternatives name, g.Exposes alternative y := by
  simp [Unfolds]

theorem Unfolds.mem_symbols (h : g.Unfolds x y) : y ∈ g.symbols := by
  obtain ⟨name, _, alternative, hm, hy⟩ := h
  exact Grammar.mem_symbols.2 ⟨name, alternative, hm, hy.mem⟩

/-- A symbol that a form exposes unfolds, in any number of steps, to the terminal. -/
def Fronts (g : Grammar) (form : List Symbol) (t : String) : Prop :=
  ∃ x, g.Exposes form x ∧ ReflTransGen g.Unfolds x (.terminal t)

variable {t : String}

theorem fronts_append : g.Fronts (u ++ v) t ↔ g.Fronts u t ∨ (g.FirstOf u .empty ∧ g.Fronts v t) := by
  simp only [Fronts, exposes_append]
  grind

theorem fronts_of_alternative {alternative : List Symbol} (hm : alternative ∈ g.alternatives name)
    (h : g.Fronts alternative t) : g.Fronts [.nonterminal name] t := by
  obtain ⟨x, hx, ht⟩ := h
  have hstep : g.Unfolds (.nonterminal name) x := unfolds_nonterminal.2 ⟨alternative, hm, hx⟩
  exact ⟨.nonterminal name, exposes_singleton.2 rfl, .head hstep ht⟩

theorem Produces.fronts (hs : g.Produces u v) (h : g.Fronts v t) : g.Fronts u t := by
  cases hs with
  | @replace before after name alternative hm =>
      have hsplit : before ++ .nonterminal name :: after =
          before ++ ([.nonterminal name] ++ after) := rfl
      rw [List.append_assoc, fronts_append, fronts_append] at h
      rw [hsplit, fronts_append, fronts_append]
      -- The part of the form in which the symbol is exposed is there before the step, too.
      have hempty : g.FirstOf alternative .empty → g.FirstOf [.nonterminal name] .empty :=
        fun he => firstOf_nonterminal.2 ⟨alternative, hm, he⟩
      exact h.imp_right (And.imp_right (Or.imp (fronts_of_alternative hm) (And.imp_left hempty)))

theorem Derives.fronts (hd : g.Derives u v) (h : g.Fronts v t) : g.Fronts u t := by
  induction hd with
  | refl => exact h
  | tail _ hs ih => exact ih (hs.fronts h)

theorem fronts_of_opensWith (h : OpensWith form (.terminal t)) : g.Fronts form t := by
  obtain ⟨rest, hv⟩ := h
  obtain ⟨before, after, rfl, hb, _, _⟩ := List.filter_eq_cons_iff.1 hv
  have hvisible : visible before = [] := List.filter_eq_nil_iff.2 hb
  exact ⟨.terminal t, ⟨before, after, rfl, before, .refl before, hvisible⟩, .refl⟩

theorem firstOf_of_unfolds (h : ReflTransGen g.Unfolds x (.terminal t)) :
    g.FirstOf [x] (.terminal t) := by
  induction h using ReflTransGen.head_induction_on with
  | refl => exact firstOf_terminal.2 rfl
  | head hs _ ih =>
      obtain ⟨name, rfl, alternative, hm, hy⟩ := hs
      exact firstOf_nonterminal.2 ⟨alternative, hm, hy.firstOf ih (by simp)⟩

/-- A symbol begins with a terminal exactly if it unfolds to it. -/
theorem firstOf_terminal_iff_unfolds :
    g.FirstOf [x] (.terminal t) ↔ ReflTransGen g.Unfolds x (.terminal t) := by
  refine ⟨fun ⟨form, hd, ho⟩ => ?_, firstOf_of_unfolds⟩
  have hfronts : g.Fronts [x] t := hd.fronts (fronts_of_opensWith ho)
  obtain ⟨y, hy, ht⟩ := hfronts
  rwa [exposes_singleton.1 hy] at ht

/-- A nonterminal begins with no terminals but those of the grammar. -/
theorem mem_terminals_of_firstOf (h : g.FirstOf [.nonterminal name] (.terminal t)) :
    t ∈ g.terminals := by
  obtain he | ⟨y, _, hlast⟩ := ReflTransGen.cases_tail (firstOf_terminal_iff_unfolds.1 h)
  · cases he
  · exact mem_terminals.2 hlast.mem_symbols

end GrammarSets.Grammar
