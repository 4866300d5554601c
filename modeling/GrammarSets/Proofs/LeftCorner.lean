import GrammarSets.Proofs.Exposed

/-!
# Left corners and left recursion

A nonterminal of an alternative is a left corner of the defined symbol if all that
stands before it can vanish. A nonterminal that reaches itself by left corners is
left recursive, directly, through other symbols, or behind a vanishing prefix.
-/
namespace GrammarSets.Grammar
open Relation

variable {g : Grammar}

/-- The empty mark, and a nonterminal that derives the empty string. -/
def Nullable (g : Grammar) : Symbol → Prop
  | .terminal _ => False
  | .nonterminal name => g.FirstOf [.nonterminal name] .empty
  | .empty => True

theorem nullable_iff {x : Symbol} : g.Nullable x ↔ g.FirstOf [x] .empty := by
  cases x with
  | terminal name => simp [Nullable]
  | nonterminal name => rfl
  | empty => simp [Nullable]

/-- A form derives the empty string if each of its symbols can vanish. -/
theorem firstOf_empty_iff_forall {form : List Symbol} :
    g.FirstOf form .empty ↔ ∀ x ∈ form, g.Nullable x := by
  induction form with
  | nil => simp
  | cons x xs ih =>
      rw [firstOf_cons, ih, List.forall_mem_cons, nullable_iff]
      simp

/-- `other` stands in an alternative of `name`, and all symbols before it can vanish. -/
def LeftCorner (g : Grammar) (name other : String) : Prop :=
  ∃ before after, before ++ .nonterminal other :: after ∈ g.alternatives name ∧
    ∀ x ∈ before, g.Nullable x

theorem LeftCorner.exists_mem {name other : String} (h : g.LeftCorner name other) :
    ∃ alternative ∈ g.alternatives name, .nonterminal other ∈ alternative := by
  obtain ⟨before, after, hm, _⟩ := h
  exact ⟨_, hm, by simp⟩

theorem leftCorner_iff {name other : String} :
    g.LeftCorner name other ↔
      ∃ alternative ∈ g.alternatives name, g.Exposes alternative (.nonterminal other) := by
  constructor
  · rintro ⟨before, after, hm, hb⟩
    exact ⟨_, hm, before, after, rfl, firstOf_empty_iff_forall.2 hb⟩
  · rintro ⟨_, hm, before, after, rfl, hb⟩
    exact ⟨before, after, hm, firstOf_empty_iff_forall.1 hb⟩

/-- Going to a left corner is unfolding to a nonterminal. -/
theorem leftCorner_iff_unfolds {name other : String} :
    g.LeftCorner name other ↔ g.Unfolds (.nonterminal name) (.nonterminal other) := by
  rw [leftCorner_iff, unfolds_nonterminal]

/-- What is left of an alternative of `name` after symbols that can vanish. -/
def Remains (g : Grammar) (name : String) (rest : List Symbol) : Prop :=
  ∃ before, before ++ rest ∈ g.alternatives name ∧ g.FirstOf before .empty

theorem Remains.of_mem {name : String} {alternative : List Symbol}
    (h : alternative ∈ g.alternatives name) : g.Remains name alternative :=
  ⟨[], h, firstOf_nil.2 rfl⟩

theorem Remains.of_get? {name : String} {alternatives : List (List Symbol)}
    (h : g.rules.get? name = some alternatives) : ∀ xs ∈ alternatives, g.Remains name xs :=
  fun _ hxs => .of_mem (mem_alternatives.2 ⟨alternatives, h, hxs⟩)

theorem Remains.tail {name : String} {x : Symbol} {rest : List Symbol}
    (h : g.Remains name (x :: rest)) (hx : g.FirstOf [x] .empty) : g.Remains name rest := by
  obtain ⟨before, hm, hb⟩ := h
  exact ⟨before ++ [x], by simpa using hm, firstOf_append.2 (.inr ⟨hb, hx⟩)⟩

theorem Remains.firstOf {name : String} {rest : List Symbol} {a : Lookahead}
    (h : g.Remains name rest) (ha : g.FirstOf rest a) : g.FirstOf [.nonterminal name] a := by
  obtain ⟨before, hm, hb⟩ := h
  exact firstOf_nonterminal.2 ⟨_, hm, firstOf_append.2 (.inr ⟨hb, ha⟩)⟩

theorem Remains.leftCorner {name other : String} {rest : List Symbol}
    (h : g.Remains name (.nonterminal other :: rest)) : g.LeftCorner name other := by
  obtain ⟨before, hm, hb⟩ := h
  exact ⟨before, rest, hm, firstOf_empty_iff_forall.1 hb⟩

/-- A nonterminal that reaches itself by one or more left corners. -/
def LeftRecursive (g : Grammar) (name : String) : Prop := TransGen g.LeftCorner name name

/-- No left recursive nonterminal is reached by left corners, though there may be some. -/
def LeftFree (g : Grammar) (name : String) : Prop :=
  ∀ other, ReflTransGen g.LeftCorner name other → ¬ g.LeftRecursive other

theorem LeftFree.of_forall (h : ∀ name, ¬ g.LeftRecursive name) (name : String) :
    g.LeftFree name := fun other _ => h other

theorem LeftFree.not_leftRecursive {name : String} (h : g.LeftFree name) :
    ¬ g.LeftRecursive name := h name .refl

/-- Being away from left recursion is up to the left corners. -/
theorem leftFree_iff {name : String} :
    g.LeftFree name ↔ ∀ other, g.LeftCorner name other → g.LeftFree other := by
  constructor
  · exact fun h other hc target ht => h target (.head hc ht)
  · intro h target ht hrec
    rcases ReflTransGen.cases_head ht with rfl | ⟨other, hc, ht⟩
    · -- A left recursive `name` is reached from that left corner by which it reaches itself.
      obtain ⟨other, hc, ht⟩ := TransGen.head'_iff.1 hrec
      exact h other hc name ht hrec
    · exact h other hc target ht hrec

end GrammarSets.Grammar
