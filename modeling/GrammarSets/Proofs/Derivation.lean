import Mathlib.Logic.Relation
import GrammarSets.Grammar

/-!
# Derivations and what a form can begin with

A sentential form is a list of symbols; a step replaces one nonterminal by one of
its alternatives, anywhere in the form and in any order. Empty marks stay in a form
and are passed over when it is read.

`FirstOf` says which lookaheads a form has: the terminals that begin a form derived
from it, and the empty string if it derives that. The laws at the end read it off the
rules (`firstOf_nonterminal`, `firstOf_append`), so that later proofs speak of
alternatives and not of derivations.
-/
namespace GrammarSets

/-- A symbol of a form of two parts stands in one of them. -/
theorem append_eq_append_cons {α : Type} {u v before after : List α} {x : α}
    (h : u ++ v = before ++ x :: after) :
    (∃ m, u = before ++ x :: m ∧ after = m ++ v) ∨ (∃ m, before = u ++ m ∧ v = m ++ x :: after) := by
  rcases List.append_eq_append_iff.1 h with ⟨m, hb, hv⟩ | ⟨m, hu, hv⟩
  · exact .inr ⟨m, hb, hv⟩
  · cases m with
    | nil => exact .inr ⟨[], by simpa using hu.symm, hv.symm⟩
    | cons y m =>
        obtain ⟨rfl, rfl⟩ := List.cons.inj hv
        exact .inl ⟨m, hu, rfl⟩

/-- A form without its empty marks. -/
def Symbol.visible (form : List Symbol) : List Symbol := form.filter (· ≠ .empty)

namespace Symbol

@[simp] theorem visible_nil : visible [] = [] := rfl

@[simp] theorem visible_append (u v : List Symbol) : visible (u ++ v) = visible u ++ visible v :=
  List.filter_append u v

@[simp] theorem visible_empty (form : List Symbol) : visible (.empty :: form) = visible form := rfl

@[simp] theorem visible_terminal (name : String) (form : List Symbol) :
    visible (.terminal name :: form) = .terminal name :: visible form := rfl

@[simp] theorem visible_nonterminal (name : String) (form : List Symbol) :
    visible (.nonterminal name :: form) = .nonterminal name :: visible form := rfl

/-- A nonterminal shown by a form stands in it. -/
theorem split_of_visible {form before after : List Symbol} {name : String}
    (h : visible form = before ++ .nonterminal name :: after) :
    ∃ u v, form = u ++ .nonterminal name :: v ∧ visible v = after := by
  obtain ⟨u, rest, rfl, _, hrest⟩ := List.filter_eq_append_iff.1 h
  obtain ⟨m, v, rfl, _, _, hv⟩ := List.filter_eq_cons_iff.1 hrest
  exact ⟨u ++ m, v, by simp, hv⟩

/-- What stands first in a form: a terminal, or nothing if the form has empty marks only. The
end of the input is no part of a form. -/
def OpensWith (form : List Symbol) : Lookahead → Prop
  | .terminal name => ∃ rest, visible form = .terminal name :: rest
  | .empty => visible form = []
  | .endOfInput => False

theorem not_opensWith_nonterminal {name : String} {form : List Symbol} {a : Lookahead} :
    ¬ OpensWith (.nonterminal name :: form) a := by
  cases a <;> simp [OpensWith]

theorem opensWith_append {u v : List Symbol} {a : Lookahead} :
    OpensWith (u ++ v) a ↔
      (a ≠ .empty ∧ OpensWith u a) ∨ (OpensWith u .empty ∧ OpensWith v a) := by
  cases hu : visible u with
  | nil => cases a <;> simp [OpensWith, hu]
  | cons x xs => cases a <;> simp [OpensWith, hu]

end Symbol

namespace Grammar
open Relation GrammarSets.Symbol

variable {g : Grammar}

/-- One nonterminal of a form is replaced by one of its alternatives. -/
inductive Produces (g : Grammar) : List Symbol → List Symbol → Prop
  | replace (before after : List Symbol) {name : String} {alternative : List Symbol} :
      alternative ∈ g.alternatives name →
      Produces g (before ++ .nonterminal name :: after) (before ++ alternative ++ after)

/-- Any number of steps. -/
def Derives (g : Grammar) : List Symbol → List Symbol → Prop := ReflTransGen g.Produces

theorem Derives.refl (form : List Symbol) : g.Derives form form := ReflTransGen.refl

theorem Derives.trans {u v w : List Symbol} (h : g.Derives u v) (k : g.Derives v w) :
    g.Derives u w := ReflTransGen.trans h k

theorem Derives.replace {u before after alternative : List Symbol} {name : String}
    (h : g.Derives u (before ++ .nonterminal name :: after))
    (hm : alternative ∈ g.alternatives name) : g.Derives u (before ++ alternative ++ after) :=
  ReflTransGen.tail h (.replace before after hm)

theorem Derives.of_alternative {name : String} {alternative : List Symbol}
    (h : alternative ∈ g.alternatives name) : g.Derives [.nonterminal name] alternative := by
  have hs : g.Derives [.nonterminal name] ([] ++ .nonterminal name :: []) := .refl _
  simpa using hs.replace h

theorem Produces.append_left {u v : List Symbol} (h : g.Produces u v) (p : List Symbol) :
    g.Produces (p ++ u) (p ++ v) := by
  cases h with
  | replace before after ha =>
      simpa only [List.append_assoc] using Produces.replace (p ++ before) after ha

theorem Produces.append_right {u v : List Symbol} (h : g.Produces u v) (s : List Symbol) :
    g.Produces (u ++ s) (v ++ s) := by
  cases h with
  | replace before after ha =>
      simpa only [List.append_assoc, List.cons_append] using Produces.replace before (after ++ s) ha

theorem Derives.append_left {u v : List Symbol} (h : g.Derives u v) (p : List Symbol) :
    g.Derives (p ++ u) (p ++ v) := by
  induction h with
  | refl => exact .refl _
  | tail _ hs ih => exact ReflTransGen.tail ih (hs.append_left p)

theorem Derives.append_right {u v : List Symbol} (h : g.Derives u v) (s : List Symbol) :
    g.Derives (u ++ s) (v ++ s) := by
  induction h with
  | refl => exact .refl _
  | tail _ hs ih => exact ReflTransGen.tail ih (hs.append_right s)

theorem Derives.append {u u' v v' : List Symbol} (h : g.Derives u u') (k : g.Derives v v') :
    g.Derives (u ++ v) (u' ++ v') :=
  (h.append_right v).trans (k.append_left u')

/-- A step in a form of two parts is a step in one of them. -/
theorem Produces.of_append {u v w : List Symbol} (h : g.Produces (u ++ v) w) :
    (∃ u', w = u' ++ v ∧ g.Produces u u') ∨ (∃ v', w = u ++ v' ∧ g.Produces v v') := by
  generalize he : u ++ v = form at h
  cases h with
  | @replace before after name alternative ha =>
      rcases append_eq_append_cons he with ⟨m, rfl, rfl⟩ | ⟨m, rfl, rfl⟩
      · exact .inl ⟨before ++ alternative ++ m, by simp, .replace before m ha⟩
      · exact .inr ⟨m ++ alternative ++ after, by simp, .replace m after ha⟩

/-- What a form of two parts derives consists of what the parts derive. -/
theorem Derives.of_append {u v w : List Symbol} (h : g.Derives (u ++ v) w) :
    ∃ u' v', w = u' ++ v' ∧ g.Derives u u' ∧ g.Derives v v' := by
  induction h with
  | refl => exact ⟨u, v, rfl, .refl u, .refl v⟩
  | tail _ hs ih =>
      obtain ⟨u', v', rfl, hu, hv⟩ := ih
      rcases hs.of_append with ⟨u'', rfl, hu'⟩ | ⟨v'', rfl, hv'⟩
      · exact ⟨u'', v', rfl, ReflTransGen.tail hu hu', hv⟩
      · exact ⟨u', v'', rfl, hu, ReflTransGen.tail hv hv'⟩

theorem Produces.of_nonterminal {name : String} {w : List Symbol}
    (h : g.Produces [.nonterminal name] w) : w ∈ g.alternatives name := by
  generalize he : [Symbol.nonterminal name] = form at h
  cases h with
  | replace before after ha =>
      rw [eq_comm, List.append_eq_singleton_iff] at he
      rcases he with ⟨rfl, he⟩ | ⟨_, he⟩
      · obtain ⟨hn, rfl⟩ := List.cons.inj he
        cases hn
        simpa using ha
      · exact absurd he (List.cons_ne_nil _ _)

theorem Derives.of_nonterminal {name : String} {w : List Symbol}
    (h : g.Derives [.nonterminal name] w) :
    w = [.nonterminal name] ∨ ∃ alternative ∈ g.alternatives name, g.Derives alternative w := by
  rcases ReflTransGen.cases_head h with he | ⟨v, hs, hd⟩
  · exact .inl he.symm
  · exact .inr ⟨v, hs.of_nonterminal, hd⟩

theorem Derives.of_fixed {form w : List Symbol} (hf : ∀ name, .nonterminal name ∉ form)
    (h : g.Derives form w) : w = form := by
  induction h with
  | refl => rfl
  | tail _ hs ih =>
      subst ih
      cases hs with
      | replace before after _ =>
          exact absurd (List.mem_append_right before List.mem_cons_self) (hf _)

/-- The lookaheads of a form: those with which a form derived from it opens. -/
def FirstOf (g : Grammar) (form : List Symbol) (a : Lookahead) : Prop :=
  ∃ form', g.Derives form form' ∧ OpensWith form' a

theorem FirstOf.of_derives {form form' : List Symbol} {a : Lookahead} (h : g.Derives form form')
    (ha : g.FirstOf form' a) : g.FirstOf form a := by
  obtain ⟨w, hd, hw⟩ := ha
  exact ⟨w, h.trans hd, hw⟩

theorem firstOf_fixed {form : List Symbol} {a : Lookahead} (hf : ∀ name, .nonterminal name ∉ form) :
    g.FirstOf form a ↔ OpensWith form a := by
  refine ⟨fun ⟨w, hd, hw⟩ => ?_, fun h => ⟨form, .refl form, h⟩⟩
  rwa [hd.of_fixed hf] at hw

@[simp] theorem firstOf_nil {a : Lookahead} : g.FirstOf [] a ↔ a = .empty := by
  rw [firstOf_fixed (by simp)]
  cases a <;> simp [OpensWith]

@[simp] theorem firstOf_terminal {name : String} {a : Lookahead} :
    g.FirstOf [.terminal name] a ↔ a = .terminal name := by
  rw [firstOf_fixed (by simp)]
  cases a <;> simp [OpensWith, eq_comm]

@[simp] theorem firstOf_empty {a : Lookahead} : g.FirstOf [.empty] a ↔ a = .empty := by
  rw [firstOf_fixed (by simp)]
  cases a <;> simp [OpensWith]

@[simp] theorem firstOf_nonterminal {name : String} {a : Lookahead} :
    g.FirstOf [.nonterminal name] a ↔
      ∃ alternative ∈ g.alternatives name, g.FirstOf alternative a := by
  constructor
  · rintro ⟨w, hd, hw⟩
    rcases hd.of_nonterminal with rfl | ⟨alternative, hm, hd⟩
    · exact absurd hw not_opensWith_nonterminal
    · exact ⟨alternative, hm, w, hd, hw⟩
  · rintro ⟨alternative, hm, ha⟩
    exact ha.of_derives (.of_alternative hm)

/-- The second part of a form counts only if the first can vanish. -/
theorem firstOf_append {u v : List Symbol} {a : Lookahead} :
    g.FirstOf (u ++ v) a ↔
      (a ≠ .empty ∧ g.FirstOf u a) ∨ (g.FirstOf u .empty ∧ g.FirstOf v a) := by
  constructor
  · rintro ⟨w, hd, hw⟩
    obtain ⟨u', v', rfl, hu, hv⟩ := hd.of_append
    rcases opensWith_append.1 hw with ⟨hne, h⟩ | ⟨hx, h⟩
    · exact .inl ⟨hne, u', hu, h⟩
    · exact .inr ⟨⟨u', hu, hx⟩, v', hv, h⟩
  · rintro (⟨hne, u', hu, h⟩ | ⟨⟨u', hu, hx⟩, v', hv, h⟩)
    · exact ⟨u' ++ v, hu.append (.refl v), opensWith_append.2 (.inl ⟨hne, h⟩)⟩
    · exact ⟨u' ++ v', hu.append hv, opensWith_append.2 (.inr ⟨hx, h⟩)⟩

theorem firstOf_cons {x : Symbol} {xs : List Symbol} {a : Lookahead} :
    g.FirstOf (x :: xs) a ↔
      (a ≠ .empty ∧ g.FirstOf [x] a) ∨ (g.FirstOf [x] .empty ∧ g.FirstOf xs a) :=
  firstOf_append (u := [x])

theorem not_firstOf_endOfInput {form : List Symbol} : ¬ g.FirstOf form .endOfInput :=
  fun ⟨_, _, h⟩ => h

end Grammar
end GrammarSets
