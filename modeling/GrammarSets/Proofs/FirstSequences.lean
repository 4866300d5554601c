import GrammarSets.First

/-!
# FIRST sets of strings that are put together

What begins a string begins its first part, or, if that part can vanish, the rest. On sets this is
an operation (`followedBy`) that is associative and has the set of the empty string as its unit.
The FIRST set of a string is made by it from the sets of the symbols (`ofSequence_cons`), where a
symbol without a set counts as the empty set and lets nothing past. By associativity it does not
matter where a string is cut.
-/
namespace GrammarSets

namespace LookaheadSet

theorem empty_followedBy (t : LookaheadSet) : followedBy {.empty} t = t :=
  OrderedSet.ext fun a => by simp [mem_followedBy]

/-- A string can vanish only if both of its parts can. -/
theorem empty_mem_followedBy {s t : LookaheadSet} :
    .empty ∈ s.followedBy t ↔ .empty ∈ s ∧ .empty ∈ t := by
  simp [mem_followedBy]

theorem followedBy_assoc (s t u : LookaheadSet) :
    (s.followedBy t).followedBy u = s.followedBy (t.followedBy u) := by
  refine OrderedSet.ext fun a => ?_
  rw [mem_followedBy, empty_mem_followedBy, mem_followedBy, mem_followedBy, mem_followedBy]
  grind

end LookaheadSet

namespace FirstSets
open LookaheadSet

theorem ofSequence_append (first : FirstSets) (xs ys : List Symbol) :
    first.ofSequence (xs ++ ys) = (first.ofSequence xs).followedBy (first.ofSequence ys) := by
  induction xs with
  | nil => rw [List.nil_append, ofSequence_nil, empty_followedBy]
  | cons x xs ih => rw [List.cons_append, ofSequence_cons, ofSequence_cons, ih, followedBy_assoc]

/-- Wherever a string is cut, its FIRST set is that of the first part if this part cannot vanish,
and otherwise that of the first part without the empty string together with that of the rest. A
string can vanish exactly if each of its symbols has a set and can vanish. -/
theorem ofSequence_splits (first : FirstSets) (xs ys : List Symbol) :
    first.ofSequence (xs ++ ys) =
      (if .empty ∈ first.ofSequence xs then
        (first.ofSequence xs).erase .empty ∪ first.ofSequence ys
      else first.ofSequence xs) ∧
    (.empty ∈ first.ofSequence xs ↔
      ∀ x ∈ xs, ∃ set, first.get? x = some set ∧ .empty ∈ set) := by
  refine ⟨?_, empty_mem_ofSequence⟩
  rw [ofSequence_append, followedBy]

end FirstSets
end GrammarSets
