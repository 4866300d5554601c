import GrammarSets.Grammar
import GrammarSets.Measure
import GrammarSets.Record

/-!
# FIRST sets

The FIRST set of a symbol holds the terminals that can begin what it derives, and
the empty string if it can derive that. The sets are collected by a walk through
the rules in which every symbol is settled once. A nonterminal that is met again
while its own alternatives are being read gives what has been found for it so
far, and a record says so: such a grammar is left recursive, and sets may then
lack members.

The walk ends because a nonterminal is read only if it is not being read already,
so each step inwards leaves one nonterminal fewer to read (`unread`).
-/
namespace GrammarSets

/-- The FIRST set of each symbol that has one. -/
abbrev FirstSets := Table Symbol LookaheadSet

/-- Nonterminals whose alternatives are being read, innermost first, each with what has been
found for it so far. -/
abbrev Pending := List (String × LookaheadSet)

/-- The sets settled so far and the records left so far, oldest first. -/
structure Walk where
  settled : FirstSets
  records : List Record

namespace Walk

instance : EmptyCollection Walk := ⟨⟨∅, []⟩⟩

/-- Fixes the set of a symbol. -/
def settle (w : Walk) (symbol : Symbol) (set : LookaheadSet) : Walk :=
  ⟨w.settled.insert symbol set, w.records ++ [.firstSettled symbol set]⟩

/-- Reports that a nonterminal is being read already. -/
def reenter (w : Walk) (name : String) : Walk :=
  ⟨w.settled, w.records ++ [.reentered name]⟩

end Walk

namespace First

/-- What a visit gives: the set of the symbol visited, and the walk after it. -/
abbrev Visit := LookaheadSet × Walk

/-- Reads one alternative from the left, adding to what has been `found`. The next symbol is
visited only if all before it can vanish, and the empty string is found if all symbols can. -/
def readAlternative (visit : LookaheadSet → Symbol → Walk → Visit) :
    List Symbol → LookaheadSet → Walk → Visit
  | [], found, w => (found.insert .empty, w)
  | x :: xs, found, w =>
      let v := visit found x w
      let found := found ∪ v.1.erase .empty
      if .empty ∈ v.1 then readAlternative visit xs found v.2 else (found, v.2)

/-- Reads alternatives one after the other. -/
def readAlternatives (visit : LookaheadSet → Symbol → Walk → Visit) :
    List (List Symbol) → LookaheadSet → Walk → Visit
  | [], found, w => (found, w)
  | xs :: rest, found, w =>
      let v := readAlternative visit xs found w
      readAlternatives visit rest v.1 v.2

/-- How many nonterminals with a rule are not being read. -/
def unread (g : Grammar) (pending : Pending) : Nat :=
  (g.nonterminals.filter fun name => (pending.lookup name).isNone).length

theorem unread_cons_lt {g : Grammar} {pending : Pending} {name : String}
    {alternatives : List (List Symbol)} (hp : pending.lookup name = none)
    (hr : g.rules.get? name = some alternatives) (found : LookaheadSet) :
    unread g ((name, found) :: pending) < unread g pending := by
  refine Measure.length_filter_lt (fun x hx => ?_) (Table.mem_keys_of_get? hr) (by simp [hp])
    (by simp)
  rw [List.lookup_cons] at hx
  split at hx
  · simp at hx
  · exact hx

/-- Visits a symbol. A settled symbol has its set; a terminal and the empty mark are settled
at once; a nonterminal that is being read gives what has been found for it; any other
nonterminal is settled with what its alternatives give. -/
def visit (g : Grammar) (pending : Pending) (x : Symbol) (w : Walk) : Visit :=
  match w.settled.get? x with
  | some set => (set, w)
  | none =>
      match x with
      | .terminal name => ({.terminal name}, w.settle x {.terminal name})
      | .empty => ({.empty}, w.settle x {.empty})
      | .nonterminal name =>
          match _hp : pending.lookup name with
          | some found => (found, w.reenter name)
          | none =>
              match _hr : g.rules.get? name with
              | none => (∅, w.settle x ∅)
              | some alternatives =>
                  let v := readAlternatives
                    (fun found => visit g ((name, found) :: pending)) alternatives ∅ w
                  (v.1, v.2.settle x v.1)
termination_by unread g pending
decreasing_by exact unread_cons_lt _hp _hr found

theorem visit_of_settled {g : Grammar} {pending : Pending} {x : Symbol} {w : Walk}
    {set : LookaheadSet} (h : w.settled.get? x = some set) : visit g pending x w = (set, w) := by
  rw [visit.eq_def, h]

theorem visit_terminal {g : Grammar} {pending : Pending} {name : String} {w : Walk}
    (h : w.settled.get? (.terminal name) = none) :
    visit g pending (.terminal name) w =
      ({.terminal name}, w.settle (.terminal name) {.terminal name}) := by
  rw [visit.eq_def, h]

theorem visit_empty {g : Grammar} {pending : Pending} {w : Walk}
    (h : w.settled.get? .empty = none) :
    visit g pending .empty w = ({.empty}, w.settle .empty {.empty}) := by
  rw [visit.eq_def, h]

theorem visit_of_pending {g : Grammar} {pending : Pending} {name : String} {w : Walk}
    {found : LookaheadSet} (h : w.settled.get? (.nonterminal name) = none)
    (hp : pending.lookup name = some found) :
    visit g pending (.nonterminal name) w = (found, w.reenter name) := by
  rw [visit.eq_def, h]
  dsimp only
  split
  · next hf => cases hp.symm.trans hf; rfl
  · next hn => cases hp.symm.trans hn

theorem visit_of_rule {g : Grammar} {pending : Pending} {name : String} {w : Walk}
    {alternatives : List (List Symbol)} (h : w.settled.get? (.nonterminal name) = none)
    (hp : pending.lookup name = none) (hr : g.rules.get? name = some alternatives) :
    visit g pending (.nonterminal name) w =
      let v := readAlternatives (fun found => visit g ((name, found) :: pending)) alternatives ∅ w
      (v.1, v.2.settle (.nonterminal name) v.1) := by
  rw [visit.eq_def, h]
  dsimp only
  split
  · next hf => cases hp.symm.trans hf
  · split
    · next hn => cases hr.symm.trans hn
    · next hs => cases hr.symm.trans hs; rfl

/-- Visits symbols one after the other, outside of any rule. -/
def visitAll (g : Grammar) (symbols : List Symbol) (w : Walk) : Walk :=
  symbols.foldl (fun w x => (visit g [] x w).2) w

end First

namespace Grammar

/-- Every symbol of a grammar: nonterminals as defined, terminals in order, the empty mark. -/
def vocabulary (g : Grammar) : List Symbol :=
  g.nonterminals.map .nonterminal ++ g.terminals.toList.map .terminal ++ [.empty]

/-- The FIRST sets of a grammar. -/
def firstSets (g : Grammar) : Logged FirstSets :=
  let w := First.visitAll g g.vocabulary ∅
  ⟨w.settled, w.records⟩

end Grammar

namespace LookaheadSet

/-- What begins a string, given the sets of its first part and of the rest. -/
def followedBy (s t : LookaheadSet) : LookaheadSet :=
  if .empty ∈ s then s.erase .empty ∪ t else s

theorem followedBy_of_not_mem {s : LookaheadSet} (h : .empty ∉ s) (t : LookaheadSet) :
    s.followedBy t = s := if_neg h

theorem mem_followedBy {s t : LookaheadSet} {a : Lookahead} :
    a ∈ s.followedBy t ↔ (a ∈ s ∧ a ≠ .empty) ∨ (.empty ∈ s ∧ a ∈ t) := by
  unfold followedBy
  split
  · next he => simp [he]
  · next he =>
      have hne : a ∈ s → a ≠ .empty := by
        rintro ha rfl
        exact he ha
      simpa [he] using hne

end LookaheadSet

namespace FirstSets

/-- The FIRST set of a string of symbols. A symbol without a set adds nothing and does not
vanish. -/
def ofSequence (first : FirstSets) : List Symbol → LookaheadSet
  | [] => {.empty}
  | x :: xs =>
      match first.get? x with
      | none => ∅
      | some set =>
          if .empty ∈ set then set.erase .empty ∪ ofSequence first xs else set

theorem ofSequence_nil (first : FirstSets) : first.ofSequence [] = {.empty} := rfl

theorem ofSequence_of_get?_none {first : FirstSets} {x : Symbol} (h : first.get? x = none)
    (xs : List Symbol) : first.ofSequence (x :: xs) = ∅ := by
  simp [ofSequence, h]

theorem ofSequence_of_get?_some {first : FirstSets} {x : Symbol} {set : LookaheadSet}
    (h : first.get? x = some set) (xs : List Symbol) :
    first.ofSequence (x :: xs) =
      if .empty ∈ set then set.erase .empty ∪ first.ofSequence xs else set := by
  simp [ofSequence, h]

/-- A symbol without a set counts as the empty set. -/
theorem ofSequence_cons (first : FirstSets) (x : Symbol) (xs : List Symbol) :
    first.ofSequence (x :: xs) = ((first.get? x).getD ∅).followedBy (first.ofSequence xs) := by
  cases hx : first.get? x with
  | none =>
      rw [ofSequence_of_get?_none hx, Option.getD_none,
        LookaheadSet.followedBy_of_not_mem (OrderedSet.not_mem_empty _)]
  | some set => rw [ofSequence_of_get?_some hx, Option.getD_some, LookaheadSet.followedBy]

/-- What begins a string of symbols begins the first of them, or what comes behind it if that can
vanish. -/
theorem mem_ofSequence_cons {first : FirstSets} {x : Symbol} {xs : List Symbol} {a : Lookahead} :
    a ∈ first.ofSequence (x :: xs) ↔ ∃ set, first.get? x = some set ∧
      ((a ∈ set ∧ a ≠ .empty) ∨ (.empty ∈ set ∧ a ∈ first.ofSequence xs)) := by
  rw [ofSequence_cons, LookaheadSet.mem_followedBy]
  cases first.get? x <;> simp

/-- A string of symbols can vanish if all of its symbols can. -/
theorem empty_mem_ofSequence {first : FirstSets} {xs : List Symbol} :
    .empty ∈ first.ofSequence xs ↔ ∀ x ∈ xs, ∃ set, first.get? x = some set ∧ .empty ∈ set := by
  induction xs with
  | nil => simp [ofSequence_nil]
  | cons x xs ih =>
      rw [mem_ofSequence_cons, List.forall_mem_cons, ← ih]
      constructor
      · rintro ⟨set, hs, h | ⟨he, hxs⟩⟩
        · exact absurd rfl h.2
        · exact ⟨⟨set, hs, he⟩, hxs⟩
      · rintro ⟨⟨set, hs, he⟩, hxs⟩
        exact ⟨set, hs, .inr ⟨he, hxs⟩⟩

end FirstSets
end GrammarSets
