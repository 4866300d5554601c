import GrammarSets.Proofs.Classification
import GrammarSets.Proofs.FirstWarnings

/-!
# The walk reads alternatives as strings of symbols

The walk reads an alternative from the left with what it has at that moment: settled sets, and for
a nonterminal that is still being read what has been found so far. `FirstSets.ofSequence` reads a
string of symbols with the final sets. What the walk has at any moment is a part of what it has in
the end (`Call.exists_firstSet`), so the set of a nonterminal has nothing that its alternatives do
not have when they are read again. It may have less, since a symbol that vanishes in the end need
not have vanished then. Without a warning nothing is left recursive, all sets are complete, and
the two readings agree.
-/
namespace GrammarSets

variable {g : Grammar} {pending : Pending} {x : Symbol} {w : Walk} {first : FirstSets}

namespace First

/-- What has been found for a nonterminal while it is being read is in its final set. -/
theorem Call.found_subset (h : Call g pending x w) : pending.All fun name found =>
    ∃ set, g.firstSets.value.get? (.nonterminal name) = some set ∧ found ⊆ set := by
  induction h with
  | outer => exact Pending.all_nil
  | @inner pending name w w' alternatives found x hc hset hlook hrule hm ih =>
      refine ih.cons ⟨_, hc.get?_firstSets ?_, hm.subset⟩
      rw [visit_of_rule hset hlook hrule, Walk.get?_settle, if_pos rfl]

/-- A visit of the walk gives a part of the final set of the symbol visited. -/
theorem Call.exists_firstSet (h : Call g pending x w) :
    ∃ set, g.firstSets.value.get? x = some set ∧ (visit g pending x w).1 ⊆ set := by
  rcases get?_visit g pending x w with hsettled | ⟨name, found, rfl, hlook⟩
  · exact ⟨_, h.get?_firstSets hsettled, fun _ ha => ha⟩
  · cases hset : w.settled.get? (.nonterminal name) with
    | some set =>
        refine ⟨set, h.get?_firstSets ?_, ?_⟩
        · rwa [visit_of_settled hset]
        · rw [visit_of_settled hset]
          exact fun _ ha => ha
    | none =>
        rw [visit_of_pending hset hlook]
        exact h.found_subset name found hlook

section Reading
variable {visit : LookaheadSet → Symbol → Walk → Visit}

/-- Every visit made by reading alternatives gives a part of a certain set of its symbol. -/
def MakesWithin (first : FirstSets) (visit : LookaheadSet → Symbol → Walk → Visit)
    (alternatives : List (List Symbol)) (found : LookaheadSet) (w : Walk) : Prop :=
  ∀ found' x w', Makes visit alternatives found w found' x w' →
    ∃ set, first.get? x = some set ∧ (visit found' x w').1 ⊆ set

theorem readAlternative_within {xs : List Symbol} {rest : List (List Symbol)}
    {found : LookaheadSet} (hv : MakesWithin first visit (xs :: rest) found w) {a : Lookahead}
    (ha : a ∈ (readAlternative visit xs found w).1) : a ∈ found ∨ a ∈ first.ofSequence xs := by
  induction xs generalizing found w with
  | nil =>
      refine (OrderedSet.mem_insert.1 ha).symm.imp_right fun he => ?_
      exact OrderedSet.mem_singleton.2 he
  | cons x xs ih =>
      obtain ⟨set, hs, hsub⟩ := hv found x w (.here x xs rest found w)
      have hmore : a ∈ found ∪ (visit found x w).1.erase .empty →
          a ∈ found ∨ a ∈ first.ofSequence (x :: xs) := by
        intro ha
        refine (OrderedSet.mem_union.1 ha).imp_right fun ha => ?_
        obtain ⟨ha, hne⟩ := OrderedSet.mem_erase.1 ha
        exact FirstSets.mem_ofSequence_cons.2 ⟨set, hs, .inl ⟨hsub a ha, hne⟩⟩
      rw [readAlternative] at ha
      split at ha
      · next he =>
          rcases ih (fun found' y w' h => hv found' y w' (.next he h)) ha with ha | ha
          · exact hmore ha
          · exact .inr (FirstSets.mem_ofSequence_cons.2 ⟨set, hs, .inr ⟨hsub _ he, ha⟩⟩)
      · exact hmore ha

theorem readAlternatives_within {alternatives : List (List Symbol)} {found : LookaheadSet}
    (hv : MakesWithin first visit alternatives found w) {a : Lookahead}
    (ha : a ∈ (readAlternatives visit alternatives found w).1) :
    a ∈ found ∨ ∃ xs ∈ alternatives, a ∈ first.ofSequence xs := by
  induction alternatives generalizing found w with
  | nil => exact .inl ha
  | cons xs rest ih =>
      rcases ih (fun found' x w' h => hv found' x w' (.later h)) ha with ha | ⟨ys, hys, ha⟩
      · refine (readAlternative_within hv ha).imp_right fun ha => ?_
        exact ⟨xs, List.mem_cons_self, ha⟩
      · exact .inr ⟨ys, List.mem_cons_of_mem xs hys, ha⟩

end Reading

/-- If the set is that of a nonterminal, its alternatives begin with all that is in the set. -/
def Within (g : Grammar) (first : FirstSets) (x : Symbol) (set : LookaheadSet) : Prop :=
  ∀ name, x = .nonterminal name → ∀ a ∈ set, ∃ xs ∈ g.alternatives name, a ∈ first.ofSequence xs

theorem visit_within (hc : Call g pending x w) (hw : w.All (Within g g.firstSets.value)) :
    (visit g pending x w).2.All (Within g g.firstSets.value) := by
  -- The visits made inside this one are visits of the walk, so `hc` passes to them.
  induction pending, x, w using visit.induct g with
  | case1 pending x w set h => rwa [visit_of_settled h]
  | case2 pending w name h =>
      rw [visit_terminal h]
      exact hw.settle (by simp [Within])
  | case3 pending w h =>
      rw [visit_empty h]
      exact hw.settle (by simp [Within])
  | case4 pending w name found hlook h =>
      rw [visit_of_pending h hlook]
      exact hw
  | case5 pending w name hlook hr h =>
      rw [visit_of_no_rule h hlook hr]
      exact hw.settle fun _ _ a ha => absurd ha (OrderedSet.not_mem_empty a)
  | case6 pending w name hlook alternatives hr h ih =>
      have hinner : ∀ found' x w', Makes (fun found => visit g ((name, found) :: pending))
          alternatives ∅ w found' x w' → Call g ((name, found') :: pending) x w' :=
        fun found' x w' hm => .inner hc h hlook hr hm
      have hread := readAlternatives_keeps_of_makes (P := fun w => w.All (Within g g.firstSets.value))
        (fun found' x w' hm hw' => ih found' x w' (hinner found' x w' hm) hw') hw
      rw [visit_of_rule h hlook hr]
      refine hread.settle ?_
      rintro _ ⟨⟩ a ha
      rw [Grammar.alternatives_of_get? hr]
      have hv : MakesWithin g.firstSets.value (fun found => visit g ((name, found) :: pending))
          alternatives ∅ w := fun found' x w' hm => (hinner found' x w' hm).exists_firstSet
      exact (readAlternatives_within hv ha).resolve_left (OrderedSet.not_mem_empty a)

end First

namespace Grammar

theorem within_firstSet {name : String} {set : LookaheadSet}
    (h : g.firstSets.value.get? (.nonterminal name) = some set) {a : Lookahead} (ha : a ∈ set) :
    ∃ alternative ∈ g.alternatives name, a ∈ g.firstSets.value.ofSequence alternative :=
  First.visitAll_keeps_of_call (P := fun w => w.All (First.Within g g.firstSets.value))
    (fun _ _ hc hw => First.visit_within hc hw) Walk.all_empty _ set h name rfl a ha

/-- Where nothing is left recursive, the sets of strings of symbols are exact. -/
theorem mem_ofSequence_of_leftFree (hg : g.SelfContained) (h : ∀ name ∈ g.nonterminals, g.LeftFree name)
    {lhs : String} {alternative : List Symbol} (hm : alternative ∈ g.alternatives lhs)
    {a : Lookahead} : a ∈ g.firstSets.value.ofSequence alternative ↔ g.FirstOf alternative a := by
  apply mem_ofSequence_iff
  intro x hx
  obtain ⟨set, hs⟩ := exists_firstSet (hg.mem_vocabulary lhs alternative hm x hx)
  refine ⟨set, hs, fun a => mem_firstSet_iff hs fun name hn => ?_⟩
  obtain rfl := List.mem_singleton.1 hn
  exact h name (hg lhs alternative hm name hx)

/-- The FIRST set of a nonterminal has nothing that its alternatives, read with the final sets, do
not have. Without a warning it has all that they have; in particular, it has the empty string just
if all symbols of some alternative can vanish. -/
theorem firstSets_readings (rules : List Rule) (asked : Option String) (g : Grammar)
    (h : (Draft.ofRules rules).classify asked = .ok g) :
    ∀ name ∈ g.nonterminals, ∃ set, g.firstSets.value.get? (.nonterminal name) = some set ∧
      (∀ a ∈ set, ∃ alternative ∈ g.alternatives name,
        a ∈ g.firstSets.value.ofSequence alternative) ∧
      ((∀ r ∈ g.firstSets.records, r.severity ≠ .warn) →
        (∀ a, a ∈ set ↔ ∃ alternative ∈ g.alternatives name,
          a ∈ g.firstSets.value.ofSequence alternative) ∧
        (.empty ∈ set ↔ ∃ alternative ∈ g.alternatives name, ∀ x ∈ alternative,
          ∃ other, g.firstSets.value.get? x = some other ∧ .empty ∈ other)) := by
  intro name hn
  have hg : g.SelfContained := selfContained_of_classify h
  obtain ⟨set, hs⟩ := exists_firstSet (nonterminal_mem_vocabulary.2 hn)
  refine ⟨set, hs, fun _ => within_firstSet hs, fun hquiet => ?_⟩
  have hfree : ∀ name ∈ g.nonterminals, g.LeftFree name := by
    intro name hn
    refine (leftFree_or_warned hn).resolve_right ?_
    rintro ⟨other, _, hr⟩
    exact hquiet _ hr rfl
  have hexact : ∀ a, a ∈ set ↔ ∃ alternative ∈ g.alternatives name,
      a ∈ g.firstSets.value.ofSequence alternative := by
    intro a
    rw [mem_firstSet_iff hs (leftFreeForm_nonterminal.2 (hfree name hn)), firstOf_nonterminal]
    refine exists_congr fun alternative => and_congr_right fun hm => ?_
    exact (mem_ofSequence_of_leftFree hg hfree hm).symm
  refine ⟨hexact, ?_⟩
  simp only [hexact, FirstSets.empty_mem_ofSequence]

/-- `S → A B | c`, `A → a | ε` and `B → b A` or nothing. -/
def vanishingRules : List Rule :=
  [⟨"S", [["A", "B"], ["c"]]⟩, ⟨"A", [["a"], ["ε"]]⟩, ⟨"B", [["b", "A"], []]⟩]

def vanishing : Grammar where
  start := "S"
  rules := ⟨[("S", [[.nonterminal "A", .nonterminal "B"], [.terminal "c"]]),
    ("A", [[.terminal "a"], [.empty]]), ("B", [[.terminal "b", .nonterminal "A"], []])], by decide⟩

theorem firstSets_readings_vanishing :
    (Draft.ofRules vanishingRules).classify none = .ok vanishing ∧
    (∀ r ∈ vanishing.firstSets.records, r.severity ≠ .warn) ∧
    ∃ set, vanishing.firstSets.value.get? (.nonterminal "S") = some set ∧
      (∀ a, a ∈ set ↔ ∃ alternative ∈ vanishing.alternatives "S",
        a ∈ vanishing.firstSets.value.ofSequence alternative) ∧ .empty ∈ set := by
  have hg : (Draft.ofRules vanishingRules).classify none = .ok vanishing := by decide +kernel
  have hquiet : ∀ r ∈ vanishing.firstSets.records, r.severity ≠ .warn := by decide +kernel
  have hread : .empty ∈ vanishing.firstSets.value.ofSequence [.nonterminal "A", .nonterminal "B"] := by
    decide +kernel
  obtain ⟨set, hs, _, hall⟩ := firstSets_readings vanishingRules none vanishing hg "S" (by decide)
  obtain ⟨hexact, _⟩ := hall hquiet
  exact ⟨hg, hquiet, set, hs, hexact, (hexact _).2 ⟨_, by decide, hread⟩⟩

/-- Where there are warnings a set may lack what its alternatives have in the end: `x` begins
`A`, and `B → A b`. -/
example : cutShort.firstSets.value.get? (.nonterminal "B") = some {.terminal "c"} ∧
    .terminal "x" ∈ cutShort.firstSets.value.ofSequence [.nonterminal "A", .terminal "b"] := by
  decide +kernel

end Grammar
end GrammarSets
