import GrammarSets.Proofs.FirstWarnings

/-!
# Where FIRST sets lose members

A warning names the nonterminal that was met while it was being read. The sets that lack
members for that are often those of others: `cutShort` has a warning about `A` only, and its
`A` has all of its members, but `B` does not. What can be said of a nonterminal that lacks a
member is that left corners lead from it to one that a warning names, and that what had been
found for that one, when it was met, lacked the same member or the empty string (`Loses`).
Such a loss passes from a symbol to the nonterminals that unfold to it, and through settled
sets; no other member is lost (`visit_excused`).
-/
namespace GrammarSets
open Relation

variable {g : Grammar} {pending : Pending} {x : Symbol} {w : Walk} {name : String}
  {a : Lookahead}

namespace Grammar

/-- The walk met a nonterminal while it was being read, and took what had been found for it. -/
def Reentered (g : Grammar) (name : String) (found : LookaheadSet) : Prop :=
  ∃ pending w, First.Call g pending (.nonterminal name) w ∧
    w.settled.get? (.nonterminal name) = none ∧ pending.lookup name = some found

/-- Left corners lead to a nonterminal for which too little had been found when it was met: the
lookahead was still to come, or the empty string was. -/
def Loses (g : Grammar) (name : String) (a : Lookahead) : Prop :=
  ∃ other, ReflTransGen g.LeftCorner name other ∧ ∃ found, g.Reentered other found ∧
    ∃ b, (b = a ∨ b = .empty) ∧ g.FirstOf [.nonterminal other] b ∧ b ∉ found

theorem Loses.of_reentered {found : LookaheadSet} (h : g.Reentered name found)
    (ha : g.FirstOf [.nonterminal name] a) (hm : a ∉ found) : g.Loses name a :=
  ⟨name, .refl, found, h, a, .inl rfl, ha, hm⟩

theorem Loses.of_leftCorner {other : String} (hc : g.LeftCorner name other)
    (h : g.Loses other a) : g.Loses name a := by
  obtain ⟨target, ht, h⟩ := h
  exact ⟨target, .head hc ht, h⟩

/-- Without the empty string, what comes behind it is lost. -/
theorem Loses.of_empty (h : g.Loses name .empty) : g.Loses name a := by
  obtain ⟨other, ho, found, hf, b, hb, h⟩ := h
  exact ⟨other, ho, found, hf, b, .inr (hb.elim id id), h⟩

/-- A set lacks no lookaheads of a symbol but those that a nonterminal loses. -/
def Excused (g : Grammar) (x : Symbol) (set : LookaheadSet) : Prop :=
  ∀ a, g.FirstOf [x] a → a ∉ set → ∃ name, x = .nonterminal name ∧ g.Loses name a

theorem Complete.excused {set : LookaheadSet} (h : g.Complete [x] set) : g.Excused x set :=
  fun a ha hm => absurd (h a ha) hm

end Grammar

/-- Settled sets lack no members but those that are lost. -/
def Walk.Excused (w : Walk) (g : Grammar) : Prop := w.All g.Excused

namespace First

section Reading
variable {visit : LookaheadSet → Symbol → Walk → Visit}

/-- Every visit made by reading alternatives gives an excused set and keeps settled sets excused. -/
def MakesExcused (g : Grammar) (visit : LookaheadSet → Symbol → Walk → Visit)
    (alternatives : List (List Symbol)) (found : LookaheadSet) (w : Walk) : Prop :=
  ∀ found' x w', Makes visit alternatives found w found' x w' → w'.Excused g →
    g.Excused x (visit found' x w').1 ∧ (visit found' x w').2.Excused g

/-- A form loses a lookahead on a nonterminal that it exposes. -/
def LosesOn (g : Grammar) (form : List Symbol) (a : Lookahead) : Prop :=
  ∃ name, g.Exposes form (.nonterminal name) ∧ g.Loses name a

theorem LosesOn.head {xs : List Symbol} (h : g.Loses name a) :
    LosesOn g (.nonterminal name :: xs) a :=
  ⟨name, Grammar.exposes_cons.2 (.inl rfl), h⟩

theorem LosesOn.cons {xs : List Symbol} (hx : g.FirstOf [x] .empty) (h : LosesOn g xs a) :
    LosesOn g (x :: xs) a := by
  obtain ⟨name, hn, h⟩ := h
  exact ⟨name, Grammar.exposes_cons.2 (.inr ⟨hx, hn⟩), h⟩

/-- What a form loses, it loses on a nonterminal in it. -/
theorem readAlternative_excused {xs : List Symbol} {rest : List (List Symbol)}
    {found : LookaheadSet} (hv : MakesExcused g visit (xs :: rest) found w) (hw : w.Excused g) :
    (readAlternative visit xs found w).2.Excused g ∧
      ∀ a, g.FirstOf xs a → a ∉ (readAlternative visit xs found w).1 → LosesOn g xs a := by
  induction xs generalizing found w with
  | nil =>
      refine ⟨hw, fun a ha hm => absurd ?_ hm⟩
      exact OrderedSet.mem_insert.2 (.inl (Grammar.firstOf_nil.1 ha))
  | cons x xs ih =>
      obtain ⟨hx, hw'⟩ := hv found x w (.here x xs rest found w) hw
      have hhead : ∀ {a}, g.FirstOf [x] a → a ≠ .empty →
          a ∉ found ∪ (visit found x w).1.erase .empty → LosesOn g (x :: xs) a := by
        intro a ha hne hm
        have hlack : a ∉ (visit found x w).1 := fun h =>
          hm (OrderedSet.mem_union.2 (.inr (OrderedSet.mem_erase.2 ⟨h, hne⟩)))
        obtain ⟨name, rfl, hl⟩ := hx a ha hlack
        exact .head hl
      rw [readAlternative]
      split
      · next he =>
          obtain ⟨hend, hrest⟩ := ih (fun found' y w' h => hv found' y w' (.next he h)) hw'
          refine ⟨hend, fun a ha hm => ?_⟩
          rcases Grammar.firstOf_cons.1 ha with ⟨hne, ha⟩ | ⟨hempty, ha⟩
          · exact hhead ha hne fun h => hm (subset_readAlternative visit xs _ _ a h)
          · exact (hrest a ha hm).cons hempty
      · next he =>
          -- The rest of the form is not read, which loses all that it begins with if `x` can vanish.
          refine ⟨hw', fun a ha hm => ?_⟩
          rcases Grammar.firstOf_cons.1 ha with ⟨hne, ha⟩ | ⟨hempty, _⟩
          · exact hhead ha hne hm
          · obtain ⟨name, rfl, hl⟩ := hx _ hempty he
            exact .head hl.of_empty

theorem readAlternatives_excused {alternatives : List (List Symbol)} {found : LookaheadSet}
    (hv : MakesExcused g visit alternatives found w) (hw : w.Excused g) :
    (readAlternatives visit alternatives found w).2.Excused g ∧
      ∀ xs ∈ alternatives, ∀ a, g.FirstOf xs a →
        a ∉ (readAlternatives visit alternatives found w).1 → LosesOn g xs a := by
  induction alternatives generalizing found w with
  | nil => exact ⟨hw, fun xs hxs => absurd hxs List.not_mem_nil⟩
  | cons xs rest ih =>
      obtain ⟨hw', hxs⟩ := readAlternative_excused hv hw
      obtain ⟨hend, hrest⟩ := ih (fun found' y w' h => hv found' y w' (.later h)) hw'
      refine ⟨hend, List.forall_mem_cons.2 ⟨fun a ha hm => hxs a ha fun h => hm ?_, hrest⟩⟩
      exact subset_readAlternatives visit rest _ _ a h

end Reading

/-- A visit of the walk gives a set without other gaps than those lost. -/
theorem visit_excused (hc : Call g pending x w) (hw : w.Excused g) :
    g.Excused x (visit g pending x w).1 ∧ (visit g pending x w).2.Excused g := by
  -- The visits made inside this one are visits of the walk, so `hc` passes to them.
  induction pending, x, w using visit.induct g with
  | case1 pending x w set h =>
      rw [visit_of_settled h]
      exact ⟨hw x set h, hw⟩
  | case2 pending w t h =>
      rw [visit_terminal h]
      have hs : g.Excused (.terminal t) {.terminal t} := (Grammar.complete_terminal t).excused
      exact ⟨hs, hw.settle hs⟩
  | case3 pending w h =>
      rw [visit_empty h]
      have hs : g.Excused .empty {.empty} := Grammar.complete_empty.excused
      exact ⟨hs, hw.settle hs⟩
  | case4 pending w name found hlook h =>
      rw [visit_of_pending h hlook]
      have hmet : g.Reentered name found := ⟨pending, w, hc, h, hlook⟩
      exact ⟨fun a ha hm => ⟨name, rfl, .of_reentered hmet ha hm⟩, hw⟩
  | case5 pending w name hlook hr h =>
      rw [visit_of_no_rule h hlook hr]
      have hs : g.Excused (.nonterminal name) ∅ := (Grammar.complete_of_no_rule hr).excused
      exact ⟨hs, hw.settle hs⟩
  | case6 pending w name hlook alternatives hr h ih =>
      rw [visit_of_rule h hlook hr]
      have hv : MakesExcused g (fun found => visit g ((name, found) :: pending)) alternatives ∅ w :=
        fun found x w' hm hw' => ih found x w' (.inner hc h hlook hr hm) hw'
      obtain ⟨hw', hall⟩ := readAlternatives_excused hv hw
      have hs : g.Excused (.nonterminal name) (readAlternatives
          (fun found => visit g ((name, found) :: pending)) alternatives ∅ w).1 := by
        intro a ha hm
        obtain ⟨xs, hxs, ha⟩ := Grammar.firstOf_nonterminal.1 ha
        have hmem : xs ∈ alternatives := by rwa [Grammar.alternatives_of_get? hr] at hxs
        obtain ⟨other, ho, hl⟩ := hall xs hmem a ha hm
        have hcorner : g.LeftCorner name other := Grammar.leftCorner_iff_unfolds.2
          (Grammar.unfolds_nonterminal.2 ⟨xs, hxs, ho⟩)
        exact ⟨name, rfl, hl.of_leftCorner hcorner⟩
      exact ⟨hs, hw'.settle hs⟩

end First

namespace Grammar

theorem excused_firstSet {set : LookaheadSet} (h : g.firstSets.value.get? x = some set) :
    g.Excused x set :=
  First.visitAll_keeps_of_call (P := fun w => w.Excused g)
    (fun _ _ hc hw => (First.visit_excused hc hw).2) Walk.all_empty x set h

/-- A nonterminal met while it was being read is named by a warning. -/
theorem Reentered.warned {found : LookaheadSet} (h : g.Reentered name found) :
    .reentered name ∈ g.firstSets.records := by
  obtain ⟨pending, w, hc, hset, hlook⟩ := h
  have hthere : (First.visit g pending (.nonterminal name) w).2.Warns name := by
    rw [First.visit_of_pending hset hlook]
    exact Walk.warns_reenter.2 (.inr rfl)
  exact hc.keeps (P := fun w => w.Warns name) (fun _ _ _ => Walk.warns_settle.2)
    (fun _ _ _ => First.warns_visit) hthere

/-- Where the FIRST set of a nonterminal lacks a member, left corners lead from it to a nonterminal
that a warning names, and which was met when what had been found for it lacked that member or the
empty string. -/
theorem firstSets_losses (g : Grammar) :
    ∀ name ∈ g.nonterminals, ∃ set, g.firstSets.value.get? (.nonterminal name) = some set ∧
      ∀ a, g.FirstOf [.nonterminal name] a → a ∉ set →
        ∃ other, ReflTransGen g.LeftCorner name other ∧ .reentered other ∈ g.firstSets.records ∧
          ∃ found, g.Reentered other found ∧
            ∃ b, (b = a ∨ b = .empty) ∧ g.FirstOf [.nonterminal other] b ∧ b ∉ found := by
  intro name hn
  obtain ⟨set, hs⟩ := exists_firstSet (nonterminal_mem_vocabulary.2 hn)
  refine ⟨set, hs, fun a ha hm => ?_⟩
  obtain ⟨_, ⟨⟩, other, ho, found, hf, hb⟩ := excused_firstSet hs a ha hm
  exact ⟨other, ho, hf.warned, found, hf, hb⟩

theorem firstSets_losses_cutShort :
    "B" ∈ cutShort.nonterminals ∧ cutShort.FirstOf [.nonterminal "B"] (.terminal "x") ∧
    .terminal "x" ∉ ({.terminal "c"} : LookaheadSet) ∧
    ∃ other, ReflTransGen cutShort.LeftCorner "B" other ∧
      .reentered other ∈ cutShort.firstSets.records ∧
      ∃ found, cutShort.Reentered other found ∧ ∃ b, (b = .terminal "x" ∨ b = .empty) ∧
        cutShort.FirstOf [.nonterminal other] b ∧ b ∉ found := by
  have hB : "B" ∈ cutShort.nonterminals := by decide
  have hx : .terminal "x" ∉ ({.terminal "c"} : LookaheadSet) := by decide
  refine ⟨hB, firstOf_cutShort, hx, ?_⟩
  obtain ⟨set, hs, hall⟩ := firstSets_losses cutShort "B" hB
  cases firstSets_cutShort.symm.trans hs
  exact hall _ firstOf_cutShort hx

/-- The nonterminal that lacks a member need not be the one that the warning names: `B` lacks `x`,
and all warnings name `A`. -/
theorem unnamed_loss_cutShort :
    (Draft.ofRules [⟨"A", [["B", "a"], ["x"]]⟩, ⟨"B", [["A", "b"], ["c"]]⟩]).classify none =
      .ok cutShort ∧
    "B" ∈ cutShort.nonterminals ∧
    cutShort.firstSets.value.get? (.nonterminal "B") = some {.terminal "c"} ∧
    cutShort.FirstOf [.nonterminal "B"] (.terminal "x") ∧
    .terminal "x" ∉ ({.terminal "c"} : LookaheadSet) ∧
    .reentered "B" ∉ cutShort.firstSets.records ∧
    ∀ r ∈ cutShort.firstSets.records, r.severity = .warn → r = .reentered "A" :=
  ⟨rfl, by decide, firstSets_cutShort, firstOf_cutShort, by decide,
    by decide +kernel, by decide +kernel⟩

end Grammar
end GrammarSets
