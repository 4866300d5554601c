import GrammarSets.Proofs.FirstSoundness

/-!
# FIRST sets are complete away from left recursion

A nonterminal being read reaches the symbol visited by left corners, since a symbol
is visited only if all before it can vanish. A nonterminal from which no left
recursive one is reached is therefore never met while it is being read, and neither
is any of its left corners: its set is complete, however the rest of the grammar
recurs and whatever was settled before.
-/
namespace GrammarSets
open Relation

variable {g : Grammar} {pending : Pending} {x : Symbol} {w : Walk} {name : String}

/-- A set has all lookaheads of a form. -/
def Grammar.Complete (g : Grammar) (form : List Symbol) (set : LookaheadSet) : Prop :=
  ∀ a, g.FirstOf form a → a ∈ set

theorem Grammar.complete_terminal (t : String) : g.Complete [.terminal t] {.terminal t} :=
  fun _ ha => OrderedSet.mem_singleton.2 (firstOf_terminal.1 ha)

theorem Grammar.complete_empty : g.Complete [.empty] {.empty} :=
  fun _ ha => OrderedSet.mem_singleton.2 (firstOf_empty.1 ha)

/-- What has no rule derives nothing. -/
theorem Grammar.complete_of_no_rule (h : g.rules.get? name = none) :
    g.Complete [.nonterminal name] ∅ := by
  intro a ha
  obtain ⟨xs, hxs, _⟩ := firstOf_nonterminal.1 ha
  rw [alternatives_of_no_rule h] at hxs
  exact absurd hxs List.not_mem_nil

/-- No nonterminal of a form reaches a left recursive one by left corners. -/
def Grammar.LeftFreeForm (g : Grammar) (form : List Symbol) : Prop :=
  ∀ name, .nonterminal name ∈ form → g.LeftFree name

/-- Settled sets are complete away from left recursion. -/
def Walk.Complete (w : Walk) (g : Grammar) : Prop :=
  w.All fun x set => g.LeftFreeForm [x] → g.Complete [x] set

/-- The nonterminals being read reach a symbol by left corners. -/
def Pending.Leads (pending : Pending) (g : Grammar) (x : Symbol) : Prop :=
  pending.All fun name _ => ∀ other, x = .nonterminal other → TransGen g.LeftCorner name other

theorem Grammar.leftFreeForm_nonterminal :
    g.LeftFreeForm [.nonterminal name] ↔ g.LeftFree name := by
  simp [LeftFreeForm]

theorem Pending.Leads.cons {found : LookaheadSet} (hp : Pending.Leads pending g (.nonterminal name))
    (hx : ∀ other, x = .nonterminal other → g.LeftCorner name other) :
    Pending.Leads ((name, found) :: pending) g x := by
  have hfar := hp.imp fun first _ h other ho => (h name rfl).tail (hx other ho)
  exact hfar.cons fun other ho => .single (hx other ho)

namespace First

section Reading
variable {visit : LookaheadSet → Symbol → Walk → Visit}

/-- Visits to the left corners of a nonterminal give complete sets, and keep settled sets
complete, away from left recursion. -/
def VisitsCompletely (g : Grammar) (name : String)
    (visit : LookaheadSet → Symbol → Walk → Visit) : Prop :=
  ∀ found x w, g.Sound [.nonterminal name] found → w.Sound g → w.Complete g →
    (∀ other, x = .nonterminal other → g.LeftCorner name other) →
    (g.LeftFreeForm [x] → g.Complete [x] (visit found x w).1) ∧ (visit found x w).2.Complete g

theorem readAlternative_complete (hv : VisitsSoundly g name visit)
    (hc : VisitsCompletely g name visit) {xs : List Symbol} {found : LookaheadSet}
    (hr : g.Remains name xs) (hf : g.Sound [.nonterminal name] found) (hw : w.Sound g)
    (hwc : w.Complete g) :
    (g.LeftFree name → ∀ a, a ∈ found ∨ g.FirstOf xs a →
        a ∈ (readAlternative visit xs found w).1) ∧
      (readAlternative visit xs found w).2.Complete g := by
  induction xs generalizing found w with
  | nil =>
      refine ⟨fun _ a ha => ?_, hwc⟩
      rw [Grammar.firstOf_nil] at ha
      exact OrderedSet.mem_insert.2 ha.symm
  | cons x xs ih =>
      have hcorner : ∀ other, x = .nonterminal other → g.LeftCorner name other := fun other ho =>
        Grammar.Remains.leftCorner (by rwa [ho] at hr)
      obtain ⟨hx, hw'⟩ := hv found x w hf hw
      obtain ⟨hxc, hwc'⟩ := hc found x w hf hw hwc hcorner
      -- A left corner of a symbol away from left recursion is away from it too.
      have hfull : g.LeftFree name → g.Complete [x] (visit found x w).1 := fun hn =>
        hxc fun other ho =>
          Grammar.leftFree_iff.1 hn other (hcorner other (List.mem_singleton.1 ho).symm)
      rw [readAlternative]
      split
      · next he =>
          obtain ⟨hall, hrest⟩ := ih (hr.tail (hx _ he)) (sound_union hr hf hx) hw' hwc'
          refine ⟨fun hn a ha => hall hn a ?_, hrest⟩
          rcases ha with ha | ha
          · exact .inl (OrderedSet.mem_union.2 (.inl ha))
          · rcases Grammar.firstOf_cons.1 ha with ⟨hne, ha⟩ | ⟨_, ha⟩
            · have hm := OrderedSet.mem_erase.2 ⟨hfull hn a ha, hne⟩
              exact .inl (OrderedSet.mem_union.2 (.inr hm))
            · exact .inr ha
      · next he =>
          -- The symbol cannot vanish: its set is complete and has no empty mark.
          refine ⟨fun hn a ha => OrderedSet.mem_union.2 ?_, hwc'⟩
          rcases ha with ha | ha
          · exact .inl ha
          · rcases Grammar.firstOf_cons.1 ha with ⟨hne, ha⟩ | ⟨hempty, _⟩
            · exact .inr (OrderedSet.mem_erase.2 ⟨hfull hn a ha, hne⟩)
            · exact absurd (hfull hn _ hempty) he

theorem readAlternatives_complete (hv : VisitsSoundly g name visit)
    (hc : VisitsCompletely g name visit) {alternatives : List (List Symbol)}
    {found : LookaheadSet} (hr : ∀ xs ∈ alternatives, g.Remains name xs)
    (hf : g.Sound [.nonterminal name] found) (hw : w.Sound g) (hwc : w.Complete g) :
    (g.LeftFree name → ∀ a, (a ∈ found ∨ ∃ xs ∈ alternatives, g.FirstOf xs a) →
        a ∈ (readAlternatives visit alternatives found w).1) ∧
      (readAlternatives visit alternatives found w).2.Complete g := by
  induction alternatives generalizing found w with
  | nil =>
      refine ⟨fun _ a ha => ha.resolve_right ?_, hwc⟩
      rintro ⟨xs, hxs, _⟩
      exact List.not_mem_nil hxs
  | cons xs rest ih =>
      rw [List.forall_mem_cons] at hr
      obtain ⟨hf', hw'⟩ := readAlternative_sound hv hr.1 hf hw
      obtain ⟨hxs, hwc'⟩ := readAlternative_complete hv hc hr.1 hf hw hwc
      obtain ⟨hrest, hend⟩ := ih hr.2 hf' hw' hwc'
      refine ⟨fun hn a ha => hrest hn a ?_, hend⟩
      rcases ha with ha | ⟨ys, hys, ha⟩
      · exact .inl (hxs hn a (.inl ha))
      · rcases List.mem_cons.1 hys with rfl | hys
        · exact .inl (hxs hn a (.inr ha))
        · exact .inr ⟨ys, hys, ha⟩

end Reading

/-- A visit to a symbol away from left recursion gives its complete set, if what is being read
reaches the symbol by left corners. -/
theorem visit_complete (hp : Pending.Sound pending g) (hl : Pending.Leads pending g x)
    (hw : w.Sound g) (hwc : w.Complete g) :
    (g.LeftFreeForm [x] → g.Complete [x] (visit g pending x w).1) ∧
      (visit g pending x w).2.Complete g := by
  -- Reading goes on at left corners only, so `hl` passes to the visits made inside this one.
  induction pending, x, w using visit.induct g with
  | case1 pending x w set h =>
      rw [visit_of_settled h]
      exact ⟨hwc x set h, hwc⟩
  | case2 pending w t h =>
      rw [visit_terminal h]
      have hs : g.Complete [.terminal t] {.terminal t} := Grammar.complete_terminal t
      exact ⟨fun _ => hs, hwc.settle fun _ => hs⟩
  | case3 pending w h =>
      rw [visit_empty h]
      have hs : g.Complete [.empty] {.empty} := Grammar.complete_empty
      exact ⟨fun _ => hs, hwc.settle fun _ => hs⟩
  | case4 pending w name found hlook h =>
      rw [visit_of_pending h hlook]
      -- What is met while it is being read is left recursive.
      have hrec : g.LeftRecursive name := hl name found hlook name rfl
      exact ⟨fun hn => absurd hrec (Grammar.leftFreeForm_nonterminal.1 hn).not_leftRecursive, hwc⟩
  | case5 pending w name hlook hr h =>
      rw [visit_of_no_rule h hlook hr]
      have hs : g.Complete [.nonterminal name] ∅ := Grammar.complete_of_no_rule hr
      exact ⟨fun _ => hs, hwc.settle fun _ => hs⟩
  | case6 pending w name hlook alternatives hr h ih =>
      rw [visit_of_rule h hlook hr]
      have hc : VisitsCompletely g name fun found => visit g ((name, found) :: pending) :=
        fun found x w hf hw hwc hx => ih found x w (hp.cons hf) (hl.cons hx) hw hwc
      obtain ⟨hall, hwc'⟩ := readAlternatives_complete (visitsSoundly_visit hp) hc
        (Grammar.Remains.of_get? hr) (Grammar.sound_empty _) hw hwc
      have hs : g.LeftFreeForm [.nonterminal name] → g.Complete [.nonterminal name]
          (readAlternatives (fun found => visit g ((name, found) :: pending)) alternatives ∅ w).1 := by
        intro hn a ha
        obtain ⟨xs, hxs, ha⟩ := Grammar.firstOf_nonterminal.1 ha
        rw [Grammar.alternatives_of_get? hr] at hxs
        exact hall (Grammar.leftFreeForm_nonterminal.1 hn) a (.inr ⟨xs, hxs, ha⟩)
      exact ⟨hs, hwc'.settle hs⟩

theorem visitAll_complete (symbols : List Symbol) (hw : w.Sound g) (hwc : w.Complete g) :
    (visitAll g symbols w).Complete g := by
  have h := visitAll_keeps (P := fun w => w.Sound g ∧ w.Complete g) (fun x w hw =>
    ⟨(visit_sound Pending.all_nil hw.1).2,
      (visit_complete Pending.all_nil Pending.all_nil hw.1 hw.2).2⟩) symbols ⟨hw, hwc⟩
  exact h.2

end First

namespace Grammar

/-- Away from left recursion, a settled set holds exactly the lookaheads of its symbol. -/
theorem mem_firstSet_iff {set : LookaheadSet} (h : g.firstSets.value.get? x = some set)
    (hx : g.LeftFreeForm [x]) {a : Lookahead} : a ∈ set ↔ g.FirstOf [x] a :=
  ⟨sound_firstSet h a,
    First.visitAll_complete g.vocabulary Walk.all_empty Walk.all_empty x set h hx a⟩

/-- The FIRST set of a string of symbols holds exactly its lookaheads, if the sets of its symbols
do. -/
theorem mem_ofSequence_iff {first : FirstSets} {xs : List Symbol} {a : Lookahead}
    (h : ∀ x ∈ xs, ∃ set, first.get? x = some set ∧ ∀ a, a ∈ set ↔ g.FirstOf [x] a) :
    a ∈ first.ofSequence xs ↔ g.FirstOf xs a := by
  induction xs with
  | nil => simp [FirstSets.ofSequence_nil]
  | cons x xs ih =>
      rw [List.forall_mem_cons] at h
      obtain ⟨⟨set, hs, hx⟩, hxs⟩ := h
      rw [FirstSets.ofSequence_of_get?_some hs, firstOf_cons]
      split
      · next he =>
          rw [OrderedSet.mem_union, OrderedSet.mem_erase, hx, ih hxs]
          simp [(hx _).1 he, and_comm]
      · next he =>
          have hne : ¬ g.FirstOf [x] .empty := fun h => he ((hx _).2 h)
          rw [hx]
          refine ⟨fun ha => .inl ⟨?_, ha⟩, fun ha => ?_⟩
          · rintro rfl
            exact hne ha
          · exact (ha.resolve_right fun h => hne h.1).2

/-- The FIRST set of a nonterminal from which no left recursive one is reached holds exactly the
lookaheads it derives, and so does the FIRST set of a string of such symbols. -/
theorem firstSets_exact (g : Grammar) :
    (∀ name ∈ g.nonterminals, g.LeftFree name →
      ∃ set, g.firstSets.value.get? (.nonterminal name) = some set ∧
        (∀ a, a ∈ set ↔ g.FirstOf [.nonterminal name] a) ∧ .endOfInput ∉ set) ∧
    ∀ xs : List Symbol, (∀ x ∈ xs, x ∈ g.vocabulary) →
      (∀ name, .nonterminal name ∈ xs → g.LeftFree name) →
      (∀ a, a ∈ g.firstSets.value.ofSequence xs ↔ g.FirstOf xs a) ∧
        .endOfInput ∉ g.firstSets.value.ofSequence xs := by
  constructor
  · intro name hn hfree
    obtain ⟨set, hs⟩ := exists_firstSet (nonterminal_mem_vocabulary.2 hn)
    have hmem := fun a => mem_firstSet_iff hs (leftFreeForm_nonterminal.2 hfree) (a := a)
    exact ⟨set, hs, hmem, fun h => not_firstOf_endOfInput ((hmem _).1 h)⟩
  · intro xs hxs hfree
    have hmem : ∀ a, a ∈ g.firstSets.value.ofSequence xs ↔ g.FirstOf xs a := by
      intro a
      apply mem_ofSequence_iff
      intro x hx
      obtain ⟨set, hs⟩ := exists_firstSet (hxs x hx)
      refine ⟨set, hs, fun a => mem_firstSet_iff hs fun name hn => hfree name ?_⟩
      rwa [List.mem_singleton.1 hn]
    exact ⟨hmem, fun h => not_firstOf_endOfInput ((hmem _).1 h)⟩

/-- `L` and `M` begin with each other, and `M` with `A`: `L → M a`, `M → L b | A`, `A → B d` and
`B → ε | e`. -/
def partlyRecursive : Grammar where
  start := "L"
  rules := ⟨[("L", [[.nonterminal "M", .terminal "a"]]),
    ("M", [[.nonterminal "L", .terminal "b"], [.nonterminal "A"]]),
    ("A", [[.nonterminal "B", .terminal "d"]]), ("B", [[.empty], [.terminal "e"]])], by decide⟩

theorem leftRecursive_partlyRecursive : partlyRecursive.LeftRecursive "L" := by
  have hL : partlyRecursive.LeftCorner "L" "M" := ⟨[], [.terminal "a"], by decide, by simp⟩
  have hM : partlyRecursive.LeftCorner "M" "L" := ⟨[], [.terminal "b"], by decide, by simp⟩
  exact .tail (.single hL) hM

theorem leftFree_partlyRecursive : partlyRecursive.LeftFree "A" := by
  have hA : partlyRecursive.alternatives "A" = [[.nonterminal "B", .terminal "d"]] := rfl
  have hB : partlyRecursive.alternatives "B" = [[.empty], [.terminal "e"]] := rfl
  refine leftFree_iff.2 fun other hc => ?_
  obtain ⟨xs, hxs, hx⟩ := hc.exists_mem
  rw [hA, List.mem_singleton] at hxs
  obtain rfl : other = "B" := by simpa [hxs] using hx
  refine leftFree_iff.2 fun other hc => ?_
  obtain ⟨xs, hxs, hx⟩ := hc.exists_mem
  have hno : ∀ ys ∈ [[Symbol.empty], [.terminal "e"]], .nonterminal other ∉ ys := by simp
  exact absurd hx (hno xs (hB ▸ hxs))

theorem firstSets_exact_partlyRecursive :
    partlyRecursive.LeftRecursive "L" ∧
    (∃ set, partlyRecursive.firstSets.value.get? (.nonterminal "A") = some set ∧
      (∀ a, a ∈ set ↔ partlyRecursive.FirstOf [.nonterminal "A"] a) ∧ .endOfInput ∉ set) ∧
    (∀ a, a ∈ partlyRecursive.firstSets.value.ofSequence [.empty, .nonterminal "A"] ↔
      partlyRecursive.FirstOf [.empty, .nonterminal "A"] a) ∧
    .endOfInput ∉ partlyRecursive.firstSets.value.ofSequence [.empty, .nonterminal "A"] := by
  have hexact := firstSets_exact partlyRecursive
  refine ⟨leftRecursive_partlyRecursive, hexact.1 "A" (by decide) leftFree_partlyRecursive, ?_⟩
  apply hexact.2 _ (by decide)
  intro name hn
  obtain rfl : name = "A" := by simpa using hn
  exact leftFree_partlyRecursive

end Grammar
end GrammarSets
