import GrammarSets.Proofs.FirstExactness

/-!
# Warnings tell left recursion

A warning names a nonterminal that was met while it was being read. What is being read
leads to the symbol visited by left corners, so such a nonterminal is left recursive.
The other direction is less direct, since the walk finds the left corners of a
nonterminal from computed sets, and these may lack the empty string in a left
recursive grammar. But then an earlier visit is to blame: a left corner was passed by
only where a warning has been left about a nonterminal that can be reached. So every
symbol visited is either away from left recursion or reaches one that a warning names
(`Walk.Accounts`), and this holds as soon as the visit is over.
-/
namespace GrammarSets
open Relation

variable {g : Grammar} {pending : Pending} {x : Symbol} {w : Walk} {name : String}

namespace Walk

/-- A warning about a nonterminal has been left. -/
def Warns (w : Walk) (name : String) : Prop := .reentered name ∈ w.records

/-- A warning names a nonterminal that `name` reaches by left corners. -/
def Reports (w : Walk) (g : Grammar) (name : String) : Prop :=
  ∃ other, ReflTransGen g.LeftCorner name other ∧ w.Warns other

/-- A nonterminal is away from left recursion, or a warning reports that it is not. -/
def Accounts (w : Walk) (g : Grammar) (name : String) : Prop :=
  g.LeftFree name ∨ w.Reports g name

/-- Warnings are right, and every settled nonterminal is accounted for. -/
structure Faithful (w : Walk) (g : Grammar) : Prop where
  right : ∀ name, w.Warns name → g.LeftRecursive name
  settled : ∀ name, w.Settled (.nonterminal name) → w.Accounts g name

theorem warns_settle {set : LookaheadSet} : (w.settle x set).Warns name ↔ w.Warns name := by
  simp [Warns, settle]

theorem warns_reenter {other : String} :
    (w.reenter other).Warns name ↔ w.Warns name ∨ name = other := by
  simp [Warns, reenter]

theorem not_warns_empty : ¬ Walk.Warns ∅ name := List.not_mem_nil

theorem Reports.of_warns (h : w.Warns name) : w.Reports g name := ⟨name, .refl, h⟩

theorem Reports.of_leftCorner {other : String} (hc : g.LeftCorner name other)
    (h : w.Reports g other) : w.Reports g name := by
  obtain ⟨target, ht, hw⟩ := h
  exact ⟨target, .head hc ht, hw⟩

theorem Reports.imp {w' : Walk} (h : w.Reports g name)
    (hw : ∀ other, w.Warns other → w'.Warns other) :
    w'.Reports g name := by
  obtain ⟨other, ho, h⟩ := h
  exact ⟨other, ho, hw other h⟩

theorem Accounts.imp {w' : Walk} (h : w.Accounts g name)
    (hw : ∀ other, w.Warns other → w'.Warns other) : w'.Accounts g name :=
  Or.imp_right (Reports.imp · hw) h

/-- A nonterminal without left corners but those away from left recursion is accounted for. -/
theorem Accounts.of_corners
    (h : w.Reports g name ∨ ∀ other, g.LeftCorner name other → g.LeftFree other) :
    w.Accounts g name :=
  h.symm.imp_left Grammar.leftFree_iff.2

theorem faithful_empty : Walk.Faithful ∅ g where
  right _ h := absurd h not_warns_empty
  settled _ h := nomatch h

theorem Faithful.settle (hw : w.Faithful g) {set : LookaheadSet}
    (hx : ∀ name, x = .nonterminal name → w.Accounts g name) : (w.settle x set).Faithful g where
  right name h := hw.right name (warns_settle.1 h)
  settled name h := by
    obtain ⟨other, h⟩ := h
    rw [get?_settle] at h
    refine Accounts.imp (w := w) ?_ fun _ => warns_settle.2
    split at h
    · next he => exact hx name he.symm
    · exact hw.settled name ⟨other, h⟩

theorem Faithful.reenter (hw : w.Faithful g) (hr : g.LeftRecursive name) :
    (w.reenter name).Faithful g where
  right other h := by
    rcases warns_reenter.1 h with h | rfl
    · exact hw.right other h
    · exact hr
  settled other h := (hw.settled other h).imp fun _ h => warns_reenter.2 (.inl h)

end Walk

namespace First

theorem warns_visit (h : w.Warns name) : (visit g pending x w).2.Warns name :=
  visit_keeps (P := fun w => w.Warns name) (fun _ _ _ h => Walk.warns_settle.2 h)
    (fun _ _ h => Walk.warns_reenter.2 (.inl h)) h

section Reading
variable {visit : LookaheadSet → Symbol → Walk → Visit}

/-- Visits to the left corners of a nonterminal keep the walk faithful and account for the symbol
visited. -/
structure VisitsFaithfully (g : Grammar) (name : String)
    (visit : LookaheadSet → Symbol → Walk → Visit) : Prop where
  sound : VisitsSoundly g name visit
  complete : VisitsCompletely g name visit
  keeps : ∀ found x w other, w.Warns other → (visit found x w).2.Warns other
  faithful : ∀ found x w, g.Sound [.nonterminal name] found → w.Sound g → w.Complete g →
    w.Faithful g → (∀ other, x = .nonterminal other → g.LeftCorner name other) →
    (visit found x w).2.Faithful g ∧
      ∀ other, x = .nonterminal other → (visit found x w).2.Accounts g other

/-- Reading an alternative accounts for its left corners. -/
theorem readAlternative_faithful (hv : VisitsFaithfully g name visit)
    {xs : List Symbol} {found : LookaheadSet} (hr : g.Remains name xs)
    (hf : g.Sound [.nonterminal name] found) (hw : w.Sound g) (hwc : w.Complete g)
    (hwf : w.Faithful g) :
    (readAlternative visit xs found w).2.Faithful g ∧
      ((readAlternative visit xs found w).2.Reports g name ∨
        ∀ other, g.Exposes xs (.nonterminal other) → g.LeftFree other) := by
  induction xs generalizing found w with
  | nil => exact ⟨hwf, .inr fun other ho => absurd ho Grammar.not_exposes_nil⟩
  | cons x xs ih =>
      have hcorner : ∀ other, x = .nonterminal other → g.LeftCorner name other := fun other ho =>
        Grammar.Remains.leftCorner (by rwa [ho] at hr)
      obtain ⟨hx, hw'⟩ := hv.sound found x w hf hw
      obtain ⟨hxc, hwc'⟩ := hv.complete found x w hf hw hwc hcorner
      obtain ⟨hwf', hxa⟩ := hv.faithful found x w hf hw hwc hwf hcorner
      have hx' : (visit found x w).2.Reports g name ∨ g.LeftFreeForm [x] := by
        cases x with
        | nonterminal other =>
            exact (hxa other rfl).symm.imp (.of_leftCorner (hcorner other rfl))
              Grammar.leftFreeForm_nonterminal.2
        | terminal | empty => exact .inr fun _ h => by simp at h
      rw [readAlternative]
      split
      · next he =>
          obtain ⟨hrest, hall⟩ := ih (hr.tail (hx _ he)) (sound_union hr hf hx) hw' hwc' hwf'
          refine ⟨hrest, ?_⟩
          rcases hx' with hrep | hfree
          · exact .inl (hrep.imp fun other => readAlternative_keeps (P := fun w => w.Warns other)
              (fun _ _ _ => hv.keeps _ _ _ other) xs _)
          · refine hall.imp_right fun hall other ho => ?_
            rcases Grammar.exposes_cons.1 ho with rfl | ⟨_, ho⟩
            · exact hfree other (List.mem_singleton.2 rfl)
            · exact hall other ho
      · next he =>
          -- The symbol cannot vanish, unless a warning tells why its set lacks the empty string.
          refine ⟨hwf', hx'.imp_right fun hfree other ho => ?_⟩
          rcases Grammar.exposes_cons.1 ho with rfl | ⟨hempty, _⟩
          · exact hfree other (List.mem_singleton.2 rfl)
          · exact absurd (hxc hfree _ hempty) he

theorem readAlternatives_faithful (hv : VisitsFaithfully g name visit)
    {alternatives : List (List Symbol)} {found : LookaheadSet}
    (hr : ∀ xs ∈ alternatives, g.Remains name xs)
    (hf : g.Sound [.nonterminal name] found) (hw : w.Sound g) (hwc : w.Complete g)
    (hwf : w.Faithful g) :
    (readAlternatives visit alternatives found w).2.Faithful g ∧
      ((readAlternatives visit alternatives found w).2.Reports g name ∨
        ∀ xs ∈ alternatives, ∀ other, g.Exposes xs (.nonterminal other) → g.LeftFree other) := by
  induction alternatives generalizing found w with
  | nil => exact ⟨hwf, .inr fun xs hxs => absurd hxs List.not_mem_nil⟩
  | cons xs rest ih =>
      rw [List.forall_mem_cons] at hr
      obtain ⟨hf', hw'⟩ := readAlternative_sound hv.sound hr.1 hf hw
      obtain ⟨_, hwc'⟩ := readAlternative_complete hv.sound hv.complete hr.1 hf hw hwc
      obtain ⟨hwf', hxs⟩ := readAlternative_faithful hv hr.1 hf hw hwc hwf
      obtain ⟨hend, hrest⟩ := ih hr.2 hf' hw' hwc' hwf'
      refine ⟨hend, ?_⟩
      rcases hxs with hrep | hxs
      · exact .inl (hrep.imp fun other => readAlternatives_keeps (P := fun w => w.Warns other)
          (fun _ _ _ => hv.keeps _ _ _ other) rest _)
      · exact hrest.imp_right fun hrest => List.forall_mem_cons.2 ⟨hxs, hrest⟩

end Reading

/-- A visit leaves right warnings only, and accounts for the symbol visited. -/
theorem visit_faithful (hp : Pending.Sound pending g) (hl : Pending.Leads pending g x)
    (hw : w.Sound g) (hwc : w.Complete g) (hwf : w.Faithful g) :
    (visit g pending x w).2.Faithful g ∧
      ∀ name, x = .nonterminal name → (visit g pending x w).2.Accounts g name := by
  induction pending, x, w using visit.induct g with
  | case1 pending x w set h =>
      rw [visit_of_settled h]
      refine ⟨hwf, ?_⟩
      rintro name rfl
      exact hwf.settled name ⟨set, h⟩
  | case2 pending w t h =>
      rw [visit_terminal h]
      exact ⟨hwf.settle (by simp), by simp⟩
  | case3 pending w h =>
      rw [visit_empty h]
      exact ⟨hwf.settle (by simp), by simp⟩
  | case4 pending w name found hlook h =>
      rw [visit_of_pending h hlook]
      refine ⟨hwf.reenter (hl name found hlook name rfl), ?_⟩
      rintro _ ⟨⟩
      exact .inr (.of_warns (Walk.warns_reenter.2 (.inr rfl)))
  | case5 pending w name hlook hr h =>
      rw [visit_of_no_rule h hlook hr]
      have ha : ∀ other, Symbol.nonterminal name = .nonterminal other → w.Accounts g other := by
        rintro _ ⟨⟩
        refine .of_corners (.inr fun other hc => ?_)
        obtain ⟨_, hm, _⟩ := hc.exists_mem
        rw [Grammar.alternatives_of_no_rule hr] at hm
        exact absurd hm List.not_mem_nil
      exact ⟨hwf.settle ha, fun other ho => (ha other ho).imp fun _ => Walk.warns_settle.2⟩
  | case6 pending w name hlook alternatives hr h ih =>
      rw [visit_of_rule h hlook hr]
      have hv : VisitsFaithfully g name fun found => visit g ((name, found) :: pending) :=
        { sound := visitsSoundly_visit hp
          complete := fun found x w hf hw hwc hx => visit_complete (hp.cons hf) (hl.cons hx) hw hwc
          keeps := fun found x w other h => warns_visit h
          faithful := fun found x w hf hw hwc hwf hx =>
            ih found x w (hp.cons hf) (hl.cons hx) hw hwc hwf }
      obtain ⟨hwf', hall⟩ := readAlternatives_faithful hv (Grammar.Remains.of_get? hr)
        (Grammar.sound_empty _) hw hwc hwf
      have ha : ∀ other, Symbol.nonterminal name = .nonterminal other →
          (readAlternatives (fun found => visit g ((name, found) :: pending)) alternatives ∅
            w).2.Accounts g other := by
        rintro _ ⟨⟩
        refine .of_corners (hall.imp_right fun hall other ho => ?_)
        obtain ⟨xs, hxs, ho⟩ := Grammar.leftCorner_iff.1 ho
        rw [Grammar.alternatives_of_get? hr] at hxs
        exact hall xs hxs other ho
      exact ⟨hwf'.settle ha, fun other ho => (ha other ho).imp fun _ => Walk.warns_settle.2⟩

theorem visitAll_faithful (symbols : List Symbol) (hw : w.Sound g) (hwc : w.Complete g)
    (hwf : w.Faithful g) : (visitAll g symbols w).Faithful g := by
  have h := visitAll_keeps (P := fun w => w.Sound g ∧ w.Complete g ∧ w.Faithful g)
    (fun x w hw =>
      ⟨(visit_sound Pending.all_nil hw.1).2,
        (visit_complete Pending.all_nil Pending.all_nil hw.1 hw.2.1).2,
        (visit_faithful Pending.all_nil Pending.all_nil hw.1 hw.2.1 hw.2.2).1⟩)
    symbols ⟨hw, hwc, hwf⟩
  exact h.2.2

end First

namespace Grammar

theorem LeftRecursive.mem_nonterminals (h : g.LeftRecursive name) : name ∈ g.nonterminals := by
  obtain ⟨other, hc, _⟩ := TransGen.head'_iff.1 h
  obtain ⟨_, hm, _⟩ := hc.exists_mem
  exact mem_nonterminals_of_mem hm

/-- The walk through the whole grammar. -/
theorem faithful_firstSets (g : Grammar) :
    Walk.Faithful ⟨g.firstSets.value, g.firstSets.records⟩ g :=
  First.visitAll_faithful g.vocabulary Walk.all_empty Walk.all_empty Walk.faithful_empty

/-- A nonterminal is away from left recursion, or a warning names one that it reaches. -/
theorem leftFree_or_warned (h : name ∈ g.nonterminals) :
    g.LeftFree name ∨
      ∃ other, ReflTransGen g.LeftCorner name other ∧ .reentered other ∈ g.firstSets.records :=
  g.faithful_firstSets.settled name (exists_firstSet (nonterminal_mem_vocabulary.2 h))

theorem severity_eq_warn_iff {r : Record} : r.severity = .warn ↔ ∃ name, r = .reentered name := by
  cases r <;> simp [Record.severity]

/-- There is a warning exactly if some nonterminal is left recursive; a warning names a left
recursive nonterminal; and where a FIRST set lacks a member, a warning names a nonterminal that is
reached by left corners. -/
theorem firstSets_warnings (g : Grammar) :
    ((∃ r ∈ g.firstSets.records, r.severity = .warn) ↔
      ∃ name ∈ g.nonterminals, g.LeftRecursive name) ∧
    (∀ r ∈ g.firstSets.records, r.severity = .warn →
      ∃ name ∈ g.nonterminals, r = .reentered name ∧ g.LeftRecursive name) ∧
    ∀ name ∈ g.nonterminals, ∃ set, g.firstSets.value.get? (.nonterminal name) = some set ∧
      ∀ a, g.FirstOf [.nonterminal name] a → a ∉ set →
        ∃ other, ReflTransGen g.LeftCorner name other ∧
          .reentered other ∈ g.firstSets.records := by
  have hright : ∀ r ∈ g.firstSets.records, r.severity = .warn →
      ∃ name ∈ g.nonterminals, r = .reentered name ∧ g.LeftRecursive name := by
    intro r hr hs
    obtain ⟨name, rfl⟩ := severity_eq_warn_iff.1 hs
    have hrec := g.faithful_firstSets.right name hr
    exact ⟨name, hrec.mem_nonterminals, rfl, hrec⟩
  refine ⟨⟨?_, ?_⟩, hright, ?_⟩
  · rintro ⟨r, hr, hs⟩
    obtain ⟨name, hn, _, hrec⟩ := hright r hr hs
    exact ⟨name, hn, hrec⟩
  · rintro ⟨name, hn, hrec⟩
    rcases leftFree_or_warned hn with hfree | ⟨other, _, hr⟩
    · exact absurd hrec hfree.not_leftRecursive
    · exact ⟨_, hr, rfl⟩
  · intro name hn
    obtain ⟨set, hs⟩ := exists_firstSet (nonterminal_mem_vocabulary.2 hn)
    refine ⟨set, hs, fun a ha hmiss => (leftFree_or_warned hn).resolve_left fun hfree => ?_⟩
    exact hmiss ((mem_firstSet_iff hs (leftFreeForm_nonterminal.2 hfree)).2 ha)

/-- `A` and `B` begin with each other, and `B` is settled before `A` has been read to its end:
`A → B a | x` and `B → A b | c`. -/
def cutShort : Grammar where
  start := "A"
  rules := ⟨[("A", [[.nonterminal "B", .terminal "a"], [.terminal "x"]]),
    ("B", [[.nonterminal "A", .terminal "b"], [.terminal "c"]])], by decide⟩

theorem firstSets_cutShort :
    cutShort.firstSets.value.get? (.nonterminal "B") = some {.terminal "c"} := by decide +kernel

theorem firstOf_cutShort : cutShort.FirstOf [.nonterminal "B"] (.terminal "x") := by
  have hA : cutShort.Remains "A" [.terminal "x"] := .of_mem (by decide)
  have hB : cutShort.Remains "B" [.nonterminal "A", .terminal "b"] := .of_mem (by decide)
  have hx : cutShort.FirstOf [.nonterminal "A"] (.terminal "x") :=
    hA.firstOf (firstOf_terminal.2 rfl)
  exact hB.firstOf (firstOf_cons.2 (.inl ⟨by simp, hx⟩))

theorem firstSets_warnings_cutShort :
    (∃ r ∈ cutShort.firstSets.records, r.severity = .warn) ∧
    (∃ name ∈ cutShort.nonterminals, Record.reentered "A" = .reentered name ∧
      cutShort.LeftRecursive name) ∧
    cutShort.FirstOf [.nonterminal "B"] (.terminal "x") ∧
    .terminal "x" ∉ ({.terminal "c"} : LookaheadSet) ∧
    ∃ other, ReflTransGen cutShort.LeftCorner "B" other ∧
      .reentered other ∈ cutShort.firstSets.records := by
  have hrecord : .reentered "A" ∈ cutShort.firstSets.records := by decide +kernel
  have hwarnings := firstSets_warnings cutShort
  refine ⟨⟨_, hrecord, rfl⟩, hwarnings.2.1 _ hrecord rfl, firstOf_cutShort, by decide, ?_⟩
  obtain ⟨set, hs, hall⟩ := hwarnings.2.2 "B" (by decide)
  cases firstSets_cutShort.symm.trans hs
  exact hall _ firstOf_cutShort (by decide)

end Grammar
end GrammarSets
