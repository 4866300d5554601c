import GrammarSets.Proofs.FirstWalk
import GrammarSets.Proofs.LeftCorner

/-!
# FIRST sets hold nothing that cannot begin

Every set that the walk handles is sound: each of its members is a lookahead of what
the set belongs to. That covers the sets of nonterminals still being read, which flow
into other sets before they are complete, and what is settled from them. The grammar
may be left recursive in any way.
-/
namespace GrammarSets

variable {g : Grammar} {pending : Pending} {x : Symbol} {w : Walk} {name : String}

/-- All members of a set are lookaheads of a form. -/
def Grammar.Sound (g : Grammar) (form : List Symbol) (set : LookaheadSet) : Prop :=
  ∀ a ∈ set, g.FirstOf form a

theorem Grammar.sound_empty (form : List Symbol) : g.Sound form ∅ :=
  fun a ha => absurd ha (OrderedSet.not_mem_empty a)

/-- All settled sets are sound. -/
def Walk.Sound (w : Walk) (g : Grammar) : Prop := w.All fun x set => g.Sound [x] set

/-- What has been found so far for the nonterminals being read is sound. -/
def Pending.Sound (pending : Pending) (g : Grammar) : Prop :=
  pending.All fun name found => g.Sound [.nonterminal name] found

namespace First

theorem sound_union {xs : List Symbol} {found set : LookaheadSet}
    (hr : g.Remains name (x :: xs)) (hf : g.Sound [.nonterminal name] found)
    (hs : g.Sound [x] set) : g.Sound [.nonterminal name] (found ∪ set.erase .empty) := by
  intro a ha
  rcases OrderedSet.mem_union.1 ha with ha | ha
  · exact hf a ha
  · obtain ⟨ha, hne⟩ := OrderedSet.mem_erase.1 ha
    exact hr.firstOf (Grammar.firstOf_cons.2 (.inl ⟨hne, hs a ha⟩))

section Reading
variable {visit : LookaheadSet → Symbol → Walk → Visit}

/-- Visits made while a nonterminal is read give sound sets and keep settled sets sound. -/
def VisitsSoundly (g : Grammar) (name : String) (visit : LookaheadSet → Symbol → Walk → Visit) :
    Prop :=
  ∀ found x w, g.Sound [.nonterminal name] found → w.Sound g →
    g.Sound [x] (visit found x w).1 ∧ (visit found x w).2.Sound g

theorem readAlternative_sound (hv : VisitsSoundly g name visit) {xs : List Symbol}
    {found : LookaheadSet} (hr : g.Remains name xs) (hf : g.Sound [.nonterminal name] found)
    (hw : w.Sound g) :
    g.Sound [.nonterminal name] (readAlternative visit xs found w).1 ∧
      (readAlternative visit xs found w).2.Sound g := by
  induction xs generalizing found w with
  | nil =>
      refine ⟨fun a ha => ?_, hw⟩
      rcases OrderedSet.mem_insert.1 ha with rfl | ha
      · exact hr.firstOf (Grammar.firstOf_nil.2 rfl)
      · exact hf a ha
  | cons x xs ih =>
      obtain ⟨hx, hw'⟩ := hv found x w hf hw
      have hf' := sound_union hr hf hx
      rw [readAlternative]
      split
      · next he => exact ih (hr.tail (hx _ he)) hf' hw'
      · exact ⟨hf', hw'⟩

theorem readAlternatives_sound (hv : VisitsSoundly g name visit)
    {alternatives : List (List Symbol)} {found : LookaheadSet}
    (hr : ∀ xs ∈ alternatives, g.Remains name xs) (hf : g.Sound [.nonterminal name] found)
    (hw : w.Sound g) :
    g.Sound [.nonterminal name] (readAlternatives visit alternatives found w).1 ∧
      (readAlternatives visit alternatives found w).2.Sound g := by
  induction alternatives generalizing found w with
  | nil => exact ⟨hf, hw⟩
  | cons xs rest ih =>
      rw [List.forall_mem_cons] at hr
      obtain ⟨hf', hw'⟩ := readAlternative_sound hv hr.1 hf hw
      exact ih hr.2 hf' hw'

/-- Every visit made on the way starts from sound sets. -/
theorem Makes.sound (hv : VisitsSoundly g name visit) {alternatives : List (List Symbol)}
    {found found' : LookaheadSet} {w' : Walk}
    (h : Makes visit alternatives found w found' x w')
    (hr : ∀ xs ∈ alternatives, g.Remains name xs) (hf : g.Sound [.nonterminal name] found)
    (hw : w.Sound g) : g.Sound [.nonterminal name] found' ∧ w'.Sound g := by
  induction h with
  | here => exact ⟨hf, hw⟩
  | @next x y xs rest found found' w w' he _ ih =>
      rw [List.forall_mem_cons] at hr
      obtain ⟨hx, hw'⟩ := hv found x w hf hw
      refine ih (List.forall_mem_cons.2 ⟨hr.1.tail (hx _ he), hr.2⟩) ?_ hw'
      exact sound_union hr.1 hf hx
  | later _ ih =>
      rw [List.forall_mem_cons] at hr
      obtain ⟨hf', hw'⟩ := readAlternative_sound hv hr.1 hf hw
      exact ih hr.2 hf' hw'

end Reading

/-- A visit gives a sound set, whatever is being read and however far. -/
theorem visit_sound (hp : Pending.Sound pending g) (hw : w.Sound g) :
    g.Sound [x] (visit g pending x w).1 ∧ (visit g pending x w).2.Sound g := by
  -- The induction is on the visits made inside this one, each with what has been found before it.
  induction pending, x, w using visit.induct g with
  | case1 pending x w set h =>
      rw [visit_of_settled h]
      exact ⟨hw x set h, hw⟩
  | case2 pending w t h =>
      rw [visit_terminal h]
      have hs : g.Sound [.terminal t] {.terminal t} := fun a ha =>
        Grammar.firstOf_terminal.2 (OrderedSet.mem_singleton.1 ha)
      exact ⟨hs, hw.settle hs⟩
  | case3 pending w h =>
      rw [visit_empty h]
      have hs : g.Sound [.empty] {.empty} := fun a ha =>
        Grammar.firstOf_empty.2 (OrderedSet.mem_singleton.1 ha)
      exact ⟨hs, hw.settle hs⟩
  | case4 pending w name found hl h =>
      -- The set may lack members here, but `hp` holds of it at every stage of the reading.
      rw [visit_of_pending h hl]
      exact ⟨hp name found hl, hw⟩
  | case5 pending w name hl hr h =>
      rw [visit_of_no_rule h hl hr]
      exact ⟨Grammar.sound_empty _, hw.settle (Grammar.sound_empty _)⟩
  | case6 pending w name hl alternatives hr h ih =>
      rw [visit_of_rule h hl hr]
      have hv : VisitsSoundly g name fun found => visit g ((name, found) :: pending) :=
        fun found x w hf hw => ih found x w (hp.cons hf) hw
      obtain ⟨hs, hw'⟩ := readAlternatives_sound hv (Grammar.Remains.of_get? hr)
        (Grammar.sound_empty _) hw
      exact ⟨hs, hw'.settle hs⟩

theorem visitsSoundly_visit (hp : Pending.Sound pending g) :
    VisitsSoundly g name fun found => visit g ((name, found) :: pending) :=
  fun _ _ _ hf hw => visit_sound (hp.cons hf) hw

theorem visitAll_sound (symbols : List Symbol) (hw : w.Sound g) : (visitAll g symbols w).Sound g :=
  visitAll_keeps (P := fun w => w.Sound g)
    (fun _ _ hw => (visit_sound Pending.all_nil hw).2) symbols hw

/-- At every visit of the walk, what is being read and what is settled is sound. -/
theorem Call.sound (h : Call g pending x w) : Pending.Sound pending g ∧ w.Sound g := by
  induction h with
  | outer => exact ⟨Pending.all_nil, visitAll_sound _ Walk.all_empty⟩
  | inner _ _ _ hr hm ih =>
      obtain ⟨hp, hw⟩ := ih
      obtain ⟨hf, hw'⟩ := hm.sound (visitsSoundly_visit hp) (Grammar.Remains.of_get? hr)
        (Grammar.sound_empty _) hw
      exact ⟨hp.cons hf, hw'⟩

end First

namespace Grammar

theorem sound_firstSet {set : LookaheadSet} (h : g.firstSets.value.get? x = some set) :
    g.Sound [x] set :=
  First.visitAll_sound g.vocabulary Walk.all_empty x set h

/-- The FIRST set of a string of symbols is sound if the sets of its symbols are. -/
theorem sound_ofSequence {first : FirstSets}
    (h : ∀ x set, first.get? x = some set → g.Sound [x] set) (xs : List Symbol) :
    g.Sound xs (first.ofSequence xs) := by
  induction xs with
  | nil => exact fun a ha => firstOf_nil.2 (OrderedSet.mem_singleton.1 ha)
  | cons x xs ih =>
      cases hx : first.get? x with
      | none =>
          rw [FirstSets.ofSequence_of_get?_none hx]
          exact sound_empty _
      | some set =>
          have hset : g.Sound [x] set := h x set hx
          intro a ha
          rw [FirstSets.ofSequence_of_get?_some hx] at ha
          split at ha
          · next he =>
              rcases OrderedSet.mem_union.1 ha with ha | ha
              · obtain ⟨ha, hne⟩ := OrderedSet.mem_erase.1 ha
                exact firstOf_cons.2 (.inl ⟨hne, hset a ha⟩)
              · exact firstOf_cons.2 (.inr ⟨hset _ he, ih a ha⟩)
          · next he =>
              have hne : a ≠ .empty := fun h => he (h ▸ ha)
              exact firstOf_cons.2 (.inl ⟨hne, hset a ha⟩)

/-- Whatever the grammar, no FIRST set has a member that its nonterminal cannot begin with, and
no visit on the way gives such a member: neither a visit that meets a nonterminal still being
read nor one that settles a symbol. -/
theorem firstSets_sound (g : Grammar) :
    (∀ name ∈ g.nonterminals, ∃ set, g.firstSets.value.get? (.nonterminal name) = some set ∧
      (∀ a ∈ set, g.FirstOf [.nonterminal name] a) ∧ .endOfInput ∉ set) ∧
    ∀ pending x w, First.Call g pending x w →
      ∀ a ∈ (First.visit g pending x w).1, g.FirstOf [x] a := by
  constructor
  · intro name hn
    obtain ⟨set, hs⟩ := exists_firstSet (nonterminal_mem_vocabulary.2 hn)
    have hsound := sound_firstSet hs
    exact ⟨set, hs, hsound, fun h => not_firstOf_endOfInput (hsound _ h)⟩
  · intro pending x w h
    exact (First.visit_sound h.sound.1 h.sound.2).1

/-- Two symbols that begin with each other: `A → x | B y` and `B → A z | c`. -/
def tangled : Grammar where
  start := "A"
  rules := ⟨[("A", [[.terminal "x"], [.nonterminal "B", .terminal "y"]]),
    ("B", [[.nonterminal "A", .terminal "z"], [.terminal "c"]])], by decide⟩

/-- `B` begins with `A`, which is being read and has `x` so far. -/
theorem call_tangled :
    First.Call tangled [("B", ∅), ("A", {.terminal "x"})] (.nonterminal "A")
      (Walk.settle ∅ (.terminal "x") {.terminal "x"}) := by
  have hread : First.readAlternative (fun found => First.visit tangled [("A", found)])
      [.terminal "x"] ∅ ∅ = ({.terminal "x"}, Walk.settle ∅ (.terminal "x") {.terminal "x"}) := by
    rw [First.readAlternative, First.visit_terminal rfl]
    rfl
  have hA : First.Call tangled [] (.nonterminal "A") ∅ :=
    .outer (show tangled.vocabulary = [] ++ _ from rfl)
  have hB : First.Call tangled [("A", {.terminal "x"})] (.nonterminal "B")
      (Walk.settle ∅ (.terminal "x") {.terminal "x"}) := by
    refine .inner hA rfl rfl rfl (.later ?_)
    rw [hread]
    exact .here _ _ _ _ _
  exact .inner hB rfl rfl rfl (.here _ _ _ _ _)

theorem firstSets_sound_tangled :
    (∃ set, tangled.firstSets.value.get? (.nonterminal "A") = some set ∧
      (∀ a ∈ set, tangled.FirstOf [.nonterminal "A"] a) ∧ .endOfInput ∉ set) ∧
    ∀ a ∈ (First.visit tangled [("B", ∅), ("A", {.terminal "x"})] (.nonterminal "A")
        (Walk.settle ∅ (.terminal "x") {.terminal "x"})).1,
      tangled.FirstOf [.nonterminal "A"] a :=
  ⟨(firstSets_sound tangled).1 "A" (by decide), (firstSets_sound tangled).2 _ _ _ call_tangled⟩

end Grammar
end GrammarSets
