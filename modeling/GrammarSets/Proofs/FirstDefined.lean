import GrammarSets.Proofs.FirstSoundness

/-!
# The first symbol loses nothing

In a left recursive grammar, sets are settled while others that they depend on are still being
collected, and lack members for good. If no nonterminal vanishes, this does not touch the symbol
that is defined first. The walk begins with it, when nothing is settled. An alternative is read up
to a symbol that cannot vanish, so all that a settled symbol unfolds to is settled or being read
(`Walk.Covers`), and after the first visit nothing is being read. Whatever terminals were settled on
the way are in the set that the visit gives (`visit_gains`): each set goes into the set of the
symbol from which its own was first visited, however little it holds when it is met again.
-/
namespace GrammarSets
open Relation

variable {g : Grammar} {pending : Pending} {x y : Symbol} {w : Walk} {name t : String}

/-- All that settled symbols unfold to is settled or being read, and the empty mark is known to
vanish. -/
structure Walk.Covers (w : Walk) (g : Grammar) (reading : Symbol → Prop) : Prop where
  mark : ∀ set, w.settled.get? .empty = some set → .empty ∈ set
  unfolded : ∀ x y, w.Settled x → g.Unfolds x y → w.Settled y ∨ reading y

theorem Walk.covers_empty {reading : Symbol → Prop} : Walk.Covers ∅ g reading where
  mark _ h := nomatch h
  unfolded _ _ h := nomatch h

/-- A symbol that is not read any more may be settled if all that it unfolds to is. -/
theorem Walk.Covers.settle {reading reading' : Symbol → Prop} {set : LookaheadSet}
    (hw : w.Covers g reading) (hx : ∀ y, g.Unfolds x y → w.Settled y ∨ reading y)
    (hr : ∀ y, reading y → y = x ∨ reading' y) (hset : x = .empty → .empty ∈ set) :
    (w.settle x set).Covers g reading' where
  mark other h := by
    rw [Walk.get?_settle] at h
    split at h
    · next he =>
        cases h
        exact hset he.symm
    · exact hw.mark other h
  unfolded z y hz hy := by
    have hbefore : w.Settled y ∨ reading y := by
      rcases Walk.settled_settle_iff.1 hz with rfl | hz
      · exact hx y hy
      · exact hw.unfolded z y hz hy
    rw [Walk.settled_settle_iff]
    rcases hbefore with h | h
    · exact .inl (.inr h)
    · exact (hr y h).imp_left .inl

namespace First

/-- A set has the terminal, if the terminal was settled between two moments of the walk. -/
def Gains (t : String) (w : Walk) (v : Visit) : Prop :=
  v.2.Settled (.terminal t) → w.Settled (.terminal t) ∨ .terminal t ∈ v.1

section Reading
variable {visit : LookaheadSet → Symbol → Walk → Visit} {found : LookaheadSet}

theorem readAlternative_gains (hv : ∀ found x w, Gains t w (visit found x w)) (xs : List Symbol)
    (found : LookaheadSet) (w : Walk) : Gains t w (readAlternative visit xs found w) := by
  induction xs generalizing found w with
  | nil => exact .inl
  | cons x xs ih =>
      have hx : ∀ {a}, a ∈ (visit found x w).1 → a ≠ .empty →
          a ∈ found ∪ (visit found x w).1.erase .empty := fun ha hne =>
        OrderedSet.mem_union.2 (.inr (OrderedSet.mem_erase.2 ⟨ha, hne⟩))
      intro ht
      rw [readAlternative] at ht ⊢
      split at ht
      · next he =>
          rw [if_pos he]
          rcases ih _ _ ht with hmid | hin
          · refine (hv found x w hmid).imp_right fun ha => ?_
            exact subset_readAlternative visit xs _ _ _ (hx ha (by simp))
          · exact .inr hin
      · next he =>
          rw [if_neg he]
          exact (hv found x w ht).imp_right fun ha => hx ha (by simp)

theorem readAlternatives_gains (hv : ∀ found x w, Gains t w (visit found x w))
    (alternatives : List (List Symbol)) (found : LookaheadSet) (w : Walk) :
    Gains t w (readAlternatives visit alternatives found w) := by
  induction alternatives generalizing found w with
  | nil => exact .inl
  | cons xs rest ih =>
      intro ht
      rcases ih _ _ ht with hmid | hin
      · refine (readAlternative_gains hv xs found w hmid).imp_right fun ha => ?_
        exact subset_readAlternatives visit rest _ _ _ ha
      · exact .inr hin

/-- Visits made while certain symbols are being read keep the walk covering, and come to the symbol
visited. -/
structure VisitsCovering (g : Grammar) (reading : Symbol → Prop)
    (visit : LookaheadSet → Symbol → Walk → Visit) : Prop where
  covers : ∀ found x w, w.Covers g reading → (visit found x w).2.Covers g reading
  comes : ∀ found x w, (visit found x w).2.Settled x ∨ reading x
  mark : ∀ found w, w.Covers g reading → .empty ∈ (visit found .empty w).1
  keeps : ∀ found x w y, w.Settled y → (visit found x w).2.Settled y

variable {reading : Symbol → Prop}

/-- Reading an alternative comes to all that it exposes. -/
theorem readAlternative_covers (hsolid : ∀ name, ¬ g.FirstOf [.nonterminal name] .empty)
    (hv : VisitsCovering g reading visit) (xs : List Symbol) (found : LookaheadSet)
    (hw : w.Covers g reading) :
    (readAlternative visit xs found w).2.Covers g reading ∧
      ∀ y, g.Exposes xs y → (readAlternative visit xs found w).2.Settled y ∨ reading y := by
  induction xs generalizing found w with
  | nil => exact ⟨hw, fun y hy => absurd hy Grammar.not_exposes_nil⟩
  | cons x xs ih =>
      have hw' : (visit found x w).2.Covers g reading := hv.covers found x w hw
      have hx : (visit found x w).2.Settled x ∨ reading x := hv.comes found x w
      rw [readAlternative]
      split
      · obtain ⟨hend, hrest⟩ := ih _ hw'
        refine ⟨hend, fun y hy => ?_⟩
        rcases Grammar.exposes_cons.1 hy with rfl | ⟨_, hy⟩
        · exact hx.imp_left (readAlternative_keeps (P := fun w => w.Settled y)
            (fun _ _ _ => hv.keeps _ _ _ y) xs _)
        · exact hrest y hy
      · next he =>
          have hsolidx : ¬ g.FirstOf [x] .empty := by
            cases x with
            | terminal s => simp
            | nonterminal name => exact hsolid name
            | empty => exact absurd (hv.mark found w hw) he
          refine ⟨hw', fun y hy => ?_⟩
          rcases Grammar.exposes_cons.1 hy with rfl | ⟨hempty, _⟩
          · exact hx
          · exact absurd hempty hsolidx

theorem readAlternatives_covers (hsolid : ∀ name, ¬ g.FirstOf [.nonterminal name] .empty)
    (hv : VisitsCovering g reading visit) (alternatives : List (List Symbol))
    (found : LookaheadSet) (hw : w.Covers g reading) :
    (readAlternatives visit alternatives found w).2.Covers g reading ∧
      ∀ xs ∈ alternatives, ∀ y, g.Exposes xs y →
        (readAlternatives visit alternatives found w).2.Settled y ∨ reading y := by
  induction alternatives generalizing found w with
  | nil => exact ⟨hw, fun xs hxs => absurd hxs List.not_mem_nil⟩
  | cons xs rest ih =>
      obtain ⟨hw', hxs⟩ := readAlternative_covers hsolid hv xs found hw
      obtain ⟨hend, hrest⟩ := ih (readAlternative visit xs found w).1 hw'
      refine ⟨hend, List.forall_mem_cons.2 ⟨fun y hy => ?_, hrest⟩⟩
      exact (hxs y hy).imp_left (readAlternatives_keeps (P := fun w => w.Settled y)
        (fun _ _ _ => hv.keeps _ _ _ y) rest _)

end Reading

/-- The terminals that a visit settles are in the set that it gives. -/
theorem visit_gains (t : String) (pending : Pending) (x : Symbol) (w : Walk) :
    Gains t w (visit g pending x w) := by
  induction pending, x, w using visit.induct g with
  | case1 pending x w set h =>
      rw [visit_of_settled h]
      exact .inl
  | case2 pending w name h =>
      rw [visit_terminal h]
      intro ht
      rcases Walk.settled_settle_iff.1 ht with he | ht
      · cases he
        exact .inr (OrderedSet.mem_singleton.2 rfl)
      · exact .inl ht
  | case3 pending w h =>
      rw [visit_empty h]
      exact fun ht => .inl ((Walk.settled_settle_iff.1 ht).resolve_left (by simp))
  | case4 pending w name found hp h =>
      rw [visit_of_pending h hp]
      exact .inl
  | case5 pending w name hp hn h =>
      rw [visit_of_no_rule h hp hn]
      exact fun ht => .inl ((Walk.settled_settle_iff.1 ht).resolve_left (by simp))
  | case6 pending w name hp alternatives hn h ih =>
      rw [visit_of_rule h hp hn]
      intro ht
      exact readAlternatives_gains ih alternatives ∅ w
        ((Walk.settled_settle_iff.1 ht).resolve_left (by simp))

theorem empty_mem_visit (hw : w.Covers g pending.Reads) : .empty ∈ (visit g pending .empty w).1 := by
  cases h : w.settled.get? .empty with
  | some set =>
      rw [visit_of_settled h]
      exact hw.mark set h
  | none =>
      rw [visit_empty h]
      exact OrderedSet.mem_singleton.2 rfl

/-- If no nonterminal vanishes, a visit leaves nothing out that a settled symbol unfolds to. -/
theorem visit_covers (hsolid : ∀ name, ¬ g.FirstOf [.nonterminal name] .empty)
    (hw : w.Covers g pending.Reads) : (visit g pending x w).2.Covers g pending.Reads := by
  have hplain : ∀ {pending : Pending} {x : Symbol} {w : Walk} {set : LookaheadSet},
      w.Covers g pending.Reads → (∀ y, ¬ g.Unfolds x y) → (x = .empty → .empty ∈ set) →
      (w.settle x set).Covers g pending.Reads := fun hw hno hset =>
    hw.settle (fun y hy => absurd hy (hno y)) (fun _ => .inr) hset
  induction pending, x, w using visit.induct g with
  | case1 pending x w set h => rwa [visit_of_settled h]
  | case2 pending w name h =>
      rw [visit_terminal h]
      exact hplain hw (by simp [Grammar.Unfolds]) (by simp)
  | case3 pending w h =>
      rw [visit_empty h]
      exact hplain hw (by simp [Grammar.Unfolds]) fun _ => OrderedSet.mem_singleton.2 rfl
  | case4 pending w name found hp h =>
      rw [visit_of_pending h hp]
      exact ⟨hw.mark, hw.unfolded⟩
  | case5 pending w name hp hn h =>
      rw [visit_of_no_rule h hp hn]
      have hno : g.alternatives name = [] := Grammar.alternatives_of_no_rule hn
      exact hplain hw (by simp [Grammar.unfolds_nonterminal, hno]) (by simp)
  | case6 pending w name hp alternatives hn h ih =>
      rw [visit_of_rule h hp hn]
      -- While `name` is read, what has been found for it changes, but not which symbols are read.
      have hreads : ∀ found, Pending.Reads ((name, found) :: pending) =
          fun y => y = .nonterminal name ∨ pending.Reads y := fun found =>
        funext fun y => propext Pending.reads_cons
      have hv : VisitsCovering g (fun y => y = .nonterminal name ∨ pending.Reads y)
          fun found => visit g ((name, found) :: pending) :=
        { covers := fun found x w hw => by
            rw [← hreads found] at hw ⊢
            exact ih found x w hw
          comes := fun found x w => by
            have hx := get?_visit g ((name, found) :: pending) x w
            rw [hreads found] at hx
            exact hx.imp_left fun h => ⟨_, h⟩
          mark := fun found w hw => by
            rw [← hreads found] at hw
            exact empty_mem_visit hw
          keeps := fun found x w y hy => visit_settled hy }
      have hstart : w.Covers g fun y => y = .nonterminal name ∨ pending.Reads y :=
        ⟨hw.mark, fun x y hx hy => (hw.unfolded x y hx hy).imp_right .inr⟩
      obtain ⟨hend, hall⟩ := readAlternatives_covers hsolid hv alternatives ∅ hstart
      refine hend.settle (fun y hy => ?_) (fun _ h => h) (by simp)
      obtain ⟨xs, hm, hy⟩ := Grammar.unfolds_nonterminal.1 hy
      rw [Grammar.alternatives_of_get? hn] at hm
      exact hall xs hm y hy

/-- A visit at the beginning of the walk settles all that the symbol unfolds to. -/
theorem settled_of_unfolds (hsolid : ∀ name, ¬ g.FirstOf [.nonterminal name] .empty)
    (h : ReflTransGen g.Unfolds x y) : (visit g [] x ∅).2.Settled y := by
  have hcovers : (visit g [] x ∅).2.Covers g (Pending.Reads []) :=
    visit_covers hsolid Walk.covers_empty
  induction h with
  | refl => exact settled_visit g x ∅
  | tail _ hs ih => exact (hcovers.unfolded _ _ ih hs).resolve_right Pending.not_reads_nil

theorem terminal_mem_visit (hsolid : ∀ name, ¬ g.FirstOf [.nonterminal name] .empty)
    (h : g.FirstOf [x] (.terminal t)) : .terminal t ∈ (visit g [] x ∅).1 := by
  have hsettled : (visit g [] x ∅).2.Settled (.terminal t) :=
    settled_of_unfolds hsolid (Grammar.firstOf_terminal_iff_unfolds.1 h)
  apply (visit_gains t [] x ∅ hsettled).resolve_left
  exact fun ⟨_, he⟩ => nomatch he

end First

namespace Grammar

/-- What the first visit of the walk gives is the FIRST set of the symbol defined first. -/
theorem firstSet_first (h : g.nonterminals.head? = some name) :
    g.firstSets.value.get? (.nonterminal name) =
      some (First.visit g [] (.nonterminal name) ∅).1 := by
  obtain ⟨rest, hrest⟩ := List.head?_eq_some_iff.1 h
  have hvocabulary : g.vocabulary = .nonterminal name ::
      (rest.map .nonterminal ++ g.terminals.toList.map .terminal ++ [.empty]) := by
    simp [vocabulary, hrest]
  have hvisit := (First.get?_visit g [] (.nonterminal name) ∅).resolve_right Pending.not_reads_nil
  unfold firstSets
  rw [hvocabulary, First.visitAll_cons]
  exact First.visitAll_keeps (P := fun w => w.settled.get? (.nonterminal name) = some
    (First.visit g [] (.nonterminal name) ∅).1) (fun _ _ => First.get?_visit_of_settled) _ hvisit

/-- If no nonterminal vanishes, the FIRST set of the symbol defined first holds exactly the
terminals that begin the forms derived from it, however left recursive the grammar is. -/
theorem firstSets_first (g : Grammar)
    (hsolid : ∀ name ∈ g.nonterminals, ¬ g.FirstOf [.nonterminal name] .empty)
    (name : String) (hname : g.nonterminals.head? = some name) :
    ∃ set, g.firstSets.value.get? (.nonterminal name) = some set ∧
      ∀ a, a ∈ set ↔ ∃ t, a = .terminal t ∧ g.FirstOf [.nonterminal name] (.terminal t) := by
  have hnever : ∀ name, ¬ g.FirstOf [.nonterminal name] .empty := by
    intro name he
    obtain ⟨alternative, hm, _⟩ := firstOf_nonterminal.1 he
    exact hsolid name (mem_nonterminals_of_mem hm) he
  have hset := firstSet_first hname
  refine ⟨_, hset, fun a => ⟨fun ha => ?_, ?_⟩⟩
  · have hfirst : g.FirstOf [.nonterminal name] a := sound_firstSet hset a ha
    cases a with
    | terminal t => exact ⟨t, rfl, hfirst⟩
    | empty => exact absurd hfirst (hnever name)
    | endOfInput => exact absurd hfirst not_firstOf_endOfInput
  · rintro ⟨t, rfl, ht⟩
    exact First.terminal_mem_visit hnever ht

/-- A nonterminal does not vanish if a terminal stands in each of its alternatives. -/
theorem not_firstOf_empty_of_terminals
    (h : ∀ alternative ∈ g.alternatives name, ∃ t, .terminal t ∈ alternative) :
    ¬ g.FirstOf [.nonterminal name] .empty := by
  intro he
  obtain ⟨alternative, hm, he⟩ := firstOf_nonterminal.1 he
  obtain ⟨t, ht⟩ := h alternative hm
  exact firstOf_empty_iff_forall.1 he (.terminal t) ht

/-- Three symbols that begin with each other, with empty marks inside alternatives:
`A → ε B a | x`, `B → A b | C d` and `C → B c | y | ε A e`. -/
def knotted : Grammar where
  start := "A"
  rules := ⟨[("A", [[.empty, .nonterminal "B", .terminal "a"], [.terminal "x"]]),
    ("B", [[.nonterminal "A", .terminal "b"], [.nonterminal "C", .terminal "d"]]),
    ("C", [[.nonterminal "B", .terminal "c"], [.terminal "y"],
      [.empty, .nonterminal "A", .terminal "e"]])], by decide⟩

theorem solid_knotted : ∀ name ∈ knotted.nonterminals,
    ¬ knotted.FirstOf [.nonterminal name] .empty := by
  have hterminals : ∀ name ∈ knotted.nonterminals, ∀ alternative ∈ knotted.alternatives name,
      ∃ x ∈ alternative, ∃ t ∈ knotted.terminals.toList, x = .terminal t := by decide
  intro name hn
  apply not_firstOf_empty_of_terminals
  intro alternative hm
  obtain ⟨_, hx, t, _, rfl⟩ := hterminals name hn alternative hm
  exact ⟨t, hx⟩

/-- The symbols defined later lack `x`, the first one does not. -/
theorem firstSets_first_knotted :
    (∀ name ∈ knotted.nonterminals, ¬ knotted.FirstOf [.nonterminal name] .empty) ∧
    knotted.firstSets.value.get? (.nonterminal "B") = some {.terminal "y"} ∧
    knotted.firstSets.value.get? (.nonterminal "C") = some {.terminal "y"} ∧
    ∃ set, knotted.firstSets.value.get? (.nonterminal "A") = some set ∧
      ∀ a, a ∈ set ↔ ∃ t, a = .terminal t ∧ knotted.FirstOf [.nonterminal "A"] (.terminal t) :=
  ⟨solid_knotted, by decide +kernel, by decide +kernel,
    firstSets_first knotted solid_knotted "A" rfl⟩

end Grammar
end GrammarSets
