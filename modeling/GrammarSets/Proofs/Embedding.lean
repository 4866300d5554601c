import GrammarSets.Proofs.FirstExactness
import GrammarSets.Proofs.Renaming

/-!
# A grammar inside another one

A grammar is embedded in another one if its rules are rules there, perhaps under other names, and
its nonterminals are the first ones there, in the same order. The walk through the larger grammar
then begins with the walk through the smaller one: it makes the same visits in the same order
(`visit_matches`), meets the same nonterminals while they are being read, and settles the same sets.
That is why the sets agree even if they lack members, as they may where there is left recursion.
-/
namespace GrammarSets
open First

variable {r : Renaming} {g g' : Grammar} {x : Symbol} {w w' : Walk}

/-- The symbols of a table have the same sets in another table, under their other names. -/
def FirstSets.Matches (r : Renaming) (first first' : FirstSets) : Prop :=
  ∀ x, first'.get? (r.symbol x) = (first.get? x).map r.set

/-- Two visits give the same set and leave the same sets behind. -/
structure First.Visit.Matches (r : Renaming) (v v' : Visit) : Prop where
  set : v'.1 = r.set v.1
  settled : v.2.settled.Matches r v'.2.settled

namespace FirstSets.Matches

theorem empty : FirstSets.Matches r ∅ ∅ := fun _ => rfl

theorem get?_eq_none {first first' : FirstSets} (h : first.Matches r first')
    (hx : first.get? x = none) : first'.get? (r.symbol x) = none := by
  rw [h, hx, Option.map_none]

theorem get?_eq_some {first first' : FirstSets} (h : first.Matches r first') {set : LookaheadSet}
    (hx : first.get? x = some set) : first'.get? (r.symbol x) = some (r.set set) := by
  rw [h, hx, Option.map_some]

theorem settle (h : w.settled.Matches r w'.settled) (x : Symbol) (set : LookaheadSet) :
    (w.settle x set).settled.Matches r (w'.settle (r.symbol x) (r.set set)).settled := by
  intro y
  simp only [Walk.get?_settle, r.symbol_injective.eq_iff, h y]
  split <;> rfl

end FirstSets.Matches

/-- Visits that match still match when each settles the symbol with the set it gives. -/
theorem First.Visit.Matches.settle {v v' : Visit} (h : Visit.Matches r v v') (x : Symbol) :
    Visit.Matches r (v.1, v.2.settle x v.1) (v'.1, v'.2.settle (r.symbol x) v'.1) := by
  refine ⟨h.set, ?_⟩
  rw [h.set]
  exact FirstSets.Matches.settle h.settled x v.1

/-- What is being read, under other names. -/
def Renaming.pending (r : Renaming) (pending : Pending) : Pending :=
  pending.map fun e => (r e.1, r.set e.2)

theorem Renaming.lookup_pending (r : Renaming) (pending : Pending) (name : String) :
    (r.pending pending).lookup (r name) = (pending.lookup name).map r.set := by
  induction pending with
  | nil => rfl
  | cons e pending ih =>
      have hname : (r name == r e.1) = (name == e.1) := by
        rw [Bool.eq_iff_iff, beq_iff_eq, beq_iff_eq, r.injective.eq_iff]
      rw [Renaming.pending, List.map_cons, List.lookup_cons, List.lookup_cons, hname]
      split
      · rfl
      · exact ih

namespace First

section Reading
variable {visit visit' : LookaheadSet → Symbol → Walk → Visit}

/-- Visits to a symbol match if what has been found and what is settled before them does. -/
def VisitsAlike (r : Renaming) (visit visit' : LookaheadSet → Symbol → Walk → Visit) (x : Symbol) :
    Prop :=
  ∀ found w w', w.settled.Matches r w'.settled →
    Visit.Matches r (visit found x w) (visit' (r.set found) (r.symbol x) w')

theorem readAlternative_matches {xs : List Symbol} (hv : ∀ x ∈ xs, VisitsAlike r visit visit' x)
    (found : LookaheadSet) (hw : w.settled.Matches r w'.settled) :
    Visit.Matches r (readAlternative visit xs found w)
      (readAlternative visit' (xs.map r.symbol) (r.set found) w') := by
  induction xs generalizing found w w' with
  | nil => exact ⟨(r.set_insert_empty found).symm, hw⟩
  | cons x xs ih =>
      rw [List.forall_mem_cons] at hv
      obtain ⟨hset, hsettled⟩ := hv.1 found w w' hw
      have hfound : r.set found ∪ (visit' (r.set found) (r.symbol x) w').1.erase .empty =
          r.set (found ∪ (visit found x w).1.erase .empty) := by
        rw [hset, r.set_union, r.set_erase_empty]
      -- A symbol vanishes in both visits or in neither, so both go on or both stop.
      have hempty : .empty ∈ (visit' (r.set found) (r.symbol x) w').1 ↔
          .empty ∈ (visit found x w).1 := by
        rw [hset, r.empty_mem_set]
      rw [List.map_cons, readAlternative, readAlternative]
      rw [hfound]
      by_cases he : .empty ∈ (visit found x w).1
      · rw [if_pos he, if_pos (hempty.2 he)]
        exact ih hv.2 _ hsettled
      · rw [if_neg he, if_neg fun h => he (hempty.1 h)]
        exact ⟨rfl, hsettled⟩

theorem readAlternatives_matches {alternatives : List (List Symbol)}
    (hv : ∀ xs ∈ alternatives, ∀ x ∈ xs, VisitsAlike r visit visit' x) (found : LookaheadSet)
    (hw : w.settled.Matches r w'.settled) :
    Visit.Matches r (readAlternatives visit alternatives found w)
      (readAlternatives visit' (r.alternatives alternatives) (r.set found) w') := by
  induction alternatives generalizing found w w' with
  | nil => exact ⟨rfl, hw⟩
  | cons xs rest ih =>
      rw [List.forall_mem_cons] at hv
      obtain ⟨hset, hsettled⟩ := readAlternative_matches hv.1 found hw
      rw [Renaming.alternatives, List.map_cons, readAlternatives, readAlternatives]
      rw [hset]
      exact ih hv.2 _ hsettled

end Reading

end First

/-- A grammar without symbols from elsewhere stands in another one: its rules are rules there, and
its nonterminals come first. -/
structure Grammar.Embeds (r : Renaming) (g g' : Grammar) : Prop where
  selfContained : g.SelfContained
  rules : ∀ name alternatives, g.rules.get? name = some alternatives →
    g'.rules.get? (r name) = some (r.alternatives alternatives)
  nonterminals : g.nonterminals.map r <+: g'.nonterminals

namespace First

/-- A visit to a symbol of the smaller grammar is the same in the larger one. -/
theorem visit_matches {pending : Pending} (h : g.Embeds r g') (hx : x ∈ g.vocabulary)
    (hw : w.settled.Matches r w'.settled) :
    Visit.Matches r (visit g pending x w) (visit g' (r.pending pending) (r.symbol x) w') := by
  -- The symbols of an alternative are in the vocabulary, so `hx` passes to the visits made inside.
  induction pending, x, w using visit.induct g generalizing w' with
  | case1 pending x w set hs =>
      rw [visit_of_settled hs, visit_of_settled (hw.get?_eq_some hs)]
      exact ⟨rfl, hw⟩
  | case2 pending w name hs =>
      have hs' : w'.settled.get? (.terminal (r name)) = none := hw.get?_eq_none hs
      have hgives : Visit.Matches r ({.terminal name}, w) ({.terminal (r name)}, w') :=
        ⟨(r.set_singleton (.terminal name)).symm, hw⟩
      rw [visit_terminal hs, Renaming.symbol, visit_terminal hs']
      exact hgives.settle (.terminal name)
  | case3 pending w hs =>
      have hs' : w'.settled.get? .empty = none := hw.get?_eq_none hs
      have hgives : Visit.Matches r ({.empty}, w) ({.empty}, w') :=
        ⟨(r.set_singleton .empty).symm, hw⟩
      rw [visit_empty hs, Renaming.symbol, visit_empty hs']
      exact hgives.settle .empty
  | case4 pending w name found hl hs =>
      have hs' : w'.settled.get? (.nonterminal (r name)) = none := hw.get?_eq_none hs
      have hl' : (r.pending pending).lookup (r name) = some (r.set found) := by
        rw [r.lookup_pending, hl, Option.map_some]
      rw [visit_of_pending hs hl, Renaming.symbol, visit_of_pending hs' hl']
      exact ⟨rfl, hw⟩
  | case5 pending w name hl hr hs =>
      have hn : name ∈ g.nonterminals := Grammar.nonterminal_mem_vocabulary.1 hx
      exact absurd hn ((Table.get?_eq_none_iff _).1 hr)
  | case6 pending w name hl alternatives hr hs ih =>
      have hs' : w'.settled.get? (.nonterminal (r name)) = none := hw.get?_eq_none hs
      have hl' : (r.pending pending).lookup (r name) = none := by
        rw [r.lookup_pending, hl, Option.map_none]
      have hv : ∀ xs ∈ alternatives, ∀ x ∈ xs, VisitsAlike r
          (fun found => visit g ((name, found) :: pending))
          (fun found => visit g' ((r name, found) :: r.pending pending)) x := by
        intro xs hxs x hx found w w' hw
        have hm : xs ∈ g.alternatives name := Grammar.alternatives_of_get? hr ▸ hxs
        exact ih found x w (h.selfContained.mem_vocabulary name xs hm x hx) hw
      have hread := readAlternatives_matches hv ∅ hw
      rw [r.set_empty] at hread
      rw [visit_of_rule hs hl hr, Renaming.symbol, visit_of_rule hs' hl' (h.rules name _ hr)]
      exact hread.settle (.nonterminal name)

theorem visitAll_matches {symbols : List Symbol} (h : g.Embeds r g')
    (hs : ∀ x ∈ symbols, x ∈ g.vocabulary) (hw : w.settled.Matches r w'.settled) :
    (visitAll g symbols w).settled.Matches r (visitAll g' (symbols.map r.symbol) w').settled := by
  induction symbols generalizing w w' with
  | nil => exact hw
  | cons x symbols ih =>
      rw [List.forall_mem_cons] at hs
      exact ih hs.2 (visit_matches h hs.1 hw).settled

/-- What is settled before the walk goes on to other symbols is not changed any more. -/
theorem get?_visitAll_of_settled {symbols : List Symbol} {set : LookaheadSet}
    (hx : w.settled.get? x = some set) : (visitAll g symbols w).settled.get? x = some set :=
  visitAll_keeps (P := fun w => w.settled.get? x = some set) (fun _ _ => get?_visit_of_settled) _ hx

end First

namespace Grammar

theorem get?_firstSets_terminal {name : String} (h : name ∈ g.terminals) :
    g.firstSets.value.get? (.terminal name) = some {.terminal name} := by
  obtain ⟨set, hs⟩ := exists_firstSet (terminal_mem_vocabulary.2 h)
  have hset : set = {.terminal name} := OrderedSet.ext fun a => by
    rw [mem_firstSet_iff hs (by simp [LeftFreeForm]), firstOf_terminal, OrderedSet.mem_singleton]
  rw [hs, hset]

theorem get?_firstSets_empty : g.firstSets.value.get? .empty = some {.empty} := by
  obtain ⟨set, hs⟩ := exists_firstSet (g := g) empty_mem_vocabulary
  have hset : set = {.empty} := OrderedSet.ext fun a => by
    rw [mem_firstSet_iff hs (by simp [LeftFreeForm]), firstOf_empty, OrderedSet.mem_singleton]
  rw [hs, hset]

namespace Embeds

variable (h : g.Embeds r g')
include h

theorem alternatives {name : String} (hn : name ∈ g.nonterminals) :
    g'.alternatives (r name) = r.alternatives (g.alternatives name) := by
  obtain ⟨alternatives, hr⟩ := (Table.mem_keys_iff _).1 hn
  rw [alternatives_of_get? hr, alternatives_of_get? (h.rules name _ hr)]

theorem mem_terminals {name : String} (ht : name ∈ g.terminals) : r name ∈ g'.terminals := by
  obtain ⟨lhs, alternative, hm, hx⟩ := mem_symbols.1 (Grammar.mem_terminals.1 ht)
  have hm' : alternative.map r.symbol ∈ g'.alternatives (r lhs) := by
    rw [h.alternatives (mem_nonterminals_of_mem hm)]
    exact List.mem_map_of_mem hm
  have hx' : .terminal (r name) ∈ alternative.map r.symbol := List.mem_map_of_mem (f := r.symbol) hx
  exact Grammar.mem_terminals.2 (mem_symbols.2 ⟨r lhs, _, hm', hx'⟩)

/-- The nonterminals of the smaller grammar are settled before any other symbol is visited from
outside, and their sets match. -/
theorem exists_firstSet_nonterminal {name : String} (hn : name ∈ g.nonterminals) :
    ∃ set, g.firstSets.value.get? (.nonterminal name) = some set ∧
      g'.firstSets.value.get? (.nonterminal (r name)) = some (r.set set) := by
  obtain ⟨later, hlater⟩ := h.nonterminals
  have hnames : (g.nonterminals.map Symbol.nonterminal).map r.symbol =
      (g.nonterminals.map r).map Symbol.nonterminal := by
    rw [List.map_map, List.map_map]
    rfl
  have hvocabulary : ∀ x ∈ g.nonterminals.map Symbol.nonterminal, x ∈ g.vocabulary := by
    simp [vocabulary]
  have hmatches : (visitAll g (g.nonterminals.map .nonterminal) ∅).settled.Matches r
      (visitAll g' ((g.nonterminals.map r).map .nonterminal) ∅).settled := by
    rw [← hnames]
    exact visitAll_matches h hvocabulary .empty
  have hsettled : (visitAll g (g.nonterminals.map .nonterminal) ∅).Settled (.nonterminal name) :=
    settled_visitAll (.inl (List.mem_map_of_mem hn))
  obtain ⟨set, hs⟩ := hsettled
  have hs' := hmatches.get?_eq_some hs
  refine ⟨set, ?_, ?_⟩
  · rw [firstSets, vocabulary, List.append_assoc, visitAll_append]
    exact get?_visitAll_of_settled hs
  · rw [firstSets, vocabulary, ← hlater, List.map_append, List.append_assoc, List.append_assoc,
      visitAll_append]
    exact get?_visitAll_of_settled hs'

/-- The symbols of the smaller grammar have the same FIRST sets in the larger one. -/
theorem exists_firstSet (hx : x ∈ g.vocabulary) : ∃ set, g.firstSets.value.get? x = some set ∧
    g'.firstSets.value.get? (r.symbol x) = some (r.set set) := by
  cases x with
  | terminal name =>
      have ht : name ∈ g.terminals := terminal_mem_vocabulary.1 hx
      refine ⟨_, get?_firstSets_terminal ht, ?_⟩
      rw [r.set_singleton]
      exact get?_firstSets_terminal (h.mem_terminals ht)
  | nonterminal name => exact h.exists_firstSet_nonterminal (nonterminal_mem_vocabulary.1 hx)
  | empty =>
      refine ⟨_, get?_firstSets_empty, ?_⟩
      rw [r.set_singleton]
      exact get?_firstSets_empty

end Embeds

end Grammar
end GrammarSets
