import GrammarSets.Proofs.Classification
import GrammarSets.Proofs.FollowClosure

/-!
# How many sweeps it takes

A sweep meets all demands that the sets before it make, so a lookahead that a sweep brings to no
set is brought to no set by any later sweep (`brings_of_brings_sweep`): the sets that had it are
closed for it. A lookahead that is still on its way has therefore come to one more nonterminal with
every sweep so far (`holders_lt`), and there are only so many nonterminals. This bounds the sweeps
for any order of the rules, any FIRST sets and any sets to begin with.
-/
namespace GrammarSets.Follow

variable {g : Grammar} {first : FirstSets} {follow : FollowSets} {s : Sweep}

/-- The sets after a number of sweeps. -/
def swept (g : Grammar) (first : FirstSets) (follow : FollowSets) : Nat → FollowSets
  | 0 => follow
  | n + 1 => swept g first (sweep g first follow).sets n

/-- The sweeps of a run: all but the last change something, and each begins where the one before
it ended. -/
theorem settle_spec (g : Grammar) (first : FirstSets) (follow : FollowSets) :
    ∃ k, (settle g first follow).rounds.length = k + 1 ∧
      (∀ i < k, (sweep g first (swept g first follow i)).changed = true) ∧
      (sweep g first (swept g first follow k)).changed = false ∧
      (settle g first follow).sets = swept g first follow (k + 1) := by
  induction follow using settle.induct g first with
  | case1 follow s h ih =>
      obtain ⟨k, hlength, hchanged, hlast, hsets⟩ := ih
      rw [settle, dif_pos h]
      refine ⟨k + 1, congrArg Nat.succ hlength, ?_, hlast, hsets⟩
      intro i hi
      cases i with
      | zero => exact h
      | succ i => exact hchanged i (Nat.lt_of_succ_lt_succ hi)
  | case2 follow s h =>
      rw [settle, dif_neg h]
      refine ⟨0, rfl, ?_, Bool.not_eq_true _ ▸ h, rfl⟩
      intro i hi
      exact absurd hi (Nat.not_lt_zero i)

theorem Demand.mono {family family' : String → Lookahead → Prop}
    (hle : ∀ name a, family name a → family' name a) {o : Occurrence} {a : Lookahead}
    (h : Demand first family o a) : Demand first family' o a :=
  h.imp_right fun ⟨he, ha⟩ => ⟨he, hle _ _ ha⟩

/-- A sweep meets the demands of the sets before it. -/
theorem mem_foldl_step_of_demand {os : List Occurrence} {o : Occurrence} {a : Lookahead}
    (ho : o ∈ os) (h : Demand first s.sets.family o a) :
    a ∈ (os.foldl (step first) s).sets.of o.name := by
  induction os generalizing s with
  | nil => exact absurd ho List.not_mem_nil
  | cons p os ih =>
      rcases List.mem_cons.1 ho with rfl | ho
      · have hadd : a ∈ additions first s.sets o := mem_additions.2 h
        have hstep : a ∈ (step first s o).sets.of o.name := mem_step.2 (.inr ⟨rfl, hadd⟩)
        exact mem_foldl_step (s := step first s o) hstep
      · have hgrow : ∀ name b, s.sets.family name b → (step first s p).sets.family name b :=
          fun name b hb => mem_step.2 (.inl hb)
        exact ih ho (h.mono hgrow)

theorem mem_sweep {name : String} {a : Lookahead} (h : a ∈ follow.of name) :
    a ∈ (sweep g first follow).sets.of name :=
  mem_foldl_step (s := ⟨follow, []⟩) h

theorem mem_sweep_of_demand {o : Occurrence} {a : Lookahead} (ho : o ∈ g.occurrences)
    (h : Demand first follow.family o a) : a ∈ (sweep g first follow).sets.of o.name :=
  mem_foldl_step_of_demand (s := ⟨follow, []⟩) ho h

/-- A sweep stays in every family that the sets before it are in and that meets the demands it
makes itself. -/
theorem mem_of_mem_sweep (family : String → Lookahead → Prop)
    (hs : ∀ name, ∀ a ∈ follow.of name, family name a)
    (hF : ∀ o ∈ g.occurrences, ∀ a, Demand first family o a → family o.name a)
    {name : String} {a : Lookahead} (ha : a ∈ (sweep g first follow).sets.of name) :
    family name a :=
  mem_of_mem_foldl_step (s := ⟨follow, []⟩) hF hs name a ha

/-- A sweep brings a lookahead to a set that did not have it. -/
def Brings (g : Grammar) (first : FirstSets) (follow : FollowSets) (a : Lookahead) : Prop :=
  ∃ name, a ∉ follow.of name ∧ a ∈ (sweep g first follow).sets.of name

theorem exists_brings (h : (sweep g first follow).changed = true) :
    ∃ a, Brings g first follow a := by
  have hg : (sweep g first follow).growths ≠ [] := Sweep.changed_eq_true_iff.1 h
  obtain ⟨o, _, a, hn, ha⟩ := exists_new_of_growths_ne hg
  exact ⟨a, o.name, hn, ha⟩

/-- A lookahead comes only to nonterminals that are used. -/
theorem exists_occurrence_of_new {name : String} {a : Lookahead} (hn : a ∉ follow.of name)
    (ha : a ∈ (sweep g first follow).sets.of name) : ∃ o ∈ g.occurrences, o.name = name := by
  have hbound : a ∈ follow.of name ∨ ∃ o ∈ g.occurrences, o.name = name :=
    mem_of_mem_sweep (fun other b => b ∈ follow.of other ∨ ∃ o ∈ g.occurrences, o.name = other)
      (fun _ _ hb => .inl hb) (fun o ho _ _ => .inr ⟨o, ho, rfl⟩) ha
  exact hbound.resolve_left hn

/-- What no set receives in a sweep, no set receives in the next. -/
theorem brings_of_brings_sweep {a : Lookahead} (h : Brings g first (sweep g first follow).sets a) :
    Brings g first follow a := by
  refine Classical.byContradiction fun hno => ?_
  have hsame : ∀ name, a ∈ (sweep g first follow).sets.of name → a ∈ follow.of name := by
    intro name ha
    exact Classical.byContradiction fun hn => hno ⟨name, hn, ha⟩
  obtain ⟨name, hn, ha⟩ := h
  -- Every demand for `a` was met by the first sweep, so it was met before it: the family that has
  -- `a` just where it was is closed, and no sweep leaves it.
  have hdemand : ∀ o ∈ g.occurrences, ∀ b,
      Demand first (fun other b => b = a → a ∈ follow.of other) o b →
        b = a → a ∈ follow.of o.name := by
    rintro o ho b hb rfl
    exact hsame _ (mem_sweep_of_demand ho (hb.imp_right fun ⟨hempty, hlhs⟩ => ⟨hempty, hlhs rfl⟩))
  have hstay : a = a → a ∈ follow.of name :=
    mem_of_mem_sweep (fun other b => b = a → a ∈ follow.of other)
      (fun other b hb he => hsame other (he ▸ hb)) hdemand ha
  exact hn (mem_sweep (hstay rfl))

/-- How many nonterminals have a lookahead in their sets. -/
def holders (g : Grammar) (follow : FollowSets) (a : Lookahead) : Nat :=
  (g.nonterminals.filter fun name => decide (a ∈ follow.of name)).length

theorem holders_le (g : Grammar) (follow : FollowSets) (a : Lookahead) :
    holders g follow a ≤ g.nonterminals.length := List.length_filter_le _ _

/-- A sweep that brings a lookahead to some set leaves more nonterminals that have it. -/
theorem holders_lt {a : Lookahead} (hg : g.SelfContained) (h : Brings g first follow a) :
    holders g follow a < holders g (sweep g first follow).sets a := by
  obtain ⟨name, hn, ha⟩ := h
  obtain ⟨o, ho, rfl⟩ := exists_occurrence_of_new hn ha
  have hgrow : ∀ other, decide (a ∈ follow.of other) = true →
      decide (a ∈ (sweep g first follow).sets.of other) = true := by
    intro other hm
    exact decide_eq_true (mem_sweep (of_decide_eq_true hm))
  have hrule : o.name ∈ g.nonterminals := mem_nonterminals_of_occurrence hg ho
  exact Measure.length_filter_lt hgrow hrule (decide_eq_true ha) (decide_eq_false hn)

/-- If what is still on its way has come to `k` nonterminals, there are at most as many sweeps left
as there are nonterminals besides these, and the one that changes nothing. -/
theorem rounds_length_le (hg : g.SelfContained) (first : FirstSets) (follow : FollowSets) :
    ∀ k ≤ g.nonterminals.length, (∀ a, Brings g first follow a → k ≤ holders g follow a) →
      (settle g first follow).rounds.length + k ≤ g.nonterminals.length + 1 := by
  induction follow using settle.induct g first with
  | case1 follow s hc ih =>
      intro k hk h
      have hmore : ∀ a, Brings g first follow a → k + 1 ≤ holders g s.sets a := by
        intro a ha
        exact Nat.lt_of_le_of_lt (h a ha) (holders_lt hg ha)
      obtain ⟨a, ha⟩ := exists_brings hc
      have hk' : k + 1 ≤ g.nonterminals.length := Nat.le_trans (hmore a ha) (holders_le g _ a)
      have hrest : (settle g first (sweep g first follow).sets).rounds.length + (k + 1) ≤
          g.nonterminals.length + 1 := ih _ hk' fun b hb => hmore b (brings_of_brings_sweep hb)
      rw [settle, dif_pos hc, List.length_cons]
      omega
  | case2 follow s hc =>
      intro k hk _
      rw [settle, dif_neg hc, List.length_singleton]
      omega

theorem followSettled_mem_records {r : Run} {n : Nat} :
    .followSettled n ∈ r.records ↔ n = r.rounds.length := by
  simp [Run.records]

/-- The sweeps come to an end, and their number, which is reported, is at most one more than that
of the nonterminals: all but the last change something. -/
theorem sweeps_le (rules : List Rule) (asked : Option String) (g : Grammar)
    (h : (Draft.ofRules rules).classify asked = .ok g) (first : FirstSets) (start : String) :
    ∃ k ≤ g.nonterminals.length,
      (∀ i < k, (sweep g first (swept g first (.initial g start) i)).changed = true) ∧
      (sweep g first (swept g first (.initial g start) k)).changed = false ∧
      (g.followSets first start).value = swept g first (.initial g start) (k + 1) ∧
      ∀ n, .followSettled n ∈ (g.followSets first start).records ↔ n = k + 1 := by
  obtain ⟨k, hlength, hchanged, hlast, hsets⟩ := settle_spec g first (.initial g start)
  have hbound := rounds_length_le (Grammar.selfContained_of_classify h) first (.initial g start) 0
    (Nat.zero_le _) fun _ _ => Nat.zero_le _
  refine ⟨k, by omega, hchanged, hlast, hsets, ?_⟩
  intro n
  rw [← hlength]
  exact followSettled_mem_records

/-- `B → C`, `A → B` and `C → A c`: what follows `A` comes to `B` and to `C` against the order of
the rules. -/
def backward : List Rule := [⟨"B", [["C"]]⟩, ⟨"A", [["B"]]⟩, ⟨"C", [["A", "c"]]⟩]

def backwardGrammar : Grammar where
  start := "B"
  rules := ⟨[("B", [[.nonterminal "C"]]), ("A", [[.nonterminal "B"]]),
    ("C", [[.nonterminal "A", .terminal "c"]])], by decide⟩

/-- As many sweeps as there can be. -/
theorem sweeps_le_backward :
    (Draft.ofRules backward).classify none = .ok backwardGrammar ∧
    .followSettled 4 ∈ (backwardGrammar.followSets backwardGrammar.firstSets.value "B").records ∧
    ∃ k ≤ 3, 4 = k + 1 := by
  have hg : (Draft.ofRules backward).classify none = .ok backwardGrammar := by decide +kernel
  have hfour : .followSettled 4 ∈
      (backwardGrammar.followSets backwardGrammar.firstSets.value "B").records := by decide +kernel
  obtain ⟨k, hk, _, _, _, hreported⟩ :=
    sweeps_le backward none backwardGrammar hg backwardGrammar.firstSets.value "B"
  exact ⟨hg, hfour, k, hk, (hreported 4).1 hfour⟩

end GrammarSets.Follow
