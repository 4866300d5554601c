import GrammarSets.Proofs.FollowRounds

/-!
# What the records of the sweeps tell

A growth is recorded with the set as it stands right after it, so the sets recorded for one
nonterminal rise from its first set to its last one, each with more members than the one
before (`Climbs`). That holds of a sweep by its steps, whatever is recorded in between for other
nonterminals, and of a run by its sweeps. No growth goes unrecorded: a nonterminal without
a record has the set that it began with. All sweeps but the last have records, so the
number of sweeps that is reported can be counted from them.
-/
namespace GrammarSets.Follow

variable {g : Grammar} {first : FirstSets} {follow : FollowSets} {s : Sweep} {name : String}

/-- Sets that rise strictly from one set to another; the last of them is reached. -/
inductive Climbs : LookaheadSet → List LookaheadSet → LookaheadSet → Prop
  | rest (set : LookaheadSet) : Climbs set [] set
  | rise {before set after : LookaheadSet} {sets : List LookaheadSet} : before ⊂ set →
      Climbs set sets after → Climbs before (set :: sets) after

namespace Climbs

variable {before middle after : LookaheadSet} {sets more : List LookaheadSet}

theorem append (h : Climbs before sets middle) (h' : Climbs middle more after) :
    Climbs before (sets ++ more) after := by
  induction h with
  | rest => exact h'
  | rise hlt _ ih => exact .rise hlt (ih h')

theorem pairwise (h : Climbs before sets after) :
    (∀ set ∈ sets, before ⊂ set) ∧ sets.Pairwise (· ⊂ ·) := by
  induction h with
  | rest => exact ⟨fun _ hm => absurd hm List.not_mem_nil, .nil⟩
  | rise hlt _ ih =>
      refine ⟨List.forall_mem_cons.2 ⟨hlt, fun _ hm => ?_⟩, .cons ih.1 ih.2⟩
      exact OrderedSet.ssubset_trans hlt (ih.1 _ hm)

theorem getLast? (h : Climbs before sets after) : sets.getLast?.getD before = after := by
  induction h with
  | rest => rfl
  | rise _ _ ih => rw [List.getLast?_cons, Option.getD_some, ih]

end Climbs

/-- The sets that growths tell of one nonterminal. -/
def setsOf (name : String) (growths : List Growth) : List LookaheadSet :=
  growths.filterMap fun e => if e.name = name then some e.set else none

theorem setsOf_append (name : String) (growths more : List Growth) :
    setsOf name (growths ++ more) = setsOf name growths ++ setsOf name more :=
  List.filterMap_append

/-- A step tells of the nonterminal at its place, if its set has grown, and of no other. -/
theorem climbs_step (first : FirstSets) (s : Sweep) (o : Occurrence) (name : String) :
    ∃ more, (step first s o).growths = s.growths ++ more ∧
      Climbs (s.sets.of name) (setsOf name more) ((step first s o).sets.of name) := by
  by_cases he : (step first s o).sets.of o.name = s.sets.of o.name
  · have hg : (step first s o).growths = s.growths := if_pos he
    refine ⟨[], by rw [hg, List.append_nil], ?_⟩
    have hsame : (step first s o).sets.of name = s.sets.of name := by
      by_cases hn : name = o.name
      · rw [hn, he]
      · simp only [step, FollowSets.of_extend, if_neg hn]
    rw [hsame]
    exact .rest _
  · refine ⟨[⟨o.name, (step first s o).sets.of o.name⟩], if_neg he, ?_⟩
    by_cases hn : o.name = name
    · subst hn
      have hsub : s.sets.of o.name ⊆ (step first s o).sets.of o.name :=
        fun a ha => mem_step.2 (.inl ha)
      simp only [setsOf, List.filterMap_cons, if_pos, List.filterMap_nil]
      exact .rise (OrderedSet.ssubset_of_ne hsub he) (.rest _)
    · have hsame : (step first s o).sets.of name = s.sets.of name := by
        simp only [step, FollowSets.of_extend, if_neg (Ne.symm hn)]
      simp only [setsOf, List.filterMap_cons, if_neg hn, List.filterMap_nil, hsame]
      exact .rest _

theorem climbs_foldl_step (first : FirstSets) (os : List Occurrence) (s : Sweep) (name : String) :
    ∃ more, (os.foldl (step first) s).growths = s.growths ++ more ∧
      Climbs (s.sets.of name) (setsOf name more) ((os.foldl (step first) s).sets.of name) := by
  induction os generalizing s with
  | nil => exact ⟨[], (List.append_nil _).symm, .rest _⟩
  | cons o os ih =>
      obtain ⟨now, hnow, hstep⟩ := climbs_step first s o name
      obtain ⟨later, hlater, hrest⟩ := ih (step first s o)
      refine ⟨now ++ later, ?_, ?_⟩
      · rw [List.foldl_cons, hlater, hnow, List.append_assoc]
      · rw [setsOf_append]
        exact hstep.append hrest

theorem climbs_sweep (g : Grammar) (first : FirstSets) (follow : FollowSets) (name : String) :
    Climbs (follow.of name) (setsOf name (sweep g first follow).growths)
      ((sweep g first follow).sets.of name) := by
  obtain ⟨more, hmore, h⟩ := climbs_foldl_step first g.occurrences ⟨follow, []⟩ name
  rw [List.nil_append] at hmore
  rw [sweep, hmore]
  exact h

theorem climbs_settle (g : Grammar) (first : FirstSets) (follow : FollowSets) (name : String) :
    Climbs (follow.of name) (setsOf name (settle g first follow).rounds.flatten)
      ((settle g first follow).sets.of name) := by
  induction follow using settle.induct g first with
  | case1 follow s h ih =>
      rw [settle, dif_pos h, List.flatten_cons, setsOf_append]
      exact (climbs_sweep g first follow name).append ih
  | case2 follow s h =>
      rw [settle, dif_neg h, List.flatten_singleton]
      exact climbs_sweep g first follow name

/-- The sweep that comes after a number of sweeps. -/
def sweepAt (g : Grammar) (first : FirstSets) (follow : FollowSets) (n : Nat) : Sweep :=
  sweep g first (swept g first follow n)

/-- What a sweep leaves behind. -/
def Sweep.records (s : Sweep) : List Record := s.growths.map fun e => .followGrew e.name e.set

theorem records_eq_nil_iff : s.records = [] ↔ s.changed = false :=
  List.map_eq_nil_iff.trans Sweep.changed_eq_false_iff.symm

/-- The rounds of a run are the growths of its sweeps. -/
theorem rounds_eq (g : Grammar) (first : FirstSets) (follow : FollowSets) :
    (settle g first follow).rounds =
      (List.range (settle g first follow).rounds.length).map fun i =>
        (sweepAt g first follow i).growths := by
  induction follow using settle.induct g first with
  | case1 follow s h ih =>
      rw [settle, dif_pos h, List.length_cons, List.range_succ_eq_map, List.map_cons, List.map_map]
      exact congrArg _ ih
  | case2 follow s h =>
      rw [settle, dif_neg h]
      rfl

/-- The records of a run are those of its sweeps, and the number of the sweeps. -/
theorem records_settle (g : Grammar) (first : FirstSets) (follow : FollowSets) :
    (settle g first follow).records =
      ((List.range (settle g first follow).rounds.length).flatMap fun i =>
        (sweepAt g first follow i).records) ++
      [.followSettled (settle g first follow).rounds.length] := by
  have hflat : (settle g first follow).rounds.flatten.map (fun e => Record.followGrew e.name e.set) =
      (List.range (settle g first follow).rounds.length).flatMap fun i =>
        (sweepAt g first follow i).records := by
    rw [congrArg List.flatten (rounds_eq g first follow), List.map_flatten, List.map_map]
    rfl
  rw [Run.records, hflat]

/-- The sweeps of a run that leave records are all but the last. -/
theorem length_rounds (g : Grammar) (first : FirstSets) (follow : FollowSets) :
    (settle g first follow).rounds.length =
      1 + ((List.range (settle g first follow).rounds.length).filter fun i =>
        (sweepAt g first follow i).records ≠ []).length := by
  obtain ⟨k, hlength, hchanged, hlast, _⟩ := settle_spec g first follow
  have hloud : ∀ i ∈ List.range k, decide ((sweepAt g first follow i).records ≠ []) = true := by
    intro i hi
    refine decide_eq_true fun hnil => ?_
    have hquiet := records_eq_nil_iff.1 hnil
    exact Bool.false_ne_true (hquiet.symm.trans (hchanged i (List.mem_range.1 hi)))
  have hquiet : (sweepAt g first follow k).records = [] := records_eq_nil_iff.2 hlast
  rw [hlength, List.range_succ, List.filter_append, List.filter_eq_self.2 hloud]
  simp [hquiet, Nat.add_comm]

/-- The set that a record tells of a nonterminal. -/
def grownTo? (name : String) : Record → Option LookaheadSet
  | .followGrew other set => if other = name then some set else none
  | _ => none

theorem filterMap_grownTo? (name : String) (r : Run) :
    r.records.filterMap (grownTo? name) = setsOf name r.rounds.flatten := by
  simp [Run.records, setsOf, List.filterMap_append, List.filterMap_map, Function.comp_def, grownTo?]

/-- The set that a nonterminal has before any sweep. -/
def initialSet (start name : String) : LookaheadSet := if name = start then {.endOfInput} else ∅

theorem of_initial (g : Grammar) (start name : String) :
    (FollowSets.initial g start).of name = initialSet start name := by
  refine OrderedSet.ext fun a => family_initial.trans ?_
  unfold initialSet
  split
  · next h => simp [h]
  · next h => simp [h]

/-- The sets recorded for a nonterminal rise strictly, from above its first set to its last one, and
it has a record if its set has changed at all; the records are those of the sweeps in their order, and
the number of sweeps that is reported is one more than that of the sweeps with records. -/
theorem followSets_trace (g : Grammar) (first : FirstSets) (start : String) :
    (∀ name ∈ g.nonterminals, ∃ sets,
      (g.followSets first start).records.filterMap (grownTo? name) = sets ∧
      sets.Pairwise (· ⊂ ·) ∧ (∀ set ∈ sets, initialSet start name ⊂ set) ∧
      (g.followSets first start).value.get? name =
        some (sets.getLast?.getD (initialSet start name))) ∧
    ∃ n, (g.followSets first start).records =
        ((List.range n).flatMap fun i => (sweepAt g first (.initial g start) i).records) ++
          [.followSettled n] ∧
      (g.followSets first start).value = swept g first (.initial g start) n ∧
      n = 1 + ((List.range n).filter fun i =>
        (sweepAt g first (.initial g start) i).records ≠ []).length := by
  constructor
  · intro name hn
    have hclimb := climbs_settle g first (.initial g start) name
    rw [of_initial] at hclimb
    obtain ⟨set, hset⟩ := exists_followSet first start hn
    have hof : (g.followSets first start).value.of name = set := by
      rw [FollowSets.of, hset, Option.getD_some]
    refine ⟨_, filterMap_grownTo? name _, hclimb.pairwise.2, hclimb.pairwise.1, ?_⟩
    rw [hclimb.getLast?, hset, ← hof]
    rfl
  · refine ⟨_, records_settle g first _, ?_, length_rounds g first _⟩
    obtain ⟨k, hlength, _, _, hsets⟩ := settle_spec g first (.initial g start)
    rw [hlength]
    exact hsets

/-- The set of `C` grows in the first sweep and in the third, and the fourth is the last one. -/
theorem followSets_trace_backward :
    "C" ∈ backwardGrammar.nonterminals ∧
    (backwardGrammar.followSets backwardGrammar.firstSets.value "B").records.filterMap
        (grownTo? "C") = [{.endOfInput}, .ofList [.terminal "c", .endOfInput]] ∧
    ({.endOfInput} : LookaheadSet) ⊂ .ofList [.terminal "c", .endOfInput] ∧
    (backwardGrammar.followSets backwardGrammar.firstSets.value "B").value.get? "C" =
      some (.ofList [.terminal "c", .endOfInput]) ∧
    4 = 1 + ((List.range 4).filter fun i => (sweepAt backwardGrammar
      backwardGrammar.firstSets.value (.initial backwardGrammar "B") i).records ≠ []).length := by
  have hC : "C" ∈ backwardGrammar.nonterminals := by decide
  have hsets : (backwardGrammar.followSets backwardGrammar.firstSets.value "B").records.filterMap
      (grownTo? "C") = [{.endOfInput}, .ofList [.terminal "c", .endOfInput]] := by decide +kernel
  have hfour : .followSettled 4 ∈
      (backwardGrammar.followSets backwardGrammar.firstSets.value "B").records := by decide +kernel
  obtain ⟨hall, n, hrecords, _, hcount⟩ :=
    followSets_trace backwardGrammar backwardGrammar.firstSets.value "B"
  obtain ⟨sets, hname, hrise, _, hlast⟩ := hall "C" hC
  rw [hsets] at hname
  subst hname
  have hn : 4 = n := by
    simpa [hrecords, Sweep.records] using hfour
  refine ⟨hC, hsets, ?_, hlast, hn ▸ hcount⟩
  simpa using hrise

end GrammarSets.Follow
