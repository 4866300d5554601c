import GrammarSets.First

/-!
# FOLLOW sets

The FOLLOW set of a nonterminal holds the terminals that can come after it, and
the end of the input if nothing need come after it. The rules are swept from
first to last, over and over, until a sweep adds nothing. What comes after a
nonterminal is judged by the next symbol alone; if that symbol can vanish, or if
there is none, whatever can follow the left side of the rule can follow too.

Sets only grow, and only by members that stand in a FIRST set or in a FOLLOW set
already (`support`), so there is less room for growth after every sweep that adds
something (`room_sweep_lt`), and the sweeps come to an end.
-/
namespace GrammarSets

/-- A nonterminal in an alternative of `lhs`, with the symbol right after it. -/
structure Occurrence where
  lhs : String
  name : String
  next : Option Symbol
deriving DecidableEq

/-- The nonterminals in an alternative, from left to right. -/
def Occurrence.inAlternative (lhs : String) : List Symbol → List Occurrence
  | [] => []
  | .nonterminal name :: rest => ⟨lhs, name, rest.head?⟩ :: inAlternative lhs rest
  | _ :: rest => inAlternative lhs rest

/-- Every place where a nonterminal stands on a right side, in reading order. -/
def Grammar.occurrences (g : Grammar) : List Occurrence :=
  g.rules.entries.flatMap fun e => e.2.flatMap (Occurrence.inAlternative e.1)

/-- The FOLLOW set of each nonterminal that has one. -/
abbrev FollowSets := Table String LookaheadSet

namespace FollowSets

/-- The FOLLOW set of a nonterminal; a missing set is empty. -/
def of (follow : FollowSets) (name : String) : LookaheadSet := (follow.get? name).getD ∅

/-- Adds members to the FOLLOW set of a nonterminal. -/
def extend (follow : FollowSets) (name : String) (more : LookaheadSet) : FollowSets :=
  follow.update name fun old => old.getD ∅ ∪ more

theorem of_extend (follow : FollowSets) (name : String) (more : LookaheadSet) (other : String) :
    (follow.extend name more).of other =
      if other = name then follow.of name ∪ more else follow.of other := by
  by_cases h : other = name
  · simp [of, extend, h]
  · simp [of, extend, Table.get?_update, h]

/-- Empty sets for all nonterminals, except that the end of the input follows the start
symbol. -/
def initial (g : Grammar) (start : String) : FollowSets :=
  extend (g.rules.mapValues fun _ => ∅) start {.endOfInput}

end FollowSets

namespace Follow

/-- What can come first after an occurrence, as far as the next symbol tells. -/
def ahead (first : FirstSets) (o : Occurrence) : LookaheadSet := first.ofSequence o.next.toList

/-- What an occurrence adds to the FOLLOW set of its nonterminal. -/
def additions (first : FirstSets) (follow : FollowSets) (o : Occurrence) : LookaheadSet :=
  let next := ahead first o
  if .empty ∈ next then next.erase .empty ∪ follow.of o.lhs else next.erase .empty

/-- A FOLLOW set that received members, as it stood right after. -/
structure Growth where
  name : String
  set : LookaheadSet
deriving DecidableEq

/-- The sets after part of a sweep, and the growths in it, oldest first. -/
structure Sweep where
  sets : FollowSets
  growths : List Growth

/-- Whether any set grew. -/
def Sweep.changed (s : Sweep) : Bool := !s.growths.isEmpty

theorem Sweep.changed_eq_true_iff {s : Sweep} : s.changed = true ↔ s.growths ≠ [] := by
  simp [Sweep.changed]

theorem Sweep.changed_eq_false_iff {s : Sweep} : s.changed = false ↔ s.growths = [] := by
  simp [Sweep.changed]

/-- Adds what one occurrence asks for. -/
def step (first : FirstSets) (s : Sweep) (o : Occurrence) : Sweep :=
  let sets := s.sets.extend o.name (additions first s.sets o)
  let set := sets.of o.name
  ⟨sets, if set = s.sets.of o.name then s.growths else s.growths ++ [⟨o.name, set⟩]⟩

/-- One pass over the occurrences of a grammar. -/
def sweep (g : Grammar) (first : FirstSets) (follow : FollowSets) : Sweep :=
  g.occurrences.foldl (step first) ⟨follow, []⟩

theorem mem_additions {first : FirstSets} {follow : FollowSets} {o : Occurrence} {a : Lookahead} :
    a ∈ additions first follow o ↔
      (a ∈ ahead first o ∧ a ≠ .empty) ∨ (.empty ∈ ahead first o ∧ a ∈ follow.of o.lhs) := by
  unfold additions
  by_cases h : .empty ∈ ahead first o <;> simp [h]

theorem mem_step {first : FirstSets} {s : Sweep} {o : Occurrence} {name : String}
    {a : Lookahead} :
    a ∈ (step first s o).sets.of name ↔
      a ∈ s.sets.of name ∨ (name = o.name ∧ a ∈ additions first s.sets o) := by
  simp only [step, FollowSets.of_extend]
  by_cases h : name = o.name <;> simp [h]

/-- A sweep takes nothing away. -/
theorem mem_foldl_step {first : FirstSets} {os : List Occurrence} {s : Sweep} {name : String}
    {a : Lookahead} (h : a ∈ s.sets.of name) :
    a ∈ (os.foldl (step first) s).sets.of name := by
  induction os generalizing s with
  | nil => exact h
  | cons o os ih => exact ih (mem_step.2 (.inl h))

/-- A sweep that leaves a growth behind gave some set a new member. -/
theorem exists_new_of_growths_ne {first : FirstSets} {os : List Occurrence} {s : Sweep}
    (h : (os.foldl (step first) s).growths ≠ s.growths) :
    ∃ o ∈ os, ∃ a, a ∉ s.sets.of o.name ∧ a ∈ (os.foldl (step first) s).sets.of o.name := by
  induction os generalizing s with
  | nil => exact absurd rfl h
  | cons o os ih =>
      by_cases he : (step first s o).sets.of o.name = s.sets.of o.name
      · have hg : (step first s o).growths = s.growths := if_pos he
        rw [List.foldl_cons, ← hg] at h
        obtain ⟨p, hp, a, hn, ha⟩ := ih h
        exact ⟨p, List.mem_cons_of_mem o hp, a, fun hs => hn (mem_step.2 (.inl hs)), ha⟩
      · refine Classical.byContradiction fun hno => he (OrderedSet.ext fun a => ?_)
        refine ⟨fun ha => ?_, fun ha => mem_step.2 (.inl ha)⟩
        refine Classical.byContradiction fun hs => hno ?_
        exact ⟨o, List.mem_cons_self, a, hs, mem_foldl_step (s := step first s o) ha⟩

/-- Every lookahead that stands in some FIRST or FOLLOW set. -/
def support (first : FirstSets) (follow : FollowSets) : LookaheadSet :=
  .ofList (first.entries.flatMap (·.2.toList) ++ follow.entries.flatMap (·.2.toList))

/-- How many more members the sets of the nonterminals that occur could receive. -/
def room (g : Grammar) (first : FirstSets) (follow : FollowSets) : Nat :=
  Measure.total (fun o =>
    ((support first follow).toList.filter fun a => decide (a ∉ follow.of o.name)).length)
    g.occurrences

theorem mem_support {first : FirstSets} {follow : FollowSets} {a : Lookahead} :
    a ∈ support first follow ↔
      (∃ x set, first.get? x = some set ∧ a ∈ set) ∨ ∃ name, a ∈ follow.of name := by
  simp only [support, OrderedSet.mem_ofList, List.mem_append, List.mem_flatMap, Prod.exists,
    Table.mem_entries_iff, OrderedSet.mem_toList]
  refine or_congr Iff.rfl ⟨?_, ?_⟩
  · rintro ⟨name, set, hs, ha⟩
    exact ⟨name, by simpa [FollowSets.of, hs] using ha⟩
  · rintro ⟨name, ha⟩
    cases hs : follow.get? name with
    | none => simp [FollowSets.of, hs] at ha
    | some set => exact ⟨name, set, hs, by simpa [FollowSets.of, hs] using ha⟩

theorem mem_support_of_mem_ahead {first : FirstSets} {follow : FollowSets} {o : Occurrence}
    {a : Lookahead} (h : a ∈ ahead first o) (ha : a ≠ .empty) : a ∈ support first follow := by
  unfold ahead at h
  cases hn : o.next with
  | none => simp [hn, FirstSets.ofSequence_nil, ha] at h
  | some x =>
      cases hx : first.get? x with
      | none => simp [hn, FirstSets.ofSequence_of_get?_none hx] at h
      | some set =>
          refine mem_support.2 (.inl ⟨x, set, hx, ?_⟩)
          rw [hn, Option.toList_some, FirstSets.ofSequence_of_get?_some hx] at h
          split at h
          · simpa [FirstSets.ofSequence_nil, ha] using h
          · exact h

/-- A sweep brings no member that no set had. -/
theorem mem_support_of_mem_foldl_step {first : FirstSets} {follow : FollowSets}
    {os : List Occurrence} {s : Sweep}
    (hs : ∀ name a, a ∈ s.sets.of name → a ∈ support first follow) {name : String}
    {a : Lookahead} (h : a ∈ (os.foldl (step first) s).sets.of name) :
    a ∈ support first follow := by
  induction os generalizing s with
  | nil => exact hs name a h
  | cons o os ih =>
      refine ih (fun n b hb => ?_) h
      rcases mem_step.1 hb with hb | ⟨_, hb⟩
      · exact hs n b hb
      · rcases mem_additions.1 hb with ⟨hb, hne⟩ | ⟨_, hb⟩
        · exact mem_support_of_mem_ahead hb hne
        · exact hs _ b hb

theorem support_sweep (g : Grammar) (first : FirstSets) (follow : FollowSets) :
    support first (sweep g first follow).sets = support first follow := by
  refine OrderedSet.ext fun a => ⟨fun h => ?_, fun h => ?_⟩
  · rcases mem_support.1 h with h | ⟨name, h⟩
    · exact mem_support.2 (.inl h)
    · exact mem_support_of_mem_foldl_step (fun n b hb => mem_support.2 (.inr ⟨n, hb⟩)) h
  · rcases mem_support.1 h with h | ⟨name, h⟩
    · exact mem_support.2 (.inl h)
    · exact mem_support.2 (.inr ⟨name, mem_foldl_step h⟩)

/-- A sweep that changed something leaves less room. -/
theorem room_sweep_lt {g : Grammar} {first : FirstSets} {follow : FollowSets}
    (h : (sweep g first follow).changed = true) :
    room g first (sweep g first follow).sets < room g first follow := by
  have hg : (sweep g first follow).growths ≠ [] := Sweep.changed_eq_true_iff.1 h
  obtain ⟨o, ho, a, hn, ha⟩ := exists_new_of_growths_ne hg
  have hsub : ∀ (p : Occurrence) (b : Lookahead),
      decide (b ∉ (sweep g first follow).sets.of p.name) = true →
        decide (b ∉ follow.of p.name) = true := fun p b hb => by
    simp only [decide_eq_true_eq] at hb ⊢
    exact fun hm => hb (mem_foldl_step hm)
  unfold room
  rw [support_sweep]
  refine Measure.total_lt (fun p => Measure.length_filter_le (hsub p) _) ho ?_
  refine Measure.length_filter_lt (a := a) (hsub o) ?_ (decide_eq_true hn)
    (decide_eq_false (not_not_intro ha))
  exact mem_support_of_mem_foldl_step (fun n b hb => mem_support.2 (.inr ⟨n, hb⟩)) ha

/-- The sets that sweeping ends in, and the growths of every sweep, the last of which has
none. -/
structure Run where
  sets : FollowSets
  rounds : List (List Growth)

/-- Sweeps until a sweep changes nothing. -/
def settle (g : Grammar) (first : FirstSets) (follow : FollowSets) : Run :=
  let s := sweep g first follow
  if _h : s.changed = true then
    let r := settle g first s.sets
    ⟨r.sets, s.growths :: r.rounds⟩
  else ⟨s.sets, [s.growths]⟩
termination_by room g first follow
decreasing_by exact room_sweep_lt _h

theorem settle_of_changed {g : Grammar} {first : FirstSets} {follow : FollowSets}
    (h : (sweep g first follow).changed = true) :
    settle g first follow =
      let r := settle g first (sweep g first follow).sets
      ⟨r.sets, (sweep g first follow).growths :: r.rounds⟩ := by
  rw [settle, dif_pos h]

theorem settle_of_not_changed {g : Grammar} {first : FirstSets} {follow : FollowSets}
    (h : ¬ (sweep g first follow).changed = true) :
    settle g first follow = ⟨(sweep g first follow).sets, [(sweep g first follow).growths]⟩ := by
  rw [settle, dif_neg h]

/-- What a run tells: each growth, and the number of sweeps. -/
def Run.records (r : Run) : List Record :=
  r.rounds.flatten.map (fun e => .followGrew e.name e.set) ++ [.followSettled r.rounds.length]

end Follow

namespace Grammar

/-- The FOLLOW sets of a grammar, given FIRST sets and the symbol to start from. -/
def followSets (g : Grammar) (first : FirstSets) (start : String) : Logged FollowSets :=
  let r := Follow.settle g first (FollowSets.initial g start)
  ⟨r.sets, r.records⟩

end Grammar
end GrammarSets
