import GrammarSets.Proofs.FollowRounds

/-!
# What one sweep does

A sweep may begin with any table: one that another grammar has left, one that lacks sets
or has sets of names that no rule uses. It takes no member and no set away, and it touches
no name but those that occur (`get?_foldl_step_of_ne`). It says that something changed just
if some set has a new member, and that nothing changed just if all demands were met before
it. A set without members may have been made even then. The sweep after that finds every set
in its place and every demand met, so it leaves the table as it is (`foldl_step_eq_self`).
-/
namespace GrammarSets.Follow

variable {g : Grammar} {first : FirstSets} {follow : FollowSets} {s : Sweep} {o : Occurrence}
variable {name : String}

theorem exists_occurrence_iff :
    (∃ o ∈ g.occurrences, o.name = name) ↔ .nonterminal name ∈ g.symbols := by
  rw [Grammar.mem_symbols]
  constructor
  · rintro ⟨o, ho, rfl⟩
    obtain ⟨before, after, hm, _⟩ := mem_occurrences.1 ho
    exact ⟨o.lhs, _, hm, by simp⟩
  · rintro ⟨lhs, alternative, hm, hx⟩
    obtain ⟨before, after, rfl⟩ := List.append_of_mem hx
    exact ⟨⟨lhs, name, after.head?⟩, mem_occurrences.2 ⟨before, after, hm, rfl⟩, rfl⟩

/-- A sweep does not touch the sets of names that do not occur. -/
theorem get?_foldl_step_of_ne {os : List Occurrence} (h : ∀ o ∈ os, o.name ≠ name) :
    (os.foldl (step first) s).sets.get? name = s.sets.get? name := by
  induction os generalizing s with
  | nil => rfl
  | cons o os ih =>
      rw [List.forall_mem_cons] at h
      have hstep : (step first s o).sets.get? name = s.sets.get? name :=
        Table.get?_update_of_ne _ _ fun he => h.1 he.symm
      rw [List.foldl_cons, ih h.2, hstep]

/-- A set stays in the table, with all of its members. -/
theorem exists_get?_foldl_step {os : List Occurrence} {set : LookaheadSet}
    (h : s.sets.get? name = some set) :
    ∃ more, (os.foldl (step first) s).sets.get? name = some more ∧ set ⊆ more := by
  have hkey : name ∈ (os.foldl (step first) s).sets.keys :=
    mem_keys_foldl_step.2 (.inl (Table.mem_keys_of_get? h))
  obtain ⟨more, hmore⟩ := (Table.mem_keys_iff _).1 hkey
  refine ⟨more, hmore, fun a ha => ?_⟩
  have hold : a ∈ s.sets.of name := by rwa [FollowSets.of, h]
  have hnew : a ∈ (os.foldl (step first) s).sets.of name := mem_foldl_step hold
  rwa [FollowSets.of, hmore] at hnew

/-- A step leaves everything as it is where there is a set that meets the demand. -/
theorem step_eq_self (hk : o.name ∈ s.sets.keys)
    (hd : ∀ a, Demand first s.sets.family o a → s.sets.family o.name a) : step first s o = s := by
  obtain ⟨set, hset⟩ := (Table.mem_keys_iff _).1 hk
  have hof : s.sets.of o.name = set := by rw [FollowSets.of, hset, Option.getD_some]
  have hadd : additions first s.sets o ⊆ set := fun a ha => hof ▸ hd a (mem_additions.1 ha)
  have hsets : s.sets.extend o.name (additions first s.sets o) = s.sets :=
    Table.update_eq_self hset (OrderedSet.union_eq_left hadd)
  simp only [step, hsets, if_pos]

theorem foldl_step_eq_self {os : List Occurrence} (hk : ∀ o ∈ os, o.name ∈ s.sets.keys)
    (hd : ∀ o ∈ os, ∀ a, Demand first s.sets.family o a → s.sets.family o.name a) :
    os.foldl (step first) s = s := by
  induction os with
  | nil => rfl
  | cons o os ih =>
      rw [List.forall_mem_cons] at hk hd
      rw [List.foldl_cons, step_eq_self hk.1 hd.1]
      exact ih hk.2 hd.2

/-- A sweep that changes nothing leaves the family as it was. -/
theorem family_sweep_of_not_changed (h : (sweep g first follow).changed = false) :
    (sweep g first follow).sets.family = follow.family :=
  (met_of_growths_eq (s := ⟨follow, []⟩) (Sweep.changed_eq_false_iff.1 h)).1

theorem changed_iff : (sweep g first follow).changed = true ↔
    ∃ name a, a ∉ follow.of name ∧ a ∈ (sweep g first follow).sets.of name := by
  constructor
  · intro h
    obtain ⟨a, name, hn, ha⟩ := exists_brings h
    exact ⟨name, a, hn, ha⟩
  · rintro ⟨name, a, hn, ha⟩
    refine (Bool.eq_false_or_eq_true _).resolve_right fun h => hn ?_
    have hold : follow.family name a := by
      rw [← family_sweep_of_not_changed h]
      exact ha
    exact hold

theorem not_changed_iff : (sweep g first follow).changed = false ↔
    Closed g first follow.family := by
  constructor
  · intro h
    rw [← family_sweep_of_not_changed h]
    exact closed_of_not_changed h
  · intro h
    rw [← Bool.not_eq_true, changed_iff]
    rintro ⟨name, a, hn, ha⟩
    exact hn (mem_of_mem_sweep follow.family (fun _ _ hb => hb) (closed_iff.1 h) ha)

/-- The sweep after one that changed nothing leaves the table as it is, sets without members
included. -/
theorem sweep_sweep (h : (sweep g first follow).changed = false) :
    sweep g first (sweep g first follow).sets = ⟨(sweep g first follow).sets, []⟩ := by
  have hkeys : ∀ o ∈ g.occurrences, o.name ∈ (sweep g first follow).sets.keys :=
    fun o ho => mem_keys_foldl_step.2 (.inr ⟨o, ho, rfl⟩)
  exact foldl_step_eq_self (s := ⟨_, []⟩) hkeys (closed_iff.1 (closed_of_not_changed h))

/-- A sweep takes nothing away; it reports a change just if some set has a new member, and none
just if all demands were met, and then the next sweep changes nothing at all; and it touches and
makes no sets but those of nonterminals that occur in the rules. -/
theorem sweep_honest (g : Grammar) (first : FirstSets) (follow : FollowSets) :
    (∀ name set, follow.get? name = some set →
      ∃ more, (sweep g first follow).sets.get? name = some more ∧ set ⊆ more) ∧
    ((sweep g first follow).changed = true ↔
      ∃ name a, a ∉ follow.of name ∧ a ∈ (sweep g first follow).sets.of name) ∧
    ((sweep g first follow).changed = false ↔ Closed g first follow.family) ∧
    ((sweep g first follow).changed = false →
      (sweep g first (sweep g first follow).sets).changed = false ∧
      (sweep g first (sweep g first follow).sets).sets = (sweep g first follow).sets) ∧
    (∀ name, .nonterminal name ∉ g.symbols →
      (sweep g first follow).sets.get? name = follow.get? name) ∧
    ∀ name ∈ (sweep g first follow).sets.keys, name ∈ follow.keys ∨ .nonterminal name ∈ g.symbols := by
  refine ⟨fun _ _ => exists_get?_foldl_step (s := ⟨follow, []⟩), changed_iff, not_changed_iff,
    fun h => ?_, fun name hn => ?_, fun name hk => ?_⟩
  · rw [sweep_sweep h]
    exact ⟨rfl, rfl⟩
  · refine get?_foldl_step_of_ne (s := ⟨follow, []⟩) fun o ho he => hn ?_
    exact exists_occurrence_iff.1 ⟨o, ho, he⟩
  · rw [← exists_occurrence_iff]
    exact mem_keys_foldl_step.1 hk

/-- A set for a name that no rule uses, and no set for any that one uses. -/
def stray : FollowSets := ⟨[("Z", {.terminal "z"})], by decide⟩

/-- Without FIRST sets nothing is known to follow, but sets are made; the sweep after that makes no
more. -/
theorem sweep_honest_stray :
    "C" ∉ stray.keys ∧ "C" ∈ (sweep backwardGrammar ∅ stray).sets.keys ∧
    (sweep backwardGrammar ∅ stray).changed = false ∧
    Closed backwardGrammar ∅ stray.family ∧
    ((sweep backwardGrammar ∅ (sweep backwardGrammar ∅ stray).sets).changed = false ∧
      (sweep backwardGrammar ∅ (sweep backwardGrammar ∅ stray).sets).sets =
        (sweep backwardGrammar ∅ stray).sets) ∧
    (sweep backwardGrammar ∅ stray).sets.get? "Z" = some {.terminal "z"} := by
  have hquiet : (sweep backwardGrammar ∅ stray).changed = false := by decide +kernel
  obtain ⟨_, _, hclosed, hagain, hframe, _⟩ := sweep_honest backwardGrammar ∅ stray
  refine ⟨by decide, by decide +kernel, hquiet, hclosed.1 hquiet, hagain hquiet, ?_⟩
  exact hframe "Z" (by decide)

end GrammarSets.Follow
