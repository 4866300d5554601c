import GrammarSets.Follow

/-!
# FOLLOW sets are the least closed family

A family of sets is closed if it has, at every place of a nonterminal in a rule, what
the next symbol tells can come there. Sweeping keeps within every closed family
(`mem_of_mem_foldl_step`), and a sweep without a growth has met every demand
(`closed_of_not_changed`). So the sweeps end in the least closed family above the sets
they began with, in whatever order the places are visited and whatever the FIRST sets
are.
-/
namespace GrammarSets

/-- The sets as a family: a missing set is empty. -/
def FollowSets.family (follow : FollowSets) (name : String) (a : Lookahead) : Prop :=
  a ∈ follow.of name

namespace Follow

variable {g : Grammar} {first : FirstSets} {follow : FollowSets} {s : Sweep}
variable {family : String → Lookahead → Prop}

/-- A family that has what the symbol after each nonterminal of a rule asks for. -/
structure Closed (g : Grammar) (first : FirstSets) (family : String → Lookahead → Prop) : Prop where
  next : ∀ {lhs before name x after}, before ++ .nonterminal name :: x :: after ∈ g.alternatives lhs →
    ∀ a ∈ first.ofSequence [x], a ≠ .empty → family name a
  vanish : ∀ {lhs before name x after},
    before ++ .nonterminal name :: x :: after ∈ g.alternatives lhs →
    .empty ∈ first.ofSequence [x] → ∀ a, family lhs a → family name a
  last : ∀ {lhs before name}, before ++ [.nonterminal name] ∈ g.alternatives lhs →
    ∀ a, family lhs a → family name a

theorem mem_inAlternative {lhs : String} {alternative : List Symbol} {o : Occurrence} :
    o ∈ Occurrence.inAlternative lhs alternative ↔
      o.lhs = lhs ∧ ∃ before after, alternative = before ++ .nonterminal o.name :: after ∧
        after.head? = o.next := by
  induction alternative with
  | nil => simp [Occurrence.inAlternative]
  | cons x xs ih =>
      have hskip : (∃ before after, xs = before ++ .nonterminal o.name :: after ∧
          after.head? = o.next) → ∃ before after,
          x :: xs = before ++ .nonterminal o.name :: after ∧ after.head? = o.next := by
        rintro ⟨before, after, he, hn⟩
        exact ⟨x :: before, after, by rw [he, List.cons_append], hn⟩
      cases x with
      | nonterminal name =>
          rw [Occurrence.inAlternative, List.mem_cons, ih]
          constructor
          · rintro (rfl | ⟨hl, h⟩)
            · exact ⟨rfl, [], xs, rfl, rfl⟩
            · exact ⟨hl, hskip h⟩
          · rintro ⟨hl, before, after, he, hn⟩
            cases before with
            | nil =>
                obtain ⟨hx, rfl⟩ := List.cons.inj he
                cases hx
                subst hl
                exact .inl (by rw [hn])
            | cons y before => exact .inr ⟨hl, before, after, (List.cons.inj he).2, hn⟩
      | terminal | empty =>
          rw [Occurrence.inAlternative, ih]
          · refine and_congr_right fun _ => ⟨hskip, ?_⟩
            rintro ⟨before, after, he, hn⟩
            cases before with
            | nil => cases he
            | cons y before => exact ⟨before, after, (List.cons.inj he).2, hn⟩
          · simp

/-- The places of the rules are the nonterminals of the alternatives. -/
theorem mem_occurrences {o : Occurrence} :
    o ∈ g.occurrences ↔
      ∃ before after, before ++ .nonterminal o.name :: after ∈ g.alternatives o.lhs ∧
        after.head? = o.next := by
  simp only [Grammar.occurrences, List.mem_flatMap, mem_inAlternative, Prod.exists,
    Table.mem_entries_iff]
  constructor
  · rintro ⟨_, alternatives, hr, _, hm, rfl, before, after, rfl, hn⟩
    exact ⟨before, after, Grammar.mem_alternatives.2 ⟨alternatives, hr, hm⟩, hn⟩
  · rintro ⟨before, after, hm, hn⟩
    obtain ⟨alternatives, hr, hm⟩ := Grammar.mem_alternatives.1 hm
    exact ⟨o.lhs, alternatives, hr, _, hm, rfl, before, after, rfl, hn⟩

/-- What a place asks for, given the family. -/
def Demand (first : FirstSets) (family : String → Lookahead → Prop) (o : Occurrence)
    (a : Lookahead) : Prop :=
  (a ∈ ahead first o ∧ a ≠ .empty) ∨ (.empty ∈ ahead first o ∧ family o.lhs a)

theorem closed_iff : Closed g first family ↔
    ∀ o ∈ g.occurrences, ∀ a, Demand first family o a → family o.name a := by
  constructor
  · rintro h ⟨lhs, name, next⟩ ho a ha
    obtain ⟨before, after, hm, hn⟩ := mem_occurrences.1 ho
    cases after with
    | nil =>
        cases hn
        rcases ha with ⟨ha, hne⟩ | ⟨_, ha⟩
        · exact absurd (OrderedSet.mem_singleton.1 ha) hne
        · exact h.last hm a ha
    | cons x after =>
        cases hn
        rcases ha with ⟨ha, hne⟩ | ⟨he, ha⟩
        · exact h.next hm a ha hne
        · exact h.vanish hm he a ha
  · intro h
    refine ⟨?_, ?_, ?_⟩
    · intro lhs before name x after hm a ha hne
      exact h ⟨lhs, name, some x⟩ (mem_occurrences.2 ⟨before, x :: after, hm, rfl⟩) a
        (.inl ⟨ha, hne⟩)
    · intro lhs before name x after hm he a ha
      exact h ⟨lhs, name, some x⟩ (mem_occurrences.2 ⟨before, x :: after, hm, rfl⟩) a
        (.inr ⟨he, ha⟩)
    · intro lhs before name hm a ha
      have he : .empty ∈ ahead first ⟨lhs, name, none⟩ := OrderedSet.mem_singleton.2 rfl
      exact h ⟨lhs, name, none⟩ (mem_occurrences.2 ⟨before, [], hm, rfl⟩) a (.inr ⟨he, ha⟩)

/-- A sweep adds nothing that some closed family lacks. -/
theorem mem_of_mem_foldl_step {os : List Occurrence}
    (hF : ∀ o ∈ os, ∀ a, Demand first family o a → family o.name a)
    (hs : ∀ name, ∀ a ∈ s.sets.of name, family name a) (name : String) :
    ∀ a ∈ (os.foldl (step first) s).sets.of name, family name a := by
  -- A step reads sets that grew in this same sweep, so the bound is on all sets before it.
  induction os generalizing s with
  | nil => exact hs name
  | cons o os ih =>
      rw [List.forall_mem_cons] at hF
      refine ih hF.2 fun other a ha => ?_
      rcases mem_step.1 ha with hold | ⟨rfl, hnew⟩
      · exact hs other a hold
      · refine hF.1 a ?_
        exact (mem_additions.1 hnew).imp_right fun ⟨he, ha⟩ => ⟨he, hs _ a ha⟩

theorem growths_prefix_step (first : FirstSets) (s : Sweep) (o : Occurrence) :
    s.growths <+: (step first s o).growths := by
  unfold step
  dsimp only
  split
  · exact List.prefix_rfl
  · exact List.prefix_append _ _

theorem growths_prefix_foldl_step (first : FirstSets) (os : List Occurrence) (s : Sweep) :
    s.growths <+: (os.foldl (step first) s).growths := by
  induction os generalizing s with
  | nil => exact List.prefix_rfl
  | cons o os ih => exact (growths_prefix_step first s o).trans (ih _)

theorem family_step_of_growths_eq {o : Occurrence} (h : (step first s o).growths = s.growths) :
    (step first s o).sets.family = s.sets.family := by
  by_cases he : (step first s o).sets.of o.name = s.sets.of o.name
  · funext name a
    unfold FollowSets.family
    by_cases hn : name = o.name
    · rw [hn, he]
    · simp only [step, FollowSets.of_extend, if_neg hn]
  · have hg : (step first s o).growths =
        s.growths ++ [⟨o.name, (step first s o).sets.of o.name⟩] := if_neg he
    rw [hg] at h
    simp at h

/-- Steps without a growth leave all sets as they were, and have met every demand. -/
theorem met_of_growths_eq {os : List Occurrence}
    (h : (os.foldl (step first) s).growths = s.growths) :
    (os.foldl (step first) s).sets.family = s.sets.family ∧
      ∀ o ∈ os, ∀ a, Demand first s.sets.family o a → s.sets.family o.name a := by
  induction os generalizing s with
  | nil => exact ⟨rfl, fun o ho => absurd ho List.not_mem_nil⟩
  | cons o os ih =>
      rw [List.foldl_cons] at h ⊢
      -- The growths only get longer, so if they are the same in the end they are so all along.
      have hstep : (step first s o).growths = s.growths := by
        have hrest := growths_prefix_foldl_step first os (step first s o)
        have h₁ := (growths_prefix_step first s o).length_le
        have h₂ := hrest.length_le
        rw [h] at hrest h₂
        exact hrest.eq_of_length (by omega)
      have hsame := family_step_of_growths_eq hstep
      obtain ⟨hrest, hmet⟩ := ih (h.trans hstep.symm)
      rw [hsame] at hrest hmet
      refine ⟨hrest, List.forall_mem_cons.2 ⟨?_, hmet⟩⟩
      intro a ha
      rw [← hsame]
      exact mem_step.2 (.inr ⟨rfl, mem_additions.2 ha⟩)

/-- A sweep that changes nothing ends in a closed family. -/
theorem closed_of_not_changed (h : (sweep g first follow).changed = false) :
    Closed g first (sweep g first follow).sets.family := by
  have hg : (sweep g first follow).growths = [] := Sweep.changed_eq_false_iff.1 h
  have hmet := met_of_growths_eq (s := ⟨follow, []⟩) hg
  rw [closed_iff, sweep, hmet.1]
  exact hmet.2

/-- Sweeping over and over until a sweep changes nothing leads from one map to another. -/
inductive Settles (g : Grammar) (first : FirstSets) : FollowSets → FollowSets → Prop
  | stop {follow : FollowSets} : (sweep g first follow).changed = false →
      Settles g first follow (sweep g first follow).sets
  | again {follow result : FollowSets} : (sweep g first follow).changed = true →
      Settles g first (sweep g first follow).sets result → Settles g first follow result

theorem settles_settle (g : Grammar) (first : FirstSets) (follow : FollowSets) :
    Settles g first follow (settle g first follow).sets := by
  induction follow using settle.induct g first with
  | case1 follow s h ih =>
      rw [settle, dif_pos h]
      exact .again h ih
  | case2 follow s h =>
      rw [settle, dif_neg h]
      exact .stop (Bool.not_eq_true _ ▸ h)

theorem Settles.unique {r r' : FollowSets} (h : Settles g first follow r)
    (h' : Settles g first follow r') : r = r' := by
  induction h with
  | stop hc =>
      cases h' with
      | stop => rfl
      | again hc' => exact absurd (hc.symm.trans hc') Bool.false_ne_true
  | again hc _ ih =>
      cases h' with
      | stop hc' => exact absurd (hc'.symm.trans hc) Bool.false_ne_true
      | again _ h' => exact ih h'

/-- The least closed family that has certain members. -/
structure Least (g : Grammar) (first : FirstSets) (members : String → Lookahead → Prop)
    (follow : FollowSets) : Prop where
  closed : Closed g first follow.family
  contains : ∀ name a, members name a → follow.family name a
  least : ∀ family, Closed g first family → (∀ name a, members name a → family name a) →
    ∀ name a, follow.family name a → family name a

theorem Settles.least {result : FollowSets} (h : Settles g first follow result) :
    Least g first follow.family result := by
  induction h with
  | stop hc =>
      refine ⟨closed_of_not_changed hc, fun name a ha => mem_foldl_step ha, ?_⟩
      exact fun family hF hm => mem_of_mem_foldl_step (closed_iff.1 hF) hm
  | again _ _ ih =>
      refine ⟨ih.closed, fun name a ha => ih.contains name a (mem_foldl_step ha), ?_⟩
      intro family hF hm
      exact ih.least family hF (mem_of_mem_foldl_step (closed_iff.1 hF) hm)

theorem family_initial {start name : String} {a : Lookahead} :
    (FollowSets.initial g start).family name a ↔ name = start ∧ a = .endOfInput := by
  have hempty : ∀ other, FollowSets.of (g.rules.mapValues fun _ => ∅) other = ∅ := by
    intro other
    rw [FollowSets.of, Table.get?_mapValues]
    cases g.rules.get? other <;> rfl
  rw [FollowSets.family, FollowSets.initial, FollowSets.of_extend]
  by_cases h : name = start <;> simp [h, hempty]

theorem least_followSets (g : Grammar) (first : FirstSets) (start : String) :
    Least g first (fun name a => name = start ∧ a = .endOfInput)
      (g.followSets first start).value := by
  have h := (settles_settle g first (FollowSets.initial g start)).least
  have hinit : (FollowSets.initial g start).family =
      fun name a => name = start ∧ a = .endOfInput := by
    funext name a
    exact propext family_initial
  rwa [hinit] at h

/-- The FOLLOW sets computed from a symbol are the least closed family in which the end of the
input follows it, and sweeping from any map ends, in the least closed family above that map. -/
theorem followSets_least (g : Grammar) (first : FirstSets) :
    (∀ start, Least g first (fun name a => name = start ∧ a = .endOfInput)
      (g.followSets first start).value) ∧
    ∀ follow, ∃ result, (∀ other, Settles g first follow other ↔ other = result) ∧
      Least g first follow.family result := by
  refine ⟨least_followSets g first, fun follow => ?_⟩
  have h := settles_settle g first follow
  refine ⟨_, fun other => ⟨fun h' => h'.unique h, ?_⟩, h.least⟩
  rintro rfl
  exact h

theorem mem_keys_foldl_step {os : List Occurrence} {name : String} :
    name ∈ (os.foldl (step first) s).sets.keys ↔
      name ∈ s.sets.keys ∨ ∃ o ∈ os, o.name = name := by
  induction os generalizing s with
  | nil => simp
  | cons o os ih =>
      have hstep : name ∈ (step first s o).sets.keys ↔ name ∈ s.sets.keys ∨ o.name = name := by
        simp only [step, FollowSets.extend, Table.keys_update]
        split
        · next hm => exact ⟨.inl, fun h => h.elim id fun he => he ▸ hm⟩
        · simp [eq_comm]
      rw [List.foldl_cons, ih, hstep, or_assoc]
      simp

/-- Sweeping makes sets for the nonterminals that are used, and for no others. -/
theorem Settles.mem_keys_iff {result : FollowSets} (h : Settles g first follow result)
    {name : String} :
    name ∈ result.keys ↔ name ∈ follow.keys ∨ ∃ o ∈ g.occurrences, o.name = name := by
  induction h with
  | stop => exact mem_keys_foldl_step
  | again _ _ ih =>
      rw [ih, sweep, mem_keys_foldl_step]
      exact ⟨fun h => h.elim id .inr, fun h => .inl h⟩

theorem mem_keys_initial {start name : String} :
    name ∈ (FollowSets.initial g start).keys ↔ name ∈ g.nonterminals ∨ name = start := by
  simp only [FollowSets.initial, FollowSets.extend, Table.keys_update, Table.keys_mapValues]
  split
  · next hm => exact ⟨.inl, fun h => h.elim id fun he => he ▸ hm⟩
  · exact List.mem_append.trans (or_congr Iff.rfl List.mem_singleton)

theorem exists_followSet (first : FirstSets) (start : String) {name : String}
    (h : name ∈ g.nonterminals) : ∃ set, (g.followSets first start).value.get? name = some set := by
  have hkey : name ∈ (FollowSets.initial g start).keys := mem_keys_initial.2 (.inl h)
  exact (Table.mem_keys_iff _).1 ((settles_settle g first _).mem_keys_iff.2 (.inl hkey))

theorem mem_nonterminals_of_occurrence (h : g.SelfContained) {o : Occurrence}
    (ho : o ∈ g.occurrences) : o.name ∈ g.nonterminals := by
  obtain ⟨before, after, hm, _⟩ := mem_occurrences.1 ho
  exact h o.lhs _ hm o.name (by simp)

/-- If the rules use no nonterminals from elsewhere, just those with rules have FOLLOW sets. -/
theorem mem_keys_followSets {start name : String} (h : g.SelfContained)
    (hs : start ∈ g.nonterminals) :
    name ∈ (g.followSets first start).value.keys ↔ name ∈ g.nonterminals := by
  have hsettled : Settles g first (.initial g start) (g.followSets first start).value :=
    settles_settle g first _
  rw [hsettled.mem_keys_iff, mem_keys_initial]
  constructor
  · rintro ((hn | rfl) | ⟨o, ho, rfl⟩)
    · exact hn
    · exact hs
    · exact mem_nonterminals_of_occurrence h ho
  · exact fun hn => .inl (.inl hn)

end Follow
end GrammarSets
