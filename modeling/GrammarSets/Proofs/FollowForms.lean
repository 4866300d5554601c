import GrammarSets.Analysis
import GrammarSets.Proofs.FirstExactness
import GrammarSets.Proofs.FollowClosure

/-!
# When one symbol ahead is enough

The FOLLOW set of a nonterminal should hold what comes after it in the forms derived
from the start symbol. The sweeps judge that by the next symbol alone, which misleads
them where that symbol can vanish and is not the last one. Where this does not happen
(`OneAhead`), FIRST sets are exact and every nonterminal is reached, the sets are what
they should be. One half goes over derivations, step by step: whatever can come after a
place of a form is in the FOLLOW set there. The other half is that the family to be
computed is closed, and so contains the least one.
-/
namespace GrammarSets
open GrammarSets.Symbol

namespace Grammar

variable {g : Grammar}

/-- What comes right after a nonterminal in a form derived from the start symbol, empty marks
dropped; the end of the input, if nothing does. -/
def FollowOf (g : Grammar) (name : String) : Lookahead → Prop
  | .terminal t => ∃ form before after, g.Derives [.nonterminal g.start] form ∧
      visible form = before ++ .nonterminal name :: .terminal t :: after
  | .empty => False
  | .endOfInput => ∃ form before, g.Derives [.nonterminal g.start] form ∧
      visible form = before ++ [.nonterminal name]

/-- A nonterminal that stands in some form derived from the start symbol. -/
def Reached (g : Grammar) (name : String) : Prop :=
  ∃ form, g.Derives [.nonterminal g.start] form ∧ .nonterminal name ∈ form

/-- A nonterminal of an alternative is directly followed by a symbol that can vanish only if that
symbol is the last one. -/
def OneAhead (g : Grammar) : Prop :=
  ∀ lhs before name x after, before ++ .nonterminal name :: x :: after ∈ g.alternatives lhs →
    g.Nullable x → after = []

/-- What can come after a place with a certain rest of the form. -/
def After (g : Grammar) (rest : List Symbol) (a : Lookahead) : Prop :=
  (a ≠ .empty ∧ g.FirstOf rest a) ∨ (a = .endOfInput ∧ g.FirstOf rest .empty)

theorem after_nil {a : Lookahead} : g.After [] a ↔ a = .endOfInput := by
  simp [After]

theorem after_append {u v : List Symbol} {a : Lookahead} :
    g.After (u ++ v) a ↔ (a ≠ .empty ∧ g.FirstOf u a) ∨ (g.FirstOf u .empty ∧ g.After v a) := by
  cases a with
  | terminal t => simp [After, firstOf_append]
  | empty => simp [After]
  | endOfInput => simp [After, firstOf_append, not_firstOf_endOfInput]

theorem after_cons {x : Symbol} {xs : List Symbol} {a : Lookahead} :
    g.After (x :: xs) a ↔ (a ≠ .empty ∧ g.FirstOf [x] a) ∨ (g.FirstOf [x] .empty ∧ g.After xs a) :=
  after_append (u := [x])

theorem After.of_derives {u v : List Symbol} {a : Lookahead} (h : g.Derives u v)
    (ha : g.After v a) : g.After u a :=
  ha.imp (And.imp_right (.of_derives h)) (And.imp_right (.of_derives h))

/-- Following, read off the places of forms. -/
theorem followOf_iff {name : String} {a : Lookahead} :
    g.FollowOf name a ↔ ∃ before after,
      g.Derives [.nonterminal g.start] (before ++ .nonterminal name :: after) ∧
        g.After after a := by
  constructor
  · intro h
    cases a with
    | terminal t =>
        obtain ⟨form, before, after, hd, hv⟩ := h
        obtain ⟨u, v, rfl, hafter⟩ := split_of_visible hv
        exact ⟨u, v, hd, .inl ⟨by simp, v, .refl v, after, hafter⟩⟩
    | empty => exact h.elim
    | endOfInput =>
        obtain ⟨form, before, hd, hv⟩ := h
        obtain ⟨u, v, rfl, hafter⟩ := split_of_visible hv
        exact ⟨u, v, hd, .inr ⟨rfl, v, .refl v, hafter⟩⟩
  · rintro ⟨before, after, hd, ⟨hne, after', hd', hv⟩ | ⟨rfl, after', hd', hv⟩⟩
    · have hform := hd.trans ((hd'.append_left [.nonterminal name]).append_left before)
      cases a with
      | terminal t =>
          obtain ⟨rest, hv⟩ := hv
          exact ⟨_, visible before, rest, hform, by simp [hv]⟩
      | empty => exact absurd rfl hne
      | endOfInput => exact hv.elim
    · have hform := hd.trans ((hd'.append_left [.nonterminal name]).append_left before)
      exact ⟨_, visible before, hform, by simp [show visible after' = [] from hv]⟩

/-- What follows the symbol that a rule defines follows a place of the rule behind which all can
vanish. -/
theorem FollowOf.of_alternative {lhs name : String} {before after : List Symbol} {a : Lookahead}
    (hm : before ++ .nonterminal name :: after ∈ g.alternatives lhs)
    (he : g.FirstOf after .empty) (ha : g.FollowOf lhs a) : g.FollowOf name a := by
  obtain ⟨u, v, hd, ha⟩ := followOf_iff.1 ha
  refine followOf_iff.2 ⟨u ++ before, after ++ v, ?_, after_append.2 (.inr ⟨he, ha⟩)⟩
  simpa using hd.replace hm

/-- What the next symbol of a rule can begin with follows, if the rule is reached. -/
theorem FollowOf.of_next {lhs name : String} {before after : List Symbol} {x : Symbol}
    {a : Lookahead} (hr : g.Reached lhs)
    (hm : before ++ .nonterminal name :: x :: after ∈ g.alternatives lhs)
    (ha : g.FirstOf [x] a) (hne : a ≠ .empty) : g.FollowOf name a := by
  obtain ⟨form, hd, hf⟩ := hr
  obtain ⟨u, v, rfl⟩ := List.append_of_mem hf
  refine followOf_iff.2 ⟨u ++ before, x :: after ++ v, ?_, after_cons.2 (.inl ⟨hne, ha⟩)⟩
  simpa using hd.replace hm

/-- A symbol of an alternative is in the vocabulary, unless it is a nonterminal without rules. -/
theorem mem_vocabulary_of_mem {lhs : String} {alternative : List Symbol} {x : Symbol}
    (hm : alternative ∈ g.alternatives lhs) (hx : x ∈ alternative) :
    x ∈ g.vocabulary ∨ ∃ name, x = .nonterminal name ∧ g.rules.get? name = none := by
  cases x with
  | empty => exact .inl empty_mem_vocabulary
  | nonterminal name =>
      cases hr : g.rules.get? name with
      | none => exact .inr ⟨name, rfl, hr⟩
      | some alternatives =>
          exact .inl (nonterminal_mem_vocabulary.2 (Table.mem_keys_of_get? hr))
  | terminal t =>
      have ht : t ∈ g.terminals := mem_terminals.2 (mem_symbols.2 ⟨lhs, alternative, hm, hx⟩)
      exact .inl (terminal_mem_vocabulary.2 ht)

/-- Without left recursion, one symbol of an alternative is judged as it should be. -/
theorem mem_ofSequence_next {lhs : String} {alternative : List Symbol} {x : Symbol}
    {a : Lookahead} (hrec : ∀ name, ¬ g.LeftRecursive name)
    (hm : alternative ∈ g.alternatives lhs) (hx : x ∈ alternative) :
    a ∈ g.firstSets.value.ofSequence [x] ↔ g.FirstOf [x] a := by
  cases hs : g.firstSets.value.get? x with
  | some set =>
      apply mem_ofSequence_iff
      intro y hy
      rw [List.mem_singleton.1 hy]
      exact ⟨set, hs, fun a => mem_firstSet_iff hs fun name _ => .of_forall hrec name⟩
  | none =>
      rw [FirstSets.ofSequence_of_get?_none hs]
      rcases mem_vocabulary_of_mem hm hx with h | ⟨name, rfl, hr⟩
      · obtain ⟨set, hset⟩ := exists_firstSet h
        cases hs.symm.trans hset
      · simp [Grammar.alternatives, hr]

end Grammar

namespace Follow
open Grammar

variable {g : Grammar}

/-- The family to be computed is closed. -/
theorem closed_followOf (hrec : ∀ name, ¬ g.LeftRecursive name)
    (hreach : ∀ name ∈ g.nonterminals, g.Reached name) (hnext : g.OneAhead) :
    Closed g g.firstSets.value g.FollowOf := by
  have hmem : ∀ {lhs before name x after a},
      before ++ .nonterminal name :: x :: after ∈ g.alternatives lhs →
        a ∈ g.firstSets.value.ofSequence [x] → g.FirstOf [x] a :=
    fun hm ha => (mem_ofSequence_next hrec hm (by simp)).1 ha
  refine ⟨?_, ?_, ?_⟩
  · intro lhs before name x after hm a ha hne
    exact .of_next (hreach lhs (mem_nonterminals_of_mem hm)) hm (hmem hm ha) hne
  · intro lhs before name x after hm he a ha
    have hx := hmem hm he
    have hlast : after = [] := hnext lhs before name x after hm (nullable_iff.2 hx)
    subst hlast
    exact ha.of_alternative hm hx
  · intro lhs before name hm a ha
    exact ha.of_alternative hm (firstOf_nil.2 rfl)

/-- A closed family with exact FIRST sets has, at every place of every form derived from the start
symbol, all that can come after it. -/
theorem mem_of_after {family : String → Lookahead → Prop}
    (hrec : ∀ name, ¬ g.LeftRecursive name) (hnext : g.OneAhead)
    (hF : Closed g g.firstSets.value family) (hstart : family g.start .endOfInput)
    {form : List Symbol} (hd : g.Derives [.nonterminal g.start] form) {before after : List Symbol}
    {name : String} (he : form = before ++ .nonterminal name :: after) {a : Lookahead}
    (ha : g.After after a) : family name a := by
  -- By the last step of the derivation: any place of the form comes from one before the step.
  induction hd generalizing before after name a with
  | refl =>
      obtain ⟨rfl, hs⟩ | ⟨_, hs⟩ := List.append_eq_singleton_iff.1 he.symm
      · cases hs
        rw [after_nil.1 ha]
        exact hstart
      · exact absurd hs (List.cons_ne_nil _ _)
  | tail _ hs ih =>
      cases hs with
      | @replace l r lhs alternative hm =>
          rcases append_eq_append_cons he with ⟨m, hl, rfl⟩ | ⟨m, rfl, rfl⟩
          · rcases append_eq_append_cons hl with ⟨m', rfl, rfl⟩ | ⟨m', rfl, rfl⟩
            · -- The place stands to the left: what comes after it could come before the step.
              have hd : g.Derives (m' ++ .nonterminal lhs :: r) (m' ++ alternative ++ r) :=
                (Derives.refl _).replace hm
              exact ih (List.append_assoc before _ _) (ha.of_derives hd)
            · -- The place stands in the alternative.
              cases m with
              | nil => exact hF.last hm a (ih rfl ha)
              | cons x m =>
                  have hx : ∀ b, b ∈ g.firstSets.value.ofSequence [x] ↔ g.FirstOf [x] b :=
                    fun b => mem_ofSequence_next hrec hm (by simp)
                  rcases after_cons.1 ha with ⟨hne, ha⟩ | ⟨hempty, ha⟩
                  · exact hF.next hm a ((hx a).2 ha) hne
                  · have hlast : m = [] := hnext lhs m' name x m hm (nullable_iff.2 hempty)
                    subst hlast
                    exact hF.vanish hm ((hx _).2 hempty) a (ih rfl ha)
          · -- The place stands to the right: nothing has changed there.
            exact ih (List.append_assoc l (.nonterminal lhs :: m) _).symm ha

end Follow

namespace Grammar

variable {g : Grammar}

/-- Without left recursion, if every nonterminal is reached and one symbol ahead tells enough, the
FOLLOW set of a nonterminal holds exactly what comes after it in the forms derived from the start
symbol. -/
theorem followSets_exact (g : Grammar) (hrec : ∀ name, ¬ g.LeftRecursive name)
    (hreach : ∀ name ∈ g.nonterminals, g.Reached name) (hnext : g.OneAhead) :
    ∀ name ∈ g.nonterminals, ∃ set, g.analyze.value.follow.get? name = some set ∧
      ∀ a, a ∈ set ↔ g.FollowOf name a := by
  intro name hn
  have hleast := Follow.least_followSets g g.firstSets.value g.start
  obtain ⟨set, hs⟩ := Follow.exists_followSet g.firstSets.value g.start hn
  refine ⟨set, hs, fun a => ?_⟩
  have hset : a ∈ set ↔ (g.followSets g.firstSets.value g.start).value.family name a := by
    rw [FollowSets.family, FollowSets.of, hs]
    rfl
  rw [hset]
  constructor
  · apply hleast.least _ (Follow.closed_followOf hrec hreach hnext)
    rintro _ _ ⟨rfl, rfl⟩
    exact ⟨_, [], .refl _, rfl⟩
  · intro ha
    obtain ⟨before, after, hd, ha⟩ := followOf_iff.1 ha
    exact Follow.mem_of_after hrec hnext hleast.closed (hleast.contains _ _ ⟨rfl, rfl⟩) hd rfl ha

/-- Sums: `E → T R`, `R → + T R | ε` and `T → id`. -/
def sums : Grammar where
  start := "E"
  rules := ⟨[("E", [[.nonterminal "T", .nonterminal "R"]]),
    ("R", [[.terminal "+", .nonterminal "T", .nonterminal "R"], [.empty]]),
    ("T", [[.terminal "id"]])], by decide⟩

theorem mem_alternatives_sums {name : String} {alternative : List Symbol} :
    alternative ∈ sums.alternatives name ↔
      (name = "E" ∧ alternative = [.nonterminal "T", .nonterminal "R"]) ∨
      (name = "R" ∧ alternative = [.terminal "+", .nonterminal "T", .nonterminal "R"]) ∨
      (name = "R" ∧ alternative = [.empty]) ∨ (name = "T" ∧ alternative = [.terminal "id"]) := by
  simp only [mem_alternatives, ← Table.mem_entries_iff, sums, List.mem_cons, Prod.mk.injEq,
    List.not_mem_nil, or_false]
  grind

/-- Only `E` has a left corner: `R` begins with a terminal. -/
theorem leftCorner_sums {name other : String} (h : sums.LeftCorner name other) :
    name = "E" ∧ other ≠ "E" := by
  obtain ⟨before, after, hm, hb⟩ := h
  have ho : .nonterminal other ∈ before ++ .nonterminal other :: after := by simp
  rcases mem_alternatives_sums.1 hm with ⟨hn, h⟩ | ⟨_, h⟩ | ⟨_, h⟩ | ⟨_, h⟩
  · rw [h] at ho
    exact ⟨hn, by rintro rfl; simp at ho⟩
  · cases before with
    | nil => simp at h
    | cons x before =>
        have hx := hb x List.mem_cons_self
        rw [(List.cons.inj h).1] at hx
        exact hx.elim
  · simp [h] at ho
  · simp [h] at ho

theorem not_leftRecursive_sums (name : String) : ¬ sums.LeftRecursive name := by
  intro h
  obtain ⟨other, hc, ht⟩ := Relation.TransGen.head'_iff.1 h
  rcases Relation.ReflTransGen.cases_head ht with rfl | ⟨_, hc', _⟩
  · exact (leftCorner_sums hc).2 (leftCorner_sums hc).1
  · exact (leftCorner_sums hc).2 (leftCorner_sums hc').1

theorem reached_sums : ∀ name ∈ sums.nonterminals, sums.Reached name := by
  have hE : sums.Derives [.nonterminal "E"] [.nonterminal "T", .nonterminal "R"] :=
    .of_alternative (by decide)
  intro name hn
  have hname : name = "E" ∨ name = "R" ∨ name = "T" := by
    simpa [nonterminals, Table.keys, sums] using hn
  rcases hname with rfl | rfl | rfl
  · exact ⟨_, .refl _, List.mem_singleton.2 rfl⟩
  · exact ⟨_, hE, by simp⟩
  · exact ⟨_, hE, by simp⟩

theorem oneAhead_sums : sums.OneAhead := by
  intro lhs before name x after hm _
  rcases mem_alternatives_sums.1 hm with ⟨_, h⟩ | ⟨_, h⟩ | ⟨_, h⟩ | ⟨_, h⟩
  all_goals
    cases before with
    | nil => simp_all
    | cons y before =>
        have hl := congrArg List.length h
        simp only [List.length_append, List.length_cons, List.length_nil] at hl
        exact List.eq_nil_of_length_eq_zero (by omega)

theorem followSets_exact_sums :
    ∃ set, sums.analyze.value.follow.get? "T" = some set ∧ ∀ a, a ∈ set ↔ sums.FollowOf "T" a :=
  followSets_exact sums not_leftRecursive_sums reached_sums oneAhead_sums "T" (by decide)

end Grammar
end GrammarSets
