import GrammarSets.Proofs.FirstTables

/-!
# The course of the walk

The walk opens every nonterminal once and settles every symbol once. Both are seen from what is
allowed at a moment (`Tables.Allows`): a nonterminal is opened if it is neither being read nor
settled, and a symbol is settled if it is neither. The visits keep to that, since what is being read
stays so until it is closed and is settled right after (`Performs.lawful`). A lawful course
keeps the two tables apart at every moment (`Apart.run`), changes no settled set, and adds the
settled sets to the table in the order in which they are reported (`entries_run`).
-/
namespace GrammarSets
namespace First

variable {g : Grammar} {k : Task} {t : Tables} {e : Event} {es : List Event} {set : LookaheadSet}
  {name : String}

namespace Tables

/-- Whether an event may come at a moment. -/
def Allows (t : Tables) : Event → Prop
  | .opened name => t.reading name = none ∧ t.settled.get? (.nonterminal name) = none
  | .settled x _ => t.settled.get? x = none ∧ ∀ name, x = .nonterminal name → t.reading name = none
  | _ => True

/-- Whether events may come one after the other. -/
def Lawful : Tables → List Event → Prop
  | _, [] => True
  | t, e :: es => t.Allows e ∧ (t.apply e).Lawful es

theorem lawful_append {es' : List Event} :
    t.Lawful (es ++ es') ↔ t.Lawful es ∧ (t.run es).Lawful es' := by
  induction es generalizing t with
  | nil => simp [Lawful]
  | cons e es ih => rw [List.cons_append, Lawful, Lawful, ih, and_assoc, run_cons]

/-- No nonterminal is being read and settled at the same time. -/
def Apart (t : Tables) : Prop :=
  ∀ name, t.reading name = none ∨ t.settled.get? (.nonterminal name) = none

theorem apart_empty : Tables.Apart ∅ := fun _ => .inl rfl

theorem Apart.apply (h : t.Apart) (he : t.Allows e) : (t.apply e).Apart := by
  intro other
  cases e with
  | opened name =>
      by_cases hn : other = name
      · exact .inr (hn ▸ he.2)
      · rw [reading_opened, Function.update_of_ne hn]
        exact h other
  | found name members =>
      by_cases hn : other = name
      · subst hn
        rw [reading_found, Function.update_self, Option.map_eq_none_iff]
        exact h other
      · rw [reading_found, Function.update_of_ne hn]
        exact h other
  | met name => exact h other
  | closed name =>
      by_cases hn : other = name
      · rw [reading_closed, hn, Function.update_self]
        exact .inl rfl
      · rw [reading_closed, Function.update_of_ne hn]
        exact h other
  | settled x set =>
      by_cases hx : .nonterminal other = x
      · exact .inl (he.2 other hx.symm)
      · rw [settled_settled, Table.get?_insert, if_neg hx]
        exact h other

theorem Apart.run (h : t.Apart) (hl : t.Lawful es) : (t.run es).Apart := by
  induction es generalizing t with
  | nil => exact h
  | cons e es ih => exact ih (h.apply hl.1) hl.2

theorem get?_apply {x : Symbol} (he : t.Allows e) (hx : t.settled.get? x = some set) :
    (t.apply e).settled.get? x = some set := by
  cases e with
  | settled y other =>
      have hne : x ≠ y := by
        rintro rfl
        cases hx.symm.trans he.1
      rwa [settled_settled, Table.get?_insert, if_neg hne]
  | opened | found | met | closed => exact hx

/-- A set that is settled is not changed any more. -/
theorem get?_run {x : Symbol} (hl : t.Lawful es) (hx : t.settled.get? x = some set) :
    (t.run es).settled.get? x = some set := by
  induction es generalizing t with
  | nil => exact hx
  | cons e es ih => exact ih hl.2 (get?_apply hl.1 hx)

/-- Sets stand in the table in the order in which they are settled. -/
theorem entries_run (hl : t.Lawful es) :
    (t.run es).settled.entries = t.settled.entries ++ es.filterMap Event.entry? := by
  induction es generalizing t with
  | nil => simp
  | cons e es ih =>
      have hstep : (t.apply e).settled.entries = t.settled.entries ++ (Event.entry? e).toList := by
        cases e with
        | settled x set =>
            exact Table.entries_update_of_not_mem ((Table.get?_eq_none_iff _).1 hl.1.1) _
        | opened | found | met | closed => exact (List.append_nil _).symm
      rw [run_cons, ih hl.2, hstep, List.append_assoc]
      cases h : Event.entry? e with
      | none => rw [List.filterMap_cons_none h, Option.toList_none, List.nil_append]
      | some entry => rw [List.filterMap_cons_some h, Option.toList_some, List.singleton_append]

theorem isSome_apply_found {other : String} {members : LookaheadSet}
    (h : (t.reading name).isSome = true) :
    ((t.apply (.found other members)).reading name).isSome = true := by
  by_cases hn : name = other
  · rwa [reading_found, hn, Function.update_self, Option.isSome_map, ← hn]
  · rwa [reading_found, Function.update_of_ne hn]

end Tables

/-- The nonterminal whose alternatives a task reads. -/
def Task.Reads : Task → String → Prop
  | .visit _, _ => False
  | .read name _, other => name = other

/-- A task changes nothing about the other nonterminals being read: what is opened in it is closed
in it. -/
theorem Performs.reading_eq (h : Performs g k t es set) (hk : ¬ k.Reads name) :
    (t.run es).reading name = t.reading name := by
  induction h with
  | known | terminal | empty | met | done => rfl
  | @nonterminal t other es set _ hr _ ih =>
      rw [Tables.run_append, Tables.run_cons, Tables.run_cons, Tables.run_nil,
        Tables.reading_settled, Tables.reading_closed]
      by_cases hn : name = other
      · rw [hn, Function.update_self, hr]
      · rw [Function.update_of_ne hn, Tables.run_cons, ih fun he => hn he.symm,
          Tables.reading_opened, Function.update_of_ne hn]
  | vanish _ ih =>
      rw [Tables.run_cons, ih hk]
      exact Function.update_of_ne (Ne.symm hk) _ _
  | pass _ _ _ ihx ih | stop _ _ _ ihx ih =>
      rw [Tables.run_append, Tables.run_cons, ih hk, ← ihx id]
      exact Function.update_of_ne (Ne.symm hk) _ _

/-- What is being read is still being read after a task. -/
theorem Performs.isSome_reading (h : Performs g k t es set) (hr : (t.reading name).isSome = true) :
    ((t.run es).reading name).isSome = true := by
  induction h with
  | known | terminal | empty | met | done => exact hr
  | nonterminal hn hp hread =>
      rwa [(Performs.nonterminal hn hp hread).reading_eq id]
  | vanish _ ih => exact ih (Tables.isSome_apply_found hr)
  | pass _ _ _ ihx ih | stop _ _ _ ihx ih =>
      rw [Tables.run_append]
      exact ih (Tables.isSome_apply_found (ihx hr))

/-- Tasks do only what is allowed. -/
theorem Performs.lawful (h : Performs g k t es set) (ha : t.Apart)
    (hk : ∀ name, k.Reads name → (t.reading name).isSome = true) : t.Lawful es := by
  induction h with
  | known | done => trivial
  | met => exact ⟨trivial, trivial⟩
  | terminal hn => exact ⟨⟨hn, by simp⟩, trivial⟩
  | empty hn => exact ⟨⟨hn, by simp⟩, trivial⟩
  | @nonterminal t name es set hn hr hread ih =>
      have hopen : t.Allows (.opened name) := ⟨hr, hn⟩
      have hopened : ((t.apply (.opened name)).reading name).isSome = true := by
        rw [Tables.reading_opened, Function.update_self, Option.isSome_some]
      have hlawful : (t.apply (.opened name)).Lawful es := by
        refine ih (ha.apply hopen) ?_
        rintro _ rfl
        exact hopened
      -- At the end it is still being read, so that nothing has settled it.
      have hstill := hread.isSome_reading hopened
      have hunsettled := (((ha.apply hopen).run hlawful) name).resolve_left fun hnone => by
        rw [hnone] at hstill
        cases hstill
      refine Tables.lawful_append.2 ⟨⟨hopen, hlawful⟩, trivial, ⟨hunsettled, ?_⟩, trivial⟩
      rintro _ ⟨⟩
      exact Function.update_self _ _ _
  | vanish _ ih =>
      exact ⟨trivial, ih (ha.apply trivial) fun _ h => Tables.isSome_apply_found (hk _ h)⟩
  | pass hx _ _ ihx ih | stop hx _ _ ihx ih =>
      have hlawful := ihx ha fun _ h => h.elim
      refine Tables.lawful_append.2 ⟨hlawful, trivial, ih ((ha.run hlawful).apply trivial) ?_⟩
      exact fun _ h => Tables.isSome_apply_found (hx.isSome_reading (hk _ h))

/-- The symbols that events settle. -/
def settledBy (es : List Event) : List Symbol := (es.filterMap Event.entry?).map Prod.fst

theorem settledBy_append (es es' : List Event) :
    settledBy (es ++ es') = settledBy es ++ settledBy es' := by
  rw [settledBy, List.filterMap_append, List.map_append]
  rfl

theorem settledBy_found (name : String) (members : LookaheadSet) (es : List Event) :
    settledBy (.found name members :: es) = settledBy es := rfl

theorem count_found (name other : String) (members : LookaheadSet) (es : List Event) :
    (Event.found other members :: es).count (.opened name) = es.count (.opened name) :=
  List.count_cons_of_ne (by simp)

/-- A nonterminal is settled as often as it is opened. -/
theorem Performs.count_opened (h : Performs g k t es set) (name : String) :
    es.count (.opened name) = (settledBy es).count (.nonterminal name) := by
  induction h with
  | known | met | done | terminal | empty => rfl
  | @nonterminal t other es set _ _ _ ih =>
      have hopened : settledBy (.opened other :: es) = settledBy es := rfl
      have hclosed : settledBy [.closed other, .settled (.nonterminal other) set] =
          [.nonterminal other] := rfl
      rw [settledBy_append, hopened, hclosed, List.count_append, List.count_append, List.count_cons,
        ih]
      by_cases hn : other = name
      · simp [hn]
      · simp [hn]
  | vanish _ ih => rw [count_found, settledBy_found, ih]
  | pass _ _ _ ihx ih | stop _ _ _ ihx ih =>
      rw [List.count_append, count_found, settledBy_append, settledBy_found, List.count_append, ihx,
        ih]

section Walks
variable {symbols : List Symbol}

theorem Walks.reading_eq (h : Walks g symbols t es) (name : String) :
    (t.run es).reading name = t.reading name := by
  induction h with
  | nil => rfl
  | cons hx _ ih => rw [Tables.run_append, ih, hx.reading_eq id]

theorem Walks.lawful (h : Walks g symbols t es) (ha : t.Apart) : t.Lawful es := by
  induction h with
  | nil => trivial
  | cons hx _ ih =>
      have hlawful := hx.lawful ha fun _ h => h.elim
      exact Tables.lawful_append.2 ⟨hlawful, ih (ha.run hlawful)⟩

theorem Walks.count_opened (h : Walks g symbols t es) (name : String) :
    es.count (.opened name) = (settledBy es).count (.nonterminal name) := by
  induction h with
  | nil => rfl
  | cons hx _ ih =>
      rw [List.count_append, settledBy_append, List.count_append, hx.count_opened, ih]

end Walks

/-- The set that a record reports for a symbol. -/
def settledTo? (x : Symbol) : Record → Option LookaheadSet
  | .firstSettled y set => if y = x then some set else none
  | _ => none

theorem filterMap_settledTo? (x : Symbol) (es : List Event) :
    (es.filterMap Event.record?).filterMap (settledTo? x) =
      (es.filterMap Event.entry?).filterMap fun entry =>
        if entry.1 = x then some entry.2 else none := by
  rw [List.filterMap_filterMap, List.filterMap_filterMap]
  refine congrArg (List.filterMap · es) (funext fun e => ?_)
  cases e <;> rfl

end First

namespace Grammar

open First

variable {g : Grammar} {x : Symbol}

/-- The walk through a grammar has one course, and comes to the FIRST sets and their records. -/
theorem exists_walk (g : Grammar) : ∃ es, (∀ other, Walks g g.vocabulary ∅ other ↔ other = es) ∧
    (Tables.run ∅ es).settled = g.firstSets.value ∧
    es.filterMap Event.record? = g.firstSets.records := by
  obtain ⟨es, hwalks, hleads⟩ := exists_walks g g.vocabulary ∅
  refine ⟨es, fun other => ⟨fun h => h.unique hwalks, fun h => h ▸ hwalks⟩, ?_, ?_⟩
  · exact congrArg Tables.settled hleads.tables_eq
  · exact hleads.records_eq.symm

theorem mem_vocabulary_iff : x ∈ g.vocabulary ↔ (∃ name ∈ g.nonterminals, x = .nonterminal name) ∨
    (∃ name ∈ g.terminals, x = .terminal name) ∨ x = .empty := by
  simp [vocabulary, OrderedSet.mem_toList, eq_comm]

theorem SelfContained.mem_keys_firstSets (hg : g.SelfContained) :
    x ∈ g.firstSets.value.keys ↔ x ∈ g.vocabulary := by
  rw [Table.mem_keys_iff]
  exact ⟨fun ⟨_, hs⟩ => hg.mem_vocabulary_of_firstSet hs, exists_firstSet⟩

/-- The walk through a grammar ends, having one course, whatever the rules refer to. At every moment
of it, what is being read is not settled, and a set that is settled stays as it is. In the end nothing
is being read. The alternatives of each nonterminal are read once. The nonterminals, the
terminals and the empty mark have FIRST sets, and each of these sets has one record. -/
theorem firstSets_course (rules : List Rule) (asked : Option String) (g : Grammar)
    (h : (Draft.ofRules rules).classify asked = .ok g) :
    ∃ es, (∀ other, Walks g g.vocabulary ∅ other ↔ other = es) ∧
      (Tables.run ∅ es).settled = g.firstSets.value ∧
      es.filterMap Event.record? = g.firstSets.records ∧
      (∀ before after, es = before ++ after → ∀ name, (Tables.run ∅ before).reading name = none ∨
        (Tables.run ∅ before).settled.get? (.nonterminal name) = none) ∧
      (∀ before between after, es = before ++ between ++ after → ∀ x set,
        (Tables.run ∅ before).settled.get? x = some set →
        (Tables.run ∅ (before ++ between)).settled.get? x = some set) ∧
      (∀ name, (Tables.run ∅ es).reading name = none) ∧
      (∀ name, es.count (.opened name) = if name ∈ g.nonterminals then 1 else 0) ∧
      (∀ x, x ∈ g.firstSets.value.keys ↔ (∃ name ∈ g.nonterminals, x = .nonterminal name) ∨
        (∃ name ∈ g.terminals, x = .terminal name) ∨ x = .empty) ∧
      ∀ x, g.firstSets.records.filterMap (settledTo? x) =
        (g.firstSets.value.get? x).toList := by
  have hg : g.SelfContained := selfContained_of_classify h
  obtain ⟨es, hone, hsettled, hrecords⟩ := exists_walk g
  have hwalks : Walks g g.vocabulary ∅ es := (hone es).2 rfl
  have hlawful : Tables.Lawful ∅ es := hwalks.lawful Tables.apart_empty
  have hentries : es.filterMap Event.entry? = g.firstSets.value.entries := by
    rw [← hsettled, Tables.entries_run hlawful]
    rfl
  refine ⟨es, hone, hsettled, hrecords, ?apart, ?kept, hwalks.reading_eq, ?once, ?keys, ?records⟩
  case apart =>
    rintro before after rfl
    exact Tables.apart_empty.run (Tables.lawful_append.1 hlawful).1
  case kept =>
    rintro before between after rfl x set hx
    have hbefore := (Tables.lawful_append.1 hlawful).1
    rw [Tables.run_append]
    exact Tables.get?_run (Tables.lawful_append.1 hbefore).2 hx
  case once =>
    intro name
    have hkeys : settledBy es = g.firstSets.value.keys := by rw [settledBy, hentries, Table.keys]
    have hmem : .nonterminal name ∈ g.firstSets.value.keys ↔ name ∈ g.nonterminals :=
      hg.mem_keys_firstSets.trans nonterminal_mem_vocabulary
    have hdistinct : g.firstSets.value.keys.Nodup := g.firstSets.value.distinct
    rw [hwalks.count_opened, hkeys, hdistinct.count]
    simp only [hmem]
  case keys => exact fun x => hg.mem_keys_firstSets.trans mem_vocabulary_iff
  case records =>
    intro x
    rw [← hrecords, filterMap_settledTo?, hentries, Table.filterMap_entries]

/-- `S → A x | b` and `A → S y` or nothing. -/
def circleRules : List Rule := [⟨"S", [["A", "x"], ["b"]]⟩, ⟨"A", [["S", "y"], []]⟩]

def circle : Grammar where
  start := "S"
  rules := ⟨[("S", [[.nonterminal "A", .terminal "x"], [.terminal "b"]]),
    ("A", [[.nonterminal "S", .terminal "y"], []])], by decide⟩

theorem firstSets_course_circle : (Draft.ofRules circleRules).classify none = .ok circle ∧
    .reentered "S" ∈ circle.firstSets.records ∧
    ∃ es, Walks circle circle.vocabulary ∅ es ∧
      (∀ before after, es = before ++ after → (Tables.run ∅ before).reading "A" = none ∨
        (Tables.run ∅ before).settled.get? (.nonterminal "A") = none) ∧
      es.count (.opened "S") = 1 ∧ es.count (.opened "A") = 1 ∧
      (Tables.run ∅ es).settled.get? (.nonterminal "S") = some ({.terminal "b"} ∪ {.terminal "x"}) ∧
      circle.firstSets.records.filterMap (settledTo? (.nonterminal "S")) =
        [{.terminal "b"} ∪ {.terminal "x"}] := by
  have hg : (Draft.ofRules circleRules).classify none = .ok circle := by decide +kernel
  have hS : circle.firstSets.value.get? (.nonterminal "S") = some ({.terminal "b"} ∪ {.terminal "x"}) := by
    decide +kernel
  obtain ⟨es, hone, hsettled, _, hapart, _, _, hcount, _, hrecords⟩ :=
    firstSets_course circleRules none circle hg
  refine ⟨hg, by decide +kernel, es, (hone es).2 rfl, fun before after he => hapart before after he "A",
    hcount "S", hcount "A", ?_, ?_⟩
  · rw [hsettled, hS]
  · rw [hrecords, hS, Option.toList_some]

end Grammar
end GrammarSets
