import GrammarSets.Proofs.Reading

/-!
# Where reading stops, and what it does not see

A line stops the reading if it cannot be read, is the end token, or is refused as a rule. Nothing
behind the first such line is looked at (`collect_eq_of_stops`). All lines before it are passed:
each adds its rule or is skipped, and each counts for the numbers of the lines behind it
(`collect_passed`). A failure found on a line knows the sources only by this number, so lines that
are moved one down fail one further down and in no other way (`collect_moved`).
-/
namespace GrammarSets

/-- Whether a line stops the reading: it cannot be read, it is the end token, or it should hold a
rule and does not. -/
def Settings.stops (settings : Settings) : Line → Bool
  | .error _ => true
  | .ok text => settings.endsAt text || (isRuleLine text && !(Rule.ofLine text).isOk)

/-- No line stops the reading. -/
def Settings.Passes (settings : Settings) (lines : List Line) : Prop :=
  ∀ line ∈ lines, settings.stops line = false

instance (settings : Settings) (lines : List Line) : Decidable (settings.Passes lines) :=
  inferInstanceAs (Decidable (∀ line ∈ lines, settings.stops line = false))

/-- The rule on a line, if the line holds one. -/
def Line.rule? : Line → Option Rule
  | .error _ => none
  | .ok text => if isRuleLine text then (Rule.ofLine text).toOption else none

/-- The same failure one line further down; one that is about the whole source stays there. -/
def Failure.moved (f : Failure) : Failure :=
  if f.location.line = 0 then f else ⟨⟨f.location.source, f.location.line + 1⟩, f.fault⟩

theorem isRuleLine_eq_false {text : String} (h : Text.trim text.toList = [] ∨
    (Text.trim text.toList).head? = some ';') : isRuleLine text = false := by
  rw [← Bool.not_eq_true, isRuleLine_iff]
  rintro ⟨c, hc, hne⟩
  rcases h with h | h
  · simp [h] at hc
  · exact hne (Option.some.inj (hc.symm.trans h))

namespace Source
variable {name : String} {settings : Settings} {n : Nat} {stop : Line} {before rest : List Line}

/-- What a line that does not stop the reading does to it. -/
theorem collect_passed_cons {line : Line} (h : settings.stops line = false) (rest : List Line)
    (draft : Draft) : (collect name settings n (line :: rest) draft).value =
      (collect name settings (n + 1) rest (line.rule?.toList.foldl Draft.add draft)).value := by
  cases lineKind settings line with
  | unreadable fault => cases h
  | ended he => simp [Settings.stops, he] at h
  | @skipped text he hl =>
      have hnone : Line.rule? (.ok text) = none := if_neg (by simp [hl])
      rw [collect_skipped he hl, hnone]
      rfl
  | refused he hl ho => simp [Settings.stops, hl, ho, Except.isOk, Except.toBool] at h
  | @rule text r he hl ho =>
      have hsome : Line.rule? (.ok text) = some r := by simp [Line.rule?, hl, ho, Except.toOption]
      rw [collect_rule he hl (ruleAt_eq_ok_iff.2 ho), hsome]
      rfl

/-- Lines that do not stop the reading add their rules, and all of them count. -/
theorem collect_passed (h : settings.Passes before) (rest : List Line) (draft : Draft) :
    (collect name settings n (before ++ rest) draft).value =
      (collect name settings (n + before.length) rest
        ((before.filterMap Line.rule?).foldl Draft.add draft)).value := by
  induction before generalizing n draft with
  | nil => rfl
  | cons line before ih =>
      have hline : settings.stops line = false := h line List.mem_cons_self
      have hbefore : settings.Passes before := fun l hl => h l (List.mem_cons_of_mem _ hl)
      have hlength : n + (line :: before).length = n + 1 + before.length := by
        rw [List.length_cons]
        omega
      rw [List.cons_append, collect_passed_cons hline, ih hbefore, hlength]
      cases hr : line.rule? <;> simp [hr]

theorem collect_of_stops (h : settings.stops stop = true) (after after' : List Line)
    (draft : Draft) : collect name settings n (stop :: after) draft =
      collect name settings n (stop :: after') draft := by
  cases lineKind settings stop with
  | unreadable fault => rfl
  | ended he => rw [collect, collect, if_pos he, if_pos he]
  | skipped he hl => simp [Settings.stops, he, hl] at h
  | refused he hl ho => simp [collect, he, hl, ruleAt_eq_fault_iff.2 ho]
  | rule he hl ho => simp [Settings.stops, he, ho, Except.isOk, Except.toBool] at h

/-- What stands behind a line that stops the reading has no influence, not even on the records. -/
theorem collect_eq_of_stops (h : settings.stops stop = true) (after after' : List Line)
    (draft : Draft) :
    collect name settings n (before ++ stop :: after) draft =
      collect name settings n (before ++ stop :: after') draft := by
  induction before generalizing n draft with
  | nil => exact collect_of_stops h after after' draft
  | cons line before ih =>
      cases line with
      | error fault => rfl
      | ok text => simp only [List.cons_append, collect, ih]

/-- Lines that are read one further down give the same draft, or fail one further down. -/
theorem collect_moved (lines : List Line) (draft : Draft) :
    (collect name settings (n + 2) lines draft).value =
      ((collect name settings (n + 1) lines draft).value).mapError Failure.moved := by
  induction lines generalizing n draft with
  | nil => rfl
  | cons line rest ih =>
      cases lineKind settings line with
      | unreadable fault =>
          rw [collect_unreadable, collect_unreadable]
          rfl
      | ended he =>
          rw [collect_ended he, collect_ended he]
          rfl
      | skipped he hl => rw [collect_skipped he hl, collect_skipped he hl, ih]
      | refused he hl ho =>
          rw [collect_refused he hl (ruleAt_eq_fault_iff.2 ho),
            collect_refused he hl (ruleAt_eq_fault_iff.2 ho)]
          rfl
      | rule he hl ho =>
          rw [collect_rule he hl (ruleAt_eq_ok_iff.2 ho),
            collect_rule he hl (ruleAt_eq_ok_iff.2 ho), ih]

/-- What classifying some rules gives, with a fault placed at the whole source. -/
def classified (name : String) (settings : Settings) (rules : List Rule) : Except Failure Grammar :=
  ((Draft.ofRules rules).classify settings.start).mapError fun fault => ⟨⟨name, 0⟩, .grammar fault⟩

theorem value_classify (name : String) (settings : Settings) (d : Draft) :
    (classify name settings d).value =
      (d.classify settings.start).mapError fun fault => ⟨⟨name, 0⟩, .grammar fault⟩ := by
  rw [classify]
  cases d.classify settings.start <;> rfl

/-- A fault of classifying is not about a line, and does not move. -/
theorem classify_moved (name : String) (settings : Settings) (d : Draft) :
    (classify name settings d).value.mapError Failure.moved = (classify name settings d).value := by
  rw [value_classify]
  cases d.classify settings.start <;> rfl

/-- Reading a source is collecting its rules and classifying them. -/
theorem value_read (s : Source) (settings : Settings) :
    (s.read settings).value = (collect s.name settings 1 s.lines ∅).value.bind
      fun d => (classify s.name settings d).value := by
  rw [read, Logged.value_bind]
  cases (collect s.name settings 1 s.lines ∅).value <;> rfl

/-- Reading goes on behind lines that do not stop it with the rules on these lines. -/
theorem value_read_passed (h : settings.Passes before) (rest : List Line) :
    ((⟨name, before ++ rest⟩ : Source).read settings).value =
      (collect name settings (before.length + 1) rest
        (Draft.ofRules (before.filterMap Line.rule?))).value.bind
          fun d => (classify name settings d).value := by
  have hlength : 1 + before.length = before.length + 1 := Nat.add_comm _ _
  rw [value_read, collect_passed h, hlength]
  rfl

/-- Reading is up to the first line that stops it. What stands behind this line has no influence. A
line that cannot be read and a refused rule fail with the number of the line, the end token and the
end of the lines give what classifying the rules so far gives, and a further blank line or comment
before this line only moves a failure on a line one down. -/
theorem read_stops (name : String) (settings : Settings) :
    (∀ before stop after after', settings.stops stop = true →
      (⟨name, before ++ stop :: after⟩ : Source).read settings =
        (⟨name, before ++ stop :: after'⟩ : Source).read settings) ∧
    (∀ before after, settings.Passes before →
      (∀ fault, ((⟨name, before ++ .error fault :: after⟩ : Source).read settings).value =
        .error ⟨⟨name, before.length + 1⟩, .unreadable fault⟩) ∧
      (∀ text fault, settings.endsAt text = false → isRuleLine text = true →
        Rule.ofLine text = .error fault →
        ((⟨name, before ++ .ok text :: after⟩ : Source).read settings).value =
          .error ⟨⟨name, before.length + 1⟩, .rule fault⟩) ∧
      ∀ text, settings.endsAt text = true →
        ((⟨name, before ++ .ok text :: after⟩ : Source).read settings).value =
          classified name settings (before.filterMap Line.rule?)) ∧
    (∀ lines, settings.Passes lines → ((⟨name, lines⟩ : Source).read settings).value =
      classified name settings (lines.filterMap Line.rule?)) ∧
    ∀ before rest text, settings.Passes before → settings.endsAt text = false →
      (Text.trim text.toList = [] ∨ (Text.trim text.toList).head? = some ';') →
      ((⟨name, before ++ .ok text :: rest⟩ : Source).read settings).value =
        ((⟨name, before ++ rest⟩ : Source).read settings).value.mapError Failure.moved := by
  refine ⟨?_, ?_, ?_, ?_⟩
  · intro before stop after after' hs
    unfold read
    rw [collect_eq_of_stops hs after after']
  · intro before after hb
    refine ⟨?_, ?_, ?_⟩
    · intro fault
      rw [value_read_passed hb, collect_unreadable]
      rfl
    · intro text fault he hl ho
      rw [value_read_passed hb, collect_refused he hl (ruleAt_eq_fault_iff.2 ho)]
      rfl
    · intro text he
      rw [value_read_passed hb, collect_ended he]
      exact value_classify name settings _
  · intro lines hl
    rw [← List.append_nil lines, value_read_passed hl, collect_nil, List.append_nil]
    exact value_classify name settings _
  · intro before rest text hb he ht
    rw [value_read_passed hb, value_read_passed hb, collect_skipped he (isRuleLine_eq_false ht),
      collect_moved]
    cases (collect name settings (before.length + 1) rest
        (Draft.ofRules (before.filterMap Line.rule?))).value with
    | error failure => rfl
    | ok d => exact (classify_moved name settings d).symm

/-- A rule, a blank line and a comment. -/
def opening : List Line := [.ok "S → A a", .ok " ", .ok ";note"]

/-- The opening with some lines behind it. -/
def openingThen (rest : List Line) : Source := ⟨"rules", opening ++ rest⟩

/-- An end token that looks like a comment. -/
def hiddenEnd : Settings := ⟨";end", some "S"⟩

def openingGrammar : Grammar where
  start := "S"
  rules := ⟨[("S", [[.terminal "A", .terminal "a"]])], by decide⟩

theorem passes_opening : hiddenEnd.Passes opening := by decide +kernel

theorem classified_opening :
    classified "rules" hiddenEnd (opening.filterMap Line.rule?) = .ok openingGrammar := by
  decide +kernel

theorem read_stops_opening :
    (openingThen [.ok " ;END", .ok "?"]).read hiddenEnd =
      (openingThen [.ok " ;END", .error .invalidText]).read hiddenEnd ∧
    ((openingThen [.ok " ;END", .ok "?"]).read hiddenEnd).value = .ok openingGrammar ∧
    ((⟨"rules", opening⟩ : Source).read hiddenEnd).value = .ok openingGrammar ∧
    ((openingThen [.error .invalidText]).read hiddenEnd).value =
      .error ⟨⟨"rules", 4⟩, .unreadable .invalidText⟩ ∧
    ((openingThen [.ok "A => b"]).read hiddenEnd).value =
      .error ⟨⟨"rules", 4⟩, .rule .malformed⟩ ∧
    ((openingThen [.ok " ;end of it", .ok "A => b"]).read hiddenEnd).value =
      .error ⟨⟨"rules", 5⟩, .rule .malformed⟩ := by
  obtain ⟨hbehind, hstop, hnone, hskip⟩ := read_stops "rules" hiddenEnd
  have hends : hiddenEnd.endsAt " ;END" = true := by decide +kernel
  have hgoes : hiddenEnd.endsAt "A => b" = false := by decide +kernel
  have hmore : hiddenEnd.endsAt " ;end of it" = false := by decide +kernel
  have hcomment : (Text.trim " ;end of it".toList).head? = some ';' := by decide +kernel
  obtain ⟨_, _, hended⟩ := hstop opening [.ok "?"] passes_opening
  obtain ⟨hunreadable, hrefused, _⟩ := hstop opening [] passes_opening
  have hfault := hrefused "A => b" .malformed hgoes (by decide +kernel) (by decide +kernel)
  have hmoved := hskip opening [.ok "A => b"] " ;end of it" passes_opening hmore (.inr hcomment)
  rw [hfault] at hmoved
  exact ⟨hbehind opening _ _ _ (by decide +kernel), (hended _ hends).trans classified_opening,
    (hnone opening passes_opening).trans classified_opening, hunreadable .invalidText, hfault,
    hmoved⟩

end Source
end GrammarSets
