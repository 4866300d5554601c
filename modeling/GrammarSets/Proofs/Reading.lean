import GrammarSets.Proofs.Rendering
import GrammarSets.Proofs.RuleLines

/-!
# What reading lines collects

The equations of `collect` say what one line does: it ends the reading, is passed over,
adds a rule, or is refused; `lineKind` tells these cases apart. An accepted rule has proper
symbols, at least one alternative, and none that begins with the symbol it defines
(`Rule.Accepted`). Adding to a draft puts alternatives of one symbol together and changes
none of them, so a draft of accepted rules stays one while lines are read
(`Draft.Accepted.add`, `accepted_of_collect`).
-/
namespace GrammarSets

/-- What the lines that are read guarantee of a rule. -/
structure Rule.Accepted (r : Rule) : Prop where
  lhs : Text.IsSymbol r.lhs.toList
  noComment : r.lhs.toList.head? ≠ some ';'
  symbols : ∀ alternative ∈ r.alternatives, ∀ text ∈ alternative, Text.IsSymbol text.toList
  nonempty : r.alternatives ≠ []
  noLead : ∀ alternative ∈ r.alternatives, alternative.head? ≠ some r.lhs

/-- All rules of a draft are as the lines that are read guarantee it. -/
def Draft.Accepted (d : Draft) : Prop :=
  ∀ name alternatives, d.rules.get? name = some alternatives → Rule.Accepted ⟨name, alternatives⟩

theorem isRuleLine_iff {line : String} :
    isRuleLine line = true ↔ ∃ c, (Text.trim line.toList).head? = some c ∧ c ≠ ';' := by
  unfold isRuleLine
  split <;> simp_all

namespace Rule

theorem accepted_of_ofLine {line : String} {r : Rule} (hl : isRuleLine line = true)
    (h : ofLine line = .ok r) : r.Accepted := by
  obtain ⟨htokens, hne, hlead⟩ := ofTokens_eq_ok_iff.1 h
  have hproper : ∀ t ∈ Token.ofLine line, t.Proper := Token.proper_of_mem_scan
  have hrenders : Token.Renders (Token.ofLine line) line.toList := Token.renders_scan _
  rw [htokens] at hproper hrenders
  have hlhs : Text.IsSymbol r.lhs.toList := hproper _ List.mem_cons_self
  refine ⟨hlhs, ?_, ?_, hne, hlead⟩
  · obtain ⟨c, hc, hsemi⟩ := isRuleLine_iff.1 hl
    rw [← hrenders.head?_trim hlhs, hc]
    simpa using hsemi
  · intro alternative ha text ht
    have hm : .symbol text ∈ spell r.alternatives := symbol_mem_spell.2 ⟨alternative, ha, ht⟩
    exact hproper _ (List.mem_cons_of_mem _ (List.mem_cons_of_mem _ hm))

end Rule

namespace Draft

theorem accepted_empty : Draft.Accepted ∅ := fun _ _ h => nomatch h

/-- Alternatives of accepted rules for one symbol make up an accepted rule. -/
theorem Accepted.add {d : Draft} {r : Rule} (hd : d.Accepted) (hr : r.Accepted) :
    (d.add r).Accepted := by
  intro name alternatives h
  rw [get?_add] at h
  split at h
  · next hn =>
      subst hn
      cases h
      cases hold : d.rules.get? r.lhs with
      | none => simpa using hr
      | some old =>
          have ho := hd _ _ hold
          refine ⟨hr.lhs, hr.noComment, ?_, ?_, ?_⟩
          · intro alternative ha
            rcases List.mem_append.1 ha with ha | ha
            · exact ho.symbols alternative ha
            · exact hr.symbols alternative ha
          · exact List.append_ne_nil_of_right_ne_nil _ hr.nonempty
          · intro alternative ha
            rcases List.mem_append.1 ha with ha | ha
            · exact ho.noLead alternative ha
            · exact hr.noLead alternative ha
  · exact hd name alternatives h

end Draft

namespace Source
variable {name : String} {settings : Settings} {n : Nat} {line : String} {rest : List Line}
variable {draft d : Draft}

theorem collect_nil : (collect name settings n [] draft).value = .ok draft := rfl

theorem collect_unreadable (fault : ReadFault) :
    (collect name settings n (.error fault :: rest) draft).value =
      .error ⟨⟨name, n⟩, .unreadable fault⟩ := rfl

theorem collect_ended (h : settings.endsAt line = true) :
    (collect name settings n (.ok line :: rest) draft).value = .ok draft := by
  rw [collect, if_pos h]
  rfl

theorem collect_skipped (h : settings.endsAt line = false) (hl : isRuleLine line = false) :
    (collect name settings n (.ok line :: rest) draft).value =
      (collect name settings (n + 1) rest draft).value := by
  rw [collect, if_neg (by simp [h]), if_neg (by simp [hl])]

theorem collect_refused {failure : Failure} (h : settings.endsAt line = false)
    (hl : isRuleLine line = true) (hr : ruleAt ⟨name, n⟩ line = .error failure) :
    (collect name settings n (.ok line :: rest) draft).value = .error failure := by
  rw [collect, if_neg (by simp [h]), if_pos hl, hr]
  rfl

theorem collect_rule {r : Rule} (h : settings.endsAt line = false) (hl : isRuleLine line = true)
    (hr : ruleAt ⟨name, n⟩ line = .ok r) :
    (collect name settings n (.ok line :: rest) draft).value =
      (collect name settings (n + 1) rest (draft.add r)).value := by
  rw [collect, if_neg (by simp [h]), if_pos hl, hr]
  rfl

/-- What a line can be to the reading. -/
inductive LineKind (settings : Settings) : Line → Prop
  | unreadable (fault : ReadFault) : LineKind settings (.error fault)
  | ended {text : String} : settings.endsAt text = true → LineKind settings (.ok text)
  | skipped {text : String} : settings.endsAt text = false → isRuleLine text = false →
      LineKind settings (.ok text)
  | refused {text : String} {fault : RuleFault} : settings.endsAt text = false →
      isRuleLine text = true → Rule.ofLine text = .error fault → LineKind settings (.ok text)
  | rule {text : String} {r : Rule} : settings.endsAt text = false → isRuleLine text = true →
      Rule.ofLine text = .ok r → LineKind settings (.ok text)

theorem lineKind (settings : Settings) (line : Line) : LineKind settings line := by
  cases line with
  | error fault => exact .unreadable fault
  | ok text =>
      cases he : settings.endsAt text with
      | true => exact .ended he
      | false =>
          cases hl : isRuleLine text with
          | false => exact .skipped he hl
          | true =>
              cases ho : Rule.ofLine text with
              | error fault => exact .refused he hl ho
              | ok r => exact .rule he hl ho

/-- Reading keeps drafts accepted. -/
theorem accepted_of_collect {lines : List Line}
    (h : (collect name settings n lines draft).value = .ok d) (hd : draft.Accepted) :
    d.Accepted := by
  induction lines generalizing n draft with
  | nil =>
      rw [collect_nil] at h
      cases h
      exact hd
  | cons line rest ih =>
      cases lineKind settings line with
      | unreadable fault =>
          rw [collect_unreadable] at h
          cases h
      | ended he =>
          rw [collect_ended he] at h
          cases h
          exact hd
      | skipped he hl =>
          rw [collect_skipped he hl] at h
          exact ih h hd
      | refused he hl ho =>
          rw [collect_refused he hl (ruleAt_eq_fault_iff.2 ho)] at h
          cases h
      | rule he hl ho =>
          rw [collect_rule he hl (ruleAt_eq_ok_iff.2 ho)] at h
          exact ih h (hd.add (Rule.accepted_of_ofLine hl ho))

end Source
end GrammarSets
