import GrammarSets.Proofs.Classification
import GrammarSets.Proofs.Reading

/-!
# A printed grammar is read back

A grammar is printed with one line for each nonterminal. Lines that were accepted come
in any number and in many forms, with several lines for one nonterminal; the printed
lines give back the same grammar nevertheless. A printed rule is read as the rule it
was printed from (`ofLine_text`), it is never taken for a comment or for the end token,
and the rules of a draft, added in order, make up the draft again (`ofRules_toRules`).
-/
namespace GrammarSets
open Text

/-- A rule as one line: the symbol it defines, an arrow, and its alternatives between bars, with
spaces between all of them. -/
def Rule.text (r : Rule) : String :=
  r.lhs ++ " -> " ++ " | ".intercalate (r.alternatives.map fun xs => " ".intercalate xs)

/-- A grammar as lines, one for each nonterminal in the order of their definition. -/
def Grammar.lines (g : Grammar) : List String :=
  g.rules.entries.map fun e => Rule.text ⟨e.1, e.2.map (List.map Symbol.text)⟩

namespace Token

theorem Renders.eq_nil_or_blank {cs : List Char} (h : Renders [] cs) :
    cs = [] ∨ ∃ c rest, cs = c :: rest ∧ isBlank c = true := by
  cases h with
  | nil => exact .inl rfl
  | blank hc => exact .inr ⟨_, _, rfl, hc⟩

/-- Any two texts may be put side by side with a blank between. -/
theorem Renders.join {tokens tokens' : List Token} {cs cs' : List Char} {c : Char}
    (h : Renders tokens cs) (h' : Renders tokens' cs') (hc : isBlank c = true) :
    Renders (tokens ++ tokens') (cs ++ c :: cs') := by
  induction h with
  | nil => exact .blank hc h'
  | blank hd _ ih => exact .blank hd ih
  | @token t tokens spelling cs hs ha hr ih =>
      rw [List.append_assoc]
      refine .token hs (fun text other he hh => ?_) ih
      -- After the last token, what stands apart from the next one is the blank that is put in.
      cases tokens with
      | nil =>
          rcases hr.eq_nil_or_blank with rfl | ⟨d, rest, rfl, hd⟩
          · exact ⟨c, cs', rfl, hc⟩
          · exact ⟨d, _, rfl, hd⟩
      | cons u tokens =>
          obtain ⟨d, rest, rfl, hd⟩ := ha text other he hh
          exact ⟨d, _, rfl, hd⟩

theorem renders_symbol (text : String) : Renders [symbol text] text.toList := by
  have h : Renders [symbol text] (text.toList ++ []) :=
    .token (.symbol text) (fun _ _ _ h => by simp at h) .nil
  rwa [List.append_nil] at h

theorem nil_intercalate {α β : Type} (f : α → β) (as : List α) :
    [].intercalate (as.map fun a => [f a]) = as.map f := by
  induction as with
  | nil => rfl
  | cons a as ih =>
      cases as with
      | nil => rfl
      | cons b as => simpa [List.intercalate_cons_cons] using ih

/-- Texts with the same tokens between any two of them, after a space. -/
theorem renders_intercalate {α : Type} {between : List Token} {gap : List Char}
    (hgap : ∀ {tokens cs}, Renders tokens cs → Renders (between ++ tokens) (gap ++ cs))
    {tokens : α → List Token} {text : α → List Char} {as : List α}
    (h : ∀ a ∈ as, Renders (tokens a) (text a)) :
    Renders (between.intercalate (as.map tokens)) ((' ' :: gap).intercalate (as.map text)) := by
  induction as with
  | nil => exact .nil
  | cons a as ih =>
      rw [List.forall_mem_cons] at h
      by_cases ha : as = []
      · simpa [ha] using h.1
      · rw [List.map_cons, List.map_cons, List.intercalate_cons_of_ne_nil (by simpa using ha),
          List.intercalate_cons_of_ne_nil (by simpa using ha), List.append_assoc, List.append_assoc,
          List.cons_append]
        exact h.1.join (hgap (ih h.2)) rfl

end Token

namespace Rule

theorem renders_alternative (xs : List String) :
    Token.Renders (xs.map .symbol) (" ".intercalate xs).toList := by
  have hgap : ∀ {tokens : List Token} {cs : List Char}, Token.Renders tokens cs →
      Token.Renders ([] ++ tokens) ([] ++ cs) := fun h => h
  have h := Token.renders_intercalate hgap fun x (_ : x ∈ xs) => Token.renders_symbol x
  rw [Token.nil_intercalate] at h
  rw [String.toList_intercalate]
  exact h

theorem renders_alternatives (alternatives : List (List String)) :
    Token.Renders (spell alternatives)
      (" | ".intercalate (alternatives.map fun xs => " ".intercalate xs)).toList := by
  have hgap : ∀ {tokens : List Token} {cs : List Char}, Token.Renders tokens cs →
      Token.Renders ([.bar] ++ tokens) (['|', ' '] ++ cs) := by
    intro tokens cs h
    have hbar : Token.Renders (.bar :: tokens) (['|'] ++ ' ' :: cs) :=
      .token .bar (Token.apart_bar _ _) (.blank rfl h)
    exact hbar
  rw [String.toList_intercalate, List.map_map]
  exact Token.renders_intercalate hgap fun xs _ => renders_alternative xs

theorem renders_text (r : Rule) :
    Token.Renders (.symbol r.lhs :: .arrow :: spell r.alternatives) r.text.toList := by
  have harrow : Token.Renders [.arrow] ['-', '>'] :=
    .token .asciiArrow (Token.apart_arrow _ _) .nil
  have h := (Token.renders_symbol r.lhs).join
    (harrow.join (renders_alternatives r.alternatives) (c := ' ') rfl) (c := ' ') rfl
  simpa [text] using h

/-- A printed rule is read as the rule it was printed from. -/
theorem ofLine_text {r : Rule} (h : r.Accepted) : ofLine r.text = .ok r := by
  have hproper : ∀ t ∈ .symbol r.lhs :: .arrow :: spell r.alternatives, t.Proper := by
    rw [List.forall_mem_cons, List.forall_mem_cons]
    refine ⟨h.lhs, trivial, fun t ht => ?_⟩
    cases t with
    | arrow | bar => trivial
    | symbol text =>
        obtain ⟨alternative, ha, hm⟩ := symbol_mem_spell.1 ht
        exact h.symbols alternative ha text hm
  rw [ofLine, Token.ofLine, Token.scan_of_renders r.renders_text hproper]
  exact ofTokens_eq_ok_iff.2 ⟨rfl, h.nonempty, h.noLead⟩

theorem isRuleLine_text {r : Rule} (h : r.Accepted) : isRuleLine r.text = true := by
  obtain ⟨c, cs, hcs⟩ := List.exists_cons_of_ne_nil h.lhs.nonempty
  refine isRuleLine_iff.2 ⟨c, ?_, fun he => h.noComment ?_⟩
  · rw [r.renders_text.head?_trim h.lhs, hcs, List.head?_cons]
  · rw [hcs, he, List.head?_cons]

/-- A printed rule has an arrow in it, and so is not the end token. -/
theorem endsAt_text (r : Rule) (start : Option String) :
    Settings.endsAt ⟨Settings.defaultEndToken, start⟩ r.text = false := by
  have harrow : '-' ∈ r.text.toList := by simp [text]
  have htext : '-' ∈ lower (trim r.text.toList) := hyphen_mem_lower (mem_trim rfl harrow)
  have htoken : '-' ∉ lower Settings.defaultEndToken.toList := by decide
  rw [Settings.endsAt, beq_eq_false_iff_ne]
  intro he
  exact htoken (he ▸ htext)

end Rule

namespace Draft

/-- The rules of a draft, one for each symbol it defines. -/
def toRules (d : Draft) : List Rule := d.rules.entries.map fun e => ⟨e.1, e.2⟩

theorem entries_foldl_add {d : Draft} {es : List (String × List (List String))}
    (h : (d.rules.keys ++ es.map Prod.fst).Nodup) :
    ((es.map fun e => (⟨e.1, e.2⟩ : Rule)).foldl add d).rules.entries = d.rules.entries ++ es := by
  induction es generalizing d with
  | nil => simp
  | cons e es ih =>
      have hnew : e.1 ∉ d.rules.keys := fun hm =>
        (List.nodup_append.1 h).2.2 _ hm _ (by simp) rfl
      have hadd : (d.add ⟨e.1, e.2⟩).rules.entries = d.rules.entries ++ [e] :=
        Table.entries_update_of_not_mem hnew _
      have hkeys : (d.add ⟨e.1, e.2⟩).rules.keys = d.rules.keys ++ [e.1] := by
        rw [keys_add, if_neg hnew]
      rw [List.map_cons, List.foldl_cons, ih (by simpa [hkeys] using h), hadd]
      simp

/-- The rules of a draft make up the draft again. -/
theorem ofRules_toRules (d : Draft) : ofRules d.toRules = d := by
  have hentries : (ofRules d.toRules).rules.entries = d.rules.entries :=
    entries_foldl_add (d := ∅) d.rules.distinct
  exact congrArg mk (Table.ext hentries)

theorem Accepted.of_mem_toRules {d : Draft} (hd : d.Accepted) {r : Rule} (h : r ∈ d.toRules) :
    r.Accepted := by
  obtain ⟨e, he, rfl⟩ := List.mem_map.1 h
  exact hd e.1 e.2 ((Table.mem_entries_iff _).1 he)

theorem defines_of_startSymbol {d : Draft} {start : Option String} {name : String}
    (h : d.startSymbol start = .ok name) : d.defines name = true := by
  rw [startSymbol.eq_def] at h
  split at h
  · split at h
    · next hd =>
        cases h
        exact hd
    · cases h
  · split at h
    · next first rest hk =>
        cases h
        obtain ⟨alternatives, hr⟩ := d.rules.mem_keys_iff.1 (hk ▸ List.mem_cons_self)
        simp [defines, hr]
    · cases h

/-- A start symbol may as well be asked for by name. -/
theorem startSymbol_some {d : Draft} {start : Option String} {name : String}
    (h : d.startSymbol start = .ok name) : d.startSymbol (some name) = .ok name := by
  rw [startSymbol, if_pos (defines_of_startSymbol h)]

/-- A grammar is printed like the rules it was classified from. -/
theorem lines_eq {d : Draft} {start : Option String} {g : Grammar} (h : d.classify start = .ok g) :
    g.lines = d.toRules.map Rule.text := by
  have htexts : ∀ xs : List String, (xs.map d.classifySymbol).map Symbol.text = xs := by
    intro xs
    rw [List.map_map]
    exact List.map_id'' d.text_classifySymbol xs
  rw [Grammar.lines, (classify_eq_ok_iff.1 h).2, toRules, Table.mapValues, List.map_map, List.map_map]
  refine List.map_congr_left fun e _ => congrArg (fun xs => Rule.text ⟨e.1, xs⟩) ?_
  rw [List.map_map]
  exact List.map_id'' htexts e.2

end Draft

namespace Source

/-- Printed rules are added to a draft one after the other. -/
theorem collect_texts {name : String} {start : Option String} {n : Nat} {draft : Draft}
    {rules : List Rule} (h : ∀ r ∈ rules, r.Accepted) :
    (collect name ⟨Settings.defaultEndToken, start⟩ n (rules.map fun r => .ok r.text) draft).value =
      .ok (rules.foldl Draft.add draft) := by
  induction rules generalizing n draft with
  | nil => rfl
  | cons r rules ih =>
      rw [List.forall_mem_cons] at h
      rw [List.map_cons, List.foldl_cons, ← ih h.2]
      exact collect_rule (r.endsAt_text start) (Rule.isRuleLine_text h.1)
        (ruleAt_eq_ok_iff.2 (Rule.ofLine_text h.1))

theorem read_eq_ok_iff {s : Source} {settings : Settings} {g : Grammar} :
    (s.read settings).value = .ok g ↔
      ∃ d, (collect s.name settings 1 s.lines ∅).value = .ok d ∧
        d.classify settings.start = .ok g := by
  rw [read, Logged.value_bind]
  cases (collect s.name settings 1 s.lines ∅).value with
  | error failure => simp
  | ok d =>
      cases hc : d.classify settings.start with
      | error fault => simp [classify, hc]
      | ok g => simp [classify, hc]

/-- A grammar that was read is read again from its printed lines, with its start symbol asked for. -/
theorem read_lines (s : Source) (settings : Settings) (g : Grammar)
    (h : (s.read settings).value = .ok g) (name : String) :
    ((⟨name, g.lines.map .ok⟩ : Source).read
      ⟨Settings.defaultEndToken, some g.start⟩).value = .ok g := by
  obtain ⟨d, hd, hg⟩ := read_eq_ok_iff.1 h
  obtain ⟨hstart, hrules⟩ := Draft.classify_eq_ok_iff.1 hg
  have haccepted : d.Accepted := accepted_of_collect hd Draft.accepted_empty
  refine read_eq_ok_iff.2 ⟨d, ?_, Draft.classify_eq_ok_iff.2 ⟨Draft.startSymbol_some hstart, hrules⟩⟩
  rw [Draft.lines_eq hg, List.map_map]
  exact (collect_texts fun r hr => haccepted.of_mem_toRules hr).trans
    (congrArg Except.ok d.ofRules_toRules)

/-- Two rules on three lines, one in a second form, with a comment, an empty alternative, and an end
token in capitals. -/
def scattered : Source where
  name := "sums"
  lines := [.ok " R→ + T R |", .ok "; sums", .ok "E -> T  R", .ok "R -> ε|- T R", .ok "END", .ok "?"]

def scatteredGrammar : Grammar where
  start := "E"
  rules := ⟨[("R", [[.terminal "+", .terminal "T", .nonterminal "R"], [], [.empty],
      [.terminal "-", .terminal "T", .nonterminal "R"]]),
    ("E", [[.terminal "T", .nonterminal "R"]])], by decide⟩

theorem read_scattered :
    (scattered.read ⟨"end", some "E"⟩).value = .ok scatteredGrammar := by decide +kernel

theorem read_lines_scattered :
    (scattered.read ⟨"end", some "E"⟩).value = .ok scatteredGrammar ∧
    scatteredGrammar.lines = ["R -> + T R |  | ε | - T R", "E -> T R"] ∧
    ((⟨"printed", scatteredGrammar.lines.map .ok⟩ : Source).read ⟨"end", some "E"⟩).value =
      .ok scatteredGrammar :=
  ⟨read_scattered, by decide +kernel, read_lines _ _ _ read_scattered "printed"⟩

end Source
end GrammarSets
