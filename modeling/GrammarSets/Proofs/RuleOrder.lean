import GrammarSets.Proofs.Classification
import GrammarSets.Proofs.FollowForms

/-!
# The order of the rules does not matter

The walk and the sweeps go through the rules in their order, and on the way they hold different
sets for different orders. What they end in depends on the alternatives alone. Derivations and left
corners only grow when a grammar is given more alternatives (`Within`), so grammars with the same
alternatives have the same lookaheads; away from left recursion these are the FIRST sets. Which
families are closed depends on the alternatives and on the FIRST sets only, and FOLLOW sets are the
least closed family.
-/
namespace GrammarSets
open Relation

namespace Grammar

variable {g g' : Grammar} {name : String}

/-- Every alternative of a grammar is one of the other grammar too. -/
def Within (g g' : Grammar) : Prop :=
  ∀ name, ∀ alternative ∈ g.alternatives name, alternative ∈ g'.alternatives name

theorem Produces.mono (h : g.Within g') {u v : List Symbol} (hs : g.Produces u v) :
    g'.Produces u v := by
  cases hs with
  | replace before after ha => exact .replace before after (h _ _ ha)

theorem Derives.mono (h : g.Within g') {u v : List Symbol} (hd : g.Derives u v) :
    g'.Derives u v :=
  ReflTransGen.mono (fun _ _ hs => Produces.mono h hs) _ _ hd

theorem FirstOf.mono (h : g.Within g') {form : List Symbol} {a : Lookahead}
    (ha : g.FirstOf form a) : g'.FirstOf form a := by
  obtain ⟨form', hd, ho⟩ := ha
  exact ⟨form', hd.mono h, ho⟩

theorem LeftCorner.mono (h : g.Within g') {other : String} (hc : g.LeftCorner name other) :
    g'.LeftCorner name other := by
  obtain ⟨before, after, hm, hb⟩ := hc
  refine ⟨before, after, h _ _ hm, fun x hx => ?_⟩
  exact nullable_iff.2 ((nullable_iff.1 (hb x hx)).mono h)

theorem LeftRecursive.mono (h : g.Within g') (hr : g.LeftRecursive name) : g'.LeftRecursive name :=
  TransGen.mono (fun _ _ hc => LeftCorner.mono h hc) _ _ hr

/-- Two grammars have the same rules, though they may have them in another order. -/
structure SameRules (g g' : Grammar) : Prop where
  nonterminals : ∀ name, name ∈ g.nonterminals ↔ name ∈ g'.nonterminals
  alternatives : ∀ name, (g.alternatives name).Perm (g'.alternatives name)

theorem SameRules.symm (h : g.SameRules g') : g'.SameRules g :=
  ⟨fun name => (h.nonterminals name).symm, fun name => (h.alternatives name).symm⟩

theorem SameRules.within (h : g.SameRules g') : g.Within g' :=
  fun name _ hm => (h.alternatives name).subset hm

theorem SameRules.selfContained (h : g.SameRules g') (hg : g.SelfContained) : g'.SelfContained :=
  fun lhs alternative hm name hn =>
    (h.nonterminals name).1 (hg lhs alternative (h.symm.within lhs alternative hm) name hn)

theorem SameRules.mem_vocabulary (h : g.SameRules g') {x : Symbol} (hx : x ∈ g.vocabulary) :
    x ∈ g'.vocabulary := by
  cases x with
  | terminal name =>
      rw [terminal_mem_vocabulary, mem_terminals, mem_symbols] at hx ⊢
      obtain ⟨lhs, alternative, hm, hx⟩ := hx
      exact ⟨lhs, alternative, h.within _ _ hm, hx⟩
  | nonterminal name =>
      rw [nonterminal_mem_vocabulary] at hx ⊢
      exact (h.nonterminals name).1 hx
  | empty => exact empty_mem_vocabulary

/-- Without left recursion, the same rules give a symbol the same FIRST set, or none at all. -/
theorem SameRules.firstSets_eq (h : g.SameRules g') (hg : g.SelfContained)
    (hrec : ∀ name, ¬ g.LeftRecursive name) (x : Symbol) :
    g.firstSets.value.get? x = g'.firstSets.value.get? x := by
  have hrec' : ∀ name, ¬ g'.LeftRecursive name := fun name hr => hrec name (hr.mono h.symm.within)
  by_cases hx : x ∈ g.vocabulary
  · obtain ⟨set, hs⟩ := exists_firstSet hx
    obtain ⟨set', hs'⟩ := exists_firstSet (h.mem_vocabulary hx)
    have hmem : ∀ a, a ∈ set ↔ g.FirstOf [x] a := fun a =>
      mem_firstSet_iff hs fun name _ => .of_forall hrec name
    have hmem' : ∀ a, a ∈ set' ↔ g'.FirstOf [x] a := fun a =>
      mem_firstSet_iff hs' fun name _ => .of_forall hrec' name
    have hsets : set = set' := by
      apply OrderedSet.ext
      intro a
      rw [hmem, hmem']
      exact ⟨.mono h.within, .mono h.symm.within⟩
    rw [hs, hs', hsets]
  · have hx' : x ∉ g'.vocabulary := fun hx' => hx (h.symm.mem_vocabulary hx')
    have hnone : ∀ set, g.firstSets.value.get? x ≠ some set := fun set hs =>
      hx (hg.mem_vocabulary_of_firstSet hs)
    have hnone' : ∀ set, g'.firstSets.value.get? x ≠ some set := fun set hs =>
      hx' ((h.selfContained hg).mem_vocabulary_of_firstSet hs)
    rw [Option.eq_none_iff_forall_ne_some.2 hnone, Option.eq_none_iff_forall_ne_some.2 hnone']

end Grammar

theorem FirstSets.ofSequence_congr {first first' : FirstSets} {xs : List Symbol}
    (h : ∀ x ∈ xs, first.get? x = first'.get? x) : first.ofSequence xs = first'.ofSequence xs := by
  induction xs with
  | nil => rfl
  | cons x xs ih =>
      rw [List.forall_mem_cons] at h
      simp only [ofSequence, h.1, ih h.2]

theorem FollowSets.get?_congr {follow follow' : FollowSets} {name : String}
    (hk : name ∈ follow.keys ↔ name ∈ follow'.keys) (ho : follow.of name = follow'.of name) :
    follow.get? name = follow'.get? name := by
  by_cases h : name ∈ follow.keys
  · obtain ⟨set, hs⟩ := (Table.mem_keys_iff _).1 h
    obtain ⟨set', hs'⟩ := (Table.mem_keys_iff _).1 (hk.1 h)
    have hsets : set = set' := by simpa [of, hs, hs'] using ho
    rw [hs, hs', hsets]
  · rw [(Table.get?_eq_none_iff _).2 h, (Table.get?_eq_none_iff _).2 fun h' => h (hk.2 h')]

namespace Follow
open Grammar

variable {g g' : Grammar} {first first' : FirstSets} {follow follow' : FollowSets}

theorem Closed.mono (h : g.Within g')
    (hf : ∀ x ∈ g.symbols, first.ofSequence [x] = first'.ofSequence [x])
    {family : String → Lookahead → Prop} (hc : Closed g' first' family) :
    Closed g first family := by
  have hnext : ∀ {lhs before name x after},
      before ++ .nonterminal name :: x :: after ∈ g.alternatives lhs → x ∈ g.symbols :=
    fun hm => mem_symbols.2 ⟨_, _, hm, by simp⟩
  refine ⟨?_, ?_, ?_⟩
  · intro lhs before name x after hm a ha hne
    exact hc.next (h _ _ hm) a (hf x (hnext hm) ▸ ha) hne
  · intro lhs before name x after hm he a ha
    exact hc.vanish (h _ _ hm) (hf x (hnext hm) ▸ he) a ha
  · intro lhs before name hm a ha
    exact hc.last (h _ _ hm) a ha

/-- There is one least closed family, for the same alternatives and the same FIRST sets. -/
theorem Least.of_eq (h : g.Within g') (h' : g'.Within g)
    (hf : ∀ xs, first.ofSequence xs = first'.ofSequence xs)
    {members : String → Lookahead → Prop} (hl : Least g first members follow)
    (hl' : Least g' first' members follow') (name : String) : follow.of name = follow'.of name := by
  have hclosed : Closed g' first' follow.family := hl.closed.mono h' fun x _ => (hf [x]).symm
  have hclosed' : Closed g first follow'.family := hl'.closed.mono h fun x _ => hf [x]
  refine OrderedSet.ext fun a => ⟨?_, ?_⟩
  · exact hl.least _ hclosed' hl'.contains name a
  · exact hl'.least _ hclosed hl.contains name a

end Follow

namespace Grammar

variable {g g' : Grammar} {first first' : FirstSets}

/-- The same rules and the same FIRST sets give a nonterminal the same FOLLOW set, even with left
recursion. -/
theorem SameRules.followSets_eq (h : g.SameRules g') (hg : g.SelfContained)
    (hf : ∀ x, first.get? x = first'.get? x) {start : String} (hs : start ∈ g.nonterminals)
    (name : String) :
    (g.followSets first start).value.get? name = (g'.followSets first' start).value.get? name := by
  apply FollowSets.get?_congr
  · rw [Follow.mem_keys_followSets hg hs,
      Follow.mem_keys_followSets (h.selfContained hg) ((h.nonterminals start).1 hs)]
    exact h.nonterminals name
  · exact Follow.Least.of_eq h.within h.symm.within
      (fun _ => FirstSets.ofSequence_congr fun x _ => hf x)
      (Follow.least_followSets g first start) (Follow.least_followSets g' first' start) name

theorem sameRules_of_classify {rules rules' : List Rule} {start start' : Option String}
    (hdefined : ∀ name, name ∈ Rule.defined rules ↔ name ∈ Rule.defined rules')
    (hwritten : ∀ name, (Rule.written rules name).Perm (Rule.written rules' name))
    (hg : (Draft.ofRules rules).classify start = .ok g)
    (hg' : (Draft.ofRules rules').classify start' = .ok g') : g.SameRules g' := by
  have hkind : Rule.kind rules = Rule.kind rules' := by
    funext text
    have hlhs : text ∈ rules.map Rule.lhs ↔ text ∈ rules'.map Rule.lhs :=
      List.mem_eraseDups.symm.trans ((hdefined text).trans List.mem_eraseDups)
    simp only [Rule.kind, hlhs]
  constructor
  · intro name
    rw [nonterminals_of_classify hg, nonterminals_of_classify hg']
    exact hdefined name
  · intro name
    rw [alternatives_of_classify hg, alternatives_of_classify hg', hkind]
    exact (hwritten name).map _

/-- Rules that give each symbol the same alternatives, in any order and in any pieces, give the
same FIRST sets and FOLLOW sets, unless there is left recursion. -/
theorem analyze_reordered (rules rules' : List Rule) (start : String)
    (hdefined : ∀ name, name ∈ Rule.defined rules ↔ name ∈ Rule.defined rules')
    (hwritten : ∀ name, (Rule.written rules name).Perm (Rule.written rules' name))
    (hstart : start ∈ Rule.defined rules) :
    ∃ g g', (Draft.ofRules rules).classify (some start) = .ok g ∧
      (Draft.ofRules rules').classify (some start) = .ok g' ∧
      ((∀ name, ¬ g.LeftRecursive name) →
        (∀ x, g.analyze.value.first.get? x = g'.analyze.value.first.get? x) ∧
        ∀ name, g.analyze.value.follow.get? name = g'.analyze.value.follow.get? name) := by
  obtain ⟨g, hg, hgs⟩ := Draft.exists_classify_some hstart
  obtain ⟨g', hg', hgs'⟩ := Draft.exists_classify_some ((hdefined start).1 hstart)
  refine ⟨g, g', hg, hg', fun hrec => ?_⟩
  have hsame : g.SameRules g' := sameRules_of_classify hdefined hwritten hg hg'
  have hclosed : g.SelfContained := selfContained_of_classify hg
  have hfirst : ∀ x, g.firstSets.value.get? x = g'.firstSets.value.get? x :=
    hsame.firstSets_eq hclosed hrec
  have hrule : start ∈ g.nonterminals := by rwa [nonterminals_of_classify hg]
  refine ⟨hfirst, fun name => ?_⟩
  change (g.followSets g.firstSets.value g.start).value.get? name =
    (g'.followSets g'.firstSets.value g'.start).value.get? name
  rw [hgs, hgs']
  exact hsame.followSets_eq hclosed hfirst hrule name

/-- The rules of `sums`. -/
def sumRules : List Rule :=
  [⟨"E", [["T", "R"]]⟩, ⟨"R", [["+", "T", "R"], ["ε"]]⟩, ⟨"T", [["id"]]⟩]

/-- The same in another order, those of `R` in two pieces and with a rule for `T` that says
nothing. -/
def shuffledSumRules : List Rule :=
  [⟨"T", []⟩, ⟨"R", [["ε"]]⟩, ⟨"E", [["T", "R"]]⟩, ⟨"T", [["id"]]⟩, ⟨"R", [["+", "T", "R"]]⟩]

theorem mem_defined_sumRules (name : String) :
    name ∈ Rule.defined sumRules ↔ name ∈ Rule.defined shuffledSumRules := by
  have hdefined : Rule.defined sumRules = ["E", "R", "T"] := by decide +kernel
  have hshuffled : Rule.defined shuffledSumRules = ["T", "R", "E"] := by decide +kernel
  have hperm : ["E", "R", "T"].Perm ["T", "R", "E"] := by decide
  rw [hdefined, hshuffled, hperm.mem_iff]

theorem written_sumRules (name : String) :
    (Rule.written sumRules name).Perm (Rule.written shuffledSumRules name) := by
  by_cases h : name ∈ Rule.defined sumRules
  · have hall : ∀ name ∈ Rule.defined sumRules,
        (Rule.written sumRules name).Perm (Rule.written shuffledSumRules name) := by decide +kernel
    exact hall name h
  · rw [Rule.written_eq_nil h, Rule.written_eq_nil fun h' => h ((mem_defined_sumRules name).2 h')]

theorem analyze_reordered_sums :
    ∃ g', (Draft.ofRules shuffledSumRules).classify (some "E") = .ok g' ∧
      g'.nonterminals = ["T", "R", "E"] ∧
      (∀ x, sums.analyze.value.first.get? x = g'.analyze.value.first.get? x) ∧
      ∀ name, sums.analyze.value.follow.get? name = g'.analyze.value.follow.get? name := by
  have hsums : (Draft.ofRules sumRules).classify (some "E") = .ok sums := by decide +kernel
  have hshuffled : Rule.defined shuffledSumRules = ["T", "R", "E"] := by decide +kernel
  obtain ⟨g, g', hg, hg', hsame⟩ := analyze_reordered sumRules shuffledSumRules "E"
    mem_defined_sumRules written_sumRules (by decide +kernel)
  cases hsums.symm.trans hg
  exact ⟨g', hg', (nonterminals_of_classify hg').trans hshuffled, hsame not_leftRecursive_sums⟩

end Grammar
end GrammarSets
