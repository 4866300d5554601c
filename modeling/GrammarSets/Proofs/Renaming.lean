import Mathlib.Data.List.Nodup
import GrammarSets.Grammar

/-!
# Other names for symbols

A renaming gives different names to different symbols and leaves the empty mark as it is; any other
name may become any other, also one that is written like a mark. It acts on all that names stand in:
symbols, lookaheads and their sets, rules, drafts, grammars and faults. Rules may be renamed before
they are classified or after it, with the same outcome (`classify_draft`), since classifying asks of
a name only whether it is the empty mark and whether some rule defines it. Sets list their members
by name, so the order of a set may change; the order of nonterminals and of alternatives does not.
-/
namespace GrammarSets

namespace OrderedSet

variable {α β : Type} [Ord α] [Ord β] [Std.LawfulEqOrd β] [Std.TransOrd β]
variable {s t : OrderedSet α} {f : α → β}

/-- The values that a function has on a set. -/
def image (s : OrderedSet α) (f : α → β) : OrderedSet β := ofList (s.toList.map f)

@[simp] theorem mem_image {b : β} : b ∈ s.image f ↔ ∃ a ∈ s, f a = b := by
  simp [image, mem_toList]

theorem mem_image_of_injective (hf : Function.Injective f) {a : α} : f a ∈ s.image f ↔ a ∈ s := by
  simp [hf.eq_iff]

theorem image_empty : (∅ : OrderedSet α).image f = ∅ := ext fun b => by simp

theorem image_singleton {a : α} : ({a} : OrderedSet α).image f = {f a} :=
  ext fun b => by simp [eq_comm]

theorem image_erase [DecidableEq α] [DecidableEq β] (hf : Function.Injective f) {a : α} :
    (s.erase a).image f = (s.image f).erase (f a) := by
  refine ext fun b => ?_
  simp only [mem_image, mem_erase]
  constructor
  · rintro ⟨c, ⟨hc, hne⟩, rfl⟩
    exact ⟨⟨c, hc, rfl⟩, hf.ne hne⟩
  · rintro ⟨⟨c, hc, rfl⟩, hne⟩
    exact ⟨c, ⟨hc, fun he => hne (congrArg f he)⟩, rfl⟩

variable [Std.LawfulEqOrd α] [Std.TransOrd α]

theorem image_union : (s ∪ t).image f = s.image f ∪ t.image f := by
  refine ext fun b => ?_
  simp only [mem_image, mem_union, or_and_right, exists_or]

theorem image_insert {a : α} : (s.insert a).image f = (s.image f).insert (f a) := by
  rw [insert, insert, image_union, image_singleton]

theorem image_injective (hf : Function.Injective f) :
    Function.Injective fun s : OrderedSet α => s.image f := by
  intro s t h
  refine ext fun a => ?_
  rw [← mem_image_of_injective hf, ← mem_image_of_injective hf (s := t)]
  exact iff_of_eq (congrArg (f a ∈ ·) h)

end OrderedSet

namespace Table

variable {κ κ' β γ : Type} {f : κ → κ'}

/-- The same values for other keys. -/
def mapKeys (t : Table κ β) (f : κ → κ') (hf : Function.Injective f) : Table κ' β where
  entries := t.entries.map fun e => (f e.1, e.2)
  distinct := by
    have hkeys : (t.entries.map fun e => (f e.1, e.2)).map Prod.fst =
        (t.entries.map Prod.fst).map f := by simp
    rw [hkeys]
    exact t.distinct.map hf

variable {hf : Function.Injective f}

@[simp] theorem keys_mapKeys (t : Table κ β) : (t.mapKeys f hf).keys = t.keys.map f := by
  simp [keys, mapKeys]

variable [DecidableEq κ] [DecidableEq κ']

@[simp] theorem get?_mapKeys (t : Table κ β) (k : κ) : (t.mapKeys f hf).get? (f k) = t.get? k := by
  have hfind : ∀ es : List (κ × β), find (f k) (es.map fun e => (f e.1, e.2)) = find k es := by
    intro es
    induction es with
    | nil => rfl
    | cons e es ih => simp only [List.map_cons, find, ih, hf.eq_iff]
  exact hfind t.entries

theorem mapKeys_update (t : Table κ β) (k : κ) (g : Option β → β) :
    (t.update k g).mapKeys f hf = (t.mapKeys f hf).update (f k) g := by
  have hchange : ∀ es : List (κ × β), (change k g es).map (fun e => (f e.1, e.2)) =
      change (f k) g (es.map fun e => (f e.1, e.2)) := by
    intro es
    induction es with
    | nil => rfl
    | cons e es ih =>
        by_cases he : e.1 = k
        · simp [change, he]
        · simp [change, he, hf.eq_iff, ih]
  exact ext (hchange t.entries)

theorem mapValues_update (t : Table κ β) (k : κ) {g : Option β → β} {g' : Option γ → γ}
    {v : β → γ} (h : ∀ old, v (g old) = g' (old.map v)) :
    (t.update k g).mapValues v = (t.mapValues v).update k g' := by
  have hchange : ∀ es : List (κ × β), (change k g es).map (fun e => (e.1, v e.2)) =
      change k g' (es.map fun e => (e.1, v e.2)) := by
    intro es
    induction es with
    | nil => simp [change, h]
    | cons e es ih =>
        by_cases he : e.1 = k
        · simp [change, he, h]
        · simp [change, he, ih]
  exact ext (hchange t.entries)

end Table

/-- Other names for symbols. The empty mark keeps its own. -/
structure Renaming where
  name : String → String
  injective : Function.Injective name
  emptyMark : name Symbol.emptyMark = Symbol.emptyMark

instance : CoeFun Renaming fun _ => String → String := ⟨Renaming.name⟩

namespace Renaming

variable (r : Renaming)

theorem eq_emptyMark_iff {name : String} : r name = Symbol.emptyMark ↔ name = Symbol.emptyMark := by
  constructor
  · exact fun h => r.injective (h.trans r.emptyMark.symm)
  · rintro rfl
    exact r.emptyMark

def symbol : Symbol → Symbol
  | .terminal name => .terminal (r name)
  | .nonterminal name => .nonterminal (r name)
  | .empty => .empty

/-- The marks are no names. -/
def lookahead : Lookahead → Lookahead
  | .terminal name => .terminal (r name)
  | .empty => .empty
  | .endOfInput => .endOfInput

def set (s : LookaheadSet) : LookaheadSet := s.image r.lookahead

def alternatives (alternatives : List (List Symbol)) : List (List Symbol) :=
  alternatives.map (List.map r.symbol)

def rule (rule : Rule) : Rule := ⟨r rule.lhs, rule.alternatives.map (List.map r)⟩

def draft (d : Draft) : Draft :=
  ⟨(d.rules.mapValues (List.map (List.map r))).mapKeys r r.injective⟩

def grammar (g : Grammar) : Grammar :=
  ⟨r g.start, (g.rules.mapValues r.alternatives).mapKeys r r.injective⟩

def fault : GrammarFault → GrammarFault
  | .noRules => .noRules
  | .undefinedStart name => .undefinedStart (r name)

theorem symbol_injective : Function.Injective r.symbol := by
  rintro (x | x | _) (y | y | _) h <;> simp_all [symbol, r.injective.eq_iff]

theorem lookahead_injective : Function.Injective r.lookahead := by
  rintro (x | _ | _) (y | _ | _) h <;> simp_all [lookahead, r.injective.eq_iff]

theorem set_injective : Function.Injective r.set :=
  OrderedSet.image_injective r.lookahead_injective

theorem mem_set {s : LookaheadSet} {a : Lookahead} : r.lookahead a ∈ r.set s ↔ a ∈ s :=
  OrderedSet.mem_image_of_injective r.lookahead_injective

theorem empty_mem_set {s : LookaheadSet} : .empty ∈ r.set s ↔ .empty ∈ s := r.mem_set (a := .empty)

theorem set_empty : r.set ∅ = ∅ := OrderedSet.image_empty

theorem set_singleton (a : Lookahead) : r.set {a} = {r.lookahead a} := OrderedSet.image_singleton

theorem set_union (s t : LookaheadSet) : r.set (s ∪ t) = r.set s ∪ r.set t := OrderedSet.image_union

theorem set_insert_empty (s : LookaheadSet) : r.set (s.insert .empty) = (r.set s).insert .empty :=
  OrderedSet.image_insert

theorem set_erase_empty (s : LookaheadSet) : r.set (s.erase .empty) = (r.set s).erase .empty :=
  OrderedSet.image_erase r.lookahead_injective

/-- All names stay what they are. -/
def identity : Renaming := ⟨fun name => name, fun _ _ h => h, rfl⟩

theorem symbol_identity (x : Symbol) : identity.symbol x = x := by
  cases x <;> rfl

theorem set_identity (s : LookaheadSet) : identity.set s = s := by
  have hlookahead : ∀ a, identity.lookahead a = a := by
    intro a
    cases a <;> rfl
  exact OrderedSet.ext fun a => by simp [set, hlookahead]

theorem alternatives_identity (xs : List (List Symbol)) : identity.alternatives xs = xs := by
  have hmap : List.map identity.symbol = id := by
    funext form
    exact List.map_id'' symbol_identity form
  rw [alternatives, hmap, List.map_id]

section Classification

theorem draft_add (d : Draft) (rule : Rule) : r.draft (d.add rule) = (r.draft d).add (r.rule rule) := by
  have hvalues : (d.add rule).rules.mapValues (List.map (List.map r)) =
      (d.rules.mapValues (List.map (List.map r))).update rule.lhs fun old =>
        old.getD [] ++ (r.rule rule).alternatives :=
    Table.mapValues_update d.rules rule.lhs fun old => by cases old <;> simp [Renaming.rule]
  rw [draft, hvalues, Table.mapKeys_update]
  rfl

/-- Renamed rules make up the renamed draft. -/
theorem ofRules_rule (rules : List Rule) :
    Draft.ofRules (rules.map r.rule) = r.draft (Draft.ofRules rules) := by
  have hfold : ∀ (rules : List Rule) (d : Draft),
      (rules.map r.rule).foldl Draft.add (r.draft d) = r.draft (rules.foldl Draft.add d) := by
    intro rules
    induction rules with
    | nil => exact fun d => rfl
    | cons rule rules ih =>
        intro d
        rw [List.map_cons, List.foldl_cons, List.foldl_cons, ← draft_add, ih]
  exact hfold rules ∅

variable (d : Draft)

theorem defines_draft (name : String) : (r.draft d).defines (r name) = d.defines name := by
  simp [Draft.defines, draft]

theorem classifySymbol_draft (text : String) :
    (r.draft d).classifySymbol (r text) = r.symbol (d.classifySymbol text) := by
  simp only [Draft.classifySymbol, r.eq_emptyMark_iff, defines_draft]
  split
  · rfl
  · split <;> rfl

theorem startSymbol_draft (start : Option String) :
    (r.draft d).startSymbol (start.map r) = ((d.startSymbol start).map r).mapError r.fault := by
  cases start with
  | some name =>
      simp only [Option.map_some, Draft.startSymbol, defines_draft]
      split <;> rfl
  | none =>
      have hkeys : (r.draft d).rules.keys = d.rules.keys.map r := by simp [draft]
      simp only [Option.map_none, Draft.startSymbol, hkeys]
      cases d.rules.keys <;> rfl

/-- It makes no difference whether rules are renamed before they are classified or after it. -/
theorem classify_draft (start : Option String) :
    (r.draft d).classify (start.map r) = ((d.classify start).map r.grammar).mapError r.fault := by
  have hrules : ∀ kind : String → Symbol, (∀ text, kind (r text) = r.symbol (d.classifySymbol text)) →
      (r.draft d).rules.mapValues (List.map (List.map kind)) =
        ((d.rules.mapValues (List.map (List.map d.classifySymbol))).mapValues
          r.alternatives).mapKeys r r.injective := by
    intro kind hkind
    apply Table.ext
    simp [draft, Table.mapValues, Table.mapKeys, alternatives, hkind]
  simp only [Draft.classify, startSymbol_draft, hrules _ (r.classifySymbol_draft d)]
  cases d.startSymbol start <;> rfl

end Classification

end Renaming
end GrammarSets
