import Mathlib.Logic.Function.Basic
import GrammarSets.Proofs.Classification
import GrammarSets.Proofs.FirstWalk

/-!
# The walk as changes to two tables

`First.visit` hands what is being read to the visits inside it and gets what is settled back from
them. The same walk can be told as a sequence of changes to two tables, one of what has been found for
the nonterminals being read and one of what is settled. `Performs` says which changes a visit
makes, rule by rule and without the function: nothing in it bounds a visit, so that a visit has a
course at all says that it ends (`exists_performs`), and there is only one (`Performs.unique`).
-/
namespace GrammarSets.First

/-- What has been found for each nonterminal being read, and what is settled. -/
structure Tables where
  reading : String → Option LookaheadSet
  settled : FirstSets

/-- A change of the tables, or a warning. -/
inductive Event where
  /-- The alternatives of a nonterminal are going to be read. -/
  | opened (name : String)
  /-- Members are found for a nonterminal being read. -/
  | found (name : String) (members : LookaheadSet)
  /-- A nonterminal is met while it is being read. -/
  | met (name : String)
  /-- The alternatives of a nonterminal have been read. -/
  | closed (name : String)
  /-- The set of a symbol is fixed. -/
  | settled (x : Symbol) (set : LookaheadSet)
deriving DecidableEq

/-- What an event leaves in the account of the walk. -/
def Event.record? : Event → Option Record
  | .met name => some (.reentered name)
  | .settled x set => some (.firstSettled x set)
  | _ => none

/-- The entry that an event adds to the settled sets. -/
def Event.entry? : Event → Option (Symbol × LookaheadSet)
  | .settled x set => some (x, set)
  | _ => none

namespace Tables

instance : EmptyCollection Tables := ⟨⟨fun _ => none, ∅⟩⟩

/-- The tables after an event. -/
def apply (t : Tables) : Event → Tables
  | .opened name => { t with reading := Function.update t.reading name (some ∅) }
  | .found name members =>
      { t with reading := Function.update t.reading name ((t.reading name).map (· ∪ members)) }
  | .met _ => t
  | .closed name => { t with reading := Function.update t.reading name none }
  | .settled x set => { t with settled := t.settled.insert x set }

section
variable (t : Tables) (name : String)

@[simp] theorem reading_opened : (t.apply (.opened name)).reading =
    Function.update t.reading name (some ∅) := rfl

@[simp] theorem reading_found (members : LookaheadSet) : (t.apply (.found name members)).reading =
    Function.update t.reading name ((t.reading name).map (· ∪ members)) := rfl

@[simp] theorem reading_closed : (t.apply (.closed name)).reading =
    Function.update t.reading name none := rfl

@[simp] theorem reading_settled (x : Symbol) (set : LookaheadSet) :
    (t.apply (.settled x set)).reading = t.reading := rfl

@[simp] theorem settled_settled (x : Symbol) (set : LookaheadSet) :
    (t.apply (.settled x set)).settled = t.settled.insert x set := rfl

end

/-- The tables after a sequence of events. -/
def run (t : Tables) (es : List Event) : Tables := es.foldl apply t

@[simp] theorem run_nil (t : Tables) : t.run [] = t := rfl

@[simp] theorem run_cons (t : Tables) (e : Event) (es : List Event) :
    t.run (e :: es) = (t.apply e).run es := rfl

@[simp] theorem run_append (t : Tables) (es es' : List Event) :
    t.run (es ++ es') = (t.run es).run es' := List.foldl_append

end Tables

/-- What the walk does at a time: visit a symbol, or read alternatives of a nonterminal. -/
inductive Task where
  | visit (x : Symbol)
  | read (name : String) (alternatives : List (List Symbol))

/-- A task makes certain changes to the tables, one after the other, and gives a set. A visit gives
the set of its symbol, and reading gives what has been found when all has been read. -/
inductive Performs (g : Grammar) : Task → Tables → List Event → LookaheadSet → Prop
  | known {t : Tables} {x : Symbol} {set : LookaheadSet} : t.settled.get? x = some set →
      Performs g (.visit x) t [] set
  | terminal {t : Tables} {name : String} : t.settled.get? (.terminal name) = none →
      Performs g (.visit (.terminal name)) t [.settled (.terminal name) {.terminal name}]
        {.terminal name}
  | empty {t : Tables} : t.settled.get? .empty = none →
      Performs g (.visit .empty) t [.settled .empty {.empty}] {.empty}
  | met {t : Tables} {name : String} {found : LookaheadSet} :
      t.settled.get? (.nonterminal name) = none → t.reading name = some found →
      Performs g (.visit (.nonterminal name)) t [.met name] found
  | nonterminal {t : Tables} {name : String} {es : List Event} {set : LookaheadSet} :
      t.settled.get? (.nonterminal name) = none → t.reading name = none →
      Performs g (.read name (g.alternatives name)) (t.apply (.opened name)) es set →
      Performs g (.visit (.nonterminal name)) t
        (.opened name :: es ++ [.closed name, .settled (.nonterminal name) set]) set
  | done {t : Tables} {name : String} : Performs g (.read name []) t [] ((t.reading name).getD ∅)
  | vanish {t : Tables} {name : String} {rest : List (List Symbol)} {es : List Event}
      {set : LookaheadSet} :
      Performs g (.read name rest) (t.apply (.found name {.empty})) es set →
      Performs g (.read name ([] :: rest)) t (.found name {.empty} :: es) set
  | pass {t : Tables} {name : String} {x : Symbol} {xs : List Symbol} {rest : List (List Symbol)}
      {es more : List Event} {first set : LookaheadSet} : Performs g (.visit x) t es first →
      .empty ∈ first →
      Performs g (.read name (xs :: rest)) ((t.run es).apply (.found name (first.erase .empty)))
        more set →
      Performs g (.read name ((x :: xs) :: rest)) t
        (es ++ .found name (first.erase .empty) :: more) set
  | stop {t : Tables} {name : String} {x : Symbol} {xs : List Symbol} {rest : List (List Symbol)}
      {es more : List Event} {first set : LookaheadSet} : Performs g (.visit x) t es first →
      .empty ∉ first →
      Performs g (.read name rest) ((t.run es).apply (.found name (first.erase .empty))) more set →
      Performs g (.read name ((x :: xs) :: rest)) t
        (es ++ .found name (first.erase .empty) :: more) set

/-- Visiting symbols one after the other makes certain changes to the tables. -/
inductive Walks (g : Grammar) : List Symbol → Tables → List Event → Prop
  | nil {t : Tables} : Walks g [] t []
  | cons {t : Tables} {x : Symbol} {symbols : List Symbol} {es more : List Event}
      {set : LookaheadSet} : Performs g (.visit x) t es set → Walks g symbols (t.run es) more →
      Walks g (x :: symbols) t (es ++ more)

variable {g : Grammar} {k : Task} {t : Tables} {e : Event} {es : List Event} {set : LookaheadSet}
  {name : String}

/-! ### One course -/

/-- There is one course at most. -/
theorem Performs.unique (h : Performs g k t es set) {es' : List Event} {set' : LookaheadSet}
    (h' : Performs g k t es' set') : es = es' ∧ set = set' := by
  induction h generalizing es' set' with
  | known hs =>
      cases h' with
      | known hs' =>
          cases hs.symm.trans hs'
          exact ⟨rfl, rfl⟩
      | terminal hn => cases hs.symm.trans hn
      | empty hn => cases hs.symm.trans hn
      | met hn => cases hs.symm.trans hn
      | nonterminal hn => cases hs.symm.trans hn
  | terminal hn =>
      cases h' with
      | known hs => cases hn.symm.trans hs
      | terminal => exact ⟨rfl, rfl⟩
  | empty hn =>
      cases h' with
      | known hs => cases hn.symm.trans hs
      | empty => exact ⟨rfl, rfl⟩
  | met hn hr =>
      cases h' with
      | known hs => cases hn.symm.trans hs
      | met _ hr' =>
          cases hr.symm.trans hr'
          exact ⟨rfl, rfl⟩
      | nonterminal _ hr' => cases hr.symm.trans hr'
  | nonterminal hn hr _ ih =>
      cases h' with
      | known hs => cases hn.symm.trans hs
      | met _ hr' => cases hr.symm.trans hr'
      | nonterminal _ _ hread =>
          obtain ⟨rfl, rfl⟩ := ih hread
          exact ⟨rfl, rfl⟩
  | done =>
      cases h'
      exact ⟨rfl, rfl⟩
  | vanish _ ih =>
      cases h' with
      | vanish hrest =>
          obtain ⟨rfl, rfl⟩ := ih hrest
          exact ⟨rfl, rfl⟩
  | pass _ he _ ihx ih =>
      cases h' with
      | pass hx _ hrest =>
          obtain ⟨rfl, rfl⟩ := ihx hx
          obtain ⟨rfl, rfl⟩ := ih hrest
          exact ⟨rfl, rfl⟩
      | stop hx hne =>
          obtain ⟨_, rfl⟩ := ihx hx
          exact absurd he hne
  | stop _ hne _ ihx ih =>
      cases h' with
      | pass hx he =>
          obtain ⟨_, rfl⟩ := ihx hx
          exact absurd he hne
      | stop hx _ hrest =>
          obtain ⟨rfl, rfl⟩ := ihx hx
          obtain ⟨rfl, rfl⟩ := ih hrest
          exact ⟨rfl, rfl⟩

theorem Walks.unique {symbols : List Symbol} (h : Walks g symbols t es) {es' : List Event}
    (h' : Walks g symbols t es') : es = es' := by
  induction h generalizing es' with
  | nil =>
      cases h'
      rfl
  | cons hx _ ih =>
      cases h' with
      | cons hx' hrest =>
          obtain ⟨rfl, rfl⟩ := hx.unique hx'
          rw [ih hrest]

/-- The tables at a moment of the walk. -/
def tables (pending : Pending) (w : Walk) : Tables := ⟨fun name => pending.lookup name, w.settled⟩

theorem reading_tables_cons (pending : Pending) (name : String) (found : LookaheadSet) (w : Walk) :
    (tables ((name, found) :: pending) w).reading =
      Function.update (tables pending w).reading name (some found) := by
  funext other
  change ((name, found) :: pending).lookup other = _
  rw [Function.update_apply, List.lookup_cons]
  by_cases h : other = name
  · rw [if_pos h, h, beq_self_eq_true]
  · rw [if_neg h, beq_false_of_ne h]
    rfl

theorem apply_opened (pending : Pending) (name : String) (w : Walk) :
    (tables pending w).apply (.opened name) = tables ((name, ∅) :: pending) w := by
  rw [Tables.apply, ← reading_tables_cons]
  rfl

theorem apply_found (pending : Pending) (name : String) (found members : LookaheadSet) (w : Walk) :
    (tables ((name, found) :: pending) w).apply (.found name members) =
      tables ((name, found ∪ members) :: pending) w := by
  rw [Tables.apply, reading_tables_cons, Function.update_self, Function.update_idem, Option.map_some,
    ← reading_tables_cons]
  rfl

theorem apply_closed {pending : Pending} {w : Walk} (h : pending.lookup name = none)
    (found : LookaheadSet) :
    (tables ((name, found) :: pending) w).apply (.closed name) = tables pending w := by
  rw [Tables.apply, reading_tables_cons, Function.update_idem,
    Function.update_eq_self_iff.2 h.symm]
  rfl

/-- A course leads from one moment of the walk to another, and its records are those left between
them. -/
structure Leads (pending : Pending) (w : Walk) (es : List Event) (pending' : Pending) (w' : Walk) :
    Prop where
  tables_eq : (tables pending w).run es = tables pending' w'
  records_eq : w'.records = w.records ++ es.filterMap Event.record?

theorem Leads.refl (pending : Pending) (w : Walk) : Leads pending w [] pending w where
  tables_eq := rfl
  records_eq := (List.append_nil _).symm

theorem Leads.trans {pending pending' pending'' : Pending} {w w' w'' : Walk} {more : List Event}
    (h : Leads pending w es pending' w') (h' : Leads pending' w' more pending'' w'') :
    Leads pending w (es ++ more) pending'' w'' where
  tables_eq := by rw [Tables.run_append, h.tables_eq, h'.tables_eq]
  records_eq := by rw [h'.records_eq, h.records_eq, List.filterMap_append, List.append_assoc]

theorem Leads.settled (pending : Pending) (w : Walk) (x : Symbol) (set : LookaheadSet) :
    Leads pending w [.settled x set] pending (w.settle x set) where
  tables_eq := rfl
  records_eq := rfl

theorem Leads.met (pending : Pending) (w : Walk) (name : String) :
    Leads pending w [.met name] pending (w.reenter name) where
  tables_eq := rfl
  records_eq := rfl

theorem Leads.opened (pending : Pending) (w : Walk) (name : String) :
    Leads pending w [.opened name] ((name, ∅) :: pending) w where
  tables_eq := apply_opened pending name w
  records_eq := (List.append_nil _).symm

theorem Leads.found (pending : Pending) (w : Walk) (name : String) (found members : LookaheadSet) :
    Leads ((name, found) :: pending) w [.found name members] ((name, found ∪ members) :: pending) w where
  tables_eq := apply_found pending name found members w
  records_eq := (List.append_nil _).symm

theorem Leads.closed {pending : Pending} (h : pending.lookup name = none) (found : LookaheadSet)
    (w : Walk) : Leads ((name, found) :: pending) w [.closed name] pending w where
  tables_eq := apply_closed h found
  records_eq := (List.append_nil _).symm

theorem performs_done (g : Grammar) (name : String) (found : LookaheadSet) (pending : Pending)
    (w : Walk) : Performs g (.read name []) (tables ((name, found) :: pending) w) [] found := by
  have h : Performs g (.read name []) (tables ((name, found) :: pending) w) []
      (((tables ((name, found) :: pending) w).reading name).getD ∅) := .done
  rwa [reading_tables_cons, Function.update_self] at h

section Reading
variable {pending : Pending} {visit : LookaheadSet → Symbol → Walk → Visit}

theorem readAlternatives_cons_cons (x : Symbol) (xs : List Symbol) (rest : List (List Symbol))
    (found : LookaheadSet) (w : Walk) :
    readAlternatives visit ((x :: xs) :: rest) found w =
      if .empty ∈ (visit found x w).1 then
        readAlternatives visit (xs :: rest) (found ∪ (visit found x w).1.erase .empty)
          (visit found x w).2
      else
        readAlternatives visit rest (found ∪ (visit found x w).1.erase .empty)
          (visit found x w).2 := by
  rw [readAlternatives, readAlternative]
  split
  · rfl
  · rfl

/-- Reading has a course if the visits made inside it have one. -/
theorem exists_performs_read
    (hv : ∀ found x w, ∃ es, Performs g (.visit x) (tables ((name, found) :: pending) w) es
      (visit found x w).1 ∧
      Leads ((name, found) :: pending) w es ((name, found) :: pending) (visit found x w).2)
    (alternatives : List (List Symbol)) (found : LookaheadSet) (w : Walk) :
    ∃ es, Performs g (.read name alternatives) (tables ((name, found) :: pending) w) es
      (readAlternatives visit alternatives found w).1 ∧
      Leads ((name, found) :: pending) w es
        ((name, (readAlternatives visit alternatives found w).1) :: pending)
        (readAlternatives visit alternatives found w).2 := by
  induction alternatives generalizing found w with
  | nil => exact ⟨[], performs_done g name found pending w, .refl _ _⟩
  | cons xs rest ih =>
      induction xs generalizing found w with
      | nil =>
          have hinsert : found ∪ {.empty} = found.insert .empty :=
            OrderedSet.ext fun a => by simp [or_comm]
          obtain ⟨es, hrest, hleads⟩ := ih (found.insert .empty) w
          have hfound := Leads.found pending w name found {.empty}
          rw [hinsert] at hfound
          refine ⟨_, .vanish ?_, hfound.trans hleads⟩
          rwa [← Tables.run_nil ((tables _ w).apply _), ← Tables.run_cons, hfound.tables_eq]
      | cons x xs ihx =>
          obtain ⟨es, hx, hleads⟩ := hv found x w
          have hfound := hleads.trans
            (.found pending (visit found x w).2 name found ((visit found x w).1.erase .empty))
          have ht : ((tables ((name, found) :: pending) w).run es).apply
              (.found name ((visit found x w).1.erase .empty)) = tables
              ((name, found ∪ (visit found x w).1.erase .empty) :: pending) (visit found x w).2 := by
            rw [hleads.tables_eq, apply_found]
          by_cases he : .empty ∈ (visit found x w).1
          · obtain ⟨more, hrest, hend⟩ := ihx (found ∪ (visit found x w).1.erase .empty)
              (visit found x w).2
            rw [readAlternatives_cons_cons, if_pos he]
            refine ⟨_, .pass hx he (ht ▸ hrest), ?_⟩
            simpa using hfound.trans hend
          · obtain ⟨more, hrest, hend⟩ := ih (found ∪ (visit found x w).1.erase .empty)
              (visit found x w).2
            rw [readAlternatives_cons_cons, if_neg he]
            refine ⟨_, .stop hx he (ht ▸ hrest), ?_⟩
            simpa using hfound.trans hend

end Reading

/-- A nonterminal that is neither settled nor being read is opened, read, closed and settled. -/
theorem exists_performs_nonterminal {pending : Pending} {w w' : Walk}
    (h : w.settled.get? (.nonterminal name) = none) (hp : pending.lookup name = none)
    (hread : Performs g (.read name (g.alternatives name)) (tables ((name, ∅) :: pending) w) es set)
    (hleads : Leads ((name, ∅) :: pending) w es ((name, set) :: pending) w') :
    ∃ es, Performs g (.visit (.nonterminal name)) (tables pending w) es set ∧
      Leads pending w es pending (w'.settle (.nonterminal name) set) := by
  rw [← apply_opened] at hread
  refine ⟨_, .nonterminal h hp hread, ?_⟩
  have hopened := (Leads.opened pending w name).trans hleads
  exact hopened.trans ((Leads.closed hp set w').trans (.settled _ _ _ _))

/-- A visit ends, whatever is being read and whatever is settled, and gives what the function
gives. -/
theorem exists_performs (g : Grammar) (pending : Pending) (x : Symbol) (w : Walk) :
    ∃ es, Performs g (.visit x) (tables pending w) es (visit g pending x w).1 ∧
      Leads pending w es pending (visit g pending x w).2 := by
  induction pending, x, w using visit.induct g with
  | case1 pending x w set h =>
      rw [visit_of_settled h]
      exact ⟨[], .known h, .refl _ _⟩
  | case2 pending w name h =>
      rw [visit_terminal h]
      exact ⟨_, .terminal h, .settled _ _ _ _⟩
  | case3 pending w h =>
      rw [visit_empty h]
      exact ⟨_, .empty h, .settled _ _ _ _⟩
  | case4 pending w name found hp h =>
      rw [visit_of_pending h hp]
      exact ⟨_, .met h hp, .met _ _ _⟩
  | case5 pending w name hp hn h =>
      rw [visit_of_no_rule h hp hn]
      refine exists_performs_nonterminal h hp ?_ (.refl _ _)
      rw [Grammar.alternatives_of_no_rule hn]
      exact performs_done g name ∅ pending w
  | case6 pending w name hp alternatives hn h ih =>
      rw [visit_of_rule h hp hn]
      obtain ⟨es, hread, hleads⟩ := exists_performs_read ih alternatives ∅ w
      refine exists_performs_nonterminal h hp ?_ hleads
      rwa [Grammar.alternatives_of_get? hn]

/-- The walk ends, and comes to the sets and records that the function comes to. -/
theorem exists_walks (g : Grammar) (symbols : List Symbol) (w : Walk) :
    ∃ es, Walks g symbols (tables [] w) es ∧ Leads [] w es [] (visitAll g symbols w) := by
  induction symbols generalizing w with
  | nil => exact ⟨[], .nil, .refl _ _⟩
  | cons x symbols ih =>
      obtain ⟨es, hx, hleads⟩ := exists_performs g [] x w
      obtain ⟨more, hrest, hend⟩ := ih (visit g [] x w).2
      rw [← hleads.tables_eq] at hrest
      exact ⟨es ++ more, .cons hx hrest, hleads.trans hend⟩

end GrammarSets.First
