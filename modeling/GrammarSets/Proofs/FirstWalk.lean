import GrammarSets.First

/-!
# The walk behind the FIRST sets

`Call` holds of the visits that the walk makes, each with what is being read and what
is settled at that moment. A visit settles the symbol visited with the set it gives,
unless that symbol is being read (`get?_visit`), and changes no settled set, so every
symbol of the vocabulary has a FIRST set in the end. Warnings stay, too: what a visit
brings about for good is there when the walk is over (`Call.keeps`).
-/
namespace GrammarSets

variable {g : Grammar} {pending : Pending} {x y : Symbol} {w : Walk}

namespace Walk

theorem get?_settle (w : Walk) (x : Symbol) (set : LookaheadSet) (y : Symbol) :
    (w.settle x set).settled.get? y = if y = x then some set else w.settled.get? y :=
  Table.get?_insert w.settled x set y

/-- A symbol has its set. -/
def Settled (w : Walk) (x : Symbol) : Prop := ∃ set, w.settled.get? x = some set

theorem Settled.settle (h : w.Settled y) (x : Symbol) (set : LookaheadSet) :
    (w.settle x set).Settled y := by
  obtain ⟨old, h⟩ := h
  by_cases he : y = x
  · exact ⟨set, by rw [get?_settle, if_pos he]⟩
  · exact ⟨old, by rw [get?_settle, if_neg he, h]⟩

theorem settled_settle (w : Walk) (x : Symbol) (set : LookaheadSet) :
    (w.settle x set).Settled x :=
  ⟨set, by rw [get?_settle, if_pos rfl]⟩

theorem settled_settle_iff {set : LookaheadSet} :
    (w.settle x set).Settled y ↔ y = x ∨ w.Settled y := by
  constructor
  · rintro ⟨other, h⟩
    rw [get?_settle] at h
    split at h
    · next he => exact .inl he
    · exact .inr ⟨other, h⟩
  · rintro (rfl | h)
    · exact settled_settle w y set
    · exact h.settle x set

/-- Every settled set stands in a certain relation to its symbol. -/
def All (w : Walk) (P : Symbol → LookaheadSet → Prop) : Prop :=
  ∀ x set, w.settled.get? x = some set → P x set

theorem all_empty {P : Symbol → LookaheadSet → Prop} : Walk.All ∅ P := fun _ _ h => nomatch h

theorem All.settle {P : Symbol → LookaheadSet → Prop} (hw : w.All P) {set : LookaheadSet}
    (hs : P x set) : (w.settle x set).All P := by
  intro y other hy
  rw [get?_settle] at hy
  split at hy
  · next he =>
      cases hy
      rwa [he]
  · exact hw y other hy

end Walk

/-- Every nonterminal being read stands in a certain relation to what has been found for it. -/
def Pending.All (pending : Pending) (P : String → LookaheadSet → Prop) : Prop :=
  ∀ name found, pending.lookup name = some found → P name found

theorem Pending.all_nil {P : String → LookaheadSet → Prop} : Pending.All [] P :=
  fun _ _ h => nomatch h

theorem Pending.All.cons {P : String → LookaheadSet → Prop} (hp : Pending.All pending P)
    {name : String} {found : LookaheadSet} (hf : P name found) :
    Pending.All ((name, found) :: pending) P := by
  intro other set h
  rw [List.lookup_cons] at h
  split at h
  · next he =>
      cases h
      rwa [eq_of_beq he]
  · exact hp other set h

theorem Pending.All.imp {P Q : String → LookaheadSet → Prop} (hp : Pending.All pending P)
    (h : ∀ name found, P name found → Q name found) : Pending.All pending Q :=
  fun name found hl => h name found (hp name found hl)

/-- A symbol is a nonterminal that is being read. -/
def Pending.Reads (pending : Pending) (x : Symbol) : Prop :=
  ∃ name found, x = .nonterminal name ∧ pending.lookup name = some found

theorem Pending.not_reads_nil : ¬ Pending.Reads [] x := by
  simp [Reads]

theorem Pending.reads_cons {name : String} {found : LookaheadSet} :
    Pending.Reads ((name, found) :: pending) x ↔ x = .nonterminal name ∨ pending.Reads x := by
  constructor
  · rintro ⟨other, set, rfl, h⟩
    rw [List.lookup_cons] at h
    split at h
    · next he => exact .inl (congrArg _ (eq_of_beq he))
    · exact .inr ⟨other, set, rfl, h⟩
  · rintro (rfl | ⟨other, set, rfl, h⟩)
    · exact ⟨name, found, rfl, List.lookup_cons_self⟩
    · by_cases he : other = name
      · exact ⟨name, found, by rw [he], List.lookup_cons_self⟩
      · have hb : (other == name) = false := beq_false_of_ne he
        exact ⟨other, set, rfl, by rw [List.lookup_cons, hb]; exact h⟩

namespace First

theorem visit_of_no_rule {name : String} (h : w.settled.get? (.nonterminal name) = none)
    (hp : pending.lookup name = none) (hr : g.rules.get? name = none) :
    visit g pending (.nonterminal name) w = (∅, w.settle (.nonterminal name) ∅) := by
  rw [visit.eq_def, h]
  dsimp only
  split
  · next hf => cases hp.symm.trans hf
  · split
    · rfl
    · next hs => cases hr.symm.trans hs

section Reading
variable {visit : LookaheadSet → Symbol → Walk → Visit}

theorem readAlternative_keeps_of_mem {P : Walk → Prop} {xs : List Symbol}
    (hv : ∀ x ∈ xs, ∀ found w, P w → P (visit found x w).2) (found : LookaheadSet) (hw : P w) :
    P (readAlternative visit xs found w).2 := by
  induction xs generalizing found w with
  | nil => exact hw
  | cons x xs ih =>
      rw [List.forall_mem_cons] at hv
      have hx : P (visit found x w).2 := hv.1 found w hw
      rw [readAlternative]
      split
      · exact ih hv.2 _ hx
      · exact hx

theorem readAlternatives_keeps_of_mem {P : Walk → Prop} {alternatives : List (List Symbol)}
    (hv : ∀ xs ∈ alternatives, ∀ x ∈ xs, ∀ found w, P w → P (visit found x w).2)
    (found : LookaheadSet) (hw : P w) : P (readAlternatives visit alternatives found w).2 := by
  induction alternatives generalizing found w with
  | nil => exact hw
  | cons xs rest ih =>
      rw [List.forall_mem_cons] at hv
      exact ih hv.2 _ (readAlternative_keeps_of_mem hv.1 found hw)

theorem readAlternative_keeps {P : Walk → Prop}
    (hv : ∀ found x w, P w → P (visit found x w).2) (xs : List Symbol) (found : LookaheadSet)
    (hw : P w) : P (readAlternative visit xs found w).2 :=
  readAlternative_keeps_of_mem (fun x _ found w => hv found x w) found hw

theorem readAlternatives_keeps {P : Walk → Prop}
    (hv : ∀ found x w, P w → P (visit found x w).2) (alternatives : List (List Symbol))
    (found : LookaheadSet) (hw : P w) : P (readAlternatives visit alternatives found w).2 :=
  readAlternatives_keeps_of_mem (fun _ _ x _ found w => hv found x w) found hw

theorem subset_readAlternative (visit : LookaheadSet → Symbol → Walk → Visit) (xs : List Symbol)
    (found : LookaheadSet) (w : Walk) : found ⊆ (readAlternative visit xs found w).1 := by
  induction xs generalizing found w with
  | nil => exact fun a ha => OrderedSet.mem_insert.2 (.inr ha)
  | cons x xs ih =>
      intro a ha
      have hmore : a ∈ found ∪ (visit found x w).1.erase .empty := OrderedSet.mem_union.2 (.inl ha)
      rw [readAlternative]
      split
      · exact ih _ _ a hmore
      · exact hmore

theorem subset_readAlternatives (visit : LookaheadSet → Symbol → Walk → Visit)
    (alternatives : List (List Symbol)) (found : LookaheadSet) (w : Walk) :
    found ⊆ (readAlternatives visit alternatives found w).1 := by
  induction alternatives generalizing found w with
  | nil => exact fun a ha => ha
  | cons xs rest ih => exact fun a ha => ih _ _ a (subset_readAlternative visit xs found w a ha)

end Reading

/-- Reading alternatives makes a certain visit: what has been found before it, the symbol, and
the walk before it. -/
inductive Makes (visit : LookaheadSet → Symbol → Walk → Visit) :
    List (List Symbol) → LookaheadSet → Walk → LookaheadSet → Symbol → Walk → Prop
  | here (x : Symbol) (xs : List Symbol) (rest : List (List Symbol)) (found : LookaheadSet)
      (w : Walk) : Makes visit ((x :: xs) :: rest) found w found x w
  | next {x y : Symbol} {xs : List Symbol} {rest : List (List Symbol)}
      {found found' : LookaheadSet} {w w' : Walk} : .empty ∈ (visit found x w).1 →
      Makes visit (xs :: rest) (found ∪ (visit found x w).1.erase .empty) (visit found x w).2
        found' y w' →
      Makes visit ((x :: xs) :: rest) found w found' y w'
  | later {y : Symbol} {xs : List Symbol} {rest : List (List Symbol)}
      {found found' : LookaheadSet} {w w' : Walk} :
      Makes visit rest (readAlternative visit xs found w).1 (readAlternative visit xs found w).2
        found' y w' →
      Makes visit (xs :: rest) found w found' y w'

/-- What a visit made on the way has brought about is there in the end, if visits keep it. -/
theorem Makes.keeps {visit : LookaheadSet → Symbol → Walk → Visit} {P : Walk → Prop}
    (hv : ∀ found x w, P w → P (visit found x w).2) {alternatives : List (List Symbol)}
    {found found' : LookaheadSet} {w' : Walk} (h : Makes visit alternatives found w found' x w')
    (hx : P (visit found' x w').2) : P (readAlternatives visit alternatives found w).2 := by
  induction h with
  | here x xs rest found w =>
      have hxs : P (readAlternative visit (x :: xs) found w).2 := by
        rw [readAlternative]
        split
        · exact readAlternative_keeps hv xs _ hx
        · exact hx
      exact readAlternatives_keeps hv rest _ hxs
  | next he _ ih =>
      rw [readAlternatives, readAlternative, if_pos he]
      exact ih hx
  | later _ ih => exact ih hx

/-- A property that the visits made on the way keep holds in the end. -/
theorem readAlternative_keeps_of_makes {visit : LookaheadSet → Symbol → Walk → Visit}
    {P : Walk → Prop} {xs : List Symbol} {rest : List (List Symbol)} {found : LookaheadSet}
    (hv : ∀ found' x w', Makes visit (xs :: rest) found w found' x w' → P w' →
      P (visit found' x w').2) (hw : P w) : P (readAlternative visit xs found w).2 := by
  induction xs generalizing found w with
  | nil => exact hw
  | cons x xs ih =>
      have hx : P (visit found x w).2 := hv found x w (.here x xs rest found w) hw
      rw [readAlternative]
      split
      · next he => exact ih (fun found' y w' h => hv found' y w' (.next he h)) hx
      · exact hx

theorem readAlternatives_keeps_of_makes {visit : LookaheadSet → Symbol → Walk → Visit}
    {P : Walk → Prop} {alternatives : List (List Symbol)} {found : LookaheadSet}
    (hv : ∀ found' x w', Makes visit alternatives found w found' x w' → P w' →
      P (visit found' x w').2) (hw : P w) : P (readAlternatives visit alternatives found w).2 := by
  induction alternatives generalizing found w with
  | nil => exact hw
  | cons xs rest ih =>
      exact ih (fun found' x w' h => hv found' x w' (.later h)) (readAlternative_keeps_of_makes hv hw)

/-- What has been found before a visit made on the way is in the set that is found in the end. -/
theorem Makes.subset {visit : LookaheadSet → Symbol → Walk → Visit}
    {alternatives : List (List Symbol)} {found found' : LookaheadSet} {w' : Walk}
    (h : Makes visit alternatives found w found' x w') :
    found' ⊆ (readAlternatives visit alternatives found w).1 := by
  induction h with
  | here x xs rest found w => exact subset_readAlternatives _ _ _ _
  | next he _ ih =>
      rw [readAlternatives, readAlternative, if_pos he]
      exact ih
  | later _ ih => exact ih

/-- The visits of the walk through a grammar. -/
inductive Call (g : Grammar) : Pending → Symbol → Walk → Prop
  | outer {before after : List Symbol} {x : Symbol} : g.vocabulary = before ++ x :: after →
      Call g [] x (visitAll g before ∅)
  | inner {pending : Pending} {name : String} {w w' : Walk} {alternatives : List (List Symbol)}
      {found : LookaheadSet} {x : Symbol} : Call g pending (.nonterminal name) w →
      w.settled.get? (.nonterminal name) = none → pending.lookup name = none →
      g.rules.get? name = some alternatives →
      Makes (fun found => visit g ((name, found) :: pending)) alternatives ∅ w found x w' →
      Call g ((name, found) :: pending) x w'

/-- A visit changes the walk by settling symbols and by reports, so it keeps what these keep. -/
theorem visit_keeps {P : Walk → Prop} (hs : ∀ w x set, P w → P (w.settle x set))
    (hr : ∀ w name, P w → P (w.reenter name)) (hw : P w) : P (visit g pending x w).2 := by
  induction pending, x, w using visit.induct g with
  | case1 pending x w set h => rwa [visit_of_settled h]
  | case2 pending w name h =>
      rw [visit_terminal h]
      exact hs _ _ _ hw
  | case3 pending w h =>
      rw [visit_empty h]
      exact hs _ _ _ hw
  | case4 pending w name found hp h =>
      rw [visit_of_pending h hp]
      exact hr _ _ hw
  | case5 pending w name hp hn h =>
      rw [visit_of_no_rule h hp hn]
      exact hs _ _ _ hw
  | case6 pending w name hp alternatives hn h ih =>
      rw [visit_of_rule h hp hn]
      exact hs _ _ _ (readAlternatives_keeps ih _ _ hw)

/-- A settled set is not changed any more. -/
theorem get?_visit_of_settled {set : LookaheadSet} (hy : w.settled.get? y = some set) :
    (visit g pending x w).2.settled.get? y = some set := by
  -- Only symbols without a set are settled, so `y` is none of them.
  have hsettle : ∀ {x : Symbol} {w w' : Walk} {new : LookaheadSet}, w.settled.get? x = none →
      w.settled.get? y = some set → w'.settled.get? y = some set →
      (w'.settle x new).settled.get? y = some set := by
    intro x w w' new hx hy hy'
    have hne : y ≠ x := fun he => by
      rw [he, hx] at hy
      cases hy
    rw [Walk.get?_settle, if_neg hne, hy']
  induction pending, x, w using visit.induct g with
  | case1 pending x w found h => rwa [visit_of_settled h]
  | case2 pending w name h =>
      rw [visit_terminal h]
      exact hsettle h hy hy
  | case3 pending w h =>
      rw [visit_empty h]
      exact hsettle h hy hy
  | case4 pending w name found hp h =>
      rw [visit_of_pending h hp]
      exact hy
  | case5 pending w name hp hn h =>
      rw [visit_of_no_rule h hp hn]
      exact hsettle h hy hy
  | case6 pending w name hp alternatives hn h ih =>
      rw [visit_of_rule h hp hn]
      exact hsettle h hy
        (readAlternatives_keeps (P := fun w => w.settled.get? y = some set) ih _ _ hy)

/-- No visit settles a nonterminal that is being read. -/
theorem not_settled_visit (hy : pending.Reads y) (hw : ¬ w.Settled y) :
    ¬ (visit g pending x w).2.Settled y := by
  -- A nonterminal is settled where it is read to its end, and is not read when it is entered.
  have hname : ∀ {pending : Pending} {name : String}, pending.Reads y →
      pending.lookup name = none → y ≠ .nonterminal name := by
    rintro pending name ⟨other, found, rfl, hf⟩ hp ⟨⟩
    rw [hf] at hp
    cases hp
  induction pending, x, w using visit.induct g with
  | case1 pending x w set h => rwa [visit_of_settled h]
  | case2 pending w name h =>
      obtain ⟨other, _, rfl, _⟩ := hy
      rw [visit_terminal h, Walk.settled_settle_iff]
      exact fun hs => hs.elim (by simp) hw
  | case3 pending w h =>
      obtain ⟨other, _, rfl, _⟩ := hy
      rw [visit_empty h, Walk.settled_settle_iff]
      exact fun hs => hs.elim (by simp) hw
  | case4 pending w name found hp h => rwa [visit_of_pending h hp]
  | case5 pending w name hp hn h =>
      rw [visit_of_no_rule h hp hn, Walk.settled_settle_iff]
      exact fun hs => hs.elim (hname hy hp) hw
  | case6 pending w name hp alternatives hn h ih =>
      have hread : ¬ (readAlternatives (fun found => visit g ((name, found) :: pending)) alternatives
          ∅ w).2.Settled y :=
        readAlternatives_keeps (P := fun w => ¬ w.Settled y)
          (fun found x w hw => ih found x w (Pending.reads_cons.2 (.inr hy)) hw) _ _ hw
      rw [visit_of_rule h hp hn, Walk.settled_settle_iff]
      exact fun hs => hs.elim (hname hy hp) hread

theorem visit_settled (hw : w.Settled y) : (visit g pending x w).2.Settled y := by
  obtain ⟨set, h⟩ := hw
  exact ⟨set, get?_visit_of_settled h⟩

/-- A visit gives the set of the symbol visited, and that set is settled, unless the symbol is
being read. -/
theorem get?_visit (g : Grammar) (pending : Pending) (x : Symbol) (w : Walk) :
    (visit g pending x w).2.settled.get? x = some (visit g pending x w).1 ∨ pending.Reads x := by
  have hsettle : ∀ (w : Walk) (set : LookaheadSet),
      (w.settle x set).settled.get? x = some set := fun w set => by
    rw [Walk.get?_settle, if_pos rfl]
  cases h : w.settled.get? x with
  | some set =>
      rw [visit_of_settled h]
      exact .inl h
  | none =>
      cases x with
      | terminal name =>
          rw [visit_terminal h]
          exact .inl (hsettle _ _)
      | empty =>
          rw [visit_empty h]
          exact .inl (hsettle _ _)
      | nonterminal name =>
          cases hp : pending.lookup name with
          | some found => exact .inr ⟨name, found, rfl, hp⟩
          | none =>
              cases hr : g.rules.get? name with
              | none =>
                  rw [visit_of_no_rule h hp hr]
                  exact .inl (hsettle _ _)
              | some alternatives =>
                  rw [visit_of_rule h hp hr]
                  exact .inl (hsettle _ _)

/-- Outside of any rule a visit settles the symbol visited. -/
theorem settled_visit (g : Grammar) (x : Symbol) (w : Walk) : (visit g [] x w).2.Settled x :=
  ⟨_, (get?_visit g [] x w).resolve_right Pending.not_reads_nil⟩

theorem settled_visitAll {symbols : List Symbol} (h : x ∈ symbols ∨ w.Settled x) :
    (visitAll g symbols w).Settled x := by
  induction symbols generalizing w with
  | nil => exact h.resolve_left List.not_mem_nil
  | cons y symbols ih =>
      apply ih
      rcases h with h | h
      · rcases List.mem_cons.1 h with rfl | h
        · exact .inr (settled_visit g x w)
        · exact .inl h
      · exact .inr (visit_settled h)

/-- A visit settles no symbols but those it comes to. -/
theorem visit_all {V : Symbol → Prop}
    (hV : ∀ name, ∀ alternative ∈ g.alternatives name, ∀ y ∈ alternative, V y) (hx : V x)
    (hw : w.All fun y _ => V y) : (visit g pending x w).2.All fun y _ => V y := by
  induction pending, x, w using visit.induct g with
  | case1 pending x w set h => rwa [visit_of_settled h]
  | case2 pending w name h =>
      rw [visit_terminal h]
      exact hw.settle hx
  | case3 pending w h =>
      rw [visit_empty h]
      exact hw.settle hx
  | case4 pending w name found hp h =>
      rw [visit_of_pending h hp]
      exact hw
  | case5 pending w name hp hn h =>
      rw [visit_of_no_rule h hp hn]
      exact hw.settle hx
  | case6 pending w name hp alternatives hn h ih =>
      have hsymbols : ∀ xs ∈ alternatives, ∀ y ∈ xs, V y := fun xs hxs =>
        hV name xs (Grammar.alternatives_of_get? hn ▸ hxs)
      have hread := readAlternatives_keeps_of_mem (P := fun w => w.All fun y _ => V y)
        (fun xs hxs y hy found w hw => ih found y w (hsymbols xs hxs y hy) hw) ∅ hw
      rw [visit_of_rule h hp hn]
      exact hread.settle hx

theorem visitAll_all {V : Symbol → Prop}
    (hV : ∀ name, ∀ alternative ∈ g.alternatives name, ∀ y ∈ alternative, V y)
    {symbols : List Symbol} (hs : ∀ y ∈ symbols, V y) (hw : w.All fun y _ => V y) :
    (visitAll g symbols w).All fun y _ => V y := by
  induction symbols generalizing w with
  | nil => exact hw
  | cons x symbols ih =>
      rw [List.forall_mem_cons] at hs
      exact ih hs.2 (visit_all hV hs.1 hw)

/-- A property that every visit keeps holds at the end of the walk. -/
theorem visitAll_keeps {P : Walk → Prop} (h : ∀ x w, P w → P (visit g [] x w).2)
    (symbols : List Symbol) (hw : P w) : P (visitAll g symbols w) := by
  induction symbols generalizing w with
  | nil => exact hw
  | cons x symbols ih => exact ih (h x w hw)

theorem visitAll_cons (g : Grammar) (x : Symbol) (symbols : List Symbol) (w : Walk) :
    visitAll g (x :: symbols) w = visitAll g symbols (visit g [] x w).2 := rfl

theorem visitAll_append (g : Grammar) (before after : List Symbol) (w : Walk) :
    visitAll g (before ++ after) w = visitAll g after (visitAll g before w) :=
  List.foldl_append

/-- A property that the visits of the walk keep holds at the end of the walk. -/
theorem visitAll_keeps_of_call {P : Walk → Prop}
    (h : ∀ x w, Call g [] x w → P w → P (visit g [] x w).2) (h₀ : P ∅) :
    P (visitAll g g.vocabulary ∅) := by
  have hrest : ∀ after before, g.vocabulary = before ++ after → P (visitAll g before ∅) →
      P (visitAll g g.vocabulary ∅) := by
    intro after
    induction after with
    | nil =>
        intro before he hb
        rwa [he, List.append_nil]
    | cons x after ih =>
        intro before he hb
        apply ih (before ++ [x])
        · rw [he, List.append_assoc, List.singleton_append]
        · rw [visitAll_append]
          exact h x _ (.outer he) hb
  exact hrest g.vocabulary [] rfl h₀

/-- What a visit of the walk has brought about is there at the end of the walk, if visits keep it. -/
theorem Call.keeps {P : Walk → Prop} (hs : ∀ w x set, P w → P (w.settle x set))
    (hv : ∀ pending x w, P w → P (visit g pending x w).2) (h : Call g pending x w)
    (hx : P (visit g pending x w).2) : P (visitAll g g.vocabulary ∅) := by
  induction h with
  | outer he =>
      rw [he, visitAll_append, visitAll_cons]
      exact visitAll_keeps (hv []) _ hx
  | inner _ hset hlook hrule hm ih =>
      apply ih
      rw [visit_of_rule hset hlook hrule]
      exact hs _ _ _ (hm.keeps (fun _ => hv _) hx)

/-- A set that is settled in a visit of the walk is not changed any more. -/
theorem Call.get?_firstSets {set : LookaheadSet} (h : Call g pending x w)
    (hy : (visit g pending x w).2.settled.get? y = some set) :
    g.firstSets.value.get? y = some set := by
  induction h with
  | outer he =>
      rw [Grammar.firstSets, he, visitAll_append, visitAll_cons]
      exact visitAll_keeps (P := fun w => w.settled.get? y = some set)
        (fun _ _ => get?_visit_of_settled) _ hy
  | @inner pending name w w' alternatives found x hc hset hlook hrule hm ih =>
      have hread := hm.keeps (P := fun w => w.settled.get? y = some set)
        (fun _ _ _ => get?_visit_of_settled) hy
      -- The nonterminal that is settled next has not been settled on the way.
      have hne : y ≠ .nonterminal name := by
        rintro rfl
        have hstill : ¬ (readAlternatives (fun found => visit g ((name, found) :: pending))
            alternatives ∅ w).2.Settled (.nonterminal name) :=
          readAlternatives_keeps (P := fun w => ¬ w.Settled (.nonterminal name))
            (fun _ _ _ hw => not_settled_visit (Pending.reads_cons.2 (.inl rfl)) hw) _ _
            (fun ⟨_, hs⟩ => by simp [hset] at hs)
        exact hstill ⟨set, hread⟩
      apply ih
      rw [visit_of_rule hset hlook hrule, Walk.get?_settle, if_neg hne]
      exact hread

end First

namespace Grammar

theorem nonterminal_mem_vocabulary {name : String} :
    .nonterminal name ∈ g.vocabulary ↔ name ∈ g.nonterminals := by
  simp [vocabulary]

theorem terminal_mem_vocabulary {name : String} :
    .terminal name ∈ g.vocabulary ↔ name ∈ g.terminals := by
  simp [vocabulary, OrderedSet.mem_toList]

theorem empty_mem_vocabulary : .empty ∈ g.vocabulary := by
  simp [vocabulary]

theorem SelfContained.mem_vocabulary (h : g.SelfContained) (lhs : String) :
    ∀ alternative ∈ g.alternatives lhs, ∀ x ∈ alternative, x ∈ g.vocabulary := by
  intro alternative ha x hx
  cases x with
  | terminal name =>
      exact terminal_mem_vocabulary.2 (mem_terminals.2 (mem_symbols.2 ⟨lhs, alternative, ha, hx⟩))
  | nonterminal name => exact nonterminal_mem_vocabulary.2 (h lhs alternative ha name hx)
  | empty => exact empty_mem_vocabulary

theorem exists_firstSet (h : x ∈ g.vocabulary) : ∃ set, g.firstSets.value.get? x = some set :=
  First.settled_visitAll (.inl h)

/-- If the rules use no nonterminals from elsewhere, no other symbols have FIRST sets. -/
theorem SelfContained.mem_vocabulary_of_firstSet (h : g.SelfContained) {set : LookaheadSet}
    (hs : g.firstSets.value.get? x = some set) : x ∈ g.vocabulary :=
  First.visitAll_all h.mem_vocabulary (fun _ hy => hy) Walk.all_empty x set hs

end Grammar
end GrammarSets
