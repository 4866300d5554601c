/-!
# Counts that go down

Two ways to see that a count over a list became smaller: a test that fewer
members pass, and a sum of which no term grew and one shrank.
-/
namespace GrammarSets.Measure

variable {α : Type}

theorem length_filter_le {p q : α → Bool} (h : ∀ x, q x = true → p x = true) (xs : List α) :
    (xs.filter q).length ≤ (xs.filter p).length := by
  simpa only [List.countP_eq_length_filter] using
    List.countP_mono_left (l := xs) fun x _ => h x

theorem length_filter_lt {p q : α → Bool} (h : ∀ x, q x = true → p x = true) {xs : List α}
    {a : α} (ha : a ∈ xs) (hp : p a = true) (hq : q a = false) :
    (xs.filter q).length < (xs.filter p).length := by
  induction xs with
  | nil => simp at ha
  | cons x xs ih =>
      rcases List.mem_cons.1 ha with rfl | ha
      · simpa [hp, hq] using Nat.lt_succ_of_le (length_filter_le h xs)
      · have hlt := ih ha
        by_cases hqx : q x = true
        · simpa [hqx, h x hqx] using hlt
        · by_cases hpx : p x = true
          · simpa [hqx, hpx] using Nat.lt_succ_of_lt hlt
          · simpa [hqx, hpx] using hlt

/-- The sum of a count over a list. -/
def total (f : α → Nat) : List α → Nat
  | [] => 0
  | x :: xs => f x + total f xs

theorem total_le {f g : α → Nat} (h : ∀ x, f x ≤ g x) (xs : List α) : total f xs ≤ total g xs := by
  induction xs with
  | nil => exact Nat.le_refl _
  | cons x xs ih => exact Nat.add_le_add (h x) ih

theorem total_lt {f g : α → Nat} (h : ∀ x, f x ≤ g x) {xs : List α} {a : α} (ha : a ∈ xs)
    (hlt : f a < g a) : total f xs < total g xs := by
  induction xs with
  | nil => simp at ha
  | cons x xs ih =>
      rcases List.mem_cons.1 ha with rfl | ha
      · exact Nat.add_lt_add_of_lt_of_le hlt (total_le h xs)
      · exact Nat.add_lt_add_of_le_of_lt (h x) (ih ha)

end GrammarSets.Measure
