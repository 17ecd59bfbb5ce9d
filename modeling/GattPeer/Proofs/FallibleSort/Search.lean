import GattPeer.FallibleSort.Search
import Mathlib.Data.Nat.Basic

/-!
# Searching where all that pass stand in front

If a test never fails, and no element that does not pass stands in front of one that passes, then
both searches count the elements that pass, whichever elements they test.

Each probe decides about one side of it: if it passes, so does all that is in front, and if it does
not, neither does anything behind. So bisection, which drops that side, loses nothing that it does
not know.
-/

namespace GattPeer.FallibleSort

variable {ε α : Type} {passes : α → Except ε Bool} {p : α → Bool} {xs : List α}

theorem countP_eq_take_add_drop (p : α → Bool) (xs : List α) (i : Nat) :
    xs.countP p = (xs.take i).countP p + (xs.drop i).countP p := by
  rw [← List.countP_append, List.take_append_drop]

theorem countP_take_of_passes (hxs : xs.Pairwise fun a b ↦ p b → p a) {i : Nat}
    (hi : i < xs.length) (h : p xs[i]) : (xs.take (i + 1)).countP p = i + 1 := by
  have hall : ∀ a ∈ xs.take (i + 1), p a := by
    intro a ha
    obtain ⟨j, hj, rfl⟩ := List.mem_take_iff_getElem.mp ha
    rcases Nat.lt_or_eq_of_le (Nat.le_of_lt_succ (Nat.lt_min.mp hj).1) with hlt | rfl
    · exact List.pairwise_iff_getElem.mp hxs j i _ hi hlt h
    · exact h
  rw [List.countP_eq_length.mpr hall, List.length_take]
  omega

theorem countP_drop_of_not_passes (hxs : xs.Pairwise fun a b ↦ p b → p a) {i : Nat}
    (hi : i < xs.length) (h : ¬ p xs[i]) : (xs.drop i).countP p = 0 := by
  rw [List.countP_eq_zero, List.drop_eq_getElem_cons hi]
  intro a ha hpass
  rcases List.mem_cons.mp ha with rfl | ha
  · exact h hpass
  · obtain ⟨k, hk, rfl⟩ := List.mem_drop_iff_getElem.mp ha
    exact h (List.pairwise_iff_getElem.mp hxs i _ hi _ (by omega) hpass)

theorem take_drop_countP (hxs : xs.Pairwise fun a b ↦ p b → p a) :
    (∀ x ∈ xs.take (xs.countP p), p x) ∧ ∀ x ∈ xs.drop (xs.countP p), ¬ p x := by
  induction xs with
  | nil => simp
  | cons x xs ih =>
    obtain ⟨hx, hrest⟩ := List.pairwise_cons.mp hxs
    by_cases h : p x
    · simpa [h] using ih hrest
    · have hnone : ∀ y ∈ xs, ¬ p y := fun y hy hpass ↦ h (hx y hy hpass)
      simpa [h, List.countP_eq_zero.mpr hnone] using hnone

variable (side : Side)

/-- **Bisection counts the elements that pass.** -/
theorem bisect_eq_countP (hpasses : ∀ x, passes x = .ok (p x))
    (hxs : xs.Pairwise fun a b ↦ p b → p a) : bisect side passes xs = .ok (xs.countP p) := by
  fun_induction bisect side passes xs with
  | case1 xs hlength middle hmiddle ihabove ihbelow =>
    rw [hpasses]
    by_cases h : p xs[middle]
    · have hcount := countP_take_of_passes hxs hmiddle h
      simp only [h, bind, Except.bind, ↓reduceIte, ihabove (hxs.sublist (List.drop_sublist ..)),
        pure, Except.pure]
      rw [countP_eq_take_add_drop p xs (middle + 1), hcount]
    · have hcount := countP_drop_of_not_passes hxs hmiddle h
      simp only [h, bind, Except.bind, ihbelow (hxs.sublist (List.take_sublist ..))]
      rw [countP_eq_take_add_drop p xs middle, hcount]
      simp
  | case2 xs hlength =>
    rw [List.eq_nil_of_length_eq_zero (Nat.eq_zero_of_not_pos hlength)]
    rfl

theorem gallopFrom_eq_countP (hpasses : ∀ x, passes x = .ok (p x))
    (hxs : xs.Pairwise fun a b ↦ p b → p a) {known probe : Nat} (hprobe : known ≤ probe)
    (hknown : (xs.take known).countP p = known) :
    gallopFrom side passes known probe xs = .ok (xs.countP p) := by
  have hrest : (xs.drop known).Pairwise fun a b ↦ p b → p a := hxs.sublist (List.drop_sublist ..)
  fun_induction gallopFrom side passes known probe xs with
  | case1 known probe hlength ih =>
    rw [hpasses]
    by_cases h : p xs[probe]
    · simp only [h, bind, Except.bind, ↓reduceIte]
      exact ih (by omega) (countP_take_of_passes hxs hlength h) (hxs.sublist (List.drop_sublist ..))
    · -- Nothing behind the probe passes, so all that is left lies in front of it.
      have hbehind : ((xs.drop known).drop (probe - known)).countP p = 0 := by
        rw [List.drop_drop, Nat.add_sub_cancel' hprobe]
        exact countP_drop_of_not_passes hxs hlength h
      have hbetween := countP_eq_take_add_drop p (xs.drop known) (probe - known)
      have hbisect := bisect_eq_countP side hpasses
        (hrest.sublist (List.take_sublist (probe - known) _))
      simp only [h, bind, Except.bind, List.drop_take, hbisect, pure, Except.pure]
      rw [countP_eq_take_add_drop p xs known, hknown, hbetween, hbehind]
      simp
  | case2 known probe hlength =>
    simp only [bind, Except.bind, bisect_eq_countP side hpasses hrest, pure, Except.pure]
    rw [countP_eq_take_add_drop p xs known, hknown]

/-- **Galloping counts the elements that pass.** -/
theorem gallop_eq_countP (hpasses : ∀ x, passes x = .ok (p x))
    (hxs : xs.Pairwise fun a b ↦ p b → p a) : gallop side passes xs = .ok (xs.countP p) :=
  gallopFrom_eq_countP side hpasses hxs (Nat.le_refl 0) rfl

end GattPeer.FallibleSort
