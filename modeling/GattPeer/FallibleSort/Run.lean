import GattPeer.FallibleSort.Search

/-!
# Runs

A run is a stretch of a list in ascending order. The elements at the beginning of a list that ascend
already, or that descend strictly and are then reversed, are a run as they stand. Where they are
fewer than a run should have, further elements are put in their places among them by bisection, each
behind those that it is not less than.

`perm_of_nextRun` says that a run and the elements behind as many as it has are the whole list.
-/

namespace GattPeer.FallibleSort

variable {ε α : Type} (less : α → α → Except ε Bool)

/-- Puts an element in its place among elements in ascending order. -/
def insert (x : α) (sorted : List α) : Except ε (List α) := do
  let place ← bisect .front (fun y ↦ not <$> less x y) sorted
  return sorted.take place ++ x :: sorted.drop place

/-- How many elements at the beginning of a list go on from an element in one direction: each is
less than the one before it, or none is. -/
def streak (descending : Bool) (last : α) : List α → Except ε Nat
  | [] => .ok 0
  | x :: xs => do
    if (← less x last) == descending then return (← streak descending x xs) + 1 else return 0

/-- The elements at the beginning of a list that ascend or descend, in ascending order. -/
def naturalRun : List α → Except ε (List α)
  | x :: y :: xs => do
    let descending ← less y x
    let run := x :: y :: xs.take (← streak less descending y xs)
    return if descending then run.reverse else run
  | short => .ok short

/-- The run at the beginning of a list: of so many elements, if there are so many, or of all that
ascend or descend, if those are more. -/
def nextRun (size : Nat) (xs : List α) : Except ε (List α) := do
  let run ← naturalRun less xs
  ((xs.drop run.length).take (size - run.length)).foldlM (fun sorted x ↦ insert less x sorted) run

/-! ## The elements of a run -/

variable {less}

theorem perm_of_insert {x : α} {sorted result : List α} (h : insert less x sorted = .ok result) :
    result.Perm (x :: sorted) := by
  obtain ⟨place, -, h⟩ := bind_eq_ok.mp h
  obtain rfl : sorted.take place ++ x :: sorted.drop place = result := by
    simpa [pure, Except.pure] using h
  exact List.perm_middle.trans (by simp)

theorem perm_of_foldlM {xs sorted result : List α}
    (h : xs.foldlM (fun sorted x ↦ insert less x sorted) sorted = .ok result) :
    result.Perm (sorted ++ xs) := by
  induction xs generalizing sorted with
  | nil =>
    obtain rfl : sorted = result := by simpa [pure, Except.pure] using h
    simp
  | cons x xs ih =>
    rw [List.foldlM_cons] at h
    obtain ⟨next, placed, h⟩ := bind_eq_ok.mp h
    exact (ih h).trans (((perm_of_insert placed).append_right xs).trans List.perm_middle.symm)

theorem take_append_drop_length (count : Nat) (xs : List α) :
    xs.take count ++ xs.drop (xs.take count).length = xs :=
  List.prefix_iff_eq_append.mp <| List.take_prefix count xs

theorem perm_of_naturalRun {xs run : List α} (h : naturalRun less xs = .ok run) :
    (run ++ xs.drop run.length).Perm xs := by
  match xs with
  | [] | [_] =>
    obtain rfl := Except.ok.inj h
    simp
  | x :: y :: xs =>
    obtain ⟨descending, -, h⟩ := bind_eq_ok.mp h
    obtain ⟨count, -, h⟩ := bind_eq_ok.mp h
    have whole : (x :: y :: xs.take count) ++ (x :: y :: xs).drop (x :: y :: xs.take count).length
        = x :: y :: xs := by
      simpa using take_append_drop_length count xs
    cases descending with
    | false =>
      obtain rfl : x :: y :: xs.take count = run := Except.ok.inj h
      exact .of_eq whole
    | true =>
      obtain rfl : (x :: y :: xs.take count).reverse = run := Except.ok.inj h
      rw [List.length_reverse]
      exact ((List.reverse_perm _).append_right _).trans (.of_eq whole)

theorem perm_of_nextRun {size : Nat} {xs run : List α} (h : nextRun less size xs = .ok run) :
    (run ++ xs.drop run.length).Perm xs := by
  obtain ⟨natural, found, h⟩ := bind_eq_ok.mp h
  have grown := perm_of_foldlM h
  rw [grown.length_eq, List.length_append, ← List.drop_drop]
  refine (grown.append_right _).trans ?_
  rw [List.append_assoc, take_append_drop_length]
  exact perm_of_naturalRun found

theorem naturalRun_ne_nil {x : α} {xs : List α} : naturalRun less (x :: xs) ≠ .ok [] := by
  intro h
  cases xs with
  | nil => simp [naturalRun] at h
  | cons y xs =>
    obtain ⟨descending, -, h⟩ := bind_eq_ok.mp h
    obtain ⟨count, -, h⟩ := bind_eq_ok.mp h
    cases descending <;> simp [pure, Except.pure] at h

theorem length_pos_of_nextRun {size : Nat} {x : α} {xs run : List α}
    (h : nextRun less size (x :: xs) = .ok run) : 0 < run.length := by
  obtain ⟨natural, found, h⟩ := bind_eq_ok.mp h
  have some_natural : 0 < natural.length := by
    rw [List.length_pos_iff]
    rintro rfl
    exact naturalRun_ne_nil found
  rw [(perm_of_foldlM h).length_eq, List.length_append]
  omega

end GattPeer.FallibleSort
