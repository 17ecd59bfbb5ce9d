import GattPeer.FallibleSort.Merge
import GattPeer.FallibleSort.Run

/-!
# Sorting by a comparison that may fail

A stable sort by a comparison that may fail, or that may be no order. Then it matters which elements
are compared, and in which sequence: the failure of the first comparison that fails is the failure
of the sort, and elements without an order stay where the comparisons leave them.

The list is taken run by run, and neighbouring runs are merged. Which are merged first depends on
where they meet. The middle of each run is a fraction of the whole list, and the power of the place
where two runs meet is the number of binary digits that tell their middles apart; of two
neighbouring places, the one with the greater power is merged first. So the merges are nearly those
of a list that is halved again and again.

`perm_of_sort` says that a sort that does not fail neither loses nor repeats an element.
-/

namespace GattPeer.FallibleSort

variable {ε α : Type} (less : α → α → Except ε Bool)

/-- The least size of the runs of so many elements: all of them if they are fewer than 64, otherwise
between 32 and 64, so that the number of runs is a power of two or just below one. -/
def runSize (count : Nat) : Nat :=
  let runs := Nat.pow 2 (count.log2 - 5)
  (count + runs - 1) / runs

/-- The power of the place where two runs meet among so many elements, by the elements in front of
it and the sizes of both runs: the number of binary digits that tell their middles apart. -/
def power (count place left right : Nat) : Nat :=
  let digits (middle n : Nat) := middle * Nat.pow 2 n / (2 * count)
  (List.range (count.log2 + 2)).findIdx fun n ↦
    digits (2 * place - left) n != digits (2 * place + right) n

/-- Runs that wait to be merged with what follows, the last one first, each with the power of the
place where it ends. -/
abbrev Pending (α : Type) := List (List α × Nat)

/-- Merges a run with those in front of it that meet at places of a greater power. Gives the runs
that wait, the merged run, and the patience. -/
def mergeAbove (power patience : Nat) :
    Pending α → List α → Except ε (Pending α × List α × Nat)
  | [], run => .ok ([], run, patience)
  | (left, place) :: pending, run =>
    if power < place then do
      let (merged, patience) ← merge less patience left run
      mergeAbove power patience pending merged
    else .ok ((left, place) :: pending, run, patience)

/-- Merges all runs, the last one first. The last but one is merged with the one in front of it
first if that is smaller than the last. -/
def mergeAll (patience : Nat) : List (List α) → Except ε (List α)
  | [] => .ok []
  | [run] => .ok run
  | [right, left] => do
    let (merged, _) ← merge less patience left right
    return merged
  | right :: middle :: left :: runs =>
    if left.length < right.length then do
      let (merged, patience) ← merge less patience left middle
      mergeAll patience (right :: merged :: runs)
    else do
      let (merged, patience) ← merge less patience middle right
      mergeAll patience (merged :: left :: runs)
termination_by runs => runs.length

/-- Sorts so many elements: those of the runs that wait, of the run behind them, and of the list
behind that. -/
def sortBehind (count patience : Nat) (pending : Pending α) (run : List α) :
    List α → Except ε (List α)
  | [] => mergeAll less patience (run :: pending.map Prod.fst)
  | x :: xs => do
    let next ← nextRun less (runSize count) (x :: xs)
    let place := count - (xs.length + 1)
    let power := power count place run.length next.length
    let (pending, run, patience) ← mergeAbove less power patience pending run
    sortBehind count patience ((run, power) :: pending) next (xs.drop (next.length - 1))
termination_by xs => xs.length
decreasing_by simp only [List.length_cons, List.length_drop]; omega

/-- The elements in ascending order. -/
def sort (xs : List α) : Except ε (List α) := do
  let run ← nextRun less (runSize xs.length) xs
  sortBehind less xs.length longStretch [] run (xs.drop run.length)

/-! ## The elements are kept -/

variable {less}

def Pending.elements (pending : Pending α) : List α := (pending.map Prod.fst).flatten

theorem perm_of_mergeAbove {power patience next : Nat} {pending rest : Pending α}
    {run merged : List α}
    (h : mergeAbove less power patience pending run = .ok (rest, merged, next)) :
    (merged ++ rest.elements).Perm (run ++ pending.elements) := by
  induction pending generalizing patience run with
  | nil =>
    obtain ⟨rfl, rfl, rfl⟩ := by simpa [mergeAbove] using h
    exact .refl _
  | cons top pending ih =>
    obtain ⟨left, place⟩ := top
    rw [mergeAbove] at h
    split at h
    · obtain ⟨⟨joined, _⟩, found, h⟩ := bind_eq_ok.mp h
      refine (ih h).trans ?_
      rw [Pending.elements, Pending.elements, List.map_cons, List.flatten_cons,
        ← List.append_assoc]
      exact ((perm_of_merge found).trans List.perm_append_comm).append_right _
    · obtain ⟨rfl, rfl, rfl⟩ := by simpa using h
      exact .refl _

theorem perm_of_mergeAll {patience : Nat} {runs : List (List α)} {result : List α}
    (h : mergeAll less patience runs = .ok result) : result.Perm runs.flatten := by
  fun_induction mergeAll less patience runs with
  | case1 =>
    obtain rfl := Except.ok.inj h
    exact .refl _
  | case2 =>
    obtain rfl := Except.ok.inj h
    simp
  | case3 patience right left =>
    obtain ⟨⟨merged, _⟩, found, h⟩ := bind_eq_ok.mp h
    obtain rfl := Except.ok.inj h
    simpa using (perm_of_merge found).trans List.perm_append_comm
  | case4 patience right middle left runs _ ofRest =>
    obtain ⟨⟨merged, _⟩, found, h⟩ := bind_eq_ok.mp h
    refine (ofRest _ _ h).trans (.append_left _ ?_)
    simp only [List.flatten_cons, ← List.append_assoc]
    exact ((perm_of_merge found).trans List.perm_append_comm).append_right _
  | case5 patience right middle left runs _ ofRest =>
    obtain ⟨⟨merged, _⟩, found, h⟩ := bind_eq_ok.mp h
    refine (ofRest _ _ h).trans ?_
    simp only [List.flatten_cons, ← List.append_assoc]
    exact (((perm_of_merge found).trans List.perm_append_comm).append_right _).append_right _

theorem perm_of_sortBehind {count patience : Nat} {pending : Pending α} {run xs result : List α}
    (h : sortBehind less count patience pending run xs = .ok result) :
    result.Perm (run ++ pending.elements ++ xs) := by
  fun_induction sortBehind less count patience pending run xs with
  | case1 =>
    simpa [Pending.elements] using perm_of_mergeAll h
  | case2 patience pending run x xs ofRest =>
    obtain ⟨next, found, h⟩ := bind_eq_ok.mp h
    obtain ⟨⟨above, merged, _⟩, joined, h⟩ := bind_eq_ok.mp h
    have kept : (next ++ xs.drop (next.length - 1)).Perm (x :: xs) := by
      have := perm_of_nextRun found
      rwa [List.drop_cons (length_pos_of_nextRun found)] at this
    refine (ofRest _ _ _ _ h).trans ((List.perm_append_comm.append_right _).trans ?_)
    rw [List.append_assoc]
    exact (perm_of_mergeAbove joined).append kept

/-- A sort that does not fail neither loses nor repeats an element. -/
theorem perm_of_sort {xs result : List α} (h : sort less xs = .ok result) : result.Perm xs := by
  obtain ⟨run, found, h⟩ := bind_eq_ok.mp h
  refine (perm_of_sortBehind h).trans ?_
  simpa [Pending.elements] using perm_of_nextRun found

end GattPeer.FallibleSort
