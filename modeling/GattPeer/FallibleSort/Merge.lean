import GattPeer.FallibleSort.Search

/-!
# Merging two runs

Two neighbouring runs are merged stably: an element of the right run precedes one of the left run if
it is less. What stands in its place already, at the beginning of the left run and at the end of the
right run, is left there. The rest is merged from the front if the left run is not the longer, and
otherwise from the back, by the same function on the reversed runs.

A merge walks, element by element, until one run has given as many elements in a row as the merge
has patience for. From then on it gallops: it takes whole stretches, of the left run and of the
right run in turn, each followed by the element of the other run that ended it. It walks again after
a round without a long stretch. Galloping that goes on lowers the patience and galloping that ends
raises it, and a sort hands the patience of each merge to the next.

`perm_of_merge` says that a merge holds the elements of both runs.
-/

namespace GattPeer.FallibleSort

variable {ε α : Type}

/-- The least number of elements in a stretch that makes galloping worth while, and the patience at
the beginning of a sort. -/
def longStretch : Nat := 7

/-- How a merge goes on. -/
inductive Pace where
  /-- Walking, after so many elements in a row of the longer run, or of the shorter one. -/
  | walk (longer shorter : Nat)
  /-- Galloping, through the left run or, after a stretch of so many elements in it, through the
  right run. -/
  | gallop (left : Option Nat)

/-- The pace at which walking goes on. -/
def Pace.walking (patience longer shorter : Nat) : Pace :=
  if patience ≤ longer ∨ patience ≤ shorter then .gallop none else .walk longer shorter

/-- Whether a merge is decided: the rest of the longer run, if any, precedes that of the shorter. -/
def isDecided : List α → List α → Bool
  | _ :: _, _ :: _ :: _ => false
  | _, _ => true

/-- The pace and the patience with which a merge goes on after galloping through a stretch, and
after the one in the left run, if this was not the one. A merge that is decided leaves the patience
as it is. -/
def Pace.galloped (left : Option Nat) (stretch patience : Nat) (decided : Bool) : Pace × Nat :=
  match left with
  | none => (.gallop (some stretch), patience)
  | some first =>
    if longStretch ≤ max first stretch then
      (.gallop none, if decided then patience else max 1 (patience - 1))
    else (.walk 0 0, if decided then patience else patience + 1)

/-- Merges the longer and the shorter of two runs that are listed from one side, where `precedes`
tells whether an element of the longer run precedes one of the shorter. Gives the patience, too. -/
def mergeFrom (side : Side) (precedes : α → α → Except ε Bool) (pace : Pace) (patience : Nat) :
    List α → List α → Except ε (List α × Nat)
  | x :: longer, y :: z :: shorter =>
    match pace with
    | .walk ahead behind => do
      if ← precedes x y then
        let pace := .walking patience (ahead + 1) 0
        let (rest, patience) ← mergeFrom side precedes pace patience longer (y :: z :: shorter)
        return (x :: rest, patience)
      else
        let pace := .walking patience 0 (behind + 1)
        let (rest, patience) ← mergeFrom side precedes pace patience (x :: longer) (z :: shorter)
        return (y :: rest, patience)
    | .gallop left => do
      if (side == .front) == left.isNone then
        let stretch ← gallop side (fun y ↦ not <$> precedes x y) (y :: z :: shorter)
        let remaining := (y :: z :: shorter).drop stretch
        let (pace, patience) := Pace.galloped left stretch patience (isDecided longer remaining)
        let (rest, patience) ← mergeFrom side precedes pace patience longer remaining
        return ((y :: z :: shorter).take stretch ++ x :: rest, patience)
      else
        let stretch ← gallop side (fun x ↦ precedes x y) (x :: longer)
        let remaining := (x :: longer).drop stretch
        let (pace, patience) :=
          Pace.galloped left stretch patience (isDecided remaining (z :: shorter))
        let (rest, patience) ← mergeFrom side precedes pace patience remaining (z :: shorter)
        return ((x :: longer).take stretch ++ y :: rest, patience)
  | longer, shorter => .ok (longer ++ shorter, patience)
termination_by longer shorter => longer.length + shorter.length
decreasing_by all_goals simp only [List.length_cons, List.length_drop]; omega

/-- Merges the longer and the shorter of two runs that are listed from one side, of which the longer
one gives the first element. -/
def mergeListed (side : Side) (precedes : α → α → Except ε Bool) (patience : Nat) :
    List α → List α → Except ε (List α × Nat)
  | x :: longer, shorter => do
    let (rest, patience) ← mergeFrom side precedes (.walk 0 0) patience longer shorter
    return (x :: rest, patience)
  | [], shorter => .ok (shorter, patience)

variable (less : α → α → Except ε Bool)

/-- How many elements at the beginning of the left of two runs stand in their places already: those
that the first element of the right run is not less than. -/
def settledInFront (left right : List α) : Except ε Nat :=
  match right with
  | first :: _ => gallop .front (fun x ↦ not <$> less first x) left
  | [] => .ok 0

/-- How many elements at the end of the right of two runs stand in their places already: those that
are not less than the last element of the left run. -/
def settledBehind (left right : List α) : Except ε Nat :=
  match left.getLast? with
  | some last => gallop .back (fun x ↦ not <$> less x last) right.reverse
  | none => .ok 0

/-- Merges two neighbouring runs, from the front if the left one is not the longer, otherwise from
the back. -/
def mergeUnsettled (patience : Nat) (left right : List α) : Except ε (List α × Nat) :=
  if left.length ≤ right.length then mergeListed .front less patience right left
  else do
    let (merged, patience) ←
      mergeListed .back (fun x y ↦ less y x) patience left.reverse right.reverse
    return (merged.reverse, patience)

/-- Merges two neighbouring runs. Gives the patience for the next merge, too. -/
def merge (patience : Nat) (left right : List α) : Except ε (List α × Nat) := do
  let start ← settledInFront less left right
  let settled ← settledBehind less (left.drop start) right
  let stop := right.length - settled
  let (merged, patience) ← mergeUnsettled less patience (left.drop start) (right.take stop)
  return (left.take start ++ merged ++ right.drop stop, patience)

/-! ## The elements of merged runs -/

variable {less}

theorem perm_of_stretch {xs ys rest : List α} {stretch : Nat} (y : α)
    (h : rest.Perm (ys ++ xs.drop stretch)) :
    (xs.take stretch ++ y :: rest).Perm (y :: ys ++ xs) := by
  have moved : (xs.take stretch ++ (ys ++ xs.drop stretch)).Perm (ys ++ xs) := by
    rw [← List.append_assoc]
    refine (List.perm_append_comm.append_right _).trans ?_
    rw [List.append_assoc, List.take_append_drop]
  exact List.perm_middle.trans (((h.append_left _).trans moved).cons y)

theorem perm_of_mergeFrom {side : Side} {precedes : α → α → Except ε Bool} {pace : Pace}
    {patience next : Nat} {longer shorter result : List α}
    (h : mergeFrom side precedes pace patience longer shorter = .ok (result, next)) :
    result.Perm (longer ++ shorter) := by
  fun_induction mergeFrom side precedes pace patience longer shorter generalizing result next with
  | case1 patience x longer y z shorter ahead behind ofLonger ofShorter =>
    obtain ⟨first, -, h⟩ := bind_eq_ok.mp h
    cases first with
    | true =>
      obtain ⟨⟨rest, _⟩, merged, h⟩ := bind_eq_ok.mp h
      obtain ⟨rfl, rfl⟩ := Prod.mk.inj (Except.ok.inj h)
      exact (ofLonger merged).cons x
    | false =>
      obtain ⟨⟨rest, _⟩, merged, h⟩ := bind_eq_ok.mp h
      obtain ⟨rfl, rfl⟩ := Prod.mk.inj (Except.ok.inj h)
      exact ((ofShorter merged).cons y).trans List.perm_middle.symm
  | case2 patience x longer y z shorter left _ ofRest =>
    obtain ⟨stretch, -, h⟩ := bind_eq_ok.mp h
    obtain ⟨⟨rest, _⟩, merged, h⟩ := bind_eq_ok.mp h
    obtain ⟨rfl, rfl⟩ := Prod.mk.inj (Except.ok.inj h)
    exact perm_of_stretch x (ofRest _ _ _ merged)
  | case3 patience x longer y z shorter left _ ofRest =>
    obtain ⟨stretch, -, h⟩ := bind_eq_ok.mp h
    obtain ⟨⟨rest, _⟩, merged, h⟩ := bind_eq_ok.mp h
    obtain ⟨rfl, rfl⟩ := Prod.mk.inj (Except.ok.inj h)
    have := (ofRest _ _ _ merged).trans List.perm_append_comm
    exact (perm_of_stretch y this).trans List.perm_append_comm
  | case4 =>
    obtain ⟨rfl, rfl⟩ := Prod.mk.inj (Except.ok.inj h)
    exact .refl _

theorem perm_of_mergeListed {side : Side} {precedes : α → α → Except ε Bool}
    {patience next : Nat} {longer shorter result : List α}
    (h : mergeListed side precedes patience longer shorter = .ok (result, next)) :
    result.Perm (longer ++ shorter) := by
  match longer with
  | [] =>
    obtain ⟨rfl, rfl⟩ := Prod.mk.inj (Except.ok.inj h)
    exact .refl _
  | x :: longer =>
    obtain ⟨⟨rest, _⟩, merged, h⟩ := bind_eq_ok.mp h
    obtain ⟨rfl, rfl⟩ := Prod.mk.inj (Except.ok.inj h)
    exact (perm_of_mergeFrom merged).cons x

theorem perm_of_mergeUnsettled {patience next : Nat} {left right result : List α}
    (h : mergeUnsettled less patience left right = .ok (result, next)) :
    result.Perm (left ++ right) := by
  rw [mergeUnsettled] at h
  split at h
  · exact (perm_of_mergeListed h).trans List.perm_append_comm
  · obtain ⟨⟨merged, _⟩, found, h⟩ := bind_eq_ok.mp h
    obtain ⟨rfl, rfl⟩ := Prod.mk.inj (Except.ok.inj h)
    refine (List.reverse_perm merged).trans ((perm_of_mergeListed found).trans ?_)
    exact (List.reverse_perm left).append (List.reverse_perm right)

theorem perm_of_merge {patience next : Nat} {left right result : List α}
    (h : merge less patience left right = .ok (result, next)) : result.Perm (left ++ right) := by
  rw [merge] at h
  obtain ⟨start, -, h⟩ := bind_eq_ok.mp h
  obtain ⟨settled, -, h⟩ := bind_eq_ok.mp h
  obtain ⟨⟨merged, _⟩, found, h⟩ := bind_eq_ok.mp h
  obtain ⟨rfl, rfl⟩ := Prod.mk.inj (Except.ok.inj h)
  have moved := ((perm_of_mergeUnsettled found).append_left (left.take start)).append_right
    (right.drop (right.length - settled))
  refine moved.trans (.of_eq ?_)
  rw [← List.append_assoc, List.take_append_drop, List.append_assoc, List.take_append_drop]

end GattPeer.FallibleSort
