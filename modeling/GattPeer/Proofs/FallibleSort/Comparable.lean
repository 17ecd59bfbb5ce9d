import GattPeer.Value.Key

/-!
# Sorting what can be compared

A sort fails only if a comparison fails, and as that comparison does. So elements of which any two
can be compared are sorted, and texts are of this kind. Keys of other kinds may have no order, which
is the only failure of a sort of keys.

Every part of the sort compares nothing but elements that it was given, or that an earlier part gave
back; of these it is known that they are the same elements.
-/

namespace GattPeer

/-! ## How a computation fails -/

section

variable {ε α β : Type} {E : ε → Prop}

/-- If a computation fails, then by a failure of a kind. -/
def FailsBy (E : ε → Prop) (e : Except ε α) : Prop := ∀ failure, e = .error failure → E failure

theorem failsBy_ok (a : α) : FailsBy E (.ok a) := nofun

theorem failsBy_pure (a : α) : FailsBy E (pure a) := nofun

theorem failsBy_error {failure : ε} (h : E failure) : FailsBy E (.error failure : Except ε α) := by
  intro _ heq
  rwa [← Except.error.inj heq]

theorem FailsBy.mono {E' : ε → Prop} {e : Except ε α} (he : FailsBy E e)
    (h : ∀ failure, E failure → E' failure) : FailsBy E' e :=
  fun failure heq ↦ h failure (he failure heq)

theorem FailsBy.bind {e : Except ε α} {next : α → Except ε β} (he : FailsBy E e)
    (hnext : ∀ a, e = .ok a → FailsBy E (next a)) : FailsBy E (e >>= next) := by
  cases e with
  | ok a => exact hnext a rfl
  | error failure => exact failsBy_error (he failure rfl)

theorem FailsBy.map {e : Except ε α} (f : α → β) (he : FailsBy E e) : FailsBy E (f <$> e) := by
  cases e with
  | ok a => exact failsBy_ok (f a)
  | error failure => exact failsBy_error (he failure rfl)

theorem FailsBy.exists_eq_ok {e : Except ε α} (h : FailsBy (fun _ ↦ False) e) :
    ∃ a, e = .ok a := by
  cases e with
  | ok a => exact ⟨a, rfl⟩
  | error failure => exact (h failure rfl).elim

end

namespace FallibleSort

variable {ε α : Type} {E : ε → Prop}

/-! ## Searching -/

section

variable {side : Side} {passes : α → Except ε Bool} {xs : List α}

theorem failsBy_bisect (h : ∀ x ∈ xs, FailsBy E (passes x)) :
    FailsBy E (bisect side passes xs) := by
  fun_induction bisect side passes xs with
  | case1 xs hlength middle hmiddle ihabove ihbelow =>
    refine (h _ (List.getElem_mem hmiddle)).bind fun passed _ ↦ ?_
    cases passed with
    | true =>
      exact (ihabove fun x hx ↦ h x (List.mem_of_mem_drop hx)).bind fun _ _ ↦ failsBy_pure _
    | false => exact ihbelow fun x hx ↦ h x (List.mem_of_mem_take hx)
  | case2 => exact failsBy_ok 0

theorem failsBy_gallopFrom {known probe : Nat} (h : ∀ x ∈ xs, FailsBy E (passes x)) :
    FailsBy E (gallopFrom side passes known probe xs) := by
  fun_induction gallopFrom side passes known probe xs with
  | case1 known probe hprobe ih =>
    refine (h _ (List.getElem_mem hprobe)).bind fun passed _ ↦ ?_
    cases passed with
    | true => exact ih
    | false =>
      refine (failsBy_bisect fun x hx ↦ ?_).bind fun _ _ ↦ failsBy_pure _
      exact h x (List.mem_of_mem_take (List.mem_of_mem_drop hx))
  | case2 known probe hprobe =>
    refine (failsBy_bisect fun x hx ↦ ?_).bind fun _ _ ↦ failsBy_pure _
    exact h x (List.mem_of_mem_drop hx)

theorem failsBy_gallop (h : ∀ x ∈ xs, FailsBy E (passes x)) :
    FailsBy E (gallop side passes xs) :=
  failsBy_gallopFrom h

end

/-! ## Merging and sorting -/

variable {less : α → α → Except ε Bool} {P : α → Prop}

theorem failsBy_mergeFrom {side : Side} {precedes : α → α → Except ε Bool} {pace : Pace}
    {patience : Nat} {longer shorter : List α}
    (hprecedes : ∀ x y, P x → P y → FailsBy E (precedes x y))
    (hlonger : ∀ x ∈ longer, P x) (hshorter : ∀ y ∈ shorter, P y) :
    FailsBy E (mergeFrom side precedes pace patience longer shorter) := by
  fun_induction mergeFrom side precedes pace patience longer shorter with
  | case1 patience x longer y z shorter ahead behind ihlonger ihshorter =>
    obtain ⟨hx, hrest⟩ := List.forall_mem_cons.mp hlonger
    obtain ⟨hy, hrest'⟩ := List.forall_mem_cons.mp hshorter
    refine (hprecedes x y hx hy).bind fun first _ ↦ ?_
    cases first with
    | true => exact (ihlonger hrest hshorter).bind fun _ _ ↦ failsBy_pure _
    | false => exact (ihshorter hlonger hrest').bind fun _ _ ↦ failsBy_pure _
  | case2 patience x longer y z shorter left hside ih =>
    obtain ⟨hx, hrest⟩ := List.forall_mem_cons.mp hlonger
    refine (failsBy_gallop fun y' hy' ↦ (hprecedes x y' hx (hshorter y' hy')).map _).bind ?_
    intro stretch _
    refine (ih stretch _ _ hrest fun y' hy' ↦ ?_).bind fun _ _ ↦ failsBy_pure _
    exact hshorter y' (List.mem_of_mem_drop hy')
  | case3 patience x longer y z shorter left hside ih =>
    obtain ⟨hy, hrest⟩ := List.forall_mem_cons.mp hshorter
    refine (failsBy_gallop fun x' hx' ↦ hprecedes x' y (hlonger x' hx') hy).bind ?_
    intro stretch _
    refine (ih stretch _ _ (fun x' hx' ↦ ?_) hrest).bind fun _ _ ↦ failsBy_pure _
    exact hlonger x' (List.mem_of_mem_drop hx')
  | case4 => exact failsBy_ok _

theorem failsBy_mergeListed {side : Side} {precedes : α → α → Except ε Bool} {patience : Nat}
    {longer shorter : List α} (hprecedes : ∀ x y, P x → P y → FailsBy E (precedes x y))
    (hlonger : ∀ x ∈ longer, P x) (hshorter : ∀ y ∈ shorter, P y) :
    FailsBy E (mergeListed side precedes patience longer shorter) := by
  cases longer with
  | nil => exact failsBy_ok _
  | cons x longer =>
    obtain ⟨-, hrest⟩ := List.forall_mem_cons.mp hlonger
    exact (failsBy_mergeFrom hprecedes hrest hshorter).bind fun _ _ ↦ failsBy_pure _

theorem forall_mem_of_merge {patience next : Nat} {left right merged : List α}
    (h : merge less patience left right = .ok (merged, next)) (hleft : ∀ x ∈ left, P x)
    (hright : ∀ y ∈ right, P y) : ∀ x ∈ merged, P x :=
  fun _ hx ↦ List.forall_mem_append.mpr ⟨hleft, hright⟩ _ ((perm_of_merge h).subset hx)

variable (hless : ∀ x y, P x → P y → FailsBy E (less x y))

include hless

theorem failsBy_merge {patience : Nat} {left right : List α} (hleft : ∀ x ∈ left, P x)
    (hright : ∀ y ∈ right, P y) : FailsBy E (merge less patience left right) := by
  have hstart : FailsBy E (settledInFront less left right) := by
    unfold settledInFront
    split
    · next first rest =>
      exact failsBy_gallop fun x hx ↦ (hless first x (hright _ List.mem_cons_self)
        (hleft x hx)).map _
    · exact failsBy_ok 0
  have hsettled {left : List α} (hleft : ∀ x ∈ left, P x) :
      FailsBy E (settledBehind less left right) := by
    unfold settledBehind
    split
    · next last hlast =>
      refine failsBy_gallop fun x hx ↦ (hless x last (hright x ?_) (hleft last ?_)).map _
      · exact List.mem_reverse.mp hx
      · exact List.mem_of_getLast? hlast
    · exact failsBy_ok 0
  have hmerge {left right : List α} (hleft : ∀ x ∈ left, P x) (hright : ∀ y ∈ right, P y) :
      FailsBy E (mergeUnsettled less patience left right) := by
    unfold mergeUnsettled
    split
    · exact failsBy_mergeListed hless hright hleft
    · refine (failsBy_mergeListed (fun x y hx hy ↦ hless y x hy hx) (fun x hx ↦ ?_)
        fun y hy ↦ ?_).bind fun _ _ ↦ failsBy_pure _
      · exact hleft x (List.mem_reverse.mp hx)
      · exact hright y (List.mem_reverse.mp hy)
  have hdrop (count : Nat) : ∀ x ∈ left.drop count, P x :=
    fun x hx ↦ hleft x (List.mem_of_mem_drop hx)
  refine hstart.bind fun start _ ↦ (hsettled (hdrop start)).bind fun settled _ ↦ ?_
  refine (hmerge (hdrop start) fun y hy ↦ ?_).bind fun _ _ ↦ failsBy_pure _
  exact hright y (List.mem_of_mem_take hy)

theorem failsBy_mergeAbove {power patience : Nat} {pending : Pending α} {run : List α}
    (hpending : ∀ x ∈ pending.elements, P x) (hrun : ∀ x ∈ run, P x) :
    FailsBy E (mergeAbove less power patience pending run) := by
  induction pending generalizing patience run with
  | nil => exact failsBy_ok _
  | cons top pending ih =>
    obtain ⟨left, place⟩ := top
    obtain ⟨hleft, hrest⟩ := List.forall_mem_append.mp hpending
    rw [mergeAbove]
    split
    · refine (failsBy_merge hless hleft hrun).bind fun joined hjoined ↦ ?_
      exact ih hrest (forall_mem_of_merge hjoined hleft hrun)
    · exact failsBy_ok _

theorem failsBy_mergeAll {patience : Nat} {runs : List (List α)}
    (hruns : ∀ run ∈ runs, ∀ x ∈ run, P x) : FailsBy E (mergeAll less patience runs) := by
  fun_induction mergeAll less patience runs with
  | case1 => exact failsBy_ok _
  | case2 => exact failsBy_ok _
  | case3 patience right left =>
    refine (failsBy_merge hless (hruns left ?_) (hruns right ?_)).bind fun _ _ ↦ failsBy_pure _
    · exact List.mem_cons_of_mem _ List.mem_cons_self
    · exact List.mem_cons_self
  | case4 patience right middle left runs hshort ih =>
    obtain ⟨hright, hrest⟩ := List.forall_mem_cons.mp hruns
    obtain ⟨hmiddle, hrest⟩ := List.forall_mem_cons.mp hrest
    obtain ⟨hleft, hrest⟩ := List.forall_mem_cons.mp hrest
    refine (failsBy_merge hless hleft hmiddle).bind fun joined hjoined ↦ ih _ _ ?_
    have hmerged := forall_mem_of_merge hjoined hleft hmiddle
    exact List.forall_mem_cons.mpr ⟨hright, List.forall_mem_cons.mpr ⟨hmerged, hrest⟩⟩
  | case5 patience right middle left runs hshort ih =>
    obtain ⟨hright, hrest⟩ := List.forall_mem_cons.mp hruns
    obtain ⟨hmiddle, hrest⟩ := List.forall_mem_cons.mp hrest
    refine (failsBy_merge hless hmiddle hright).bind fun joined hjoined ↦ ih _ _ ?_
    have hmerged := forall_mem_of_merge hjoined hmiddle hright
    exact List.forall_mem_cons.mpr ⟨hmerged, hrest⟩

theorem failsBy_nextRun {size : Nat} {xs : List α} (hxs : ∀ x ∈ xs, P x) :
    FailsBy E (nextRun less size xs) := by
  have hstreak {descending : Bool} {last : α} {xs : List α} (hlast : P last)
      (hxs : ∀ x ∈ xs, P x) : FailsBy E (streak less descending last xs) := by
    induction xs generalizing last with
    | nil => exact failsBy_ok 0
    | cons x xs ih =>
      obtain ⟨hx, hrest⟩ := List.forall_mem_cons.mp hxs
      refine (hless x last hx hlast).bind fun first _ ↦ ?_
      split
      · exact (ih hx hrest).bind fun _ _ ↦ failsBy_pure _
      · exact failsBy_pure _
  have hnatural : FailsBy E (naturalRun less xs) := by
    match xs with
    | [] => exact failsBy_ok _
    | [_] => exact failsBy_ok _
    | x :: y :: rest =>
      obtain ⟨hx, hrest⟩ := List.forall_mem_cons.mp hxs
      obtain ⟨hy, hrest⟩ := List.forall_mem_cons.mp hrest
      refine (hless y x hy hx).bind fun descending _ ↦ ?_
      exact (hstreak hy hrest).bind fun _ _ ↦ failsBy_pure _
  have hgrow {sorted more : List α} (hsorted : ∀ x ∈ sorted, P x) (hmore : ∀ x ∈ more, P x) :
      FailsBy E (more.foldlM (fun sorted x ↦ insert less x sorted) sorted) := by
    induction more generalizing sorted with
    | nil => exact failsBy_pure _
    | cons x more ih =>
      obtain ⟨hx, hrest⟩ := List.forall_mem_cons.mp hmore
      rw [List.foldlM_cons]
      have hinsert : FailsBy E (insert less x sorted) :=
        (failsBy_bisect fun y hy ↦ (hless x y hx (hsorted y hy)).map _).bind
          fun _ _ ↦ failsBy_pure _
      refine hinsert.bind fun grown hgrown ↦ ih (fun y hy ↦ ?_) hrest
      exact List.forall_mem_cons.mpr ⟨hx, hsorted⟩ y ((perm_of_insert hgrown).subset hy)
  refine hnatural.bind fun run hrun ↦ hgrow (fun x hx ↦ ?_) fun x hx ↦ ?_
  · exact hxs x ((perm_of_naturalRun hrun).subset (List.mem_append_left _ hx))
  · exact hxs x (List.mem_of_mem_drop (List.mem_of_mem_take hx))

theorem failsBy_sortBehind {count patience : Nat} {pending : Pending α} {run xs : List α}
    (hpending : ∀ x ∈ pending.elements, P x) (hrun : ∀ x ∈ run, P x) (hxs : ∀ x ∈ xs, P x) :
    FailsBy E (sortBehind less count patience pending run xs) := by
  fun_induction sortBehind less count patience pending run xs with
  | case1 patience pending run =>
    refine failsBy_mergeAll hless (List.forall_mem_cons.mpr ⟨hrun, fun run' hrun' x hx ↦ ?_⟩)
    exact hpending x (List.mem_flatten_of_mem hrun' hx)
  | case2 patience pending run x xs ih =>
    refine (failsBy_nextRun hless hxs).bind fun next hnext ↦ ?_
    refine (failsBy_mergeAbove hless hpending hrun).bind fun above habove ↦ ?_
    -- What waits, the merged run and the next run hold nothing but elements of the list.
    have hmerged (y : α) (hy : y ∈ above.2.1 ++ above.1.elements) : P y :=
      List.forall_mem_append.mpr ⟨hrun, hpending⟩ y ((perm_of_mergeAbove habove).subset hy)
    refine ih _ _ _ _ hmerged (fun y hy ↦ ?_) fun y hy ↦ ?_
    · exact hxs y ((perm_of_nextRun hnext).subset (List.mem_append_left _ hy))
    · exact hxs y (List.mem_cons_of_mem _ (List.mem_of_mem_drop hy))

/-- **A sort fails only as a comparison does**, of two of its elements. -/
theorem failsBy_sort {xs : List α} (hxs : ∀ x ∈ xs, P x) : FailsBy E (sort less xs) := by
  refine (failsBy_nextRun hless hxs).bind fun run hrun ↦ ?_
  refine failsBy_sortBehind hless (fun _ hx ↦ absurd hx List.not_mem_nil) (fun x hx ↦ ?_)
    fun x hx ↦ hxs x (List.mem_of_mem_drop hx)
  exact hxs x ((perm_of_nextRun hrun).subset (List.mem_append_left _ hx))

end FallibleSort

/-- A failure says that two values have no order between them. -/
def Failure.IsUnordered (failure : Failure) : Prop :=
  ∃ left right, failure = .notComparable left right

namespace Value

mutual

theorem failsBy_less (a b : Value) : FailsBy Failure.IsUnordered (less a b) := by
  unfold less
  split
  · exact failsBy_ok _
  · exact failsBy_lessItems _ _
  · exact failsBy_lessItems _ _
  · split
    · exact failsBy_ok _
    · split
      · exact failsBy_ok _
      · exact failsBy_error ⟨_, _, rfl⟩

theorem failsBy_lessItems (as bs : List Value) :
    FailsBy Failure.IsUnordered (lessItems as bs) := by
  unfold lessItems
  split
  · exact failsBy_ok _
  · exact failsBy_ok _
  · split
    · exact failsBy_lessItems _ _
    · exact failsBy_less _ _

end

/-- **Keys are sorted unless two of them have no order.** -/
theorem failsBy_sortKeys (keys : List Value) : FailsBy Failure.IsUnordered (sortKeys keys) :=
  FallibleSort.failsBy_sort (P := fun _ ↦ True) (fun a b _ _ ↦ failsBy_less a b) fun _ _ ↦ trivial

/-- **Texts are sorted**, as keys of a mapping. -/
theorem exists_sortKeys {keys : List Value} (h : ∀ key ∈ keys, ∃ text, key = .text text) :
    ∃ names, sortKeys keys = .ok names ∧ names.Perm keys := by
  have hless : ∀ a b : Value, (∃ text, a = .text text) → (∃ text, b = .text text) →
      FailsBy (fun _ ↦ False) (less a b) := by
    rintro _ _ ⟨a, rfl⟩ ⟨b, rfl⟩
    rw [less.eq_1]
    exact failsBy_ok _
  obtain ⟨names, hnames⟩ := (FallibleSort.failsBy_sort hless h).exists_eq_ok
  exact ⟨names, hnames, FallibleSort.perm_of_sort hnames⟩

end Value

end GattPeer
