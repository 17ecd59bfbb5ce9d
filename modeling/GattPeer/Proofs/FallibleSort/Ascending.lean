import GattPeer.Proofs.FallibleSort.Comparable
import GattPeer.Proofs.FallibleSort.Search
import Mathlib.Data.List.Chain

/-!
# Sorting what can be ranked

If a comparison never fails and ranks the elements, the sort does what its name says: it does not
fail, and it gives the same elements in ascending order, whichever of them it compares and in which
sequence.

A merge takes its elements in order as long as both runs last. When one of them ends, what remains
of the other is not looked at any more. It is in its place because of what was settled before: the
longer run gives the first element of the merge, and the shorter one the last.

A merge from the back is one from the front in the opposite order, with both runs reversed. So what
is said about merging is said for every order.
-/

namespace GattPeer.FallibleSort

variable {ε α : Type} {le : α → α → Bool} {less : α → α → Except ε Bool}

/-- A comparison ranks the elements: it never fails, and an element is less than another if the
other is not at most it. Of any two elements, one is at most the other. -/
structure Ranks (le : α → α → Bool) (less : α → α → Except ε Bool) : Prop where
  /-- To be at most something is transitive. -/
  trans : ∀ {a b c}, le a b → le b c → le a c
  /-- Any two elements can be ranked. -/
  total : ∀ a b, le a b ∨ le b a
  /-- What the comparison answers. -/
  less_eq : ∀ a b, less a b = .ok (!le b a)

theorem pairwise_cons_of_perm {x : α} {xs ys rest : List α} (hperm : rest.Perm (xs ++ ys))
    (hrest : rest.Pairwise (le · ·)) (hxs : ∀ a ∈ xs, le x a) (hys : ∀ a ∈ ys, le x a) :
    (x :: rest).Pairwise (le · ·) :=
  List.pairwise_cons.mpr
    ⟨fun a ha ↦ List.forall_mem_append.mpr ⟨hxs, hys⟩ a (hperm.subset ha), hrest⟩

theorem mem_head?_of_take {x : α} {xs : List α} {count : Nat}
    (hx : x ∈ (xs.take count).head?) : x ∈ xs.head? := by
  rw [List.head?_take] at hx
  split at hx
  · cases hx
  · exact hx

theorem mem_getLast?_of_drop {x : α} {xs : List α} {count : Nat}
    (hx : x ∈ (xs.drop count).getLast?) : x ∈ xs.getLast? := by
  rw [List.getLast?_drop] at hx
  split at hx
  · cases hx
  · exact hx

namespace Ranks

variable (h : Ranks le less)

include h

theorem flip : Ranks (fun a b ↦ le b a) (fun a b ↦ less b a) where
  trans hab hbc := h.trans hbc hab
  total a b := h.total b a
  less_eq a b := h.less_eq b a

theorem le_of_not_le {a b : α} (hab : ¬ le a b) : le b a := (h.total a b).resolve_left hab

theorem eq_of_less {a b : α} {isLess : Bool} (hless : less a b = .ok isLess) :
    isLess = !le b a :=
  Except.ok.inj (hless.symm.trans (h.less_eq a b))

theorem not_less_eq (x y : α) : (not <$> less x y) = .ok (le y x) := by
  rw [h.less_eq]
  simp

theorem forall_mem_cons {x y : α} {ys : List α} (hxy : le x y)
    (hys : (y :: ys).Pairwise (le · ·)) : ∀ a ∈ y :: ys, le x a := by
  intro a ha
  rcases List.mem_cons.mp ha with rfl | ha
  · exact hxy
  · exact h.trans hxy ((List.pairwise_cons.mp hys).1 a ha)

theorem pairwise_append_cons {x : α} {xs rest : List α} (hxs : xs.Pairwise (le · ·))
    (hx : ∀ a ∈ xs, le a x) (hrest : (x :: rest).Pairwise (le · ·)) :
    (xs ++ x :: rest).Pairwise (le · ·) :=
  List.pairwise_append.mpr ⟨hxs, hrest, fun a ha ↦ h.forall_mem_cons (hx a ha) hrest⟩

/-! ## Searching -/

theorem pairwise_imp_le {xs : List α} (hxs : xs.Pairwise (le · ·)) (x : α) :
    xs.Pairwise fun a b ↦ le b x → le a x := hxs.imp fun hab hb ↦ h.trans hab hb

theorem sides_of_countP (x : α) {xs : List α} (hxs : xs.Pairwise (le · ·)) :
    (∀ y ∈ xs.take (xs.countP (le · x)), le y x) ∧
      ∀ y ∈ xs.drop (xs.countP (le · x)), le x y := by
  obtain ⟨htake, hdrop⟩ := take_drop_countP (h.pairwise_imp_le hxs x)
  exact ⟨htake, fun y hy ↦ h.le_of_not_le (hdrop y hy)⟩

theorem sides_of_bisect {side : Side} {x : α} {xs : List α} {count : Nat}
    (hbisect : bisect side (fun y ↦ not <$> less x y) xs = .ok count)
    (hxs : xs.Pairwise (le · ·)) :
    (∀ y ∈ xs.take count, le y x) ∧ ∀ y ∈ xs.drop count, le x y := by
  rw [bisect_eq_countP side (h.not_less_eq x) (h.pairwise_imp_le hxs x)] at hbisect
  obtain rfl := Except.ok.inj hbisect
  exact h.sides_of_countP x hxs

theorem sides_of_gallop {side : Side} {x : α} {xs : List α} {count : Nat}
    (hgallop : gallop side (fun y ↦ not <$> less x y) xs = .ok count)
    (hxs : xs.Pairwise (le · ·)) :
    (∀ y ∈ xs.take count, le y x) ∧ ∀ y ∈ xs.drop count, le x y := by
  rw [gallop_eq_countP side (h.not_less_eq x) (h.pairwise_imp_le hxs x)] at hgallop
  obtain rfl := Except.ok.inj hgallop
  exact h.sides_of_countP x hxs

/-- Galloping finds the place of an element in front of those that it is at most. -/
theorem sides_of_gallop_strict {side : Side} {y : α} {xs : List α} {count : Nat}
    (hgallop : gallop side (fun x ↦ less x y) xs = .ok count) (hxs : xs.Pairwise (le · ·)) :
    (∀ x ∈ xs.take count, le x y) ∧ ∀ x ∈ xs.drop count, le y x := by
  have hsplit : xs.Pairwise fun a b ↦ !le y b → !le y a := by
    refine hxs.imp fun {a b} hab hb ↦ ?_
    rw [Bool.not_eq_true'] at hb ⊢
    exact Bool.eq_false_iff.mpr fun ha ↦ Bool.eq_false_iff.mp hb (h.trans ha hab)
  rw [gallop_eq_countP side (fun x ↦ h.less_eq x y) hsplit] at hgallop
  obtain rfl := Except.ok.inj hgallop
  obtain ⟨htake, hdrop⟩ := take_drop_countP hsplit
  refine ⟨fun x hx ↦ h.le_of_not_le ?_, fun x hx ↦ ?_⟩
  · simpa using htake x hx
  · simpa using hdrop x hx

/-! ## Merging -/

/-- What a merge takes is in order, if the last element of the shorter run is in its place. -/
theorem pairwise_of_mergeFrom {side : Side} {pace : Pace} {patience next : Nat}
    {longer shorter result : List α}
    (hmerge : mergeFrom side less pace patience longer shorter = .ok (result, next))
    (hlonger : longer.Pairwise (le · ·)) (hshorter : shorter.Pairwise (le · ·))
    (hlast : ∀ y ∈ shorter.getLast?, ∀ x ∈ longer, le x y) : result.Pairwise (le · ·) := by
  fun_induction mergeFrom side less pace patience longer shorter generalizing result next with
  | case1 patience x longer y z shorter ahead behind ihlonger ihshorter =>
    obtain ⟨first, hfirst, hmerge⟩ := bind_eq_ok.mp hmerge
    obtain rfl := h.eq_of_less hfirst
    obtain ⟨hx, hrest⟩ := List.pairwise_cons.mp hlonger
    obtain ⟨hy, hrest'⟩ := List.pairwise_cons.mp hshorter
    by_cases hyx : le y x
    · rw [hyx] at hmerge
      obtain ⟨⟨rest, _⟩, hmerged, heq⟩ := bind_eq_ok.mp hmerge
      obtain ⟨rfl, rfl⟩ := Prod.mk.inj (Except.ok.inj heq)
      have hordered := ihshorter hmerged hlonger hrest' hlast
      exact pairwise_cons_of_perm (perm_of_mergeFrom hmerged) hordered
        (h.forall_mem_cons hyx hlonger) hy
    · rw [Bool.eq_false_iff.mpr hyx] at hmerge
      obtain ⟨⟨rest, _⟩, hmerged, heq⟩ := bind_eq_ok.mp hmerge
      obtain ⟨rfl, rfl⟩ := Prod.mk.inj (Except.ok.inj heq)
      have hordered := ihlonger hmerged hrest hshorter fun w hw a ha ↦
        hlast w hw a (List.mem_cons_of_mem x ha)
      exact pairwise_cons_of_perm (perm_of_mergeFrom hmerged) hordered hx
        (h.forall_mem_cons (h.le_of_not_le hyx) hshorter)
  | case2 patience x longer y z shorter left hside ih =>
    -- A stretch of the shorter run goes in front of the next element of the longer one.
    obtain ⟨stretch, hstretch, hmerge⟩ := bind_eq_ok.mp hmerge
    obtain ⟨⟨rest, _⟩, hmerged, heq⟩ := bind_eq_ok.mp hmerge
    obtain ⟨rfl, rfl⟩ := Prod.mk.inj (Except.ok.inj heq)
    obtain ⟨hx, hrest⟩ := List.pairwise_cons.mp hlonger
    obtain ⟨htake, hdrop⟩ := h.sides_of_gallop hstretch hshorter
    have hordered := ih _ _ _ hmerged hrest (hshorter.sublist (List.drop_sublist ..))
      fun w hw a ha ↦ hlast w (mem_getLast?_of_drop hw) a (List.mem_cons_of_mem x ha)
    refine h.pairwise_append_cons (hshorter.sublist (List.take_sublist ..)) htake ?_
    exact pairwise_cons_of_perm (perm_of_mergeFrom hmerged) hordered hx hdrop
  | case3 patience x longer y z shorter left hside ih =>
    -- A stretch of the longer run goes in front of the next element of the shorter one.
    obtain ⟨stretch, hstretch, hmerge⟩ := bind_eq_ok.mp hmerge
    obtain ⟨⟨rest, _⟩, hmerged, heq⟩ := bind_eq_ok.mp hmerge
    obtain ⟨rfl, rfl⟩ := Prod.mk.inj (Except.ok.inj heq)
    obtain ⟨hy, hrest⟩ := List.pairwise_cons.mp hshorter
    obtain ⟨htake, hdrop⟩ := h.sides_of_gallop_strict hstretch hlonger
    have hordered := ih _ _ _ hmerged (hlonger.sublist (List.drop_sublist ..)) hrest fun w hw a ha ↦
      hlast w hw a (List.mem_of_mem_drop ha)
    refine h.pairwise_append_cons (hlonger.sublist (List.take_sublist ..)) htake ?_
    exact pairwise_cons_of_perm (perm_of_mergeFrom hmerged) hordered hdrop hy
  | case4 pace patience longer shorter hended =>
    obtain ⟨rfl, rfl⟩ := Prod.mk.inj (Except.ok.inj hmerge)
    refine List.pairwise_append.mpr ⟨hlonger, hshorter, fun a ha b hb ↦ ?_⟩
    rcases shorter with _ | ⟨y, _ | ⟨z, shorter⟩⟩
    · exact absurd hb List.not_mem_nil
    · rw [List.mem_singleton.mp hb]
      exact hlast y rfl a ha
    · rcases longer with _ | ⟨x, longer⟩
      · exact absurd ha List.not_mem_nil
      · exact (hended x longer y z shorter rfl rfl).elim

/-- Two runs are merged in order, if the longer one gives the first element and the shorter one the
last. -/
theorem pairwise_of_mergeListed {side : Side} {patience next : Nat}
    {longer shorter result : List α}
    (hmerge : mergeListed side less patience longer shorter = .ok (result, next))
    (hlonger : longer.Pairwise (le · ·)) (hshorter : shorter.Pairwise (le · ·))
    (hfirst : ∀ x ∈ longer.head?, ∀ y ∈ shorter, le x y)
    (hlast : ∀ y ∈ shorter.getLast?, ∀ x ∈ longer, le x y) : result.Pairwise (le · ·) := by
  cases longer with
  | nil =>
    obtain ⟨rfl, rfl⟩ := Prod.mk.inj (Except.ok.inj hmerge)
    exact hshorter
  | cons x longer =>
    obtain ⟨⟨rest, _⟩, hmerged, heq⟩ := bind_eq_ok.mp hmerge
    obtain ⟨rfl, rfl⟩ := Prod.mk.inj (Except.ok.inj heq)
    obtain ⟨hx, hrest⟩ := List.pairwise_cons.mp hlonger
    have hordered := h.pairwise_of_mergeFrom hmerged hrest hshorter fun y hy a ha ↦
      hlast y hy a (List.mem_cons_of_mem x ha)
    exact pairwise_cons_of_perm (perm_of_mergeFrom hmerged) hordered hx (hfirst x rfl)

theorem pairwise_of_mergeUnsettled {patience next : Nat} {left right result : List α}
    (hmerge : mergeUnsettled less patience left right = .ok (result, next))
    (hleft : left.Pairwise (le · ·)) (hright : right.Pairwise (le · ·))
    (hfirst : ∀ y ∈ right.head?, ∀ x ∈ left, le y x)
    (hlast : ∀ x ∈ left.getLast?, ∀ y ∈ right, le y x) : result.Pairwise (le · ·) := by
  rw [mergeUnsettled] at hmerge
  split at hmerge
  · exact h.pairwise_of_mergeListed hmerge hright hleft hfirst hlast
  · obtain ⟨⟨merged, _⟩, hmerged, heq⟩ := bind_eq_ok.mp hmerge
    obtain ⟨rfl, rfl⟩ := Prod.mk.inj (Except.ok.inj heq)
    refine List.pairwise_reverse.mpr (h.flip.pairwise_of_mergeListed hmerged
      (List.pairwise_reverse.mpr hleft) (List.pairwise_reverse.mpr hright) ?_ ?_)
    · intro x hx y hy
      exact hlast x (by rwa [List.head?_reverse] at hx) y (List.mem_reverse.mp hy)
    · intro y hy x hx
      exact hfirst y (by rwa [List.getLast?_reverse] at hy) x (List.mem_reverse.mp hx)

/-- What is settled in front stands in front of the right run, the first element of which stands in
front of the rest of the left run. -/
theorem sides_of_settledInFront {left right : List α} {start : Nat}
    (hstart : settledInFront less left right = .ok start) (hleft : left.Pairwise (le · ·))
    (hright : right.Pairwise (le · ·)) :
    (∀ x ∈ left.take start, ∀ y ∈ right, le x y) ∧
      ∀ y ∈ right.head?, ∀ x ∈ left.drop start, le y x := by
  cases right with
  | nil => simp
  | cons first right =>
    obtain ⟨htake, hdrop⟩ := h.sides_of_gallop hstart hleft
    refine ⟨fun x hx ↦ h.forall_mem_cons (htake x hx) hright, fun y hy x hx ↦ ?_⟩
    obtain rfl := Option.some.inj hy
    exact hdrop x hx

/-- What is settled behind stands behind the left run, the last element of which stands behind the
rest of the right run. -/
theorem sides_of_settledBehind {left right : List α} {settled : Nat}
    (hsettled : settledBehind less left right = .ok settled) (hleft : left.Pairwise (le · ·))
    (hright : right.Pairwise (le · ·)) :
    (∀ x ∈ left, ∀ y ∈ right.drop (right.length - settled), le x y) ∧
      ∀ x ∈ left.getLast?, ∀ y ∈ right.take (right.length - settled), le y x := by
  rcases List.eq_nil_or_concat' left with rfl | ⟨front, last, rfl⟩
  · simp
  rw [settledBehind, List.getLast?_concat] at hsettled
  obtain ⟨htake, hdrop⟩ := h.flip.sides_of_gallop hsettled (List.pairwise_reverse.mpr hright)
  rw [List.take_reverse] at htake
  rw [List.drop_reverse] at hdrop
  have hbehind : ∀ y ∈ right.drop (right.length - settled), le last y :=
    fun y hy ↦ htake y (List.mem_reverse.mpr hy)
  constructor
  · intro x hx y hy
    rcases List.mem_append.mp hx with hx | hx
    · have hxlast : le x last := (List.pairwise_append.mp hleft).2.2 x hx last (by simp)
      exact h.trans hxlast (hbehind y hy)
    · rw [List.mem_singleton.mp hx]
      exact hbehind y hy
  · intro x hx y hy
    obtain rfl : last = x := by simpa using hx
    exact hdrop y (List.mem_reverse.mpr hy)

/-- **Two sorted runs are merged into one.** -/
theorem pairwise_of_merge {patience next : Nat} {left right result : List α}
    (hmerge : merge less patience left right = .ok (result, next))
    (hleft : left.Pairwise (le · ·)) (hright : right.Pairwise (le · ·)) :
    result.Pairwise (le · ·) := by
  obtain ⟨start, hstart, hmerge⟩ := bind_eq_ok.mp hmerge
  obtain ⟨settled, hsettled, hmerge⟩ := bind_eq_ok.mp hmerge
  obtain ⟨⟨merged, _⟩, hmerged, heq⟩ := bind_eq_ok.mp hmerge
  obtain ⟨rfl, rfl⟩ := Prod.mk.inj (Except.ok.inj heq)
  have hrest : (left.drop start).Pairwise (le · ·) := hleft.sublist (List.drop_sublist ..)
  obtain ⟨hfront, hfirst⟩ := h.sides_of_settledInFront hstart hleft hright
  obtain ⟨hbehind, hlast⟩ := h.sides_of_settledBehind hsettled hrest hright
  have hperm := perm_of_mergeUnsettled hmerged
  have hordered := h.pairwise_of_mergeUnsettled hmerged hrest
    (hright.sublist (List.take_sublist ..)) (fun y hy ↦ hfirst y (mem_head?_of_take hy)) hlast
  -- Both runs are cut in two, and each part stands in front of what follows it.
  rw [← List.take_append_drop start left] at hleft
  rw [← List.take_append_drop (right.length - settled) right] at hright
  obtain ⟨hleftFront, -, hleftCut⟩ := List.pairwise_append.mp hleft
  obtain ⟨-, hrightBehind, hrightCut⟩ := List.pairwise_append.mp hright
  refine List.pairwise_append.mpr ⟨List.pairwise_append.mpr ⟨hleftFront, hordered, ?_⟩,
    hrightBehind, ?_⟩
  · intro a ha b hb
    rcases List.mem_append.mp (hperm.subset hb) with hb | hb
    · exact hleftCut a ha b hb
    · exact hfront a ha b (List.mem_of_mem_take hb)
  · intro a ha b hb
    rcases List.mem_append.mp ha with ha | ha
    · exact hfront a ha b (List.mem_of_mem_drop hb)
    rcases List.mem_append.mp (hperm.subset ha) with ha | ha
    · exact hbehind a ha b hb
    · exact hrightCut a ha b hb

/-! ## Runs -/

theorem pairwise_of_insert {x : α} {sorted result : List α}
    (hinsert : insert less x sorted = .ok result) (hsorted : sorted.Pairwise (le · ·)) :
    result.Pairwise (le · ·) := by
  obtain ⟨place, hplace, heq⟩ := bind_eq_ok.mp hinsert
  obtain rfl := Except.ok.inj heq
  obtain ⟨htake, hdrop⟩ := h.sides_of_bisect hplace hsorted
  refine h.pairwise_append_cons (hsorted.sublist (List.take_sublist ..)) htake ?_
  exact List.pairwise_cons.mpr ⟨hdrop, hsorted.sublist (List.drop_sublist ..)⟩

theorem pairwise_of_foldlM {xs sorted result : List α}
    (hfold : xs.foldlM (fun sorted x ↦ insert less x sorted) sorted = .ok result)
    (hsorted : sorted.Pairwise (le · ·)) : result.Pairwise (le · ·) := by
  induction xs generalizing sorted with
  | nil =>
    obtain rfl := Except.ok.inj hfold
    exact hsorted
  | cons x xs ih =>
    rw [List.foldlM_cons] at hfold
    obtain ⟨grown, hgrown, hfold⟩ := bind_eq_ok.mp hfold
    exact ih hfold (h.pairwise_of_insert hgrown hsorted)

/-- Along a streak, each element is ranked against the one before it in the same way. -/
theorem isChain_of_streak {descending : Bool} {last : α} {xs : List α} {count : Nat}
    (hstreak : streak less descending last xs = .ok count) :
    (last :: xs.take count).IsChain fun a b ↦ le a b = !descending := by
  induction xs generalizing last count with
  | nil => simp
  | cons x xs ih =>
    obtain ⟨first, hfirst, hstreak⟩ := bind_eq_ok.mp hstreak
    obtain rfl := h.eq_of_less hfirst
    split at hstreak
    · next hgoes =>
      obtain ⟨more, hmore, heq⟩ := bind_eq_ok.mp hstreak
      obtain rfl := Except.ok.inj heq
      rw [List.take_succ_cons, List.isChain_cons_cons, ← beq_iff_eq.mp hgoes, Bool.not_not]
      exact ⟨rfl, by simpa [← beq_iff_eq.mp hgoes] using ih hmore⟩
    · obtain rfl := Except.ok.inj hstreak
      simp

theorem pairwise_of_naturalRun {xs run : List α} (hrun : naturalRun less xs = .ok run) :
    run.Pairwise (le · ·) := by
  match xs with
  | [] | [_] =>
    obtain rfl := Except.ok.inj hrun
    simp
  | x :: y :: xs =>
    obtain ⟨descending, hfirst, hrun⟩ := bind_eq_ok.mp hrun
    obtain ⟨count, hstreak, heq⟩ := bind_eq_ok.mp hrun
    obtain rfl := h.eq_of_less hfirst
    have hchain : (x :: y :: xs.take count).IsChain fun a b ↦ le a b = le x y :=
      List.isChain_cons_cons.mpr ⟨rfl, by simpa using h.isChain_of_streak hstreak⟩
    have ascending : Trans (le · ·) (le · ·) (le · ·) := ⟨h.trans⟩
    have descending : Trans (fun a b ↦ le b a) (fun a b ↦ le b a) (fun a b ↦ le b a) :=
      ⟨h.flip.trans⟩
    by_cases hxy : le x y
    · simp only [hxy] at heq hchain
      obtain rfl := Except.ok.inj heq
      exact hchain.pairwise
    · simp only [hxy] at heq hchain
      obtain rfl := Except.ok.inj heq
      have hdescends : (x :: y :: xs.take count).IsChain fun a b ↦ le b a :=
        hchain.imp fun a b hab ↦ h.le_of_not_le (Bool.eq_false_iff.mp (by simpa [hxy] using hab))
      exact List.pairwise_reverse.mpr hdescends.pairwise

theorem pairwise_of_nextRun {size : Nat} {xs run : List α}
    (hrun : nextRun less size xs = .ok run) : run.Pairwise (le · ·) := by
  obtain ⟨natural, hnatural, hfold⟩ := bind_eq_ok.mp hrun
  exact h.pairwise_of_foldlM hfold (h.pairwise_of_naturalRun hnatural)

/-! ## Sorting -/

theorem pairwise_of_mergeAbove {power patience next : Nat} {pending rest : Pending α}
    {run merged : List α}
    (hmerge : mergeAbove less power patience pending run = .ok (rest, merged, next))
    (hpending : ∀ waiting ∈ pending, waiting.1.Pairwise (le · ·)) (hrun : run.Pairwise (le · ·)) :
    (∀ waiting ∈ rest, waiting.1.Pairwise (le · ·)) ∧ merged.Pairwise (le · ·) := by
  induction pending generalizing patience run with
  | nil =>
    obtain ⟨rfl, rfl, rfl⟩ := by simpa [mergeAbove] using hmerge
    exact ⟨hpending, hrun⟩
  | cons top pending ih =>
    obtain ⟨left, place⟩ := top
    obtain ⟨hleft, hrest⟩ := List.forall_mem_cons.mp hpending
    rw [mergeAbove] at hmerge
    split at hmerge
    · obtain ⟨⟨joined, _⟩, hjoined, hmerge⟩ := bind_eq_ok.mp hmerge
      exact ih hmerge hrest (h.pairwise_of_merge hjoined hleft hrun)
    · obtain ⟨rfl, rfl, rfl⟩ := by simpa using hmerge
      exact ⟨hpending, hrun⟩

theorem pairwise_of_mergeAll {patience : Nat} {runs : List (List α)} {result : List α}
    (hmerge : mergeAll less patience runs = .ok result)
    (hruns : ∀ run ∈ runs, run.Pairwise (le · ·)) : result.Pairwise (le · ·) := by
  fun_induction mergeAll less patience runs with
  | case1 =>
    obtain rfl := Except.ok.inj hmerge
    exact .nil
  | case2 patience run =>
    obtain rfl := Except.ok.inj hmerge
    exact hruns run List.mem_cons_self
  | case3 patience right left =>
    obtain ⟨⟨merged, _⟩, hmerged, heq⟩ := bind_eq_ok.mp hmerge
    obtain rfl := Except.ok.inj heq
    obtain ⟨hright, hrest⟩ := List.forall_mem_cons.mp hruns
    exact h.pairwise_of_merge hmerged (hrest left List.mem_cons_self) hright
  | case4 patience right middle left runs hshort ih =>
    obtain ⟨⟨merged, _⟩, hmerged, hmerge⟩ := bind_eq_ok.mp hmerge
    obtain ⟨hright, hrest⟩ := List.forall_mem_cons.mp hruns
    obtain ⟨hmiddle, hrest⟩ := List.forall_mem_cons.mp hrest
    obtain ⟨hleft, hrest⟩ := List.forall_mem_cons.mp hrest
    have hjoined := h.pairwise_of_merge hmerged hleft hmiddle
    have hruns := List.forall_mem_cons.mpr ⟨hright, List.forall_mem_cons.mpr ⟨hjoined, hrest⟩⟩
    exact ih _ _ hmerge hruns
  | case5 patience right middle left runs hshort ih =>
    obtain ⟨⟨merged, _⟩, hmerged, hmerge⟩ := bind_eq_ok.mp hmerge
    obtain ⟨hright, hrest⟩ := List.forall_mem_cons.mp hruns
    obtain ⟨hmiddle, hrest⟩ := List.forall_mem_cons.mp hrest
    have hjoined := h.pairwise_of_merge hmerged hmiddle hright
    exact ih _ _ hmerge (List.forall_mem_cons.mpr ⟨hjoined, hrest⟩)

theorem pairwise_of_sortBehind {count patience : Nat} {pending : Pending α}
    {run xs result : List α} (hsort : sortBehind less count patience pending run xs = .ok result)
    (hpending : ∀ waiting ∈ pending, waiting.1.Pairwise (le · ·)) (hrun : run.Pairwise (le · ·)) :
    result.Pairwise (le · ·) := by
  fun_induction sortBehind less count patience pending run xs with
  | case1 patience pending run =>
    refine h.pairwise_of_mergeAll hsort (List.forall_mem_cons.mpr ⟨hrun, ?_⟩)
    exact List.forall_mem_map.mpr hpending
  | case2 patience pending run x xs ih =>
    obtain ⟨next, hnext, hsort⟩ := bind_eq_ok.mp hsort
    obtain ⟨⟨above, merged, _⟩, hjoined, hsort⟩ := bind_eq_ok.mp hsort
    obtain ⟨habove, hmerged⟩ := h.pairwise_of_mergeAbove hjoined hpending hrun
    exact ih _ _ _ _ hsort (List.forall_mem_cons.mpr ⟨hmerged, habove⟩)
      (h.pairwise_of_nextRun hnext)

theorem pairwise_of_sort {xs result : List α} (hsort : sort less xs = .ok result) :
    result.Pairwise (le · ·) := by
  obtain ⟨run, hrun, hsort⟩ := bind_eq_ok.mp hsort
  exact h.pairwise_of_sortBehind hsort (fun _ hmem ↦ absurd hmem List.not_mem_nil)
    (h.pairwise_of_nextRun hrun)

/-- **What can be ranked is sorted**: the sort does not fail, and gives the same elements in
ascending order. -/
theorem exists_sort (xs : List α) :
    ∃ result, sort less xs = .ok result ∧ result.Perm xs ∧ result.Pairwise (le · ·) := by
  have hless (a b : α) : FailsBy (fun _ ↦ False) (less a b) := by
    rw [h.less_eq]
    exact failsBy_ok _
  have hfails : FailsBy (fun _ ↦ False) (sort less xs) :=
    failsBy_sort (P := fun _ ↦ True) (fun a b _ _ ↦ hless a b) fun _ _ ↦ trivial
  obtain ⟨result, hsort⟩ := hfails.exists_eq_ok
  exact ⟨result, hsort, perm_of_sort hsort, h.pairwise_of_sort hsort⟩

end Ranks

end GattPeer.FallibleSort
