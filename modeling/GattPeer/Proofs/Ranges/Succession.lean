import GattPeer.Proofs.Ranges.Distinct

/-!
# Each range ends before the next handle

Handles may be announced repeatedly, in any order, and be of any size. The announcements of one kind
are then put in the stable order of their handles, in which those of one handle stand as they were
announced; there is exactly one such order. Along it, the range of each announcement ends one before
the handle of the next, so of those that share a handle only the last one covers it. After that the
ranges of both kinds are sorted together, by other fields too; but sorting neither loses nor
duplicates anything, so what is published is described by its members and by its order.

An order is stable if it keeps the announcements of each handle. That a sort is stable in this sense
follows from its keeping every sublist that is sorted already.
-/

namespace GattPeer.Ranges

variable {as given order other : List Announcement}

/-! ## Stable orders -/

/-- The given announcements in the stable order of their handles: the handles ascend, and those of
one handle stand as they were given. -/
structure IsStableOrder (given order : List Announcement) : Prop where
  ascends : order.Pairwise fun a b ↦ a.handle.number ≤ b.handle.number
  keeps : ∀ number,
    order.filter (·.handle.number = number) = given.filter (·.handle.number = number)

theorem isStableOrder_stream (kind : AttributeKind) (as : List Announcement) :
    IsStableOrder (ofKind kind as) (stream kind as) := by
  refine ⟨pairwise_stream kind as, fun number ↦ ?_⟩
  -- The announcements of one handle are sorted already, so the sort keeps them as they are.
  have hsorted : ((ofKind kind as).filter (·.handle.number = number)).Pairwise
      fun a b ↦ decide (a.handle.number ≤ b.handle.number) := by
    refine List.pairwise_of_forall_mem_list fun a ha b hb ↦ decide_eq_true ?_
    have ha := of_decide_eq_true (List.mem_filter.mp ha).2
    have hb := of_decide_eq_true (List.mem_filter.mp hb).2
    omega
  have hkept : ((ofKind kind as).filter (·.handle.number = number)).Sublist (stream kind as) :=
    List.sublist_mergeSort number_le_trans number_le_total hsorted List.filter_sublist
  have hsublist := hkept.filter (·.handle.number = number)
  rw [List.filter_filter] at hsublist
  simp only [Bool.and_self] at hsublist
  have hlength := ((stream_perm kind as).filter (·.handle.number = number)).length_eq
  exact (hsublist.eq_of_length hlength.symm).symm

theorem IsStableOrder.mem_iff (h : IsStableOrder given order) {a : Announcement} :
    a ∈ order ↔ a ∈ given := by
  have hmem {l : List Announcement} :
      a ∈ l.filter (·.handle.number = a.handle.number) ↔ a ∈ l := by simp
  rw [← hmem, h.keeps, hmem]

theorem IsStableOrder.tail {a : Announcement} (h : IsStableOrder (a :: given) (a :: order)) :
    IsStableOrder given order := by
  refine ⟨(List.pairwise_cons.mp h.ascends).2, fun number ↦ ?_⟩
  have hkeeps := h.keeps number
  by_cases hnumber : a.handle.number = number
  · simpa [hnumber] using hkeeps
  · simpa [hnumber] using hkeeps

theorem IsStableOrder.head_eq {a b : Announcement}
    (h : IsStableOrder (a :: given) (b :: order))
    (hleast : ∀ c ∈ given, a.handle.number ≤ c.handle.number) : b = a := by
  have hab : a.handle.number ≤ b.handle.number := by
    rcases List.mem_cons.mp (h.mem_iff.mp List.mem_cons_self) with rfl | hb
    · exact le_refl _
    · exact hleast b hb
  have hba : b.handle.number ≤ a.handle.number := by
    rcases List.mem_cons.mp (h.mem_iff.mpr List.mem_cons_self) with rfl | ha
    · exact le_refl _
    · exact (List.pairwise_cons.mp h.ascends).1 a ha
  have hkeeps := h.keeps a.handle.number
  simp only [le_antisymm hba hab, decide_true, List.filter_cons_of_pos] at hkeeps
  exact (List.cons.inj hkeeps).1

theorem IsStableOrder.eq_of_ascends (h : IsStableOrder given order)
    (hgiven : given.Pairwise fun a b ↦ a.handle.number ≤ b.handle.number) : order = given := by
  induction given generalizing order with
  | nil => exact List.eq_nil_iff_forall_not_mem.mpr fun a ha ↦ List.not_mem_nil (h.mem_iff.mp ha)
  | cons a given ih =>
    obtain ⟨hleast, hrest⟩ := List.pairwise_cons.mp hgiven
    cases order with
    | nil => exact absurd (h.mem_iff.mpr List.mem_cons_self) List.not_mem_nil
    | cons b order =>
      obtain rfl := h.head_eq hleast
      rw [ih h.tail hrest]

/-- **There is one stable order.** -/
theorem existsUnique_isStableOrder (kind : AttributeKind) (as : List Announcement) :
    ∃! order, IsStableOrder (ofKind kind as) order := by
  refine ⟨stream kind as, isStableOrder_stream kind as, fun order horder ↦ ?_⟩
  have hstream := isStableOrder_stream kind as
  have hboth : IsStableOrder (stream kind as) order :=
    ⟨horder.ascends, fun number ↦ (horder.keeps number).trans (hstream.keeps number).symm⟩
  exact hboth.eq_of_ascends hstream.ascends

/-! ## Succession -/

/-- The ranges along an order: each ends one before the handle of the next announcement, and the
last one at the greatest handle. -/
def succession (order : List Announcement) : List Characteristic :=
  order.mapIdx fun i a ↦
    { start := a.handle.number
      stop := match order[i + 1]? with
        | some next => next.handle.number - 1
        | none => 0xffff
      value := a.handle.number
      uuid := a.uuid
      flags := a.flags }

theorem entries_eq_succession (order : List Announcement) : entries order = succession order := by
  induction order with
  | nil => rfl
  | cons a order ih =>
    cases order with
    | nil => rfl
    | cons next rest =>
      rw [entries, ih, succession, succession, List.mapIdx_cons]
      simp [Announcement.spanning]

/-- **Building loses and duplicates nothing**, whatever was announced. What is published is sorted.
As a multiset, its handles, types and flags are those of the announced services and characteristics,
and each range starts at the handle of its value. The announcements of each kind have exactly one
stable order of their handles, and what is published consists of the ranges along these orders, each
ending one before the handle of the next announcement, or at the greatest handle. -/
theorem build_is_sorted_succession (as : List Announcement) :
    (build as).Pairwise (fun c d ↦ c.le d) ∧
    ((build as).map fun c ↦ (c.value, c.uuid, c.flags)).Perm
      ((ranged as).map fun a ↦ (a.handle.number, a.uuid, a.flags)) ∧
    (∀ c ∈ build as, c.start = c.value) ∧
    (∀ kind, ∃! order, IsStableOrder (ofKind kind as) order) ∧
    ∃ order : AttributeKind → List Announcement,
      (∀ kind, IsStableOrder (ofKind kind as) (order kind)) ∧
      (build as).Perm (rangedKinds.flatMap fun kind ↦ succession (order kind)) := by
  refine ⟨Characteristic.pairwise_sort _, ?_, fun c ↦ start_eq_value_of_mem_build,
    fun kind ↦ existsUnique_isStableOrder kind as, fun kind ↦ stream kind as,
    fun kind ↦ isStableOrder_stream kind as, ?_⟩
  · have hperm := (map_unranged_build_perm as).map fun c ↦ (c.value, c.uuid, c.flags)
    rwa [List.map_map, List.map_map] at hperm
  · have hentries := build_perm as
    rw [entries_eq_succession, entries_eq_succession] at hentries
    simpa [rangedKinds] using hentries

/-- Of announcements that share a handle only the last one covers it. -/
example : (succession ([-3, 20, 20, 70000].map fun n ↦ ⟨"", ⟨n, .service⟩, ⟨0⟩, .none⟩)).map
    (fun c ↦ (c.start, c.stop)) = [(-3, 19), (20, 19), (20, 69999), (70000, 65535)] := by decide

end GattPeer.Ranges
