import GattPeer.Proofs.Ranges.Cover
import Mathlib.Data.List.Nodup
import Mathlib.Data.List.Perm.Basic

/-!
# Ranges of distinct handles

What the builder publishes keeps the type and the flags of every service and characteristic,
whatever the handles are. If no handle is announced twice, more is true: the order of the
announcements does not matter, because a stream is then determined by its members; the ranges are
not empty; and each of them starts later than the one before. -/

namespace GattPeer

/-- A characteristic without its range, which is all that its announcement tells. -/
def Characteristic.unranged (c : Characteristic) : Characteristic :=
  { c with start := 0, stop := 0 }

namespace Ranges

variable {as bs : List Announcement} {kind : AttributeKind}

/-! ## What is kept -/

def ranged (as : List Announcement) : List Announcement :=
  as.filter (·.handle.kind ∈ rangedKinds)

@[simp] theorem map_unranged_entries (as : List Announcement) :
    (entries as).map Characteristic.unranged = as.map Announcement.unranged := by
  induction as with
  | nil => rfl
  | cons a as ih =>
    cases as with
    | nil => rfl
    | cons next rest =>
      rw [entries, List.map_cons, ih]
      rfl

theorem start_eq_value_of_mem_entries {c : Characteristic} (h : c ∈ entries as) :
    c.start = c.value := by
  induction as with
  | nil => simp [entries] at h
  | cons a as ih =>
    cases as with
    | nil =>
      rw [List.mem_singleton.mp h]
      rfl
    | cons next rest =>
      rcases List.mem_cons.mp h with rfl | h
      · rfl
      · exact ih h

theorem ofKind_append_ofKind_perm (as : List Announcement) :
    (ofKind .service as ++ ofKind .characteristic as).Perm (ranged as) := by
  induction as with
  | nil => exact .refl _
  | cons a as ih =>
    cases hkind : a.handle.kind with
    | service => simpa [ofKind, ranged, rangedKinds, hkind] using ih
    | characteristic =>
      have hmiddle : (ofKind .service as ++ a :: ofKind .characteristic as).Perm
          (a :: ranged as) := List.perm_middle.trans (ih.cons a)
      simpa [ofKind, ranged, rangedKinds, hkind] using hmiddle
    | descriptor => simpa [ofKind, ranged, rangedKinds, hkind] using ih
    | unknown => simpa [ofKind, ranged, rangedKinds, hkind] using ih

theorem build_perm (as : List Announcement) :
    (build as).Perm (entries (stream .service as) ++ entries (stream .characteristic as)) :=
  Characteristic.sort_perm _

theorem exists_mem_entries_of_mem_build {c : Characteristic} (h : c ∈ build as) :
    ∃ kind ∈ rangedKinds, c ∈ entries (stream kind as) := by
  rcases List.mem_append.mp ((build_perm as).mem_iff.mp h) with h | h
  · exact ⟨.service, by decide, h⟩
  · exact ⟨.characteristic, by decide, h⟩

theorem start_eq_value_of_mem_build {c : Characteristic} (h : c ∈ build as) :
    c.start = c.value := by
  obtain ⟨kind, -, hentry⟩ := exists_mem_entries_of_mem_build h
  exact start_eq_value_of_mem_entries hentry

/-- **Nothing is lost and nothing is made up.** Without their ranges, what is published are the
services and the characteristics as they were announced. -/
theorem map_unranged_build_perm (as : List Announcement) :
    ((build as).map Characteristic.unranged).Perm ((ranged as).map Announcement.unranged) := by
  refine ((build_perm as).map _).trans ?_
  rw [List.map_append, map_unranged_entries, map_unranged_entries, ← List.map_append]
  refine List.Perm.map _ (List.Perm.trans ?_ (ofKind_append_ofKind_perm as))
  exact (stream_perm .service as).append (stream_perm .characteristic as)

theorem exists_announcement_of_mem_build {c : Characteristic} (h : c ∈ build as) :
    ∃ a ∈ as, a.handle.number = c.value := by
  have hunranged : c.unranged ∈ (ranged as).map Announcement.unranged :=
    (map_unranged_build_perm as).mem_iff.mp (List.mem_map_of_mem h)
  obtain ⟨a, ha, hac⟩ := List.mem_map.mp hunranged
  exact ⟨a, List.mem_of_mem_filter ha, congrArg Characteristic.value hac⟩

/-! ## Distinct handles -/

/-- No handle is announced twice. -/
def Distinct (as : List Announcement) : Prop := (as.map (·.handle.number)).Nodup

theorem Distinct.of_perm (h : Distinct as) (hperm : as.Perm bs) : Distinct bs :=
  (hperm.map _).nodup_iff.mp h

theorem Distinct.of_sublist (h : Distinct bs) (hsublist : as.Sublist bs) : Distinct as :=
  h.sublist (hsublist.map _)

theorem Distinct.eq_of_number (h : Distinct as) {a b : Announcement} (ha : a ∈ as) (hb : b ∈ as)
    (hnumber : a.handle.number = b.handle.number) : a = b :=
  List.inj_on_of_nodup_map h ha hb hnumber

theorem Distinct.stream (h : Distinct as) (kind : AttributeKind) : Distinct (stream kind as) :=
  (h.of_sublist List.filter_sublist).of_perm (stream_perm kind as).symm

/-- A stream of distinct handles is determined by its members. -/
theorem stream_eq_of_perm (h : Distinct as) (hperm : as.Perm bs) (kind : AttributeKind) :
    Ranges.stream kind as = Ranges.stream kind bs := by
  have hstreams : (Ranges.stream kind as).Perm (Ranges.stream kind bs) :=
    (stream_perm kind as).trans ((hperm.filter _).trans (stream_perm kind bs).symm)
  refine List.Perm.eq_of_pairwise ?_ (pairwise_stream kind as) (pairwise_stream kind bs) hstreams
  intro a b ha hb hab hba
  exact (h.stream kind).eq_of_number ha (hstreams.mem_iff.mpr hb) (le_antisymm hab hba)

/-- **The order of the announcements does not matter** if their handles are distinct. -/
theorem build_eq_of_perm (h : Distinct as) (hperm : as.Perm bs) : build as = build bs := by
  rw [build, build, stream_eq_of_perm h hperm, stream_eq_of_perm h hperm]

theorem pairwise_lt_stream (h : Distinct as) (kind : AttributeKind) :
    (Ranges.stream kind as).Pairwise fun a b ↦ a.handle.number < b.handle.number := by
  have hne := List.pairwise_map.mp (h.stream kind)
  exact (pairwise_stream kind as).imp₂ (fun a b hle hne ↦ lt_of_le_of_ne hle hne) hne

theorem value_le_stop_of_mem_entries
    (hsorted : as.Pairwise fun a b ↦ a.handle.number < b.handle.number)
    (hlast : ∀ a ∈ as, a.handle.number ≤ maxHandle) {c : Characteristic} (h : c ∈ entries as) :
    c.value ≤ c.stop ∧ c.stop ≤ maxHandle := by
  induction as with
  | nil => simp [entries] at h
  | cons a as ih =>
    obtain ⟨ha, hsorted⟩ := List.pairwise_cons.mp hsorted
    obtain ⟨hale, hlast⟩ := List.forall_mem_cons.mp hlast
    cases as with
    | nil =>
      rw [List.mem_singleton.mp h]
      exact ⟨hale, le_refl _⟩
    | cons next rest =>
      rcases List.mem_cons.mp h with rfl | h
      · have hnext := ha next List.mem_cons_self
        have hnextle := hlast next List.mem_cons_self
        simp only [Announcement.spanning]
        omega
      · exact ih hsorted hlast h

theorem nodup_map_start_build (h : Distinct as) : ((build as).map (·.start)).Nodup := by
  have hstart : (build as).map (·.start)
      = ((build as).map Characteristic.unranged).map (·.value) := by
    rw [List.map_map]
    exact List.map_congr_left fun c hc ↦ start_eq_value_of_mem_build hc
  have hnumbers : ((ranged as).map Announcement.unranged).map (·.value)
      = (ranged as).map (·.handle.number) := List.map_map ..
  rw [hstart, ((map_unranged_build_perm as).map _).nodup_iff, hnumbers]
  exact h.of_sublist List.filter_sublist

/-- **Each range starts later than the one before.** -/
theorem pairwise_start_lt_build (h : Distinct as) :
    (build as).Pairwise fun c d ↦ c.start < d.start := by
  have hne := List.pairwise_map.mp (nodup_map_start_build h)
  refine (Characteristic.pairwise_sort _).imp₂ (fun c d hle hne ↦ ?_) hne
  exact lt_of_le_of_ne (Characteristic.start_le_of_le hle) hne

theorem Distinct.filter_number (h : Distinct as) (number : Int) :
    as.filter (·.handle.number = number) = (as.find? (·.handle.number = number)).toList := by
  induction as with
  | nil => rfl
  | cons a as ih =>
    obtain ⟨ha, has⟩ := List.nodup_cons.mp h
    by_cases hnumber : a.handle.number = number
    · have hrest : as.filter (·.handle.number = number) = [] := by
        refine List.filter_eq_nil_iff.mpr fun b hb hbnumber ↦ ha ?_
        have hsame : b.handle.number = a.handle.number :=
          (of_decide_eq_true hbnumber).trans hnumber.symm
        exact List.mem_map.mpr ⟨b, hb, hsame⟩
      simp [hnumber, hrest]
    · simp [hnumber, ih has]

/-- **What is published of a handle** is one range for a service or a characteristic, with the type
and the flags that were announced, and nothing for any other attribute. -/
theorem map_unranged_filter_build (h : Distinct as) (number : Int) :
    ((build as).filter (·.value = number)).map Characteristic.unranged
      = ((as.find? (·.handle.number = number)).filter
          (·.handle.kind ∈ rangedKinds)).toList.map Announcement.unranged := by
  have hleft : ((build as).filter (·.value = number)).map Characteristic.unranged
      = ((build as).map Characteristic.unranged).filter (·.value = number) := by
    rw [List.filter_map]
    rfl
  have hright : ((ranged as).map Announcement.unranged).filter (·.value = number)
      = ((as.find? (·.handle.number = number)).filter
          (·.handle.kind ∈ rangedKinds)).toList.map Announcement.unranged := by
    rw [List.filter_map, Option.toList_filter, ← h.filter_number, List.filter_filter, ranged,
      List.filter_filter]
    congr 2
    funext a
    exact Bool.and_comm ..
  have hperm := (map_unranged_build_perm as).filter (·.value = number)
  rw [← hleft, hright] at hperm
  -- There is at most one member, so there is nothing to be permuted.
  cases hfound : (as.find? (·.handle.number = number)).filter (·.handle.kind ∈ rangedKinds) with
  | none =>
    rw [hfound] at hperm
    exact hperm.eq_nil
  | some a =>
    rw [hfound] at hperm
    exact List.perm_singleton.mp hperm

end Ranges

end GattPeer
