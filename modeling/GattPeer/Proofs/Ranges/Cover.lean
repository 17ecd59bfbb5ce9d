import GattPeer.Proofs.Characteristic.Order
import GattPeer.Ranges

/-!
# Ranges cover the handles

The entries of one kind tile the handles from the least announced one to the greatest there is: each
handle in between lies in exactly one of them, the one that starts last among those that start at or
before it. Repeated handles give empty entries, which cover nothing, and handles beyond the greatest
one do not disturb the tiling below it.

The induction is over a stream, which is sorted. An entry ends one before the next one starts, so a
handle either lies before the next start, where no later entry reaches, or past the end of this
entry. What the builder publishes is a permutation of the entries, and a list with one member is the
only permutation of itself.
-/

namespace GattPeer

def Characteristic.covers (c : Characteristic) (h : Int) : Bool := c.start ≤ h && h ≤ c.stop

theorem Characteristic.covers_iff {c : Characteristic} {h : Int} :
    c.covers h ↔ c.start ≤ h ∧ h ≤ c.stop := by
  rw [covers, Bool.and_eq_true, decide_eq_true_eq, decide_eq_true_eq]

namespace Ranges

/-! ## Streams -/

def rangedKinds : List AttributeKind := [.service, .characteristic]

def ofKind (kind : AttributeKind) (announcements : List Announcement) : List Announcement :=
  announcements.filter (·.handle.kind = kind)

theorem stream_perm (kind : AttributeKind) (as : List Announcement) :
    (stream kind as).Perm (ofKind kind as) := List.mergeSort_perm _ _

theorem number_le_trans (a b c : Announcement) : decide (a.handle.number ≤ b.handle.number) →
    decide (b.handle.number ≤ c.handle.number) → decide (a.handle.number ≤ c.handle.number) := by
  intro hab hbc
  exact decide_eq_true ((of_decide_eq_true hab).trans (of_decide_eq_true hbc))

theorem number_le_total (a b : Announcement) : (decide (a.handle.number ≤ b.handle.number)
    || decide (b.handle.number ≤ a.handle.number)) = true := by
  simpa using le_total a.handle.number b.handle.number

theorem pairwise_stream (kind : AttributeKind) (as : List Announcement) :
    (stream kind as).Pairwise fun a b ↦ a.handle.number ≤ b.handle.number := by
  have h := List.pairwise_mergeSort number_le_trans number_le_total (ofKind kind as)
  exact h.imp of_decide_eq_true

@[simp] theorem stream_ofKind_self (kind : AttributeKind) (as : List Announcement) :
    stream kind (ofKind kind as) = stream kind as := by
  rw [stream, ofKind, List.filter_filter]
  simp only [Bool.and_self]
  rfl

theorem stream_ofKind_of_ne {kind other : AttributeKind} (h : kind ≠ other)
    (as : List Announcement) : stream kind (ofKind other as) = [] := by
  rw [stream, ofKind, List.filter_filter, List.filter_eq_nil_iff.mpr, List.mergeSort_nil]
  rintro a -
  by_cases ha : a.handle.kind = kind
  · simp [ha, h]
  · simp [ha]

/-! ## Entries -/

@[simp] theorem map_start_entries (as : List Announcement) :
    (entries as).map (·.start) = as.map (·.handle.number) := by
  induction as with
  | nil => rfl
  | cons a as ih =>
    cases as with
    | nil => rfl
    | cons next rest =>
      rw [entries, List.map_cons, ih]
      rfl

theorem exists_start_eq_of_mem_entries {as : List Announcement} {c : Characteristic}
    (h : c ∈ entries as) : ∃ a ∈ as, a.handle.number = c.start := by
  have hmem : c.start ∈ (entries as).map (·.start) := List.mem_map_of_mem h
  rw [map_start_entries] at hmem
  exact List.mem_map.mp hmem

/-- **The tiling of a stream.** From its first handle on, each handle lies in exactly one entry, and
no entry that starts at or before the handle starts later than that one. -/
theorem exists_filter_covers_entries {as : List Announcement}
    (hsorted : as.Pairwise fun a b ↦ a.handle.number ≤ b.handle.number) {h : Int}
    (hfirst : ∃ a ∈ as, a.handle.number ≤ h) (hlast : h ≤ maxHandle) :
    ∃ c, (entries as).filter (·.covers h) = [c] ∧
      ∀ d ∈ entries as, d.start ≤ h → d.start ≤ c.start := by
  induction as with
  | nil => simp at hfirst
  | cons a as ih =>
    obtain ⟨ha, hsorted⟩ := List.pairwise_cons.mp hsorted
    have hah : a.handle.number ≤ h := by
      obtain ⟨b, hb, hbh⟩ := hfirst
      rcases List.mem_cons.mp hb with rfl | hb
      · exact hbh
      · exact (ha b hb).trans hbh
    cases as with
    | nil =>
      have hcovers : (a.spanning maxHandle).covers h :=
        Characteristic.covers_iff.mpr ⟨hah, hlast⟩
      refine ⟨a.spanning maxHandle, ?_, ?_⟩
      · rw [entries, List.filter_cons, if_pos hcovers, List.filter_nil]
      · intro d hd _
        rw [List.mem_singleton.mp hd]
    | cons next rest =>
      by_cases hnext : next.handle.number ≤ h
      · -- The entry of `a` ends before `h`, so the entry that covers `h` is a later one.
        obtain ⟨c, hc, hmax⟩ := ih hsorted ⟨next, List.mem_cons_self, hnext⟩
        refine ⟨c, ?_, ?_⟩
        · rw [entries, List.filter_cons_of_neg, hc]
          rw [Characteristic.covers_iff]
          intro hcovers
          have hstop : h ≤ next.handle.number - 1 := hcovers.2
          omega
        · intro d hd hdh
          rcases List.mem_cons.mp hd with rfl | hd
          · have hcmem : c ∈ (entries (next :: rest)).filter (·.covers h) := by simp [hc]
            obtain ⟨b, hb, hbc⟩ := exists_start_eq_of_mem_entries (List.mem_of_mem_filter hcmem)
            rw [← hbc]
            exact ha b hb
          · exact hmax d hd hdh
      · -- All later entries start after `h`.
        have hlater : ∀ d ∈ entries (next :: rest), h < d.start := by
          intro d hd
          obtain ⟨b, hb, hbd⟩ := exists_start_eq_of_mem_entries hd
          have hnb : next.handle.number ≤ b.handle.number := by
            rcases List.mem_cons.mp hb with rfl | hb
            · exact le_refl _
            · exact (List.pairwise_cons.mp hsorted).1 b hb
          omega
        refine ⟨a.spanning (next.handle.number - 1), ?_, ?_⟩
        · have hcovers : (a.spanning (next.handle.number - 1)).covers h :=
            Characteristic.covers_iff.mpr ⟨hah, show h ≤ next.handle.number - 1 by omega⟩
          have hnone : (entries (next :: rest)).filter (·.covers h) = [] := by
            refine List.filter_eq_nil_iff.mpr fun d hd hdh ↦ ?_
            have hstart : d.start ≤ h := (Characteristic.covers_iff.mp hdh).1
            exact absurd hstart (not_le.mpr (hlater d hd))
          rw [entries, List.filter_cons, if_pos hcovers, hnone]
        · intro d hd hdh
          rcases List.mem_cons.mp hd with rfl | hd
          · exact le_refl _
          · exact absurd hdh (not_le.mpr (hlater d hd))

/-! ## Published ranges -/

theorem build_ofKind {kind : AttributeKind} (hkind : kind ∈ rangedKinds) (as : List Announcement) :
    build (ofKind kind as) = Characteristic.sort (entries (stream kind as)) := by
  simp only [rangedKinds, List.mem_cons, List.not_mem_nil, or_false] at hkind
  rcases hkind with rfl | rfl
  · rw [build, stream_ofKind_self, stream_ofKind_of_ne (by decide), entries, List.append_nil]
  · rw [build, stream_ofKind_self, stream_ofKind_of_ne (by decide), entries, List.nil_append]

theorem exists_filter_covers_build {kind : AttributeKind} (hkind : kind ∈ rangedKinds)
    {as : List Announcement} {h : Int} (hfirst : ∃ a ∈ ofKind kind as, a.handle.number ≤ h)
    (hlast : h ≤ maxHandle) :
    ∃ c, (build (ofKind kind as)).filter (·.covers h) = [c] ∧
      ∀ d ∈ build (ofKind kind as), d.start ≤ h → d.start ≤ c.start := by
  have hfirst' : ∃ a ∈ stream kind as, a.handle.number ≤ h := by
    obtain ⟨a, ha, hah⟩ := hfirst
    exact ⟨a, (stream_perm kind as).mem_iff.mpr ha, hah⟩
  obtain ⟨c, hc, hmax⟩ := exists_filter_covers_entries (pairwise_stream kind as) hfirst' hlast
  have hperm := Characteristic.sort_perm (entries (stream kind as))
  rw [build_ofKind hkind]
  refine ⟨c, ?_, fun d hd ↦ hmax d (hperm.mem_iff.mp hd)⟩
  have hfilter := hperm.filter (·.covers h)
  rw [hc] at hfilter
  exact List.perm_singleton.mp hfilter

/-- **The ranges of a kind tile the handles.** From the least announced handle of a kind up to the
greatest handle, each handle lies in exactly one entry of that kind, the one that starts last among
those that start at or before it. The kinds do not see each other: what is built from all
announcements is what is built from those of each kind, merged. -/
theorem exists_unique_range_and_build_eq_merge (as : List Announcement) :
    (∀ kind ∈ rangedKinds, ∀ least ∈ ((ofKind kind as).map (·.handle.number)).min?, ∀ h : Int,
      least ≤ h → h ≤ maxHandle →
        ∃ c, (build (ofKind kind as)).filter (·.covers h) = [c] ∧
          ∀ d ∈ build (ofKind kind as), d.start ≤ h → d.start ≤ c.start) ∧
    build as =
      (build (ofKind .service as)).merge (build (ofKind .characteristic as)) Characteristic.le := by
  constructor
  · intro kind hkind least hleast h hmin hlast
    obtain ⟨a, ha, rfl⟩ := List.mem_map.mp (List.min?_mem hleast)
    exact exists_filter_covers_build hkind ⟨a, ha, hmin⟩ hlast
  · rw [build_ofKind (by decide), build_ofKind (by decide), ← Characteristic.sort_append]
    rfl

/-- Services at 20, -3, 20 and 70000: the repeated handle itself lies in one entry. -/
theorem exists_unique_range_of_repeated_handle :
    let as : List Announcement := [20, -3, 20, 70000].map fun n ↦ ⟨"", ⟨n, .service⟩, ⟨0⟩, .none⟩
    (-3 ∈ ((ofKind .service as).map (·.handle.number)).min? ∧ 20 ≤ maxHandle) ∧
      ∃ c, (build (ofKind .service as)).filter (·.covers 20) = [c] ∧
        ∀ d ∈ build (ofKind .service as), d.start ≤ 20 → d.start ≤ c.start := by
  intro as
  exact ⟨by decide, (exists_unique_range_and_build_eq_merge as).1 .service (by decide) (-3)
    (by decide) 20 (by decide) (by decide)⟩

end Ranges

end GattPeer
