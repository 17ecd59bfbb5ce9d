import GattPeer.AttributeTable
import GattPeer.Proofs.Ranges.Distinct
import GattPeer.Uuid.RoundTrip
import Mathlib.Data.List.Induction

/-!
# The latest announcements

Whatever is done to a table, it holds one announcement for each handle: the latest one that was
read and not forgotten since. Handles are read from paths, so they have sixteen bits. Both are kept
by every operation, and both are needed before the ranges that are published can be trusted: with
distinct handles below the greatest one no range is empty, and no two start together.
-/

namespace GattPeer.AttributeTable

open Ranges

/-! ## Storing an announcement -/

section Store

variable {as : List Announcement} {a b : Announcement}

@[simp] theorem lookup?_store (as : List Announcement) (a : Announcement) (number : Int) :
    lookup? (store a as) number
      = if a.handle.number = number then some a else lookup? as number := by
  induction as with
  | nil => by_cases hnumber : a.handle.number = number <;> simp [store, lookup?, hnumber]
  | cons c rest ih =>
    unfold lookup? at ih ⊢
    by_cases hsame : c.handle.number = a.handle.number
    · by_cases hnumber : a.handle.number = number <;> simp [store, hsame, hnumber]
    · by_cases hnumber : c.handle.number = number
      · have hother : a.handle.number ≠ number := fun h ↦ hsame (hnumber.trans h.symm)
        rw [store, if_neg hsame]
        simp [hnumber, hother]
      · simp [store, hsame, hnumber, ih]

theorem eq_or_mem_of_mem_store (h : b ∈ store a as) : b = a ∨ b ∈ as := by
  induction as with
  | nil => exact .inl (List.mem_singleton.mp h)
  | cons c rest ih =>
    by_cases hsame : c.handle.number = a.handle.number
    · simp only [store, hsame, if_true, List.mem_cons] at h
      rcases h with rfl | h
      · exact .inl rfl
      · exact .inr (List.mem_cons_of_mem _ h)
    · simp only [store, hsame, if_false, List.mem_cons] at h
      rcases h with rfl | h
      · exact .inr List.mem_cons_self
      · exact (ih h).imp_right (List.mem_cons_of_mem _)

theorem distinct_store (a : Announcement) (h : Distinct as) : Distinct (store a as) := by
  induction as with
  | nil => exact List.nodup_singleton _
  | cons c rest ih =>
    obtain ⟨hc, hrest⟩ := List.nodup_cons.mp h
    by_cases hsame : c.handle.number = a.handle.number
    · have ha : a.handle.number ∉ rest.map (·.handle.number) := hsame ▸ hc
      rw [store, if_pos hsame]
      exact List.nodup_cons.mpr ⟨ha, hrest⟩
    · rw [store, if_neg hsame]
      refine List.nodup_cons.mpr ⟨fun hmem ↦ ?_, ih hrest⟩
      obtain ⟨b, hb, hbc⟩ := List.mem_map.mp hmem
      rcases eq_or_mem_of_mem_store hb with rfl | hb
      · exact hsame hbc.symm
      · exact hc (List.mem_map.mpr ⟨b, hb, hbc⟩)

theorem store_eq_append (h : ∀ b ∈ as, b.handle.number ≠ a.handle.number) :
    store a as = as ++ [a] := by
  induction as with
  | nil => rfl
  | cons c rest ih =>
    obtain ⟨hc, hrest⟩ := List.forall_mem_cons.mp h
    rw [store, if_neg hc, ih hrest]
    rfl

theorem foldl_store_eq_append {bs : List Announcement} (h : Distinct (as ++ bs)) :
    bs.foldl (fun as a ↦ store a as) as = as ++ bs := by
  induction bs generalizing as with
  | nil => simp
  | cons b bs ih =>
    have hnext : Distinct (as ++ [b] ++ bs) := by simpa using h
    have hnew : ∀ a ∈ as, a.handle.number ≠ b.handle.number := by
      intro a ha hab
      rw [Distinct, List.map_append] at h
      obtain ⟨-, -, hdisjoint⟩ := List.nodup_append.mp h
      exact hdisjoint _ (List.mem_map_of_mem ha) _ (List.mem_map_of_mem List.mem_cons_self) hab
    rw [List.foldl_cons, store_eq_append hnew, ih hnext]
    simp

theorem store_perm_cons_filter (a : Announcement) (h : Distinct as) :
    (store a as).Perm (a :: as.filter (·.handle.number ≠ a.handle.number)) := by
  induction as with
  | nil => exact .refl _
  | cons c rest ih =>
    obtain ⟨hc, hrest⟩ := List.nodup_cons.mp h
    by_cases hsame : c.handle.number = a.handle.number
    · have hothers : rest.filter (·.handle.number ≠ a.handle.number) = rest := by
        refine List.filter_eq_self.mpr fun b hb ↦ decide_eq_true fun hba ↦ hc ?_
        exact List.mem_map.mpr ⟨b, hb, hba.trans hsame.symm⟩
      rw [store, if_pos hsame, List.filter_cons_of_neg (by simpa using hsame), hothers]
    · rw [store, if_neg hsame, List.filter_cons_of_pos (by simpa using hsame)]
      exact ((ih hrest).cons c).trans (.swap ..)

/-- The order in which distinct handles stand is kept out of what is stored. -/
theorem store_perm {bs : List Announcement} (a : Announcement) (h : Distinct as)
    (hperm : as.Perm bs) : (store a as).Perm (store a bs) :=
  (store_perm_cons_filter a h).trans <|
    ((hperm.filter _).cons a).trans (store_perm_cons_filter a (h.of_perm hperm)).symm

theorem lookup?_eq_some_iff (h : Distinct as) : lookup? as a.handle.number = some a ↔ a ∈ as := by
  rw [← Option.mem_toList, lookup?, ← h.filter_number, List.mem_filter]
  exact and_iff_left (decide_eq_true rfl)

/-- What is looked up in a table of distinct handles does not depend on their order. -/
theorem lookup?_eq_of_perm {bs : List Announcement} (h : Distinct as) (hperm : as.Perm bs)
    (number : Int) : lookup? as number = lookup? bs number := by
  have hfound : (lookup? as number).toList.Perm (lookup? bs number).toList := by
    rw [lookup?, lookup?, ← h.filter_number, ← (h.of_perm hperm).filter_number]
    exact hperm.filter _
  cases hlookup : lookup? bs number with
  | none =>
    rw [hlookup] at hfound
    exact Option.toList_eq_nil_iff.mp hfound.eq_nil
  | some a =>
    rw [hlookup] at hfound
    exact Option.toList_eq_singleton_iff.mp (List.perm_singleton.mp hfound)

end Store

/-! ## What an operation leaves -/

variable {t : AttributeTable}

/-- What is announced of a handle, if the path is one of it and both the path and the UUID can be
read. -/
def announced? (number : Int) (path uuid : String) (flags : PropertyFlags) :
    Option Announcement := do
  let handle ← (Handle.ofPath path).toOption
  let uuid ← (Uuid.parse uuid).toOption
  if handle.number = number then some { path, handle, uuid, flags } else none

/-- The latest announcement of a handle after an operation, given the one before it. -/
def latestAfter (number : Int) (latest : Option Announcement) : Operation → Option Announcement
  | .announce path uuid flags => (announced? number path uuid flags).or latest
  | .clear => none
  | _ => latest

/-- The latest announcement of a handle among operations on a new table: the last one that could be
read, unless all announcements were forgotten after it. -/
def latest? (operations : List Operation) (number : Int) : Option Announcement :=
  operations.foldl (latestAfter number) none

theorem announced?_eq (number : Int) (path uuid : String) (flags : PropertyFlags) :
    announced? number path uuid flags
      = (Announcement.read path uuid flags).toOption.filter (·.handle.number = number) := by
  rw [announced?, Announcement.read]
  generalize Handle.ofPath path = handle
  generalize Uuid.parse uuid = type
  rcases handle with failure | handle
  · rfl
  rcases type with failure | type
  · rfl
  by_cases hnumber : handle.number = number
  · simp [bind, Except.bind, pure, Except.pure, Except.toOption, Option.filter, hnumber]
  · simp [bind, Except.bind, pure, Except.pure, Except.toOption, Option.filter, hnumber]
theorem step_announce (t : AttributeTable) (path uuid : String) (flags : PropertyFlags) :
    (t.step (.announce path uuid flags)).1 = (t.announce path uuid flags).1 := by
  unfold step
  dsimp only

theorem announcements_step (t : AttributeTable) (operation : Operation) :
    (∃ path uuid flags a, operation = .announce path uuid flags ∧
      Announcement.read path uuid flags = .ok a ∧
      (t.step operation).1.announcements = store a t.announcements) ∨
    (operation = .clear ∧ (t.step operation).1.announcements = []) ∨
    ((t.step operation).1.announcements = t.announcements ∧
      ∀ number latest, latestAfter number latest operation = latest) := by
  cases operation with
  | announce path uuid flags =>
    rw [step_announce]
    unfold announce
    cases hread : Announcement.read path uuid flags with
    | error failure => exact .inr (.inr ⟨rfl, fun number latest ↦ by
      rw [latestAfter, announced?_eq, hread]
      rfl⟩)
    | ok a => exact .inl ⟨path, uuid, flags, a, rfl, hread, rfl⟩
  | clear => exact .inr (.inl ⟨rfl, rfl⟩)
  | size => exact .inr (.inr ⟨rfl, fun _ _ ↦ rfl⟩)
  | announcements => exact .inr (.inr ⟨rfl, fun _ _ ↦ rfl⟩)
  | pathOf number => exact .inr (.inr ⟨rfl, fun _ _ ↦ rfl⟩)
  | find uuid start stop => exact .inr (.inr ⟨rfl, fun _ _ ↦ rfl⟩)
  | publish => exact .inr (.inr ⟨rfl, fun _ _ ↦ rfl⟩)
  | published => exact .inr (.inr ⟨rfl, fun _ _ ↦ rfl⟩)
  | ranges => exact .inr (.inr ⟨rfl, fun _ _ ↦ rfl⟩)

theorem lookup?_step (t : AttributeTable) (operation : Operation) (number : Int) :
    lookup? (t.step operation).1.announcements number
      = latestAfter number (lookup? t.announcements number) operation := by
  obtain ⟨path, uuid, flags, a, rfl, hread, hstored⟩ | ⟨rfl, hcleared⟩ | ⟨hsame, hlatest⟩ :=
    announcements_step t operation
  · rw [hstored, lookup?_store, latestAfter, announced?_eq, hread]
    by_cases hnumber : a.handle.number = number <;> simp [Except.toOption, Option.filter, hnumber]
  · rw [hcleared]
    rfl
  · rw [hsame, hlatest]

theorem lookup?_run (owner : String) (operations : List Operation) (number : Int) :
    lookup? ((empty owner).run operations).announcements number = latest? operations number := by
  induction operations using List.reverseRecOn with
  | nil => rfl
  | append_singleton operations operation ih =>
    have hrun : (empty owner).run (operations ++ [operation])
        = (((empty owner).run operations).step operation).1 := List.foldl_append ..
    rw [hrun, lookup?_step, ih, latest?, latest?, List.foldl_append]
    rfl

/-! ## The invariant -/

/-- A table in which announcements are kept as handles require: no two share a handle, and each
handle lies between zero and the greatest one. -/
structure WellKept (t : AttributeTable) : Prop where
  distinct : Distinct t.announcements
  bounded : ∀ a ∈ t.announcements, 0 ≤ a.handle.number ∧ a.handle.number ≤ maxHandle

theorem wellKept_empty (owner : String) : (empty owner).WellKept :=
  ⟨List.nodup_nil, by simp [empty]⟩

theorem bounds_of_read {path uuid : String} {flags : PropertyFlags} {a : Announcement}
    (h : Announcement.read path uuid flags = .ok a) :
    0 ≤ a.handle.number ∧ a.handle.number ≤ maxHandle := by
  cases hhandle : Handle.ofPath path with
  | error failure => simp [Announcement.read, hhandle, bind, Except.bind] at h
  | ok handle =>
    cases huuid : Uuid.parse uuid with
    | error failure => simp [Announcement.read, hhandle, huuid, bind, Except.bind] at h
    | ok u =>
      simp only [Announcement.read, hhandle, huuid] at h
      obtain rfl := Except.ok.inj h
      obtain ⟨hnonneg, hlt⟩ := Handle.ofPath_bounds hhandle
      refine ⟨hnonneg, ?_⟩
      simp only [maxHandle]
      omega

theorem WellKept.step (h : t.WellKept) (operation : Operation) : (t.step operation).1.WellKept := by
  obtain ⟨path, uuid, flags, a, rfl, hread, hstored⟩ | ⟨rfl, hcleared⟩ | ⟨hsame, -⟩ :=
    announcements_step t operation
  · constructor
    · rw [hstored]
      exact distinct_store a h.distinct
    · intro b hb
      rw [hstored] at hb
      rcases eq_or_mem_of_mem_store hb with rfl | hb
      · exact bounds_of_read hread
      · exact h.bounded b hb
  · exact ⟨by rw [hcleared]; exact List.nodup_nil, by simp [hcleared]⟩
  · exact ⟨hsame ▸ h.distinct, hsame ▸ h.bounded⟩

theorem WellKept.run (h : t.WellKept) (operations : List Operation) :
    (t.run operations).WellKept := by
  induction operations generalizing t with
  | nil => exact h
  | cons operation operations ih => exact ih (h.step operation)

/-! ## What is published -/

theorem WellKept.bounds_of_mem_build (h : t.WellKept) {c : Characteristic}
    (hc : c ∈ build t.announcements) :
    0 ≤ c.start ∧ c.start = c.value ∧ c.value ≤ c.stop ∧ c.stop ≤ maxHandle := by
  obtain ⟨kind, -, hentry⟩ := exists_mem_entries_of_mem_build hc
  have hannounced : ∀ a ∈ stream kind t.announcements, a ∈ t.announcements := fun a ha ↦
    List.mem_of_mem_filter ((stream_perm kind t.announcements).mem_iff.mp ha)
  have hstart := start_eq_value_of_mem_entries hentry
  obtain ⟨hstop, hlast⟩ := value_le_stop_of_mem_entries (pairwise_lt_stream h.distinct kind)
    (fun a ha ↦ (h.bounded a (hannounced a ha)).2) hentry
  obtain ⟨a, ha, hnumber⟩ := exists_announcement_of_mem_build hc
  have hnonneg := (h.bounded a ha).1
  exact ⟨by omega, hstart, hstop, hlast⟩

/-- **Publishing after any operations.** It succeeds; the ranges start one after the other, none of
them is empty or leaves the handles there are, and each starts at the handle of its value. A handle
has exactly one range, with the type and the flags of its latest announcement, if that announced a
service or a characteristic, and none otherwise. Types are published in their normal form. -/
theorem publish_describes_latest_announcements (owner : String) (operations : List Operation) :
    ∃ ranges,
      (((empty owner).run operations).step .publish).2.2 = .ok (.characteristics ranges) ∧
      (((empty owner).run operations).step .publish).1.published = ranges ∧
      ranges.Pairwise (fun c d ↦ c.start < d.start) ∧
      (∀ c ∈ ranges, 0 ≤ c.start ∧ c.start = c.value ∧ c.value ≤ c.stop ∧ c.stop ≤ 0xffff ∧
        Uuid.parse c.uuid.text = .ok c.uuid) ∧
      ∀ number, (ranges.filter (·.value = number)).map (fun c ↦ (c.value, c.uuid, c.flags))
        = ((latest? operations number).filter (·.handle.kind ∈ rangedKinds)).toList.map
            fun a ↦ (a.handle.number, a.uuid, a.flags) := by
  have hkept := (wellKept_empty owner).run operations
  refine ⟨build ((empty owner).run operations).announcements, rfl, rfl,
    pairwise_start_lt_build hkept.distinct, ?_, ?_⟩
  · intro c hc
    obtain ⟨hnonneg, hstart, hstop, hlast⟩ := hkept.bounds_of_mem_build hc
    exact ⟨hnonneg, hstart, hstop, hlast, Uuid.parse_text c.uuid⟩
  · intro number
    rw [← lookup?_run owner operations number]
    have hunranged := congrArg (List.map fun c : Characteristic ↦ (c.value, c.uuid, c.flags))
      (map_unranged_filter_build hkept.distinct number)
    rwa [List.map_map, List.map_map] at hunranged

end GattPeer.AttributeTable
