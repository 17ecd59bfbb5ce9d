import GattPeer.Proofs.AttributeTable.Latest
import Mathlib.Data.List.DropRight

/-!
# In the order of first announcements

A table is an ordered map. It holds one announcement for each handle that was announced since all
were last forgotten. The handles stand in the order in which they came first, and each of them has
what was announced of it last. So an announcement that comes again takes the old place and the new
content, which the table reports as an error, and this is the only error that it reports.

What stands in the table is compared with the list of all announcements that could be read. That
list forgets nothing but by `clear`, so it tells both which announcement of a handle came first and
which came last.
-/

namespace GattPeer.AttributeTable

/-! ## What was announced -/

/-- The announcement that an operation makes, if it can be read. -/
def Operation.announcement? : Operation → Option Announcement
  | .announce path uuid flags => (Announcement.read path uuid flags).toOption
  | _ => none

/-- All announcements that could be read since the last time that all were forgotten. -/
def announced (operations : List Operation) : List Announcement :=
  (operations.rtakeWhile (· ≠ .clear)).filterMap Operation.announcement?

def arrivals (as : List Announcement) : List Int := (as.map (·.handle.number)).eraseDups

def last? (as : List Announcement) (number : Int) : Option Announcement :=
  (as.filter (·.handle.number = number)).getLast?

@[simp] theorem announced_append_clear (operations : List Operation) :
    announced (operations ++ [.clear]) = [] := by
  rw [announced, List.rtakeWhile_concat_neg _ _ _ (by simp)]
  rfl

theorem announced_append {operation : Operation} (h : operation ≠ .clear)
    (operations : List Operation) :
    announced (operations ++ [operation])
      = announced operations ++ operation.announcement?.toList := by
  have hsingle : [operation].filterMap Operation.announcement?
      = operation.announcement?.toList := by
    cases hannounced : operation.announcement? <;> simp [hannounced]
  rw [announced, List.rtakeWhile_concat_pos _ _ _ (by simpa using h), List.filterMap_append,
    hsingle, announced]

theorem arrivals_append (as : List Announcement) (a : Announcement) :
    arrivals (as ++ [a])
      = if a.handle.number ∈ arrivals as then arrivals as
        else arrivals as ++ [a.handle.number] := by
  have hmem : a.handle.number ∈ arrivals as ↔ a.handle.number ∈ as.map (·.handle.number) :=
    List.mem_eraseDups
  have hsplit : arrivals (as ++ [a])
      = arrivals as ++ ([a.handle.number].removeAll (as.map (·.handle.number))).eraseDups := by
    rw [arrivals, List.map_append, List.eraseDups_append]
    rfl
  rw [hsplit, List.removeAll]
  by_cases hold : a.handle.number ∈ as.map (·.handle.number)
  · rw [if_pos (hmem.mpr hold), List.filter_cons_of_neg (by simpa using hold)]
    exact List.append_nil _
  · rw [if_neg (hmem.not.mpr hold), List.filter_cons_of_pos (by simpa using hold)]
    rfl

theorem last?_append (as : List Announcement) (a : Announcement) (number : Int) :
    last? (as ++ [a]) number = if a.handle.number = number then some a else last? as number := by
  rw [last?, List.filter_append]
  by_cases hnumber : a.handle.number = number
  · rw [List.filter_cons_of_pos (by simpa using hnumber), if_pos hnumber]
    exact List.getLast?_concat
  · rw [List.filter_cons_of_neg (by simpa using hnumber), if_neg hnumber]
    simp [last?]

theorem last?_eq_none_iff {as : List Announcement} {number : Int} :
    last? as number = none ↔ ∀ a ∈ as, a.handle.number ≠ number := by
  rw [last?, List.getLast?_eq_none_iff, List.filter_eq_nil_iff]
  simp only [decide_eq_true_eq, ne_eq]

/-! ## Storing what was announced -/

/-- What a new table holds after announcements. -/
def stored (as : List Announcement) : List Announcement := as.foldl (fun as a ↦ store a as) []

@[simp] theorem stored_append (as : List Announcement) (a : Announcement) :
    stored (as ++ [a]) = store a (stored as) :=
  List.foldl_append ..

@[simp] theorem lookup?_stored (as : List Announcement) (number : Int) :
    lookup? (stored as) number = last? as number := by
  induction as using List.reverseRecOn with
  | nil => rfl
  | append_singleton as a ih => rw [stored_append, lookup?_store, last?_append, ih]

theorem map_number_store (a : Announcement) (as : List Announcement) :
    (store a as).map (·.handle.number) = if a.handle.number ∈ as.map (·.handle.number)
      then as.map (·.handle.number) else as.map (·.handle.number) ++ [a.handle.number] := by
  induction as with
  | nil => rfl
  | cons b as ih =>
    by_cases hsame : b.handle.number = a.handle.number
    · simp [store, hsame]
    · have hother : a.handle.number ≠ b.handle.number := fun h ↦ hsame h.symm
      rw [store, if_neg hsame, List.map_cons, ih, List.map_cons]
      by_cases hmem : a.handle.number ∈ as.map (·.handle.number) <;> simp [hmem, hother]

@[simp] theorem map_number_stored (as : List Announcement) :
    (stored as).map (·.handle.number) = arrivals as := by
  induction as using List.reverseRecOn with
  | nil => rfl
  | append_singleton as a ih => rw [stored_append, map_number_store, arrivals_append, ih]

theorem distinct_stored (as : List Announcement) : Ranges.Distinct (stored as) := by
  induction as using List.reverseRecOn with
  | nil => exact List.nodup_nil
  | append_singleton as a ih =>
    rw [stored_append]
    exact distinct_store a ih

@[simp] theorem mem_stored_iff {as : List Announcement} {a : Announcement} :
    a ∈ stored as ↔ last? as a.handle.number = some a := by
  rw [← lookup?_stored]
  exact (lookup?_eq_some_iff (distinct_stored as)).symm

/-! ## One announcement -/

theorem step_announce_of_error (t : AttributeTable) {path uuid : String} {flags : PropertyFlags}
    {failure : Failure} (h : Announcement.read path uuid flags = .error failure) :
    t.step (.announce path uuid flags)
      = (t, [.adding t.owner uuid flags path], .error failure) := by
  unfold step announce
  simp only [h, Except.map]

theorem step_announce_of_ok (t : AttributeTable) {path uuid : String} {flags : PropertyFlags}
    {a : Announcement} (h : Announcement.read path uuid flags = .ok a) :
    t.step (.announce path uuid flags)
      = ({ t with announcements := store a t.announcements },
        .adding t.owner uuid flags path :: ((lookup? t.announcements a.handle.number).map
          fun old ↦ .replaced t.owner a.handle.number.toNat old.path path).toList,
        .ok (.announcement a)) := by
  unfold step announce
  cases hlookup : lookup? t.announcements a.handle.number <;>
    simp only [h, hlookup, Except.map, Option.map, Option.toList]

@[simp]
theorem outcome_step_announce (t : AttributeTable) (path uuid : String) (flags : PropertyFlags) :
    (t.step (.announce path uuid flags)).2.2
      = (Announcement.read path uuid flags).map .announcement := by
  cases hread : Announcement.read path uuid flags with
  | error failure => rw [step_announce_of_error t hread, Except.map]
  | ok a => rw [step_announce_of_ok t hread, Except.map]

@[simp]
theorem published_step_announce (t : AttributeTable) (path uuid : String) (flags : PropertyFlags) :
    (t.step (.announce path uuid flags)).1.published = t.published := by
  cases hread : Announcement.read path uuid flags with
  | error failure => rw [step_announce_of_error t hread]
  | ok a => rw [step_announce_of_ok t hread]

theorem exists_read_eq_error {path uuid : String} (flags : PropertyFlags)
    (h : (∀ handle, Handle.ofPath path ≠ .ok handle) ∨ ∀ u, Uuid.parse uuid ≠ .ok u) :
    ∃ failure, Announcement.read path uuid flags = .error failure := by
  unfold Announcement.read
  cases hhandle : Handle.ofPath path with
  | error failure => exact ⟨failure, rfl⟩
  | ok handle =>
    cases hu : Uuid.parse uuid with
    | error failure => exact ⟨failure, rfl⟩
    | ok u =>
      rcases h with hpath | huuid
      · exact absurd hhandle (hpath handle)
      · exact absurd hu (huuid u)

theorem read_eq_ok {path uuid : String} {handle : Handle} {u : Uuid} (flags : PropertyFlags)
    (hhandle : Handle.ofPath path = .ok handle) (hu : Uuid.parse uuid = .ok u) :
    Announcement.read path uuid flags = .ok ⟨path, handle, u, flags⟩ := by
  rw [Announcement.read, hhandle, hu]
  rfl

theorem errors_eq_nil_of_not_announce (t : AttributeTable) {operation : Operation}
    (h : ∀ path uuid flags, operation ≠ .announce path uuid flags) :
    (t.step operation).2.1.filter (·.level = .error) = [] := by
  cases operation with
  | announce path uuid flags => exact absurd rfl (h path uuid flags)
  | _ => rfl

@[simp] theorem owner_run (owner : String) (operations : List Operation) :
    ((empty owner).run operations).owner = owner := by
  induction operations using List.reverseRecOn with
  | nil => rfl
  | append_singleton operations operation ih =>
    have hrun : (empty owner).run (operations ++ [operation])
        = (((empty owner).run operations).step operation).1 := List.foldl_append ..
    rw [hrun]
    cases operation with
    | announce path uuid flags =>
      cases hread : Announcement.read path uuid flags with
      | error failure => rwa [step_announce_of_error _ hread]
      | ok a => rwa [step_announce_of_ok _ hread]
    | _ => exact ih

/-! ## The table beside the list of announcements, in order -/

/-- **A table stores what was announced** since all were last forgotten. -/
@[simp] theorem announcements_run (owner : String) (operations : List Operation) :
    ((empty owner).run operations).announcements = stored (announced operations) := by
  induction operations using List.reverseRecOn with
  | nil => rfl
  | append_singleton operations operation ih =>
    have hrun : (empty owner).run (operations ++ [operation])
        = (((empty owner).run operations).step operation).1 := List.foldl_append ..
    rw [hrun]
    by_cases hclear : operation = .clear
    · rw [hclear, announced_append_clear]
      rfl
    · rw [announced_append hclear]
      cases operation with
      | clear => exact absurd rfl hclear
      | announce path uuid flags =>
        rw [Operation.announcement?]
        cases hread : Announcement.read path uuid flags with
        | error failure =>
          rw [step_announce_of_error _ hread]
          exact ih.trans (congrArg stored (List.append_nil _).symm)
        | ok a =>
          have hlist : (Except.ok a : Except Failure Announcement).toOption.toList = [a] := rfl
          rw [step_announce_of_ok _ hread, hlist, stored_append, ← ih]
      | _ => exact ih.trans (congrArg stored (List.append_nil _).symm)

/-- **A table looks up the last announcement of each handle.** -/
theorem lookup?_run_eq_last? (owner : String) (operations : List Operation) (number : Int) :
    lookup? ((empty owner).run operations).announcements number
      = last? (announced operations) number := by
  rw [announcements_run, lookup?_stored]

/-- **The handles in a table stand in the order in which they came first.** -/
theorem map_number_run (owner : String) (operations : List Operation) :
    ((empty owner).run operations).announcements.map (·.handle.number)
      = arrivals (announced operations) := by
  rw [announcements_run, map_number_stored]

theorem last?_eq_of_mem_run (owner : String) (operations : List Operation) {a : Announcement}
    (h : a ∈ ((empty owner).run operations).announcements) :
    last? (announced operations) a.handle.number = some a := by
  rw [announcements_run] at h
  exact mem_stored_iff.mp h

theorem length_run (owner : String) (operations : List Operation) :
    ((empty owner).run operations).announcements.length
      = (arrivals (announced operations)).length := by
  rw [← map_number_run owner, List.length_map]

/-- **A table is an ordered map.** After any operations its announcements stand in the order in
which their handles came first, and each is the last that could be read of its handle. A path is the
one of that last announcement, and the size is the number of handles. The next announcement gives
what could be read and leaves the published ranges. If it cannot be read, by its path or by its
type, then it leaves the table and reports no error. If it can, then it reports an error with both
paths exactly when its handle was announced before. No other operation reports an error. -/
theorem table_keeps_first_places_and_last_contents (owner : String) (operations : List Operation) :
    let t := (empty owner).run operations
    let read := announced operations
    (∃ as, (t.step .announcements).2.2 = .ok (.announcements as) ∧
      as.map (·.handle.number) = arrivals read ∧
      ∀ a ∈ as, last? read a.handle.number = some a) ∧
    (t.step .size).2.2 = .ok (.count (arrivals read).length) ∧
    (∀ number, (t.step (.pathOf number)).2.2 = .ok (.path ((last? read number).map (·.path)))) ∧
    (∀ path uuid flags,
      let after := t.step (.announce path uuid flags)
      after.2.2 = (Announcement.read path uuid flags).map .announcement ∧
      after.1.published = t.published ∧
      ((∀ handle, Handle.ofPath path ≠ .ok handle) ∨ (∀ u, Uuid.parse uuid ≠ .ok u) →
        (∃ failure, after.2.2 = .error failure) ∧ after.1 = t ∧
        after.2.1.filter (·.level = .error) = []) ∧
      ∀ handle u, Handle.ofPath path = .ok handle → Uuid.parse uuid = .ok u →
        after.2.2 = .ok (.announcement ⟨path, handle, u, flags⟩) ∧
        after.2.1.filter (·.level = .error) = ((last? read handle.number).map
          fun old ↦ .replaced owner handle.number.toNat old.path path).toList) ∧
    ∀ operation, (∀ path uuid flags, operation ≠ .announce path uuid flags) →
      (t.step operation).2.1.filter (·.level = .error) = [] := by
  intro t read
  refine ⟨⟨t.announcements, rfl, map_number_run owner operations,
    fun a ha ↦ last?_eq_of_mem_run owner operations ha⟩, ?_, ?_, ?_,
    fun operation hother ↦ errors_eq_nil_of_not_announce t hother⟩
  · exact congrArg (fun n ↦ Except.ok (Answer.count n)) (length_run owner operations)
  · intro number
    have hlookup : lookup? t.announcements number = last? read number :=
      lookup?_run_eq_last? owner operations number
    exact congrArg (fun o ↦ Except.ok (Answer.path (o.map (·.path)))) hlookup
  · intro path uuid flags
    refine ⟨outcome_step_announce t path uuid flags, published_step_announce t path uuid flags,
      ?_, ?_⟩
    · intro hbad
      obtain ⟨failure, hread⟩ := exists_read_eq_error flags hbad
      rw [step_announce_of_error t hread]
      exact ⟨⟨failure, rfl⟩, rfl, rfl⟩
    · intro handle u hhandle hu
      rw [step_announce_of_ok t (read_eq_ok flags hhandle hu)]
      refine ⟨rfl, ?_⟩
      rw [owner_run owner operations, lookup?_run_eq_last? owner operations]
      cases last? read handle.number <;> rfl

/-- A handle that is announced again, under another path, keeps its place. The second type cannot be
read. -/
theorem repeated_handle_keeps_its_place :
    let operations : List Operation :=
      [.announce "/a/char0002" "2a00" ⟨0⟩, .announce "/a/char0005" "2a01" ⟨0⟩]
    let t := (empty "").run operations
    let after := t.step (.announce "/b/char0002" "2a00" ⟨0⟩)
    let refused := t.step (.announce "/b/char0002" "2a" ⟨0⟩)
    after.2.1.filter (·.level = .error) = [.replaced "" 2 "/a/char0002" "/b/char0002"] ∧
    after.1.announcements.map (·.path) = ["/b/char0002", "/a/char0005"] ∧
    refused.1 = t := by
  intro operations t after refused
  obtain ⟨-, -, -, hannounce, -⟩ := table_keeps_first_places_and_last_contents "" operations
  obtain ⟨-, -, -, hreplaced⟩ := hannounce "/b/char0002" "2a00" ⟨0⟩
  obtain ⟨-, -, hrefused, -⟩ := hannounce "/b/char0002" "2a" ⟨0⟩
  have htype : ∀ u, Uuid.parse "2a" ≠ .ok u := by
    intro u hu
    cases hu
  refine ⟨(hreplaced ⟨2, .characteristic⟩ ⟨0x2a0000001000800000805f9b34fb⟩ rfl rfl).2.trans rfl,
    rfl, (hrefused (.inr htype)).2.1⟩

end GattPeer.AttributeTable
