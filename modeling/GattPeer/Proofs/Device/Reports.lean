import GattPeer.Proofs.Device.Sifting

/-!
# What a device reports

A device reports what it makes of a batch that it merges: what was merged, what was skipped in it,
how the connection state moved, and which ranges were published. What it ignores it reports too.
These reports are its own; none is one that the link to the bus makes about its signals and its
callbacks.
-/

namespace GattPeer

namespace Notice

/-- Whether a notice is one of those that a device makes of a batch that it merges. -/
def isOfMerge : Notice → Bool
  | .updating _ | .localName .. | .manufacturerData .. | .addressType .. => true
  | .signalStrength .. => true
  | .badCompany _ | .badPayload .. | .badManufacturerData .. => true
  | .connectedProperty .. | .badConnected .. | .resolvedProperty .. | .badResolved .. => true
  | .moved .. | .published .. => true
  | _ => false

/-- Whether a notice is not the link's. -/
def BeyondLink (n : Notice) : Prop := n.origin ≠ .link

theorem beyondLink_of_isOfMerge {n : Notice} (h : n.isOfMerge = true) : n.BeyondLink := by
  cases n <;> simp_all [isOfMerge, BeyondLink, origin]

end Notice

namespace Device

theorem isOfMerge_assignAll (m : StateMonitor Call) (states : List ConnectionState) :
    ∀ n ∈ (m.assignAll states).2, n.isOfMerge = true := by
  induction states generalizing m with
  | nil => exact List.forall_mem_nil _
  | cons state states ih =>
    have hmoved : ∀ n ∈ (m.assign state).2, n.isOfMerge = true := by
      rw [StateMonitor.assign]
      dsimp only
      split
      · exact List.forall_mem_nil _
      · exact List.forall_mem_singleton.mpr rfl
    exact List.forall_mem_append.mpr ⟨hmoved, ih _⟩

theorem isOfMerge_transition (d : Device) (news : News) (states : List ConnectionState) :
    ∀ n ∈ (d.transition news states).2.notices, n.isOfMerge = true := by
  have hnotices : (d.transition news states).2.notices = (d.monitor.assignAll states).2 := by
    rw [transition, StateMonitor.transition_eq]
  rw [hnotices]
  exact isOfMerge_assignAll _ _

theorem isOfMerge_connectionChanged (d : Device) (value : Bool) :
    ∀ n ∈ (d.connectionChanged value).2.notices, n.isOfMerge = true :=
  List.forall_mem_cons.mpr ⟨rfl, isOfMerge_transition _ _ _⟩

theorem isOfMerge_resolutionChanged (d : Device) (value : Bool) :
    ∀ n ∈ (d.resolutionChanged value).2.notices, n.isOfMerge = true := by
  cases value with
  | false => exact List.forall_mem_cons.mpr ⟨rfl, isOfMerge_transition d (.resolution false) []⟩
  | true =>
    refine List.forall_mem_cons.mpr ⟨rfl, List.forall_mem_cons.mpr ⟨rfl, ?_⟩⟩
    exact isOfMerge_transition { d with attributes := d.attributes.publish.1 } (.resolution true)
      [.servicesResolved]

theorem isOfMerge_follow (report : Value → Notice) {d : Device}
    {change : Device → Bool → Device × Effects} (hreport : ∀ value, (report value).isOfMerge = true)
    (hchange : ∀ b, ∀ n ∈ (change d b).2.notices, n.isOfMerge = true) (value : Option Value) :
    ∀ n ∈ (d.follow value report change).2.notices, n.isOfMerge = true := by
  unfold follow
  split
  · exact List.forall_mem_nil _
  · split
    · exact List.forall_mem_singleton.mpr (hreport _)
    · exact hchange _

theorem isOfMerge_manufacturerEntry {entry : Value × Value} {n : Notice}
    (h : Decode.manufacturerEntry entry = .error n) : n.isOfMerge = true := by
  unfold Decode.manufacturerEntry at h
  split at h
  · rw [← Except.error.inj h]
    rfl
  · split at h
    · rw [← Except.error.inj h]
      rfl
    · exact nomatch h

theorem isOfMerge_manufacturerNotices (owner : String) (value : Value) :
    ∀ n ∈ Advertisement.manufacturerNotices owner value, n.isOfMerge = true := by
  unfold Advertisement.manufacturerNotices
  split
  · exact List.forall_mem_singleton.mpr rfl
  · refine List.forall_mem_append.mpr ⟨fun n hn ↦ ?_, List.forall_mem_singleton.mpr rfl⟩
    obtain ⟨entry, -, hentry⟩ := List.mem_filterMap.mp hn
    split at hentry
    · next hfailed =>
      rw [← Option.some.inj hentry]
      exact isOfMerge_manufacturerEntry hfailed
    · exact nomatch hentry

theorem isOfMerge_mergeNotices (owner : String) (changes : Changes) :
    ∀ n ∈ Advertisement.mergeNotices owner changes, n.isOfMerge = true := by
  have hreport (name : String) {notices : Value → List Notice}
      (h : ∀ value, ∀ n ∈ notices value, n.isOfMerge = true) :
      ∀ n ∈ (changes.value? name).elim [] notices, n.isOfMerge = true := by
    cases changes.value? name with
    | none => exact List.forall_mem_nil _
    | some value => exact h value
  unfold Advertisement.mergeNotices
  simp only [List.cons_append, List.forall_mem_cons, List.forall_mem_append]
  exact ⟨rfl, ⟨⟨hreport _ fun _ ↦ List.forall_mem_singleton.mpr rfl,
    hreport _ (isOfMerge_manufacturerNotices owner)⟩,
    hreport _ fun _ ↦ List.forall_mem_singleton.mpr rfl⟩,
    hreport _ fun _ ↦ List.forall_mem_singleton.mpr rfl⟩

theorem isOfMerge_update (d : Device) (changes : Changes) :
    ∀ n ∈ (d.update changes).2.notices, n.isOfMerge = true := by
  rw [update_eq_follow]
  refine List.forall_mem_append.mpr ⟨List.forall_mem_append.mpr ⟨?_, ?_⟩, ?_⟩
  · exact isOfMerge_mergeNotices d.address changes
  · exact isOfMerge_follow (.badConnected d.address) (fun _ ↦ rfl) (isOfMerge_connectionChanged _) _
  · exact isOfMerge_follow (.badResolved d.address) (fun _ ↦ rfl) (isOfMerge_resolutionChanged _) _

/-- **What a device reports of a batch** is never a report of the link. -/
theorem beyondLink_receive {d next : Device} {batch : Batch} {effects : Effects}
    (h : d.receive batch = .ok (next, effects)) : ∀ n ∈ effects.notices, n.BeyondLink := by
  unfold receive at h
  split at h
  · cases h
    exact List.forall_mem_singleton.mpr nofun
  · cases hsort : Value.sortKeys (batch.changes.map (·.1)) with
    | error failure =>
      rw [hsort] at h
      exact nomatch h
    | ok names =>
      rw [hsort] at h
      cases h
      exact List.forall_mem_singleton.mpr nofun
  · obtain rfl := (Prod.ext_iff.mp (Except.ok.inj h)).2
    refine List.forall_mem_append.mpr ⟨fun n hn ↦ ?_, ?_⟩
    · exact Notice.beyondLink_of_isOfMerge (isOfMerge_update d batch.changes n hn)
    · split
      · exact List.forall_mem_nil _
      · exact List.forall_mem_singleton.mpr nofun

end Device

end GattPeer
