import GattPeer.Proofs.Ranges.Window
import GattPeer.Proofs.Session.Addressing
import GattPeer.Proofs.Session.Connecting
import GattPeer.Proofs.Session.Discovery
import GattPeer.Proofs.Session.Registered

/-!
# Discovery part by part

While the services are resolved, a caller may ask for the characteristics in a range of handles at
once, or first for those up to some handle and then for those after it: what is found is the same,
in the same order. Nothing is sorted again when the parts are put together, so this depends on the
order of what is published, in which the handles of the values ascend. They do in every session with
resolved services: such a session has what the last resolution published, and no handle was
registered twice then.

The least handle that a discovery of everything asks for is one. Handles that are read from paths
have sixteen bits and may be zero, so such a discovery finds everything but the characteristic with
handle zero, if there is one.
-/

namespace GattPeer

open Ranges

theorem distinct_registered (past : List Happening) : Distinct (registered past) := by
  induction past using List.reverseRecOn with
  | nil => exact List.nodup_nil
  | append_singleton past h ih =>
    rw [registered_append, List.foldl_cons, List.foldl_nil]
    split
    · exact AttributeTable.distinct_store _ ih
    · exact ih

namespace Session

variable {τ ρ σ : Type} [OperatedTransport τ ρ σ]

/-! ## Sessions with resolved services -/

section

variable [PassingTransport τ] (transport : τ) (path : Option String) (address : String)
  (config : Setup) (drives : List (List ρ × Drive σ))

/-- **What is published ascends** in every session with resolved services. -/
theorem ascending_run (hstate : ((start transport path address config).run drives).1.device.state
      = .servicesResolved) :
    Ascending ((start transport path address config).run drives).1.device.characteristics := by
  have hfaithful := law_run (Device.law_faithful _)
    (s := start transport path address config) (Device.faithful_initial _ _ _) drives
  obtain ⟨early, late, -, -, hbuild⟩ := hfaithful.resolved hstate
  rw [hbuild]
  exact ascending_build (distinct_registered early)

theorem bounds_run [RetainingTransport τ] :
    ∀ c ∈ ((start transport path address config).run drives).1.device.characteristics,
      0 ≤ c.value ∧ c.value ≤ maxHandle := by
  intro c hc
  have hgrounded : (start transport path address config).device.attributes.Grounded :=
    AttributeTable.grounded_empty _
  have hknown := (grounded_run hgrounded (List.nil_subset _) drives).published c hc
  obtain ⟨a, ha, hnumber⟩ := List.mem_map.mp hknown
  -- What is known arrived in the run, so it was read from a path.
  rw [announcements_run_start, AttributeTable.mem_stored_iff] at ha
  obtain ⟨entry, -, hentry⟩ :=
    List.mem_filterMap.mp (List.mem_of_mem_filter (List.mem_of_getLast? ha))
  obtain ⟨announcedPath, uuid, flags, hread⟩ := Drive.exists_read_of_announced? hentry
  rw [← hnumber]
  exact AttributeTable.bounds_of_read hread

end

/-- A call to discover finds given characteristics in the step that starts it, whatever replies the
step has, and leaves the device as it is. -/
structure FindsAtOnce (s : Session τ) (first last : Int) (found : List Characteristic) : Prop where
  /-- The step answers the number of the call. -/
  number : ∀ replies, (s.advance replies (.device (.discover first last))).2.outcome
    = .ok (.number s.nextCall)
  /-- The call ends in the step, and nothing else happens. -/
  ends : ∀ replies, ∃ journal, (s.advance replies (.device (.discover first last))).2.happenings
    = [.ended ⟨s.nextCall, .ok (.characteristics found), journal⟩]
  /-- The device is as before. -/
  device : ∀ replies, (s.advance replies (.device (.discover first last))).1.device = s.device

/-- With resolved services, a call to discover does not wait, so it leaves the device as it is. -/
theorem device_discover {s : Session τ} (hstate : s.device.state = .servicesResolved)
    (replies : List ρ) (first last : Int) :
    (s.advance replies (.device (.discover first last))).1.device = s.device := by
  let request : Act τ (Option Purpose) := requestServices first last
  let t := (s.loading replies).rejoining (request.leaves (s.asking replies))
  let journal := callerNotices (request.leaves (s.asking replies)).trace
  have hleaves : (s.advance replies (.device (.discover first last))).1
      = t.proceed s.nextCall journal (.ok (some (.discover first last))) := by
    rw [advance_eq]
    dsimp only
    rw [leaves_act_of_spawn rfl]
    rfl
  rw [hleaves]
  rcases proceed_cases t s.nextCall journal (.ok (some (.discover first last))) with
    ⟨_, _, -, hproceed⟩ | ⟨_, -, hwaits, -⟩
  · rw [hproceed]
    rfl
  · have houtcome := outcome?_discover s.device first last
    rw [hstate] at houtcome
    exact nomatch houtcome.symm.trans hwaits

/-- **With resolved services, a discovery finds a window** of what is published. -/
theorem findsAtOnce_window [PassingTransport τ] {s : Session τ}
    (hstate : s.device.state = .servicesResolved) (first last : Int) :
    s.FindsAtOnce first last (window first last s.device.characteristics) where
  number replies := (advance_of_startsCall s replies rfl).1
  ends replies := by
    obtain ⟨journal, hhappened⟩ :=
      (discover_advance s replies first last).2 (by rw [hstate]; nofun)
    rw [hstate] at hhappened
    exact ⟨journal, hhappened⟩
  device replies := device_discover hstate replies first last

/-- **A discovery is put together from its parts.** In every session with resolved services, a call
to discover ends in the step that starts it and leaves the device as it is, so what it finds depends
on its range alone. In each range the handles of the values ascend strictly. What is found in a
range is what is found up to any of its handles, followed by what is found after it. And a discovery
of everything finds what is published, but for a characteristic with handle zero, of which there is
at most one. -/
theorem discovery_is_put_together_from_parts [PassingTransport τ] [RetainingTransport τ]
    (transport : τ) (path : Option String) (address : String) (config : Setup)
    (drives : List (List ρ × Drive σ)) :
    let s := ((start transport path address config).run drives).1
    s.device.state = .servicesResolved →
    ∃ found : Int → Int → List Characteristic,
      (∀ first last, s.FindsAtOnce first last (found first last)) ∧
      (∀ first mid last, first ≤ mid + 1 → mid ≤ last →
        found first last = found first mid ++ found (mid + 1) last) ∧
      (∀ first last, (found first last).Pairwise fun c e ↦ c.value < e.value) ∧
      ∃ cs,
        (∀ replies, (s.advance replies (.device .characteristics)).2.outcome
          = .ok (.characteristics cs)) ∧
        found minHandle maxHandle = cs.filter (·.value ≠ 0) ∧
        (cs.filter (·.value = 0)).length ≤ 1 := by
  intro s hstate
  have hascending : Ascending s.device.characteristics :=
    ascending_run transport path address config drives hstate
  have hbounds : ∀ c ∈ s.device.characteristics, 0 ≤ c.value ∧ c.value ≤ maxHandle :=
    bounds_run transport path address config drives
  refine ⟨fun first last ↦ window first last s.device.characteristics, findsAtOnce_window hstate,
    fun first mid last ↦ hascending.window_append, hascending.window,
    s.device.characteristics, fun replies ↦ rfl, window_minHandle_maxHandle hbounds,
    hascending.length_filter_value_le 0⟩

/-- A characteristic at six and services at zero and five; what is found from one on is put together
from what is found up to five and what is found from six on. -/
theorem discovery_beside_handle_zero_is_put_together :
    let s := ((start (⟨[]⟩ : DirectSink) (some "/dev") "" (.standard 64)).run [
      ([], .device (.announce "/dev/char0006" "2a00" ⟨0⟩)),
      ([], .device (.announce "/dev/service0000" "1800" ⟨0⟩)),
      ([], .device (.announce "/dev/service0005" "1801" ⟨0⟩)),
      ([], .device (.receive
        ⟨"/dev", [("Connected", .bool true), ("ServicesResolved", .bool true)], []⟩))]).1
    s.device.attributes.announcements.map (·.handle.number) = [6, 0, 5] ∧
    s.device.state = .servicesResolved ∧
    ∃ found : Int → Int → List Characteristic,
      (∀ first last, s.FindsAtOnce first last (found first last)) ∧
      found minHandle maxHandle = found minHandle 5 ++ found 6 maxHandle := by
  intro s
  have hstate : s.device.state = .servicesResolved := rfl
  have hannounced : s.device.attributes.announcements.map (·.handle.number) = [6, 0, 5] := by
    unfold s
    decide +kernel
  obtain ⟨found, hfinds, hsplit, -⟩ := discovery_is_put_together_from_parts (⟨[]⟩ : DirectSink)
    (some "/dev") "" (.standard 64) _ hstate
  exact ⟨hannounced, hstate, found, hfinds, hsplit _ 5 _ (by decide) (by decide)⟩

end Session

end GattPeer
