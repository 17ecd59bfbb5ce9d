import GattPeer.Proofs.Device.Replay
import Mathlib.Data.List.Basic

/-!
# The journals of calls

A device never looks at the journals of the calls that wait. So notices may be struck out of the
journals: the device does what it did, reports what it reported, and the calls that end are those
that ended, with the same notices struck out.

Which notices are kept is a *sieve*. It keeps what a call reports when it ends, so that nothing has
to be struck out then.
-/

namespace GattPeer

/-! ## Who waits does not matter to the state -/

def Waiter.relabel {κ κ' : Type} (f : κ → κ') (w : Waiter κ) : Waiter κ' := ⟨w.condition, f w.tag⟩

def Woken.relabel {κ κ' : Type} (f : κ → κ') (w : Woken κ) : Woken κ' := ⟨f w.tag, w.outcome⟩

theorem Waiter.react_relabel {κ κ' : Type} (f : κ → κ') (w : Waiter κ) (state : ConnectionState) :
    (w.relabel f).react state = (w.react state).map (Woken.relabel f) := by
  unfold react relabel
  cases w.condition state with
  | error failure => rfl
  | ok value => cases hvalue : value.isTrue <;> simp [hvalue, Woken.relabel]

namespace StateMonitor

variable {κ κ' : Type} (f : κ → κ') (m : StateMonitor κ)

def relabel : StateMonitor κ' := ⟨m.owner, m.state, m.waiting.map (Waiter.relabel f)⟩

@[simp] theorem assignAll_relabel (states : List ConnectionState) :
    ((m.relabel f).assignAll states).2 = (m.assignAll states).2 := by
  induction states generalizing m with
  | nil => rfl
  | cons state states ih => exact congrArg (_ ++ ·) (ih (m.assign state).1)

/-- **A transition does not depend on the tags of those who wait.** -/
@[simp] theorem transition_relabel (states : List ConnectionState) :
    (m.relabel f).transition states = ((m.transition states).1.relabel f,
      (m.transition states).2.1, (m.transition states).2.2.map (Woken.relabel f)) := by
  have harrival : (m.relabel f).arrival states = m.arrival states := rfl
  have hseeing (state : ConnectionState) :
      (m.relabel f).seeing state = (m.seeing state).relabel f := by
    have hwaiting : (m.waiting.map (Waiter.relabel f)).filter (fun w ↦ (w.react state).isNone)
        = (m.waiting.filter fun w ↦ (w.react state).isNone).map (Waiter.relabel f) := by
      rw [List.filter_map]
      refine congrArg _ (List.filter_congr fun w _ ↦ ?_)
      rw [Function.comp_apply, Waiter.react_relabel, Option.isNone_map]
    rw [seeing, relabel, hwaiting]
    rfl
  have hwoken (state : ConnectionState) :
      (m.relabel f).wokenBy state = (m.wokenBy state).map (Woken.relabel f) := by
    rw [wokenBy, wokenBy, relabel, List.filterMap_map, List.map_filterMap]
    exact List.filterMap_congr fun w _ ↦ w.react_relabel f state
  rw [transition_eq, transition_eq, harrival, hseeing, hwoken, assignAll_relabel]

@[simp] theorem await_relabel (w : Waiter κ) :
    (m.relabel f).await (w.relabel f)
      = ((m.await w).1.relabel f, (m.await w).2.map (Woken.relabel f)) := by
  have hreact : (w.relabel f).react (m.relabel f).state = (w.react m.state).map (.relabel f) :=
    w.react_relabel f m.state
  cases hwoken : w.react m.state with
  | some woken =>
    rw [hwoken] at hreact
    rw [await_of_react_eq_some hreact, await_of_react_eq_some hwoken]
    rfl
  | none =>
    rw [hwoken] at hreact
    rw [await_of_react_eq_none hreact, await_of_react_eq_none hwoken]
    simp [relabel]

end StateMonitor

/-! ## Sieves -/

/-- Which notices are kept when some are struck out. What a call reports at its end is kept. -/
structure Sieve where
  /-- Whether a notice is kept. -/
  keeps : Notice → Bool
  /-- Notices of the device as its callers see it are kept. -/
  keeps_device : ∀ n, n.origin = .device → keeps n = true

variable (k : Sieve)

def Call.sifted (c : Call) : Call := { c with journal := c.journal.filter k.keeps }

def EndedCall.sifted (e : EndedCall) : EndedCall := { e with journal := e.journal.filter k.keeps }

def Happening.sifted : Happening → Happening
  | .ended e => .ended (e.sifted k)
  | h => h

namespace Device

variable (d : Device)

def sifted : Device := { d with monitor := d.monitor.relabel (Call.sifted k) }

def siftedWith (result : Device × Effects) : Device × Effects :=
  (result.1.sifted k, { result.2 with course := result.2.course.map (Happening.sifted k) })

theorem filter_keeps_result (purpose : Purpose) (state : ConnectionState) :
    (d.result purpose state).2.filter k.keeps = (d.result purpose state).2 := by
  refine List.filter_eq_self.mpr fun n hn ↦ k.keeps_device n ?_
  unfold result at hn
  split at hn
  · rw [List.mem_singleton.mp hn]
    rfl
  · split at hn
    · exact absurd hn List.not_mem_nil
    · rw [List.mem_singleton.mp hn]
      rfl

@[simp] theorem finish_sifted (w : Woken Call) :
    (d.sifted k).finish (w.relabel (Call.sifted k)) = (d.finish w).sifted k := by
  obtain ⟨c, outcome⟩ := w
  cases outcome with
  | error failure => rfl
  | ok state =>
    have hresult : (d.sifted k).result = d.result := rfl
    simp only [finish, Woken.relabel, EndedCall.sifted, hresult, List.filter_append,
      filter_keeps_result]
    rfl

@[simp] theorem expire_sifted (c : Call) :
    (d.sifted k).expire (c.sifted k) = (d.expire c).sifted k := by
  unfold expire
  cases hpurpose : c.purpose with
  | connect budget left =>
    have hpurpose' : (c.sifted k).purpose = .connect budget left := hpurpose
    have hkept : [Notice.notConnectedAfter d.address budget d.state].filter k.keeps
        = [.notConnectedAfter d.address budget d.state] :=
      List.filter_cons_of_pos (k.keeps_device _ rfl)
    simp only [hpurpose', EndedCall.sifted, List.filter_append, hkept]
    rfl
  | discover first last =>
    have hpurpose' : (c.sifted k).purpose = .discover first last := hpurpose
    simp only [hpurpose']
    rfl

@[simp] theorem lastLook_sifted (w : Waiter Call) :
    (d.sifted k).lastLook (w.relabel (Call.sifted k)) = (d.lastLook w).sifted k := by
  have hreact : (w.relabel (Call.sifted k)).react (d.sifted k).state
      = (w.react d.state).map (.relabel (Call.sifted k)) := w.react_relabel _ _
  rw [lastLook, lastLook, hreact]
  cases w.react d.state with
  | none => exact d.expire_sifted k w.tag
  | some woken => exact d.finish_sifted k woken

theorem filter_endsAt_sifted (id : Nat) (b : Bool) :
    (d.sifted k).monitor.waiting.filter (fun w ↦ w.tag.endsAt id == b)
      = (d.monitor.waiting.filter fun w ↦ w.tag.endsAt id == b).map
        (Waiter.relabel (Call.sifted k)) :=
  List.filter_map

@[simp] theorem leftBy_sifted (id : Nat) : (d.sifted k).leftBy id = (d.leftBy id).sifted k := by
  have hwaiting := d.filter_endsAt_sifted k id false
  simp only [beq_false] at hwaiting
  rw [leftBy, hwaiting]
  rfl

@[simp] theorem endedAt_sifted (id : Nat) :
    (d.sifted k).endedAt id = (d.endedAt id).map (Happening.sifted k) := by
  have hwaiting := d.filter_endsAt_sifted k id true
  simp only [beq_true] at hwaiting
  rw [endedAt, hwaiting, endedAt, List.map_map, List.map_map]
  refine List.map_congr_left fun w _ ↦ ?_
  exact congrArg Happening.ended (d.lastLook_sifted k w)

@[simp] theorem transition_sifted (news : News) (states : List ConnectionState) :
    (d.sifted k).transition news states = siftedWith k (d.transition news states) := by
  have hmonitor : (d.sifted k).monitor.transition states = _ :=
    d.monitor.transition_relabel (Call.sifted k) states
  have hends (woken : List (Woken Call)) :
      (woken.map (Woken.relabel (Call.sifted k))).map
          (fun w ↦ Happening.ended ((d.sifted k).finish w))
        = (woken.map fun w ↦ Happening.ended (d.finish w)).map (Happening.sifted k) := by
    rw [List.map_map, List.map_map]
    refine List.map_congr_left fun w _ ↦ ?_
    exact congrArg Happening.ended (d.finish_sifted k w)
  rw [transition, hmonitor, transition, siftedWith]
  simp only [StateMonitor.transition_eq, hends]
  rfl

@[simp] theorem connectionChanged_sifted (value : Bool) :
    (d.sifted k).connectionChanged value = siftedWith k (d.connectionChanged value) := by
  have hstate : (d.sifted k).state = d.state := rfl
  simp only [connectionChanged, hstate, transition_sifted]
  rfl

@[simp] theorem resolutionChanged_sifted (value : Bool) :
    (d.sifted k).resolutionChanged value = siftedWith k (d.resolutionChanged value) := by
  cases value with
  | false =>
    simp only [resolutionChanged, transition_sifted]
    rfl
  | true =>
    have hrepublished : { d.sifted k with attributes := d.attributes.publish.1 }
        = sifted k { d with attributes := d.attributes.publish.1 } := rfl
    have hattributes : (d.sifted k).attributes = d.attributes := rfl
    simp only [resolutionChanged, if_true, hattributes, hrepublished, transition_sifted]
    rfl

theorem follow_sifted (value : Option Value) (report : Value → Notice)
    {change : Device → Bool → Device × Effects}
    (hchange : ∀ b, change (d.sifted k) b = siftedWith k (change d b)) :
    (d.sifted k).follow value report change = siftedWith k (d.follow value report change) := by
  cases value with
  | none => rfl
  | some value =>
    unfold follow
    cases htruth : Decode.truth? value with
    | none => simp only [htruth]; rfl
    | some b => simp only [htruth, hchange]

/-- **A batch for the device does the same to a sifted device.** -/
@[simp] theorem update_sifted (changes : Changes) :
    (d.sifted k).update changes = siftedWith k (d.update changes) := by
  have hmerging : (d.sifted k).merging changes = (d.merging changes).sifted k := rfl
  have haddress : (d.sifted k).address = d.address := rfl
  have hconnected := (d.merging changes).follow_sifted k (changes.value? "Connected")
    (.badConnected d.address) ((d.merging changes).connectionChanged_sifted k)
  have hresolved (d' : Device) := d'.follow_sifted k (changes.value? "ServicesResolved")
    (.badResolved d.address) (d'.resolutionChanged_sifted k)
  -- The second property is followed on what the first one left, whatever that is.
  rw [update_eq_follow, update_eq_follow, hmerging, haddress, hconnected]
  simp only [siftedWith, hresolved, List.map_append, List.map_cons]
  rfl

/-- **What a device receives does the same to a sifted device.** -/
@[simp] theorem receive_sifted (batch : Batch) :
    (d.sifted k).receive batch = (d.receive batch).map (siftedWith k) := by
  have hsubject : (d.sifted k).subject batch.path = d.subject batch.path := rfl
  have haddress : (d.sifted k).address = d.address := rfl
  rw [receive, receive, hsubject]
  rcases d.subject batch.path
  · rfl
  · cases Value.sortKeys (batch.changes.map (·.1)) <;> rfl
  · simp only [haddress, update_sifted, Except.map, siftedWith]

@[simp] theorem announce_sifted (path uuid : String) (flags : PropertyFlags) :
    (d.sifted k).announce path uuid flags = ((d.announce path uuid flags).1.sifted k,
      (d.announce path uuid flags).2) := by
  have hattributes : (d.sifted k).attributes = d.attributes := rfl
  rw [announce, announce, hattributes]
  generalize d.attributes.announce path uuid flags = announced
  rfl

end Device

end GattPeer
