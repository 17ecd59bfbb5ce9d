import GattPeer.Proofs.AttributeTable.Grounded
import GattPeer.Proofs.Device.Replay

/-!
# Handles stay known

A device forgets no handle that was announced to it. What it publishes was announced, and a call to
discover ends with nothing but what is published at its end. So whatever moves are made, the
characteristics with which calls ended are known by their handles ever after.
-/

namespace GattPeer

/-- The characteristics with which a call ends, if it ends with any. -/
def EndedCall.found (e : EndedCall) : List Characteristic :=
  match e.outcome with
  | .ok (.characteristics cs) => cs
  | _ => []

namespace Device

theorem found_finish_subset (d : Device) (w : Woken Call) :
    (d.finish w).found ⊆ d.characteristics := by
  obtain ⟨⟨id, purpose, journal⟩, outcome⟩ := w
  cases outcome with
  | error failure => exact List.nil_subset _
  | ok state =>
    cases purpose with
    | connect budget left => exact List.nil_subset _
    | discover first last =>
      cases state with
      | notConnected => exact List.nil_subset _
      | connected => exact fun c hc ↦ List.mem_of_mem_filter hc
      | servicesResolved => exact fun c hc ↦ List.mem_of_mem_filter hc

theorem found_lastLook_subset (d : Device) (w : Waiter Call) :
    (d.lastLook w).found ⊆ d.characteristics := by
  rw [lastLook]
  cases w.react d.state with
  | some woken => exact d.found_finish_subset woken
  | none =>
    change (d.expire w.tag).found ⊆ d.characteristics
    rw [expire]
    cases w.tag.purpose <;> exact List.nil_subset _

/-- Given handles are known to a device, and so are those of what is published and of what calls
ended with. -/
structure Grounded (known : List Int) (past : List Happening) (d : Device) : Prop where
  /-- The given handles are known. -/
  known : known ⊆ d.attributes.handles
  /-- What is published was announced. -/
  published : d.attributes.Grounded
  /-- What calls ended with is known. -/
  found : ∀ e, .ended e ∈ past → ∀ c ∈ e.found, c.value ∈ d.attributes.handles

variable {known : List Int} {past : List Happening} {d d' : Device}

theorem grounded_nil (h : d.attributes.Grounded) (hknown : known ⊆ d.attributes.handles) :
    Grounded known [] d :=
  ⟨hknown, h, fun _ he ↦ absurd he List.not_mem_nil⟩

theorem Grounded.append {more : List Happening} (h : Grounded known past d)
    (hhandles : d.attributes.handles ⊆ d'.attributes.handles) (hpublished : d'.attributes.Grounded)
    (hmore : ∀ e, .ended e ∈ more → ∀ c ∈ e.found, c.value ∈ d'.attributes.handles) :
    Grounded known (past ++ more) d' := by
  refine ⟨List.Subset.trans h.known hhandles, hpublished, fun e he c hc ↦ ?_⟩
  rcases List.mem_append.mp he with he | he
  · exact hhandles (h.found e he c hc)
  · exact hmore e he c hc

theorem Grounded.notified (h : Grounded known past d) (news : News) (state : ConnectionState) :
    Grounded known (past ++ .notified news state :: d.endedBy state) (d.seeing state) := by
  refine h.append (List.Subset.refl _) h.published fun e he c hc ↦ ?_
  obtain ⟨w, -, hw⟩ := List.mem_map.mp ((List.mem_cons.mp he).resolve_left nofun)
  rw [← Happening.ended.inj hw] at hc
  exact h.published c (d.found_finish_subset w hc)

theorem Grounded.republished (h : Grounded known past d) : Grounded known past d.republished :=
  ⟨h.known, d.attributes.grounded_publish, h.found⟩

/-- **No handle is forgotten**, whatever moves are made. -/
theorem law_grounded (K : Call → Prop) (known : List Int) : Law K (Grounded known) where
  merged changes h := by
    refine h.append (List.Subset.refl _) h.published fun e he ↦ ?_
    exact nomatch List.mem_singleton.mp he
  connection value h := h.notified ..
  resolved h := h.republished.notified ..
  unresolved h := h.notified ..
  announced {past d} a h := by
    have hhandles := d.attributes.handles_subset_store a
    refine h.append hhandles (h.published.of_subset rfl hhandles) fun e he ↦ ?_
    exact nomatch List.mem_singleton.mp he
  joined h _ _ := ⟨h.known, h.published, h.found⟩
  answered {past d c woken} h _ _ := by
    refine h.append (List.Subset.refl _) h.published fun e he c hc ↦ ?_
    rw [Happening.ended.inj (List.mem_singleton.mp he)] at hc
    exact h.published c (d.found_finish_subset woken hc)
  closed id failure journal h := by
    refine h.append (List.Subset.refl _) h.published fun e he c hc ↦ ?_
    rw [Happening.ended.inj (List.mem_singleton.mp he)] at hc
    cases failure with
    | none => exact absurd hc List.not_mem_nil
    | some failure => exact absurd hc List.not_mem_nil
  expired {past d} id h := by
    refine h.append (List.Subset.refl _) h.published fun e he c hc ↦ ?_
    obtain ⟨w, -, hw⟩ := List.mem_map.mp he
    rw [← Happening.ended.inj hw] at hc
    exact h.published c (d.found_lastLook_subset w hc)

end Device

end GattPeer
