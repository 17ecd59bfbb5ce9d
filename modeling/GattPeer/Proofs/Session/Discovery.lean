import GattPeer.Proofs.Device.Resolution
import GattPeer.Proofs.Session.Moves

/-!
# What a call to discover finds

In every run of a session, a call to discover that ends with characteristics ends with those in its
range of the ranges that the last resolution published: the ranges of the announcements that were
registered then. The connection was not dropped since, so that a call which waited through a drop
and a new connection does not find the ranges of an earlier resolution.
-/

namespace GattPeer.Session

variable {τ ρ σ : Type} [OperatedTransport τ ρ σ] [PassingTransport τ]

/-- **Discovery finds what the last resolution published.** Whenever a call to discover ends with
characteristics, the services were resolved after the connection was dropped for the last time, and
the characteristics are those in the range of the call, in their order, of the ranges of the
announcements that were registered when the services were resolved last. Within a batch, the
connection property is handled before the resolution property. -/
theorem discover_finds_last_resolution (transport : τ) (path : Option String) (address : String)
    (config : Setup) (drives : List (List ρ × Drive σ)) :
    let log := ((start transport path address config).run drives).2
    (∀ entry ∈ log, ∀ first last id, entry.drive = .device (.discover first last) →
      entry.report.outcome = .ok (.number id) →
      ∀ before e after cs, history log = before ++ .ended e :: after → e.id = id →
        e.outcome = .ok (.characteristics cs) →
        ∃ early late,
          before = early ++ .notified (.resolution true) .servicesResolved :: late ∧
          (∀ news state, .notified news state ∈ late →
            news ≠ .resolution true ∧ news ≠ .connection false) ∧
          cs = (Ranges.build (registered early)).filter
            fun c ↦ first ≤ c.value && c.value ≤ last) ∧
    ∀ (d : Device) (changes : Changes), ∃ xs ys,
      (d.update changes).2.course = .merged changes :: xs ++ ys ∧
        (∀ news state, .notified news state ∈ xs → ∃ value, news = .connection value) ∧
        ∀ news state, .notified news state ∈ ys → ∃ value, news = .resolution value := by
  intro log
  constructor
  · intro entry hentry first last id hdrive hnumber before e after cs hsplit hid hcs
    obtain ⟨moves, hmoves, hcalls⟩ := exists_moves_run (start transport path address config) drives
    let K : Call → Prop := fun c ↦ ∃ entry ∈ log,
      entry.drive.Starts c.purpose ∧ entry.report.outcome = .ok (.number c.id)
    have hstart : Device.Faithful K [] (start transport path address config).device :=
      Device.faithful_initial K _ _
    have hfaithful := (Device.law_faithful K).replay hcalls hstart
    rw [hmoves, List.nil_append] at hfaithful
    obtain ⟨c, f, l, ranges, ⟨entry', hentry', hstarts, hnumber'⟩, hc, hpurpose, hresolved, rfl⟩ :=
      hfaithful.ends before e after hsplit cs hcs
    -- The call was started by the entry, since both have its number.
    have hentry_eq : entry = entry' := by
      refine entry_eq_of_number hentry hentry' ?_ hstarts.startsCall hnumber ?_
      · rw [hdrive]
        rfl
      · rw [hnumber', hc, hid]
    rw [hpurpose, ← hentry_eq, hdrive] at hstarts
    obtain ⟨rfl, rfl⟩ := Purpose.discover.inj hstarts
    obtain ⟨early, late, rfl, hlate, rfl⟩ := hresolved
    refine ⟨early, late, rfl, fun news state hmem ↦ ?_, rfl⟩
    exact of_decide_eq_true (hlate _ hmem)
  · intro d changes
    obtain ⟨xs, ys, d', hcourse, hxs, hys, -⟩ := Device.exists_update_course d changes
    refine ⟨xs, ys, hcourse, fun news state hmem ↦ ?_, fun news state hmem ↦ ?_⟩
    · rcases hxs _ hmem with ⟨b, hb⟩ | hend
      · exact ⟨b, (Happening.notified.inj hb).1⟩
      · exact absurd hend Bool.false_ne_true
    · rcases hys _ hmem with ⟨b, hb⟩ | hend
      · exact ⟨b, (Happening.notified.inj hb).1⟩
      · exact absurd hend Bool.false_ne_true

/-- A call to discover that waited for the services finds the characteristic announced before. -/
theorem waiting_discovery_finds_characteristic :
    let log := ((start (⟨[]⟩ : DirectSink) (some "/dev") "" (.standard 64)).run [
      ([], .device (.announce "/dev/char0002" "2a00" ⟨0⟩)),
      ([], .device (.receive ⟨"/dev", [("Connected", .bool true)], []⟩)),
      ([], .device (.discover 1 10)),
      ([], .device (.receive ⟨"/dev", [("ServicesResolved", .bool true)], []⟩))]).2
    ∃ before e cs, history log = before ++ [.ended e] ∧ e.outcome = .ok (.characteristics cs) ∧
      cs.map (·.value) = [2] ∧
      ∃ early late, before = early ++ .notified (.resolution true) .servicesResolved :: late ∧
        cs = (Ranges.build (registered early)).filter fun c ↦ 1 ≤ c.value && c.value ≤ 10 := by
  intro log
  let a : Announcement :=
    ⟨"/dev/char0002", ⟨2, .characteristic⟩, ⟨0x2a0000001000800000805f9b34fb⟩, ⟨0⟩⟩
  let found := (Ranges.build [a]).filter fun c ↦ 1 ≤ c.value && c.value ≤ 10
  have hentry : log[2] ∈ log := List.getElem_mem _
  have hsplit : history log = (history log).take 5 ++ [.ended ⟨0, .ok (.characteristics found),
      [.waitingForServices "", .servicesResolved ""]⟩] := by
    unfold log found a
    rfl
  obtain ⟨early, late, hbefore, -, hfound⟩ := (discover_finds_last_resolution (⟨[]⟩ : DirectSink)
    (some "/dev") "" (.standard 64) _).1 _ hentry 1 10 0 rfl rfl _ _ _ _ hsplit rfl rfl
  exact ⟨_, _, found, hsplit, rfl, by decide +kernel, early, late, hbefore, hfound⟩

end GattPeer.Session
