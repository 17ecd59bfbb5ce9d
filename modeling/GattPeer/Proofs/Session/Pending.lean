import GattPeer.Proofs.Device.Waiting
import GattPeer.Proofs.Session.Moves

/-!
# Calls that are pending between steps

Between two steps of a session, a call to connect is pending only while there is no connection, and
a call to discover only while there is one without known services. In the next step, whatever it is,
a pending call ends right after the first notification whose state meets its purpose; so one batch
that brings a connection ends every call to connect, and one batch that drops the connection or
resolves the services ends every call to discover. The batch may as well arrive while the step waits
for its transport.
-/

namespace GattPeer.Session

variable {τ ρ σ : Type} [OperatedTransport τ ρ σ] [PassingTransport τ]

def pending (s : Session τ) : List Call := s.device.pending

/-- Everyone who waits has reason to, and a number that was given before. -/
def Attentive (s : Session τ) : Prop := s.device.Attentive fun c ↦ c.id < s.nextCall

theorem attentive_start (transport : τ) (path : Option String) (address : String)
    (config : Setup) : (start transport path address config).Attentive :=
  Device.attentive_initial ..

theorem Attentive.advance {s : Session τ} (h : s.Attentive) (replies : List ρ) (drive : Drive σ) :
    (s.advance replies drive).1.Attentive := by
  obtain ⟨moves, hmoves, hcalls, -⟩ := exists_moves_advance s replies drive
  have hnew : ∀ c, .call c ∈ moves → c.id < (s.advance replies drive).1.nextCall := by
    intro c hc
    obtain ⟨hid, hstarts⟩ := hcalls c hc
    rw [hid, (advance_of_startsCall s replies hstarts.startsCall).2]
    exact Nat.lt_succ_self _
  have hold : s.device.Attentive fun c ↦ c.id < (s.advance replies drive).1.nextCall :=
    h.mono fun c hc ↦ Nat.lt_of_lt_of_le hc (nextCall_le_advance s replies drive)
  have hnext := hold.replay hnew
  rwa [hmoves] at hnext

theorem Attentive.run {s : Session τ} (h : s.Attentive) (drives : List (List ρ × Drive σ)) :
    (s.run drives).1.Attentive := by
  induction drives generalizing s with
  | nil => exact h
  | cons head drives ih => exact ih (h.advance head.1 head.2)

section

variable {s : Session τ} {c : Call} (hs : s.Attentive) (hc : c ∈ s.pending) (replies : List ρ)
  (drive : Drive σ) {before after : List Happening}

include hs hc

/-- A step in which more happens than that calls end is a replay of moves that do not make a pending
call again, without a deadline. -/
theorem exists_moves_of_mem_pending
    (hmore : ∃ h ∈ (s.advance replies drive).2.happenings, h.isEnd = false) :
    ∃ moves, s.device.replay moves
        = ((s.advance replies drive).1.device, (s.advance replies drive).2.happenings) ∧
      (∀ c', .call c' ∈ moves → c' ≠ c) ∧ (∀ id, .deadline id ∉ moves) ∧
      Device.waiter c ∈ s.device.monitor.waiting := by
  obtain ⟨moves, hmoves, hcalls, hdeadlines⟩ := exists_moves_advance s replies drive
  refine ⟨moves, hmoves, ?_, fun id hid ↦ ?_, hs.mem_pending.mp hc⟩
  · rintro c' hc' rfl
    exact Nat.ne_of_lt (hs.of_mem_pending hc) (hcalls c' hc').1
  · obtain ⟨h, hh, hnot⟩ := hmore
    obtain rfl := hdeadlines id hid
    rw [happenings_deadline] at hh
    exact absurd (Device.isEnd_of_mem_endedAt hh) (Bool.eq_false_iff.mp hnot)

theorem ended_of_notified {news : News} {state : ConnectionState}
    (hsplit : (s.advance replies drive).2.happenings = before ++ .notified news state :: after)
    (hunmet : ∀ news state, .notified news state ∈ before → c.purpose.metBy state = false)
    (hmet : c.purpose.metBy state = true) :
    ∃ e, .ended e ∈ after.takeWhile Happening.isEnd ∧ e.id = c.id ∧
      c.purpose.EndsWith s.device.address state e.outcome := by
  have hmem : .notified news state ∈ (s.advance replies drive).2.happenings :=
    hsplit ▸ List.mem_append_right _ List.mem_cons_self
  obtain ⟨moves, hmoves, hothers, htimely, hwaiting⟩ :=
    exists_moves_of_mem_pending hs hc replies drive ⟨_, hmem, rfl⟩
  have hfate := Device.fate_replay hothers htimely hwaiting
  rw [hmoves] at hfate
  refine hfate.ended_at hsplit (fun h hh ↦ ?_) hmet
  cases h with
  | notified news state => exact hunmet news state hh
  | _ => rfl

theorem not_mem_pending_of_meets
    (hmeets : ∃ h ∈ (s.advance replies drive).2.happenings, h.meets c.purpose = true) :
    c ∉ (s.advance replies drive).1.pending := by
  obtain ⟨h, hmem, hmeet⟩ := hmeets
  have hmore : h.isEnd = false := by
    cases h with
    | ended e => exact absurd hmeet Bool.false_ne_true
    | _ => rfl
  obtain ⟨moves, hmoves, hothers, htimely, hwaiting⟩ :=
    exists_moves_of_mem_pending hs hc replies drive ⟨h, hmem, hmore⟩
  have hfate := Device.fate_replay hothers htimely hwaiting
  rw [hmoves] at hfate
  intro hpending
  exact hfate.gone ⟨h, hmem, hmeet⟩ ((hs.advance replies drive).mem_pending.mp hpending)

theorem ended_of_merged {changes : Changes}
    (hsplit : (s.advance replies drive).2.happenings = before ++ .merged changes :: after)
    (hmeets : ∃ h ∈ after.takeWhile Happening.belongs, h.meets c.purpose = true) :
    ∃ e state, .ended e ∈ before ++ after.takeWhile Happening.belongs ∧ e.id = c.id ∧
      c.purpose.metBy state = true ∧ c.purpose.EndsWith s.device.address state e.outcome := by
  have hmem : .merged changes ∈ (s.advance replies drive).2.happenings :=
    hsplit ▸ List.mem_append_right _ List.mem_cons_self
  obtain ⟨moves, hmoves, hothers, htimely, hwaiting⟩ :=
    exists_moves_of_mem_pending hs hc replies drive ⟨_, hmem, rfl⟩
  have hcourse : (s.device.replay moves).2 = before ++ .merged changes :: after := by
    rw [hmoves]
    exact hsplit
  exact Device.Fate.ended_of_merged hothers htimely hwaiting hcourse hmeets

end

theorem exists_meets_of_truth (s : Session τ) (replies : List ρ) (drive : Drive σ)
    {before after : List Happening} {changes : Changes}
    (hsplit : (s.advance replies drive).2.happenings = before ++ .merged changes :: after)
    (first last : Int)
    (htruth : changes.truth? "Connected" = some false ∨
      changes.truth? "ServicesResolved" = some true) :
    ∃ h ∈ after.takeWhile Happening.belongs, h.meets (.discover first last) = true := by
  obtain ⟨moves, hmoves, -⟩ := exists_moves_advance s replies drive
  have hcourse : (s.device.replay moves).2 = before ++ .merged changes :: after := by
    rw [hmoves]
    exact hsplit
  obtain ⟨hconnected, hresolved⟩ := Device.notified_of_merged hcourse
  rcases htruth with hfalse | htrue
  · exact ⟨_, hconnected hfalse, rfl⟩
  · exact ⟨_, hresolved htrue, rfl⟩

/-- **A pending call ends at the first state that it waits for.** A call to connect is pending only
while there is no connection, and a call to discover only while there is one without known services.
In any next step, the first notification of a connection ends every pending call to connect
successfully; the first notification of another state than a bare connection ends every pending call
to discover, with a failure if there is no connection and with a list otherwise; and a batch that
notifies of a connection, or that drops it or resolves the services, ends every one of them. What
ended is not pending after the step. -/
theorem pending_calls_end_at_first_sight (transport : τ) (path : Option String) (address : String)
    (config : Setup) (drives : List (List ρ × Drive σ)) :
    let s := ((start transport path address config).run drives).1
    let connecting := fun c : Call ↦
      c ∈ s.pending ∧ ∃ budget left, c.purpose = .connect budget left
    let discovering := fun c : Call ↦
      c ∈ s.pending ∧ ∃ first last, c.purpose = .discover first last
    (∀ c, connecting c → s.device.state = .notConnected) ∧
    (∀ c, discovering c → s.device.state = .connected) ∧
    (∀ c c', connecting c → ¬discovering c') ∧
    ∀ (replies : List ρ) (drive : Drive σ),
      let next := (s.advance replies drive).1
      let course := (s.advance replies drive).2.happenings
      (∀ before news state after, course = before ++ .notified news state :: after →
        (state.isConnected = true →
          (∀ news' state', .notified news' state' ∈ before → state'.isConnected = false) →
          ∀ c, connecting c → c ∉ next.pending ∧
            ∃ e, .ended e ∈ after.takeWhile Happening.isEnd ∧ e.id = c.id ∧
              e.outcome = .ok .nothing) ∧
        ((∀ news' state', .notified news' state' ∈ before → state' = .connected) →
          ∀ c, discovering c →
            (state = .notConnected → c ∉ next.pending ∧
              ∃ e, .ended e ∈ after.takeWhile Happening.isEnd ∧ e.id = c.id ∧
                e.outcome = .error (.notConnected (s.device.address ++ ": not connected"))) ∧
            (state = .servicesResolved → c ∉ next.pending ∧
              ∃ e cs, .ended e ∈ after.takeWhile Happening.isEnd ∧ e.id = c.id ∧
                e.outcome = .ok (.characteristics cs)))) ∧
      ∀ before changes after, course = before ++ .merged changes :: after →
        let batch := after.takeWhile Happening.belongs
        ((∃ news state, .notified news state ∈ batch ∧ state.isConnected = true) →
          ∀ c, connecting c → c ∉ next.pending ∧
            ∃ e, .ended e ∈ before ++ batch ∧ e.id = c.id ∧ e.outcome = .ok .nothing) ∧
        (changes.truth? "Connected" = some false ∨ changes.truth? "ServicesResolved" = some true →
          ∀ c, discovering c → c ∉ next.pending ∧
            ∃ e, .ended e ∈ before ++ batch ∧ e.id = c.id) := by
  intro s connecting discovering
  have hs : s.Attentive := (attentive_start transport path address config).run drives
  have hconnecting : ∀ c, connecting c → s.device.state = .notConnected := by
    rintro ⟨id, purpose, journal⟩ ⟨hc, budget, left, rfl⟩
    exact Purpose.eq_notConnected_of_unmet (hs.not_metBy hc)
  have hdiscovering : ∀ c, discovering c → s.device.state = .connected := by
    rintro ⟨id, purpose, journal⟩ ⟨hc, first, last, rfl⟩
    exact Purpose.eq_connected_of_unmet (hs.not_metBy hc)
  refine ⟨hconnecting, hdiscovering, ?_, ?_⟩
  · intro c c' hc hc'
    exact nomatch (hconnecting c hc).symm.trans (hdiscovering c' hc')
  intro replies drive next course
  constructor
  · intro before news state after hsplit
    have hmem : .notified news state ∈ course :=
      hsplit ▸ List.mem_append_right _ List.mem_cons_self
    constructor
    · rintro hmet hunmet ⟨id, purpose, journal⟩ ⟨hc, budget, left, rfl⟩
      exact ⟨not_mem_pending_of_meets hs hc replies drive ⟨_, hmem, hmet⟩,
        ended_of_notified hs hc replies drive hsplit hunmet hmet⟩
    · rintro hunmet ⟨id, purpose, journal⟩ ⟨hc, first, last, rfl⟩
      have hunmet' : ∀ news' state', .notified news' state' ∈ before →
          (Purpose.discover first last).metBy state' = false := by
        intro news' state' hh
        rw [hunmet news' state' hh]
        rfl
      constructor
      · rintro rfl
        exact ⟨not_mem_pending_of_meets hs hc replies drive ⟨_, hmem, rfl⟩,
          ended_of_notified hs hc replies drive hsplit hunmet' rfl⟩
      · rintro rfl
        obtain ⟨e, hended, hid, cs, hout⟩ :=
          ended_of_notified hs hc replies drive hsplit hunmet' rfl
        exact ⟨not_mem_pending_of_meets hs hc replies drive ⟨_, hmem, rfl⟩,
          e, cs, hended, hid, hout⟩
  · intro before changes after hsplit batch
    have hbatch : ∀ h ∈ batch, h ∈ course := by
      intro h hh
      rw [hsplit]
      exact List.mem_append_right _ (List.mem_cons_of_mem _ ((List.takeWhile_prefix _).subset hh))
    constructor
    · rintro ⟨news, state, hmem, hstate⟩ ⟨id, purpose, journal⟩ ⟨hc, budget, left, rfl⟩
      obtain ⟨e, _, hended, hid, -, hout⟩ :=
        ended_of_merged hs hc replies drive hsplit ⟨_, hmem, hstate⟩
      exact ⟨not_mem_pending_of_meets hs hc replies drive ⟨_, hbatch _ hmem, hstate⟩,
        e, hended, hid, hout⟩
    · rintro htruth ⟨id, purpose, journal⟩ ⟨hc, first, last, rfl⟩
      obtain ⟨h, hmem, hmeets⟩ := exists_meets_of_truth s replies drive hsplit first last htruth
      obtain ⟨e, -, hended, hid, -, -⟩ :=
        ended_of_merged hs hc replies drive hsplit ⟨h, hmem, hmeets⟩
      exact ⟨not_mem_pending_of_meets hs hc replies drive ⟨h, hbatch h hmem, hmeets⟩,
        e, hended, hid⟩

/-- A connection ends a pending call to connect. -/
theorem connection_ends_pending_connect :
    let s := ((start ⟨[]⟩ (some "/dev") "" (.standard 64) : Session DirectSink).run
      [([], .device (.connect (.int 0)))]).1
    let changes : Changes := [("Connected", .bool true)]
    let course := (s.advance [] (.device (.receive ⟨"/dev", changes, []⟩))).2.happenings
    ∃ c ∈ s.pending, ∃ e, .ended e ∈ course ∧ e.id = c.id ∧ e.outcome = .ok .nothing := by
  intro s changes course
  have hpending : s.pending = [⟨0, .connect BusNames.defaultTimeout
    (BusNames.defaultTimeout.leftAfter (.int 0)), [.connecting ""]⟩] := rfl
  have hcourse : course = [.merged changes, .notified (.connection true) .connected,
      .ended ⟨0, .ok .nothing, [.connecting "", .connected ""]⟩] := by
    unfold course s changes
    rfl
  obtain ⟨-, -, -, hstep⟩ := pending_calls_end_at_first_sight (⟨[]⟩ : DirectSink) (some "/dev") ""
    (.standard 64) [([], .device (.connect (.int 0)))]
  have hmem := hpending ▸ List.mem_singleton_self _
  obtain ⟨-, e, hended, hid, houtcome⟩ := ((hstep [] _).1 [.merged changes] _ _ _ hcourse).1 rfl
    (fun _ _ h ↦ nomatch List.mem_singleton.mp h) _ ⟨hmem, _, _, rfl⟩
  refine ⟨_, hmem, e, ?_, hid, houtcome⟩
  rw [hcourse]
  exact List.mem_append_right [.merged changes]
    (List.mem_cons_of_mem _ ((List.takeWhile_prefix _).subset hended))

end GattPeer.Session
