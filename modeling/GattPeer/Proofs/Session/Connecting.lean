import GattPeer.Proofs.Device.Sighted
import GattPeer.Proofs.Session.Parallel
import GattPeer.Proofs.Session.Pending

/-!
# Calls to connect that return

A call to connect that returns has seen a connection, so that whoever discovers right after it does
not fail. There is one exception, by intent: if the other side says that there is a connection
already, the call takes its word and returns at once, without a look at the state. The news of that
connection may still be on their way, and a call to discover fails until they arrive.

## The argument

A call ends in the step that starts it, or in a later one. In the step that starts it, it ends after
its first part, in a state that it looks at unless the first part left nothing to wait for. In a
later step only those who waited end, each in a state that meets its purpose. Which of them is the
call is told by its number, which no other call has.
-/

namespace GattPeer.Session

open Device

variable {τ ρ σ : Type} [OperatedTransport τ ρ σ] [PassingTransport τ]

/-! ## The ends of a step -/

/-- The session in which a step carries out the first part of a call. -/
def asking (s : Session τ) (replies : List ρ) : Session τ := (s.loading replies).requesting

omit [PassingTransport τ] in
/-- **A step that starts a call** makes quiet moves, and then the call ends or begins to wait. -/
theorem advance_of_spawn (drive : Drive σ) {request : Act τ (Option Purpose)}
    (hact : drive.act = (do return .number (← spawn request) : Act τ Reading)) (s : Session τ)
    (replies : List ρ) (hpasses : request.Keeps Passes (s.asking replies)) :
    let answer := request.answers (s.asking replies)
    let next := (s.advance replies drive).1
    let happened := (s.advance replies drive).2.happenings
    ∃ moves d course, (∀ move ∈ moves, move.isQuiet = true) ∧ s.device.replay moves = (d, course) ∧
      d = (request.leaves (s.asking replies)).device ∧
      ((∃ outcome notices, outcome? d answer = some outcome ∧ next.device = d ∧
          happened = course ++ [.ended ⟨s.nextCall, outcome, notices⟩]) ∨
        ∃ purpose journal, answer = .ok (some purpose) ∧ outcome? d answer = none ∧
          next.device = d.joinedBy ⟨s.nextCall, purpose, journal⟩ ∧ happened = course) := by
  intro answer next happened
  let asked := (s.loading replies).rejoining (request.leaves (s.asking replies))
  let journal := callerNotices (request.leaves (s.asking replies)).trace
  obtain ⟨-, moves, hquiet, hgoes⟩ := hpasses
  obtain ⟨-, hdevice, hcourse⟩ := goes_rejoining hgoes
  have hcourse : asked.happenings = (s.device.replay moves).2 := hcourse
  refine ⟨moves, asked.device, (s.device.replay moves).2, hquiet,
    Prod.ext hdevice.symm rfl, rfl, ?_⟩
  have hnext : next = asked.proceed s.nextCall journal answer := by
    change (s.advance replies drive).1 = _
    rw [advance_eq, leaves_act_of_spawn hact]
    rfl
  have hhappened : happened = next.happenings := (happenings_advance s replies drive).symm
  rcases proceed_cases asked s.nextCall journal answer with
    ⟨outcome, notices, houtcome, hproceed⟩ | ⟨purpose, hpurpose, houtcome, hproceed⟩
  · rw [hhappened, hnext, hproceed, happenings_conclude, hcourse]
    exact .inl ⟨outcome, notices, houtcome, rfl, rfl⟩
  · rw [hhappened, hnext, hproceed]
    exact .inr ⟨purpose, journal, hpurpose, houtcome, rfl, hcourse⟩

/-- A step that starts no call makes quiet moves, unless it is a deadline. -/
theorem exists_quiet_moves (s : Session τ) (replies : List ρ) {drive : Drive σ}
    (h : drive.startsCall = false) (htimely : drive.isDeadline = false) :
    ∃ moves, (∀ move ∈ moves, move.isQuiet = true) ∧ s.device.replay moves
      = ((s.advance replies drive).1.device, (s.advance replies drive).2.happenings) := by
  obtain ⟨-, moves, hquiet, hgoes⟩ := Drive.passes_act h htimely (s.loading replies)
  refine ⟨moves, hquiet, ?_⟩
  rw [advance_eq]
  exact Prod.ext hgoes.device.symm hgoes.happenings.symm

theorem state_advance (s : Session τ) (replies : List ρ) (drive : Drive σ) :
    (s.advance replies drive).1.device.state
      = s.device.state.along (s.advance replies drive).2.happenings := by
  obtain ⟨moves, hmoves, -⟩ := exists_moves_advance s replies drive
  have hstate := s.device.state_replay moves
  rwa [hmoves] at hstate

theorem state_run (s : Session τ) (drives : List (List ρ × Drive σ)) :
    (s.run drives).1.device.state = s.device.state.along (history (s.run drives).2) := by
  obtain ⟨moves, hmoves, -⟩ := exists_moves_run s drives
  have hstate := s.device.state_replay moves
  rwa [hmoves] at hstate

/-- **Who ends in a step** either waited, and saw a state that met its purpose or ran out of time,
or has the number of the call that the step starts. -/
theorem ends_advance {K : Call → Prop} {s : Session τ} (hs : s.device.Attentive K)
    (replies : List ρ) (drive : Drive σ) :
    ForallEnds (fun before e ↦ Sees K s.device.address (s.device.state.along before) e ∨
        (e.id = s.nextCall ∧ drive.startsCall = true) ∨
        ∃ budget, e.outcome = .error (.expired budget))
      (s.advance replies drive).2.happenings := by
  have hquiet {moves : List Move} {d : Device} {course : List Happening}
      (hmoves : ∀ move ∈ moves, move.isQuiet = true)
      (hreplay : s.device.replay moves = (d, course)) :
      ForallEnds (fun before e ↦ Sees K s.device.address (s.device.state.along before) e ∨
        (e.id = s.nextCall ∧ drive.startsCall = true) ∨
        ∃ budget, e.outcome = .error (.expired budget)) course := by
    have hsighted := (sighted_replay hs.waiters hmoves).ends
    rw [hreplay] at hsighted
    exact fun before e after hsplit ↦ .inl (hsighted before e after hsplit)
  cases hcall : drive.startsCall with
  | false =>
    cases htime : drive.isDeadline with
    | false =>
      obtain ⟨moves, hmoves, hreplay⟩ := exists_quiet_moves s replies hcall htime
      exact hcall ▸ hquiet hmoves hreplay
    | true =>
      obtain ⟨id, rfl⟩ := Drive.exists_eq_deadline htime
      intro before e after hsplit
      rw [happenings_deadline] at hsplit
      have hended : .ended e ∈ s.device.endedAt id :=
        hsplit ▸ List.mem_append_right _ List.mem_cons_self
      exact .inr (.inr (hs.expired_of_mem_endedAt hended))
  | true =>
    obtain ⟨request, hact, hpasses, -⟩ := Drive.act_eq_spawn τ hcall
    obtain ⟨moves, d, course, hmoves, hreplay, -, hrest⟩ :=
      advance_of_spawn drive hact s replies (hpasses _)
    have hcourse := hcall ▸ hquiet hmoves hreplay
    rcases hrest with ⟨outcome, notices, -, -, hhappened⟩ | ⟨purpose, journal, -, -, -, hhappened⟩
    · rw [hhappened]
      refine hcourse.append_singleton fun e he ↦ .inr (.inl ⟨?_, rfl⟩)
      rw [← Happening.ended.inj he]
    · rw [hhappened]
      exact hcourse

/-! ## Calls to discover -/

theorem outcome?_discover (d : Device) (first last : Int) :
    outcome? d (.ok (some (.discover first last))) =
      if d.state = .connected then none
      else some (d.result (.discover first last) d.state).1 := by
  cases hstate : d.state with
  | connected => simp [outcome?, hstate, Purpose.metBy, Purpose.isOver, Purpose.exceedsClock]
  | _ => simp [outcome?, hstate, Purpose.metBy]

omit [PassingTransport τ] in
/-- **What a call to discover comes to** depends on the state alone: it waits while there is a
connection without known services, and otherwise it ends at once. -/
theorem discover_advance (s : Session τ) (replies : List ρ) (first last : Int) :
    let happened := (s.advance replies (.device (.discover first last))).2.happenings
    (s.device.state = .connected → happened = []) ∧
    (s.device.state ≠ .connected → ∃ journal, happened = [.ended ⟨s.nextCall,
      (s.device.result (.discover first last) s.device.state).1, journal⟩]) := by
  intro happened
  let request : Act τ (Option Purpose) := requestServices first last
  let t := (s.loading replies).rejoining (request.leaves (s.asking replies))
  let journal := callerNotices (request.leaves (s.asking replies)).trace
  have hhappened : happened
      = (t.proceed s.nextCall journal (.ok (some (.discover first last)))).happenings := by
    change (s.advance replies (.device (.discover first last))).2.happenings = _
    rw [advance_eq]
    dsimp only [Report.happenings]
    rw [leaves_act_of_spawn rfl]
    rfl
  have hquiet : t.happenings = [] := rfl
  have houtcome := outcome?_discover s.device first last
  rcases proceed_cases t s.nextCall journal (.ok (some (.discover first last))) with
    ⟨outcome, notices, hends, hproceed⟩ | ⟨purpose, -, hwaits, hproceed⟩
  · rw [hproceed, happenings_conclude, hquiet] at hhappened
    have hresult := houtcome.symm.trans hends
    constructor
    · intro hstate
      rw [if_pos hstate] at hresult
      exact nomatch hresult
    · intro hstate
      rw [if_neg hstate] at hresult
      rw [Option.some.inj hresult]
      exact ⟨notices, hhappened⟩
  · rw [hproceed] at hhappened
    have hresult := houtcome.symm.trans hwaits
    constructor
    · exact fun _ ↦ hhappened.trans hquiet
    · intro hstate
      rw [if_neg hstate] at hresult
      exact nomatch hresult

/-- A call fails in a step: it is one of those that end in it, and it ends by a failure. -/
def Report.Fails (r : Report) (id : Nat) : Prop :=
  ∃ failure journal, .ended ⟨id, .error failure, journal⟩ ∈ r.happenings

omit [PassingTransport τ] in
/-- **A call to discover fails at once** exactly if there is no connection. -/
theorem discover_fails_iff (s : Session τ) (replies : List ρ) (first last : Int) :
    (s.advance replies (.device (.discover first last))).2.Fails s.nextCall
      ↔ s.device.state = .notConnected := by
  obtain ⟨hwaits, hends⟩ := discover_advance s replies first last
  constructor
  · rintro ⟨failure, journal, hmem⟩
    cases hstate : s.device.state with
    | notConnected => rfl
    | connected =>
      rw [hwaits hstate] at hmem
      exact absurd hmem List.not_mem_nil
    | servicesResolved =>
      obtain ⟨journal', hhappened⟩ := hends (by rw [hstate]; nofun)
      rw [hhappened, hstate] at hmem
      cases List.mem_singleton.mp hmem
  · intro hstate
    obtain ⟨journal, hhappened⟩ := hends (by rw [hstate]; nofun)
    refine ⟨.notConnected (s.device.address ++ ": not connected"), journal, ?_⟩
    rw [hhappened, hstate]
    exact List.mem_singleton_self _

/-! ## Calls to connect -/

/-- How the transport answers the request of a call to connect. -/
def connectReply (s : Session τ) (replies : List ρ) : Except Failure Value :=
  (Transport.perform (.connect s.device.path s.config.connectTimeout)).answers
    ((Act.report (.connecting s.device.address)).leaves (s.asking replies))

/-- The other side says that there is a connection already. -/
def SaysConnected (reply : Except Failure Value) : Prop :=
  ∃ name message, reply = .error (.refused name message) ∧
    name.isText BusNames.alreadyConnected = true

omit [PassingTransport τ] [OperatedTransport τ ρ σ] in
theorem answers_connectAnswer_eq_none_iff (owner : String) (budget : Value) (elapsed : Number)
    (reply : Except Failure Value) (s : Session τ) :
    (connectAnswer owner budget elapsed reply).answers s = .ok none ↔ SaysConnected reply := by
  constructor
  · intro h
    unfold connectAnswer at h
    split at h
    · cases hbudget : connectAnswer.remaining budget elapsed with
      | ok purpose =>
        rw [hbudget] at h
        exact nomatch h
      | error failure =>
        rw [hbudget] at h
        exact nomatch h
    · next name message =>
      by_cases hname : name.isText BusNames.alreadyConnected = true
      · exact ⟨name, message, rfl, hname⟩
      · rw [if_neg hname] at h
        split at h
        · exact nomatch h
        · exact nomatch h
    · exact nomatch h
    · exact nomatch h
  · rintro ⟨name, message, rfl, hname⟩
    simp only [connectAnswer, hname, if_true]
    rfl

/-- The session right after the transport was asked to connect. -/
def connectAsked (s : Session τ) (replies : List ρ) : Session τ :=
  (Transport.perform (.connect s.device.path s.config.connectTimeout)).leaves
    ((Act.report (.connecting s.device.address)).leaves (s.asking replies))

omit [PassingTransport τ] in
theorem requestConnection_asking (s : Session τ) (replies : List ρ) (elapsed : Number) :
    (requestConnection elapsed : Act τ (Option Purpose)) (s.asking replies)
      = connectAnswer s.device.address s.config.connectTimeout elapsed (s.connectReply replies)
          (s.connectAsked replies) := by
  change (Act.attempt (Transport.perform (.connect s.device.path s.config.connectTimeout)) >>=
    fun answer ↦ connectAnswer s.device.address s.config.connectTimeout elapsed answer)
      ((Act.report (.connecting s.device.address)).leaves (s.asking replies)) = _
  rw [Act.bind_apply, Act.attempt_eq]
  rfl

omit [PassingTransport τ] in
/-- The first part of a call to connect leaves nothing to wait for exactly if the other side says
that there is a connection already. -/
theorem answers_requestConnection_eq_none_iff (s : Session τ) (replies : List ρ)
    (elapsed : Number) :
    (requestConnection elapsed : Act τ (Option Purpose)).answers (s.asking replies) = .ok none
      ↔ SaysConnected (s.connectReply replies) := by
  rw [Act.answers, requestConnection_asking]
  exact answers_connectAnswer_eq_none_iff ..

/-- Whoever has a number makes a call to connect. -/
def Connects (id : Nat) (c : Call) : Prop :=
  c.id = id → ∃ budget left, c.purpose = .connect budget left

theorem isConnected_of_sees {id : Nat} {address : String} {state : ConnectionState} {e : EndedCall}
    (h : Sees (Connects id) address state e) (hid : e.id = id) : state.isConnected = true := by
  obtain ⟨c, hconnects, hc, hmet, -⟩ := h
  obtain ⟨budget, left, hpurpose⟩ := hconnects (hc.trans hid)
  rwa [hpurpose] at hmet

theorem isConnected_of_outcome? {d : Device} {budget : Number} {left : Number.Exact}
    {reading : Reading} (h : outcome? d (.ok (some (.connect budget left))) = some (.ok reading)) :
    d.state.isConnected = true := by
  simp only [outcome?] at h
  split at h
  · assumption
  · split at h
    · cases h
    · split at h <;> cases h

/-- **The step that starts a call to connect.** If the call ends well in it, there is a connection,
unless the other side says so. -/
theorem isConnected_of_connect {s : Session τ} (hs : s.Attentive) (replies : List ρ)
    (elapsed : Number)
    (hreply : ¬SaysConnected (s.connectReply replies)) :
    ForallEnds (fun before e ↦ e.id = s.nextCall → ∀ reading, e.outcome = .ok reading →
        (s.device.state.along before).isConnected = true)
      (s.advance replies (.device (.connect elapsed))).2.happenings := by
  have hwaiters : s.device.Waiters (Connects s.nextCall) :=
    (hs.mono fun c hc hid ↦ absurd hid (Nat.ne_of_lt hc)).waiters
  obtain ⟨moves, d, course, hquiet, hreplay, -, hrest⟩ := advance_of_spawn
    (.device (.connect elapsed)) rfl s replies (kept_passes.requestConnection elapsed)
  have hsighted := sighted_replay hwaiters hquiet
  have hstate := s.device.state_replay moves
  rw [hreplay] at hsighted hstate
  -- Nobody waits under the number yet, so the calls that end on the way are others.
  have hcourse : ForallEnds (fun before e ↦ e.id = s.nextCall → ∀ reading, e.outcome = .ok reading →
      (s.device.state.along before).isConnected = true) course :=
    fun before e after hsplit hid _ _ ↦
      isConnected_of_sees (hsighted.ends before e after hsplit) hid
  rcases hrest with ⟨outcome, notices, houtcome, -, hhappened⟩ | ⟨_, _, -, -, -, hhappened⟩
  · rw [hhappened]
    refine hcourse.append_singleton ?_
    rintro e he - reading hreading
    rw [← Happening.ended.inj he] at hreading
    obtain rfl : outcome = .ok reading := hreading
    rw [← hstate]
    -- The call was left with something to wait for, which it saw at once.
    cases hanswer : (requestConnection elapsed : Act τ (Option Purpose)).answers
      (s.asking replies) with
    | error failure =>
      rw [hanswer] at houtcome
      exact nomatch houtcome
    | ok purpose? =>
      cases purpose? with
      | none =>
        exact absurd ((answers_requestConnection_eq_none_iff s replies elapsed).mp hanswer) hreply
      | some purpose =>
        obtain ⟨budget, left, rfl⟩ := gives_requestConnection elapsed _ _ hanswer _ rfl
        rw [hanswer] at houtcome
        exact isConnected_of_outcome? houtcome
  · rw [hhappened]
    exact hcourse

/-- Between two steps after the start of a call to connect: whoever waits under its number
connects, and the number is given. -/
structure Underway (id : Nat) (s : Session τ) : Prop where
  attentive : s.device.Attentive (Connects id)
  given : id < s.nextCall

theorem underway_connect {s : Session τ} (hs : s.Attentive) (replies : List ρ)
    (elapsed : Number) :
    (s.advance replies (.device (.connect elapsed))).1.Underway s.nextCall := by
  obtain ⟨moves, hmoves, hcalls, -⟩ := exists_moves_advance s replies (.device (.connect elapsed))
  have hwaiting : s.device.Attentive (Connects s.nextCall) :=
    hs.mono fun c hc hid ↦ absurd hid (Nat.ne_of_lt hc)
  have hnext := hwaiting.replay fun c hc _ ↦ (hcalls c hc).2
  rw [hmoves] at hnext
  refine ⟨hnext, ?_⟩
  rw [(advance_of_startsCall s replies rfl).2]
  exact Nat.lt_succ_self _

/-- Later calls have other numbers. -/
theorem Underway.advance {id : Nat} {s : Session τ} (h : s.Underway id) (replies : List ρ)
    (drive : Drive σ) : (s.advance replies drive).1.Underway id := by
  obtain ⟨moves, hmoves, hcalls, -⟩ := exists_moves_advance s replies drive
  have hnext := h.attentive.replay fun c hc hid ↦
    absurd ((hcalls c hc).1.symm.trans hid) (Nat.ne_of_gt h.given)
  rw [hmoves] at hnext
  exact ⟨hnext, Nat.lt_of_lt_of_le h.given (nextCall_le_advance s replies drive)⟩

/-- **In later steps a call to connect ends well only in a connection.** -/
theorem Underway.isConnected_of_ended {id : Nat} {s : Session τ} (h : s.Underway id)
    (drives : List (List ρ × Drive σ)) :
    ForallEnds (fun before e ↦ e.id = id → ∀ reading, e.outcome = .ok reading →
        (s.device.state.along before).isConnected = true)
      (history (s.run drives).2) := by
  induction drives generalizing s with
  | nil => exact fun _ _ _ hsplit ↦ absurd hsplit.symm (by simp [Session.run, history])
  | cons head drives ih =>
    obtain ⟨replies, drive⟩ := head
    rw [history_run_cons]
    refine ForallEnds.append (fun before e after hsplit hid reading hreading ↦ ?_)
      fun before e after hsplit ↦ ?_
    · rcases ends_advance h.attentive replies drive before e after hsplit with
        hsees | ⟨hnew, -⟩ | ⟨budget, hexpired⟩
      · exact isConnected_of_sees hsees hid
      · exact absurd (hnew.symm.trans hid) (Nat.ne_of_gt h.given)
      · cases hreading.symm.trans hexpired
    · rw [ConnectionState.along_append, ← state_advance]
      exact ih (h.advance replies drive) before e after hsplit

/-- **A call to connect returns in a connection**, in the step that starts it or in a later one,
unless the other side says that there is one. -/
theorem isConnected_of_return {s : Session τ} (hs : s.Attentive) (replies : List ρ)
    (elapsed : Number)
    (hreply : ¬SaysConnected (s.connectReply replies)) (later : List (List ρ × Drive σ)) :
    ForallEnds (fun before e ↦ e.id = s.nextCall → ∀ reading, e.outcome = .ok reading →
        (s.device.state.along before).isConnected = true)
      (history (s.run ((replies, .device (.connect elapsed)) :: later)).2) := by
  rw [history_run_cons]
  refine (isConnected_of_connect hs replies elapsed hreply).append ?_
  intro before e after hsplit
  rw [ConnectionState.along_append, ← state_advance]
  exact (underway_connect hs replies elapsed).isConnected_of_ended later before e after hsplit

/-- **A call to connect takes the word of the other side**: it ends at once, where the batches left
the state, and does not wait. -/
theorem advance_of_saysConnected {s : Session τ} (hs : s.Attentive) {replies : List ρ}
    (elapsed : Number)
    (hreply : SaysConnected (s.connectReply replies)) :
    let next := (s.advance replies (.device (.connect elapsed))).1
    (∃ course journal, (s.advance replies (.device (.connect elapsed))).2.happenings
        = course ++ [.ended ⟨s.nextCall, .ok .nothing, journal⟩] ∧
      next.device.state = s.device.state.along course) ∧
    s.nextCall ∉ next.waitingCalls := by
  intro next
  have hanswer := (answers_requestConnection_eq_none_iff s replies elapsed).mpr hreply
  obtain ⟨moves, d, course, hquiet, hreplay, -, hrest⟩ := advance_of_spawn
    (.device (.connect elapsed)) rfl s replies (kept_passes.requestConnection elapsed)
  rw [hanswer] at hrest
  have hstate := s.device.state_replay moves
  have hwaiting := hs.replay fun c hc ↦ absurd (hquiet _ hc) Bool.false_ne_true
  rw [hreplay] at hstate hwaiting
  rcases hrest with ⟨outcome, journal, houtcome, hdevice, hhappened⟩ | ⟨_, _, hpurpose, -⟩
  · have hnext : next.device = d := hdevice
    obtain rfl : .ok .nothing = outcome := Option.some.inj houtcome
    refine ⟨⟨course, journal, hhappened, by rw [hnext, hstate]⟩, fun hmem ↦ ?_⟩
    obtain ⟨w, hw, hid⟩ := List.mem_map.mp hmem
    rw [hnext] at hw
    exact absurd hid (Nat.ne_of_lt (hwaiting.waiters w hw).2)
  · exact nomatch hpurpose

/-- **Whoever connects has a connection**, unless the other side claims it. Whenever a call to
connect returns in the course of a run, in the step that starts it or in a later one, there is a
connection at that moment, whatever was answered and whenever batches came; and as long as nobody is
notified after that, there is one still, and a call to discover does not fail at once. If the other
side answers that there is a connection already, the call returns in the step that starts it, does
not wait, and leaves the state where the batches left it; a call to discover right after it fails
exactly if there is no connection. -/
theorem connect_returns_in_connection (transport : τ) (path : Option String) (address : String)
    (config : Setup) (earlier later : List (List ρ × Drive σ)) (replies : List ρ)
    (elapsed : Number) :
    let s := ((start transport path address config).run earlier).1
    let steps := (replies, .device (.connect elapsed)) :: later
    let past := history (s.run steps).2
    let last := (s.run steps).1
    let next := (s.advance replies (.device (.connect elapsed))).1
    (¬SaysConnected (s.connectReply replies) →
      ∀ before e after reading, past = before ++ .ended e :: after → e.id = s.nextCall →
        e.outcome = .ok reading →
        (s.device.state.along before).isConnected = true ∧
        ((∀ news state, .notified news state ∉ after) → last.device.state.isConnected = true ∧
          ∀ replies' first last',
            ¬(last.advance replies' (.device (.discover first last'))).2.Fails last.nextCall)) ∧
    (SaysConnected (s.connectReply replies) →
      (∃ course journal, (s.advance replies (.device (.connect elapsed))).2.happenings
          = course ++ [.ended ⟨s.nextCall, .ok .nothing, journal⟩] ∧
        next.device.state = s.device.state.along course) ∧
      s.nextCall ∉ next.waitingCalls ∧
      ∀ replies' first last',
        (next.advance replies' (.device (.discover first last'))).2.Fails next.nextCall
          ↔ next.device.state = .notConnected) := by
  intro s steps past last next
  have hs : s.Attentive := (attentive_start transport path address config).run earlier
  constructor
  · intro hreply before e after reading hsplit hid hreading
    have hconnected := isConnected_of_return hs replies elapsed hreply later before e after
      hsplit hid reading hreading
    refine ⟨hconnected, fun hquiet ↦ ?_⟩
    -- Without a notification the state stays the one that the call returned in.
    have hlast : last.device.state = s.device.state.along before := by
      have hpast : history (s.run steps).2 = before ++ .ended e :: after := hsplit
      rw [state_run s steps, hpast, ConnectionState.along_append]
      have hafter := ConnectionState.along_eq_self (s.device.state.along before) hquiet
      exact hafter
    rw [hlast]
    refine ⟨hconnected, fun replies' first last' hfails ↦ ?_⟩
    have hnone := (discover_fails_iff last replies' first last').mp hfails
    rw [← hlast, hnone] at hconnected
    exact Bool.false_ne_true hconnected
  · intro hreply
    obtain ⟨hends, hwaits⟩ := advance_of_saysConnected hs elapsed hreply
    exact ⟨hends, hwaits, fun replies' first last' ↦ discover_fails_iff next replies' first last'⟩

/-- The other side says that there is a connection of which no news came, and a call to discover
fails right after the call to connect. -/
theorem claimed_connection_is_none :
    let s : Session DirectSink := start ⟨[]⟩ (some "/dev") "" (.standard 64)
    let claim : DirectReply :=
      ⟨[], .failure (.refused (.text BusNames.alreadyConnected) (.text "Already Connected"))⟩
    let connected := s.advance [claim] (.device (.connect (.int 0)))
    (∃ journal, connected.2.happenings = [.ended ⟨0, .ok .nothing, journal⟩]) ∧
      connected.1.device.state.isConnected = false ∧
      (connected.1.advance [] (.device (.discover 1 65535))).2.Fails 1 := by
  intro s claim connected
  refine ⟨⟨_, rfl⟩, rfl, ?_⟩
  exact (discover_fails_iff connected.1 [] 1 65535).mpr rfl

/-- A connection comes after the answer; whoever discovers then does not fail. -/
theorem late_connection_lets_discover :
    let s := ((start ⟨[]⟩ (some "/dev") "" (.standard 64) : Session DirectSink).run []).1
    let news : List DirectReply × Drive Empty :=
      ([], .device (.receive ⟨"/dev", [("Connected", .bool true)], []⟩))
    let last := (s.run [([], .device (.connect (.int 0))), news]).1
    last.device.state.isConnected = true ∧ ∀ replies first last',
      ¬(last.advance replies (.device (.discover first last'))).2.Fails last.nextCall := by
  -- The names of the statement are not introduced: checking the proof would unfold them again.
  obtain ⟨hreturns, -⟩ := connect_returns_in_connection (⟨[]⟩ : DirectSink) (some "/dev") ""
    (.standard 64) [] [([], .device (.receive ⟨"/dev", [("Connected", .bool true)], []⟩))] []
    (.int 0)
  obtain ⟨-, hlater⟩ := hreturns (fun ⟨_, _, hrefused, _⟩ ↦ nomatch hrefused)
    [.merged [("Connected", .bool true)], .notified (.connection true) .connected]
    ⟨0, .ok .nothing, [.connecting "", .connected ""]⟩ [] .nothing rfl rfl rfl
  exact hlater fun _ _ h ↦ absurd h List.not_mem_nil

end GattPeer.Session
