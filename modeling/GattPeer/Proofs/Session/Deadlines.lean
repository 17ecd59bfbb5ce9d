import GattPeer.Proofs.Device.Numbered
import GattPeer.Proofs.Session.Connecting

/-!
# Calls to connect and their deadlines

How a call to connect ends is decided by three things: by the answer of the other side, by the state
right after the answer, and, if there is time to wait, by whether a connection is notified before
the deadline. What else happens meanwhile does not matter, such as a connection that came and went
before the answer. A call that runs out of time fails by the budget that it was given, whatever was
left of it when the wait began.

What is left then may be something that cannot be waited for. If it is beyond what the clock can
count, the wait fails at once, and an integer that no double is near to is not even taken that far.
A budget that is not a number never runs out.
-/

namespace GattPeer.Session

/-! ## How a call ends -/

/-- How a call to connect ends, if it does. It matters what is left of its budget after the answer,
whether there is a connection at once then, and whether one is notified later, in time. -/
def connectOutcome? (address : String) (budget : Number) (left : Number.Exact)
    (atOnce later : Bool) : Except Failure Value → Option (Except Failure Reading)
  | .error (.refused name message) =>
    some (if name.isText BusNames.alreadyConnected then .ok .nothing
      else if name.isText BusNames.failed then
        .error (.notConnected
          (address ++ ": " ++ if message.isTrue then message.shown else "connect failed"))
      else .error (.refused name message))
  | .error (.timedOut _) => some (.error (.expired budget))
  | .error failure => some (.error failure)
  | .ok _ =>
    if !budget.hasDouble then some (.error .numberTooLarge)
    else if atOnce then some (.ok .nothing)
    else if left.isSpent then some (.error (.timedOut budget))
    else if left.exceedsClock then some (.error .beyondClock)
    else if later then some (.ok .nothing)
    else if left = .undefined then none
    else some (.error (.timedOut budget))

section

variable {τ : Type} (owner : String) {value : Value} {budget : Number} (elapsed : Number)

theorem answers_connectAnswer_ok (hbudget : value.number? = some budget) (answer : Value)
    (t : Session τ) : (connectAnswer owner value elapsed (.ok answer)).answers t
      = if budget.hasDouble then .ok (some (.connect budget (budget.leftAfter elapsed)))
        else .error .numberTooLarge := by
  have hremaining : connectAnswer.remaining value elapsed
      = if budget.hasDouble then .ok (.connect budget (budget.leftAfter elapsed))
        else .error .numberTooLarge := by
    rw [connectAnswer.remaining, hbudget]
  rw [connectAnswer, hremaining]
  cases budget.hasDouble <;> rfl

/-- The first part of a call goes by the answer, and looks at nothing else. -/
theorem device_leaves_connectAnswer (value : Value) (reply : Except Failure Value)
    (t : Session τ) : ((connectAnswer owner value elapsed reply).leaves t).device = t.device := by
  unfold connectAnswer
  split
  · cases connectAnswer.remaining value elapsed <;> rfl
  · split
    · rfl
    · split <;> rfl
  · rfl
  · rfl

theorem outcome?_of_refusal (hbudget : value.number? = some budget) (failure : Failure)
    (d : Device) (t : Session τ) (left : Number.Exact) (atOnce : Bool) :
    ∃ outcome, outcome? d ((connectAnswer owner value elapsed (.error failure)).answers t)
        = some outcome ∧
      ∀ later, connectOutcome? owner budget left atOnce later (.error failure) = some outcome := by
  have hexceeded : connectAnswer.exceeded value = .expired budget := by
    simp only [connectAnswer.exceeded, Value.toNumber, hbudget]
  cases failure with
  | refused name message =>
    rw [connectAnswer]
    simp only [connectOutcome?]
    split
    · exact ⟨_, rfl, fun _ ↦ rfl⟩
    · split <;> exact ⟨_, rfl, fun _ ↦ rfl⟩
  | timedOut limit =>
    rw [connectAnswer, hexceeded]
    exact ⟨_, rfl, fun _ ↦ rfl⟩
  | _ => exact ⟨_, rfl, fun _ ↦ rfl⟩

/-- After an answer without a failure, the call ends as it ought to, or it begins to wait, and then
there is no connection, and there is time. -/
theorem outcome?_of_answer (hbudget : value.number? = some budget) (answer : Value)
    (d : Device) (t : Session τ) :
    let left := budget.leftAfter elapsed
    let request := (connectAnswer owner value elapsed (.ok answer)).answers t
    let atOnce := d.state.isConnected
    (∃ outcome, outcome? d request = some outcome ∧
      ∀ later, connectOutcome? owner budget left atOnce later (.ok answer) = some outcome) ∨
    (request = .ok (some (.connect budget left)) ∧ outcome? d request = none ∧
      atOnce = false ∧ left.isSpent = false ∧ left.exceedsClock = false ∧
      budget.hasDouble = true) := by
  intro left request atOnce
  have hrequest : request = _ := answers_connectAnswer_ok owner elapsed hbudget answer t
  rw [hrequest]
  simp only [connectOutcome?]
  cases hdouble : budget.hasDouble with
  | false => exact .inl ⟨_, rfl, fun _ ↦ rfl⟩
  | true =>
    have hmet : (Purpose.connect budget left).metBy d.state = atOnce := rfl
    have hover : (Purpose.connect budget left).isOver = left.isSpent := rfl
    have hclock : (Purpose.connect budget left).exceedsClock = left.exceedsClock := rfl
    have hexpired : (d.expire ⟨0, .connect budget left, []⟩).outcome
        = .error (.timedOut budget) := by
      change Except.error (Failure.expired budget) = _
      rw [Failure.expired, if_pos hdouble]
    rw [if_pos rfl, outcome?, hmet, hover, hclock, hexpired]
    cases atOnce with
    | true => exact .inl ⟨_, rfl, fun _ ↦ rfl⟩
    | false =>
      cases left.isSpent with
      | true => exact .inl ⟨_, rfl, fun _ ↦ rfl⟩
      | false =>
        cases left.exceedsClock with
        | true => exact .inl ⟨_, rfl, fun _ ↦ rfl⟩
        | false => exact .inr ⟨rfl, rfl, rfl, rfl, rfl, rfl⟩

/-- **After its first part a call to connect ends as it ought to**, or it begins to wait, and then
there was an answer without a failure, no connection, and time. -/
theorem outcome?_connect (hbudget : value.number? = some budget) (reply : Except Failure Value)
    (d : Device) (t : Session τ) :
    let left := budget.leftAfter elapsed
    let request := (connectAnswer owner value elapsed reply).answers t
    let atOnce := d.state.isConnected
    (∃ outcome, outcome? d request = some outcome ∧
      ∀ later, connectOutcome? owner budget left atOnce later reply = some outcome) ∨
    (request = .ok (some (.connect budget left)) ∧ outcome? d request = none ∧
      (∃ answer, reply = .ok answer) ∧ atOnce = false ∧ left.isSpent = false ∧
      left.exceedsClock = false ∧ budget.hasDouble = true) := by
  intro left request atOnce
  cases reply with
  | error failure => exact .inl (outcome?_of_refusal owner elapsed hbudget failure d t left atOnce)
  | ok answer =>
    rcases outcome?_of_answer owner elapsed hbudget answer d t with hends | ⟨hasks, hnone, hwaits⟩
    · exact .inl hends
    · exact .inr ⟨hasks, hnone, ⟨answer, rfl⟩, hwaits⟩

theorem connectOutcome?_of_wait {left : Number.Exact} (hspent : left.isSpent = false)
    (hclock : left.exceedsClock = false) (hdouble : budget.hasDouble = true) (later : Bool)
    (answer : Value) :
    connectOutcome? owner budget left false later (.ok answer)
      = if later then some (.ok .nothing)
        else if left = .undefined then none else some (.error (.expired budget)) := by
  rw [Failure.expired, if_pos hdouble]
  simp [connectOutcome?, hspent, hclock, hdouble]

end

/-! ## Until the deadline -/

section

open Device

variable {τ ρ σ : Type} [OperatedTransport τ ρ σ] [PassingTransport τ] {s : Session τ} {id : Nat}
  {budgets : List (Number × Number.Exact)} {later : List (List ρ × Drive σ)}

theorem standing_spawn (hs : s.Attentive) (hid : id < s.nextCall)
    (hwaits : s.device.waitsUnder id = budgets.map .connecting) (replies : List ρ)
    {drive : Drive σ} (hcall : drive.startsCall = true) :
    Standing id budgets (s.advance replies drive).2.happenings
      (s.advance replies drive).1.device := by
  obtain ⟨request, hact, hpasses, -⟩ := Drive.act_eq_spawn τ hcall
  obtain ⟨moves, d, course, hquiet, hreplay, -, hrest⟩ :=
    advance_of_spawn drive hact s replies (hpasses _)
  have hmoved := (law_standing id budgets).replay hquiet (standing_nil hs.waiters hwaits)
  rw [hreplay] at hmoved
  rcases hrest with ⟨outcome, journal, -, hdevice, hhappened⟩ |
    ⟨purpose, journal, -, -, hdevice, hhappened⟩
  · rw [hdevice, hhappened]
    exact hmoved.append_quiet hmoved.waiters rfl rfl (outcomesUnder_of_ne (Nat.ne_of_gt hid))
  · have hothers : (d.joinedBy ⟨s.nextCall, purpose, journal⟩).waitsUnder id = d.waitsUnder id := by
      rw [waitsUnder_joinedBy, if_neg (Nat.ne_of_gt hid), List.append_nil]
    rw [hdevice, hhappened]
    exact ⟨hmoved.waiters.joinedBy trivial, hothers.trans hmoved.waits, hmoved.outcomes⟩

/-- A step leaves those who wait under an older number, unless a connection is notified or it is
their deadline. -/
theorem standing_advance (hs : s.Attentive) (hid : id < s.nextCall)
    (hwaits : s.device.waitsUnder id = budgets.map .connecting) (replies : List ρ)
    {drive : Drive σ} (hother : drive ≠ .deadline id) :
    Standing id budgets (s.advance replies drive).2.happenings
      (s.advance replies drive).1.device := by
  have hstart := standing_nil hs.waiters hwaits
  cases hcall : drive.startsCall with
  | true => exact standing_spawn hs hid hwaits replies hcall
  | false =>
    cases htime : drive.isDeadline with
    | true =>
      obtain ⟨id', rfl⟩ := Drive.exists_eq_deadline htime
      rw [happenings_deadline, device_deadline]
      exact hstart.expired fun heq ↦ hother (heq ▸ rfl)
    | false =>
      obtain ⟨moves, hquiet, hreplay⟩ := exists_quiet_moves s replies hcall htime
      have hmoved := (law_standing id budgets).replay hquiet hstart
      rwa [hreplay] at hmoved

/-- **A call to connect waits until a connection is notified**, through all steps but its own
deadline. -/
theorem standing_run (hs : s.Attentive) (hid : id < s.nextCall)
    (hwaits : s.device.waitsUnder id = budgets.map .connecting)
    (hothers : .deadline id ∉ later.map (·.2)) :
    Standing id budgets (history (s.run later).2) (s.run later).1.device := by
  induction later generalizing s budgets with
  | nil => exact standing_nil hs.waiters hwaits
  | cons head later ih =>
    obtain ⟨replies, drive⟩ := head
    rw [List.map_cons, List.mem_cons, not_or] at hothers
    have hfirst := standing_advance hs hid hwaits replies (Ne.symm hothers.1)
    have hleft : (s.advance replies drive).1.device.waitsUnder id
        = (if (s.advance replies drive).2.happenings.any Happening.isConnection then []
          else budgets).map .connecting := by
      rw [hfirst.waits]
      split <;> rfl
    rw [history_run_cons]
    exact hfirst.append (ih (hs.advance replies drive)
      (Nat.lt_of_lt_of_le hid (nextCall_le_advance s replies drive)) hleft hothers.2)

theorem outcomesUnder_until_deadline (hs : s.Attentive) :
    outcomesUnder id (history (s.run (later ++ [([], .deadline id)])).2)
      = outcomesUnder id (history (s.run later).2)
        ++ (((s.run later).1.device.waitsUnder id).filter (·.hasDeadline)).map fun p ↦
          ((s.run later).1.device.expire ⟨id, p, []⟩).outcome := by
  have hlast : history ((s.run later).1.run [(([] : List ρ), Drive.deadline id)]).2
      = (s.run later).1.device.endedAt id := by
    rw [history_run_cons, happenings_deadline]
    exact List.append_nil _
  rw [log_append, history, List.flatMap_append, outcomesUnder_append]
  refine congrArg _ ((congrArg _ hlast).trans ?_)
  exact outcomesUnder_endedAt (hs.run later) id

theorem outcomesUnder_of_absent (hs : s.Attentive) (hid : id < s.nextCall)
    (hwaits : s.device.waitsUnder id = []) (hlater : .deadline id ∉ later.map (·.2)) :
    outcomesUnder id (history (s.run (later ++ [([], .deadline id)])).2) = [] := by
  have hnobody : s.device.waitsUnder id = ([] : List (Number × Number.Exact)).map .connecting :=
    hwaits
  have hstanding := standing_run hs hid hnobody hlater
  have habsent : (s.run later).1.device.waitsUnder id = [] := hstanding.waits.trans (ite_self _)
  have hquiet : outcomesUnder id (history (s.run later).2) = [] :=
    hstanding.outcomes.trans (ite_self _)
  rw [outcomesUnder_until_deadline hs, habsent, hquiet]
  rfl

/-- A call to connect that waits ends when a connection is notified, or else at its deadline if it
has one. -/
theorem outcomesUnder_of_waits (hs : s.Attentive) (hid : id < s.nextCall) {budget : Number}
    {left : Number.Exact} (hwaits : s.device.waitsUnder id = [.connect budget left])
    (hlater : .deadline id ∉ later.map (·.2)) :
    outcomesUnder id (history (s.run (later ++ [([], .deadline id)])).2)
      = (if (history (s.run later).2).any Happening.isConnection then some (.ok .nothing)
        else if left = .undefined then none else some (.error (.expired budget))).toList := by
  have hcall : s.device.waitsUnder id = [(budget, left)].map .connecting := hwaits
  have hstanding := standing_run hs hid hcall hlater
  rw [outcomesUnder_until_deadline hs, hstanding.waits, hstanding.outcomes]
  cases (history (s.run later).2).any Happening.isConnection with
  | true => rfl
  | false =>
    by_cases hleft : left = .undefined
    · simp [Purpose.connecting, Purpose.hasDeadline, hleft]
    · simp [Purpose.connecting, Purpose.hasDeadline, hleft, Device.expire]

theorem Attentive.waitsUnder_nextCall (hs : s.Attentive) :
    s.device.waitsUnder s.nextCall = [] := by
  refine List.eq_nil_iff_forall_not_mem.mpr fun p hp ↦ ?_
  obtain ⟨c, hc, hid, -⟩ := mem_waitsUnder.mp hp
  exact Nat.ne_of_lt (hs.of_mem_pending hc) hid

/-- **How a call to connect begins.** It ends in the step that starts it, as it ought to, or it
waits from there on, and then there was an answer without a failure, no connection, and time. -/
theorem connect_begins (hs : s.Attentive) {budget : Number}
    (hbudget : s.config.connectTimeout.number? = some budget) (replies : List ρ)
    (elapsed : Number) :
    let begun := s.advance replies (.device (.connect elapsed))
    let left := budget.leftAfter elapsed
    let reply := s.connectReply replies
    let atOnce := (s.connectAsked replies).device.state.isConnected
    let outcome? := fun later ↦
      connectOutcome? s.device.address budget left atOnce later reply
    (begun.1.device.waitsUnder s.nextCall = [] ∧
      ∀ later, outcomesUnder s.nextCall begun.2.happenings = (outcome? later).toList) ∨
    (begun.1.device.waitsUnder s.nextCall = [.connect budget left] ∧
      outcomesUnder s.nextCall begun.2.happenings = [] ∧ (∃ answer, reply = .ok answer) ∧
      atOnce = false ∧ left.isSpent = false ∧ left.exceedsClock = false ∧
      budget.hasDouble = true) := by
  intro begun left reply atOnce connectOutcome
  obtain ⟨moves, d, course, hquiet, hreplay, hdevice, hrest⟩ := advance_of_spawn
    (.device (.connect elapsed)) rfl s replies (kept_passes.requestConnection elapsed)
  have hasked : d = (s.connectAsked replies).device := by
    rw [hdevice]
    rw [Act.leaves, requestConnection_asking]
    exact device_leaves_connectAnswer ..
  have hanswer : (requestConnection elapsed).answers (s.asking replies)
      = (connectAnswer s.device.address s.config.connectTimeout elapsed reply).answers
        (s.connectAsked replies) := by
    rw [Act.answers, requestConnection_asking]
    rfl
  -- Nobody waited under the new number, and while the other side is asked, nobody ends under it.
  have hnobody : s.device.waitsUnder s.nextCall
      = ([] : List (Number × Number.Exact)).map .connecting := hs.waitsUnder_nextCall
  have hmoved := (law_standing s.nextCall []).replay hquiet (standing_nil hs.waiters hnobody)
  rw [hreplay] at hmoved
  have hcourse : outcomesUnder s.nextCall course = [] := hmoved.outcomes.trans (ite_self _)
  have habsent : d.waitsUnder s.nextCall = [] := hmoved.waits.trans (ite_self _)
  have hbegins := outcome?_connect s.device.address elapsed hbudget reply d (s.connectAsked replies)
  rw [← hanswer, hasked] at hbegins
  rw [hasked] at hrest habsent
  rcases hrest with ⟨outcome, journal, houtcome, hnext, hhappened⟩ |
    ⟨purpose, journal, hpurpose, houtcome, hnext, hhappened⟩
  · rcases hbegins with ⟨outcome', houtcome', hends⟩ | ⟨-, hnone, -⟩
    · obtain rfl : outcome' = outcome := Option.some.inj (houtcome'.symm.trans houtcome)
      refine .inl ⟨?_, fun later ↦ ?_⟩
      · exact (congrArg (·.waitsUnder s.nextCall) hnext).trans habsent
      · have houtcome : connectOutcome later = some outcome' := hends later
        rw [hhappened, outcomesUnder_append, hcourse, outcomesUnder_self, houtcome]
        rfl
    · exact absurd (houtcome.symm.trans hnone) (Option.some_ne_none _)
  · rcases hbegins with ⟨outcome', houtcome', -⟩ | ⟨hasks, -, hanswered⟩
    · exact absurd (houtcome'.symm.trans houtcome) (Option.some_ne_none _)
    · obtain rfl : purpose = .connect budget left :=
        Option.some.inj (Except.ok.inj (hpurpose.symm.trans hasks))
      refine .inr ⟨?_, (congrArg _ hhappened).trans hcourse, hanswered⟩
      refine (congrArg (·.waitsUnder s.nextCall) hnext).trans ?_
      rw [waitsUnder_joinedBy, habsent, if_pos rfl]
      rfl

/-- **How a call to connect ends.** After any run, in which batches arrive, calls start and end and
deadlines come, let a call to connect start; some time is over when the other side has answered. Let
anything follow until the deadline of the call, and then the deadline: batches arrive, also while
the other side is asked, calls start and end, and other calls reach their deadlines.

Then the call ends once: by a failure of the other side, which it may put in words of its own; well
if there is a connection already, or right after the answer, or if there is time and one is notified
before the deadline; and otherwise by the budget that it was given. If the other side failed, if
there is a connection right after the answer, or if nothing that can be waited for is left of the
budget, it ends before anything else happens and does not wait. What is left may be beyond what the
clock can count, although the call could end in time; and a budget that is not a number never runs
out. -/
theorem connect_ends_by_answer_or_deadline (transport : τ) (path : Option String)
    (address : String) (config : Setup) (budget : Number)
    (hbudget : config.connectTimeout.number? = some budget)
    (earlier later : List (List ρ × Drive σ)) (replies : List ρ) (elapsed : Number) :
    let s := ((start transport path address config).run earlier).1
    let id := s.nextCall
    let begin : Drive σ := .device (.connect elapsed)
    let begun := s.advance replies begin
    let left := budget.leftAfter elapsed
    let reply := s.connectReply replies
    let atOnce := (s.connectAsked replies).device.state.isConnected
    let connection := (history (begun.1.run later).2).any Happening.isConnection
    let outcome := connectOutcome? s.device.address budget left atOnce connection reply
    .deadline id ∉ later.map (·.2) →
    outcomesUnder id (history (s.run ((replies, begin) :: later ++ [([], .deadline id)])).2)
        = outcome.toList ∧
      ((∃ failure, reply = .error failure) ∨ atOnce = true ∨ left.isSpent = true ∨
          left.exceedsClock = true →
        outcomesUnder id begun.2.happenings = outcome.toList ∧ id ∉ begun.1.waitingCalls) := by
  intro s id begin begun left reply atOnce connection outcome hlater
  have hs : s.Attentive := (attentive_start transport path address config).run earlier
  have hconfig : s.config.connectTimeout.number? = some budget :=
    (congrArg (·.connectTimeout.number?) (config_run_eq _ earlier)).trans hbudget
  have hbegun : begun.1.Attentive := hs.advance replies begin
  have hgiven : id < begun.1.nextCall := by
    rw [(advance_of_startsCall s replies rfl).2]
    exact Nat.lt_succ_self _
  have hlife : outcomesUnder id
      (history (s.run ((replies, begin) :: later ++ [([], .deadline id)])).2)
      = outcomesUnder id begun.2.happenings
        ++ outcomesUnder id (history (begun.1.run (later ++ [([], .deadline id)])).2) := by
    rw [List.cons_append, history_run_cons, outcomesUnder_append]
  rw [hlife]
  rcases connect_begins hs hconfig replies elapsed with
    ⟨hwaits, hended⟩ | ⟨hwaits, hquiet, ⟨answer, hanswer⟩, hunmet, hspent, hclock, hdouble⟩
  · have hrest := outcomesUnder_of_absent hbegun hgiven hwaits hlater
    refine ⟨?_, fun _ ↦ ⟨hended connection, fun hmem ↦ ?_⟩⟩
    · rw [hrest, List.append_nil]
      exact hended connection
    · obtain ⟨w, hw, hwid⟩ := List.mem_map.mp hmem
      have hcall : w.tag.purpose ∈ begun.1.device.waitsUnder id :=
        mem_waitsUnder.mpr ⟨w.tag, List.mem_map_of_mem hw, hwid, rfl⟩
      exact absurd (hwaits ▸ hcall) List.not_mem_nil
  · have hrest := outcomesUnder_of_waits hbegun hgiven hwaits hlater
    have houtcome : outcome = connectOutcome? s.device.address budget left false connection
        (.ok answer) := by
      change connectOutcome? s.device.address budget left atOnce connection reply = _
      rw [show atOnce = false from hunmet, show reply = .ok answer from hanswer]
    refine ⟨?_, ?_⟩
    · rw [hrest, show outcomesUnder id begun.2.happenings = [] from hquiet, List.nil_append,
        houtcome, connectOutcome?_of_wait _ hspent hclock hdouble]
    · rintro (⟨failure, hfailure⟩ | hmet | hover | hbeyond)
      · exact nomatch hanswer.symm.trans hfailure
      · exact nomatch hmet.symm.trans hunmet
      · exact nomatch hover.symm.trans hspent
      · exact nomatch hbeyond.symm.trans hclock

/-- A connection that came and went while the other side was asked does not count, and the call
fails by the whole budget. -/
theorem passing_connection_runs_out_of_time :
    let s : Session DirectSink := start ⟨[]⟩ (some "/dev") "" (.standard 64)
    let comesAndGoes : DirectReply := ⟨[⟨"/dev", [("Connected", .bool true)], []⟩,
      ⟨"/dev", [("Connected", .bool false)], []⟩], .value none⟩
    outcomesUnder 0 (history (s.run [([comesAndGoes], .device (.connect (.int 1))),
      ([], .deadline 0)]).2) = [.error (.timedOut BusNames.defaultTimeout)] := by
  intro s comesAndGoes
  have hreply : (s.connectReply [comesAndGoes]).isOk = true := by
    subst s comesAndGoes
    decide +kernel
  have hunmet : (s.connectAsked [comesAndGoes]).device.state.isConnected = false := by
    subst s comesAndGoes
    decide +kernel
  obtain ⟨hends, -⟩ := connect_ends_by_answer_or_deadline (⟨[]⟩ : DirectSink) (some "/dev") ""
    (.standard 64) BusNames.defaultTimeout rfl [] [] [comesAndGoes] (.int 1) List.not_mem_nil
  refine hends.trans ?_
  change (connectOutcome? "" BusNames.defaultTimeout (BusNames.defaultTimeout.leftAfter (.int 1))
    (s.connectAsked [comesAndGoes]).device.state.isConnected false
    (s.connectReply [comesAndGoes])).toList = _
  rw [hunmet]
  cases hanswer : s.connectReply [comesAndGoes] with
  | error failure =>
    rw [hanswer] at hreply
    exact nomatch hreply
  | ok answer => rfl

/-- With an infinite budget a call to connect fails at once, although the other side takes the
request, and the connection comes in the next step. -/
theorem infinite_budget_cannot_be_waited_for :
    let infinity : Number := .real 0x7ff0000000000000
    let config : Setup := { Setup.standard 64 with connectTimeout := .ofNumber infinity }
    let s : Session DirectSink := start ⟨[]⟩ (some "/dev") "" config
    let begun := s.advance [] (.device (.connect (.int 1)))
    let connected : Batch := ⟨"/dev", [("Connected", .bool true)], []⟩
    config.connectTimeout.number? = some infinity ∧
      s.connectReply ([] : List DirectReply) = .ok .none ∧
      outcomesUnder 0 begun.2.happenings = [.error .beyondClock] ∧
      (begun.1.advance [] (.device (.receive connected))).1.device.state = .connected :=
  ⟨rfl, rfl, rfl, rfl⟩

end

end GattPeer.Session
