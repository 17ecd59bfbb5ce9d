import GattPeer.Proofs.Session.Departures
import GattPeer.Proofs.Session.Matches

/-!
# The life cycle of the link

A link opens a connection to the bus when it is started and closes it when it is stopped. Whatever
is done to it and however that fails, it is connected exactly while it runs; so every connection
that came about is closed once, by the next stop, and before another one is opened. While it does
not run it has no matches and sends nothing.

## The argument

Only a start and a stop touch the connection. All else is *steady*: the link runs afterwards as it
did before, and nothing leaves that has to do with the connection. A link is *upright* if it is
connected exactly while it runs, and has no matches while it does not. Every operation keeps it
upright, also a start that fails, which stops a link that is not connected yet. What the operations
do to the connection then follows from whether the link runs, and forms episodes one after the
other.
-/

namespace GattPeer

def Sent.isLifeCycle : Sent → Bool
  | .busOpened | .handlerInstalled | .busClosed => true
  | _ => false

def Drive.isLifeCycle : Drive Session.LinkStep → Bool
  | .transport (.start ..) | .transport (.enter ..) | .transport .stop => true
  | _ => false

/-- Whether an operation on the link is a method call. Data that is to be written has to be bytes
that fit into the memory before it is a method call. -/
def Session.LinkStep.callsMethod (memory : Nat) : LinkStep → Bool
  | .connect .. | .disconnect .. | .readValue .. | .addMatch .. => true
  | .writeValue _ data _ => (data.toBytes memory).isOk
  | _ => false

namespace Session

variable {s s' : Session BusLink}

def Report.lifeCycle (r : Report) : List Sent := r.departures.filter Sent.isLifeCycle

def lifeCycle (log : List (LogEntry LinkStep)) : List Sent := log.flatMap (·.report.lifeCycle)

/-! ## Steady operations -/

/-- From one session to another while nothing happens to the connection. -/
structure Steady (s s' : Session BusLink) : Prop where
  /-- The link runs if it ran. -/
  running : s'.transport.running = s.transport.running
  /-- The link is connected if it was. -/
  busOpen : s'.transport.busOpen = s.transport.busOpen
  /-- Nothing leaves that has to do with the connection. -/
  sends : s.Sends (fun x ↦ x.isLifeCycle = false) s'

instance : IsPreorder (Session BusLink) Steady where
  refl s := ⟨rfl, rfl, refl_of (Sends _) s⟩
  trans _ _ _ h h' := ⟨h'.running.trans h.running, h'.busOpen.trans h.busOpen,
    trans_of (Sends _) h.sends h'.sends⟩

theorem steady_of_transport_eq (h : s'.transport = s.transport)
    (hsends : s.Sends (fun x ↦ x.isLifeCycle = false) s') : s.Steady s' :=
  ⟨congrArg BusLink.running h, congrArg BusLink.busOpen h, hsends⟩

theorem steady_report (n : Notice) : (Act.report n).Keeps Steady s :=
  steady_of_transport_eq rfl (sends_report n)

theorem steady_change {f : BusLink → BusLink} (h : BusLink.ChangesMatches f) :
    (BusLink.change f).Keeps Steady s := by
  have hlink := h s.transport
  exact ⟨(congrArg BusLink.running hlink).trans rfl, (congrArg BusLink.busOpen hlink).trans rfl,
    sends_of_trace_eq rfl⟩

theorem steady_call (m : MethodCall) (timeout : Value) :
    (BusLink.call m timeout).Keeps Steady s := by
  have hlink := (calm_call (s := s) m timeout).transport
  exact ⟨(congrArg BusLink.running hlink).trans rfl, (congrArg BusLink.busOpen hlink).trans rfl,
    BusLink.sends_call rfl⟩

theorem steady_perform (command : Command) : (BusLink.perform command).Keeps Steady s :=
  BusLink.keeps_command (fun m timeout _ ↦ steady_call m timeout) (fun n _ ↦ steady_report n)
    (fun _ _ h ↦ steady_change h) command

theorem steady_addMatch (path : String) (listener : Listener) :
    (BusLink.addMatch path listener).Keeps Steady s :=
  BusLink.keeps_addMatch (fun m timeout _ ↦ steady_call m timeout) (fun n _ ↦ steady_report n)
    (fun _ _ h ↦ steady_change h) path listener

theorem steady_removeMatch (token : Value) : (BusLink.removeMatch token).Keeps Steady s :=
  BusLink.keeps_removeMatch (fun m timeout _ ↦ steady_call m timeout) (fun n _ ↦ steady_report n)
    (fun _ _ h ↦ steady_change h) token

theorem steady_handle (m : Message) : (BusLink.handle m).Keeps Steady s :=
  steady_of_transport_eq (told_handle m s).transport (BusLink.sends_handle m)

theorem kept_steady : Kept (Steady : Session BusLink → Session BusLink → Prop) :=
  ⟨fun n _ ↦ steady_report n, fun _ _ ↦ steady_perform _⟩

theorem steady_listen : (listen : Act BusLink Unit).Keeps Steady s := by
  refine .get_bind (.ite (.bind (steady_perform _) fun token s' ↦ ?_) (.pure _))
  refine .bind (.modify ?_) fun _ _ ↦ steady_report _
  exact steady_of_transport_eq rfl (sends_of_trace_eq rfl)

theorem steady_stopListening : (stopListening : Act BusLink Unit).Keeps Steady s := by
  refine .get_bind ?_
  cases s.token with
  | none => exact .pure _
  | some token =>
    refine .bind (.set (steady_of_transport_eq rfl (sends_of_trace_eq rfl))) fun _ s' ↦ ?_
    exact .bind (.discard (steady_perform _)) fun _ _ ↦ steady_report _

theorem steady_spawn {request : Act BusLink (Option Purpose)}
    (h : request.Keeps Steady s.requesting) : (spawn request).Keeps Steady s := by
  refine ⟨?_, ?_, sends_spawn h.sends⟩
  · rw [Act.leaves, spawn_eq, (quiet_proceed ..).transport]
    exact h.running
  · rw [Act.leaves, spawn_eq, (quiet_proceed ..).transport]
    exact h.busOpen

/-- **Every operation but a start and a stop is steady.** -/
theorem steady_act {drive : Drive LinkStep} (h : drive.isLifeCycle = false) :
    drive.act.Keeps Steady s := by
  cases drive with
  | device step =>
    change (carryOut step).Keeps Steady s
    cases step with
    | listen => exact .bind steady_listen fun _ _ ↦ .pure _
    | stopListening => exact .bind steady_stopListening fun _ _ ↦ .pure _
    | receive batch =>
      refine .bind (steady_of_transport_eq ?_ (sends_deliver ..)) fun _ _ ↦ .pure _
      rw [Act.leaves, deliver_apply]
      cases s.device.receive batch with
      | ok result => rfl
      | error failure => rfl
    | announce path uuid flags =>
      refine .bind (steady_of_transport_eq ?_ (sends_announce ..)) fun _ _ ↦ .pure _
      rw [leaves_announce]
      rfl
    | connect elapsed =>
      exact .bind (steady_spawn (kept_steady.requestConnection elapsed)) fun _ _ ↦ .pure _
    | discover first last =>
      exact .bind (steady_spawn (kept_steady.requestServices first last)) fun _ _ ↦ .pure _
    | _ => exact kept_steady.carryOut rfl
  | transport step =>
    change (carryOutLink step).Keeps Steady s
    cases step with
    | start hasBus refusal => exact absurd h.symm Bool.false_ne_true
    | enter hasBus refusal => exact absurd h.symm Bool.false_ne_true
    | stop => exact absurd h.symm Bool.false_ne_true
    | addMatch path name failure => exact .bind (steady_addMatch ..) fun _ _ ↦ .pure _
    | removeMatch token => exact .bind (steady_removeMatch token) fun _ _ ↦ .pure _
    | message m => exact .bind (steady_handle m) fun _ _ ↦ .pure _
    | _ => exact BusLink.keeps_carryOutLink (fun m timeout _ ↦ steady_call m timeout) rfl
  | deadline id =>
    rw [Act.Keeps, Drive.leaves_act_deadline]
    exact steady_of_transport_eq (quiet_reachDeadline id s).transport (sends_reachDeadline ..)

/-! ## Upright links -/

/-- The link is connected exactly while it runs, and its matches are in order. -/
structure Upright (s : Session BusLink) : Prop where
  /-- The matches are in order; in particular there are none while the link does not run. -/
  orderly : s.Orderly
  /-- The link is connected exactly while it runs. -/
  busOpen : s.transport.busOpen = s.transport.running

theorem upright_start (callTimeout : Value) (path : Option String) (address : String)
    (config : Setup) : (start (BusLink.initial callTimeout) path address config).Upright :=
  ⟨orderly_start .., rfl⟩

theorem Upright.loading (h : s.Upright) (replies : List BusReply) : (s.loading replies).Upright :=
  ⟨h.orderly, h.busOpen⟩

theorem Upright.table_eq_nil (h : s.Upright) (hrunning : s.transport.running = false) :
    s.transport.table = [] :=
  h.orderly.idle hrunning

theorem Upright.busOpen_eq_false (h : s.Upright) (hrunning : s.transport.running = false) :
    s.transport.busOpen = false :=
  h.busOpen.trans hrunning

theorem Upright.stopped_eq (h : s.Upright) (hrunning : s.transport.running = false) :
    s.stopped = s := by
  have htable := h.table_eq_nil hrunning
  have hopen := h.busOpen_eq_false hrunning
  obtain ⟨config, device, token, ⟨callTimeout, running, busOpen, table, nextToken, replies⟩,
    nextCall, trace⟩ := s
  obtain rfl : running = false := hrunning
  obtain rfl : busOpen = false := hopen
  obtain rfl : table = [] := htable
  rfl

/-! ## Stopping -/

theorem stop_eq (s : Session BusLink) : BusLink.stop s = .ok () (s.stopped.recording
    (if s.transport.running then
      (if s.transport.busOpen then [.sent .busClosed] else []) ++ [.notice .caller .busLeft]
    else [])) := by
  have hstop : BusLink.stop s = (do
      if s.transport.running then
        if s.transport.busOpen then .record (.sent .busClosed)
        .report .busLeft : Act BusLink Unit) s.stopped := rfl
  rw [hstop]
  cases s.transport.running with
  | false => exact congrArg (EStateM.Result.ok ()) (recording_nil s.stopped).symm
  | true =>
    cases s.transport.busOpen with
    | false => rfl
    | true => exact congrArg (EStateM.Result.ok ()) (recording_cons s.stopped _ [_]).symm

theorem Upright.stop_of_not_running (h : s.Upright) (hrunning : s.transport.running = false) :
    BusLink.stop s = .ok () s := by
  rw [stop_eq, hrunning, h.stopped_eq hrunning]
  exact congrArg (EStateM.Result.ok ()) (recording_nil s)

theorem Upright.departures_stop_of_running (h : s.Upright) (hrunning : s.transport.running = true) :
    (BusLink.stop.leaves s).departures = s.departures ++ [.busClosed] := by
  rw [Act.leaves, stop_eq, h.busOpen, hrunning]
  exact departures_recording ..

/-! ## Starting -/

theorem start_of_running (hrunning : s.transport.running = true) (hasBus : Bool)
    (refusal : Option Failure) : BusLink.start hasBus refusal s = .ok () s := by
  rw [start_eq, hrunning]
  rfl

/-- A session whose link runs but is not connected yet. -/
def beginning (s : Session BusLink) : Session BusLink :=
  { s with transport := { s.transport with running := true } }

/-- What fails while the connection is being opened stops the link again. -/
theorem Upright.stop_beginning (h : s.Upright) (hrunning : s.transport.running = false)
    (events : List Event) (failure : Failure) :
    (BusLink.stop >>= fun _ ↦ throw failure : Act BusLink Unit) (s.beginning.recording events)
      = .error failure ((s.recording events).recording [.notice .caller .busLeft]) := by
  have hstopped : (s.beginning.recording events).stopped = s.recording events := by
    change s.stopped.recording events = s.recording events
    rw [h.stopped_eq hrunning]
  have hopen : (s.beginning.recording events).transport.busOpen = false :=
    h.busOpen_eq_false hrunning
  rw [stop_bind_throw, Act.leaves, stop_eq, hstopped, hopen]
  rfl

/-- **Starting** a link that does not run connects it, or fails and leaves it as it was. In that
case the connection was refused, if it was asked for. -/
theorem Upright.start_cases (h : s.Upright) (hrunning : s.transport.running = false) (hasBus : Bool)
    (refusal : Option Failure) :
    (∃ s', BusLink.start hasBus refusal s = .ok () s' ∧
      s'.transport = { s.transport with running := true, busOpen := true } ∧
      s'.departures = s.departures ++ [.busOpened, .handlerInstalled]) ∨
    ∃ failure s' xs, BusLink.start hasBus refusal s = .error failure s' ∧
      s'.transport = s.transport ∧ s'.departures = s.departures ++ xs ∧
      (xs = [] ∨ xs = [.busOpened]) := by
  have hstart := start_eq hasBus refusal s
  rw [hrunning] at hstart
  cases hasBus with
  | false => exact .inr ⟨_, s, [], hstart, rfl, (List.append_nil _).symm, .inl rfl⟩
  | true =>
    have hopening : BusLink.start true refusal s
        = opening refusal (BusLink.limitFailure? s.transport.callTimeout) s.beginning := hstart
    cases hlimit : BusLink.limitFailure? s.transport.callTimeout with
    | some failure =>
      have hstop := h.stop_beginning hrunning [] failure
      rw [hlimit] at hopening
      rw [recording_nil, recording_nil] at hstop
      exact .inr ⟨failure, _, [], hopening.trans hstop, rfl, departures_recording .., .inl rfl⟩
    | none =>
      rw [hlimit] at hopening
      cases refusal with
      | some failure =>
        have hstop := h.stop_beginning hrunning [.sent .busOpened] failure
        rw [← recording_cons] at hstop
        exact .inr ⟨_, _, _, hopening.trans hstop, rfl, departures_recording .., .inr rfl⟩
      | none =>
        have hconnected : opening none none s.beginning = .ok () { s.recording
            [.sent .busOpened, .sent .handlerInstalled, .notice .caller .busReached] with
            transport := { s.transport with running := true, busOpen := true } } := by
          rw [recording_cons, recording_cons (s.recording _)]
          rfl
        exact .inl ⟨_, hopening.trans hconnected, rfl, departures_recording ..⟩

/-! ## Turns -/

/-- What an operation does to the connection, by whether the link runs before and after it. -/
inductive Turns : Drive LinkStep → Bool → Bool → List Sent → Prop where
  /-- Nothing happens to the connection. A stop does nothing only while the link does not run. -/
  | rests {drive : Drive LinkStep} {running : Bool}
      (h : drive = .transport .stop → running = false) : Turns drive running running []
  /-- A start connects the link. -/
  | connects {drive : Drive LinkStep} (h : drive ≠ .transport .stop) :
      Turns drive false true [.busOpened, .handlerInstalled]
  /-- A start asks for a connection that is refused. -/
  | isRefused {drive : Drive LinkStep} (h : drive ≠ .transport .stop) :
      Turns drive false false [.busOpened]
  /-- A stop closes the connection. -/
  | closes : Turns (.transport .stop) true false [.busClosed]

/-- From a session in which nothing was sent to another by an operation. -/
structure Turned (drive : Drive LinkStep) (s s' : Session BusLink) : Prop where
  /-- The link is connected then exactly if it runs. -/
  busOpen : s'.transport.busOpen = s'.transport.running
  /-- What was sent is what the operation does to the connection. -/
  turns : Turns drive s.transport.running s'.transport.running
    (s'.departures.filter Sent.isLifeCycle)

theorem turned_start (h : s.Upright) (hnothing : s.departures = []) (hasBus : Bool)
    (refusal : Option Failure) {drive : Drive LinkStep} (hdrive : drive ≠ .transport .stop) :
    s.Turned drive ((BusLink.start hasBus refusal).leaves s) := by
  rw [Act.leaves]
  cases hrunning : s.transport.running with
  | true =>
    rw [start_of_running hrunning]
    refine ⟨h.busOpen, ?_⟩
    rw [hnothing]
    exact .rests fun hstop ↦ absurd hstop hdrive
  | false =>
    rcases h.start_cases hrunning hasBus refusal with
      ⟨s', hok, htransport, hsent⟩ | ⟨failure, s', xs, herror, htransport, hsent, hxs⟩
    · rw [hok]
      refine ⟨by rw [htransport], ?_⟩
      rw [hsent, hnothing, htransport, hrunning]
      exact .connects hdrive
    · rw [herror]
      refine ⟨by rw [htransport, h.busOpen], ?_⟩
      rw [hsent, hnothing, htransport, hrunning]
      rcases hxs with rfl | rfl
      · exact .rests fun _ ↦ rfl
      · exact .isRefused hdrive

theorem turned_stop (h : s.Upright) (hnothing : s.departures = []) :
    s.Turned (.transport .stop) (BusLink.stop.leaves s) := by
  cases hrunning : s.transport.running with
  | false =>
    rw [Act.leaves, h.stop_of_not_running hrunning]
    refine ⟨h.busOpen, ?_⟩
    rw [hnothing]
    exact .rests fun _ ↦ hrunning
  | true =>
    have hsent := h.departures_stop_of_running hrunning
    have htransport := (quiet_stop s).transport
    refine ⟨by rw [htransport]; rfl, ?_⟩
    rw [hsent, hnothing, htransport, hrunning]
    exact .closes

/-- **What an operation does to the connection.** -/
theorem turned_act (h : s.Upright) (hnothing : s.departures = []) (drive : Drive LinkStep) :
    s.Turned drive (drive.act.leaves s) := by
  cases hlife : drive.isLifeCycle with
  | false =>
    obtain ⟨hrunning, hopen, xs, hxs, hall⟩ := steady_act (s := s) hlife
    refine ⟨by rw [hopen, hrunning, h.busOpen], ?_⟩
    have hnone : xs.filter Sent.isLifeCycle = [] :=
      List.filter_eq_nil_iff.mpr fun x hx ↦ Bool.eq_false_iff.mp (hall x hx)
    rw [hrunning, hxs, hnothing, List.nil_append, hnone]
    refine .rests fun hstop ↦ ?_
    rw [hstop] at hlife
    exact nomatch hlife
  | true =>
    unfold Drive.isLifeCycle at hlife
    split at hlife
    · next hasBus refusal =>
      have hleaves : (Drive.transport (.start hasBus refusal)).act.leaves s
          = (BusLink.start hasBus refusal).leaves s := Act.leaves_return ..
      rw [hleaves]
      exact turned_start h hnothing hasBus refusal nofun
    · next hasBus refusal =>
      have hleaves : (Drive.transport (.enter hasBus refusal)).act.leaves s
          = (BusLink.start hasBus refusal).leaves s := Act.leaves_return ..
      rw [hleaves]
      exact turned_start h hnothing hasBus refusal nofun
    · have hleaves : (Drive.transport .stop).act.leaves s = BusLink.stop.leaves s :=
        Act.leaves_return ..
      rw [hleaves]
      exact turned_stop h hnothing
    · exact absurd hlife Bool.false_ne_true

theorem turns_advance (h : s.Upright) (replies : List BusReply) (drive : Drive LinkStep) :
    Turns drive s.transport.running (s.advance replies drive).1.transport.running
      (s.advance replies drive).2.lifeCycle := by
  rw [Report.lifeCycle, departures_advance, advance_eq]
  exact (turned_act (h.loading replies) rfl drive).turns

theorem Upright.advance (h : s.Upright) (replies : List BusReply) (drive : Drive LinkStep) :
    (s.advance replies drive).1.Upright := by
  refine ⟨h.orderly.advance replies drive, ?_⟩
  rw [advance_eq]
  exact (turned_act (h.loading replies) rfl drive).busOpen

theorem Upright.run (h : s.Upright) (drives : List (List BusReply × Drive LinkStep)) :
    (s.run drives).1.Upright := by
  induction drives generalizing s with
  | nil => exact h
  | cons head drives ih =>
    rw [run_cons]
    exact ih (h.advance ..)

/-! ## Episodes -/

/-- What happens to the connection from a start that asks for it, if that succeeds and if not. -/
def episode : Bool → List Sent
  | true => [.busOpened, .handlerInstalled, .busClosed]
  | false => [.busOpened]

/-- The beginning of an episode that is not over, while the link runs. -/
def openEpisode (s : Session BusLink) : List Sent :=
  if s.transport.running then [.busOpened, .handlerInstalled] else []

theorem exists_episodes_advance (h : s.Upright) (replies : List BusReply)
    (drive : Drive LinkStep) :
    ∃ connected : List Bool, s.openEpisode ++ (s.advance replies drive).2.lifeCycle
      = connected.flatMap episode ++ (s.advance replies drive).1.openEpisode := by
  have hturns := turns_advance h replies drive
  rw [openEpisode, openEpisode]
  generalize s.transport.running = running at hturns
  generalize (s.advance replies drive).1.transport.running = running' at hturns
  generalize (s.advance replies drive).2.lifeCycle = events at hturns
  cases hturns with
  | rests _ => exact ⟨[], List.append_nil _⟩
  | connects _ => exact ⟨[], rfl⟩
  | isRefused _ => exact ⟨[false], rfl⟩
  | closes => exact ⟨[true], rfl⟩

/-- **What happens to the connection in a run is one episode after the other**, of which the last
one is not over while the link runs. -/
theorem exists_episodes_run (h : s.Upright) (drives : List (List BusReply × Drive LinkStep)) :
    ∃ connected : List Bool, s.openEpisode ++ lifeCycle (s.run drives).2
      = connected.flatMap episode ++ (s.run drives).1.openEpisode := by
  induction drives generalizing s with
  | nil => exact ⟨[], List.append_nil _⟩
  | cons head drives ih =>
    obtain ⟨replies, drive⟩ := head
    obtain ⟨first, hfirst⟩ := exists_episodes_advance h replies drive
    obtain ⟨rest, hrest⟩ := ih (h.advance replies drive)
    refine ⟨first ++ rest, ?_⟩
    rw [run_cons, lifeCycle, List.flatMap_cons, ← List.append_assoc, hfirst, List.append_assoc]
    change first.flatMap episode ++ ((s.advance replies drive).1.openEpisode
      ++ lifeCycle ((s.advance replies drive).1.run drives).2) = _
    rw [hrest, List.flatMap_append, List.append_assoc]

/-! ## The next stop -/

namespace Turns

variable {drive : Drive LinkStep} {running running' : Bool} {events : List Sent}

theorem of_running (h : Turns drive true running' events) :
    (drive ≠ .transport .stop ∧ running' = true ∧ events = []) ∨
      (drive = .transport .stop ∧ events = [.busClosed]) := by
  cases h with
  | rests h => exact .inl ⟨fun hstop ↦ (nomatch h hstop), rfl, rfl⟩
  | closes => exact .inr ⟨rfl, rfl⟩

theorem running_of_mem (h : Turns drive running running' events)
    (hmem : Sent.handlerInstalled ∈ events) : running' = true := by
  cases h with
  | rests _ => exact absurd hmem List.not_mem_nil
  | connects _ => rfl
  | isRefused _ => exact nomatch List.mem_singleton.mp hmem
  | closes => exact nomatch List.mem_singleton.mp hmem

theorem eq_stop_of_mem (h : Turns drive running running' events)
    (hmem : Sent.busClosed ∈ events) : drive = .transport .stop := by
  cases h with
  | rests _ => exact absurd hmem List.not_mem_nil
  | connects _ => simp at hmem
  | isRefused _ => exact nomatch List.mem_singleton.mp hmem
  | closes => rfl

end Turns

theorem mem_lifeCycle {r : Report} {x : Sent} (h : x ∈ r.departures)
    (hx : x.isLifeCycle = true) : x ∈ r.lifeCycle :=
  List.mem_filter.mpr ⟨h, hx⟩

/-- Only a stop closes the connection, in every run. -/
theorem eq_stop_of_busClosed (h : s.Upright) {drives : List (List BusReply × Drive LinkStep)}
    {entry : LogEntry LinkStep} (hentry : entry ∈ (s.run drives).2)
    (hclosed : .busClosed ∈ entry.report.departures) : entry.drive = .transport .stop := by
  induction drives generalizing s with
  | nil => exact absurd hentry List.not_mem_nil
  | cons head drives ih =>
    obtain ⟨replies, drive⟩ := head
    rw [run_cons] at hentry
    rcases List.mem_cons.mp hentry with rfl | hentry
    · exact (turns_advance h replies drive).eq_stop_of_mem (mem_lifeCycle hclosed rfl)
    · exact ih (h.advance replies drive) hentry

/-- **While the link runs nothing happens to the connection until the next stop**, which closes it.
-/
theorem closes_at_next_stop (h : s.Upright) (hrunning : s.transport.running = true)
    {drives : List (List BusReply × Drive LinkStep)} {between after : List (LogEntry LinkStep)}
    {closing : LogEntry LinkStep} (hlog : (s.run drives).2 = between ++ closing :: after)
    (hbetween : ∀ e ∈ between, e.drive ≠ .transport .stop)
    (hclosing : closing.drive = .transport .stop) :
    (∀ e ∈ between, e.report.lifeCycle = []) ∧ closing.report.lifeCycle = [.busClosed] := by
  induction between generalizing s drives with
  | nil =>
    cases drives with
    | nil => exact absurd hlog.symm (List.cons_ne_nil _ _)
    | cons head drives =>
      obtain ⟨replies, drive⟩ := head
      obtain ⟨rfl, -⟩ := List.cons.inj hlog
      have hturns := turns_advance h replies drive
      rw [hrunning] at hturns
      rcases hturns.of_running with ⟨hdrive, -, -⟩ | ⟨-, hevents⟩
      · exact absurd hclosing hdrive
      · exact ⟨List.forall_mem_nil _, hevents⟩
  | cons first between ih =>
    cases drives with
    | nil => exact absurd hlog.symm (List.cons_ne_nil _ _)
    | cons head drives =>
      obtain ⟨replies, drive⟩ := head
      obtain ⟨rfl, hrest⟩ := List.cons.inj hlog
      obtain ⟨hfirst, hbetween⟩ := List.forall_mem_cons.mp hbetween
      have hturns := turns_advance h replies drive
      rw [hrunning] at hturns
      rcases hturns.of_running with ⟨-, hnext, hevents⟩ | ⟨hdrive, -⟩
      · obtain ⟨hquiet, hclosed⟩ := ih (h.advance replies drive) hnext hrest hbetween
        exact ⟨List.forall_mem_cons.mpr ⟨hevents, hquiet⟩, hclosed⟩
      · exact absurd hdrive hfirst

/-- A connection that came about in a run is closed by the next stop, and until then no other one is
opened. -/
theorem closes_what_was_opened (h : s.Upright) {drives : List (List BusReply × Drive LinkStep)}
    {before between after : List (LogEntry LinkStep)} {opening closing : LogEntry LinkStep}
    (hlog : (s.run drives).2 = before ++ opening :: (between ++ closing :: after))
    (hopening : .handlerInstalled ∈ opening.report.departures)
    (hbetween : ∀ e ∈ between, e.drive ≠ .transport .stop)
    (hclosing : closing.drive = .transport .stop) :
    (∀ e ∈ between, e.report.lifeCycle = []) ∧ closing.report.lifeCycle = [.busClosed] := by
  obtain ⟨ds, es, -, -, hrest⟩ := exists_run_of_log_eq hlog
  cases es with
  | nil => exact absurd hrest.symm (List.cons_ne_nil _ _)
  | cons head es =>
    obtain ⟨replies, drive⟩ := head
    obtain ⟨rfl, hlater⟩ := List.cons.inj hrest
    have hds := h.run ds
    have hrunning := (turns_advance hds replies drive).running_of_mem (mem_lifeCycle hopening rfl)
    exact closes_at_next_stop (hds.advance replies drive) hrunning hlater hbetween hclosing

/-! ## While the link does not run -/

theorem removeMatch_of_table_eq_nil (htable : s.transport.table = []) (token : Value) :
    BusLink.removeMatch token s = .ok () s := by
  rw [removeMatch_eq, search, htable]
  rfl

theorem addMatch_of_not_running (hrunning : s.transport.running = false) (path : String)
    (listener : Listener) :
    ∃ s', BusLink.addMatch path listener s = .error .notStarted s' ∧
      s'.departures = s.departures := by
  let asking := s.subscribed (s.subscription.registering path listener)
  have hcall : BusLink.call (BusLink.ruleMethod "AddMatch" path) .none asking
      = .error .notStarted (asking.recording [(BusLink.ruleMethod "AddMatch" path).begun]) :=
    BusLink.call_of_not_running hrunning
  have hadd : BusLink.addMatch path listener s
      = ((BusLink.call (BusLink.ruleMethod "AddMatch" path) .none).attempt
        >>= settle path s.transport.nextToken) asking := rfl
  rw [Act.bind_apply, Act.attempt, hcall] at hadd
  exact ⟨_, hadd, departures_recording_begun asking _⟩

/-- Method calls fail, and nothing leaves, while the link does not run. -/
theorem callsMethod_of_not_running (hrunning : s.transport.running = false) {step : LinkStep}
    (h : step.callsMethod s.config.memory = true) :
    ∃ s', carryOutLink step s = .error .notStarted s' ∧ s'.departures = s.departures := by
  have hcall : ∀ m timeout, BusLink.call m timeout s
      = .error .notStarted (s.recording [m.begun]) :=
    fun m timeout ↦ BusLink.call_of_not_running hrunning
  cases step with
  | connect path timeout
  | disconnect path timeout
  | readValue path timeout =>
    exact ⟨_, Act.bind_of_error (Act.bind_of_error (hcall ..) _) _,
      departures_recording_begun ..⟩
  | writeValue path data timeout =>
    cases hbytes : data.toBytes s.config.memory with
    | error failure =>
      rw [LinkStep.callsMethod, hbytes] at h
      exact absurd h Bool.false_ne_true
    | ok bytes =>
      rw [carryOutLink, Act.get_bind_apply, hbytes]
      exact ⟨_, Act.bind_of_error (Act.bind_of_error (hcall ..) _) _,
        departures_recording_begun ..⟩
  | addMatch path name failure =>
    obtain ⟨s', hadd, hsent⟩ := addMatch_of_not_running hrunning path (.callback name failure)
    exact ⟨s', Act.bind_of_error hadd _, hsent⟩
  | _ => exact absurd h Bool.false_ne_true

theorem isLifeCycle_of_callsMethod {memory : Nat} {step : LinkStep}
    (h : step.callsMethod memory = true) : (Drive.transport step).isLifeCycle = false := by
  cases step with
  | start hasBus refusal => exact nomatch h
  | enter hasBus refusal => exact nomatch h
  | stop => exact nomatch h
  | _ => rfl

/-- A method call fails while the link does not run, sends nothing and leaves no match. -/
theorem advance_of_not_running (h : s.Upright) (hrunning : s.transport.running = false)
    (replies : List BusReply) {step : LinkStep} (hstep : step.callsMethod s.config.memory = true) :
    (s.advance replies (.transport step)).2.outcome = .error .notStarted ∧
      (s.advance replies (.transport step)).2.departures = [] ∧
      (s.advance replies (.transport step)).1.transport.table = [] := by
  obtain ⟨s', hfailed, hsent⟩ :=
    callsMethod_of_not_running (s := s.loading replies) hrunning hstep
  have hadvance : s.advance replies (.transport step) = (s', ⟨.error .notStarted, s'.trace, _⟩) :=
    advance_of_error hfailed
  have hsteady : (s.loading replies).Steady
      ((Drive.transport step).act.leaves (s.loading replies)) :=
    steady_act (isLifeCycle_of_callsMethod hstep)
  refine ⟨by rw [hadvance], ?_, (h.advance replies _).table_eq_nil ?_⟩
  · rw [hadvance]
    exact hsent
  · rw [advance_eq]
    exact hsteady.running.trans hrunning

/-- To start a link that runs does nothing, and a start that fails leaves the link as it was. -/
theorem advance_start (h : s.Upright) (replies : List BusReply) {hasBus : Bool}
    {refusal : Option Failure} {drive : Drive LinkStep} {reading : Reading}
    (hdrive : drive.act = BusLink.start hasBus refusal >>= fun _ ↦ pure reading) :
    (s.transport.running = true →
      (s.advance replies drive).1 = s.loading replies ∧ (s.advance replies drive).2.trace = []) ∧
    ∀ failure, (s.advance replies drive).2.outcome = .error failure →
      s.transport.running = false ∧
      (s.advance replies drive).1.transport = (s.loading replies).transport := by
  have hok {s'} (hstart : BusLink.start hasBus refusal (s.loading replies) = .ok () s') :
      s.advance replies drive = (s', ⟨.ok reading, s'.trace, s'.device.state⟩) := by
    refine advance_of_ok ?_
    rw [hdrive, Act.bind_of_ok hstart]
    rfl
  cases hrunning : s.transport.running with
  | true =>
    have hadvance := hok (start_of_running (s := s.loading replies) hrunning hasBus refusal)
    rw [hadvance]
    exact ⟨fun _ ↦ ⟨rfl, rfl⟩, nofun⟩
  | false =>
    refine ⟨nofun, fun failure houtcome ↦ ⟨rfl, ?_⟩⟩
    rcases (h.loading replies).start_cases hrunning hasBus refusal with
      ⟨s', hstart, -, -⟩ | ⟨failure', s', xs, hstart, htransport, -, -⟩
    · rw [hok hstart] at houtcome
      exact nomatch houtcome
    · have hadvance : s.advance replies drive
          = (s', ⟨.error failure', s'.trace, s'.device.state⟩) := by
        refine advance_of_error ?_
        rw [hdrive, Act.bind_of_error hstart]
      rw [hadvance]
      exact htransport

/-! ## Runs -/

/-- **A link is connected exactly while it runs.** After any run in which the link is started and
stopped, methods are called and matches are added and removed, with whatever success:

* While the link does not run it has no matches and no connection. To stop it or to remove a match
  changes nothing, sends nothing and succeeds. Any other method call fails, because the link was not
  started, sends nothing, and leaves no match.
* To start a link that runs does nothing. A start that fails leaves the link as it was, and it did
  not run.
* What happened to the connection so far is one episode after the other, each of them closed once
  or refused, and the last is not over exactly while the link runs. Only a stop closes a connection;
  and what was connected is closed by the next stop, before anything else happens to the connection.
-/
theorem link_is_connected_while_it_runs (callTimeout : Value) (path : Option String)
    (address : String) (config : Setup) (drives : List (List BusReply × Drive LinkStep)) :
    let run := (start (BusLink.initial callTimeout) path address config).run drives
    let s := run.1
    (s.transport.running = false →
      s.transport.table = [] ∧ s.transport.busOpen = false ∧
      (∀ replies, s.advance replies (.transport .stop)
        = (s.loading replies, ⟨.ok .nothing, [], s.device.state⟩)) ∧
      (∀ replies token, s.advance replies (.transport (.removeMatch token))
        = (s.loading replies, ⟨.ok .nothing, [], s.device.state⟩)) ∧
      ∀ replies step, step.callsMethod s.config.memory = true →
        (s.advance replies (.transport step)).2.outcome = .error .notStarted ∧
        (s.advance replies (.transport step)).2.departures = [] ∧
        (s.advance replies (.transport step)).1.transport.table = []) ∧
    (∀ replies hasBus refusal drive,
      drive = .transport (.start hasBus refusal) ∨ drive = .transport (.enter hasBus refusal) →
      (s.transport.running = true →
        (s.advance replies drive).1 = s.loading replies ∧ (s.advance replies drive).2.trace = []) ∧
      ∀ failure, (s.advance replies drive).2.outcome = .error failure →
        s.transport.running = false ∧
        (s.advance replies drive).1.transport = (s.loading replies).transport) ∧
    (∃ connected : List Bool, lifeCycle run.2 = connected.flatMap episode ++ s.openEpisode) ∧
    (∀ e ∈ run.2, .busClosed ∈ e.report.departures → e.drive = .transport .stop) ∧
    ∀ before opening between closing after,
      run.2 = before ++ opening :: (between ++ closing :: after) →
      .handlerInstalled ∈ opening.report.departures →
      (∀ e ∈ between, e.drive ≠ .transport .stop) → closing.drive = .transport .stop →
      (∀ e ∈ between, e.report.lifeCycle = []) ∧ closing.report.lifeCycle = [.busClosed] := by
  intro run s
  have hinitial := upright_start callTimeout path address config
  have hupright : s.Upright := hinitial.run drives
  refine ⟨fun hrunning ↦ ?_, fun replies hasBus refusal drive hdrive ↦ ?_, ?_, ?_, ?_⟩
  · refine ⟨hupright.table_eq_nil hrunning, hupright.busOpen_eq_false hrunning, fun replies ↦ ?_,
      fun replies token ↦ ?_, fun replies step hstep ↦ ?_⟩
    · have hstop := (hupright.loading replies).stop_of_not_running hrunning
      exact advance_of_ok (Act.bind_of_ok hstop _)
    · have htable := hupright.table_eq_nil hrunning
      exact advance_of_ok (Act.bind_of_ok
        (removeMatch_of_table_eq_nil (s := s.loading replies) htable token) _)
    · exact advance_of_not_running hupright hrunning replies hstep
  · rcases hdrive with rfl | rfl
    · exact advance_start hupright replies rfl
    · exact advance_start hupright replies rfl
  · exact exists_episodes_run hinitial drives
  · exact fun e he ↦ eq_stop_of_busClosed hinitial he
  · intro before opening between closing after hlog
    exact closes_what_was_opened hinitial hlog

/-- A link that is started and started again is connected once. The stop closes the connection, the
next one is refused, and after that a match cannot be added. -/
theorem restarted_link_is_connected_once :
    let drives := [([], .transport (.start true none)), ([], .transport (.enter true none)),
      ([], .transport (.addMatch "/a" "print" none)), ([], .transport .stop),
      ([], .transport (.start true (some (.busUnreachable "no bus"))))]
    let run := (start (BusLink.initial (.int 30)) (some "/dev") "" (.standard 64)).run drives
    run.1.transport.running = false ∧
    lifeCycle run.2 = [.busOpened, .handlerInstalled, .busClosed, .busOpened] ∧
    (run.1.advance [] (.transport (.addMatch "/a" "print" none))).2.outcome
      = .error .notStarted := by
  intro drives run
  have hrunning : run.1.transport.running = false := by
    unfold run drives
    rfl
  have hdormant :=
    (link_is_connected_while_it_runs (.int 30) (some "/dev") "" (.standard 64) drives).1 hrunning
  obtain ⟨-, -, -, -, hcalls⟩ := hdormant
  exact ⟨hrunning, rfl, (hcalls [] (.addMatch "/a" "print" none) rfl).1⟩

end Session

end GattPeer
