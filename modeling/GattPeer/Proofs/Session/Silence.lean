import GattPeer.Proofs.Device.Knowledge
import GattPeer.Proofs.Session.Parallel

/-!
# Operations in silence

While the surroundings bring no batch, no operation of a caller changes what is known about the
device: not by its answer, not by a failure, and not by a wait that goes on or runs out. What is
known after any step can be read off the batches and the announcements that its report tells of.

## The argument

A script is silent if its replies bring no batches. A command uses up replies only, so a silent
script stays silent, and nothing happens to the device while the command is carried out. The rest of
a call may end it, which is the one thing that can happen.
-/

namespace GattPeer

open Session

/-! ## Scripts -/

/-- From one session to another in which, if the transport was silent, it is silent still and
nothing happened. -/
def Session.Undisturbed {τ : Type} (silent : τ → Prop) (s s' : Session τ) : Prop :=
  silent s.transport → silent s'.transport ∧ s'.happenings = s.happenings

instance {τ : Type} (silent : τ → Prop) : IsPreorder (Session τ) (Undisturbed silent) where
  refl _ hsilent := ⟨hsilent, rfl⟩
  trans := by
    intro s s' t h h' hsilent
    obtain ⟨hsilent', hsame⟩ := h hsilent
    obtain ⟨hsilent'', hsame'⟩ := h' hsilent'
    exact ⟨hsilent'', hsame'.trans hsame⟩

/-- A transport whose surroundings answer from a script, in replies that may bring batches. While
they bring none, commands do not disturb. -/
class ScriptedTransport (τ : Type) {ρ σ : outParam Type} [OperatedTransport τ ρ σ] where
  /-- The replies to the next commands. -/
  script : τ → List ρ
  /-- The batches that a reply brings. -/
  batches : ρ → List Batch
  /-- The script is what was loaded. -/
  script_load : ∀ (replies : List ρ) (t : τ), script (Transport.load replies t) = replies
  /-- Commands do not disturb. -/
  undisturbed_perform : ∀ (command : Command) (s : Session τ),
    (Transport.perform command).Keeps (Undisturbed fun t ↦ ∀ r ∈ script t, batches r = []) s

namespace Session

section

variable {τ : Type} {silent : τ → Prop} {s : Session τ}

theorem undisturbed_record {e : Event} (h : e.happening? = none) :
    (Act.record e).Keeps (Undisturbed silent) s := by
  refine .modify fun hsilent ↦ ⟨hsilent, ?_⟩
  change (s.trace ++ [e]).filterMap Event.happening? = _
  rw [List.filterMap_append, List.filterMap_cons, h, List.filterMap_nil, List.append_nil]
  rfl

theorem undisturbed_report (n : Notice) : (Act.report n).Keeps (Undisturbed silent) s :=
  undisturbed_record rfl

end

end Session

theorem forall_mem_next {α : Type} {p : α → Prop} {xs : List α} (h : ∀ x ∈ xs, p x) (usual : α)
    (husual : p usual) : p (xs.head?.getD usual) ∧ ∀ x ∈ xs.tail, p x := by
  cases xs with
  | nil => exact ⟨husual, nofun⟩
  | cons x xs => exact ⟨h x List.mem_cons_self, fun y hy ↦ h y (List.mem_cons_of_mem _ hy)⟩

/-! ## The direct transport -/

namespace DirectSink

/-- No reply to the next commands brings a batch. -/
def Silent (sink : DirectSink) : Prop := ∀ reply ∈ sink.replies, reply.during = []

theorem undisturbed_nextReply_bind {α : Type} {f : DirectReply → Act DirectSink α}
    {s : Session DirectSink}
    (hf : ∀ reply s', reply.during = [] → (f reply).Keeps (Undisturbed Silent) s') :
    (nextReply >>= f).Keeps (Undisturbed Silent) s := by
  intro hsilent
  obtain ⟨hnext, hrest⟩ := forall_mem_next hsilent usualReply rfl
  exact hf _ { s with transport := { s.transport with replies := s.transport.replies.tail } }
    hnext hrest

theorem undisturbed_perform (command : Command) (s : Session DirectSink) :
    (perform command).Keeps (Undisturbed Silent) s := by
  refine .bind (undisturbed_record rfl) fun _ s' ↦ undisturbed_nextReply_bind ?_
  intro reply s' hduring
  rw [hduring]
  refine .bind (.pure _) fun _ s' ↦ ?_
  cases reply.answer with
  | value v => exact .pure _
  | failure f => exact .throw f

instance : ScriptedTransport DirectSink where
  script := DirectSink.replies
  batches := DirectReply.during
  script_load _ _ := rfl
  undisturbed_perform := undisturbed_perform

end DirectSink

/-! ## The link to the bus -/

namespace BusLink

/-- No reply to the next method calls brings a batch. -/
def Silent (link : BusLink) : Prop := ∀ reply ∈ link.replies, reply.during = []

theorem undisturbed_nextReply_bind {α : Type} {f : BusReply → Act BusLink α} {s : Session BusLink}
    (hf : ∀ reply s', reply.during = [] → (f reply).Keeps (Undisturbed Silent) s') :
    (nextReply >>= f).Keeps (Undisturbed Silent) s := by
  intro hsilent
  obtain ⟨hnext, hrest⟩ := forall_mem_next hsilent usualReply rfl
  exact hf _ { s with transport := { s.transport with replies := s.transport.replies.tail } }
    hnext hrest

theorem undisturbed_call (m : MethodCall) (timeout : Value) (s : Session BusLink) :
    (call m timeout).Keeps (Undisturbed Silent) s := by
  refine .get_bind (.bind (undisturbed_report _) fun _ s' ↦ .ite (.throw_bind ..) ?_)
  generalize limitFailure? _ = failure?
  cases failure? with
  | some failure =>
    exact .ite (.bind (undisturbed_record rfl) fun _ _ ↦ .throw_bind ..) (.throw_bind ..)
  | none =>
    refine .ite (.throw_bind ..) (undisturbed_nextReply_bind fun reply s' hduring ↦ ?_)
    rw [hduring]
    refine .bind (undisturbed_record (happening?_leaving ..)) fun _ _ ↦ ?_
    exact .bind (.pure _) fun _ _ ↦ .ofExcept _

theorem undisturbed_change {f : BusLink → BusLink} (s : Session BusLink)
    (hf : ChangesMatches f) : (change f).Keeps (Undisturbed Silent) s := by
  refine .modify fun hsilent ↦ ⟨?_, rfl⟩
  rw [hf]
  exact hsilent

instance : ScriptedTransport BusLink where
  script := BusLink.replies
  batches := BusReply.during
  script_load _ _ := rfl
  undisturbed_perform command _ :=
    keeps_command undisturbed_call (fun n _ ↦ undisturbed_report n)
      (fun _ _ hf ↦ undisturbed_change _ hf) command

end BusLink

/-! ## Operations -/

namespace Session

variable {τ ρ σ : Type} [OperatedTransport τ ρ σ]

/-- Whether an operation gives the device something by itself: a batch or an announcement. -/
def Step.informs : Step → Bool
  | .receive _ | .announce .. => true
  | _ => false

section

variable [ScriptedTransport τ] {s : Session τ}

/-- No reply to the next commands brings a batch. -/
def Silent (t : τ) : Prop :=
  ∀ reply ∈ ScriptedTransport.script t, ScriptedTransport.batches τ reply = []

theorem undisturbed_perform (command : Command) :
    (Transport.perform command).Keeps (Undisturbed Silent) s :=
  ScriptedTransport.undisturbed_perform command s

theorem kept_undisturbed : Kept (Undisturbed Silent : Session τ → Session τ → Prop) :=
  ⟨fun n _ ↦ undisturbed_report n, fun _ _ ↦ undisturbed_perform _⟩

theorem undisturbed_listen : (listen : Act τ Unit).Keeps (Undisturbed Silent) s := by
  refine .get_bind (.ite ?_ (.pure _))
  refine .bind (undisturbed_perform _) fun token s' ↦ ?_
  exact .bind (.modify fun hsilent ↦ ⟨hsilent, rfl⟩) fun _ _ ↦ undisturbed_report _

theorem undisturbed_stopListening :
    (stopListening : Act τ Unit).Keeps (Undisturbed Silent) s := by
  refine .get_bind ?_
  cases s.token with
  | none => exact .pure _
  | some token =>
    refine .bind (.set fun hsilent ↦ ⟨hsilent, rfl⟩) fun _ s' ↦ ?_
    exact .bind (.discard (undisturbed_perform _)) fun _ _ ↦ undisturbed_report _

theorem undisturbed_carryOut {step : Step} (hstep : step.informs = false)
    (hcall : (Drive.device step : Drive σ).startsCall = false) :
    (carryOut step : Act τ Reading).Keeps (Undisturbed Silent) s := by
  cases step with
  | listen => exact .bind undisturbed_listen fun _ _ ↦ .pure _
  | stopListening => exact .bind undisturbed_stopListening fun _ _ ↦ .pure _
  | receive batch => exact nomatch hstep
  | announce path uuid flags => exact nomatch hstep
  | connect elapsed => exact nomatch hcall
  | discover first last => exact nomatch hcall
  | _ => exact kept_undisturbed.carryOut rfl

theorem isEnd_of_spawn {drive : Drive σ} {request : Act τ (Option Purpose)}
    (hact : drive.act = (do return .number (← spawn request) : Act τ Reading))
    (hrequest : request.Keeps (Undisturbed Silent) s.requesting) (hsilent : Silent s.transport)
    (hs : s.happenings = []) : ∀ h ∈ (drive.act.leaves s).happenings, h.isEnd = true := by
  -- In the first part of the call nothing happens; the rest of it can but end the call.
  have hrejoining : (s.rejoining (request.leaves s.requesting)).happenings = [] := by
    have hduring : (request.leaves s.requesting).trace.filterMap Event.happening? = [] :=
      (hrequest hsilent).2
    rw [happenings, rejoining, List.filterMap_append, filterMap_withoutCaller, hduring,
      List.append_nil]
    exact hs
  rw [leaves_act_of_spawn hact]
  rcases proceed_cases (s.rejoining (request.leaves s.requesting)) s.nextCall
    (callerNotices (request.leaves s.requesting).trace) (request.answers s.requesting) with
    ⟨outcome, notices, -, hproceed⟩ | ⟨purpose, -, -, hproceed⟩
  · rw [hproceed, happenings_conclude, hrejoining]
    intro h hh
    rw [List.mem_singleton.mp hh]
    rfl
  · rw [hproceed]
    intro h hh
    exact absurd (hrejoining ▸ hh) List.not_mem_nil

/-- **In silence, an operation only ends calls**, whatever it is answered. -/
theorem isEnd_of_silent (s : Session τ) {step : Step} (hstep : step.informs = false)
    {replies : List ρ} (hsilent : ∀ reply ∈ replies, ScriptedTransport.batches τ reply = []) :
    ∀ h ∈ (s.advance replies (.device step)).2.happenings, h.isEnd = true := by
  have hloading : Silent (s.loading replies).transport := by
    change ∀ reply ∈ ScriptedTransport.script (Transport.load replies s.transport), _
    rw [ScriptedTransport.script_load]
    exact hsilent
  have hact : ∀ h ∈ ((Drive.device step).act.leaves (s.loading replies)).happenings,
      h.isEnd = true := by
    cases hcall : (Drive.device step : Drive σ).startsCall with
    | false =>
      have hsame : ((carryOut step).leaves (s.loading replies)).happenings = [] :=
        (undisturbed_carryOut hstep hcall hloading).2
      intro h hh
      exact absurd (hsame ▸ hh) List.not_mem_nil
    | true =>
      cases step with
      | connect elapsed =>
        exact isEnd_of_spawn rfl (kept_undisturbed.requestConnection elapsed) hloading rfl
      | discover first last =>
        exact isEnd_of_spawn rfl (kept_undisturbed.requestServices first last) hloading rfl
      | _ => exact nomatch hcall
  rw [advance_eq]
  exact hact

end

/-! ## What is known after a step -/

variable [PassingTransport τ]

/-- **What is known after a step** can be read off its report. -/
theorem knowledge_advance (s : Session τ) (replies : List ρ) (drive : Drive σ) :
    (s.advance replies drive).1.device.knowledge
      = (s.advance replies drive).2.happenings.foldl Device.Knowledge.upon s.device.knowledge := by
  obtain ⟨moves, hmoves, -⟩ := exists_moves_advance s replies drive
  have hknowledge := s.device.knowledge_replay moves
  rwa [hmoves] at hknowledge

theorem knowledge_run (s : Session τ) (drives : List (List ρ × Drive σ)) :
    (s.run drives).1.device.knowledge
      = (history (s.run drives).2).foldl Device.Knowledge.upon s.device.knowledge := by
  induction drives generalizing s with
  | nil => rfl
  | cons head drives ih =>
    obtain ⟨replies, drive⟩ := head
    rw [history_run_cons, List.foldl_append, ← knowledge_advance]
    exact ih _

variable [ScriptedTransport τ]

/-- An operation of a caller, in which no reply brings a batch, or the deadline of a call. -/
def Unprompted (τ : Type) {ρ σ : Type} [OperatedTransport τ ρ σ] [ScriptedTransport τ]
    (drive : List ρ × Drive σ) : Prop :=
  match drive.2 with
  | .device step =>
    step.informs = false ∧ ∀ reply ∈ drive.1, ScriptedTransport.batches τ reply = []
  | .transport _ => False
  | .deadline _ => True

omit [PassingTransport τ] in
theorem isEnd_of_unprompted {s : Session τ} {drives : List (List ρ × Drive σ)}
    (h : ∀ drive ∈ drives, Unprompted τ drive) :
    ∀ x ∈ history (s.run drives).2, x.isEnd = true := by
  induction drives generalizing s with
  | nil => exact nofun
  | cons head drives ih =>
    obtain ⟨replies, drive⟩ := head
    have hfirst := h _ List.mem_cons_self
    rw [history_run_cons]
    intro x hx
    rcases List.mem_append.mp hx with hx | hx
    · cases drive with
      | device step => exact isEnd_of_silent s hfirst.1 hfirst.2 x hx
      | transport step => exact hfirst.elim
      | deadline id =>
        rw [happenings_deadline] at hx
        exact Device.isEnd_of_mem_endedAt hx
    · exact ih (fun drive hdrive ↦ h drive (List.mem_cons_of_mem _ hdrive)) x hx

/-- **Only batches and announcements add to what is known.** From any state of a session, and over
either transport, a run takes the connection state, the advertised properties, the announcements and
the published ranges where the batches that are merged and the announcements that are stored on the
way take them. So they are what they were if nothing is merged or stored. Operations of callers, be
it to connect, to disconnect, to discover, to read, to write, to listen or to listen no longer,
merge and store nothing as long as no reply brings a batch, whatever the replies are and however
they end, and neither do deadlines; all that can happen then is that calls end. -/
theorem only_batches_and_announcements_inform (s : Session τ)
    (drives : List (List ρ × Drive σ)) :
    let last := (s.run drives).1
    let past := history (s.run drives).2
    last.device.knowledge = past.foldl Device.Knowledge.upon s.device.knowledge ∧
    ((∀ h ∈ past, h.informs = false) → last.device.knowledge = s.device.knowledge) ∧
    ((∀ drive ∈ drives, Unprompted τ drive) →
      (∀ h ∈ past, h.isEnd = true) ∧ last.device.knowledge = s.device.knowledge) := by
  intro last past
  have hknowledge := knowledge_run s drives
  have hsame (huninformed : ∀ h ∈ past, h.informs = false) :
      last.device.knowledge = s.device.knowledge :=
    hknowledge.trans (Device.Knowledge.foldl_upon_eq_self _ huninformed)
  refine ⟨hknowledge, hsame, fun hunprompted ↦ ?_⟩
  have hends : ∀ h ∈ past, h.isEnd = true := isEnd_of_unprompted hunprompted
  refine ⟨hends, hsame fun h hh ↦ ?_⟩
  exact Device.informs_of_belongs (Device.belongs_of_isEnd (hends h hh))

/-- A call to connect that runs out of time, and one to listen that is refused, leave the name and
the attribute that were known before. -/
theorem failures_leave_what_is_known :
    let start : Session DirectSink :=
      .start ⟨[]⟩ (some "/dev") "" { Setup.standard 64 with connectTimeout := .int 1 }
    let s := (start.run [
      ([], .device (.receive ⟨"/dev", [("Name", .text "Sensor")], []⟩)),
      ([], .device (.announce "/dev/service0001/char0002" "2a00" .none))]).1
    let drives : List (List DirectReply × Drive Empty) := [
      ([⟨[], .value none⟩], .device (.connect (.int 0))),
      ([⟨[], .failure .notStarted⟩], .device .listen),
      ([], .deadline 0)]
    (s.run drives).1.device.knowledge = s.device.knowledge ∧
      s.device.advertisement.localName = some "Sensor" ∧
      s.device.attributes.announcements.length = 1 := by
  intro start s drives
  have hunprompted : ∀ drive ∈ drives, Unprompted DirectSink drive := by
    intro drive hdrive
    rcases List.mem_cons.mp hdrive with rfl | hdrive
    · exact ⟨rfl, by simp [ScriptedTransport.batches]⟩
    rcases List.mem_cons.mp hdrive with rfl | hdrive
    · exact ⟨rfl, by simp [ScriptedTransport.batches]⟩
    · rw [List.mem_singleton.mp hdrive]
      trivial
  obtain ⟨-, -, hsame⟩ := only_batches_and_announcements_inform s drives
  refine ⟨(hsame hunprompted).2, ?_, ?_⟩
  · unfold s start
    rfl
  · unfold s start
    rfl

end Session

end GattPeer
