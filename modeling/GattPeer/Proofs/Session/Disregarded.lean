import GattPeer.Proofs.Session.ParingTransports

/-!
# Batches that a device disregards

A run of a session is compared with the run in which all batches that the device disregards are left
out, and in which no batch says that something is invalid. Each step of the second run does what the
same step of the first one does; the steps that are left out do nothing that counts. So the runs
come to the same, and their logs differ only in notices about what was disregarded, and in what
others were told of it.

Between two steps the runs need not be at the same place in their scripts, because a step that is
left out has a script of its own. What counts is that they are paired whenever a script is loaded.
-/

namespace GattPeer

open Session Act

/-! ## What is left of a run -/

/-- What is left of an operation on the device: a batch may be left out. -/
def Session.Step.pared? (own : String) : Step → Option Step
  | .receive batch => if Device.heeds own batch.path then some (.receive batch.pared) else none
  | step => some step

def Session.Report.pared (own : String) (r : Report) : Report :=
  { r with trace := r.trace.filterMap (Event.pared? own) }

section

variable {τ ρ σ : Type} [OperatedTransport τ ρ σ] [ScriptedTransport τ] [ParingTransport τ]

/-- What is left of an operation. -/
def Drive.pared? (τ : Type) {ρ σ : Type} [OperatedTransport τ ρ σ] [ScriptedTransport τ]
    [ParingTransport τ] (own : String) : Drive σ → Option (Drive σ)
  | .device step => (step.pared? own).map .device
  | .transport step => (ParingTransport.paredOwn? τ own step).map .transport
  | .deadline id => some (.deadline id)

/-- What is left of a run. -/
def paredRun (τ : Type) {ρ σ : Type} [OperatedTransport τ ρ σ] [ScriptedTransport τ]
    [ParingTransport τ] (own : String) (drives : List (List ρ × Drive σ)) :
    List (List ρ × Drive σ) :=
  drives.filterMap fun head ↦
    (head.2.pared? τ own).map (head.1.map (ParingTransport.paredReply τ own), ·)

def LogEntry.pared? (τ : Type) {ρ σ : Type} [OperatedTransport τ ρ σ] [ScriptedTransport τ]
    [ParingTransport τ] (own : String) (entry : LogEntry σ) : Option (LogEntry σ) :=
  (entry.drive.pared? τ own).map fun drive ↦ ⟨drive, entry.report.pared own⟩

/-- In an operation and its replies, the names of the changed properties in a batch are texts. -/
structure HasTextKeys (τ : Type) {ρ σ : Type} [OperatedTransport τ ρ σ] [ScriptedTransport τ]
    (drive : List ρ × Drive σ) : Prop where
  replies : ∀ reply ∈ drive.1, ∀ batch ∈ ScriptedTransport.batches τ reply, batch.HasTextKeys
  given : ∀ batch, drive.2 = .device (.receive batch) → batch.HasTextKeys

end

/-! ## What happened -/

theorem filterMap_happening?_pared (own : String) (trace : List Event) :
    (trace.filterMap (Event.pared? own)).filterMap Event.happening?
      = (trace.filterMap Event.happening?).map (Happening.pared own) := by
  rw [List.filterMap_filterMap, List.map_filterMap]
  refine List.filterMap_congr fun e _ ↦ ?_
  cases e with
  | notice author n => cases hn : n.disregards own <;> simp [Event.pared?, hn, Event.happening?]
  | callback run =>
    cases hrun : Device.heeds own run.path <;> simp [Event.pared?, hrun, Event.happening?]
  | happening h => rfl
  | sent x => rfl
  | unanswered m => rfl

/-- Paring leaves the endings of calls alone, but for their notices. -/
@[simp] theorem endings_map_pared (own : String) (course : List Happening) :
    endings (course.map (Happening.pared own)) = endings course := by
  induction course with
  | nil => rfl
  | cons h course ih =>
    cases h with
    | ended e => exact congrArg ((e.id, e.outcome) :: ·) ih
    | _ => exact ih

namespace Session

variable {τ ρ σ : Type} [OperatedTransport τ ρ σ] [ScriptedTransport τ] [ParingTransport τ]
  {own : String} {s s' : Session τ}

abbrev Paired (own : String) : Session τ → Session τ → Prop :=
  Pared own (ParingTransport.paredReply τ own)

/-! ## Operations that start no call -/

theorem pared_perform (command : Command) (h : Paired own s s') :
    Alongside (Paired own) (Transport.perform command) (Transport.perform command) s s' :=
  ParingTransport.pared_perform command h

theorem pared_readValue (c : Characteristic) (h : Paired own s s') :
    Alongside (Paired own) (readValue c) (readValue c) s s' := by
  refine h.get_bind rfl ?_
  cases s.device.attributes.pathOf? c.value with
  | none => exact .throw h _
  | some path => exact pared_perform _ h

theorem pared_writeValue (c : Characteristic) (data : Value) (h : Paired own s s') :
    Alongside (Paired own) (writeValue c data) (writeValue c data) s s' := by
  refine h.get_bind rfl ?_
  cases s.device.attributes.pathOf? c.value with
  | none => exact .throw h _
  | some path => exact .bind (.ofExcept h _) fun _ _ _ h ↦ .discard (pared_perform _ h)

theorem pared_readByType (c : Characteristic) (uuid : String) (h : Paired own s s') :
    Alongside (Paired own) (readByType c uuid) (readByType c uuid) s s' := by
  refine h.get_bind rfl (.bind (.ofExcept h _) fun found t t' h ↦ ?_)
  cases found with
  | none => exact .throw h _
  | some found => exact pared_readValue found h

theorem pared_listen (h : Paired own s s') :
    Alongside (Paired own) listen listen s s' := by
  refine h.get_bind rfl (.ite ?_ (.pure h _))
  refine .bind (pared_perform _ h) fun token t t' h ↦ ?_
  exact .bind (.modify (h.token _)) fun _ _ _ h ↦ h.report rfl

theorem pared_stopListening (h : Paired own s s') :
    Alongside (Paired own) stopListening stopListening s s' := by
  have htoken : s'.token = s.token := by rw [h.eq]; rfl
  have haddress : s'.device.address = s.device.address := by rw [h.eq]; rfl
  refine .get_bind ?_
  rw [htoken, haddress]
  cases s.token with
  | none => exact .pure h _
  | some token =>
    refine .bind ⟨rfl, h.token none⟩ fun _ t t' h ↦ ?_
    exact .bind (.discard (pared_perform _ h)) fun _ _ _ h ↦ h.report rfl

theorem pared_disconnect (h : Paired own s s') :
    Alongside (Paired own) disconnect disconnect s s' :=
  h.get_bind rfl (.bind (h.report rfl) fun _ _ _ h ↦ .discard (pared_perform _ h))

theorem pared_announce (path uuid : String) (flags : PropertyFlags) (h : Paired own s s') :
    Alongside (Paired own) (announce path uuid flags) (announce path uuid flags) s s' := by
  have hdevice : s'.device = s.device.pared own := by
    rw [h.eq]
    rfl
  have hannounce : s'.device.announce path uuid flags
      = ((s.device.announce path uuid flags).1.pared own,
        (s.device.announce path uuid flags).2) := by
    rw [hdevice, Device.announce_pared]
  constructor
  · rw [answers_announce, answers_announce, hannounce]
  · have hpath := Device.path_announce s.device path uuid flags
    have hnotices := Device.pared_notices_announce own s.device path uuid flags
    rw [leaves_announce, leaves_announce, hannounce]
    generalize s.device.announce path uuid flags = result at hpath hnotices ⊢
    refine h.changing .caller (hpath.trans h.path) rfl hnotices.symm ?_
    rw [List.map_map]
    rfl

theorem pared_connectAnswer (owner : String) (budget : Value) (elapsed : Number)
    (answer : Except Failure Value) (h : Paired own s s') :
    Alongside (Paired own) (connectAnswer owner budget elapsed answer)
      (connectAnswer owner budget elapsed answer) s s' := by
  unfold connectAnswer
  split
  · exact .bind (.ofExcept h _) fun _ _ _ h ↦ .pure h _
  · refine .ite (.bind (h.report rfl) fun _ _ _ h ↦ .pure h _) (.ite ?_ (.throw h _))
    exact .bind (h.report rfl) fun _ _ _ h ↦ .throw h _
  · exact .throw h _
  · exact .throw h _

theorem pared_requestConnection (elapsed : Number) (h : Paired own s s') :
    Alongside (Paired own) (requestConnection elapsed) (requestConnection elapsed) s s' := by
  refine h.get_bind rfl (.bind (h.report rfl) fun _ t t' h ↦ ?_)
  refine .bind (.attempt (pared_perform _ h)) fun answer t t' h ↦ ?_
  exact pared_connectAnswer _ _ _ answer h

theorem pared_requestServices (first last : Int) (h : Paired own s s') :
    Alongside (Paired own) (requestServices first last) (requestServices first last) s s' :=
  h.get_bind rfl (.bind (h.report rfl) fun _ _ _ h ↦ .pure h _)

theorem pared_carryOut_self {step : Step} (hstep : ∀ batch, step ≠ .receive batch)
    (h : Paired own s s') : Alongside (Paired own) (carryOut step) (carryOut step) s s' := by
  cases step with
  | address => exact h.get_bind rfl (.pure h _)
  | path => exact h.get_bind rfl (.pure h _)
  | state => exact h.get_bind rfl (.pure h _)
  | isConnected => exact h.get_bind rfl (.pure h _)
  | title => exact h.get_bind rfl (.pure h _)
  | description => exact h.get_bind rfl (.pure h _)
  | advertisement => exact h.get_bind rfl (.pure h _)
  | characteristics => exact h.get_bind rfl (.pure h _)
  | unavailable name => exact .throw h _
  | rejected failure => exact .throw h _
  | listen => exact .bind (pared_listen h) fun _ _ _ h ↦ .pure h _
  | stopListening => exact .bind (pared_stopListening h) fun _ _ _ h ↦ .pure h _
  | disconnect => exact .bind (pared_disconnect h) fun _ _ _ h ↦ .pure h _
  | announce path uuid flags => exact .bind (pared_announce _ _ _ h) fun _ _ _ h ↦ .pure h _
  | read c => exact .bind (pared_readValue c h) fun _ _ _ h ↦ .pure h _
  | write c data => exact .bind (pared_writeValue c data h) fun _ _ _ h ↦ .pure h _
  | exchange c data =>
    refine .bind (.bind (pared_writeValue c data h) fun _ _ _ h ↦ ?_) fun _ _ _ h ↦ .pure h _
    exact pared_readValue c h
  | readByType c uuid => exact .bind (pared_readByType c uuid h) fun _ _ _ h ↦ .pure h _
  | connect elapsed =>
    exact .bind (pared_spawn (pared_requestConnection elapsed) h) fun _ _ _ h ↦ .pure h _
  | discover first last =>
    exact .bind (pared_spawn (pared_requestServices first last) h) fun _ _ _ h ↦ .pure h _
  | receive batch => exact absurd rfl (hstep batch)

/-- **An operation that is left does the same.** -/
theorem pared_carryOut {step step' : Step} (hstep : step.pared? own = some step')
    (h : Paired own s s') : Alongside (Paired own) (carryOut step) (carryOut step') s s' := by
  unfold Step.pared? at hstep
  split at hstep
  · next batch =>
    split at hstep
    · next hheeds =>
      rw [← Option.some.inj hstep]
      exact .bind (h.deliver _ hheeds) fun _ _ _ h ↦ .pure h _
    · exact nomatch hstep
  · next hother =>
    rw [← Option.some.inj hstep]
    exact pared_carryOut_self hother h

/-! ## Steps -/

theorem pared_act {drive drive' : Drive σ} (hdrive : drive.pared? τ own = some drive')
    (h : Paired own s s') :
    Alongside (Paired own) drive.act drive'.act s s' := by
  cases drive with
  | device step =>
    obtain ⟨step', hstep, rfl⟩ := Option.map_eq_some_iff.mp hdrive
    exact pared_carryOut hstep h
  | transport step =>
    obtain ⟨step', hstep, rfl⟩ := Option.map_eq_some_iff.mp hdrive
    exact ParingTransport.pared_carryOutOwn hstep h
  | deadline id =>
    obtain rfl := Option.some.inj hdrive
    exact .bind (h.reachDeadline id) fun _ _ _ h ↦ .pure h _

/-- **What is left out does nothing that counts.** -/
theorem pared_act_nothing {drive : Drive σ} (hdrive : drive.pared? τ own = none)
    (hkeys : ∀ batch, drive = .device (.receive batch) → batch.HasTextKeys)
    (h : Paired own s s') : Paired own (drive.act.leaves s) s' := by
  cases drive with
  | transport step =>
    exact ParingTransport.pared_carryOutOwn_nothing (Option.map_eq_none_iff.mp hdrive) h
  | device step =>
    have hstep := Option.map_eq_none_iff.mp hdrive
    unfold Step.pared? at hstep
    split at hstep
    · next batch =>
      split at hstep
      · exact nomatch hstep
      · next hheeds =>
        have hleaves : (Drive.device (.receive batch) : Drive σ).act.leaves s
            = (Act.deliver .caller batch).leaves s := Act.leaves_return ..
        rw [hleaves]
        exact (h.deliver_nothing _ (Bool.eq_false_iff.mpr hheeds) (hkeys batch rfl)).leaves
    · exact nomatch hstep
  | deadline id => exact nomatch hdrive

/-! ## Between steps -/

variable [EvenTransport τ]

/-- Whatever script is loaded next, the second session is the pared one, if it gets the pared
script. -/
structure Level (own : String) (s s' : Session τ) : Prop where
  path : s.device.path = own
  loading : ∀ replies : List ρ,
    s'.loading (replies.map (ParingTransport.paredReply τ own))
      = (s.loading replies).pared own (ParingTransport.paredReply τ own)

omit [EvenTransport τ] in
theorem Level.paired (h : Level own s s') {replies : List ρ}
    (hkeys : ∀ reply ∈ replies, ∀ batch ∈ ScriptedTransport.batches τ reply, batch.HasTextKeys) :
    Paired own (s.loading replies)
      (s'.loading (replies.map (ParingTransport.paredReply τ own))) := by
  refine ⟨h.path, ?_, h.loading replies⟩
  change ∀ reply ∈ ScriptedTransport.script (Transport.load replies s.transport), _
  rw [ScriptedTransport.script_load]
  exact hkeys

theorem Level.of_load (hpath : s.device.path = own) (hconfig : s'.config = s.config)
    (hdevice : s'.device = s.device.pared own) (htoken : s'.token = s.token)
    (hcall : s'.nextCall = s.nextCall)
    (hload : ∀ replies : List ρ,
      Transport.load replies s'.transport = Transport.load replies s.transport) :
    Level own s s' := by
  refine ⟨hpath, fun replies ↦ ?_⟩
  simp only [Session.loading, pared, ScriptedTransport.script_load, EvenTransport.load_load,
    hconfig, hdevice, htoken, hcall, hload, List.filterMap_nil]

theorem Level.of_paired (h : Paired own s s') : Level own s s' := by
  obtain ⟨hpath, -, rfl⟩ := h
  exact .of_load hpath rfl rfl rfl rfl fun replies ↦ EvenTransport.load_load ..

theorem Level.of_paired_loading {replies : List ρ} (h : Paired own s (s'.loading replies)) :
    Level own s s' := by
  have hlevel := Level.of_paired h
  refine ⟨h.path, fun more ↦ ?_⟩
  rw [← hlevel.loading more]
  simp only [Session.loading, EvenTransport.load_load]

theorem level_start (transport : τ) (path : Option String) (address : String) (config : Setup) :
    let s := start transport path address config
    Level s.device.path s s := by
  intro s
  exact .of_load rfl rfl rfl rfl rfl fun _ ↦ rfl

/-- **A step that is left does the same.** -/
theorem Level.advance (h : Level own s s') {replies : List ρ} {drive drive' : Drive σ}
    (hkeys : HasTextKeys τ (replies, drive)) (hdrive : drive.pared? τ own = some drive') :
    let next := s.advance replies drive
    let next' := s'.advance (replies.map (ParingTransport.paredReply τ own)) drive'
    Level own next.1 next'.1 ∧ next'.2 = next.2.pared own := by
  intro next next'
  obtain ⟨hanswers, hpaired⟩ := pared_act hdrive (h.paired hkeys.replies)
  have hnext : next.1 = drive.act.leaves (s.loading replies) := by
    simp only [next, advance_eq]
  have hnext' : next'.1 = drive'.act.leaves
      (s'.loading (replies.map (ParingTransport.paredReply τ own))) := by
    simp only [next', advance_eq]
  refine ⟨?_, ?_⟩
  · rw [hnext, hnext']
    exact .of_paired hpaired
  · simp only [next, next', advance_eq, hanswers, hpaired.eq]
    rfl

/-- **A step that is left out** does nothing that counts. -/
theorem Level.advance_nothing (h : Level own s s') {replies : List ρ} {drive : Drive σ}
    (hkeys : HasTextKeys τ (replies, drive)) (hdrive : drive.pared? τ own = none) :
    Level own (s.advance replies drive).1 s' ∧
      (s.advance replies drive).2.trace.filterMap (Event.pared? own) = [] := by
  have hpaired := pared_act_nothing hdrive hkeys.given (h.paired hkeys.replies)
  rw [advance_eq]
  refine ⟨.of_paired_loading hpaired, ?_⟩
  exact (congrArg Session.trace hpaired.eq).symm

/-! ## Runs -/

@[simp] theorem Report.happenings_pared (own : String) (r : Report) :
    (r.pared own).happenings = r.happenings.map (Happening.pared own) :=
  filterMap_happening?_pared own r.trace

/-- **A run and what is left of it.** -/
theorem Level.run {drives : List (List ρ × Drive σ)} (h : Level own s s')
    (hkeys : ∀ drive ∈ drives, HasTextKeys τ drive) :
    let ran := s.run drives
    let pared := s'.run (paredRun τ own drives)
    Level own ran.1 pared.1 ∧ pared.2 = ran.2.filterMap (LogEntry.pared? τ own) ∧
      history pared.2 = (history ran.2).map (Happening.pared own) := by
  induction drives generalizing s s' with
  | nil => exact ⟨h, rfl, rfl⟩
  | cons head drives ih =>
    obtain ⟨replies, drive⟩ := head
    obtain ⟨hhead, hrest⟩ := List.forall_mem_cons.mp hkeys
    dsimp only
    cases hdrive : drive.pared? τ own with
    | some drive' =>
      -- Both runs take a step.
      obtain ⟨hnext, hreport⟩ := h.advance hhead hdrive
      obtain ⟨hlast, hlog, hhistory⟩ := ih hnext hrest
      have hrun : paredRun τ own ((replies, drive) :: drives)
          = (replies.map (ParingTransport.paredReply τ own), drive') :: paredRun τ own drives := by
        rw [paredRun, List.filterMap_cons, hdrive]
        rfl
      have hentry : LogEntry.pared? τ own ⟨drive, (s.advance replies drive).2⟩
          = some ⟨drive', (s.advance replies drive).2.pared own⟩ := by
        rw [LogEntry.pared?, hdrive]
        rfl
      rw [hrun, history_run_cons, history_run_cons, run_cons, run_cons, hreport,
        Report.happenings_pared, hhistory, List.map_append]
      refine ⟨hlast, ?_, rfl⟩
      rw [List.filterMap_cons, hentry]
      exact congrArg (_ :: ·) hlog
    | none =>
      -- The pared run waits, and its next script is loaded only with the next step that is left.
      obtain ⟨hnext, htrace⟩ := h.advance_nothing hhead hdrive
      obtain ⟨hlast, hlog, hhistory⟩ := ih hnext hrest
      have hrun : paredRun τ own ((replies, drive) :: drives) = paredRun τ own drives := by
        rw [paredRun, List.filterMap_cons, hdrive]
        rfl
      have hentry : LogEntry.pared? τ own ⟨drive, (s.advance replies drive).2⟩ = none := by
        rw [LogEntry.pared?, hdrive]
        rfl
      have hnothing : (s.advance replies drive).2.happenings.map (Happening.pared own) = [] := by
        rw [← Report.happenings_pared, Report.happenings, Report.pared, htrace]
        rfl
      rw [hrun, history_run_cons, run_cons, List.map_append, hnothing]
      refine ⟨hlast, ?_, hhistory⟩
      rw [List.filterMap_cons, hentry]
      exact hlog

/-! ## The log -/

/-- What a batch leaves in the log because it is disregarded, or because it says that something is
invalid: one notice. -/
structure NotedOnce (t : Session τ) (author : Author) (batch : Batch) : Prop where
  /-- A batch for another device is an error. -/
  foreign : ObjectPath.isWithin batch.path t.device.path = false →
    let n := Notice.foreignBatch t.device.address batch.path t.device.path
    (Act.deliver author batch).leaves t = { t with trace := t.trace ++ [.notice author n] } ∧
      n.level = .error
  /-- A batch about an attribute is a warning, which names the changed properties. -/
  onAttribute : ObjectPath.isWithin batch.path t.device.path = true →
    (Handle.ofPath batch.path).isOk = true → ∃ names, names.Perm (batch.changes.map (·.1)) ∧
      let n := Notice.attributeBatch t.device.address batch.path names
      (Act.deliver author batch).leaves t = { t with trace := t.trace ++ [.notice author n] } ∧
        n.level = .warning
  /-- Invalid names in a batch for the device are a warning beside what else comes of it. -/
  invalid : Device.heeds t.device.path batch.path = true → batch.invalidated ≠ [] →
    let n := Notice.invalidated t.device.address batch.invalidated
    let told := (Act.deliver author batch).leaves t
    let told' := (Act.deliver author batch.pared).leaves t
    ∃ before after, told'.trace = before ++ after ∧
      told = { told' with trace := before ++ .notice author n :: after } ∧ n.level = .warning

omit [OperatedTransport τ ρ σ] [ScriptedTransport τ] [ParingTransport τ] [EvenTransport τ] in
/-- **What a disregarded batch leaves in the log** is one notice. -/
theorem notedOnce (t : Session τ) (author : Author) {batch : Batch} (h : batch.HasTextKeys) :
    NotedOnce t author batch := by
  constructor
  · intro hwithin n
    have hreceive : t.device.receive batch = .ok (t.device, ⟨[n], []⟩) := by
      rw [Device.receive, Device.subject, hwithin]
      rfl
    rw [leaves_deliver hreceive]
    refine ⟨?_, rfl⟩
    simp only [Session.changing, List.map_cons, List.map_nil, List.append_nil]
  · intro hwithin hattribute
    obtain ⟨names, hnames, hperm⟩ := Value.exists_sortKeys h
    have hsubject : t.device.subject batch.path = .attribute := by
      rw [Device.subject, hwithin]
      cases hpath : Handle.ofPath batch.path with
      | ok handle => rfl
      | error failure =>
        rw [hpath] at hattribute
        contradiction
    have hreceive : t.device.receive batch
        = .ok (t.device, ⟨[.attributeBatch t.device.address batch.path names], []⟩) := by
      rw [Device.receive, hsubject]
      simp only [hnames, Except.map]
    refine ⟨names, hperm, ?_, rfl⟩
    rw [leaves_deliver hreceive]
    simp only [Session.changing, List.map_cons, List.map_nil, List.append_nil]
  · intro hheeds hinvalidated n told told'
    have hsubject := Device.subject_eq_device_iff.mpr hheeds
    have hsubject' : t.device.subject batch.pared.path = .device := hsubject
    let next := t.device.update batch.changes
    have hreceive : t.device.receive batch
        = .ok (next.1, ⟨next.2.notices ++ [n], next.2.course⟩) := by
      have hnonempty : batch.invalidated.isEmpty = false := by
        rw [List.isEmpty_eq_false_iff]
        exact hinvalidated
      rw [Device.receive, hsubject]
      simp only [hnonempty]
      rfl
    have hreceive' : t.device.receive batch.pared
        = .ok (next.1, ⟨next.2.notices ++ [], next.2.course⟩) := by
      rw [Device.receive, hsubject']
      rfl
    refine ⟨t.trace ++ next.2.notices.map (Event.notice author),
      next.2.course.map Event.happening, ?_, ?_, rfl⟩
    · simp only [told', leaves_deliver hreceive', Session.changing, List.append_nil]
    · simp only [told, told', leaves_deliver hreceive, leaves_deliver hreceive', Session.changing,
        List.map_append, List.map_cons, List.map_nil, List.append_assoc, List.cons_append,
        List.nil_append]

/-- **Batches that a device disregards change nothing.** Take any run of a session, over either
transport, in which the names of changed properties are texts; and take the same run without the
batches for other devices, without the batches about attributes, and with no name invalid in any
batch, be they given directly, with replies, or by signals. Then the advertised properties, the
connection state, the announcements and the published characteristics are the same, the same calls
wait, and the same calls ended in the same way. The logs are the same step by step, but for notices
about what was disregarded, and for what others than the device were told of it: each batch for
another device is one error, each batch about an attribute is one warning, and so are the invalid
names of a batch for the device. -/
theorem disregarded_batches_change_nothing (transport : τ) (path : Option String)
    (address : String) (config : Setup) (drives : List (List ρ × Drive σ))
    (hkeys : ∀ drive ∈ drives, HasTextKeys τ drive) :
    let s := start transport path address config
    let own := s.device.path
    let ran := s.run drives
    let pared := s.run (paredRun τ own drives)
    (pared.1.device.advertisement = ran.1.device.advertisement ∧
      pared.1.device.state = ran.1.device.state ∧
      pared.1.device.attributes = ran.1.device.attributes ∧
      pared.1.waitingCalls = ran.1.waitingCalls ∧
      endings (history pared.2) = endings (history ran.2)) ∧
    pared.2 = ran.2.filterMap (LogEntry.pared? τ own) ∧
    ∀ (t : Session τ) (author : Author) (batch : Batch), batch.HasTextKeys →
      NotedOnce t author batch := by
  intro s own ran pared
  obtain ⟨hlast, hlog, hhistory⟩ := (level_start transport path address config).run hkeys
  have hdevice : pared.1.device = ran.1.device.pared own :=
    congrArg Session.device (hlast.loading [])
  refine ⟨⟨?_, ?_, ?_, ?_, ?_⟩, hlog, fun t author batch h ↦ notedOnce t author h⟩
  · rw [hdevice]
    rfl
  · rw [hdevice]
    rfl
  · rw [hdevice]
    rfl
  · rw [waitingCalls, waitingCalls, hdevice]
    exact List.map_map
  · exact (congrArg endings hhistory).trans (endings_map_pared own _)

/-- A call to connect, a batch about an attribute, and a batch for the device. While the transport
answers the call, a batch for another device comes. -/
def overheard : List (List DirectReply × Drive Empty) := [
  ([⟨[⟨"/other", [("Connected", .bool true)], []⟩], .value none⟩], .device (.connect (.int 0))),
  ([], .device (.receive ⟨"/dev/service0001/char0002", [("Value", .bytes [1])], []⟩)),
  ([], .device (.receive ⟨"/dev", [("Connected", .bool true)], ["RSSI"]⟩))]

/-- The call waits until the batch for the device comes; the others can be left out. -/
theorem overheard_batches_do_not_matter :
    let s : Session DirectSink := start ⟨[]⟩ (some "/dev") "" (.standard 64)
    (paredRun DirectSink "/dev" overheard).length = 2 ∧
      (s.run overheard).1.device.state = .connected ∧
      endings (history (s.run overheard).2) = [(0, .ok .nothing)] := by
  have hkeys : ∀ drive ∈ overheard, HasTextKeys DirectSink drive := by
    simp only [overheard, List.forall_mem_cons]
    refine ⟨⟨?_, nofun⟩, ⟨nofun, ?_⟩, ⟨nofun, ?_⟩, nofun⟩
    · simp [ScriptedTransport.batches, Batch.HasTextKeys]
    · simp [Batch.HasTextKeys]
    · simp [Batch.HasTextKeys]
  obtain ⟨⟨-, hstate, -, -, hends⟩, -⟩ := disregarded_batches_change_nothing (⟨[]⟩ : DirectSink)
    (some "/dev") "" (.standard 64) overheard hkeys
  exact ⟨rfl, hstate.symm.trans rfl, hends.symm.trans rfl⟩

end Session

end GattPeer
