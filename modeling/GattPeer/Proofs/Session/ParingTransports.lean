import GattPeer.Proofs.Device.Wrapped
import GattPeer.Proofs.Session.Paring

/-!
# Transports that pare

Both transports do the same in a session and in the pared one. The direct transport delivers the
batches of a reply one by one, and those that the device disregards are left out. The link to the
bus hands them on as signals, about which others may be told beside the device; a signal is left out
with all that is told about it.
-/

namespace GattPeer

open Session Act

/-! ## The direct transport -/

def DirectReply.pared (own : String) (reply : DirectReply) : DirectReply :=
  { reply with during := Batch.paredAll own reply.during }

namespace DirectSink

abbrev Paired (own : String) : Session DirectSink → Session DirectSink → Prop :=
  Pared own (DirectReply.pared own)

variable {own : String} {s s' : Session DirectSink}

theorem pared_nextReply_bind {α : Type} {f g : DirectReply → Act DirectSink α}
    (h : Paired own s s')
    (hf : ∀ reply t t', (∀ batch ∈ reply.during, batch.HasTextKeys) →
      Paired own t t' →
      Alongside (Paired own) (f reply) (g (reply.pared own)) t t') :
    Alongside (Paired own) (nextReply >>= f) (nextReply >>= g) s s' := by
  obtain ⟨hpath, hlegible, rfl⟩ := h
  obtain ⟨config, device, token, ⟨replies⟩, nextCall, trace⟩ := s
  cases replies with
  | nil =>
    have hsides := hf usualReply ⟨config, device, token, ⟨[]⟩, nextCall, trace⟩ _ nofun
      ⟨hpath, hlegible, rfl⟩
    exact ⟨hsides.answers, hsides.leaves⟩
  | cons reply replies =>
    obtain ⟨hnext, hrest⟩ := List.forall_mem_cons.mp hlegible
    have hsides := hf reply ⟨config, device, token, ⟨replies⟩, nextCall, trace⟩ _ hnext
      ⟨hpath, hrest, rfl⟩
    exact ⟨hsides.answers, hsides.leaves⟩

theorem pared_perform (command : Command) (h : Paired own s s') :
    Alongside (Paired own) (perform command) (perform command) s s' := by
  refine .bind (h.record rfl) fun _ t t' h ↦ pared_nextReply_bind h fun reply t t' hkeys h ↦ ?_
  refine .bind (.forM_filter h (fun batch _ hheeds t t' h ↦ h.deliver _ hheeds)
    fun batch hbatch hheeds t t' h ↦ h.deliver_nothing _ hheeds (hkeys batch hbatch)) ?_
  intro _ t t' h
  rcases reply with ⟨during, answer⟩
  cases answer with
  | value v => exact .pure h _
  | failure f => exact .throw h f

instance : ParingTransport DirectSink where
  paredReply := DirectReply.pared
  paredOwn? _ step := nomatch step
  pared_perform command _ _ h := pared_perform command h
  pared_carryOutOwn {_ step} := nomatch step
  pared_carryOutOwn_nothing {_ step} := nomatch step

end DirectSink

/-! ## The link to the bus -/

def BusReply.pared (own : String) (reply : BusReply) : BusReply :=
  { reply with during := Batch.paredAll own reply.during }

namespace Device

variable {own : String} {d : Device} {batch : Batch}

theorem reaction_pared (hheeds : heeds d.path batch.path = true) :
    (d.pared own).reaction batch.pared = ((d.reaction batch).1.pared own,
      (d.reaction batch).2.filterMap (Event.pared? own)) := by
  rw [reaction, reaction, receive_pared own hheeds]
  cases hreceive : d.receive batch with
  | error failure =>
    exact absurd (subject_eq_device_iff.mpr hheeds) (subject_ne_of_receive_eq_error hreceive)
  | ok result =>
    obtain ⟨next, effects⟩ := result
    simp only [Except.map, paredWith, Effects.pared, List.filterMap_append,
      filterMap_pared?_notices, filterMap_pared?_course]

theorem reaction_of_not_heeds (hpath : d.path = own) (hheeds : heeds own batch.path = false) :
    (d.reaction batch).1 = d ∧ (d.reaction batch).2.filterMap (Event.pared? own) = [] := by
  rw [reaction]
  rcases receive_of_not_heeds own (hpath.symm ▸ hheeds) with
    ⟨n, hreceive, hn⟩ | ⟨-, failure, hreceive⟩
  · rw [hreceive]
    simp [Event.pared?, hn]
  · rw [hreceive]
    simp [Event.pared?, Notice.disregards, hheeds]

end Device

namespace Listener

variable {own : String} {d : Device} {batch : Batch}

theorem toldAll_pared (listeners : List Listener) (hpath : d.path = own)
    (hheeds : Device.heeds own batch.path = true) :
    toldAll batch.pared (d.pared own) listeners = ((toldAll batch d listeners).1.pared own,
      (toldAll batch d listeners).2.filterMap (Event.pared? own)) := by
  induction listeners generalizing d with
  | nil => rfl
  | cons listener listeners ih =>
    have htold : listener.told batch.pared (d.pared own) = ((listener.told batch d).1.pared own,
        (listener.told batch d).2.filterMap (Event.pared? own)) := by
      cases listener with
      | device => exact Device.reaction_pared (hpath.symm ▸ hheeds)
      | callback name failure =>
        cases failure <;>
          simp [told, Event.pared?, hheeds, Notice.disregards, Batch.pared]
    rw [toldAll_cons, toldAll_cons, htold]
    rw [ih ((path_told listener batch d).trans hpath), List.filterMap_append]

theorem toldAll_of_not_heeds (listeners : List Listener) (hpath : d.path = own)
    (hheeds : Device.heeds own batch.path = false) :
    (toldAll batch d listeners).1 = d ∧
      (toldAll batch d listeners).2.filterMap (Event.pared? own) = [] := by
  induction listeners with
  | nil => exact ⟨rfl, rfl⟩
  | cons listener listeners ih =>
    have htold : (listener.told batch d).1 = d ∧
        (listener.told batch d).2.filterMap (Event.pared? own) = [] := by
      cases listener with
      | device => exact Device.reaction_of_not_heeds hpath hheeds
      | callback name failure =>
        cases failure <;> simp [told, Event.pared?, hheeds, Notice.disregards]
    rw [toldAll_cons, htold.1, List.filterMap_append, htold.2]
    exact ih

end Listener

namespace BusLink

abbrev Paired (own : String) : Session BusLink → Session BusLink → Prop :=
  Pared own (BusReply.pared own)

variable {own : String} {s s' : Session BusLink}

/-! ### Messages -/

/-- A signal that says nothing is invalid. -/
def withoutInvalid (m : Message) : Message :=
  { m with body := match items? m.body with
    | some [first, changed, _] => .list [first, changed, .list []]
    | _ => m.body }

/-- What is left of a message: nothing, if it carries a batch that the device disregards. -/
def paredMessage? (own : String) (m : Message) : Option Message :=
  match carried? m with
  | none => some m
  | some batch => if Device.heeds own batch.path then some (withoutInvalid m) else none

theorem carried?_withoutInvalid {m : Message} {b : Batch} (h : carried? m = some b) :
    carried? (withoutInvalid m) = some b.pared := by
  obtain ⟨hsignal, changed, invalidated, hparts, hbatch⟩ := parts_of_carried h
  have hbody : ∃ first, items? m.body = some [first, changed, invalidated] := by
    unfold parts? at hparts
    split at hparts
    · next first changed' invalidated' hitems =>
      obtain ⟨rfl, rfl⟩ := Prod.mk.inj (Option.some.inj hparts)
      exact ⟨first, hitems⟩
    · exact nomatch hparts
  obtain ⟨first, hitems⟩ := hbody
  have hpared : batch m.path changed (.list []) = .ok b.pared := by
    unfold batch at hbatch ⊢
    split at hbatch
    · split at hbatch
      · obtain ⟨changes, hchanges, hbatch⟩ := FallibleSort.bind_eq_ok.mp hbatch
        rw [← Except.ok.inj hbatch]
        simp only [hchanges]
        rfl
      · exact nomatch hbatch
    · split at hbatch
      · obtain ⟨changes, -, hbatch⟩ := FallibleSort.bind_eq_ok.mp hbatch
        exact nomatch hbatch
      · exact nomatch hbatch
  have hmessage : withoutInvalid m = { m with body := .list [first, changed, .list []] } := by
    rw [withoutInvalid, hitems]
  have hsignal' : isPropertySignal (withoutInvalid m) = true := hmessage ▸ hsignal
  rw [carried?, if_pos hsignal', hmessage]
  change (batch m.path changed (.list [])).toOption = _
  rw [hpared]
  rfl

theorem exists_carried?_signalOf {b : Batch} (h : b.HasTextKeys) :
    ∃ told, carried? (signalOf b) = some told ∧ told.path = b.path := by
  have hkeys : ∀ e ∈ b.changes, e.1.keyObstacle? = none := fun e he ↦ by
    obtain ⟨text, htext⟩ := h e.1 (List.mem_map_of_mem he)
    rw [htext]
    rfl
  obtain ⟨stored, hstored⟩ := Value.exists_storeEntries_iff.mpr hkeys
  have hcarried : carried? (signalOf b) = some ⟨b.path, stored, b.invalidated⟩ := by
    change (batch b.path (.map b.changes) (.list b.invalidated)).toOption = _
    unfold batch
    simp only [Value.entries?, hstored]
    rfl
  exact ⟨_, hcarried, rfl⟩

/-- **A message that is left does the same on both sides.** -/
theorem pared_handle (h : Paired own s s') {m m' : Message}
    (hm : paredMessage? own m = some m') :
    Alongside (Paired own) (handle m) (handle m') s s' := by
  unfold paredMessage? at hm
  split at hm
  · next hcarried =>
    obtain rfl := Option.some.inj hm
    -- Nobody is told of a message that carries no batch.
    unfold handle
    split
    · next hsignal =>
      rw [carried?, if_pos hsignal] at hcarried
      split
      · exact h.record rfl
      · next changed invalidated hparts =>
        rw [hparts, Option.bind_some] at hcarried
        cases hread : batch m.path changed invalidated with
        | ok b =>
          rw [hread] at hcarried
          contradiction
        | error failure => exact .throw_bind h failure
    · exact .pure h _
  · next b hcarried =>
    split at hm
    · next hheeds =>
      obtain rfl := Option.some.inj hm
      have htold := Listener.toldAll_pared (s.transport.listeners m.path) h.path hheeds
      have hhandle := handle_of_carried hcarried s
      have hhandle' := handle_of_carried (carried?_withoutInvalid hcarried) s'
      -- The message is left without what is invalid, so the two sides handle different messages.
      obtain ⟨hpath, hlegible, rfl⟩ := h
      constructor
      · rw [Act.answers, Act.answers, hhandle, hhandle']
      · rw [Act.leaves, Act.leaves, hhandle, hhandle']
        refine ⟨(Listener.path_toldAll ..).trans hpath, hlegible, ?_⟩
        have hlisteners : ((s.pared own (BusReply.pared own)).transport.listeners
            (withoutInvalid m).path) = s.transport.listeners m.path := rfl
        have hdevice : (s.pared own (BusReply.pared own)).device = s.device.pared own := rfl
        rw [telling, telling, hlisteners, hdevice, htold]
        simp only [pared, List.filterMap_append]
    · contradiction

theorem pared_handle_nothing (h : Paired own s s') {m : Message}
    (hm : paredMessage? own m = none) :
    Alongside (Paired own) (handle m) (pure ⟨⟩) s s' := by
  unfold paredMessage? at hm
  split at hm
  · exact nomatch hm
  · next b hcarried =>
    split at hm
    · exact nomatch hm
    · next hheeds =>
      obtain ⟨hdevice, hevents⟩ := Listener.toldAll_of_not_heeds
        (s.transport.listeners m.path) h.path (Bool.eq_false_iff.mpr hheeds)
      have hhandle := handle_of_carried hcarried s
      constructor
      · have hanswers : (handle m).answers s = .ok ⟨⟩ := by rw [Act.answers, hhandle]
        exact hanswers.symm
      · rw [Act.leaves, hhandle]
        have hsame : s' = { s' with trace := s'.trace ++ [] } := by rw [List.append_nil]
        change Paired own _ s'
        rw [hsame, telling, hdevice]
        exact h.trace hevents

/-! ### Method calls -/

theorem pared_current_bind {α : Type} {f : BusLink → Act BusLink α}
    (h : Paired own s s')
    (hsame : ∀ link replies, f { link with replies := replies } = f link)
    (hf : ∀ link, Alongside (Paired own) (f link) (f link) s s') :
    Alongside (Paired own) (current >>= f) (current >>= f) s s' := by
  have hlink : f s'.transport = f s.transport := by
    rw [h.eq]
    exact hsame ..
  refine .get_bind ?_
  rw [hlink]
  exact hf _

theorem pared_change {f : BusLink → BusLink} (h : Paired own s s')
    (hreplies : ∀ link, (f link).replies = link.replies)
    (hsame : ∀ link replies, f { link with replies := replies }
      = { f link with replies := replies }) :
    Alongside (Paired own) (change f) (change f) s s' := by
  obtain ⟨hpath, hlegible, rfl⟩ := h
  refine .modify ⟨hpath, ?_, ?_⟩
  · change ∀ reply ∈ (f s.transport).replies, _
    rw [hreplies]
    exact hlegible
  · have hlink : f { s.transport with replies := s.transport.replies.map (BusReply.pared own) }
        = { f s.transport with replies := (f s.transport).replies.map (BusReply.pared own) } := by
      rw [hsame, hreplies]
    exact congrArg (fun link ↦ { s.pared own (BusReply.pared own) with transport := link }) hlink

theorem pared_nextReply_bind {α : Type} {f g : BusReply → Act BusLink α}
    (h : Paired own s s')
    (hf : ∀ reply t t', (∀ batch ∈ reply.during, batch.HasTextKeys) →
      Paired own t t' →
      Alongside (Paired own) (f reply) (g (reply.pared own)) t t') :
    Alongside (Paired own) (nextReply >>= f) (nextReply >>= g) s s' := by
  obtain ⟨hpath, hlegible, rfl⟩ := h
  obtain ⟨config, device, token, ⟨limit, running, busOpen, table, nextToken, replies⟩, nextCall,
    trace⟩ := s
  cases replies with
  | nil =>
    have hsides := hf usualReply ⟨config, device, token, ⟨limit, running, busOpen, table, nextToken,
      []⟩, nextCall, trace⟩ _ nofun ⟨hpath, hlegible, rfl⟩
    exact ⟨hsides.answers, hsides.leaves⟩
  | cons reply replies =>
    obtain ⟨hnext, hrest⟩ := List.forall_mem_cons.mp hlegible
    have hsides := hf reply ⟨config, device, token, ⟨limit, running, busOpen, table, nextToken,
      replies⟩, nextCall, trace⟩ _ hnext ⟨hpath, hrest, rfl⟩
    exact ⟨hsides.answers, hsides.leaves⟩

/-- **Method calls do the same.** -/
theorem pared_call (m : MethodCall) (timeout : Value)
    (h : Paired own s s') :
    Alongside (Paired own) (call m timeout) (call m timeout) s s' := by
  -- The batches of the reply become signals, of which the pared reply has those that are heeded.
  have hanswer (limit : Value) (reply : BusReply)
      (hkeys : ∀ batch ∈ reply.during, batch.HasTextKeys) {t t' : Session BusLink}
      (h : Paired own t t') :
      Alongside (Paired own) (do
        reply.during.forM fun batch ↦ handle (signalOf batch)
        Act.ofExcept (results limit reply.answer)) (do
        (reply.pared own).during.forM fun batch ↦ handle (signalOf batch)
        Act.ofExcept (results limit reply.answer)) t t' := by
    refine .bind (.forM_filter h (fun batch hbatch hheeds t t' h ↦ ?_)
      fun batch hbatch hheeds t t' h ↦ ?_) fun _ t t' h ↦ .ofExcept h _
    · obtain ⟨told, hcarried, hpath⟩ := exists_carried?_signalOf (hkeys batch hbatch)
      refine pared_handle h ?_
      simp only [paredMessage?, hcarried, hpath, hheeds]
      rfl
    · obtain ⟨told, hcarried, hpath⟩ := exists_carried?_signalOf (hkeys batch hbatch)
      refine pared_handle_nothing h ?_
      simp only [paredMessage?, hcarried, hpath, hheeds]
      rfl
  refine pared_current_bind h (fun _ _ ↦ rfl) fun link ↦ .bind (h.report rfl) fun _ t t' h ↦ ?_
  refine .ite (.throw_bind h _) ?_
  generalize limitFailure? (link.limitOf timeout) = failure?
  cases failure? with
  | some failure =>
    exact .ite (.bind (h.record rfl) fun _ _ _ h ↦ .throw_bind h _) (.throw_bind h _)
  | none =>
    refine .ite (.throw_bind h _) (pared_nextReply_bind h fun reply t t' hkeys h ↦ ?_)
    have hleaving : (leaving m reply.answer).pared? own = some (leaving m reply.answer) := by
      cases reply.answer <;> rfl
    exact .bind (h.record hleaving) fun _ t t' h ↦ hanswer _ reply hkeys h

theorem pared_addMatch (path : String) (listener : Listener)
    (h : Paired own s s') :
    Alongside (Paired own) (addMatch path listener) (addMatch path listener)
      s s' := by
  refine pared_current_bind h (fun _ _ ↦ rfl) fun link ↦
    .bind (pared_change h (fun _ ↦ rfl) fun _ _ ↦ rfl) fun _ t t' h ↦ ?_
  refine .bind (.attempt (pared_call _ _ h)) fun answer t t' h ↦ ?_
  cases answer with
  | error failure =>
    exact .bind (pared_change h (fun _ ↦ rfl) fun _ _ ↦ rfl) fun _ _ _ h ↦ .throw h _
  | ok _ => exact .bind (h.report rfl) fun _ _ _ h ↦ .pure h _

theorem pared_removeMatch (token : Value) (h : Paired own s s') :
    Alongside (Paired own) (removeMatch token) (removeMatch token) s s' := by
  refine pared_current_bind h (fun _ _ ↦ rfl) fun link ↦ ?_
  have hremove (m : Match) {t t' : Session BusLink} (h : Paired own t t') :
      Alongside (Paired own) (do
        change (forget m.token)
        if link.running then
          discard <| call (ruleMethod "RemoveMatch" m.path) .none
          .report (.matchRemoved m.path)) (do
        change (forget m.token)
        if link.running then
          discard <| call (ruleMethod "RemoveMatch" m.path) .none
          .report (.matchRemoved m.path)) t t' := by
    refine .bind (pared_change h (fun _ ↦ rfl) fun _ _ ↦ rfl) fun _ t t' h ↦ .ite ?_ (.pure h _)
    exact .bind (.discard (pared_call _ _ h)) fun _ _ _ h ↦ h.report rfl
  refine .ite (.bind (.ofExcept h _) fun _ t t' h ↦ ?_) ?_
  all_goals
    cases link.table.find? fun m ↦ token.equal (.int m.token) with
    | none => exact .pure h _
    | some m => exact hremove m h

theorem pared_stop (h : Paired own s s') :
    Alongside (Paired own) stop stop s s' := by
  refine pared_current_bind h (fun _ _ ↦ rfl) fun link ↦
    .bind (pared_change h (fun _ ↦ rfl) fun _ _ ↦ rfl) fun _ t t' h ↦ .ite ?_ (.pure h _)
  refine .ite ?_ (h.report rfl)
  exact .bind (h.record rfl) fun _ _ _ h ↦ h.report rfl

theorem pared_start (hasBus : Bool) (refusal : Option Failure)
    (h : Paired own s s') :
    Alongside (Paired own) (start hasBus refusal) (start hasBus refusal)
      s s' := by
  refine pared_current_bind h (fun _ _ ↦ rfl) fun link ↦ .ite (.ite (.throw_bind h _) ?_)
    (.pure h _)
  refine .bind (pared_change h (fun _ ↦ rfl) fun _ _ ↦ rfl) fun _ t t' h ↦ ?_
  generalize limitFailure? link.callTimeout = failure?
  cases failure? with
  | some failure => exact .bind (pared_stop h) fun _ _ _ h ↦ .throw_bind h _
  | none =>
    refine .bind (h.record rfl) fun _ t t' h ↦ ?_
    cases refusal with
    | some failure => exact .bind (pared_stop h) fun _ _ _ h ↦ .throw h _
    | none =>
      refine .bind (h.record rfl) fun _ _ _ h ↦
        .bind (pared_change h (fun _ ↦ rfl) fun _ _ ↦ rfl) fun _ _ _ h ↦ ?_
      exact h.report rfl

/-! ### Commands and operations -/

theorem pared_readValue (path : String) (timeout : Value)
    (h : Paired own s s') :
    Alongside (Paired own) (readValue path timeout) (readValue path timeout)
      s s' := by
  refine .bind (pared_call _ _ h) fun results t t' h ↦ ?_
  cases results with
  | nil => exact .pure h _
  | cons value values => exact h.get_bind rfl (.ofExcept h _)

/-- **Commands do the same over the bus.** -/
theorem pared_perform (command : Command) (h : Paired own s s') :
    Alongside (Paired own) (perform command) (perform command) s s' := by
  cases command with
  | connect path timeout => exact .bind (.discard (pared_call _ _ h)) fun _ _ _ h ↦ .pure h _
  | disconnect path timeout => exact .bind (.discard (pared_call _ _ h)) fun _ _ _ h ↦ .pure h _
  | readValue path timeout => exact .bind (pared_readValue _ _ h) fun _ _ _ h ↦ .pure h _
  | writeValue path data timeout =>
    exact .bind (.discard (pared_call _ _ h)) fun _ _ _ h ↦ .pure h _
  | addMatch path => exact .bind (pared_addMatch _ _ h) fun _ _ _ h ↦ .pure h _
  | removeMatch token => exact .bind (pared_removeMatch _ h) fun _ _ _ h ↦ .pure h _

/-- What is left of an operation on the link: a message may be left out. -/
def paredStep? (own : String) : LinkStep → Option LinkStep
  | .message m => (paredMessage? own m).map .message
  | step => some step

theorem pared_carryOutLink_self {step : LinkStep} (hstep : ∀ m, step ≠ .message m)
    (h : Paired own s s') :
    Alongside (Paired own) (carryOutLink step) (carryOutLink step) s s' := by
  cases step with
  | start hasBus refusal => exact .bind (pared_start _ _ h) fun _ _ _ h ↦ .pure h _
  | enter hasBus refusal => exact .bind (pared_start _ _ h) fun _ _ _ h ↦ .pure h _
  | stop => exact .bind (pared_stop h) fun _ _ _ h ↦ .pure h _
  | isRunning => exact pared_current_bind h (fun _ _ ↦ rfl) fun _ ↦ .pure h _
  | connect path timeout => exact .bind (.discard (pared_call _ _ h)) fun _ _ _ h ↦ .pure h _
  | disconnect path timeout => exact .bind (.discard (pared_call _ _ h)) fun _ _ _ h ↦ .pure h _
  | readValue path timeout => exact .bind (pared_readValue _ _ h) fun _ _ _ h ↦ .pure h _
  | writeValue path data timeout =>
    refine h.get_bind rfl (.bind (.ofExcept h _) fun bytes _ _ h ↦ ?_)
    exact .bind (.discard (pared_call _ _ h)) fun _ _ _ h ↦ .pure h _
  | addMatch path name failure => exact .bind (pared_addMatch _ _ h) fun _ _ _ h ↦ .pure h _
  | removeMatch token => exact .bind (pared_removeMatch _ h) fun _ _ _ h ↦ .pure h _
  | message m => exact absurd rfl (hstep m)

/-- **An operation on the link that is left does the same.** -/
theorem pared_carryOutLink {step step' : LinkStep} (hstep : paredStep? own step = some step')
    (h : Paired own s s') :
    Alongside (Paired own) (carryOutLink step) (carryOutLink step') s s' := by
  unfold paredStep? at hstep
  split at hstep
  · obtain ⟨m', hm, rfl⟩ := Option.map_eq_some_iff.mp hstep
    exact .bind (pared_handle h hm) fun _ _ _ h ↦ .pure h _
  · next hother =>
    rw [← Option.some.inj hstep]
    exact pared_carryOutLink_self hother h

theorem pared_carryOutLink_nothing {step : LinkStep} (hstep : paredStep? own step = none)
    (h : Paired own s s') :
    Paired own ((carryOutLink step).leaves s) s' := by
  cases step with
  | message m =>
    have hhandle := pared_handle_nothing h (Option.map_eq_none_iff.mp hstep)
    have hleaves : (carryOutLink (.message m)).leaves s = (handle m).leaves s :=
      Act.leaves_return ..
    rw [hleaves]
    exact hhandle.leaves
  | _ => exact nomatch hstep

instance : ParingTransport BusLink where
  paredReply := BusReply.pared
  paredOwn? := paredStep?
  pared_perform command _ _ h := pared_perform command h
  pared_carryOutOwn hstep h := pared_carryOutLink hstep h
  pared_carryOutOwn_nothing hstep h := pared_carryOutLink_nothing hstep h

end BusLink

end GattPeer
