import GattPeer.Proofs.Session.Hearing

/-!
# What operations do to the matches

An operation that is for a match first changes the table, then asks the bus, and repairs the table
if the bus refuses. Each is described by what the table is while signals may arrive and by what it
is in the end, and both are what `Subscription.during` and `Subscription.after` say. Hence the
subscription of a session goes from step to step as if nothing else happened.
-/

namespace GattPeer

namespace Session

variable {s s' : Session BusLink}

/-! ## Operations that change the matches -/

def subscribed (s : Session BusLink) (t : Subscription) : Session BusLink :=
  { s with
    token := t.token
    transport := { s.transport with
      running := t.running
      table := t.table
      nextToken := t.nextToken } }

/-- How the registration of a match ends when the bus has answered. -/
def settle (path : String) (token : Nat) : Except Failure (List Value) → Act BusLink Nat
  | .error failure => do
    BusLink.change (BusLink.forget token)
    throw failure
  | .ok _ => do
    .report (.matchAdded path token)
    return token

/-- **Registering a match** succeeds while the link runs, or uses up a token. Meanwhile the match is
registered. -/
theorem addMatch_cases {place : String} (h : s.subscription.Orderly place) (path : String)
    (listener : Listener) :
    (∃ s', BusLink.addMatch path listener s = .ok s.transport.nextToken s' ∧
      s.transport.running = true ∧
      (s.subscribed (s.subscription.registering path listener)).Calm s') ∨
    ∃ failure s', BusLink.addMatch path listener s = .error failure s' ∧
      s'.subscription = s.subscription.refusing ∧
      (s.subscribed (s.subscription.registering path listener)).Attends s' := by
  let asking := s.subscribed (s.subscription.registering path listener)
  let asked := BusLink.call (BusLink.ruleMethod "AddMatch" path) .none
  have hcalm : asked.Keeps Calm asking := calm_call ..
  rw [Act.Keeps, Act.leaves] at hcalm
  have hadd : BusLink.addMatch path listener s
      = (asked.attempt >>= settle path s.transport.nextToken) asking := rfl
  rw [Act.bind_apply, Act.attempt] at hadd
  cases hasked : asked asking with
  | ok results s₁ =>
    rw [hasked] at hadd hcalm
    have hrunning : asking.transport.running = true := running_of_call hasked
    exact .inl ⟨_, hadd, hrunning, trans_of Calm hcalm (calm_report _)⟩
  | error failure s₁ =>
    rw [hasked] at hadd hcalm
    refine .inr ⟨failure, _, hadd, ?_, hcalm.attends⟩
    calc Session.subscription { s₁ with
          transport := BusLink.forget s.transport.nextToken s₁.transport }
      _ = { s₁.subscription with
          table := s₁.subscription.table.filter (·.token ≠ s.transport.nextToken) } := rfl
      _ = { asking.subscription with
          table := asking.subscription.table.filter (·.token ≠ s.transport.nextToken) } := by
        rw [hcalm.subscription]
      _ = s.subscription.refusing :=
        congrArg (fun table ↦ { s.subscription.refusing with table := table })
          (h.filter_registering ..)

/-- A match is looked for by its token and removed. -/
def search (token : Value) (link : BusLink) : Act BusLink Unit :=
  match link.table.find? fun m ↦ token.equal (.int m.token) with
  | none => return
  | some m => do
    BusLink.change (BusLink.forget m.token)
    if link.running then
      discard <| BusLink.call (BusLink.ruleMethod "RemoveMatch" m.path) .none
      .report (.matchRemoved m.path)

/-- To remove a match comes to a search, unless the token cannot be looked for. -/
theorem removeMatch_eq (token : Value) (s : Session BusLink) :
    BusLink.removeMatch token s = (do
      if !s.transport.table.isEmpty then .ofExcept token.checkKey
      search token s.transport : Act BusLink Unit) s :=
  rfl

theorem calm_search {token : Value} (htoken : token.keyObstacle? = none) (s : Session BusLink) :
    (s.subscribed (s.subscription.removing token)).Calm ((search token s.transport).leaves s) := by
  have hleft : (s.subscription.removing token).table
      = match s.transport.table.find? fun m ↦ token.equal (.int m.token) with
        | none => s.transport.table
        | some m => s.transport.table.filter (·.token ≠ m.token) := by
    rw [Subscription.removing, Subscription.left, htoken]
    rfl
  rw [subscribed, hleft, search]
  cases s.transport.table.find? fun m ↦ token.equal (.int m.token) with
  | none => exact refl_of Calm s
  | some m =>
    let removed : Session BusLink := { s with transport := BusLink.forget m.token s.transport }
    have hrest : Act.Keeps Calm (do
        if s.transport.running then
          discard <| BusLink.call (BusLink.ruleMethod "RemoveMatch" m.path) .none
          .report (.matchRemoved m.path)) removed := by
      refine .ite (.bind (.discard (calm_call ..)) fun _ _ ↦ calm_report _) (.pure _)
    exact hrest

/-- **Removing a match** is calm once the match is gone. -/
theorem calm_removeMatch (token : Value) (s : Session BusLink) :
    (s.subscribed (s.subscription.removing token)).Calm ((BusLink.removeMatch token).leaves s) := by
  rw [Act.leaves, removeMatch_eq, ← Act.leaves]
  cases htoken : token.keyObstacle? with
  | none =>
    have hkey : token.checkKey = .ok () := by rw [Value.checkKey, htoken]
    rw [hkey]
    exact Act.Keeps.ite (R := fun _ ↦ (s.subscribed (s.subscription.removing token)).Calm)
      (calm_search htoken s) (calm_search htoken s)
  | some kind =>
    have hkey : token.checkKey = .error (.notAKey kind) := by rw [Value.checkKey, htoken]
    have hleft : Subscription.left token s.transport.table = s.transport.table := by
      rw [Subscription.left, htoken]
      rfl
    have hsame : s.subscribed (s.subscription.removing token) = s := by
      change { s with transport := { s.transport with
        table := Subscription.left token s.transport.table } } = s
      rw [hleft]
    rw [hkey, hsame]
    cases hempty : s.transport.table.isEmpty with
    | false => exact refl_of Calm s
    | true =>
      -- Nothing is found in an empty table, and the token is not looked at.
      rw [search, List.isEmpty_iff.mp hempty]
      exact refl_of Calm s

/-- **Listening** registers a match, unless the device listens already. -/
theorem listen_eq (s : Session BusLink) (htoken : s.token = none) :
    (listen : Act BusLink Unit) s = match BusLink.addMatch s.device.path .device s with
      | .ok n s' => .ok () ((Act.report (.listening s.device.address)).leaves
          { s' with token := some (.int n) })
      | .error failure s' => .error failure s' := by
  unfold listen
  rw [Act.get_bind_apply, htoken]
  change ((BusLink.addMatch s.device.path .device >>= fun n ↦ pure (Value.int n)) >>= _) s = _
  rw [Act.bind_apply, Act.bind_apply]
  cases BusLink.addMatch s.device.path .device s with
  | ok n s' => rfl
  | error failure s' => rfl

/-- **Listening no longer** is calm once the token is given up and the match is gone. -/
theorem calm_stopListening {token : Value} (htoken : s.token = some token) :
    (s.subscribed { s.subscription.removing token with token := none }).Calm
      ((stopListening : Act BusLink Unit).leaves s) := by
  have hremove : (s.subscribed { s.subscription.removing token with token := none }).Calm
      ((Transport.perform (.removeMatch token) : Act BusLink Value).leaves
        { s with token := none }) :=
    Act.leaves_bind (calm_removeMatch token { s with token := none }) fun _ _ ↦ .pure _
  unfold stopListening
  rw [Act.leaves_get_bind, htoken, Act.leaves_set_bind]
  exact Act.leaves_bind (Act.leaves_bind hremove fun _ _ ↦ .pure _) fun _ _ ↦ calm_report _

/-! ## The life cycle of the link -/

def stopped (s : Session BusLink) : Session BusLink :=
  { s with transport := { s.transport with running := false, busOpen := false, table := [] } }

theorem quiet_stop (s : Session BusLink) : s.stopped.Quiet (BusLink.stop.leaves s) := by
  have hrest : Act.Keeps Quiet (do
      if s.transport.running then
        if s.transport.busOpen then .record (.sent .busClosed)
        .report .busLeft) s.stopped := by
    refine .ite (.ite ?_ (quiet_report _)) (.pure _)
    exact .bind (quiet_record rfl) fun _ _ ↦ quiet_report _
  exact hrest

theorem stop_bind_throw (failure : Failure) (s : Session BusLink) :
    (BusLink.stop >>= fun _ ↦ throw failure : Act BusLink Unit) s
      = .error failure (BusLink.stop.leaves s) := by
  have hstop : BusLink.stop s = .ok () (BusLink.stop.leaves s) := by
    have hrest : ∀ running busOpen : Bool, ∀ s' : Session BusLink,
        let rest : Act BusLink Unit := do
          if running then
            if busOpen then .record (.sent .busClosed)
            .report .busLeft
        rest s' = .ok () (rest.leaves s') := by
      intro running busOpen s'
      cases running <;> cases busOpen <;> rfl
    exact hrest s.transport.running s.transport.busOpen s.stopped
  rw [Act.bind_apply, hstop]
  rfl

/-- The connection to the bus is opened, unless there is a failure before. -/
def opening (refusal : Option Failure) (failure? : Option Failure) : Act BusLink Unit := do
  if let some failure := failure? then
    BusLink.stop
    throw failure
  .record (.sent .busOpened)
  match refusal with
  | some failure =>
    BusLink.stop
    throw failure
  | none =>
    .record (.sent .handlerInstalled)
    BusLink.change fun link ↦ { link with busOpen := true }
    .report .busReached

theorem opening_cases (refusal : Option Failure) (failure? : Option Failure)
    (s : Session BusLink) :
    (∃ s', opening refusal failure? s = .ok () s' ∧
      Quiet { s with transport := { s.transport with busOpen := true } } s') ∨
    ∃ failure s', opening refusal failure? s = .error failure s' ∧ s.stopped.Quiet s' := by
  have hopened : (Act.record (.sent .busOpened)).Keeps Quiet s := quiet_record rfl
  cases failure? with
  | some failure => exact .inr ⟨failure, _, stop_bind_throw failure s, quiet_stop s⟩
  | none =>
    cases refusal with
    | some failure =>
      refine .inr ⟨_, _, stop_bind_throw failure _, ?_⟩
      have hstopped := hopened.change fun link ↦
        { link with running := false, busOpen := false, table := [] }
      exact trans_of Quiet hstopped (quiet_stop _)
    | none =>
      have hinstalled := trans_of Quiet hopened (quiet_record (e := .sent .handlerInstalled) rfl)
      have hconnected := hinstalled.change fun link ↦ { link with busOpen := true }
      exact .inl ⟨_, rfl, trans_of Quiet hconnected (quiet_report .busReached)⟩

/-- To start a link comes to opening the connection, unless the link runs or there is no bus. -/
theorem start_eq (hasBus : Bool) (refusal : Option Failure) (s : Session BusLink) :
    BusLink.start hasBus refusal s = (do
      if !s.transport.running then
        if !hasBus then throw .wrongPlatform
        BusLink.change fun link ↦ { link with running := true }
        opening refusal (BusLink.limitFailure? s.transport.callTimeout) : Act BusLink Unit) s :=
  rfl

/-- **Starting** makes the link run. If that fails, the link did not run and does not run then. -/
theorem start_cases (hasBus : Bool) (refusal : Option Failure) (s : Session BusLink) :
    (∃ s' busOpen, BusLink.start hasBus refusal s = .ok () s' ∧
      Quiet { s with transport := { s.transport with running := true, busOpen := busOpen } } s') ∨
    ∃ failure s', BusLink.start hasBus refusal s = .error failure s' ∧
      s.transport.running = false ∧ (s' = s ∨ s.stopped.Quiet s') := by
  let running : Session BusLink := { s with transport := { s.transport with running := true } }
  have hstart := start_eq hasBus refusal s
  cases hrunning : s.transport.running with
  | true =>
    rw [hrunning] at hstart
    refine .inl ⟨s, s.transport.busOpen, hstart, rfl, ?_, rfl, rfl⟩
    rw [← hrunning]
  | false =>
    rw [hrunning] at hstart
    cases hasBus with
    | false => exact .inr ⟨_, s, hstart, rfl, .inl rfl⟩
    | true =>
      rcases opening_cases refusal (BusLink.limitFailure? s.transport.callTimeout) running with
        ⟨s', hopening, hquiet⟩ | ⟨failure, s', hopening, hquiet⟩
      · exact .inl ⟨s', true, hstart.trans hopening, hquiet⟩
      · exact .inr ⟨failure, s', hstart.trans hopening, rfl, .inr hquiet⟩

end Session

/-! ## Steps -/

/-- The signals that may arrive in the course of an operation with a script of replies. -/
def Drive.signals (replies : List BusReply) : Drive Session.LinkStep → List Message
  | .transport (.message m) => [m]
  | _ => replies.flatMap BusReply.signals

theorem Drive.signals_sublist (drive : Drive Session.LinkStep) (xs ys : List BusReply) :
    (drive.signals xs).Sublist (drive.signals (xs ++ ys)) := by
  unfold signals
  split
  · exact List.Sublist.refl _
  · rw [List.flatMap_append]
    exact List.sublist_append_left ..

namespace Session

variable {s : Session BusLink}

/-- An operation that succeeds or fails does to the matches what it is for, and what the device
merges in its course it hears. -/
structure Accords (drive : Drive LinkStep) (succeeded : Bool) (s s' : Session BusLink) : Prop where
  /-- The subscription is the one after the operation. -/
  subscription : s'.subscription = s.subscription.after s.device.path succeeded drive
  /-- What the device merges is what it hears by the matches that there are meanwhile. -/
  attends : (s.subscribed (s.subscription.during s.device.path drive)).Attends s'

theorem accords_of_calm {α : Type} {act : Act BusLink α} {drive : Drive LinkStep}
    {succeeded : Bool} (h : act.Keeps Calm s)
    (hduring : s.subscription.during s.device.path drive = s.subscription)
    (hafter : s.subscription.after s.device.path succeeded drive = s.subscription) :
    Accords drive succeeded s (act.leaves s) := by
  refine ⟨h.subscription.trans hafter.symm, ?_⟩
  rw [hduring]
  exact h.attends

theorem accords_listen (h : s.subscription.Orderly s.device.path) :
    Accords (.device .listen) (listen.answers s).isOk s (listen.leaves s) := by
  cases htoken : s.token with
  | some token =>
    have hlisten : (listen : Act BusLink Unit) s = .ok () s := by
      unfold listen
      rw [Act.get_bind_apply, htoken]
      rfl
    have hknown : s.subscription.token.isSome = true := by
      rw [subscription, htoken]
      rfl
    rw [Act.leaves, hlisten]
    refine ⟨?_, ?_⟩
    · rw [Subscription.after, if_pos hknown]
    · rw [Subscription.during, if_pos hknown]
      exact (refl_of Calm s).attends
  | none =>
    have hunknown : ¬s.subscription.token.isSome = true := by
      rw [subscription, htoken]
      exact Bool.false_ne_true
    have hlisten := listen_eq s htoken
    rw [Act.answers, Act.leaves]
    rcases addMatch_cases h s.device.path .device with
      ⟨s', hadd, hrunning, hcalm⟩ | ⟨failure, s', hadd, hrefused, hattends⟩
    · rw [hadd] at hlisten
      rw [hlisten]
      have hsubscription := hcalm.subscription
      refine ⟨?_, ?_⟩
      · have hsucceeded : (true && s.subscription.running) = true := hrunning
        rw [Subscription.after, if_neg hunknown]
        refine Eq.trans ?_ (if_pos hsucceeded).symm
        exact congrArg
          (fun t : Subscription ↦ { t with token := some (.int s.transport.nextToken) })
          hsubscription
      · rw [Subscription.during, if_neg hunknown]
        have hattends : Attends _ { s' with token := some (.int s.transport.nextToken) } :=
          hcalm.attends
        exact hattends.append_quiet (quiet_report _)
    · rw [hadd] at hlisten
      rw [hlisten]
      refine ⟨?_, ?_⟩
      · rw [Subscription.after, if_neg hunknown]
        exact hrefused
      · rw [Subscription.during, if_neg hunknown]
        exact hattends

theorem accords_stopListening (s : Session BusLink) :
    Accords (.device .stopListening) (stopListening.answers s).isOk s (stopListening.leaves s) := by
  cases htoken : s.token with
  | none =>
    have hstop : (stopListening : Act BusLink Unit).leaves s = s := by
      unfold stopListening
      rw [Act.leaves_get_bind, htoken]
      rfl
    have hunknown : s.subscription.token = none := htoken
    rw [hstop]
    refine ⟨?_, ?_⟩
    · rw [Subscription.after, hunknown]
    · rw [Subscription.during, hunknown]
      exact (refl_of Calm s).attends
  | some token =>
    have hcalm := calm_stopListening htoken
    have hknown : s.subscription.token = some token := htoken
    refine ⟨?_, ?_⟩
    · rw [Subscription.after, hknown]
      exact hcalm.subscription
    · rw [Subscription.during, hknown]
      exact hcalm.attends

theorem accords_addMatch (h : s.subscription.Orderly s.device.path) (path name : String)
    (failure : Option Failure) :
    Accords (.transport (.addMatch path name failure))
      ((BusLink.addMatch path (.callback name failure)).answers s).isOk s
      ((BusLink.addMatch path (.callback name failure)).leaves s) := by
  rw [Act.answers, Act.leaves]
  rcases addMatch_cases h path (.callback name failure) with
    ⟨s', hadd, hrunning, hcalm⟩ | ⟨failure, s', hadd, hrefused, hattends⟩
  · have hsucceeded : (true && s.subscription.running) = true := hrunning
    rw [hadd]
    exact ⟨hcalm.subscription.trans (if_pos hsucceeded).symm, hcalm.attends⟩
  · rw [hadd]
    exact ⟨hrefused, hattends⟩

theorem accords_removeMatch (token : Value) (s : Session BusLink) (succeeded : Bool) :
    Accords (.transport (.removeMatch token)) succeeded s
      ((BusLink.removeMatch token).leaves s) :=
  ⟨(calm_removeMatch token s).subscription, (calm_removeMatch token s).attends⟩

theorem accords_stop (s : Session BusLink) (succeeded : Bool) :
    Accords (.transport .stop) succeeded s (BusLink.stop.leaves s) := by
  have hquiet := quiet_stop s
  exact ⟨hquiet.calm.subscription, hquiet.attends rfl rfl rfl⟩

theorem start_spec (h : s.subscription.Orderly s.device.path) (hasBus : Bool)
    (refusal : Option Failure) :
    ((BusLink.start hasBus refusal).leaves s).subscription = { s.subscription with
      running := s.subscription.running || ((BusLink.start hasBus refusal).answers s).isOk } ∧
    s.Attends ((BusLink.start hasBus refusal).leaves s) := by
  rw [Act.answers, Act.leaves]
  rcases start_cases hasBus refusal s with
    ⟨s', busOpen, hstart, hquiet⟩ | ⟨failure, s', hstart, hrunning, hfailed⟩
  · have hafter : { s.subscription with running := s.subscription.running || true }
        = { s.subscription with running := true } := by rw [Bool.or_true]
    rw [hstart]
    exact ⟨hquiet.calm.subscription.trans hafter.symm, hquiet.attends rfl rfl rfl⟩
  · have hafter : { s.subscription with running := s.subscription.running || false }
        = s.subscription := by rw [Bool.or_false]
    have hidle : s.stopped.subscription = s.subscription := h.eq_of_not_running hrunning
    rw [hstart]
    rcases hfailed with rfl | hquiet
    · exact ⟨hafter.symm, (refl_of Calm _).attends⟩
    · exact ⟨(hquiet.calm.subscription.trans hidle).trans hafter.symm, hquiet.attends rfl rfl rfl⟩

/-- **Every operation does to the matches what it is for**, apart from those that only give the
device a batch. -/
theorem accords_act (h : s.subscription.Orderly s.device.path) {drive : Drive LinkStep}
    (hreceive : ∀ batch, drive ≠ .device (.receive batch))
    (hmessage : ∀ m, drive ≠ .transport (.message m)) :
    Accords drive (drive.act.answers s).isOk s (drive.act.leaves s) := by
  cases drive with
  | device step =>
    change Accords _ ((carryOut step).answers s).isOk s ((carryOut step).leaves s)
    cases step with
    | listen =>
      rw [carryOut, Act.leaves_return, Act.isOk_answers_return]
      exact accords_listen h
    | stopListening =>
      rw [carryOut, Act.leaves_return, Act.isOk_answers_return]
      exact accords_stopListening s
    | receive batch => exact absurd rfl (hreceive batch)
    | announce path uuid flags =>
      rw [carryOut, Act.leaves_return]
      exact accords_of_calm (quiet_announce ..).calm rfl rfl
    | connect elapsed =>
      rw [carryOut, Act.leaves_return]
      exact accords_of_calm (calm_spawn (kept_calm.requestConnection elapsed)) rfl rfl
    | discover first last =>
      rw [carryOut, Act.leaves_return]
      exact accords_of_calm (calm_spawn (kept_calm.requestServices first last)) rfl rfl
    | _ => exact accords_of_calm (kept_calm.carryOut rfl) rfl rfl
  | transport step =>
    change Accords _ ((carryOutLink step).answers s).isOk s ((carryOutLink step).leaves s)
    cases step with
    | start hasBus refusal
    | enter hasBus refusal =>
      obtain ⟨hsubscription, hattends⟩ := start_spec h hasBus refusal
      rw [carryOutLink, Act.leaves_return, Act.isOk_answers_return]
      exact ⟨hsubscription, hattends⟩
    | stop =>
      rw [carryOutLink, Act.leaves_return]
      exact accords_stop ..
    | addMatch path name failure =>
      rw [carryOutLink, Act.leaves_return, Act.isOk_answers_return]
      exact accords_addMatch h path name failure
    | removeMatch token =>
      rw [carryOutLink, Act.leaves_return]
      exact accords_removeMatch ..
    | message m => exact absurd rfl (hmessage m)
    | _ =>
      refine accords_of_calm ?_ rfl rfl
      exact BusLink.keeps_carryOutLink (fun m timeout _ ↦ calm_call m timeout) rfl
  | deadline id =>
    rw [Drive.leaves_act_deadline]
    exact accords_of_calm (quiet_reachDeadline id s).calm rfl rfl

/-! ## Steps of a run -/

/-- The subscription of a session is orderly. -/
def Orderly (s : Session BusLink) : Prop := s.subscription.Orderly s.device.path

theorem orderly_start (callTimeout : Value) (path : Option String) (address : String)
    (config : Setup) : (start (BusLink.initial callTimeout) path address config).Orderly :=
  Subscription.orderly_of_table_eq_nil rfl

theorem subscription_receive (batch : Batch) (s : Session BusLink) :
    ((carryOut (.receive batch) : Act BusLink Reading).leaves s).subscription = s.subscription := by
  rw [carryOut, Act.leaves_return, Act.leaves, deliver_apply]
  cases s.device.receive batch with
  | ok result => rfl
  | error failure => rfl

theorem told_message (m : Message) (s : Session BusLink) :
    s.Told [m] ((carryOutLink (.message m)).leaves s) := by
  rw [carryOutLink, Act.leaves_return]
  exact told_handle m s

/-- **A step does to the subscription what its operation is for.** -/
theorem subscription_advance (h : s.Orderly) (replies : List BusReply) (drive : Drive LinkStep) :
    (s.advance replies drive).1.subscription = s.subscription.after s.device.path
      (s.advance replies drive).2.outcome.isOk drive := by
  rw [advance_eq]
  by_cases hreceive : ∃ batch, drive = .device (.receive batch)
  · obtain ⟨batch, rfl⟩ := hreceive
    exact subscription_receive batch (s.loading replies)
  by_cases hmessage : ∃ m, drive = .transport (.message m)
  · obtain ⟨m, rfl⟩ := hmessage
    exact (told_message m (s.loading replies)).subscription
  have hloading : (s.loading replies).subscription.Orderly (s.loading replies).device.path := h
  exact (accords_act hloading (not_exists.mp hreceive) (not_exists.mp hmessage)).subscription

theorem path_advance (s : Session BusLink) (replies : List BusReply) (drive : Drive LinkStep) :
    (s.advance replies drive).1.device.path = s.device.path := by
  obtain ⟨moves, hmoves, -⟩ := exists_moves_advance s replies drive
  rw [← Device.path_replay s.device moves, hmoves]

theorem Orderly.advance (h : s.Orderly) (replies : List BusReply) (drive : Drive LinkStep) :
    (s.advance replies drive).1.Orderly := by
  rw [Orderly, path_advance, subscription_advance h]
  exact Subscription.Orderly.after h _ drive

theorem Orderly.run (h : s.Orderly) (drives : List (List BusReply × Drive LinkStep)) :
    (s.run drives).1.Orderly := by
  induction drives generalizing s with
  | nil => exact h
  | cons head drives ih =>
    rw [run_cons]
    exact ih (h.advance ..)

theorem Orderly.run_induction {P : Subscription → Prop} {allowed : Drive LinkStep → Prop}
    (h : s.Orderly)
    (hstep : ∀ {t path succeeded drive}, allowed drive → P t → P (t.after path succeeded drive))
    {drives : List (List BusReply × Drive LinkStep)} (hdrives : ∀ x ∈ drives, allowed x.2)
    (hs : P s.subscription) : P (s.run drives).1.subscription := by
  induction drives generalizing s with
  | nil => exact hs
  | cons head drives ih =>
    obtain ⟨replies, drive⟩ := head
    obtain ⟨hdrive, hrest⟩ := List.forall_mem_cons.mp hdrives
    rw [run_cons]
    refine ih (h.advance replies drive) hrest ?_
    rw [subscription_advance h]
    exact hstep hdrive hs

/-- **What a device merges in a step is what it hears**, unless a batch was given to it directly. -/
theorem merges_advance (h : s.Orderly) (replies : List BusReply) {drive : Drive LinkStep}
    (hreceive : ∀ batch, drive ≠ .device (.receive batch)) :
    ∃ used, replies = used ++ (s.advance replies drive).1.transport.replies ∧
      (s.advance replies drive).2.merges = (drive.signals used).flatMap
        (BusLink.heard s.device (s.subscription.during s.device.path drive).table) := by
  rw [advance_eq]
  by_cases hmessage : ∃ m, drive = .transport (.message m)
  · obtain ⟨m, rfl⟩ := hmessage
    have htold := told_message m (s.loading replies)
    refine ⟨[], ?_, htold.hears.2⟩
    exact congrArg BusLink.replies htold.transport.symm
  · rw [not_exists] at hmessage
    have hloading : (s.loading replies).subscription.Orderly (s.loading replies).device.path := h
    obtain ⟨used, hused, -, hmerges⟩ := (accords_act hloading hreceive hmessage).attends
    have hsignals : drive.signals used = used.flatMap BusReply.signals := by
      unfold Drive.signals
      split
      · next m => exact absurd rfl (hmessage m)
      · rfl
    refine ⟨used, hused, ?_⟩
    rw [hsignals]
    exact hmerges

end Session

end GattPeer
