import GattPeer.Proofs.Session.Transports

/-!
# Operations that start no call

Every operation but those that start a call is put together from commands, reports and deliveries,
which move the device only quietly; so it passes. The first part of a call passes as well, and when
it asks for a connection it leaves nothing to wait for but the connection.
-/

namespace GattPeer.Session

variable {τ ρ σ : Type}

/-! ## What operations keep -/

/-- A relation that is kept by reports and by commands that concern no match. -/
structure Kept [Transport τ ρ] (R : Session τ → Session τ → Prop) : Prop where
  /-- Reports keep it. -/
  report : ∀ n s, (Act.report n).Keeps R s
  /-- Commands that concern no match keep it. -/
  perform : ∀ {command} s, command.concernsMatch = false → (Transport.perform command).Keeps R s

/-- Whether an operation only reads or carries out commands that concern no match: it gives the
device nothing, starts no call and leaves the subscription alone. -/
def Step.isPlain : Step → Bool
  | .listen | .stopListening | .receive _ | .announce .. | .connect _ | .discover .. => false
  | _ => true

section

variable [Transport τ ρ] {R : Session τ → Session τ → Prop} [IsPreorder (Session τ) R]
  {s : Session τ}

theorem Kept.readValue (h : Kept R) (c : Characteristic) : (readValue c).Keeps R s := by
  refine .get_bind ?_
  cases s.device.attributes.pathOf? c.value with
  | none => exact .throw _
  | some path => exact h.perform _ rfl

theorem Kept.writeValue (h : Kept R) (c : Characteristic) (data : Value) :
    (writeValue c data).Keeps R s := by
  refine .get_bind ?_
  cases s.device.attributes.pathOf? c.value with
  | none => exact .throw _
  | some path => exact .bind (.ofExcept _) fun _ _ ↦ .discard (h.perform _ rfl)

theorem Kept.readByType (h : Kept R) (c : Characteristic) (uuid : String) :
    (readByType c uuid).Keeps R s := by
  refine .get_bind (.bind (.ofExcept _) fun found s' ↦ ?_)
  cases found with
  | none => exact .throw _
  | some found => exact h.readValue found

theorem Kept.disconnect (h : Kept R) : (disconnect : Act τ Unit).Keeps R s :=
  .get_bind (.bind (h.report ..) fun _ _ ↦ .discard (h.perform _ rfl))

theorem Kept.connectAnswer (h : Kept R) (owner : String) (budget : Value) (elapsed : Number)
    (answer : Except Failure Value) :
    (connectAnswer owner budget elapsed answer : Act τ (Option Purpose)).Keeps R s := by
  unfold Session.connectAnswer
  split
  · exact .bind (.ofExcept _) fun _ _ ↦ .pure _
  · refine .ite (.bind (h.report ..) fun _ _ ↦ .pure _) (.ite ?_ (.throw _))
    exact .bind (h.report ..) fun _ _ ↦ .throw _
  · exact .throw _
  · exact .throw _

theorem Kept.requestConnection (h : Kept R) (elapsed : Number) :
    (requestConnection elapsed : Act τ (Option Purpose)).Keeps R s := by
  refine .get_bind (.bind (h.report ..) fun _ s' ↦ ?_)
  exact .bind (.attempt (h.perform _ rfl)) fun answer _ ↦ h.connectAnswer ..

theorem Kept.requestServices (h : Kept R) (first last : Int) :
    (requestServices first last : Act τ (Option Purpose)).Keeps R s :=
  .get_bind (.bind (h.report ..) fun _ _ ↦ .pure _)

/-- **Plain operations** are put together from reports and commands. -/
theorem Kept.carryOut (h : Kept R) {step : Step} (hplain : step.isPlain = true) :
    (carryOut step).Keeps R s := by
  cases step with
  | address => exact .get_bind (.pure _)
  | path => exact .get_bind (.pure _)
  | state => exact .get_bind (.pure _)
  | isConnected => exact .get_bind (.pure _)
  | title => exact .get_bind (.pure _)
  | description => exact .get_bind (.pure _)
  | advertisement => exact .get_bind (.pure _)
  | characteristics => exact .get_bind (.pure _)
  | disconnect => exact .bind h.disconnect fun _ _ ↦ .pure _
  | read c => exact .bind (h.readValue c) fun _ _ ↦ .pure _
  | write c data => exact .bind (h.writeValue c data) fun _ _ ↦ .pure _
  | exchange c data =>
    exact .bind (.bind (h.writeValue c data) fun _ _ ↦ h.readValue c) fun _ _ ↦ .pure _
  | readByType c uuid => exact .bind (h.readByType c uuid) fun _ _ ↦ .pure _
  | unavailable name => exact .throw _
  | rejected failure => exact .throw _
  | _ => exact nomatch hplain

end

/-! ## Operations that pass -/

variable [OperatedTransport τ ρ σ] [PassingTransport τ] {s : Session τ}

theorem passes_perform (command : Command) : (Transport.perform command).Keeps Passes s :=
  PassingTransport.passes_perform command s

theorem kept_passes : Kept (Passes : Session τ → Session τ → Prop) :=
  ⟨fun n _ ↦ passes_report n, fun _ _ ↦ passes_perform _⟩

theorem passes_listen : (listen : Act τ Unit).Keeps Passes s := by
  refine .get_bind (.ite ?_ (.pure _))
  refine .bind (passes_perform _) fun token s' ↦ ?_
  exact .bind (.modify (.of_eq rfl rfl rfl rfl)) fun _ _ ↦ passes_report _

theorem passes_stopListening : (stopListening : Act τ Unit).Keeps Passes s := by
  refine .get_bind ?_
  cases s.token with
  | none => exact .pure _
  | some token =>
    refine .bind (.set (.of_eq rfl rfl rfl rfl)) fun _ s' ↦ ?_
    exact .bind (.discard (passes_perform _)) fun _ _ ↦ passes_report _

theorem passes_carryOut {step : Step} (hconnect : ∀ elapsed, step ≠ .connect elapsed)
    (hdiscover : ∀ first last, step ≠ .discover first last) :
    (carryOut step : Act τ Reading).Keeps Passes s := by
  cases step with
  | listen => exact .bind passes_listen fun _ _ ↦ .pure _
  | stopListening => exact .bind passes_stopListening fun _ _ ↦ .pure _
  | receive batch => exact .bind (passes_deliver ..) fun _ _ ↦ .pure _
  | announce path uuid flags => exact .bind (passes_announce ..) fun _ _ ↦ .pure _
  | connect elapsed => exact absurd rfl (hconnect elapsed)
  | discover first last => exact absurd rfl (hdiscover first last)
  | _ => exact kept_passes.carryOut rfl

omit [PassingTransport τ] [OperatedTransport τ ρ σ] in
theorem gives_connectAnswer (owner : String) (budget : Value) (elapsed : Number)
    (answer : Except Failure Value) : (connectAnswer owner budget elapsed answer : Act τ _).Gives
      fun answer ↦ ∀ purpose, answer = some purpose → ∃ n left, purpose = .connect n left := by
  unfold connectAnswer
  split
  · refine .map_ofExcept fun purpose hpurpose _ hsome ↦ ?_
    rw [← Option.some.inj hsome]
    unfold connectAnswer.remaining at hpurpose
    split at hpurpose
    · exact nomatch hpurpose
    · split at hpurpose
      · exact ⟨_, _, (Except.ok.inj hpurpose).symm⟩
      · exact nomatch hpurpose
  · exact .ite (.bind fun _ ↦ .pure nofun) (.ite (.bind fun _ ↦ .throw _) (.throw _))
  · exact .throw _
  · exact .throw _

omit [PassingTransport τ] in
theorem gives_requestConnection (elapsed : Number) :
    (requestConnection elapsed : Act τ (Option Purpose)).Gives
      fun answer ↦ ∀ purpose, answer = some purpose → ∃ n left, purpose = .connect n left :=
  .bind fun _ ↦ .bind fun _ ↦ .bind fun _ ↦ gives_connectAnswer _ _ _ _

end GattPeer.Session
