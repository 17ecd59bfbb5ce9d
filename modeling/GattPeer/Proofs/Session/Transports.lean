import GattPeer.Proofs.Session.Passing

/-!
# Transports pass

Whatever a transport does, be it a command of the device or an operation of its own, and however its
surroundings answer, it does no more to the device than to deliver batches. Both transports are of
this kind, which is all that the operations of a session rely on.
-/

namespace GattPeer

open Session

/-- A transport all of whose operations pass. -/
class PassingTransport (τ : Type) {ρ σ : outParam Type} [OperatedTransport τ ρ σ] : Prop where
  /-- Commands pass. -/
  passes_perform : ∀ (command : Command) (s : Session τ),
    (Transport.perform command).Keeps Passes s
  /-- Operations on the transport pass. -/
  passes_carryOutOwn : ∀ (step : σ) (s : Session τ),
    (OperatedTransport.carryOutOwn step).Keeps Passes s

/-- Whether a command concerns a match. -/
def Command.concernsMatch : Command → Bool
  | .addMatch _ | .removeMatch _ => true
  | _ => false

/-- Whether an operation on the link only carries out a command that concerns no match, or none. -/
def Session.LinkStep.isPlain : LinkStep → Bool
  | .isRunning | .connect .. | .disconnect .. | .readValue .. | .writeValue .. => true
  | _ => false

/-! ## The direct transport -/

namespace DirectSink

variable {s : Session DirectSink}

theorem passes_nextReply : nextReply.Keeps Passes s :=
  .get_bind (.bind (.set (.of_eq rfl rfl rfl rfl)) fun _ _ ↦ .pure _)

theorem passes_perform (command : Command) : (perform command).Keeps Passes s := by
  refine .bind (passes_record rfl) fun _ s' ↦ .bind passes_nextReply fun reply s' ↦ ?_
  refine .bind (.forM fun _ _ ↦ passes_deliver ..) fun _ s' ↦ ?_
  cases reply.answer with
  | value v => exact .pure _
  | failure f => exact .throw _

instance : PassingTransport DirectSink where
  passes_perform command _ := passes_perform command
  passes_carryOutOwn step := nomatch step

end DirectSink

/-! ## The link to the bus -/

namespace BusLink

variable {s : Session BusLink}

/-- A change of the link that is one of its matches and tokens only. -/
def ChangesMatches (f : BusLink → BusLink) : Prop :=
  ∀ link, f link = { link with table := (f link).table, nextToken := (f link).nextToken }

section

variable {R : Session BusLink → Session BusLink → Prop} [IsPreorder (Session BusLink) R]
  (hcall : ∀ m timeout s, (call m timeout).Keeps R s)

include hcall

theorem keeps_readValue (path : String) (timeout : Value) :
    (readValue path timeout).Keeps R s := by
  refine .bind (hcall ..) fun results s' ↦ ?_
  cases results with
  | nil => exact .pure _
  | cons value values => exact .ofExcept _

theorem keeps_perform {command : Command} (h : command.concernsMatch = false) :
    (perform command).Keeps R s := by
  cases command with
  | connect path timeout => exact .bind (.discard (hcall ..)) fun _ _ ↦ .pure _
  | disconnect path timeout => exact .bind (.discard (hcall ..)) fun _ _ ↦ .pure _
  | readValue path timeout => exact .bind (keeps_readValue hcall ..) fun _ _ ↦ .pure _
  | writeValue path data timeout => exact .bind (.discard (hcall ..)) fun _ _ ↦ .pure _
  | addMatch path => exact nomatch h
  | removeMatch token => exact nomatch h

theorem keeps_carryOutLink {step : LinkStep} (h : step.isPlain = true) :
    (carryOutLink step).Keeps R s := by
  cases step with
  | isRunning => exact .get_bind (.pure _)
  | connect path timeout => exact .bind (.discard (hcall ..)) fun _ _ ↦ .pure _
  | disconnect path timeout => exact .bind (.discard (hcall ..)) fun _ _ ↦ .pure _
  | readValue path timeout => exact .bind (keeps_readValue hcall ..) fun _ _ ↦ .pure _
  | writeValue path data timeout =>
    refine .get_bind (.bind (.ofExcept _) fun bytes _ ↦ ?_)
    exact .bind (.discard (hcall ..)) fun _ _ ↦ .pure _
  | _ => exact nomatch h

variable (hreport : ∀ n (s : Session BusLink), (Act.report n).Keeps R s)
  (hchange : ∀ f (s : Session BusLink), ChangesMatches f → (change f).Keeps R s)

include hreport hchange

theorem keeps_addMatch (path : String) (listener : Listener) :
    (addMatch path listener).Keeps R s := by
  refine .get_bind (.bind (hchange _ _ fun _ ↦ rfl) fun _ s' ↦ ?_)
  refine .bind (.attempt (hcall ..)) fun answer s' ↦ ?_
  cases answer with
  | error failure => exact .bind (hchange _ _ fun _ ↦ rfl) fun _ _ ↦ .throw _
  | ok _ => exact .bind (hreport ..) fun _ _ ↦ .pure _

theorem keeps_removeMatch (token : Value) : (removeMatch token).Keeps R s := by
  refine .get_bind ?_
  have hremove : ∀ (m : Match) s', Act.Keeps R (do
      change (forget m.token)
      if s.transport.running then
        discard <| call (ruleMethod "RemoveMatch" m.path) .none
        .report (.matchRemoved m.path)) s' := by
    intro m s'
    refine .bind (hchange _ _ fun _ ↦ rfl) fun _ s' ↦ .ite ?_ (.pure _)
    exact .bind (.discard (hcall ..)) fun _ _ ↦ hreport ..
  refine .ite (.bind (.ofExcept _) fun _ s' ↦ ?_) ?_
  all_goals
    cases s.transport.table.find? fun m ↦ token.equal (.int m.token) with
    | none => exact .pure _
    | some m => exact hremove m _

theorem keeps_command (command : Command) : (perform command).Keeps R s := by
  cases command with
  | addMatch path => exact .bind (keeps_addMatch hcall hreport hchange ..) fun _ _ ↦ .pure _
  | removeMatch token => exact .bind (keeps_removeMatch hcall hreport hchange _) fun _ _ ↦ .pure _
  | _ => exact keeps_perform hcall rfl

end

theorem passes_change (f : BusLink → BusLink) : (change f).Keeps Passes s :=
  .modify (.of_eq rfl rfl rfl rfl)

theorem passes_current : current.Keeps Passes s := .get_bind (.pure _)

theorem passes_tell (batch : Batch) (listener : Listener) :
    (tell batch listener).Keeps Passes s := by
  cases listener with
  | device =>
    refine .bind (.attempt (passes_deliver ..)) fun result s' ↦ ?_
    cases result with
    | ok _ => exact .pure _
    | error _ => exact passes_record rfl
  | callback name failure =>
    refine .bind (passes_record rfl) fun _ s' ↦ ?_
    split
    · exact passes_record rfl
    · exact .pure _

theorem passes_handle (m : Message) : (handle m).Keeps Passes s := by
  rw [handle]
  split
  · split
    · exact passes_record rfl
    · refine .bind (.ofExcept _) fun batch s' ↦ .bind passes_current fun link s' ↦ ?_
      exact .forM fun _ _ ↦ passes_tell ..
  · exact .pure _

theorem passes_nextReply : nextReply.Keeps Passes s :=
  .bind passes_current fun _ _ ↦ .bind (passes_change _) fun _ _ ↦ .pure _

/-- **A method call passes**, also while it is not answered. -/
theorem passes_call (m : MethodCall) (timeout : Value) : (call m timeout).Keeps Passes s := by
  have hanswer : ∀ limit (reply : BusReply) s', Act.Keeps Passes (do
      reply.during.forM fun batch ↦ handle (signalOf batch)
      Act.ofExcept (results limit reply.answer)) s' := fun limit reply s' ↦
    .bind (.forM fun _ _ ↦ passes_handle _) fun _ _ ↦ .ofExcept _
  refine .bind passes_current fun link s' ↦ .bind (passes_report _) fun _ s' ↦ ?_
  refine .ite (.throw_bind ..) ?_
  generalize limitFailure? (link.limitOf timeout) = failure?
  cases failure? with
  | some failure =>
    exact .ite (.bind (passes_record rfl) fun _ _ ↦ .throw_bind ..) (.throw_bind ..)
  | none =>
    refine .ite (.throw_bind ..) (.bind passes_nextReply fun reply s' ↦ ?_)
    exact .bind (passes_record (happening?_leaving ..)) fun _ _ ↦ hanswer ..

theorem passes_addMatch (path : String) (listener : Listener) :
    (addMatch path listener).Keeps Passes s :=
  keeps_addMatch (fun m timeout _ ↦ passes_call m timeout) (fun n _ ↦ passes_report n)
    (fun f _ _ ↦ passes_change f) path listener

theorem passes_removeMatch (token : Value) : (removeMatch token).Keeps Passes s :=
  keeps_removeMatch (fun m timeout _ ↦ passes_call m timeout) (fun n _ ↦ passes_report n)
    (fun f _ _ ↦ passes_change f) token

theorem passes_stop : stop.Keeps Passes s := by
  refine .bind passes_current fun link s' ↦ .bind (passes_change _) fun _ s' ↦ ?_
  refine .ite ?_ (.pure _)
  exact .ite (.bind (passes_record rfl) fun _ _ ↦ passes_report _) (passes_report _)

theorem passes_start (hasBus : Bool) (refusal : Option Failure) :
    (start hasBus refusal).Keeps Passes s := by
  refine .bind passes_current fun link s' ↦ .ite (.ite (.throw_bind ..) ?_) (.pure _)
  refine .bind (passes_change _) fun _ s' ↦ ?_
  generalize limitFailure? link.callTimeout = failure?
  cases failure? with
  | some failure => exact .bind passes_stop fun _ _ ↦ .throw_bind ..
  | none =>
    refine .bind (passes_record rfl) fun _ s' ↦ ?_
    cases refusal with
    | some failure => exact .bind passes_stop fun _ _ ↦ .throw _
    | none =>
      refine .bind (passes_record rfl) fun _ _ ↦ .bind (passes_change _) fun _ _ ↦ ?_
      exact passes_report _

/-- **Commands pass over the bus.** -/
theorem passes_perform (command : Command) : (perform command).Keeps Passes s :=
  keeps_command (fun m timeout _ ↦ passes_call m timeout) (fun n _ ↦ passes_report n)
    (fun f _ _ ↦ passes_change f) command

/-- **Operations on the link pass.** -/
theorem passes_carryOutLink (step : LinkStep) : (carryOutLink step).Keeps Passes s := by
  cases step with
  | start hasBus refusal => exact .bind (passes_start ..) fun _ _ ↦ .pure _
  | enter hasBus refusal => exact .bind (passes_start ..) fun _ _ ↦ .pure _
  | stop => exact .bind passes_stop fun _ _ ↦ .pure _
  | addMatch path name failure => exact .bind (passes_addMatch ..) fun _ _ ↦ .pure _
  | removeMatch token => exact .bind (passes_removeMatch _) fun _ _ ↦ .pure _
  | message m => exact .bind (passes_handle m) fun _ _ ↦ .pure _
  | _ => exact keeps_carryOutLink (fun m timeout s ↦ passes_call m timeout) rfl

instance : PassingTransport BusLink where
  passes_perform command _ := passes_perform command
  passes_carryOutOwn step _ := passes_carryOutLink step

end BusLink

end GattPeer
