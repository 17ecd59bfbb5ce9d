import GattPeer.Proofs.Session.Abreast

/-!
# Even transports

A transport is even if it does the same in sessions abreast: whatever command it is given and
however its surroundings answer, it answers the same, gives both devices the same batches, and is
itself the same afterwards. Both transports are of this kind. They differ in one respect: the link
to the bus refuses a method call on a path that is not valid, before anything is sent, while the
direct transport takes any path. -/

namespace GattPeer

open Session Act

/-- A transport that does the same in sessions abreast, and keeps nothing of the commands that
concern no match. Of two attributes on different paths it reads both, or neither, as long as it
accepts both paths, or neither. -/
class EvenTransport (τ : Type) {ρ σ : outParam Type} [OperatedTransport τ ρ σ] where
  /-- Whether the value of an attribute on a path can be read at all. -/
  accepts : String → Bool
  /-- Only the last script counts. -/
  load_load : ∀ (xs ys : List ρ) (t : τ),
    Transport.load xs (Transport.load ys t) = Transport.load xs t
  /-- Commands do the same. -/
  together_perform : ∀ (command : Command) {s s' : Session τ}, Abreast s s' →
    Together (Transport.perform command) (Transport.perform command) s s'
  /-- Reading does the same, whichever attributes are read. -/
  together_readValue : ∀ {place place' : String} (timeout : Value) {s s' : Session τ},
    accepts place = true → accepts place' = true → Abreast s s' →
    Together (Transport.perform (.readValue place timeout))
      (Transport.perform (.readValue place' timeout)) s s'
  /-- An attribute that cannot be read is only reported. -/
  notes_readValue : ∀ {place : String} (timeout : Value) (s : Session τ),
    accepts place = false → (Transport.perform (.readValue place timeout)).Keeps Notes s
  /-- Operations on the transport do the same. -/
  together_carryOutOwn : ∀ (step : σ) {s s' : Session τ}, Abreast s s' →
    Together (OperatedTransport.carryOutOwn step) (OperatedTransport.carryOutOwn step) s s'
  /-- Commands that concern no match leave the transport as it was. -/
  framed_perform : ∀ {command : Command} (s : Session τ), command.concernsMatch = false →
    (Transport.perform command).Keeps Framed s

/-! ## The direct transport -/

namespace DirectSink

variable {s s' : Session DirectSink}

theorem together_nextReply (h : Abreast s s') : Together nextReply nextReply s s' := by
  have hloaded : Abreast
      { s with transport := { s.transport with replies := s.transport.replies.tail } }
      { s' with transport := { s'.transport with replies := s'.transport.replies.tail } } := by
    refine ⟨h.config, h.token, h.nextCall, ?_, h.path, h.address⟩
    rw [h.transport]
  constructor
  · change Except.ok (s'.transport.replies.head?.getD usualReply) = _
    rw [h.transport]
    rfl
  · exact .of_eq hloaded rfl rfl rfl rfl rfl rfl

theorem together_perform_of_usualAnswer {c c' : Command} (hc : usualAnswer c' = usualAnswer c)
    (h : Abreast s s') : Together (perform c) (perform c') s s' := by
  refine .bind (.record rfl rfl h) fun _ t t' h ↦ ?_
  refine .bind (together_nextReply h.abreast) fun reply t t' h ↦ ?_
  refine .bind (.forM h.abreast fun batch t t' h ↦ together_deliver _ batch h) fun _ t t' h ↦ ?_
  rw [hc]
  cases reply.answer with
  | value v => exact .pure h.abreast _
  | failure f => exact .throw h.abreast f

theorem framed_perform (c : Command) : (perform c).Keeps Framed s := by
  refine .bind (framed_record _) fun _ s' ↦ .bind ?_ fun reply s' ↦ ?_
  · exact .get_bind (.bind (.set ⟨rfl, rfl, rfl, fun _ ↦ rfl, rfl, rfl⟩) fun _ _ ↦ .pure _)
  · refine .bind (.forM fun _ _ ↦ framed_deliver ..) fun _ s' ↦ ?_
    cases reply.answer with
    | value v => exact .pure _
    | failure f => exact .throw _

instance : EvenTransport DirectSink where
  accepts _ := true
  load_load _ _ _ := rfl
  together_perform _ _ _ h := together_perform_of_usualAnswer rfl h
  together_readValue _ _ _ _ _ h := together_perform_of_usualAnswer rfl h
  notes_readValue _ _ h := absurd h.symm Bool.false_ne_true
  together_carryOutOwn step := nomatch step
  framed_perform _ _ := framed_perform _

end DirectSink

/-! ## The link to the bus -/

namespace BusLink

variable {s s' : Session BusLink}

theorem together_current (h : Abreast s s') : Together current current s s' :=
  ⟨congrArg Except.ok h.transport, .refl h⟩

theorem together_change (f : BusLink → BusLink) (h : Abreast s s') :
    Together (change f) (change f) s s' := by
  refine ⟨rfl, .of_eq ?_ rfl rfl rfl rfl rfl rfl⟩
  exact ⟨h.config, h.token, h.nextCall, congrArg f h.transport, h.path, h.address⟩

theorem together_tell (batch : Batch) (listener : Listener) (h : Abreast s s') :
    Together (tell batch listener) (tell batch listener) s s' := by
  cases listener with
  | device =>
    refine .bind (.attempt (together_deliver _ batch h)) fun result t t' h ↦ ?_
    cases result with
    | ok _ => exact .pure h.abreast _
    | error _ => exact .record rfl rfl h.abreast
  | callback name failure =>
    refine .bind (.record rfl rfl h) fun _ t t' h ↦ ?_
    split
    · exact .record rfl rfl h.abreast
    · exact .pure h.abreast _

/-- **A message does the same**, since the same listeners are told. -/
theorem together_handle (m : Message) (h : Abreast s s') :
    Together (handle m) (handle m) s s' := by
  rw [handle]
  split
  · split
    · exact .record rfl rfl h
    · refine .bind (.ofExcept h _) fun batch t t' h ↦ .bind (together_current h.abreast) ?_
      exact fun link t t' h ↦ .forM h.abreast fun listener t t' h ↦ together_tell _ listener h
  · exact .pure h _

theorem together_nextReply (h : Abreast s s') : Together nextReply nextReply s s' :=
  .bind (together_current h) fun _ _ _ h ↦ .bind (together_change _ h.abreast) fun _ _ _ h ↦
    .pure h.abreast _

/-- **Method calls do the same** if they are on one path, or if both paths are valid: only the path
is looked at before a call is made. -/
theorem together_call {m m' : MethodCall} (timeout : Value)
    (hvalid : ObjectPath.isValid m'.path = ObjectPath.isValid m.path)
    (hpath : ObjectPath.isValid m.path = false → m'.path = m.path) (h : Abreast s s') :
    Together (call m timeout) (call m' timeout) s s' := by
  have hanswer : ∀ limit (reply : BusReply) {t t' : Session BusLink}, Abreast t t' →
      Together (do
        reply.during.forM fun batch ↦ handle (signalOf batch)
        Act.ofExcept (results limit reply.answer)) (do
        reply.during.forM fun batch ↦ handle (signalOf batch)
        Act.ofExcept (results limit reply.answer)) t t' := fun limit reply t t' h ↦
    .bind (.forM h fun _ _ _ h ↦ together_handle _ h) fun _ _ _ h ↦ .ofExcept h.abreast _
  refine .bind (together_current h) fun link t t' h ↦ ?_
  refine .bind (.report _ _ h.abreast) fun _ t t' h ↦ ?_
  refine .ite (.throw_bind h.abreast _) ?_
  generalize limitFailure? (link.limitOf timeout) = failure?
  cases failure? with
  | some failure =>
    dsimp only
    rw [hvalid]
    refine .ite (.bind (.record rfl rfl h.abreast) fun _ _ _ h ↦ ?_) ?_
    · exact .throw_bind h.abreast _
    · exact .throw_bind h.abreast _
  | none =>
    dsimp only
    rw [hvalid]
    cases hpathValid : ObjectPath.isValid m.path with
    | false =>
      rw [hpath hpathValid]
      exact .throw_bind h.abreast _
    | true =>
      refine .bind (together_nextReply h.abreast) fun reply t t' h ↦ .bind ?_ fun _ t t' h ↦
        hanswer _ _ h.abreast
      exact .record (happening?_leaving ..) (happening?_leaving ..) h.abreast

theorem together_call_self (m : MethodCall) (timeout : Value) (h : Abreast s s') :
    Together (call m timeout) (call m timeout) s s' :=
  together_call timeout rfl (fun _ ↦ rfl) h

theorem together_readValue {place place' : String} (timeout : Value)
    (hvalid : ObjectPath.isValid place' = ObjectPath.isValid place)
    (hplace : ObjectPath.isValid place = false → place' = place) (h : Abreast s s') :
    Together (readValue place timeout) (readValue place' timeout) s s' := by
  refine .bind (together_call timeout hvalid hplace h) fun results t t' h ↦ ?_
  cases results with
  | nil => exact .pure h.abreast _
  | cons value values =>
    refine .get_bind ?_
    rw [h.abreast.config]
    exact .ofExcept h.abreast _

theorem together_addMatch (path : String) (listener : Listener) (h : Abreast s s') :
    Together (addMatch path listener) (addMatch path listener) s s' := by
  refine .bind (together_current h) fun link t t' h ↦
    .bind (together_change _ h.abreast) fun _ t t' h ↦ ?_
  refine .bind (.attempt (together_call_self _ _ h.abreast)) fun answer t t' h ↦ ?_
  cases answer with
  | error failure => exact .bind (together_change _ h.abreast) fun _ _ _ h ↦ .throw h.abreast _
  | ok _ => exact .bind (.report _ _ h.abreast) fun _ _ _ h ↦ .pure h.abreast _

theorem together_removeMatch (token : Value) (h : Abreast s s') :
    Together (removeMatch token) (removeMatch token) s s' := by
  refine .bind (together_current h) fun link t t' h ↦ ?_
  have hremove : ∀ (m : Match) {t t' : Session BusLink}, Abreast t t' → Together (do
      change (forget m.token)
      if link.running then
        discard <| call (ruleMethod "RemoveMatch" m.path) .none
        .report (.matchRemoved m.path)) (do
      change (forget m.token)
      if link.running then
        discard <| call (ruleMethod "RemoveMatch" m.path) .none
        .report (.matchRemoved m.path)) t t' := by
    intro m t t' h
    refine .bind (together_change _ h) fun _ t t' h ↦ .ite ?_ (.pure h.abreast _)
    exact .bind (.discard (together_call_self _ _ h.abreast)) fun _ _ _ h ↦ .report _ _ h.abreast
  refine .ite (.bind (.ofExcept h.abreast _) fun _ t t' h ↦ ?_) ?_
  all_goals
    cases link.table.find? fun m ↦ token.equal (.int m.token) with
    | none => exact .pure h.abreast _
    | some m => exact hremove m h.abreast

theorem together_stop (h : Abreast s s') : Together stop stop s s' := by
  refine .bind (together_current h) fun link t t' h ↦
    .bind (together_change _ h.abreast) fun _ t t' h ↦ .ite ?_ (.pure h.abreast _)
  refine .ite ?_ (.report _ _ h.abreast)
  exact .bind (.record rfl rfl h.abreast) fun _ _ _ h ↦ .report _ _ h.abreast

theorem together_start (hasBus : Bool) (refusal : Option Failure) (h : Abreast s s') :
    Together (start hasBus refusal) (start hasBus refusal) s s' := by
  refine .bind (together_current h) fun link t t' h ↦ .ite (.ite (.throw_bind h.abreast _) ?_)
    (.pure h.abreast _)
  refine .bind (together_change _ h.abreast) fun _ t t' h ↦ ?_
  generalize limitFailure? link.callTimeout = failure?
  cases failure? with
  | some failure =>
    exact .bind (together_stop h.abreast) fun _ _ _ h ↦ .throw_bind h.abreast _
  | none =>
    refine .bind (.record rfl rfl h.abreast) fun _ t t' h ↦ ?_
    cases refusal with
    | some failure => exact .bind (together_stop h.abreast) fun _ _ _ h ↦ .throw h.abreast _
    | none =>
      refine .bind (.record rfl rfl h.abreast) fun _ _ _ h ↦
        .bind (together_change _ h.abreast) fun _ _ _ h ↦ ?_
      exact .report _ _ h.abreast

/-- **Commands do the same over the bus.** -/
theorem together_perform (command : Command) (h : Abreast s s') :
    Together (perform command) (perform command) s s' := by
  cases command with
  | connect path timeout =>
    exact .bind (.discard (together_call_self _ _ h)) fun _ _ _ h ↦ .pure h.abreast _
  | disconnect path timeout =>
    exact .bind (.discard (together_call_self _ _ h)) fun _ _ _ h ↦ .pure h.abreast _
  | readValue path timeout =>
    exact .bind (together_readValue _ rfl (fun _ ↦ rfl) h) fun _ _ _ h ↦ .pure h.abreast _
  | writeValue path data timeout =>
    exact .bind (.discard (together_call_self _ _ h)) fun _ _ _ h ↦ .pure h.abreast _
  | addMatch path => exact .bind (together_addMatch _ _ h) fun _ _ _ h ↦ .pure h.abreast _
  | removeMatch token => exact .bind (together_removeMatch _ h) fun _ _ _ h ↦ .pure h.abreast _

/-- **Operations on the link do the same.** -/
theorem together_carryOutLink (step : LinkStep) (h : Abreast s s') :
    Together (carryOutLink step) (carryOutLink step) s s' := by
  cases step with
  | start hasBus refusal =>
    exact .bind (together_start _ _ h) fun _ _ _ h ↦ .pure h.abreast _
  | enter hasBus refusal =>
    exact .bind (together_start _ _ h) fun _ _ _ h ↦ .pure h.abreast _
  | stop => exact .bind (together_stop h) fun _ _ _ h ↦ .pure h.abreast _
  | isRunning => exact .bind (together_current h) fun _ _ _ h ↦ .pure h.abreast _
  | connect path timeout =>
    refine .bind (.discard (together_call_self _ _ h)) fun _ _ _ h ↦ .pure h.abreast _
  | disconnect path timeout =>
    exact .bind (.discard (together_call_self _ _ h)) fun _ _ _ h ↦ .pure h.abreast _
  | readValue path timeout =>
    exact .bind (together_readValue _ rfl (fun _ ↦ rfl) h) fun _ _ _ h ↦ .pure h.abreast _
  | writeValue path data timeout =>
    refine .get_bind ?_
    rw [h.config]
    refine .bind (.ofExcept h _) fun bytes _ _ h ↦ ?_
    exact .bind (.discard (together_call_self _ _ h.abreast)) fun _ _ _ h ↦ .pure h.abreast _
  | addMatch path name failure =>
    exact .bind (together_addMatch _ _ h) fun _ _ _ h ↦ .pure h.abreast _
  | removeMatch token => exact .bind (together_removeMatch _ h) fun _ _ _ h ↦ .pure h.abreast _
  | message m => exact .bind (together_handle m h) fun _ _ _ h ↦ .pure h.abreast _

theorem notes_call {m : MethodCall} (h : ObjectPath.isValid m.path = false) (timeout : Value) :
    (call m timeout).Keeps Notes s := by
  refine .bind (.get_bind (.pure _)) fun link s' ↦ .bind (notes_report _) fun _ s' ↦ ?_
  refine .ite (.throw_bind ..) ?_
  generalize limitFailure? (link.limitOf timeout) = failure?
  cases failure? with
  | some failure =>
    dsimp only
    rw [h]
    exact .throw_bind ..
  | none =>
    dsimp only
    rw [h]
    exact .throw_bind ..

theorem framed_handle (m : Message) : (handle m).Keeps Framed s := by
  rw [handle]
  split
  · split
    · exact framed_record _
    · refine .bind (.ofExcept _) fun batch s' ↦ .bind (.get_bind (.pure _)) fun link s' ↦ ?_
      refine .forM fun listener s' ↦ ?_
      cases listener with
      | device =>
        refine .bind (.attempt (framed_deliver ..)) fun result s' ↦ ?_
        cases result with
        | ok _ => exact .pure _
        | error _ => exact framed_record _
      | callback name failure =>
        refine .bind (framed_record _) fun _ s' ↦ ?_
        split
        · exact framed_record _
        · exact .pure _
  · exact .pure _

theorem framed_call (m : MethodCall) (timeout : Value) : (call m timeout).Keeps Framed s := by
  have hanswer : ∀ limit (reply : BusReply) s', Act.Keeps Framed (do
      reply.during.forM fun batch ↦ handle (signalOf batch)
      Act.ofExcept (results limit reply.answer)) s' := fun limit reply s' ↦
    .bind (.forM fun _ _ ↦ framed_handle _) fun _ _ ↦ .ofExcept _
  refine .bind (.get_bind (.pure _)) fun link s' ↦ .bind (framed_record _) fun _ s' ↦ ?_
  refine .ite (.throw_bind ..) ?_
  generalize limitFailure? (link.limitOf timeout) = failure?
  cases failure? with
  | some failure => exact .ite (.bind (framed_record _) fun _ _ ↦ .throw_bind ..) (.throw_bind ..)
  | none =>
    refine .ite (.throw_bind ..) (.bind ?_ fun reply s' ↦ ?_)
    · refine .bind (.get_bind (.pure _)) fun link s' ↦ .bind (.modify ?_) fun _ _ ↦ .pure _
      exact ⟨rfl, rfl, rfl, fun _ ↦ rfl, rfl, rfl⟩
    · exact .bind (framed_record _) fun _ _ ↦ hanswer ..

instance : EvenTransport BusLink where
  accepts := ObjectPath.isValid
  load_load _ _ _ := rfl
  together_perform command _ _ h := together_perform command h
  together_readValue {place place'} timeout _ _ hplace hplace' h := by
    have hvalid : ObjectPath.isValid place' = ObjectPath.isValid place := hplace'.trans hplace.symm
    refine .bind (together_readValue timeout hvalid ?_ h) fun _ _ _ h ↦ .pure h.abreast _
    intro hfalse
    exact absurd (hfalse.symm.trans hplace) Bool.false_ne_true
  notes_readValue _ _ h := by
    refine .bind (.bind (notes_call h _) fun results s' ↦ ?_) fun _ _ ↦ .pure _
    cases results with
    | nil => exact .pure _
    | cons value values => exact .ofExcept _
  together_carryOutOwn step _ _ h := together_carryOutLink step h
  framed_perform _ h := keeps_perform (fun m timeout s ↦ framed_call m timeout) h

end BusLink

end GattPeer
