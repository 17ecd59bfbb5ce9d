import GattPeer.Proofs.Session.Alongside
import GattPeer.Proofs.Session.Moves

/-!
# Maps of transports

A session knows its transport only by what it does. If transports of one kind are mapped to those of
another, and the map commutes with the commands, with the operations on a transport and with the
loading of a script, then a session over the image of its transport is the session itself in all
other respects: whatever is carried out in it ends in the same way and with the same report, and
leaves the same session over the image.

The rules follow the operations down to the commands, in both sessions at once.
-/

namespace GattPeer

open Act (Alongside)

namespace Session

section

variable {τ τ' : Type} {f : τ → τ'} {s : Session τ}

def mapTransport (f : τ → τ') (s : Session τ) : Session τ' := { s with transport := f s.transport }

@[simp] theorem device_mapTransport (s : Session τ) : (s.mapTransport f).device = s.device := rfl

@[simp] theorem config_mapTransport (s : Session τ) : (s.mapTransport f).config = s.config := rfl

@[simp] theorem token_mapTransport (s : Session τ) : (s.mapTransport f).token = s.token := rfl

/-- Two actions do the same, one in a session and the other one over the image of its transport. -/
def Commutes {α : Type} (f : τ → τ') (x : Act τ α) (y : Act τ' α) (s : Session τ) : Prop :=
  Alongside (fun t t' ↦ t' = t.mapTransport f) x y s (s.mapTransport f)

/-! ## Rules -/

namespace Commutes

variable {α β : Type} {x : Act τ α} {y : Act τ' α}

theorem of_ok {a : α} {t : Session τ} (hx : x s = .ok a t)
    (hy : y (s.mapTransport f) = .ok a (t.mapTransport f)) : Commutes f x y s :=
  Alongside.of_ok hx hy rfl

theorem of_error {failure : Failure} {t : Session τ} (hx : x s = .error failure t)
    (hy : y (s.mapTransport f) = .error failure (t.mapTransport f)) : Commutes f x y s :=
  Alongside.of_error hx hy rfl

theorem pure (a : α) : Commutes f (pure a) (pure a) s := ⟨rfl, rfl⟩

theorem throw (failure : Failure) :
    Commutes f (throw failure : Act τ α) (MonadExcept.throw failure) s := ⟨rfl, rfl⟩

theorem ofExcept (e : Except Failure α) : Commutes f (Act.ofExcept e) (Act.ofExcept e) s := by
  cases e with
  | ok a => exact .pure a
  | error failure => exact .throw failure

theorem bind {g : α → Act τ β} {g' : α → Act τ' β} (hx : Commutes f x y s)
    (hg : ∀ a t, Commutes f (g a) (g' a) t) : Commutes f (x >>= g) (y >>= g') s :=
  Alongside.bind hx fun a t _ h ↦ h ▸ hg a t

theorem get_bind {g : Session τ → Act τ α} {g' : Session τ' → Act τ' α}
    (h : Commutes f (g s) (g' (s.mapTransport f)) s) :
    Commutes f (get >>= g) (get >>= g') s :=
  Alongside.get_bind h

theorem modify {g : Session τ → Session τ} {g' : Session τ' → Session τ'}
    (h : g' (s.mapTransport f) = (g s).mapTransport f) :
    Commutes f (modify g) (modify g') s :=
  Alongside.modify h

theorem discard (hx : Commutes f x y s) : Commutes f (discard x) (Functor.discard y) s :=
  Alongside.discard hx

theorem attempt (hx : Commutes f x y s) : Commutes f x.attempt y.attempt s :=
  Alongside.attempt hx

theorem ite {c : Prop} [Decidable c] {x' : Act τ α} {y' : Act τ' α} (hx : Commutes f x y s)
    (hx' : Commutes f x' y' s) : Commutes f (if c then x else x') (if c then y else y') s :=
  Alongside.ite hx hx'

end Commutes

/-! ## Parts of operations that leave the transport alone -/

theorem commutes_report (n : Notice) (s : Session τ) :
    Commutes f (Act.report n) (Act.report n) s := ⟨rfl, rfl⟩

theorem commutes_deliver (author : Author) (batch : Batch) (s : Session τ) :
    Commutes f (Act.deliver author batch) (Act.deliver author batch) s := by
  have hs := deliver_apply author batch s
  have hs' := deliver_apply author batch (s.mapTransport f)
  rw [device_mapTransport] at hs'
  cases hreceive : s.device.receive batch with
  | error failure =>
    rw [hreceive] at hs hs'
    exact .of_error hs hs'
  | ok result =>
    rw [hreceive] at hs hs'
    exact .of_ok hs hs'

theorem commutes_announce (path uuid : String) (flags : PropertyFlags) (s : Session τ) :
    Commutes f (announce path uuid flags) (announce path uuid flags) s := by
  constructor
  · rw [answers_announce, answers_announce, device_mapTransport]
  · rw [leaves_announce, leaves_announce, device_mapTransport]
    rfl

theorem commutes_connectAnswer (owner : String) (budget : Value) (elapsed : Number)
    (answer : Except Failure Value) (s : Session τ) :
    Commutes f (connectAnswer owner budget elapsed answer)
      (connectAnswer owner budget elapsed answer) s := by
  unfold connectAnswer
  split
  · exact .bind (.ofExcept _) fun _ _ ↦ .pure _
  · refine .ite (.bind (commutes_report _ s) fun _ _ ↦ .pure _) (.ite ?_ (.throw _))
    exact .bind (commutes_report _ s) fun _ _ ↦ .throw _
  · exact .throw _
  · exact .throw _

@[simp] theorem mapTransport_await (s : Session τ) (c : Call) :
    (s.await c).mapTransport f = (s.mapTransport f).await c := by
  rw [await, await, device_mapTransport]
  rcases s.device.monitor.await ⟨c.purpose.condition, c⟩ with ⟨monitor, woken | woken⟩
  · dsimp only
    split
    · rfl
    · split <;> rfl
  · rfl

theorem commutes_reachDeadline (id : Nat) (s : Session τ) :
    Commutes f (reachDeadline id) (reachDeadline id) s := by
  refine ⟨rfl, ?_⟩
  rw [leaves_reachDeadline, leaves_reachDeadline, device_mapTransport]
  rfl

@[simp] theorem mapTransport_proceed (s : Session τ) (id : Nat) (journal : List Notice)
    (answer : Except Failure (Option Purpose)) :
    (s.proceed id journal answer).mapTransport f
      = (s.mapTransport f).proceed id journal answer := by
  rcases answer with failure | _ | purpose
  · rfl
  · rfl
  · exact mapTransport_await ..

/-- **Starting a call does the same** if its first part does. -/
theorem commutes_spawn {request : Act τ (Option Purpose)} {request' : Act τ' (Option Purpose)}
    (hrequest : Commutes f request request' s.requesting) :
    Commutes f (spawn request) (spawn request') s := by
  obtain ⟨hanswers, hleaves⟩ := hrequest
  have hrequesting : (s.mapTransport f).requesting = s.requesting.mapTransport f := rfl
  refine Alongside.of_ok (spawn_eq request s) (spawn_eq request' (s.mapTransport f)) ?_
  rw [hrequesting, hanswers, hleaves, mapTransport_proceed]
  rfl

end

end Session

/-! ## The property -/

/-- A map of transports that commutes with all that transports do. -/
structure IsTransportMap {τ τ' ρ σ : Type} [OperatedTransport τ ρ σ] [OperatedTransport τ' ρ σ]
    (f : τ → τ') : Prop where
  /-- The same script is loaded. -/
  load : ∀ (replies : List ρ) (t : τ), f (Transport.load replies t) = Transport.load replies (f t)
  /-- Commands do the same. -/
  perform : ∀ (command : Command) (s : Session τ),
    s.Commutes f (Transport.perform command) (Transport.perform command)
  /-- Operations on the transport do the same. -/
  carryOutOwn : ∀ (step : σ) (s : Session τ),
    s.Commutes f (OperatedTransport.carryOutOwn step) (OperatedTransport.carryOutOwn step)

namespace IsTransportMap

open Session

variable {τ τ' ρ σ : Type} [OperatedTransport τ ρ σ] [OperatedTransport τ' ρ σ] {f : τ → τ'}
  (h : IsTransportMap f)

include h

/-! ## Operations -/

theorem readValue (c : Characteristic) (s : Session τ) :
    Commutes f (Session.readValue c) (Session.readValue c) s := by
  refine .get_bind ?_
  rw [device_mapTransport, config_mapTransport]
  cases s.device.attributes.pathOf? c.value with
  | none => exact .throw _
  | some path => exact h.perform _ s

theorem writeValue (c : Characteristic) (data : Value) (s : Session τ) :
    Commutes f (Session.writeValue c data) (Session.writeValue c data) s := by
  refine .get_bind ?_
  rw [device_mapTransport, config_mapTransport]
  cases s.device.attributes.pathOf? c.value with
  | none => exact .throw _
  | some path => exact .bind (.ofExcept _) fun bytes t ↦ .discard (h.perform _ t)

theorem readByType (c : Characteristic) (uuid : String) (s : Session τ) :
    Commutes f (Session.readByType c uuid) (Session.readByType c uuid) s := by
  refine .get_bind ?_
  rw [device_mapTransport]
  refine .bind (.ofExcept _) fun found t ↦ ?_
  cases found with
  | none => exact .throw _
  | some found => exact h.readValue found t

theorem listen (s : Session τ) : Commutes f Session.listen Session.listen s := by
  refine .get_bind ?_
  rw [token_mapTransport, device_mapTransport]
  refine .ite (.bind (h.perform _ s) fun token t ↦ ?_) (.pure _)
  exact .bind (.modify rfl) fun _ t ↦ commutes_report _ t

theorem stopListening (s : Session τ) :
    Commutes f Session.stopListening Session.stopListening s := by
  refine .get_bind ?_
  rw [token_mapTransport, device_mapTransport]
  cases s.token with
  | none => exact .pure _
  | some token =>
    have hset : Commutes f (set { s with token := none })
        (set { s.mapTransport f with token := none }) s := ⟨rfl, rfl⟩
    exact .bind hset fun _ t ↦ .bind (.discard (h.perform _ t)) fun _ t ↦ commutes_report _ t

theorem disconnect (s : Session τ) : Commutes f Session.disconnect Session.disconnect s := by
  refine .get_bind ?_
  rw [device_mapTransport, config_mapTransport]
  exact .bind (commutes_report _ s) fun _ t ↦ .discard (h.perform _ t)

theorem requestConnection (elapsed : Number) (s : Session τ) :
    Commutes f (Session.requestConnection elapsed) (Session.requestConnection elapsed) s := by
  refine .get_bind ?_
  rw [device_mapTransport, config_mapTransport]
  refine .bind (commutes_report _ s) fun _ t ↦ .bind (.attempt (h.perform _ t)) fun answer t ↦ ?_
  exact commutes_connectAnswer _ _ elapsed answer t

omit h in
theorem requestServices (first last : Int) (s : Session τ) :
    Commutes f (Session.requestServices first last) (Session.requestServices first last) s :=
  .get_bind (.bind (commutes_report _ s) fun _ _ ↦ .pure _)

/-- **Each operation commutes with the map.** -/
theorem act (drive : Drive σ) (s : Session τ) : Commutes f drive.act drive.act s := by
  have hreturn {α : Type} {x : Act τ α} {y : Act τ' α} {g : α → Reading}
      (hx : Commutes f x y s) :
      Commutes f (x >>= fun a ↦ pure (g a)) (y >>= fun a ↦ pure (g a)) s :=
    .bind hx fun _ _ ↦ .pure _
  cases drive with
  | transport step => exact h.carryOutOwn step s
  | deadline id => exact hreturn (commutes_reachDeadline id s)
  | device step =>
    change Commutes f (carryOut step) (carryOut step) s
    cases step with
    | address => exact .get_bind (.pure _)
    | path => exact .get_bind (.pure _)
    | state => exact .get_bind (.pure _)
    | isConnected => exact .get_bind (.pure _)
    | title => exact .get_bind (.pure _)
    | description => exact .get_bind (.pure _)
    | advertisement => exact .get_bind (.pure _)
    | characteristics => exact .get_bind (.pure _)
    | listen => exact hreturn (h.listen s)
    | stopListening => exact hreturn (h.stopListening s)
    | disconnect => exact hreturn (h.disconnect s)
    | receive batch => exact hreturn (commutes_deliver _ batch s)
    | announce path uuid flags => exact hreturn (commutes_announce path uuid flags s)
    | read c => exact hreturn (h.readValue c s)
    | write c data => exact hreturn (h.writeValue c data s)
    | exchange c data => exact hreturn (.bind (h.writeValue c data s) fun _ t ↦ h.readValue c t)
    | readByType c uuid => exact hreturn (h.readByType c uuid s)
    | unavailable name => exact .throw _
    | rejected failure => exact .throw _
    | connect elapsed =>
      exact hreturn (commutes_spawn (h.requestConnection elapsed s.requesting))
    | discover first last =>
      exact hreturn (commutes_spawn (requestServices first last s.requesting))

/-! ## Steps -/

/-- **A step does the same over the image of the transport**, and its report is the same. -/
theorem advance (s : Session τ) (replies : List ρ) (drive : Drive σ) :
    (s.mapTransport f).advance replies drive
      = ((s.advance replies drive).1.mapTransport f, (s.advance replies drive).2) := by
  have hloading : (s.mapTransport f).loading replies = (s.loading replies).mapTransport f := by
    rw [loading, loading, mapTransport, mapTransport, h.load]
  obtain ⟨hanswers, hleaves⟩ := h.act drive (s.loading replies)
  rw [advance_eq, advance_eq, hloading, hanswers, hleaves]
  rfl

end IsTransportMap

end GattPeer
