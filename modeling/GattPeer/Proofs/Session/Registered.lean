import GattPeer.Proofs.AttributeTable.FirstCome
import GattPeer.Proofs.Session.EvenSteps
import GattPeer.Proofs.Session.Sifting

/-!
# What is registered

In a session an attribute is registered by an announcement and in no other way, and none is ever
forgotten. A transport may deliver batches while it carries out a command, but it announces nothing
of its own; nor does it change the settings. So what is registered at the end of a run can be read
off its operations, whatever else they did and however the surroundings answered.
-/

namespace GattPeer

/-- The attribute that an operation announces, if it can be read. -/
def Drive.announced? {σ : Type} : Drive σ → Option Announcement
  | .device (.announce path uuid flags) => (Announcement.read path uuid flags).toOption
  | _ => none

def arrivals {ρ σ : Type} (drives : List (List ρ × Drive σ)) : List Announcement :=
  drives.filterMap (·.2.announced?)

theorem Drive.announced?_of_not_announces {σ : Type} {drive : Drive σ}
    (h : drive.announces = false) : drive.announced? = none := by
  unfold announced?
  split
  · exact absurd h.symm Bool.false_ne_true
  · rfl

theorem Drive.exists_read_of_announced? {σ : Type} {drive : Drive σ} {a : Announcement}
    (h : drive.announced? = some a) :
    ∃ path uuid flags, Announcement.read path uuid flags = .ok a := by
  unfold announced? at h
  split at h
  · next path uuid flags =>
    cases hread : Announcement.read path uuid flags with
    | error failure =>
      rw [hread] at h
      exact nomatch h
    | ok read =>
      rw [hread] at h
      exact ⟨path, uuid, flags, hread.trans (congrArg Except.ok (Option.some.inj h))⟩
  · exact nomatch h

namespace Session

open Act (Together)

section

variable {τ : Type} {s t : Session τ}

/-- From one session to another with the same settings, in which the same attributes are
registered. -/
structure Retains (s t : Session τ) : Prop where
  config : t.config = s.config
  announcements : t.device.attributes.announcements = s.device.attributes.announcements

instance : IsPreorder (Session τ) Retains where
  refl _ := ⟨rfl, rfl⟩
  trans _ _ _ h h' := ⟨h'.config.trans h.config, h'.announcements.trans h.announcements⟩

theorem Retains.pathOf?_eq (h : Retains s t) (number : Int) :
    t.device.attributes.pathOf? number = s.device.attributes.pathOf? number := by
  rw [AttributeTable.pathOf?, AttributeTable.pathOf?, h.announcements]

theorem retains_of_together {α : Type} {x : Act τ α} (h : Together x x s s) :
    x.Keeps Retains s := by
  obtain ⟨-, batches, hgoes, -⟩ := h.marches
  exact ⟨hgoes.config, h.marches.announcements_eq.1⟩

theorem retains_report (n : Notice) (s : Session τ) : (Act.report n).Keeps Retains s :=
  .modify ⟨rfl, rfl⟩

theorem retains_deliver (author : Author) (batch : Batch) (s : Session τ) :
    (Act.deliver author batch).Keeps Retains s :=
  retains_of_together (together_deliver author batch (.refl s))

/-- **Starting a call retains what there is** if its first part does. -/
theorem retains_spawn {request : Act τ (Option Purpose)}
    (hrequest : request.Keeps Retains s.requesting) : (spawn request).Keeps Retains s := by
  rw [Act.Keeps, Act.leaves, spawn_eq]
  have hrejoining : Retains s (s.rejoining (request.leaves s.requesting)) :=
    ⟨hrequest.config, hrequest.announcements⟩
  have hframing := framing_proceed (s.rejoining (request.leaves s.requesting)) s.nextCall
    (callerNotices (request.leaves s.requesting).trace) (request.answers s.requesting)
  exact trans_of Retains hrejoining
    ⟨hframing.config, congrArg AttributeTable.announcements hframing.attributes⟩

end

end Session

open Session

/-- A transport that changes no settings and registers no attribute. -/
class RetainingTransport (τ : Type) {ρ σ : outParam Type} [OperatedTransport τ ρ σ] : Prop where
  /-- Commands retain what there is. -/
  retains_perform : ∀ (command : Command) (s : Session τ),
    (Transport.perform command).Keeps Retains s
  /-- So do operations on the transport. -/
  retains_carryOutOwn : ∀ (step : σ) (s : Session τ),
    (OperatedTransport.carryOutOwn step).Keeps Retains s

/-- Even transports give the device nothing but batches. -/
instance {τ ρ σ : Type} [OperatedTransport τ ρ σ] [EvenTransport τ] : RetainingTransport τ where
  retains_perform command s :=
    retains_of_together (EvenTransport.together_perform command (.refl s))
  retains_carryOutOwn step s :=
    retains_of_together (EvenTransport.together_carryOutOwn step (.refl s))

namespace Session

variable {τ ρ σ : Type} [OperatedTransport τ ρ σ] [RetainingTransport τ] {s : Session τ}

/-! ## Operations -/

theorem kept_retains : Kept (Retains : Session τ → Session τ → Prop) :=
  ⟨retains_report, fun s _ ↦ RetainingTransport.retains_perform _ s⟩

theorem retains_listen : (listen : Act τ Unit).Keeps Retains s := by
  refine .get_bind (.ite ?_ (.pure _))
  refine .bind (RetainingTransport.retains_perform ..) fun token s' ↦ ?_
  exact .bind (.modify ⟨rfl, rfl⟩) fun _ _ ↦ retains_report ..

theorem retains_stopListening : (stopListening : Act τ Unit).Keeps Retains s := by
  refine .get_bind ?_
  cases s.token with
  | none => exact .pure _
  | some token =>
    refine .bind (.set ⟨rfl, rfl⟩) fun _ s' ↦ ?_
    exact .bind (.discard (RetainingTransport.retains_perform ..)) fun _ _ ↦ retains_report ..

/-- **Nothing but an announcement registers an attribute.** -/
theorem retains_act {drive : Drive σ} (h : drive.announces = false) (s : Session τ) :
    drive.act.Keeps Retains s := by
  cases drive with
  | transport step => exact RetainingTransport.retains_carryOutOwn step s
  | deadline id =>
    have hframing := framing_reachDeadline id s
    rw [Act.Keeps, Drive.leaves_act_deadline]
    exact ⟨hframing.config, congrArg AttributeTable.announcements hframing.attributes⟩
  | device step =>
    change (carryOut step).Keeps Retains s
    cases step with
    | announce path uuid flags => exact absurd h.symm Bool.false_ne_true
    | listen => exact .bind retains_listen fun _ _ ↦ .pure _
    | stopListening => exact .bind retains_stopListening fun _ _ ↦ .pure _
    | receive batch => exact .bind (retains_deliver ..) fun _ _ ↦ .pure _
    | connect elapsed =>
      exact .bind (retains_spawn (kept_retains.requestConnection _)) fun _ _ ↦ .pure _
    | discover first last =>
      exact .bind (retains_spawn (kept_retains.requestServices ..)) fun _ _ ↦ .pure _
    | _ => exact kept_retains.carryOut rfl

/-! ## Steps and runs -/

theorem retains_advance (s : Session τ) (replies : List ρ) {drive : Drive σ}
    (h : drive.announces = false) : Retains s (s.advance replies drive).1 := by
  have hloading : Retains s (s.loading replies) := ⟨rfl, rfl⟩
  rw [advance_eq]
  exact trans_of Retains hloading (retains_act h _)

theorem registered_advance (s : Session τ) (replies : List ρ) (drive : Drive σ) :
    (s.advance replies drive).1.config = s.config ∧
      (s.advance replies drive).1.device.attributes.announcements
        = drive.announced?.toList.foldl (fun as a ↦ AttributeTable.store a as)
            s.device.attributes.announcements := by
  cases hdrive : drive.announces with
  | false =>
    have hretains := retains_advance s replies hdrive
    rw [Drive.announced?_of_not_announces hdrive]
    exact ⟨hretains.config, hretains.announcements⟩
  | true =>
    obtain ⟨path, uuid, flags, rfl⟩ := drive.exists_eq_announce hdrive
    rw [advance_eq, leaves_act_announce, leaves_announce, Drive.announced?]
    refine ⟨rfl, ?_⟩
    cases hread : Announcement.read path uuid flags with
    | ok a =>
      rw [(Device.announce_of_read hread _).1]
      rfl
    | error failure =>
      rw [(Device.announce_of_error hread _).1]
      rfl

theorem config_run (s : Session τ) (drives : List (List ρ × Drive σ)) :
    (s.run drives).1.config = s.config := by
  induction drives generalizing s with
  | nil => rfl
  | cons head drives ih =>
    obtain ⟨replies, drive⟩ := head
    rw [run_cons, ih, (registered_advance s replies drive).1]

/-- **What is registered after a run** are the attributes that arrived in it. -/
theorem announcements_run (s : Session τ) (drives : List (List ρ × Drive σ)) :
    (s.run drives).1.device.attributes.announcements
      = (arrivals drives).foldl (fun as a ↦ AttributeTable.store a as)
          s.device.attributes.announcements := by
  induction drives generalizing s with
  | nil => rfl
  | cons head drives ih =>
    obtain ⟨replies, drive⟩ := head
    have harrivals : arrivals ((replies, drive) :: drives)
        = drive.announced?.toList ++ arrivals drives := by
      rw [arrivals, List.filterMap_cons]
      cases drive.announced? <;> rfl
    rw [run_cons, ih, (registered_advance s replies drive).2, harrivals, List.foldl_append]

theorem announcements_run_start (transport : τ) (path : Option String) (address : String)
    (config : Setup) (drives : List (List ρ × Drive σ)) :
    ((start transport path address config).run drives).1.device.attributes.announcements
      = AttributeTable.stored (arrivals drives) :=
  announcements_run ..

end Session

end GattPeer
