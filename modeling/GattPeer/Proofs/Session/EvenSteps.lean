import GattPeer.Proofs.AttributeTable.Search
import GattPeer.Proofs.Device.Companions
import GattPeer.Proofs.Session.EvenTransports

/-!
# Steps of sessions abreast

What an operation does to sessions abreast depends on what it asks the device. Most operations ask
for nothing that could differ, and do the same. The plain ones look at attributes; if both devices
know the paths of the same attributes, these do the same too, with one exception: to read by type is
to read the attribute of that type which was announced first, and devices that learned of their
attributes in different orders may read different ones. That matters only if the transport takes the
path of one and refuses the path of the other.

Announcements are left out here, and calls are followed up to the point where they look at the
connection state.
-/

namespace GattPeer

open Act (Together)

/-! ## What is compared -/

/-- Whether an operation announces an attribute. -/
def Drive.announces {σ : Type} : Drive σ → Bool
  | .device (.announce ..) => true
  | _ => false

theorem Drive.exists_eq_announce {σ : Type} (drive : Drive σ) (h : drive.announces = true) :
    ∃ path uuid flags, drive = .device (.announce path uuid flags) := by
  unfold announces at h
  split at h
  · exact ⟨_, _, _, rfl⟩
  · exact absurd h Bool.false_ne_true

/-- An operation that reads by type is *definite* among announcements if the transport accepts the
paths of all that it looks for, or of none. Any other operation is definite. -/
def Drive.Definite (τ : Type) {ρ σ : Type} [OperatedTransport τ ρ σ] [EvenTransport τ]
    (as : List Announcement) : Drive σ → Prop
  | .device (.readByType c uuid) => ∀ a ∈ as, ∀ b ∈ as, a.Answers c uuid → b.Answers c uuid →
      EvenTransport.accepts τ a.path = EvenTransport.accepts τ b.path
  | _ => True

namespace Session

variable {τ ρ σ : Type} [OperatedTransport τ ρ σ] [EvenTransport τ] {s s' t t' : Session τ}

/-! ## Operations that ask for nothing that could differ -/

theorem together_listen (h : Abreast s s') : Together listen listen s s' := by
  refine .get_bind ?_
  rw [h.token, h.path, h.address]
  refine .ite ?_ (.pure h _)
  refine .bind (EvenTransport.together_perform _ h) fun token t t' h ↦ ?_
  refine .bind (.modify (.of_eq ?_ rfl rfl rfl rfl rfl rfl)) fun _ _ _ h ↦ .report _ _ h.abreast
  exact ⟨h.abreast.config, rfl, h.abreast.nextCall, h.abreast.transport, h.abreast.path,
    h.abreast.address⟩

theorem together_stopListening (h : Abreast s s') :
    Together stopListening stopListening s s' := by
  refine .get_bind ?_
  rw [h.token, h.address]
  cases s.token with
  | none => exact .pure h _
  | some token =>
    refine .bind (.set (.of_eq ?_ rfl rfl rfl rfl rfl rfl)) fun _ t t' h ↦ ?_
    · exact ⟨h.config, rfl, h.nextCall, h.transport, h.path, h.address⟩
    · exact .bind (.discard (EvenTransport.together_perform _ h.abreast)) fun _ _ _ h ↦
        .report _ _ h.abreast

theorem together_disconnect (h : Abreast s s') : Together disconnect disconnect s s' := by
  refine .get_bind ?_
  rw [h.path, h.config]
  exact .bind (.report _ _ h) fun _ _ _ h ↦ .discard (EvenTransport.together_perform _ h.abreast)

theorem together_connectAnswer (owner : String) (budget : Value) (elapsed : Number)
    (answer : Except Failure Value) (h : Abreast s s') :
    Together (connectAnswer owner budget elapsed answer)
      (connectAnswer owner budget elapsed answer) s s' := by
  unfold connectAnswer
  split
  · exact .bind (.ofExcept h _) fun _ _ _ h ↦ .pure h.abreast _
  · refine .ite (.bind (.report _ _ h) fun _ _ _ h ↦ .pure h.abreast _) (.ite ?_ (.throw h _))
    exact .bind (.report _ _ h) fun _ _ _ h ↦ .throw h.abreast _
  · exact .throw h _
  · exact .throw h _

theorem together_requestConnection (elapsed : Number) (h : Abreast s s') :
    Together (requestConnection elapsed) (requestConnection elapsed) s s' := by
  refine .get_bind ?_
  rw [h.config, h.path, h.address]
  refine .bind (.report _ _ h) fun _ t t' h ↦ ?_
  refine .bind (.attempt (EvenTransport.together_perform _ h.abreast)) fun answer _ _ h ↦ ?_
  exact together_connectAnswer _ _ _ answer h.abreast

omit [OperatedTransport τ ρ σ] [EvenTransport τ] in
theorem together_requestServices (first last : Int) (h : Abreast s s') :
    Together (requestServices first last) (requestServices first last) s s' :=
  .get_bind (.bind (.report _ _ h) fun _ _ _ h ↦ .pure h.abreast _)

/-! ## Operations on attributes -/

omit [OperatedTransport τ ρ σ] [EvenTransport τ] in
theorem Marches.announcements_eq (h : Marches s s' t t') :
    t.device.attributes.announcements = s.device.attributes.announcements ∧
      t'.device.attributes.announcements = s'.device.attributes.announcements := by
  obtain ⟨-, batches, hgoes, hgoes'⟩ := h
  constructor
  · rw [hgoes.device, Device.announcements_replay]
  · rw [hgoes'.device, Device.announcements_replay]

/-- Both devices know the paths of the same attributes. -/
def SamePaths (s s' : Session τ) : Prop :=
  ∀ number, s'.device.attributes.pathOf? number = s.device.attributes.pathOf? number

omit [OperatedTransport τ ρ σ] [EvenTransport τ] in
theorem SamePaths.of_marches (h : SamePaths s s') (hmarches : Marches s s' t t') :
    SamePaths t t' := by
  intro number
  obtain ⟨ht, ht'⟩ := hmarches.announcements_eq
  rw [AttributeTable.pathOf?, AttributeTable.pathOf?, ht, ht']
  exact h number

theorem together_readValue (c : Characteristic) (h : Abreast s s') (hpaths : SamePaths s s') :
    Together (readValue c) (readValue c) s s' := by
  refine .get_bind ?_
  rw [hpaths, h.config]
  cases s.device.attributes.pathOf? c.value with
  | none => exact .throw h _
  | some path => exact EvenTransport.together_perform _ h

theorem together_writeValue (c : Characteristic) (data : Value) (h : Abreast s s')
    (hpaths : SamePaths s s') : Together (writeValue c data) (writeValue c data) s s' := by
  refine .get_bind ?_
  rw [hpaths, h.config]
  cases s.device.attributes.pathOf? c.value with
  | none => exact .throw h _
  | some path =>
    exact .bind (.ofExcept h _) fun _ _ _ h ↦
      .discard (EvenTransport.together_perform _ h.abreast)

theorem together_exchangeValue (c : Characteristic) (data : Value) (h : Abreast s s')
    (hpaths : SamePaths s s') : Together (exchangeValue c data) (exchangeValue c data) s s' :=
  .bind (together_writeValue c data h hpaths) fun _ _ _ h ↦
    together_readValue c h.abreast (hpaths.of_marches h)

omit [EvenTransport τ] in
theorem leaves_readByType_of_mem {c : Characteristic} {uuid : String} {a : Announcement}
    (hdistinct : Ranges.Distinct s.device.attributes.announcements)
    (ha : a ∈ s.device.attributes.announcements)
    (hfind : s.device.attributes.find? uuid c.start c.stop = .ok (some a.unranged)) :
    (readByType c uuid).leaves s
      = (Transport.perform (.readValue a.path s.config.methodCallTimeout)).leaves s := by
  have hpath : s.device.attributes.pathOf? a.unranged.value = some a.path :=
    AttributeTable.pathOf?_of_mem hdistinct ha
  unfold readByType readValue
  rw [Act.leaves_get_bind, hfind]
  change (readValue a.unranged).leaves s = _
  unfold readValue
  rw [Act.leaves_get_bind, hpath]

omit [EvenTransport τ] in
theorem leaves_readByType_of_none {c : Characteristic} {uuid : String}
    (hfind : s.device.attributes.find? uuid c.start c.stop
      = (Uuid.parse uuid).map fun _ ↦ none) : (readByType c uuid).leaves s = s := by
  unfold readByType
  rw [Act.leaves_get_bind, hfind]
  cases Uuid.parse uuid <;> rfl

/-- **Reading by type does the same if it is definite.** Both sides find an attribute, or none. If
they find different ones, then the transport reads both or refuses both, and a refusal is only
reported. -/
theorem marches_readByType {c : Characteristic} {uuid : String} (h : Abreast s s')
    (hsiblings : Device.Siblings s.device s'.device)
    (hdefinite : Drive.Definite τ s.device.attributes.announcements
      (.device (.readByType c uuid) : Drive σ)) :
    Marches s s' ((readByType c uuid).leaves s) ((readByType c uuid).leaves s') := by
  have hmem {a : Announcement} : a ∈ s.device.attributes.announcements ↔
      a ∈ s'.device.attributes.announcements := hsiblings.perm.mem_iff
  rcases s.device.attributes.find?_cases c uuid with
    ⟨before, a, after, hsplit, -, hanswers, hfind⟩ | ⟨hnone, hfind⟩
  · have ha : a ∈ s.device.attributes.announcements :=
      hsplit ▸ List.mem_append_right _ List.mem_cons_self
    rcases s'.device.attributes.find?_cases c uuid with
      ⟨before', a', after', hsplit', -, hanswers', hfind'⟩ | ⟨hnone', -⟩
    · have ha' : a' ∈ s'.device.attributes.announcements :=
        hsplit' ▸ List.mem_append_right _ List.mem_cons_self
      have haccepts := hdefinite a ha a' (hmem.mpr ha') hanswers hanswers'
      rw [leaves_readByType_of_mem hsiblings.distinct ha hfind,
        leaves_readByType_of_mem (hsiblings.distinct.of_perm hsiblings.perm) ha' hfind', h.config]
      by_cases haccepted : EvenTransport.accepts τ a.path = true
      · exact (EvenTransport.together_readValue _ haccepted (haccepts ▸ haccepted) h).marches
      · have hrefused := Bool.eq_false_iff.mpr haccepted
        exact .of_notes h (EvenTransport.notes_readValue _ s hrefused)
          (EvenTransport.notes_readValue _ s' (haccepts ▸ hrefused))
    · exact absurd hanswers (hnone' a (hmem.mp ha))
  · rcases s'.device.attributes.find?_cases c uuid with
      ⟨before', a', after', hsplit', -, hanswers', -⟩ | ⟨-, hfind'⟩
    · have ha' : a' ∈ s'.device.attributes.announcements :=
        hsplit' ▸ List.mem_append_right _ List.mem_cons_self
      exact absurd hanswers' (hnone a' (hmem.mpr ha'))
    · rw [leaves_readByType_of_none hfind, leaves_readByType_of_none hfind']
      exact .refl h

/-- **Plain operations do the same if they are definite**, in sessions whose devices learned of the
same attributes. -/
theorem marches_carryOut {step : Step} (hplain : step.isPlain = true) (h : Abreast s s')
    (hsiblings : Device.Siblings s.device s'.device)
    (hdefinite : Drive.Definite τ s.device.attributes.announcements (.device step : Drive σ)) :
    Marches s s' ((carryOut step).leaves s) ((carryOut step).leaves s') := by
  have hpaths : SamePaths s s' := hsiblings.pathOf?_eq
  have hreturn {α β : Type} {x : Act τ α} {f : α → β} (hx : Together x x s s') :
      Marches s s' ((x >>= fun a ↦ pure (f a)).leaves s)
        ((x >>= fun a ↦ pure (f a)).leaves s') := by
    rw [Act.leaves_return, Act.leaves_return]
    exact hx.marches
  cases step with
  | disconnect => exact hreturn (together_disconnect h)
  | read c => exact hreturn (together_readValue c h hpaths)
  | write c data => exact hreturn (together_writeValue c data h hpaths)
  | exchange c data => exact hreturn (together_exchangeValue c data h hpaths)
  | readByType c uuid =>
    unfold carryOut
    dsimp only
    rw [Act.leaves_return, Act.leaves_return]
    exact marches_readByType h hsiblings hdefinite
  | listen => exact absurd hplain Bool.false_ne_true
  | stopListening => exact absurd hplain Bool.false_ne_true
  | receive batch => exact absurd hplain Bool.false_ne_true
  | announce path uuid flags => exact absurd hplain Bool.false_ne_true
  | connect elapsed => exact absurd hplain Bool.false_ne_true
  | discover first last => exact absurd hplain Bool.false_ne_true
  | _ => exact .refl h

/-! ## Any operation -/

omit [EvenTransport τ] in
theorem leaves_act_announce (path uuid : String) (flags : PropertyFlags) (s : Session τ) :
    (Drive.device (.announce path uuid flags) : Drive σ).act.leaves s
      = (announce path uuid flags).leaves s :=
  Act.leaves_return _ (fun _ ↦ Reading.nothing) _

/-- **Three kinds of operations** announce nothing: the plain ones, those that do the same in all
sessions abreast, and those that start a call, whose first part does the same. Nor does time. -/
theorem cases_of_not_announces {drive : Drive σ} (h : drive.announces = false) :
    (∃ step, drive = .device step ∧ step.isPlain = true) ∨
    (∀ {s s' : Session τ}, Abreast s s' → Together drive.act drive.act s s') ∨
    (∃ request : Act τ (Option Purpose), drive.act = (do return .number (← spawn request)) ∧
      ∀ {s s' : Session τ}, Abreast s s' → Together request request s s') ∨
    ∃ id, drive = .deadline id := by
  cases drive with
  | transport step => exact .inr (.inl (EvenTransport.together_carryOutOwn step))
  | deadline id => exact .inr (.inr (.inr ⟨id, rfl⟩))
  | device step =>
    cases step with
    | announce path uuid flags => exact absurd h.symm Bool.false_ne_true
    | listen =>
      exact .inr (.inl fun h ↦ .bind (together_listen h) fun _ _ _ h ↦ .pure h.abreast _)
    | stopListening =>
      exact .inr (.inl fun h ↦ .bind (together_stopListening h) fun _ _ _ h ↦ .pure h.abreast _)
    | receive batch =>
      exact .inr (.inl fun h ↦ .bind (together_deliver _ batch h) fun _ _ _ h ↦
        .pure h.abreast _)
    | connect elapsed => exact .inr (.inr (.inl ⟨_, rfl, together_requestConnection elapsed⟩))
    | discover first last =>
      exact .inr (.inr (.inl ⟨_, rfl, together_requestServices first last⟩))
    | _ => exact .inl ⟨_, rfl, rfl⟩

end Session

end GattPeer
