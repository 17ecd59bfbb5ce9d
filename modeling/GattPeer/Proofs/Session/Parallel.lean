import GattPeer.Proofs.Session.EvenSteps

/-!
# Parallel sessions

Between two steps, sessions run in parallel if they agree on everything but their devices and the
replies that are left over, and if their devices are companions. The same step takes them to
parallel sessions again. Once the services were resolved it also ends the same calls on both sides,
in the same way; before that, the calls may end differently, because the devices may be in different
states.
-/

namespace GattPeer

open Act (Together)

namespace Session

/-! ## Calls -/

section

variable {τ : Type} {s s' t t' u u' : Session τ} {resolved : Prop}

theorem outcome?_eq_of_outlook {d d' : Device} (h : d'.outlook = d.outlook) :
    outcome? d' = outcome? d := by
  have haddress : d'.address = d.address := congrArg Outlook.address h
  have hstate : d'.state = d.state := congrArg Outlook.state h
  have hresult : d'.result = d.result :=
    Device.result_eq_of_outlook haddress (congrArg Outlook.published h)
  funext answer
  rcases answer with failure | _ | purpose
  · rfl
  · rfl
  · have hexpire : (d'.expire ⟨0, purpose, []⟩).outcome = (d.expire ⟨0, purpose, []⟩).outcome :=
      Device.outcome_expire_eq d d' rfl
    simp only [outcome?, hstate, hresult, hexpire]

/-! ## What companions go through -/

/-- From two sessions to two others, whose devices are companions. Once the services were resolved,
the same calls end on the way. -/
def Accompany (resolved : Prop) (s s' t t' : Session τ) : Prop :=
  ∃ course course', t.happenings = s.happenings ++ course ∧
    t'.happenings = s'.happenings ++ course' ∧
    Device.Companions (resolved ∨ Resolves course) t.device t'.device ∧
    (resolved → endings course' = endings course)

theorem Accompany.trans (h : Accompany resolved s s' t t')
    (h' : ∀ {resolved : Prop}, Device.Companions resolved t.device t'.device →
      Accompany resolved t t' u u') : Accompany resolved s s' u u' := by
  obtain ⟨xs, xs', hxs, hxs', hcompanions, hends⟩ := h
  obtain ⟨ys, ys', hys, hys', hcompanions', hends'⟩ := h' hcompanions
  refine ⟨xs ++ ys, xs' ++ ys', ?_, ?_, hcompanions'.mono ?_, fun hresolved ↦ ?_⟩
  · rw [hys, hxs, List.append_assoc]
  · rw [hys', hxs', List.append_assoc]
  · rw [resolves_append, or_assoc]
    exact id
  · rw [endings_append, endings_append, hends hresolved, hends' (.inl hresolved)]

theorem accompany_of_marches (h : Device.Companions resolved s.device s'.device)
    (hmarches : Marches s s' t t') : Accompany resolved s s' t t' := by
  obtain ⟨-, batches, hgoes, hgoes'⟩ := hmarches
  obtain ⟨hcompanions, hends⟩ := h.replay batches
  refine ⟨_, _, hgoes.happenings, hgoes'.happenings, ?_, hends⟩
  rw [hgoes.device, hgoes'.device]
  exact hcompanions

theorem accompany_of_not_resolves {course course' : List Happening}
    (h : Device.Companions resolved t.device t'.device)
    (hcourse : t.happenings = s.happenings ++ course)
    (hcourse' : t'.happenings = s'.happenings ++ course') (hnot : ¬Resolves course)
    (hends : resolved → endings course' = endings course) : Accompany resolved s s' t t' :=
  ⟨course, course', hcourse, hcourse', h.mono fun hor ↦ hor.resolve_right hnot, hends⟩

/-- **The rest of a call on both sides**, which may make other notices on each. If the services were
resolved, it comes to the same; otherwise it may end on one side and wait on the other. -/
theorem accompany_proceed (h : Device.Companions resolved s.device s'.device) (id : Nat)
    (journal journal' : List Notice) (answer : Except Failure (Option Purpose)) :
    Accompany resolved s s' (s.proceed id journal answer) (s'.proceed id journal' answer) := by
  have hsame : resolved → outcome? s'.device answer = outcome? s.device answer :=
    fun hresolved ↦ congrFun (outcome?_eq_of_outlook (h.outlook hresolved)) answer
  -- Before the services were resolved the sides may differ, and then there is less to show.
  have hunresolved {o o' : Option (Except Failure Reading)} (ho : outcome? s.device answer = o)
      (ho' : outcome? s'.device answer = o') (hne : o' ≠ o) : ¬resolved :=
    fun hresolved ↦ hne (ho'.symm.trans ((hsame hresolved).trans ho))
  have hwaits (d : Device) (s : Session τ) :
      { s with device := d }.happenings = s.happenings ++ [] := (List.append_nil _).symm
  rcases proceed_cases s id journal answer with
    ⟨outcome, notices, houtcome, hproceed⟩ | ⟨purpose, hpurpose, houtcome, hproceed⟩
  · rcases proceed_cases s' id journal' answer with
      ⟨outcome', notices', houtcome', hproceed'⟩ | ⟨purpose', -, houtcome', hproceed'⟩
    · rw [hproceed, hproceed']
      refine accompany_of_not_resolves h (happenings_conclude ..) (happenings_conclude ..)
        (by simp [Resolves]) fun hresolved ↦ ?_
      have heq := hsame hresolved
      rw [houtcome, houtcome'] at heq
      rw [Option.some.inj heq]
      rfl
    · have hnot := hunresolved houtcome houtcome' (by simp)
      rw [hproceed, hproceed']
      exact accompany_of_not_resolves
        ⟨h.of_joined (.inl rfl) (.inr ⟨_, rfl⟩), (absurd · hnot)⟩
        (happenings_conclude ..) (hwaits ..) (by simp [Resolves]) (absurd · hnot)
  · rcases proceed_cases s' id journal' answer with
      ⟨outcome', notices', houtcome', hproceed'⟩ | ⟨purpose', hpurpose', -, hproceed'⟩
    · have hnot := hunresolved houtcome houtcome' (by simp)
      rw [hproceed, hproceed']
      exact accompany_of_not_resolves
        ⟨h.of_joined (.inr ⟨_, rfl⟩) (.inl rfl), (absurd · hnot)⟩
        (hwaits ..) (happenings_conclude ..) (by simp [Resolves]) (absurd · hnot)
    · obtain rfl : purpose = purpose' :=
        Option.some.inj (Except.ok.inj (hpurpose.symm.trans hpurpose'))
      rw [hproceed, hproceed']
      exact accompany_of_not_resolves (h.joinedBy rfl rfl) (hwaits ..) (hwaits ..)
        (by simp [Resolves]) fun _ ↦ rfl

theorem accompany_reachDeadline (id : Nat)
    (h : Device.Companions resolved s.device s'.device) :
    Accompany resolved s s' ((reachDeadline id).leaves s) ((reachDeadline id).leaves s') := by
  obtain ⟨hcompanions, hends⟩ := h.leftBy id
  have hcourse (s : Session τ) : ((reachDeadline id).leaves s).happenings
      = s.happenings ++ s.device.endedAt id := by
    rw [leaves_reachDeadline, happenings, List.filterMap_append, filterMap_happening?_course]
    rfl
  have hnot : ¬Resolves (s.device.endedAt id) := by
    rintro ⟨_, hmem⟩
    exact absurd (Device.isEnd_of_mem_endedAt hmem) Bool.false_ne_true
  refine accompany_of_not_resolves ?_ (hcourse s) (hcourse s') hnot hends
  rw [leaves_reachDeadline, leaves_reachDeadline]
  exact hcompanions

theorem accompany_announce (path uuid : String) (flags : PropertyFlags)
    (h : Device.Companions resolved s.device s'.device) :
    Accompany resolved s s' ((announce path uuid flags).leaves s)
      ((announce path uuid flags).leaves s') := by
  rw [leaves_announce, leaves_announce]
  cases hread : Announcement.read path uuid flags with
  | ok a =>
    obtain ⟨hdevice, houtcome⟩ := Device.announce_of_read hread s.device
    obtain ⟨hdevice', houtcome'⟩ := Device.announce_of_read hread s'.device
    rw [hdevice, hdevice', houtcome, houtcome']
    exact accompany_of_not_resolves (h.storing a) (happenings_changing ..)
      (happenings_changing ..) (by simp [Resolves, Except.toOption]) fun _ ↦ rfl
  | error failure =>
    obtain ⟨hdevice, houtcome⟩ := Device.announce_of_error hread s.device
    obtain ⟨hdevice', houtcome'⟩ := Device.announce_of_error hread s'.device
    rw [hdevice, hdevice', houtcome, houtcome']
    exact accompany_of_not_resolves h (happenings_changing ..) (happenings_changing ..)
      (by simp [Resolves, Except.toOption]) fun _ ↦ rfl

end

/-! ## Steps -/

variable {τ ρ σ : Type} [OperatedTransport τ ρ σ] {s s' : Session τ} {resolved : Prop}

theorem accompany_of_spawn {drive : Drive σ} {request : Act τ (Option Purpose)}
    (hact : drive.act = (do return .number (← spawn request) : Act τ Reading))
    (h : Device.Companions resolved s.device s'.device)
    (htogether : Together request request s.requesting s'.requesting)
    (hnext : s'.nextCall = s.nextCall) :
    Accompany resolved s s' (drive.act.leaves s) (drive.act.leaves s') := by
  obtain ⟨-, batches, hgoes, hgoes'⟩ := htogether.marches
  have hgoing := goes_rejoining hgoes
  have hgoing' := goes_rejoining hgoes'
  obtain ⟨hcompanions, hends⟩ := h.replay batches
  have hrequest : Accompany resolved s s' (s.rejoining (request.leaves s.requesting))
      (s'.rejoining (request.leaves s'.requesting)) := by
    refine ⟨_, _, hgoing.happenings, hgoing'.happenings, ?_, hends⟩
    rw [hgoing.device, hgoing'.device]
    exact hcompanions
  rw [leaves_act_of_spawn hact, leaves_act_of_spawn hact, htogether.answers, hnext]
  exact hrequest.trans fun h ↦ accompany_proceed h ..

theorem framed_proceed (s : Session τ) (id : Nat) (journal : List Notice)
    (answer : Except Failure (Option Purpose)) : Framed s (s.proceed id journal answer) := by
  rcases proceed_cases s id journal answer with ⟨_, _, -, hproceed⟩ | ⟨_, -, -, hproceed⟩
  · rw [hproceed]
    exact ⟨rfl, rfl, rfl, fun _ ↦ rfl, rfl, rfl⟩
  · rw [hproceed]
    exact ⟨rfl, rfl, rfl, fun _ ↦ rfl, rfl, rfl⟩

theorem framed_reachDeadline (id : Nat) (s : Session τ) :
    Framed s ((reachDeadline id).leaves s) := by
  rw [leaves_reachDeadline]
  exact ⟨rfl, rfl, rfl, fun _ ↦ rfl, rfl, rfl⟩

theorem Framed.loading (h : Framed s s') (replies : List ρ) :
    Abreast (s.loading replies) (s'.loading replies) :=
  ⟨h.config, h.token, h.nextCall, h.load replies, h.path, h.address⟩

variable [EvenTransport τ]

theorem kept_framed : Kept (Framed : Session τ → Session τ → Prop) :=
  ⟨fun _ _ ↦ framed_record _, fun s h ↦ EvenTransport.framed_perform s h⟩

theorem framed_advance_of_announces {drive : Drive σ} (h : drive.announces = true) (s : Session τ)
    (replies : List ρ) : Framed s (s.advance replies drive).1 := by
  obtain ⟨path, uuid, flags, rfl⟩ := drive.exists_eq_announce h
  have hloading : Framed s (s.loading replies) :=
    ⟨rfl, rfl, rfl, fun _ ↦ EvenTransport.load_load .., rfl, rfl⟩
  have hannounce : Framed (s.loading replies)
      ((announce path uuid flags).leaves (s.loading replies)) := framed_announce ..
  rw [advance_eq, leaves_act_announce]
  dsimp only
  exact trans_of Framed hloading hannounce

/-- **Any other step does the same to all but the devices**, whatever these know. -/
theorem Framed.advance (h : Framed s s') (replies : List ρ) {drive : Drive σ}
    (hdrive : drive.announces = false) :
    Framed (s.advance replies drive).1 (s'.advance replies drive).1 := by
  have hloading := h.loading replies
  rw [advance_eq, advance_eq]
  rcases cases_of_not_announces (τ := τ) hdrive with
    ⟨step, rfl, hplain⟩ | htogether | ⟨request, hact, htogether⟩ | ⟨id, rfl⟩
  · -- A plain operation may do different things on the two sides, but leaves each frame.
    have hleft : Framed (s.loading replies) ((carryOut step).leaves (s.loading replies)) :=
      kept_framed.carryOut hplain
    have hright : Framed (s'.loading replies) ((carryOut step).leaves (s'.loading replies)) :=
      kept_framed.carryOut hplain
    exact trans_of Framed hleft.symm (trans_of Framed hloading.framed hright)
  · exact (htogether hloading).marches.abreast.framed
  · have hrequest := (htogether hloading.requesting).marches.abreast.framed
    have hrejoining : Framed
        ((s.loading replies).rejoining (request.leaves (s.loading replies).requesting))
        ((s'.loading replies).rejoining (request.leaves (s'.loading replies).requesting)) :=
      ⟨hrequest.config, hrequest.token, hrequest.nextCall, hrequest.load, hrequest.path,
        hrequest.address⟩
    rw [leaves_act_of_spawn hact, leaves_act_of_spawn hact]
    exact trans_of Framed (framed_proceed ..).symm
      (trans_of Framed hrejoining (framed_proceed ..))
  · dsimp only
    rw [Drive.leaves_act_deadline, Drive.leaves_act_deadline]
    exact trans_of Framed (framed_reachDeadline id _).symm
      (trans_of Framed hloading.framed (framed_reachDeadline id _))

/-! ## Parallel sessions -/

/-- **Sessions run in parallel** between two steps if they agree on everything but their devices and
the replies that are left over, and if their devices are companions. -/
structure Parallel (resolved : Prop) (s s' : Session τ) : Prop where
  framed : Framed s s'
  companions : Device.Companions resolved s.device s'.device

theorem Parallel.accompany (h : Parallel resolved s s') (replies : List ρ) {drive : Drive σ}
    (hdefinite : drive.Definite τ s.device.attributes.announcements) :
    Accompany resolved (s.loading replies) (s'.loading replies)
      (drive.act.leaves (s.loading replies)) (drive.act.leaves (s'.loading replies)) := by
  have hloading := h.framed.loading replies
  have hcompanions :
      Device.Companions resolved (s.loading replies).device (s'.loading replies).device :=
    h.companions
  cases hdrive : drive.announces with
  | true =>
    obtain ⟨path, uuid, flags, rfl⟩ := drive.exists_eq_announce hdrive
    rw [leaves_act_announce, leaves_act_announce]
    exact accompany_announce path uuid flags hcompanions
  | false =>
    rcases cases_of_not_announces (τ := τ) hdrive with
      ⟨step, rfl, hplain⟩ | htogether | ⟨request, hact, htogether⟩ | ⟨id, rfl⟩
    · exact accompany_of_marches hcompanions
        (marches_carryOut hplain hloading hcompanions.toSiblings hdefinite)
    · exact accompany_of_marches hcompanions (htogether hloading).marches
    · exact accompany_of_spawn hact hcompanions (htogether hloading.requesting) hloading.nextCall
    · rw [Drive.leaves_act_deadline, Drive.leaves_act_deadline]
      exact accompany_reachDeadline id hcompanions

/-- **A definite step keeps sessions parallel.** If the services were resolved before, it ends the
same calls on both sides, in the same way. -/
theorem Parallel.advance (h : Parallel resolved s s') (replies : List ρ) {drive : Drive σ}
    (hdefinite : drive.Definite τ s.device.attributes.announcements) :
    Parallel (resolved ∨ Resolves (s.advance replies drive).2.happenings)
      (s.advance replies drive).1 (s'.advance replies drive).1 ∧
    (resolved → endings (s'.advance replies drive).2.happenings
      = endings (s.advance replies drive).2.happenings) := by
  have hframed : Framed (s.advance replies drive).1 (s'.advance replies drive).1 := by
    cases hdrive : drive.announces with
    | true =>
      have hleft := framed_advance_of_announces hdrive s replies
      have hright := framed_advance_of_announces hdrive s' replies
      exact trans_of Framed hleft.symm (trans_of Framed h.framed hright)
    | false => exact h.framed.advance replies hdrive
  obtain ⟨course, course', hcourse, hcourse', hcompanions, hends⟩ := h.accompany replies hdefinite
  have hhappenings : (s.advance replies drive).2.happenings = course := by
    rw [advance_eq]
    exact hcourse
  have hhappenings' : (s'.advance replies drive).2.happenings = course' := by
    rw [advance_eq]
    exact hcourse'
  refine ⟨⟨hframed, ?_⟩, ?_⟩
  · rw [hhappenings, advance_eq, advance_eq]
    exact hcompanions
  · rw [hhappenings, hhappenings']
    exact hends

/-- The steps of a run are definite, each among the attributes that are registered then. -/
def ReadsDefinitely (s : Session τ) : List (List ρ × Drive σ) → Prop
  | [] => True
  | (replies, drive) :: rest =>
    drive.Definite τ s.device.attributes.announcements ∧
      (s.advance replies drive).1.ReadsDefinitely rest

/-- **Definite steps keep sessions parallel.** -/
theorem Parallel.run (h : Parallel resolved s s') {drives : List (List ρ × Drive σ)}
    (hdefinite : s.ReadsDefinitely drives) :
    Parallel (resolved ∨ Resolves (history (s.run drives).2)) (s.run drives).1
      (s'.run drives).1 := by
  induction drives generalizing resolved s s' with
  | nil =>
    refine ⟨h.framed, h.companions.mono fun hor ↦ hor.resolve_right ?_⟩
    simp [Resolves, history, Session.run]
  | cons head drives ih =>
    obtain ⟨replies, drive⟩ := head
    obtain ⟨hfirst, hrest⟩ := hdefinite
    obtain ⟨hnext, -⟩ := h.advance replies hfirst
    rw [history_run_cons, resolves_append, ← or_assoc]
    exact ih hnext hrest

end Session

end GattPeer
