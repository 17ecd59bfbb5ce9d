import GattPeer.Proofs.Device.Waiting

/-!
# What discovery finds

Services count as resolved only together with ranges that are published at the same time. So while
they count as resolved, the published ranges are those of the announcements that were registered at
the last resolution, and the connection has not been dropped since. Whoever discovers looks at the
ranges in such a state only, at once or after a wait, and cannot find older ones.
-/

namespace GattPeer

/-! ## Histories -/

/-- The announcements that are registered after a history. -/
def registered (past : List Happening) : List Announcement :=
  past.foldl (fun announcements h ↦ match h with
    | .announced a => AttributeTable.store a announcements
    | _ => announcements) []

/-- Whether something that happens leaves the last resolution what it is: it is neither another
resolution nor the news that the connection is dropped. -/
def Happening.keepsResolution : Happening → Bool
  | .notified news _ => news ≠ .resolution true ∧ news ≠ .connection false
  | _ => true

/-- The ranges of the announcements that were registered at the last resolution, since which the
connection was not dropped. -/
def ResolvedTo (past : List Happening) (ranges : List Characteristic) : Prop :=
  ∃ early late, past = early ++ .notified (.resolution true) .servicesResolved :: late ∧
    (∀ h ∈ late, h.keepsResolution = true) ∧ ranges = Ranges.build (registered early)

theorem registered_append (past more : List Happening) :
    registered (past ++ more) = more.foldl (fun announcements h ↦ match h with
      | .announced a => AttributeTable.store a announcements
      | _ => announcements) (registered past) :=
  List.foldl_append

theorem registered_append_ended {past : List Happening} {ended : List Happening}
    (hended : ∀ h ∈ ended, h.isEnd = true) : registered (past ++ ended) = registered past := by
  rw [registered_append]
  induction ended generalizing past with
  | nil => rfl
  | cons h rest ih =>
    have hrest := fun h' hh' ↦ hended h' (List.mem_cons_of_mem _ hh')
    cases h with
    | ended e => exact ih hrest
    | _ => exact absurd (hended _ List.mem_cons_self) Bool.false_ne_true

theorem ResolvedTo.append {past more : List Happening} {ranges : List Characteristic}
    (h : ResolvedTo past ranges) (hmore : ∀ h ∈ more, h.keepsResolution = true) :
    ResolvedTo (past ++ more) ranges := by
  obtain ⟨early, late, rfl, hlate, hranges⟩ := h
  refine ⟨early, late ++ more, ?_, fun h hh ↦ ?_, hranges⟩
  · rw [List.append_assoc, List.cons_append]
  · exact (List.mem_append.mp hh).elim (hlate h) (hmore h)

theorem keepsResolution_of_isEnd {h : Happening} (hend : h.isEnd = true) :
    h.keepsResolution = true := by
  cases h with
  | ended e => rfl
  | _ => exact absurd hend Bool.false_ne_true

/-- What holds of every end in a history together with what happened before it. -/
def ForallEnds (P : List Happening → EndedCall → Prop) (past : List Happening) : Prop :=
  ∀ before e after, past = before ++ .ended e :: after → P before e

theorem ForallEnds.append {P : List Happening → EndedCall → Prop} {past more : List Happening}
    (h : ForallEnds P past)
    (hmore : ∀ before e after, more = before ++ .ended e :: after → P (past ++ before) e) :
    ForallEnds P (past ++ more) := by
  intro before e after hsplit
  rcases List.append_eq_append_iff.mp hsplit with ⟨mid, rfl, hmid⟩ | ⟨mid, hmid, hrest⟩
  · exact hmore mid e after hmid
  · cases mid with
    | nil =>
      rw [List.append_nil] at hmid
      rw [← hmid, ← List.append_nil past]
      exact hmore [] e after hrest.symm
    | cons x mid =>
      obtain ⟨rfl, -⟩ := List.cons.inj hrest
      exact h before e mid hmid

theorem ForallEnds.append_singleton {P : List Happening → EndedCall → Prop}
    {past : List Happening} {h : Happening} (hpast : ForallEnds P past)
    (hend : ∀ e, h = .ended e → P past e) : ForallEnds P (past ++ [h]) := by
  refine hpast.append fun before e after hsplit ↦ ?_
  cases before with
  | nil =>
    rw [List.append_nil]
    exact hend e (List.cons.inj hsplit).1
  | cons b bs => exact absurd (List.cons.inj hsplit).2.symm (by simp)

namespace Device

/-! ## Answers -/

/-- A call that ends with characteristics is one that discovers, and it ends with those in its range
of the ranges that the last resolution published. -/
def Answers (K : Call → Prop) (past : List Happening) (e : EndedCall) : Prop :=
  ∀ cs, e.outcome = .ok (.characteristics cs) → ∃ c first last ranges,
    K c ∧ c.id = e.id ∧ c.purpose = .discover first last ∧ ResolvedTo past ranges ∧
      cs = ranges.filter fun r ↦ first ≤ r.value && r.value ≤ last

/-- Only a call that discovers ends with characteristics, those in its range, and only in a state in
which the services count as resolved. -/
theorem finish_eq_characteristics {d : Device} {c : Call} {state : ConnectionState}
    {woken : Woken Call} {cs : List Characteristic}
    (hreact : (waiter c).react state = some woken)
    (h : (d.finish woken).outcome = .ok (.characteristics cs)) :
    ∃ first last, c.purpose = .discover first last ∧ state = .servicesResolved ∧
      cs = d.characteristicsIn first last := by
  obtain ⟨id, purpose, journal⟩ := c
  rw [react_waiter] at hreact
  cases purpose with
  | connect budget left =>
    cases state with
    | notConnected => exact nomatch hreact
    | connected =>
      obtain rfl := (Option.some.inj hreact).symm
      exact nomatch h
    | servicesResolved =>
      obtain rfl := (Option.some.inj hreact).symm
      exact nomatch h
  | discover first last =>
    cases state with
    | notConnected =>
      obtain rfl := (Option.some.inj hreact).symm
      exact nomatch h
    | connected => exact nomatch hreact
    | servicesResolved =>
      obtain rfl := (Option.some.inj hreact).symm
      exact ⟨first, last, rfl, rfl, (Reading.characteristics.inj (Except.ok.inj h)).symm⟩

variable {K : Call → Prop} {past : List Happening} {d : Device}

theorem answers_finish {c : Call} {state : ConnectionState} {woken : Woken Call} (hc : K c)
    (hreact : (waiter c).react state = some woken)
    (hresolved : state = .servicesResolved → ResolvedTo past d.characteristics) :
    Answers K past (d.finish woken) := by
  intro cs hcs
  obtain ⟨first, last, hpurpose, hstate, rfl⟩ := finish_eq_characteristics hreact hcs
  refine ⟨c, first, last, _, hc, ?_, hpurpose, hresolved hstate, rfl⟩
  rw [id_finish, Waiter.tag_of_react hreact]
  rfl

theorem answers_lastLook {w : Waiter Call} (hwaiter : w = waiter w.tag) (hw : K w.tag)
    (hresolved : d.state = .servicesResolved → ResolvedTo past d.characteristics) :
    Answers K past (d.lastLook w) := by
  rw [lastLook]
  cases hreact : w.react d.state with
  | some woken => exact answers_finish hw (hwaiter ▸ hreact) hresolved
  | none =>
    intro cs hcs
    change (d.expire w.tag).outcome = _ at hcs
    rw [expire] at hcs
    cases hpurpose : w.tag.purpose with
    | connect budget left =>
      rw [hpurpose] at hcs
      cases hcs
    | discover first last =>
      rw [hpurpose] at hcs
      cases hcs

/-! ## The invariant -/

/-- The device is what its past says, and everyone who discovered was answered accordingly. -/
structure Faithful (K : Call → Prop) (past : List Happening) (d : Device) : Prop where
  /-- The stored announcements are the registered ones. -/
  registered : d.attributes.announcements = registered past
  /-- While the services count as resolved, the ranges are those of the last resolution. -/
  resolved : d.state = .servicesResolved → ResolvedTo past d.characteristics
  /-- Those who wait are calls that were made. -/
  waiters : d.Waiters K
  /-- Every call that ended was answered accordingly. -/
  ends : ForallEnds (Answers K) past

theorem Faithful.notified (hregistered : d.attributes.announcements = GattPeer.registered past)
    (hwaiters : d.Waiters K)
    (hends : ForallEnds (Answers K) past) {news : News} {state : ConnectionState}
    (hresolved : state = .servicesResolved →
      ResolvedTo (past ++ [.notified news state]) d.characteristics) :
    Faithful K (past ++ .notified news state :: d.endedBy state) (d.seeing state) := by
  have hend : ∀ h ∈ d.endedBy state, h.isEnd = true := fun h hh ↦ isEnd_of_mem_endedBy hh
  have hsome : ∀ {ended : List Happening}, (∀ h ∈ ended, h ∈ d.endedBy state) →
      state = .servicesResolved →
      ResolvedTo (past ++ .notified news state :: ended) d.characteristics := by
    intro ended hended hstate
    rw [List.append_cons]
    exact (hresolved hstate).append fun h hh ↦ keepsResolution_of_isEnd (hend h (hended h hh))
  refine ⟨?_, hsome fun h hh ↦ hh, hwaiters.seeing state, ?_⟩
  · rw [List.append_cons, registered_append_ended hend, registered_append]
    exact hregistered
  · refine hends.append fun before e after hsplit ↦ ?_
    cases before with
    | nil => exact nomatch (List.cons.inj hsplit).1
    | cons b bs =>
      obtain ⟨rfl, hbs⟩ := List.cons.inj hsplit
      have hmem : .ended e ∈ d.endedBy state :=
        hbs ▸ List.mem_append_right _ List.mem_cons_self
      obtain ⟨woken, hwoken, he⟩ := List.mem_map.mp hmem
      obtain ⟨w, hw, hreact⟩ := List.mem_filterMap.mp hwoken
      obtain ⟨hwaiter, hK⟩ := hwaiters w hw
      rw [← Happening.ended.inj he]
      refine answers_finish hK (hwaiter ▸ hreact) (hsome fun h hh ↦ ?_)
      exact hbs ▸ List.mem_append_left _ hh

/-- **Everyone who discovers finds the ranges of the last resolution**, whatever moves are made. -/
theorem law_faithful (K : Call → Prop) : Law K (Faithful K) where
  merged {past d} changes h := by
    refine ⟨?_, fun hstate ↦ (h.resolved hstate).append (by simp [Happening.keepsResolution]),
      h.waiters, h.ends.append_singleton nofun⟩
    rw [registered_append]
    exact h.registered
  connection {past d} value h := by
    refine .notified h.registered h.waiters h.ends fun hstate ↦ ?_
    -- Only a device whose services count as resolved keeps that state, upon a connection.
    unfold stateUpon at hstate ⊢
    cases value with
    | false => exact nomatch hstate
    | true =>
      by_cases hd : d.state = .notConnected
      · rw [hd] at hstate
        exact nomatch hstate
      · simp only [Bool.not_true, hd] at hstate
        exact (h.resolved hstate).append (by simp [Happening.keepsResolution])
  resolved {past d} h := by
    have hregistered : d.republished.attributes.announcements = GattPeer.registered past :=
      h.registered
    refine .notified hregistered h.waiters h.ends fun _ ↦ ⟨past, [], rfl, nofun, ?_⟩
    rw [← h.registered]
    rfl
  unresolved {past d} h := by
    refine .notified h.registered h.waiters h.ends fun hstate ↦ ?_
    exact (h.resolved hstate).append (by simp [Happening.keepsResolution])
  announced {past d} a h := by
    refine ⟨?_, fun hstate ↦ (h.resolved hstate).append (by simp [Happening.keepsResolution]),
      h.waiters, h.ends.append_singleton nofun⟩
    rw [registered_append, ← h.registered]
    rfl
  joined h hc _ := ⟨h.registered, h.resolved, h.waiters.joinedBy hc, h.ends⟩
  answered {past d c woken} h hc hreact := by
    have hend : ∀ h ∈ [Happening.ended (d.finish woken)], h.isEnd = true := by
      simp [Happening.isEnd]
    refine ⟨?_, fun hstate ↦ (h.resolved hstate).append fun h hh ↦
      keepsResolution_of_isEnd (hend h hh), h.waiters, h.ends.append_singleton fun e he ↦ ?_⟩
    · rw [registered_append_ended hend]
      exact h.registered
    · rw [← Happening.ended.inj he]
      exact answers_finish hc hreact h.resolved
  closed {past d} id failure journal h := by
    refine ⟨?_, fun hstate ↦ (h.resolved hstate).append (by simp [Happening.keepsResolution]),
      h.waiters, h.ends.append_singleton fun e he cs hcs ↦ ?_⟩
    · rw [registered_append]
      exact h.registered
    · rw [← Happening.ended.inj he] at hcs
      cases failure with
      | none => exact nomatch hcs
      | some failure => exact nomatch hcs
  expired {past d} id h := by
    have hkeeps : ∀ h ∈ d.endedAt id, h.keepsResolution = true :=
      fun h hh ↦ keepsResolution_of_isEnd (isEnd_of_mem_endedAt hh)
    refine ⟨?_, fun hstate ↦ (h.resolved hstate).append hkeeps, h.waiters.leftBy id,
      h.ends.append fun before e after hsplit ↦ ?_⟩
    · rw [registered_append_ended fun h hh ↦ isEnd_of_mem_endedAt hh]
      exact h.registered
    · have hmem : .ended e ∈ d.endedAt id :=
        hsplit ▸ List.mem_append_right _ List.mem_cons_self
      obtain ⟨w, hw, he⟩ := List.mem_map.mp hmem
      obtain ⟨hwaiter, hK⟩ := h.waiters w (List.mem_filter.mp hw).1
      rw [← Happening.ended.inj he]
      refine answers_lastLook hwaiter hK fun hstate ↦ (h.resolved hstate).append fun h hh ↦ ?_
      exact hkeeps h (hsplit ▸ List.mem_append_left _ hh)

theorem faithful_initial (K : Call → Prop) (path address : String) :
    Faithful K [] (initial path address .notConnected) :=
  ⟨rfl, nofun, nofun, fun _ _ _ h ↦ absurd h.symm (by simp)⟩

end Device

end GattPeer
