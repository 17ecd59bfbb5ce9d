import GattPeer.Proofs.AttributeTable.Latest
import GattPeer.Proofs.Device.Waiting

/-!
# Companions

Two devices that learned of the same attributes in different orders, and that may have lived through
different connections before. They are told the same from now on. Once the services are resolved
they look alike to everyone who calls them: what is published does not depend on the order, the
state is the same, and nobody waits on either side. From there on the same calls end in the same
way.

The notices that a call makes are left out of the comparison, and so are the advertised properties;
no call depends on them.
-/

namespace GattPeer

/-! ## What callers see -/

def endings (course : List Happening) : List (Nat × Except Failure Reading) :=
  (course.filterMap Happening.ended?).map fun e ↦ (e.id, e.outcome)

@[simp] theorem endings_append (xs ys : List Happening) :
    endings (xs ++ ys) = endings xs ++ endings ys := by
  rw [endings, List.filterMap_append, List.map_append]
  rfl

/-- Whether a course of events tells that the services were resolved. -/
def Resolves (course : List Happening) : Prop :=
  ∃ state, .notified (.resolution true) state ∈ course

theorem resolves_append {xs ys : List Happening} :
    Resolves (xs ++ ys) ↔ Resolves xs ∨ Resolves ys := by
  simp only [Resolves, List.mem_append, exists_or]

/-- What of a device matters to those who call it. -/
structure Outlook where
  /-- The address, which failures mention. -/
  address : String
  /-- The connection state. -/
  state : ConnectionState
  /-- The published characteristics. -/
  published : List Characteristic
  /-- The calls that wait, without the notices that they made. -/
  calls : List (Nat × Purpose)

namespace Device

def outlook (d : Device) : Outlook :=
  ⟨d.address, d.state, d.characteristics,
    d.monitor.waiting.map fun w ↦ (w.tag.id, w.tag.purpose)⟩

section

variable {K : Call → Prop} {d d' : Device}

theorem result_eq_of_outlook (haddress : d'.address = d.address)
    (hpublished : d'.characteristics = d.characteristics) : d'.result = d.result := by
  funext purpose state
  cases purpose with
  | connect budget left => rw [result, result, haddress]
  | discover first last =>
    rw [result, result, characteristicsIn, characteristicsIn, haddress, hpublished]

theorem outlook_seeing (h : d.Waiters K) (state : ConnectionState) :
    (d.seeing state).outlook = { d.outlook with
      state := state
      calls := d.outlook.calls.filter fun c ↦ !c.2.metBy state } := by
  have hcalls : (d.seeing state).outlook.calls
      = d.outlook.calls.filter fun c ↦ !c.2.metBy state := by
    rw [outlook, outlook, List.filter_map]
    refine congrArg _ (List.filter_congr fun w hw ↦ ?_)
    rw [(h w hw).1, react_waiter]
    cases hmet : w.tag.purpose.metBy state <;> simp [waiter, hmet]
  rw [← hcalls]
  rfl

/-- Nobody waits any longer when the services are resolved. -/
theorem outlook_seeing_servicesResolved (h : d.Waiters K) :
    (d.seeing .servicesResolved).outlook
      = ⟨d.address, .servicesResolved, d.characteristics, []⟩ := by
  have hnobody : d.outlook.calls.filter (fun c ↦ !c.2.metBy .servicesResolved) = [] := by
    refine List.filter_eq_nil_iff.mpr fun c _ ↦ ?_
    have hmet : c.2.metBy .servicesResolved = true := by cases c.2 <;> rfl
    simp [hmet]
  rw [outlook_seeing h, hnobody]
  rfl

theorem endings_endedBy (h : d.Waiters K) (state : ConnectionState) :
    endings (d.endedBy state) = (d.outlook.calls.filter fun c ↦ c.2.metBy state).map
      fun c ↦ (c.1, (d.result c.2 state).1) := by
  have hended : (d.endedBy state).filterMap Happening.ended?
      = (d.monitor.wokenBy state).map d.finish := by
    rw [endedBy, List.filterMap_map]
    exact congrFun List.filterMap_eq_map _
  rw [endings, hended, List.map_map, outlook, StateMonitor.wokenBy, List.filter_map, List.map_map,
    List.map_filterMap, ← List.filterMap_eq_map, List.filterMap_filter]
  refine List.filterMap_congr fun w hw ↦ ?_
  rw [(h w hw).1, react_waiter]
  cases hmet : w.tag.purpose.metBy state <;> simp [waiter, hmet, finish]

theorem outcome_expire_eq (d d' : Device) {c c' : Call} (h : c'.purpose = c.purpose) :
    (d'.expire c').outcome = (d.expire c).outcome := by
  rw [expire, expire, h]
  cases c.purpose <;> rfl

theorem endings_endedAt (h : d.Waiters K) (id : Nat) :
    endings (d.endedAt id)
      = (d.outlook.calls.filter fun c ↦ c.1 = id && c.2.hasDeadline).map fun c ↦
        (c.1, if c.2.metBy d.state then (d.result c.2 d.state).1
          else (d.expire ⟨c.1, c.2, []⟩).outcome) := by
  have hended : (d.endedAt id).filterMap Happening.ended?
      = (d.monitor.waiting.filter fun w ↦ w.tag.endsAt id).map d.lastLook := by
    rw [endedAt, List.filterMap_map]
    exact congrFun List.filterMap_eq_map _
  rw [endings, hended, List.map_map, outlook, List.filter_map, List.map_map]
  refine List.map_congr_left fun w hw ↦ ?_
  obtain ⟨hwaiter, -⟩ := h w (List.mem_filter.mp hw).1
  have houtcome : (d.lastLook w).outcome = if w.tag.purpose.metBy d.state
      then (d.result w.tag.purpose d.state).1
      else (d.expire ⟨w.tag.id, w.tag.purpose, []⟩).outcome := by
    rw [hwaiter, lastLook_waiter]
    change _ = if w.tag.purpose.metBy d.state then _ else _
    cases w.tag.purpose.metBy d.state with
    | true => rfl
    | false => exact outcome_expire_eq d d rfl
  exact Prod.ext (id_lastLook d w) houtcome

end

/-! ## Who learned of the same attributes -/

variable {resolved : Prop} {d d' : Device}

/-- Two devices with one address that learned of the same attributes, each handle once. -/
structure Siblings (d d' : Device) : Prop where
  address : d'.address = d.address
  perm : d.attributes.announcements.Perm d'.attributes.announcements
  distinct : Ranges.Distinct d.attributes.announcements
  waiters : d.Waiters fun _ ↦ True
  waiters' : d'.Waiters fun _ ↦ True

/-- Siblings that look alike to their callers, once the services were resolved. -/
structure Companions (resolved : Prop) (d d' : Device) : Prop extends Siblings d d' where
  outlook : resolved → d'.outlook = d.outlook

theorem Companions.mono {resolved' : Prop} (h : Companions resolved d d')
    (himp : resolved' → resolved) : Companions resolved' d d' :=
  ⟨h.toSiblings, fun hresolved ↦ h.outlook (himp hresolved)⟩

theorem Siblings.pathOf?_eq (h : Siblings d d') (number : Int) :
    d'.attributes.pathOf? number = d.attributes.pathOf? number := by
  rw [AttributeTable.pathOf?, AttributeTable.pathOf?,
    AttributeTable.lookup?_eq_of_perm h.distinct h.perm]

theorem Siblings.published_eq (h : Siblings d d') :
    d'.republished.characteristics = d.republished.characteristics :=
  (Ranges.build_eq_of_perm h.distinct h.perm).symm

/-! ## What both are told -/

theorem Siblings.seeing (h : Siblings d d') (state state' : ConnectionState) :
    Siblings (d.seeing state) (d'.seeing state') :=
  ⟨h.address, h.perm, h.distinct, h.waiters.seeing _, h.waiters'.seeing _⟩

theorem Companions.seeing (h : Companions resolved d d') {state state' : ConnectionState}
    (hstate : resolved → state' = state) :
    Companions resolved (d.seeing state) (d'.seeing state') ∧
      (resolved → endings (d'.endedBy state') = endings (d.endedBy state)) := by
  constructor
  · refine ⟨h.toSiblings.seeing _ _, fun hresolved ↦ ?_⟩
    rw [outlook_seeing h.waiters, outlook_seeing h.waiters', h.outlook hresolved, hstate hresolved]
  · intro hresolved
    have hresult : d'.result = d.result :=
      result_eq_of_outlook h.address (congrArg Outlook.published (h.outlook hresolved))
    rw [endings_endedBy h.waiters, endings_endedBy h.waiters', h.outlook hresolved,
      hstate hresolved, hresult]

/-- **When the services are resolved, siblings come to look alike**: the same is published, and
nobody waits any longer. -/
theorem Siblings.companions_of_resolution (h : Siblings d d') :
    Companions True (d.republished.seeing .servicesResolved)
      (d'.republished.seeing .servicesResolved) := by
  have hsiblings : Siblings d.republished d'.republished :=
    ⟨h.address, h.perm, h.distinct, h.waiters, h.waiters'⟩
  refine ⟨hsiblings.seeing _ _, fun _ ↦ ?_⟩
  rw [outlook_seeing_servicesResolved hsiblings.waiters,
    outlook_seeing_servicesResolved hsiblings.waiters', hsiblings.address, h.published_eq]

theorem Companions.connected (h : Companions resolved d d') (truth : Option Bool) :
    Companions resolved (driven connectionChanged d truth).1
      (driven connectionChanged d' truth).1 ∧
      (resolved → endings (driven connectionChanged d' truth).2
        = endings (driven connectionChanged d truth).2) := by
  cases truth with
  | none => exact ⟨h, fun _ ↦ rfl⟩
  | some value =>
    have hstate : resolved → d'.stateUpon value = d.stateUpon value := by
      intro hresolved
      have hsame : d'.state = d.state := congrArg Outlook.state (h.outlook hresolved)
      rw [stateUpon, stateUpon, hsame]
    obtain ⟨hnext, hends⟩ := h.seeing hstate
    rw [driven, driven, connectionChanged_fst, connectionChanged_fst, connectionChanged_course,
      connectionChanged_course]
    exact ⟨hnext, hends⟩

theorem not_resolves_unresolved (d : Device) : ¬Resolves (d.resolutionChanged false).2.course := by
  rw [resolutionChanged_false_course]
  rintro ⟨state, hmem⟩
  rcases List.mem_cons.mp hmem with h | hmem
  · cases h
  · exact absurd (isEnd_of_mem_endedBy hmem) Bool.false_ne_true

theorem Companions.resolution (h : Companions resolved d d') (truth : Option Bool) :
    Companions (resolved ∨ Resolves (driven resolutionChanged d truth).2)
      (driven resolutionChanged d truth).1 (driven resolutionChanged d' truth).1 ∧
      (resolved → endings (driven resolutionChanged d' truth).2
        = endings (driven resolutionChanged d truth).2) := by
  cases truth with
  | none =>
    refine ⟨h.mono ?_, fun _ ↦ rfl⟩
    rintro (hresolved | ⟨state, hmem⟩)
    · exact hresolved
    · exact absurd hmem List.not_mem_nil
  | some value =>
    rw [driven, driven]
    cases value with
    | false =>
      have hstate : resolved → d'.state = d.state :=
        fun hresolved ↦ congrArg Outlook.state (h.outlook hresolved)
      obtain ⟨hnext, hends⟩ := h.seeing hstate
      rw [← resolutionChanged_false_fst, ← resolutionChanged_false_fst] at hnext
      refine ⟨hnext.mono fun hor ↦ hor.resolve_right (not_resolves_unresolved d), ?_⟩
      rw [resolutionChanged_false_course, resolutionChanged_false_course]
      exact hends
    | true =>
      have hpublished : Companions resolved d.republished d'.republished := by
        refine ⟨⟨h.address, h.perm, h.distinct, h.waiters, h.waiters'⟩, fun hresolved ↦ ?_⟩
        have hrepublished (d : Device) : d.republished.outlook
            = { d.outlook with published := d.republished.characteristics } := rfl
        rw [hrepublished, hrepublished, h.outlook hresolved, h.published_eq]
      have hstate : resolved → ConnectionState.servicesResolved = .servicesResolved := fun _ ↦ rfl
      obtain ⟨-, hends⟩ := hpublished.seeing hstate
      rw [resolutionChanged_true_fst, resolutionChanged_true_fst, resolutionChanged_true_course,
        resolutionChanged_true_course]
      exact ⟨h.toSiblings.companions_of_resolution.mono fun _ ↦ trivial, hends⟩

/-- **A batch that both merge.** -/
theorem Companions.update (h : Companions resolved d d') (changes : Changes) :
    Companions (resolved ∨ Resolves (d.update changes).2.course) (d.update changes).1
      (d'.update changes).1 ∧
      (resolved → endings (d'.update changes).2.course = endings (d.update changes).2.course) := by
  have hmerging : Companions resolved (d.merging changes) (d'.merging changes) :=
    ⟨⟨h.address, h.perm, h.distinct, h.waiters, h.waiters'⟩, h.outlook⟩
  obtain ⟨hconnected, hends⟩ := hmerging.connected (changes.truth? "Connected")
  obtain ⟨hnext, hends'⟩ := hconnected.resolution (changes.truth? "ServicesResolved")
  obtain ⟨hdevice, hcourse⟩ := update_eq_driven d changes
  obtain ⟨hdevice', hcourse'⟩ := update_eq_driven d' changes
  rw [hdevice, hdevice', hcourse, hcourse']
  constructor
  · refine hnext.mono (Or.imp_right fun hresolves ↦ ?_)
    rw [List.cons_append] at hresolves
    obtain ⟨state, hmem⟩ := hresolves
    rcases List.mem_cons.mp hmem with h | hmem
    · cases h
    · rcases List.mem_append.mp hmem with hmem | hmem
      · rcases (connected_course _ _).1 _ hmem with ⟨b, hb⟩ | hend
        · cases hb
        · exact absurd hend Bool.false_ne_true
      · exact ⟨state, hmem⟩
  · intro hresolved
    have hmerged (xs : List Happening) : endings (.merged changes :: xs) = endings xs := rfl
    rw [List.cons_append, List.cons_append, hmerged, hmerged, endings_append, endings_append,
      hends hresolved, hends' hresolved]

/-- **Batches that both merge, one after the other.** -/
theorem Companions.replay (h : Companions resolved d d') (batches : List Changes) :
    Companions (resolved ∨ Resolves (d.replay (batches.map .update)).2)
      (d.replay (batches.map .update)).1 (d'.replay (batches.map .update)).1 ∧
      (resolved → endings (d'.replay (batches.map .update)).2
        = endings (d.replay (batches.map .update)).2) := by
  induction batches generalizing resolved d d' with
  | nil =>
    refine ⟨h.mono ?_, fun _ ↦ rfl⟩
    rintro (hresolved | ⟨state, hmem⟩)
    · exact hresolved
    · exact absurd hmem List.not_mem_nil
  | cons changes batches ih =>
    obtain ⟨hfirst, hends⟩ := h.update changes
    obtain ⟨hrest, hmore⟩ := ih hfirst
    have hmake (d : Device) : d.make (.update changes)
        = ((d.update changes).1, (d.update changes).2.course) := rfl
    rw [List.map_cons, replay_cons, replay_cons, hmake, hmake]
    constructor
    · rw [resolves_append, ← or_assoc]
      exact hrest
    · intro hresolved
      rw [endings_append, endings_append, hends hresolved, hmore (.inl hresolved)]

theorem Companions.storing (h : Companions resolved d d') (a : Announcement) :
    Companions resolved (d.storing a) (d'.storing a) :=
  ⟨⟨h.address, AttributeTable.store_perm a h.distinct h.perm,
    AttributeTable.distinct_store a h.distinct, h.waiters, h.waiters'⟩, h.outlook⟩

theorem Companions.leftBy (h : Companions resolved d d') (id : Nat) :
    Companions resolved (d.leftBy id) (d'.leftBy id) ∧
      (resolved → endings (d'.endedAt id) = endings (d.endedAt id)) := by
  have hleft (d : Device) : (d.leftBy id).outlook = { d.outlook with
      calls := d.outlook.calls.filter fun c ↦ !(c.1 = id && c.2.hasDeadline) } := by
    have hcalls : (d.leftBy id).outlook.calls
        = d.outlook.calls.filter fun c ↦ !(c.1 = id && c.2.hasDeadline) := by
      change _ = (d.monitor.waiting.map _).filter _
      rw [List.filter_map]
      rfl
    rw [← hcalls]
    rfl
  constructor
  · refine ⟨⟨h.address, h.perm, h.distinct, h.waiters.leftBy id, h.waiters'.leftBy id⟩,
      fun hresolved ↦ ?_⟩
    rw [hleft, hleft, h.outlook hresolved]
  · intro hresolved
    have hresult : d'.result = d.result :=
      result_eq_of_outlook h.address (congrArg Outlook.published (h.outlook hresolved))
    have hstate : d'.state = d.state := congrArg Outlook.state (h.outlook hresolved)
    rw [endings_endedAt h.waiters, endings_endedAt h.waiters', h.outlook hresolved, hresult, hstate]
    exact List.map_congr_left fun c _ ↦ by rw [outcome_expire_eq d d' rfl]

/-! ## Who begins to wait -/

theorem Siblings.of_joined (h : Siblings d d') {e e' : Device} (he : e = d ∨ ∃ c, e = d.joinedBy c)
    (he' : e' = d' ∨ ∃ c, e' = d'.joinedBy c) : Siblings e e' := by
  have hwaiters : e.Waiters fun _ ↦ True := by
    rcases he with rfl | ⟨c, rfl⟩
    · exact h.waiters
    · exact h.waiters.joinedBy trivial
  have hwaiters' : e'.Waiters fun _ ↦ True := by
    rcases he' with rfl | ⟨c, rfl⟩
    · exact h.waiters'
    · exact h.waiters'.joinedBy trivial
  have hsame {d e : Device} (he : e = d ∨ ∃ c, e = d.joinedBy c) :
      e.address = d.address ∧ e.attributes = d.attributes := by
    rcases he with rfl | ⟨c, rfl⟩
    · exact ⟨rfl, rfl⟩
    · exact ⟨rfl, rfl⟩
  obtain ⟨haddress, hattributes⟩ := hsame he
  obtain ⟨haddress', hattributes'⟩ := hsame he'
  refine ⟨?_, ?_, ?_, hwaiters, hwaiters'⟩
  · rw [haddress, haddress', h.address]
  · rw [hattributes, hattributes']
    exact h.perm
  · rw [hattributes]
    exact h.distinct

/-- One call begins to wait on both sides; it may have made other notices. -/
theorem Companions.joinedBy (h : Companions resolved d d') {c c' : Call} (hid : c'.id = c.id)
    (hpurpose : c'.purpose = c.purpose) : Companions resolved (d.joinedBy c) (d'.joinedBy c') := by
  refine ⟨h.toSiblings.of_joined (.inr ⟨c, rfl⟩) (.inr ⟨c', rfl⟩), fun hresolved ↦ ?_⟩
  have hjoined (d : Device) (c : Call) : (d.joinedBy c).outlook
      = { d.outlook with calls := d.outlook.calls ++ [(c.id, c.purpose)] } := by
    have hcalls : (d.joinedBy c).outlook.calls = d.outlook.calls ++ [(c.id, c.purpose)] :=
      List.map_append
    rw [← hcalls]
    rfl
  rw [hjoined, hjoined, h.outlook hresolved, hid, hpurpose]

end Device

end GattPeer
