import GattPeer.Proofs.Device.Batch
import Mathlib.Data.List.TakeWhile

/-!
# Calls that wait for a device

A call to connect waits for a connection, and a call to discover waits for the end of the stage in
which there is a connection without known services. Since nobody waits for what the state already
gives, the state tells which calls can wait at all. A call that waits goes on waiting until the
first notification that meets its purpose, and ends there, before anything else happens.
-/

namespace GattPeer

/-! ## Purposes -/

def Purpose.metBy : Purpose → ConnectionState → Bool
  | .connect .., state => state.isConnected
  | .discover .., state => state ≠ .connected

theorem Purpose.eq_notConnected_of_unmet {budget : Number} {left : Number.Exact}
    {state : ConnectionState} (h : (Purpose.connect budget left).metBy state = false) :
    state = .notConnected := by
  cases state with
  | notConnected => rfl
  | connected => exact nomatch h
  | servicesResolved => exact nomatch h

theorem Purpose.eq_connected_of_unmet {first last : Int} {state : ConnectionState}
    (h : (Purpose.discover first last).metBy state = false) : state = .connected := by
  cases state with
  | notConnected => exact nomatch h
  | connected => rfl
  | servicesResolved => exact nomatch h

/-- The outcomes that a call may have in a state that meets its purpose. -/
def Purpose.EndsWith (address : String) :
    Purpose → ConnectionState → Except Failure Reading → Prop
  | .connect .., _, outcome => outcome = .ok .nothing
  | .discover .., .notConnected, outcome =>
    outcome = .error (.notConnected (address ++ ": not connected"))
  | .discover .., _, outcome => ∃ cs, outcome = .ok (.characteristics cs)

def Happening.meets (purpose : Purpose) : Happening → Bool
  | .notified _ state => purpose.metBy state
  | _ => false

namespace Device

@[simp] theorem react_waiter (c : Call) (state : ConnectionState) :
    (waiter c).react state = if c.purpose.metBy state then some ⟨c, .ok state⟩ else none := by
  obtain ⟨id, purpose, journal⟩ := c
  cases purpose <;> cases state <;> rfl

theorem finish_endsWith (d : Device) (c : Call) {state : ConnectionState}
    (h : c.purpose.metBy state = true) :
    c.purpose.EndsWith d.address state (d.finish ⟨c, .ok state⟩).outcome := by
  obtain ⟨id, purpose, journal⟩ := c
  cases purpose with
  | connect budget left => rfl
  | discover first last =>
    cases state with
    | notConnected => rfl
    | connected => exact absurd h Bool.false_ne_true
    | servicesResolved => exact ⟨_, rfl⟩

@[simp] theorem lastLook_waiter (d : Device) (c : Call) :
    d.lastLook (waiter c)
      = if c.purpose.metBy d.state then d.finish ⟨c, .ok d.state⟩ else d.expire c := by
  rw [lastLook, react_waiter]
  cases c.purpose.metBy d.state <;> rfl

@[simp] theorem id_finish (d : Device) (w : Woken Call) : (d.finish w).id = w.tag.id := by
  obtain ⟨c, outcome⟩ := w
  cases outcome <;> rfl

/-! ## Who waits -/

theorem waiter_injective : Function.Injective waiter :=
  fun _ _ h ↦ congrArg (·.tag) h

/-- Everyone who waits is a call of a kind, which waits for its purpose. -/
def Waiters (K : Call → Prop) (d : Device) : Prop :=
  ∀ w ∈ d.monitor.waiting, w = waiter w.tag ∧ K w.tag

theorem Waiters.seeing {K : Call → Prop} {d : Device} (h : d.Waiters K) (state : ConnectionState) :
    (d.seeing state).Waiters K :=
  fun w hw ↦ h w (List.mem_filter.mp hw).1

theorem Waiters.joinedBy {K : Call → Prop} {d : Device} {c : Call} (h : d.Waiters K) (hc : K c) :
    (d.joinedBy c).Waiters K := by
  intro w hw
  rcases List.mem_append.mp hw with hw | hw
  · exact h w hw
  · rw [List.mem_singleton.mp hw]
    exact ⟨rfl, hc⟩

theorem Waiters.leftBy {K : Call → Prop} {d : Device} (h : d.Waiters K) (id : Nat) :
    (d.leftBy id).Waiters K :=
  fun w hw ↦ h w (List.mem_filter.mp hw).1

/-- Everyone who waits is a call of a kind, for whose purpose the state does not do. -/
structure Attentive (K : Call → Prop) (d : Device) : Prop where
  /-- Calls wait for their purposes. -/
  waiters : d.Waiters K
  /-- Nobody waits for what the state already gives. -/
  settled : d.monitor.Settled

variable {K : Call → Prop}

theorem attentive_initial (path address : String) (state : ConnectionState) :
    (initial path address state).Attentive K :=
  ⟨nofun, StateMonitor.settled_start _ _⟩

theorem Attentive.mono {K' : Call → Prop} {d : Device} (h : d.Attentive K)
    (hK : ∀ c, K c → K' c) : d.Attentive K' :=
  ⟨fun w hw ↦ ⟨(h.waiters w hw).1, hK _ (h.waiters w hw).2⟩, h.settled⟩

theorem Attentive.seeing {d : Device} (h : d.Attentive K) (state : ConnectionState) :
    (d.seeing state).Attentive K :=
  ⟨h.waiters.seeing state, StateMonitor.settled_seeing _ _⟩

theorem Attentive.republished {d : Device} (h : d.Attentive K) : d.republished.Attentive K :=
  ⟨h.waiters, h.settled⟩

theorem Attentive.leftBy {d : Device} (h : d.Attentive K) (id : Nat) : (d.leftBy id).Attentive K :=
  ⟨h.waiters.leftBy id, fun w hw ↦ h.settled w (List.mem_filter.mp hw).1⟩

/-- Where nobody waits for what the state already gives, a last look at the state gives nothing. -/
theorem Attentive.endedAt_eq {d : Device} (h : d.Attentive K) (id : Nat) :
    d.endedAt id = (d.monitor.waiting.filter fun w ↦ w.tag.endsAt id).map fun w ↦
      .ended (d.expire w.tag) := by
  refine List.map_congr_left fun w hw ↦ ?_
  have hreact : w.react d.state = none := h.settled w (List.mem_filter.mp hw).1
  rw [lastLook, hreact]

theorem Attentive.joinedBy {d : Device} {c : Call} (h : d.Attentive K) (hc : K c)
    (hreact : (waiter c).react d.state = none) : (d.joinedBy c).Attentive K := by
  refine ⟨h.waiters.joinedBy hc, fun w hw ↦ ?_⟩
  rcases List.mem_append.mp hw with hw | hw
  · exact h.settled w hw
  · rw [List.mem_singleton.mp hw]
    exact hreact

/-- **Everyone who waits, waits with reason**, whatever move is made. -/
theorem law_attentive (K : Call → Prop) : Law K fun _ d ↦ d.Attentive K where
  merged _ h := ⟨h.waiters, h.settled⟩
  connection _ h := h.seeing _
  resolved h := h.republished.seeing _
  unresolved h := h.seeing _
  announced _ h := ⟨h.waiters, h.settled⟩
  joined h hc hreact := h.joinedBy hc hreact
  answered h _ _ := h
  closed _ _ _ h := h
  expired id h := h.leftBy id

theorem Attentive.replay {d : Device} (h : d.Attentive K) {moves : List Move}
    (hmoves : ∀ c, .call c ∈ moves → K c) : (d.replay moves).1.Attentive K :=
  @Law.replay K (fun _ d ↦ d.Attentive K) [] d (law_attentive K) moves hmoves h

def pending (d : Device) : List Call := d.monitor.waiting.map (·.tag)

theorem Attentive.mem_pending {d : Device} (h : d.Attentive K) {c : Call} :
    c ∈ d.pending ↔ waiter c ∈ d.monitor.waiting := by
  constructor
  · intro hc
    obtain ⟨w, hw, rfl⟩ := List.mem_map.mp hc
    exact (h.waiters w hw).1 ▸ hw
  · intro hc
    exact List.mem_map.mpr ⟨_, hc, rfl⟩

theorem Attentive.expired_of_mem_endedAt {d : Device} (h : d.Attentive K) {id : Nat}
    {e : EndedCall} (he : .ended e ∈ d.endedAt id) :
    ∃ budget, e.outcome = .error (.expired budget) := by
  rw [h.endedAt_eq] at he
  obtain ⟨⟨_, id', purpose, journal⟩, hw, he⟩ := List.mem_map.mp he
  have hends := (List.mem_filter.mp hw).2
  rw [← Happening.ended.inj he]
  cases purpose with
  | connect budget left => exact ⟨budget, rfl⟩
  | discover first last => exact absurd hends (by simp [Call.endsAt, Purpose.hasDeadline])

theorem Attentive.of_mem_pending {d : Device} (h : d.Attentive K) {c : Call}
    (hc : c ∈ d.pending) : K c :=
  (h.waiters _ (h.mem_pending.mp hc)).2

theorem Attentive.not_metBy {d : Device} (h : d.Attentive K) {c : Call} (hc : c ∈ d.pending) :
    c.purpose.metBy d.state = false := by
  have hreact := h.settled _ (h.mem_pending.mp hc)
  by_cases hmet : c.purpose.metBy d.state = true
  · have hsome : (waiter c).react d.state = some ⟨c, .ok d.state⟩ := by
      rw [react_waiter, if_pos hmet]
    exact absurd (hsome.symm.trans hreact) (Option.some_ne_none _)
  · exact Bool.eq_false_iff.mpr hmet

/-! ## How a wait ends -/

/-- How it stands with a call that waited: nothing met its purpose, and it waits; or it ended right
after the first notification that met its purpose, and waits no more. -/
inductive Fate (c : Call) (address : String) (past : List Happening) (d : Device) : Prop
  /-- It waits. -/
  | waits (unmet : ∀ h ∈ past, h.meets c.purpose = false)
    (waiting : waiter c ∈ d.monitor.waiting)
  /-- It ended. -/
  | ended (before after : List Happening) (news : News) (state : ConnectionState) (e : EndedCall)
    (split : past = before ++ .notified news state :: after)
    (unmet : ∀ h ∈ before, h.meets c.purpose = false) (met : c.purpose.metBy state = true)
    (mem : .ended e ∈ after.takeWhile Happening.isEnd) (id : e.id = c.id)
    (outcome : c.purpose.EndsWith address state e.outcome) (gone : waiter c ∉ d.monitor.waiting)

theorem mem_takeWhile_append {α : Type} {p : α → Bool} {a : α} {xs : List α} (ys : List α)
    (h : a ∈ xs.takeWhile p) : a ∈ (xs ++ ys).takeWhile p := by
  induction xs with
  | nil => exact absurd h List.not_mem_nil
  | cons x xs ih =>
    rw [List.cons_append, List.takeWhile_cons]
    rw [List.takeWhile_cons] at h
    by_cases hx : p x = true
    · rw [if_pos hx] at h ⊢
      exact (List.mem_cons.mp h).elim (fun h ↦ h ▸ List.mem_cons_self)
        fun h ↦ List.mem_cons_of_mem _ (ih h)
    · rw [if_neg hx] at h
      exact absurd h List.not_mem_nil

section

variable {c : Call} {address : String} {past : List Happening} {d d' : Device}

/-- An end stays, whatever happens later, unless the call begins to wait again. -/
theorem Fate.append (h : Fate c address past d) (more : List Happening)
    (hgone : waiter c ∉ d.monitor.waiting → waiter c ∉ d'.monitor.waiting)
    (hwaits : (∀ h ∈ past, h.meets c.purpose = false) → waiter c ∈ d.monitor.waiting →
      Fate c address (past ++ more) d') : Fate c address (past ++ more) d' := by
  rcases h with ⟨hunmet, hw⟩ |
    ⟨before, after, news, state, e, hsplit, hunmet, hmet, hmem, hid, hout, hw⟩
  · exact hwaits hunmet hw
  · refine .ended before (after ++ more) news state e ?_ hunmet hmet
      (mem_takeWhile_append more hmem) hid hout (hgone hw)
    rw [hsplit, List.append_assoc, List.cons_append]

/-- What meets no purpose and takes nobody away changes no fate. -/
theorem Fate.append_unmet (h : Fate c address past d) {more : List Happening}
    (hmore : ∀ h ∈ more, h.meets c.purpose = false)
    (hwaiting : waiter c ∈ d'.monitor.waiting ↔ waiter c ∈ d.monitor.waiting) :
    Fate c address (past ++ more) d' := by
  refine h.append more (mt hwaiting.mp) fun hunmet hw ↦ .waits (fun h hh ↦ ?_) (hwaiting.mpr hw)
  exact (List.mem_append.mp hh).elim (hunmet h) (hmore h)

theorem Fate.congr (h : Fate c address past d)
    (hwaiting : waiter c ∈ d'.monitor.waiting ↔ waiter c ∈ d.monitor.waiting) :
    Fate c address past d' := by
  rw [← List.append_nil past]
  exact h.append_unmet nofun hwaiting

theorem waiter_mem_seeing (c : Call) (d : Device) (state : ConnectionState) :
    waiter c ∈ (d.seeing state).monitor.waiting ↔
      waiter c ∈ d.monitor.waiting ∧ c.purpose.metBy state = false := by
  have hnone : ((waiter c).react state).isNone = true ↔ c.purpose.metBy state = false := by
    rw [react_waiter]
    cases c.purpose.metBy state <;> simp
  rw [← hnone]
  exact List.mem_filter

theorem Fate.notified (h : Fate c address past d) (haddress : d.address = address) (news : News)
    (state : ConnectionState) :
    Fate c address (past ++ .notified news state :: d.endedBy state) (d.seeing state) := by
  have hseeing := waiter_mem_seeing c d state
  by_cases hmet : c.purpose.metBy state = true
  · have hgone : waiter c ∉ (d.seeing state).monitor.waiting :=
      fun hw ↦ absurd (hmet.symm.trans (hseeing.mp hw).2) (Bool.false_ne_true ∘ Eq.symm)
    refine h.append _ (fun _ ↦ hgone) fun hunmet hw ↦ ?_
    have hreact : (waiter c).react state = some ⟨c, .ok state⟩ := by
      rw [react_waiter, if_pos hmet]
    have hmem : .ended (d.finish ⟨c, .ok state⟩) ∈ d.endedBy state :=
      List.mem_map.mpr ⟨_, List.mem_filterMap.mpr ⟨_, hw, hreact⟩, rfl⟩
    refine .ended past _ news state _ rfl hunmet hmet ?_ (id_finish ..)
      (haddress ▸ finish_endsWith d c hmet) hgone
    rwa [List.takeWhile_eq_self_iff.mpr fun h hh ↦ isEnd_of_mem_endedBy hh]
  · have hunmet : c.purpose.metBy state = false := Bool.eq_false_iff.mpr hmet
    refine h.append_unmet (fun h hh ↦ ?_) (hseeing.trans (and_iff_left hunmet))
    rcases List.mem_cons.mp hh with rfl | hh
    · exact hunmet
    · obtain ⟨w, -, rfl⟩ := List.mem_map.mp hh
      rfl

/-- **A wait ends at the first notification that meets its purpose**, whatever moves are made before
a deadline, if the same call is not made again. -/
theorem law_fate (c : Call) (address : String) :
    CallLaw (· ≠ c) fun past d ↦ d.address = address ∧ Fate c address past d where
  merged _ h := ⟨h.1, h.2.append_unmet (by simp [Happening.meets]) .rfl⟩
  connection _ h := ⟨h.1, h.2.notified h.1 _ _⟩
  resolved {past d} h := by
    have hfate : Fate c address past d.republished := h.2.congr .rfl
    exact ⟨h.1, hfate.notified h.1 _ _⟩
  unresolved h := ⟨h.1, h.2.notified h.1 _ _⟩
  announced _ h := ⟨h.1, h.2.append_unmet (by simp [Happening.meets]) .rfl⟩
  joined {past d c'} h hc _ := by
    have hne : waiter c ≠ waiter c' := fun heq ↦ hc (waiter_injective heq).symm
    have hwaiting : waiter c ∈ (d.joinedBy c').monitor.waiting ↔ waiter c ∈ d.monitor.waiting :=
      List.mem_append.trans (or_iff_left (mt List.mem_singleton.mp hne))
    exact ⟨h.1, h.2.congr hwaiting⟩
  answered h _ _ := ⟨h.1, h.2.append_unmet (by simp [Happening.meets]) .rfl⟩
  closed _ _ _ h := ⟨h.1, h.2.append_unmet (by simp [Happening.meets]) .rfl⟩

theorem fate_replay {moves : List Move} (hmoves : ∀ c', .call c' ∈ moves → c' ≠ c)
    (htimely : ∀ id, .deadline id ∉ moves) (h : waiter c ∈ d.monitor.waiting) :
    Fate c d.address (d.replay moves).2 (d.replay moves).1 := by
  have hstart : Fate c d.address [] d := .waits nofun h
  exact ((law_fate c d.address).replay hmoves htimely ⟨rfl, hstart⟩).2

theorem Fate.gone (h : Fate c address past d) (hmeets : ∃ h ∈ past, h.meets c.purpose = true) :
    waiter c ∉ d.monitor.waiting := by
  rcases h with ⟨hunmet, -⟩ | ⟨_, _, _, _, _, -, -, -, -, -, -, hgone⟩
  · obtain ⟨h, hh, hmeet⟩ := hmeets
    exact absurd (hmeet.symm.trans (hunmet h hh)) (Bool.false_ne_true ∘ Eq.symm)
  · exact hgone

/-! ## Ends at a given place -/

theorem eq_of_first {α : Type} {p : α → Bool} {xs xs' ys ys' : List α} {x x' : α}
    (h : xs ++ x :: ys = xs' ++ x' :: ys') (hxs : ∀ a ∈ xs, p a = false) (hx : p x = true)
    (hxs' : ∀ a ∈ xs', p a = false) (hx' : p x' = true) : x = x' ∧ ys = ys' := by
  induction xs generalizing xs' with
  | nil =>
    cases xs' with
    | nil => exact List.cons.inj h
    | cons a as =>
      have hhead : x = a := (List.cons.inj h).1
      rw [hhead, hxs' a List.mem_cons_self] at hx
      exact absurd hx Bool.false_ne_true
  | cons b bs ih =>
    cases xs' with
    | nil =>
      have hhead : b = x' := (List.cons.inj h).1
      rw [← hhead, hxs b List.mem_cons_self] at hx'
      exact absurd hx' Bool.false_ne_true
    | cons a as =>
      exact ih (List.cons.inj h).2 (fun c hc ↦ hxs c (List.mem_cons_of_mem _ hc))
        fun c hc ↦ hxs' c (List.mem_cons_of_mem _ hc)

theorem Fate.ended_at {before after : List Happening} {news : News} {state : ConnectionState}
    (h : Fate c address past d) (hsplit : past = before ++ .notified news state :: after)
    (hunmet : ∀ h ∈ before, h.meets c.purpose = false) (hmet : c.purpose.metBy state = true) :
    ∃ e, .ended e ∈ after.takeWhile Happening.isEnd ∧ e.id = c.id ∧
      c.purpose.EndsWith address state e.outcome := by
  rcases h with ⟨hall, -⟩ | ⟨xs, ys, news', state', e, hsplit', hunmet', hmet', hmem, hid, hout, -⟩
  · have hhere : Happening.meets c.purpose (.notified news state) = false :=
      hall _ (hsplit ▸ List.mem_append_right _ List.mem_cons_self)
    exact absurd (hmet.symm.trans hhere) (Bool.false_ne_true ∘ Eq.symm)
  · obtain ⟨hstate, rfl⟩ := eq_of_first (hsplit'.symm.trans hsplit) hunmet' hmet' hunmet hmet
    cases hstate
    exact ⟨e, hmem, hid, hout⟩

end

theorem Fate.ended_of_merged {c : Call} {d : Device} {moves : List Move}
    {before after : List Happening} {changes : Changes}
    (hmoves : ∀ c', .call c' ∈ moves → c' ≠ c) (htimely : ∀ id, .deadline id ∉ moves)
    (hwaiting : waiter c ∈ d.monitor.waiting)
    (hsplit : (d.replay moves).2 = before ++ .merged changes :: after)
    (hmeets : ∃ h ∈ after.takeWhile Happening.belongs, h.meets c.purpose = true) :
    ∃ e state, .ended e ∈ before ++ after.takeWhile Happening.belongs ∧ e.id = c.id ∧
      c.purpose.metBy state = true ∧ c.purpose.EndsWith d.address state e.outcome := by
  obtain ⟨xs, ys, rest, rfl, hbefore, hcourse, hafter⟩ := exists_update_of_merged hsplit
  have htake : after.takeWhile Happening.belongs = rest
      ++ (((d.replay xs).1.update changes).1.replay ys).2.takeWhile Happening.belongs := by
    rw [hafter, List.takeWhile_append_of_pos (belongs_of_update hcourse)]
  have hpast : (d.replay (xs ++ [.update changes])).2 = before ++ .merged changes :: rest := by
    rw [replay_append, replay_singleton, make, hbefore, hcourse]
  have hupto : xs ++ [.update changes] ⊆ xs ++ .update changes :: ys := by
    rw [List.append_cons xs _ ys]
    exact List.subset_append_left ..
  have hfate := fate_replay (fun c' hc' ↦ hmoves c' (hupto hc'))
    (fun id hid ↦ htimely id (hupto hid)) hwaiting
  rw [hpast] at hfate
  rcases hfate with ⟨hunmet, -⟩ | ⟨b, a, news, state, e, hcut, -, hmet, hmem, hid, hout, -⟩
  · -- Nothing in the batch or before it met the purpose, nor does the end of a later call.
    obtain ⟨h, hh, hmeet⟩ := hmeets
    rw [htake] at hh
    rcases List.mem_append.mp hh with hh | hh
    · have hnot := hunmet h (List.mem_append_right _ (List.mem_cons_of_mem _ hh))
      exact absurd (hmeet.symm.trans hnot) (Bool.false_ne_true ∘ Eq.symm)
    · have hend := isEnd_of_mem_takeWhile_replay _ ys h hh
      cases h with
      | ended e => exact absurd hmeet Bool.false_ne_true
      | _ => exact absurd hend Bool.false_ne_true
  · refine ⟨e, state, ?_, hid, hmet, hout⟩
    have hmem' : .ended e ∈ before ++ .merged changes :: rest := by
      rw [hcut]
      refine List.mem_append_right _ (List.mem_cons_of_mem _ ?_)
      exact (List.takeWhile_prefix _).subset hmem
    rw [htake]
    rcases List.mem_append.mp hmem' with hin | hin
    · exact List.mem_append_left _ hin
    · rcases List.mem_cons.mp hin with heq | hin
      · cases heq
      · exact List.mem_append_right _ (List.mem_append_left _ hin)

end Device

end GattPeer
