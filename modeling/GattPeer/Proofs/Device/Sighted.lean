import GattPeer.Proofs.Device.Resolution

/-!
# What a call has seen when it ends

A call that waited ends right after a notification, in a state that meets its purpose. The state is
the one that the history up to that moment tells of: the last notification decides, and what else
happens leaves it. While only batches are merged and announcements stored, nobody else ends.
-/

namespace GattPeer

/-- The state after a course of events: that of the last notification, if there was any. -/
def ConnectionState.along (state : ConnectionState) (course : List Happening) : ConnectionState :=
  course.foldl (fun state h ↦ match h with
    | .notified _ seen => seen
    | _ => state) state

@[simp] theorem ConnectionState.along_append (state : ConnectionState) (xs ys : List Happening) :
    state.along (xs ++ ys) = (state.along xs).along ys := List.foldl_append

theorem ConnectionState.along_eq_self (state : ConnectionState) {course : List Happening}
    (h : ∀ news seen, .notified news seen ∉ course) : state.along course = state := by
  induction course with
  | nil => rfl
  | cons x course ih =>
    have hrest : state.along course = state :=
      ih fun news seen hmem ↦ h news seen (List.mem_cons_of_mem _ hmem)
    cases x with
    | notified news seen => exact absurd List.mem_cons_self (h news seen)
    | _ => exact hrest

theorem ConnectionState.along_notified (state seen : ConnectionState) (past : List Happening)
    (news : News) {ended : List Happening} (h : ∀ x ∈ ended, x.isEnd = true) :
    state.along (past ++ .notified news seen :: ended) = seen := by
  rw [along_append]
  refine along_eq_self seen fun news' seen' hmem ↦ ?_
  exact absurd (h _ hmem) Bool.false_ne_true

namespace Device

variable {K : Call → Prop} {first : ConnectionState} {past : List Happening} {d : Device}

/-! ## The state along a history -/

theorem law_along (first : ConnectionState) :
    Law (fun _ ↦ True) fun past d ↦ d.state = first.along past where
  merged _ h := by rwa [ConnectionState.along_append]
  connection _ _ := by
    rw [ConnectionState.along_notified _ _ _ _ fun _ ↦ isEnd_of_mem_endedBy]
    rfl
  resolved _ := by
    rw [ConnectionState.along_notified _ _ _ _ fun _ ↦ isEnd_of_mem_endedBy]
    rfl
  unresolved _ := by
    rw [ConnectionState.along_notified _ _ _ _ fun _ ↦ isEnd_of_mem_endedBy]
    rfl
  announced _ h := by rwa [ConnectionState.along_append]
  joined h _ _ := h
  answered h _ _ := by rwa [ConnectionState.along_append]
  closed _ _ _ h := by rwa [ConnectionState.along_append]
  expired {past d} id h := by
    rw [ConnectionState.along_append, ConnectionState.along_eq_self]
    · exact h
    · exact fun _ _ hmem ↦ absurd (isEnd_of_mem_endedAt hmem) Bool.false_ne_true

theorem state_replay (d : Device) (moves : List Move) :
    (d.replay moves).1.state = d.state.along (d.replay moves).2 :=
  @Law.replay _ _ [] d (law_along d.state) moves (fun _ _ ↦ trivial) rfl

/-! ## Ends of those who waited -/

/-- The end of a call of a kind, in a state that meets its purpose. -/
def Sees (K : Call → Prop) (address : String) (state : ConnectionState) (e : EndedCall) : Prop :=
  ∃ c, K c ∧ c.id = e.id ∧ c.purpose.metBy state = true ∧
    c.purpose.EndsWith address state e.outcome

theorem sees_finish {c : Call} {state : ConnectionState} {woken : Woken Call} (hc : K c)
    (hreact : (waiter c).react state = some woken) :
    Sees K d.address state (d.finish woken) := by
  rw [react_waiter] at hreact
  by_cases hmet : c.purpose.metBy state = true
  · rw [if_pos hmet] at hreact
    rw [← Option.some.inj hreact]
    exact ⟨c, hc, (id_finish d ⟨c, .ok state⟩).symm, hmet, finish_endsWith d c hmet⟩
  · rw [if_neg hmet] at hreact
    exact nomatch hreact

/-- A device at its address, where everyone who waits is of a kind and everyone who ended saw a
state to end in. -/
structure Sighted (K : Call → Prop) (address : String) (first : ConnectionState)
    (past : List Happening) (d : Device) : Prop where
  place : d.address = address
  waiters : d.Waiters K
  ends : ForallEnds (fun before e ↦ Sees K address (first.along before) e) past

variable {address : String}

theorem Sighted.notified (h : Sighted K address first past d) (news : News)
    (state : ConnectionState) :
    Sighted K address first (past ++ .notified news state :: d.endedBy state)
      (d.seeing state) := by
  refine ⟨h.place, h.waiters.seeing state, h.ends.append fun before e after hsplit ↦ ?_⟩
  cases before with
  | nil => exact nomatch (List.cons.inj hsplit).1
  | cons b bs =>
    obtain ⟨rfl, hbs⟩ := List.cons.inj hsplit
    have hended : ∀ x ∈ bs, x.isEnd = true := by
      intro x hx
      have hmem : x ∈ d.endedBy state := hbs ▸ List.mem_append_left _ hx
      exact isEnd_of_mem_endedBy hmem
    have hmem : .ended e ∈ d.endedBy state := hbs ▸ List.mem_append_right _ List.mem_cons_self
    obtain ⟨woken, hwoken, he⟩ := List.mem_map.mp hmem
    obtain ⟨w, hw, hreact⟩ := List.mem_filterMap.mp hwoken
    obtain ⟨hwaiter, hK⟩ := h.waiters w hw
    rw [ConnectionState.along_notified _ _ _ _ hended, ← Happening.ended.inj he, ← h.place]
    exact sees_finish hK (hwaiter ▸ hreact)

/-- **Everyone who waited saw a state to end in**, whatever quiet moves are made. -/
theorem law_sighted (K : Call → Prop) (address : String) (first : ConnectionState) :
    QuietLaw (Sighted K address first) where
  merged _ h := ⟨h.place, h.waiters, h.ends.append_singleton nofun⟩
  connection _ h := h.notified _ _
  resolved {past d} h := by
    have hrepublished : Sighted K address first past d.republished :=
      ⟨h.place, h.waiters, h.ends⟩
    exact hrepublished.notified _ _
  unresolved h := h.notified _ _
  announced _ h := ⟨h.place, h.waiters, h.ends.append_singleton nofun⟩

theorem sighted_replay (hwaiters : d.Waiters K) {moves : List Move}
    (hquiet : ∀ move ∈ moves, move.isQuiet = true) :
    Sighted K d.address d.state (d.replay moves).2 (d.replay moves).1 := by
  have hstart : Sighted K d.address d.state [] d :=
    ⟨rfl, hwaiters, fun _ _ _ h ↦ absurd h.symm (by simp)⟩
  exact (law_sighted K d.address d.state).replay hquiet hstart

end Device

end GattPeer
