import GattPeer.Proofs.Device.Companions

/-!
# Calls under a number

How the calls under one number fare among all that happens to a device. Calls to connect wait
together: until a connection is notified they all wait and none ends, and by that notification they
all end well. Of another number nothing is said, so that what happens may be cut anywhere and the
pieces be looked at one after the other.
-/

namespace GattPeer

/-- To connect within a budget of which something is left. -/
def Purpose.connecting (budget : Number × Number.Exact) : Purpose := .connect budget.1 budget.2

def Happening.isConnection : Happening → Bool
  | .notified _ state => state.isConnected
  | _ => false

/-- How the calls under a number ended, in their order. -/
def outcomesUnder (id : Nat) (course : List Happening) : List (Except Failure Reading) :=
  ((endings course).filter (·.1 = id)).map (·.2)

@[simp] theorem outcomesUnder_append (id : Nat) (xs ys : List Happening) :
    outcomesUnder id (xs ++ ys) = outcomesUnder id xs ++ outcomesUnder id ys := by
  rw [outcomesUnder, endings_append, List.filter_append, List.map_append]
  rfl

@[simp]
theorem outcomesUnder_self (id : Nat) (outcome : Except Failure Reading) (journal : List Notice) :
    outcomesUnder id [.ended ⟨id, outcome, journal⟩] = [outcome] := by
  simp [outcomesUnder, endings, Happening.ended?]

theorem outcomesUnder_of_ne {id : Nat} {e : EndedCall} (h : e.id ≠ id) :
    outcomesUnder id [.ended e] = [] := by
  simp [outcomesUnder, endings, Happening.ended?, h]

namespace Device

def waitsUnder (d : Device) (id : Nat) : List Purpose :=
  (d.outlook.calls.filter (·.1 = id)).map (·.2)

theorem waitsUnder_eq (d : Device) (id : Nat) :
    d.waitsUnder id = (d.pending.filter (·.id = id)).map (·.purpose) := by
  have hcalls : d.outlook.calls = d.pending.map fun c ↦ (c.id, c.purpose) := by
    rw [outlook, pending, List.map_map]
    rfl
  rw [waitsUnder, hcalls, List.filter_map, List.map_map]
  rfl

@[simp] theorem waitsUnder_joinedBy (d : Device) (c : Call) (id : Nat) :
    (d.joinedBy c).waitsUnder id
      = d.waitsUnder id ++ if c.id = id then [c.purpose] else [] := by
  have hpending : (d.joinedBy c).pending = d.pending ++ [c] := List.map_append
  rw [waitsUnder_eq, waitsUnder_eq, hpending, List.filter_append, List.map_append]
  by_cases h : c.id = id <;> simp [h]

variable {K : Call → Prop} {d : Device} {id : Nat}

theorem waitsUnder_seeing (h : d.Waiters K) (state : ConnectionState) (id : Nat) :
    (d.seeing state).waitsUnder id = (d.waitsUnder id).filter fun p ↦ !p.metBy state := by
  rw [waitsUnder, outlook_seeing h, waitsUnder, List.filter_map, List.filter_filter,
    List.filter_filter]
  refine congrArg (List.map _) (List.filter_congr fun c _ ↦ ?_)
  exact Bool.and_comm ..

theorem outcomesUnder_endedBy (h : d.Waiters K) (state : ConnectionState) (id : Nat) :
    outcomesUnder id (d.endedBy state)
      = ((d.waitsUnder id).filter (·.metBy state)).map fun p ↦ (d.result p state).1 := by
  rw [outcomesUnder, endings_endedBy h, waitsUnder, List.filter_map, List.filter_map, List.map_map,
    List.map_map, List.filter_filter, List.filter_filter]
  refine congrArg (List.map _) (List.filter_congr fun c _ ↦ ?_)
  exact Bool.and_comm ..

theorem mem_waitsUnder {p : Purpose} :
    p ∈ d.waitsUnder id ↔ ∃ c ∈ d.pending, c.id = id ∧ c.purpose = p := by
  rw [waitsUnder_eq, List.mem_map]
  simp only [List.mem_filter, decide_eq_true_eq, and_assoc]

theorem waitsUnder_leftBy_of_ne (d : Device) {id id' : Nat} (h : id ≠ id') :
    (d.leftBy id').waitsUnder id = d.waitsUnder id := by
  have hpending : (d.leftBy id').pending = d.pending.filter fun c ↦ !c.endsAt id' := by
    rw [pending, pending, List.filter_map]
    rfl
  rw [waitsUnder_eq, waitsUnder_eq, hpending, List.filter_filter]
  refine congrArg (List.map _) (List.filter_congr fun c _ ↦ ?_)
  rw [Call.endsAt]
  by_cases hc : c.id = id <;> simp [hc, h]

theorem outcomesUnder_endedAt_of_ne (h : d.Waiters K) {id' : Nat} (hne : id ≠ id') :
    outcomesUnder id (d.endedAt id') = [] := by
  rw [outcomesUnder, endings_endedAt h, List.filter_map, List.filter_filter,
    List.map_eq_nil_iff, List.map_eq_nil_iff]
  refine List.filter_eq_nil_iff.mpr fun c _ ↦ ?_
  by_cases hc : c.1 = id <;> simp [hc, hne]

/-- Those who leave at their deadline ran out of time, since nobody waits for what the state gives.
-/
theorem outcomesUnder_endedAt (h : d.Attentive K) (id : Nat) :
    outcomesUnder id (d.endedAt id)
      = ((d.waitsUnder id).filter (·.hasDeadline)).map fun p ↦ (d.expire ⟨id, p, []⟩).outcome := by
  have hunmet : ∀ c ∈ d.outlook.calls, c.2.metBy d.state = false := by
    intro c hc
    obtain ⟨w, hw, rfl⟩ := List.mem_map.mp hc
    exact h.not_metBy (List.mem_map.mpr ⟨w, hw, rfl⟩)
  rw [outcomesUnder, endings_endedAt h.waiters, waitsUnder, List.filter_map, List.filter_map,
    List.map_map, List.map_map, List.filter_filter, List.filter_filter]
  have hfilter : d.outlook.calls.filter (fun c ↦ decide (c.1 = id)
      && (decide (c.1 = id) && c.2.hasDeadline))
      = d.outlook.calls.filter fun c ↦ c.2.hasDeadline && decide (c.1 = id) := by
    refine List.filter_congr fun c _ ↦ ?_
    by_cases hc : c.1 = id <;> simp [hc]
  refine (congrArg (List.map _) hfilter).trans (List.map_congr_left fun c hc ↦ ?_)
  obtain ⟨hmem, -⟩ := List.mem_filter.mp hc
  simp only [Function.comp_apply, hunmet c hmem]
  exact outcome_expire_eq d d rfl

/-! ## Calls to connect -/

/-- How it stands with calls to connect under a number, which had these budgets, after a course of
events: they wait and none ended, or a connection was notified and they all ended well. -/
structure Standing (id : Nat) (budgets : List (Number × Number.Exact)) (past : List Happening)
    (d : Device) : Prop where
  /-- Calls wait for their purposes. -/
  waiters : d.Waiters fun _ ↦ True
  /-- Who waits under the number. -/
  waits : d.waitsUnder id
    = if past.any Happening.isConnection then [] else budgets.map .connecting
  /-- Who ended under the number. -/
  outcomes : outcomesUnder id past
    = if past.any Happening.isConnection then budgets.map fun _ ↦ .ok .nothing else []

variable {budgets : List (Number × Number.Exact)} {past : List Happening}

theorem Waiters.weaken (h : d.Waiters K) : d.Waiters fun _ ↦ True :=
  fun w hw ↦ ⟨(h w hw).1, trivial⟩

theorem standing_nil (h : d.Waiters K) (hwaits : d.waitsUnder id = budgets.map .connecting) :
    Standing id budgets [] d :=
  ⟨h.weaken, hwaits, rfl⟩

theorem Standing.append_quiet {d' : Device} {more : List Happening}
    (h : Standing id budgets past d) (hwaiters : d'.Waiters fun _ ↦ True)
    (hwaits : d'.waitsUnder id = d.waitsUnder id)
    (hmore : more.any Happening.isConnection = false) (houtcomes : outcomesUnder id more = []) :
    Standing id budgets (past ++ more) d' := by
  have hany : (past ++ more).any Happening.isConnection = past.any Happening.isConnection := by
    rw [List.any_append, hmore, Bool.or_false]
  refine ⟨hwaiters, ?_, ?_⟩
  · rw [hwaits, hany, h.waits]
  · rw [outcomesUnder_append, houtcomes, hany, h.outcomes, List.append_nil]

@[simp] theorem any_isConnection_endedBy (d : Device) (state : ConnectionState) :
    (d.endedBy state).any Happening.isConnection = false := by
  refine List.any_eq_false.mpr fun h hh ↦ ?_
  obtain ⟨w, -, rfl⟩ := List.mem_map.mp hh
  exact Bool.false_ne_true

theorem Standing.notified (h : Standing id budgets past d) (news : News)
    (state : ConnectionState) :
    Standing id budgets (past ++ .notified news state :: d.endedBy state) (d.seeing state) := by
  have hany : (past ++ .notified news state :: d.endedBy state).any Happening.isConnection
      = (past.any Happening.isConnection || state.isConnected) := by
    rw [List.any_append, List.any_cons, any_isConnection_endedBy, Bool.or_false]
    rfl
  have houtcomes : outcomesUnder id (past ++ .notified news state :: d.endedBy state)
      = outcomesUnder id past ++ outcomesUnder id (d.endedBy state) := outcomesUnder_append ..
  have hmet (connected : Bool) : (budgets.map Purpose.connecting).filter (fun _ ↦ connected)
      = if connected then budgets.map .connecting else [] := by
    cases connected <;> simp
  have hfilter : (budgets.map Purpose.connecting).filter (·.metBy state)
      = (budgets.map Purpose.connecting).filter fun _ ↦ state.isConnected :=
    List.filter_congr fun p hp ↦ by
      obtain ⟨budget, -, rfl⟩ := List.mem_map.mp hp
      rfl
  have hfilter' : (budgets.map Purpose.connecting).filter (fun p ↦ !p.metBy state)
      = (budgets.map Purpose.connecting).filter fun _ ↦ !state.isConnected :=
    List.filter_congr fun p hp ↦ by
      obtain ⟨budget, -, rfl⟩ := List.mem_map.mp hp
      rfl
  refine ⟨h.waiters.seeing state, ?_, ?_⟩
  · rw [waitsUnder_seeing h.waiters, h.waits, hany]
    cases past.any Happening.isConnection with
    | true => rfl
    | false =>
      simp only [Bool.false_or]
      rw [if_neg Bool.false_ne_true, hfilter', hmet]
      cases state.isConnected <;> rfl
  · rw [houtcomes, h.outcomes, outcomesUnder_endedBy h.waiters, h.waits, hany]
    cases past.any Happening.isConnection with
    | true =>
      rw [if_pos rfl, Bool.true_or, if_pos rfl]
      exact List.append_nil _
    | false =>
      simp only [Bool.false_or]
      rw [if_neg Bool.false_ne_true, if_neg Bool.false_ne_true, hfilter, hmet, List.nil_append]
      cases state.isConnected with
      | false => rfl
      | true =>
        rw [if_pos rfl, if_pos rfl, List.map_map]
        rfl

/-- **Calls to connect wait until a connection is notified**, whatever quiet moves are made. -/
theorem law_standing (id : Nat) (budgets : List (Number × Number.Exact)) :
    QuietLaw (Standing id budgets) where
  merged _ h := h.append_quiet h.waiters rfl rfl rfl
  connection _ h := h.notified _ _
  resolved {past d} h := by
    have hrepublished : Standing id budgets past d.republished := ⟨h.waiters, h.waits, h.outcomes⟩
    exact hrepublished.notified _ _
  unresolved h := h.notified _ _
  announced _ h := h.append_quiet h.waiters rfl rfl rfl

theorem Standing.expired (h : Standing id budgets past d) {id' : Nat} (hne : id ≠ id') :
    Standing id budgets (past ++ d.endedAt id') (d.leftBy id') := by
  refine h.append_quiet (h.waiters.leftBy id') (waitsUnder_leftBy_of_ne d hne) ?_
    (outcomesUnder_endedAt_of_ne h.waiters hne)
  refine List.any_eq_false.mpr fun x hx ↦ ?_
  obtain ⟨w, -, rfl⟩ := List.mem_map.mp hx
  exact Bool.false_ne_true

/-- What happens after some past is looked at by itself, with those who are left. -/
theorem Standing.append {d' : Device} {more : List Happening} (h : Standing id budgets past d)
    (h' : Standing id (if past.any Happening.isConnection then [] else budgets) more d') :
    Standing id budgets (past ++ more) d' := by
  refine ⟨h'.waiters, ?_, ?_⟩
  · rw [h'.waits, List.any_append]
    cases past.any Happening.isConnection with
    | true =>
      rw [Bool.true_or, if_pos rfl, if_pos rfl]
      exact ite_self _
    | false =>
      rw [Bool.false_or]
      rfl
  · rw [outcomesUnder_append, h.outcomes, h'.outcomes, List.any_append]
    cases past.any Happening.isConnection with
    | true =>
      rw [Bool.true_or, if_pos rfl, if_pos rfl]
      exact (congrArg _ (ite_self _)).trans (List.append_nil _)
    | false =>
      rw [Bool.false_or]
      rfl

end Device

end GattPeer
