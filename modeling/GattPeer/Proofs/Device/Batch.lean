import GattPeer.Proofs.Device.Replay
import Mathlib.Data.List.TakeWhile

/-!
# The course of a batch

A batch of changes is merged, then its connection property is handled and then its resolution
property, each with its notification and the calls that end by it. In the course of moves, a batch
that is merged is one of the moves, so that all of this follows the merge without interruption.
-/

namespace GattPeer

def Happening.isEnd : Happening → Bool
  | .ended _ => true
  | _ => false

def Happening.ended? : Happening → Option EndedCall
  | .ended e => some e
  | _ => none

/-- Whether something that happens belongs to the batch before it: notifications and ends of calls
do. -/
def Happening.belongs : Happening → Bool
  | .notified .. | .ended _ => true
  | .announced _ | .merged _ => false

namespace Device

theorem isEnd_of_mem_endedBy {d : Device} {state : ConnectionState} {h : Happening}
    (hmem : h ∈ d.endedBy state) : h.isEnd = true := by
  obtain ⟨w, -, rfl⟩ := List.mem_map.mp hmem
  rfl

theorem isEnd_of_mem_endedAt {d : Device} {id : Nat} {h : Happening} (hmem : h ∈ d.endedAt id) :
    h.isEnd = true := by
  obtain ⟨w, -, rfl⟩ := List.mem_map.mp hmem
  rfl

theorem belongs_of_isEnd {h : Happening} (hend : h.isEnd = true) : h.belongs = true := by
  cases h with
  | ended e => rfl
  | _ => exact absurd hend Bool.false_ne_true

theorem driven_course {change : Device → Bool → Device × Effects} {news : Bool → News}
    {seen : Device → Bool → ConnectionState} (hchange : ∀ d b, ∃ d' state,
      (change d b).2.course = .notified (news b) (seen d b) :: endedBy d' state)
    (d : Device) (truth : Option Bool) :
    (∀ h ∈ (driven change d truth).2,
      (∃ b, h = .notified (news b) (seen d b)) ∨ h.isEnd = true) ∧
      ∀ b, truth = some b → .notified (news b) (seen d b) ∈ (driven change d truth).2 := by
  cases truth with
  | none => exact ⟨nofun, nofun⟩
  | some b =>
    obtain ⟨d', state, hcourse⟩ := hchange d b
    rw [driven, hcourse]
    constructor
    · intro h hh
      rcases List.mem_cons.mp hh with rfl | hh
      · exact .inl ⟨b, rfl⟩
      · exact .inr (isEnd_of_mem_endedBy hh)
    · rintro b' hb
      cases hb
      exact List.mem_cons_self

theorem connected_course (d : Device) (truth : Option Bool) :
    (∀ h ∈ (driven connectionChanged d truth).2,
      (∃ b, h = .notified (.connection b) (d.stateUpon b)) ∨ h.isEnd = true) ∧
      ∀ b, truth = some b → .notified (.connection b) (d.stateUpon b) ∈
        (driven connectionChanged d truth).2 := by
  refine driven_course (fun d b ↦ ?_) d truth
  exact ⟨_, _, connectionChanged_course d b⟩

/-- The state that is seen upon a value of the resolution property. -/
def stateUponResolution (d : Device) (value : Bool) : ConnectionState :=
  if value then .servicesResolved else d.state

theorem resolved_course (d : Device) (truth : Option Bool) :
    (∀ h ∈ (driven resolutionChanged d truth).2,
      (∃ b, h = .notified (.resolution b) (d.stateUponResolution b)) ∨ h.isEnd = true) ∧
      ∀ b, truth = some b → .notified (.resolution b) (d.stateUponResolution b) ∈
        (driven resolutionChanged d truth).2 := by
  refine driven_course (fun d b ↦ ?_) d truth
  cases b with
  | true => exact ⟨_, _, resolutionChanged_true_course d⟩
  | false => exact ⟨_, _, resolutionChanged_false_course d⟩

/-- **What happens by a batch**: it is merged, then the connection property is handled and then the
resolution property, each with its notification and the calls that end by it. -/
theorem exists_update_course (d : Device) (changes : Changes) :
    ∃ xs ys d', (d.update changes).2.course = .merged changes :: xs ++ ys ∧
      (∀ h ∈ xs, (∃ b, h = .notified (.connection b) (d.stateUpon b)) ∨ h.isEnd = true) ∧
      (∀ h ∈ ys,
        (∃ b, h = .notified (.resolution b) (stateUponResolution d' b)) ∨ h.isEnd = true) ∧
      (∀ b, changes.truth? "Connected" = some b →
        .notified (.connection b) (d.stateUpon b) ∈ xs) ∧
      ∀ b, changes.truth? "ServicesResolved" = some b →
        .notified (.resolution b) (stateUponResolution d' b) ∈ ys := by
  obtain ⟨-, hcourse⟩ := update_eq_driven d changes
  obtain ⟨hxs, hconnected⟩ := connected_course (d.merging changes) (changes.truth? "Connected")
  obtain ⟨hys, hresolved⟩ := resolved_course
    (driven connectionChanged (d.merging changes) (changes.truth? "Connected")).1
    (changes.truth? "ServicesResolved")
  exact ⟨_, _, _, hcourse, hxs, hys, hconnected, hresolved⟩

theorem belongs_of_update {d : Device} {changes : Changes} {rest : List Happening}
    (hcourse : (d.update changes).2.course = .merged changes :: rest) :
    ∀ h ∈ rest, h.belongs = true := by
  obtain ⟨xs, ys, d', hcourse', hxs, hys, -⟩ := exists_update_course d changes
  rw [(List.cons.inj (hcourse.symm.trans hcourse')).2]
  intro h hh
  rcases List.mem_append.mp hh with hh | hh
  · rcases hxs h hh with ⟨b, rfl⟩ | hend
    · rfl
    · exact belongs_of_isEnd hend
  · rcases hys h hh with ⟨b, rfl⟩ | hend
    · rfl
    · exact belongs_of_isEnd hend

theorem exists_rest_of_update (d : Device) (changes : Changes) :
    ∃ rest, (d.update changes).2.course = .merged changes :: rest := by
  obtain ⟨xs, ys, d', hcourse, -⟩ := exists_update_course d changes
  exact ⟨xs ++ ys, hcourse⟩

/-! ## Batches among moves -/

theorem eq_update_of_merged_mem {d : Device} {move : Move} {changes : Changes}
    (h : .merged changes ∈ (d.make move).2) : move = .update changes := by
  cases move with
  | announce a => cases List.mem_singleton.mp h
  | close id failure journal => cases List.mem_singleton.mp h
  | deadline id =>
    rw [make, reachDeadline_eq] at h
    exact absurd (isEnd_of_mem_endedAt h) Bool.false_ne_true
  | call c =>
    rw [make] at h
    split at h
    · cases List.mem_singleton.mp h
    · exact absurd h List.not_mem_nil
  | update changes' =>
    obtain ⟨rest, hcourse⟩ := exists_rest_of_update d changes'
    rw [make, hcourse] at h
    rcases List.mem_cons.mp h with h | h
    · rw [Happening.merged.inj h]
    · exact absurd (belongs_of_update hcourse _ h) Bool.false_ne_true

theorem isEnd_of_mem_takeWhile_replay (d : Device) (moves : List Move) :
    ∀ h ∈ (d.replay moves).2.takeWhile Happening.belongs, h.isEnd = true := by
  induction moves generalizing d with
  | nil => exact fun h hh ↦ absurd hh List.not_mem_nil
  | cons move moves ih =>
    rw [replay_cons]
    cases move with
    | announce a => exact fun h hh ↦ absurd hh List.not_mem_nil
    | update changes =>
      obtain ⟨rest, hcourse⟩ := exists_rest_of_update d changes
      rw [make, hcourse]
      exact fun h hh ↦ absurd hh List.not_mem_nil
    | close id failure journal =>
      intro h hh
      exact (List.mem_cons.mp hh).elim (fun heq ↦ heq ▸ rfl) (ih _ h)
    | call c =>
      rw [make]
      split
      · intro h hh
        exact (List.mem_cons.mp hh).elim (fun heq ↦ heq ▸ rfl) (ih _ h)
      · exact ih _
    | deadline id =>
      rw [make, reachDeadline_eq,
        List.takeWhile_append_of_pos fun h hh ↦ belongs_of_isEnd (isEnd_of_mem_endedAt hh)]
      intro h hh
      exact (List.mem_append.mp hh).elim isEnd_of_mem_endedAt (ih _ h)

/-- **A batch that is merged in the course of moves is one of the moves**, and all that happens by
it follows. -/
theorem exists_update_of_merged {d : Device} {moves : List Move} {before after : List Happening}
    {changes : Changes} (h : (d.replay moves).2 = before ++ .merged changes :: after) :
    ∃ xs ys rest, moves = xs ++ .update changes :: ys ∧ (d.replay xs).2 = before ∧
      ((d.replay xs).1.update changes).2.course = .merged changes :: rest ∧
      after = rest ++ (((d.replay xs).1.update changes).1.replay ys).2 := by
  induction moves generalizing d before with
  | nil => exact absurd h.symm (List.append_ne_nil_of_right_ne_nil _ (List.cons_ne_nil _ _))
  | cons move moves ih =>
    rw [replay_cons] at h
    -- Either the batch comes after the first move, or it is the first move.
    have hlater : ∀ {before'}, before = (d.make move).2 ++ before' →
        ((d.make move).1.replay moves).2 = before' ++ .merged changes :: after →
        ∃ xs ys rest, move :: moves = xs ++ .update changes :: ys ∧ (d.replay xs).2 = before ∧
          ((d.replay xs).1.update changes).2.course = .merged changes :: rest ∧
          after = rest ++ (((d.replay xs).1.update changes).1.replay ys).2 := by
      intro before' hbefore hrest
      obtain ⟨xs, ys, rest, rfl, hxs, hcourse, hafter⟩ := ih hrest
      refine ⟨move :: xs, ys, rest, rfl, ?_, hcourse, hafter⟩
      rw [replay_cons, hxs, hbefore]
    rcases List.append_eq_append_iff.mp h with ⟨before', hbefore, hrest⟩ | ⟨mid, hmake, hafter⟩
    · exact hlater hbefore hrest
    · cases mid with
      | nil => exact @hlater [] (by rw [hmake, List.append_nil, List.append_nil]) hafter.symm
      | cons x mid =>
        obtain ⟨rfl, rfl⟩ := List.cons.inj hafter
        obtain rfl := eq_update_of_merged_mem (hmake ▸ List.mem_append_right _ List.mem_cons_self)
        obtain ⟨rest, hcourse⟩ := exists_rest_of_update d changes
        cases before with
        | nil => exact ⟨[], moves, mid, rfl, rfl, hmake, rfl⟩
        | cons b bs =>
          have hmem : .merged changes ∈ rest := by
            rw [(List.cons.inj (hcourse.symm.trans hmake)).2]
            exact List.mem_append_right _ List.mem_cons_self
          exact absurd (belongs_of_update hcourse _ hmem) Bool.false_ne_true

theorem notified_of_merged {d : Device} {moves : List Move} {before after : List Happening}
    {changes : Changes} (h : (d.replay moves).2 = before ++ .merged changes :: after) :
    (changes.truth? "Connected" = some false →
      .notified (.connection false) .notConnected ∈ after.takeWhile Happening.belongs) ∧
    (changes.truth? "ServicesResolved" = some true →
      .notified (.resolution true) .servicesResolved ∈ after.takeWhile Happening.belongs) := by
  obtain ⟨xs, ys, rest, -, -, hcourse, rfl⟩ := exists_update_of_merged h
  rw [List.takeWhile_append_of_pos (belongs_of_update hcourse)]
  obtain ⟨us, vs, d', hcourse', -, -, hconnected, hresolved⟩ :=
    exists_update_course (d.replay xs).1 changes
  rw [(List.cons.inj (hcourse.symm.trans hcourse')).2]
  constructor
  · intro hfalse
    exact List.mem_append_left _ (List.mem_append_left _ (hconnected false hfalse))
  · intro htrue
    exact List.mem_append_left _ (List.mem_append_right _ (hresolved true htrue))

end Device

end GattPeer
