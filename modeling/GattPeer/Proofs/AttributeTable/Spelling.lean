import GattPeer.Proofs.Ranges.Distinct
import GattPeer.Proofs.AttributeTable.FirstCome
import GattPeer.Proofs.Uuid.Spelling
import Mathlib.Data.List.Forall2

/-!
# Types in any spelling

Types are announced and looked for in many spellings. A table reads each of them once, when it comes
in, and keeps and compares what was read. So two histories whose operations differ in nothing but
the spelling of types go through the same tables and give the same answers, although they are
reported with the types as they were spelled.

A builder that takes the types of the announcements for spellings once more, and reads them again,
builds the same: what is written for a type reads back, so this neither fails nor changes a type.
-/

namespace GattPeer

/-! ## Ranges with types that are read again -/

/-- The attribute with a range that ends at `stop`, and with its type read again. -/
def Announcement.respanning (a : Announcement) (stop : Int) : Except Failure Characteristic := do
  let uuid ← Uuid.parse a.uuid.text
  return { a.spanning stop with uuid := uuid }

@[simp] theorem Announcement.respanning_eq (a : Announcement) (stop : Int) :
    a.respanning stop = .ok (a.spanning stop) := by
  rw [respanning, Uuid.parse_text]
  rfl

namespace Ranges

def entriesAnew : List Announcement → Except Failure (List Characteristic)
  | [] => return []
  | [a] => return [← a.respanning maxHandle]
  | a :: next :: rest =>
    return (← a.respanning (next.handle.number - 1)) :: (← entriesAnew (next :: rest))

/-- The ranges of all services and characteristics, with all types read again. -/
def buildAnew (announcements : List Announcement) : Except Failure (List Characteristic) := do
  let services ← entriesAnew (stream .service announcements)
  let characteristics ← entriesAnew (stream .characteristic announcements)
  return Characteristic.sort (services ++ characteristics)

@[simp] theorem entriesAnew_eq (as : List Announcement) : entriesAnew as = .ok (entries as) := by
  induction as with
  | nil => rfl
  | cons a as ih =>
    cases as with
    | nil =>
      rw [entriesAnew, Announcement.respanning_eq]
      rfl
    | cons next rest =>
      rw [entriesAnew, Announcement.respanning_eq, ih]
      rfl

/-- **Reading the types again changes nothing.** -/
@[simp] theorem buildAnew_eq (as : List Announcement) : buildAnew as = .ok (build as) := by
  rw [buildAnew, entriesAnew_eq, entriesAnew_eq]
  rfl

end Ranges

namespace AttributeTable

/-! ## Histories that differ in spelling -/

def answers (t : AttributeTable) : List Operation → List (Except Failure Answer)
  | [] => []
  | operation :: operations => (t.step operation).2.2 :: (t.step operation).1.answers operations

/-- Operations that are the same but for the spelling of a type: the two spellings are read alike.
-/
inductive Operation.Respelled : Operation → Operation → Prop
  | announce {uuid uuid' : String} (path : String) (flags : PropertyFlags)
    (h : Uuid.parse uuid = Uuid.parse uuid') :
    Respelled (.announce path uuid flags) (.announce path uuid' flags)
  | find {uuid uuid' : String} (start stop : Int) (h : Uuid.parse uuid = Uuid.parse uuid') :
    Respelled (.find uuid start stop) (.find uuid' start stop)
  | same (operation : Operation) : Respelled operation operation

theorem step_announce_congr (t : AttributeTable) {path uuid uuid' : String} {flags : PropertyFlags}
    (h : Announcement.read path uuid flags = Announcement.read path uuid' flags) :
    (t.step (.announce path uuid flags)).1 = (t.step (.announce path uuid' flags)).1 := by
  cases hread : Announcement.read path uuid flags with
  | error failure => rw [step_announce_of_error t hread, step_announce_of_error t (h ▸ hread)]
  | ok a => rw [step_announce_of_ok t hread, step_announce_of_ok t (h ▸ hread)]

/-- **One operation does and gives the same in any spelling.** -/
theorem step_respelled (t : AttributeTable) {x y : Operation} (h : x.Respelled y) :
    (t.step x).1 = (t.step y).1 ∧ (t.step x).2.2 = (t.step y).2.2 := by
  cases h with
  | @announce uuid uuid' path flags h =>
    have hread : Announcement.read path uuid flags = Announcement.read path uuid' flags := by
      simp only [Announcement.read, h]
    refine ⟨t.step_announce_congr hread, ?_⟩
    rw [outcome_step_announce, outcome_step_announce, hread]
  | find start stop h =>
    refine ⟨rfl, ?_⟩
    simp only [step, find?, h]
  | same operation => exact ⟨rfl, rfl⟩

/-- **A whole history does and gives the same in any spelling.** -/
theorem run_respelled (t : AttributeTable) {xs ys : List Operation}
    (h : List.Forall₂ Operation.Respelled xs ys) :
    t.run xs = t.run ys ∧ t.answers xs = t.answers ys := by
  induction h generalizing t with
  | nil => exact ⟨rfl, rfl⟩
  | @cons x y xs ys hhead _ ih =>
    obtain ⟨htable, hanswer⟩ := t.step_respelled hhead
    obtain ⟨hrun, hanswers⟩ := ih (t.step y).1
    constructor
    · change (t.step x).1.run xs = (t.step y).1.run ys
      rw [htable, hrun]
    · rw [answers, answers, htable, hanswer, hanswers]

/-- **The spelling of types does not matter.** The short and long spellings of a type, with letters
of either case, are all read as that type. Two histories of a table that differ in nothing but the
spelling of types, each read alike, give the same answers and end with the same table. And to read
the types of the announcements again when the ranges are built never fails, builds the same, and
leaves every service and characteristic the type that it was announced with. -/
theorem spelling_of_types_does_not_matter :
    (∀ s u, Uuid.Spells s u → Uuid.parse s = .ok u) ∧
    (∀ (t : AttributeTable) (xs ys : List Operation), List.Forall₂ Operation.Respelled xs ys →
      t.run xs = t.run ys ∧ t.answers xs = t.answers ys) ∧
    ∀ as, Ranges.buildAnew as = .ok (Ranges.build as) ∧
      ((Ranges.build as).map fun c ↦ (c.value, c.uuid)).Perm
        ((Ranges.ranged as).map fun a ↦ (a.handle.number, a.uuid)) := by
  refine ⟨fun s u h ↦ h.parse, fun t xs ys h ↦ t.run_respelled h,
    fun as ↦ ⟨Ranges.buildAnew_eq as, ?_⟩⟩
  have hperm := (Ranges.map_unranged_build_perm as).map fun c ↦ (c.value, c.uuid)
  rwa [List.map_map, List.map_map] at hperm

/-- A characteristic is announced by the short spelling or by the full one, and found by a long
one. -/
theorem short_and_full_spelling_are_found :
    let u : Uuid := ⟨0x2a0000001000800000805f9b34fb⟩
    let xs : List Operation := [.announce "/dev/char0002" "2a00" ⟨0⟩, .find "00002A00" 1 10]
    let ys : List Operation :=
      [.announce "/dev/char0002" "00002A00-0000-1000-8000-00805F9B34FB" ⟨0⟩, .find "2A00" 1 10]
    (empty "").answers xs = (empty "").answers ys ∧
      (empty "").answers ys = [.ok (.announcement ⟨"/dev/char0002", ⟨2, .characteristic⟩, u, ⟨0⟩⟩),
        .ok (.characteristic (some ⟨0, 0, 2, u, ⟨0⟩⟩))] := by
  intro u xs ys
  obtain ⟨hspells, hhistories, -⟩ := spelling_of_types_does_not_matter
  have hshort : Uuid.parse "2a00" = .ok u :=
    hspells _ _ (.short rfl (List.all_eq_true.mp rfl) rfl)
  have hupper : Uuid.parse "2A00" = .ok u :=
    hspells _ _ (.short rfl (List.all_eq_true.mp rfl) rfl)
  have hlong : Uuid.parse "00002A00" = .ok u :=
    hspells _ _ (.long rfl (List.all_eq_true.mp rfl) rfl)
  have hfull : Uuid.parse "00002A00-0000-1000-8000-00805F9B34FB" = .ok u :=
    hspells _ _ (.full (by decide +kernel))
  have hrespelled : List.Forall₂ Operation.Respelled xs ys :=
    .cons (.announce _ _ (hshort.trans hfull.symm))
      (.cons (.find _ _ (hlong.trans hupper.symm)) .nil)
  exact ⟨(hhistories (empty "") xs ys hrespelled).2, rfl⟩

end AttributeTable

end GattPeer
