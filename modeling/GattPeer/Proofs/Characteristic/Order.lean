import GattPeer.Characteristic
import GattPeer.Uuid.RoundTrip
import Mathlib.Data.List.Sort

/-!
# The order of characteristics

Characteristics are compared field by field, and the first difference decides. This is a linear
order: the comparisons of the fields are linear, and a UUID is determined by its text because what
is written reads back. A sorted list is therefore determined by its members alone, and sorting two
lists together is merging the two sorted lists.
-/

namespace GattPeer

theorem Uuid.text_injective : Function.Injective Uuid.text := by
  intro u v h
  have hparse : (.ok u : Except Failure Uuid) = .ok v := by
    rw [← Uuid.parse_text u, h, Uuid.parse_text v]
  exact Except.ok.inj hparse

namespace Characteristic

/-! ## A linear order -/

def le (a b : Characteristic) : Bool := (a.compare b).isLE

theorem compare_eq_compareLex : compare =
    compareLex (compareOn start) (compareLex (compareOn stop) (compareLex (compareOn value)
      (compareLex (compareOn fun c ↦ c.uuid.text) (compareOn fun c ↦ c.flags.bits)))) := rfl

instance : Std.TransCmp Characteristic.compare := by
  rw [compare_eq_compareLex]
  infer_instance

theorem eq_of_compare_eq {a b : Characteristic} (h : a.compare b = .eq) : a = b := by
  simp only [compare, Ordering.then_eq_eq, Std.compare_eq_iff_eq] at h
  obtain ⟨hstart, hstop, hvalue, huuid, hflags⟩ := h
  obtain ⟨_, _, _, u, ⟨m⟩⟩ := a
  obtain ⟨_, _, _, v, ⟨n⟩⟩ := b
  have huv : u = v := Uuid.text_injective huuid
  simp_all

theorem le_trans {a b c : Characteristic} (hab : a.le b) (hbc : b.le c) : a.le c :=
  Std.TransCmp.isLE_trans hab hbc

theorem le_total (a b : Characteristic) : (a.le b || b.le a) = true := by
  have hswap : b.compare a = (a.compare b).swap := Std.OrientedCmp.eq_swap
  rw [le, le, hswap]
  cases a.compare b <;> rfl

theorem le_antisymm {a b : Characteristic} (hab : a.le b) (hba : b.le a) : a = b :=
  eq_of_compare_eq (Std.OrientedCmp.isLE_antisymm hab hba)

theorem start_le_of_le {a b : Characteristic} (h : a.le b) : a.start ≤ b.start := by
  by_contra hlt
  have hgt : Ord.compare a.start b.start = .gt := Std.compare_eq_gt.mpr (not_le.mp hlt)
  simp [le, compare, hgt] at h

/-! ## Sorted lists -/

theorem sort_perm (cs : List Characteristic) : (sort cs).Perm cs := List.mergeSort_perm cs _

theorem pairwise_sort (cs : List Characteristic) : (sort cs).Pairwise fun a b ↦ a.le b :=
  List.pairwise_mergeSort (fun a b c ↦ @le_trans a b c) le_total cs

theorem eq_of_perm_of_pairwise {cs ds : List Characteristic} (hcs : cs.Pairwise fun a b ↦ a.le b)
    (hds : ds.Pairwise fun a b ↦ a.le b) (h : cs.Perm ds) : cs = ds :=
  List.Perm.eq_of_pairwise (fun _ _ _ _ ↦ le_antisymm) hcs hds h

theorem sort_append (cs ds : List Characteristic) :
    sort (cs ++ ds) = (sort cs).merge (sort ds) le := by
  have hpairwise : ((sort cs).merge (sort ds) le).Pairwise fun a b ↦ a.le b :=
    List.pairwise_merge (fun a b c ↦ @le_trans a b c) le_total _ _ (pairwise_sort cs)
      (pairwise_sort ds)
  have hperm : ((sort cs).merge (sort ds) le).Perm (cs ++ ds) :=
    (List.merge_perm_append le).trans ((sort_perm cs).append (sort_perm ds))
  exact eq_of_perm_of_pairwise (pairwise_sort _) hpairwise ((sort_perm _).trans hperm.symm)

end Characteristic

end GattPeer
