import GattPeer.Proofs.Characteristic.Order
import GattPeer.Proofs.FallibleSort.Ascending
import GattPeer.Proofs.Uuid.Spelling
import Mathlib.Data.Char
import Mathlib.Data.List.Lex
import Mathlib.Data.List.Perm.Basic
import Mathlib.Data.Prod.Lex
import Mathlib.Data.String.Basic

/-!
# Comparing, collecting and sorting characteristics

Characteristics are compared like the tuples of their fields, in which the type stands by the code
points of its text. These tuples are ordered lexicographically, which is a linear order because the
order of each field is one; and a characteristic is determined by its tuple, because a type is
determined by its text.

Two things follow. Sets do not tell equal characteristics apart, however their types were spelled
and however they are hashed. And there is only one ascending arrangement of given characteristics:
it does not matter in which sequence they are given, nor which of them are compared to sort them.
-/

namespace GattPeer.Characteristic

/-! ## The order of the fields -/

/-- The fields of a characteristic as they are compared, the type by the code points of its text. -/
def key (c : Characteristic) : Int ×ₗ Int ×ₗ Int ×ₗ List Nat ×ₗ Nat :=
  toLex (c.start, toLex (c.stop, toLex (c.value,
    toLex (c.uuid.text.toList.map Char.toNat, c.flags.bits))))

theorem map_toNat_lt_iff (cs ds : List Char) :
    cs.map Char.toNat < ds.map Char.toNat ↔ cs < ds := by
  induction cs generalizing ds with
  | nil => cases ds <;> simp
  | cons c cs ih =>
    cases ds with
    | nil => simp
    | cons d ds =>
      rw [List.map_cons, List.map_cons, List.cons_lt_cons_iff, List.cons_lt_cons_iff, ih,
        Char.toNat_inj]
      rfl

theorem map_toNat_inj (s t : String) :
    s.toList.map Char.toNat = t.toList.map Char.toNat ↔ s = t := by
  rw [List.map_inj_right fun _ _ h ↦ Char.toNat_inj.mp h, String.toList_inj]

theorem compare_text_eq_lt_iff (s t : String) :
    Ord.compare s t = .lt ↔ s.toList.map Char.toNat < t.toList.map Char.toNat := by
  rw [map_toNat_lt_iff, ← String.lt_iff_toList_lt]
  exact compareOfLessAndEq_eq_lt

@[simp] theorem compare_eq_lt_iff (a b : Characteristic) : a.compare b = .lt ↔ a.key < b.key := by
  simp only [compare, key, Ordering.then_eq_lt, Std.compare_eq_lt, Std.compare_eq_iff_eq,
    Prod.Lex.toLex_lt_toLex, compare_text_eq_lt_iff, map_toNat_inj]

@[simp] theorem compare_eq_gt_iff (a b : Characteristic) : a.compare b = .gt ↔ b.key < a.key := by
  rw [Std.OrientedCmp.gt_iff_lt, compare_eq_lt_iff]

/-- **A characteristic is determined by its fields**, with its type as a text. -/
theorem key_injective : Function.Injective key := by
  intro a b h
  refine eq_of_compare_eq ?_
  simp only [key, toLex_inj, Prod.mk.injEq, map_toNat_inj] at h
  simp only [compare, Ordering.then_eq_eq, Std.compare_eq_iff_eq]
  exact h

/-- **Comparing two characteristics is comparing their fields**, in any way. -/
theorem compare_iff_key (a b : Characteristic) :
    (a = b ↔ a.key = b.key) ∧
      ((a.compare b).isLT ↔ a.key < b.key) ∧ ((a.compare b).isLE ↔ a.key ≤ b.key) ∧
      ((a.compare b).isGT ↔ a.key > b.key) ∧ ((a.compare b).isGE ↔ a.key ≥ b.key) := by
  refine ⟨key_injective.eq_iff.symm, ?_, ?_, ?_, ?_⟩
  · rw [Ordering.isLT_iff_eq_lt, compare_eq_lt_iff]
  · rw [Ordering.isLE_iff_ne_gt, compare_eq_gt_iff, not_lt]
  · rw [Ordering.isGT_iff_eq_gt, compare_eq_gt_iff]
  · rw [Ordering.isGE_iff_ne_lt, compare_eq_lt_iff, not_lt]

/-- **Exactly one of less, equal and greater holds.** -/
theorem count_less_equal_greater (a b : Characteristic) :
    [(a.compare b).isLT, a == b, (a.compare b).isGT].count true = 1 := by
  have hequal : (a == b) = (a.compare b).isEq := by
    rw [Bool.eq_iff_iff, beq_iff_eq, Ordering.isEq_iff_eq_eq]
    constructor
    · rintro rfl
      exact Std.ReflCmp.compare_self
    · exact eq_of_compare_eq
  rw [hequal]
  cases a.compare b <;> rfl

/-! ## Made of fields -/

theorem make_eq_ok_iff {start stop value : Int} {uuid : String} {flags : PropertyFlags}
    {c : Characteristic} : make start stop value uuid flags = .ok c ↔
      (start, stop, value) = (c.start, c.stop, c.value) ∧ Uuid.parse uuid = .ok c.uuid ∧
        flags = c.flags := by
  rw [make]
  cases hparse : Uuid.parse uuid with
  | error failure => simp [bind, Except.bind]
  | ok u =>
    obtain ⟨start', stop', value', uuid', flags'⟩ := c
    simp [bind, Except.bind, pure, Except.pure, and_assoc]

/-- **Equality is that of the fields**, where types are equal if they are read alike. -/
theorem eq_iff_of_make {a b : Characteristic} {i j k i' j' k' : Int} {s t : String}
    {f g : PropertyFlags} (ha : make i j k s f = .ok a) (hb : make i' j' k' t g = .ok b) :
    a = b ↔ (i, j, k) = (i', j', k') ∧ Uuid.parse s = Uuid.parse t ∧ f = g := by
  obtain ⟨hrange, hs, rfl⟩ := make_eq_ok_iff.mp ha
  obtain ⟨hrange', ht, rfl⟩ := make_eq_ok_iff.mp hb
  rw [hrange, hrange', hs, ht]
  obtain ⟨start, stop, value, u, flags⟩ := a
  obtain ⟨start', stop', value', v, flags'⟩ := b
  simp [and_assoc]

@[simp] theorem make_self (c : Characteristic) :
    make c.start c.stop c.value c.uuid.text c.flags = .ok c :=
  make_eq_ok_iff.mpr ⟨rfl, Uuid.parse_text c.uuid, rfl⟩

/-! ## Sorting -/

theorem ranks_compare {ε : Type} :
    FallibleSort.Ranks le fun a b ↦ (.ok (a.compare b).isLT : Except ε Bool) where
  trans := le_trans
  total a b := by simpa using le_total a b
  less_eq a b := by
    have hswap : b.compare a = (a.compare b).swap := Std.OrientedCmp.eq_swap
    rw [le, hswap]
    cases a.compare b <;> rfl

/-- **There is one ascending arrangement** of given characteristics. -/
theorem eq_sort_iff {cs ds : List Characteristic} :
    ds = sort cs ↔ ds.Perm cs ∧ ds.Pairwise fun a b ↦ a.le b := by
  constructor
  · rintro rfl
    exact ⟨sort_perm cs, pairwise_sort cs⟩
  · rintro ⟨hperm, hsorted⟩
    exact eq_of_perm_of_pairwise hsorted (pairwise_sort cs) (hperm.trans (sort_perm cs).symm)

/-- **Characteristics are sorted alike** exactly if they are the same but for their sequence. -/
@[simp]
theorem sort_eq_sort_iff {cs ds : List Characteristic} : sort cs = sort ds ↔ cs.Perm ds := by
  constructor
  · intro h
    exact (sort_perm cs).symm.trans (eq_sort_iff.mp h).1
  · intro h
    exact eq_sort_iff.mpr ⟨(sort_perm cs).trans h, pairwise_sort cs⟩

/-- **A sort that goes by comparisons** gives the ascending arrangement, whichever comparisons it
makes. -/
theorem fallibleSort_eq_sort {ε : Type} (cs : List Characteristic) :
    FallibleSort.sort (fun a b ↦ .ok (a.compare b).isLT) cs
      = (.ok (sort cs) : Except ε (List Characteristic)) := by
  obtain ⟨result, hresult, hperm, hsorted⟩ := ranks_compare.exists_sort cs
  rw [hresult, eq_sort_iff.mpr ⟨hperm, hsorted⟩]

/-! ## Sets -/

/-- The members of the set of some characteristics, as a set lists them that hashes in some way. -/
def members (hash : Characteristic → UInt64) (cs : List Characteristic) : List Characteristic :=
  let _ : Hashable Characteristic := ⟨hash⟩
  (Std.HashSet.ofList cs).toList

variable (hash hash' : Characteristic → UInt64)

@[simp] theorem mem_members {c : Characteristic} {cs : List Characteristic} :
    c ∈ members hash cs ↔ c ∈ cs := by
  let _ : Hashable Characteristic := ⟨hash⟩
  simp [members]

theorem nodup_members (cs : List Characteristic) : (members hash cs).Nodup := by
  let _ : Hashable Characteristic := ⟨hash⟩
  exact Std.HashSet.distinct_toList.imp fun h ↦ by simpa using h

/-- **Sets have the same members** if the members of both are the same but for their sequence. -/
theorem members_perm_iff {cs ds : List Characteristic} :
    (members hash cs).Perm (members hash' ds) ↔ ∀ c, c ∈ cs ↔ c ∈ ds := by
  rw [List.perm_ext_iff_of_nodup (nodup_members hash cs) (nodup_members hash' ds)]
  simp only [mem_members]

/-- **Equal characteristics are one member of a set.** -/
theorem length_members_pair (a b : Characteristic) :
    (members hash [a, b]).length = 1 ↔ a = b := by
  constructor
  · intro h
    obtain ⟨c, hc⟩ := List.length_eq_one_iff.mp h
    have heq {d : Characteristic} (hd : d ∈ [a, b]) : d = c := by
      rw [← mem_members hash, hc] at hd
      exact List.mem_singleton.mp hd
    rw [heq (by simp : a ∈ [a, b]), heq (by simp : b ∈ [a, b])]
  · rintro rfl
    have hperm : (members hash [a, a]).Perm [a] := by
      rw [List.perm_ext_iff_of_nodup (nodup_members hash _) (List.nodup_singleton a)]
      intro c
      simp
    exact hperm.length_eq

/-! ## The linear order -/

/-- **Characteristics are linearly ordered by their fields, and so there is one way to sort them.**
To be equal, less, at most, greater or at least is to be so as a tuple of fields. Of less, equal and
greater, exactly one holds of any two; and to be at most something is transitive and antisymmetric.
Every characteristic is made of its fields, and two of them are equal if they are made of the same
numbers and flags and of types that are read alike. In a set, whatever it hashes by, two are one
member if they are equal, and sets with the same members give the same sorted list. What is sorted
is the one ascending arrangement of the characteristics, also if the sort goes by comparisons; and
it is the same list for any permutation of them. -/
theorem characteristics_are_linearly_ordered :
    (∀ a b : Characteristic,
      (a = b ↔ a.key = b.key) ∧
        ((a.compare b).isLT ↔ a.key < b.key) ∧ ((a.compare b).isLE ↔ a.key ≤ b.key) ∧
        ((a.compare b).isGT ↔ a.key > b.key) ∧ ((a.compare b).isGE ↔ a.key ≥ b.key)) ∧
    (∀ a b : Characteristic, [(a.compare b).isLT, a == b, (a.compare b).isGT].count true = 1) ∧
    (∀ a b c : Characteristic, (a.compare b).isLE → (b.compare c).isLE → (a.compare c).isLE) ∧
    (∀ a b : Characteristic, (a.compare b).isLE → (b.compare a).isLE → a = b) ∧
    (∀ c : Characteristic, make c.start c.stop c.value c.uuid.text c.flags = .ok c) ∧
    (∀ {a b : Characteristic} {i j k i' j' k' : Int} {s t : String} {f g : PropertyFlags},
      make i j k s f = .ok a → make i' j' k' t g = .ok b →
        (a = b ↔ (i, j, k) = (i', j', k') ∧ Uuid.parse s = Uuid.parse t ∧ f = g)) ∧
    (∀ (hash : Characteristic → UInt64) (a b : Characteristic),
      (members hash [a, b]).length = 1 ↔ a = b) ∧
    (∀ (hash hash' : Characteristic → UInt64) (cs ds : List Characteristic),
      sort (members hash cs) = sort (members hash' ds) ↔ ∀ c, c ∈ cs ↔ c ∈ ds) ∧
    (∀ cs ds : List Characteristic,
      ds = sort cs ↔ ds.Perm cs ∧ ds.Pairwise fun a b ↦ (a.compare b).isLE) ∧
    (∀ cs : List Characteristic,
      FallibleSort.sort (fun a b ↦ .ok (a.compare b).isLT) cs
        = (.ok (sort cs) : Except Failure (List Characteristic))) ∧
    ∀ cs ds : List Characteristic, cs.Perm ds → sort cs = sort ds := by
  refine ⟨compare_iff_key, count_less_equal_greater, fun a b c ↦ le_trans,
    fun a b ↦ le_antisymm, make_self, eq_iff_of_make, length_members_pair, ?_,
    fun cs ds ↦ eq_sort_iff, fallibleSort_eq_sort, fun cs ds ↦ sort_eq_sort_iff.mpr⟩
  intro hash hash' cs ds
  rw [sort_eq_sort_iff, members_perm_iff]

/-- Two spellings of a type make one characteristic; one with other flags is another, and sorted by
the number of its flags. -/
theorem spellings_make_one_characteristic :
    ∃ a b c : Characteristic,
      make 10 19 10 "180F" ⟨2⟩ = .ok a ∧
      make 10 19 10 "0000180f-0000-1000-8000-00805F9B34FB" ⟨2⟩ = .ok b ∧
      make 10 19 10 "180f" ⟨16⟩ = .ok c ∧
      a = b ∧ (∀ hash, (members hash [a, b]).length = 1) ∧
      a ≠ c ∧ (∀ hash, (members hash [a, c]).length ≠ 1) ∧
      sort [a, c] = [a, c] ∧ sort [c, a] = [a, c] := by
  obtain ⟨-, -, -, -, -, hequal, hset, -, hsort, -, hperm⟩ := characteristics_are_linearly_ordered
  let u : Uuid := ⟨0x180f00001000800000805f9b34fb⟩
  let a : Characteristic := ⟨10, 19, 10, u, ⟨2⟩⟩
  let c : Characteristic := ⟨10, 19, 10, u, ⟨16⟩⟩
  have hupper : Uuid.parse "180F" = .ok u :=
    (Uuid.Spells.short rfl (List.all_eq_true.mp rfl) rfl).parse
  have hlower : Uuid.parse "180f" = .ok u :=
    (Uuid.Spells.short rfl (List.all_eq_true.mp rfl) rfl).parse
  have hfull : Uuid.parse "0000180f-0000-1000-8000-00805F9B34FB" = .ok u :=
    (Uuid.Spells.full (by decide +kernel)).parse
  have ha : make 10 19 10 "180F" ⟨2⟩ = .ok a := make_eq_ok_iff.mpr ⟨rfl, hupper, rfl⟩
  obtain ⟨b, hb⟩ : ∃ b, make 10 19 10 "0000180f-0000-1000-8000-00805F9B34FB" ⟨2⟩ = .ok b :=
    ⟨a, make_eq_ok_iff.mpr ⟨rfl, hfull, rfl⟩⟩
  have hc : make 10 19 10 "180f" ⟨16⟩ = .ok c := make_eq_ok_iff.mpr ⟨rfl, hlower, rfl⟩
  have hab : a = b := (hequal ha hb).mpr ⟨rfl, hupper.trans hfull.symm, rfl⟩
  have hac : a ≠ c := fun h ↦ absurd ((hequal ha hc).mp h).2.2 (by decide)
  have hsorted : [a, c] = sort [a, c] := (hsort _ _).mpr ⟨.refl _, by decide +kernel⟩
  have hswapped : sort [c, a] = sort [a, c] := hperm _ _ (List.Perm.swap ..)
  exact ⟨a, b, c, ha, hb, hc, hab, fun hash ↦ (hset hash a b).mpr hab, hac,
    fun hash h ↦ hac ((hset hash a c).mp h), hsorted.symm, hswapped.trans hsorted.symm⟩

end GattPeer.Characteristic
