import GattPeer.Text.Digit
import GattPeer.Text.Upper

/-!
# Characters of ASCII

What is computed from a table or by comparisons can be looked up for the first 128 characters. The
upper case of a text that has no other characters is that of its letters, and hexadecimal digits are
among these characters.
-/

namespace GattPeer.Text

theorem of_ascii {p : Char → Prop} (h : ∀ n < 128, p (Char.ofNat n)) {c : Char}
    (hc : c.toNat < 128) : p c := by
  rw [← Char.ofNat_toNat c]
  exact h _ hc

variable {c : Char}

/-! ## Upper case -/

/-- The run of the letters from a to z, the only one that begins within ASCII. -/
def letterRun : CaseRun := ⟨0x61, 0x7a, 1, -32⟩

theorem find?_upperRuns_of_ascii (hc : c.toNat < 128) :
    upperRuns.find? (·.contains c.toNat)
      = if letterRun.contains c.toNat then some letterRun else none := by
  -- The runs after the first one lie beyond ASCII, so that none of them is looked up.
  have hbeyond : ∀ r ∈ upperRuns.tail, 128 ≤ r.first := by decide +kernel
  have hlater : upperRuns.tail.find? (·.contains c.toNat) = none := by
    refine List.find?_eq_none.mpr fun r hr hcontains ↦ ?_
    have hfirst : r.first ≤ c.toNat := by
      simp only [CaseRun.contains, Bool.and_eq_true, decide_eq_true_eq] at hcontains
      exact hcontains.1.1
    exact absurd (Nat.le_trans (hbeyond r hr) hfirst) (Nat.not_le_of_lt hc)
  have hruns : upperRuns = letterRun :: upperRuns.tail := rfl
  rw [hruns, List.find?_cons, hlater]
  cases letterRun.contains c.toNat <;> rfl

theorem lookup_upperSequences_of_ascii (hc : c.toNat < 128) :
    upperSequences.lookup c.toNat = none := by
  have hbeyond : ∀ entry ∈ upperSequences, 128 ≤ entry.1 := by decide +kernel
  refine List.lookup_eq_none_iff.mpr fun entry hentry ↦ ?_
  exact bne_iff_ne.mpr (Nat.ne_of_lt (Nat.lt_of_lt_of_le hc (hbeyond entry hentry)))

theorem toUpper_of_ascii (hc : c.toNat < 128) : c.toUpper =
    if letterRun.contains c.toNat then Char.ofNat (c.toNat + letterRun.shift).toNat else c :=
  of_ascii (p := fun c ↦ c.toUpper =
    if letterRun.contains c.toNat then Char.ofNat (c.toNat + letterRun.shift).toNat else c)
    (by decide) hc

theorem upperChar_of_ascii (hc : c.toNat < 128) : upperChar c = [c.toUpper] := by
  rw [toUpper_of_ascii hc, upperChar]
  simp only [find?_upperRuns_of_ascii hc, lookup_upperSequences_of_ascii hc]
  cases letterRun.contains c.toNat <;> rfl

theorem flatMap_upperChar {cs : List Char} (h : ∀ c ∈ cs, c.toNat < 128) :
    cs.flatMap upperChar = cs.map Char.toUpper := by
  induction cs with
  | nil => rfl
  | cons c cs ih =>
    obtain ⟨hc, hcs⟩ := List.forall_mem_cons.mp h
    rw [List.flatMap_cons, upperChar_of_ascii hc, ih hcs]
    rfl

theorem upper_eq_toUpper {s : String} (h : ∀ c ∈ s.toList, c.toNat < 128) :
    upper s = s.toUpper := by
  rw [upper, flatMap_upperChar h, ← String.toList_inj, String.toList_ofList, String.toUpper,
    String.toList_map]

/-! ## Hexadecimal digits -/

theorem toNat_lt_of_isHexDigit (h : isHexDigit c = true) : c.toNat < 128 := by
  refine Nat.lt_of_not_le fun hlarge ↦ ?_
  have hbeyond (d : Char) (hd : d.toNat < 128) : ¬c ≤ d :=
    fun hle ↦ Nat.not_le_of_lt hd (Nat.le_trans hlarge hle)
  have hnone : hexValue? c = none := by
    rw [hexValue?, if_neg fun h ↦ hbeyond '9' (by decide) h.2,
      if_neg fun h ↦ hbeyond 'f' (by decide) h.2, if_neg fun h ↦ hbeyond 'F' (by decide) h.2]
  rw [isHexDigit, hnone] at h
  exact nomatch h

theorem of_isHexDigit {p : Char → Prop}
    (h : ∀ n < 128, isHexDigit (Char.ofNat n) = true → p (Char.ofNat n))
    (hc : isHexDigit c = true) : p c :=
  of_ascii (p := fun c ↦ isHexDigit c = true → p c) h (toNat_lt_of_isHexDigit hc) hc

theorem isHexDigit_toUpper (h : isHexDigit c = true) : isHexDigit c.toUpper = true :=
  of_isHexDigit (p := fun c ↦ isHexDigit c.toUpper = true) (by decide) h

end GattPeer.Text
