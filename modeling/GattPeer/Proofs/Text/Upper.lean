import GattPeer.Text.Upper

/-!
# Upper case has no lower-case letters

Whatever a text is made of, its upper case has no lower-case letter of ASCII. For the letters
themselves this is the first run of the table. For all other characters it is a fact about where the
table leads to: no run and no sequence has an upper case among these letters, and a character that
is in neither part of the table, and is therefore left alone, is not one of them.
-/

namespace GattPeer.Text

variable {c d : Char} {n : Nat}

theorem isLower_iff : c.isLower = true ↔ 97 ≤ c.toNat ∧ c.toNat ≤ 122 := by
  change (decide ('a'.val ≤ c.val) && decide (c.val ≤ 'z'.val)) = true ↔ _
  simp [UInt32.le_iff_toNat_le, ← Char.toNat_val]

theorem isLower_ofNat (h : n < 97 ∨ 122 < n) : (Char.ofNat n).isLower = false := by
  rw [Bool.eq_false_iff, ne_eq, isLower_iff]
  have hvalue : (Char.ofNat n).toNat = n ∨ (Char.ofNat n).toNat = 0 := by
    by_cases hvalid : n.isValidChar
    · exact .inl (congrArg Char.toNat (dif_pos hvalid))
    · exact .inr (congrArg Char.toNat (dif_neg hvalid))
  omega

theorem isLower_of_contains {r : CaseRun} (hr : r ∈ upperRuns) (hn : r.contains n = true) :
    (Char.ofNat (n + r.shift).toNat).isLower = false := by
  have htarget : ∀ r ∈ upperRuns, r.last + r.shift < 97 ∨ 122 < r.first + r.shift := by
    decide +kernel
  simp only [CaseRun.contains, Bool.and_eq_true, decide_eq_true_eq] at hn
  obtain ⟨⟨hfirst, hlast⟩, -⟩ := hn
  apply isLower_ofNat
  rcases htarget r hr with hbelow | habove
  · omega
  · omega

theorem isLower_of_lookup {ns : List Nat} (hns : upperSequences.lookup n = some ns)
    (hd : d ∈ ns.map Char.ofNat) : d.isLower = false := by
  have htarget : ∀ entry ∈ upperSequences, ∀ m ∈ entry.2, m < 97 ∨ 122 < m := by decide +kernel
  obtain ⟨m, hm, rfl⟩ := List.mem_map.mp hd
  obtain ⟨before, after, hsplit, -⟩ := List.lookup_eq_some_iff.mp hns
  have hentry : (n, ns) ∈ upperSequences := by simp [hsplit]
  exact isLower_ofNat (htarget _ hentry m hm)

theorem isLower_of_find?_eq_none (h : upperRuns.find? (·.contains c.toNat) = none) :
    c.isLower = false := by
  rw [Bool.eq_false_iff, ne_eq, isLower_iff]
  rintro ⟨hfirst, hlast⟩
  have hletters : (⟨97, 122, 1, -32⟩ : CaseRun) ∈ upperRuns := List.mem_cons_self
  have hnot := List.find?_eq_none.mp h _ hletters
  simp [CaseRun.contains, hfirst, hlast, Nat.mod_one] at hnot

theorem isLower_of_mem_upperChar (h : d ∈ upperChar c) : d.isLower = false := by
  unfold upperChar at h
  cases hrun : upperRuns.find? (·.contains c.toNat) with
  | some r =>
    have hcontains : r.contains c.toNat = true :=
      List.find?_some (p := fun r : CaseRun ↦ r.contains c.toNat) hrun
    simp only [hrun, List.mem_singleton] at h
    rw [h]
    exact isLower_of_contains (List.mem_of_find?_eq_some hrun) hcontains
  | none =>
    cases hsequence : upperSequences.lookup c.toNat with
    | some ns =>
      simp only [hrun, hsequence] at h
      exact isLower_of_lookup hsequence h
    | none =>
      simp only [hrun, hsequence, List.mem_singleton] at h
      rw [h]
      exact isLower_of_find?_eq_none hrun

/-- **The upper case of a text has no lower-case letter** of ASCII. -/
theorem isLower_of_mem_upper {s : String} (h : c ∈ (upper s).toList) : c.isLower = false := by
  rw [upper, String.toList_ofList] at h
  obtain ⟨d, -, hd⟩ := List.mem_flatMap.mp h
  exact isLower_of_mem_upperChar hd

end GattPeer.Text
