import GattPeer.Proofs.Ranges.Distinct

/-!
# Windows of ranges

Whoever discovers looks at a window of what is published: the characteristics with the handles of
their values between two bounds. What is published is sorted by its ranges; but a range starts at
the handle of its value, so if no handle is announced twice, the handles of the values ascend
strictly as well. A window of an ascending list is put together from two windows that meet, and
nothing has to be sorted again.
-/

namespace GattPeer.Ranges

/-- The characteristics with the handles of their values from `first` to `last`. -/
def window (first last : Int) (cs : List Characteristic) : List Characteristic :=
  cs.filter fun c ↦ first ≤ c.value && c.value ≤ last

/-- The handles of the values ascend. -/
def Ascending (cs : List Characteristic) : Prop := cs.Pairwise fun c e ↦ c.value < e.value

variable {cs : List Characteristic}

/-- **What is built of distinct handles ascends.** -/
theorem ascending_build {as : List Announcement} (h : Distinct as) : Ascending (build as) := by
  refine (pairwise_start_lt_build h).imp_of_mem fun hc he hlt ↦ ?_
  rwa [start_eq_value_of_mem_build hc, start_eq_value_of_mem_build he] at hlt

theorem Ascending.window (h : Ascending cs) (first last : Int) :
    Ascending (window first last cs) := List.Pairwise.filter _ h

theorem Ascending.filter_append_filter (h : Ascending cs) (mid : Int) :
    cs.filter (·.value ≤ mid) ++ cs.filter (mid < ·.value) = cs := by
  induction cs with
  | nil => rfl
  | cons c cs ih =>
    obtain ⟨hc, hcs⟩ := List.pairwise_cons.mp h
    by_cases hmid : c.value ≤ mid
    · simp [hmid, ih hcs]
    · -- Everything from here on has a greater handle.
      have hgreater : ∀ e ∈ c :: cs, mid < e.value := by
        intro e he
        rcases List.mem_cons.mp he with rfl | he
        · omega
        · have hce := hc e he
          omega
      have hlow : (c :: cs).filter (·.value ≤ mid) = [] := by
        refine List.filter_eq_nil_iff.mpr fun e he ↦ ?_
        simpa using hgreater e he
      have hhigh : (c :: cs).filter (mid < ·.value) = c :: cs := by
        refine List.filter_eq_self.mpr fun e he ↦ ?_
        simpa using hgreater e he
      rw [hlow, hhigh, List.nil_append]

theorem filter_window {p : Characteristic → Bool} {first last first' last' : Int}
    (h : ∀ c : Characteristic, p c = true ∧ first ≤ c.value ∧ c.value ≤ last ↔
      first' ≤ c.value ∧ c.value ≤ last') (cs : List Characteristic) :
    (window first last cs).filter p = window first' last' cs := by
  rw [window, List.filter_filter]
  refine List.filter_congr fun c _ ↦ Bool.eq_iff_iff.mpr ?_
  simp only [Bool.and_eq_true, decide_eq_true_eq]
  exact h c

/-- **A window is split by any handle**, also by one that lies at its edge. -/
theorem Ascending.window_append (h : Ascending cs) {first mid last : Int}
    (hfirst : first ≤ mid + 1) (hlast : mid ≤ last) :
    Ranges.window first last cs
      = Ranges.window first mid cs ++ Ranges.window (mid + 1) last cs := by
  have hlow : (Ranges.window first last cs).filter (·.value ≤ mid)
      = Ranges.window first mid cs := by
    refine filter_window (fun c ↦ ?_) cs
    rw [decide_eq_true_eq]
    omega
  have hhigh : (Ranges.window first last cs).filter (mid < ·.value)
      = Ranges.window (mid + 1) last cs := by
    refine filter_window (fun c ↦ ?_) cs
    rw [decide_eq_true_eq]
    omega
  rw [← hlow, ← hhigh, (h.window first last).filter_append_filter mid]

theorem Ascending.length_filter_value_le (h : Ascending cs) (number : Int) :
    (cs.filter (·.value = number)).length ≤ 1 := by
  have hsame : (cs.filter (·.value = number)).Pairwise fun _ _ ↦ False := by
    refine (List.Pairwise.filter _ h).imp_of_mem fun hc he hlt ↦ ?_
    have hc := of_decide_eq_true (List.mem_filter.mp hc).2
    have he := of_decide_eq_true (List.mem_filter.mp he).2
    omega
  cases hfilter : cs.filter (·.value = number) with
  | nil => simp
  | cons c rest =>
    rw [hfilter] at hsame
    have hrest : rest = [] :=
      List.eq_nil_iff_forall_not_mem.mpr fun e he ↦ (List.pairwise_cons.mp hsame).1 e he
    rw [hrest, List.length_singleton]

/-- Among handles of sixteen bits, a discovery of everything leaves out zero only. -/
theorem window_minHandle_maxHandle (h : ∀ c ∈ cs, 0 ≤ c.value ∧ c.value ≤ maxHandle) :
    window minHandle maxHandle cs = cs.filter (·.value ≠ 0) := by
  refine List.filter_congr fun c hc ↦ Bool.eq_iff_iff.mpr ?_
  have hbounds := h c hc
  have hleast : minHandle = 1 := rfl
  simp only [Bool.and_eq_true, decide_eq_true_eq]
  omega

end GattPeer.Ranges
