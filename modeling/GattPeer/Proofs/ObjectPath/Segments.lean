import GattPeer.ObjectPath

/-!
# The segments of a path

The segments of a path are the pieces between its slashes, empty ones included, so that a path has
always one more segment than slashes. No segment has a slash, and slashes put between the segments
give the path back; hence a slash between two paths puts their segments one after the other
(`segments_append`), and no other pieces without slashes make up a path (`segments_intercalate`).
-/

namespace GattPeer.ObjectPath

variable {path segment : List Char} {pieces : List (List Char)}

theorem segments_eq_splitOn (path : List Char) : segments path = path.splitOn '/' := by
  induction path with
  | nil => rfl
  | cons c path ih =>
    rw [segments, List.splitOn_cons_eq_if_modifyHead, ih]
    by_cases hc : c = '/'
    · rw [if_pos hc, if_pos (beq_iff_eq.mpr hc)]
    · rw [if_neg hc, if_neg (mt beq_iff_eq.mp hc)]
      cases hpieces : path.splitOn '/' with
      | nil => exact absurd hpieces (List.splitOn_ne_nil _ _)
      | cons piece pieces => rfl

@[simp] theorem segments_append (parent path : List Char) :
    segments (parent ++ '/' :: path) = segments parent ++ segments path := by
  simp only [segments_eq_splitOn, List.splitOn_append_cons_self]

theorem segments_of_not_mem (h : '/' ∉ segment) : segments segment = [segment] := by
  rw [segments_eq_splitOn, List.splitOn_eq_singleton h]

theorem not_mem_of_mem_segments (h : segment ∈ segments path) : '/' ∉ segment := by
  fun_induction segments path generalizing segment with
  | case1 =>
    rw [List.mem_singleton.mp h]
    exact List.not_mem_nil
  | case2 path ih =>
    rcases List.mem_cons.mp h with rfl | h
    · exact List.not_mem_nil
    · exact ih h
  | case3 c path hc hnil ih =>
    rw [List.mem_singleton.mp h, List.mem_singleton]
    exact Ne.symm hc
  | case4 c path hc piece pieces hpieces ih =>
    rcases List.mem_cons.mp h with rfl | h
    · have hpiece : '/' ∉ piece := ih (hpieces ▸ List.mem_cons_self)
      rw [List.mem_cons, not_or]
      exact ⟨Ne.symm hc, hpiece⟩
    · exact ih (hpieces ▸ List.mem_cons_of_mem _ h)

@[simp]
theorem intercalate_segments (path : List Char) : ['/'].intercalate (segments path) = path := by
  rw [segments_eq_splitOn, List.intercalate_splitOn]

theorem segments_intercalate (hpieces : ∀ piece ∈ pieces, '/' ∉ piece) (hne : pieces ≠ []) :
    segments (['/'].intercalate pieces) = pieces := by
  rw [segments_eq_splitOn, List.splitOn_intercalate _ hpieces hne]

theorem eq_of_segments_eq {path path' : List Char} (h : segments path = segments path') :
    path = path' := by
  rw [← intercalate_segments path, h, intercalate_segments]

/-- The segments of a path begin with those of another one if and only if the path is the other one
or goes on with a slash after it. -/
theorem segments_prefix_iff {space : List Char} :
    segments space <+: segments path ↔ space ++ ['/'] <+: path ++ ['/'] := by
  constructor
  · rintro ⟨rest, hrest⟩
    by_cases hne : rest = []
    · rw [hne, List.append_nil] at hrest
      obtain rfl : space = path := eq_of_segments_eq hrest
      exact List.prefix_refl _
    · -- The segments that are left make up a path of their own, behind one more slash.
      have hpieces : ∀ piece ∈ rest, '/' ∉ piece := fun piece hpiece ↦
        not_mem_of_mem_segments (hrest ▸ List.mem_append_right _ hpiece)
      have hpath : path = space ++ ['/'] ++ ['/'].intercalate rest := by
        apply eq_of_segments_eq
        rw [← List.append_cons, segments_append, segments_intercalate hpieces hne, hrest]
      rw [hpath, List.append_assoc _ _ ['/']]
      exact List.prefix_append _ _
  · intro h
    rcases List.prefix_concat_iff.mp h with h | ⟨rest, rfl⟩
    · obtain rfl : space = path := List.append_cancel_right h
      exact List.prefix_refl _
    · rw [← List.append_cons, segments_append]
      exact List.prefix_append _ _

/-! ## A line feed at the end -/

@[simp] theorem dropLineFeed_append (cs : List Char) : dropLineFeed (cs ++ ['\n']) = cs := by
  rw [dropLineFeed, if_pos List.getLast?_concat, List.dropLast_concat]

theorem dropLineFeed_cases (cs : List Char) :
    cs = dropLineFeed cs ∨ cs = dropLineFeed cs ++ ['\n'] := by
  by_cases hlast : cs.getLast? = some '\n'
  · obtain ⟨cs, rfl⟩ := List.getLast?_eq_some_iff.mp hlast
    exact .inr (by rw [dropLineFeed_append])
  · exact .inl (if_neg hlast).symm

end GattPeer.ObjectPath
