import GattPeer.ObjectPath
import Mathlib.Data.List.DropRight

/-!
# The last segment of a path

The last segment of a path is what stands between its last slash and the slashes at its end. It is
computed from the end of the path, in two passes, and described here by the parts of the path: what
comes before it, the segment itself, which has no slash, and any number of slashes. A path has
exactly one last segment (`isLastSegment_iff`); that of a path of nothing but slashes is empty.
-/

namespace GattPeer.ObjectPath

variable {path parent segment : List Char}

/-- A segment stands last in a path, if slashes at the end of the path do not count. Nothing but a
slash stands right before it, and only the empty path has an empty last segment. -/
def IsLastSegment (path segment : List Char) : Prop :=
  ∃ parent n, path = parent ++ segment ++ List.replicate n '/' ∧ '/' ∉ segment ∧
    (parent = [] ∨ segment ≠ [] ∧ parent.getLast? = some '/')

/-! ## Slashes at the end -/

@[simp] theorem dropSlashes_append_replicate (path : List Char) (n : Nat) :
    dropSlashes (path ++ List.replicate n '/') = dropSlashes path := by
  induction n with
  | zero => rw [List.replicate_zero, List.append_nil]
  | succ n ih =>
    rw [List.replicate_succ', ← List.append_assoc]
    exact (List.rdropWhile_concat_pos (· == '/') _ '/' rfl).trans ih

theorem dropSlashes_eq_self (h : path.getLast? ≠ some '/') : dropSlashes path = path := by
  refine List.rdropWhile_eq_self_iff.mpr fun hne hslash ↦ h ?_
  rw [List.getLast?_eq_some_getLast hne, eq_of_beq hslash]

theorem getLast?_dropSlashes (path : List Char) : (dropSlashes path).getLast? ≠ some '/' := by
  intro h
  have hne : dropSlashes path ≠ [] := by
    intro hnil
    rw [hnil] at h
    exact nomatch h
  have hlast : (dropSlashes path).getLast hne = '/' := by
    rw [List.getLast?_eq_some_getLast hne] at h
    exact Option.some.inj h
  exact List.rdropWhile_last_not (· == '/') path hne (beq_iff_eq.mpr hlast)

theorem exists_eq_dropSlashes_append (path : List Char) :
    ∃ n, path = dropSlashes path ++ List.replicate n '/' := by
  have hslashes : ∀ c ∈ path.rtakeWhile (· == '/'), c = '/' :=
    fun c hc ↦ eq_of_beq (@List.mem_rtakeWhile_imp _ (· == '/') _ _ hc)
  have hsplit := (List.rdropWhile_append_rtakeWhile (p := (· == '/')) (l := path)).symm
  rw [List.eq_replicate_of_mem hslashes] at hsplit
  exact ⟨_, hsplit⟩

/-! ## What stands after the last slash -/

theorem lastSegment_eq_self (h : '/' ∉ segment) : lastSegment segment = segment :=
  List.rtakeWhile_eq_self_iff.mpr fun _ hc ↦ bne_iff_ne.mpr fun hslash ↦ h (hslash ▸ hc)

theorem lastSegment_append_cons (parent : List Char) (h : '/' ∉ segment) :
    lastSegment (parent ++ '/' :: segment) = segment := by
  induction segment using List.reverseRecOn with
  | nil => exact List.rtakeWhile_concat_neg _ _ _ (by decide)
  | append_singleton segment c ih =>
    obtain ⟨hsegment, hc⟩ : '/' ∉ segment ∧ '/' ≠ c := by simpa using h
    have hstep := List.rtakeWhile_concat_pos (· != '/') (parent ++ '/' :: segment) c
      (bne_iff_ne.mpr hc.symm)
    rw [← List.cons_append, ← List.append_assoc]
    exact hstep.trans (congrArg (· ++ [c]) (ih hsegment))

theorem not_mem_lastSegment (path : List Char) : '/' ∉ lastSegment path :=
  fun h ↦ bne_iff_ne.mp (@List.mem_rtakeWhile_imp _ (· != '/') _ _ h) rfl

theorem exists_eq_append_lastSegment (path : List Char) :
    ∃ parent, path = parent ++ lastSegment path ∧
      (parent = [] ∨ parent.getLast? = some '/') := by
  refine ⟨path.rdropWhile (· != '/'), (List.rdropWhile_append_rtakeWhile ..).symm, ?_⟩
  by_cases hne : path.rdropWhile (· != '/') = []
  · exact .inl hne
  · have hslash := List.rdropWhile_last_not (· != '/') path hne
    rw [List.getLast?_eq_some_getLast hne]
    exact .inr (congrArg some (by simpa using hslash))

/-! ## The last segment -/

/-- **A path has one last segment**, and it is the one that is computed. -/
theorem isLastSegment_iff :
    IsLastSegment path segment ↔ lastSegment (dropSlashes path) = segment := by
  constructor
  · rintro ⟨parent, n, rfl, hslash, hparent⟩
    rw [dropSlashes_append_replicate]
    rcases hparent with rfl | ⟨hne, hparent⟩
    · have hend : segment.getLast? ≠ some '/' := fun h ↦ hslash (List.mem_of_getLast? h)
      rw [List.nil_append, dropSlashes_eq_self hend, lastSegment_eq_self hslash]
    · obtain ⟨parent, rfl⟩ := List.getLast?_eq_some_iff.mp hparent
      have hend : (parent ++ ['/'] ++ segment).getLast? ≠ some '/' := by
        rw [List.getLast?_append_of_ne_nil _ hne]
        exact fun h ↦ hslash (List.mem_of_getLast? h)
      rw [dropSlashes_eq_self hend, ← List.append_cons, lastSegment_append_cons _ hslash]
  · rintro rfl
    obtain ⟨n, hpath⟩ := exists_eq_dropSlashes_append path
    obtain ⟨parent, hsplit, hparent⟩ := exists_eq_append_lastSegment (dropSlashes path)
    refine ⟨parent, n, hsplit ▸ hpath, not_mem_lastSegment _, hparent.imp_right fun hslash ↦ ?_⟩
    refine ⟨fun hnil ↦ ?_, hslash⟩
    -- Then the path would still end in the slash before its empty last segment.
    rw [hnil, List.append_nil] at hsplit
    exact getLast?_dropSlashes path (hsplit ▸ hslash)

theorem isLastSegment_append (parent : List Char) (n : Nat) (hslash : '/' ∉ segment)
    (hne : segment ≠ []) :
    IsLastSegment (parent ++ '/' :: segment ++ List.replicate n '/') segment :=
  ⟨parent ++ ['/'], n, by rw [List.append_cons], hslash, .inr ⟨hne, List.getLast?_concat⟩⟩

end GattPeer.ObjectPath
