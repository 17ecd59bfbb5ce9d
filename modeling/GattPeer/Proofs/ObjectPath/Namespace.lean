import GattPeer.Proofs.ObjectPath.LastSegment
import GattPeer.Proofs.ObjectPath.Segments

/-!
# Namespaces are prefixes of segments

A namespace holds the paths whose segments begin with its own, if the slashes at its end are left
out; one of nothing but slashes holds every path. The test is made on characters, so that the law
has to be read off it.

## The argument

A path lies in a namespace if and only if the namespace with one slash is a prefix of the path with
one slash (`isWithin_iff`): the slash after the namespace keeps siblings out whose names go on, and
the slash after the path lets the namespace itself in. In this form the test compares prefixes of
characters, and such a prefix is one of segments. The slashes that a namespace has at its end when
it is taken as a path are never needed, since no namespace is compared with its own.
-/

namespace GattPeer.ObjectPath

variable {path middle space space' : String}

/-- A namespace without the slashes at its end. -/
def trimmed (space : String) : String := String.ofList (space.toList.rdropWhile (· == '/'))

@[simp]
theorem toList_trimmed (space : String) : (trimmed space).toList = dropSlashes space.toList :=
  String.toList_ofList

@[simp] theorem trimmed_eq_empty_iff : trimmed space = "" ↔ dropSlashes space.toList = [] := by
  rw [← toList_trimmed, String.toList_eq_nil_iff]

/-- **Containment as a prefix of characters.** -/
theorem isWithin_iff : isWithin path space = true ↔
    trimmed space = "" ∨ (trimmed space).toList ++ ['/'] <+: path.toList ++ ['/'] := by
  rw [trimmed_eq_empty_iff, toList_trimmed, List.prefix_concat_iff, List.append_left_inj]
  simp only [isWithin, Bool.or_eq_true, List.isEmpty_iff, beq_iff_eq, List.isPrefixOf_iff_prefix]
  rw [or_assoc, eq_comm (a := path.toList)]

/-- **Containment as a prefix of segments.** -/
theorem isWithin_iff_segments : isWithin path space = true ↔
    trimmed space = "" ∨ segments (trimmed space).toList <+: segments path.toList := by
  rw [isWithin_iff, segments_prefix_iff]

/-! ## Slashes at the end -/

section

variable {own path : List Char}

/-- Of the slashes at the end of a path, a namespace that has none needs one at most. -/
theorem prefix_of_prefix_append_replicate (hown : own.getLast? ≠ some '/')
    (hpath : path.getLast? ≠ some '/') {n : Nat}
    (h : own ++ ['/'] <+: path ++ List.replicate n '/') : own ++ ['/'] <+: path ++ ['/'] := by
  induction n with
  | zero =>
    rw [List.replicate_zero, List.append_nil] at h
    exact h.trans (List.prefix_append _ _)
  | succ n ih =>
    rw [List.replicate_succ', ← List.append_assoc, List.prefix_concat_iff] at h
    -- Either the last slash of the path is the one after the namespace, or it is not reached.
    rcases h with h | h
    · obtain rfl : own = path := by
        calc own
          _ = dropSlashes own := (dropSlashes_eq_self hown).symm
          _ = dropSlashes path := by
            rw [List.append_cancel_right h, dropSlashes_append_replicate]
          _ = path := dropSlashes_eq_self hpath
      exact List.prefix_refl _
    · exact ih h

theorem prefix_dropSlashes_iff (hown : own.getLast? ≠ some '/') :
    own ++ ['/'] <+: dropSlashes path ++ ['/'] ↔ own ++ ['/'] <+: path ++ ['/'] := by
  obtain ⟨n, hpath⟩ := exists_eq_dropSlashes_append path
  have hslashes : path ++ ['/'] = dropSlashes path ++ List.replicate (n + 1) '/' := by
    rw [List.replicate_succ', ← List.append_assoc, ← hpath]
  rw [hslashes]
  constructor
  · intro h
    have hslash : ['/'] <+: List.replicate (n + 1) '/' := List.prefix_append ['/'] _
    exact h.trans ((List.prefix_append_right_inj _).mpr hslash)
  · exact prefix_of_prefix_append_replicate hown (getLast?_dropSlashes path)

end

@[simp] theorem isWithin_trimmed (path space : String) :
    isWithin (trimmed path) space = isWithin path space := by
  have hspace : (trimmed space).toList.getLast? ≠ some '/' := by
    rw [toList_trimmed]
    exact getLast?_dropSlashes _
  rw [Bool.eq_iff_iff, isWithin_iff, isWithin_iff, toList_trimmed path,
    prefix_dropSlashes_iff hspace]

/-! ## The order of namespaces -/

@[simp] theorem isWithin_self (path : String) : isWithin path path = true := by
  rw [← isWithin_trimmed, isWithin_iff_segments]
  exact .inr (List.prefix_refl _)

theorem isWithin_trans (h : isWithin path middle = true) (h' : isWithin middle space = true) :
    isWithin path space = true := by
  rw [← isWithin_trimmed, isWithin_iff] at h'
  rw [isWithin_iff] at h ⊢
  rcases h' with hspace | hspace
  · exact .inl hspace
  rcases h with hmiddle | hmiddle
  · rw [hmiddle] at hspace
    have hlength : (trimmed space).toList.length ≤ 0 := by simpa using hspace.length_le
    have hnil : (trimmed space).toList = [] := List.eq_nil_of_length_eq_zero (by omega)
    exact .inl (String.toList_eq_nil_iff.mp hnil)
  · exact .inr (hspace.trans hmiddle)

theorem isWithin_or_isWithin (h : isWithin path space = true) (h' : isWithin path space' = true) :
    isWithin (trimmed space) space' = true ∨ isWithin (trimmed space') space = true := by
  rw [isWithin_iff] at h h'
  rw [isWithin_iff, isWithin_iff]
  rcases h with hspace | hspace
  · exact .inr (.inl hspace)
  rcases h' with hspace' | hspace'
  · exact .inl (.inl hspace')
  rcases List.prefix_or_prefix_of_prefix hspace hspace' with hle | hle
  · exact .inr (.inr hle)
  · exact .inl (.inr hle)

/-- **A namespace holds the paths whose segments begin with its own.** The slashes at its end are
left out first; if nothing stands before them, it holds every path. So every path lies in itself,
what lies in a namespace lies in those around it, and of two namespaces that hold the same path one
holds the other without the slashes at its end. -/
theorem containment_is_prefix_of_segments :
    (∀ path space, isWithin path space = true ↔
      trimmed space = "" ∨ segments (trimmed space).toList <+: segments path.toList) ∧
    (∀ path, isWithin path path = true) ∧
    (∀ path middle space, isWithin path middle = true → isWithin middle space = true →
      isWithin path space = true) ∧
    ∀ path space space', isWithin path space = true → isWithin path space' = true →
      isWithin (trimmed space) space' = true ∨ isWithin (trimmed space') space = true :=
  ⟨fun _ _ ↦ isWithin_iff_segments, isWithin_self, fun _ _ _ ↦ isWithin_trans,
    fun _ _ _ ↦ isWithin_or_isWithin⟩

/-- A path with an empty segment lies in a namespace with slashes at its end, which lies in another
one; a sibling whose name goes on lies in neither. -/
theorem path_with_empty_segment_is_contained :
    let path := "/org//dev_A/char0001"
    isWithin path "/org//dev_A//" = true ∧ isWithin "/org//dev_A//" "/org/" = true ∧
      isWithin path "/org/" = true ∧ isWithin (trimmed "/org//dev_A//") "/org/" = true ∧
      isWithin "/org//dev_AB" "/org//dev_A//" = false := by
  intro path
  obtain ⟨hsegments, -, htrans, hcomparable⟩ := containment_is_prefix_of_segments
  have hmiddle : isWithin path "/org//dev_A//" = true := (hsegments _ _).mpr (.inr (by decide))
  have hspace : isWithin "/org//dev_A//" "/org/" = true := (hsegments _ _).mpr (.inr (by decide))
  have hpath : isWithin path "/org/" = true := htrans _ _ _ hmiddle hspace
  refine ⟨hmiddle, hspace, hpath, ?_, ?_⟩
  · rcases hcomparable _ _ _ hmiddle hpath with h | h
    · exact h
    · exact absurd h (by decide)
  · decide

end GattPeer.ObjectPath
