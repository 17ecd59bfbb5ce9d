import GattPeer.Handle
import GattPeer.Proofs.ObjectPath.LastSegment
import GattPeer.Proofs.ObjectPath.Segments

/-!
# What names an attribute

The last segment of a path names an attribute if it is a word of lower-case letters and four
hexadecimal digits. Some letters are digits as well, but since there are four digits, the word ends
where four characters are left, and a segment is taken apart in one way only. One line feed after
the digits is not looked at, so that a segment with it, which is no such name, is read all the same.
-/

namespace GattPeer.Handle

open ObjectPath

variable {segment word digits : List Char} {handle : Handle}

/-- A word and digits as the name of an attribute has them. -/
structure IsName (word digits : List Char) : Prop where
  /-- There is a word. -/
  ne_nil : word ≠ []
  /-- It has lower-case letters of ASCII. -/
  letters : ∀ c ∈ word, isWordChar c = true
  /-- There are four digits. -/
  length_eq : digits.length = 4
  /-- They are hexadecimal digits of ASCII. -/
  isHexDigit : ∀ c ∈ digits, Text.isHexDigit c = true

/-! ## Segments -/

/-- A name ends in a digit, before which nothing is dropped. -/
theorem IsName.dropLineFeed_eq_self (h : IsName word digits) :
    dropLineFeed (word ++ digits) = word ++ digits := by
  have hne : digits ≠ [] := fun hnil ↦ nomatch hnil ▸ h.length_eq
  refine if_neg fun hlast ↦ ?_
  rw [List.getLast?_append_of_ne_nil _ hne] at hlast
  exact absurd (h.isHexDigit _ (List.mem_of_getLast? hlast)) (by decide)

/-- **A segment names an attribute** if it is a name, or a name and a line feed. -/
theorem ofSegment?_eq_some_iff : ofSegment? segment = some handle ↔
    ∃ word digits, IsName word digits ∧
      (segment = word ++ digits ∨ segment = word ++ digits ++ ['\n']) ∧
      handle = ⟨(Text.hexNumber digits : Nat), .ofWord word⟩ := by
  constructor
  · intro h
    simp only [ofSegment?] at h
    split at h
    · next hname =>
      simp only [Bool.and_eq_true, Bool.not_eq_true', List.isEmpty_eq_false_iff,
        List.all_eq_true] at hname
      obtain ⟨⟨hne, hletters⟩, hdigits⟩ := hname
      have hlength : 4 < (dropLineFeed segment).length := by
        by_contra hshort
        exact hne (by rw [Nat.sub_eq_zero_of_le (Nat.le_of_not_lt hshort), List.take_zero])
      obtain rfl := Option.some.inj h
      refine ⟨_, _, ⟨hne, hletters, ?_, hdigits⟩, ?_, rfl⟩
      · rw [List.length_drop]
        omega
      · rw [List.take_append_drop]
        exact dropLineFeed_cases segment
    · cases h
  · rintro ⟨word, digits, hname, hsegment, rfl⟩
    have hdrop : dropLineFeed segment = word ++ digits := by
      rcases hsegment with rfl | rfl
      · exact hname.dropLineFeed_eq_self
      · exact dropLineFeed_append _
    have hword : (word ++ digits).length - 4 = word.length := by
      rw [List.length_append, hname.length_eq, Nat.add_sub_cancel]
    simp only [ofSegment?, hdrop, hword, List.take_left, List.drop_left]
    refine if_pos ?_
    simp only [Bool.and_eq_true, Bool.not_eq_true', List.isEmpty_eq_false_iff, List.all_eq_true]
    exact ⟨⟨hname.ne_nil, hname.letters⟩, hname.isHexDigit⟩

/-! ## Paths -/

theorem ofPath_eq_ok_iff {path : String} : ofPath path = .ok handle ↔
    ofSegment? (lastSegment (dropSlashes path.toList)) = some handle := by
  unfold ofPath
  generalize ofSegment? (lastSegment (dropSlashes path.toList)) = found
  cases found with
  | none => exact ⟨nofun, nofun⟩
  | some found => simp

theorem ofPath_eq_error {path : String} {failure : Failure} (h : ofPath path = .error failure) :
    failure = .notAnAttribute path := by
  unfold ofPath at h
  split at h
  · exact nomatch h
  · exact (Except.error.inj h).symm

/-- **A path names an attribute by its last segment.** It does so if and only if the segment is a
word of lower-case letters and four hexadecimal digits, or these and one line feed. Then the handle
is the value of the digits, which has sixteen bits, and the kind is the one that the word names. Any
other path is refused, and the failure tells the path. -/
theorem path_names_attribute_by_last_segment (path : String) :
    (∀ handle, ofPath path = .ok handle ↔ ∃ word digits, IsName word digits ∧
      (IsLastSegment path.toList (word ++ digits) ∨
        IsLastSegment path.toList (word ++ digits ++ ['\n'])) ∧
      handle = ⟨(Text.hexNumber digits : Nat), .ofWord word⟩) ∧
    (∀ handle, ofPath path = .ok handle → 0 ≤ handle.number ∧ handle.number ≤ 0xffff) ∧
    ((∀ handle, ofPath path ≠ .ok handle) → ofPath path = .error (.notAnAttribute path)) := by
  refine ⟨fun handle ↦ ?_, fun handle h ↦ ?_, fun h ↦ ?_⟩
  · simp only [ofPath_eq_ok_iff, ofSegment?_eq_some_iff, isLastSegment_iff]
  · obtain ⟨hnonneg, hlt⟩ := ofPath_bounds h
    exact ⟨hnonneg, Int.le_of_lt_add_one hlt⟩
  · cases hpath : ofPath path with
    | ok handle => exact absurd hpath (h handle)
    | error failure => rw [ofPath_eq_error hpath]

/-- A name whose word could be taken for digits, with slashes after it. -/
theorem face_names_attribute :
    let path := "/dev/face00aB//"
    IsName "face".toList "00aB".toList ∧
      IsLastSegment path.toList ("face".toList ++ "00aB".toList) ∧
      ofPath path = .ok ⟨0xab, .unknown⟩ := by
  intro path
  have hname : IsName "face".toList "00aB".toList :=
    ⟨by decide, List.all_eq_true.mp rfl, by decide, List.all_eq_true.mp rfl⟩
  have hlast : IsLastSegment path.toList ("face".toList ++ "00aB".toList) :=
    isLastSegment_iff.mpr (by decide)
  obtain ⟨hreads, -, -⟩ := path_names_attribute_by_last_segment path
  exact ⟨hname, hlast, (hreads _).mpr ⟨_, _, hname, .inl hlast, rfl⟩⟩

/-- A line feed after the digits is part of the last segment, which is therefore no name of an
attribute. The path is read all the same. -/
theorem line_feed_after_name_is_accepted :
    let path := "/org/bluez/hci0/dev_AA_BB_CC_DD_EE_FF/char0002\n"
    ofPath path = .ok ⟨2, .characteristic⟩ ∧
      ∀ word digits, IsName word digits → ¬IsLastSegment path.toList (word ++ digits) := by
  refine ⟨ofPath_eq_ok_iff.mpr (by decide), fun word digits hname hlast ↦ ?_⟩
  have hend : (word ++ digits).getLast? = some '\n' := by
    rw [← isLastSegment_iff.mp hlast]
    decide
  have hdropped := hname.dropLineFeed_eq_self
  rw [dropLineFeed, if_pos hend] at hdropped
  have hlength := congrArg List.length hdropped
  rw [List.length_dropLast, List.length_append, hname.length_eq] at hlength
  omega

end GattPeer.Handle
