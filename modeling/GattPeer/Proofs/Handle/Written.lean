import GattPeer.Proofs.AttributeTable.FirstCome
import GattPeer.Proofs.Handle.Names
import GattPeer.Proofs.Text.Digit

/-!
# Names of attributes read back

A path is written for an attribute by its word and by its handle in four hexadecimal digits, below
any parent. What is written reads back, whatever the word ends in and in whichever case the digits
are, with any number of slashes at the end; and the attribute that is announced by such a path is
registered under its handle.
-/

namespace GattPeer

namespace Handle

open ObjectPath

variable {word digits : List Char}

theorem IsName.not_mem (h : IsName word digits) : '/' ∉ word ++ digits := by
  intro hslash
  rcases List.mem_append.mp hslash with hslash | hslash
  · exact absurd (h.letters _ hslash) (by decide)
  · exact absurd (h.isHexDigit _ hslash) (by decide)

theorem ofPath_of_isName {path : String} (h : IsName word digits) (parent : List Char) (n : Nat)
    (hpath : path.toList = parent ++ '/' :: (word ++ digits) ++ List.replicate n '/') :
    ofPath path = .ok ⟨(Text.hexNumber digits : Nat), .ofWord word⟩ := by
  have hne : word ++ digits ≠ [] := List.append_ne_nil_of_left_ne_nil h.ne_nil _
  have hlast : lastSegment (dropSlashes path.toList) = word ++ digits := by
    rw [hpath]
    exact isLastSegment_iff.mp (isLastSegment_append parent n h.not_mem hne)
  rw [ofPath_eq_ok_iff, hlast]
  exact ofSegment?_eq_some_iff.mpr ⟨word, digits, h, .inl rfl, rfl⟩

theorem ofWord_toList (word : String) :
    AttributeKind.ofWord word.toList = if word = "service" then .service
      else if word = "char" then .characteristic
      else if word = "desc" then .descriptor else .unknown := by
  simp only [AttributeKind.ofWord, String.toList_inj]

/-- **What is written for an attribute reads back.** Below any parent, a word of lower-case letters
and a handle in four hexadecimal digits, each of either case, with any number of slashes after them,
read as this handle and as the kind that the word names. If an attribute is announced by this path,
and by a type that can be read, then a table registers it under this handle and under no other. -/
theorem written_attribute_reads_back (parent word digits : String) (slashes number : Nat)
    (hword : word ≠ "") (hletters : ∀ c ∈ word.toList, isWordChar c = true)
    (hnumber : number ≤ 0xffff)
    (hdigits : digits.toList.map Char.toLower = Text.hexFixed 4 number) :
    let path := parent ++ "/" ++ word ++ digits ++ String.ofList (List.replicate slashes '/')
    let kind := if word = "service" then .service else if word = "char" then .characteristic
      else if word = "desc" then .descriptor else AttributeKind.unknown
    ofPath path = .ok ⟨number, kind⟩ ∧
    ∀ (t : AttributeTable) (uuid : String) (flags : PropertyFlags) (u : Uuid),
      Uuid.parse uuid = .ok u →
      let a : Announcement := ⟨path, ⟨number, kind⟩, u, flags⟩
      let after := t.step (.announce path uuid flags)
      after.2.2 = .ok (.announcement a) ∧
      ∀ n, AttributeTable.lookup? after.1.announcements n
        = if (number : Int) = n then some a else AttributeTable.lookup? t.announcements n := by
  intro path kind
  have hname : IsName word.toList digits.toList :=
    ⟨fun hnil ↦ hword (String.toList_inj.mp hnil), hletters, Text.length_of_map_toLower hdigits,
      Text.isHexDigit_of_map_toLower hdigits⟩
  have hpath : path.toList = parent.toList ++ '/' :: (word.toList ++ digits.toList)
      ++ List.replicate slashes '/' := by
    simp [path]
  have hvalue : Text.hexNumber digits.toList = number :=
    Text.hexNumber_of_map_toLower hdigits (Nat.lt_succ_of_le hnumber)
  have hread : ofPath path = .ok ⟨number, kind⟩ := by
    rw [ofPath_of_isName hname _ _ hpath, hvalue, ofWord_toList]
  refine ⟨hread, fun t uuid flags u hu ↦ ?_⟩
  rw [AttributeTable.step_announce_of_ok t (AttributeTable.read_eq_ok flags hread hu)]
  exact ⟨rfl, fun n ↦ AttributeTable.lookup?_store ..⟩

/-- A descriptor whose word ends in a letter that is a digit, with digits in both cases and slashes
at the end. -/
theorem descriptor_in_mixed_case_reads_back :
    let path := "/dev/desc00aB//"
    let a : Announcement :=
      ⟨path, ⟨0xab, .descriptor⟩, ⟨0x290200001000800000805f9b34fb⟩, ⟨0⟩⟩
    let after := (AttributeTable.empty "").step (.announce path "2902" ⟨0⟩)
    ofPath path = .ok ⟨0xab, .descriptor⟩ ∧ after.2.2 = .ok (.announcement a) ∧
      AttributeTable.lookup? after.1.announcements 0xab = some a ∧
      AttributeTable.lookup? after.1.announcements 0xb = none := by
  intro path a after
  have hpath : "/dev" ++ "/" ++ "desc" ++ "00aB" ++ String.ofList (List.replicate 2 '/')
      = path := by
    decide +kernel
  have hwritten := written_attribute_reads_back "/dev" "desc" "00aB" 2 0xab
    (by decide) (List.all_eq_true.mp rfl) (by decide) (by decide)
  simp only [hpath, String.reduceEq, if_true, if_false, Int.cast_ofNat_Int] at hwritten
  obtain ⟨hread, hregisters⟩ := hwritten
  obtain ⟨hanswer, hlookup⟩ := hregisters (AttributeTable.empty "") "2902" ⟨0⟩ a.uuid rfl
  unfold after
  refine ⟨hread, hanswer, ?_, ?_⟩
  · rw [hlookup, if_pos rfl]
  · rw [hlookup, if_neg (by decide)]
    rfl

end Handle

end GattPeer
