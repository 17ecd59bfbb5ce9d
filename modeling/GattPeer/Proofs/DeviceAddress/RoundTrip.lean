import GattPeer.Proofs.ObjectPath.Segments
import GattPeer.Proofs.Text.Ascii
import GattPeer.Session

/-!
# Addresses read back from paths

An address is six pairs of hexadecimal digits with colons between them. The path of its device has
the same pairs in upper case, with underscores between them, in a segment of its own; so the address
reads back from it and from every path below it, in upper case, unless the adapter has a segment
that could be one of a device. Whatever follows does not matter, since the first such segment
decides.

## The argument

Both the address and the segment are written by `joined`, with the one separator or the other, and
what is done to them on the way, the exchange of the separator and the upper case, is done character
by character. So it is done to the separator and to the digits of the pairs (`map_joined`).
-/

namespace GattPeer.DeviceAddress

open ObjectPath

variable {pairs : List (Char × Char)} {separator : Char} {address : String}

/-! ## Pairs of digits -/

/-- Pairs of characters with a separator between them. -/
def joined (separator : Char) (pairs : List (Char × Char)) : List Char :=
  [separator].intercalate (pairs.map fun pair ↦ [pair.1, pair.2])

def AreDigits (pairs : List (Char × Char)) : Prop :=
  ∀ pair ∈ pairs, Text.isHexDigit pair.1 = true ∧ Text.isHexDigit pair.2 = true

def upperPairs (pairs : List (Char × Char)) : List (Char × Char) :=
  pairs.map (Prod.map Char.toUpper Char.toUpper)

theorem joined_cons (a b : Char) (hne : pairs ≠ []) :
    joined separator ((a, b) :: pairs) = a :: b :: separator :: joined separator pairs := by
  rw [joined, List.map_cons, List.intercalate_cons_of_ne_nil (by simpa using hne)]
  rfl

theorem map_joined (f : Char → Char) (separator : Char) (pairs : List (Char × Char)) :
    (joined separator pairs).map f = joined (f separator) (pairs.map (Prod.map f f)) := by
  induction pairs with
  | nil => rfl
  | cons pair pairs ih =>
    by_cases hne : pairs = []
    · rw [hne]
      rfl
    · have hne' : pairs.map (Prod.map f f) ≠ [] := by simpa using hne
      rw [joined_cons _ _ hne, List.map_cons, List.map_cons, List.map_cons, ih, List.map_cons]
      exact (joined_cons _ _ hne').symm

theorem mem_joined {c : Char} (h : c ∈ joined separator pairs) :
    c = separator ∨ ∃ pair ∈ pairs, c = pair.1 ∨ c = pair.2 := by
  induction pairs with
  | nil => exact absurd h List.not_mem_nil
  | cons pair pairs ih =>
    by_cases hne : pairs = []
    · rw [hne, joined] at h
      exact .inr ⟨pair, List.mem_cons_self, by simpa using h⟩
    · rw [joined_cons _ _ hne] at h
      rcases List.mem_cons.mp h with rfl | h
      · exact .inr ⟨pair, List.mem_cons_self, .inl rfl⟩
      rcases List.mem_cons.mp h with rfl | h
      · exact .inr ⟨pair, List.mem_cons_self, .inr rfl⟩
      rcases List.mem_cons.mp h with rfl | h
      · exact .inl rfl
      · exact (ih h).imp_right fun ⟨pair, hpair, hc⟩ ↦ ⟨pair, List.mem_cons_of_mem _ hpair, hc⟩

theorem AreDigits.upperPairs (h : AreDigits pairs) : AreDigits (upperPairs pairs) := by
  intro pair hpair
  obtain ⟨pair, hmem, rfl⟩ := List.mem_map.mp hpair
  exact (h pair hmem).imp Text.isHexDigit_toUpper Text.isHexDigit_toUpper

theorem areDigits_cons_iff {a b : Char} : AreDigits ((a, b) :: pairs) ↔
    (Text.isHexDigit a = true ∧ Text.isHexDigit b = true) ∧ AreDigits pairs :=
  List.forall_mem_cons

theorem arePairs_iff {more : Nat} {cs : List Char} : arePairs more cs = true ↔
    ∃ pairs, pairs.length = more + 1 ∧ AreDigits pairs ∧ cs = joined '_' pairs := by
  constructor
  · intro h
    fun_induction arePairs more cs with
    | case1 a b =>
      rw [Bool.and_eq_true] at h
      exact ⟨[(a, b)], rfl, areDigits_cons_iff.mpr ⟨h, List.forall_mem_nil _⟩, rfl⟩
    | case2 more a b cs ih =>
      rw [Bool.and_eq_true, Bool.and_eq_true] at h
      obtain ⟨hdigits, hcs⟩ := h
      obtain ⟨pairs, hlength, hpairs, rfl⟩ := ih hcs
      have hne : pairs ≠ [] := List.ne_nil_of_length_eq_add_one hlength
      refine ⟨(a, b) :: pairs, ?_, areDigits_cons_iff.mpr ⟨hdigits, hpairs⟩, ?_⟩
      · rw [List.length_cons, hlength]
      · rw [joined_cons _ _ hne]
    | case3 => exact nomatch h
  · rintro ⟨pairs, hlength, hdigits, rfl⟩
    induction more generalizing pairs with
    | zero =>
      obtain ⟨⟨a, b⟩, rfl⟩ := List.length_eq_one_iff.mp hlength
      exact Bool.and_eq_true_iff.mpr (areDigits_cons_iff.mp hdigits).1
    | succ more ih =>
      obtain ⟨⟨a, b⟩, pairs, rfl⟩ := List.exists_cons_of_length_eq_add_one hlength
      obtain ⟨hpair, hpairs⟩ := areDigits_cons_iff.mp hdigits
      have hlength : pairs.length = more + 1 := Nat.succ.inj hlength
      rw [joined_cons _ _ (List.ne_nil_of_length_eq_add_one hlength), arePairs, ih _ hlength hpairs,
        Bool.and_true, Bool.and_eq_true]
      exact hpair

/-! ## Separators -/

def separators : List Char := [':', '_']

theorem forall_mem_separators {P : Char → Prop} : (∀ c ∈ separators, P c) ↔ P ':' ∧ P '_' := by
  rw [separators, List.forall_mem_cons, List.forall_mem_singleton]

theorem exchange_joined {old : Char} (hold : old ∈ separators) (new : Char)
    (h : AreDigits pairs) : exchange old new (joined old pairs) = joined new pairs := by
  have hseparator : ∀ c ∈ separators, Text.isHexDigit c = false :=
    forall_mem_separators.mpr (by decide)
  have hkept {c : Char} (hc : Text.isHexDigit c = true) : (if c = old then new else c) = c := by
    refine if_neg fun heq ↦ ?_
    rw [heq, hseparator old hold] at hc
    exact nomatch hc
  rw [exchange, map_joined, if_pos rfl]
  congr 1
  refine (List.map_congr_left fun pair hpair ↦ ?_).trans (List.map_id pairs)
  exact Prod.ext (hkept (h pair hpair).1) (hkept (h pair hpair).2)

theorem toList_toUpper_joined (hseparator : separator ∈ separators) :
    (String.ofList (joined separator pairs)).toUpper.toList
      = joined separator (upperPairs pairs) := by
  have hupper : ∀ c ∈ separators, c.toUpper = c := forall_mem_separators.mpr (by decide)
  rw [String.toUpper, String.toList_map, String.toList_ofList, map_joined, hupper _ hseparator]
  rfl

theorem toList_upper_joined (hseparator : separator ∈ separators) (h : AreDigits pairs) :
    (Text.upper (String.ofList (joined separator pairs))).toList
      = joined separator (upperPairs pairs) := by
  have hascii : ∀ c ∈ separators, c.toNat < 128 := forall_mem_separators.mpr (by decide)
  rw [← toList_toUpper_joined hseparator, Text.upper_eq_toUpper]
  intro c hc
  rw [String.toList_ofList] at hc
  rcases mem_joined hc with rfl | ⟨pair, hpair, rfl | rfl⟩
  · exact hascii _ hseparator
  · exact Text.toNat_lt_of_isHexDigit (h pair hpair).1
  · exact Text.toNat_lt_of_isHexDigit (h pair hpair).2

/-! ## Segments of devices -/

/-- The pairs of an address: six pairs of hexadecimal digits. -/
structure AreOctets (pairs : List (Char × Char)) : Prop where
  /-- There are six of them. -/
  length_eq : pairs.length = 6
  /-- They are of hexadecimal digits of ASCII. -/
  areDigits : AreDigits pairs

theorem AreOctets.upperPairs (h : AreOctets pairs) : AreOctets (upperPairs pairs) :=
  ⟨List.length_map _ |>.trans h.length_eq, h.areDigits.upperPairs⟩

/-- An address has six pairs of hexadecimal digits with colons between them. -/
def IsAddress (address : String) : Prop :=
  ∃ pairs, AreOctets pairs ∧ address.toList = joined ':' pairs

/-- A segment is that of a device with certain pairs in its address. One line feed after them is not
looked at. -/
def IsSegmentOf (pairs : List (Char × Char)) (segment : List Char) : Prop :=
  segment = deviceMark ++ joined '_' pairs ∨ segment = deviceMark ++ joined '_' pairs ++ ['\n']

/-- A segment could be one of a device. -/
def IsDeviceSegment (segment : List Char) : Prop :=
  ∃ pairs, AreOctets pairs ∧ IsSegmentOf pairs segment

theorem not_mem_deviceSegment {c : Char} (h : AreDigits pairs) (hmark : c ∉ deviceMark)
    (hdigit : Text.isHexDigit c = false) (hne : c ≠ '_') : c ∉ deviceMark ++ joined '_' pairs := by
  intro hc
  rcases List.mem_append.mp hc with hc | hc
  · exact hmark hc
  rcases mem_joined hc with hc | ⟨pair, hpair, rfl | rfl⟩
  · exact hne hc
  · exact absurd (h pair hpair).1 (Bool.eq_false_iff.mp hdigit)
  · exact absurd (h pair hpair).2 (Bool.eq_false_iff.mp hdigit)

theorem IsSegmentOf.dropLineFeed_eq {segment : List Char} (hsegment : IsSegmentOf pairs segment)
    (h : AreDigits pairs) : dropLineFeed segment = deviceMark ++ joined '_' pairs := by
  rcases hsegment with rfl | rfl
  · refine if_neg fun hlast ↦ ?_
    exact not_mem_deviceSegment h (by decide) (by decide) (by decide)
      (List.mem_of_getLast? hlast)
  · exact dropLineFeed_append _

/-- **A segment names an address** if it is the segment of a device, and the address has the same
pairs in upper case. -/
theorem ofSegment?_eq_some_iff {segment : List Char} : ofSegment? segment = some address ↔
    ∃ pairs, AreOctets pairs ∧ IsSegmentOf pairs segment ∧
      address.toList = joined ':' (upperPairs pairs) := by
  constructor
  · intro h
    simp only [ofSegment?] at h
    split at h
    · next hnames =>
      rw [Bool.and_eq_true, List.isPrefixOf_iff_prefix, arePairs_iff] at hnames
      obtain ⟨⟨rest, hrest⟩, pairs, hlength, hdigits, hjoined⟩ := hnames
      rw [← hrest, List.drop_left] at h hjoined
      rw [hjoined] at h hrest
      refine ⟨pairs, ⟨hlength, hdigits⟩, ?_, ?_⟩
      · rw [IsSegmentOf, hrest]
        exact dropLineFeed_cases segment
      · rw [← Option.some.inj h, String.toList_ofList, toList_upper_joined (by decide) hdigits,
          exchange_joined (by decide) _ hdigits.upperPairs]
    · exact nomatch h
  · rintro ⟨pairs, ⟨hlength, hdigits⟩, hsegment, haddress⟩
    have hdrop := hsegment.dropLineFeed_eq hdigits
    have hnames : (deviceMark.isPrefixOf (dropLineFeed segment)
        && arePairs 5 ((dropLineFeed segment).drop deviceMark.length)) = true := by
      rw [hdrop, List.drop_left, Bool.and_eq_true, List.isPrefixOf_iff_prefix, arePairs_iff]
      exact ⟨List.prefix_append _ _, pairs, hlength, hdigits, rfl⟩
    rw [ofSegment?, if_pos hnames, hdrop, List.drop_left, toList_upper_joined (by decide) hdigits,
      exchange_joined (by decide) _ hdigits.upperPairs, ← haddress, String.ofList_toList]

theorem ofSegment?_eq_none_iff {segment : List Char} :
    ofSegment? segment = none ↔ ¬IsDeviceSegment segment := by
  constructor
  · rintro hnone ⟨pairs, hpairs, hsegment⟩
    have hsome : ofSegment? segment = some (String.ofList (joined ':' (upperPairs pairs))) :=
      ofSegment?_eq_some_iff.mpr ⟨pairs, hpairs, hsegment, String.toList_ofList⟩
    exact nomatch hnone.symm.trans hsome
  · intro h
    refine Option.eq_none_iff_forall_ne_some.mpr fun address haddress ↦ h ?_
    obtain ⟨pairs, hpairs, hsegment, -⟩ := ofSegment?_eq_some_iff.mp haddress
    exact ⟨pairs, hpairs, hsegment⟩

/-! ## Paths of devices -/

theorem upperPairs_upperPairs (h : AreDigits pairs) :
    upperPairs (upperPairs pairs) = upperPairs pairs := by
  have hupper {c : Char} (hc : Text.isHexDigit c = true) : c.toUpper.toUpper = c.toUpper :=
    Text.of_ascii (p := fun c ↦ c.toUpper.toUpper = c.toUpper) (by decide)
      (Text.toNat_lt_of_isHexDigit hc)
  rw [upperPairs, upperPairs, List.map_map]
  refine List.map_congr_left fun pair hpair ↦ ?_
  exact Prod.ext (hupper (h pair hpair).1) (hupper (h pair hpair).2)

theorem toList_toPath (h : AreDigits pairs) (haddress : address.toList = joined ':' pairs)
    (adapter : String) : (toPath address adapter).toList
      = "/org/bluez".toList ++ '/' :: (adapter.toList ++ '/' ::
        (deviceMark ++ joined '_' (upperPairs pairs))) := by
  have hdevice : exchange ':' '_' (Text.upper address).toList = joined '_' (upperPairs pairs) := by
    rw [← String.ofList_toList (s := address), haddress, toList_upper_joined (by decide) h,
      exchange_joined (by decide) _ h.upperPairs]
  rw [toPath, hdevice]
  simp

theorem exists_segments_append {segment suffix : List Char} (hslash : '/' ∉ segment)
    (hsuffix : suffix = [] ∨ ∃ rest, suffix = '/' :: rest) :
    ∃ rest, segments (segment ++ suffix) = segment :: rest := by
  rcases hsuffix with rfl | ⟨rest, rfl⟩
  · exact ⟨[], by rw [List.append_nil, segments_of_not_mem hslash]⟩
  · exact ⟨segments rest, by rw [segments_append, segments_of_not_mem hslash]; rfl⟩

theorem ofPath?_toPath_append (haddress : IsAddress address) {adapter suffix : String}
    (hadapter : ∀ segment ∈ segments adapter.toList, ¬IsDeviceSegment segment)
    (hsuffix : suffix = "" ∨ ∃ rest, suffix = "/" ++ rest) :
    ofPath? (toPath address adapter ++ suffix) = some address.toUpper := by
  obtain ⟨pairs, hpairs, haddress⟩ := haddress
  have hdevice : ofSegment? (deviceMark ++ joined '_' (upperPairs pairs))
      = some address.toUpper := by
    refine ofSegment?_eq_some_iff.mpr ⟨_, hpairs.upperPairs, .inl rfl, ?_⟩
    rw [upperPairs_upperPairs hpairs.areDigits, ← toList_toUpper_joined (by decide), ← haddress,
      String.ofList_toList]
  have hslash : '/' ∉ deviceMark ++ joined '_' (upperPairs pairs) :=
    not_mem_deviceSegment hpairs.areDigits.upperPairs (by decide) (by decide) (by decide)
  have hsuffix : suffix.toList = [] ∨ ∃ rest, suffix.toList = '/' :: rest := by
    rcases hsuffix with rfl | ⟨rest, rfl⟩
    · exact .inl rfl
    · exact .inr ⟨rest.toList, by simp⟩
  obtain ⟨rest, hrest⟩ := exists_segments_append hslash hsuffix
  -- The segments before the one that was written name no address, so that it is the first.
  have hroot : (segments "/org/bluez".toList).findSome? ofSegment? = none := by decide
  have hbetween : (segments adapter.toList).findSome? ofSegment? = none :=
    List.findSome?_eq_none_iff.mpr fun segment hsegment ↦
      ofSegment?_eq_none_iff.mpr (hadapter segment hsegment)
  rw [ofPath?, String.toList_append, toList_toPath hpairs.areDigits haddress]
  simp only [List.append_assoc, List.cons_append]
  rw [segments_append, segments_append, ← List.append_assoc deviceMark, hrest,
    List.findSome?_append, hroot, List.findSome?_append, hbetween, List.findSome?_cons, hdevice]
  rfl

theorem IsAddress.upper_eq_toUpper (h : IsAddress address) :
    Text.upper address = address.toUpper := by
  obtain ⟨pairs, hpairs, haddress⟩ := h
  rw [← String.toList_inj, ← String.ofList_toList (s := address), haddress,
    toList_upper_joined (by decide) hpairs.areDigits, toList_toUpper_joined (by decide)]

theorem isAddress_of_ofPath? {path : String} (h : ofPath? path = some address) :
    IsAddress address ∧ address.toUpper = address := by
  obtain ⟨segment, -, hsegment⟩ := List.exists_of_findSome?_eq_some h
  obtain ⟨pairs, hpairs, -, haddress⟩ := ofSegment?_eq_some_iff.mp hsegment
  refine ⟨⟨_, hpairs.upperPairs, haddress⟩, ?_⟩
  rw [← String.toList_inj, ← String.ofList_toList (s := address), haddress,
    toList_toUpper_joined (by decide), upperPairs_upperPairs hpairs.areDigits,
    String.toList_ofList]

/-- **An address reads back in upper case** from the path of its device and from every path below
it, behind an adapter none of whose segments could be one of a device; and so does the address of
the device that a session makes from it. Whatever path an address reads from, it is in upper case,
and it is written and read back. -/
theorem address_reads_back_in_upper_case :
    (∀ address adapter suffix, IsAddress address →
      (∀ segment ∈ segments adapter.toList, ¬IsDeviceSegment segment) →
      (suffix = "" ∨ ∃ rest, suffix = "/" ++ rest) →
      ofPath? (toPath address adapter ++ suffix) = some address.toUpper ∧
        ∀ (τ : Type) (transport : τ) (config : Setup),
          (Session.start transport none address config).device.address = address.toUpper) ∧
    ∀ path address, ofPath? path = some address →
      IsAddress address ∧ address.toUpper = address ∧
        ofPath? (toPath address "hci0") = some address := by
  refine ⟨fun address adapter suffix haddress hadapter hsuffix ↦ ⟨?_, ?_⟩,
    fun path address hpath ↦ ?_⟩
  · exact ofPath?_toPath_append haddress hadapter hsuffix
  · exact fun _ _ _ ↦ haddress.upper_eq_toUpper
  · obtain ⟨haddress, hupper⟩ := isAddress_of_ofPath? hpath
    have hadapter : ∀ segment ∈ segments "hci0".toList, ¬IsDeviceSegment segment := by
      simp only [← ofSegment?_eq_none_iff]
      decide
    have hwritten := ofPath?_toPath_append haddress hadapter (.inl rfl)
    rw [hupper, String.append_empty] at hwritten
    exact ⟨haddress, hupper, hwritten⟩

/-- An address in mixed case reads back from the path of an attribute that has a segment of another
device in it. -/
theorem mixed_case_address_reads_back :
    let address := "aA:bB:0c:1D:e2:F3"
    let suffix := "/service000a/dev_00_11_22_33_44_55"
    IsAddress address ∧ (∀ segment ∈ segments "dev_AA/hci1".toList, ¬IsDeviceSegment segment) ∧
      ofPath? (toPath address "dev_AA/hci1" ++ suffix) = some "AA:BB:0C:1D:E2:F3" ∧
      (Session.start () none address (.standard 64)).device.address = "AA:BB:0C:1D:E2:F3" ∧
      ofPath? (toPath "AA:BB:0C:1D:E2:F3" "hci0") = some "AA:BB:0C:1D:E2:F3" := by
  intro address suffix
  have haddress : IsAddress address := by
    refine ⟨[('a', 'A'), ('b', 'B'), ('0', 'c'), ('1', 'D'), ('e', '2'), ('F', '3')], ⟨rfl, ?_⟩, ?_⟩
    · unfold AreDigits
      decide
    · decide
  have hadapter : ∀ segment ∈ segments "dev_AA/hci1".toList, ¬IsDeviceSegment segment := by
    simp only [← ofSegment?_eq_none_iff]
    decide
  have hupper : address.toUpper = "AA:BB:0C:1D:E2:F3" := by decide +kernel
  obtain ⟨hencode, hdecode⟩ := address_reads_back_in_upper_case
  obtain ⟨hreads, hdevice⟩ := hencode address _ suffix haddress hadapter
    (.inr ⟨"service000a/dev_00_11_22_33_44_55", by decide⟩)
  rw [hupper] at hreads
  exact ⟨haddress, hadapter, hreads, (hdevice _ _ _).trans hupper, (hdecode _ _ hreads).2.2⟩

end GattPeer.DeviceAddress
