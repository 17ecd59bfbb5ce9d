import GattPeer.Failure
import GattPeer.ObjectPath
import GattPeer.Text.Digit

/-!
# Attribute handles

The last segment of the object path of an attribute is a word for its kind and its handle in four
hexadecimal digits, such as `service001a` or `char001b`. Letters from a to f belong to the word and
to the digits alike; the last four characters are always the digits.
-/

namespace GattPeer

inductive AttributeKind where
  /-- A service. -/
  | service
  /-- A characteristic of a service. -/
  | characteristic
  /-- A descriptor of a characteristic. -/
  | descriptor
  /-- An attribute of another kind. -/
  | unknown
  deriving DecidableEq, Repr

def AttributeKind.ofWord (word : List Char) : AttributeKind :=
  if word = "service".toList then .service
  else if word = "char".toList then .characteristic
  else if word = "desc".toList then .descriptor
  else .unknown

/-- The handle of an attribute and the kind of the attribute. -/
structure Handle where
  /-- The number by which the device knows the attribute. -/
  number : Int
  /-- The kind of the attribute. -/
  kind : AttributeKind
  deriving DecidableEq, Repr

namespace Handle

/-- Whether a character is a lower-case letter of ASCII. -/
def isWordChar (c : Char) : Bool := 'a' ≤ c && c ≤ 'z'

/-- The handle that a segment names: a non-empty word, then four hexadecimal digits. -/
def ofSegment? (segment : List Char) : Option Handle :=
  let cs := ObjectPath.dropLineFeed segment
  let word := cs.take (cs.length - 4)
  let digits := cs.drop (cs.length - 4)
  if !word.isEmpty && word.all isWordChar && digits.all Text.isHexDigit then
    some ⟨(Text.hexNumber digits : Nat), .ofWord word⟩
  else none

/-- The handle that a path names in its last segment; slashes at the end of the path do not count.
-/
def ofPath (path : String) : Except Failure Handle :=
  match ofSegment? (ObjectPath.lastSegment (ObjectPath.dropSlashes path.toList)) with
  | some handle => .ok handle
  | none => .error (.notAnAttribute path)

theorem ofSegment?_bounds {segment : List Char} {handle : Handle}
    (h : ofSegment? segment = some handle) : 0 ≤ handle.number ∧ handle.number < 0x10000 := by
  have hlt (cs : List Char) : Text.hexNumber (cs.drop (cs.length - 4)) < 0x10000 := by
    have hlength : (cs.drop (cs.length - 4)).length ≤ 4 := by
      rw [List.length_drop]
      omega
    have hpow : Nat.pow 16 (cs.drop (cs.length - 4)).length ≤ Nat.pow 16 4 :=
      Nat.pow_le_pow_right (by decide) hlength
    exact Nat.lt_of_lt_of_le (Text.hexNumber_lt _) hpow
  simp only [ofSegment?] at h
  split at h
  · obtain rfl := Option.some.inj h
    exact ⟨Int.natCast_nonneg _, Int.ofNat_lt.mpr (hlt _)⟩
  · cases h

theorem ofPath_bounds {path : String} {handle : Handle} (h : ofPath path = .ok handle) :
    0 ≤ handle.number ∧ handle.number < 0x10000 := by
  unfold ofPath at h
  split at h
  · next found =>
    obtain rfl := Except.ok.inj h
    exact ofSegment?_bounds found
  · cases h

end Handle

end GattPeer
