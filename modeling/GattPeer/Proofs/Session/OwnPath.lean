import GattPeer.Proofs.Device.Malformed
import GattPeer.Proofs.Device.Reports
import GattPeer.Proofs.Handle.Names
import GattPeer.Proofs.ObjectPath.Namespace
import GattPeer.Proofs.Session.Moves
import GattPeer.Proofs.Session.Transports
import GattPeer.Proofs.Text.Upper

/-!
# Batches on the own path

A device takes a batch as its own if the path of the batch lies below the path of the device and
names no attribute. Neither is a matter of course for the own path of a device, which may be any
text. But if the path is made from an address, then both hold, whatever the address and the adapter
are, and every batch on this path is merged.

## The argument

Any path lies in itself. What has to be seen is that the path names no attribute. An address may
have slashes in it, so the last segment need not be the one that begins with `dev_`. It ends the
path all the same, and it has no underscore if it names an attribute. So it lies behind the last
underscore, where the address stands in upper case; but the name of an attribute begins with a
lower-case letter.
-/

namespace GattPeer

/-! ## Paths that name no attribute -/

namespace Handle

variable {segment device : List Char} {handle : Handle}

/-- What the path of an attribute has in its last segment: a lower-case letter, and no underscore.
-/
theorem letter_of_ofSegment?_eq_some (h : ofSegment? segment = some handle) :
    (∃ c ∈ segment, isWordChar c = true) ∧ '_' ∉ segment := by
  obtain ⟨word, digits, hname, hsegment, -⟩ := ofSegment?_eq_some_iff.mp h
  have hletter : ∃ c ∈ word, isWordChar c = true := by
    obtain ⟨c, hc⟩ := List.exists_mem_of_ne_nil word hname.ne_nil
    exact ⟨c, hc, hname.letters c hc⟩
  have hword : '_' ∉ word := fun hc ↦ absurd (hname.letters _ hc) (by decide)
  have hdigits : '_' ∉ digits := fun hc ↦ absurd (hname.isHexDigit _ hc) (by decide)
  obtain ⟨c, hc, hlower⟩ := hletter
  rcases hsegment with rfl | rfl
  · exact ⟨⟨c, by simp [hc], hlower⟩, by simp [hword, hdigits]⟩
  · exact ⟨⟨c, by simp [hc], hlower⟩, by simp [hword, hdigits]⟩

theorem suffix_of_suffix_append_cons {α : Type} {xs before after : List α} {x : α}
    (h : xs <:+ before ++ x :: after) (hx : x ∉ xs) : xs <:+ after := by
  rcases List.suffix_or_suffix_of_suffix h (List.suffix_append before (x :: after)) with h | h
  · rcases List.suffix_cons_iff.mp h with rfl | h
    · exact absurd List.mem_cons_self hx
    · exact h
  · exact absurd (h.subset List.mem_cons_self) hx

/-- **A path names no attribute** if there is no lower-case letter behind an underscore. -/
theorem ofPath_eq_error_of_no_letter {path : String} {parent : List Char}
    (hpath : path.toList = parent ++ '_' :: device)
    (hdevice : ∀ c ∈ device, isWordChar c = false) :
    ofPath path = .error (.notAnAttribute path) := by
  cases hread : ofPath path with
  | error failure => rw [ofPath_eq_error hread]
  | ok handle =>
    have hsegment := ofPath_eq_ok_iff.mp hread
    generalize hlast : ObjectPath.lastSegment (ObjectPath.dropSlashes path.toList) = segment
      at hsegment
    obtain ⟨⟨c, hc, hletter⟩, hunderscore⟩ := letter_of_ofSegment?_eq_some hsegment
    obtain ⟨before, n, hsplit, -, -⟩ := ObjectPath.isLastSegment_iff.mpr hlast
    -- The last segment and the slashes after it end the path, and have no underscore.
    rw [hpath, List.append_assoc] at hsplit
    have hend := suffix_of_suffix_append_cons (hsplit ▸ List.suffix_append before _)
      (by simpa using hunderscore)
    have hbehind : c ∈ device := hend.subset (List.mem_append_left _ hc)
    rw [hdevice c hbehind] at hletter
    exact absurd hletter Bool.false_ne_true

theorem isWordChar_eq_isLower (c : Char) : isWordChar c = c.isLower := rfl

end Handle

namespace DeviceAddress

/-- **The path of a device names no attribute**, whatever its address and its adapter are. -/
theorem ofPath_toPath (address adapter : String) :
    Handle.ofPath (toPath address adapter) = .error (.notAnAttribute (toPath address adapter)) := by
  have hpath : (toPath address adapter).toList
      = ("/org/bluez/" ++ adapter ++ "/dev").toList
        ++ '_' :: exchange ':' '_' (Text.upper address).toList := by
    simp [toPath, deviceMark]
  refine Handle.ofPath_eq_error_of_no_letter hpath fun c hc ↦ ?_
  obtain ⟨d, hd, rfl⟩ := List.mem_map.mp hc
  rw [Handle.isWordChar_eq_isLower]
  split
  · decide
  · exact Text.isLower_of_mem_upper hd

end DeviceAddress

/-! ## Batches -/

namespace Device

variable {d : Device}

theorem subject_path {failure : Failure} (h : Handle.ofPath d.path = .error failure) :
    d.subject d.path = .device := by
  rw [subject, ObjectPath.isWithin_self, h]
  rfl

/-- What a device reports of the properties that became invalid, which it ignores. -/
def ignoring (d : Device) (invalidated : List Value) : List Notice :=
  if invalidated.isEmpty then [] else [.invalidated d.address invalidated]

theorem receive_of_subject_eq {batch : Batch} (h : d.subject batch.path = .device) :
    d.receive batch = .ok ((d.update batch.changes).1,
      ⟨(d.update batch.changes).2.notices ++ d.ignoring batch.invalidated,
        (d.update batch.changes).2.course⟩) := by
  rw [receive, h]
  rfl

end Device

/-- Whether a notice says that a batch concerns another device or an attribute. -/
def Notice.isOfRejection : Notice → Bool
  | .foreignBatch .. | .attributeBatch .. => true
  | _ => false

theorem Notice.isOfRejection_of_isOfMerge {n : Notice} (h : n.isOfMerge = true) :
    n.isOfRejection = false := by
  unfold isOfRejection
  split
  · exact absurd h Bool.false_ne_true
  · exact absurd h Bool.false_ne_true
  · rfl

theorem Device.isOfRejection_update (d : Device) (changes : Changes) (invalidated : List Value) :
    ∀ n ∈ (d.update changes).2.notices ++ d.ignoring invalidated, n.isOfRejection = false := by
  refine List.forall_mem_append.mpr ⟨fun n hn ↦ ?_, ?_⟩
  · exact Notice.isOfRejection_of_isOfMerge (isOfMerge_update d changes n hn)
  · unfold ignoring
    split
    · exact List.forall_mem_nil _
    · exact List.forall_mem_singleton.mpr rfl

namespace Session

variable {τ ρ σ : Type} [OperatedTransport τ ρ σ]

theorem advance_of_receive_eq_ok {s : Session τ} {batch : Batch} {d : Device} {effects : Effects}
    (h : s.device.receive batch = .ok (d, effects)) (replies : List ρ) :
    let after := s.advance replies (.device (.receive batch) : Drive σ)
    after.2.outcome = .ok .nothing ∧ after.1.device = d ∧ after.2.notices = effects.notices ∧
      after.2.happenings = effects.course := by
  intro after
  have hdeliver : Act.deliver .caller batch (s.loading replies)
      = .ok () ((s.loading replies).changing d .caller effects.notices effects.course) := by
    rw [deliver_apply, show (s.loading replies).device = s.device from rfl, h]
  have hact : (Drive.device (.receive batch) : Drive σ).act (s.loading replies)
      = .ok .nothing ((s.loading replies).changing d .caller effects.notices effects.course) :=
    Act.bind_of_ok hdeliver _
  rw [show after = _ from advance_of_ok hact]
  refine ⟨rfl, rfl, ?_, ?_⟩
  · simp [Report.notices, changing, loading]
  · exact happenings_changing (s.loading replies) d .caller effects.notices effects.course

/-- **A device with a path made from an address takes every batch on its own path.** Whatever the
address and the adapter are, well-formed or not, and whatever was done in the session before, the
path lies in itself and names no attribute. So a batch on it does what an update by its changes
does: it is merged and counted, and it is never reported as one of another device or as one about an
attribute. The invalidated names, if there are any, are reported besides. -/
theorem batches_on_own_path_are_merged [PassingTransport τ] (transport : τ) (address : String)
    (config : Setup) (drives : List (List ρ × Drive σ)) :
    let s := ((start transport none address config).run drives).1
    let path := s.device.path
    path = DeviceAddress.toPath address config.adapter.shown ∧
    ObjectPath.isWithin path path = true ∧
    Handle.ofPath path = .error (.notAnAttribute path) ∧
    ∀ (replies : List ρ) (changes : Changes) (invalidated : List Value),
      let updated := s.device.update changes
      let after := s.advance replies (.device (.receive ⟨path, changes, invalidated⟩) : Drive σ)
      after.2.outcome = .ok .nothing ∧ after.1.device = updated.1 ∧
      after.2.happenings = updated.2.course ∧
      after.2.notices = updated.2.notices ++ s.device.ignoring invalidated ∧
      after.1.device.advertisement.updates = s.device.advertisement.updates + 1 ∧
      ∀ n ∈ after.2.notices, n.isOfRejection = false := by
  intro s path
  have hpath : path = DeviceAddress.toPath address config.adapter.shown :=
    law_run (Device.law_path _) rfl drives
  have hno : Handle.ofPath path = .error (.notAnAttribute path) := by
    rw [hpath]
    exact DeviceAddress.ofPath_toPath _ _
  refine ⟨hpath, ObjectPath.isWithin_self _, hno, fun replies changes invalidated ↦ ?_⟩
  intro updated after
  have hsubject : s.device.subject (Batch.path ⟨path, changes, invalidated⟩) = .device :=
    Device.subject_path hno
  have hreceive := Device.receive_of_subject_eq hsubject
  obtain ⟨houtcome, hdevice, hnotices, hhappened⟩ := advance_of_receive_eq_ok hreceive replies
  refine ⟨houtcome, hdevice, hhappened, hnotices, ?_, ?_⟩
  · rw [hdevice, Device.advertisement_update]
    rfl
  · rw [hnotices]
    exact s.device.isOfRejection_update changes invalidated

/-- An address whose last segment would name an attribute if it were not for the upper case. -/
theorem batch_on_odd_path_is_merged :
    let config : Setup := { Setup.standard 64 with adapter := "x//" }
    let s := ((start (⟨[]⟩ : DirectSink) none "ß:aa/char00ab//" config).run
      [([], .device .listen), ([], .device (.announce "/char0001" "2a00" ⟨0⟩))]).1
    let after := s.advance []
      (.device (.receive ⟨s.device.path, [("RSSI", .int (-40))], ["Name"]⟩))
    s.device.path = "/org/bluez/x///dev_SS_AA/CHAR00AB//" ∧
      Handle.ofPath s.device.path = .error (.notAnAttribute s.device.path) ∧
      after.2.outcome = .ok .nothing ∧ after.1.device.advertisement.signalStrength = some (-40) ∧
      after.1.device.advertisement.updates = 1 ∧
      ∀ n ∈ after.2.notices, n.isOfRejection = false := by
  intro config s after
  have hpath : DeviceAddress.toPath "ß:aa/char00ab//" config.adapter.shown
      = "/org/bluez/x///dev_SS_AA/CHAR00AB//" := by
    decide +kernel
  obtain ⟨hown, -, hno, hmerges⟩ := batches_on_own_path_are_merged (⟨[]⟩ : DirectSink)
    "ß:aa/char00ab//" config
    [([], .device .listen), ([], .device (.announce "/char0001" "2a00" ⟨0⟩))]
  obtain ⟨houtcome, hdevice, -, -, hcount, hreports⟩ :=
    hmerges [] [("RSSI", .int (-40))] ["Name"]
  refine ⟨hown.trans hpath, hno, houtcome, ?_, ?_, hreports⟩
  · rw [hdevice]
    rfl
  · rw [hcount]
    rfl

end Session

end GattPeer
