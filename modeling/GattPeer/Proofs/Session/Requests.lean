import GattPeer.Proofs.AttributeTable.Search
import GattPeer.Proofs.Session.Watched

/-!
# What requests ask of the transport

A request for an attribute names its handle, and the device looks up the path. If no attribute with
the handle was announced, the request fails and the transport is asked nothing. Otherwise the
transport is asked on the path of the last announcement: to read, or to write the bytes of the data.
To exchange a value is to write it and, if that succeeds, to read on the same path, for whatever the
transport delivers in the meantime, it announces nothing. In each case the request ends as the last
command does.
-/

namespace GattPeer.Session

variable {τ ρ σ : Type} [OperatedTransport τ ρ σ]

/-! ## Reading, writing and both -/

section

variable {s : Session (Watched τ)} {c : Characteristic}

theorem asks_readValue_of_none (h : s.device.attributes.pathOf? c.value = none) :
    Asks (readValue c) s [] (.error (.notSupported "read")) := by
  refine .congr ?_ (.throw _)
  rw [readValue, Act.get_bind_apply, h]

theorem asks_writeValue_of_none (h : s.device.attributes.pathOf? c.value = none) (data : Value) :
    Asks (writeValue c data) s [] (.error (.notSupported "write_without_response")) := by
  refine .congr ?_ (.throw _)
  rw [writeValue, Act.get_bind_apply, h]

variable {data : Value} {path : String} (hpath : s.device.attributes.pathOf? c.value = some path)

include hpath

theorem asks_readValue : ∃ answer, Asks (readValue c) s
    [⟨.readValue path s.config.methodCallTimeout, answer⟩] answer := by
  refine ⟨_, .congr ?_ (.perform _ s)⟩
  rw [readValue, Act.get_bind_apply, hpath]

theorem asks_writeValue_of_error {failure : Failure}
    (hdata : data.toBytes s.config.memory = .error failure) :
    Asks (writeValue c data) s [] (.error failure) := by
  refine .congr ?_ (.throw _)
  rw [writeValue, Act.get_bind_apply, hpath, hdata]
  rfl

variable {bytes : List UInt8} (hdata : data.toBytes s.config.memory = .ok bytes)

include hdata

theorem asks_writeValue : ∃ answer, Asks (writeValue c data) s
    [⟨.writeValue path bytes s.config.methodCallTimeout, answer⟩] ((fun _ ↦ ()) <$> answer) := by
  refine ⟨_, .congr ?_ (Asks.perform _ s).map⟩
  rw [writeValue, Act.get_bind_apply, hpath, hdata]
  rfl

/-- **To exchange a value** is to write it and, if it was written, to read on the same path. -/
theorem asks_exchangeValue [RetainingTransport τ] :
    (∃ failure, Asks (exchangeValue c data) s
      [⟨.writeValue path bytes s.config.methodCallTimeout, .error failure⟩] (.error failure)) ∨
    ∃ written answer, Asks (exchangeValue c data) s
      [⟨.writeValue path bytes s.config.methodCallTimeout, .ok written⟩,
        ⟨.readValue path s.config.methodCallTimeout, answer⟩] answer := by
  obtain ⟨answer, hwrite⟩ := asks_writeValue hpath hdata
  cases answer with
  | error failure => exact .inl ⟨failure, hwrite.bind_error⟩
  | ok written =>
    have hretains : Retains s ((writeValue c data).leaves s) := kept_retains.writeValue c data
    obtain ⟨answer, hread⟩ := asks_readValue ((hretains.pathOf?_eq c.value).trans hpath)
    rw [hretains.config] at hread
    exact .inr ⟨written, answer, hwrite.bind_ok hread⟩

end

/-! ## Steps -/

variable [RetainingTransport τ]

/-- **Requests ask on the path that was announced last.** In a session that ran in any way, if no
attribute with the handle of a value was ever announced, then to read, to write and to exchange it
fails, and the transport is asked nothing. Otherwise consider the last announcement of the handle.
To read is to ask for the value on its path. Data that are no bytes are not sent. To write data that
are bytes is to ask for it on the path, and to exchange them is to ask for it and, if it succeeds,
to read on the same path, whatever is delivered meanwhile. Each step ends as its last command
does. -/
theorem requests_ask_on_the_last_path (transport : τ) (path : Option String) (address : String)
    (config : Setup) (drives : List (List ρ × Drive σ)) (c : Characteristic) (data : Value)
    (replies : List ρ) :
    let s := ((start transport path address config).run drives).1
    let calls := fun step ↦ s.calls replies (.device step)
    let outcome := fun step ↦ (s.advance replies (.device step)).2.outcome
    let timeout := config.methodCallTimeout
    ((∀ a ∈ arrivals drives, a.handle.number ≠ c.value) →
      (calls (.read c) = [] ∧ outcome (.read c) = .error (.notSupported "read")) ∧
      (calls (.write c data) = [] ∧
        outcome (.write c data) = .error (.notSupported "write_without_response")) ∧
      calls (.exchange c data) = [] ∧
        outcome (.exchange c data) = .error (.notSupported "write_without_response")) ∧
    ((∃ a ∈ arrivals drives, a.handle.number = c.value) →
      ∃ a, AttributeTable.last? (arrivals drives) c.value = some a ∧
        (∃ answer, calls (.read c) = [⟨.readValue a.path timeout, answer⟩] ∧
          outcome (.read c) = Reading.value <$> answer) ∧
        (∀ failure, data.toBytes config.memory = .error failure →
          (calls (.write c data) = [] ∧ outcome (.write c data) = .error failure) ∧
          calls (.exchange c data) = [] ∧ outcome (.exchange c data) = .error failure) ∧
        ∀ bytes, data.toBytes config.memory = .ok bytes →
          (∃ answer, calls (.write c data) = [⟨.writeValue a.path bytes timeout, answer⟩] ∧
            outcome (.write c data) = (fun _ ↦ Reading.nothing) <$> answer) ∧
          ((∃ failure,
              calls (.exchange c data) = [⟨.writeValue a.path bytes timeout, .error failure⟩] ∧
              outcome (.exchange c data) = .error failure) ∨
            ∃ written answer,
              calls (.exchange c data) = [⟨.writeValue a.path bytes timeout, .ok written⟩,
                ⟨.readValue a.path timeout, answer⟩] ∧
              outcome (.exchange c data) = Reading.value <$> answer)) := by
  intro s calls outcome timeout
  have hregistered : s.device.attributes.announcements = AttributeTable.stored (arrivals drives) :=
    announcements_run_start transport path address config drives
  have hconfig : (s.watched.loading replies).config = config :=
    config_run (start transport path address config) drives
  have htimeout : (s.watched.loading replies).config.methodCallTimeout = timeout :=
    congrArg (·.methodCallTimeout) hconfig
  have hlast : (s.watched.loading replies).device.attributes.pathOf? c.value
      = (AttributeTable.last? (arrivals drives) c.value).map (·.path) :=
    AttributeTable.pathOf?_of_stored hregistered c.value
  constructor
  · intro hunknown
    rw [AttributeTable.last?_eq_none_iff.mpr hunknown] at hlast
    have hwrite := asks_writeValue_of_none hlast data
    exact ⟨calls_of_asks _ (asks_readValue_of_none hlast).map, calls_of_asks _ hwrite.map,
      calls_of_asks _ hwrite.bind_error.map⟩
  · rintro ⟨b, hb, hnumber⟩
    obtain ⟨a, ha⟩ : ∃ a, AttributeTable.last? (arrivals drives) c.value = some a := by
      refine Option.ne_none_iff_exists'.mp fun hnone ↦ ?_
      exact AttributeTable.last?_eq_none_iff.mp hnone b hb hnumber
    rw [ha] at hlast
    rw [← hconfig]
    refine ⟨a, ha, ?_, fun failure hdata ↦ ?_, fun bytes hdata ↦ ⟨?_, ?_⟩⟩
    · obtain ⟨answer, hread⟩ := asks_readValue hlast
      rw [htimeout] at hread
      exact ⟨answer, calls_of_asks _ hread.map⟩
    · have hwrite := asks_writeValue_of_error hlast hdata
      exact ⟨calls_of_asks _ hwrite.map, calls_of_asks _ hwrite.bind_error.map⟩
    · obtain ⟨answer, hwrite⟩ := asks_writeValue hlast hdata
      rw [htimeout] at hwrite
      obtain ⟨hcalls, houtcome⟩ := calls_of_asks (.device (.write c data)) hwrite.map
      exact ⟨answer, hcalls, houtcome.trans (Functor.map_map ..)⟩
    · have hexchange := asks_exchangeValue hlast hdata
      rw [htimeout] at hexchange
      rcases hexchange with ⟨failure, hexchange⟩ | ⟨written, answer, hexchange⟩
      · exact .inl ⟨failure, calls_of_asks _ hexchange.map⟩
      · exact .inr ⟨written, answer, calls_of_asks _ hexchange.map⟩

/-- An attribute was moved to another path. It is written and read there, although the services are
resolved between the two commands, so that its range is published anew. An attribute that was never
announced is not asked for. -/
theorem moved_attribute_is_exchanged_while_services_resolve :
    let drives : List (List DirectReply × Drive Empty) := [
      ([], .device (.announce "/dev/char0002" "2a00" ⟨0⟩)),
      ([], .device (.announce "/dev/moved/char0002" "2a00" ⟨0⟩))]
    let s := ((start (⟨[]⟩ : DirectSink) (some "/dev") "" (.standard 64)).run drives).1
    let resolved : Batch :=
      ⟨"/dev", [("Connected", .bool true), ("ServicesResolved", .bool true)], []⟩
    let replies : List DirectReply := [⟨[resolved], .value none⟩]
    let known : Characteristic := ⟨0, 0, 2, ⟨0⟩, ⟨0⟩⟩
    let unknown : Characteristic := ⟨0, 0, 3, ⟨0⟩, ⟨0⟩⟩
    let data : Value := .list [.int 7]
    let timeout := Config.standard.methodCallTimeout
    (∃ written answer,
      s.calls replies (.device (.exchange known data))
        = [⟨.writeValue "/dev/moved/char0002" [7] timeout, .ok written⟩,
          ⟨.readValue "/dev/moved/char0002" timeout, answer⟩]) ∧
      (s.advance replies (.device (.exchange known data))).1.device.state = .servicesResolved ∧
      s.calls replies (.device (.read unknown)) = [] ∧
      (s.advance replies (.device (.read unknown))).2.outcome = .error (.notSupported "read") := by
  intro drives s resolved replies known unknown data timeout
  have hknown := requests_ask_on_the_last_path (⟨[]⟩ : DirectSink) (some "/dev") "" (.standard 64)
    drives known data replies
  have hunknown := requests_ask_on_the_last_path (⟨[]⟩ : DirectSink) (some "/dev") "" (.standard 64)
    drives unknown data replies
  have harrivals : arrivals drives = [
      ⟨"/dev/char0002", ⟨2, .characteristic⟩, ⟨0x2a0000001000800000805f9b34fb⟩, ⟨0⟩⟩,
      ⟨"/dev/moved/char0002", ⟨2, .characteristic⟩, ⟨0x2a0000001000800000805f9b34fb⟩, ⟨0⟩⟩] := by
    decide +kernel
  have hsucceeds : (s.advance replies (.device (.exchange known data))).2.outcome.isOk = true := by
    unfold s drives replies resolved known data
    decide +kernel
  refine ⟨?_, ?_, ?_⟩
  · obtain ⟨a, ha, -, -, hbytes⟩ := hknown.2 (by rw [harrivals]; exact ⟨_, .head _, rfl⟩)
    have hpath : a.path = "/dev/moved/char0002" := by
      rw [harrivals] at ha
      exact congrArg Announcement.path (Option.some.inj ha).symm
    rw [hpath] at hbytes
    obtain ⟨-, ⟨failure, -, hfailed⟩ | ⟨written, answer, hcalls, -⟩⟩ := hbytes [7] rfl
    · subst s
      beta_reduce at hfailed
      rw [hfailed] at hsucceeds
      exact absurd hsucceeds Bool.false_ne_true
    · exact ⟨written, answer, hcalls⟩
  · unfold s drives replies resolved known data
    decide +kernel
  · refine (hunknown.1 fun a ha ↦ ?_).1
    rw [harrivals] at ha
    revert a
    decide +kernel

end GattPeer.Session
