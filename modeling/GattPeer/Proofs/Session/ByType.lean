import GattPeer.Proofs.Session.Requests

/-!
# Reading by type

To read by type is to search among the announced attributes and to read what was found. The search
goes by type and range, and the read by handle; but a handle that was found is one that has a path,
and it is the path of the same announcement, the last one of the handle. So what is found can be
read, and one command is asked for, or the search finds nothing and the transport is asked nothing.
-/

namespace GattPeer.Session

open AttributeTable (last? place)

variable {τ ρ σ : Type} [OperatedTransport τ ρ σ]

section

variable {s : Session (Watched τ)} {c : Characteristic} {uuid : String}

theorem asks_readByType_of_some {a : Announcement}
    (hfind : s.device.attributes.find? uuid c.start c.stop = .ok (some a.unranged))
    (hpath : s.device.attributes.pathOf? a.handle.number = some a.path) :
    ∃ answer, Asks (readByType c uuid) s
      [⟨.readValue a.path s.config.methodCallTimeout, answer⟩] answer := by
  obtain ⟨answer, hread⟩ : ∃ answer, Asks (readValue a.unranged) s
      [⟨.readValue a.path s.config.methodCallTimeout, answer⟩] answer := asks_readValue hpath
  refine ⟨answer, .congr ?_ hread⟩
  rw [readByType, Act.get_bind_apply, hfind]
  rfl

theorem asks_readByType_of_none
    (hfind : s.device.attributes.find? uuid c.start c.stop = .ok none) :
    Asks (readByType c uuid) s [] (.error (.notSupported "read_by_type")) := by
  refine .congr ?_ (.throw _)
  rw [readByType, Act.get_bind_apply, hfind]
  rfl

end

variable [RetainingTransport τ]

/-- **To read by type is to read the attribute whose handle came first.** Let a session run in any
way, and let a text be a type. Sought is an attribute that is the last announcement of its handle,
has this type, and has its handle in the range of a characteristic. If there are such attributes,
then the one whose handle was announced before those of all others is read: the transport is asked
once, on its path, and the step ends as this command does. There is none exactly if the transport is
asked nothing and the step fails because reading by type is not supported. That reading is not
supported is never the reason, unless the transport itself answers so. -/
theorem read_by_type_reads_what_came_first (transport : τ) (path : Option String)
    (address : String) (config : Setup) (drives : List (List ρ × Drive σ)) (c : Characteristic)
    {uuid : String} {target : Uuid} (huuid : Uuid.parse uuid = .ok target) (replies : List ρ) :
    let s := ((start transport path address config).run drives).1
    let as := arrivals drives
    let calls := s.calls replies (.device (.readByType c uuid))
    let outcome := (s.advance replies (.device (.readByType c uuid))).2.outcome
    let IsSought := fun a : Announcement ↦ last? as a.handle.number = some a ∧
      a.uuid = target ∧ c.start ≤ a.handle.number ∧ a.handle.number ≤ c.stop
    ((∃ a, IsSought a) → ∃ a, IsSought a ∧
      (∀ b, IsSought b → b ≠ a → place as a.handle.number < place as b.handle.number) ∧
      ∃ answer, calls = [⟨.readValue a.path config.methodCallTimeout, answer⟩] ∧
        outcome = Reading.value <$> answer) ∧
    ((∀ a, ¬IsSought a) ↔ calls = [] ∧ outcome = .error (.notSupported "read_by_type")) ∧
    (outcome = .error (.notSupported "read") →
      ∃ call ∈ calls, call.answer = .error (.notSupported "read")) := by
  intro s as calls outcome IsSought
  have hregistered : s.device.attributes.announcements = AttributeTable.stored as :=
    announcements_run_start transport path address config drives
  have htimeout : (s.watched.loading replies).config.methodCallTimeout
      = config.methodCallTimeout :=
    congrArg (·.methodCallTimeout) (config_run (start transport path address config) drives)
  have hanswers (a : Announcement) : a.Answers c uuid ↔
      a.uuid = target ∧ c.start ≤ a.handle.number ∧ a.handle.number ≤ c.stop := by
    rw [Announcement.Answers, huuid, Except.ok.injEq, eq_comm]
  rcases AttributeTable.find?_cases_of_stored hregistered c uuid with
    ⟨a, ha, hsought, hfirst, hfind⟩ | ⟨hnone, hfind⟩
  · have hpath : s.device.attributes.pathOf? a.handle.number = some a.path := by
      rw [AttributeTable.pathOf?_of_stored hregistered, ha]
      rfl
    obtain ⟨answer, hread⟩ := asks_readByType_of_some (s := s.watched.loading replies) hfind hpath
    rw [htimeout] at hread
    obtain ⟨hcalls, houtcome⟩ := calls_of_asks (.device (.readByType c uuid)) hread.map
    refine ⟨fun _ ↦ ⟨a, ⟨ha, (hanswers a).mp hsought⟩, fun b hb ↦ ?_, answer, hcalls, houtcome⟩,
      ⟨fun hno ↦ absurd ⟨ha, (hanswers a).mp hsought⟩ (hno a), ?_⟩, fun hfailed ↦ ?_⟩
    · exact hfirst b hb.1 ((hanswers b).mpr hb.2)
    · rintro ⟨hnothing, -⟩
      exact absurd (hcalls.symm.trans hnothing) (List.cons_ne_nil _ _)
    · refine ⟨_, hcalls ▸ List.mem_singleton_self _, ?_⟩
      have hanswer : Reading.value <$> answer = .error (.notSupported "read") :=
        houtcome.symm.trans hfailed
      cases answer with
      | ok value => cases hanswer
      | error failure => exact congrArg Except.error (Except.error.inj hanswer)
  · rw [huuid] at hfind
    have hno (a : Announcement) : ¬IsSought a := fun ha ↦
      hnone a ha.1 ((hanswers a).mpr ha.2)
    obtain ⟨hcalls, houtcome⟩ := calls_of_asks (.device (.readByType c uuid))
      (asks_readByType_of_none (s := s.watched.loading replies) hfind).map
    refine ⟨fun hsome ↦ (not_exists.mpr hno hsome).elim,
      ⟨fun _ ↦ ⟨hcalls, houtcome⟩, fun _ ↦ hno⟩, fun hfailed ↦ ?_⟩
    have hfailure : (.error (.notSupported "read_by_type") : Except Failure Reading)
        = .error (.notSupported "read") := houtcome.symm.trans hfailed
    simp at hfailure

/-- Three attributes of a type are announced. Then the first of them is announced with another type,
and the second one on another path. The second one is read there: it came before the third one,
whose handle is lower, and the first one is no longer sought. No attribute has a fourth type. -/
theorem moved_attribute_is_found_in_its_old_place :
    let drives : List (List DirectReply × Drive Empty) := [
      ([], .device (.announce "/dev/char0007" "2a00" ⟨0⟩)),
      ([], .device (.announce "/dev/char0005" "2a00" ⟨0⟩)),
      ([], .device (.announce "/dev/char0002" "2a00" ⟨0⟩)),
      ([], .device (.announce "/dev/char0007" "2a01" ⟨0⟩)),
      ([], .device (.announce "/dev/moved/char0005" "2a00" ⟨0⟩))]
    let s := ((start (⟨[]⟩ : DirectSink) (some "/dev") "" (.standard 64)).run drives).1
    let c : Characteristic := ⟨1, 10, 0, ⟨0⟩, ⟨0⟩⟩
    (∃ answer, s.calls [] (.device (.readByType c "2A00"))
      = [⟨.readValue "/dev/moved/char0005" Config.standard.methodCallTimeout, answer⟩]) ∧
    s.calls [] (.device (.readByType c "2A04")) = [] ∧
    (s.advance [] (.device (.readByType c "2A04"))).2.outcome
      = .error (.notSupported "read_by_type") := by
  intro drives s c
  let sought : Uuid := ⟨0x2a0000001000800000805f9b34fb⟩
  let changed : Uuid := ⟨0x2a0100001000800000805f9b34fb⟩
  let absent : Uuid := ⟨0x2a0400001000800000805f9b34fb⟩
  have hknown : Uuid.parse "2A00" = .ok sought := rfl
  have hunknown : Uuid.parse "2A04" = .ok absent := rfl
  have hstored : AttributeTable.stored (arrivals drives) = [
      ⟨"/dev/char0007", ⟨7, .characteristic⟩, changed, ⟨0⟩⟩,
      ⟨"/dev/moved/char0005", ⟨5, .characteristic⟩, sought, ⟨0⟩⟩,
      ⟨"/dev/char0002", ⟨2, .characteristic⟩, sought, ⟨0⟩⟩] := by
    decide +kernel
  have hmem {a : Announcement} (h : last? (arrivals drives) a.handle.number = some a) :
      a ∈ AttributeTable.stored (arrivals drives) := AttributeTable.mem_stored_iff.mpr h
  constructor
  · obtain ⟨hread, -⟩ := read_by_type_reads_what_came_first (⟨[]⟩ : DirectSink) (some "/dev") ""
      (.standard 64) drives c hknown []
    obtain ⟨a, ⟨hlatest, huuid, -⟩, hfirst, answer, hcalls, -⟩ := hread
      ⟨⟨"/dev/moved/char0005", ⟨5, .characteristic⟩, sought, ⟨0⟩⟩, by decide +kernel⟩
    have ha := hmem hlatest
    rw [hstored] at ha
    simp only [List.mem_cons, List.not_mem_nil, or_false] at ha
    rcases ha with rfl | rfl | rfl
    · exact absurd huuid (by decide +kernel)
    · exact ⟨answer, hcalls⟩
    · exact absurd (hfirst ⟨"/dev/moved/char0005", ⟨5, .characteristic⟩, sought, ⟨0⟩⟩
        (by decide +kernel) (by decide +kernel)) (by decide +kernel)
  · obtain ⟨-, ⟨hnone, -⟩, -⟩ := read_by_type_reads_what_came_first (⟨[]⟩ : DirectSink)
      (some "/dev") "" (.standard 64) drives c hunknown []
    have hother : ∀ a ∈ AttributeTable.stored (arrivals drives), a.uuid ≠ absent := by
      rw [hstored]
      decide +kernel
    exact hnone fun a ⟨hlatest, huuid, _⟩ ↦ hother a (hmem hlatest) huuid

end GattPeer.Session
