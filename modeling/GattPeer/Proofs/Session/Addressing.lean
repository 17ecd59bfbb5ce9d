import GattPeer.Proofs.Device.Grounded
import GattPeer.Proofs.Session.Supporting

/-!
# What was handed out can be addressed

A session hands out characteristics when it is asked for them, and when calls to discover end with
them. A caller may keep them for long, through disconnections, new resolutions and announcements
that move an attribute to another path. Its handle is known all the same. So to read or to write
what was once handed out is to ask the transport on the path that was announced last, and neither
fails for want of an attribute.
-/

namespace GattPeer

/-- A step hands out a characteristic. -/
inductive LogEntry.HandsOut {σ : Type} (entry : LogEntry σ) (c : Characteristic) : Prop
  /-- It is among those that were asked for. -/
  | asked (cs : List Characteristic) (drive : entry.drive = .device .characteristics)
    (outcome : entry.report.outcome = .ok (.characteristics cs)) (mem : c ∈ cs)
  /-- It is among those with which a call ended. -/
  | found (e : EndedCall) (ended : .ended e ∈ entry.report.happenings) (mem : c ∈ e.found)

namespace Session

variable {τ ρ σ : Type} [OperatedTransport τ ρ σ] {s : Session τ}

/-! ## Handles -/

section

variable [PassingTransport τ] {known : List Int}

theorem grounded_run (hs : s.device.attributes.Grounded)
    (hknown : known ⊆ s.device.attributes.handles) (drives : List (List ρ × Drive σ)) :
    Device.Grounded known (history (s.run drives).2) (s.run drives).1.device :=
  law_run (Device.law_grounded _ known) (Device.grounded_nil hs hknown) drives

/-- **The handle of what was handed out is known** at the end of the run. -/
theorem value_mem_handles_of_handsOut (hs : s.device.attributes.Grounded)
    {drives : List (List ρ × Drive σ)} {entry : LogEntry σ} {c : Characteristic}
    (hentry : entry ∈ (s.run drives).2) (hc : entry.HandsOut c) :
    c.value ∈ (s.run drives).1.device.attributes.handles := by
  cases hc with
  | found e hended hmem =>
    have hhistory : .ended e ∈ history (s.run drives).2 :=
      List.mem_flatMap.mpr ⟨entry, hentry, hended⟩
    exact (grounded_run hs (List.nil_subset _) drives).found e hhistory c hmem
  | asked cs hdrive houtcome hmem =>
    obtain ⟨xs, ys, hlog⟩ := List.append_of_mem hentry
    obtain ⟨before, after, rfl, -, hafter⟩ := exists_run_of_log_eq hlog
    cases after with
    | nil => exact nomatch hafter
    | cons head after =>
      obtain ⟨replies, drive⟩ := head
      have hfirst : ⟨drive, ((s.run before).1.advance replies drive).2⟩ = entry :=
        (List.cons.inj hafter).1
      rw [← hfirst] at hdrive houtcome
      obtain rfl : drive = .device .characteristics := hdrive
      obtain rfl : (s.run before).1.device.characteristics = cs :=
        Reading.characteristics.inj (Except.ok.inj houtcome)
      -- It was published when it was handed out, and its handle is not forgotten since.
      have hthen := grounded_run hs (List.nil_subset _) before
      have hknown : [c.value] ⊆ (s.run before).1.device.attributes.handles :=
        List.forall_mem_singleton.mpr (hthen.published c hmem)
      rw [run_append]
      exact (grounded_run hthen.published hknown _).known List.mem_cons_self

end

/-! ## Reading and writing -/

section

variable {c : Characteristic} {path : String}
  (hpath : s.device.attributes.pathOf? c.value = some path)

include hpath

theorem answers_readValue : (readValue c).answers s
    = (Transport.perform (.readValue path s.config.methodCallTimeout)).answers s := by
  rw [Act.answers, readValue, Act.get_bind_apply, hpath]
  rfl

theorem answers_writeValue (data : Value) : (writeValue c data).answers s
    = data.toBytes s.config.memory >>= fun bytes ↦ (fun _ ↦ ()) <$>
      (Transport.perform (.writeValue path bytes s.config.methodCallTimeout)).answers s := by
  rw [Act.answers, writeValue, Act.get_bind_apply, hpath]
  cases data.toBytes s.config.memory with
  | error failure => rfl
  | ok bytes => exact Act.answers_return _ (fun _ ↦ ()) s

theorem outcome_read (replies : List ρ) :
    (s.advance replies (.device (.read c) : Drive σ)).2.outcome
      = Reading.value <$> (Transport.perform
        (.readValue path s.config.methodCallTimeout)).answers (s.loading replies) := by
  have hloaded : (s.loading replies).device.attributes.pathOf? c.value = some path := hpath
  have hread : (s.advance replies (.device (.read c) : Drive σ)).2.outcome
      = Reading.value <$> (readValue c).answers (s.loading replies) := by
    rw [advance_eq]
    exact Act.answers_return ..
  rw [hread, answers_readValue hloaded]
  rfl

theorem outcome_write (data : Value) (replies : List ρ) :
    (s.advance replies (.device (.write c data) : Drive σ)).2.outcome
      = data.toBytes s.config.memory >>= fun bytes ↦ (fun _ ↦ Reading.nothing) <$>
        (Transport.perform (.writeValue path bytes s.config.methodCallTimeout)).answers
          (s.loading replies) := by
  have hloaded : (s.loading replies).device.attributes.pathOf? c.value = some path := hpath
  have hwrite : (s.advance replies (.device (.write c data) : Drive σ)).2.outcome
      = (fun _ ↦ Reading.nothing) <$> (writeValue c data).answers (s.loading replies) := by
    rw [advance_eq]
    exact Act.answers_return ..
  have hmemory : (s.loading replies).config = s.config := rfl
  rw [hwrite, answers_writeValue hloaded, hmemory]
  cases data.toBytes s.config.memory with
  | error failure => rfl
  | ok bytes => exact Functor.map_map ..

variable [SupportingTransport τ]

theorem stems_read (replies : List ρ) :
    FailsBy (fun failure ↦ failure.isUnsupported = true →
      ∃ reply ∈ replies, SupportingTransport.failure? τ reply = some failure)
    (s.advance replies (.device (.read c) : Drive σ)).2.outcome := by
  rw [outcome_read hpath]
  exact (SupportingTransport.stems_perform _ replies s rfl).map _

theorem stems_write (data : Value) (replies : List ρ) :
    FailsBy (fun failure ↦ failure.isUnsupported = true →
      ∃ reply ∈ replies, SupportingTransport.failure? τ reply = some failure)
    (s.advance replies (.device (.write c data) : Drive σ)).2.outcome := by
  rw [outcome_write hpath]
  refine FailsBy.bind (fun failure hfailure hunsupported ↦ ?_) fun bytes _ ↦ ?_
  · exact nomatch (data.failsBy_toBytes _ failure hfailure).symm.trans hunsupported
  · exact (SupportingTransport.stems_perform _ replies s rfl).map _

end

/-- **What was handed out stays addressable.** After any operations on a table, each published
characteristic has a path. And let a session run in any way, and hand out a characteristic in some
step, because it was asked for it or because a call to discover ended with it. Then at the end of
the run it has a path. To read it is to ask the transport on this path, to write it is to ask the
transport with the bytes of the data, if they are bytes, and neither fails for want of an attribute,
unless a reply of the other side is this failure. -/
theorem handed_out_characteristics_stay_addressable [PassingTransport τ] [SupportingTransport τ]
    (owner : String) (operations : List AttributeTable.Operation) (transport : τ)
    (path : Option String) (address : String) (config : Setup)
    (drives : List (List ρ × Drive σ)) :
    let t := (AttributeTable.empty owner).run operations
    let s := ((start transport path address config).run drives).1
    let log := ((start transport path address config).run drives).2
    (∀ c ∈ t.published, ∃ path, t.pathOf? c.value = some path) ∧
    ∀ entry ∈ log, ∀ c, entry.HandsOut c →
      ∃ path, s.device.attributes.pathOf? c.value = some path ∧
        ∀ (replies : List ρ) (data : Value),
          let read := (s.advance replies (.device (.read c))).2.outcome
          let write := (s.advance replies (.device (.write c data))).2.outcome
          let answer := fun command ↦ (Transport.perform command).answers (s.loading replies)
          read = Reading.value <$> answer (.readValue path s.config.methodCallTimeout) ∧
          write = (do
            let bytes ← data.toBytes s.config.memory
            (fun _ ↦ Reading.nothing)
              <$> answer (.writeValue path bytes s.config.methodCallTimeout)) ∧
          ∀ operation,
            (∀ reply ∈ replies,
              SupportingTransport.failure? τ reply ≠ some (.notSupported operation)) →
            read ≠ .error (.notSupported operation) ∧ write ≠ .error (.notSupported operation) := by
  intro t s log
  refine ⟨fun c hc ↦ ?_, fun entry hentry c hc ↦ ?_⟩
  · have hgrounded := (AttributeTable.grounded_empty owner).run operations
    exact AttributeTable.exists_pathOf?_iff.mpr (hgrounded c hc)
  · have hstart : (start transport path address config).device.attributes.Grounded :=
      AttributeTable.grounded_empty _
    have hknown : c.value ∈ s.device.attributes.handles :=
      value_mem_handles_of_handsOut hstart hentry hc
    obtain ⟨known, hpath⟩ := AttributeTable.exists_pathOf?_iff.mpr hknown
    refine ⟨known, hpath, fun replies data ↦ ⟨outcome_read hpath replies,
      outcome_write hpath data replies, fun operation hreplies ↦ ⟨fun hread ↦ ?_,
        fun hwrite ↦ ?_⟩⟩⟩
    · obtain ⟨reply, hreply, hfailure⟩ := stems_read hpath replies _ hread rfl
      exact hreplies reply hreply hfailure
    · obtain ⟨reply, hreply, hfailure⟩ := stems_write hpath data replies _ hwrite rfl
      exact hreplies reply hreply hfailure

/-- A characteristic is handed out, the connection is dropped, and the attribute is announced on
another path. There it is read. -/
theorem moved_characteristic_is_read_on_its_new_path :
    let drives : List (List DirectReply × Drive Empty) := [
      ([], .device (.announce "/dev/char0002" "2a00" ⟨0⟩)),
      ([], .device (.receive
        ⟨"/dev", [("Connected", .bool true), ("ServicesResolved", .bool true)], []⟩)),
      ([], .device .characteristics),
      ([], .device (.receive ⟨"/dev", [("Connected", .bool false)], []⟩)),
      ([], .device (.announce "/dev/moved/char0002" "2a00" ⟨0⟩))]
    let s := ((start (⟨[]⟩ : DirectSink) (some "/dev") "" (.standard 64)).run drives).1
    let log := ((start (⟨[]⟩ : DirectSink) (some "/dev") "" (.standard 64)).run drives).2
    let c : Characteristic := ⟨2, 0xffff, 2, ⟨0x2a0000001000800000805f9b34fb⟩, ⟨0⟩⟩
    ∃ entry ∈ log, entry.HandsOut c ∧
      s.device.attributes.pathOf? 2 = some "/dev/moved/char0002" ∧
      (s.advance [] (.device (.read c))).2.outcome
        = Reading.value <$> (Transport.perform (.readValue "/dev/moved/char0002"
          s.config.methodCallTimeout)).answers (s.loading []) ∧
      (s.advance [] (.device (.read c))).2.outcome ≠ .error (.notSupported "read") := by
  intro drives s log c
  have hentry : log[2] ∈ log := List.getElem_mem _
  let a : Announcement := ⟨"/dev/char0002", ⟨2, .characteristic⟩, c.uuid, ⟨0⟩⟩
  have hbuild : c ∈ Ranges.build [a] := by
    unfold a c
    decide +kernel
  have hasked : log[2].HandsOut c := by
    refine .asked (Ranges.build [a]) ?_ ?_ hbuild
    · unfold log drives
      rfl
    · unfold log drives a
      rfl
  have hmoved : s.device.attributes.pathOf? 2 = some "/dev/moved/char0002" := by
    unfold s drives
    decide +kernel
  obtain ⟨-, hlog⟩ := handed_out_characteristics_stay_addressable "" [] (⟨[]⟩ : DirectSink)
    (some "/dev") "" (.standard 64) drives
  obtain ⟨path, hpath, hasks⟩ := hlog _ hentry c hasked
  obtain rfl : path = "/dev/moved/char0002" := Option.some.inj (hpath.symm.trans hmoved)
  obtain ⟨hread, -, hsupported⟩ := hasks [] .none
  subst s log
  exact ⟨_, hentry, hasked, hmoved, hread, (hsupported "read" nofun).1⟩

end Session

end GattPeer
