import GattPeer.Proofs.Session.Parallel
import GattPeer.Proofs.Session.Pending
import GattPeer.Proofs.Session.Registered

/-!
# The order in which attributes arrive

Two runs that take the same steps and announce the same attributes, but in another order, end in
parallel sessions: announcements change nothing but the devices, and the other steps do the same to
everything else. The devices may differ a lot at that point, since they may have published different
ranges in between, answered differently and even lost different connections. But if their handles
are distinct, they have registered the same attributes. So as soon as the services are resolved they
publish the same, and from then on nobody can tell the sessions apart by what they discover.
-/

namespace GattPeer

namespace Session

variable {τ ρ σ : Type} [OperatedTransport τ ρ σ] [EvenTransport τ] {s s' : Session τ}

theorem announcements_run_of_distinct (transport : τ) (path : Option String) (address : String)
    (config : Setup) {drives : List (List ρ × Drive σ)}
    (h : Ranges.Distinct (arrivals drives)) :
    ((start transport path address config).run drives).1.device.attributes.announcements
      = arrivals drives := by
  rw [announcements_run_start]
  exact AttributeTable.foldl_store_eq_append h

/-! ## The same steps -/

theorem Framed.run_filter (h : Framed s s') (drives : List (List ρ × Drive σ)) :
    Framed (s.run drives).1 (s'.run (drives.filter (!·.2.announces))).1 := by
  induction drives generalizing s s' with
  | nil => exact h
  | cons head drives ih =>
    obtain ⟨replies, drive⟩ := head
    rw [run_cons]
    by_cases hdrive : drive.announces = true
    · rw [List.filter_cons_of_neg (by simp [hdrive])]
      have hsame := framed_advance_of_announces hdrive s replies
      exact ih (trans_of Framed hsame.symm h)
    · rw [List.filter_cons_of_pos (by simp [hdrive]), run_cons]
      exact ih (h.advance replies (Bool.eq_false_iff.mpr hdrive))

variable [PassingTransport τ]

/-- **Sessions in which the same attributes arrived in different orders run in parallel.** Nothing
is known about their connections at that point. -/
theorem parallel_of_arrivals (transport : τ) (path : Option String) (address : String)
    (config : Setup) {xs ys : List (List ρ × Drive σ)}
    (hothers : xs.filter (!·.2.announces) = ys.filter (!·.2.announces))
    (hperm : (arrivals xs).Perm (arrivals ys)) (hdistinct : Ranges.Distinct (arrivals xs)) :
    Parallel False ((start transport path address config).run xs).1
      ((start transport path address config).run ys).1 := by
  -- Both runs are compared with the one in which nothing is announced.
  have hxs := Framed.run_filter (refl_of Framed (start transport path address config)) xs
  have hys := Framed.run_filter (refl_of Framed (start transport path address config)) ys
  rw [← hothers] at hys
  have hframed := trans_of Framed hxs hys.symm
  have hwaiters (drives : List (List ρ × Drive σ)) :
      ((start transport path address config).run drives).1.device.Waiters fun _ ↦ True := by
    have hattentive := (attentive_start transport path address config).run drives
    exact (hattentive.mono fun _ _ ↦ trivial).waiters
  refine ⟨hframed, ⟨hframed.address, ?_, ?_, hwaiters xs, hwaiters ys⟩, False.elim⟩
  · rw [announcements_run_of_distinct _ _ _ _ hdistinct,
      announcements_run_of_distinct _ _ _ _ (hdistinct.of_perm hperm)]
    exact hperm
  · rw [announcements_run_of_distinct _ _ _ _ hdistinct]
    exact hdistinct

omit [EvenTransport τ] in
theorem resolves_of_merged {drives : List (List ρ × Drive σ)} {changes : Changes}
    (hmerged : .merged changes ∈ history (s.run drives).2)
    (htruth : changes.truth? "ServicesResolved" = some true) :
    Resolves (history (s.run drives).2) := by
  obtain ⟨moves, hmoves, -⟩ := exists_moves_run s drives
  obtain ⟨before, after, hsplit⟩ := List.append_of_mem hmerged
  have hcourse : (s.device.replay moves).2 = before ++ .merged changes :: after := by
    rw [hmoves]
    exact hsplit
  have hnotified := (Device.notified_of_merged hcourse).2 htruth
  refine ⟨.servicesResolved, ?_⟩
  rw [hsplit]
  exact List.mem_append_right _ (List.mem_cons_of_mem _
    ((List.takeWhile_prefix _).subset hnotified))

/-- **The order in which attributes arrive does not matter.** Let two runs take the same steps, but
announce the same attributes in different orders and at different times, and let the handles of the
attributes be distinct. Let both go on with the same steps, in which the services are resolved. Then
both publish the same characteristics and know the same paths, and in any further step the same
calls start and the same calls end in the same way. The steps after the arrivals must not read by a
type of which the transport accepts one attribute and refuses another. -/
theorem arrival_order_does_not_matter (transport : τ) (path : Option String) (address : String)
    (config : Setup) (xs ys rest : List (List ρ × Drive σ))
    (hothers : xs.filter (!·.2.announces) = ys.filter (!·.2.announces))
    (hperm : (arrivals xs).Perm (arrivals ys)) (hdistinct : Ranges.Distinct (arrivals xs)) :
    let s := ((start transport path address config).run xs).1
    let s' := ((start transport path address config).run ys).1
    let t := (s.run rest).1
    let t' := (s'.run rest).1
    s.ReadsDefinitely rest →
    (∃ changes, .merged changes ∈ history (s.run rest).2 ∧
      changes.truth? "ServicesResolved" = some true) →
    t'.device.characteristics = t.device.characteristics ∧
    (∀ number, t'.device.attributes.pathOf? number = t.device.attributes.pathOf? number) ∧
    ∀ (replies : List ρ) (drive : Drive σ),
      drive.Definite τ t.device.attributes.announcements →
      let next := (t.advance replies drive).2
      let next' := (t'.advance replies drive).2
      (drive.startsCall = true → next'.outcome = next.outcome) ∧
        endings next'.happenings = endings next.happenings := by
  intro s s' t t' hdefinite hresolved
  obtain ⟨changes, hmerged, htruth⟩ := hresolved
  have hparallel := (parallel_of_arrivals transport path address config hothers hperm
    hdistinct).run hdefinite
  have hresolves : False ∨ Resolves (history (s.run rest).2) :=
    .inr (resolves_of_merged hmerged htruth)
  have houtlook := hparallel.companions.outlook hresolves
  refine ⟨congrArg Outlook.published houtlook, hparallel.companions.pathOf?_eq, ?_⟩
  intro replies drive hdrive next next'
  obtain ⟨-, hends⟩ := hparallel.advance replies hdrive
  refine ⟨fun hstarts ↦ ?_, hends hresolves⟩
  rw [(advance_of_startsCall t replies hstarts).1, (advance_of_startsCall t' replies hstarts).1,
    hparallel.framed.nextCall]

/-- Two characteristics arrive in either order, before or after a connection. -/
theorem two_arrivals_in_either_order :
    let first : List DirectReply × Drive Empty :=
      ([], .device (.announce "/dev/char0002" "2a00" ⟨0⟩))
    let second : List DirectReply × Drive Empty :=
      ([], .device (.announce "/dev/char0005" "2a01" ⟨0⟩))
    let connected : List DirectReply × Drive Empty :=
      ([], .device (.receive ⟨"/dev", [("Connected", .bool true)], []⟩))
    let resolved : List DirectReply × Drive Empty :=
      ([], .device (.receive ⟨"/dev", [("ServicesResolved", .bool true)], []⟩))
    let s := ((start (⟨[]⟩ : DirectSink) (some "/dev") "" (.standard 64)).run
      [first, connected, second]).1
    let s' := ((start (⟨[]⟩ : DirectSink) (some "/dev") "" (.standard 64)).run
      [second, first, connected]).1
    let t := (s.run [resolved]).1
    let t' := (s'.run [resolved]).1
    t'.device.characteristics = t.device.characteristics ∧
      t.device.characteristics.length = 2 ∧
      endings (t'.advance [] (.device (.discover 1 10))).2.happenings
        = endings (t.advance [] (.device (.discover 1 10))).2.happenings := by
  intro first second connected resolved s s' t t'
  let as : List Announcement := [
    ⟨"/dev/char0002", ⟨2, .characteristic⟩, ⟨0x2a0000001000800000805f9b34fb⟩, ⟨0⟩⟩,
    ⟨"/dev/char0005", ⟨5, .characteristic⟩, ⟨0x2a0100001000800000805f9b34fb⟩, ⟨0⟩⟩]
  have harrivals : arrivals [first, connected, second] = as := by decide +kernel
  have harrivals' : arrivals [second, first, connected] = as.reverse := by decide +kernel
  have hperm :
      (arrivals [first, connected, second]).Perm (arrivals [second, first, connected]) := by
    rw [harrivals, harrivals']
    exact as.reverse_perm.symm
  have hdistinct : Ranges.Distinct (arrivals [first, connected, second]) := by
    rw [harrivals]
    simp [Ranges.Distinct, as]
  have hmerged : .merged [("ServicesResolved", .bool true)] ∈ history (s.run [resolved]).2 := by
    unfold s first connected second resolved
    exact .head _
  obtain ⟨hpublished, -, hnext⟩ := arrival_order_does_not_matter (⟨[]⟩ : DirectSink) (some "/dev")
    "" (.standard 64) [first, connected, second] [second, first, connected] [resolved] rfl hperm
    hdistinct ⟨trivial, trivial⟩ ⟨_, hmerged, rfl⟩
  refine ⟨hpublished, ?_, (hnext [] (.device (.discover 1 10)) trivial).2⟩
  have hbuild : t.device.characteristics = Ranges.build as := by
    unfold t s first second connected resolved as
    rfl
  have hlength := (Ranges.map_unranged_build_perm as).length_eq
  rw [List.length_map, List.length_map] at hlength
  rw [hbuild, hlength]
  rfl

/-- If two attributes of one type are announced, of which one is on a path that is not valid, then
it matters which of them comes first. To read by the type is to call the one, and while the call
waits for its reply the connection is dropped; or to refuse the call on the path of the other, and
nothing happens. Later, a call to discover fails or succeeds. -/
theorem arrival_order_matters_to_refused_reads :
    let valid : List BusReply × Drive LinkStep :=
      ([], .device (.announce "/dev/char0002" "2a00" ⟨0⟩))
    let invalid : List BusReply × Drive LinkStep :=
      ([], .device (.announce "/dev/a b/char0003" "2a00" ⟨0⟩))
    let opening : List (List BusReply × Drive LinkStep) :=
      [([], .transport (.start true none)), ([], .device .listen)]
    let xs := opening ++ [valid, invalid]
    let ys := opening ++ [invalid, valid]
    let changes : Changes := [("Connected", .bool true), ("ServicesResolved", .bool true)]
    let resolved : List BusReply × Drive LinkStep :=
      ([], .transport (.message (BusLink.signalOf ⟨"/dev", changes, []⟩)))
    let dropped : BusReply :=
      ⟨[⟨"/dev", [("Connected", .bool false)], []⟩], .results [.bytes []]⟩
    let reading : List BusReply × Drive LinkStep :=
      ([dropped], .device (.readByType ⟨0, 10, 0, ⟨0⟩, ⟨0⟩⟩ "2a00"))
    let s := ((start (BusLink.initial (.int 30)) (some "/dev") "" (.standard 64)).run xs).1
    let s' := ((start (BusLink.initial (.int 30)) (some "/dev") "" (.standard 64)).run ys).1
    let discovering := fun s : Session BusLink ↦
      ((s.run [resolved, reading]).1.advance [] (.device (.discover 1 10))).2.happenings
    xs.filter (!·.2.announces) = ys.filter (!·.2.announces) ∧
      (arrivals xs).Perm (arrivals ys) ∧ Ranges.Distinct (arrivals xs) ∧
      (s.run [resolved]).1.device.state = .servicesResolved ∧
      (s'.run [resolved]).1.device.state = .servicesResolved ∧
      (endings (discovering s)).map (·.2.isOk) = [false] ∧
      (endings (discovering s')).map (·.2.isOk) = [true] := by
  intro valid invalid opening xs ys changes resolved dropped reading s s' discovering
  let as : List Announcement := [
    ⟨"/dev/char0002", ⟨2, .characteristic⟩, ⟨0x2a0000001000800000805f9b34fb⟩, ⟨0⟩⟩,
    ⟨"/dev/a b/char0003", ⟨3, .characteristic⟩, ⟨0x2a0000001000800000805f9b34fb⟩, ⟨0⟩⟩]
  have harrivals : arrivals xs = as := by decide +kernel
  have harrivals' : arrivals ys = as.reverse := by decide +kernel
  refine ⟨rfl, ?_, ?_, ?_, ?_, ?_, ?_⟩
  · rw [harrivals, harrivals']
    exact as.reverse_perm.symm
  · rw [harrivals]
    simp [Ranges.Distinct, as]
  · unfold s xs opening valid invalid resolved changes
    decide +kernel
  · unfold s' ys opening valid invalid resolved changes
    decide +kernel
  · unfold discovering s xs opening valid invalid resolved reading dropped changes
    decide +kernel
  · unfold discovering s' ys opening valid invalid resolved reading dropped changes
    decide +kernel

end Session

end GattPeer
