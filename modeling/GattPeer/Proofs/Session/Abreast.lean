import GattPeer.Proofs.Session.Alongside
import GattPeer.Proofs.Session.Moves

/-!
# Sessions abreast

Two sessions over transports of one kind are abreast if they agree on everything but what their
devices know. What a transport does depends on nothing else; so if the same operation is carried out
in both, the transports answer the same, both devices are given the same batches, and the sessions
are abreast again. What the devices make of the batches is a matter of its own.

The rules follow the operations down to the smallest actions, side by side: two actions are
compared that may differ in what they report and send, but in nothing that is answered.
-/

namespace GattPeer

namespace Session

variable {τ : Type} {s s' t t' u u' : Session τ}

/-- Two sessions agree on everything but what their devices know. -/
structure Abreast (s s' : Session τ) : Prop where
  config : s'.config = s.config
  token : s'.token = s.token
  nextCall : s'.nextCall = s.nextCall
  transport : s'.transport = s.transport
  path : s'.device.path = s.device.path
  address : s'.device.address = s.device.address

/-- From two sessions to two others, which are abreast, both devices merge the same batches. -/
structure Marches (s s' t t' : Session τ) : Prop where
  abreast : Abreast t t'
  merged : ∃ batches : List Changes,
    s.Goes (batches.map .update) t ∧ s'.Goes (batches.map .update) t'

theorem Abreast.refl (s : Session τ) : Abreast s s := ⟨rfl, rfl, rfl, rfl, rfl, rfl⟩

theorem Abreast.requesting (h : Abreast s s') : Abreast s.requesting s'.requesting :=
  ⟨h.config, h.token, congrArg (· + 1) h.nextCall, h.transport, h.path, h.address⟩

theorem Marches.refl (h : Abreast s s') : Marches s s' s s' :=
  ⟨h, [], .nil rfl rfl rfl, .nil rfl rfl rfl⟩

theorem Marches.trans (h : Marches s s' t t') (h' : Marches t t' u u') : Marches s s' u u' := by
  obtain ⟨-, xs, hxs, hxs'⟩ := h
  obtain ⟨habreast, ys, hys, hys'⟩ := h'
  refine ⟨habreast, xs ++ ys, ?_, ?_⟩
  · rw [List.map_append]
    exact hxs.append hys
  · rw [List.map_append]
    exact hxs'.append hys'

theorem Marches.of_eq (h : Abreast t t') (hconfig : t.config = s.config)
    (hdevice : t.device = s.device) (hhappenings : t.happenings = s.happenings)
    (hconfig' : t'.config = s'.config) (hdevice' : t'.device = s'.device)
    (hhappenings' : t'.happenings = s'.happenings) : Marches s s' t t' :=
  ⟨h, [], .nil hconfig hdevice hhappenings, .nil hconfig' hdevice' hhappenings'⟩

end Session

/-! ## Actions side by side -/

namespace Act

open Session

variable {τ α β : Type} {s s' : Session τ} {x y : Act τ α} {f g : α → Act τ β}

/-- Two actions answer the same, and both devices are given the same batches by them. -/
structure Together (x y : Act τ α) (s s' : Session τ) : Prop where
  answers : y.answers s' = x.answers s
  marches : Marches s s' (x.leaves s) (y.leaves s')

namespace Together

theorem alongside (h : Together x y s s') : Alongside (Marches s s') x y s s' :=
  ⟨h.answers, h.marches⟩

theorem of_alongside (h : Alongside (Marches s s') x y s s') : Together x y s s' :=
  ⟨h.answers, h.leaves⟩

theorem after {t t' : Session τ} (h : Together x y t t') (hmarches : Marches s s' t t') :
    Alongside (Marches s s') x y t t' :=
  ⟨h.answers, hmarches.trans h.marches⟩

theorem pure (h : Abreast s s') (a : α) : Together (pure a) (pure a) s s' :=
  of_alongside (.pure (.refl h) a)

theorem throw (h : Abreast s s') (failure : Failure) :
    Together (throw failure : Act τ α) (MonadExcept.throw failure) s s' :=
  of_alongside (.throw (.refl h) failure)

theorem ofExcept (h : Abreast s s') (e : Except Failure α) :
    Together (ofExcept e) (Act.ofExcept e) s s' :=
  of_alongside (.ofExcept (.refl h) e)

theorem bind (hx : Together x y s s')
    (hf : ∀ a t t', Marches s s' t t' → Together (f a) (g a) t t') :
    Together (x >>= f) (y >>= g) s s' :=
  of_alongside (hx.alongside.bind fun a t t' h ↦ (hf a t t' h).after h)

theorem throw_bind (h : Abreast s s') (failure : Failure) :
    Together (MonadExcept.throw failure >>= f) (MonadExcept.throw failure >>= g) s s' :=
  of_alongside (.throw_bind (.refl h) failure)

theorem get_bind {f g : Session τ → Act τ α} (h : Together (f s) (g s') s s') :
    Together (get >>= f) (get >>= g) s s' :=
  of_alongside (.get_bind h.alongside)

theorem set {t t' : Session τ} (h : Marches s s' t t') : Together (set t) (set t') s s' :=
  ⟨rfl, h⟩

theorem modify {f g : Session τ → Session τ} (h : Marches s s' (f s) (g s')) :
    Together (modify f) (modify g) s s' :=
  of_alongside (.modify h)

theorem discard (hx : Together x y s s') : Together (discard x) (Functor.discard y) s s' :=
  of_alongside hx.alongside.discard

theorem attempt (hx : Together x y s s') : Together x.attempt y.attempt s s' :=
  of_alongside hx.alongside.attempt

theorem ite {c : Prop} [Decidable c] {x' y' : Act τ α} (hx : Together x x' s s')
    (hy : Together y y' s s') : Together (if c then x else y) (if c then x' else y') s s' :=
  of_alongside (.ite hx.alongside hy.alongside)

theorem forM {items : List α} {f : α → Act τ PUnit} (h : Abreast s s')
    (hf : ∀ a t t', Abreast t t' → Together (f a) (f a) t t') :
    Together (items.forM f) (items.forM f) s s' :=
  of_alongside (.forM (.refl h) fun a t t' h ↦ (hf a t t' h.abreast).after h)

theorem record {e e' : Event} (he : e.happening? = none) (he' : e'.happening? = none)
    (h : Abreast s s') : Together (record e) (Act.record e') s s' := by
  have hquiet {s : Session τ} {e : Event} (he : e.happening? = none) :
      ((Act.record e).leaves s).happenings = s.happenings := by
    change (s.trace ++ [e]).filterMap Event.happening? = _
    rw [List.filterMap_append, List.filterMap_cons, he, List.filterMap_nil, List.append_nil]
    rfl
  refine ⟨rfl, .of_eq ?_ rfl rfl (hquiet he) rfl rfl (hquiet he')⟩
  exact ⟨h.config, h.token, h.nextCall, h.transport, h.path, h.address⟩

theorem report (n n' : Notice) (h : Abreast s s') : Together (report n) (Act.report n') s s' :=
  record rfl rfl h

end Together

end Act

namespace Session

open Act (Together)

variable {τ ρ σ : Type} {s s' : Session τ}

/-! ## Deliveries -/

/-- A batch that both devices receive, and that both merge, or neither. -/
theorem together_deliver_of_replay {author : Author} {batch : Batch} {d d' : Device}
    {effects effects' : Effects} (h : Abreast s s') (batches : List Changes)
    (hreceive : s.device.receive batch = .ok (d, effects))
    (hreceive' : s'.device.receive batch = .ok (d', effects'))
    (hreplay : s.device.replay (batches.map .update) = (d, effects.course))
    (hreplay' : s'.device.replay (batches.map .update) = (d', effects'.course)) :
    Together (.deliver author batch) (.deliver author batch) s s' := by
  have hpath : d'.path = d.path := by
    have hd := s.device.path_replay (batches.map .update)
    have hd' := s'.device.path_replay (batches.map .update)
    rw [hreplay] at hd
    rw [hreplay'] at hd'
    exact hd'.trans (h.path.trans hd.symm)
  have haddress : d'.address = d.address := by
    have hd := s.device.address_replay (batches.map .update)
    have hd' := s'.device.address_replay (batches.map .update)
    rw [hreplay] at hd
    rw [hreplay'] at hd'
    exact hd'.trans (h.address.trans hd.symm)
  constructor
  · rw [Act.answers, Act.answers, deliver_apply, deliver_apply, hreceive, hreceive']
  · rw [leaves_deliver hreceive, leaves_deliver hreceive']
    refine ⟨⟨h.config, h.token, h.nextCall, h.transport, hpath, haddress⟩, batches, ?_, ?_⟩
    · refine ⟨rfl, by rw [hreplay]; rfl, ?_⟩
      rw [happenings_changing, hreplay]
    · refine ⟨rfl, by rw [hreplay']; rfl, ?_⟩
      rw [happenings_changing, hreplay']

/-- **A batch is delivered on both sides.** It is about the same on both, since the devices have the
same path. -/
theorem together_deliver (author : Author) (batch : Batch) (h : Abreast s s') :
    Together (.deliver author batch) (.deliver author batch) s s' := by
  have hsame := congrFun (Device.subject_eq_of_path h.path) batch.path
  rcases hsubject : s.device.subject batch.path
  · have hreceive (d : Device) (hd : d.subject batch.path = .foreign) :
        d.receive batch = .ok (d, ⟨[.foreignBatch d.address batch.path d.path], []⟩) := by
      rw [Device.receive, hd]
    exact together_deliver_of_replay h [] (hreceive _ hsubject)
      (hreceive _ (hsame.trans hsubject)) rfl rfl
  · have hreceive (d : Device) (hd : d.subject batch.path = .attribute) :
        d.receive batch = (Value.sortKeys (batch.changes.map (·.1))).map fun names ↦
          (d, ⟨[.attributeBatch d.address batch.path names], []⟩) := by
      rw [Device.receive, hd]
    have hs := hreceive _ hsubject
    have hs' := hreceive _ (hsame.trans hsubject)
    cases hnames : Value.sortKeys (batch.changes.map (·.1)) with
    | ok names =>
      rw [hnames] at hs hs'
      exact together_deliver_of_replay h [] hs hs' rfl rfl
    | error failure =>
      rw [hnames] at hs hs'
      constructor
      · rw [Act.answers, Act.answers, deliver_apply, deliver_apply, hs, hs']
        rfl
      · rw [leaves_deliver_of_error hs, leaves_deliver_of_error hs']
        exact .refl h
  · have hreceive (d : Device) (hd : d.subject batch.path = .device) :
        d.receive batch = .ok ((d.update batch.changes).1, ⟨(d.update batch.changes).2.notices ++
          (if batch.invalidated.isEmpty then [] else [.invalidated d.address batch.invalidated]),
          (d.update batch.changes).2.course⟩) := by
      rw [Device.receive, hd]
    exact together_deliver_of_replay h [batch.changes] (hreceive _ hsubject)
      (hreceive _ (hsame.trans hsubject)) (Device.replay_singleton ..)
      (Device.replay_singleton ..)

/-! ## Frames -/

/-- From one session to another, of which only the device, the trace and the script of the replies
may differ; and the device has its path and its address. -/
structure Framed [Transport τ ρ] (s t : Session τ) : Prop where
  config : t.config = s.config
  token : t.token = s.token
  nextCall : t.nextCall = s.nextCall
  load : ∀ replies : List ρ, Transport.load replies t.transport = Transport.load replies s.transport
  path : t.device.path = s.device.path
  address : t.device.address = s.device.address

instance [Transport τ ρ] : IsPreorder (Session τ) Framed where
  refl s := ⟨rfl, rfl, rfl, fun _ ↦ rfl, rfl, rfl⟩
  trans := by
    intro s t u h h'
    exact ⟨h'.config.trans h.config, h'.token.trans h.token, h'.nextCall.trans h.nextCall,
      fun replies ↦ (h'.load replies).trans (h.load replies), h'.path.trans h.path,
      h'.address.trans h.address⟩

/-- From one session to another in which the caller only made notices. -/
def Notes (s t : Session τ) : Prop :=
  ∃ notices : List Notice, t = { s with trace := s.trace ++ notices.map (Event.notice .caller) }

instance : IsPreorder (Session τ) Notes where
  refl s := ⟨[], by rw [List.map_nil, List.append_nil]⟩
  trans := by
    rintro s t u ⟨xs, rfl⟩ ⟨ys, rfl⟩
    exact ⟨xs ++ ys, by rw [List.map_append, List.append_assoc]⟩

theorem notes_report (n : Notice) : (Act.report n).Keeps Notes s := .modify ⟨[n], rfl⟩

theorem Marches.of_notes {t t' : Session τ} (h : Abreast s s') (ht : s.Notes t)
    (ht' : s'.Notes t') : Marches s s' t t' := by
  have hquiet (s : Session τ) (notices : List Notice) :
      happenings { s with trace := s.trace ++ notices.map (Event.notice .caller) }
        = s.happenings := by
    rw [happenings, List.filterMap_append, filterMap_happening?_notices, List.append_nil]
    rfl
  obtain ⟨xs, rfl⟩ := ht
  obtain ⟨ys, rfl⟩ := ht'
  refine .of_eq ?_ rfl rfl (hquiet s xs) rfl rfl (hquiet s' ys)
  exact ⟨h.config, h.token, h.nextCall, h.transport, h.path, h.address⟩

section

variable [Transport τ ρ]

theorem Framed.symm (h : Framed s s') : Framed s' s :=
  ⟨h.config.symm, h.token.symm, h.nextCall.symm, fun replies ↦ (h.load replies).symm, h.path.symm,
    h.address.symm⟩

theorem Abreast.framed (h : Abreast s s') : Framed s s' :=
  ⟨h.config, h.token, h.nextCall, fun replies ↦ congrArg (Transport.load replies) h.transport,
    h.path, h.address⟩

theorem framed_record (e : Event) : (Act.record e).Keeps Framed s :=
  .modify ⟨rfl, rfl, rfl, fun _ ↦ rfl, rfl, rfl⟩

theorem framed_deliver (author : Author) (batch : Batch) :
    (Act.deliver author batch).Keeps Framed s := by
  rw [Act.Keeps]
  cases hreceive : s.device.receive batch with
  | error failure =>
    rw [leaves_deliver_of_error hreceive]
    exact refl_of Framed s
  | ok result =>
    rw [leaves_deliver hreceive]
    rcases Device.receive_eq_ok hreceive with ⟨-, hdevice, -⟩ | ⟨-, hdevice, -⟩
    · refine ⟨rfl, rfl, rfl, fun _ ↦ rfl, ?_, ?_⟩
      · exact (congrArg Device.path hdevice).trans (Device.path_update ..)
      · exact (congrArg Device.address hdevice).trans (Device.address_update ..)
    · exact ⟨rfl, rfl, rfl, fun _ ↦ rfl, congrArg Device.path hdevice,
        congrArg Device.address hdevice⟩

theorem framed_announce (path uuid : String) (flags : PropertyFlags) (s : Session τ) :
    Framed s ((announce path uuid flags).leaves s) := by
  rw [leaves_announce]
  rcases Device.announce_cases s.device path uuid flags with ⟨a, hdevice, -⟩ | ⟨_, hdevice, -⟩
  · rw [hdevice]
    exact ⟨rfl, rfl, rfl, fun _ ↦ rfl, rfl, rfl⟩
  · rw [hdevice]
    exact ⟨rfl, rfl, rfl, fun _ ↦ rfl, rfl, rfl⟩

end

end Session

end GattPeer
