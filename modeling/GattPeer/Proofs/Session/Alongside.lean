import GattPeer.Proofs.Session.Keeps

/-!
# Actions side by side

Two actions, each carried out in a session of its own, are side by side with respect to a relation
if they answer the same and leave sessions in the relation. The rules follow an operation down to
its smallest actions, in both sessions at once; the two may differ, as long as each answers what the
other does. The sessions may even be over different transports.
-/

namespace GattPeer.Act

variable {τ τ' α β : Type} {R : Session τ → Session τ' → Prop} {s : Session τ} {s' : Session τ'}
  {x : Act τ α} {y : Act τ' α} {f : α → Act τ β} {g : α → Act τ' β}

theorem answers_bind (x : Act τ α) (f : α → Act τ β) (s : Session τ) :
    (x >>= f).answers s = match x.answers s with
      | .ok a => (f a).answers (x.leaves s)
      | .error failure => .error failure := by
  rw [answers, bind_apply, answers, leaves]
  cases x s with
  | ok a t => rfl
  | error failure t => rfl

theorem leaves_bind_eq (x : Act τ α) (f : α → Act τ β) (s : Session τ) :
    (x >>= f).leaves s = match x.answers s with
      | .ok a => (f a).leaves (x.leaves s)
      | .error _ => x.leaves s := by
  rw [leaves, bind_apply, answers, leaves]
  cases x s with
  | ok a t => rfl
  | error failure t => rfl

/-- Two actions answer the same and leave sessions in a relation. -/
structure Alongside (R : Session τ → Session τ' → Prop) (x : Act τ α) (y : Act τ' α)
    (s : Session τ) (s' : Session τ') : Prop where
  answers : y.answers s' = x.answers s
  leaves : R (x.leaves s) (y.leaves s')

namespace Alongside

theorem of_ok {a : α} {t : Session τ} {t' : Session τ'} (hx : x s = .ok a t) (hy : y s' = .ok a t')
    (h : R t t') : Alongside R x y s s' := by
  constructor
  · rw [Act.answers, Act.answers, hx, hy]
  · rwa [Act.leaves, Act.leaves, hx, hy]

theorem of_error {failure : Failure} {t : Session τ} {t' : Session τ'} (hx : x s = .error failure t)
    (hy : y s' = .error failure t') (h : R t t') : Alongside R x y s s' := by
  constructor
  · rw [Act.answers, Act.answers, hx, hy]
  · rwa [Act.leaves, Act.leaves, hx, hy]

theorem pure (h : R s s') (a : α) : Alongside R (pure a) (pure a) s s' := ⟨rfl, h⟩

theorem throw (h : R s s') (failure : Failure) :
    Alongside R (throw failure : Act τ α) (MonadExcept.throw failure : Act τ' α) s s' :=
  ⟨rfl, h⟩

theorem throw_bind (h : R s s') (failure : Failure) :
    Alongside R (MonadExcept.throw failure >>= f) (MonadExcept.throw failure >>= g) s s' :=
  ⟨rfl, h⟩

theorem ofExcept (h : R s s') (e : Except Failure α) :
    Alongside R (ofExcept e) (Act.ofExcept e) s s' := by
  cases e with
  | ok a => exact .pure h a
  | error failure => exact .throw h failure

/-- The rest of an action is looked at only if the first part answers, and after what it left. -/
theorem bind_of (hx : Alongside R x y s s')
    (hf : ∀ a, x.answers s = .ok a → Alongside R (f a) (g a) (x.leaves s) (y.leaves s')) :
    Alongside R (x >>= f) (y >>= g) s s' := by
  obtain ⟨hanswers, hleaves⟩ := hx
  cases hanswer : x.answers s with
  | ok a =>
    have hnext := hf a hanswer
    constructor
    · rw [answers_bind, answers_bind, hanswers, hanswer]
      exact hnext.answers
    · rw [leaves_bind_eq, leaves_bind_eq, hanswers, hanswer]
      exact hnext.leaves
  | error failure =>
    -- The rest is not reached on either side.
    constructor
    · rw [answers_bind, answers_bind, hanswers, hanswer]
    · rw [leaves_bind_eq, leaves_bind_eq, hanswers, hanswer]
      exact hleaves

theorem bind (hx : Alongside R x y s s')
    (hf : ∀ a t t', R t t' → Alongside R (f a) (g a) t t') :
    Alongside R (x >>= f) (y >>= g) s s' :=
  bind_of hx fun a _ ↦ hf a _ _ hx.leaves

theorem get_bind {f : Session τ → Act τ α} {g : Session τ' → Act τ' α}
    (h : Alongside R (f s) (g s') s s') :
    Alongside R (get >>= f) (get >>= g) s s' :=
  ⟨h.answers, h.leaves⟩

theorem modify {f : Session τ → Session τ} {g : Session τ' → Session τ'} (h : R (f s) (g s')) :
    Alongside R (modify f) (modify g) s s' :=
  ⟨rfl, h⟩

theorem discard (hx : Alongside R x y s s') :
    Alongside R (discard x) (Functor.discard y) s s' :=
  bind hx fun _ _ _ h ↦ .pure h _

theorem attempt (hx : Alongside R x y s s') : Alongside R x.attempt y.attempt s s' := by
  constructor
  · rw [Act.answers, Act.answers, attempt_eq, attempt_eq]
    exact congrArg Except.ok hx.answers
  · rw [Act.leaves, Act.leaves, attempt_eq, attempt_eq]
    exact hx.leaves

theorem ite {c : Prop} [Decidable c] {x' : Act τ α} {y' : Act τ' α}
    (hx : Alongside R x y s s') (hy : Alongside R x' y' s s') :
    Alongside R (if c then x else x') (if c then y else y') s s' := by
  by_cases h : c
  · rwa [if_pos h, if_pos h]
  · rwa [if_neg h, if_neg h]

/-- A loop over items, of which the other one leaves out some and changes the rest. What is left out
answers nothing and changes nothing that counts. -/
theorem forM_filter {items : List α} {p : α → Bool} {change : α → β} {f : α → Act τ PUnit}
    {g : β → Act τ' PUnit} (h : R s s')
    (hkept : ∀ a ∈ items, p a = true → ∀ t t', R t t' → Alongside R (f a) (g (change a)) t t')
    (hleft : ∀ a ∈ items, p a = false → ∀ t t', R t t' →
      Alongside R (f a) (Pure.pure ⟨⟩) t t') :
    Alongside R (items.forM f) (((items.filter p).map change).forM g) s s' := by
  induction items generalizing s s' with
  | nil => exact .pure h _
  | cons item items ih =>
    have hrest {t : Session τ} {t' : Session τ'} (h : R t t') := ih h
      (fun a ha ↦ hkept a (List.mem_cons_of_mem _ ha))
      (fun a ha ↦ hleft a (List.mem_cons_of_mem _ ha))
    cases hp : p item with
    | true =>
      rw [List.filter_cons_of_pos hp]
      exact bind (hkept item List.mem_cons_self hp s s' h) fun _ _ _ h ↦ hrest h
    | false =>
      rw [List.filter_cons_of_neg (Bool.eq_false_iff.mp hp)]
      -- The other loop stays where it is while this one takes a step, so no `bind` fits.
      obtain ⟨hanswers, hleaves⟩ := hleft item List.mem_cons_self hp s s' h
      have hskip : (List.forM (item :: items) f : Act τ PUnit)
          = f item >>= fun _ ↦ items.forM f := rfl
      obtain ⟨hanswers', hleaves'⟩ := hrest hleaves
      constructor
      · rw [hskip, answers_bind, ← hanswers]
        exact hanswers'
      · rw [hskip, leaves_bind_eq, ← hanswers]
        exact hleaves'

theorem forM {items : List α} {f : α → Act τ PUnit} {g : α → Act τ' PUnit} (h : R s s')
    (hf : ∀ a t t', R t t' → Alongside R (f a) (g a) t t') :
    Alongside R (items.forM f) (items.forM g) s s' := by
  induction items generalizing s s' with
  | nil => exact .pure h _
  | cons item items ih => exact bind (hf item s s' h) fun _ _ _ h ↦ ih h

end Alongside

end GattPeer.Act
