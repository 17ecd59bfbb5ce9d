import GattPeer.Session
import Mathlib.Order.Defs.Unbundled

/-!
# Actions that keep a relation

An action on a session takes it to another session, also if it fails. If a relation between sessions
is a preorder, an action that is composed of actions which keep the relation keeps it too; so a fact
about an operation follows from the same fact about the smallest actions that it consists of.
-/

namespace GattPeer

namespace Act

variable {τ α β : Type} {s : Session τ}

/-- The session that an action leaves, whether it fails or not. -/
def leaves (act : Act τ α) (s : Session τ) : Session τ :=
  match act s with
  | .ok _ s' => s'
  | .error _ s' => s'

def answers (act : Act τ α) (s : Session τ) : Except Failure α :=
  match act s with
  | .ok a _ => .ok a
  | .error failure _ => .error failure

/-- An action goes from a session only to sessions that are in a relation to it. -/
def Keeps (R : Session τ → Session τ → Prop) (act : Act τ α) (s : Session τ) : Prop :=
  R s (act.leaves s)

variable {R : Session τ → Session τ → Prop}

theorem attempt_eq (act : Act τ α) (s : Session τ) :
    act.attempt s = .ok (act.answers s) (act.leaves s) := by
  rw [attempt, answers, leaves]
  cases act s with
  | ok a s' => rfl
  | error failure s' => rfl

theorem bind_apply (x : Act τ α) (f : α → Act τ β) (s : Session τ) :
    (x >>= f) s = match x s with
      | .ok a s' => f a s'
      | .error failure s' => .error failure s' := by
  change EStateM.bind x f s = _
  rw [EStateM.bind]
  cases x s with
  | ok a s' => rfl
  | error failure s' => rfl

theorem bind_of_ok {x : Act τ α} {a : α} {s' : Session τ} (h : x s = .ok a s')
    (f : α → Act τ β) : (x >>= f) s = f a s' := by
  rw [bind_apply, h]

theorem bind_of_error {x : Act τ α} {failure : Failure} {s' : Session τ}
    (h : x s = .error failure s') (f : α → Act τ β) : (x >>= f) s = .error failure s' := by
  rw [bind_apply, h]

@[simp]
theorem get_bind_apply (f : Session τ → Act τ α) (s : Session τ) : (get >>= f) s = f s s := rfl

@[simp] theorem leaves_get_bind (f : Session τ → Act τ α) (s : Session τ) :
    (get >>= f).leaves s = (f s).leaves s := rfl

@[simp] theorem leaves_set_bind (s' : Session τ) (f : PUnit → Act τ α) (s : Session τ) :
    (set s' >>= f).leaves s = (f ⟨⟩).leaves s' := rfl

theorem leaves_return (x : Act τ α) (f : α → β) (s : Session τ) :
    (x >>= fun a ↦ pure (f a)).leaves s = x.leaves s := by
  rw [leaves, bind_apply, leaves]
  cases x s with
  | ok a s' => rfl
  | error failure s' => rfl

theorem answers_return (x : Act τ α) (f : α → β) (s : Session τ) :
    (x >>= fun a ↦ pure (f a)).answers s = f <$> x.answers s := by
  rw [answers, bind_apply, answers]
  cases x s with
  | ok a s' => rfl
  | error failure s' => rfl

theorem isOk_answers_return (x : Act τ α) (f : α → β) (s : Session τ) :
    ((x >>= fun a ↦ pure (f a)).answers s).isOk = (x.answers s).isOk := by
  rw [answers_return]
  cases x.answers s with
  | ok a => rfl
  | error failure => rfl

@[simp] theorem leaves_discard_ofExcept (e : Except Failure α) (s : Session τ) :
    (discard (ofExcept e)).leaves s = s := by
  cases e with
  | ok a => rfl
  | error failure => rfl

@[simp] theorem leaves_bind_ofExcept (x : Act τ α) (e : Except Failure β) (s : Session τ) :
    (x >>= fun _ ↦ ofExcept e).leaves s = x.leaves s := by
  rw [leaves, bind_apply, leaves]
  cases x s with
  | error failure s' => rfl
  | ok a s' =>
    cases e with
    | ok b => rfl
    | error failure => rfl

theorem Keeps.get_bind {f : Session τ → Act τ α} (h : Keeps R (f s) s) :
    Keeps R (get >>= f) s := h

theorem Keeps.set {s' : Session τ} (h : R s s') : Keeps R (set s') s := h

theorem Keeps.modify {f : Session τ → Session τ} (h : R s (f s)) : Keeps R (modify f) s := h

theorem Keeps.attempt {act : Act τ α} (h : Keeps R act s) : Keeps R act.attempt s := by
  have hleaves : act.attempt.leaves s = act.leaves s := by
    rw [leaves, attempt_eq]
  rw [Keeps, hleaves]
  exact h

theorem Keeps.ite {c : Prop} [Decidable c] {x y : Act τ α} (hx : Keeps R x s)
    (hy : Keeps R y s) : Keeps R (if c then x else y) s := by
  by_cases h : c
  · rwa [if_pos h]
  · rwa [if_neg h]

variable [IsPreorder (Session τ) R]

theorem Keeps.pure (a : α) : Keeps R (pure a) s := refl_of R s

theorem Keeps.throw (failure : Failure) : Keeps R (throw failure : Act τ α) s := refl_of R s

theorem Keeps.ofExcept (e : Except Failure α) : Keeps R (ofExcept e) s := by
  cases e with
  | ok a => exact .pure a
  | error failure => exact .throw failure

theorem leaves_bind {t : Session τ} {x : Act τ α} {f : α → Act τ β} (hx : R t (x.leaves s))
    (hf : ∀ a s', Keeps R (f a) s') : R t ((x >>= f).leaves s) := by
  rw [leaves, bind_apply]
  rw [leaves] at hx
  cases hresult : x s with
  | ok a s' =>
    rw [hresult] at hx
    exact trans_of R hx (hf a s')
  | error failure s' =>
    rw [hresult] at hx
    exact hx

theorem Keeps.bind {x : Act τ α} {f : α → Act τ β} (hx : Keeps R x s)
    (hf : ∀ a s', Keeps R (f a) s') : Keeps R (x >>= f) s := leaves_bind hx hf

theorem Keeps.throw_bind (failure : Failure) (f : α → Act τ β) :
    Keeps R (MonadExcept.throw failure >>= f) s := refl_of R s

theorem Keeps.discard {x : Act τ α} (hx : Keeps R x s) : Keeps R (discard x) s :=
  .bind hx fun _ _ ↦ .pure _

theorem Keeps.forM {xs : List α} {f : α → Act τ PUnit} (hf : ∀ a s', Keeps R (f a) s') :
    Keeps R (xs.forM f) s := by
  induction xs generalizing s with
  | nil => exact .pure _
  | cons x xs ih => exact .bind (hf x s) fun _ _ ↦ ih

/-! ## What an action gives -/

/-- Whatever an action gives has a property. -/
def Gives (P : α → Prop) (act : Act τ α) : Prop :=
  ∀ s a, act.answers s = .ok a → P a

omit [IsPreorder (Session τ) R]

variable {P : α → Prop}

theorem Gives.pure {a : α} (h : P a) : Gives P (pure a : Act τ α) := by
  intro s b hb
  rwa [← Except.ok.inj hb]

theorem Gives.throw (failure : Failure) : Gives P (throw failure : Act τ α) := by
  intro s a ha
  exact nomatch ha

theorem Gives.map_ofExcept {f : β → α} {e : Except Failure β} (h : ∀ b, e = .ok b → P (f b)) :
    Gives P (f <$> ofExcept e : Act τ α) := by
  intro s a ha
  cases e with
  | ok b =>
    rw [← Except.ok.inj ha]
    exact h b rfl
  | error failure => exact nomatch ha

theorem Gives.bind {x : Act τ β} {f : β → Act τ α} (hf : ∀ b, Gives P (f b)) :
    Gives P (x >>= f) := by
  intro s a ha
  rw [answers, bind_apply] at ha
  cases hresult : x s with
  | ok b s' =>
    rw [hresult] at ha
    exact hf b s' a ha
  | error failure s' =>
    rw [hresult] at ha
    exact nomatch ha

theorem Gives.ite {c : Prop} [Decidable c] {x y : Act τ α} (hx : Gives P x) (hy : Gives P y) :
    Gives P (if c then x else y) := by
  by_cases h : c
  · rwa [if_pos h]
  · rwa [if_neg h]

end Act

end GattPeer
