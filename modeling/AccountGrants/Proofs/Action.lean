import AccountGrants.Session

/-!
Actions as functions of the exchange they are carried out in. `Action.Moves` says what an action
does to every exchange, and `Action.Agrees` what two exchanges that agree have in common after an
action. Both pass from the calls to a server to every request.
-/

namespace AccountGrants

variable {α β : Type}

namespace Action

/-- What an action yields in an exchange, and the exchange it leaves. -/
def on (m : Action α) (x : Exchange) : Except Failure α × Exchange :=
  m.run.run x

@[simp] theorem on_pure (a : α) (x : Exchange) : on (pure a) x = (.ok a, x) := rfl

@[simp] theorem on_throw (f : Failure) (x : Exchange) :
    on (throw f : Action α) x = (.error f, x) := rfl

@[simp] theorem on_modify (f : Exchange → Exchange) (x : Exchange) :
    on (modify f) x = (.ok ⟨⟩, f x) := rfl

@[simp] theorem on_modifyGet (f : Exchange → α × Exchange) (x : Exchange) :
    on (modifyGet f) x = (.ok (f x).1, (f x).2) := rfl

theorem on_bind (m : Action α) (f : α → Action β) (x : Exchange) :
    on (m >>= f) x = match m.on x with
      | (.ok a, y) => (f a).on y
      | (.error e, y) => (.error e, y) := by
  unfold on
  simp only [ExceptT.run_bind, StateT.run_bind]
  cases h : StateT.run (ExceptT.run m) x with
  | mk result y => cases result <;> rfl

theorem on_map (f : α → β) (m : Action α) (x : Exchange) :
    on (f <$> m) x = ((m.on x).1.map f, (m.on x).2) := by
  rw [map_eq_pure_bind, on_bind]
  rcases m.on x with ⟨_ | _, y⟩ <;> rfl

/-- An action changes every exchange along `S`. -/
def Moves (S : Exchange → Exchange → Prop) (m : Action α) : Prop :=
  ∀ x, S x (m.on x).2

/-- In exchanges that `R` relates an action yields the same, and `R` relates what it leaves. -/
def Agrees (R : Exchange → Exchange → Prop) (m : Action α) : Prop :=
  ∀ x y, R x y → (m.on x).1 = (m.on y).1 ∧ R (m.on x).2 (m.on y).2

theorem Moves.bind {S : Exchange → Exchange → Prop} (trans : ∀ x y z, S x y → S y z → S x z)
    {m : Action α} {f : α → Action β} (hm : m.Moves S) (hf : ∀ a, (f a).Moves S) :
    (m >>= f).Moves S := by
  intro x
  have hx := hm x
  rw [on_bind]
  rcases h : m.on x with ⟨e | a, y⟩
  · simpa [h] using hx
  · rw [h] at hx
    exact trans x y _ hx (hf a y)

theorem Agrees.pure {R : Exchange → Exchange → Prop} (a : α) : (pure a : Action α).Agrees R :=
  fun _ _ h => ⟨rfl, h⟩

theorem Agrees.throw {R : Exchange → Exchange → Prop} (f : Failure) :
    (throw f : Action α).Agrees R :=
  fun _ _ h => ⟨rfl, h⟩

theorem Agrees.bind {R : Exchange → Exchange → Prop} {m : Action α} {f : α → Action β}
    (hm : m.Agrees R) (hf : ∀ a, (f a).Agrees R) : (m >>= f).Agrees R := by
  intro x y h
  obtain ⟨hresult, hleft⟩ := hm x y h
  rw [on_bind, on_bind]
  rcases hx : m.on x with ⟨e | a, x'⟩ <;> rcases hy : m.on y with ⟨e' | a', y'⟩ <;>
    simp only [hx, hy] at hresult hleft
  · cases Except.error.inj hresult
    exact ⟨rfl, hleft⟩
  · cases hresult
  · cases hresult
  · cases Except.ok.inj hresult
    exact hf a x' y' hleft

end Action

end AccountGrants
