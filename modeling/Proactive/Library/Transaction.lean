import Mathlib.Data.List.Basic

/-! Statement sequences over one mutable store, and transactions around them.
A sequence that fails still leaves the writes it made before the failure;
only `immediate` takes them back. -/
namespace Proactive.Library

def Statement (σ ε α : Type) : Type := σ → Except ε α × σ

namespace Statement
variable {σ ε α β : Type}

def run (body : Statement σ ε α) (store : σ) : Except ε α × σ := body store

instance : Monad (Statement σ ε) where
  pure value := fun store => (.ok value,store)
  bind body next := fun store =>
    match body store with
    | (.ok value,left) => next value left
    | (.error error,left) => (.error error,left)

def raise (error : ε) : Statement σ ε α := fun store => (.error error,store)

def select (query : σ → α) : Statement σ ε α := fun store => (.ok (query store),store)

def update (change : σ → σ) : Statement σ ε Unit := fun store => (.ok (),change store)

/-- Run the body and hand its outcome on as a value: the caller of a `try`. -/
def attempt {ε' : Type} (body : Statement σ ε α) : Statement σ ε' (Except ε α) := fun store =>
  (.ok (body store).1,(body store).2)

/-- Run the body and commit its store, or restore the initial store when it fails. -/
def immediate (body : Statement σ ε α) : Statement σ ε α := fun store =>
  match body store with
  | (.ok value,left) => (.ok value,left)
  | (.error error,_) => (.error error,store)

@[simp] theorem run_pure (value : α) (store : σ) :
    (pure value : Statement σ ε α).run store = (.ok value,store) := rfl

@[simp] theorem run_raise (error : ε) (store : σ) :
    (raise error : Statement σ ε α).run store = (.error error,store) := rfl

@[simp] theorem run_select (query : σ → α) (store : σ) :
    (select query : Statement σ ε α).run store = (.ok (query store),store) := rfl

@[simp] theorem run_update (change : σ → σ) (store : σ) :
    (update change : Statement σ ε Unit).run store = (.ok (),change store) := rfl

theorem run_bind (body : Statement σ ε α) (next : α → Statement σ ε β) (store : σ) :
    (body >>= next).run store =
      match body.run store with
      | (.ok value,left) => (next value).run left
      | (.error error,left) => (.error error,left) := rfl

theorem run_immediate (body : Statement σ ε α) (store : σ) :
    (immediate body).run store =
      match body.run store with
      | (.ok value,left) => (.ok value,left)
      | (.error error,_) => (.error error,store) := rfl

theorem run_bind_ok (body : Statement σ ε α) (next : α → Statement σ ε β) (store left : σ)
    (value : α) (ok : body.run store = (.ok value,left)) :
    (body >>= next).run store = (next value).run left := by
  rw [run_bind,ok]

@[simp] theorem run_select_bind (query : σ → α) (next : α → Statement σ ε β) (store : σ) :
    (select query >>= next).run store = (next (query store)).run store := rfl

@[simp] theorem run_update_bind (change : σ → σ) (next : Unit → Statement σ ε β) (store : σ) :
    (update change >>= next).run store = (next ()).run (change store) := rfl

@[simp] theorem run_attempt_bind {ε' : Type} (body : Statement σ ε α)
    (next : Except ε α → Statement σ ε' β) (store : σ) :
    (attempt body >>= next).run store = (next (body.run store).1).run (body.run store).2 := rfl

@[simp] theorem run_pure_bind (value : α) (next : α → Statement σ ε β) (store : σ) :
    ((pure value : Statement σ ε α) >>= next).run store = (next value).run store := rfl

theorem pure_success (value result : α) (store left : σ)
    (ok : (pure value : Statement σ ε α).run store = (.ok result,left)) :
    value = result ∧ store = left := by
  simpa using ok

theorem bind_success (body : Statement σ ε α) (next : α → Statement σ ε β) (store left : σ)
    (result : β) (ok : (body >>= next).run store = (.ok result,left)) :
    ∃ value middle, body.run store = (.ok value,middle) ∧
      (next value).run middle = (.ok result,left) := by
  rw [run_bind] at ok
  cases first : body.run store with
  | mk outcome middle =>
    cases outcome with
    | error error => simp [first] at ok
    | ok value => exact ⟨value,middle,rfl,by simpa [first] using ok⟩

/-- What an evaluation of the outcome shows: a value, and what holds of it. -/
theorem run_ok_of_any {body : Statement σ ε α} {store : σ} {holds : α → Bool}
    (answered : (body.run store).1.toOption.any holds = true) :
    ∃ value left, body.run store = (.ok value,left) ∧ holds value = true := by
  cases ran : body.run store with
  | mk outcome left =>
    rw [ran] at answered
    cases outcome with
    | error error => cases answered
    | ok value => exact ⟨value,left,rfl,answered⟩

theorem immediate_success (body : Statement σ ε α) (store left : σ) (value : α) :
    (immediate body).run store = (.ok value,left) ↔ body.run store = (.ok value,left) := by
  cases first : body.run store with
  | mk outcome middle =>
    have unfolded : body store = (outcome,middle) := first
    cases outcome <;> simp [run,immediate,unfolded]

theorem immediate_rollback (body : Statement σ ε α) (store left : σ) (error : ε)
    (failed : (immediate body).run store = (.error error,left)) : left = store := by
  cases first : body.run store with
  | mk outcome middle =>
    have unfolded : body store = (outcome,middle) := first
    cases outcome <;> simp [run,immediate,unfolded] at failed
    exact failed.2.symm

theorem immediate_error (body : Statement σ ε α) (store left : σ) (error : ε)
    (failed : body.run store = (.error error,left)) :
    (immediate body).run store = (.error error,store) := by
  have unfolded : body store = (.error error,left) := failed
  simp [run,immediate,unfolded]

def Keeps (holds : σ → Prop) (body : Statement σ ε α) : Prop :=
  ∀ store, holds store → holds (body.run store).2

theorem keeps_pure (holds : σ → Prop) (value : α) : Keeps holds (pure value : Statement σ ε α) :=
  fun _ kept => kept

theorem keeps_raise (holds : σ → Prop) (error : ε) : Keeps holds (raise error : Statement σ ε α) :=
  fun _ kept => kept

theorem keeps_select (holds : σ → Prop) (query : σ → α) :
    Keeps holds (select query : Statement σ ε α) :=
  fun _ kept => kept

theorem keeps_update (holds : σ → Prop) (change : σ → σ) (kept : ∀ store, holds store → holds (change store)) :
    Keeps holds (update change : Statement σ ε Unit) :=
  kept

theorem keeps_bind (holds : σ → Prop) (body : Statement σ ε α) (next : α → Statement σ ε β)
    (first : Keeps holds body) (second : ∀ value, Keeps holds (next value)) :
    Keeps holds (body >>= next) := by
  intro store kept
  have middle := first store kept
  rw [run_bind]
  cases outcome : body.run store with
  | mk result left =>
    rw [outcome] at middle
    cases result with
    | error error => exact middle
    | ok value => exact second value left middle

theorem keeps_immediate (holds : σ → Prop) (body : Statement σ ε α) (inner : Keeps holds body) :
    Keeps holds (immediate body) := by
  intro store kept
  cases outcome : (immediate body).run store with
  | mk result left =>
    cases result with
    | error error =>
      rw [immediate_rollback body store left error outcome]
      exact kept
    | ok value =>
      have ran := inner store kept
      rw [(immediate_success body store left value).mp outcome] at ran
      exact ran

/-- Every success of the body stays the same success when an independent effect
comes first, and the effect then applies to what the body left. -/
def Survives (effect : σ → σ) (body : Statement σ ε α) : Prop :=
  ∀ store value left, body.run store = (.ok value,left) →
    body.run (effect store) = (.ok value,effect left)

theorem survives_pure (effect : σ → σ) (value : α) :
    Survives effect (pure value : Statement σ ε α) := by
  intro store result left ok
  obtain ⟨rfl,rfl⟩ := pure_success _ _ _ _ ok
  rfl

theorem survives_raise (effect : σ → σ) (error : ε) :
    Survives effect (raise error : Statement σ ε α) := by
  intro store result left ok
  simp at ok

theorem survives_select (effect : σ → σ) (query : σ → α)
    (blind : ∀ store, query (effect store) = query store) :
    Survives effect (select query : Statement σ ε α) := by
  intro store result left ok
  simp only [run_select,Prod.mk.injEq,Except.ok.injEq] at ok
  obtain ⟨rfl,rfl⟩ := ok
  rw [run_select,blind]

theorem survives_update (effect change : σ → σ)
    (commutes : ∀ store, change (effect store) = effect (change store)) :
    Survives effect (update change : Statement σ ε Unit) := by
  intro store result left ok
  simp only [run_update,Prod.mk.injEq,true_and] at ok
  subst ok
  rw [run_update,commutes]

theorem survives_bind (effect : σ → σ) (body : Statement σ ε α) (next : α → Statement σ ε β)
    (first : Survives effect body) (second : ∀ value, Survives effect (next value)) :
    Survives effect (body >>= next) := by
  intro store result left ok
  obtain ⟨value,middle,ran,rest⟩ := bind_success _ _ _ _ _ ok
  rw [run_bind_ok _ _ _ _ _ (first store value middle ran)]
  exact second value middle result left rest

theorem survives_immediate (effect : σ → σ) (body : Statement σ ε α) (inner : Survives effect body) :
    Survives effect (immediate body) := by
  intro store value left ok
  rw [immediate_success] at ok ⊢
  exact inner store value left ok

end Statement
end Proactive.Library
