import Proactive.Library.Triple

/-! What holds once a statement sequence has ended, whether it returned or raised. -/
namespace Proactive.Library.Statement
variable {σ ε ε' α β : Type}

/-- The outcome and the store of the end, which a failure does not take back. -/
def Ends (body : Statement σ ε α) (store : σ) (post : Except ε α → σ → Prop) : Prop :=
  post (body.run store).1 (body.run store).2

/-- What a sequence has to end in for what follows it to end well. -/
def before (next : α → Statement σ ε β) (post : Except ε β → σ → Prop) : Except ε α → σ → Prop
  | .ok value,left => Ends (next value) left post
  | .error error,left => post (.error error) left

variable {store : σ} {post : Except ε α → σ → Prop}

@[simp] theorem before_ok (next : α → Statement σ ε β) (after : Except ε β → σ → Prop) (value : α) (left : σ) :
    before next after (.ok value) left = Ends (next value) left after := rfl

@[simp] theorem before_error (next : α → Statement σ ε β) (after : Except ε β → σ → Prop) (error : ε) (left : σ) :
    before next after (.error error) left = after (.error error) left := rfl

@[simp] theorem ends_pure (value : α) : Ends (pure value : Statement σ ε α) store post ↔ post (.ok value) store := Iff.rfl

@[simp] theorem ends_raise (error : ε) : Ends (raise error : Statement σ ε α) store post ↔ post (.error error) store := Iff.rfl

@[simp] theorem ends_select (query : σ → α) :
    Ends (select query : Statement σ ε α) store post ↔ post (.ok (query store)) store := Iff.rfl

@[simp] theorem ends_update {post : Except ε Unit → σ → Prop} (change : σ → σ) :
    Ends (update change : Statement σ ε Unit) store post ↔ post (.ok ()) (change store) := Iff.rfl

theorem ends_ofExcept (outcome : Except ε α) :
    Ends (ofExcept outcome : Statement σ ε α) store post ↔ post outcome store := by
  cases outcome with
  | ok value => exact Iff.rfl
  | error error => exact Iff.rfl

theorem ends_bind {post : Except ε β → σ → Prop} (body : Statement σ ε α) (next : α → Statement σ ε β) :
    Ends (body >>= next) store post ↔ Ends body store (before next post) := by
  unfold Ends
  rw [run_bind]
  cases ran : body.run store with
  | mk outcome left =>
    cases outcome with
    | ok value => exact Iff.rfl
    | error error => exact Iff.rfl

theorem ends_attempt_bind {post : Except ε' β → σ → Prop} (body : Statement σ ε α)
    (next : Except ε α → Statement σ ε' β) :
    Ends (attempt body >>= next) store post ↔ Ends body store (fun outcome left => Ends (next outcome) left post) :=
  Iff.rfl

theorem Ends.mono {body : Statement σ ε α} {weaker : Except ε α → σ → Prop} (ends : Ends body store post)
    (implies : ∀ outcome left, post outcome left → weaker outcome left) : Ends body store weaker :=
  implies _ _ ends

/-- A sequence that ends well from every store of a kind is followed from there. -/
theorem Ends.bind {post : Except ε β → σ → Prop} {body : Statement σ ε α} {next : α → Statement σ ε β}
    {middle : Except ε α → σ → Prop} (ends : Ends body store middle)
    (goesOn : ∀ value left, middle (.ok value) left → Ends (next value) left post)
    (stops : ∀ error left, middle (.error error) left → post (.error error) left) :
    Ends (body >>= next) store post := by
  refine (ends_bind body next).mpr (ends.mono ?_)
  intro outcome left held
  cases outcome with
  | ok value => exact goesOn value left held
  | error error => exact stops error left held

theorem Ends.result {body : Statement σ ε α} (ends : Ends body store post) {outcome : Except ε α} {left : σ}
    (ran : body.run store = (outcome,left)) : post outcome left := by
  unfold Ends at ends
  rwa [ran] at ends

theorem ends_of_run {body : Statement σ ε α} {outcome : Except ε α} {left : σ}
    (ran : body.run store = (outcome,left)) : Ends body store post ↔ post outcome left := by
  rw [Ends,ran]

theorem ends_iff {body : Statement σ ε α} :
    Ends body store post ↔ ∀ outcome left, body.run store = (outcome,left) → post outcome left :=
  ⟨fun ends _ _ ran => ends.result ran,fun each => each _ _ rfl⟩

/-- A sequence of reads leaves the store as it is. -/
theorem run_bind_unchanged {body : Statement σ ε α} {next : α → Statement σ ε β} (first : (body.run store).2 = store)
    (rest : ∀ value, ((next value).run store).2 = store) : ((body >>= next).run store).2 = store := by
  rw [run_bind]
  cases ran : body.run store with
  | mk outcome left =>
    obtain rfl : left = store := (congrArg Prod.snd ran).symm.trans first
    cases outcome with
    | error error => rfl
    | ok value => exact rest value

end Proactive.Library.Statement
