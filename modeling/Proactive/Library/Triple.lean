import Proactive.Library.Outcome
import Proactive.Library.Transaction

/-! What a statement sequence achieves from one store: a postcondition when it returns, and
the errors it may raise. -/
namespace Proactive.Library.Statement
variable {σ ε α β : Type}

def Meets (body : Statement σ ε α) (store : σ) (post : α → σ → Prop) (fails : ε → Prop) : Prop :=
  match body.run store with
  | (.ok value,left) => post value left
  | (.error error,_) => fails error

def ofExcept : Except ε α → Statement σ ε α
  | .ok value => pure value
  | .error error => raise error

theorem ofExcept_success {outcome : Except ε α} {store left : σ} {value : α}
    (ran : (ofExcept outcome : Statement σ ε α).run store = (.ok value,left)) : outcome = .ok value ∧ left = store := by
  cases outcome with
  | ok other =>
    obtain ⟨rfl,rfl⟩ := pure_success _ _ _ _ ran
    exact ⟨rfl,rfl⟩
  | error error => cases ran

variable {post : α → σ → Prop} {fails : ε → Prop} {store : σ}

theorem meets_pure {value : α} (holds : post value store) :
    Meets (pure value : Statement σ ε α) store post fails := holds

theorem meets_raise {error : ε} (allowed : fails error) :
    Meets (raise error : Statement σ ε α) store post fails := allowed

theorem meets_select {query : σ → α} (holds : post (query store) store) :
    Meets (select query : Statement σ ε α) store post fails := holds

theorem meets_update {post : Unit → σ → Prop} {change : σ → σ} (holds : post () (change store)) :
    Meets (update change : Statement σ ε Unit) store post fails := holds

theorem meets_ofExcept {outcome : Except ε α} (holds : ∀ value, outcome = .ok value → post value store)
    (allowed : Outcome.FailsOnly fails outcome) :
    Meets (ofExcept outcome : Statement σ ε α) store post fails := by
  cases outcome with
  | ok value => exact holds value rfl
  | error error => exact allowed error rfl

theorem meets_bind {post : β → σ → Prop} {body : Statement σ ε α} {next : α → Statement σ ε β}
    (first : Meets body store (fun value left => Meets (next value) left post fails) fails) :
    Meets (body >>= next) store post fails := by
  unfold Meets at first ⊢
  rw [run_bind]
  cases ran : body.run store with
  | mk outcome left =>
    rw [ran] at first
    cases outcome with
    | ok value => exact first
    | error error => exact first

theorem meets_mono {weaker : α → σ → Prop} {broader : ε → Prop} {body : Statement σ ε α}
    (meets : Meets body store post fails) (implies : ∀ value left, post value left → weaker value left)
    (covers : ∀ error, fails error → broader error) : Meets body store weaker broader := by
  unfold Meets at meets ⊢
  cases ran : body.run store with
  | mk outcome left =>
    rw [ran] at meets
    cases outcome with
    | ok value => exact implies value left meets
    | error error => exact covers error meets

theorem meets_immediate {body : Statement σ ε α} (meets : Meets body store post fails) :
    Meets (immediate body) store post fails := by
  unfold Meets at meets ⊢
  rw [run_immediate]
  cases ran : body.run store with
  | mk outcome left =>
    rw [ran] at meets
    cases outcome with
    | ok value => exact meets
    | error error => exact meets

theorem meets_ok {body : Statement σ ε α} (meets : Meets body store post fails) {value : α} {left : σ}
    (ran : body.run store = (.ok value,left)) : post value left := by
  unfold Meets at meets
  rw [ran] at meets
  exact meets

theorem meets_error {body : Statement σ ε α} (meets : Meets body store post fails) {error : ε} {left : σ}
    (ran : body.run store = (.error error,left)) : fails error := by
  unfold Meets at meets
  rw [ran] at meets
  exact meets

/-- A transaction behind a check of its input fails without a trace. -/
theorem checked_rollback {check : Except ε α} {body : Statement σ ε β} {error : ε} {left : σ}
    (failed : (ofExcept check >>= fun _ => immediate body).run store = (.error error,left)) : left = store := by
  cases check with
  | error refusal =>
    have same : ((.error refusal : Except ε β),store) = (.error error,left) := failed
    exact (Prod.mk.inj same).2.symm
  | ok value => exact immediate_rollback body store left error failed

end Proactive.Library.Statement
