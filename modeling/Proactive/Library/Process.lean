import Mathlib.Data.List.Basic

/-! Programs as trees of atomic actions: runs under a schedule that decides how each
action goes and where the program dies, and runs of two programs side by side. -/
namespace Proactive.Library

inductive Process (op : Type → Type) (α : Type) : Type 1
  | done (value : α)
  | act {β : Type} (action : op β) (next : β → Process op α)

/-- How one action on the shared state goes when the schedule says `φ`. -/
structure Machine (op : Type → Type) (φ σ : Type) where
  perform : {β : Type} → φ → op β → σ → β × σ

namespace Process
variable {op : Type → Type} {φ σ α β : Type}

def bind : Process op α → (α → Process op β) → Process op β
  | done value,next => next value
  | act action rest,next => act action (fun reply => bind (rest reply) next)

theorem bind_assoc {γ : Type} (program : Process op α) (next : α → Process op β) (last : β → Process op γ) :
    (program.bind next).bind last = program.bind (fun value => (next value).bind last) := by
  induction program with
  | done value => rfl
  | act action rest ih => exact congrArg (act action) (funext ih)

variable (machine : Machine op φ σ)

/-- The value of the program and the state it leaves; no value when the schedule ends first. -/
def run : Process op α → List φ → σ → Option α × σ
  | done value,_,state => (some value,state)
  | act _ _,[],state => (none,state)
  | act action next,turn::rest,state =>
    run (next (machine.perform turn action state).1) rest (machine.perform turn action state).2

@[simp] theorem run_done (value : α) (schedule : List φ) (state : σ) :
    run machine (.done value : Process op α) schedule state = (some value,state) := by
  cases schedule <;> rfl

@[simp] theorem run_act_cons (action : op β) (next : β → Process op α) (turn : φ) (rest : List φ)
    (state : σ) :
    run machine (.act action next) (turn::rest) state =
      run machine (next (machine.perform turn action state).1) rest
        (machine.perform turn action state).2 := rfl

theorem run_nil_state (program : Process op α) (state : σ) : (run machine program [] state).2 = state := by
  cases program <;> rfl

theorem run_bind_done (after : α → β) (program : Process op α) (schedule : List φ) (state : σ) :
    run machine (program.bind (fun value => .done (after value))) schedule state =
      ((run machine program schedule state).1.map after,(run machine program schedule state).2) := by
  induction program generalizing schedule state with
  | done value => exact (run_done machine (after value) schedule state).trans (by rw [run_done]; rfl)
  | act action next ih =>
    cases schedule with
    | nil => rfl
    | cons turn rest => exact ih _ rest _

/-- The program run to its end, with every turn alike. -/
def finish (turn : φ) : Process op α → σ → α × σ
  | done value,state => (value,state)
  | act action next,state =>
    finish turn (next (machine.perform turn action state).1) (machine.perform turn action state).2

theorem finish_bind (turn : φ) (program : Process op α) (next : α → Process op β) (state : σ) :
    finish machine turn (program.bind next) state =
      finish machine turn (next (finish machine turn program state).1) (finish machine turn program state).2 := by
  induction program generalizing state with
  | done value => rfl
  | act action rest ih => exact ih _ _

/-- Turns that are all alike, if there are enough of them, bring the program to that end. -/
theorem run_alike {turn : φ} {program : Process op α} {schedule : List φ} {state : σ} {value : α}
    (alike : ∀ other ∈ schedule, other = turn) (ended : (run machine program schedule state).1 = some value) :
    value = (finish machine turn program state).1 := by
  induction program generalizing schedule state with
  | done result =>
    rw [run_done] at ended
    exact (Option.some.inj ended).symm
  | act action next ih =>
    cases schedule with
    | nil => cases ended
    | cons first rest =>
      obtain rfl := alike first List.mem_cons_self
      exact ih _ (fun other member => alike other (List.mem_cons_of_mem _ member)) ended

/-- Under every schedule each state on the way satisfies `kept`, and a value comes with `post`. -/
def Ensures (kept : σ → Prop) (post : α → σ → Prop) : Process op α → σ → Prop
  | done value,state => post value state
  | act action next,state => ∀ turn : φ, kept (machine.perform turn action state).2 ∧
      Ensures kept post (next (machine.perform turn action state).1) (machine.perform turn action state).2

variable {machine} {kept : σ → Prop} {post : α → σ → Prop}

theorem ensures_run {program : Process op α} (schedule : List φ) {state : σ} (initial : kept state)
    (ensures : Ensures machine kept post program state) :
    kept (run machine program schedule state).2 ∧
      ∀ value, (run machine program schedule state).1 = some value →
        post value (run machine program schedule state).2 := by
  induction program generalizing schedule state with
  | done value =>
    rw [run_done]
    refine ⟨initial,fun result same => ?_⟩
    cases same
    exact ensures
  | act action next ih =>
    cases schedule with
    | nil => exact ⟨initial,fun _ absent => nomatch absent⟩
    | cons turn rest => exact ih _ rest (ensures turn).1 (ensures turn).2

theorem ensures_mono {weaker : α → σ → Prop} {program : Process op α} {state : σ}
    (implies : ∀ value state, post value state → weaker value state)
    (ensures : Ensures machine kept post program state) : Ensures machine kept weaker program state := by
  induction program generalizing state with
  | done value => exact implies _ _ ensures
  | act action next ih => exact fun turn => ⟨(ensures turn).1,ih _ (ensures turn).2⟩

theorem ensures_bind {after : β → σ → Prop} {program : Process op α} {next : α → Process op β} {state : σ}
    (ensures : Ensures machine kept (fun value left => Ensures machine kept after (next value) left)
      program state) : Ensures machine kept after (program.bind next) state := by
  induction program generalizing state with
  | done value => exact ensures
  | act action rest ih => exact fun turn => ⟨(ensures turn).1,ih _ (ensures turn).2⟩

end Process

/-- A call of an object: it reads and writes the object, raises or returns, and acts on the
shared state. What it wrote to the object stays when it raises. -/
def Call (op : Type → Type) (ο ε α : Type) : Type 1 := ο → Process op (Except ε α × ο)

namespace Call
variable {op : Type → Type} {φ σ ο ε α β : Type}

instance : Monad (Call op ο ε) where
  pure value := fun object => .done (.ok value,object)
  bind body next := fun object => (body object).bind (fun outcome =>
    match outcome with
    | (.ok value,left) => next value left
    | (.error error,left) => .done (.error error,left))

def raise (error : ε) : Call op ο ε α := fun object => .done (.error error,object)

def perform (action : op α) : Call op ο ε α := fun object => .act action (fun reply => .done (.ok reply,object))

def read : Call op ο ε ο := fun object => .done (.ok object,object)

def write (object : ο) : Call op ο ε Unit := fun _ => .done (.ok (),object)

theorem bind_read (next : ο → Call op ο ε β) (object : ο) :
    ((read : Call op ο ε ο) >>= next) object = next object object := rfl

theorem bind_write (written : ο) (next : Unit → Call op ο ε β) (object : ο) :
    ((write written : Call op ο ε Unit) >>= next) object = next () written := rfl

theorem bind_assoc {γ : Type} (body : Call op ο ε α) (next : α → Call op ο ε β) (last : β → Call op ο ε γ) :
    body >>= next >>= last = body >>= fun value => next value >>= last := by
  funext object
  refine (Process.bind_assoc (body object) _ _).trans ?_
  refine congrArg (Process.bind (body object)) (funext (fun outcome => ?_))
  obtain ⟨result,left⟩ := outcome
  cases result <;> rfl

section ensures
variable {machine : Machine op φ σ} {kept : σ → Prop}

theorem ensures_bind {post : Except ε β × ο → σ → Prop} {body : Call op ο ε α}
    {next : α → Call op ο ε β} {object : ο} {state : σ}
    (ensures : Process.Ensures machine kept (fun outcome left =>
      (∀ value, outcome.1 = .ok value → Process.Ensures machine kept post (next value outcome.2) left) ∧
        ∀ error, outcome.1 = .error error → post (.error error,outcome.2) left) (body object) state) :
    Process.Ensures machine kept post ((body >>= next) object) state := by
  refine Process.ensures_bind (Process.ensures_mono (fun outcome left holds => ?_) ensures)
  obtain ⟨result,object⟩ := outcome
  cases result with
  | ok value => exact holds.1 value rfl
  | error error => exact holds.2 error rfl

end ensures
end Call
end Proactive.Library
