import Mathlib.Logic.Function.Basic
import Proactive.Library.Interleaving

/-! Any number of programs on one shared state, and runs of them that are as good as runs in
which each program acts once, in one step. -/
namespace Proactive.Library
variable {ι φ σ α β ν : Type} {op : Type → Type}

structure Crowd (ι : Type) (op : Type → Type) (α σ : Type) where
  programs : ι → Process op α
  state : σ

namespace Crowd
variable [DecidableEq ι] (machine : Machine op φ σ)

def turn (crowd : Crowd ι op α σ) (who : ι) (turn : φ) : Crowd ι op α σ :=
  let after := Process.advance machine (crowd.programs who) turn crowd.state
  ⟨Function.update crowd.programs who after.1,after.2⟩

/-- A program that gets no further turn has died there. -/
def run : Crowd ι op α σ → List (ι × φ) → Crowd ι op α σ
  | crowd,[] => crowd
  | crowd,(who,turn)::rest => run (crowd.turn machine who turn) rest

@[simp] theorem run_nil (crowd : Crowd ι op α σ) : crowd.run machine [] = crowd := rfl

@[simp] theorem run_cons (crowd : Crowd ι op α σ) (entry : ι × φ) (rest : List (ι × φ)) :
    crowd.run machine (entry::rest) = (crowd.turn machine entry.1 entry.2).run machine rest := rfl

theorem turn_done {crowd : Crowd ι op α σ} {who : ι} {value : α} (turn : φ)
    (ended : crowd.programs who = .done value) : crowd.turn machine who turn = crowd := by
  unfold Crowd.turn
  rw [ended]
  dsimp only [Process.advance]
  rw [← ended,Function.update_eq_self]

theorem turn_act {crowd : Crowd ι op α σ} {who : ι} {γ : Type} {action : op γ} {next : γ → Process op α} (turn : φ)
    (acts : crowd.programs who = .act action next) : crowd.turn machine who turn =
      ⟨Function.update crowd.programs who (next (machine.perform turn action crowd.state).1),
        (machine.perform turn action crowd.state).2⟩ := by
  unfold Crowd.turn
  rw [acts]
  rfl

end Crowd

/-- The owners of the turns, the answers given so far and the value: each call takes its effect
at most once, in one step, at a turn of its own. -/
inductive Atomic [DecidableEq ι] (effect : ι → ν → β → ν → Prop) (initial : ν) :
    List ι → (ι → Option β) → ν → Prop
  | start : Atomic effect initial [] (fun _ => none) initial
  | pass {turns : List ι} {given : ι → Option β} {value : ν} (who : ι) (before : Atomic effect initial turns given value) :
      Atomic effect initial (turns ++ [who]) given value
  | take {turns : List ι} {given : ι → Option β} {value next : ν} {who : ι} {answer : β}
      (before : Atomic effect initial turns given value) (first : given who = none) (does : effect who value answer next) :
      Atomic effect initial (turns ++ [who]) (Function.update given who (some answer)) next

/-- What the calls keep, what of the state is seen from outside, what a call may do to it in one
step, and what each of them may count on while the others act. -/
structure Discipline (ι : Type) (op : Type → Type) (φ σ ν β : Type) where
  machine : Machine op φ σ
  kept : σ → Prop
  shown : σ → ν
  effect : ι → ν → β → ν → Prop
  rely : ι → σ → σ → Prop
  rely_refl : ∀ who state, rely who state state
  rely_trans : ∀ who first second third, rely who first second → rely who second third → rely who first third

namespace Discipline
variable (discipline : Discipline ι op φ σ ν β) (who : ι)

/-- Nothing is seen of the step, or it is the one effect of the call. -/
inductive Moves (before after : σ) : Option β → Option β → Prop
  | unseen {given : Option β} (same : discipline.shown after = discipline.shown before) : Moves before after given given
  | takes {answer : β} (does : discipline.effect who (discipline.shown before) answer (discipline.shown after)) :
      Moves before after none (some answer)

/-- Whatever the others have done in the meantime, each action keeps the invariant and what the
others count on, and moves as a call may; the program ends in the postcondition. -/
def Follows (post : α → Option β → σ → Prop) : Process op α → Option β → σ → Prop
  | .done value,given,state => post value given state
  | .act action next,given,state => ∀ other, discipline.kept other → discipline.rely who state other → ∀ turn,
      discipline.kept (discipline.machine.perform turn action other).2 ∧
      (∀ witness, witness ≠ who → discipline.rely witness other (discipline.machine.perform turn action other).2) ∧
      ∃ answered, discipline.Moves who other (discipline.machine.perform turn action other).2 given answered ∧
        Follows post (next (discipline.machine.perform turn action other).1) answered
          (discipline.machine.perform turn action other).2

variable {discipline who} {post : α → Option β → σ → Prop}

theorem follows_mono {weaker : α → Option β → σ → Prop} {program : Process op α} {given : Option β} {state : σ}
    (implies : ∀ value given state, post value given state → weaker value given state)
    (follows : discipline.Follows who post program given state) : discipline.Follows who weaker program given state := by
  induction program generalizing given state with
  | done value => exact implies _ _ _ follows
  | act action next ih =>
    intro other kept relied turn
    obtain ⟨keeps,guarantees,answered,moves,rest⟩ := follows other kept relied turn
    exact ⟨keeps,guarantees,answered,moves,ih _ rest⟩

theorem follows_bind {γ : Type} {after : γ → Option β → σ → Prop} {program : Process op α} {next : α → Process op γ}
    {given : Option β} {state : σ}
    (follows : discipline.Follows who (fun value => discipline.Follows who after (next value)) program given state) :
    discipline.Follows who after (program.bind next) given state := by
  induction program generalizing given state with
  | done value => exact follows
  | act action rest ih =>
    intro other kept relied turn
    obtain ⟨keeps,guarantees,answered,moves,rest⟩ := follows other kept relied turn
    exact ⟨keeps,guarantees,answered,moves,ih _ rest⟩

theorem follows_rely {program : Process op α} {given : Option β} {state other : σ}
    (stable : ∀ value given state other, discipline.rely who state other → post value given state → post value given other)
    (follows : discipline.Follows who post program given state) (relied : discipline.rely who state other) :
    discipline.Follows who post program given other := by
  cases program with
  | done value => exact stable _ _ _ _ relied follows
  | act action next => exact fun third kept later => follows third kept (discipline.rely_trans _ _ _ _ relied later)

variable [DecidableEq ι] {post : ι → α → Option β → σ → Prop}

theorem turn_follows (stable : ∀ who value given state other, discipline.rely who state other →
      post who value given state → post who value given other) {crowd : Crowd ι op α σ} {given : ι → Option β}
    (kept : discipline.kept crowd.state)
    (follows : ∀ who, discipline.Follows who (post who) (crowd.programs who) (given who) crowd.state) (who : ι) (turn : φ) :
    let after := crowd.turn discipline.machine who turn
    discipline.kept after.state ∧ ∃ answered, discipline.Moves who crowd.state after.state (given who) answered ∧
      ∀ other, discipline.Follows other (post other) (after.programs other) (Function.update given who answered other)
        after.state := by
  intro after
  cases acts : crowd.programs who with
  | done value =>
    have same : after = crowd := Crowd.turn_done discipline.machine turn acts
    rw [same]
    refine ⟨kept,given who,Moves.unseen rfl,fun other => ?_⟩
    rw [Function.update_eq_self]
    exact follows other
  | act action next =>
    have mine := follows who
    rw [acts] at mine
    obtain ⟨keeps,guarantees,answered,moves,rest⟩ := mine crowd.state kept (discipline.rely_refl _ _) turn
    have moved : after = _ := Crowd.turn_act discipline.machine turn acts
    rw [moved]
    refine ⟨keeps,answered,moves,fun other => ?_⟩
    by_cases same : other = who
    · subst same
      simpa using rest
    · simpa [same] using follows_rely (stable other) (follows other) (guarantees other same)

theorem Moves.atomic {initial : ν} {turns : List ι} {given : ι → Option β} {before after : σ} {answered : Option β}
    (moves : discipline.Moves who before after (given who) answered)
    (earlier : Atomic discipline.effect initial turns given (discipline.shown before)) :
    Atomic discipline.effect initial (turns ++ [who]) (Function.update given who answered) (discipline.shown after) := by
  generalize taken : given who = old at moves
  cases moves with
  | unseen same =>
    rw [same,← taken,Function.update_eq_self]
    exact earlier.pass who
  | takes does => exact earlier.take taken does

/-- Calls that each follow the discipline run, in every order of their actions, as calls that
act in one step each. -/
theorem run_atomic (stable : ∀ who value given state other, discipline.rely who state other →
      post who value given state → post who value given other) {initial : ν} {crowd : Crowd ι op α σ} {turns : List ι}
    {given : ι → Option β} (kept : discipline.kept crowd.state)
    (earlier : Atomic discipline.effect initial turns given (discipline.shown crowd.state))
    (follows : ∀ who, discipline.Follows who (post who) (crowd.programs who) (given who) crowd.state)
    (schedule : List (ι × φ)) :
    let after := crowd.run discipline.machine schedule
    discipline.kept after.state ∧ ∃ answered, Atomic discipline.effect initial (turns ++ schedule.map Prod.fst) answered
        (discipline.shown after.state) ∧
      ∀ who value, after.programs who = .done value → post who value (answered who) after.state := by
  induction schedule generalizing crowd turns given with
  | nil =>
    refine ⟨kept,given,?_,fun who value ended => ?_⟩
    · simpa using earlier
    have ends := follows who
    rw [show crowd.programs who = .done value from ended] at ends
    exact ends
  | cons entry rest ih =>
    obtain ⟨who,turn⟩ := entry
    obtain ⟨keeps,answered,moves,next⟩ := turn_follows stable kept follows who turn
    simpa using ih keeps (moves.atomic earlier) next

/-- What every effect of a call does to what is seen, any part of a run does, wherever it begins. -/
theorem run_shown (stable : ∀ who value given state other, discipline.rely who state other →
      post who value given state → post who value given other) {related : ν → ν → Prop}
    (same : ∀ value, related value value) (chains : ∀ first second third, related first second → related second third →
      related first third) (moves : ∀ who value answer next, discipline.effect who value answer next → related value next)
    {crowd : Crowd ι op α σ} {given : ι → Option β} (kept : discipline.kept crowd.state)
    (follows : ∀ who, discipline.Follows who (post who) (crowd.programs who) (given who) crowd.state)
    (schedule : List (ι × φ)) :
    let after := crowd.run discipline.machine schedule
    related (discipline.shown crowd.state) (discipline.shown after.state) ∧ discipline.kept after.state ∧
      ∃ answered : ι → Option β, ∀ who,
        discipline.Follows who (post who) (after.programs who) (answered who) after.state := by
  induction schedule generalizing crowd given with
  | nil => exact ⟨same _,kept,given,follows⟩
  | cons entry rest ih =>
    obtain ⟨who,turn⟩ := entry
    obtain ⟨keeps,answered,moved,next⟩ := turn_follows stable kept follows who turn
    obtain ⟨later,still⟩ := ih keeps next
    refine ⟨chains _ _ _ ?_ later,still⟩
    generalize given who = old at moved
    cases moved with
    | unseen equal =>
      rw [equal]
      exact same _
    | takes does => exact moves who _ _ _ does

end Discipline

/-- A program that may raise. What it did before it raised stays. -/
def Fallible (op : Type → Type) (ε α : Type) : Type 1 := Process op (Except ε α)

namespace Fallible
variable {ε : Type}

instance : Monad (Fallible op ε) where
  pure value := Process.done (.ok value)
  bind body next := Process.bind body (fun outcome =>
    match outcome with
    | .ok value => next value
    | .error error => .done (.error error))

def raise (error : ε) : Fallible op ε α := Process.done (.error error)

def perform (action : op (Except ε α)) : Fallible op ε α := Process.act action Process.done

/-- Runs the handler when the body raises. -/
def handle (body : Fallible op ε α) (handler : ε → Fallible op ε α) : Fallible op ε α :=
  Process.bind body (fun outcome =>
    match outcome with
    | .ok value => .done (.ok value)
    | .error error => handler error)

/-- Runs the last part in any case, whose own error takes the place of the outcome. -/
def finish (body : Fallible op ε α) (last : Fallible op ε Unit) : Fallible op ε α :=
  Process.bind body (fun outcome => Process.bind last (fun finished =>
    match finished with
    | .ok () => .done outcome
    | .error error => .done (.error error)))

section alone
variable {machine : Machine op φ σ} {turn : φ} {γ : Type} {state left : σ} {value : α}

theorem finish_bind_ok {body : Fallible op ε α} {next : α → Fallible op ε γ}
    (ran : Process.finish machine turn body state = (.ok value,left)) :
    Process.finish machine turn (body >>= next : Fallible op ε γ) state = Process.finish machine turn (next value) left := by
  refine (Process.finish_bind machine turn body _ state).trans ?_
  rw [ran]

theorem finish_handle_ok {body : Fallible op ε α} {handler : ε → Fallible op ε α}
    (ran : Process.finish machine turn body state = (.ok value,left)) :
    Process.finish machine turn (handle body handler) state = (.ok value,left) := by
  refine (Process.finish_bind machine turn body _ state).trans ?_
  rw [ran]
  rfl

end alone

section ensures
variable {machine : Machine op φ σ} {kept : σ → Prop} {γ : Type} {post : Except ε γ → σ → Prop} {state : σ}

theorem ensures_bind {body : Fallible op ε α} {next : α → Fallible op ε γ}
    (ensures : Process.Ensures machine kept (fun outcome left =>
      (∀ value, outcome = .ok value → Process.Ensures machine kept post (next value) left) ∧
        ∀ error, outcome = .error error → post (.error error) left) body state) :
    Process.Ensures machine kept post (body >>= next : Fallible op ε γ) state := by
  refine Process.ensures_bind (Process.ensures_mono (fun outcome left holds => ?_) ensures)
  cases outcome with
  | ok value => exact holds.1 value rfl
  | error error => exact holds.2 error rfl

end ensures

section follows
variable {discipline : Discipline ι op φ σ ν β} {who : ι} {γ : Type} {post : Except ε γ → Option β → σ → Prop}
  {given : Option β} {state : σ}

theorem follows_pure {value : γ} (ends : post (.ok value) given state) :
    discipline.Follows who post (pure value : Fallible op ε γ) given state := ends

theorem follows_raise {error : ε} (ends : post (.error error) given state) :
    discipline.Follows who post (raise error : Fallible op ε γ) given state := ends

theorem follows_bind {body : Fallible op ε α} {next : α → Fallible op ε γ}
    {middle : Except ε α → Option β → σ → Prop} (follows : discipline.Follows who middle body given state)
    (goesOn : ∀ value given state, middle (.ok value) given state → discipline.Follows who post (next value) given state)
    (stops : ∀ error given state, middle (.error error) given state → post (.error error) given state) :
    discipline.Follows who post (body >>= next : Fallible op ε γ) given state := by
  refine Discipline.follows_bind (Discipline.follows_mono (fun outcome given state held => ?_) follows)
  cases outcome with
  | ok value => exact goesOn value given state held
  | error error => exact stops error given state held

theorem follows_handle {body : Fallible op ε γ} {handler : ε → Fallible op ε γ}
    (middle : Except ε γ → Option β → σ → Prop) (follows : discipline.Follows who middle body given state)
    (returns : ∀ value given state, middle (.ok value) given state → post (.ok value) given state)
    (handles : ∀ error given state, middle (.error error) given state →
      discipline.Follows who post (handler error) given state) :
    discipline.Follows who post (handle body handler) given state := by
  refine Discipline.follows_bind (Discipline.follows_mono (fun outcome given state held => ?_) follows)
  cases outcome with
  | ok value => exact returns value given state held
  | error error => exact handles error given state held

theorem follows_finish {body : Fallible op ε γ} {last : Fallible op ε Unit}
    (middle : Except ε γ → Option β → σ → Prop) (follows : discipline.Follows who middle body given state)
    (finishes : ∀ outcome given state, middle outcome given state → discipline.Follows who (fun finished given state =>
      (finished = .ok () → post outcome given state) ∧ ∀ error, finished = .error error → post (.error error) given state)
      last given state) : discipline.Follows who post (finish body last) given state := by
  refine Discipline.follows_bind (Discipline.follows_mono (fun outcome given state held => ?_) follows)
  refine Discipline.follows_bind (Discipline.follows_mono (fun finished given state ends => ?_)
    (finishes outcome given state held))
  cases finished with
  | ok value => exact ends.1 rfl
  | error error => exact ends.2 error rfl

end follows
end Fallible
end Proactive.Library
