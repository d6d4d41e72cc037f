import Proactive.Library.Process

/-! Two programs on one shared state, where each turn of the schedule goes to one of them;
and changes of the state that a program does not notice, which may be moved across its turns. -/
namespace Proactive.Library

inductive Side | left | right
deriving DecidableEq, Repr

namespace Side
variable {φ : Type}

def turns (side : Side) : List (Side × φ) → List φ
  | [] => []
  | (other,turn)::rest => if other = side then turn::turns side rest else turns side rest

/-- The turns of the right side before the left side's turn of this number, from zero. -/
def ahead : List (Side × φ) → Nat → Nat
  | [],_ => 0
  | (.left,_)::_,0 => 0
  | (.left,_)::rest,number+1 => ahead rest number
  | (.right,_)::rest,number => ahead rest number + 1

theorem right_turns (before : List φ) (rest : List (Side × φ)) :
    turns .right (before.map (Prod.mk .right) ++ rest) = before ++ turns .right rest := by
  induction before with
  | nil => rfl
  | cons turn before ih => simp [turns,ih]

theorem left_turns (before : List φ) (rest : List (Side × φ)) :
    turns .left (before.map (Prod.mk .right) ++ rest) = turns .left rest := by
  induction before with
  | nil => rfl
  | cons turn before ih => simp [turns,ih]

theorem ahead_right (before : List φ) (rest : List (Side × φ)) (number : Nat) :
    ahead (before.map (Prod.mk .right) ++ rest) number = before.length + ahead rest number := by
  induction before with
  | nil => simp
  | cons turn before ih => simp [ahead,ih]; omega

end Side

namespace Process
variable {op : Type → Type} {φ σ α β : Type} (machine : Machine op φ σ)

def advance : Process op α → φ → σ → Process op α × σ
  | done value,_,state => (done value,state)
  | act action next,turn,state =>
    (next (machine.perform turn action state).1,(machine.perform turn action state).2)

def after : Process op α → List φ → σ → Process op α × σ
  | program,[],state => (program,state)
  | program,turn::rest,state =>
    after (advance machine program turn state).1 rest (advance machine program turn state).2

def beside : Process op α → Process op β → List (Side × φ) → σ → (Process op α × Process op β) × σ
  | left,right,[],state => ((left,right),state)
  | left,right,(.left,turn)::rest,state =>
    beside (advance machine left turn state).1 right rest (advance machine left turn state).2
  | left,right,(.right,turn)::rest,state =>
    beside left (advance machine right turn state).1 rest (advance machine right turn state).2

theorem after_append (program : Process op α) (first second : List φ) (state : σ) :
    after machine program (first ++ second) state =
      after machine (after machine program first state).1 second (after machine program first state).2 := by
  induction first generalizing program state with
  | nil => rfl
  | cons turn rest ih => exact ih _ _

theorem after_done (value : α) (schedule : List φ) (state : σ) :
    after machine (done value : Process op α) schedule state = (done value,state) := by
  induction schedule with
  | nil => rfl
  | cons turn rest ih => exact ih

theorem beside_done (value : α) (right : Process op β) (schedule : List (Side × φ)) (state : σ) :
    beside machine (done value : Process op α) right schedule state =
      ((done value,(after machine right (Side.turns .right schedule) state).1),
        (after machine right (Side.turns .right schedule) state).2) := by
  induction schedule generalizing right state with
  | nil => rfl
  | cons entry rest ih =>
    obtain ⟨side,turn⟩ := entry
    cases side with
    | left => exact ih right state
    | right => exact ih _ _

variable {machine}

/-- A program that finishes gets its next turn, after some turns of the other side. -/
theorem beside_act {γ : Type} {action : op γ} {next : γ → Process op α} {right : Process op β}
    {schedule : List (Side × φ)} {state : σ} {value : α}
    (finished : (beside machine (act action next) right schedule state).1.1 = done value) :
    ∃ before turn rest, schedule = before.map (Prod.mk .right) ++ (.left,turn)::rest ∧
      beside machine (act action next) right schedule state =
        beside machine (next (machine.perform turn action (after machine right before state).2).1)
          (after machine right before state).1 rest
          (machine.perform turn action (after machine right before state).2).2 := by
  induction schedule generalizing right state with
  | nil => cases finished
  | cons entry rest ih =>
    obtain ⟨side,turn⟩ := entry
    cases side with
    | left => exact ⟨[],turn,rest,rfl,rfl⟩
    | right =>
      obtain ⟨before,next,later,same,ran⟩ := ih finished
      exact ⟨turn::before,next,later,congrArg (List.cons _) same,ran⟩

end Process

def Machine.Ignores {op : Type → Type} {φ σ β : Type} (machine : Machine op φ σ) (change : σ → σ)
    (action : op β) : Prop :=
  ∀ turn state, machine.perform turn action (change state) =
    ((machine.perform turn action state).1,change (machine.perform turn action state).2)

namespace Process
variable {op : Type → Type} {φ σ α : Type} (machine : Machine op φ σ) (change : σ → σ)

/-- The first actions of the program, `count` of them, ignore the change. -/
def Begins : Nat → Process op α → Prop
  | 0,_ => True
  | _+1,done _ => True
  | count+1,act action next => machine.Ignores change action ∧ ∀ reply, Begins count (next reply)

/-- All actions of the program but the first `count` ignore the change. -/
def Ends : Nat → Process op α → Prop
  | _,done _ => True
  | 0,act action next => machine.Ignores change action ∧ ∀ reply, Ends 0 (next reply)
  | count+1,act _ next => ∀ reply, Ends count (next reply)

variable {machine change}

theorem after_begins {count : Nat} {program : Process op α} {schedule : List φ}
    (begins : Begins machine change count program) (few : schedule.length ≤ count) (state : σ) :
    after machine program schedule (change state) =
      ((after machine program schedule state).1,change (after machine program schedule state).2) := by
  induction schedule generalizing count program state with
  | nil => rfl
  | cons turn rest ih =>
    cases program with
    | done value => rw [after_done,after_done]
    | act action next =>
      cases count with
      | zero => cases few
      | succ count =>
        obtain ⟨ignores,begins⟩ := begins
        unfold after
        dsimp only [advance]
        rw [ignores turn state]
        exact ih (begins _) (Nat.le_of_succ_le_succ few) _

theorem ends_after {count : Nat} {program : Process op α} (ends : Ends machine change count program)
    (schedule : List φ) (state : σ) :
    Ends machine change (count - schedule.length) (after machine program schedule state).1 := by
  induction schedule generalizing count program state with
  | nil => exact ends
  | cons turn rest ih =>
    cases program with
    | done value =>
      rw [after_done]
      unfold Ends
      trivial
    | act action next =>
      cases count with
      | zero =>
        have same : 0 - (turn::rest).length = 0 - rest.length := by simp
        rw [same]
        exact ih (ends.2 _) _
      | succ count =>
        have same : count + 1 - (turn::rest).length = count - rest.length := by simp
        rw [same]
        exact ih (ends _) _

theorem after_ends {program : Process op α} (ends : Ends machine change 0 program) (schedule : List φ)
    (state : σ) :
    after machine program schedule (change state) =
      ((after machine program schedule state).1,change (after machine program schedule state).2) := by
  induction schedule generalizing program state with
  | nil => rfl
  | cons turn rest ih =>
    cases program with
    | done value => rw [after_done,after_done]
    | act action next =>
      unfold after
      dsimp only [advance]
      rw [ends.1 turn state]
      exact ih (ends.2 _) _

end Process
end Proactive.Library
