import Proactive.Library.Crowd
import Proactive.Library.DirectoryTree

/-! The private parent directory: opened component by component while other users change the tree. -/
namespace Proactive.Store
open Proactive.Library DirectoryTree

inductive OsError | fileNotFound | fileExists | other
deriving DecidableEq, Repr

/-- An `OSError` that passes through, or `UnsafeDatabasePathError` with its reason. -/
inductive ParentError
  | os (error : OsError)
  | unsafePath (reason : String)
deriving DecidableEq, Repr

structure DirectoryStat where
  isDirectory : Bool
  owner : Uid
  mode : Mode
deriving DecidableEq, Repr

/-- A descriptor is named by the node that it pins. -/
inductive ParentCall : Type → Type
  | openRoot : ParentCall (Except ParentError Nat)
  | openAt (directory : Nat) (part : String) : ParentCall (Except ParentError Nat)
  | mkdirAt (directory : Nat) (part : String) (mode : Mode) : ParentCall (Except ParentError Unit)
  | fstat (descriptor : Nat) : ParentCall (Except ParentError DirectoryStat)
  | fchmod (descriptor : Nat) (mode : Mode) : ParentCall (Except ParentError Unit)
  | close (descriptor : Nat) : ParentCall (Except ParentError Unit)

/-- No permission for the group or for others. -/
def closedMode (mode : Mode) : Bool := mode &&& 0o077#12 = 0#12

/-- What the user's other processes do to the tree: they take no directory away, and let nobody in. -/
def Considerate : Deed String → Prop
  | .chmod _ mode => closedMode mode = true
  | .make .. | .link .. => True
  | .remove _ _ whole => whole = false

/-- Any deed of any other user but root, or a considerate one of the user's own. -/
abbrev Disturbance (user : Uid) :=
  {entry : Uid × Deed String // (entry.1 ≠ 0 ∧ entry.1 ≠ user) ∨ entry.1 = user ∧ Considerate entry.2}

/-- What happens before a call takes its effect, and how it goes. -/
structure ParentTurn (user : Uid) where
  meanwhile : List (Disturbance user)
  fault : Option OsError
  fresh : Nat
  umask : Mode

structure ParentWorld where
  tree : DirectoryTree String
  descriptors : List Nat

def ParentWorld.disturbed {user : Uid} (world : ParentWorld) (meanwhile : List (Disturbance user)) : ParentWorld :=
  {world with tree := Run.run attempt world.tree (meanwhile.map Subtype.val)}

namespace ParentCall
variable {user : Uid}

def failure (error : OsError) : {β : Type} → ParentCall β → β
  | _,openRoot => .error (.os error)
  | _,openAt _ _ => .error (.os error)
  | _,mkdirAt _ _ _ => .error (.os error)
  | _,fstat _ => .error (.os error)
  | _,fchmod _ _ => .error (.os error)
  | _,close _ => .error (.os error)

def mayFail {β : Type} : ParentCall β → Bool
  | close _ => false
  | _ => true

/-- O_DIRECTORY | O_NOFOLLOW -/
def opened (world : ParentWorld) : Option Nat → Except ParentError Nat × ParentWorld
  | none => (.error (.os .fileNotFound),world)
  | some next =>
    if (world.tree next).any Node.isDirectory then (.ok next,{world with descriptors := next::world.descriptors})
    else (.error (.os .other),world)

def observed (world : ParentWorld) : Option (Node String) → Except ParentError DirectoryStat × ParentWorld
  | none => (.error (.os .other),world)
  | some node => (.ok ⟨node.isDirectory,node.owner,node.mode⟩,world)

def changed (world : ParentWorld) : Option (DirectoryTree String) → Except ParentError Unit × ParentWorld
  | none => (.error (.os .other),world)
  | some tree => (.ok (),{world with tree})

def served (root : Nat) (turn : ParentTurn user) : {β : Type} → ParentCall β → ParentWorld → β × ParentWorld
  | _,openRoot,world => opened world (some root)
  | _,openAt directory part,world => opened world (child world.tree directory part)
  | _,mkdirAt directory part mode,world =>
    if (child world.tree directory part).isSome then (.error (.os .fileExists),world)
    else changed world (perform user world.tree
      (.make directory part turn.fresh (.directory (fun _ => none)) (mode &&& ~~~turn.umask)))
  | _,fstat descriptor,world => observed world (world.tree descriptor)
  | _,fchmod descriptor mode,world => changed world (perform user world.tree (.chmod descriptor mode))
  | _,close descriptor,world => (.ok (),{world with descriptors := world.descriptors.erase descriptor})

def machine (user : Uid) (root : Nat) : Machine ParentCall (ParentTurn user) ParentWorld where
  perform turn call world :=
    match turn.fault.filter (fun _ => call.mayFail) with
    | some error => (call.failure error,world.disturbed turn.meanwhile)
    | none => served root turn call (world.disturbed turn.meanwhile)

end ParentCall

def privateDirectoryMode : Mode := 0o700#12

end Proactive.Store
