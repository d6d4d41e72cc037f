import Proactive.Store.PrivateFile

/-! What calls on one directory keep of it and of each other's files, one change at a time. -/
namespace Proactive.Store
open Proactive.Library Syscall PrivateFile

def temporaryName (name token : String) : String := "." ++ name ++ "." ++ token ++ ".tmp"

theorem temporaryName_token {name other token another : String} (lengths : token.length = another.length)
    (same : temporaryName name token = temporaryName other another) : token = another := by
  unfold temporaryName at same
  have lists := congrArg String.toList same
  simp only [String.toList_append] at lists
  rw [List.append_left_inj] at lists
  exact String.toList_inj.mp (List.append_inj_right' lists (by rwa [String.length_toList,String.length_toList]))

inductive PrivateOperation
  | write (umask : Nat) (content : String)
  | read
  | delete
deriving DecidableEq, Repr

/-- The calls of any number of processes. Their random tokens are all different, and none is for a file
that has the name of unfinished text. -/
structure PrivateCalls (ι : Type) where
  name : ι → String
  token : ι → String
  operation : ι → PrivateOperation
  visible : ∀ who other, name who ≠ temporaryName (name other) (token other)
  hex : ∀ who, (token who).length = 16
  distinct : Function.Injective token

namespace PrivateCalls
variable {ι : Type} (calls : PrivateCalls ι)

def temporary (who : ι) : String := temporaryName (calls.name who) (calls.token who)

theorem temporary_inj {who other : ι} : calls.temporary who = calls.temporary other ↔ who = other := by
  constructor
  · intro same
    exact calls.distinct (temporaryName_token ((calls.hex who).trans (calls.hex other).symm) same)
  · intro same
    rw [same]

/-- The names that no call uses for its unfinished text. -/
abbrev Published : Type := {name : String // ∀ who, name ≠ calls.temporary who}

def target (who : ι) : calls.Published :=
  ⟨calls.name who,calls.visible who⟩

/-- What the directory shows under its published names. -/
def shown (directory : Directory) (name : calls.Published) : Option (List UInt8) :=
  (directory.names name.1).map (fun number => (directory.inodes number).content)

/-- The call in one step: what it answers and what it makes of the files. -/
def effect (who : ι) (files : calls.Published → Option (List UInt8)) (answer : Option String)
    (left : calls.Published → Option (List UInt8)) : Prop :=
  match calls.operation who with
  | .write _ content => answer = none ∧ left = Function.update files (calls.target who) (some (encode content))
  | .read => (files (calls.target who)).map decode = answer.map some ∧ left = files
  | .delete => answer = none ∧ left = Function.update files (calls.target who) none

/-- The file is open to be read: no call will write to it any more. -/
def Sealed (directory : Directory) (number : Nat) : Prop :=
  number < directory.fresh ∧ ∀ who, directory.names (calls.temporary who) ≠ some number

/-- What a call may count on while the others act. -/
structure Rely (who : ι) (before after : Directory) : Prop where
  mine : after.names (calls.temporary who) = before.names (calls.temporary who)
  untouched : ∀ number, before.names (calls.temporary who) = some number → after.inodes number = before.inodes number
  closed : ∀ number, calls.Sealed before number →
    calls.Sealed after number ∧ (after.inodes number).content = (before.inodes number).content

theorem rely_refl (who : ι) (directory : Directory) : calls.Rely who directory directory :=
  ⟨rfl,fun _ _ => rfl,fun _ isSealed => ⟨isSealed,rfl⟩⟩

variable {calls} in
theorem Rely.trans {who : ι} {first second third : Directory} (one : calls.Rely who first second)
    (two : calls.Rely who second third) : calls.Rely who first third := by
  refine ⟨two.mine.trans one.mine,fun number named => ?_,fun number isSealed => ?_⟩
  · exact (two.untouched number (one.mine.trans named)).trans (one.untouched number named)
  · obtain ⟨still,content⟩ := one.closed number isSealed
    obtain ⟨last,again⟩ := two.closed number still
    exact ⟨last,again.trans content⟩

/-- A file that was not there at the start is private, has one name, and stands under a published
name only as the whole text of a write to that name. -/
structure Orderly (first : Nat) (directory : Directory) : Prop where
  begun : first ≤ directory.fresh
  single : ∀ name other number, first ≤ number → directory.names name = some number →
    directory.names other = some number → name = other
  hidden : ∀ who number, directory.names (calls.temporary who) = some number → first ≤ number
  owned : ∀ name number, first ≤ number → directory.names name = some number →
    (directory.inodes number).kind = .regular ∧ (directory.inodes number).owned = true ∧ (directory.inodes number).links = 1
  whole : ∀ (name : calls.Published) number, first ≤ number → directory.names name.1 = some number →
    (directory.inodes number).mode = _privateFileMode ∧ ∃ who umask content,
      calls.operation who = .write umask content ∧ calls.target who = name ∧
        (directory.inodes number).content = encode content

/-- The call leaves an orderly directory, and what the other calls count on. -/
def Guaranteed (first : Nat) (who : ι) (before after : Directory) : Prop :=
  calls.Orderly first after ∧ ∀ witness, witness ≠ who → calls.Rely witness before after

variable {calls} {first : Nat} {who : ι} {directory : Directory}

theorem Orderly.guaranteed (orderly : calls.Orderly first directory) : calls.Guaranteed first who directory directory :=
  ⟨orderly,fun witness _ => calls.rely_refl witness directory⟩

theorem Orderly.sealed_of_published (orderly : calls.Orderly first directory) {name : calls.Published} {number : Nat}
    (named : directory.names name.1 = some number) : calls.Sealed directory number := by
  refine ⟨directory.allocated _ _ named,fun other hidden => ?_⟩
  exact name.2 other (orderly.single _ _ _ (orderly.hidden other number hidden) named hidden)

/-- A file that the call may change: its own unfinished one, or for the mode also a sealed one. -/
theorem adjust_rely {number : Nat} {change : Inode → Inode} (orderly : calls.Orderly first directory)
    (mine : directory.names (calls.temporary who) = some number ∨
      calls.Sealed directory number ∧ ∀ inode, (change inode).content = inode.content)
    (witness : ι) (other : witness ≠ who) : calls.Rely witness directory (directory.adjust number change) := by
  refine ⟨rfl,fun hidden named => ?_,fun isSealed closed => ⟨closed,?_⟩⟩
  · refine Function.update_of_ne (fun same => ?_) _ _
    subst same
    rcases mine with owned | ⟨sealedToo,_⟩
    · exact other (calls.temporary_inj.mp (orderly.single _ _ _ (orderly.hidden _ _ named) named owned))
    · exact sealedToo.2 witness named
  · by_cases same : isSealed = number
    · subst same
      rcases mine with owned | ⟨_,keeps⟩
      · exact absurd owned (closed.2 who)
      · simp [Directory.adjust,keeps]
    · simp [Directory.adjust,same]

theorem guaranteed_chmod {number : Nat} (orderly : calls.Orderly first directory)
    (reached : directory.names (calls.temporary who) = some number ∨ calls.Sealed directory number) :
    calls.Guaranteed first who directory (directory.adjust number (fun inode => {inode with mode := _privateFileMode})) := by
  refine ⟨⟨orderly.begun,orderly.single,orderly.hidden,fun name other later named => ?_,fun name other later named => ?_⟩,?_⟩
  · by_cases same : other = number
    · subst same
      simpa [Directory.adjust] using orderly.owned name other later named
    · simpa [Directory.adjust,same] using orderly.owned name other later named
  · by_cases same : other = number
    · subst same
      simpa [Directory.adjust] using (orderly.whole name other later named).2
    · simpa [Directory.adjust,same] using orderly.whole name other later named
  · exact adjust_rely orderly (reached.imp id (fun isSealed => ⟨isSealed,fun _ => rfl⟩))

theorem guaranteed_write {number : Nat} {byte : UInt8} (orderly : calls.Orderly first directory)
    (mine : directory.names (calls.temporary who) = some number) :
    calls.Guaranteed first who directory
      (directory.adjust number (fun inode => {inode with content := inode.content ++ [byte]})) := by
  refine ⟨⟨orderly.begun,orderly.single,orderly.hidden,fun name other later named => ?_,fun name other later named => ?_⟩,?_⟩
  · by_cases same : other = number
    · subst same
      simpa [Directory.adjust] using orderly.owned name other later named
    · simpa [Directory.adjust,same] using orderly.owned name other later named
  · have apart : other ≠ number := by
      intro same
      subst same
      exact name.2 who (orderly.single _ _ _ later named mine)
    simpa [Directory.adjust,apart] using orderly.whole name other later named
  · exact adjust_rely orderly (Or.inl mine)

theorem guaranteed_create {mode : Nat} (orderly : calls.Orderly first directory) :
    calls.Guaranteed first who directory (directory.create (calls.temporary who) mode) := by
  have older {name : String} {number : Nat} (named : directory.names name = some number) : number ≠ directory.fresh :=
    Nat.ne_of_lt (directory.allocated name number named)
  have cases {name : String} {number : Nat} (named : (directory.create (calls.temporary who) mode).names name = some number) :
      name = calls.temporary who ∧ number = directory.fresh ∨
        name ≠ calls.temporary who ∧ directory.names name = some number := by
    by_cases same : name = calls.temporary who
    · subst same
      simp only [Directory.create,Function.update_self,Option.some.injEq] at named
      exact Or.inl ⟨rfl,named.symm⟩
    · exact Or.inr ⟨same,by simpa [Directory.create,same] using named⟩
  refine ⟨⟨Nat.le_succ_of_le orderly.begun,?_,?_,?_,?_⟩,fun witness other => ⟨?_,?_,?_⟩⟩
  · intro name other number later one two
    rcases cases one with ⟨rfl,fresh⟩ | ⟨_,one⟩ <;> rcases cases two with ⟨rfl,again⟩ | ⟨_,two⟩
    · rfl
    · exact absurd fresh (older two)
    · exact absurd again (older one)
    · exact orderly.single _ _ _ later one two
  · intro other number named
    rcases cases named with ⟨_,fresh⟩ | ⟨_,named⟩
    · exact fresh ▸ orderly.begun
    · exact orderly.hidden other number named
  · intro name number later named
    rcases cases named with ⟨_,rfl⟩ | ⟨_,named⟩
    · simp [Directory.create]
    · simpa [Directory.create,older named] using orderly.owned name number later named
  · intro name number later named
    rcases cases named with ⟨same,_⟩ | ⟨_,named⟩
    · exact absurd same (name.2 who)
    · simpa [Directory.create,older named] using orderly.whole name number later named
  · exact Function.update_of_ne (fun same => other (calls.temporary_inj.mp same)) _ _
  · intro number named
    exact Function.update_of_ne (older named) _ _
  · intro number closed
    have apart : number ≠ directory.fresh := Nat.ne_of_lt closed.1
    refine ⟨⟨Nat.lt_succ_of_lt closed.1,fun hidden named => ?_⟩,?_⟩
    · rcases cases named with ⟨_,fresh⟩ | ⟨_,named⟩
      · exact apart fresh
      · exact closed.2 hidden named
    · simp [Directory.create,apart]

theorem unlink_names {name other : String} {number : Nat} :
    (directory.unlink name).names other = some number ↔ other ≠ name ∧ directory.names other = some number := by
  by_cases same : other = name
  · subst same
    simp [Directory.unlink]
  · simp [Directory.unlink,same]

theorem unlink_content (name : String) (number : Nat) :
    ((directory.unlink name).inodes number).content = (directory.inodes number).content := by
  unfold Directory.unlink
  cases directory.names name with
  | none => rfl
  | some removed =>
    by_cases same : number = removed
    · subst same
      simp
    · simp [same]

/-- Only the file of that name is changed. -/
theorem unlink_inode {name : String} {number : Nat} (apart : directory.names name ≠ some number) :
    (directory.unlink name).inodes number = directory.inodes number := by
  unfold Directory.unlink
  cases named : directory.names name with
  | none => rfl
  | some removed =>
    have different : number ≠ removed := fun same => apart (by rw [named,same])
    simp [different]

theorem guaranteed_unlink {name : String} (orderly : calls.Orderly first directory)
    (apart : ∀ witness, witness ≠ who → calls.temporary witness ≠ name) :
    calls.Guaranteed first who directory (directory.unlink name) := by
  have kept {other : String} {number : Nat} (later : first ≤ number) (different : other ≠ name)
      (named : directory.names other = some number) : (directory.unlink name).inodes number = directory.inodes number :=
    unlink_inode (fun removed => different (orderly.single _ _ _ later named removed))
  refine ⟨⟨orderly.begun,?_,?_,?_,?_⟩,fun witness other => ⟨?_,?_,?_⟩⟩
  · intro one two number later first second
    exact orderly.single one two number later (unlink_names.mp first).2 (unlink_names.mp second).2
  · intro other number named
    exact orderly.hidden other number (unlink_names.mp named).2
  · intro other number later named
    obtain ⟨different,named⟩ := unlink_names.mp named
    rw [kept later different named]
    exact orderly.owned other number later named
  · intro other number later named
    obtain ⟨different,named⟩ := unlink_names.mp named
    rw [kept later different named]
    exact orderly.whole other number later named
  · exact Function.update_of_ne (apart witness other) _ _
  · intro number named
    exact kept (orderly.hidden witness number named) (apart witness other) named
  · intro number closed
    exact ⟨⟨closed.1,fun hidden named => closed.2 hidden (unlink_names.mp named).2⟩,unlink_content name number⟩

/-- The call's own unfinished file. -/
structure Holds (calls : PrivateCalls ι) (who : ι) (descriptor : Nat) (content : List UInt8) (directory : Directory) :
    Prop where
  named : directory.names (calls.temporary who) = some descriptor
  content : (directory.inodes descriptor).content = content
  mode : (directory.inodes descriptor).mode = _privateFileMode

theorem Holds.rely {descriptor : Nat} {content : List UInt8} {after : Directory}
    (holds : Holds calls who descriptor content directory) (rely : calls.Rely who directory after) :
    Holds calls who descriptor content after := by
  have same := rely.untouched descriptor holds.named
  exact ⟨rely.mine.trans holds.named,by rw [same]; exact holds.content,by rw [same]; exact holds.mode⟩

section replace
variable {descriptor : Nat} {text : List UInt8}

theorem replace_eq (orderly : calls.Orderly first directory) (holds : Holds calls who descriptor text directory) :
    directory.names (calls.temporary who) ≠ directory.names (calls.name who) := by
  intro same
  have named := holds.named
  exact (calls.target who).2 who
    (orderly.single _ _ _ (orderly.hidden who descriptor named) (same.symm.trans named) named)

theorem replace_names (orderly : calls.Orderly first directory) (holds : Holds calls who descriptor text directory)
    (name : String) : (directory.replace (calls.temporary who) (calls.name who)).names name =
      if name = calls.temporary who then none else if name = calls.name who then some descriptor
      else directory.names name := by
  have moved : (directory.replace (calls.temporary who) (calls.name who)).names = Function.update
      (Function.update (directory.unlink (calls.name who)).names (calls.name who)
        (directory.names (calls.temporary who))) (calls.temporary who) none := by
    unfold Directory.replace
    rw [if_neg (replace_eq orderly holds)]
  rw [moved,holds.named]
  simp only [Function.update_apply,Directory.unlink]
  split
  · rfl
  · split <;> simp [*]

theorem replace_inodes (orderly : calls.Orderly first directory) (holds : Holds calls who descriptor text directory) :
    (directory.replace (calls.temporary who) (calls.name who)).inodes = (directory.unlink (calls.name who)).inodes := by
  unfold Directory.replace
  rw [if_neg (replace_eq orderly holds)]

theorem replace_fresh (orderly : calls.Orderly first directory) (holds : Holds calls who descriptor text directory) :
    (directory.replace (calls.temporary who) (calls.name who)).fresh = directory.fresh := by
  unfold Directory.replace
  rw [if_neg (replace_eq orderly holds)]
  rfl

theorem replace_cases (orderly : calls.Orderly first directory) (holds : Holds calls who descriptor text directory)
    {name : String} {number : Nat}
    (named : (directory.replace (calls.temporary who) (calls.name who)).names name = some number) :
    name = calls.name who ∧ number = descriptor ∨
      name ≠ calls.name who ∧ name ≠ calls.temporary who ∧ directory.names name = some number := by
  rw [replace_names orderly holds] at named
  split at named
  · cases named
  · split at named
    · exact Or.inl ⟨‹_›,(Option.some.inj named).symm⟩
    · exact Or.inr ⟨‹_›,‹_›,named⟩

/-- The file that was replaced is the only one whose links change. -/
theorem replace_inode (orderly : calls.Orderly first directory) (holds : Holds calls who descriptor text directory)
    {name : String} {number : Nat} (later : first ≤ number) (different : name ≠ calls.name who)
    (named : directory.names name = some number) :
    (directory.replace (calls.temporary who) (calls.name who)).inodes number = directory.inodes number := by
  rw [replace_inodes orderly holds]
  exact unlink_inode (fun removed => different (orderly.single _ _ _ later named removed))

theorem guaranteed_replace {umask : Nat} {content : String} (orderly : calls.Orderly first directory)
    (holds : Holds calls who descriptor (encode content) directory)
    (writes : calls.operation who = .write umask content) :
    calls.Guaranteed first who directory (directory.replace (calls.temporary who) (calls.name who)) := by
  have later := orderly.hidden who descriptor holds.named
  have moved : (directory.replace (calls.temporary who) (calls.name who)).inodes descriptor = directory.inodes descriptor :=
    replace_inode orderly holds later (fun same => (calls.target who).2 who same.symm) holds.named
  have elsewhere {name : String} (named : directory.names name = some descriptor) : name = calls.temporary who :=
    orderly.single _ _ _ later named holds.named
  refine ⟨⟨?_,?_,?_,?_,?_⟩,fun witness other => ⟨?_,?_,?_⟩⟩
  · rw [replace_fresh orderly holds]
    exact orderly.begun
  · intro name other number later one two
    rcases replace_cases orderly holds one with ⟨rfl,rfl⟩ | ⟨_,hidden,one⟩ <;>
      rcases replace_cases orderly holds two with ⟨rfl,same⟩ | ⟨_,again,two⟩
    · rfl
    · exact absurd (elsewhere two) again
    · exact absurd (elsewhere (same ▸ one)) hidden
    · exact orderly.single _ _ _ later one two
  · intro other number named
    rcases replace_cases orderly holds named with ⟨_,rfl⟩ | ⟨_,_,named⟩
    · exact later
    · exact orderly.hidden other number named
  · intro name number later named
    rcases replace_cases orderly holds named with ⟨_,rfl⟩ | ⟨different,_,named⟩
    · rw [moved]
      exact orderly.owned _ _ later holds.named
    · rw [replace_inode orderly holds later different named]
      exact orderly.owned name number later named
  · intro name number later named
    rcases replace_cases orderly holds named with ⟨target,rfl⟩ | ⟨different,_,named⟩
    · rw [moved]
      exact ⟨holds.mode,who,umask,content,writes,Subtype.ext target.symm,holds.content⟩
    · rw [replace_inode orderly holds later different named]
      exact orderly.whole name number later named
  · rw [replace_names orderly holds,if_neg (fun same => other (calls.temporary_inj.mp same)),
      if_neg (fun same => (calls.target who).2 witness same.symm)]
  · intro number named
    exact replace_inode orderly holds (orderly.hidden witness number named)
      (fun same => (calls.target who).2 witness same.symm) named
  · intro number closed
    refine ⟨⟨by rw [replace_fresh orderly holds]; exact closed.1,fun hidden named => ?_⟩,?_⟩
    · rcases replace_cases orderly holds named with ⟨_,rfl⟩ | ⟨_,_,named⟩
      · exact closed.2 who holds.named
      · exact closed.2 hidden named
    · rw [replace_inodes orderly holds]
      exact unlink_content _ _

theorem shown_replace (orderly : calls.Orderly first directory) (holds : Holds calls who descriptor text directory) :
    calls.shown (directory.replace (calls.temporary who) (calls.name who)) =
      Function.update (calls.shown directory) (calls.target who) (some text) := by
  funext name
  unfold shown
  rw [replace_names orderly holds,replace_inodes orderly holds,if_neg (name.2 who)]
  by_cases same : name = calls.target who
  · subst same
    simp [target,unlink_content,holds.content]
  · have apart : name.1 ≠ calls.name who := fun equal => same (Subtype.ext equal)
    simp [unlink_content,same,apart]

end replace

theorem shown_unlink (who : ι) (directory : Directory) : calls.shown (directory.unlink (calls.name who)) =
    Function.update (calls.shown directory) (calls.target who) none := by
  funext name
  by_cases same : name = calls.target who
  · subst same
    simp [shown,Directory.unlink,target]
  · have apart : name.1 ≠ calls.name who := fun equal => same (Subtype.ext equal)
    simp only [shown,unlink_content]
    simp [Directory.unlink,apart,same,shown]

theorem shown_unlink_temporary (who : ι) (directory : Directory) :
    calls.shown (directory.unlink (calls.temporary who)) = calls.shown directory := by
  funext name
  simp only [shown,unlink_content]
  simp [Directory.unlink,name.2 who]

theorem shown_create (who : ι) (mode : Nat) (directory : Directory) :
    calls.shown (directory.create (calls.temporary who) mode) = calls.shown directory := by
  funext name
  unfold shown
  simp only [Directory.create,Function.update_of_ne (name.2 who)]
  cases named : directory.names name.1 with
  | none => rfl
  | some number =>
    have older : number ≠ directory.fresh := Nat.ne_of_lt (directory.allocated _ _ named)
    simp [older]

theorem shown_chmod (number mode : Nat) (directory : Directory) :
    calls.shown (directory.adjust number (fun inode => {inode with mode := mode})) = calls.shown directory := by
  funext name
  unfold shown
  refine congrArg (fun content => (directory.names name.1).map content) (funext (fun other => ?_))
  by_cases same : other = number
  · subst same
    simp [Directory.adjust]
  · simp [Directory.adjust,same]

theorem shown_write {number : Nat} (change : Inode → Inode) (orderly : calls.Orderly first directory)
    (mine : directory.names (calls.temporary who) = some number) :
    calls.shown (directory.adjust number change) = calls.shown directory := by
  funext name
  unfold shown
  change (directory.names name.1).map _ = _
  cases named : directory.names name.1 with
  | none => rfl
  | some other =>
    have apart : other ≠ number := by
      intro same
      subst same
      exact name.2 who (orderly.single _ _ _ (orderly.hidden who _ mine) named mine)
    simp [Directory.adjust,apart]

end PrivateCalls
end Proactive.Store
