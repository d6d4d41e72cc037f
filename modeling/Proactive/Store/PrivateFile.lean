import Mathlib.Logic.Function.Basic
import Proactive.Library.Crowd

/-! Private text files, one system call after the other, in a directory that several processes
have pinned. -/
namespace Proactive.Store
open Proactive.Library

inductive FileKind | regular | symlink | other
deriving DecidableEq, Repr

structure Inode where
  content : List UInt8
  kind : FileKind
  owned : Bool
  links : Nat
  mode : Nat
deriving DecidableEq, Repr

/-- Numbers from `fresh` on are not in use. A number that a descriptor pins is not used again. -/
structure Directory where
  names : String → Option Nat
  inodes : Nat → Inode
  fresh : Nat
  allocated : ∀ name number, names name = some number → number < fresh

namespace Directory

def adjust (directory : Directory) (number : Nat) (change : Inode → Inode) : Directory :=
  {directory with inodes := Function.update directory.inodes number (change (directory.inodes number))}

def create (directory : Directory) (name : String) (mode : Nat) : Directory where
  names := Function.update directory.names name (some directory.fresh)
  inodes := Function.update directory.inodes directory.fresh ⟨[],.regular,true,1,mode⟩
  fresh := directory.fresh + 1
  allocated := by
    intro other number named
    by_cases same : other = name
    · subst same
      simp only [Function.update_self,Option.some.injEq] at named
      omega
    · rw [Function.update_of_ne same] at named
      exact Nat.lt_succ_of_lt (directory.allocated other number named)

def unlink (directory : Directory) (name : String) : Directory where
  names := Function.update directory.names name none
  inodes := match directory.names name with
    | none => directory.inodes
    | some number => Function.update directory.inodes number
      {directory.inodes number with links := (directory.inodes number).links - 1}
  fresh := directory.fresh
  allocated := by
    intro other number named
    by_cases same : other = name
    · subst same
      simp at named
    · rw [Function.update_of_ne same] at named
      exact directory.allocated other number named

/-- Two names of one file stay as they are. -/
def replace (directory : Directory) (source target : String) : Directory :=
  if directory.names source = directory.names target then directory else
    let without := directory.unlink target
    {without with
      names := Function.update (Function.update without.names target (directory.names source)) source none
      allocated := by
        intro other number named
        by_cases moved : other = source
        · subst moved
          simp at named
        rw [Function.update_of_ne moved] at named
        by_cases same : other = target
        · subst same
          rw [Function.update_self] at named
          exact directory.allocated source number named
        · rw [Function.update_of_ne same] at named
          exact without.allocated other number named}

end Directory

inductive PrivateError
  | notFound
  | os
  | unsafePath (reason : String)
  | undecodable
deriving DecidableEq, Repr

structure FileStatus where
  number : Nat
  kind : FileKind
  owned : Bool
  links : Nat
  mode : Nat
  size : Nat
deriving DecidableEq, Repr

def Directory.status (directory : Directory) (number : Nat) : FileStatus :=
  let inode := directory.inodes number
  ⟨number,inode.kind,inode.owned,inode.links,inode.mode,inode.content.length⟩

/-- The calls on the pinned directory and on the open descriptors, which are inode numbers here. -/
inductive Syscall : Type → Type
  | openParent : Syscall (Except PrivateError Unit)
  | openFile (name : String) : Syscall (Except PrivateError Nat)
  | createFile (name : String) (umask : Nat) : Syscall (Except PrivateError Nat)
  | fstat (descriptor : Nat) : Syscall (Except PrivateError FileStatus)
  | stat (name : String) : Syscall (Except PrivateError FileStatus)
  | fchmod (descriptor mode : Nat) : Syscall (Except PrivateError Unit)
  | write (descriptor : Nat) (byte : UInt8) : Syscall (Except PrivateError Unit)
  | read (descriptor offset : Nat) (count : Option Nat) : Syscall (Except PrivateError (List UInt8))
  | fsync (descriptor : Nat) : Syscall (Except PrivateError Unit)
  | fsyncParent : Syscall (Except PrivateError Unit)
  | replace (source target : String) : Syscall (Except PrivateError Unit)
  | unlink (name : String) : Syscall (Except PrivateError Unit)

namespace Syscall

def _privateFileMode : Nat := 0o600

def refused : {β : Type} → Syscall β → β
  | _,openParent => .error .os
  | _,openFile _ => .error .os
  | _,createFile _ _ => .error .os
  | _,fstat _ => .error .os
  | _,stat _ => .error .os
  | _,fchmod _ _ => .error .os
  | _,write _ _ => .error .os
  | _,read _ _ _ => .error .os
  | _,fsync _ => .error .os
  | _,fsyncParent => .error .os
  | _,replace _ _ => .error .os
  | _,unlink _ => .error .os

def served : {β : Type} → Syscall β → Directory → β × Directory
  | _,openParent,directory => (.ok (),directory)
  | _,openFile name,directory =>
    match directory.names name with
    | none => (.error .notFound,directory)
    -- O_NOFOLLOW
    | some number => (if (directory.inodes number).kind = .symlink then .error .os else .ok number,directory)
  | _,createFile name umask,directory =>
    match directory.names name with
    | none => (.ok directory.fresh,directory.create name (_privateFileMode &&& (0o777 ^^^ (umask &&& 0o777))))
    -- O_EXCL
    | some _ => (.error .os,directory)
  | _,fstat descriptor,directory => (.ok (directory.status descriptor),directory)
  | _,stat name,directory =>
    (match directory.names name with
    | none => .error .notFound
    | some number => .ok (directory.status number),directory)
  | _,fchmod descriptor mode,directory => (.ok (),directory.adjust descriptor (fun inode => {inode with mode := mode}))
  | _,write descriptor byte,directory =>
    (.ok (),directory.adjust descriptor (fun inode => {inode with content := inode.content ++ [byte]}))
  | _,read descriptor offset count,directory =>
    let rest := (directory.inodes descriptor).content.drop offset
    (.ok (match count with
      | some count => rest.take count
      | none => rest),directory)
  | _,fsync _,directory => (.ok (),directory)
  | _,fsyncParent,directory => (.ok (),directory)
  | _,replace source target,directory =>
    match directory.names source with
    | none => (.error .notFound,directory)
    | some _ => (.ok (),directory.replace source target)
  | _,unlink name,directory =>
    match directory.names name with
    | none => (.error .notFound,directory)
    | some _ => (.ok (),directory.unlink name)

/-- A call fails without effect where its turn says so. -/
def machine : Machine Syscall Bool Directory where
  perform fails action directory := if fails then (refused action,directory) else served action directory

section served
variable {directory : Directory} {name target : String} {number : Nat}

theorem openFile_absent (absent : directory.names name = none) :
    served (.openFile name) directory = (.error .notFound,directory) := by
  simp [served,absent]

theorem openFile_present (present : directory.names name = some number) : served (.openFile name) directory =
    (if (directory.inodes number).kind = .symlink then .error .os else .ok number,directory) := by
  simp [served,present]

theorem createFile_absent (umask : Nat) (absent : directory.names name = none) : served (.createFile name umask) directory =
    (.ok directory.fresh,directory.create name (_privateFileMode &&& (0o777 ^^^ (umask &&& 0o777)))) := by
  simp [served,absent]

theorem replace_present (present : directory.names name = some number) :
    served (.replace name target) directory = (.ok (),directory.replace name target) := by
  simp [served,present]

theorem unlink_absent (absent : directory.names name = none) :
    served (.unlink name) directory = (.error .notFound,directory) := by
  simp [served,absent]

theorem unlink_present (present : directory.names name = some number) :
    served (.unlink name) directory = (.ok (),directory.unlink name) := by
  simp [served,present]

end served
end Syscall

abbrev Posix (α : Type) := Fallible Syscall PrivateError α

def call {α : Type} (syscall : Syscall (Except PrivateError α)) : Posix α := Fallible.perform syscall

namespace PrivateFile
open Syscall

def _verifyIdentity (observed : FileStatus) : Posix Unit :=
  if observed.kind = .regular ∧ observed.owned = true ∧ observed.links = 1 then pure ()
  else Fallible.raise (.unsafePath "private file identity is unsafe")

def _verifyOpenName (name : String) (descriptor : Nat) : Posix Unit := do
  let observed ← call (.fstat descriptor)
  _verifyIdentity observed
  let current ← call (.stat name)
  if current.number ≠ observed.number then Fallible.raise (.unsafePath "private file identity changed")
  else _verifyIdentity current

def restoreMode (descriptor : Nat) (observed : FileStatus) : Posix Unit :=
  if observed.mode ≠ _privateFileMode then call (.fchmod descriptor _privateFileMode) else pure ()

/-- Closing the descriptor when a check raises is left out. -/
def _openRegular (opening : Syscall (Except PrivateError Nat)) (name : String) : Posix Nat := do
  let descriptor ← call opening
  _verifyIdentity (← call (.fstat descriptor))
  restoreMode descriptor (← call (.fstat descriptor))
  _verifyOpenName name descriptor
  pure descriptor

def unlessNotFound {α : Type} : PrivateError → Posix (Option α)
  | .notFound => pure none
  | error => Fallible.raise error

def _openOptional (name : String) : Posix (Option Nat) :=
  Fallible.handle (do return some (← _openRegular (.openFile name) name)) unlessNotFound

def encode (content : String) : List UInt8 := content.toByteArray.data.toList

def writeBytes (descriptor : Nat) : List UInt8 → Posix Unit
  | [] => pure ()
  | byte::rest => do
    call (.write descriptor byte)
    writeBytes descriptor rest

def unlinkPresent (name : String) : Posix Unit :=
  Fallible.handle (call (.unlink name)) (fun error => if error = .notFound then pure () else Fallible.raise error)

def verifyDestination (name : String) : Option Nat → Posix Unit
  | none => pure ()
  | some descriptor => _verifyOpenName name descriptor

def writePrivateText (name temporaryName : String) (umask : Nat) (content : String) : Posix Unit := do
  call .openParent
  Fallible.finish (do
    let destination ← _openOptional name
    let temporary ← _openRegular (.createFile temporaryName umask) temporaryName
    writeBytes temporary (encode content)
    call (.fsync temporary)
    _verifyOpenName temporaryName temporary
    verifyDestination name destination
    call (.replace temporaryName name)
    _verifyOpenName name temporary
    call .fsyncParent) (unlinkPresent temporaryName)

/-- A text stream reads "\r\n" and "\r" as "\n". -/
def universalNewlines : List Char → List Char
  | [] => []
  | '\r' :: '\n'::rest => '\n'::universalNewlines rest
  | character::rest => (if character = '\r' then '\n' else character)::universalNewlines rest

def decode (bytes : List UInt8) : Option String :=
  (String.fromUTF8? ⟨bytes.toArray⟩).map (fun text => String.ofList (universalNewlines text.toList))

def decoded (bytes : List UInt8) : Posix String :=
  match decode bytes with
  | some text => pure text
  | none => Fallible.raise .undecodable

/-- One byte at a time up to the size seen first, then what may have come after it. -/
def readBytes (descriptor offset : Nat) : Nat → Posix (List UInt8)
  | 0 => call (.read descriptor offset none)
  | count+1 => do
    let first ← call (.read descriptor offset (some 1))
    let rest ← readBytes descriptor (offset + 1) count
    pure (first ++ rest)

def readAll (descriptor : Nat) : Posix String := do
  let size := (← call (.fstat descriptor)).size
  decoded (← readBytes descriptor 0 size)

def readOpened (name : String) : Option Nat → Posix (Option String)
  | none => pure none
  | some descriptor => do
    let content ← readAll descriptor
    _verifyOpenName name descriptor
    pure (some content)

def readPrivateText (name : String) : Posix (Option String) := do
  call .openParent
  readOpened name (← _openOptional name)

def deleteOpened (name : String) : Option Nat → Posix Unit
  | none => pure ()
  | some descriptor => do
    _verifyOpenName name descriptor
    call (.unlink name)
    if (← call (.fstat descriptor)).links ≠ 0 then Fallible.raise (.unsafePath "private file changed while deleted")
    else call .fsyncParent

def deletePrivateFile (name : String) : Posix Unit := do
  call .openParent
  deleteOpened name (← _openOptional name)

end PrivateFile
end Proactive.Store
