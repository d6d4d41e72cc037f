import Proactive.Cli.Service
import Proactive.Library.Postcondition

/-! The LaunchAgent plist of the watcher: its value, what marks it as managed, and the file that holds it. -/
namespace Proactive.Cli
open Proactive.Library Statement

inductive PlistValue
  | string (text : String)
  | bool (flag : Bool)
  | int (value : Int)
  | array (items : List PlistValue)
  | dict (entries : List (String × PlistValue))

/-- Why `parse_launch_agent_plist` returns no value: bytes that are no property list, a value
outside the typed boundary, or markup that is broken off. -/
inductive PlistFailure | invalidFile | invalidValue | brokenMarkup
deriving DecidableEq, Repr

/-- `plistlib` behind the typed boundary, over the contents `β` of files. -/
class Plistlib (β : Type) where
  parse : β → Except PlistFailure PlistValue
  dumps : PlistValue → β

/-- What an action of the macOS backend can raise; only the first two are caught. -/
inductive DarwinRaised | osError | valueError | expatError
deriving DecidableEq, Repr

def launchAgentLabel : String := "io.github.madrobotnet.proactive-mcp"

def markerKey : String := "PROACTIVE_MCP_MANAGED"

def markerValue : String := "1"

def privateMode : Nat := 0o600

def validatedPath (isFormat : Char → Bool) (path : String) : Except DarwinRaised String :=
  if path.toList.head? ≠ some '/' then .error .valueError
  else if path.toList.any (fun c => isControl c || isFormat c) then .error .valueError
  else .ok path

/-- `path.with_name(f"{path.name}{suffix}")`; the root has no name. -/
def withNameSuffix (path suffix : String) : Except DarwinRaised String :=
  if path.toList.getLast? = some '/' then .error .valueError else .ok (path ++ suffix)

/-- The payload, in the order of its keys. -/
def launchAgentPayload (executable database out err : String) : PlistValue :=
  .dict [
    ("EnvironmentVariables",.dict [("PROACTIVE_DATABASE",.string database),(markerKey,.string markerValue)]),
    ("KeepAlive",.dict [("SuccessfulExit",.bool false)]),
    ("Label",.string launchAgentLabel),
    ("ProcessType",.string "Background"),
    ("ProgramArguments",.array [.string executable,.string "daemon"]),
    ("RunAtLoad",.bool true),
    ("StandardErrorPath",.string err),
    ("StandardOutPath",.string out),
    ("ThrottleInterval",.int 5),
    ("Umask",.int 0o077)]

def PlistValue.get (key : String) : PlistValue → Option PlistValue
  | .dict entries => (entries.find? (fun entry => entry.1 == key)).map Prod.snd
  | _ => none

def PlistValue.isText (text : String) : PlistValue → Bool
  | .string other => other == text
  | _ => false

section plist
variable {β : Type} [Plistlib β]

def renderLaunchAgent (isFormat : Char → Bool) (executable database : String) : Except DarwinRaised β := do
  let executableValue ← validatedPath isFormat executable
  let databaseValue ← validatedPath isFormat database
  let out ← validatedPath isFormat (← withNameSuffix database ".daemon.out.log")
  let err ← validatedPath isFormat (← withNameSuffix database ".daemon.err.log")
  return Plistlib.dumps (launchAgentPayload executableValue databaseValue out err)

/-- `is_managed_launch_agent`: only bytes that are no property list read as a no. -/
def isManagedLaunchAgent (content : β) : Except DarwinRaised Bool :=
  match Plistlib.parse content with
  | .error .invalidFile => .ok false
  | .error .invalidValue => .error .valueError
  | .error .brokenMarkup => .error .expatError
  | .ok loaded => .ok ((loaded.get "Label").any (PlistValue.isText launchAgentLabel) &&
      ((loaded.get "EnvironmentVariables").bind (PlistValue.get markerKey)).any (PlistValue.isText markerValue))

theorem launchAgentPayload_managed {content : β} {executable database out err : String}
    (parsed : Plistlib.parse content = .ok (launchAgentPayload executable database out err)) :
    isManagedLaunchAgent content = .ok true := by
  unfold isManagedLaunchAgent
  rw [parsed]
  rfl

end plist

/-- The file at the place of the plist; `safe` is a regular file of this user with one link. -/
structure PlistFile (β : Type) where
  content : β
  mode : Nat
  safe : Bool
deriving DecidableEq, Repr

/-- The service at launchd: not loaded, loaded, or loaded with a process. -/
inductive Job | absent | waiting | running
deriving DecidableEq, Repr

namespace Job

def loaded : Job → Bool
  | .absent => false
  | .waiting | .running => true

def active : Job → Bool
  | .absent | .waiting => false
  | .running => true

def started (running : Bool) : Job := if running then .running else .waiting

theorem loaded_eq_false {job : Job} : job.loaded = false ↔ job = .absent := by
  cases job with
  | absent => exact iff_of_true rfl rfl
  | waiting => exact iff_of_false (fun same => nomatch same) (fun same => nomatch same)
  | running => exact iff_of_false (fun same => nomatch same) (fun same => nomatch same)

end Job

/-- The part of the host that a service change is about. -/
structure DarwinHost (β : Type) where
  plist : Option (PlistFile β)
  enabled : Bool
  job : Job
deriving DecidableEq, Repr

abbrev Darwin (β α : Type) : Type := Statement (DarwinHost β) DarwinRaised α

/-- Exact restorable bytes and mode of a managed plist. -/
structure ArtifactSnapshot (β : Type) where
  content : β
  mode : Nat
deriving DecidableEq, Repr

section files
variable {β : Type} (fails : Bool)

def readable : Option (PlistFile β) → Except DarwinRaised (Option (PlistFile β))
  | none => .ok none
  | some file => if file.safe then .ok (some file) else .error .valueError

/-- `read_launch_agent_artifact`, with the mode that `artifact_snapshot` adds. -/
def artifactSnapshot : Darwin β (Option (ArtifactSnapshot β)) :=
  if fails then raise .osError else do
    let file ← select DarwinHost.plist
    let found ← ofExcept (readable file)
    return found.map (fun file => ⟨file.content,file.mode⟩)

/-- A file with foreign content is refused, whatever the change is. -/
def requireManaged [Plistlib β] : Option (ArtifactSnapshot β) → Except DarwinRaised Unit
  | none => .ok ()
  | some artifact => do
    let managed ← isManagedLaunchAgent artifact.content
    if managed then return () else .error .valueError

def writeLaunchAgentArtifact [Plistlib β] (content : β) (mode : Nat) : Darwin β Unit := do
  ofExcept (requireManaged (some ⟨content,mode⟩))
  let previous ← artifactSnapshot fails
  ofExcept (requireManaged previous)
  update (fun host => {host with plist := some ⟨content,mode,true⟩})

def deleteLaunchAgentArtifact [Plistlib β] : Darwin β Unit := do
  match ← artifactSnapshot fails with
  | none => return ()
  | some artifact =>
    ofExcept (requireManaged (some artifact))
    update (fun host => {host with plist := none})

variable {fails} {host left : DarwinHost β}

theorem readable_ok_iff {file found : Option (PlistFile β)} :
    readable file = .ok found ↔ found = file ∧ ∀ one, file = some one → one.safe = true := by
  cases file with
  | none =>
    refine ⟨fun read => ⟨(Except.ok.inj read).symm,fun _ absent => nomatch absent⟩,?_⟩
    rintro ⟨rfl,_⟩
    rfl
  | some file =>
    dsimp only [readable]
    cases safe : file.safe with
    | true =>
      refine ⟨fun read => ⟨(Except.ok.inj read).symm,?_⟩,?_⟩
      · intro one same
        rw [← Option.some.inj same,safe]
      · rintro ⟨rfl,_⟩
        rfl
    | false =>
      refine iff_of_false (fun read => nomatch read) (fun read => ?_)
      exact Bool.false_ne_true (safe.symm.trans (read.2 file rfl))

theorem run_artifactSnapshot : (artifactSnapshot fails).run host =
    (if fails then .error .osError
      else (readable host.plist).map (Option.map (fun file => ⟨file.content,file.mode⟩)),host) := by
  unfold artifactSnapshot
  cases fails with
  | true => rfl
  | false =>
    rw [if_neg Bool.false_ne_true,run_select_bind]
    cases readable host.plist with
    | error raised => rfl
    | ok found => rfl

def ArtifactSnapshot.file (artifact : ArtifactSnapshot β) : PlistFile β := ⟨artifact.content,artifact.mode,true⟩

theorem artifactSnapshot_ok_iff {found : Option (ArtifactSnapshot β)} :
    (artifactSnapshot fails).run host = (.ok found,left) ↔
      fails = false ∧ left = host ∧ host.plist = found.map ArtifactSnapshot.file := by
  rw [run_artifactSnapshot,Prod.mk.injEq]
  cases fails with
  | true => exact iff_of_false (fun read => nomatch read.1) (fun read => nomatch read.1)
  | false =>
    rw [if_neg Bool.false_ne_true,Outcome.map_ok_iff,eq_comm (a := host),and_comm (a := false = false)]
    refine ⟨?_,?_⟩
    · rintro ⟨⟨file,opened,rfl⟩,same⟩
      obtain ⟨rfl,safe⟩ := readable_ok_iff.mp opened
      refine ⟨⟨same,?_⟩,rfl⟩
      cases present : host.plist with
      | none => rfl
      | some one =>
        obtain ⟨content,mode,kind⟩ := one
        obtain rfl : kind = true := safe _ present
        rfl
    · rintro ⟨⟨same,present⟩,_⟩
      refine ⟨⟨host.plist,readable_ok_iff.mpr ⟨rfl,?_⟩,?_⟩,same⟩
      · intro one there
        rw [present] at there
        obtain ⟨artifact,_,rfl⟩ := Option.map_eq_some_iff.mp there
        rfl
      · rw [present,Option.map_map]
        exact Option.map_id_fun' ▸ rfl

end files
end Proactive.Cli
