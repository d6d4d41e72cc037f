import Proactive.Library.Process
import Proactive.Sources.CredentialModels

/-! The credential store over a keyring and two private files: every call as the sequence
of its keyring and file operations, each of which the environment may fail. -/
namespace Proactive.Sources
open Proactive.Library

/-- `profile` is the entry of this state root, `global` the one of the previous layout. -/
inductive KeyringEntry | profile | global
deriving DecidableEq, Repr

inductive PrivateFile | credential | state
deriving DecidableEq, Repr

/-- `unavailable` is `InitError` and `NoKeyringError`, `delete` is `PasswordDeleteError`. -/
inductive KeyringFault | unavailable | delete | other
deriving DecidableEq, Repr

/-- `unsupported` is `PrivateFileUnsupportedError`, `other` every other error of a file. -/
inductive FileFault | unsupported | other
deriving DecidableEq, Repr

inductive CredentialAction : Type → Type
  | getPassword (entry : KeyringEntry) : CredentialAction (Except KeyringFault (Option StoredText))
  | setPassword (entry : KeyringEntry) (password : StoredText) : CredentialAction (Except KeyringFault Unit)
  | deletePassword (entry : KeyringEntry) : CredentialAction (Except KeyringFault Unit)
  | readPrivateText (file : PrivateFile) : CredentialAction (Except FileFault (Option StoredText))
  | writePrivateText (file : PrivateFile) (content : StoredText) : CredentialAction (Except FileFault Unit)
  | deletePrivateFile (file : PrivateFile) : CredentialAction (Except FileFault Unit)

/-- How one operation goes. `late` changes its target and raises nevertheless. -/
inductive Fault | clear | unavailable | refused | failed | late
deriving DecidableEq, Repr

structure CredentialBackends where
  passwords : KeyringEntry → Option StoredText
  files : PrivateFile → Option StoredText

namespace Fault

def effective : Fault → Bool
  | clear | late => true
  | unavailable | refused | failed => false

def keyring : Fault → Option KeyringFault
  | clear => none
  | unavailable => some .unavailable
  | refused => some .delete
  | failed | late => some .other

def file : Fault → Option FileFault
  | clear => none
  | unavailable => some .unsupported
  | refused | failed | late => some .other

end Fault

namespace CredentialBackends

def reply {ε α : Type} (fault : Option ε) (value : α) : Except ε α :=
  match fault with
  | none => .ok value
  | some error => .error error

def change {β : Type} : CredentialAction β → CredentialBackends → CredentialBackends
  | .setPassword entry password,backends => {backends with
      passwords := fun other => if other = entry then some password else backends.passwords other}
  | .deletePassword entry,backends => {backends with
      passwords := fun other => if other = entry then none else backends.passwords other}
  | .writePrivateText file content,backends => {backends with
      files := fun other => if other = file then some content else backends.files other}
  | .deletePrivateFile file,backends => {backends with
      files := fun other => if other = file then none else backends.files other}
  | .getPassword _,backends => backends
  | .readPrivateText _,backends => backends

def answer {β : Type} (fault : Fault) : CredentialAction β → CredentialBackends → β
  | .getPassword entry,backends => reply fault.keyring (backends.passwords entry)
  | .setPassword _ _,_ => reply fault.keyring ()
  | .deletePassword _,_ => reply fault.keyring ()
  | .readPrivateText file,backends => reply fault.file (backends.files file)
  | .writePrivateText _ _,_ => reply fault.file ()
  | .deletePrivateFile _,_ => reply fault.file ()

def machine : Machine CredentialAction Fault CredentialBackends where
  perform fault action backends :=
    (answer fault action backends,if fault.effective then change action backends else backends)

end CredentialBackends

/-- A call of one store object, which holds its `_loaded_version`. -/
abbrev CredentialCall (α : Type) := Call CredentialAction (Option CredentialVersion) CredentialError α

namespace CredentialStore
open CredentialAction CredentialBackends

/-- The marker in what was read of its file, if it is usable. -/
def markerIn : Except FileFault (Option StoredText) → Option CredentialState
  | .ok (some (.state state)) => some state
  | _ => none

def readState : CredentialCall (Option CredentialState) := do
  let serialized ← Call.perform (readPrivateText .state)
  return markerIn serialized

def writeState (state : CredentialState) : CredentialCall Unit := do
  match ← Call.perform (writePrivateText .state (.state state)) with
  | .ok () => return ()
  | .error _ => Call.raise .storage

def writePrivateFile (serialized : StoredText) : CredentialCall Unit := do
  match ← Call.perform (writePrivateText .credential serialized) with
  | .ok () => return ()
  | .error _ => Call.raise .storage

def recordIn : Except FileFault (Option StoredText) → Option StoredText
  | .ok serialized => serialized
  | .error _ => none

def readPrivateFile : CredentialCall (Option StoredText) := do
  let serialized ← Call.perform (readPrivateText .credential)
  return recordIn serialized

def deleteFallback : CredentialCall Unit := do
  match ← Call.perform (deletePrivateFile .credential) with
  | .ok () | .error .unsupported => return ()
  | .error .other => Call.raise .storage

def purgeTombstoned : CredentialCall Unit := do
  deleteFallback
  match ← Call.perform (deletePassword .profile) with
  | .ok () | .error .unavailable | .error .delete => return ()
  | .error .other => Call.raise .storage

def nextEpoch (state : Option CredentialState) : PNat :=
  match state with
  | none => 1
  | some state => state.epoch + 1

def save (credentials : GoogleCredential) (revision : Revision) : CredentialCall Unit := do
  match credentials.rejection with
  | some error => Call.raise error
  | none =>
    let epoch := nextEpoch (← readState)
    let serialized := .envelope epoch revision credentials.toJson
    match ← Call.perform (setPassword .profile serialized) with
    | .error .unavailable =>
      writePrivateFile serialized
      writeState ⟨epoch,revision,.file,false⟩
      Call.write (some (epoch,revision))
    | .error _ => Call.raise .storage
    | .ok () =>
      writeState ⟨epoch,revision,.keyring,false⟩
      deleteFallback
      Call.write (some (epoch,revision))

def migratedMarker : StoredText := .other "proactive-mcp:migrated-to-profile:v1"

def retireGlobal (expected : StoredText) : CredentialCall Unit := do
  match ← Call.perform (getPassword .global) with
  | .error _ => Call.raise .storage
  | .ok none => return ()
  | .ok (some current) =>
    if current = migratedMarker then return ()
    else if current ≠ expected then Call.raise .storage
    else match ← Call.perform (setPassword .global migratedMarker) with
      | .ok () => return ()
      | .error _ => Call.raise .storage

def adopt (serialized : Option StoredText) (backend : CredentialBackend) (retire : Bool)
    (revision : Revision) : CredentialCall (Option GoogleCredential) := do
  match serialized with
  | none => return none
  | some serialized =>
    match parseEnvelope serialized with
    | some (version,credential) =>
      match parseCredentials credential with
      | none => return none
      | some credentials =>
        if retire then retireGlobal credential
        writeState ⟨version.1,version.2,backend,false⟩
        Call.write (some version)
        return some credentials
    | none =>
      match parseCredentials serialized with
      | none => return none
      | some credentials =>
        save credentials revision
        return some credentials

def migrateGlobal (serialized : StoredText) (credentials : GoogleCredential) (revision : Revision) :
    CredentialCall GoogleCredential := do
  match ← Call.perform (setPassword .profile (.envelope 1 revision serialized)) with
  | .error _ => Call.raise .storage
  | .ok () =>
    retireGlobal serialized
    writeState ⟨1,revision,.keyring,false⟩
    deleteFallback
    Call.write (some (1,revision))
    return credentials

/-- `isDefault`: the store is bound to the default state directory. -/
def loadLegacy (isDefault : Bool) (revision : Revision) : CredentialCall (Option GoogleCredential) := do
  match ← Call.perform (getPassword .profile) with
  | .error .unavailable => adopt (← readPrivateFile) .file false revision
  | .error _ => Call.raise .storage
  | .ok (some serialized) => adopt (some serialized) .keyring isDefault revision
  | .ok none =>
    if isDefault then
      match ← Call.perform (getPassword .global) with
      | .error _ => Call.raise .storage
      | .ok none => adopt (← readPrivateFile) .file false revision
      | .ok (some serialized) =>
        if serialized = migratedMarker then adopt (← readPrivateFile) .file false revision
        else match parseCredentials serialized with
          | none => return none
          | some credentials => some <$> migrateGlobal serialized credentials revision
    else adopt (← readPrivateFile) .file false revision

def loadAuthoritativeFile (state : CredentialState) : CredentialCall (Option GoogleCredential) := do
  match ← readPrivateFile with
  | none => return none
  | some serialized =>
    match parseEnvelopedCredentials serialized state.version with
    | none => return none
    | some credentials =>
      match ← Call.perform (setPassword .profile serialized) with
      | .error .unavailable => return some credentials
      | .error _ => Call.raise .storage
      | .ok () =>
        writeState ⟨state.epoch,state.revision,.keyring,false⟩
        deleteFallback
        return some credentials

/-- The revision is the one that an adoption draws. -/
def load (isDefault : Bool) (revision : Revision) : CredentialCall (Option GoogleCredential) := do
  match ← readState with
  | none => loadLegacy isDefault revision
  | some state =>
    Call.write (some state.version)
    if state.tombstone || state.backend == .deleted then
      purgeTombstoned
      return none
    else if state.backend = .file then loadAuthoritativeFile state
    else match ← Call.perform (getPassword .profile) with
      | .error _ => Call.raise .storage
      | .ok none => return none
      | .ok (some serialized) => return parseEnvelopedCredentials serialized state.version

/-- The delete was issued for another credential than the current one. -/
def superseded (loaded : Option CredentialVersion) (state : Option CredentialState) : Bool :=
  match loaded,state with
  | some version,some state => state.version != version
  | _,_ => false

def delete (revision : Revision) : CredentialCall Unit := do
  let state ← readState
  let loaded ← Call.read
  if superseded loaded state then return ()
  else
    let epoch := nextEpoch state
    writeState ⟨epoch,revision,.deleted,true⟩
    Call.write (some (epoch,revision))
    match ← Call.perform (deletePassword .profile) with
    | .error .unavailable | .error .delete =>
      deleteFallback
      Call.raise .storage
    | .error .other => Call.raise .storage
    | .ok () => deleteFallback

theorem run_readState {α : Type} (next : Option CredentialState → CredentialCall α)
    (object : Option CredentialVersion) (fault : Fault) (rest : List Fault) (backends : CredentialBackends) :
    Process.run machine ((readState >>= next) object) (fault::rest) backends =
      Process.run machine (next (markerIn (reply fault.file (backends.files .state))) object) rest
        backends := by
  cases fault <;> rfl

theorem run_readPrivateFile {α : Type} (next : Option StoredText → CredentialCall α)
    (object : Option CredentialVersion) (fault : Fault) (rest : List Fault) (backends : CredentialBackends) :
    Process.run machine ((readPrivateFile >>= next) object) (fault::rest) backends =
      Process.run machine (next (recordIn (reply fault.file (backends.files .credential))) object) rest
        backends := by
  cases fault <;> rfl

theorem run_getPassword {α : Type} (entry : KeyringEntry)
    (next : Except KeyringFault (Option StoredText) → CredentialCall α)
    (object : Option CredentialVersion) (fault : Fault) (rest : List Fault) (backends : CredentialBackends) :
    Process.run machine ((Call.perform (getPassword entry) >>= next) object) (fault::rest) backends =
      Process.run machine (next (reply fault.keyring (backends.passwords entry)) object) rest backends := by
  cases fault <;> rfl

def loaded (isDefault : Bool) (revision : Revision) (backends : CredentialBackends) :
    Except CredentialError (Option GoogleCredential) :=
  (Process.finish machine .clear (load isDefault revision none) backends).1.1

theorem finish_readState {α : Type} (next : Option CredentialState → CredentialCall α)
    (object : Option CredentialVersion) (backends : CredentialBackends) :
    Process.finish machine .clear ((readState >>= next) object) backends =
      Process.finish machine .clear (next (markerIn (.ok (backends.files .state))) object) backends := rfl

theorem finish_getPassword {α : Type} (entry : KeyringEntry)
    (next : Except KeyringFault (Option StoredText) → CredentialCall α)
    (object : Option CredentialVersion) (backends : CredentialBackends) :
    Process.finish machine .clear ((Call.perform (getPassword entry) >>= next) object) backends =
      Process.finish machine .clear (next (.ok (backends.passwords entry)) object) backends := rfl

theorem finish_readPrivateFile {α : Type} (next : Option StoredText → CredentialCall α)
    (object : Option CredentialVersion) (backends : CredentialBackends) :
    Process.finish machine .clear ((readPrivateFile >>= next) object) backends =
      Process.finish machine .clear (next (backends.files .credential) object) backends := rfl

section marked
variable {backends : CredentialBackends} {state : CredentialState}
  (marked : backends.files .state = some (.state state)) (isDefault : Bool) (revision : Revision)
include marked

theorem loaded_dead (dead : state.live = false) : loaded isDefault revision backends = .ok none := by
  have purges : (state.tombstone || state.backend == .deleted) = true := by
    rwa [state.live_eq,Bool.not_eq_false'] at dead
  unfold loaded load
  rw [finish_readState,marked]
  dsimp only [markerIn]
  rw [Call.bind_write,if_pos purges]
  rfl

theorem loaded_keyring (kept : state.tombstone = false) (keyring : state.backend = .keyring) :
    loaded isDefault revision backends =
      .ok ((backends.passwords .profile).bind (parseEnvelopedCredentials · state.version)) := by
  have live : (state.tombstone || state.backend == .deleted) = false := by rw [kept,keyring]; rfl
  have apart : ¬state.backend = .file := by rw [keyring]; nofun
  unfold loaded load
  rw [finish_readState,marked]
  dsimp only [markerIn]
  rw [Call.bind_write,live,if_neg Bool.false_ne_true,if_neg apart,finish_getPassword]
  cases backends.passwords .profile <;> rfl

theorem loaded_file (kept : state.tombstone = false) (file : state.backend = .file) :
    loaded isDefault revision backends =
      .ok ((backends.files .credential).bind (parseEnvelopedCredentials · state.version)) := by
  have live : (state.tombstone || state.backend == .deleted) = false := by rw [kept,file]; rfl
  unfold loaded load
  rw [finish_readState,marked]
  dsimp only [markerIn]
  rw [Call.bind_write,live,if_neg Bool.false_ne_true,if_pos file]
  unfold loadAuthoritativeFile
  rw [finish_readPrivateFile]
  cases backends.files .credential with
  | none => rfl
  | some serialized =>
    dsimp only [Option.bind_some]
    cases parseEnvelopedCredentials serialized state.version <;> rfl

end marked

end CredentialStore

inductive StoreCall
  | load (revision : Revision)
  | save (credentials : GoogleCredential) (revision : Revision)
  | delete (revision : Revision)

/-- One call on a numbered store object, under a schedule that a crash cuts short. -/
structure StoreInput where
  object : Nat
  call : StoreCall
  schedule : List Fault

structure CredentialWorld where
  backends : CredentialBackends
  objects : Nat → Option CredentialVersion

namespace CredentialWorld
open CredentialStore

def body (isDefault : Bool) : StoreCall → CredentialCall (Option GoogleCredential)
  | .load revision => load isDefault revision
  | .save credentials revision => do
    save credentials revision
    return none
  | .delete revision => do
    delete revision
    return none

def outcome (isDefault : Bool) (world : CredentialWorld) (input : StoreInput) :
    Option (Except CredentialError (Option GoogleCredential) × Option CredentialVersion) × CredentialBackends :=
  Process.run CredentialBackends.machine (body isDefault input.call (world.objects input.object))
    input.schedule world.backends

/-- A crashed process leaves no object behind. -/
def step (isDefault : Bool) (world : CredentialWorld) (input : StoreInput) : CredentialWorld where
  backends := (world.outcome isDefault input).2
  objects := fun other =>
    if other = input.object then (world.outcome isDefault input).1.bind Prod.snd else world.objects other

def returned (isDefault : Bool) (world : CredentialWorld) (input : StoreInput) : Option GoogleCredential :=
  match (world.outcome isDefault input).1 with
  | some (.ok credentials,_) => credentials
  | _ => none

end CredentialWorld
end Proactive.Sources
