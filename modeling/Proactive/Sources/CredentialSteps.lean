import Proactive.Sources.Credentials

/-! Saves and deletions operation by operation, and what a load reads of what they leave. -/
namespace Proactive.Sources
open Proactive.Library CredentialBackends

namespace CredentialStore

def stored (fallback : Bool) (serialized : StoredText) : CredentialBackends → CredentialBackends :=
  match fallback with
  | true => change (.writePrivateText .credential serialized)
  | false => change (.setPassword .profile serialized)

def marked (state : CredentialState) : CredentialBackends → CredentialBackends :=
  change (.writePrivateText .state (.state state))

def cleaned : CredentialBackends → CredentialBackends := change (.deletePrivateFile .credential)

def held (fallback : Bool) (backends : CredentialBackends) : Option StoredText :=
  match fallback with
  | true => backends.files .credential
  | false => backends.passwords .profile

theorem stored_marker (fallback : Bool) (serialized : StoredText) (backends : CredentialBackends) :
    (stored fallback serialized backends).files .state = backends.files .state := by
  cases fallback <;> rfl

theorem held_stored (fallback : Bool) (serialized : StoredText) (backends : CredentialBackends) :
    held fallback (stored fallback serialized backends) = some serialized := by
  cases fallback <;> rfl

theorem loaded_back {fallback : Bool} {epoch : PNat} {revision : Revision} (isDefault : Bool)
    (loading : Revision) {backends : CredentialBackends}
    (current : backends.files .state =
      some (.state ⟨epoch,revision,if fallback then .file else .keyring,false⟩)) :
    loaded isDefault loading backends =
      .ok ((held fallback backends).bind (parseEnvelopedCredentials · (epoch,revision))) := by
  cases fallback with
  | true => exact loaded_file current isDefault loading rfl rfl
  | false => exact loaded_keyring current isDefault loading rfl rfl

theorem read_same (fault : Fault) (file : PrivateFile) (backends : CredentialBackends) :
    (machine.perform fault (.readPrivateText file) backends).2 = backends := by
  cases fault <;> rfl

theorem put_clear (password : StoredText) (backends : CredentialBackends) :
    machine.perform .clear (.setPassword .profile password) backends =
      (.ok (),stored false password backends) := rfl

theorem put_unavailable (password : StoredText) (backends : CredentialBackends) :
    machine.perform .unavailable (.setPassword .profile password) backends =
      (.error .unavailable,backends) := rfl

theorem write_clear (content : StoredText) (backends : CredentialBackends) :
    machine.perform .clear (.writePrivateText .credential content) backends =
      (.ok (),stored true content backends) := rfl

theorem mark_clear (state : CredentialState) (backends : CredentialBackends) :
    machine.perform .clear (.writePrivateText .state (.state state)) backends =
      (.ok (),marked state backends) := rfl

theorem clean_cases (fault : Fault) (backends : CredentialBackends) :
    (machine.perform fault (.deletePrivateFile .credential) backends).2 = backends ∨
      (machine.perform fault (.deletePrivateFile .credential) backends).2 = cleaned backends := by
  cases fault with
  | clear => exact Or.inr rfl
  | late => exact Or.inr rfl
  | _ => exact Or.inl rfl

section deletion
variable (revision : Revision)

/-- The deletion once the keyring has answered. -/
def finishing : Except KeyringFault Unit → CredentialCall Unit
  | .error .unavailable | .error .delete => do
    deleteFallback
    Call.raise .storage
  | .error .other => Call.raise .storage
  | .ok () => deleteFallback

def proceed (epoch : PNat) : CredentialCall Unit := do
  writeState ⟨epoch,revision,.deleted,true⟩
  Call.write (some (epoch,revision))
  finishing (← Call.perform (.deletePassword .profile))

theorem delete_eq (object : Option CredentialVersion) : delete revision object =
    .act (.readPrivateText .state) (fun reply =>
      if superseded object (markerIn reply) then .done (.ok (),object)
      else proceed revision (nextEpoch (markerIn reply)) object) := by
  refine congrArg (Process.act _) (funext (fun reply => ?_))
  change (if _ then _ else _ : CredentialCall Unit) object = _
  split
  · rfl
  refine congrArg (Process.act _) (funext (fun reply => ?_))
  cases reply with
  | error error => rfl
  | ok =>
    refine congrArg (Process.act _) (funext (fun reply => ?_))
    cases reply with
    | ok => rfl
    | error error => cases error <;> rfl

theorem proceed_eq (epoch : PNat) (object : Option CredentialVersion) : proceed revision epoch object =
    .act (.writePrivateText .state (.state ⟨epoch,revision,.deleted,true⟩)) (fun reply =>
      match reply with
      | .error _ => .done (.error .storage,object)
      | .ok () => .act (.deletePassword .profile) (fun reply => finishing reply (some (epoch,revision)))) := by
  refine congrArg (Process.act _) (funext (fun reply => ?_))
  cases reply <;> rfl

def settled : Except KeyringFault Unit → Except FileFault Unit → Except CredentialError Unit
  | .ok (),.ok () | .ok (),.error .unsupported => .ok ()
  | _,_ => .error .storage

theorem finishing_eq {reply : Except KeyringFault Unit} (answered : reply ≠ .error .other)
    (object : Option CredentialVersion) : finishing reply object =
      .act (.deletePrivateFile .credential) (fun file => .done (settled reply file,object)) := by
  cases reply with
  | ok =>
    refine congrArg (Process.act _) (funext (fun file => ?_))
    cases file with
    | ok => rfl
    | error error => cases error <;> rfl
  | error error =>
    cases error with
    | other => exact absurd rfl answered
    | unavailable =>
      refine congrArg (Process.act _) (funext (fun file => ?_))
      cases file with
      | ok => rfl
      | error error => cases error <;> rfl
    | delete =>
      refine congrArg (Process.act _) (funext (fun file => ?_))
      cases file with
      | ok => rfl
      | error error => cases error <;> rfl

end deletion

/-- The save's last operations when the keyring took the secret. -/
def overKeyring (epoch : PNat) (revision : Revision) : CredentialCall Unit := do
  writeState ⟨epoch,revision,.keyring,false⟩
  deleteFallback
  Call.write (some (epoch,revision))

/-- The save's last operations when the keyring was unavailable. -/
def overFile (epoch : PNat) (revision : Revision) (serialized : StoredText) : CredentialCall Unit := do
  writePrivateFile serialized
  writeState ⟨epoch,revision,.file,false⟩
  Call.write (some (epoch,revision))

theorem save_rejected {credentials : GoogleCredential} {error : CredentialError}
    (rejected : credentials.rejection = some error) (revision : Revision)
    (object : Option CredentialVersion) :
    save credentials revision object = .done (.error error,object) := by
  unfold save
  rw [rejected]
  rfl

theorem save_eq {credentials : GoogleCredential} (accepted : credentials.rejection = none)
    (revision : Revision) (object : Option CredentialVersion) : save credentials revision object =
      .act (.readPrivateText .state) (fun reply =>
        let epoch := nextEpoch (markerIn reply)
        let serialized := .envelope epoch revision credentials.toJson
        .act (.setPassword .profile serialized) (fun reply =>
          match reply with
          | .ok () => overKeyring epoch revision object
          | .error .unavailable => overFile epoch revision serialized object
          | .error _ => .done (.error .storage,object))) := by
  unfold save
  rw [accepted]
  refine congrArg (Process.act _) (funext (fun reply => ?_))
  refine congrArg (Process.act _) (funext (fun reply => ?_))
  cases reply with
  | ok => rfl
  | error error => cases error <;> rfl

theorem overKeyring_eq (epoch : PNat) (revision : Revision) (object : Option CredentialVersion) :
    overKeyring epoch revision object =
      .act (.writePrivateText .state (.state ⟨epoch,revision,.keyring,false⟩)) (fun reply =>
        match reply with
        | .error _ => .done (.error .storage,object)
        | .ok () => .act (.deletePrivateFile .credential) (fun reply => .done
          (match reply with
          | .ok () | .error .unsupported => (.ok (),some (epoch,revision))
          | .error .other => (.error .storage,object)))) := by
  refine congrArg (Process.act _) (funext (fun reply => ?_))
  cases reply with
  | error error => rfl
  | ok =>
    refine congrArg (Process.act _) (funext (fun reply => ?_))
    cases reply with
    | ok => rfl
    | error error => cases error <;> rfl

theorem overFile_eq (epoch : PNat) (revision : Revision) (serialized : StoredText)
    (object : Option CredentialVersion) : overFile epoch revision serialized object =
      .act (.writePrivateText .credential serialized) (fun reply =>
        match reply with
        | .error _ => .done (.error .storage,object)
        | .ok () => .act (.writePrivateText .state (.state ⟨epoch,revision,.file,false⟩)) (fun reply => .done
          (match reply with
          | .error _ => (.error .storage,object)
          | .ok () => (.ok (),some (epoch,revision))))) := by
  refine congrArg (Process.act _) (funext (fun reply => ?_))
  cases reply with
  | error error => rfl
  | ok =>
    refine congrArg (Process.act _) (funext (fun reply => ?_))
    cases reply <;> rfl

def connected : CredentialBackends :=
  (Process.finish machine .clear (save readonlyCredential 1 none) ⟨fun _ => none,fun _ => none⟩).2

end CredentialStore
end Proactive.Sources
