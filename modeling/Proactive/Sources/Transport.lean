import Proactive.Situations.Inputs

/-! What the Google readers share: one response for each GET request, in the
order of the requests, and the failures that a read can end with. The requests
themselves (addresses and query fields) are left out. -/
namespace Proactive.Sources
open Proactive.Store Proactive.Situations

abbrev Body := List UInt8

def textBody (text : String) : Body := text.toList.flatMap String.utf8EncodeChar

inductive LimitReason | response | sync
deriving DecidableEq, Repr

structure HttpResponse where
  statusCode : Int
  body : Body
  limitReason : Option LimitReason
deriving DecidableEq, Repr

inductive GoogleTransportErrorCode | network | timeout | unknown
deriving DecidableEq, Repr

inductive TransportFailure
  | invalidGrant
  | transport (errorCode : GoogleTransportErrorCode)
deriving DecidableEq, Repr

/-- The answer to every request of one read, by the number of requests before it. -/
abbrev Transport := Nat → Except TransportFailure HttpResponse

def Transport.answers (responses : Nat → HttpResponse) : Transport := fun index => .ok (responses index)

/-- How a read ends without a result: with the reader's own error, with what the
transport raised, or with an exception that no clause of the reader names. -/
inductive ReadFailure (ε : Type)
  | provider (error : ε)
  | transport (failure : TransportFailure)
  | raised (error : Raised)
deriving DecidableEq, Repr

abbrev Read (ε α : Type) := Except (ReadFailure ε) α

inductive ProviderErrorCode | http4xx | http5xx | resourceLimit | unknown
deriving DecidableEq, Repr

def ProviderErrorCode.sourceCode : ProviderErrorCode → SourceErrorCode
  | .http4xx => .http4xx
  | .http5xx => .http5xx
  | .resourceLimit => .resourceLimit
  | .unknown => .unknown

def GoogleTransportErrorCode.sourceCode : GoogleTransportErrorCode → SourceErrorCode
  | .network => .network
  | .timeout => .timeout
  | .unknown => .unknown

def httpOk : Int := 200

def httpServerErrorMin : Int := 500

def httpServerErrorMax : Int := 600

/-- `text[:size]`. -/
def sliceTo (size : Nat) (text : String) : String := String.ofList (text.toList.take size)

end Proactive.Sources
