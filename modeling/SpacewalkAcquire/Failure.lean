/-!
# Failures

`Failure` lists the causes for which a request, or the whole run, can fail. `Failure.message` words a cause,
`Failure.category` names its kind, and `Failure.report` is what the front end is told: the wording alone for an
HTTP status, the wording behind its category for all else.
-/

namespace SpacewalkAcquire

/-- Why a request or the whole run failed. -/
inductive Failure where
  | configuration (field reason : String)
  | tls (reason : String)
  | notRegistered
  /-- Login was refused or gave an unusable answer. -/
  | authentication (message : String)
  /-- The login answer lacks a credential that every request must carry. -/
  | missingCredential (field : String)
  /-- No base channel could be determined. -/
  | channelResolution (reason : String)
  | hostMismatch (requested configured : String)
  /-- The server answered with a status other than success; `drain` is a failure while its body was discarded. -/
  | httpStatus (status : UInt16) (reason : String) (drain : Option Failure)
  | missingField (field : String)
  /-- The body could not be received or stored. -/
  | transfer (message : String) (cause : Option String)
  /-- The server could not be reached or broke off. -/
  | network (message : String) (cause : Option String)
  | malformed (message : String)
  /-- A pipe or a file failed. -/
  | pipe (message cause : String)
  deriving Repr

namespace Failure

instance : Inhabited Failure := ⟨.notRegistered⟩

def message : Failure → String
  | configuration field reason => s!"Configuration field '{field}' is invalid: {reason}"
  | tls reason => s!"Bad TLS configuration: {reason}"
  | notRegistered => "This system is not registered with the spacewalk server"
  | authentication message => message
  | missingCredential field => s!"Missing required login information {field}"
  | channelResolution reason => s!"Unable to resolve base channel: {reason}"
  | hostMismatch requested configured =>
    s!"Host '{requested}' does not match the configured server '{configured}'"
  | httpStatus status reason _ => s!"{status.toNat}  {reason}"
  | missingField field => s!"Message is missing required field '{field}'"
  | transfer message _ => s!"Transfer failed: {message}"
  | network message _ => s!"Network error: {message}"
  | malformed message => s!"Malformed message: {message}"
  | pipe message _ => s!"IO error: {message}"

def category : Failure → String
  | configuration .. => "ConfigError"
  | tls .. => "BadTlsConfig"
  | notRegistered => "NotRegistered"
  | authentication .. => "AuthenticationError"
  | missingCredential .. => "MissingAuthField"
  | channelResolution .. => "ChannelResolutionError"
  | hostMismatch .. => "HostMismatch"
  | httpStatus .. => "HttpStatusError"
  | missingField .. => "MissingField"
  | transfer .. => "TransferError"
  | network .. => "NetworkError"
  | malformed .. => "ProtocolError"
  | pipe .. => "IoError"

/-- The wording of the failure underneath, where there is one. -/
def cause? : Failure → Option String
  | transfer _ cause => cause
  | network _ cause => cause
  | pipe _ cause => some cause
  | _ => none

/-- What the front end is told: the `message`, behind its `category` unless it is an HTTP status. -/
def report (e : Failure) : String :=
  match e with
  | httpStatus .. => e.message
  | _ => s!"{e.category}: {e.message}"

/-- The reason code for the front end, which only an `httpStatus` has. -/
def reasonCode? : Failure → Option String
  | httpStatus status _ _ => some s!"HttpError{status.toNat}"
  | _ => none

end Failure

end SpacewalkAcquire
