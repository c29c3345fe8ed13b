import SpacewalkAcquire.Failure
import SpacewalkAcquire.OrderedMap

/-!
# Credentials

`Credentials` are what a login returns, name by name. `Credentials.headers` picks the five that every request must
carry and adds the header that tells how many redirects are followed; it fails with the first one that is absent.
-/

namespace SpacewalkAcquire

/-- What a login returned, in the order of the answer. -/
abbrev Credentials := OrderedMap String String

namespace Credentials

/-- The credentials that every request must carry, in the order in which they are looked for. -/
def required : List String :=
  ["X-RHN-Server-Id", "X-RHN-Auth-User-Id", "X-RHN-Auth", "X-RHN-Auth-Server-Time", "X-RHN-Auth-Expire-Offset"]

/-- The header that tells how many redirects are followed. -/
def redirectCapability : String × String := ("X-RHN-Transport-Capability", "follow-redirects=3")

def serverId? (credentials : Credentials) : Option String := credentials.get? "X-RHN-Server-Id"

/-- The named credentials as headers, behind those of `headers`. -/
def collect (credentials : Credentials) (headers : OrderedMap String String) :
    List String → Except Failure (OrderedMap String String)
  | [] => .ok headers
  | name :: rest =>
    match credentials.get? name with
    | some value => collect credentials (headers.insert name value) rest
    | none => .error (.missingCredential name)

def headers (credentials : Credentials) : Except Failure (OrderedMap String String) := do
  let collected ← collect credentials .empty required
  return collected.insert redirectCapability.1 redirectCapability.2

end Credentials

end SpacewalkAcquire
