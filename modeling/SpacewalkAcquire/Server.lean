import SpacewalkAcquire.Files
import SpacewalkAcquire.Settings
import SpacewalkAcquire.Url.Read

/-!
# The server's configuration

* `Server` : address, use of TLS, certificate files, system id file and time limit;
* `Server.ofSettings` : the configuration that settings describe;
* `Server.ofFile` : the configuration in a settings file, wherever `Settings.Location.choose` found it;
* `Server.serves` : whether a URI names this server; `Server.contentAddress` : the address of a content path.
-/

namespace SpacewalkAcquire

/-- How to talk to the server. -/
structure Server where
  /-- The address of the XML-RPC handler. -/
  base : Url
  useTls : Bool
  certificateFiles : List String
  /-- The file with the identity of the registered system. -/
  systemIdFile : String
  /-- The most seconds that one exchange may take. -/
  timeout : Option Nat
  deriving DecidableEq, Repr

namespace Server

def standardSystemIdFile : String := "/etc/sysconfig/rhn/systemid"

def addressOf (settings : Settings) : Except Failure Url := do
  let raw ← match settings.text? "serverURL" with
    | some raw => pure raw
    | none => throw (.configuration "serverURL" "required key is missing")
  let base ← match Url.read raw with
    | .ok url => pure url
    | .error e => throw (.configuration "serverURL" s!"'{raw}': {e.message}")
  if base.scheme ≠ "http" && base.scheme ≠ "https" then
    throw (.configuration "serverURL" s!"unsupported scheme '{base.scheme}'")
  if base.host?.isNone then throw (.configuration "serverURL" "URL has no host")
  return base

/-- The configuration that `settings` describe. Content is fetched over TLS unless the address is plain or
`useNoSSLForPackages` switches it off; then at least one certificate is needed. -/
def ofSettings (settings : Settings) : Except Failure Server := do
  let base ← addressOf settings
  let useTls := base.scheme = "https" && !settings.flag "useNoSSLForPackages"
  let certificateFiles := settings.list "sslCACert"
  if useTls && certificateFiles.isEmpty then throw (.tls "sslCACert must list at least one CA certificate")
  return {
    base := base
    useTls := useTls
    certificateFiles := certificateFiles
    systemIdFile := (settings.text? "systemIdPath").getD standardSystemIdFile
    timeout := (settings.integer? "timeout").bind fun n => if n > 0 then some n.toNat else none }

def host (s : Server) : String := s.base.hostText?.getD ""

def netloc (s : Server) : String := s.host ++ Url.portText s.base.port?

/-- `uri` names this server: it has the same host and the same written port. -/
def serves (s : Server) (uri : Url) : Bool :=
  uri.hostText? = s.base.hostText? && uri.port? = s.base.port?

def contentAddress (s : Server) (path : String) : Except Failure Url := do
  let base ←
    if s.useTls || s.base.scheme = "http" then pure s.base
    else match s.base.withScheme? "http" with
      | some url => pure url
      | none => throw (.configuration "serverURL" "cannot switch to plain http")
  return (base.withPath path).withoutTail

def ofText (file content : String) : Except Failure Server :=
  match Settings.read content with
  | .ok settings => ofSettings settings
  | .error (.configuration field reason) => .error (.configuration field s!"in file {file}: {reason}")
  | .error failure => .error failure

def ofFile (file : String) (content : Except FileError String) : Except Failure Server :=
  match content with
  | .ok text => ofText file text
  | .error e => .error (.configuration "config" s!"failed to read {file}: {e.message}")

end Server

namespace Settings

/-- Who named a settings file. -/
inductive Origin where
  | commandLine
  | environment
  | standard
  deriving DecidableEq, Repr

structure Location where
  file : String
  origin : Origin
  deriving DecidableEq, Repr

namespace Location

def standardFile : String := "/etc/sysconfig/rhn/up2date"

def variableName : String := "SPACEWALK_CONFIG"

/-- The settings file: the `explicit` one, else the one of the `environment` unless empty, else `standardFile`. -/
def choose (explicit environment : Option String) : Location :=
  match explicit, environment with
  | some file, _ => ⟨file, .commandLine⟩
  | none, some file => if file.isEmpty then ⟨standardFile, .standard⟩ else ⟨file, .environment⟩
  | none, none => ⟨standardFile, .standard⟩

end Location

end Settings

end SpacewalkAcquire
