import SpacewalkAcquire.Url.Domain
import SpacewalkAcquire.Url.Ip

/-!
# URLs

A `Url` is a scheme, an optional authority, a path, and an optional query and fragment, all but the host as text
that is already percent-encoded. `Url.text` writes it. The schemes of `Url.defaultPort?` and `file` are special: their
hosts are domains or IP addresses and their paths have at least one segment; the host of any other scheme is opaque.

* `Host.readSpecial`, `Host.readOpaque` : the two readings of a host; `Host.read` takes the one or the other;
* `Url.host?`, `Url.hostText?`, `Url.port?`, `Url.pathText` : the parts as a request needs them.
-/

namespace SpacewalkAcquire

inductive UrlError where
  | noScheme
  | emptyHost
  | badDomain
  | badPort
  | badIpv4
  | badIpv6
  | badHostCharacter
  deriving DecidableEq, Repr

def UrlError.message : UrlError → String
  | noScheme => "relative URL without a base"
  | emptyHost => "empty host"
  | badDomain => "invalid international domain name"
  | badPort => "invalid port number"
  | badIpv4 => "invalid IPv4 address"
  | badIpv6 => "invalid IPv6 address"
  | badHostCharacter => "invalid domain character"

inductive Host where
  | empty
  | name (s : String)
  | ipv4 (a : Ipv4)
  | ipv6 (a : Ipv6)
  deriving DecidableEq, Repr

namespace Host

def text : Host → String
  | empty => ""
  | name s => s
  | ipv4 a => a.text
  | ipv6 a => "[" ++ a.text ++ "]"

/-- What an opaque host must not hold. -/
def isForbidden (c : Char) : Bool :=
  ['\x00', '\t', '\n', '\r', ' ', '#', '/', ':', '<', '>', '?', '@', '[', '\\', ']', '^', '|'].contains c

/-- The address between brackets, the first of which has been read. -/
def readBrackets (cs : List Char) : Except UrlError Host :=
  if cs.getLast? = some ']' then
    match Ipv6.read? cs.dropLast with
    | some a => .ok (.ipv6 a)
    | none => .error .badIpv6
  else .error .badIpv6

/-- The host of a URL whose scheme is not special: an address in brackets, or any text without a delimiter. -/
def readOpaque (cs : List Char) : Except UrlError Host :=
  match cs with
  | [] => .ok .empty
  | '[' :: rest => readBrackets rest
  | _ =>
    if cs.any isForbidden then .error .badHostCharacter
    else .ok (.name (String.ofList (Percent.encode Percent.controls cs)))

/-- The host of a URL whose scheme is special: an IP address or a domain. -/
def readSpecial (cs : List Char) : Except UrlError Host :=
  match cs with
  | '[' :: rest => readBrackets rest
  | _ =>
    match Domain.toAscii? (Percent.decode (Text.toUtf8 (String.ofList cs))) with
    | none => .error .badDomain
    | some domain =>
      if domain.isEmpty then .error .emptyHost
      else if Ipv4.endsInNumber domain.toList then
        match Ipv4.read? domain.toList with
        | some a => .ok (.ipv4 a)
        | none => .error .badIpv4
      else .ok (.name domain)

def read (special : Bool) (cs : List Char) : Except UrlError Host := if special then readSpecial cs else readOpaque cs

end Host

structure Authority where
  username : String
  password : Option String
  host : Host
  /-- The port, if it is not the default of the scheme. -/
  port : Option UInt16
  deriving DecidableEq, Repr

/-- A path of segments, or a text that is not divided. -/
inductive UrlPath where
  | segments (segments : List String)
  | undivided (text : String)
  deriving DecidableEq, Repr

def UrlPath.text : UrlPath → String
  | segments ss => String.join (ss.map ("/" ++ ·))
  | undivided s => s

structure Url where
  scheme : String
  authority : Option Authority
  path : UrlPath
  /-- A dot sets the path off where there is no authority, lest an empty first segment be read as one. -/
  dotted : Bool
  query : Option String
  fragment : Option String
  deriving DecidableEq, Repr

namespace Url

/-- A tab or line end, which counts nowhere in a URL. -/
def isIgnored (c : Char) : Bool := c == '\t' || c == '\n' || c == '\r'

def defaultPort? (scheme : String) : Option UInt16 :=
  match scheme with
  | "http" | "ws" => some 80
  | "https" | "wss" => some 443
  | "ftp" => some 21
  | _ => none

/-- The schemes whose URLs name a host on a network, or a file. -/
def isSpecial (scheme : String) : Bool := (defaultPort? scheme).isSome || scheme == "file"

def userinfoText (a : Authority) : String :=
  match a.username.isEmpty, a.password with
  | true, none => ""
  | _, none => a.username ++ "@"
  | _, some password => a.username ++ ":" ++ password ++ "@"

def portText : Option UInt16 → String
  | some port => ":" ++ toString port.toNat
  | none => ""

/-- What stands between the scheme and the path. -/
def authorityText (u : Url) : String :=
  match u.authority with
  | some a => "//" ++ userinfoText a ++ a.host.text ++ portText a.port
  | none => if u.dotted then "/." else ""

def text (u : Url) : String :=
  u.scheme ++ ":" ++ u.authorityText ++ u.path.text ++
    (match u.query with | some q => "?" ++ q | none => "") ++
    (match u.fragment with | some f => "#" ++ f | none => "")

/-- The host, `none` if there is none or it is empty. -/
def host? (u : Url) : Option Host :=
  match u.authority with
  | some a => if a.host = .empty then none else some a.host
  | none => none

def hostText? (u : Url) : Option String := u.host?.map Host.text

/-- The port, if it is written and not the default of the scheme. -/
def port? (u : Url) : Option UInt16 := u.authority.bind Authority.port

/-- The port to which a request goes. -/
def effectivePort? (u : Url) : Option UInt16 := u.port? <|> defaultPort? u.scheme

def pathText (u : Url) : String := u.path.text

end Url

end SpacewalkAcquire
