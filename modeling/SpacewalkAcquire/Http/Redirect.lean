import SpacewalkAcquire.Http.Exchange

/-!
# Redirects

* `Http.redirection?` : the request to which a reply redirects;
* `Http.send` : sends a request and follows redirects, as far as `longestChain` allows.

A redirect whose location cannot be read is an answer like any other. A redirected request tells where it comes from,
keeps its headers, and loses its authorization when it goes to another host or port.
-/

namespace SpacewalkAcquire.Http

/-- The replies that redirect: with the request as it is, or as one that only gets. -/
inductive Redirect where
  | same
  | asGet
  deriving DecidableEq, Repr

def Redirect.ofStatus? (status : UInt16) : Option Redirect :=
  if status = 301 || status = 302 || status = 303 then some .asGet
  else if status = 307 || status = 308 then some .same
  else none

def location? (url : Url) (reply : Reply) : Option Url := do
  let value ← reply.header? "location"
  let text ← Text.ofUtf8? value
  (url.resolve text).toOption

/-- What a redirected request says about where it comes from: nothing when it leaves `https`. -/
def referer? (source target : Url) : Option String :=
  if source.scheme = "https" && target.scheme = "http" then none
  else some { source.withoutUserinfo with fragment := none }.text

def sameServer (a b : Url) : Bool := a.hostText? = b.hostText? && a.effectivePort? = b.effectivePort?

def without (headers : OrderedMap String String) (names : List String) : OrderedMap String String :=
  names.foldl OrderedMap.erase headers

def bodyHeaders : List String := ["transfer-encoding", "content-encoding", "content-type", "content-length"]

/-- The headers that one server must not learn from another. -/
def privateHeaders : List String :=
  ["authorization", "cookie", "cookie2", "proxy-authorization", "www-authenticate"]

def moved (r : Request) (target : Url) : Request :=
  let headers := match referer? r.url target with
    | some source => r.headers.insert "referer" source
    | none => r.headers
  { r with url := target, headers := if sameServer r.url target then headers else without headers privateHeaders }

def asGet (r : Request) : Request :=
  { r with verb := .get, headers := without r.headers bodyHeaders, body := [] }

/-- The request to which a reply redirects. -/
def redirection? (r : Request) (reply : Reply) : Option Request := do
  let kind ← Redirect.ofStatus? reply.status
  let target ← location? r.url reply
  match kind with
  | .same => some (moved r target)
  | .asGet => some (moved (asGet r) target)

/-- The most requests that serve one, the first one included. -/
def longestChain : Nat := 3

def tooManyRedirects (url : Url) : String :=
  s!"error following redirect for url ({url.text}): too many redirects"

def noReply (url : Url) (why : String) : String := s!"error sending request for url ({url.text}): {why}"

/-- Sends a request and follows at most `hops` redirects. -/
def follow {m : Type → Type} [Monad m] (exchange : Request → m Answer) :
    Nat → Request → m (Except String Reply)
  | hops, r => do
    match ← exchange r with
    | .unreachable why => return .error (noReply r.url why)
    | .broken why => return .error (noReply r.url why)
    | .reply reply =>
      match redirection? r reply with
      | none => return .ok reply
      | some next =>
        match hops with
        | 0 => return .error (tooManyRedirects r.url)
        | hops + 1 => follow exchange hops next

def send {m : Type → Type} [Monad m] (exchange : Request → m Answer) (r : Request) : m (Except String Reply) :=
  follow exchange (longestChain - 1) r

end SpacewalkAcquire.Http
