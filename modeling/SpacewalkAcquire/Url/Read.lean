import SpacewalkAcquire.Text.Blank
import SpacewalkAcquire.Text.Numeral
import SpacewalkAcquire.Url.LocalPath

/-!
# Reading URLs

* `Url.read` : the URL that a text spells, or the first thing wrong with it;
* `Url.resolve` : the URL to which a reference leads from a base.

Control characters and spaces around the text, and tabs and line ends anywhere in it, do not count.
-/

namespace SpacewalkAcquire.Url

/-- The characters that count. -/
def significant (cs : List Char) : List Char := cs.filter fun c => !isIgnored c

def trimmed (s : String) : List Char := Text.trimWith (fun c => c.toNat ≤ 0x20) s.toList

def isSchemeChar (c : Char) : Bool := c.isAlphanum || c == '+' || c == '-' || c == '.'

/-- The scheme at the start, in small letters, and what follows its `:`. -/
def cutScheme? (cs : List Char) : Option (String × List Char) :=
  match Text.cutAt ':' cs with
  | some (name, rest) =>
    match significant name with
    | first :: more =>
      if first.isAlpha && more.all isSchemeChar then
        some (String.ofList (Text.asciiLower (first :: more)), rest)
      else none
    | [] => none
  | none => none

def endsPath (c : Char) : Bool := c == '?' || c == '#'

def isSlash (special : Bool) (c : Char) : Bool := c == '/' || (special && c == '\\')

def readTail (special : Bool) (cs : List Char) : Option String × Option String :=
  let set := if special then Percent.specialQuery else Percent.query
  let (body, fragment) := match Text.cutAt '#' cs with
    | some (body, fragment) => (body, some (String.ofList (Percent.encode Percent.fragment fragment)))
    | none => (cs, none)
  match body with
  | '?' :: query => (some (String.ofList (Percent.encode set query)), fragment)
  | _ => (none, fragment)

def cutLastAt (cs : List Char) : Option (List Char × List Char) :=
  (Text.cutAt '@' cs.reverse).map fun p => (p.2.reverse, p.1.reverse)

/-- User name and password in front of the last `@` of an authority, and what follows. -/
def readUserinfo (special : Bool) (cs : List Char) :
    Except UrlError (String × Option String × List Char) :=
  let ends (c : Char) := isSlash special c || endsPath c
  let authority := cs.takeWhile fun c => !ends c
  let rest := cs.dropWhile fun c => !ends c
  match cutLastAt authority with
  | none => .ok ("", none, cs)
  | some ([], host) => if host.isEmpty && !rest.isEmpty then .error .emptyHost else .ok ("", none, host ++ rest)
  | some (userinfo, host) =>
    let coded (part : List Char) := String.ofList (Percent.encode Percent.userinfo part)
    match Text.cutAt ':' userinfo with
    | none => .ok (coded userinfo, none, host ++ rest)
    | some (name, []) => .ok (coded name, none, host ++ rest)
    | some (name, password) => .ok (coded name, some (coded password), host ++ rest)

/-- The characters of a host, up to a delimiter; a `:` between brackets is none. -/
def cutHost (special : Bool) : Bool → List Char → List Char × List Char
  | _, [] => ([], [])
  | inside, c :: rest =>
    if (c == ':' && !inside) || isSlash special c || endsPath c then ([], c :: rest)
    else
      let (host, behind) := cutHost special (if c == '[' then true else if c == ']' then false else inside) rest
      (c :: host, behind)

/-- The port behind a `:`, `none` for the default port of the scheme, and what follows. -/
def readPort (scheme : String) (cs : List Char) : Except UrlError (Option UInt16 × List Char) :=
  let digits := cs.takeWhile Char.isDigit
  let rest := cs.dropWhile Char.isDigit
  if (rest.head?.any fun c => !(isSlash true c || endsPath c)) then .error .badPort
  else if digits.isEmpty then .ok (none, rest)
  else match Text.readUnsigned? 65535 digits with
    | none => .error .badPort
    | some n =>
      let port := UInt16.ofNat n
      .ok (if defaultPort? scheme = some port then none else some port, rest)

def cutPort (scheme : String) (cs : List Char) : Except UrlError (Option UInt16 × List Char) :=
  match cs with
  | ':' :: rest => readPort scheme rest
  | _ => .ok (none, cs)

def readAuthority (scheme : String) (cs : List Char) : Except UrlError (Authority × List Char) := do
  let special := isSpecial scheme
  let (username, password, cs) ← readUserinfo special cs
  let (hostText, rest) := cutHost special false cs
  if special && hostText.isEmpty then throw .emptyHost
  let host ← Host.read special hostText
  if host = .empty && rest.head? = some ':' then throw .emptyHost
  let (port, rest) ← cutPort scheme rest
  if host = .empty && (!username.isEmpty || password.isSome) then throw .emptyHost
  return (⟨username, password, host, port⟩, rest)

/-- A path would be read as an authority, as it starts with two slashes. -/
def looksLikeAuthority : List String → Bool
  | "" :: _ :: _ => true
  | _ => false

def readPathAndTail (scheme : String) (authority : Option Authority) (cs : List Char) : Url :=
  let special := isSpecial scheme
  let path := Path.read special (cs.takeWhile fun c => !endsPath c)
  let (query, fragment) := readTail special (cs.dropWhile fun c => !endsPath c)
  ⟨scheme, authority, .segments path, authority.isNone && looksLikeAuthority path, query, fragment⟩

def readHierarchy (scheme : String) (cs : List Char) : Except UrlError Url := do
  let (authority, rest) ← readAuthority scheme cs
  return readPathAndTail scheme (some authority) rest

def bareHost (host : Host) : Authority := ⟨"", none, host, none⟩

/-- The `file` URL with a host and what follows it. A drive letter at the start of the path takes the host away. -/
def readLocal (host : Host) (readPath : List Char → LocalPath.Reading) (cs : List Char) : Url :=
  let path := readPath (cs.takeWhile fun c => !endsPath c)
  let (query, fragment) := readTail true (significant (cs.dropWhile fun c => !endsPath c))
  ⟨"file", some (bareHost (if path.onDrive then .empty else host)), .segments path.segments, false, query, fragment⟩

/-- The `file` URL behind its scheme and two slashes. A drive letter is no host, and this machine needs none; the path
then stands behind a slash of its own. -/
def readLocalHost (cs : List Char) : Except UrlError Url := do
  let ends (c : Char) := isSlash true c || endsPath c
  let hostText := significant (cs.takeWhile fun c => !ends c)
  let rest := cs.dropWhile fun c => !ends c
  if Path.isDriveLetter hostText then return readLocal .empty (LocalPath.read .rooted) cs
  let host ← if hostText.isEmpty then .ok .empty else Host.readSpecial hostText
  if host = .empty || host = .name "localhost" then return readLocal .empty (LocalPath.read .rooted) rest
  return readLocal host LocalPath.readBehindHost rest

def behindSlash? (cs : List Char) : Option (List Char) :=
  match cs.dropWhile isIgnored with
  | c :: rest => if isSlash true c then some rest else none
  | [] => none

def readFile (cs : List Char) : Except UrlError Url :=
  match behindSlash? cs, (behindSlash? cs).bind behindSlash? with
  | _, some rest => readLocalHost rest
  | some _, none => .ok (readLocal .empty (LocalPath.read .unread) cs)
  | none, none => .ok (readLocal .empty (LocalPath.read .rooted) cs)

def readBehindScheme (scheme : String) (behind : List Char) : Except UrlError Url :=
  let cs := significant behind
  if scheme = "file" then readFile behind
  else if isSpecial scheme then readHierarchy scheme (cs.dropWhile (isSlash true))
  else match cs with
    | '/' :: '/' :: rest => readHierarchy scheme rest
    | '/' :: _ => .ok (readPathAndTail scheme none cs)
    | _ =>
      let path := String.ofList (Percent.encode Percent.controls (cs.takeWhile fun c => !endsPath c))
      let (query, fragment) := readTail false (cs.dropWhile fun c => !endsPath c)
      .ok ⟨scheme, none, .undivided path, false, query, fragment⟩

/-- An undivided path at the end of a URL loses its last spaces. -/
def settle (u : Url) : Url :=
  match u.path, u.query, u.fragment with
  | .undivided path, none, none =>
    { u with path := .undivided (String.ofList (Text.trimEndWith (· == ' ') path.toList)) }
  | _, _, _ => u

def read (s : String) : Except UrlError Url :=
  match cutScheme? (trimmed s) with
  | some (scheme, rest) => readBehindScheme scheme rest
  | none => .error .noScheme

/-- The URL to which a reference without scheme leads from `base`. -/
def resolveRelative (base : Url) (cs : List Char) : Except UrlError Url :=
  let special := isSpecial base.scheme
  match cs with
  | [] => .ok { base with fragment := none }
  | '#' :: _ => .ok { base with fragment := (readTail special cs).2 }
  | '?' :: _ =>
    let (query, fragment) := readTail special cs
    .ok { base with query := query, fragment := fragment }
  | c :: rest =>
    if isSlash true c then
      match rest with
      | d :: behind =>
        if isSlash true d then
          readHierarchy base.scheme (if c == '/' && d == '/' then behind else behind.dropWhile (isSlash true))
        else .ok (readPathAndTail base.scheme base.authority cs)
      | [] => .ok (readPathAndTail base.scheme base.authority cs)
    else
      let above := match base.path with
        | .segments segments => segments.dropLast
        | .undivided _ => []
      let path := cs.takeWhile fun c => !endsPath c
      let (query, fragment) := readTail special (cs.dropWhile fun c => !endsPath c)
      .ok { base with
        path := .segments (Path.extend above (Path.pieces (Path.slashes special path)))
        query := query
        fragment := fragment }

/-- The URL to which `reference` leads from `base`, whose path is divided. -/
def resolve (base : Url) (reference : String) : Except UrlError Url :=
  match cutScheme? (trimmed reference) with
  | some (scheme, rest) =>
    let cs := significant rest
    if scheme = base.scheme && isSpecial scheme && (cs.takeWhile (isSlash true)).length < 2 then
      resolveRelative base cs
    else readBehindScheme scheme rest
  | none => resolveRelative base (significant (trimmed reference))

/-- The URL with another path. A `?` or `#` in it is part of the path, and what sets the path off stays as it is. -/
def withPath (u : Url) (path : String) : Url :=
  match u.path with
  | .undivided _ =>
    let coded := match path.toList with
      | '/' :: rest => ['%', '2', 'F'] ++ Percent.encode Percent.controls (significant rest)
      | cs => Percent.encode Percent.controls (significant cs)
    { u with path := .undivided (String.ofList coded) }
  | .segments _ =>
    let cs := significant path.toList
    if u.scheme = "file" then
      let read := if u.host?.isSome then LocalPath.readBehindHost else LocalPath.read .unread
      { u with path := .segments (read path.toList).segments }
    else if !isSpecial u.scheme && cs.head?.any endsPath then { u with path := .segments [] }
    else { u with path := .segments (Path.read (isSpecial u.scheme) cs) }

/-- The URL with another scheme. Only schemes of one sort can be exchanged, and a special one needs a host; a port
that is the default of the new scheme is left out. -/
def withScheme? (u : Url) (scheme : String) : Option Url :=
  if isSpecial scheme != isSpecial u.scheme then none
  else if scheme = "file" && u.authority.isSome then none
  else if isSpecial scheme && u.host?.isNone then none
  else some { u with
    scheme := scheme
    authority := u.authority.map fun a =>
      { a with port := a.port.filter fun p => defaultPort? scheme ≠ some p } }

def withoutTail (u : Url) : Url := settle { u with query := none, fragment := none }

def withoutUserinfo (u : Url) : Url :=
  { u with authority := u.authority.map fun a => { a with username := "", password := none } }

end SpacewalkAcquire.Url
