import SpacewalkAcquire.Text.Split

/-!
# Document paths

The front end asks for paths such as `/dists/channels:/main/binary-amd64/Packages`; the server keeps the documents
under its request handler, by the label of the base channel. `DocumentPath.toBackend` puts the label in place of the
default channel, `repodata` in place of the first segment for an architecture, and the handler's root in front, each
at most once.
-/

namespace SpacewalkAcquire.DocumentPath

def defaultChannel : String := "dists/channels:/main/"

def frontRoot : String := "/dists/"

def backendRoot : String := "/XMLRPC/GET-REQ/dists/"

def channelData : String := "/repodata/"

def channelPart (label : String) : String := "dists/channels:/" ++ label ++ "/"

def isArchitectureChar (c : Char) : Bool := c.isAlphanum || c == '_'

/-- The rest of a path that starts with `/binary-` and an architecture's name, behind the slash that follows. -/
def architectureRest? (path : List Char) : Option (List Char) :=
  match Text.stripStart? "/binary-".toList path with
  | some rest => Text.stripStart? ['/'] (rest.dropWhile isArchitectureChar)
  | none => none

/-- The path with its first segment for an architecture replaced by `channelData`. -/
def replaceArchitecture (path : List Char) : List Char :=
  match architectureRest? path with
  | some rest => channelData.toList ++ rest
  | none => match path with
    | [] => []
    | c :: rest => c :: replaceArchitecture rest

def replaceRoot (path : List Char) : List Char :=
  match Text.stripStart? frontRoot.toList path with
  | some rest => backendRoot.toList ++ rest
  | none => path

/-- The server's path of a document, where `label` is that of the base channel. -/
def toBackend (path label : String) : String :=
  String.ofList (replaceRoot (replaceArchitecture
    (Text.replaceFirst defaultChannel.toList (channelPart label).toList path.toList)))

end SpacewalkAcquire.DocumentPath
