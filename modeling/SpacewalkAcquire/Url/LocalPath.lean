import SpacewalkAcquire.Url.Path

/-!
# Paths of `file` URLs

The path of a `file` URL may start with a drive letter, which is written with a colon, is never taken away, and takes
the place of a host.

* `LocalPath.Reading` : a path on the way, as text;
* `LocalPath.Reading.add` : the path after one more piece between slashes;
* `LocalPath.Reading.segments` : the segments of a path that is complete;
* `LocalPath.read`, `LocalPath.readBehindHost` : the path that a text spells.

Tabs and line ends in a piece do not count, but they let a drive letter that stands before them end its segment.
-/

namespace SpacewalkAcquire.LocalPath

def isNormalDrive (cs : List Char) : Bool := Path.isDriveLetter cs && cs.getLast? = some ':'

/-- A path that is being read. -/
structure Reading where
  /-- What has been read, held backwards. Where a segment follows it ends in a slash, or is empty and stands behind
  one. -/
  before : List Char
  onDrive : Bool
  deriving DecidableEq, Repr

namespace Reading

def unread : Reading := ⟨[], false⟩

def rooted : Reading := ⟨['/'], false⟩

/-- All that has been read is one character and a drive letter. -/
def isBareDrive : List Char → List Char → Bool
  | [], _ :: drive => isNormalDrive drive
  | [_], drive => isNormalDrive drive
  | _, _ => false

def runs (piece : List Char) : List (List Char) :=
  Text.splitOn '\t' (piece.map fun c => if Url.isIgnored c then '\t' else c)

/-- Reads the runs of a piece into a segment. A slash divides a drive letter from a run that follows it, and the first
character of the segment then belongs to the text before. -/
def readRuns (before segment : List Char) : List (List Char) → List Char × List Char
  | [] => (before, segment)
  | run :: rest =>
    let coded := Percent.encode Percent.path run
    if !run.isEmpty && isBareDrive before segment then
      readRuns (segment.take 1 ++ before) (segment.drop 1 ++ '/' :: coded) rest
    else readRuns before (segment ++ coded) rest

/-- Text held backwards without its last `/`, where a segment that is no drive letter stands before that, itself behind
a `/`. -/
def dropSlash (before : List Char) : List Char :=
  match before with
  | '/' :: above =>
    let segment := (above.takeWhile (· ≠ '/')).reverse
    if above.contains '/' && !Path.looksLikeDrive segment then above else before
  | _ => before

/-- Among slashes, text held backwards holds a drive letter and nothing else. -/
def isDriveOnly (before : List Char) : Bool :=
  match before.dropWhile (· = '/') with
  | mark :: letter :: rest => isNormalDrive [letter, mark] && rest.all (· = '/')
  | _ => false

/-- Text held backwards without what follows its last `/`, unless that or the only segment is a drive letter. -/
def dropSegment (before : List Char) : List Char :=
  if isNormalDrive (before.takeWhile (· ≠ '/')).reverse || isDriveOnly before then before
  else before.dropWhile (· ≠ '/')

/-- The text above, held backwards; a `/` is put behind it where another piece follows. -/
def ascend (before : List Char) (last : Bool) : List Char :=
  let above := dropSegment (dropSlash before)
  if last || above.isEmpty || above.head? = some '/' then above else '/' :: above

def add (r : Reading) (piece : List Char) (last : Bool) : Reading :=
  let (before, segment) := readRuns r.before [] (runs piece)
  if Path.isDoubleDot segment then { r with before := ascend before last }
  else if Path.isSingleDot segment then { r with before := before }
  else
    let isDrive := before = ['/'] && Path.isDriveLetter segment
    let written := if isDrive then segment.take 1 ++ [':'] else segment
    ⟨(if last then [] else ['/']) ++ written.reverse ++ before, r.onDrive || isDrive⟩

def addAll (r : Reading) : List (List Char) → Reading
  | [] => r
  | [piece] => r.add piece true
  | piece :: rest => addAll (r.add piece false) rest

/-- The segments of a path. Slashes at its start count as one. -/
def segments (r : Reading) : List String :=
  (Text.splitOn '/' (r.before.reverse.dropWhile (· = '/'))).map String.ofList

end Reading

def read (start : Reading) (cs : List Char) : Reading := start.addAll (Text.splitOn '/' (Path.slashes true cs))

/-- The path that a text spells behind a host, with or without its first slash. -/
def readBehindHost (cs : List Char) : Reading :=
  match Path.slashes true (cs.dropWhile Url.isIgnored) with
  | '/' :: rest => read .rooted rest
  | rest => read .rooted rest

end SpacewalkAcquire.LocalPath
