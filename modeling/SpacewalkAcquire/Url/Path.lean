import SpacewalkAcquire.Url.Basic

/-!
# Paths of URLs

A path is read piece by piece. A piece `.` adds nothing and a piece `..` takes the segment before it away, also with
the dots percent-encoded; as last pieces both leave an empty segment. A segment that looks like a drive letter is
never taken away.

* `Path.extend` : the segments after further pieces;
* `Path.read` : the segments of a path, which for special schemes a backslash may divide, too.
-/

namespace SpacewalkAcquire.Path

/-- A dot, written as `.` or percent-encoded. -/
def dots : List (List Char) := [['.'], ['%', '2', 'e'], ['%', '2', 'E']]

def isSingleDot (piece : List Char) : Bool := dots.contains piece

def isDoubleDot (piece : List Char) : Bool := dots.any fun a => dots.any fun b => piece == a ++ b

/-- A letter and a colon or bar. -/
def isDriveLetter : List Char → Bool
  | [letter, mark] => letter.isAlpha && (mark == ':' || mark == '|')
  | _ => false

/-- A segment that is a drive letter, or has one before a backslash that divides nothing. -/
def looksLikeDrive : List Char → Bool
  | letter :: mark :: rest => isDriveLetter [letter, mark] && rest.head?.all (· == '\\')
  | _ => false

/-- The segments without the last one, unless that `looksLikeDrive`. -/
def ascend (segments : List String) : List String :=
  match segments.getLast? with
  | some segment => if looksLikeDrive segment.toList then segments else segments.dropLast
  | none => segments

def add (segments : List String) (piece : List Char) (last : Bool) : List String :=
  if isDoubleDot piece then if last then ascend segments ++ [""] else ascend segments
  else if isSingleDot piece then if last then segments ++ [""] else segments
  else segments ++ [String.ofList (Percent.encode Percent.path piece)]

def extend (segments : List String) : List (List Char) → List String
  | [] => segments
  | [piece] => add segments piece true
  | piece :: rest => extend (add segments piece false) rest

def slashes (special : Bool) (cs : List Char) : List Char :=
  if special then cs.map fun c => if c == '\\' then '/' else c else cs

/-- The pieces between each `/`; one at the start divides nothing. -/
def pieces (cs : List Char) : List (List Char) :=
  match cs with
  | '/' :: rest => Text.splitOn '/' rest
  | _ => Text.splitOn '/' cs

/-- The segments of a path. Without characters there is no segment, but for `special` schemes an empty one. -/
def read (special : Bool) (cs : List Char) : List String :=
  if cs.isEmpty then if special then [""] else []
  else extend [] (pieces (slashes special cs))

end SpacewalkAcquire.Path
