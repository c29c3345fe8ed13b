import SpacewalkAcquire.Text.Utf8

/-!
# Text without terminal controls

A terminal takes an escape character and some characters behind it for a command. Where no terminal reads the output,
commands are left out, and so are control characters other than white space.

* `Text.Terminal` : what a terminal is in the midst of, and `Text.Terminal.next`, which follows ECMA-48;
* `Text.plain` : the text without controls.
-/

namespace SpacewalkAcquire.Text

/-- What a terminal is in the midst of. -/
inductive Terminal where
  | text
  | escape
  /-- Behind an escape character and further ones that leave the command open. -/
  | escapeOpen
  | sequence
  | systemCommand
  /-- At the start of a command to a device, in its parameters, and behind them. -/
  | device
  | deviceParameters
  | deviceOpen
  /-- In a string that only its terminator ends. -/
  | string
  deriving DecidableEq, Repr

namespace Terminal

def isWithin (first last : Nat) (c : Char) : Bool := first ≤ c.toNat && c.toNat ≤ last

def holdsTerminator (c : Char) : Bool := (toUtf8 (String.singleton c)).contains 0x9C

def next (t : Terminal) (c : Char) : Terminal :=
  if c = '\x1b' then escape
  else if c = '\x18' || c = '\x1a' then text
  else match t with
  | text => text
  | escape =>
    if c = '[' then sequence
    else if c = ']' then systemCommand
    else if c = 'P' then device
    else if c = 'X' || c = '^' || c = '_' then string
    else if isWithin 0x20 0x2F c then escapeOpen
    else if isWithin 0x30 0x7E c then text
    else escape
  | escapeOpen => if isWithin 0x30 0x7E c then text else escapeOpen
  | sequence => if isWithin 0x40 0x7E c then text else sequence
  | systemCommand => if c = '\x07' then text else systemCommand
  | device =>
    if isWithin 0x20 0x2F c then deviceOpen
    else if isWithin 0x30 0x3F c then deviceParameters
    else if isWithin 0x40 0x7E c then string
    else device
  | deviceParameters =>
    if isWithin 0x20 0x2F c then deviceOpen
    else if isWithin 0x3C 0x7E c then string
    else deviceParameters
  | deviceOpen => if isWithin 0x30 0x7E c then string else deviceOpen
  | string => if holdsTerminator c then text else string

def isSpacing (c : Char) : Bool := c = '\t' || c = '\n' || c = '\x0c' || c = '\x0d'

def isPlain (c : Char) : Bool := isSpacing c || isWithin 0x20 0x7E c || 0x80 ≤ c.toNat

/-- The terminal shows the character; white space also within most commands. -/
def shows (t : Terminal) (c : Char) : Bool :=
  match t with
  | text => isPlain c
  | escape | escapeOpen | sequence => isSpacing c
  | _ => false

end Terminal

/-- The plain part of a text. What follows a character that shows is plain up to the next control; only then does a
command go on that white space has interrupted, unless a character beyond ASCII came between. -/
def plainFrom (t : Terminal) (shown : Bool) : List Char → List Char
  | [] => []
  | c :: rest =>
    if if shown then Terminal.isPlain c else t.shows c then
      c :: plainFrom (if c.toNat < 0x80 then t else .text) true rest
    else plainFrom (t.next c) false rest

def plain (s : String) : String := String.ofList (plainFrom .text false s.toList)

end SpacewalkAcquire.Text
