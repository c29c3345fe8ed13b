import SpacewalkAcquire.Message
import SpacewalkAcquire.Text.Blank
import SpacewalkAcquire.Text.Numeral
import SpacewalkAcquire.Text.Split
import SpacewalkAcquire.Text.Utf8

/-!
# The wire form of messages

* `Message.wire` : a status line, a line for each field, and a blank line;
* `Message.read` : the next message of a byte string, with the bytes behind it;
* `Message.readAll` : every message and every error until the input ends.

A line ends at a line feed; carriage returns before it do not count. Blank lines end a message, and before a
message they carry nothing. `Message.WireSafe` says which messages survive the wire unchanged.
-/

namespace SpacewalkAcquire

namespace Message

def fieldLine (field : String × String) : String := field.1 ++ ": " ++ field.2 ++ "\n"

/-- The wire form: status line, field lines, and a blank line. -/
def wire (m : Message) : String :=
  toString m.code.toNat ++ " " ++ m.text ++ "\n" ++ String.join (m.fields.entries.map fieldLine) ++ "\n"

/-- No line feed, and no white space at either end. -/
def Tidy (s : String) : Prop := '\n' ∉ s.toList ∧ Text.trim s = s

/-- Text, names and values are `Tidy`, and no name has a colon: they can be told from their separators. -/
def WireSafe (m : Message) : Prop :=
  Tidy m.text ∧ ∀ field ∈ m.fields.entries, Tidy field.1 ∧ ':' ∉ field.1.toList ∧ Tidy field.2

/-- What follows the bytes of an input: the front end has `closed` it, or reading on is `broken`. -/
inductive Ending where
  | closed
  | broken
  deriving DecidableEq, Repr

def readFailure : Failure := .pipe "Failed to read from the front end" "the pipe is broken"

def Ending.failure? : Ending → Option Failure
  | closed => none
  | broken => some readFailure

/-- The outcome of reading one item: nothing is left, or an item or an error and the bytes behind it. -/
inductive Next (α : Type) where
  | stop (failure : Option Failure)
  | item (value : Except Failure α) (rest : Bytes)

/-- The bytes before the first line feed, and those behind it if there is one. -/
def cutLine : Bytes → Bytes × Option Bytes
  | [] => ([], none)
  | b :: rest =>
    if b = 10 then ([], some rest)
    else
      let (line, behind) := cutLine rest
      (b :: line, behind)

/-- The text of a line without the line feed and the carriage returns at its end. -/
def lineText (line : Bytes) : Except Failure String :=
  match Text.readUtf8 line with
  | .ok text => .ok (String.ofList (Text.trimEndWith (fun c => c == '\r' || c == '\n') text.toList))
  | .error fault => .error (.malformed s!"input is not valid UTF-8: {fault.message}")

/-- The next line. A last line without a line feed is a line, unless the input is `broken`. -/
def nextLine (ending : Ending) (input : Bytes) : Next String :=
  if input.isEmpty then .stop ending.failure?
  else match cutLine input with
    | (line, some rest) => .item (lineText (line ++ [10])) rest
    | (line, none) => match ending with
      | .closed => .item (lineText line) []
      | .broken => .stop ending.failure?

theorem cutLine_length {input line rest : Bytes} (h : cutLine input = (line, some rest)) :
    rest.length < input.length := by
  induction input generalizing line with
  | nil => simp [cutLine] at h
  | cons b bs ih =>
    simp only [cutLine] at h
    split at h
    · simp only [Prod.mk.injEq, Option.some.injEq] at h
      simp [h.2]
    · simp only [Prod.mk.injEq] at h
      have := ih (Prod.ext rfl h.2)
      simp only [List.length_cons]
      omega

theorem nextLine_length {ending : Ending} {input rest : Bytes} {value : Except Failure String}
    (h : nextLine ending input = .item value rest) : rest.length < input.length := by
  unfold nextLine at h
  split at h
  · contradiction
  · next hne =>
    have hpos : 0 < input.length := by
      cases input with
      | nil => simp at hne
      | cons => simp
    split at h
    · next hc => simp only [Next.item.injEq] at h; exact h.2 ▸ cutLine_length hc
    · split at h
      · simp only [Next.item.injEq] at h; simpa [← h.2] using hpos
      · contradiction

/-- Reads a status line: a code, and after the first space a text. -/
def ofStatusLine (line : String) : Except Failure Message :=
  let (code, text) := (Text.cutAt ' ' line.toList).getD (line.toList, [])
  match Text.readCode? code with
  | some code => .ok (plain code (Text.trim (String.ofList text)))
  | none => .error (.malformed s!"invalid message code in '{line}'")

/-- Reads a field line: a name, and after the first `:` a value. -/
def ofFieldLine (line : String) : Except Failure (String × String) :=
  match Text.cutAt ':' line.toList with
  | some (name, value) => .ok (Text.trim (String.ofList name), Text.trim (String.ofList value))
  | none => .error (.malformed s!"header line without ':' in '{line}'")

/-- Reads fields into `m` up to a blank line or the end of the input. -/
def readFields (ending : Ending) (m : Message) (input : Bytes) : Next Message :=
  match _h : nextLine ending input with
  | .stop none => .item (.ok m) []
  | .stop (some failure) => .stop (some failure)
  | .item (.error failure) rest => .item (.error failure) rest
  | .item (.ok line) rest =>
    if line.isEmpty then .item (.ok m) rest
    else match ofFieldLine line with
      | .error failure => .item (.error failure) rest
      | .ok (name, value) => readFields ending (m.set name value) rest
termination_by input.length
decreasing_by exact nextLine_length ‹_›

/-- The next message. A message that the end of the input cuts short counts as far as it was read. -/
def read (ending : Ending) (input : Bytes) : Next Message :=
  match _h : nextLine ending input with
  | .stop failure => .stop failure
  | .item (.error failure) rest => .item (.error failure) rest
  | .item (.ok line) rest =>
    if line.isEmpty then read ending rest
    else match ofStatusLine line with
      | .error failure => .item (.error failure) rest
      | .ok m => readFields ending m rest
termination_by input.length
decreasing_by exact nextLine_length ‹_›

theorem readFields_length {ending : Ending} {m : Message} {input rest : Bytes} {value : Except Failure Message}
    (h : readFields ending m input = .item value rest) : rest.length ≤ input.length := by
  fun_induction readFields ending m input with
  | case1 => simp only [Next.item.injEq] at h; simp [← h.2]
  | case2 => contradiction
  | case3 _ _ _ _ hl => simp only [Next.item.injEq] at h; exact h.2 ▸ Nat.le_of_lt (nextLine_length hl)
  | case4 _ _ _ _ hl => simp only [Next.item.injEq] at h; exact h.2 ▸ Nat.le_of_lt (nextLine_length hl)
  | case5 _ _ _ _ hl => simp only [Next.item.injEq] at h; exact h.2 ▸ Nat.le_of_lt (nextLine_length hl)
  | case6 _ _ _ _ hl _ _ _ _ ih => exact Nat.le_trans (ih h) (Nat.le_of_lt (nextLine_length hl))

theorem read_length {ending : Ending} {input rest : Bytes} {value : Except Failure Message}
    (h : read ending input = .item value rest) : rest.length < input.length := by
  fun_induction read ending input with
  | case1 => contradiction
  | case2 _ _ _ hl => simp only [Next.item.injEq] at h; exact h.2 ▸ nextLine_length hl
  | case3 _ _ _ hl _ ih => exact Nat.lt_trans (ih h) (nextLine_length hl)
  | case4 _ _ _ hl => simp only [Next.item.injEq] at h; exact h.2 ▸ nextLine_length hl
  | case5 _ _ _ hl => exact Nat.lt_of_le_of_lt (readFields_length h) (nextLine_length hl)

/-- Every message and every error until the input ends. -/
def readAll (ending : Ending) (input : Bytes) : List (Except Failure Message) :=
  match _h : read ending input with
  | .stop none => []
  | .stop (some failure) => [.error failure]
  | .item value rest => value :: readAll ending rest
termination_by input.length
decreasing_by exact read_length ‹_›

end Message

end SpacewalkAcquire
