import SpacewalkAcquire.Http.Exchange

/-!
# HTTP on the wire

* `Request.wire` : the bytes of a request that asks the server to close the connection behind its reply;
* `Reply.ofBytes?` : the reply in all the bytes of a connection; its headers tell how the content is framed.
-/

namespace SpacewalkAcquire.Http

namespace Request

/-- What a request asks the server for: path and query. -/
def target (r : Request) : String :=
  (if r.url.pathText.isEmpty then "/" else r.url.pathText) ++
    (match r.url.query with | some query => "?" ++ query | none => "")

def authority (r : Request) : String := (r.url.hostText?.getD "") ++ Url.portText r.url.port?

def headerLine (header : String × String) : String := header.1 ++ ": " ++ header.2 ++ "\r\n"

def wire (r : Request) : Bytes :=
  let framing := if r.verb = .post then [("content-length", toString r.body.length)] else []
  let headers := [("host", r.authority), ("accept", "*/*"), ("connection", "close")] ++ r.headers.entries ++ framing
  Text.toUtf8 (r.verb.text ++ " " ++ r.target ++ " HTTP/1.1\r\n" ++ String.join (headers.map headerLine) ++ "\r\n") ++
    r.body

end Request

/-- The first line without its end, and what follows it. -/
def readLine (input : Bytes) : Option (Bytes × Bytes) :=
  match input.dropWhile (· ≠ 10) with
  | [] => none
  | _ :: rest =>
    let line := input.takeWhile (· ≠ 10)
    some (if line.getLast? = some 13 then line.dropLast else line, rest)

theorem readLine_length {input line rest : Bytes} (h : readLine input = some (line, rest)) :
    rest.length < input.length := by
  unfold readLine at h
  split at h
  · contradiction
  · next e =>
    have := (List.dropWhile_sublist (· ≠ 10) (l := input)).length_le
    rw [e] at this
    simp only [Option.some.injEq, Prod.mk.injEq] at h
    rw [← h.2]
    simp only [List.length_cons] at this
    omega

def readHeader (line : Bytes) : String × Bytes :=
  (Text.ofUtf8Lossy (line.takeWhile (· ≠ 58)), (line.dropWhile (· ≠ 58)).drop 1)

/-- The headers up to a blank line, and what follows it. -/
def readHeaders (input : Bytes) : Option (List (String × Bytes) × Bytes) :=
  match _h : readLine input with
  | none => none
  | some (line, rest) =>
    if line.isEmpty then some ([], rest)
    else (readHeaders rest).map fun p => (readHeader line :: p.1, p.2)
termination_by input.length
decreasing_by exact readLine_length ‹_›

def chunkSize? (line : Bytes) : Option Nat :=
  let digits := line.takeWhile fun b => (Percent.hexValue? b.toNat).isSome
  if digits.isEmpty then none
  else some (digits.foldl (fun n b => 16 * n + (Percent.hexValue? b.toNat).getD 0) 0)

/-- The chunks of content, and whether the last one arrived. -/
def readChunks (input : Bytes) : List Bytes × Bool :=
  match _h : readLine input with
  | none => ([], false)
  | some (line, rest) =>
    match chunkSize? line with
    | none => ([], false)
    | some 0 => ([], true)
    | some n =>
      if rest.length < n then ([rest], false)
      else
        let behind := rest.drop n
        let (more, terminated) := readChunks (if behind.head? = some 13 then behind.drop 2 else behind.drop 1)
        (rest.take n :: more, terminated)
termination_by input.length
decreasing_by
  have := readLine_length ‹_›
  split <;> simp only [List.length_drop] <;> omega

def readStatus? (line : Bytes) : Option UInt16 :=
  let code := ((line.dropWhile (· ≠ 32)).drop 1).takeWhile (· ≠ 32)
  (Text.ofUtf8? code).bind fun s => Text.readCode? s.toList

namespace Reply

def announcedLength? (headers : List (String × Bytes)) : Option Nat :=
  let r : Reply := ⟨okStatus, headers, .untilClose, []⟩
  (r.textHeader? "content-length").bind fun s => Text.readDigits? s.toList

def isChunked (headers : List (String × Bytes)) : Bool :=
  let r : Reply := ⟨okStatus, headers, .untilClose, []⟩
  (r.textHeader? "transfer-encoding").any fun s => Text.asciiLower s.toList = "chunked".toList

/-- The reply with its content, of which the headers tell the framing. -/
def framed (status : UInt16) (headers : List (String × Bytes)) (content : Bytes) : Reply :=
  if isChunked headers then
    let (chunks, terminated) := readChunks content
    ⟨status, headers, .chunked terminated, chunks⟩
  else match announcedLength? headers with
    | some n => ⟨status, headers, .sized n, [content]⟩
    | none => ⟨status, headers, .untilClose, [content]⟩

def ofBytes? (input : Bytes) : Option Reply := do
  let (line, rest) ← readLine input
  let status ← readStatus? line
  let (headers, content) ← readHeaders rest
  return framed status headers content

end Reply

end SpacewalkAcquire.Http
