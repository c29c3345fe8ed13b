import SpacewalkAcquire.Method

/-!
# Worlds

A `World` is everything around the method as one value: files, a server, and the pipe to the front end.
`World.environment` is the environment in it, so a run becomes a function from world to world.

* the server answers a request by itself and the requests before it; what does not reach it is not recorded;
* the pipe takes bytes as long as there is room, and some of its flushes may fail.
-/

namespace SpacewalkAcquire

/-- The pipe to the front end. -/
structure Outbox where
  written : Bytes
  /-- The bytes that it still takes, if there is a limit. -/
  room : Option Nat
  /-- The number of flushes so far, failed ones included. -/
  flushes : Nat
  /-- The flushes that fail, counted from one. -/
  failing : List Nat
  deriving DecidableEq, Repr

namespace Outbox

def unlimited : Outbox := ⟨[], none, 0, []⟩

def full : String := "write limit reached"

def lost : String := "flush failed"

/-- The pipe after a write; of what has no `room` the first bytes are taken. -/
def write (o : Outbox) (bytes : Bytes) : Except String Unit × Outbox :=
  match o.room with
  | none => (.ok (), { o with written := o.written ++ bytes })
  | some n =>
    (if bytes.length ≤ n then .ok () else .error full,
      { o with written := o.written ++ bytes.take n, room := some (n - bytes.length) })

def flush (o : Outbox) : Except String Unit × Outbox :=
  let n := o.flushes + 1
  (if n ∈ o.failing then .error lost else .ok (), { o with flushes := n })

end Outbox

/-- Everything around the method. -/
structure World where
  files : FileTree
  certificateFault : Bytes → Option String
  /-- What becomes of a request after others, the first one first. -/
  server : List Http.Request → Http.Request → Http.Answer
  requests : List Http.Request
  outbox : Outbox

namespace World

/-- The world after a change of its `files`, if there is one. -/
def afterFiles (w : World) : Except FileError FileTree → Except FileError Unit × World
  | .ok files => (.ok (), { w with files := files })
  | .error e => (.error e, w)

def exchange (w : World) (request : Http.Request) : Http.Answer × World :=
  match w.server w.requests request with
  | .unreachable why => (.unreachable why, w)
  | answer => (answer, { w with requests := w.requests ++ [request] })

def environment : Environment (StateM World) where
  readFile path w := (w.files.read path, w)
  createFile path w := w.afterFiles (w.files.create path)
  appendFile path chunk w := w.afterFiles (w.files.append path chunk)
  flushFile _ w := (.ok (), w)
  removeFile path w := w.afterFiles (w.files.remove path)
  certificateFault content w := (w.certificateFault content, w)
  exchange _ request w := w.exchange request
  write bytes w :=
    let (result, outbox) := w.outbox.write bytes
    (result, { w with outbox := outbox })
  flush w :=
    let (result, outbox) := w.outbox.flush
    (result, { w with outbox := outbox })

end World

end SpacewalkAcquire
