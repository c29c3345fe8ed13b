import SpacewalkAcquire.Transfer

/-!
# The acquire method

The method announces its capabilities and serves one acquire message after the other, each with a final answer of 201
or 400. A failed request does not end the run; a message that cannot be read or is of no use here does. What it has to
say goes to the environment, unless another listener is given.

* `Method.handle` : what one message leads to;
* `Method.start`, `Method.step` : the beginning of a run, and one item that was read;
* `Method.run` : a whole run over the items of an input, and `Method.exitCode` the code with which it ends.
-/

namespace SpacewalkAcquire.Method

def success : Nat := 0

/-- The exit code of a run that could not start or lost its pipe. -/
def fatal : Nat := 1

def unexpectedMessage : Nat := 100

inductive Flow where
  | proceed
  | stop (code : Nat)
  deriving DecidableEq, Repr

variable {m : Type → Type} [Monad m] (env : Environment m) (sources : Sources m)

/-- Serves a request and gives the final answer. -/
def serve (request : Request) (say : Message → m (Except Failure Unit) := env.send) : SessionT m Message := do
  let result ← ExceptT.lift (Transfer.fetch env sources say request).run
  match result with
  | .ok outcome => return .uriDone request.uri.text request.filename outcome
  | .error failure => return .uriFailure (some request.uri.text) failure

def acquire (message : Message) (say : Message → m (Except Failure Unit) := env.send) : SessionT m Unit := do
  match Request.ofMessage message with
  | .error failure => SessionT.ofEnvironment (say (.uriFailure (message.field? "URI") failure))
  | .ok request =>
    let answer ← serve env sources request say
    SessionT.ofEnvironment (say answer)

def handle (message : Message) (say : Message → m (Except Failure Unit) := env.send) : SessionT m Flow := do
  if message.kind? = some .uriAcquire then
    acquire env sources message say
    return .proceed
  else return .stop unexpectedMessage

/-- Begins a run: the connection comes first, so that nothing is announced if it cannot be prepared. -/
def start (say : Message → m (Except Failure Unit) := env.send) : SessionT m Unit := do
  discard <| Session.ensureConnection sources
  SessionT.ofEnvironment (say .capabilities)

/-- Deals with one item that was read. A message that cannot be read ends the run, a broken pipe makes it fail. -/
def step (item : Except Failure Message) (say : Message → m (Except Failure Unit) := env.send) :
    SessionT m Flow :=
  match item with
  | .ok message => handle env sources message say
  | .error (.malformed _) => return .stop unexpectedMessage
  | .error failure => do
    Session.close
    throw failure

/-- Deals with `items` until one stops the run; gives the exit code. -/
def serveAll (items : List (Except Failure Message)) (say : Message → m (Except Failure Unit) := env.send) :
    SessionT m Nat :=
  match items with
  | [] => return success
  | item :: rest => do
    match ← step env sources item say with
    | .proceed => serveAll rest say
    | .stop code => return code

def run (items : List (Except Failure Message)) (say : Message → m (Except Failure Unit) := env.send) :
    SessionT m Nat := do
  start env sources say
  let code ← serveAll env sources items say
  Session.close
  return code

def exitCode : Except Failure Nat → Nat
  | .ok code => code
  | .error _ => fatal

end SpacewalkAcquire.Method
