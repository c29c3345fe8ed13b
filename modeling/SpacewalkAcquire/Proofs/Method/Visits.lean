import SpacewalkAcquire.Method
import SpacewalkAcquire.Proofs.Session.RunFrom

/-!
# A run, request by request

* `requests items`, `remainder items` : the acquire messages up to the first other item, and what stands behind them;
* `Visit` : an acquire message, and where the run stands before and after it;
* `visits` : those of a run, one after the other;
* `runFrom_serveAll` : if every visit succeeds, a run is its visits and then the end that the remainder asks for;
* `endCode` : the exit code that it asks for;
* `result_visit` : a visit succeeds if the front end takes what it is told;
* `run_visits` : a whole run, visit by visit.
-/

namespace SpacewalkAcquire.Method

open SessionT

/-- The messages with the code of `uriAcquire` before the first other item. -/
def requests : List (Except Failure Message) → List Message
  | .ok message :: rest => if message.code = Message.Kind.uriAcquire.code then message :: requests rest else []
  | _ => []

def remainder : List (Except Failure Message) → List (Except Failure Message)
  | .ok message :: rest =>
    if message.code = Message.Kind.uriAcquire.code then remainder rest else .ok message :: rest
  | items => items

/-- One acquire message of a run. -/
structure Visit (σ : Type) where
  message : Message
  before : Session × σ
  /-- Whether the front end has taken the answer. -/
  result : Except Failure Unit
  after : Session × σ

variable {σ : Type} (env : Environment (StateM σ)) (sources : Sources (StateM σ))
  (say : Message → StateM σ (Except Failure Unit))

def visit (message : Message) (p : Session × σ) : Visit σ :=
  ⟨message, p, ((acquire env sources message say).runFrom p).1, ((acquire env sources message say).runFrom p).2⟩

/-- The visits of a run, up to one whose `result` is a failure. -/
def visits : List (Except Failure Message) → Session × σ → List (Visit σ)
  | .ok message :: rest, p =>
    if message.code = Message.Kind.uriAcquire.code then
      let v := visit env sources say message p
      match v.result with
      | .ok _ => v :: visits rest v.after
      | .error _ => [v]
    else []
  | _, _ => []

def standing (p : Session × σ) (vs : List (Visit σ)) : Session × σ := vs.foldl (fun _ v => v.after) p

/-- The visits of a whole run: none if it cannot `start`. -/
def runVisits (items : List (Except Failure Message)) (p : Session × σ) : List (Visit σ) :=
  match (start env sources say).runFrom p with
  | (.ok _, q) => visits env sources say items q
  | (.error _, _) => []

/-- Each visit begins where the one before it ended. -/
def Chained : Session × σ → List (Visit σ) → Prop
  | _, [] => True
  | p, v :: rest => v.before = p ∧ Chained v.after rest

theorem kind?_eq_uriAcquire_iff (message : Message) :
    message.kind? = some .uriAcquire ↔ message.code = Message.Kind.uriAcquire.code := by
  refine ⟨fun h => ?_, fun h => ?_⟩
  · have := List.find?_some h
    rw [beq_iff_eq] at this
    exact this.symm
  · rw [Message.kind?, h]
    exact Message.Kind.ofCode?_code .uriAcquire

theorem remainder_cases (items : List (Except Failure Message)) :
    remainder items = [] ∨
      (∃ message rest, remainder items = .ok message :: rest ∧ message.code ≠ Message.Kind.uriAcquire.code) ∨
      ∃ failure rest, remainder items = .error failure :: rest := by
  fun_induction remainder items with
  | case1 message rest h ih => exact ih
  | case2 message rest h => exact .inr (.inl ⟨message, rest, rfl, h⟩)
  | case3 items h =>
    cases items with
    | nil => exact .inl rfl
    | cons item rest =>
      cases item with
      | ok message => exact (h message rest rfl).elim
      | error failure => exact .inr (.inr ⟨failure, rest, rfl⟩)

variable {env sources say}

theorem eq_visit_of_mem {items : List (Except Failure Message)} {p : Session × σ} {v : Visit σ}
    (hv : v ∈ visits env sources say items p) : v = visit env sources say v.message v.before := by
  fun_induction visits env sources say items p with
  | case1 message rest p hcode w _ hresult ih =>
    rcases List.mem_cons.1 hv with rfl | hv
    · rfl
    · exact ih hv
  | case2 message rest p hcode w e hresult =>
    rw [List.mem_singleton.1 hv]
    rfl
  | case3 => cases hv
  | case4 => cases hv

theorem runFrom_step_acquire {message : Message} (h : message.code = Message.Kind.uriAcquire.code) (p : Session × σ) :
    (step env sources (.ok message) say).runFrom p =
      ((visit env sources say message p).result.map fun _ => .proceed, (visit env sources say message p).after) := by
  show (handle env sources message say).runFrom p = _
  unfold handle
  rw [if_pos ((kind?_eq_uriAcquire_iff message).2 h), runFrom_bind]
  unfold visit
  rcases (acquire env sources message say).runFrom p with ⟨_ | _, q⟩ <;> rfl

/-- A visit that succeeds is the first of those that follow. -/
theorem visits_cons {message : Message} (hcode : message.code = Message.Kind.uriAcquire.code) {p : Session × σ}
    (hok : (visit env sources say message p).result = .ok ()) (items : List (Except Failure Message)) :
    visits env sources say (.ok message :: items) p =
      visit env sources say message p :: visits env sources say items (visit env sources say message p).after := by
  rw [visits, if_pos hcode]
  dsimp only
  rw [hok]

theorem requests_map_ok {messages : List Message} (h : ∀ m ∈ messages, m.code = Message.Kind.uriAcquire.code) :
    requests (messages.map .ok) = messages ∧ remainder (messages.map .ok) = [] := by
  induction messages with
  | nil => exact ⟨rfl, rfl⟩
  | cons message rest ih =>
    rw [List.forall_mem_cons] at h
    obtain ⟨hrequests, hremainder⟩ := ih h.2
    rw [List.map_cons, requests, remainder, if_pos h.1, if_pos h.1, hrequests]
    exact ⟨rfl, hremainder⟩

/-- If the front end takes every answer, the visits are those of all `requests`, and behind them the run ends. -/
theorem runFrom_serveAll {items : List (Except Failure Message)} {p : Session × σ}
    (h : ∀ v ∈ visits env sources say items p, v.result = .ok ()) :
    (visits env sources say items p).map Visit.message = requests items ∧
      (serveAll env sources items say).runFrom p =
        (serveAll env sources (remainder items) say).runFrom (standing p (visits env sources say items p)) := by
  fun_induction visits env sources say items p with
  | case1 message rest p hcode v _ hresult ih =>
    obtain ⟨hmessages, hrun⟩ := ih fun w hw => h w (List.mem_cons_of_mem _ hw)
    refine ⟨?_, ?_⟩
    · rw [requests, if_pos hcode, ← hmessages]
      rfl
    · show ((step env sources (.ok message) say >>= _) : SessionT (StateM σ) Nat).runFrom p = _
      rw [runFrom_bind, runFrom_step_acquire hcode, hresult, remainder, if_pos hcode]
      exact hrun
  | case2 message rest p hcode v e hresult =>
    have := h v (by simp)
    rw [hresult] at this
    cases this
  | case3 message rest p hcode =>
    rw [requests, if_neg hcode, remainder, if_neg hcode]
    exact ⟨rfl, rfl⟩
  | case4 items p hitems =>
    rw [requests, remainder]
    · exact ⟨rfl, rfl⟩
    · exact hitems
    · exact hitems

def endCode : List (Except Failure Message) → Nat
  | [] => success
  | .ok _ :: _ => unexpectedMessage
  | .error (.malformed _) :: _ => unexpectedMessage
  | .error _ :: _ => fatal

theorem endCode_eq_success_iff (items : List (Except Failure Message)) : endCode items = success ↔ items = [] := by
  cases items with
  | nil => exact ⟨fun _ => rfl, fun _ => rfl⟩
  | cons item rest =>
    refine ⟨fun h => ?_, fun h => by cases h⟩
    rcases item with (_ | _) | _ <;> cases h

theorem runFrom_serveAll_remainder (env : Environment (StateM σ)) (sources : Sources (StateM σ))
    (say : Message → StateM σ (Except Failure Unit)) (items : List (Except Failure Message)) (p : Session × σ) :
    exitCode ((serveAll env sources (remainder items) say).runFrom p).1 = endCode (remainder items) ∧
      ((serveAll env sources (remainder items) say).runFrom p).2.2 = p.2 := by
  rcases remainder_cases items with h | ⟨message, rest, h, hcode⟩ | ⟨failure, rest, h⟩
  · rw [h]
    exact ⟨rfl, rfl⟩
  · have hstep : step env sources (.ok message) say = pure (.stop unexpectedMessage) := by
      show handle env sources message say = _
      rw [handle, if_neg fun hk => hcode ((kind?_eq_uriAcquire_iff message).1 hk)]
    rw [h, serveAll, hstep]
    exact ⟨rfl, rfl⟩
  · rw [h, serveAll]
    cases failure <;> exact ⟨rfl, rfl⟩

/-- A visit can only fail where `say` does. -/
theorem result_visit (hsay : ∀ message w, (say message w).1 = .ok ()) (message : Message) (p : Session × σ) :
    (visit env sources say message p).result = .ok () := by
  have hsend {message : Message} {p : Session × σ} {failed : Failure → Session × σ → Prop} :
      (ofEnvironment (say message)).Leads p (fun _ _ => True) failed := by
    refine ⟨fun _ _ _ => trivial, fun e q hq => ?_⟩
    rw [runFrom_ofEnvironment, hsay, Prod.mk.injEq] at hq
    cases hq.1
  have hacquire : (acquire env sources message say).Leads p (fun _ _ => True) (fun _ _ => False) := by
    unfold acquire
    cases Request.ofMessage message with
    | error failure => exact hsend
    | ok request =>
      refine .bind ?_
      unfold serve
      refine .bind (.outcome ⟨fun _ _ _ => ?_, fun _ _ _ => ?_⟩)
      · exact .pure hsend
      · exact .pure hsend
  unfold visit
  rcases hrun : (acquire env sources message say).runFrom p with ⟨_ | _, q⟩
  · exact (hacquire.2 _ _ hrun).elim
  · rfl

/-- What follows from every visit in turn follows from all of them. -/
theorem visits_induction {motive : Session × σ → List (Visit σ) → Prop} (nil : ∀ p, motive p [])
    (cons : ∀ message p vs, motive (visit env sources say message p).after vs →
      motive p (visit env sources say message p :: vs))
    (items : List (Except Failure Message)) (p : Session × σ) : motive p (visits env sources say items p) := by
  fun_induction visits env sources say items p with
  | case1 message rest p hcode v _ hresult ih => exact cons message p _ ih
  | case2 message rest p hcode v e hresult => exact cons message p [] (nil _)
  | case3 message rest p => exact nil p
  | case4 items p => exact nil p

theorem forall_before {P : Session × σ → Prop} (hP : ∀ message p, P p → P (visit env sources say message p).after)
    (items : List (Except Failure Message)) {p : Session × σ} (h : P p) :
    ∀ v ∈ visits env sources say items p, P v.before :=
  visits_induction (motive := fun p vs => P p → ∀ v ∈ vs, P v.before) (fun _ _ _ hv => absurd hv List.not_mem_nil)
    (fun message p _ ih h => List.forall_mem_cons.2 ⟨h, ih (hP message p h)⟩) items p h

theorem chained_visits (items : List (Except Failure Message)) (p : Session × σ) :
    Chained p (visits env sources say items p) :=
  visits_induction (fun _ => trivial) (fun _ _ _ ih => ⟨rfl, ih⟩) items p

theorem world_serveAll (items : List (Except Failure Message)) (p : Session × σ) :
    ((serveAll env sources items say).runFrom p).2.2 = (standing p (visits env sources say items p)).2 := by
  fun_induction visits env sources say items p with
  | case1 message rest p hcode v _ hresult ih =>
    show ((step env sources (.ok message) say >>= _ : SessionT (StateM σ) Nat).runFrom p).2.2 = _
    rw [runFrom_bind, runFrom_step_acquire hcode, hresult]
    exact ih
  | case2 message rest p hcode v e hresult =>
    show ((step env sources (.ok message) say >>= _ : SessionT (StateM σ) Nat).runFrom p).2.2 = _
    rw [runFrom_bind, runFrom_step_acquire hcode, hresult]
    rfl
  | case3 message rest p hcode =>
    have hend := (runFrom_serveAll_remainder env sources say (.ok message :: rest) p).2
    rwa [remainder, if_neg hcode] at hend
  | case4 items p hitems =>
    have hend := (runFrom_serveAll_remainder env sources say items p).2
    rwa [remainder] at hend
    exact hitems

/-- A run that has started ends as its items do; only `connection?` is given up. -/
theorem runFrom_run {p q : Session × σ} (h : (start env sources say).runFrom p = (.ok (), q))
    (items : List (Except Failure Message)) :
    ((run env sources items say).runFrom p).1 = ((serveAll env sources items say).runFrom q).1 ∧
      ((run env sources items say).runFrom p).2.2 = ((serveAll env sources items say).runFrom q).2.2 := by
  unfold run
  rw [runFrom_bind, h]
  dsimp only
  rw [runFrom_bind]
  rcases (serveAll env sources items say).runFrom q with ⟨_ | code, r⟩ <;> exact ⟨rfl, rfl⟩

theorem runFrom_run_of_error {p q : Session × σ} {e : Failure} (h : (start env sources say).runFrom p = (.error e, q))
    (items : List (Except Failure Message)) : (run env sources items say).runFrom p = (.error e, q) := by
  unfold run
  rw [runFrom_bind, h]

theorem runVisits_of_ok {p q : Session × σ} (h : (start env sources say).runFrom p = (.ok (), q))
    (items : List (Except Failure Message)) : runVisits env sources say items p = visits env sources say items q := by
  unfold runVisits
  rw [h]

theorem runVisits_of_error {p q : Session × σ} {e : Failure} (h : (start env sources say).runFrom p = (.error e, q))
    (items : List (Except Failure Message)) : runVisits env sources say items p = [] := by
  unfold runVisits
  rw [h]

/-- Whatever the visits before it did, each one is the `visit` for its message from where it begins. -/
theorem eq_visit_of_mem_runVisits {items : List (Except Failure Message)} {p : Session × σ} {v : Visit σ}
    (hv : v ∈ runVisits env sources say items p) : v = visit env sources say v.message v.before := by
  unfold runVisits at hv
  split at hv
  · exact eq_visit_of_mem hv
  · cases hv

/-- A whole run, visit by visit: the first begins where the start ended, each other one where the one before it ended,
and the world is left where the last one ended. -/
theorem run_visits (env : Environment (StateM σ)) (sources : Sources (StateM σ))
    (say : Message → StateM σ (Except Failure Unit)) (items : List (Except Failure Message)) (p : Session × σ) :
    let q := ((start env sources say).runFrom p).2
    Chained q (runVisits env sources say items p) ∧
      ((run env sources items say).runFrom p).2.2 = (standing q (runVisits env sources say items p)).2 := by
  rcases hstart : (start env sources say).runFrom p with ⟨e | _, q⟩
  · rw [runFrom_run_of_error hstart, runVisits_of_error hstart]
    exact ⟨trivial, rfl⟩
  · rw [(runFrom_run hstart items).2, runVisits_of_ok hstart]
    exact ⟨chained_visits items q, world_serveAll items q⟩

end SpacewalkAcquire.Method
