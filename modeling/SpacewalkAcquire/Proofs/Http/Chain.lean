import SpacewalkAcquire.Proofs.Effects.Recorded

/-!
# Chains of redirects

* `Chain hops request exchanges result` : with so many redirects at most, a request leads to these exchanges, each but
  the first one for what the reply before it redirects to, and in the end to this result;
* `Chain.getLast?_of_ok` : a reply in which it results is the last one of it;
* `chain_follow`, `chain_send` : what is recorded while a request is sent is such a chain.
-/

namespace SpacewalkAcquire.Http

/-- The exchanges that serve a request with so many redirects at most, and the reply or error that `follow` gives. -/
inductive Chain : Nat → Request → List (Request × Answer) → Except String Reply → Prop
  | unreachable {hops : Nat} {r : Request} (why : String) :
      Chain hops r [(r, .unreachable why)] (.error (noReply r.url why))
  | broken {hops : Nat} {r : Request} (why : String) : Chain hops r [(r, .broken why)] (.error (noReply r.url why))
  | reply {hops : Nat} {r : Request} {reply : Reply} (h : redirection? r reply = none) :
      Chain hops r [(r, .reply reply)] (.ok reply)
  | tooMany {r next : Request} {reply : Reply} (h : redirection? r reply = some next) :
      Chain 0 r [(r, .reply reply)] (.error (tooManyRedirects r.url))
  | redirect {hops : Nat} {r next : Request} {reply : Reply} {rest : List (Request × Answer)}
      {result : Except String Reply} (h : redirection? r reply = some next) (hrest : Chain hops next rest result) :
      Chain (hops + 1) r ((r, .reply reply) :: rest) result

theorem Chain.getLast?_of_ok {hops : Nat} {r : Request} {exchanges : List (Request × Answer)} {reply : Reply}
    (h : Chain hops r exchanges (.ok reply)) : ∃ last, exchanges.getLast? = some (last, .reply reply) := by
  generalize hresult : Except.ok reply = result at h
  induction h with
  | unreachable | broken | tooMany => cases hresult
  | @reply _ r =>
    cases hresult
    exact ⟨r, rfl⟩
  | redirect _ _ ih =>
    obtain ⟨last, hlast⟩ := ih hresult
    exact ⟨last, by rw [List.getLast?_cons, hlast, Option.getD_some]⟩

variable {σ : Type} (env : Environment (StateM σ)) (connection : Connection)

theorem exchanges_recorded (request : Request) (r : Recorded σ) :
    ((env.recorded.exchange connection request).run r).2.exchanges =
      r.exchanges ++ [(request, ((env.recorded.exchange connection request).run r).1)] := rfl

/-- One hop of `follow`: its exchange is recorded, and what became of it decides how things go on. -/
theorem run_follow (hops : Nat) (request : Request) (r : Recorded σ) :
    (follow (env.recorded.exchange connection) hops request).run r =
      let answer := (env.recorded.exchange connection request).run r
      match answer.1 with
      | .unreachable why => (.error (noReply request.url why), answer.2)
      | .broken why => (.error (noReply request.url why), answer.2)
      | .reply reply => match redirection? request reply, hops with
        | none, _ => (.ok reply, answer.2)
        | some _, 0 => (.error (tooManyRedirects request.url), answer.2)
        | some next, hops + 1 => (follow (env.recorded.exchange connection) hops next).run answer.2 := by
  rw [follow, StateT.run_bind]
  rcases (env.recorded.exchange connection request).run r with ⟨answer, r₁⟩
  cases answer with
  | unreachable why => rfl
  | broken why => rfl
  | reply reply =>
    show StateT.run _ r₁ = _
    dsimp only
    cases redirection? request reply with
    | none => rfl
    | some next => cases hops <;> rfl

/-- What `follow` adds to `exchanges` is a `Chain`. -/
theorem chain_follow (hops : Nat) (request : Request) (r : Recorded σ) :
    ∃ chain, ((follow (env.recorded.exchange connection) hops request).run r).2.exchanges = r.exchanges ++ chain ∧
      Chain hops request chain ((follow (env.recorded.exchange connection) hops request).run r).1 := by
  induction hops using Nat.strongRecOn generalizing request r with
  | ind hops ih =>
    rw [run_follow]
    have hrecord := exchanges_recorded env connection request r
    generalize (env.recorded.exchange connection request).run r = exchanged at hrecord ⊢
    obtain ⟨answer, r₁⟩ := exchanged
    cases answer with
    | unreachable why => exact ⟨_, hrecord, .unreachable why⟩
    | broken why => exact ⟨_, hrecord, .broken why⟩
    | reply reply =>
      dsimp only
      cases hr : redirection? request reply with
      | none => exact ⟨_, hrecord, .reply hr⟩
      | some next =>
        cases hops with
        | zero => exact ⟨_, hrecord, .tooMany hr⟩
        | succ hops =>
          obtain ⟨rest, hrest, hchain⟩ := ih hops (Nat.lt_succ_self hops) next r₁
          refine ⟨_ :: rest, ?_, .redirect hr hchain⟩
          rw [hrest, hrecord, List.append_assoc, List.singleton_append]

/-- What `send` adds to `exchanges` is a `Chain`. -/
theorem chain_send (request : Request) (r : Recorded σ) :
    let sent := send (env.recorded.exchange connection) request r
    ∃ chain, sent.2.exchanges = r.exchanges ++ chain ∧ Chain (longestChain - 1) request chain sent.1 :=
  chain_follow env connection (longestChain - 1) request r

end SpacewalkAcquire.Http
