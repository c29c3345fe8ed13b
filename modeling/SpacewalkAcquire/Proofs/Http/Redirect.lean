import Mathlib.Data.List.Chain
import SpacewalkAcquire.Proofs.Http.Chain

/-!
# Where redirects lead

* `Http.location?_of_redirection` : a redirected request goes where the reply says, and has a body only if the reply
  asks for the request as it is;
* `Http.Redirects a b` : an exchange leads to the next one by such a reply;
* `Http.Chain.exists_cons`, `isChain`, `length_le` : the exchanges that serve one request.
-/

namespace SpacewalkAcquire.Http

/-- The request of a `redirection?` goes to the `location?`, with the body of the one before it or without. -/
theorem location?_of_redirection {r next : Request} {reply : Reply} (h : redirection? r reply = some next) :
    location? r.url reply = some next.url ∧
      (next.body = [] ∨ next.body = r.body ∧ Redirect.ofStatus? reply.status = some .same) := by
  unfold redirection? at h
  simp only [Option.bind_eq_bind, Option.bind_eq_some_iff] at h
  obtain ⟨kind, hkind, target, htarget, h⟩ := h
  cases kind with
  | same =>
    cases h
    exact ⟨htarget, .inr ⟨rfl, hkind⟩⟩
  | asGet =>
    cases h
    exact ⟨htarget, .inl rfl⟩

/-- An exchange leads to the next one: its reply is a `redirection?` to the next request, which goes where the reply
says. What was in the body is sent again only if the reply asks for the request as it is. -/
def Redirects (a b : Request × Answer) : Prop :=
  ∃ reply, a.2 = .reply reply ∧ redirection? a.1 reply = some b.1 ∧ location? a.1.url reply = some b.1.url ∧
    (b.1.body = [] ∨ b.1.body = a.1.body ∧ Redirect.ofStatus? reply.status = some .same)

namespace Chain

variable {hops : Nat} {r : Request} {exchanges : List (Request × Answer)} {result : Except String Reply}

/-- A `Chain` starts with the request itself. -/
theorem exists_cons (h : Chain hops r exchanges result) : ∃ answer rest, exchanges = (r, answer) :: rest := by
  cases h <;> exact ⟨_, _, rfl⟩

theorem isChain (h : Chain hops r exchanges result) : exchanges.IsChain Redirects := by
  induction h with
  | unreachable | broken | reply | tooMany => exact .singleton _
  | @redirect _ r next reply rest _ hnext hrest ih =>
    obtain ⟨answer, more, rfl⟩ := hrest.exists_cons
    exact .cons_cons ⟨reply, rfl, hnext, location?_of_redirection hnext⟩ ih

theorem length_le (h : Chain hops r exchanges result) : exchanges.length ≤ hops + 1 := by
  induction h with
  | unreachable | broken | reply | tooMany => exact Nat.succ_le_succ (Nat.zero_le _)
  | redirect _ _ ih => exact Nat.succ_le_succ ih

end Chain

end SpacewalkAcquire.Http
