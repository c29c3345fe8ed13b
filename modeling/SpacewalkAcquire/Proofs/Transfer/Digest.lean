import SpacewalkAcquire.Proofs.Digest.Chunks
import SpacewalkAcquire.Proofs.Effects.Failing
import SpacewalkAcquire.Transfer

/-!
# The digests of a body

* `appendChunks_holds` : chunk by chunk the digests hold what came before;
* `store_eq` : storing a body is writing it, and removing it if that fails;
* `store_digest` : a body that is stored comes with its own digests, however files behave.
-/

namespace SpacewalkAcquire.Transfer

variable {σ : Type} {env : Environment (StateM σ)} {file : String} {body : Http.Body} {w w' : σ}

theorem appendChunks_holds (chunks : List Bytes) {running running' : ContentDigest.Running} {content : Bytes} {w : σ}
    (hr : running.Holds content) (h : (appendChunks env file running chunks).run.run w = (.ok running', w')) :
    running'.Holds (content ++ chunks.flatten) := by
  induction chunks generalizing running content w with
  | nil =>
    cases h
    rw [List.flatten_nil, List.append_nil]
    exact hr
  | cons chunk rest ih =>
    rw [appendChunks, run_bind_state, run_lift_state] at h
    generalize env.appendFile file chunk w = added at h
    rcases added with ⟨e | _, w₁⟩
    · cases h
    · rw [List.flatten_cons, ← List.append_assoc]
      exact ih (hr.update chunk) h

theorem write_digest {digest : ContentDigest} (h : (write env file body).run.run w = (.ok digest, w')) :
    digest = .of body.chunks.flatten := by
  rw [write, run_bind_state, run_lift_state] at h
  generalize env.createFile file w = created at h
  rcases created with ⟨e | _, w₁⟩
  · cases h
  · dsimp only at h
    rw [run_bind_state] at h
    cases hchunks : (appendChunks env file .new body.chunks).run.run w₁ with
    | mk result w₂ =>
      rw [hchunks] at h
      rcases result with e | running
      · cases h
      · have hr := appendChunks_holds body.chunks ContentDigest.Running.holds_new hchunks
        dsimp only at h
        cases hcomplete : body.complete with
        | false =>
          rw [hcomplete] at h
          cases h
        | true =>
          rw [hcomplete, Bool.not_true, if_neg Bool.false_ne_true, run_bind_state, run_lift_state] at h
          generalize env.flushFile file w₂ = flushed at h
          rcases flushed with ⟨e | _, w₃⟩
          · cases h
          · cases h
            exact hr.finish_eq

theorem store_eq (env : Environment (StateM σ)) (file : String) (body : Http.Body) (w : σ) :
    store env file body w = match (write env file body).run.run w with
      | (.ok digest, w') => (.ok digest, w')
      | (.error failure, w') => (.error failure, (env.removeFile file w').2) := by
  unfold store
  dsimp only [bind, StateT.bind, StateT.run]
  rcases (write env file body).run w with ⟨_ | _, w'⟩ <;> rfl

/-- A body that `store` has stored comes with its own digests. -/
theorem store_digest {digest : ContentDigest} (h : (store env file body w).1 = .ok digest) :
    digest = .of body.chunks.flatten := by
  rw [store_eq] at h
  cases hwrite : (write env file body).run.run w with
  | mk result w' =>
    rw [hwrite] at h
    cases result with
    | error e => cases h
    | ok digest' =>
      cases h
      exact write_digest hwrite

end SpacewalkAcquire.Transfer
