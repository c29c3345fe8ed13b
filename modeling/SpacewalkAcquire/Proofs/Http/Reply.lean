import Mathlib.Tactic.Common
import SpacewalkAcquire.Http.Exchange

/-!
# Replies and their content

* `length_takeBytes` : what is taken and what is missing make up what was asked for;
* `Reply.length_content` : the content of a complete reply has the length that was announced.
-/

namespace SpacewalkAcquire.Http

theorem length_takeBytes (n : Nat) (chunks : List Bytes) :
    (takeBytes n chunks).1.flatten.length + (takeBytes n chunks).2 = n := by
  induction chunks generalizing n with
  | nil => simp [takeBytes]
  | cons chunk rest ih =>
    rw [takeBytes]
    split
    · next h => simp [h]
    · have := ih (n - chunk.length)
      simp only [List.flatten_cons, List.length_append, List.length_take]
      omega

/-- The content of a reply with `okStatus` that is complete has the length that was announced, if one was. -/
theorem Reply.length_content {r : Reply} (hstatus : r.status = okStatus) (hcomplete : r.body.complete = true) {n : Nat}
    (hn : r.length? = some n) : r.body.chunks.flatten.length = n := by
  have hbare : Reply.isBare r.status = false := by
    rw [hstatus]
    decide
  unfold Reply.length? at hn
  unfold Reply.body at hcomplete ⊢
  rw [hbare] at hcomplete ⊢
  cases hf : r.framing with
  | sized m =>
    rw [hf] at hn hcomplete
    cases hn
    have hmissing : (takeBytes n r.received).2 = 0 := by simpa using hcomplete
    have := length_takeBytes n r.received
    show (takeBytes n r.received).1.flatten.length = n
    omega
  | untilClose =>
    rw [hf] at hn
    cases hn
  | chunked terminated =>
    rw [hf] at hn
    cases hn

end SpacewalkAcquire.Http
