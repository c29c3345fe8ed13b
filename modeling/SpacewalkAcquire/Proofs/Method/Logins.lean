import SpacewalkAcquire.Proofs.Message.Fields
import SpacewalkAcquire.Proofs.Method.Block
import SpacewalkAcquire.Proofs.Method.Visits

/-!
# Logins over a run

* `beginsLogin`, `endsLogin`, `isAboutLogin` : the notes around a login;
* `LoginOnce before after said` : one login at most succeeds in what is said, and none begins behind it;
* `LoginOnce.append` : this holds of two stretches together if it holds of each;
* `Block.loginOnce` : it holds of the answer to each message.
-/

namespace SpacewalkAcquire.Method

open SessionT Transfer

def hasNote (note : String) (message : Message) : Bool :=
  message.code == Message.Kind.status.code && message.field? "Message" == some note

abbrev beginsLogin : Message → Bool := hasNote "Logging into the spacewalk server"

abbrev endsLogin : Message → Bool := hasNote "Logged in"

def isAboutLogin (message : Message) : Bool := beginsLogin message || endsLogin message

theorem hasNote_status (note uri note' : String) : hasNote note (.status uri note') = (note' == note) := by
  rw [hasNote, Message.note_status, Message.code_status]
  simp

theorem hasNote_of_code_ne {note : String} {message : Message} (h : message.code ≠ Message.Kind.status.code) :
    hasNote note message = false := by
  rw [hasNote, beq_false_of_ne h, Bool.false_and]

/-- What a list of messages says about logins: who was logged in hears nothing of it, who is not logged in afterwards
heard of no success, there is one success at most, and no login begins behind it. -/
structure LoginOnce (before after : Bool) (said : List Message) : Prop where
  stays : before = true → after = true
  earlier : before = true → ∀ m ∈ said, beginsLogin m = false ∧ endsLogin m = false
  later : after = false → ∀ m ∈ said, endsLogin m = false
  once : said.countP endsLogin ≤ 1
  order : said.Pairwise fun m m' => endsLogin m = true → beginsLogin m' = false

theorem LoginOnce.of_silent {before after : Bool} {said : List Message} (hstays : before = true → after = true)
    (h : ∀ m ∈ said, beginsLogin m = false ∧ endsLogin m = false) : LoginOnce before after said := by
  refine ⟨hstays, fun _ => h, fun _ m hm => (h m hm).2, ?_, ?_⟩
  · have hcount : said.countP endsLogin = 0 := List.countP_eq_zero.2 fun m hm => by simp [(h m hm).2]
    omega
  · exact List.pairwise_of_forall_mem_list fun m hm m' hm' _ => (h m' hm').1

/-- What is said about logins in one stretch and in the next is said over both of them. -/
theorem LoginOnce.append {a b c : Bool} {said said' : List Message} (h : LoginOnce a b said)
    (h' : LoginOnce b c said') : LoginOnce a c (said ++ said') := by
  refine ⟨fun ha => h'.stays (h.stays ha), fun ha m hm => ?_, fun hc m hm => ?_, ?_, ?_⟩
  · rcases List.mem_append.1 hm with hm | hm
    · exact h.earlier ha m hm
    · exact h'.earlier (h.stays ha) m hm
  · have hb : b = false := by
      cases b
      · rfl
      · exact absurd (h'.stays rfl) (by simp [hc])
    rcases List.mem_append.1 hm with hm | hm
    · exact h.later hb m hm
    · exact h'.later hc m hm
  · rw [List.countP_append]
    cases b with
    | true =>
      have : said'.countP endsLogin = 0 := List.countP_eq_zero.2 fun m hm => by simp [(h'.earlier rfl m hm).2]
      have := h.once
      omega
    | false =>
      have : said.countP endsLogin = 0 := List.countP_eq_zero.2 fun m hm => by simp [h.later rfl m hm]
      have := h'.once
      omega
  · refine List.pairwise_append.2 ⟨h.order, h'.order, fun m hm m' hm' hends => ?_⟩
    cases b with
    | true => exact (h'.earlier rfl m' hm').1
    | false =>
      rw [h.later rfl m hm] at hends
      cases hends

theorem loginOnce_of_logInNotes {uri : String} {before after : Bool} {said : List Message}
    (h : LogInNotes uri before after said) : LoginOnce before after said := by
  cases h with
  | earlier => exact .of_silent id fun m hm => absurd hm List.not_mem_nil
  | now =>
    refine ⟨fun _ => rfl, fun hb => (Bool.false_ne_true hb).elim, fun ha => (Bool.false_ne_true ha.symm).elim, ?_, ?_⟩
    · simp [loggingIn, loggedIn, hasNote_status]
    · simp [loggingIn, loggedIn, hasNote_status]

theorem silent_waiting (uri : String) : beginsLogin (waiting uri) = false ∧ endsLogin (waiting uri) = false := by
  simp [waiting, hasNote_status]

theorem silent_of_code_ne {m : Message} (h : m.code ≠ Message.Kind.status.code) :
    beginsLogin m = false ∧ endsLogin m = false := ⟨hasNote_of_code_ne h, hasNote_of_code_ne h⟩

theorem silent_uriFailure (uri : Option String) (failure : Failure) :
    beginsLogin (.uriFailure uri failure) = false ∧ endsLogin (.uriFailure uri failure) = false := by
  refine silent_of_code_ne ?_
  rw [Message.code_uriFailure]
  decide

theorem silent_announcement (uri : String) (reply : Http.Reply) :
    beginsLogin (announcement uri reply) = false ∧ endsLogin (announcement uri reply) = false := by
  refine silent_of_code_ne ?_
  rw [announcement, Message.code_uriStart]
  decide

theorem silent_uriDone (uri filename : String) (outcome : Message.Outcome) :
    beginsLogin (.uriDone uri filename outcome) = false ∧ endsLogin (.uriDone uri filename outcome) = false := by
  refine silent_of_code_ne ?_
  rw [Message.code_uriDone]
  decide

/-- Messages that are silent about logins can stand behind `said`. -/
theorem LoginOnce.append_silent {before after : Bool} {said said' : List Message} (h : LoginOnce before after said)
    (h' : ∀ m ∈ said', beginsLogin m = false ∧ endsLogin m = false) : LoginOnce before after (said ++ said') :=
  h.append (.of_silent id h')

theorem loginOnce_of_progress {uri : String} {before after : Bool} {said : List Message}
    (h : Progress uri before after said) : LoginOnce before after said := by
  cases h with
  | silent h => exact .of_silent h fun m hm => absurd hm List.not_mem_nil
  | refused h =>
    subst h
    refine ⟨fun hb => (Bool.false_ne_true hb).elim, fun hb => (Bool.false_ne_true hb).elim, fun _ => ?_, ?_, ?_⟩
    · simp [loggingIn, hasNote_status]
    · simp [loggingIn, hasNote_status]
    · exact List.pairwise_singleton _ _
  | stopped h => exact loginOnce_of_logInNotes h
  | unanswered h =>
    refine (loginOnce_of_logInNotes h).append_silent ?_
    simp [silent_waiting]

theorem Block.loginOnce {message : Message} {before after : Bool} {said : List Message}
    (h : Block message before after said) : LoginOnce before after said := by
  cases h with
  | rejected _ hlogin =>
    refine .of_silent hlogin ?_
    simp [silent_uriFailure]
  | failed failure _ hnotes =>
    refine (loginOnce_of_progress hnotes).append_silent ?_
    simp [silent_uriFailure]
  | notStored reply failure _ hnotes =>
    refine (loginOnce_of_logInNotes hnotes).append_silent ?_
    simp [silent_waiting, silent_announcement, silent_uriFailure]
  | stored reply _ hnotes =>
    refine (loginOnce_of_logInNotes hnotes).append_silent ?_
    simp [silent_waiting, silent_announcement, silent_uriDone]

end SpacewalkAcquire.Method
