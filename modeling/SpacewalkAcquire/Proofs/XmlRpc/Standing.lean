import SpacewalkAcquire.Proofs.Xml.Meeting
import SpacewalkAcquire.Proofs.XmlRpc.CutOff
import SpacewalkAcquire.Proofs.XmlRpc.Encoding

/-!
# Where the automaton stands

* `Position.Reaches tokens p` : the automaton takes all of `tokens` from the start of a response, and then stands at
  `p`;
* `Position.Reaches.run` : from there it goes on; `Position.reaches_or_settled` : it stands somewhere, or what follows
  does not matter any more; `Position.Reaches.of_value` : behind the start tag of a value it stands in that value;
* `decode_congr_of_reaches`, `decode_congr_of_not_reaches` : two documents that begin with the same tokens decode to the
  same if the runs behind these do, or if no position is reached;
* `SameAnswer` : two results of which one is an answer only if both are the same; `sameAnswer_of_reaches` : two
  documents give the same answer if the runs behind the tokens with which they begin give the same values;
* `reaches_outermost`, `meets_responseStart` : the value of a response, between `responseStart` and `responseBack`.
-/

namespace SpacewalkAcquire.XmlRpc

open Xml (Token)

namespace Position

variable {p q : Position} {tokens : List Token} {t : Token}

/-- The automaton takes all of the tokens from the start of a response, and stands at a position behind them. -/
inductive Reaches : List Token → Position → Prop
  | start : Reaches [] .response
  | snoc {tokens : List Token} {t : Token} {p q : Position} (h : Reaches tokens p) (hmove : Moves p t (.at q)) :
      Reaches (tokens ++ [t]) q

theorem Reaches.run (h : Reaches tokens p) (ending : Xml.Ending) (rest : List Token) :
    Position.run .response ending (tokens ++ rest) = Position.run p ending rest := by
  induction h generalizing rest with
  | start => rfl
  | snoc _ hmove ih =>
    rw [List.append_assoc, ih]
    exact run_of_moves hmove

theorem Reaches.exists_of_snoc (h : Reaches (tokens ++ [t]) q) : ∃ p, Reaches tokens p ∧ Moves p t (.at q) := by
  generalize heq : tokens ++ [t] = all at h
  cases h with
  | start => simp at heq
  | snoc h hmove =>
    obtain ⟨rfl, hlast⟩ := List.append_inj' heq rfl
    obtain rfl := List.singleton_inj.1 hlast
    exact ⟨_, h, hmove⟩

/-- What a response holds, a result or a fault, is known behind its second token. -/
theorem Reaches.length (h : Reaches tokens p) : p = .response ∨ p = .body ∨ 2 ≤ tokens.length := by
  cases h with
  | start => exact .inl rfl
  | snoc h hmove =>
    cases h with
    | start =>
      cases hmove
      exact .inr (.inl rfl)
    | snoc =>
      simp only [List.length_append, List.length_singleton]
      exact .inr (.inr (by omega))

/-- Behind `<value>` the automaton stands in that value. -/
theorem Reaches.of_value {tokens : List Token} {p : Position} (h : Reaches (tokens ++ [.start "value"]) p) :
    2 ≤ (tokens ++ [Token.start "value"]).length ∧ ∃ around, p = .value around := by
  obtain ⟨q, hq, hmove⟩ := h.exists_of_snoc
  have hvalue : ∃ around, p = .value around := by
    have hstep := hmove.step
    cases q with
    | outermost => cases hstep; exact ⟨_, rfl⟩
    | memberValue => cases hstep; exact ⟨_, rfl⟩
    | items => cases hstep; exact ⟨_, rfl⟩
    | value => simp [step, typed, ScalarType.ofName?, Except.map] at hstep
    | _ => simp [step, element] at hstep
  refine ⟨?_, hvalue⟩
  obtain ⟨around, rfl⟩ := hvalue
  rcases h.length with h | h | h
  · cases h
  · cases h
  · exact h

/-- The automaton stands somewhere behind tokens, or has come to an end among them, whatever follows. -/
theorem reaches_or_settled (tokens : List Token) :
    (∃ p, Reaches tokens p) ∨ ∃ result, ∀ ending rest, run .response ending (tokens ++ rest) = result := by
  induction tokens using List.reverseRecOn with
  | nil => exact .inl ⟨_, .start⟩
  | append_singleton tokens t ih =>
    simp only [List.append_assoc, List.singleton_append]
    rcases ih with ⟨p, hp⟩ | ⟨result, hresult⟩
    · simp only [hp.run, run_cons]
      rcases hstep : p.step t with what | q | v
      · exact .inr ⟨_, fun _ _ => rfl⟩
      · exact .inl ⟨q, .snoc hp (moves_of_step hstep)⟩
      · exact .inr ⟨_, fun _ _ => rfl⟩
    · exact .inr ⟨result, fun ending rest => hresult ending _⟩

end Position

/-! ## Documents that begin with the same tokens -/

section

variable {s s' : String} {d d' : Xml.Document} {front : List Token} {p : Position}

open Position (Reaches)

theorem decode_eq_error {e : ResponseError}
    (h : Position.run .response (Xml.tokens s).ending (Xml.tokens s).tokens = .error e) : decode s = .error e := by
  simp only [decode, h]

theorem holdsFault_append (h : 2 ≤ front.length) (rest : List Token) :
    holdsFault (front ++ rest) = holdsFault front := by
  rw [holdsFault, holdsFault, List.getElem?_append_left h]

theorem run_of_reaches (hs : Xml.tokens s = d.behind front) (hp : Reaches front p) :
    Position.run .response (Xml.tokens s).ending (Xml.tokens s).tokens = Position.run p d.ending d.tokens := by
  rw [hs]
  exact hp.run d.ending d.tokens

theorem decode_congr_of_run (hs : Xml.tokens s = d.behind front) (hs' : Xml.tokens s' = d'.behind front)
    (hlength : 2 ≤ front.length)
    (hrun : Position.run .response (Xml.tokens s).ending (Xml.tokens s).tokens =
      Position.run .response (Xml.tokens s').ending (Xml.tokens s').tokens) : decode s = decode s' := by
  have hfault : holdsFault (Xml.tokens s).tokens = holdsFault (Xml.tokens s').tokens := by
    rw [hs, hs']
    exact (holdsFault_append hlength _).trans (holdsFault_append hlength _).symm
  simp only [decode, hrun, hfault]

/-- Documents decode to the same if their runs from `p`, behind the second token, are the same. -/
theorem decode_congr_of_reaches (hs : Xml.tokens s = d.behind front) (hs' : Xml.tokens s' = d'.behind front)
    (hp : Reaches front p) (hlength : 2 ≤ front.length)
    (hrun : Position.run p d.ending d.tokens = Position.run p d'.ending d'.tokens) : decode s = decode s' := by
  refine decode_congr_of_run hs hs' hlength ?_
  rw [run_of_reaches hs hp, run_of_reaches hs' hp, hrun]

/-- Documents decode to the same if the automaton has come to an end among the tokens of `front`, with which both begin.
-/
theorem decode_congr_of_not_reaches (hs : Xml.tokens s = d.behind front) (hs' : Xml.tokens s' = d'.behind front)
    (h : ∀ p, ¬Reaches front p) : decode s = decode s' := by
  rcases Position.reaches_or_settled front with ⟨p, hp⟩ | ⟨result, hresult⟩
  · exact absurd hp (h p)
  have hrun : Position.run .response (Xml.tokens s).ending (Xml.tokens s).tokens = result := by
    rw [hs]
    exact hresult _ _
  have hrun' : Position.run .response (Xml.tokens s').ending (Xml.tokens s').tokens = result := by
    rw [hs']
    exact hresult _ _
  cases result with
  | error e => rw [decode_eq_error hrun, decode_eq_error hrun']
  | ok v =>
    have hlength : 2 ≤ front.length := by
      obtain ⟨content, rest, -, hfront | hfront⟩ := run_response_eq_ok.1 (hresult .finished [])
      all_goals
        rw [List.append_nil] at hfront
        rw [hfront, List.append_assoc]
        simp [valueStart, faultStart]
    exact decode_congr_of_run hs hs' hlength (hrun.trans hrun'.symm)

/-! ## Answers -/

/-- If one of two results is a value or a fault, the other one is the same. -/
def SameAnswer (result result' : Except ResponseError Value) :
    Prop := Answers result ∨ Answers result' → result = result'

/-- An answer to a response comes from a run behind the tokens of `front`. -/
theorem Answers.exists_run_of_reaches (h : Answers (decode s)) (hs : Xml.tokens s = d.behind front)
    (hp : Reaches front p) : ∃ v, Position.run p d.ending d.tokens = .ok v := by
  obtain ⟨v, hrun⟩ := h.exists_run
  exact ⟨v, (run_of_reaches hs hp).symm.trans hrun⟩

/-- Two responses give the same answer if their runs from `p` give the same values. -/
theorem sameAnswer_of_reaches (hs : Xml.tokens s = d.behind front) (hs' : Xml.tokens s' = d'.behind front)
    (hp : Reaches front p)
    (hrun : ∀ v, Position.run p d.ending d.tokens = .ok v ↔ Position.run p d'.ending d'.tokens = .ok v)
    (hlength : ∀ v, Position.run p d.ending d.tokens = .ok v → 2 ≤ front.length) :
    SameAnswer (decode s) (decode s') := by
  have hsame {v : Value} (hv : Position.run p d.ending d.tokens = .ok v) : decode s = decode s' :=
    decode_congr_of_reaches hs hs' hp (hlength v hv) (hv.trans ((hrun v).1 hv).symm)
  rintro (h | h)
  · obtain ⟨v, hv⟩ := h.exists_run_of_reaches hs hp
    exact hsame hv
  · obtain ⟨v, hv⟩ := h.exists_run_of_reaches hs' hp
    exact hsame ((hrun v).2 hv)

end

/-! ## A response up to its value -/

def responseBack : String := "</param></params></methodResponse>"

def outermostStart : List Token := [.start "methodResponse", .start "params", .start "param"]

theorem reaches_outermost : Position.Reaches outermostStart .outermost :=
  .snoc (.snoc (.snoc .start .response) .params) .param

theorem meets_responseStart (markup : String) (h : markup.toList.head? = some '<') :
    Xml.Meets responseStart markup outermostStart ["param", "params", "methodResponse"] :=
  Xml.meets_of_scans rfl (fun rest => .token rfl (.token rfl (.token rfl (.nil _ rest)))) h

end SpacewalkAcquire.XmlRpc
