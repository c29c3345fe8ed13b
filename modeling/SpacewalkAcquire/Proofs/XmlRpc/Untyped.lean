import SpacewalkAcquire.Proofs.Xml.Pieces
import SpacewalkAcquire.Proofs.XmlRpc.Standing

/-!
# Values without a type

* `Position.run_untyped`, `Position.run_typed` : how it goes on there, without the tags of a string and with them;
* `decode_untyped` : a value without a type means what a string with the same content means, if that is one text at the
  most; two texts are an error.
-/

namespace SpacewalkAcquire.XmlRpc

open Xml (Token Piece Reading)

namespace Position

variable {around : List Frame} {ending : Xml.Ending}

theorem run_scalar_failed {type : ScalarType} {tag text : String} (texts : List String) (e : Xml.XmlError) :
    run (.scalar type tag text around) (.failed e) (pieces texts) = .error (.xml e) := by
  induction texts generalizing text with
  | nil => rfl
  | cons piece texts ih => exact (run_of_moves (.scalarText piece)).trans ih

/-- What is read before `</string>` and `</value>` becomes that string. -/
theorem run_typed (r : Reading) (d : Xml.Document) :
    run (.value around) (r.before ((d.cons (.close "value")).cons (.close "string"))).ending
      (.start "string" :: (r.before ((d.cons (.close "value")).cons (.close "string"))).tokens) =
      match r.fault with
      | none => resume d.ending d.tokens (behind (.string (String.join r.texts)) around)
      | some e => .error (.xml (.reference e)) := by
  obtain ⟨texts, fault⟩ := r
  refine (run_of_moves (.typed (typed_of_ofName? rfl around))).trans ?_
  cases fault with
  | none =>
    refine (run_scalar texts ?_).trans (run_valueEnd _ _ _ _)
    rw [String.empty_append]
    rfl
  | some e => exact run_scalar_failed texts _

/-- What is read before `</value>` becomes a string, if it is one text at the most. -/
theorem run_untyped {r : Reading} (h : r.texts.length ≤ 1) (d : Xml.Document) :
    run (.value around) (r.before (d.cons (.close "value"))).ending (r.before (d.cons (.close "value"))).tokens =
      match r.fault with
      | none => resume d.ending d.tokens (behind (.string (String.join r.texts)) around)
      | some e => .error (.xml (.reference e)) := by
  obtain ⟨texts, fault⟩ := r
  rcases texts with _ | ⟨text, _ | ⟨second, more⟩⟩
  · cases fault with
    | none => exact run_of_moves .blank
    | some e => rfl
  · cases fault with
    | none =>
      rw [String.join_cons, String.join_nil, String.append_empty]
      exact (run_of_moves (.text text)).trans (run_valueEnd _ _ _ _)
    | some e => exact run_of_moves (.text text)
  · simp at h

theorem run_two_texts {r : Reading} {first second : String} {more : List String} (h : r.texts = first :: second :: more)
    (d : Xml.Document) : run (.value around) (r.before d).ending (r.before d).tokens =
      .error (.malformed (.unexpected "</value>" (some (.text second)))) := by
  obtain ⟨texts, fault⟩ := r
  cases h
  cases fault <;> exact run_of_moves (.text first)

end Position

/-- A value without a type means what a string with the same content means, in every response and whatever its content
is made of, if that is one text at the most when comments and white space alone are left out, or if the response fails
or ends before. Two texts are an error, where a string has both of them. -/
theorem decode_untyped {front back : String} {content : List Piece} {tokens : List Token} {opened : List String}
    (hcontent : ∀ piece ∈ content, piece.WellFormed)
    (h : Xml.Meets front (Xml.element "value" (Xml.source content) ++ back) tokens opened) :
    let untyped := decode (front ++ (Xml.element "value" (Xml.source content) ++ back))
    let typed := decode (front ++ (Xml.element "value" (Xml.element "string" (Xml.source content)) ++ back))
    ((Xml.reading content).texts.length ≤ 1 ∨ (∀ p, ¬Position.Reaches (tokens ++ [.start "value"]) p) → untyped = typed) ∧
    ∀ p first second more, Position.Reaches (tokens ++ [.start "value"]) p →
      (Xml.reading content).texts = first :: second :: more →
        untyped = .error (.malformed (.unexpected "</value>" (some (.text second)))) := by
  intro untyped typed
  have huntyped : Xml.tokens (front ++ (Xml.element "value" (Xml.source content) ++ back)) =
      ((Xml.reading content).before ((Xml.tokensFrom opened back.toList).cons (.close "value"))).behind
        (tokens ++ [.start "value"]) := by
    rw [h.tokens_markup h.1, String.toList_append, Xml.tokensFrom_element (by decide) hcontent,
      ← Xml.Document.behind_behind]
    rfl
  have htyped : Xml.tokens (front ++ (Xml.element "value" (Xml.element "string" (Xml.source content)) ++ back)) =
      (((Xml.reading content).before (((Xml.tokensFrom opened back.toList).cons (.close "value")).cons
        (.close "string"))).cons (.start "string")).behind (tokens ++ [.start "value"]) := by
    have hinput : (Xml.element "value" (Xml.element "string" (Xml.source content)) ++ back).toList =
        '<' :: ("value".toList ++ ['>']) ++ ((Xml.element "string" (Xml.source content)).toList ++
          ('<' :: '/' :: ("value".toList ++ ['>']) ++ back.toList)) := by
      rw [String.toList_append, Xml.toList_element, List.append_assoc, List.append_assoc]
    rw [h.tokens_markup (by rw [hinput]; rfl), hinput, Xml.reads_start "value" (by decide),
      Xml.tokensFrom_element (by decide) hcontent, Xml.reads_close "value" (by decide), ← Xml.Document.behind_behind]
    rfl
  refine ⟨fun hsame => ?_, fun p first second more hp htexts => ?_⟩
  · by_cases hreaches : ∃ p, Position.Reaches (tokens ++ [.start "value"]) p
    · obtain ⟨p, hp⟩ := hreaches
      obtain ⟨hlength, around, rfl⟩ := hp.of_value
      have hone := hsame.resolve_right fun hnone => hnone _ hp
      refine decode_congr_of_reaches huntyped htyped hp hlength ?_
      exact (Position.run_untyped hone _).trans (Position.run_typed _ _).symm
    · exact decode_congr_of_not_reaches huntyped htyped fun p hp => hreaches ⟨p, hp⟩
  · obtain ⟨-, around, rfl⟩ := hp.of_value
    refine decode_eq_error ?_
    rw [run_of_reaches huntyped hp, Position.run_two_texts htexts]

/-- A value without a type that holds two comments and character data between them means what the string means. -/
theorem decode_untyped_data :
    let content := [Piece.comment " base ", .text " ", .data "a<b", .comment ""]
    (∀ piece ∈ content, piece.WellFormed) ∧ (Xml.reading content).texts.length ≤ 1 ∧
      Xml.Meets responseStart (Xml.element "value" (Xml.source content) ++ responseBack) outermostStart
        ["param", "params", "methodResponse"] ∧
      decode (responseStart ++ (Xml.element "value" (Xml.source content) ++ responseBack)) =
        decode (responseStart ++ (Xml.element "value" (Xml.element "string" (Xml.source content)) ++ responseBack)) := by
  intro content
  have hcontent : ∀ piece ∈ content, piece.WellFormed := by decide
  have hone : (Xml.reading content).texts.length ≤ 1 := by decide
  have hmeets := meets_responseStart (Xml.element "value" (Xml.source content) ++ responseBack)
    (by rw [String.toList_append, Xml.toList_element]; rfl)
  exact ⟨hcontent, hone, hmeets, (decode_untyped hcontent hmeets).1 (.inl hone)⟩

/-- A comment within a value without a type is an error, if text stands before and behind it. Within a string it counts
for nothing. -/
theorem decode_untyped_comment :
    decode "<methodResponse><params><param><value>a<!-- -->b</value></param></params></methodResponse>" =
      .error (.malformed (.unexpected "</value>" (some (.text "b")))) ∧
    decode "<methodResponse><params><param><value><string>a<!-- -->b</string></value></param></params></methodResponse>" =
      .ok (.string "ab") := by
  constructor
  · have hscans : Xml.Scans []
        (Xml.body "<methodResponse><params><param><value>a<!-- -->b</value></param></params></methodResponse>")
        (valueStart ++ [.text "a", .text "b"]) ["value", "param", "params", "methodResponse"]
        "</value></param></params></methodResponse>".toList :=
      .token rfl (.token rfl (.token rfl (.token rfl (.token rfl (.skip rfl (.token rfl (.nil _ _)))))))
    refine decode_eq_error ?_
    rw [hscans.tokens_eq]
    rfl
  · have hscans : Xml.Scans []
        (Xml.body "<methodResponse><params><param><value><string>a<!-- -->b</string></value></param></params></methodResponse>")
        (valueStart ++ [.start "string", .text "a", .text "b", .close "string", .close "value"])
        ["param", "params", "methodResponse"] "</param></params></methodResponse>".toList :=
      .token rfl (.token rfl (.token rfl (.token rfl (.token rfl (.token rfl (.skip rfl (.token rfl
        (.token rfl (.token rfl (.nil _ _))))))))))
    exact decode_of_value (congrArg Xml.Document.tokens hscans.tokens_eq)
      (.typed (.string ["a", "b"] (by decide)))

end SpacewalkAcquire.XmlRpc
