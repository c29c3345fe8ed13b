import SpacewalkAcquire.Proofs.Xml.Layout
import SpacewalkAcquire.XmlRpc.Response

/-!
# Layout of responses

* `decode_layout` : white space and comments between markup change nothing of what a response decodes to.
-/

namespace SpacewalkAcquire.XmlRpc

open Xml (BetweenMarkup EndsInMarkup Layout body)

/-- White space and comments between markup change nothing of what a response decodes to, be it a value, a fault or an
error: neither where the reader comes from one piece of markup to the next, nor behind any other markup, which the
reader does not come to as it fails before. -/
theorem decode_layout {front behind layout : String} (hfront : BetweenMarkup front behind ∨ EndsInMarkup (body front))
    (hlayout : Layout layout.toList) : decode (front ++ layout ++ behind) = decode (front ++ behind) := by
  have hends : EndsInMarkup (body front) := hfront.elim BetweenMarkup.endsInMarkup id
  rw [decode, decode, hends.tokens_layout hlayout]

/-- A line end, a comment and two blanks in an empty value of a response that is cut off behind a wrong end tag. -/
theorem decode_layout_value :
    let front := "<methodResponse><params><param><value>"
    let behind := "</value></params>"
    BetweenMarkup front behind ∧ decode (front ++ "\r\n<!-- a -- b -->\t " ++ behind) = decode (front ++ behind) := by
  intro front behind
  have hbetween : BetweenMarkup front behind := by
    refine ⟨?_, [.start "methodResponse", .start "params", .start "param"], ["param", "params", "methodResponse"],
      "<value></value></params>".toList, ?_, rfl, ?_⟩
    · show "</value></params>".toList.head? = some '<'
      rfl
    · show Xml.Scans [] (body "<methodResponse><params><param><value></value></params>") _ _ _
      exact .token rfl (.token rfl (.token rfl (.nil _ _)))
    · show (Xml.next _ "<value></value></params>".toList).rest? = some "</value></params>".toList
      decide
  have hlayout : Layout "\r\n<!-- a -- b -->\t ".toList :=
    .space rfl (.space rfl (.comment (s := " a -- b ") (by decide) (.space rfl (.space rfl .nil))))
  exact ⟨hbetween, decode_layout (.inl hbetween) hlayout⟩

end SpacewalkAcquire.XmlRpc
