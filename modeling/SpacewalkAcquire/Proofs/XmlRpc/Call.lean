import Mathlib.Logic.Function.Basic
import SpacewalkAcquire.Proofs.Text.Split
import SpacewalkAcquire.Proofs.Xml.Reading
import SpacewalkAcquire.XmlRpc.Call

/-!
# Calls say what they are made of

* `parameter_eq`, `call_eq` : a call as elements with escaped texts in them;
* `callTokens method parameters` : what a reader is to find in a call, and `reads_parameters` within it;
* `call_unaltered` : it finds that and nothing else, and different calls are different documents.

A parameter can be a document itself: no markup in it reaches the reader.
-/

namespace SpacewalkAcquire.XmlRpc

open Xml (Token Reads element escape textTokens)

/-! ## Calls as elements -/

theorem parameter_eq (text : String) : parameter text =
    element "param" ("\n" ++ element "value" (element "string" (escape text)) ++ "\n") ++ "\n" := by
  have hopen : "<param>\n<value><string>" =
      "<" ++ "param" ++ ">" ++ "\n" ++ "<" ++ "value" ++ ">" ++ "<" ++ "string" ++ ">" := by decide +kernel
  have hclose : "</string></value>\n</param>\n" =
      "</" ++ "string" ++ ">" ++ "</" ++ "value" ++ ">" ++ "\n" ++ "</" ++ "param" ++ ">" ++ "\n" := by decide +kernel
  refine (congrArg₂ (fun a b => a ++ escape text ++ b) hopen hclose).trans ?_
  simp only [element, String.append_assoc, -String.reduceAppend]

def callDeclaration : String := "<?xml version='1.0'?>"

def callBody (method : String) (parameters : List String) : String :=
  "\n" ++ element "methodName" (escape method) ++ "\n" ++
    element "params" ("\n" ++ String.join (parameters.map parameter)) ++ "\n"

theorem call_eq (method : String) (parameters : List String) :
    call method parameters = callDeclaration ++ "\n" ++ element "methodCall" (callBody method parameters) ++ "\n" := by
  have hopen : "<?xml version='1.0'?>\n<methodCall>\n<methodName>" =
      callDeclaration ++ "\n" ++ "<" ++ "methodCall" ++ ">" ++ "\n" ++ "<" ++ "methodName" ++ ">" := by decide +kernel
  have hparams : "</methodName>\n<params>\n" =
      "</" ++ "methodName" ++ ">" ++ "\n" ++ "<" ++ "params" ++ ">" ++ "\n" := by decide +kernel
  have hclose : "</params>\n</methodCall>\n" =
      "</" ++ "params" ++ ">" ++ "\n" ++ "</" ++ "methodCall" ++ ">" ++ "\n" := by decide +kernel
  refine (congr (congrArg₂ (fun a b c => a ++ escape method ++ b ++ String.join (parameters.map parameter) ++ c)
    hopen hparams) hclose).trans ?_
  simp only [callBody, element, String.append_assoc, -String.reduceAppend]

/-! ## What a reader finds -/

def elementTokens (name : String) (inner : List Token) : List Token := .start name :: (inner ++ [.close name])

def parameterTokens (text : String) : List Token :=
  elementTokens "param" (elementTokens "value" (elementTokens "string" (textTokens text)))

def callTokens (method : String) (parameters : List String) : List Token :=
  elementTokens "methodCall"
    (elementTokens "methodName" (textTokens method) ++ elementTokens "params" (parameters.flatMap parameterTokens))

theorem reads_newline (opened : List String) : Reads opened "\n".toList [] opened := by
  have hnewline : "\n".toList = ['\n'] := by decide +kernel
  rw [hnewline]
  exact Xml.reads_blank (List.forall_mem_singleton.2 rfl) opened

/-- A text between two `\n` is read like the text alone. -/
theorem reads_lines {s : String} {tokens : List Token} {opened : List String}
    (h : Reads opened s.toList tokens opened) : Reads opened ("\n" ++ s ++ "\n").toList tokens opened := by
  have hlines := ((reads_newline opened).append h).append (reads_newline opened)
  rw [List.nil_append, List.append_nil] at hlines
  rw [String.toList_append, String.toList_append]
  exact hlines

theorem reads_parameter (text : String) (opened : List String) :
    Reads opened (parameter text).toList (parameterTokens text) opened := by
  have hstring := Xml.reads_escapedElement (by decide : Xml.IsPlain "string") text ("value" :: "param" :: opened)
  have hvalue := Xml.reads_element "value" _ (by decide) hstring
  have hparam := Xml.reads_element "param" _ (by decide) (reads_lines hvalue)
  have hline := hparam.append (reads_newline opened)
  rw [List.append_nil] at hline
  rw [parameter_eq, String.toList_append]
  exact hline

theorem reads_parameters (parameters : List String) (opened : List String) :
    Reads opened (String.join (parameters.map parameter)).toList (parameters.flatMap parameterTokens) opened := by
  induction parameters with
  | nil => exact Reads.nil opened
  | cons text rest ih =>
    rw [List.map_cons, String.join_cons, String.toList_append, List.flatMap_cons]
    exact (reads_parameter text opened).append ih

theorem reads_callBody (method : String) (parameters : List String) (opened : List String) :
    Reads opened (callBody method parameters).toList
      (elementTokens "methodName" (textTokens method) ++ elementTokens "params" (parameters.flatMap parameterTokens))
      opened := by
  have hmethod := reads_lines (Xml.reads_escapedElement (by decide : Xml.IsPlain "methodName") method opened)
  have hinner := (reads_newline ("params" :: opened)).append (reads_parameters parameters _)
  rw [← String.toList_append, List.nil_append] at hinner
  have hparams := (Xml.reads_element "params" _ (by decide) hinner).append (reads_newline opened)
  rw [List.append_nil] at hparams
  have hbody := hmethod.append hparams
  rw [← String.toList_append, ← String.toList_append, ← String.append_assoc] at hbody
  exact hbody

theorem reads_callDeclaration : Reads [] callDeclaration.toList [] [] := Xml.reads_of_skip fun _ => rfl

theorem tokens_call (method : String) (parameters : List String) :
    Xml.tokens (call method parameters) = ⟨callTokens method parameters, .finished⟩ := by
  have hcall := Xml.reads_element "methodCall" _ (by decide) (reads_callBody method parameters ["methodCall"])
  have hreads := (reads_callDeclaration.append (reads_newline [])).append hcall
  have hdocument : (call method parameters).toList = (callDeclaration.toList ++ "\n".toList ++
      (element "methodCall" (callBody method parameters)).toList) ++ ['\n'] := by
    rw [call_eq, String.toList_append, String.toList_append, String.toList_append]
    rfl
  rw [Xml.document_of_reads hreads rfl hdocument]
  have hend : Xml.tokensFrom [] ['\n'] = ⟨[], .finished⟩ := by
    rw [Xml.tokensFrom_eq]
    rfl
  rw [hend, Xml.Document.behind, List.append_nil]
  rfl

/-! ## Different calls are different documents -/

/-- An escaped text before a tag is cut off in one way. -/
theorem escape_cancel {s s' : String} {rest rest' : List Char}
    (h : (escape s).toList ++ '<' :: rest = (escape s').toList ++ '<' :: rest') : s = s' ∧ rest = rest' := by
  obtain ⟨hescape, hrest⟩ := Text.append_cons_inj (Xml.lt_not_mem_escape s) (Xml.lt_not_mem_escape s') h
  exact ⟨Xml.escape_injective (String.toList_inj.1 hescape), hrest⟩

def callEnd : String := "</params>\n</methodCall>\n"

theorem callEnd_chars : ∃ behind, callEnd.toList = '<' :: '/' :: behind :=
  ⟨"params>\n</methodCall>\n".toList, by decide +kernel⟩

theorem parameter_chars : ∃ before behind, ∀ text,
    (parameter text).toList = '<' :: 'p' :: (before ++ ((escape text).toList ++ '<' :: behind)) := by
  have hopen : "<param>\n<value><string>".toList = '<' :: 'p' :: "aram>\n<value><string>".toList := by decide +kernel
  have hclose : "</string></value>\n</param>\n".toList = '<' :: "/string></value>\n</param>\n".toList := by
    decide +kernel
  refine ⟨"aram>\n<value><string>".toList, "/string></value>\n</param>\n".toList, fun text => ?_⟩
  rw [← hclose, ← List.cons_append, ← List.cons_append, ← hopen, ← List.append_assoc, ← String.toList_append,
    ← String.toList_append]
  rfl

/-- The parameters in front of `callEnd` are cut off in one way. -/
theorem parameters_cancel {parameters parameters' : List String}
    (h : (String.join (parameters.map parameter)).toList ++ callEnd.toList =
      (String.join (parameters'.map parameter)).toList ++ callEnd.toList) : parameters = parameters' := by
  obtain ⟨before, behind, hparameter⟩ := parameter_chars
  obtain ⟨last, hend⟩ := callEnd_chars
  induction parameters generalizing parameters' with
  | nil =>
    cases parameters' with
    | nil => rfl
    | cons text' rest' => simp [hparameter, hend] at h
  | cons text rest ih =>
    cases parameters' with
    | nil => simp [hparameter, hend] at h
    | cons text' rest' =>
      simp only [List.map_cons, String.join_cons, String.toList_append, hparameter, List.cons_append, List.append_assoc,
        List.cons.injEq, List.append_cancel_left_eq, true_and] at h
      obtain ⟨rfl, hrest⟩ := escape_cancel h
      rw [ih (List.append_cancel_left hrest)]

theorem call_injective : Function.Injective2 call := by
  intro method method' parameters parameters' h
  have hcall (method : String) (parameters : List String) : call method parameters =
      "<?xml version='1.0'?>\n<methodCall>\n<methodName>" ++ (escape method ++ ("</methodName>\n<params>\n" ++
        (String.join (parameters.map parameter) ++ callEnd))) := by
    rw [← String.append_assoc, ← String.append_assoc, ← String.append_assoc]
    rfl
  have hmiddle : ∃ middle, "</methodName>\n<params>\n".toList = '<' :: middle :=
    ⟨"/methodName>\n<params>\n".toList, by decide +kernel⟩
  obtain ⟨middle, hmiddle⟩ := hmiddle
  rw [hcall, hcall, String.append_right_inj, ← String.toList_inj] at h
  simp only [String.toList_append, hmiddle, List.cons_append] at h
  obtain ⟨rfl, hparameters⟩ := escape_cancel h
  exact ⟨rfl, parameters_cancel (List.append_cancel_left hparameters)⟩

/-! ## Main result -/

/-- A reader finds in a call the method and the parameters in their order, each as it is but for the white space at its
ends, whatever markup is in them, and nothing else. Calls of different methods or with different parameters are
different documents. -/
theorem call_unaltered :
    (∀ method parameters, Xml.tokens (call method parameters) = ⟨callTokens method parameters, .finished⟩) ∧
      Function.Injective2 call :=
  ⟨tokens_call, call_injective⟩

/-- A parameter that is a document, and one that is white space. -/
example : callTokens "m" ["\n<?xml?><a b='&amp;'/>]]>\t", " "] = [.start "methodCall",
    .start "methodName", .text "m", .close "methodName", .start "params",
    .start "param", .start "value", .start "string", .text "<?xml?><a b='&amp;'/>]]>", .close "string", .close "value",
    .close "param",
    .start "param", .start "value", .start "string", .close "string", .close "value", .close "param",
    .close "params", .close "methodCall"] := by decide

end SpacewalkAcquire.XmlRpc
