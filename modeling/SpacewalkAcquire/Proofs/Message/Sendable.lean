import SpacewalkAcquire.Proofs.Message.Fields
import SpacewalkAcquire.Proofs.Message.Framing

/-!
# Messages that the method sends

* `Sendable m` : `m` is fit for the wire but for the wording of a failure, which does not start with white space;
* `sendable_status`, `sendable_uriStart`, `sendable_uriDone`, `sendable_uriFailure` : what is built from values on one
  line is sendable, whatever the failure.
-/

namespace SpacewalkAcquire.Message

/-- Text and names are fit for the wire, and the values are on one line but for the wording of a failure. -/
structure Sendable (m : Message) : Prop where
  text : Tidy m.text
  names : ∀ field ∈ m.fields.entries, Tidy field.1 ∧ ':' ∉ field.1.toList
  wording : ∀ field ∈ m.fields.entries, '\n' ∈ field.2.toList → (m.code = Kind.uriFailure.code ∧ field.1 = "Message") ∧
    ∀ c, field.2.toList.head? = some c → Text.isBlank c = false

theorem Sendable.headed {m : Message} (h : m.Sendable) : m.Headed :=
  ⟨h.text, h.names, fun field hf hm => (h.wording field hf hm).2⟩

/-- Only the report of a failure can leave its line. -/
theorem Sendable.contained {m : Message} (h : m.Sendable) (hcode : m.code ≠ Kind.uriFailure.code) : m.Contained := by
  have hvalues : ∀ field ∈ m.fields.entries, '\n' ∉ field.2.toList :=
    fun field hf hm => hcode (h.wording field hf hm).1.1
  refine ⟨fun field hf => hvalues field (List.dropLast_subset _ hf), fun field hf hm => ?_⟩
  rw [toList_content] at hm
  exact hvalues field (List.mem_of_getLast? hf) (Text.mem_of_mem_trimEndWith hm)

theorem Sendable.ofKind (kind : Kind) : (ofKind kind).Sendable := by
  refine ⟨?_, fun field hf => absurd hf List.not_mem_nil, fun field hf => absurd hf List.not_mem_nil⟩
  cases kind <;> exact ⟨by decide, rfl⟩

section Set

variable {m : Message} {name : String}

theorem Sendable.setWith (h : m.Sendable) {value : String} (hname : Tidy name ∧ ':' ∉ name.toList)
    (hvalue : '\n' ∈ value.toList → (m.code = Kind.uriFailure.code ∧ name = "Message") ∧
      ∀ c, value.toList.head? = some c → Text.isBlank c = false) : (m.set name value).Sendable := by
  refine ⟨h.text, fun field hf => ?_, fun field hf hm => ?_⟩
  · rcases Bindings.mem_insert hf with hf | rfl
    · exact h.names field hf
    · exact hname
  · rcases Bindings.mem_insert hf with hf | rfl
    · exact h.wording field hf hm
    · exact hvalue hm

theorem Sendable.set (h : m.Sendable) {value : String} (hname : Tidy name ∧ ':' ∉ name.toList)
    (hvalue : '\n' ∉ value.toList) : (m.set name value).Sendable :=
  h.setWith hname fun hm => (hvalue hm).elim

theorem Sendable.setIfSome (h : m.Sendable) {value : Option String} (hname : Tidy name ∧ ':' ∉ name.toList)
    (hvalue : ∀ v, value = some v → '\n' ∉ v.toList) : (m.setIfSome name value).Sendable := by
  cases value with
  | none => exact h
  | some v => exact h.set hname (hvalue v rfl)

end Set

theorem sendable_capabilities : capabilities.Sendable :=
  (Sendable.ofKind .capabilities).set ⟨⟨by decide, rfl⟩, by decide⟩ (by decide)
    |>.set ⟨⟨by decide, rfl⟩, by decide⟩ (by decide)

theorem tidy_uri : Tidy "URI" ∧ ':' ∉ "URI".toList := ⟨⟨by decide, rfl⟩, by decide⟩

theorem tidy_message : Tidy "Message" ∧ ':' ∉ "Message".toList := ⟨⟨by decide, rfl⟩, by decide⟩

theorem tidy_size : Tidy "Size" ∧ ':' ∉ "Size".toList := ⟨⟨by decide, rfl⟩, by decide⟩

theorem tidy_lastModified : Tidy "Last-Modified" ∧ ':' ∉ "Last-Modified".toList := ⟨⟨by decide, rfl⟩, by decide⟩

def acquire (uri filename : String) : Message := ((ofKind .uriAcquire).set "URI" uri).set "Filename" filename

theorem wireSafe_acquire {uri filename : String} (huri : Tidy uri) (hfilename : Tidy filename) :
    (acquire uri filename).WireSafe := by
  have hkind : (ofKind .uriAcquire).WireSafe := ⟨⟨by decide, rfl⟩, fun field hf => absurd hf List.not_mem_nil⟩
  exact (hkind.set tidy_uri.1 tidy_uri.2 huri).set ⟨by decide, rfl⟩ (by decide) hfilename

variable {uri : String} (huri : '\n' ∉ uri.toList)
include huri

theorem sendable_status {note : String} (hnote : '\n' ∉ note.toList) : (status uri note).Sendable :=
  (Sendable.ofKind .status).set tidy_uri huri |>.set tidy_message hnote

theorem sendable_uriStart {lastModified : Option String} (size : Option Nat)
    (hlast : ∀ v, lastModified = some v → '\n' ∉ v.toList) : (uriStart uri size lastModified).Sendable := by
  refine (((Sendable.ofKind .uriStart).set tidy_uri huri).setIfSome tidy_size fun v hv => ?_).setIfSome tidy_lastModified
    hlast
  obtain ⟨n, -, rfl⟩ := Option.map_eq_some_iff.1 hv
  exact Text.not_mem_toString_nat rfl

theorem sendable_uriDone {filename : String} {outcome : Outcome} (hfilename : '\n' ∉ filename.toList)
    (hlast : ∀ v, outcome.lastModified = some v → '\n' ∉ v.toList) (hmd5 : '\n' ∉ outcome.md5.toList)
    (hsha256 : '\n' ∉ outcome.sha256.toList) : (uriDone uri filename outcome).Sendable := by
  have hsize : '\n' ∉ (toString outcome.size).toList := Text.not_mem_toString_nat rfl
  exact (Sendable.ofKind .uriDone).set tidy_uri huri
    |>.set ⟨⟨by decide, rfl⟩, by decide⟩ hfilename
    |>.set tidy_size hsize
    |>.setIfSome tidy_lastModified hlast
    |>.set ⟨⟨by decide, rfl⟩, by decide⟩ hmd5
    |>.set ⟨⟨by decide, rfl⟩, by decide⟩ hmd5
    |>.set ⟨⟨by decide, rfl⟩, by decide⟩ hsha256

omit huri

theorem exists_category (failure : Failure) :
    ∃ c cs, failure.category.toList = c :: cs ∧ Text.isBlank c = false := by
  have hhead : failure.category.toList.head?.any (fun c => !Text.isBlank c) = true := by
    cases failure <;> dsimp only [Failure.category] <;> decide
  obtain ⟨c, hc, hblank⟩ := Option.any_eq_true _ _ |>.1 hhead
  obtain ⟨cs, hcs⟩ := List.head?_eq_some_iff.1 hc
  exact ⟨c, cs, hcs, by rwa [Bool.not_eq_true'] at hblank⟩

theorem head?_report (failure : Failure) {c : Char} (h : failure.report.toList.head? = some c) :
    Text.isBlank c = false := by
  have hcategory (wording : String) (h : (s!"{failure.category}: {wording}").toList.head? = some c) :
      Text.isBlank c = false := by
    obtain ⟨d, ds, hd, hblank⟩ := exists_category failure
    have hhead : (toString failure.category).toList = d :: ds := hd
    rw [String.toList_append, String.toList_append, hhead] at h
    cases h
    exact hblank
  cases failure with
  | httpStatus status reason drain =>
    have hne : (toString status.toNat).toList ≠ [] := by
      rw [Nat.toString_eq_repr, Nat.toList_repr]
      exact Nat.toDigits_ne_nil
    change (toString status.toNat ++ toString "  " ++ toString reason).toList.head? = some c at h
    rw [String.toList_append, String.toList_append, List.append_assoc, List.head?_append_of_ne_nil _ hne] at h
    rw [← Bool.not_eq_true]
    intro hblank
    have hdigit := Text.mem_toString_nat (List.mem_of_mem_head? h)
    rw [isDigit_of_isBlank hblank] at hdigit
    cases hdigit
  | _ => exact hcategory _ h

theorem reasonCode?_line {failure : Failure} {v : String} (h : failure.reasonCode? = some v) : '\n' ∉ v.toList := by
  cases failure with
  | httpStatus status reason drain =>
    cases h
    have hstatus : '\n' ∉ (toString status.toNat).toList := Text.not_mem_toString_nat rfl
    have hstart : '\n' ∉ (toString "HttpError").toList := by decide
    rw [String.toList_append, List.mem_append, not_or]
    exact ⟨hstart, hstatus⟩
  | _ => cases h

theorem sendable_uriFailure {uri : Option String} (huri : ∀ v, uri = some v → '\n' ∉ v.toList) (failure : Failure) :
    (uriFailure uri failure).Sendable :=
  (((Sendable.ofKind .uriFailure).setIfSome tidy_uri huri).setWith tidy_message fun _ =>
    ⟨⟨code_setIfSome _ _ _, rfl⟩, fun _ hc => head?_report failure hc⟩).setIfSome ⟨⟨by decide, rfl⟩, by decide⟩
    fun _ hv => reasonCode?_line hv

end SpacewalkAcquire.Message
