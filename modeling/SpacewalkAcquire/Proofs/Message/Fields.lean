import SpacewalkAcquire.Message

/-!
# Codes and fields of the messages that are sent

* `field?_set`, `field?_setIfSome` : what a field holds after it or another one was set;
* `code_status`, `code_uriStart`, `code_uriDone`, `code_uriFailure` : the codes;
* `size_uriStart`, `size_uriDone`, `hashes_uriDone` : what is told about the content.
-/

namespace SpacewalkAcquire.Message

variable (message : Message) (name : String)

@[simp] theorem code_set (value : String) : (message.set name value).code = message.code := rfl

@[simp] theorem code_setIfSome (value : Option String) : (message.setIfSome name value).code = message.code := by
  cases value <;> rfl

theorem field?_ofKind (kind : Kind) : (ofKind kind).field? name = none := rfl

theorem field?_set (value other : String) :
    (message.set name value).field? other = if name = other then some value else message.field? other :=
  OrderedMap.get?_insert message.fields name value other

theorem field?_setIfSome (value : Option String) (other : String) :
    (message.setIfSome name value).field? other =
      if name = other then value.or (message.field? other) else message.field? other := by
  cases value with
  | none => simp [setIfSome]
  | some value => simp [setIfSome, field?_set]

@[simp] theorem code_status (uri note : String) : (status uri note).code = Kind.status.code := rfl

@[simp] theorem code_uriStart (uri : String) (size : Option Nat) (lastModified : Option String) :
    (uriStart uri size lastModified).code = Kind.uriStart.code := by
  simp only [uriStart, code_setIfSome, code_set]
  rfl

@[simp] theorem code_uriDone (uri filename : String) (outcome : Outcome) :
    (uriDone uri filename outcome).code = Kind.uriDone.code := by
  simp only [uriDone, code_setIfSome, code_set]
  rfl

@[simp] theorem code_uriFailure (uri : Option String) (failure : Failure) :
    (uriFailure uri failure).code = Kind.uriFailure.code := by
  simp only [uriFailure, code_setIfSome, code_set]
  rfl

theorem note_status (uri note : String) : (status uri note).field? "Message" = some note := by
  simp [status, field?_set]

theorem size_uriStart (uri : String) (size : Option Nat) (lastModified : Option String) :
    (uriStart uri size lastModified).field? "Size" = size.map toString := by
  simp [uriStart, field?_set, field?_setIfSome, field?_ofKind]

theorem size_uriDone (uri filename : String) (outcome : Outcome) :
    (uriDone uri filename outcome).field? "Size" = some (toString outcome.size) := by
  simp [uriDone, field?_set, field?_setIfSome]

theorem hashes_uriDone (uri filename : String) (outcome : Outcome) :
    (uriDone uri filename outcome).field? "MD5-Hash" = some outcome.md5 ∧
      (uriDone uri filename outcome).field? "MD5Sum-Hash" = some outcome.md5 ∧
      (uriDone uri filename outcome).field? "SHA256-Hash" = some outcome.sha256 := by
  simp [uriDone, field?_set]

end SpacewalkAcquire.Message
