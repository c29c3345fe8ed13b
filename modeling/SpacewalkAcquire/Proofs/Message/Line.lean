import SpacewalkAcquire.Message.Wire
import SpacewalkAcquire.Proofs.Text.Fault
import SpacewalkAcquire.Proofs.Text.Trim

/-!
# Lines of messages

* `content s` : what counts of a line: all but the carriage returns and line feeds at its end;
* `nextLine_line`, `nextLine_ok` : a line that is written is read, and a line that is read has no line feed;
* `lineText_append_returns` : carriage returns at the end of a line, whether it is a text or not;
* `read_eq`, `readFields_eq` : reading, line by line; `read_line`, `readFields_line` : how it goes on behind a line.
-/

namespace SpacewalkAcquire.Message

def isLineEnd (c : Char) : Bool := c == '\r' || c == '\n'

/-- What counts of a line: its text without line ends. -/
def content (s : String) : String := String.ofList (Text.trimEndWith isLineEnd s.toList)

@[simp] theorem toList_content (s : String) : (content s).toList = Text.trimEndWith isLineEnd s.toList := by
  simp [content]

theorem isBlank_of_isLineEnd {c : Char} (h : isLineEnd c = true) : Text.isBlank c = true := by
  simp only [isLineEnd, Bool.or_eq_true, beq_iff_eq] at h
  rcases h with rfl | rfl <;> decide

theorem content_append_lineFeed (s : String) : content (s ++ "\n") = content s := by
  apply String.toList_inj.1
  rw [toList_content, toList_content, String.toList_append]
  exact Text.trimEndWith_append_of_pos rfl s.toList

theorem content_isEmpty_iff {s : String} : (content s).isEmpty = true ↔ ∀ c ∈ s.toList, isLineEnd c = true := by
  rw [String.isEmpty_iff, ← String.toList_inj, toList_content, Text.trimEndWith_eq_rdropWhile]
  exact List.rdropWhile_eq_nil_iff

/-! ## Cutting a line off -/

variable {ending : Ending} {input line rest : Bytes}

theorem cutLine_append (h : (10 : UInt8) ∉ line) (rest : Bytes) : cutLine (line ++ 10 :: rest) = (line, some rest) := by
  induction line with
  | nil => simp [cutLine]
  | cons b bs ih =>
    rw [List.mem_cons, not_or] at h
    rw [List.cons_append, cutLine, if_neg (Ne.symm h.1), ih h.2]

theorem eq_append_of_cutLine {behind : Option Bytes} (h : cutLine input = (line, behind)) :
    (10 : UInt8) ∉ line ∧ input = line ++ behind.elim [] (10 :: ·) := by
  induction input generalizing line with
  | nil =>
    rw [cutLine, Prod.mk.injEq] at h
    obtain ⟨rfl, rfl⟩ := h
    simp
  | cons b bs ih =>
    rw [cutLine] at h
    split at h
    · next hb =>
      rw [Prod.mk.injEq] at h
      obtain ⟨rfl, rfl⟩ := h
      simp [hb]
    · next hb =>
      rw [Prod.mk.injEq] at h
      obtain ⟨rfl, h2⟩ := h
      obtain ⟨hn, e⟩ := ih (Prod.ext rfl h2)
      refine ⟨?_, by rw [List.cons_append, ← e]⟩
      rw [List.mem_cons, not_or]
      exact ⟨Ne.symm hb, hn⟩

theorem nextLine_cons (h : (10 : UInt8) ∉ line) (ending : Ending) (rest : Bytes) :
    nextLine ending (line ++ 10 :: rest) = .item (lineText (line ++ [10])) rest := by
  rw [nextLine, if_neg (by simp), cutLine_append h]

theorem nextLine_line {s : String} (h : '\n' ∉ s.toList) (ending : Ending) (rest : Bytes) :
    nextLine ending (Text.toUtf8 (s ++ "\n") ++ rest) = .item (.ok (content s)) rest := by
  have hb : (10 : UInt8) ∉ Text.toUtf8 s := fun hm => h (Text.lineFeed_mem_toUtf8_iff.1 hm)
  have htext : lineText (Text.toUtf8 s ++ [10]) = .ok (content s) := by
    rw [← Text.toUtf8_lineFeed, ← Text.toUtf8_append, lineText, Text.readUtf8, Text.ofUtf8?_toUtf8]
    exact congrArg Except.ok (content_append_lineFeed s)
  rw [Text.toUtf8_append, Text.toUtf8_lineFeed, List.append_assoc, List.singleton_append, nextLine_cons hb, htext]

theorem nextLine_nil (ending : Ending) : nextLine ending [] = .stop ending.failure? := rfl

theorem lineText_ok {s : String} (h : lineText line = .ok s) : ∃ t, Text.toUtf8 t = line ∧ s = content t := by
  unfold lineText Text.readUtf8 at h
  cases ht : Text.ofUtf8? line with
  | none => rw [ht] at h; cases h
  | some t =>
    rw [ht] at h
    exact ⟨t, (Text.ofUtf8?_eq_some_iff.1 ht).symm, (Except.ok.inj h).symm⟩

theorem lineFeed_not_mem_content {t : String} (h : (10 : UInt8) ∉ Text.toUtf8 t) : '\n' ∉ (content t).toList := by
  intro hm
  rw [toList_content] at hm
  exact h (Text.lineFeed_mem_toUtf8_iff.2 (Text.mem_of_mem_trimEndWith hm))

theorem nextLine_ok {s : String} (h : nextLine ending input = .item (.ok s) rest) : '\n' ∉ s.toList := by
  unfold nextLine at h
  split at h
  · cases h
  · split at h
    · next hc =>
      rw [Next.item.injEq] at h
      obtain ⟨t, ht, rfl⟩ := lineText_ok h.1
      obtain ⟨u, rfl, hu⟩ := Text.eq_append_lineFeed ht
      rw [content_append_lineFeed]
      exact lineFeed_not_mem_content (hu ▸ (eq_append_of_cutLine hc).1)
    · next hc =>
      split at h
      · rw [Next.item.injEq] at h
        obtain ⟨t, ht, rfl⟩ := lineText_ok h.1
        exact lineFeed_not_mem_content (ht ▸ (eq_append_of_cutLine hc).1)
      · cases h

/-! ## Carriage returns -/

theorem toUtf8_returns (n : Nat) : Text.toUtf8 (String.ofList (List.replicate n '\r')) = List.replicate n 13 := by
  rw [Text.toUtf8_eq_flatMap, String.toList_ofList, List.flatMap_replicate]
  exact List.flatten_replicate_singleton

theorem content_append_returns (s : String) (n : Nat) :
    content (s ++ String.ofList (List.replicate n '\r') ++ "\n") = content s := by
  rw [content_append_lineFeed]
  apply String.toList_inj.1
  rw [toList_content, toList_content, String.toList_append, String.toList_ofList]
  refine Text.trimEndWith_append_of_all _ fun c hc => ?_
  rw [List.eq_of_mem_replicate hc]
  rfl

/-- Carriage returns at the end of a line do not count, and they change nothing about what is wrong with it. -/
theorem lineText_append_returns (line : Bytes) (n : Nat) :
    lineText (line ++ List.replicate n 13 ++ [10]) = lineText (line ++ [10]) := by
  by_cases htext : ∃ t, Text.toUtf8 t = line
  · obtain ⟨t, rfl⟩ := htext
    rw [← toUtf8_returns, ← Text.toUtf8_lineFeed, ← Text.toUtf8_append, ← Text.toUtf8_append, ← Text.toUtf8_append]
    simp only [lineText, Text.readUtf8, Text.ofUtf8?_toUtf8]
    exact congrArg Except.ok ((content_append_returns t n).trans (content_append_lineFeed t).symm)
  · obtain ⟨fault, hfault⟩ := (Text.faultFrom_append 0 line).resolve_left htext
    have hfails {tail : Bytes} (hascii : ∀ b ∈ tail, b.toNat < 128) (hstarts : Text.StartsAscii tail) :
        Text.readUtf8 (line ++ tail) = .error fault := by
      have hnone : Text.ofUtf8? (line ++ tail) = none := by
        rw [Option.eq_none_iff_forall_ne_some]
        exact fun s hs => htext (Text.exists_toUtf8_of_append hascii (Text.ofUtf8?_eq_some_iff.1 hs).symm)
      rw [Text.readUtf8, hnone]
      exact congrArg Except.error (hfault tail hstarts)
    have hreturns : Text.StartsAscii (List.replicate n 13 ++ [10]) := by
      cases n with
      | zero => exact ⟨10, [], rfl, by decide⟩
      | succ n => exact ⟨13, _, rfl, by decide⟩
    rw [List.append_assoc, lineText, lineText, hfails _ hreturns, hfails _ ⟨10, [], rfl, by decide⟩]
    · exact List.forall_mem_singleton.2 (by decide)
    · refine List.forall_mem_append.2 ⟨fun b hb => ?_, List.forall_mem_singleton.2 (by decide)⟩
      rw [List.eq_of_mem_replicate hb]
      decide

/-! ## Reading on -/

theorem readFields_eq (ending : Ending) (m : Message) (input : Bytes) :
    readFields ending m input = match nextLine ending input with
      | .stop none => .item (.ok m) []
      | .stop (some failure) => .stop (some failure)
      | .item (.error failure) rest => .item (.error failure) rest
      | .item (.ok line) rest =>
        if line.isEmpty then .item (.ok m) rest
        else match ofFieldLine line with
          | .error failure => .item (.error failure) rest
          | .ok (name, value) => readFields ending (m.set name value) rest := by
  rw [readFields]
  split
  · next h => rw [h]
  · next h => rw [h]
  · next h => rw [h]
  · next line rest h => cases hfield : ofFieldLine line <;> simp [h, hfield]

theorem read_eq (ending : Ending) (input : Bytes) :
    read ending input = match nextLine ending input with
      | .stop failure => .stop failure
      | .item (.error failure) rest => .item (.error failure) rest
      | .item (.ok line) rest =>
        if line.isEmpty then read ending rest
        else match ofStatusLine line with
          | .error failure => .item (.error failure) rest
          | .ok m => readFields ending m rest := by
  rw [read]
  split
  · next h => rw [h]
  · next h => rw [h]
  · next line rest h => cases hstatus : ofStatusLine line <;> simp [h, hstatus]

theorem read_nil (ending : Ending) : read ending [] = .stop ending.failure? := by
  rw [read_eq, nextLine_nil]

theorem read_line {s : String} (h : '\n' ∉ s.toList) (ending : Ending) (rest : Bytes) :
    read ending (Text.toUtf8 (s ++ "\n") ++ rest) =
      if (content s).isEmpty then read ending rest
      else match ofStatusLine (content s) with
        | .error failure => .item (.error failure) rest
        | .ok m => readFields ending m rest := by
  rw [read_eq, nextLine_line h]

theorem readFields_line {s : String} (h : '\n' ∉ s.toList) (ending : Ending) (m : Message) (rest : Bytes) :
    readFields ending m (Text.toUtf8 (s ++ "\n") ++ rest) =
      if (content s).isEmpty then .item (.ok m) rest
      else match ofFieldLine (content s) with
        | .error failure => .item (.error failure) rest
        | .ok (name, value) => readFields ending (m.set name value) rest := by
  rw [readFields_eq, nextLine_line h]

end SpacewalkAcquire.Message
