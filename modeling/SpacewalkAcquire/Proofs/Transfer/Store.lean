import SpacewalkAcquire.Proofs.Effects.Recorded
import SpacewalkAcquire.Proofs.Files
import SpacewalkAcquire.Proofs.Transfer.Digest

/-!
# Storing a body

* `Environment.UsesFiles env files` : what the environment does to files is what can be done to a `FileTree`;
* `appendChunks_files`, `write_files` : how far a body gets into its file;
* `store_files` : it is there as a whole, or lost (`Lost`): nothing of it is there unless its file could not be removed.
-/

namespace SpacewalkAcquire

open FileTree

/-- An operation has ended in a world that is `succeeded` or one that is `failed`. -/
def Ends {σ : Type} (succeeded failed : σ → Prop) : Except FileError Unit × σ → Prop
  | (.ok _, w) => succeeded w
  | (.error _, w) => failed w

/-- What the environment does to the files of a world, as far as it succeeds, is what can be done to a `FileTree`.
An operation may fail for causes of its own: if a file cannot be created or removed, nothing happens; if bytes cannot be
added or flushed, there is no saying what the file holds. -/
structure Environment.UsesFiles {σ : Type} (env : Environment (StateM σ)) (files : σ → FileTree) : Prop where
  createFile (path : String) (w : σ) :
    Ends (fun w' => (files w).create path = .ok (files w')) (fun w' => files w' = files w) (env.createFile path w)
  appendFile (path : String) (chunk : Bytes) (w : σ) :
    Ends (fun w' => (files w).append path chunk = .ok (files w')) (fun w' => Damaged (files w) path (files w'))
      (env.appendFile path chunk w)
  flushFile (path : String) (w : σ) :
    Ends (fun w' => files w' = files w) (fun w' => Damaged (files w) path (files w')) (env.flushFile path w)
  removeFile (path : String) (w : σ) :
    Ends (fun w' => (files w).remove path = .ok (files w')) (fun w' => files w' = files w) (env.removeFile path w)
  readFile (path : String) (w : σ) : files (env.readFile path w).2 = files w
  certificateFault (content : Bytes) (w : σ) : files (env.certificateFault content w).2 = files w
  exchange (connection : Connection) (request : Http.Request) (w : σ) :
    files (env.exchange connection request w).2 = files w
  write (bytes : Bytes) (w : σ) : files (env.write bytes w).2 = files w
  flush (w : σ) : files (env.flush w).2 = files w

namespace Recorded

variable {σ : Type} {succeeded failed : σ → Prop}

theorem ends {result : Except FileError Unit × σ} {result' : Except FileError Unit × Recorded σ}
    (hvalue : result'.1 = result.1) (hworld : result'.2.world = result.2) (h : Ends succeeded failed result) :
    Ends (fun r => succeeded r.world) (fun r => failed r.world) result' := by
  obtain ⟨value, w⟩ := result
  obtain ⟨value', r⟩ := result'
  dsimp only at hvalue hworld
  subst hvalue hworld
  cases value' <;> exact h

end Recorded

theorem Environment.UsesFiles.recorded {σ : Type} {env : Environment (StateM σ)} {files : σ → FileTree}
    (h : env.UsesFiles files) : env.recorded.UsesFiles fun r => files r.world where
  createFile path r := Recorded.ends rfl rfl (h.createFile path r.world)
  appendFile path chunk r := Recorded.ends rfl rfl (h.appendFile path chunk r.world)
  flushFile path r := Recorded.ends rfl rfl (h.flushFile path r.world)
  removeFile path r := Recorded.ends rfl rfl (h.removeFile path r.world)
  readFile path r := h.readFile path r.world
  certificateFault content r := h.certificateFault content r.world
  exchange connection request r := h.exchange connection request r.world
  write bytes r := h.write bytes r.world
  flush r := h.flush r.world

namespace Transfer

variable {σ : Type} {env : Environment (StateM σ)} {files : σ → FileTree} {t : FileTree} {file : String}
  {target : Target} {content : Bytes}

/-- Chunk by chunk the file holds what came before; a failure leaves some content in it. -/
theorem appendChunks_files (h : env.UsesFiles files) (running : ContentDigest.Running) (chunks : List Bytes) {w : σ}
    (hw : Writing t file target content (files w)) :
    match (appendChunks env file running chunks).run.run w with
    | (.ok _, w') => Writing t file target (content ++ chunks.flatten) (files w')
    | (.error _, w') => ∃ content', Writing t file target content' (files w') := by
  induction chunks generalizing running content w with
  | nil =>
    show Writing t file target (content ++ []) (files w)
    rw [List.append_nil]
    exact hw
  | cons chunk rest ih =>
    have happend := h.appendFile file chunk w
    rw [appendChunks, run_bind_state, run_lift_state]
    generalize env.appendFile file chunk w = added at happend ⊢
    rcases added with ⟨e | _, w'⟩
    · exact hw.damaged happend
    · dsimp only at happend ⊢
      rw [List.flatten_cons, ← List.append_assoc]
      exact ih _ (hw.append happend)

/-- Where `write` succeeds, the body is in its file as a whole. -/
theorem write_files (h : env.UsesFiles files) (file : String) (body : Http.Body) (w : σ) :
    match (write env file body).run.run w with
    | (.ok _, w') => ∃ target, Writing (files w) file target body.chunks.flatten (files w') ∧ body.complete = true
    | (.error _, w') => files w' = files w ∨ ∃ target content, Writing (files w) file target content (files w') := by
  have hcreate := h.createFile file w
  rw [write, run_bind_state, run_lift_state]
  generalize env.createFile file w = created at hcreate ⊢
  rcases created with ⟨e | _, w₁⟩
  · exact .inl hcreate
  · dsimp only at hcreate ⊢
    obtain ⟨target, hw₁⟩ := create_eq_ok hcreate
    have hchunks := appendChunks_files h .new body.chunks hw₁
    rw [run_bind_state]
    generalize (appendChunks env file .new body.chunks).run.run w₁ = appended at hchunks ⊢
    rcases appended with ⟨e | running, w₂⟩
    · obtain ⟨content, hw₂⟩ := hchunks
      exact .inr ⟨target, content, hw₂⟩
    · rw [List.nil_append] at hchunks
      dsimp only
      cases hcomplete : body.complete with
      | false => exact .inr ⟨target, _, hchunks⟩
      | true =>
        have hflush := h.flushFile file w₂
        rw [Bool.not_true, if_neg Bool.false_ne_true, run_bind_state, run_lift_state]
        generalize env.flushFile file w₂ = flushed at hflush ⊢
        rcases flushed with ⟨e | _, w₃⟩
        · obtain ⟨content, hw₃⟩ := hchunks.damaged hflush
          exact .inr ⟨target, content, hw₃⟩
        · dsimp only at hflush ⊢
          refine ⟨target, ?_, rfl⟩
          rw [hflush]
          exact hchunks

/-- What remains of a body that was not stored in `file`: nothing, unless the file could not be removed. Other places
hold what they held. -/
def Lost (file : String) (before after : FileTree) (isKept : Prop) : Prop :=
  after = before ∨ ∃ target, before.locate file = .ok target ∧ AgreeOff target.place before after ∧
    (after.node? target.place = none ∨ isKept)

theorem Lost.imp {after : FileTree} {isKept isKept' : Prop} (h : Lost file t after isKept) (himp : isKept → isKept') :
    Lost file t after isKept' :=
  h.imp_right fun ⟨target, hlocate, hoff, hgone⟩ => ⟨target, hlocate, hoff, hgone.imp_right himp⟩

/-- Where `store` succeeds, the body is in its file; where it fails, the body is `Lost`. -/
theorem store_files (h : env.UsesFiles files) (file : String) (body : Http.Body) (w : σ) :
    match store env file body w with
    | (.ok _, w') => ∃ target, Writing (files w) file target body.chunks.flatten (files w') ∧ body.complete = true
    | (.error _, w') => Lost file (files w) (files w')
        (∃ e, env.removeFile file ((write env file body).run.run w).2 = (.error e, w')) := by
  have hwrite := write_files h file body w
  rw [store_eq]
  generalize (write env file body).run.run w = written at hwrite ⊢
  rcases written with ⟨e | digest, w₁⟩
  · have hremove := h.removeFile file w₁
    dsimp only at hwrite ⊢
    generalize env.removeFile file w₁ = removed at hremove ⊢
    rcases removed with ⟨e' | _, w₂⟩
    · have hsame : files w₂ = files w₁ := hremove
      rw [← hsame] at hwrite
      exact hwrite.imp_right fun ⟨target, _, hw⟩ => ⟨target, hw.located, hw.elsewhere, .inr ⟨e', rfl⟩⟩
    · have hgone : (files w₁).remove file = .ok (files w₂) := hremove
      refine .inr ?_
      rcases hwrite with hsame | ⟨target, content, hw⟩
      · rw [hsame] at hgone
        obtain ⟨target, hlocate, hoff, hnone⟩ := remove_eq_ok hgone
        exact ⟨target, hlocate, hoff, .inl hnone⟩
      · obtain ⟨hoff, hnone⟩ := hw.removed hgone
        exact ⟨target, hw.located, hoff, .inl hnone⟩
  · exact hwrite

end Transfer

end SpacewalkAcquire
