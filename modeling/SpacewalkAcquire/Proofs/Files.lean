import SpacewalkAcquire.Files
import SpacewalkAcquire.Proofs.Effects.Failing
import SpacewalkAcquire.Proofs.OrderedMap

/-!
# Changes of one file

* `FileTree.AgreeOff place t t'` : the trees differ at one place at most;
* `FileTree.locate_of_agreeOff` : a path to a file leads to the same place whatever the file holds;
* `FileTree.Writing path t content t'` : `t'` is `t` with `content` in the file that `path` names;
* `Writing.append`, `damaged`, `removed`, `read_eq` : what may become of it, and what is read of it.
-/

namespace SpacewalkAcquire

theorem Bindings.get?_erase {κ ν : Type} [DecidableEq κ] (m : Bindings κ ν) (key k : κ) :
    (m.erase key).get? k = if key = k then none else m.get? k := by
  induction m with
  | nil => simp [erase, get?]
  | cons p rest ih =>
    unfold erase at ih ⊢
    by_cases hp : p.1 = key
    · rw [List.filter_cons_of_neg (by simp [hp]), ih, get?]
      split
      · rfl
      · next hk => rw [if_neg (hp ▸ hk)]
    · rw [List.filter_cons_of_pos (by simp [hp]), get?, get?, ih]
      split
      · next hk => rw [if_neg (hk ▸ Ne.symm hp)]
      · rfl

namespace FileTree

structure AgreeOff (place : Place) (t t' : FileTree) : Prop where
  workingDirectory : t'.workingDirectory = t.workingDirectory
  sealed : t'.sealed = t.sealed
  node : ∀ p, p ≠ place → t'.node? p = t.node? p

variable {place : Place} {t t' t'' : FileTree}

theorem AgreeOff.trans (h : AgreeOff place t t') (h' : AgreeOff place t' t'') : AgreeOff place t t'' :=
  ⟨h'.workingDirectory.trans h.workingDirectory, h'.sealed.trans h.sealed,
    fun p hp => (h'.node p hp).trans (h.node p hp)⟩

def withNode (t : FileTree) (place : Place) (node : FileNode) : FileTree :=
  { t with nodes := t.nodes.insert place node }

def withoutNode (t : FileTree) (place : Place) : FileTree := { t with nodes := t.nodes.erase place }

theorem node?_of_ne_nil (h : place ≠ []) : t.node? place = t.nodes.get? place := by
  rw [node?, if_neg (by simpa using h)]

theorem node?_withNode (h : place ≠ []) (node : FileNode) : (t.withNode place node).node? place = some node := by
  rw [node?_of_ne_nil h, withNode, OrderedMap.get?_insert, if_pos rfl]

theorem agreeOff_withNode (node : FileNode) : AgreeOff place t (t.withNode place node) := by
  refine ⟨rfl, rfl, fun p hp => ?_⟩
  unfold node? withNode
  split
  · rfl
  · rw [OrderedMap.get?_insert, if_neg (Ne.symm hp)]

theorem node?_withoutNode (h : place ≠ []) : (t.withoutNode place).node? place = none := by
  rw [node?_of_ne_nil h]
  exact (Bindings.get?_erase _ _ _).trans (if_pos rfl)

theorem agreeOff_withoutNode : AgreeOff place t (t.withoutNode place) := by
  refine ⟨rfl, rfl, fun p hp => ?_⟩
  unfold node?
  split
  · rfl
  · exact (Bindings.get?_erase _ _ _).trans (if_neg (Ne.symm hp))

/-! ## Paths -/

/-- `walk` passes directories only, so it goes the same way where these are the same. -/
theorem walk_eq_ok (h : ∀ p, t.node? p = some .directory → t'.node? p = some .directory) {start place : Place}
    {steps : List Step} (hw : t.walk start steps = .ok place) : t'.walk start steps = .ok place := by
  induction steps generalizing start with
  | nil => exact hw
  | cons step rest ih =>
    unfold walk at hw ⊢
    split at hw
    · cases hw
    · cases hw
    · next hd =>
      rw [h _ hd]
      dsimp only
      split
      · exact ih hw
      · exact ih hw
      · next s =>
        dsimp only at hw
        split at hw
        · cases hw
        · next hs =>
          rw [if_neg hs]
          exact ih hw

theorem locate_of_agreeOff {path : String} {target : Target} (hl : t.locate path = .ok target)
    (hnode : t.node? target.place ≠ some .directory) (h : AgreeOff target.place t t') :
    t'.locate path = .ok target := by
  have hdirectory : ∀ p, t.node? p = some .directory → t'.node? p = some .directory := fun p hp => by
    rw [h.node p fun hplace => hnode (hplace ▸ hp)]
    exact hp
  unfold locate at hl ⊢
  rw [h.workingDirectory]
  dsimp only at hl ⊢
  split at hl
  · cases hl
  next h1 =>
  rw [if_neg h1]
  split at hl
  · cases hl
  next h2 =>
  rw [if_neg h2]
  split at hl
  · cases hl
  next h3 =>
  rw [if_neg h3]
  obtain ⟨place, hwalk, hplace⟩ := bind_eq_ok.1 hl
  exact bind_eq_ok.2 ⟨place, walk_eq_ok hdirectory hwalk, hplace⟩

/-! ## Writing a file -/

/-- What may become of `t` when writing to the file `path` fails: nothing, or any content in the file. -/
def Damaged (t : FileTree) (path : String) (t' : FileTree) : Prop :=
  t' = t ∨ ∃ target old content, t.locate path = .ok target ∧ t.node? target.place = some (.file old) ∧
    t' = t.withNode target.place (.file content)

/-- `t'` is `t` with some content in the file that `path` names. -/
structure Writing (t : FileTree) (path : String) (target : Target) (content : Bytes) (t' : FileTree) : Prop where
  located : t.locate path = .ok target
  named : target.directoryOnly = false
  noDirectory : t.node? target.place ≠ some .directory
  elsewhere : AgreeOff target.place t t'
  here : t'.node? target.place = some (.file content)

theorem create_eq_ok {path : String} (h : t.create path = .ok t') : ∃ target, Writing t path target [] t' := by
  obtain ⟨target, hlocate, h⟩ := bind_eq_ok.1 h
  split at h
  · cases h
  next hnode =>
  split at h
  · cases h
  cases h
  simp only [Bool.or_eq_true, decide_eq_true_eq, not_or, Bool.not_eq_true] at hnode
  have hplace : target.place ≠ [] := fun e => hnode.2 (by rw [e]; rfl)
  exact ⟨target, hlocate, hnode.1, hnode.2, agreeOff_withNode _, node?_withNode hplace _⟩

theorem remove_eq_ok {path : String} (h : t.remove path = .ok t') :
    ∃ target, t.locate path = .ok target ∧ AgreeOff target.place t t' ∧ t'.node? target.place = none := by
  obtain ⟨target, hlocate, h⟩ := bind_eq_ok.1 h
  refine ⟨target, hlocate, ?_⟩
  split at h
  · cases h
  · cases h
  · next content hnode =>
    have hplace : target.place ≠ [] := fun e => by rw [e] at hnode; cases hnode
    split at h
    · cases h
    split at h
    · cases h
    cases h
    exact ⟨agreeOff_withoutNode, node?_withoutNode hplace⟩

namespace Writing

variable {path : String} {target : Target} {content : Bytes} (h : Writing t path target content t')
include h

theorem place_ne_nil : target.place ≠ [] := fun e => h.noDirectory (by rw [e]; rfl)

theorem locate_eq : t'.locate path = .ok target := locate_of_agreeOff h.located h.noDirectory h.elsewhere

theorem withContent (content' : Bytes) : Writing t path target content' (t'.withNode target.place (.file content')) :=
  ⟨h.located, h.named, h.noDirectory, h.elsewhere.trans (agreeOff_withNode _), node?_withNode h.place_ne_nil _⟩

theorem append {chunk : Bytes} (ha : t'.append path chunk = .ok t'') :
    Writing t path target (content ++ chunk) t'' := by
  unfold FileTree.append at ha
  rw [h.locate_eq] at ha
  dsimp only [bind, Except.bind] at ha
  rw [h.here] at ha
  cases ha
  exact h.withContent _

theorem damaged (hd : Damaged t' path t'') : ∃ content', Writing t path target content' t'' := by
  rcases hd with rfl | ⟨target', old, content', hlocate, -, rfl⟩
  · exact ⟨content, h⟩
  · rw [h.locate_eq, Except.ok.injEq] at hlocate
    subst hlocate
    exact ⟨content', h.withContent content'⟩

/-- `remove` leaves nothing at `target.place`. -/
theorem removed (hr : t'.remove path = .ok t'') : AgreeOff target.place t t'' ∧ t''.node? target.place = none := by
  obtain ⟨target', hlocate, hoff, hnone⟩ := remove_eq_ok hr
  rw [h.locate_eq, Except.ok.injEq] at hlocate
  subst hlocate
  exact ⟨h.elsewhere.trans hoff, hnone⟩

theorem read_eq : t'.read path = .ok content := by
  unfold FileTree.read
  rw [h.locate_eq]
  dsimp only [bind, Except.bind]
  rw [h.here]
  dsimp only
  rw [h.named]
  rfl

end Writing

end FileTree

end SpacewalkAcquire
