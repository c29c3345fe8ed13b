import SpacewalkAcquire.Proofs.Files

/-!
# The way to a file

* `FileTree.way t path` : the places that a path passes, the one that it names included;
* `FileTree.destination t path` : the last of them; `locate` finds it or nothing (`place_of_locate`);
* `FileTree.AgreeOnWay path t t'` : the trees hold the same there;
* `read_congr`, `create_congr`, `append_congr`, `remove_congr` : what can be done with a file depends on that alone;
* `FileTree.Apart t path path'` : neither path leads through the destination of the other.
-/

namespace SpacewalkAcquire.FileTree

def Step.next (place : Place) : Step → Place
  | name s => place ++ [s]
  | here => place
  | above => place.dropLast

def start (t : FileTree) (path : String) : Place := if path.toList.head? = some '/' then [] else t.workingDirectory

/-- The places that a path passes, the one that it names included. -/
def way (t : FileTree) (path : String) : List Place := (steps path.toList).scanl Step.next (t.start path)

/-- The place that a path names if all places before it are directories. -/
def destination (t : FileTree) (path : String) : Place := (steps path.toList).foldl Step.next (t.start path)

structure AgreeOnWay (path : String) (t t' : FileTree) : Prop where
  workingDirectory : t'.workingDirectory = t.workingDirectory
  sealed : t'.sealed = t.sealed
  node : ∀ p ∈ t.way path, t'.node? p = t.node? p

/-- Neither path leads through the `destination` of the other. -/
def Apart (t : FileTree) (path path' : String) : Prop :=
  t.destination path ∉ t.way path' ∧ t.destination path' ∉ t.way path

variable {t t' t'' : FileTree} {path : String}

theorem Apart.symm {path' : String} (h : t.Apart path path') : t.Apart path' path := ⟨h.2, h.1⟩

theorem way_congr (h : t'.workingDirectory = t.workingDirectory) : t'.way path = t.way path := by
  unfold way start
  rw [h]

theorem destination_congr (h : t'.workingDirectory = t.workingDirectory) :
    t'.destination path = t.destination path := by
  unfold destination start
  rw [h]

theorem destination_mem_way (t : FileTree) (path : String) : t.destination path ∈ t.way path :=
  List.mem_of_getLast? List.getLast?_scanl

namespace AgreeOnWay

theorem refl (path : String) (t : FileTree) : AgreeOnWay path t t := ⟨rfl, rfl, fun _ _ => rfl⟩

theorem symm (h : AgreeOnWay path t t') : AgreeOnWay path t' t := by
  refine ⟨h.workingDirectory.symm, h.sealed.symm, fun p hp => (h.node p ?_).symm⟩
  rwa [way_congr h.workingDirectory] at hp

theorem trans (h : AgreeOnWay path t t') (h' : AgreeOnWay path t' t'') : AgreeOnWay path t t'' := by
  refine ⟨h'.workingDirectory.trans h.workingDirectory, h'.sealed.trans h.sealed,
    fun p hp => (h'.node p ?_).trans (h.node p hp)⟩
  rwa [way_congr h.workingDirectory]

theorem withNode (h : AgreeOnWay path t t') (place : Place) (node : FileNode) :
    AgreeOnWay path (t.withNode place node) (t'.withNode place node) := by
  refine ⟨h.workingDirectory, h.sealed, fun p hp => ?_⟩
  by_cases hplace : p = place
  · unfold node? FileTree.withNode
    split
    · rfl
    · rw [OrderedMap.get?_insert, OrderedMap.get?_insert, if_pos hplace.symm, if_pos hplace.symm]
  · rw [(agreeOff_withNode node).node p hplace, (agreeOff_withNode node).node p hplace]
    exact h.node p hp

theorem withoutNode (h : AgreeOnWay path t t') (place : Place) :
    AgreeOnWay path (t.withoutNode place) (t'.withoutNode place) := by
  refine ⟨h.workingDirectory, h.sealed, fun p hp => ?_⟩
  by_cases hplace : p = place
  · subst hplace
    by_cases hnil : p = []
    · rw [hnil]
      rfl
    · rw [node?_withoutNode hnil, node?_withoutNode hnil]
  · rw [agreeOff_withoutNode.node p hplace, agreeOff_withoutNode.node p hplace]
    exact h.node p hp

end AgreeOnWay

/-! ## What depends on the way alone -/

theorem walk_congr {start : Place} {steps : List Step}
    (h : ∀ p ∈ steps.scanl Step.next start, t'.node? p = t.node? p) : t'.walk start steps = t.walk start steps := by
  induction steps generalizing start with
  | nil => rfl
  | cons step rest ih =>
    rw [List.scanl_cons, List.forall_mem_cons] at h
    unfold walk
    rw [h.1]
    cases t.node? start with
    | none => rfl
    | some node =>
      cases node with
      | file content => rfl
      | directory =>
        have hrest := ih h.2
        cases step with
        | here => exact hrest
        | above => exact hrest
        | name s =>
          dsimp only [Step.next] at hrest
          dsimp only
          rw [hrest]

theorem place_of_walk {start place : Place} {steps : List Step} (h : t.walk start steps = .ok place) :
    place = steps.foldl Step.next start := by
  induction steps generalizing start with
  | nil =>
    cases h
    rfl
  | cons step rest ih =>
    unfold walk at h
    rw [List.foldl_cons]
    split at h
    · cases h
    · cases h
    · split at h
      · exact ih h
      · exact ih h
      · split at h
        · cases h
        · exact ih h

theorem locate_congr (h : AgreeOnWay path t t') : t'.locate path = t.locate path := by
  have hwalk := walk_congr h.node
  unfold start at hwalk
  unfold locate
  rw [h.workingDirectory]
  dsimp only
  rw [hwalk]

theorem place_of_locate {target : Target} (h : t.locate path = .ok target) : target.place = t.destination path := by
  unfold locate at h
  dsimp only at h
  split at h
  · cases h
  split at h
  · cases h
  split at h
  · cases h
  obtain ⟨place, hwalk, hplace⟩ := bind_eq_ok.1 h
  cases hplace
  exact place_of_walk hwalk

theorem AgreeOnWay.isSealed_eq (h : AgreeOnWay path t t') (place : Place) : t'.isSealed place = t.isSealed place := by
  unfold isSealed
  rw [h.sealed]

theorem AgreeOnWay.node_of_locate {target : Target} (h : AgreeOnWay path t t') (hl : t.locate path = .ok target) :
    t'.node? target.place = t.node? target.place :=
  h.node _ (place_of_locate hl ▸ t.destination_mem_way path)

theorem read_congr (h : AgreeOnWay path t t') : t'.read path = t.read path := by
  unfold FileTree.read
  rw [locate_congr h]
  cases hl : t.locate path with
  | error e => rfl
  | ok target =>
    dsimp only [bind, Except.bind]
    rw [h.node_of_locate hl]

/-- Two changes fail in the same way, or lead to trees that agree on the way. -/
def AgreeAfter (path : String) : Except FileError FileTree → Except FileError FileTree → Prop
  | .ok t, .ok t' => AgreeOnWay path t t'
  | .error e, .error e' => e = e'
  | _, _ => False

/-- Changes of the place that a path names agree if they do wherever it is. -/
theorem agreeAfter_locate (h : AgreeOnWay path t t') {change change' : Target → Except FileError FileTree}
    (hchange : ∀ target, t'.node? target.place = t.node? target.place →
      AgreeAfter path (change target) (change' target)) :
    AgreeAfter path (t.locate path >>= change) (t'.locate path >>= change') := by
  rw [locate_congr h]
  cases hl : t.locate path with
  | error e => exact rfl
  | ok target => exact hchange target (h.node_of_locate hl)

theorem create_congr (h : AgreeOnWay path t t') : AgreeAfter path (t.create path) (t'.create path) := by
  refine agreeAfter_locate h fun target hnode => ?_
  rw [hnode, h.isSealed_eq]
  split
  · exact rfl
  split
  · exact rfl
  exact h.withNode _ _

theorem append_congr (h : AgreeOnWay path t t') (chunk : Bytes) :
    AgreeAfter path (t.append path chunk) (t'.append path chunk) := by
  refine agreeAfter_locate h fun target hnode => ?_
  rw [hnode]
  split
  · exact rfl
  · exact rfl
  · exact h.withNode _ _

theorem remove_congr (h : AgreeOnWay path t t') : AgreeAfter path (t.remove path) (t'.remove path) := by
  refine agreeAfter_locate h fun target hnode => ?_
  rw [hnode, h.isSealed_eq]
  split
  · exact rfl
  · exact rfl
  split
  · exact rfl
  split
  · exact rfl
  exact h.withoutNode _

end SpacewalkAcquire.FileTree
