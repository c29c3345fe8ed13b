/-!
# Ordered maps

* `Bindings κ ν` : a list of pairs, read as a map whose first binding of a key counts;
  `Bindings.insert` rebinds a key where it stands and appends a new one;
* `OrderedMap κ ν` : bindings without a repeated key, so the order of the entries is the order in which the
  keys were first bound.

`get?_insert` reads an insertion back; `keys_insert` says where the key stands.
-/

namespace SpacewalkAcquire

/-- A list of pairs, read as a map whose first binding of a key counts. -/
abbrev Bindings (κ ν : Type) := List (κ × ν)

namespace Bindings

variable {κ ν : Type} [DecidableEq κ]

def keys (m : Bindings κ ν) : List κ := m.map Prod.fst

def get? : Bindings κ ν → κ → Option ν
  | [], _ => none
  | (k, v) :: rest, key => if k = key then some v else get? rest key

/-- Binds a key: a bound key keeps its place and takes the new value, a new key goes to the end. -/
def insert : Bindings κ ν → κ → ν → Bindings κ ν
  | [], key, value => [(key, value)]
  | (k, v) :: rest, key, value => if k = key then (k, value) :: rest else (k, v) :: insert rest key value

def erase (m : Bindings κ ν) (key : κ) : Bindings κ ν := m.filter fun p => p.1 ≠ key

theorem get?_insert (m : Bindings κ ν) (key : κ) (value : ν) (k : κ) :
    (insert m key value).get? k = if key = k then some value else m.get? k := by
  induction m with
  | nil => simp [insert, get?]
  | cons p rest ih =>
    obtain ⟨k', v⟩ := p
    by_cases h : k' = key
    · subst h
      by_cases hk : k' = k <;> simp [insert, get?, hk]
    · by_cases hk : k' = k
      · subst hk
        simp [insert, get?, h, Ne.symm h]
      · simp [insert, get?, h, hk, ih]

theorem keys_insert (m : Bindings κ ν) (key : κ) (value : ν) :
    (insert m key value).keys = if key ∈ m.keys then m.keys else m.keys ++ [key] := by
  induction m with
  | nil => simp [insert, keys]
  | cons p rest ih =>
    obtain ⟨k, v⟩ := p
    by_cases h : k = key
    · simp [insert, keys, h]
    · have h' : ¬ key = k := fun e => h e.symm
      simp only [insert, h, if_false, keys, List.map_cons, List.mem_cons, h', false_or] at ih ⊢
      rw [ih]
      split <;> simp_all

theorem nodup_keys_insert {m : Bindings κ ν} (h : m.keys.Nodup) (key : κ) (value : ν) :
    (insert m key value).keys.Nodup := by
  rw [keys_insert]
  split
  · exact h
  · next hk =>
    rw [List.nodup_append]
    refine ⟨h, by simp, ?_⟩
    intro a ha b hb
    simp only [List.mem_singleton] at hb
    intro e
    exact hk (hb ▸ e ▸ ha)

end Bindings

/-- A finite map whose entries stand in the order in which their keys were first bound. -/
structure OrderedMap (κ ν : Type) where
  entries : Bindings κ ν
  nodup_keys : (entries.map Prod.fst).Nodup

namespace OrderedMap

@[ext] theorem ext {κ ν : Type} {m n : OrderedMap κ ν} (h : m.entries = n.entries) : m = n := by
  cases m; cases n; cases h; rfl

variable {κ ν : Type} [DecidableEq κ]

instance [DecidableEq ν] : DecidableEq (OrderedMap κ ν) := fun m n =>
  if h : m.entries = n.entries then isTrue (ext h) else isFalse (fun e => h (congrArg entries e))

def empty : OrderedMap κ ν := ⟨[], List.nodup_nil⟩

instance : Inhabited (OrderedMap κ ν) := ⟨empty⟩
instance : EmptyCollection (OrderedMap κ ν) := ⟨empty⟩

def size (m : OrderedMap κ ν) : Nat := m.entries.length

def isEmpty (m : OrderedMap κ ν) : Bool := m.entries.isEmpty

def keys (m : OrderedMap κ ν) : List κ := m.entries.keys

def get? (m : OrderedMap κ ν) (key : κ) : Option ν := m.entries.get? key

def insert (m : OrderedMap κ ν) (key : κ) (value : ν) : OrderedMap κ ν :=
  ⟨m.entries.insert key value, Bindings.nodup_keys_insert m.nodup_keys key value⟩

def erase (m : OrderedMap κ ν) (key : κ) : OrderedMap κ ν :=
  ⟨m.entries.erase key, (List.filter_sublist.map _).nodup m.nodup_keys⟩

/-- The map that binds `pairs` from left to right. -/
def ofList (pairs : List (κ × ν)) : OrderedMap κ ν :=
  pairs.foldl (fun m p => m.insert p.1 p.2) empty

theorem get?_insert (m : OrderedMap κ ν) (key : κ) (value : ν) (k : κ) :
    (m.insert key value).get? k = if key = k then some value else m.get? k :=
  Bindings.get?_insert m.entries key value k

theorem keys_insert (m : OrderedMap κ ν) (key : κ) (value : ν) :
    (m.insert key value).keys = if key ∈ m.keys then m.keys else m.keys ++ [key] :=
  Bindings.keys_insert m.entries key value

end OrderedMap

end SpacewalkAcquire
