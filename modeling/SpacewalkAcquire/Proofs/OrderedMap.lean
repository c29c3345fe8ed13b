import Mathlib.Data.List.Induction
import Mathlib.Data.List.Nodup
import SpacewalkAcquire.OrderedMap

/-!
# More on ordered maps

* `mapValues` : the map with every value changed;
* `mem_insert`, `foldl_insert` : what bindings hold after insertions;
* `get?_insertAll`, `keys_insertAll` : what a map holds after insertions, and in which order;
* `get?_insertAll_of_perm` : pairs with different keys may be bound in any order;
* `keys_ofList` : keys stand in the order of their first bindings.
-/

namespace SpacewalkAcquire

variable {κ ν μ : Type}

namespace Bindings

variable [DecidableEq κ]

theorem insert_of_not_mem {m : Bindings κ ν} {key : κ} (h : key ∉ m.map Prod.fst) (value : ν) :
    m.insert key value = m ++ [(key, value)] := by
  induction m with
  | nil => rfl
  | cons p rest ih =>
    rw [List.map_cons, List.mem_cons, not_or] at h
    rw [insert, if_neg (Ne.symm h.1), ih h.2, List.cons_append]

theorem mem_insert {m : Bindings κ ν} {key : κ} {value : ν} {p : κ × ν} (h : p ∈ m.insert key value) :
    p ∈ m ∨ p = (key, value) := by
  induction m with
  | nil => exact Or.inr (List.mem_singleton.1 h)
  | cons q rest ih =>
    rw [insert] at h
    split at h
    · next hq =>
      rcases List.mem_cons.1 h with rfl | h
      · exact Or.inr (by rw [hq])
      · exact Or.inl (List.mem_cons_of_mem _ h)
    · rcases List.mem_cons.1 h with rfl | h
      · exact Or.inl List.mem_cons_self
      · exact (ih h).imp_left (List.mem_cons_of_mem _)

end Bindings

namespace OrderedMap

def mapValues (f : ν → μ) (m : OrderedMap κ ν) : OrderedMap κ μ :=
  ⟨m.entries.map fun p => (p.1, f p.2), by simpa [Function.comp_def] using m.nodup_keys⟩

theorem mapValues_eq_self {f : ν → ν} {m : OrderedMap κ ν} (h : ∀ p ∈ m.entries, f p.2 = p.2) : m.mapValues f = m := by
  apply ext
  refine (List.map_congr_left fun p hp => ?_).trans (List.map_id _)
  rw [h p hp]
  rfl

variable [DecidableEq κ]

theorem foldl_insert {pairs : List (κ × ν)} (f : ν → μ) (m : OrderedMap κ μ)
    (h : (m.entries.map Prod.fst ++ pairs.map Prod.fst).Nodup) :
    (pairs.foldl (fun m p => m.insert p.1 (f p.2)) m).entries = m.entries ++ pairs.map fun p => (p.1, f p.2) := by
  induction pairs generalizing m with
  | nil => simp
  | cons p rest ih =>
    have hkey : p.1 ∉ m.entries.map Prod.fst := by
      rw [List.map_cons, List.nodup_middle, List.nodup_cons] at h
      exact fun hm => h.1 (List.mem_append_left _ hm)
    have hentries : (m.insert p.1 (f p.2)).entries = m.entries ++ [(p.1, f p.2)] :=
      Bindings.insert_of_not_mem hkey _
    rw [List.foldl_cons, ih, hentries]
    · simp
    · rw [hentries]
      simpa using h

def insertAll (m : OrderedMap κ ν) (pairs : List (κ × ν)) : OrderedMap κ ν :=
  pairs.foldl (fun m p => m.insert p.1 p.2) m

/-- Of the pairs with a key, the last one counts. -/
theorem get?_insertAll (m : OrderedMap κ ν) (pairs : List (κ × ν)) (key : κ) :
    (m.insertAll pairs).get? key = (pairs.reverse.lookup key).or (m.get? key) := by
  induction pairs generalizing m with
  | nil => rfl
  | cons p rest ih =>
    obtain ⟨k, v⟩ := p
    have hfirst : (m.insert k v).get? key = ([(k, v)].lookup key).or (m.get? key) := by
      rw [get?_insert, List.lookup_cons]
      by_cases h : k = key
      · simp [h]
      · have hne : (key == k) = false := beq_eq_false_iff_ne.2 (Ne.symm h)
        simp [h, hne]
    show ((m.insert k v).insertAll rest).get? key = _
    rw [ih, hfirst, List.reverse_cons, List.lookup_append, Option.or_assoc]

theorem lookup_eq_some_iff_of_nodup {pairs : List (κ × ν)} (h : (pairs.map Prod.fst).Nodup) {key : κ} {value : ν} :
    pairs.lookup key = some value ↔ (key, value) ∈ pairs := by
  constructor
  · intro hlookup
    obtain ⟨before, after, rfl, -⟩ := List.lookup_eq_some_iff.1 hlookup
    exact List.mem_append_right _ List.mem_cons_self
  · intro hmem
    obtain ⟨before, after, rfl⟩ := List.append_of_mem hmem
    refine List.lookup_eq_some_iff.2 ⟨before, after, rfl, fun p hp => bne_iff_ne.2 fun hkey => ?_⟩
    rw [List.map_append, List.map_cons, List.nodup_middle, List.nodup_cons] at h
    exact h.1 (List.mem_append_left _ (List.mem_map.2 ⟨p, hp, hkey.symm⟩))

/-- Pairs with different keys may be bound in any order. -/
theorem get?_insertAll_of_perm {pairs pairs' : List (κ × ν)} (h : pairs.Perm pairs')
    (hkeys : (pairs'.map Prod.fst).Nodup) (key : κ) (value : ν) :
    (empty.insertAll pairs).get? key = some value ↔ (key, value) ∈ pairs' := by
  have hreverse : pairs.reverse.Perm pairs' := (List.reverse_perm pairs).trans h
  have hnodup : (pairs.reverse.map Prod.fst).Nodup := (hreverse.map Prod.fst).nodup_iff.2 hkeys
  have hempty : (empty : OrderedMap κ ν).get? key = none := rfl
  rw [get?_insertAll, hempty, Option.or_none, lookup_eq_some_iff_of_nodup hnodup, hreverse.mem_iff]

theorem keys_ofList (pairs : List (κ × ν)) : (ofList pairs).keys = (pairs.map Prod.fst).eraseDups := by
  induction pairs using List.reverseRecOn with
  | nil => rfl
  | append_singleton pairs p ih =>
    have hlast : ofList (pairs ++ [p]) = (ofList pairs).insert p.1 p.2 := by
      rw [ofList, List.foldl_append]
      rfl
    rw [hlast, keys_insert, ih, List.map_append, List.eraseDups_append]
    by_cases h : p.1 ∈ pairs.map Prod.fst
    · simp [h, List.removeAll, List.mem_eraseDups]
    · simp [h, List.removeAll, List.mem_eraseDups, List.eraseDups_cons]

/-- `insertAll` puts new keys behind the old ones. -/
theorem keys_insertAll (m : OrderedMap κ ν) (pairs : List (κ × ν)) :
    (m.insertAll pairs).keys = m.keys ++ (ofList pairs).keys.filter (· ∉ m.keys) := by
  induction pairs using List.reverseRecOn with
  | nil => exact (List.append_nil _).symm
  | append_singleton pairs p ih =>
    have hlast (m : OrderedMap κ ν) : m.insertAll (pairs ++ [p]) = (m.insertAll pairs).insert p.1 p.2 := by
      rw [insertAll, List.foldl_append]
      rfl
    have hofList : ofList (pairs ++ [p]) = (ofList pairs).insert p.1 p.2 := hlast empty
    rw [hlast, hofList, keys_insert, keys_insert, ih]
    by_cases hold : p.1 ∈ m.keys
    · by_cases hnew : p.1 ∈ (ofList pairs).keys <;> simp [hold, hnew]
    · by_cases hnew : p.1 ∈ (ofList pairs).keys <;> simp [hold, hnew]

end OrderedMap

end SpacewalkAcquire
