import Mathlib.Data.List.Forall2
import SpacewalkAcquire.Failure

/-!
# Computations that may fail

* `bind_eq_ok`, `bind_eq_error` : a sequence succeeds if both of its parts do, and else fails as one of them does;
* `exists_split`, `exists_of_mem_right` : lists whose items belong together are parted together;
* `mapM_eq_ok_iff`, `exists_of_mapM_eq_error`, `exists_of_foldlM_eq_error` : a longer sequence, which gives a value for
  each of its parts;
* `eq_ok_of_toOption` : what a computation gives, read off its value;
* `run_bind_state`, `run_lift_state` : computations in a world, one part after the other.
-/

namespace SpacewalkAcquire

theorem bind_eq_ok {ε α β : Type} {x : Except ε α} {f : α → Except ε β} {b : β} :
    (x >>= f) = .ok b ↔ ∃ a, x = .ok a ∧ f a = .ok b := by
  cases x with
  | ok a => exact ⟨fun h => ⟨a, rfl, h⟩, fun ⟨_, ha, h⟩ => Except.ok.inj ha ▸ h⟩
  | error e => exact ⟨fun h => (nomatch h), fun ⟨_, ha, _⟩ => (nomatch ha)⟩

theorem bind_eq_error {ε α β : Type} {x : Except ε α} {f : α → Except ε β} {e : ε} :
    (x >>= f) = .error e ↔ x = .error e ∨ ∃ a, x = .ok a ∧ f a = .error e := by
  cases x with
  | ok a => exact ⟨fun h => .inr ⟨a, rfl, h⟩, fun h => h.elim (fun h => nomatch h) fun ⟨_, ha, h⟩ => Except.ok.inj ha ▸ h⟩
  | error e' =>
    refine ⟨fun h => .inl (by cases h; rfl), fun h => h.elim (fun h => ?_) fun ⟨_, ha, _⟩ => (nomatch ha)⟩
    cases h
    rfl

section Forall₂

variable {α β : Type} {R : α → β → Prop} {as : List α} {b : β}

theorem exists_split {before after : List β} (h : List.Forall₂ R as (before ++ b :: after)) :
    ∃ before' a after', as = before' ++ a :: after' ∧ R a b ∧ List.Forall₂ R after' after := by
  obtain ⟨a, after', hab, hafter, hdrop⟩ := List.forall₂_cons_right_iff.1 (List.forall₂_drop_append _ _ _ h)
  refine ⟨as.take before.length, a, after', ?_, hab, hafter⟩
  rw [← hdrop, List.take_append_drop]

theorem exists_of_mem_right {bs : List β} (h : List.Forall₂ R as bs) (hb : b ∈ bs) : ∃ a ∈ as, R a b := by
  obtain ⟨before, after, rfl⟩ := List.append_of_mem hb
  obtain ⟨before', a, after', rfl, hab, -⟩ := exists_split h
  exact ⟨a, by simp, hab⟩

end Forall₂

theorem mapM_eq_ok_iff {ε α β : Type} {f : α → Except ε β} {as : List α} {bs : List β} :
    as.mapM f = .ok bs ↔ List.Forall₂ (fun a b => f a = .ok b) as bs := by
  induction as generalizing bs with
  | nil =>
    rw [List.forall₂_nil_left_iff]
    exact ⟨fun h => (Except.ok.inj h).symm, fun h => h ▸ rfl⟩
  | cons a rest ih =>
    rw [List.mapM_cons, bind_eq_ok, List.forall₂_cons_left_iff]
    refine exists_congr fun b => ?_
    rw [bind_eq_ok]
    constructor
    · rintro ⟨hb, bs', hrest, hbs⟩
      exact ⟨bs', hb, ih.1 hrest, (Except.ok.inj hbs).symm⟩
    · rintro ⟨bs', hb, hrest, rfl⟩
      exact ⟨hb, bs', ih.2 hrest, rfl⟩

/-- `mapM` fails with the failure of one of its computations. -/
theorem exists_of_mapM_eq_error {ε α β : Type} {f : α → Except ε β} {as : List α} {e : ε}
    (h : as.mapM f = .error e) : ∃ a ∈ as, f a = .error e := by
  induction as with
  | nil => cases h
  | cons a rest ih =>
    rw [List.mapM_cons, bind_eq_error] at h
    rcases h with h | ⟨b, -, h⟩
    · exact ⟨a, List.mem_cons_self, h⟩
    · rcases bind_eq_error.1 h with h | ⟨bs, -, h⟩
      · obtain ⟨a', ha', hf⟩ := ih h
        exact ⟨a', List.mem_cons_of_mem _ ha', hf⟩
      · cases h

theorem exists_of_foldlM_eq_error {ε α β : Type} {f : β → α → Except ε β} {b : β} {as : List α} {e : ε}
    (h : as.foldlM f b = .error e) : ∃ b', ∃ a ∈ as, f b' a = .error e := by
  induction as generalizing b with
  | nil => cases h
  | cons a rest ih =>
    rw [List.foldlM_cons, bind_eq_error] at h
    rcases h with h | ⟨b', -, h⟩
    · exact ⟨b, a, List.mem_cons_self, h⟩
    · obtain ⟨b'', a', ha', hf⟩ := ih h
      exact ⟨b'', a', List.mem_cons_of_mem _ ha', hf⟩

theorem eq_ok_of_toOption {ε α : Type} {x : Except ε α} {a : α} (h : x.toOption = some a) : x = .ok a := by
  cases x with
  | ok b => rw [Option.some.inj h]
  | error e => cases h

/-- A failure of `x` ends the computation; otherwise `f` goes on from the world where `x` stands. -/
theorem run_bind_state {ε σ α β : Type} (x : ExceptT ε (StateM σ) α) (f : α → ExceptT ε (StateM σ) β) (w : σ) :
    (x >>= f).run.run w = match x.run.run w with
      | (.ok a, w') => (f a).run.run w'
      | (.error e, w') => (.error e, w') := by
  have hrun : (x >>= f).run.run w = (ExceptT.bindCont f (x.run.run w).1).run (x.run.run w).2 := rfl
  rw [hrun]
  rcases x.run.run w with ⟨_ | _, w'⟩ <;> rfl

theorem run_lift_state {ε σ α : Type} (step : StateM σ α) (w : σ) :
    (liftM step : ExceptT ε (StateM σ) α).run.run w = (.ok (step w).1, (step w).2) := rfl

end SpacewalkAcquire
