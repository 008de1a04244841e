import Mathlib

/-!
# Computations that can fail

How a computation in `Except` that succeeded is taken apart, and loops over a
list: what a whole loop does when each round reads its item and stores what it
read.
-/

namespace Fallible

section
variable {ε α β : Type}

theorem bind_ok {x : Except ε α} {f : α → Except ε β} {b : β} :
    x >>= f = .ok b ↔ ∃ a, x = .ok a ∧ f a = .ok b := by
  cases x <;> simp [bind, Except.bind]

@[simp] theorem pure_eq_ok (a : α) : (pure a : Except ε α) = .ok a := rfl

@[simp] theorem ok_bind (a : α) (f : α → Except ε β) : (Except.ok a >>= f) = f a := rfl

@[simp] theorem error_bind (e : ε) (f : α → Except ε β) : (Except.error e >>= f) = .error e := rfl

end

-- ---------------------------------------------------------------------------
-- Loops
-- ---------------------------------------------------------------------------

section
variable {ε σ ι ο : Type} {body : σ → ι → Except ε σ}

theorem foldlM_append_ok {xs ys : List ι} {s t : σ} :
    (xs ++ ys).foldlM body s = .ok t ↔
      ∃ m, xs.foldlM body s = .ok m ∧ ys.foldlM body m = .ok t := by
  rw [List.foldlM_append, bind_ok]

theorem foldlM_concat_ok {xs : List ι} {x : ι} {s t : σ} :
    (xs ++ [x]).foldlM body s = .ok t ↔
      ∃ m, xs.foldlM body s = .ok m ∧ body m x = .ok t := by
  rw [foldlM_append_ok]
  simp only [List.foldlM_cons, List.foldlM_nil, bind_pure]

/-- A loop whose rounds need something of their items and then store them; `P` is
what the rounds rely on. -/
theorem foldlM_guarded_ok {P : σ → Prop} {good : ι → Prop} {store : σ → ι → σ} {xs : List ι}
    (hbody : ∀ s, P s → ∀ x ∈ xs, ∀ t, body s x = .ok t ↔ good x ∧ t = store s x)
    (hstore : ∀ s x, P s → P (store s x)) {s t : σ} (hs : P s) :
    xs.foldlM body s = .ok t ↔ (∀ x ∈ xs, good x) ∧ t = xs.foldl store s := by
  induction xs generalizing s with
  | nil => simp [eq_comm]
  | cons x xs ih =>
    have hfirst := hbody s hs x (List.mem_cons_self ..)
    have hrest := ih (fun s hs y hy => hbody s hs y (List.mem_cons_of_mem _ hy))
      (hstore s x hs)
    simp only [List.foldlM_cons, bind_ok, hfirst, List.forall_mem_cons, List.foldl_cons]
    constructor
    · rintro ⟨m, ⟨hx, rfl⟩, h⟩
      obtain ⟨hxs, rfl⟩ := hrest.mp h
      exact ⟨⟨hx, hxs⟩, rfl⟩
    · rintro ⟨⟨hx, hxs⟩, rfl⟩
      exact ⟨_, ⟨hx, rfl⟩, hrest.mpr ⟨hxs, rfl⟩⟩

variable {read : ι → Option ο} {store : σ → ο → σ}

/-- A loop whose rounds read and then store reads everything it loops over, and
stores it in order; `P` is what the rounds rely on. -/
theorem foldlM_read_ok {P : σ → Prop}
    (hbody : ∀ s x t, P s → (body s x = .ok t ↔ ∃ o, read x = some o ∧ t = store s o))
    (hstore : ∀ s o, P s → P (store s o)) {xs : List ι} {s t : σ} (hs : P s) :
    xs.foldlM body s = .ok t ↔ ∃ os, xs.mapM read = some os ∧ t = os.foldl store s := by
  induction xs generalizing s with
  | nil => simp [eq_comm]
  | cons x xs ih =>
    simp only [List.foldlM_cons, bind_ok, List.mapM_cons, Option.pure_def, Option.bind_eq_bind,
      Option.bind_eq_some_iff, Option.some.injEq]
    constructor
    · rintro ⟨m, hm, h⟩
      obtain ⟨o, ho, rfl⟩ := (hbody s x m hs).mp hm
      obtain ⟨os, hos, rfl⟩ := (ih (hstore s o hs)).mp h
      exact ⟨o :: os, ⟨o, ho, os, hos, rfl⟩, rfl⟩
    · rintro ⟨_, ⟨o, ho, os, hos, rfl⟩, rfl⟩
      exact ⟨store s o, (hbody s x _ hs).mpr ⟨o, ho, rfl⟩,
        (ih (hstore s o hs)).mpr ⟨os, hos, rfl⟩⟩

end

-- ---------------------------------------------------------------------------
-- Reading a list
-- ---------------------------------------------------------------------------

section
variable {ι ο : Type} {read : ι → Option ο}

theorem exists_mapM {xs : List ι} (h : ∀ x ∈ xs, ∃ o, read x = some o) :
    ∃ os, xs.mapM read = some os := by
  induction xs with
  | nil => exact ⟨[], rfl⟩
  | cons x xs ih =>
    obtain ⟨o, ho⟩ := h x (List.mem_cons_self ..)
    obtain ⟨os, hos⟩ := ih fun y hy => h y (List.mem_cons_of_mem _ hy)
    exact ⟨o :: os, by simp [List.mapM_cons, ho, hos]⟩

theorem filterMap_of_mapM {xs : List ι} {os : List ο} (h : xs.mapM read = some os) :
    xs.filterMap read = os := by
  induction xs generalizing os with
  | nil =>
    cases h
    rfl
  | cons x xs ih =>
    simp only [List.mapM_cons, Option.pure_def, Option.bind_eq_bind, Option.bind_eq_some_iff,
      Option.some.injEq] at h
    obtain ⟨o, ho, os, hos, rfl⟩ := h
    rw [List.filterMap_cons_some ho, ih hos]

theorem mapM_append_some {xs ys : List ι} {os : List ο} (h : (xs ++ ys).mapM read = some os) :
    ∃ os₁ os₂, xs.mapM read = some os₁ ∧ os = os₁ ++ os₂ := by
  simp only [List.mapM_append, Option.pure_def, Option.bind_eq_bind, Option.bind_eq_some_iff,
    Option.some.injEq] at h
  obtain ⟨os₁, h₁, os₂, -, rfl⟩ := h
  exact ⟨os₁, os₂, h₁, rfl⟩

theorem mapM_ne_nil {xs : List ι} {os : List ο} (h : xs.mapM read = some os) (hxs : xs ≠ []) :
    os ≠ [] := by
  cases xs with
  | nil => exact absurd rfl hxs
  | cons x xs =>
    rintro rfl
    simp [List.mapM_cons, Option.bind_eq_some_iff] at h

end

end Fallible
