import Mathlib

/-!
# Runs of a step function

A system whose actions have one outcome where they are possible, and none where
they are not. A run is a list of possible actions, of any of the parties in any
order.
-/

namespace Transition

variable {σ α : Type*} (step : σ → α → Option σ)

def run (s : σ) (actions : List α) : Option σ := actions.foldlM step s

/-- Each action of the run is taken in a state where it meets the condition. -/
def EachStep (cond : σ → α → Prop) (s : σ) (actions : List α) : Prop :=
  ∀ past a m, past ++ [a] <+: actions → run step s past = some m → cond m a

variable {step} {init s t : σ} {actions : List α} {a : α} {cond : σ → α → Prop}

@[simp] theorem run_nil : run step s [] = some s := rfl

theorem run_concat : run step s (actions ++ [a]) = some t ↔
    ∃ m, run step s actions = some m ∧ step m a = some t := by
  simp [run, List.foldlM_append, Option.bind_eq_some_iff]

theorem run_append {more : List α} : run step s (actions ++ more) = some t ↔
    ∃ m, run step s actions = some m ∧ run step m more = some t := by
  simp [run, List.foldlM_append, Option.bind_eq_some_iff]

theorem EachStep.of_concat (h : EachStep step cond s (actions ++ [a])) :
    EachStep step cond s actions :=
  fun past b m hp => h past b m (hp.trans (List.prefix_append _ _))

theorem EachStep.last (h : EachStep step cond s (actions ++ [a]))
    (hrun : run step s actions = some t) : cond t a :=
  h actions a t List.prefix_rfl hrun

theorem eachStep_concat (hrun : run step s actions = some t) :
    EachStep step cond s (actions ++ [a]) ↔ EachStep step cond s actions ∧ cond t a := by
  constructor
  · exact fun h => ⟨h.of_concat, h.last hrun⟩
  · rintro ⟨hbefore, hlast⟩ past b m hp hpast
    obtain heq | hp := List.prefix_concat_iff.mp hp
    · obtain ⟨rfl, hb⟩ := List.append_inj' heq rfl
      cases hb
      cases hrun.symm.trans hpast
      exact hlast
    · exact hbefore past b m hp hpast

theorem eachStep_nil : EachStep step cond s [] := by
  intro past a m hp
  simp at hp

theorem eachStep_cons : EachStep step cond s (a :: actions) ↔
    cond s a ∧ ∀ t, step s a = some t → EachStep step cond t actions := by
  constructor
  · intro h
    refine ⟨h [] a s (by simp) rfl, fun t ht past b m hp hrun => ?_⟩
    refine h (a :: past) b m (by simpa using hp) ?_
    simpa [run, ht] using hrun
  · rintro ⟨hfirst, hrest⟩ past b m hp hrun
    cases past with
    | nil =>
      cases hrun
      obtain ⟨rfl, -⟩ := List.cons_prefix_cons.mp hp
      exact hfirst
    | cons c past =>
      obtain ⟨rfl, hrest'⟩ := List.cons_prefix_cons.mp hp
      simp only [run, List.foldlM_cons, Option.bind_eq_bind, Option.bind_eq_some_iff] at hrun
      obtain ⟨t, ht, hrun⟩ := hrun
      exact hrest t ht past b m hrest' hrun

instance decidableEachStep [∀ s a, Decidable (cond s a)] :
    ∀ (s : σ) (actions : List α), Decidable (EachStep step cond s actions)
  | _, [] => isTrue eachStep_nil
  | s, a :: actions =>
    match h : step s a with
    | none => decidable_of_iff (cond s a) (by simp [eachStep_cons, h])
    | some t =>
      have := decidableEachStep t actions
      decidable_of_iff (cond s a ∧ EachStep step cond t actions) (by simp [eachStep_cons, h])

theorem run_induction_of {P : σ → Prop} (hinit : P init)
    (hstep : ∀ s a t, P s → cond s a → step s a = some t → P t)
    (hrun : run step init actions = some t) (heach : EachStep step cond init actions) : P t := by
  induction actions using List.reverseRecOn generalizing t with
  | nil =>
    cases hrun
    exact hinit
  | append_singleton actions a ih =>
    obtain ⟨m, hm, hlast⟩ := run_concat.mp hrun
    exact hstep m a t (ih hm heach.of_concat) (heach.last hm) hlast

theorem run_induction {P : σ → Prop} (hinit : P init)
    (hstep : ∀ s a t, P s → step s a = some t → P t)
    (hrun : run step init actions = some t) : P t :=
  run_induction_of hinit (fun s a t hs _ => hstep s a t hs) hrun
    fun _ _ _ _ _ => trivial

/-- A run of actions that are possible wherever the invariant holds. -/
theorem exists_run {P : σ → Prop} {possible : α → Prop} (hinit : P init)
    (hstep : ∀ s a, P s → possible a → ∃ t, step s a = some t ∧ P t)
    (h : ∀ a ∈ actions, possible a) : ∃ t, run step init actions = some t ∧ P t := by
  induction actions using List.reverseRecOn with
  | nil => exact ⟨init, rfl, hinit⟩
  | append_singleton actions a ih =>
    obtain ⟨s, hs, hP⟩ := ih fun b hb => h b (List.mem_append_left _ hb)
    obtain ⟨t, ht, hP'⟩ := hstep s a hP (h a (by simp))
    exact ⟨t, run_concat.mpr ⟨s, hs, ht⟩, hP'⟩

end Transition
