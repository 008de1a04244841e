import Mathlib

/-!
# Running totals that are restarted by a test

A total that is restarted whenever a reading passes a test `boundary` is meant
to hold the sum of one period. `resetTotal_right_iff` says when it does, after
every reading of a run: exactly when the test passes on the first reading of
each period and on no other, up to totals that were zero anyway.
-/

namespace Runs

variable {α : Type*}

-- ---------------------------------------------------------------------------
-- What holds after every step of a run
-- ---------------------------------------------------------------------------

/-- `P past x` for every step of the run: the inputs before it, and its own. -/
def AfterEach (P : List α → α → Prop) (xs : List α) : Prop :=
  ∀ past x, past ++ [x] <+: xs → P past x

theorem afterEach_nil (P : List α → α → Prop) : AfterEach P [] := by
  intro past x h
  simp at h

theorem afterEach_concat {P : List α → α → Prop} {xs : List α} {x : α} :
    AfterEach P (xs ++ [x]) ↔ AfterEach P xs ∧ P xs x := by
  constructor
  · intro h
    exact ⟨fun past y hp => h past y (hp.trans (List.prefix_append _ _)), h xs x List.prefix_rfl⟩
  · rintro ⟨h, hx⟩ past y hp
    rcases List.prefix_concat_iff.mp hp with heq | hp
    · obtain ⟨rfl, hy⟩ := List.append_inj' heq rfl
      cases hy
      exact hx
    · exact h past y hp

theorem afterEach_singleton {P : List α → α → Prop} {x : α} : AfterEach P [x] ↔ P [] x := by
  have h := @afterEach_concat _ P [] x
  simpa [afterEach_nil] using h

theorem afterEach_congr {P Q : List α → α → Prop} {xs : List α}
    (h : ∀ past x, past ++ [x] <+: xs → AfterEach P past → (P past x ↔ Q past x)) :
    AfterEach P xs ↔ AfterEach Q xs := by
  induction xs using List.reverseRecOn with
  | nil => exact ⟨fun _ => afterEach_nil Q, fun _ => afterEach_nil P⟩
  | append_singleton xs x ih =>
    rw [afterEach_concat, afterEach_concat,
      ← ih fun past y hp => h past y (hp.trans (List.prefix_append _ _))]
    exact and_congr_right fun hP => h xs x List.prefix_rfl hP

theorem afterEach_and {P Q : List α → α → Prop} {xs : List α} :
    AfterEach (fun past x => P past x ∧ Q past x) xs ↔ AfterEach P xs ∧ AfterEach Q xs :=
  ⟨fun h => ⟨fun past x hp => (h past x hp).1, fun past x hp => (h past x hp).2⟩,
    fun h past x hp => ⟨h.1 past x hp, h.2 past x hp⟩⟩

-- ---------------------------------------------------------------------------
-- Sums over a run
-- ---------------------------------------------------------------------------

variable {K : Type*} [AddCommGroup K] {ι : Type*} [LinearOrder ι]

def sumWhere (p : α → Prop) [DecidablePred p] (amount : α → K) (xs : List α) : K :=
  ((xs.filter (p ·)).map amount).sum

section
variable (p : α → Prop) [DecidablePred p] (amount : α → K)

@[simp] theorem sumWhere_nil : sumWhere p amount [] = 0 := rfl

theorem sumWhere_cons (x : α) (xs : List α) :
    sumWhere p amount (x :: xs) = (if p x then amount x else 0) + sumWhere p amount xs := by
  by_cases h : p x <;> simp [sumWhere, h]

theorem sumWhere_append (xs ys : List α) :
    sumWhere p amount (xs ++ ys) = sumWhere p amount xs + sumWhere p amount ys := by
  simp [sumWhere]

theorem sumWhere_eq_zero {xs : List α} (h : ∀ x ∈ xs, ¬ p x) : sumWhere p amount xs = 0 := by
  induction xs with
  | nil => rfl
  | cons x xs ih =>
    rw [sumWhere_cons, if_neg (h x (by simp)), ih fun y hy => h y (by simp [hy]), add_zero]

theorem sumWhere_congr {q : α → Prop} [DecidablePred q] {xs : List α}
    (h : ∀ x ∈ xs, p x ↔ q x) : sumWhere p amount xs = sumWhere q amount xs := by
  unfold sumWhere
  rw [List.filter_congr fun x hx => decide_eq_decide.mpr (h x hx)]

theorem sumWhere_true (xs : List α) : sumWhere (fun _ => True) amount xs = (xs.map amount).sum := by
  simp [sumWhere]

theorem sumWhere_split (q : α → Prop) [DecidablePred q] (xs : List α) :
    sumWhere p amount xs =
      sumWhere (fun x => p x ∧ q x) amount xs + sumWhere (fun x => p x ∧ ¬ q x) amount xs := by
  induction xs with
  | nil => simp
  | cons x xs ih =>
    rw [sumWhere_cons, sumWhere_cons, sumWhere_cons, ih]
    by_cases hp : p x <;> by_cases hq : q x <;> simp [hp, hq] <;> abel

end

-- ---------------------------------------------------------------------------
-- Period totals
-- ---------------------------------------------------------------------------

section
variable (period : α → ι) (boundary : α → Prop) [DecidablePred boundary] (amount : α → K)

/-- The total that starts over at each reading that passes the test. -/
def resetTotal (xs : List α) : K :=
  xs.foldl (fun total x => if boundary x then amount x else total + amount x) 0

def periodSum (xs : List α) (x : α) : K := sumWhere (fun y => period y = period x) amount xs

def currentSum (xs : List α) : K :=
  match xs.getLast? with
  | none => 0
  | some x => periodSum period amount xs x

/-- No earlier reading, or the last one lies in another period. -/
def NewPeriod (past : List α) (x : α) : Prop := ∀ y ∈ past.getLast?, period y ≠ period x

/-- The test passes exactly on the first reading of a period, or nothing has
been added up in the period before. -/
def Aligned (past : List α) (x : α) : Prop :=
  (boundary x ↔ NewPeriod period past x) ∨ currentSum period amount past = 0

variable {period}

theorem resetTotal_concat (xs : List α) (x : α) : resetTotal boundary amount (xs ++ [x]) =
    if boundary x then amount x else resetTotal boundary amount xs + amount x := by
  simp [resetTotal]

theorem eq_resetTotal {σ : Type*} {step : σ → α → σ} {f : σ → K} {s : σ} (h0 : f s = 0)
    (h : ∀ s x, f (step s x) = if boundary x then amount x else f s + amount x) (xs : List α) :
    f (xs.foldl step s) = resetTotal boundary amount xs := by
  induction xs using List.reverseRecOn with
  | nil => exact h0
  | append_singleton xs x ih =>
    rw [resetTotal_concat, ← ih, ← h, List.foldl_append]
    rfl

omit [LinearOrder ι] in
theorem newPeriod_concat (xs : List α) (y x : α) :
    NewPeriod period (xs ++ [y]) x ↔ period y ≠ period x := by
  simp [NewPeriod]

omit [DecidablePred boundary] in
theorem aligned_nil (x : α) : Aligned period boundary amount [] x := .inr rfl

theorem currentSum_concat (xs : List α) (x : α) :
    currentSum period amount (xs ++ [x]) = periodSum period amount (xs ++ [x]) x := by
  simp [currentSum]

theorem periodSum_concat {xs : List α} {x : α}
    (hs : (xs ++ [x]).Pairwise fun a b => period a ≤ period b) :
    (NewPeriod period xs x → periodSum period amount (xs ++ [x]) x = amount x) ∧
    (¬ NewPeriod period xs x →
      periodSum period amount (xs ++ [x]) x = currentSum period amount xs + amount x) := by
  rw [periodSum, sumWhere_append, sumWhere_cons, if_pos rfl, sumWhere_nil, add_zero]
  rcases List.eq_nil_or_concat' xs with rfl | ⟨ys, y, rfl⟩
  · simp [NewPeriod, currentSum]
  · have hy : period y ≤ period x := by
      refine (List.pairwise_append.mp hs).2.2 y ?_ x (by simp)
      simp
    rw [currentSum_concat]
    constructor
    · intro hn
      have hne : period y ≠ period x := hn y (by simp)
      rw [sumWhere_eq_zero, zero_add]
      intro z hz
      rcases List.mem_append.mp hz with hz | hz
      · have hzy : period z ≤ period y :=
          (List.pairwise_append.mp (List.pairwise_append.mp hs).1).2.2 z hz y (by simp)
        exact (lt_of_le_of_lt hzy (lt_of_le_of_ne hy hne)).ne
      · rw [List.mem_singleton.mp hz]
        exact hne
    · intro hn
      have heq : period y = period x := by
        by_contra hne
        exact hn (by simpa [NewPeriod] using hne)
      rw [periodSum]
      simp only [heq]

/-- The restarted total is the period's sum after every reading exactly when
every reading is aligned with the test. -/
theorem resetTotal_right_iff {xs : List α}
    (hs : xs.Pairwise fun a b => period a ≤ period b) :
    AfterEach (fun past x =>
        resetTotal boundary amount (past ++ [x]) = periodSum period amount (past ++ [x]) x) xs ↔
      AfterEach (Aligned period boundary amount) xs := by
  refine afterEach_congr fun past x hp hsofar => ?_
  have hprev : resetTotal boundary amount past = currentSum period amount past := by
    rcases List.eq_nil_or_concat' past with rfl | ⟨ys, y, rfl⟩
    · rfl
    · rw [currentSum_concat]
      exact (afterEach_concat.mp hsofar).2
  have hsum := periodSum_concat amount (hs.sublist hp.sublist)
  rw [resetTotal_concat, hprev, Aligned]
  by_cases hb : boundary x <;> by_cases hn : NewPeriod period past x
  · simp [hb, hn, hsum.1 hn]
  · simp [hb, hn, hsum.2 hn]
  · simp [hb, hn, hsum.1 hn]
  · simp [hb, hn, hsum.2 hn]

end

end Runs
