import Mathlib
import WfPublisher.Lib.DoublyLinked

/-!
# Forests in memory

Trees of nodes that point to their first child and to their two neighbours. A
forest is the nodes from a pointer on, each with the forest of its children and
the one of what comes next. Forests are put behind each other and, where nobody
else has their blocks, taken out of the memory.
-/

/-- A node that was put at an address, its children, and the nodes next to it. -/
inductive Forest (V : Type)
  | nil
  | node (addr : Memory.Addr) (value : V) (child next : Forest V)

namespace Forest

open Memory

structure Node (V : Type) where
  value : V
  next : Option Addr
  prev : Option Addr
  child : Option Addr

section
variable {V B : Type}

def size : Forest V → ℕ
  | nil => 0
  | node _ _ child next => child.size + next.size + 1

def append : Forest V → Forest V → Forest V
  | nil, g => g
  | node a v child next, g => node a v child (next.append g)

/-- The last of the nodes next to each other, or `before` where there is none. -/
def last (before : Option Addr) : Forest V → Option Addr
  | nil => before
  | node a _ _ next => next.last (some a)

def owned (data : V → List Addr) : Forest V → List Addr
  | nil => []
  | node a v child next => a :: (data v ++ (child.owned data ++ next.owned data))

variable (cell : Node V → B) (data : V → List Addr)

/-- The nodes from `first` on, up to where `after` comes next. -/
def Laid (h : Heap B) (before first : Option Addr) : Forest V → Option Addr → Prop
  | nil, after => first = after
  | node a v child next, after => first = some a ∧ ∃ nextAddr childAddr,
    h.lookup a = some (cell ⟨v, nextAddr, before, childAddr⟩) ∧
      Laid h none childAddr child none ∧ Laid h (some a) nextAddr next after

variable {cell data} {h h' : Heap B} {before first after : Option Addr} {f g : Forest V}

theorem append_nil (f : Forest V) : f.append nil = f := by
  induction f with
  | nil => rfl
  | node a v child next _ ih => rw [append, ih]

@[simp] theorem last_append :
    (f.append g).last before = g.last (f.last before) := by
  induction f generalizing before with
  | nil => rfl
  | node a v child next _ ih => exact ih

@[simp] theorem owned_append : (f.append g).owned data = f.owned data ++ g.owned data := by
  induction f with
  | nil => rfl
  | node a v child next _ ih => simp [append, owned, ih]

theorem size_le_owned (f : Forest V) : f.size ≤ (f.owned data).length := by
  induction f with
  | nil => exact le_rfl
  | node a v child next ihchild ihnext =>
    simp only [size, owned, List.length_cons, List.length_append]
    omega

theorem Laid.frame (hlaid : Laid cell h before first f after)
    (hsame : ∀ a ∈ f.owned data, h'.lookup a = h.lookup a) :
    Laid cell h' before first f after := by
  induction f generalizing before first after with
  | nil => exact hlaid
  | node a v child next ihchild ihnext =>
    obtain ⟨hfirst, nextAddr, childAddr, hnode, hchild, hnext⟩ := hlaid
    simp only [owned, List.forall_mem_cons, List.forall_mem_append] at hsame
    obtain ⟨hnode', -, hchild', hnext'⟩ := hsame
    exact ⟨hfirst, nextAddr, childAddr, hnode'.trans hnode, ihchild hchild hchild',
      ihnext hnext hnext'⟩

theorem laid_append : Laid cell h before first (f.append g) after ↔
    ∃ mid, Laid cell h before first f mid ∧ Laid cell h (f.last before) mid g after := by
  induction f generalizing before first with
  | nil =>
    constructor
    · intro hrest
      exact ⟨first, rfl, hrest⟩
    · rintro ⟨mid, rfl, hrest⟩
      exact hrest
  | node a v child next _ ih =>
    constructor
    · rintro ⟨hfirst, nextAddr, childAddr, hnode, hchild, hnext⟩
      obtain ⟨mid, hfront, hrest⟩ := ih.mp hnext
      exact ⟨mid, ⟨hfirst, nextAddr, childAddr, hnode, hchild, hfront⟩, hrest⟩
    · rintro ⟨mid, ⟨hfirst, nextAddr, childAddr, hnode, hchild, hfront⟩, hrest⟩
      exact ⟨hfirst, nextAddr, childAddr, hnode, hchild, ih.mpr ⟨mid, hfront, hrest⟩⟩

theorem Laid.eq_nil (hlaid : Laid cell h before none f none) : f = nil := by
  cases f with
  | nil => rfl
  | node a v child next => cases hlaid.1

theorem eq_nil_or_snoc (f : Forest V) :
    f = nil ∨ ∃ front : Forest V, ∃ a v child, f = front.append (node a v child nil) := by
  induction f with
  | nil => exact .inl rfl
  | node a v child next _ ih =>
    obtain rfl | ⟨front, b, w, grand, rfl⟩ := ih
    · exact .inr ⟨nil, a, v, child, rfl⟩
    · exact .inr ⟨node a v child front, b, w, grand, rfl⟩

section
variable {front child grand : Forest V} {a b : Addr} {v w : V}

theorem laid_snoc : Laid cell h before first (front.append (node a v child nil)) after ↔
    ∃ childAddr, Laid cell h before first front (some a) ∧
      h.lookup a = some (cell ⟨v, after, front.last before, childAddr⟩) ∧
      Laid cell h none childAddr child none := by
  rw [laid_append]
  constructor
  · rintro ⟨_, hfront, rfl, _, childAddr, hnode, hchild, rfl⟩
    exact ⟨childAddr, hfront, hnode, hchild⟩
  · rintro ⟨childAddr, hfront, hnode, hchild⟩
    exact ⟨_, hfront, rfl, after, childAddr, hnode, hchild, rfl⟩

theorem Laid.link (hf : Laid cell h before first (front.append (node a v child nil)) none)
    (hnew : Laid cell h none (some b) (node b w grand nil) none)
    (hnodup : (owned data ((front.append (node a v child nil)).append (node b w grand nil))).Nodup) :
    ∃ childAddr grandAddr, h.lookup a = some (cell ⟨v, none, front.last before, childAddr⟩) ∧
      h.lookup b = some (cell ⟨w, none, none, grandAddr⟩) ∧
      Laid cell ((h.insert a (cell ⟨v, some b, front.last before, childAddr⟩)).insert b
          (cell ⟨w, none, some a, grandAddr⟩)) before first
        ((front.append (node a v child nil)).append (node b w grand nil)) none := by
  obtain ⟨childAddr, hfront, hnode, hchild⟩ := laid_snoc.mp hf
  obtain ⟨-, _, grandAddr, hnew, hgrand, rfl⟩ := hnew
  simp only [owned_append, owned, List.append_nil] at hnodup
  have hsame : ∀ c, c ≠ a → c ≠ b →
      ((h.insert a (cell ⟨v, some b, front.last before, childAddr⟩)).insert b
        (cell ⟨w, none, some a, grandAddr⟩)).lookup c = h.lookup c := fun c hca hcb => by
    rw [AList.lookup_insert_ne hcb, AList.lookup_insert_ne hca]
  simp only [List.nodup_append, List.nodup_cons, List.mem_cons, List.mem_append] at hnodup
  have hne : a ≠ b := by grind
  have hfront' : ∀ c ∈ front.owned data, c ≠ a ∧ c ≠ b := by grind
  have hchild' : ∀ c ∈ child.owned data, c ≠ a ∧ c ≠ b := by grind
  have hgrand' : ∀ c ∈ grand.owned data, c ≠ a ∧ c ≠ b := by grind
  refine ⟨childAddr, grandAddr, hnode, hnew, laid_append.mpr ⟨some b, laid_snoc.mpr ?_, ?_⟩⟩
  · refine ⟨childAddr, hfront.frame fun c hc => hsame c (hfront' c hc).1 (hfront' c hc).2, ?_,
      hchild.frame fun c hc => hsame c (hchild' c hc).1 (hchild' c hc).2⟩
    rw [AList.lookup_insert_ne hne, AList.lookup_insert]
  · refine ⟨rfl, none, grandAddr, ?_,
      hgrand.frame fun c hc => hsame c (hgrand' c hc).1 (hgrand' c hc).2, rfl⟩
    rw [AList.lookup_insert, last_append]
    rfl

end

end

end Forest
