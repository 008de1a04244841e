import Mathlib

/-!
# Memory

Blocks at addresses. `malloc` picks an address without a block; reading, writing
or freeing where there is none is a fault. What a part of a program leaves alone
is said by two relations between the memory before and after it, and a loop along
the links of a list is one over pointers.
-/

namespace Memory

abbrev Addr := Nat

abbrev Heap (B : Type) := AList fun _ : Addr => B

section
variable {B : Type}

def store (h : Heap B) (a : Addr) (b : B) : Option (Heap B) :=
  if a ∈ h then some (h.insert a b) else none

def free (h : Heap B) (a : Addr) : Option (Heap B) :=
  if a ∈ h then some (h.erase a) else none

/-- `malloc`, which does not say where its blocks will be; memory does not run out. -/
structure Malloc (B : Type) where
  pick : Heap B → Addr
  fresh : ∀ h, pick h ∉ h

def Malloc.alloc (m : Malloc B) (h : Heap B) (b : B) : Addr × Heap B :=
  (m.pick h, h.insert (m.pick h) b)

/-- One that never uses an address again before all above it are free. -/
def Malloc.top : Malloc B where
  pick h := h.keys.sum + 1
  fresh h hmem := by
    have := List.single_le_sum (fun _ _ => Nat.zero_le _) _ (AList.mem_keys.mp hmem)
    omega

/-- `while (p) { … p = next; }`, where the body returns the next pointer. -/
def whilePtr {σ : Type} (body : σ → Addr → Option (σ × Option Addr)) :
    Nat → σ → Option Addr → Option σ
  | _, s, none => some s
  | 0, _, some _ => none
  | fuel + 1, s, some a =>
    match body s a with
    | none => none
    | some (s, next) => whilePtr body fuel s next

-- ---------------------------------------------------------------------------
-- What is left alone
-- ---------------------------------------------------------------------------

/-- All blocks are as they were; there may be more. -/
def Extends (h h' : Heap B) : Prop := ∀ a ∈ h, h'.lookup a = h.lookup a

/-- Only the blocks at `owned` may differ. -/
def Changes (owned : List Addr) (h h' : Heap B) : Prop := ∀ a ∉ owned, h'.lookup a = h.lookup a

variable {h h₁ h₂ : Heap B} {a : Addr} {b : B} {owned : List Addr}

theorem mem_of_lookup (hb : h.lookup a = some b) : a ∈ h :=
  AList.lookup_isSome.mp (by rw [hb, Option.isSome_some])

theorem Extends.refl (h : Heap B) : Extends h h := fun _ _ => rfl

theorem Extends.mem (hext : Extends h h₁) (ha : a ∈ h) : a ∈ h₁ := by
  rw [← AList.lookup_isSome, hext a ha, AList.lookup_isSome]
  exact ha

theorem Extends.trans (hext : Extends h h₁) (hext' : Extends h₁ h₂) : Extends h h₂ :=
  fun a ha => (hext' a (hext.mem ha)).trans (hext a ha)

theorem Extends.lookup (hext : Extends h h₁) (hb : h.lookup a = some b) : h₁.lookup a = some b :=
  (hext a (mem_of_lookup hb)).trans hb

theorem Extends.changes (hext : Extends h h₁) (hown : ∀ a ∈ owned, a ∉ h)
    (hch : Changes owned h₁ h₂) : Extends h h₂ :=
  fun a ha => (hch a fun hmem => hown a hmem ha).trans (hext a ha)

theorem Changes.refl (owned : List Addr) (h : Heap B) : Changes owned h h := fun _ _ => rfl

theorem Changes.trans (hch : Changes owned h h₁) (hch' : Changes owned h₁ h₂) :
    Changes owned h h₂ :=
  fun a ha => (hch' a ha).trans (hch a ha)

theorem Changes.mono {more : List Addr} (hch : Changes owned h h₁) (hsub : owned ⊆ more) :
    Changes more h h₁ :=
  fun a ha => hch a fun hmem => ha (hsub hmem)

theorem Changes.lookup (hch : Changes owned h h₁) (ha : a ∉ owned) (hb : h.lookup a = some b) :
    h₁.lookup a = some b :=
  (hch a ha).trans hb

theorem Changes.notMem (hch : Changes owned h h₁) (ha : a ∉ owned) (hgone : a ∉ h) : a ∉ h₁ := by
  rw [← AList.lookup_eq_none, hch a ha]
  exact AList.lookup_eq_none.mpr hgone

theorem Changes.mem (hch : Changes owned h h₁) (ha : a ∉ owned) (hmem : a ∈ h) : a ∈ h₁ := by
  rw [← AList.lookup_isSome, hch a ha, AList.lookup_isSome]
  exact hmem

-- ---------------------------------------------------------------------------
-- The operations
-- ---------------------------------------------------------------------------

theorem store_of_lookup {old : B} (hold : h.lookup a = some old) :
    store h a b = some (h.insert a b) :=
  if_pos (mem_of_lookup hold)

theorem free_of_mem (ha : a ∈ h) : free h a = some (h.erase a) := if_pos ha

theorem changes_insert : Changes [a] h (h.insert a b) :=
  fun _ hc => AList.lookup_insert_ne (List.ne_of_not_mem_cons hc)

theorem changes_erase : Changes [a] h (h.erase a) :=
  fun _ hc => AList.lookup_erase_ne (List.ne_of_not_mem_cons hc)

theorem extends_insert (ha : a ∉ h) : Extends h (h.insert a b) := by
  intro c hc
  refine AList.lookup_insert_ne ?_
  rintro rfl
  exact ha hc

variable {σ : Type} {body : σ → Addr → Option (σ × Option Addr)} {s s' : σ} {next : Option Addr}

@[simp] theorem whilePtr_none (fuel : Nat) : whilePtr body fuel s none = some s := by
  cases fuel <;> rfl

theorem whilePtr_some {fuel : Nat} (hbody : body s a = some (s', next)) :
    whilePtr body (fuel + 1) s (some a) = whilePtr body fuel s' next := by
  rw [whilePtr, hbody]

theorem length_le_keys {addrs : List Addr} (hnodup : addrs.Nodup) (hmem : ∀ a ∈ addrs, a ∈ h) :
    addrs.length ≤ h.keys.length :=
  (hnodup.subperm fun a ha => AList.mem_keys.mp (hmem a ha)).length_le

-- ---------------------------------------------------------------------------
-- What is added and what is freed
-- ---------------------------------------------------------------------------

structure Allocator (B : Type) where
  pick : Heap B → Option Addr
  fresh : ∀ {h a}, pick h = some a → a ∉ h

def Allocator.alloc (m : Allocator B) (h : Heap B) (b : B) : Option (Addr × Heap B) :=
  (m.pick h).map fun a => (a, h.insert a b)

def Allocator.Total (m : Allocator B) : Prop := ∀ h, m.pick h ≠ none

def Malloc.allocator (m : Malloc B) : Allocator B where
  pick h := some (m.pick h)
  fresh := by
    rintro h a ⟨⟩
    exact m.fresh h

/-- The blocks at `fresh` are new, the others are as they were. -/
structure Grows (h : Heap B) (fresh : List Addr) (h' : Heap B) : Prop where
  same : Extends h h'
  mem : ∀ a, a ∈ h' ↔ a ∈ h ∨ a ∈ fresh
  apart : ∀ a ∈ fresh, a ∉ h
  nodup : fresh.Nodup

/-- The blocks at `gone` are freed, the others are as they were. -/
structure Frees (gone : List Addr) (h h' : Heap B) : Prop where
  erased : ∀ a ∈ gone, a ∉ h'
  changes : Changes gone h h'

variable {fresh fresh' gone gone' : List Addr}

theorem alloc_grows {m : Allocator B} (halloc : m.alloc h b = some (a, h')) :
    Grows h [a] h' ∧ h'.lookup a = some b := by
  obtain ⟨a', hpick, heq⟩ := Option.map_eq_some_iff.mp halloc
  cases heq
  have hfresh := m.fresh hpick
  refine ⟨⟨extends_insert hfresh, fun c => ?_, ?_, List.nodup_singleton a⟩,
    AList.lookup_insert h⟩
  · rw [AList.mem_insert, List.mem_singleton, or_comm]
  · simpa using hfresh

theorem Grows.refl (h : Heap B) : Grows h [] h :=
  ⟨Extends.refl h, by simp, by simp, List.nodup_nil⟩

theorem Grows.trans (hgrows : Grows h fresh h₁) (hgrows' : Grows h₁ fresh' h₂) :
    Grows h (fresh ++ fresh') h₂ where
  same := hgrows.same.trans hgrows'.same
  mem a := by rw [hgrows'.mem, hgrows.mem, List.mem_append, or_assoc]
  apart a ha := by
    obtain ha | ha := List.mem_append.mp ha
    · exact hgrows.apart a ha
    · exact fun hmem => hgrows'.apart a ha (hgrows.same.mem hmem)
  nodup := List.Nodup.append hgrows.nodup hgrows'.nodup fun a ha ha' =>
    hgrows'.apart a ha' ((hgrows.mem a).mpr (.inr ha))

theorem Grows.write (hgrows : Grows h fresh h₁) (hchanges : Changes fresh h₁ h₂)
    (hmem : ∀ a, a ∈ h₂ ↔ a ∈ h₁) : Grows h fresh h₂ where
  same := hgrows.same.changes hgrows.apart hchanges
  mem a := by rw [hmem, hgrows.mem]
  apart := hgrows.apart
  nodup := hgrows.nodup

theorem Grows.insert (hgrows : Grows h fresh h₁) (ha : a ∈ h) :
    Grows (h.insert a b) fresh (h₁.insert a b) where
  same c hc := by
    obtain rfl | hca := eq_or_ne c a
    · rw [AList.lookup_insert, AList.lookup_insert]
    · rw [AList.lookup_insert_ne hca, AList.lookup_insert_ne hca]
      exact hgrows.same c (((AList.mem_insert _).mp hc).resolve_left hca)
  mem c := by rw [AList.mem_insert, AList.mem_insert, hgrows.mem, or_assoc]
  apart c hc hmem := by
    obtain rfl | hmem := (AList.mem_insert _).mp hmem
    · exact hgrows.apart c hc ha
    · exact hgrows.apart c hc hmem
  nodup := hgrows.nodup

theorem mem_insert_of_mem (ha : a ∈ h) {c : Addr} : c ∈ h.insert a b ↔ c ∈ h := by
  rw [AList.mem_insert, or_iff_right_of_imp]
  rintro rfl
  exact ha

theorem Grows.perm (hgrows : Grows h fresh h₁) (hperm : fresh.Perm fresh') :
    Grows h fresh' h₁ where
  same := hgrows.same
  mem a := by rw [hgrows.mem, hperm.mem_iff]
  apart a ha := hgrows.apart a (hperm.mem_iff.mpr ha)
  nodup := hperm.nodup_iff.mp hgrows.nodup

theorem Frees.refl (h : Heap B) : Frees [] h h := ⟨by simp, Changes.refl [] h⟩

theorem Frees.trans (hfrees : Frees gone h h₁) (hfrees' : Frees gone' h₁ h₂) :
    Frees (gone ++ gone') h h₂ where
  erased a ha := by
    by_cases ha' : a ∈ gone'
    · exact hfrees'.erased a ha'
    · exact hfrees'.changes.notMem ha' (hfrees.erased a ((List.mem_append.mp ha).resolve_right ha'))
  changes := (hfrees.changes.mono (List.subset_append_left _ _)).trans
    (hfrees'.changes.mono (List.subset_append_right _ _))

theorem Frees.congr (hfrees : Frees gone h h₁) (hgone : ∀ a, a ∈ gone ↔ a ∈ gone') :
    Frees gone' h h₁ where
  erased a ha := hfrees.erased a ((hgone a).mpr ha)
  changes := hfrees.changes.mono fun a ha => (hgone a).mp ha

theorem free_frees (ha : a ∈ h) : ∃ h', free h a = some h' ∧ Frees [a] h h' :=
  ⟨_, free_of_mem ha, by simp, changes_erase⟩

theorem Grows.free (hgrows : Grows h fresh h₁) (hfrees : Frees gone h₁ h₂)
    (hgone : ∀ a, a ∈ gone ↔ a ∈ fresh) : Changes [] h h₂ := by
  intro a _
  by_cases ha : a ∈ fresh
  · rw [AList.lookup_eq_none.mpr (hfrees.erased a ((hgone a).mpr ha)),
      AList.lookup_eq_none.mpr (hgrows.apart a ha)]
  · rw [hfrees.changes a fun hmem => ha ((hgone a).mp hmem)]
    by_cases hmem : a ∈ h
    · exact hgrows.same a hmem
    · rw [AList.lookup_eq_none.mpr hmem, AList.lookup_eq_none.mpr
        fun h' => ((hgrows.mem a).mp h').elim hmem ha]

theorem Grows.free_first (hgrows : Grows h fresh h₁) (hgrows' : Grows h₁ fresh' h₂)
    {h₃ : Heap B} (hfrees : Frees fresh h₂ h₃) : Grows h fresh' h₃ where
  same a ha := by
    have hold : a ∉ fresh := fun hfresh => hgrows.apart a hfresh ha
    rw [hfrees.changes a hold, hgrows'.same a (hgrows.same.mem ha), hgrows.same a ha]
  mem a := by
    by_cases hfresh : a ∈ fresh
    · have hgone := hfrees.erased a hfresh
      have hapart := hgrows.apart a hfresh
      have hnew : a ∉ fresh' := fun hmem =>
        hgrows'.apart a hmem ((hgrows.mem a).mpr (.inr hfresh))
      simp [hgone, hapart, hnew]
    · rw [← AList.lookup_isSome, hfrees.changes a hfresh, AList.lookup_isSome, hgrows'.mem,
        hgrows.mem, or_iff_left hfresh]
  apart a ha hmem := hgrows'.apart a ha (hgrows.same.mem hmem)
  nodup := hgrows'.nodup

end

end Memory
