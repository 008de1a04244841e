import Mathlib

/-!
# Handles and their owners

What is handed out once and given back once: blocks of memory, open files. The
ledger numbers the handles; an owner has one of its own, and gives it back or
keeps it.
-/

/-- How many handles were handed out, and which of them came back, in order. -/
structure Handles where
  issued : Nat
  released : List Nat
  deriving DecidableEq

namespace Handles

def empty : Handles := ⟨0, []⟩

def acquire (h : Handles) : Handles := { h with issued := h.issued + 1 }

def release (n : Nat) (h : Handles) : Handles := { h with released := h.released ++ [n] }

def Live (h : Handles) (n : Nat) : Prop := n < h.issued ∧ n ∉ h.released

instance (h : Handles) (n : Nat) : Decidable (h.Live n) := inferInstanceAs (Decidable (_ ∧ _))

structure Proper (h : Handles) : Prop where
  issued : ∀ n ∈ h.released, n < h.issued
  once : h.released.Nodup

variable {h : Handles} {n m : Nat}

theorem live_acquire (hh : h.Proper) : h.acquire.Live m ↔ h.Live m ∨ m = h.issued := by
  simp only [Live, acquire]
  constructor
  · rintro ⟨hlt, hkept⟩
    obtain hlt | rfl := Nat.lt_succ_iff_lt_or_eq.mp hlt
    · exact .inl ⟨hlt, hkept⟩
    · exact .inr rfl
  · rintro (⟨hlt, hkept⟩ | rfl)
    · exact ⟨Nat.lt_succ_of_lt hlt, hkept⟩
    · exact ⟨Nat.lt_succ_self _, fun hmem => lt_irrefl _ (hh.issued _ hmem)⟩

@[simp] theorem live_release : (h.release n).Live m ↔ h.Live m ∧ m ≠ n := by
  simp [Live, release, and_assoc]

theorem Proper.acquire (hh : h.Proper) : h.acquire.Proper :=
  ⟨fun n hn => Nat.lt_succ_of_lt (hh.issued n hn), hh.once⟩

theorem Proper.release (hh : h.Proper) (hn : h.Live n) : (h.release n).Proper := by
  constructor
  · intro m hm
    obtain hm | hm := List.mem_append.mp hm
    · exact hh.issued m hm
    · cases List.mem_singleton.mp hm
      exact hn.1
  · refine hh.once.append (List.nodup_singleton n) fun m hm hn' => ?_
    cases List.mem_singleton.mp hn'
    exact hn.2 hm

theorem proper_empty : empty.Proper := ⟨by simp [empty], by simp [empty]⟩

-- ---------------------------------------------------------------------------
-- What is out
-- ---------------------------------------------------------------------------

/-- These and no others did not come back; the others came back once each. -/
def Outstanding (h : Handles) (out : List Nat) : Prop :=
  (out ++ h.released).Perm (List.range h.issued)

instance (h : Handles) (out : List Nat) : Decidable (h.Outstanding out) :=
  inferInstanceAs (Decidable (List.Perm _ _))

section
variable {out after : List Nat}

theorem outstanding_empty : empty.Outstanding [] := .nil

theorem Outstanding.acquire (hh : h.Outstanding out) :
    h.acquire.Outstanding (h.issued :: out) := by
  unfold Outstanding Handles.acquire
  rw [List.range_succ]
  exact (List.Perm.cons _ hh).trans (List.perm_append_singleton _ _).symm

theorem Outstanding.release (before : List Nat) (hh : h.Outstanding (before ++ n :: after)) :
    (h.release n).Outstanding (before ++ after) := by
  refine List.Perm.trans ?_ hh
  simp only [Handles.release, ← List.append_assoc]
  refine (List.perm_append_singleton _ _).trans ?_
  simpa using List.perm_middle.symm

theorem Outstanding.eq_nil (hh : h.Outstanding out) (hnone : h.Outstanding []) : out = [] := by
  have hlength := (hh.trans hnone.symm).length_eq
  simpa using hlength

end

-- ---------------------------------------------------------------------------
-- Owners
-- ---------------------------------------------------------------------------

/-- The handles that did not come back are those that their owners keep. -/
structure HeldBy {τ : Type*} (number : τ → Nat) (keeps : τ → Prop) (owners : List τ) (h : Handles) :
    Prop where
  proper : h.Proper
  apart : (owners.map number).Nodup
  issued : ∀ o ∈ owners, number o < h.issued
  live : ∀ n, h.Live n ↔ ∃ o ∈ owners, number o = n ∧ keeps o

namespace HeldBy

variable {τ : Type*} {number : τ → Nat} {keeps : τ → Prop} {owners : List τ} {old new : τ}

theorem not_live (hh : h.HeldBy number keeps owners) (hmem : old ∈ owners) (hkeeps : ¬ keeps old) :
    ¬ h.Live (number old) := by
  intro hlive
  obtain ⟨o, ho, hnumber, hkeeps'⟩ := (hh.live _).mp hlive
  obtain rfl := List.inj_on_of_nodup_map hh.apart ho hmem hnumber
  exact hkeeps hkeeps'

theorem empty : Handles.empty.HeldBy number keeps [] where
  proper := proper_empty
  apart := List.nodup_nil
  issued := by simp
  live := by simp [Live, Handles.empty]

theorem acquire (hh : h.HeldBy number keeps owners) (hnumber : number new = h.issued)
    (hkeeps : keeps new) : h.acquire.HeldBy number keeps (owners ++ [new]) where
  proper := hh.proper.acquire
  apart := by
    rw [List.map_append, List.map_singleton, List.nodup_append_comm]
    refine List.nodup_cons.mpr ⟨fun hmem => ?_, hh.apart⟩
    obtain ⟨o, ho, heq⟩ := List.mem_map.mp hmem
    exact (hh.issued o ho).ne (heq.trans hnumber)
  issued o ho := by
    obtain ho | ho := List.mem_append.mp ho
    · exact Nat.lt_succ_of_lt (hh.issued o ho)
    · cases List.mem_singleton.mp ho
      exact hnumber.trans_lt (Nat.lt_succ_self _)
  live n := by
    rw [live_acquire hh.proper, hh.live]
    simp [or_and_right, exists_or, hnumber, hkeeps, eq_comm]

theorem acquire_release (hh : h.HeldBy number keeps owners) :
    (h.acquire.release h.issued).HeldBy number keeps owners where
  proper := hh.proper.acquire.release ((live_acquire hh.proper).mpr (.inr rfl))
  apart := hh.apart
  issued o ho := Nat.lt_succ_of_lt (hh.issued o ho)
  live n := by
    rw [live_release, live_acquire hh.proper, ← hh.live]
    constructor
    · rintro ⟨hlive | rfl, hne⟩
      · exact hlive
      · exact absurd rfl hne
    · intro hlive
      exact ⟨.inl hlive, hlive.1.ne⟩

theorem exists_split {i : Nat} (hi : owners[i]? = some old) :
    ∃ before after, owners = before ++ old :: after ∧
      ∀ new, owners.set i new = before ++ new :: after := by
  obtain ⟨hlt, rfl⟩ := List.getElem?_eq_some_iff.mp hi
  refine ⟨owners.take i, owners.drop (i + 1), by simp, fun new => ?_⟩
  rw [List.set_eq_take_append_cons_drop, if_pos hlt]

theorem map_set {i : Nat} (hi : owners[i]? = some old) (hnumber : number new = number old) :
    (owners.set i new).map number = owners.map number := by
  obtain ⟨before, after, rfl, hset⟩ := exists_split hi
  simp [hset, hnumber]

theorem issued_set {i : Nat} (hh : h.HeldBy number keeps owners) (hi : owners[i]? = some old)
    (hnumber : number new = number old) : ∀ o ∈ owners.set i new, number o < h.issued := by
  intro o ho
  obtain ho | rfl := List.mem_or_eq_of_mem_set ho
  · exact hh.issued o ho
  · exact hnumber ▸ hh.issued old (List.mem_of_getElem? hi)

theorem replace {i : Nat} (hh : h.HeldBy number keeps owners) (hi : owners[i]? = some old)
    (hnumber : number new = number old) (hkeeps : keeps new ↔ keeps old) :
    h.HeldBy number keeps (owners.set i new) where
  proper := hh.proper
  apart := map_set hi hnumber ▸ hh.apart
  issued := hh.issued_set hi hnumber
  live n := by
    rw [hh.live]
    obtain ⟨before, after, rfl, hset⟩ := exists_split hi
    simp only [hset, List.mem_append, List.mem_cons, or_and_right, exists_or, exists_eq_left,
      hnumber, hkeeps]

theorem release {i : Nat} (hh : h.HeldBy number keeps owners) (hi : owners[i]? = some old)
    (hnumber : number new = number old) (hold : keeps old) (hnew : ¬ keeps new) :
    (h.release (number old)).HeldBy number keeps (owners.set i new) where
  proper := hh.proper.release ((hh.live _).mpr ⟨old, List.mem_of_getElem? hi, rfl, hold⟩)
  apart := map_set hi hnumber ▸ hh.apart
  issued := hh.issued_set hi hnumber
  live n := by
    have happart := hh.apart
    rw [live_release, hh.live]
    obtain ⟨before, after, rfl, hset⟩ := exists_split hi
    -- no other owner has the number
    have hother (o : τ) (ho : o ∈ before ∨ o ∈ after) : number o ≠ number old := by
      intro heq
      rw [List.map_append, List.map_cons, List.nodup_middle, ← List.map_append] at happart
      exact (List.nodup_cons.mp happart).1 (heq ▸ List.mem_map_of_mem (by simpa using ho))
    rw [hset]
    constructor
    · rintro ⟨⟨o, ho, rfl, hkeeps⟩, hne⟩
      refine ⟨o, ?_, rfl, hkeeps⟩
      obtain ho | rfl | ho := by simpa using ho
      · simp [ho]
      · exact absurd rfl hne
      · simp [ho]
    · rintro ⟨o, ho, rfl, hkeeps⟩
      obtain ho | rfl | ho := by simpa using ho
      · exact ⟨⟨o, by simp [ho], rfl, hkeeps⟩, hother o (.inl ho)⟩
      · exact absurd hkeeps hnew
      · exact ⟨⟨o, by simp [ho], rfl, hkeeps⟩, hother o (.inr ho)⟩

end HeldBy

end Handles
