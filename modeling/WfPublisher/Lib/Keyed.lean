import Mathlib

/-!
# Lists searched by key

A list whose items carry a key: the first item with a key stands for the key,
and changing that item, which a pointer to it does in place, changes what the
search for this key finds and nothing else.
-/

namespace Keyed

section
variable {α κ : Type} [DecidableEq κ] (key : α → κ)

/-- The first item with the key, changed; the others as they were. -/
def update (k : κ) (f : α → α) : List α → List α
  | [] => []
  | a :: rest => if key a = k then f a :: rest else a :: update k f rest

variable {key}

theorem modify_findIdx (k : κ) (f : α → α) (list : List α) :
    list.modify (list.findIdx fun a => key a = k) f = update key k f list := by
  induction list with
  | nil => rfl
  | cons a rest ih => by_cases h : key a = k <;> simp [update, List.findIdx_cons, h, ih]

omit [DecidableEq κ] in
theorem mem_modify {list : List α} {i : Nat} {f : α → α} {a : α} (h : a ∈ list.modify i f) :
    a ∈ list ∨ ∃ b ∈ list, a = f b := by
  obtain ⟨j, hj⟩ := List.mem_iff_getElem?.mp h
  rw [List.getElem?_modify] at hj
  obtain ⟨b, hb, rfl⟩ := Option.map_eq_some_iff.mp hj
  have hmem := List.mem_of_getElem? hb
  split
  · exact .inr ⟨b, hmem, rfl⟩
  · exact .inl hmem

section
variable {f : α → α} (hf : ∀ a, key (f a) = key a)
include hf

theorem map_update (k : κ) (list : List α) : (update key k f list).map key = list.map key := by
  induction list with
  | nil => rfl
  | cons a rest ih => by_cases h : key a = k <;> simp [update, h, hf, ih]

theorem findIdx_update (k : κ) (list : List α) (k' : κ) :
    (update key k f list).findIdx (fun a => key a = k') = list.findIdx fun a => key a = k' := by
  have h (l : List α) : l.findIdx (fun a => key a = k') = (l.map key).findIdx (· = k') := by
    rw [List.findIdx_map]
    rfl
  rw [h, h, map_update hf]

theorem find?_update_self (k : κ) (list : List α) :
    (update key k f list).find? (fun a => key a = k) =
      (list.find? fun a => key a = k).map f := by
  induction list with
  | nil => rfl
  | cons a rest ih => by_cases h : key a = k <;> simp [update, h, hf, ih]

theorem find?_update_of_ne {k k' : κ} (hk : k ≠ k') (list : List α) :
    (update key k f list).find? (fun a => key a = k') = list.find? fun a => key a = k' := by
  induction list with
  | nil => rfl
  | cons a rest ih =>
    by_cases h : key a = k
    · simp [update, h, hf, hk]
    · simp [update, h, List.find?_cons, ih]

end

theorem update_map_of_nodup {entry : κ → α} (hkey : ∀ k, key (entry k) = k) {ks : List κ}
    (hnodup : ks.Nodup) (k : κ) (f : α → α) :
    update key k f (ks.map entry) = ks.map fun k' => if k' = k then f (entry k') else entry k' := by
  induction ks with
  | nil => rfl
  | cons k' rest ih =>
    obtain ⟨hk', hnodup⟩ := List.nodup_cons.mp hnodup
    by_cases h : k' = k
    · subst h
      have hrest : rest.map (fun i => if i = k' then f (entry i) else entry i) =
          rest.map entry := by
        refine List.map_congr_left fun i hi => if_neg ?_
        rintro rfl
        exact hk' hi
      simp [update, hkey, hrest]
    · simp [update, hkey, h, ih hnodup]

end

end Keyed
