import Mathlib
import WfPublisher.Lib.Memory

/-!
# Doubly linked lists

Nodes in memory that point to the next and to the previous one. A list is the
addresses and values of its nodes in the order of the `next` pointers. A node is
put in front of a list and taken off its end.
-/

namespace DoublyLinked

open Memory

structure Node (α : Type) where
  value : α
  next : Option Addr
  prev : Option Addr

section
variable {α : Type}

/-- The address of the last cell, or `before` where there is none. -/
def lastAddr (before : Option Addr) : List (Addr × α) → Option Addr
  | [] => before
  | c :: rest => lastAddr (some c.1) rest

def headAddr (after : Option Addr) : List (Addr × α) → Option Addr
  | [] => after
  | c :: _ => some c.1

/-- The cells from `first` on, up to where `after` comes next; `before` is what the
first of them has as its previous one. -/
def Linked (h : Heap (Node α)) (before first : Option Addr) :
    List (Addr × α) → Option Addr → Prop
  | [], after => first = after
  | c :: rest, after => first = some c.1 ∧
    ∃ next, h.lookup c.1 = some ⟨c.2, next, before⟩ ∧ Linked h (some c.1) next rest after

def addrs (cells : List (Addr × α)) : List Addr := cells.map Prod.fst

variable {h h' : Heap (Node α)} {before first after : Option Addr} {a b : Addr} {v w : α}
  {cells front rest : List (Addr × α)} {c : Addr × α}

@[simp] theorem addrs_nil : addrs ([] : List (Addr × α)) = [] := rfl

@[simp] theorem addrs_cons : addrs (c :: rest) = c.1 :: addrs rest := rfl

@[simp] theorem addrs_append : addrs (front ++ rest) = addrs front ++ addrs rest :=
  List.map_append

@[simp] theorem lastAddr_append :
    lastAddr before (front ++ rest) = lastAddr (lastAddr before front) rest := by
  induction front generalizing before with
  | nil => rfl
  | cons c front ih => exact ih

-- ---------------------------------------------------------------------------
-- Segments
-- ---------------------------------------------------------------------------

theorem Linked.frame (hlinked : Linked h before first cells after)
    (hsame : ∀ a ∈ addrs cells, h'.lookup a = h.lookup a) :
    Linked h' before first cells after := by
  induction cells generalizing before first with
  | nil => exact hlinked
  | cons c rest ih =>
    obtain ⟨hfirst, next, hnode, hrest⟩ := hlinked
    refine ⟨hfirst, next, ?_, ih hrest fun a ha => hsame a (List.mem_cons_of_mem _ ha)⟩
    rw [hsame c.1 (by simp), hnode]

theorem linked_append : Linked h before first (front ++ rest) after ↔
    ∃ mid, Linked h before first front mid ∧ Linked h (lastAddr before front) mid rest after := by
  induction front generalizing before first with
  | nil =>
    constructor
    · intro hrest
      exact ⟨first, rfl, hrest⟩
    · rintro ⟨mid, rfl, hrest⟩
      exact hrest
  | cons c front ih =>
    constructor
    · rintro ⟨hfirst, next, hnode, hlinked⟩
      obtain ⟨mid, hfront, hrest⟩ := ih.mp hlinked
      exact ⟨mid, ⟨hfirst, next, hnode, hfront⟩, hrest⟩
    · rintro ⟨mid, ⟨hfirst, next, hnode, hfront⟩, hrest⟩
      exact ⟨hfirst, next, hnode, ih.mpr ⟨mid, hfront, hrest⟩⟩

theorem linked_singleton : Linked h before first [(a, v)] after ↔
    first = some a ∧ h.lookup a = some ⟨v, after, before⟩ := by
  constructor
  · rintro ⟨hfirst, next, hnode, rfl⟩
    exact ⟨hfirst, hnode⟩
  · rintro ⟨hfirst, hnode⟩
    exact ⟨hfirst, after, hnode, rfl⟩

theorem Linked.first_eq (hlinked : Linked h before first cells after) :
    first = headAddr after cells := by
  cases cells with
  | nil => exact hlinked
  | cons c rest => exact hlinked.1

theorem Linked.lookup (hlinked : Linked h before first (front ++ c :: rest) after) :
    h.lookup c.1 = some ⟨c.2, headAddr after rest, lastAddr before front⟩ := by
  obtain ⟨mid, -, -, next, hnode, hrest⟩ := linked_append.mp hlinked
  rw [hnode, hrest.first_eq]

theorem Linked.mem (hlinked : Linked h before first cells after) (ha : a ∈ addrs cells) :
    a ∈ h := by
  obtain ⟨c, hc, rfl⟩ := List.mem_map.mp ha
  obtain ⟨front, rest, rfl⟩ := List.append_of_mem hc
  exact mem_of_lookup hlinked.lookup

theorem exists_of_lastAddr (hlast : lastAddr none cells = some a) :
    ∃ front v, cells = front ++ [(a, v)] := by
  obtain rfl | ⟨front, c, rfl⟩ := List.eq_nil_or_concat' cells
  · cases hlast
  · refine ⟨front, c.2, ?_⟩
    rw [lastAddr_append] at hlast
    cases hlast
    rfl

theorem Linked.next_eq_iff (hlinked : Linked h none first cells none) {x y : Node α}
    (ha : a ∈ addrs cells) (hb : b ∈ addrs cells) (hx : h.lookup a = some x)
    (hy : h.lookup b = some y) : x.next = some b ↔ y.prev = some a := by
  obtain ⟨c, hc, rfl⟩ := List.mem_map.mp ha
  obtain ⟨d, hd, rfl⟩ := List.mem_map.mp hb
  constructor
  · intro hnext
    obtain ⟨front, rest, rfl⟩ := List.append_of_mem hc
    cases hlinked.lookup.symm.trans hx
    cases rest with
    | nil => cases hnext
    | cons e rest =>
      -- the cell behind `c` has the address `b`
      rw [List.append_cons] at hlinked
      have he : e.1 = d.1 := Option.some.inj hnext
      have hlookup := hlinked.lookup
      rw [he, hy] at hlookup
      cases hlookup
      simp [lastAddr]
  · intro hprev
    obtain ⟨front, rest, rfl⟩ := List.append_of_mem hd
    cases hlinked.lookup.symm.trans hy
    obtain ⟨front, v, rfl⟩ := exists_of_lastAddr hprev
    rw [← List.append_cons] at hlinked
    cases hlinked.lookup.symm.trans hx
    rfl

-- ---------------------------------------------------------------------------
-- Whole lists
-- ---------------------------------------------------------------------------

/-- The blocks of the memory are the nodes of the list from `head` on. -/
structure Represents (h : Heap (Node α)) (head : Option Addr) (cells : List (Addr × α)) :
    Prop where
  linked : Linked h none head cells none
  nodup : (addrs cells).Nodup
  live : ∀ a, a ∈ h ↔ a ∈ addrs cells

theorem represents_nil : Represents (∅ : Heap (Node α)) none [] :=
  ⟨rfl, List.nodup_nil, fun a => by simp⟩

theorem Represents.push_nil (hrep : Represents h none []) (a : Addr) (v : α) :
    Represents (h.insert a ⟨v, none, none⟩) (some a) [(a, v)] where
  linked := linked_singleton.mpr ⟨rfl, AList.lookup_insert _⟩
  nodup := List.nodup_singleton a
  live b := by simp [AList.mem_insert, hrep.live]

theorem Represents.push (hrep : Represents h first ((b, w) :: rest)) (ha : a ∉ h) (v : α) :
    ∃ next, h.lookup b = some ⟨w, next, none⟩ ∧
      Represents ((h.insert a ⟨v, some b, none⟩).insert b ⟨w, next, some a⟩) (some a)
        ((a, v) :: (b, w) :: rest) := by
  obtain ⟨-, next, hnode, hrest⟩ := hrep.linked
  have hfresh : a ∉ addrs ((b, w) :: rest) := fun hmem => ha ((hrep.live a).mpr hmem)
  have hne : a ≠ b := fun heq => hfresh (by simp [heq])
  have hb : b ∉ addrs rest := (List.nodup_cons.mp hrep.nodup).1
  refine ⟨next, hnode, ⟨⟨rfl, some b, ?_, rfl, next, AList.lookup_insert _, ?_⟩, ?_, ?_⟩⟩
  · rw [AList.lookup_insert_ne hne, AList.lookup_insert]
  · refine hrest.frame fun c hc => ?_
    have hcb : c ≠ b := fun heq => hb (heq ▸ hc)
    have hca : c ≠ a := fun heq => hfresh (List.mem_cons_of_mem _ (heq ▸ hc))
    rw [AList.lookup_insert_ne hcb, AList.lookup_insert_ne hca]
  · exact List.nodup_cons.mpr ⟨hfresh, hrep.nodup⟩
  · intro c
    simp only [AList.mem_insert, hrep.live, addrs_cons, List.mem_cons]
    tauto

theorem Represents.pop (hrep : Represents h first (front ++ [(b, w), (a, v)])) :
    h.lookup a = some ⟨v, none, some b⟩ ∧
    (h.erase a).lookup b = some ⟨w, some a, lastAddr none front⟩ ∧
    Represents ((h.erase a).insert b ⟨w, none, lastAddr none front⟩) first
      (front ++ [(b, w)]) := by
  have haddrs : addrs (front ++ [(b, w), (a, v)]) = addrs (front ++ [(b, w)]) ++ [a] := by simp
  have hnodup := hrep.nodup
  rw [haddrs] at hnodup
  obtain ⟨hkept, -, hdisjoint⟩ := List.nodup_append.mp hnodup
  have hgone : ∀ c ∈ addrs (front ++ [(b, w)]), c ≠ a :=
    fun c hc => hdisjoint c hc a (List.mem_singleton_self a)
  have hbefore : ∀ c ∈ addrs front, c ≠ b := by
    intro c hc
    rw [addrs_append] at hkept
    exact (List.nodup_append.mp hkept).2.2 c hc b (by simp)
  have hlast : h.lookup a = some ⟨v, none, some b⟩ := by
    have hlinked := hrep.linked
    rw [List.append_cons] at hlinked
    rw [hlinked.lookup, lastAddr_append]
    rfl
  obtain ⟨mid, hlinked, hmid, -⟩ := linked_append.mp hrep.linked
  subst hmid
  refine ⟨hlast, ?_, ?_, hkept, ?_⟩
  · rw [AList.lookup_erase_ne (hgone b (by simp))]
    exact hrep.linked.lookup
  · refine linked_append.mpr ⟨some b, ?_, linked_singleton.mpr ⟨rfl, AList.lookup_insert _⟩⟩
    refine hlinked.frame fun c hc => ?_
    rw [AList.lookup_insert_ne (hbefore c hc),
      AList.lookup_erase_ne (hgone c (by simp [hc]))]
  · intro c
    rw [AList.mem_insert, AList.mem_erase, hrep.live, haddrs]
    constructor
    · rintro (rfl | ⟨hne, hmem⟩)
      · simp
      · exact (List.mem_append.mp hmem).resolve_right fun h => hne (List.mem_singleton.mp h)
    · intro hmem
      exact .inr ⟨hgone c hmem, List.mem_append_left _ hmem⟩

-- ---------------------------------------------------------------------------
-- Loops along a list
-- ---------------------------------------------------------------------------

def freeNode (h : Heap (Node α)) (a : Addr) : Option (Heap (Node α) × Option Addr) := do
  let node ← h.lookup a
  let h ← free h a
  return (h, node.next)

def visitNode (h : Heap (Node α)) (visited : List Addr) (a : Addr) :
    Option (List Addr × Option Addr) := do
  let node ← h.lookup a
  return (visited ++ [a], node.next)

/-- The addresses that `next` leads to, the given one first. -/
def visits (h : Heap (Node α)) (first : Option Addr) : Option (List Addr) :=
  whilePtr (visitNode h) h.keys.length [] first

theorem Linked.whilePtr_foldl {σ : Type} {body : σ → Addr → Option (σ × Option Addr)}
    {round : σ → Addr → σ} {fuel : Nat} (hlinked : Linked h before first cells none)
    (hbody : ∀ s a node, h.lookup a = some node → body s a = some (round s a, node.next))
    (hfuel : cells.length ≤ fuel) (s : σ) :
    whilePtr body fuel s first = some ((addrs cells).foldl round s) := by
  induction cells generalizing before first fuel s with
  | nil =>
    cases hlinked
    exact whilePtr_none fuel
  | cons c rest ih =>
    obtain ⟨rfl, next, hnode, hrest⟩ := hlinked
    cases fuel with
    | zero => cases hfuel
    | succ fuel =>
      rw [whilePtr_some (hbody s c.1 _ hnode)]
      exact ih hrest (Nat.le_of_succ_le_succ hfuel) (round s c.1)

theorem Represents.length_le (hrep : Represents h first cells) :
    cells.length ≤ h.keys.length := by
  have hle := length_le_keys hrep.nodup fun a ha => (hrep.live a).mpr ha
  rwa [addrs, List.length_map] at hle

theorem Represents.visits_eq (hrep : Represents h first cells) :
    visits h first = some (addrs cells) := by
  have hround : ∀ (visited : List Addr) (a : Addr) (node : Node α), h.lookup a = some node →
      visitNode h visited a = some (visited ++ [a], node.next) := by
    intro visited a node hnode
    simp [visitNode, hnode]
  have hfold : ∀ (as visited : List Addr),
      as.foldl (fun visited a => visited ++ [a]) visited = visited ++ as := by
    intro as
    induction as with
    | nil => simp
    | cons a as ih => simp [ih]
  unfold visits
  rw [hrep.linked.whilePtr_foldl hround hrep.length_le, hfold, List.nil_append]

theorem Linked.whilePtr_free {fuel : Nat} (hlinked : Linked h before first cells none)
    (hnodup : (addrs cells).Nodup) (hlive : ∀ a, a ∈ h ↔ a ∈ addrs cells)
    (hfuel : cells.length ≤ fuel) :
    ∃ h', whilePtr freeNode fuel h first = some h' ∧ ∀ a, a ∉ h' := by
  induction cells generalizing h before first fuel with
  | nil =>
    cases hlinked
    exact ⟨h, whilePtr_none fuel, fun a ha => by simpa using (hlive a).mp ha⟩
  | cons c rest ih =>
    obtain ⟨rfl, next, hnode, hrest⟩ := hlinked
    obtain ⟨hc, hnodup⟩ := List.nodup_cons.mp hnodup
    have hrest' : Linked (h.erase c.1) (some c.1) next rest none := by
      refine hrest.frame fun a ha => AList.lookup_erase_ne ?_
      rintro rfl
      exact hc ha
    have hlive' : ∀ a, a ∈ h.erase c.1 ↔ a ∈ addrs rest := by
      intro a
      rw [AList.mem_erase, hlive, addrs_cons, List.mem_cons]
      constructor
      · rintro ⟨hne, hmem⟩
        exact hmem.resolve_left hne
      · intro hmem
        exact ⟨fun heq => hc (heq ▸ hmem), .inr hmem⟩
    cases fuel with
    | zero => cases hfuel
    | succ fuel =>
      have hbody : freeNode h c.1 = some (h.erase c.1, next) := by
        simp [freeNode, hnode, free_of_mem (mem_of_lookup hnode)]
      rw [whilePtr_some hbody]
      exact ih hrest' hnodup hlive' (Nat.le_of_succ_le_succ hfuel)

theorem Represents.whilePtr_free (hrep : Represents h first cells) :
    ∃ h', whilePtr freeNode h.keys.length h first = some h' ∧ Represents h' none [] := by
  obtain ⟨h', hloop, hgone⟩ :=
    hrep.linked.whilePtr_free hrep.nodup hrep.live hrep.length_le
  exact ⟨h', hloop, rfl, List.nodup_nil, fun a => by simp [hgone a]⟩

end

end DoublyLinked
