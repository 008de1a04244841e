import Mathlib
import WfPublisher.CJson.Tree
import WfPublisher.Lib.Forest

/-!
# Items in memory

The items as the blocks they are, and the functions that free and copy them.
`cJSON_Delete` frees a tree once and nothing else. `cJSON_Duplicate` builds a tree
of its own, or leaves the memory as it was if an allocation is refused.
-/

namespace WfPublisher.CJsonMemory

open Memory
open Forest (Node Laid)

-- ---------------------------------------------------------------------------
-- Items
-- ---------------------------------------------------------------------------

/-- The type of an item; the flags for references and constant names are never set. -/
inductive ItemType
  | invalid | false | true | null | number | string | array | object
  deriving DecidableEq

/-- `struct cJSON` without its pointers to other items. -/
structure Fields (K : Type) where
  type : ItemType
  valuestring : Option Addr
  valueint : Int
  valuedouble : K
  string : Option Addr

inductive Block (K : Type)
  | item (cell : Node (Fields K))
  | text (string : CString)

def Fields.texts {K : Type} (v : Fields K) : List Addr := v.valuestring.toList ++ v.string.toList

section
variable {K : Type}

def readItem (h : Heap (Block K)) (item : Addr) : Option (Node (Fields K)) :=
  match h.lookup item with
  | some (.item cell) => some cell
  | _ => none

def writeItem (h : Heap (Block K)) (item : Addr) (cell : Node (Fields K)) :
    Option (Heap (Block K)) :=
  store h item (.item cell)

-- ---------------------------------------------------------------------------
-- `cJSON_Delete`
-- ---------------------------------------------------------------------------

def deallocate (h : Heap (Block K)) : Option Addr → Option (Heap (Block K))
  | none => some h
  | some a => free h a

/-- Each round, and each call inside one, is for another item. -/
def delete : ℕ → Option Addr → Heap (Block K) → Option (Heap (Block K))
  | _, none, h => some h
  | 0, some _, _ => none
  | fuel + 1, some item, h => do
    let cell ← readItem h item
    let h ← delete fuel cell.child h
    let h ← deallocate h cell.value.valuestring
    let h ← deallocate h cell.value.string
    let h ← free h item
    delete fuel cell.next h

def cJSONDelete (item : Option Addr) (h : Heap (Block K)) : Option (Heap (Block K)) :=
  delete h.keys.length item h

-- ---------------------------------------------------------------------------
-- `cJSON_Duplicate`
-- ---------------------------------------------------------------------------

section
variable [Zero K] (m : Allocator (Block K))

def newItem (h : Heap (Block K)) : Option (Addr × Heap (Block K)) :=
  m.alloc h (.item ⟨⟨.invalid, none, 0, 0, none⟩, none, none, none⟩)

/-- `none` inside is the null pointer of a refused allocation. -/
def strdup (h : Heap (Block K)) (string : Addr) : Option (Option Addr × Heap (Block K)) :=
  match h.lookup string with
  | some (.text s) =>
    match m.alloc h (.text s) with
    | none => some (none, h)
    | some (copy, h) => some (some copy, h)
  | _ => none

/-- A string that may be null is copied to one of the fields: false if its copy is
null and it is not. -/
def copyString (newitem : Addr) (set : Fields K → Option Addr → Fields K)
    (string : Option Addr) (h : Heap (Block K)) : Option (Bool × Heap (Block K)) :=
  match string with
  | none => some (true, h)
  | some string => do
    let (copy, h) ← strdup m h string
    let cell ← readItem h newitem
    let h ← writeItem h newitem { cell with value := set cell.value copy }
    return (copy.isSome, h)

def copyFields (newitem : Addr) (item : Fields K) (h : Heap (Block K)) :
    Option (Bool × Heap (Block K)) := do
  let cell ← readItem h newitem
  let h ← writeItem h newitem { cell with value := { cell.value with
    type := item.type, valueint := item.valueint, valuedouble := item.valuedouble } }
  let (ok, h) ← copyString m newitem (fun v copy => { v with valuestring := copy })
    item.valuestring h
  if !ok then return (false, h)
  copyString m newitem (fun v copy => { v with string := copy }) item.string h

def link (last newchild : Addr) (h : Heap (Block K)) : Option (Heap (Block K)) := do
  let cell ← readItem h last
  let h ← writeItem h last { cell with next := some newchild }
  let cell ← readItem h newchild
  writeItem h newchild { cell with prev := some last }

def attach (item : Addr) (last : Option Addr) (newchild : Addr) (h : Heap (Block K)) :
    Option (Heap (Block K)) :=
  match last with
  | some last => link last newchild h
  | none => do
    let cell ← readItem h item
    writeItem h item { cell with child := some newchild }

mutual

/-- `cJSON_Duplicate(item, 1)` of an item that is not null; `none` inside is null. -/
def duplicate : ℕ → Addr → Heap (Block K) → Option (Option Addr × Heap (Block K))
  | 0, _, _ => none
  | fuel + 1, item, h => do
    let cell ← readItem h item
    match newItem m h with
    | none => return (none, h)
    | some (newitem, h) =>
      let (ok, h) ← copyFields m newitem cell.value h
      if !ok then return (none, ← cJSONDelete (some newitem) h)
      let (ok, h) ← duplicateChildren fuel newitem none cell.child h
      if !ok then return (none, ← cJSONDelete (some newitem) h)
      return (some newitem, h)

def duplicateChildren : ℕ → Addr → Option Addr → Option Addr → Heap (Block K) →
    Option (Bool × Heap (Block K))
  | _, _, _, none, h => some (true, h)
  | 0, _, _, some _, _ => none
  | fuel + 1, newitem, last, some child, h => do
    let (newchild, h) ← duplicate fuel child h
    match newchild with
    | none => return (false, h)
    | some newchild =>
      let h ← attach newitem last newchild h
      let cell ← readItem h child
      duplicateChildren fuel newitem (some newchild) cell.next h

end

def cJSONDuplicate (item : Option Addr) (h : Heap (Block K)) :
    Option (Option Addr × Heap (Block K)) :=
  match item with
  | none => some (none, h)
  | some item => duplicate m (2 * h.keys.length) item h

end

-- ---------------------------------------------------------------------------
-- What is freed
-- ---------------------------------------------------------------------------

section
variable {h h' : Heap (Block K)} {before first : Option Addr}

theorem cJSONDelete_none : cJSONDelete none h = some h := by
  rw [cJSONDelete, delete.eq_def]

theorem readItem_of {a : Addr} {cell : Node (Fields K)} (hcell : h.lookup a = some (.item cell)) :
    readItem h a = some cell := by
  rw [readItem, hcell]

theorem deallocate_frees {p : Option Addr} (hmem : ∀ a ∈ p.toList, a ∈ h) :
    ∃ h', deallocate h p = some h' ∧ Frees p.toList h h' := by
  cases p with
  | none => exact ⟨h, rfl, Frees.refl h⟩
  | some a => exact free_frees (hmem a (List.mem_singleton_self a))

theorem delete_frees (f : Forest (Fields K)) {fuel : ℕ}
    (hlaid : Laid Block.item h before first f none) (hmem : ∀ a ∈ f.owned Fields.texts, a ∈ h)
    (hnodup : (f.owned Fields.texts).Nodup) (hfuel : f.size ≤ fuel) :
    ∃ h', delete fuel first h = some h' ∧ Frees (f.owned Fields.texts) h h' := by
  induction f generalizing fuel h before first with
  | nil =>
    obtain rfl : first = none := hlaid
    exact ⟨h, by cases fuel <;> rfl, Frees.refl h⟩
  | node a v child next ihchild ihnext =>
    obtain ⟨rfl, nextAddr, childAddr, hcell, hchild, hnext⟩ := hlaid
    simp only [Forest.owned, Fields.texts, List.nodup_cons, List.nodup_append, List.mem_cons,
      List.mem_append] at hmem hnodup
    obtain ⟨fuel, rfl⟩ : ∃ n, fuel = n + 1 := ⟨fuel - 1, by simp only [Forest.size] at hfuel; omega⟩
    simp only [Forest.size] at hfuel
    obtain ⟨h₁, hdelete, hfrees₁⟩ := ihchild hchild (by grind) (by grind)
      (show child.size ≤ fuel by omega)
    obtain ⟨h₂, hvaluestring, hfrees₂⟩ := deallocate_frees (h := h₁) (p := v.valuestring)
      fun b hb => hfrees₁.changes.mem (by grind) (by grind)
    obtain ⟨h₃, hstring, hfrees₃⟩ := deallocate_frees (h := h₂) (p := v.string)
      fun b hb => hfrees₂.changes.mem (by grind) (hfrees₁.changes.mem (by grind) (by grind))
    have hfrees : Frees _ h h₃ := (hfrees₁.trans hfrees₂).trans hfrees₃
    obtain ⟨h₄, hitem, hfrees₄⟩ := free_frees (h := h₃) (a := a)
      (hfrees.changes.mem (by grind) (by grind))
    replace hfrees := hfrees.trans hfrees₄
    obtain ⟨h₅, hrest, hfrees₅⟩ := ihnext (hnext.frame
      fun b (hb : b ∈ next.owned Fields.texts) => hfrees.changes b (by grind))
      (fun b hb => hfrees.changes.mem (by grind) (by grind)) (by grind)
      (show next.size ≤ fuel by omega)
    refine ⟨h₅, ?_, (hfrees.trans hfrees₅).congr fun b => ?_⟩
    · simp [delete, readItem_of hcell, hdelete, hvaluestring, hstring, hitem, hrest]
    · simp only [Forest.owned, Fields.texts, List.mem_cons, List.mem_append]
      grind

end

-- ---------------------------------------------------------------------------
-- New chains
-- ---------------------------------------------------------------------------

/-- Items next to each other, with all they own, that were not there before. -/
structure Fresh (h h' : Heap (Block K)) (first : Option Addr) (f : Forest (Fields K)) : Prop where
  grows : Grows h (f.owned Fields.texts) h'
  laid : Laid Block.item h' none first f none

def KeepsTexts (h h' : Heap (Block K)) : Prop :=
  ∀ a s, h.lookup a = some (.text s) → h'.lookup a = some (.text s)

section
variable {h₀ h h₁ h' : Heap (Block K)} {first : Option Addr}
  {f front child grand : Forest (Fields K)} {a b : Addr} {v v' w : Fields K}

theorem KeepsTexts.trans (hkeeps : KeepsTexts h h₁) (hkeeps' : KeepsTexts h₁ h') :
    KeepsTexts h h' :=
  fun a s hs => hkeeps' a s (hkeeps a s hs)

theorem keepsTexts_of_extends (hext : Extends h h') : KeepsTexts h h' :=
  fun _ _ hs => hext.lookup hs

theorem keepsTexts_insert {cell cell' : Node (Fields K)} (hcell : h.lookup a = some (.item cell)) :
    KeepsTexts h (h.insert a (.item cell')) := by
  intro c s hs
  rw [AList.lookup_insert_ne, hs]
  rintro rfl
  rw [hcell] at hs
  cases hs

theorem writeItem_of {cell cell' : Node (Fields K)} (hcell : h.lookup a = some (.item cell)) :
    writeItem h a cell' = some (h.insert a (.item cell')) :=
  store_of_lookup hcell

theorem Fresh.same (hfresh : Fresh h₀ h first f) (hsame : Changes [] h h') :
    Fresh h₀ h' first f where
  grows := hfresh.grows.write (hsame.mono (List.nil_subset _)) fun a => by
    rw [← AList.lookup_isSome, hsame a List.not_mem_nil, AList.lookup_isSome]
  laid := hfresh.laid.frame fun a (_ : a ∈ f.owned Fields.texts) => hsame a List.not_mem_nil

theorem Fresh.delete (hfresh : Fresh h h' first f) :
    ∃ h₁, cJSONDelete first h' = some h₁ ∧ Changes [] h h₁ := by
  have hmem : ∀ a ∈ f.owned Fields.texts, a ∈ h' := fun a ha => (hfresh.grows.mem a).mpr (.inr ha)
  obtain ⟨h₁, hdelete, hfrees⟩ := delete_frees f hfresh.laid hmem hfresh.grows.nodup
    ((Forest.size_le_owned f).trans (length_le_keys hfresh.grows.nodup hmem))
  exact ⟨h₁, hdelete, hfresh.grows.free hfrees fun _ => Iff.rfl⟩

theorem Fresh.extend (hfresh : Fresh h₀ h first f) (hext : Extends h h₁) :
    Laid Block.item h₁ none first f none :=
  hfresh.laid.frame fun a ha => hext a ((hfresh.grows.mem a).mpr (.inr ha))

theorem Fresh.delete_under {more : List Addr} (hfresh : Fresh h₀ h first f)
    (hgrows : Grows h more h') :
    ∃ h₁, cJSONDelete first h' = some h₁ ∧ Frees (f.owned Fields.texts) h' h₁ := by
  have hmem : ∀ a ∈ f.owned Fields.texts, a ∈ h' := fun a ha =>
    hgrows.same.mem ((hfresh.grows.mem a).mpr (.inr ha))
  exact delete_frees f (hfresh.extend hgrows.same) hmem hfresh.grows.nodup
    ((Forest.size_le_owned f).trans (length_le_keys hfresh.grows.nodup hmem))

theorem Fresh.fill {childAddr : Option Addr} {more : List Addr}
    (hfresh : Fresh h₀ h first (front.append (.node a v .nil .nil)))
    (hgrows : Grows (h.insert a (.item ⟨v', none, front.last none, childAddr⟩)) more h')
    (hchild : Laid Block.item h' none childAddr child none)
    (hperm : (v.texts ++ more).Perm (v'.texts ++ child.owned Fields.texts)) :
    Fresh h₀ h' first (front.append (.node a v' child .nil)) := by
  obtain ⟨_, hfront, hnode, _⟩ := Forest.laid_snoc.mp hfresh.laid
  have ha := mem_of_lookup hnode
  have hnodup := hfresh.grows.nodup
  simp only [Forest.owned_append, Forest.owned, List.append_nil, List.nodup_append, List.nodup_cons,
    List.mem_cons] at hnodup
  have hsame : ∀ c ∈ front.owned Fields.texts, h'.lookup c = h.lookup c := fun c hc => by
    have hmem : c ∈ h := (hfresh.grows.mem c).mpr
      (.inr (by rw [Forest.owned_append]; exact List.mem_append_left _ hc))
    rw [hgrows.same c ((AList.mem_insert _).mpr (.inr hmem)), AList.lookup_insert_ne (by grind)]
  refine ⟨?_, Forest.laid_snoc.mpr ⟨childAddr, hfront.frame hsame, ?_, hchild⟩⟩
  · have hwrite : Grows h₀ _ (h.insert a (.item ⟨v', none, front.last none, childAddr⟩)) :=
      hfresh.grows.write (changes_insert.mono (by simp [Forest.owned]))
        fun c => mem_insert_of_mem ha
    refine (hwrite.trans hgrows).perm ?_
    simp only [Forest.owned_append, Forest.owned, List.append_nil, List.append_assoc,
      List.cons_append]
    exact (hperm.cons a).append_left _
  · rw [hgrows.same a ((AList.mem_insert _).mpr (.inl rfl)), AList.lookup_insert]

theorem Fresh.set {childAddr : Option Addr} {more : List Addr}
    (hfresh : Fresh h₀ h (some a) (.node a v .nil .nil))
    (hgrows : Grows (h.insert a (.item ⟨v', none, none, childAddr⟩)) more h')
    (hchild : Laid Block.item h' none childAddr child none)
    (hperm : (v.texts ++ more).Perm (v'.texts ++ child.owned Fields.texts)) :
    Fresh h₀ h' (some a) (.node a v' child .nil) :=
  have hfresh' : Fresh h₀ h (some a) (Forest.nil.append (.node a v .nil .nil)) := hfresh
  hfresh'.fill hgrows hchild hperm

theorem link_laid (hlaid : Laid Block.item h none first (front.append (.node a v child .nil)) none)
    (hnew : Laid Block.item h none (some b) (.node b w grand .nil) none)
    (hnodup : (Forest.owned Fields.texts
      ((front.append (.node a v child .nil)).append (.node b w grand .nil))).Nodup) :
    ∃ h', link a b h = some h' ∧ KeepsTexts h h' ∧ Changes [a, b] h h' ∧ (∀ c, c ∈ h' ↔ c ∈ h) ∧
      Laid Block.item h' none first
        ((front.append (.node a v child .nil)).append (.node b w grand .nil)) none := by
  obtain ⟨childAddr, grandAddr, ha, hb, hlinked⟩ := hlaid.link hnew hnodup
  have hab : b ≠ a := by
    simp only [Forest.owned_append, Forest.owned, List.append_nil, List.nodup_append,
      List.mem_append, List.mem_cons] at hnodup
    grind
  have hb' : (h.insert a (.item ⟨v, some b, front.last none, childAddr⟩)).lookup b =
      some (.item ⟨w, none, none, grandAddr⟩) := by
    rw [AList.lookup_insert_ne hab, hb]
  refine ⟨_, ?_, (keepsTexts_insert ha).trans (keepsTexts_insert hb'), ?_, fun c => ?_, hlinked⟩
  · simp only [link, readItem_of ha, writeItem_of ha, readItem_of hb', writeItem_of hb',
      Option.bind_eq_bind, Option.bind_some]
  · exact (changes_insert.mono (by simp)).trans (changes_insert.mono (by simp))
  · rw [mem_insert_of_mem (mem_of_lookup hb'), mem_insert_of_mem (mem_of_lookup ha)]

theorem Fresh.linked (hfresh : Fresh h₀ h first (front.append (.node a v child .nil)))
    (hnew : Fresh h h₁ (some b) (.node b w grand .nil)) :
    ∃ h', link a b h₁ = some h' ∧ KeepsTexts h₁ h' ∧
      Fresh h₀ h' first ((front.append (.node a v child .nil)).append (.node b w grand .nil)) := by
  have hgrows := hfresh.grows.trans hnew.grows
  rw [← Forest.owned_append] at hgrows
  obtain ⟨h', hlink, hkeeps, hchanges, hmem, hlaid⟩ :=
    link_laid (hfresh.extend hnew.grows.same) hnew.laid hgrows.nodup
  exact ⟨h', hlink, hkeeps, hgrows.write (hchanges.mono (by simp [Forest.owned])) hmem, hlaid⟩

theorem attach_fresh {item : Addr} (hgrows : Grows h₀ (Forest.owned Fields.texts
      (.node item v front .nil) ++ Forest.owned Fields.texts (.node b w grand .nil)) h₁)
    (hlaid : Laid Block.item h₁ none (some item) (.node item v front .nil) none)
    (hnew : Laid Block.item h₁ none (some b) (.node b w grand .nil) none) :
    ∃ h', attach item (front.last none) b h₁ = some h' ∧ KeepsTexts h₁ h' ∧
      Fresh h₀ h' (some item) (.node item v (front.append (.node b w grand .nil)) .nil) := by
  obtain ⟨-, _, childAddr, hitem, hfront, rfl⟩ := hlaid
  have hnodup := hgrows.nodup
  simp only [Forest.owned, List.append_nil, List.cons_append, List.append_assoc, List.nodup_cons,
    List.nodup_append, List.mem_cons, List.mem_append] at hnodup
  have hperm : (Forest.owned Fields.texts (.node item v front .nil) ++
      Forest.owned Fields.texts (.node b w grand .nil)).Perm
      (Forest.owned Fields.texts (.node item v (front.append (.node b w grand .nil)) .nil)) := by
    simp [Forest.owned]
  obtain rfl | ⟨most, a, u, leaf, rfl⟩ := Forest.eq_nil_or_snoc front
  · obtain rfl : childAddr = none := hfront
    refine ⟨_, by simp [attach, Forest.last, readItem_of hitem, writeItem_of hitem],
      keepsTexts_insert hitem,
      (hgrows.write (changes_insert.mono (by simp [Forest.owned]))
        fun c => mem_insert_of_mem (mem_of_lookup hitem)).perm hperm,
      rfl, none, some b, AList.lookup_insert _, ?_, rfl⟩
    refine hnew.frame fun c (hc : c ∈ Forest.owned Fields.texts (.node b w grand .nil)) =>
      AList.lookup_insert_ne ?_
    rintro rfl
    simp only [Forest.owned, List.mem_cons, List.mem_append] at hc
    grind
  · obtain ⟨h', hlink, hkeeps, hchanges, hmem, hlaid⟩ := link_laid hfront hnew (by
      simp only [Forest.owned_append, Forest.owned, List.append_nil, List.nodup_append,
        List.nodup_cons, List.mem_append, List.mem_cons] at hnodup ⊢
      grind)
    refine ⟨h', by simpa [attach, Forest.last] using hlink, hkeeps,
      (hgrows.write (hchanges.mono (by simp [Forest.owned])) hmem).perm hperm,
      rfl, none, childAddr, ?_, hlaid, rfl⟩
    rw [hchanges item, hitem]
    simp only [Forest.owned_append, Forest.owned, List.append_nil, List.mem_append,
      List.mem_cons] at hnodup
    simp only [List.mem_cons, List.not_mem_nil]
    grind

theorem Fresh.attached {item : Addr} (hfresh : Fresh h₀ h (some item) (.node item v front .nil))
    (hnew : Fresh h h₁ (some b) (.node b w grand .nil)) :
    ∃ h', attach item (front.last none) b h₁ = some h' ∧ KeepsTexts h₁ h' ∧
      Fresh h₀ h' (some item) (.node item v (front.append (.node b w grand .nil)) .nil) :=
  attach_fresh (hfresh.grows.trans hnew.grows) (hfresh.extend hnew.grows.same) hnew.laid

end

-- ---------------------------------------------------------------------------
-- What items show
-- ---------------------------------------------------------------------------

def TextAt (h : Heap (Block K)) : Option Addr → Option CString → Prop
  | none, string => string = none
  | some a, string => ∃ s, string = some s ∧ h.lookup a = some (.text s)

section
variable {h h' : Heap (Block K)} {p : Option Addr} {string : Option CString}

theorem TextAt.frame (htext : TextAt h p string)
    (hkeeps : ∀ a ∈ p.toList, ∀ s, h.lookup a = some (.text s) → h'.lookup a = some (.text s)) :
    TextAt h' p string := by
  cases p with
  | none => exact htext
  | some a =>
    obtain ⟨s, rfl, hs⟩ := htext
    exact ⟨s, rfl, hkeeps a (List.mem_singleton_self a) s hs⟩

theorem TextAt.mem (htext : TextAt h p string) : ∀ a ∈ p.toList, a ∈ h := by
  intro a ha
  obtain rfl := Option.mem_toList.mp ha
  obtain ⟨s, -, hs⟩ := htext
  exact mem_of_lookup hs

end

section
variable {m : Allocator (Block K)} {h₀ h : Heap (Block K)} {newitem : Addr} {v : Fields K}
  {string : Option CString}

theorem newItem_fresh [Zero K] {h₁ : Heap (Block K)} (halloc : newItem m h = some (newitem, h₁)) :
    Fresh h h₁ (some newitem) (.node newitem ⟨.invalid, none, 0, 0, none⟩ .nil .nil) := by
  obtain ⟨hgrows, hcell⟩ := alloc_grows halloc
  exact ⟨hgrows, rfl, none, none, hcell, rfl, rfl⟩

theorem not_total {b : Block K} (halloc : m.alloc h b = none) : ¬ m.Total :=
  fun htotal => htotal h (Option.map_eq_none_iff.mp halloc)

theorem copyString_spec {p : Option Addr} (set : Fields K → Option Addr → Fields K)
    (hset : set v none = v) (htexts : ∀ copy, (set v (some copy)).texts.Perm (v.texts ++ [copy]))
    (hfresh : Fresh h₀ h (some newitem) (.node newitem v .nil .nil)) (hp : TextAt h₀ p string) :
    ∃ ok h' copy, copyString m newitem set p h = some (ok, h') ∧ KeepsTexts h h' ∧
      Fresh h₀ h' (some newitem) (.node newitem (set v copy) .nil .nil) ∧
      (ok = true → TextAt h' copy string) ∧ (m.Total → ok = true) := by
  cases p with
  | none =>
    obtain rfl : string = none := hp
    exact ⟨true, h, none, rfl, fun _ _ hs => hs, by rwa [hset], fun _ => rfl, fun _ => rfl⟩
  | some a =>
    obtain ⟨s, rfl, hs⟩ := hp
    replace hs := hfresh.grows.same.lookup hs
    obtain ⟨-, _, _, hcell, rfl, rfl⟩ := hfresh.laid
    cases halloc : m.alloc h (.text s) with
    | none =>
      refine ⟨false, h.insert newitem (.item ⟨set v none, none, none, none⟩), none, ?_,
        keepsTexts_insert hcell, ?_, by simp,
        fun htotal => absurd htotal (not_total halloc)⟩
      · simp [copyString, strdup, hs, halloc, readItem_of hcell, writeItem_of hcell]
      · refine hfresh.set (Grows.refl _) rfl ?_
        rw [hset]
        simp [Forest.owned]
    | some r =>
      obtain ⟨copy, h₁⟩ := r
      obtain ⟨hgrows, hcopy⟩ := alloc_grows halloc
      have hcell' := hgrows.same.lookup hcell
      refine ⟨true, h₁.insert newitem (.item ⟨set v (some copy), none, none, none⟩), some copy, ?_,
        (keepsTexts_of_extends hgrows.same).trans
        (keepsTexts_insert hcell'), ?_, fun _ => ⟨s, rfl, keepsTexts_insert hcell' _ _ hcopy⟩, ?_⟩
      · simp [copyString, strdup, hs, halloc, readItem_of hcell', writeItem_of hcell']
      · refine hfresh.set (hgrows.insert (mem_of_lookup hcell)) rfl ?_
        simpa [Forest.owned] using (htexts copy).symm
      · exact fun _ => rfl

end

def typeOf : CJson K → ItemType
  | .null => .null
  | .bool false => .false
  | .bool true => .true
  | .number _ => .number
  | .string _ => .string
  | .array _ => .array
  | .object _ => .object

section
variable [Field K] [LinearOrder K] [FloorRing K]

structure FieldsShow (h : Heap (Block K)) (v : Fields K) (name : Option CString) (item : CJson K) :
    Prop where
  type : v.type = typeOf item
  valuestring : TextAt h v.valuestring item.valuestring
  valueint : v.valueint = item.valueint
  valuedouble : v.valuedouble = item.valuedouble
  string : TextAt h v.string name

def Shows (h : Heap (Block K)) : Forest (Fields K) → List (Option CString × CJson K) → Prop
  | .nil, shown => shown = []
  | .node _ v child next, shown => ∃ name item rest, shown = (name, item) :: rest ∧
    FieldsShow h v name item ∧ Shows h child item.child ∧ Shows h next rest

/-- A chain of items in memory, and what they are. -/
structure Held (h : Heap (Block K)) (first : Option Addr) (f : Forest (Fields K))
    (shown : List (Option CString × CJson K)) : Prop where
  laid : Laid Block.item h none first f none
  shows : Shows h f shown
  nodup : (f.owned Fields.texts).Nodup

section
variable {h h' : Heap (Block K)} {before first : Option Addr} {f g : Forest (Fields K)}
  {shown shown' : List (Option CString × CJson K)} {v : Fields K} {name : Option CString}
  {item : CJson K}

theorem FieldsShow.frame (hshow : FieldsShow h v name item)
    (hkeeps : ∀ a ∈ v.texts, ∀ s, h.lookup a = some (.text s) → h'.lookup a = some (.text s)) :
    FieldsShow h' v name item where
  type := hshow.type
  valuestring := hshow.valuestring.frame fun a ha => hkeeps a (List.mem_append_left _ ha)
  valueint := hshow.valueint
  valuedouble := hshow.valuedouble
  string := hshow.string.frame fun a ha => hkeeps a (List.mem_append_right _ ha)

theorem Shows.frame (hshows : Shows h f shown) (hkeeps : ∀ a ∈ f.owned Fields.texts, ∀ s,
    h.lookup a = some (.text s) → h'.lookup a = some (.text s)) : Shows h' f shown := by
  induction f generalizing shown with
  | nil => exact hshows
  | node a v child next ihchild ihnext =>
    obtain ⟨name, item, rest, rfl, hfields, hchild, hnext⟩ := hshows
    simp only [Forest.owned, List.forall_mem_cons, List.forall_mem_append] at hkeeps
    obtain ⟨-, hv, hchild', hnext'⟩ := hkeeps
    exact ⟨name, item, rest, rfl, hfields.frame hv, ihchild hchild hchild', ihnext hnext hnext'⟩

theorem Shows.append (hf : Shows h f shown) (hg : Shows h g shown') :
    Shows h (f.append g) (shown ++ shown') := by
  induction f generalizing shown with
  | nil =>
    obtain rfl : shown = [] := hf
    exact hg
  | node a v child next _ ih =>
    obtain ⟨name, item, rest, rfl, hfields, hchild, hnext⟩ := hf
    exact ⟨name, item, rest ++ shown', rfl, hfields, hchild, ih hnext⟩

theorem Shows.mem (hlaid : Laid Block.item h before first f none) (hshows : Shows h f shown) :
    ∀ a ∈ f.owned Fields.texts, a ∈ h := by
  induction f generalizing before first shown with
  | nil => exact List.forall_mem_nil _
  | node a v child next ihchild ihnext =>
    obtain ⟨rfl, nextAddr, childAddr, hcell, hchild, hnext⟩ := hlaid
    obtain ⟨name, item, rest, rfl, hfields, hchild', hnext'⟩ := hshows
    simp only [Forest.owned, Fields.texts, List.forall_mem_cons, List.forall_mem_append]
    exact ⟨mem_of_lookup hcell, ⟨hfields.valuestring.mem, hfields.string.mem⟩,
      ihchild hchild hchild', ihnext hnext hnext'⟩

theorem Fresh.replace {h₀ h₁ h₂ : Heap (Block K)} {first' : Option Addr}
    (hfresh : Fresh h₀ h₁ first f) (hfresh' : Fresh h₁ h₂ first' g) (hshows : Shows h₂ g shown) :
    ∃ h₃, cJSONDelete first h₂ = some h₃ ∧ Fresh h₀ h₃ first' g ∧ Shows h₃ g shown := by
  obtain ⟨h₃, hdelete, hfrees⟩ := hfresh.delete_under hfresh'.grows
  have hsame : ∀ a ∈ g.owned Fields.texts, h₃.lookup a = h₂.lookup a := fun a ha =>
    hfrees.changes a fun hold =>
      hfresh'.grows.apart a ha ((hfresh.grows.mem a).mpr (.inr hold))
  refine ⟨h₃, hdelete, ⟨hfresh.grows.free_first hfresh'.grows hfrees,
    hfresh'.laid.frame hsame⟩, hshows.frame fun a ha s hs => ?_⟩
  rw [hsame a ha, hs]

/-- The object `{"a":"hi","b":7}` in six blocks. -/
def twoMembers : Heap (Block ℚ) :=
  AList.insert 1 (.item ⟨⟨.object, none, 0, 0, none⟩, none, none, some 2⟩) <|
  AList.insert 2 (.item ⟨⟨.string, some 4, 0, 0, some 3⟩, some 5, none, none⟩) <|
  AList.insert 3 (.text "a".toList) <| AList.insert 4 (.text "hi".toList) <|
  AList.insert 5 (.item ⟨⟨.number, none, 7, 7, some 6⟩, none, some 2, none⟩) <|
  AList.insert 6 (.text "b".toList) ∅

def twoMembersItem : CJson ℚ :=
  .object [("a".toList, .string "hi".toList), ("b".toList, .number 7)]

theorem twoMembers_held : Held twoMembers (some 1) (.node 1 ⟨.object, none, 0, 0, none⟩
    (.node 2 ⟨.string, some 4, 0, 0, some 3⟩ .nil
      (.node 5 ⟨.number, none, 7, 7, some 6⟩ .nil .nil)) .nil) [(none, twoMembersItem)] := by
  have hstring : FieldsShow twoMembers ⟨.string, some 4, 0, 0, some 3⟩ (some "a".toList)
      (.string "hi".toList) := ⟨rfl, ⟨_, rfl, rfl⟩, rfl, rfl, _, rfl, rfl⟩
  have hnumber : FieldsShow twoMembers ⟨.number, none, 7, 7, some 6⟩ (some "b".toList)
      (.number 7) := ⟨rfl, rfl, (CJson.toInt_intCast (n := 7) (by decide)).symm, rfl, _, rfl, rfl⟩
  refine ⟨⟨rfl, none, some 2, rfl, ⟨rfl, some 5, none, rfl, rfl, rfl, none, none, rfl, rfl, rfl⟩,
    rfl⟩, ⟨none, _, [], rfl, ⟨rfl, rfl, rfl, rfl, rfl⟩, ?_, rfl⟩, by decide⟩
  exact ⟨_, _, _, rfl, hstring, rfl, _, _, _, rfl, hnumber, rfl, rfl⟩

theorem Held.mem (hheld : Held h first f shown) : ∀ a ∈ f.owned Fields.texts, a ∈ h :=
  hheld.shows.mem hheld.laid

theorem Held.size_le (hheld : Held h first f shown) : f.size ≤ h.keys.length :=
  (Forest.size_le_owned f).trans (length_le_keys hheld.nodup hheld.mem)

/-- `cJSON_Delete` frees the items and their strings, each block once, and no other. -/
theorem delete_frees_once (hheld : Held h first f shown) :
    ∃ h', cJSONDelete first h = some h' ∧ (∀ a ∈ f.owned Fields.texts, a ∉ h') ∧
      ∀ a ∉ f.owned Fields.texts, h'.lookup a = h.lookup a := by
  obtain ⟨h', hdelete, hfrees⟩ := delete_frees f hheld.laid hheld.mem hheld.nodup hheld.size_le
  exact ⟨h', hdelete, hfrees.erased, hfrees.changes⟩

theorem delete_frees_once_members : ∃ h', cJSONDelete (some 1) twoMembers = some h' ∧
    (∀ a ∈ [1, 2, 4, 3, 5, 6], a ∉ h') ∧
    ∀ a ∉ [1, 2, 4, 3, 5, 6], h'.lookup a = twoMembers.lookup a :=
  delete_frees_once twoMembers_held

end

-- ---------------------------------------------------------------------------
-- Copies
-- ---------------------------------------------------------------------------

section
variable {m : Allocator (Block K)} {h₀ h h' : Heap (Block K)} {first : Option Addr}
  {newitem : Addr} {v w : Fields K} {name string : Option CString} {item : CJson K}
  {shown : List (Option CString × CJson K)}

theorem copyFields_spec
    (hfresh : Fresh h₀ h (some newitem) (.node newitem ⟨.invalid, none, 0, 0, none⟩ .nil .nil))
    (hshow : FieldsShow h₀ v name item) :
    ∃ ok h' w, copyFields m newitem v h = some (ok, h') ∧
      Fresh h₀ h' (some newitem) (.node newitem w .nil .nil) ∧
      (ok = true → FieldsShow h' w name item) ∧ (m.Total → ok = true) := by
  obtain ⟨-, _, _, hcell, rfl, rfl⟩ := hfresh.laid
  have hvars : Fresh h₀ (h.insert newitem (.item ⟨⟨v.type, none, v.valueint, v.valuedouble, none⟩,
      none, none, none⟩)) (some newitem)
      (.node newitem ⟨v.type, none, v.valueint, v.valuedouble, none⟩ .nil .nil) :=
    hfresh.set (Grows.refl _) rfl (by simp [Fields.texts, Forest.owned])
  obtain ⟨ok, h₁, valuestring, hcopy, -, hfresh₁, htext, htotal⟩ := copyString_spec (m := m)
    (fun v copy => { v with valuestring := copy }) rfl (by simp [Fields.texts]) hvars
    hshow.valuestring
  cases ok with
  | false =>
    refine ⟨false, h₁, _, ?_, hfresh₁, by simp, htotal⟩
    simp [copyFields, readItem_of hcell, writeItem_of hcell, hcopy]
  | true =>
    obtain ⟨ok, h₂, string, hcopy', hkeeps, hfresh₂, htext', htotal'⟩ := copyString_spec (m := m)
      (fun v copy => { v with string := copy }) rfl (by simp [Fields.texts]) hfresh₁
      hshow.string
    refine ⟨ok, h₂, _, ?_, hfresh₂, fun hok => ?_, htotal'⟩
    · simp [copyFields, readItem_of hcell, writeItem_of hcell, hcopy, hcopy']
    · exact ⟨hshow.type, (htext rfl).frame fun a _ => hkeeps a, hshow.valueint, hshow.valuedouble,
        htext' hok⟩

/-- `cJSON_Duplicate` returns null and leaves the memory as it was, which it never
does where no allocation is refused, or it returns a new item like the old one. -/
inductive Copied (m : Allocator (Block K)) (h : Heap (Block K)) (name : Option CString)
    (item : CJson K) : Option Addr → Heap (Block K) → Prop
  | refused {h' : Heap (Block K)} : Changes [] h h' → ¬ m.Total → Copied m h name item none h'
  | made {h' : Heap (Block K)} {copy : Addr} {w : Fields K} {child : Forest (Fields K)} :
      Fresh h h' (some copy) (.node copy w child .nil) →
      Shows h' (.node copy w child .nil) [(name, item)] → Copied m h name item (some copy) h'

def LoopCopies (m : Allocator (Block K)) (f : Forest (Fields K)) : Prop :=
  ∀ {fuel : ℕ} {h₀ h : Heap (Block K)} {before first : Option Addr} {newitem : Addr}
    {w : Fields K} {front : Forest (Fields K)} {name : Option CString} {item : CJson K}
    {copied shown : List (Option CString × CJson K)},
    Laid Block.item h₀ before first f none → Shows h₀ f shown → 2 * f.size ≤ fuel →
    Fresh h₀ h (some newitem) (.node newitem w front .nil) → FieldsShow h w name item →
    Shows h front copied → ∃ ok h' front',
      duplicateChildren m fuel newitem (front.last none) first h = some (ok, h') ∧
      Fresh h₀ h' (some newitem) (.node newitem w front' .nil) ∧
      (ok = true → FieldsShow h' w name item ∧ Shows h' front' (copied ++ shown)) ∧
      (m.Total → ok = true)

theorem duplicate_copies {fuel : ℕ} {a : Addr} {child next : Forest (Fields K)}
    {before after : Option Addr} (hloop : LoopCopies m child)
    (hlaid : Laid Block.item h before (some a) (.node a v child next) after)
    (hfields : FieldsShow h v name item) (hchild : Shows h child item.child)
    (hfuel : 2 * child.size < fuel) :
    ∃ r h', duplicate m fuel a h = some (r, h') ∧ Copied m h name item r h' := by
  obtain ⟨-, _, childAddr, hcell, hlaid, -⟩ := hlaid
  obtain ⟨fuel, rfl⟩ : ∃ n, fuel = n + 1 := ⟨fuel - 1, by omega⟩
  cases halloc : newItem m h with
  | none =>
    exact ⟨none, h, by simp [duplicate, readItem_of hcell, halloc],
      .refused (Changes.refl _ _) (not_total halloc)⟩
  | some r =>
    obtain ⟨newitem, h₁⟩ := r
    obtain ⟨ok, h₂, w, hcopy, hfresh, hshow, htotal⟩ :=
      copyFields_spec (m := m) (newItem_fresh halloc) hfields
    cases ok with
    | false =>
      obtain ⟨h₃, hdelete, hsame⟩ := hfresh.delete
      exact ⟨none, h₃, by simp [duplicate, readItem_of hcell, halloc, hcopy, hdelete],
        .refused hsame fun hall => by simpa using htotal hall⟩
    | true =>
      obtain ⟨ok, h₃, front, hrest, hfresh', hshow', htotal'⟩ :=
        hloop hlaid hchild (show 2 * child.size ≤ fuel by omega) hfresh (hshow rfl)
          (show Shows h₂ .nil [] from rfl)
      cases ok with
      | false =>
        obtain ⟨h₄, hdelete, hsame⟩ := hfresh'.delete
        refine ⟨none, h₄, ?_, .refused hsame fun hall => by simpa using htotal' hall⟩
        simp only [Forest.last] at hrest
        simp [duplicate, readItem_of hcell, halloc, hcopy, hrest, hdelete]
      | true =>
        refine ⟨some newitem, h₃, ?_, .made hfresh' ?_⟩
        · simp only [Forest.last] at hrest
          simp [duplicate, readItem_of hcell, halloc, hcopy, hrest]
        · exact ⟨name, item, [], rfl, (hshow' rfl).1, (hshow' rfl).2, rfl⟩

theorem loopCopies (f : Forest (Fields K)) : LoopCopies m f := by
  induction f with
  | nil =>
    intro fuel h₀ h before first newitem w front name item copied shown hlaid hshows _ hfresh hshow
      hcopied
    obtain rfl : first = none := hlaid
    obtain rfl : shown = [] := hshows
    refine ⟨true, h, front, by cases fuel <;> rfl, hfresh, fun _ => ⟨hshow, ?_⟩, fun _ => rfl⟩
    rwa [List.append_nil]
  | node a v child next ihchild ihnext =>
    intro fuel h₀ h before first newitem w front name item copied shown hlaid hshows hfuel hfresh
      hshow hcopied
    simp only [Forest.size] at hfuel
    obtain ⟨fuel, rfl⟩ : ∃ n, fuel = n + 1 := ⟨fuel - 1, by omega⟩
    obtain ⟨childName, childItem, rest, rfl, hfields, hchild, hnext⟩ := hshows
    have hext := hfresh.grows.same
    have hkeeps := keepsTexts_of_extends hext
    obtain ⟨rfl, nextAddr, childAddr, hcell, hlaidChild, hlaidNext⟩ := id hlaid
    have hlaid' : Laid Block.item h before (some a) (.node a v child next) none :=
      hlaid.frame fun b hb => hext b (Shows.mem hlaid
        ⟨childName, childItem, rest, rfl, hfields, hchild, hnext⟩ b hb)
    obtain ⟨r, h₁, hdup, hmade⟩ := duplicate_copies ihchild hlaid'
      (hfields.frame fun b _ => hkeeps b) (hchild.frame fun b _ => hkeeps b)
      (show 2 * child.size < fuel by omega)
    cases hmade with
    | refused hsame hpartial =>
      exact ⟨false, h₁, front, by simp [duplicateChildren, hdup], hfresh.same hsame, by simp,
        fun hall => absurd hall hpartial⟩
    | made hnew hshown =>
      rename_i copy u grand
      obtain ⟨h₂, hattach, hkeeps', hfresh'⟩ := hfresh.attached hnew
      have hkeeps₂ := (keepsTexts_of_extends hnew.grows.same).trans hkeeps'
      have hcopied' := (hcopied.frame fun b _ => hkeeps₂ b).append
        (hshown.frame fun b _ => hkeeps' b)
      obtain ⟨ok, h₃, front', hrest, hfresh₃, hshow', htotal⟩ := ihnext hlaidNext hnext
        (show 2 * next.size ≤ fuel by omega) hfresh' (hshow.frame fun b _ => hkeeps₂ b) hcopied'
      refine ⟨ok, h₃, front', ?_, hfresh₃, fun hok => ?_, htotal⟩
      · rw [Forest.last_append, Forest.last, Forest.last] at hrest
        simp [duplicateChildren, hdup, hattach, readItem_of (hfresh'.grows.same.lookup hcell),
          hrest]
      · simpa using hshow' hok

theorem cJSONDuplicate_copies {before : Option Addr} {a : Addr} {child next : Forest (Fields K)}
    (hlaid : Laid Block.item h before (some a) (.node a v child next) none)
    (hshows : Shows h (.node a v child next) ((name, item) :: shown))
    (hnodup : (Forest.owned Fields.texts (.node a v child next)).Nodup) :
    ∃ r h', cJSONDuplicate m (some a) h = some (r, h') ∧ Copied m h name item r h' := by
  have hsize := (Forest.size_le_owned _).trans
    (length_le_keys hnodup (hshows.mem hlaid))
  obtain ⟨_, _, _, heq, hfields, hchild, -⟩ := hshows
  cases heq
  refine duplicate_copies (loopCopies child) hlaid hfields hchild ?_
  rw [Forest.size] at hsize
  omega

/-- A copy has nothing in common with its original, which can be freed; there is none
only if an allocation is refused, and then there is nothing of it. -/
theorem copy_outlives {a : Addr} {child : Forest (Fields K)} (m : Allocator (Block K))
    (hheld : Held h (some a) (.node a v child .nil) [(name, item)]) :
    ∃ r h₁ h₂, cJSONDuplicate m (some a) h = some (r, h₁) ∧ cJSONDelete (some a) h₁ = some h₂ ∧
      (r = none ∧ ¬ m.Total ∧ (∀ b, h₁.lookup b = h.lookup b) ∨
        ∃ copy, Held h₂ r copy [(name, item)] ∧ ∀ b ∈ copy.owned Fields.texts, b ∉ h) ∧
      ∀ b ∈ h, b ∉ Forest.owned Fields.texts (.node a v child .nil) →
        h₂.lookup b = h.lookup b := by
  obtain ⟨r, h₁, hduplicate, hcopied⟩ := cJSONDuplicate_copies (m := m) hheld.laid hheld.shows
    hheld.nodup
  have hext : Extends h h₁ := by
    cases hcopied with
    | refused hsame => exact fun b _ => hsame b List.not_mem_nil
    | made hfresh => exact hfresh.grows.same
  have hheld₁ : Held h₁ (some a) (.node a v child .nil) [(name, item)] :=
    ⟨hheld.laid.frame fun b hb => hext b (hheld.mem b hb),
      hheld.shows.frame fun _ _ _ hs => hext.lookup hs, hheld.nodup⟩
  obtain ⟨h₂, hdelete, hfrees⟩ := delete_frees _ hheld₁.laid hheld₁.mem hheld₁.nodup hheld₁.size_le
  refine ⟨r, h₁, h₂, hduplicate, hdelete, ?_, fun b hb hother =>
    (hfrees.changes b hother).trans (hext b hb)⟩
  cases hcopied with
  | refused hsame hpartial => exact .inl ⟨rfl, hpartial, fun b => hsame b List.not_mem_nil⟩
  | made hfresh hshows =>
    rename_i copy w grand
    have hapart : ∀ b ∈ Forest.owned Fields.texts (.node copy w grand .nil),
        h₂.lookup b = h₁.lookup b := fun b hb =>
      hfrees.changes b fun hold => hfresh.grows.apart b hb (hheld.mem b hold)
    refine .inr ⟨_, ⟨hfresh.laid.frame hapart, hshows.frame fun b hb s hs => ?_,
      hfresh.grows.nodup⟩, hfresh.grows.apart⟩
    rw [hapart b hb, hs]

theorem copy_outlives_members : ∃ r h₁ h₂,
    cJSONDuplicate Malloc.top.allocator (some 1) twoMembers = some (r, h₁) ∧
      cJSONDelete (some 1) h₁ = some h₂ ∧
      ∃ copy, Held h₂ r copy [(none, twoMembersItem)] ∧
        ∀ b ∈ copy.owned Fields.texts, b ∉ twoMembers := by
  obtain ⟨r, h₁, h₂, hduplicate, hdelete, hcopy, -⟩ :=
    copy_outlives Malloc.top.allocator twoMembers_held
  obtain ⟨-, hpartial, -⟩ | ⟨copy, hheld, hnew⟩ := hcopy
  · exact absurd (fun h hnone => by cases hnone) hpartial
  · exact ⟨r, h₁, h₂, hduplicate, hdelete, copy, hheld, hnew⟩

end

end

end

end WfPublisher.CJsonMemory
