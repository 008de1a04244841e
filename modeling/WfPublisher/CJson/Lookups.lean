import Mathlib
import WfPublisher.CJson.ParseMemory

/-!
# Lookups in memory

The lookups follow the pointers of the children. They find the items that the
lookups on trees find, and read through a null name where those do.
-/

namespace WfPublisher.CJsonMemory

open Memory
open Forest (Node Laid)

variable {K : Type}

-- ---------------------------------------------------------------------------
-- Lookups
-- ---------------------------------------------------------------------------

def readText (h : Heap (Block K)) (p : Option Addr) : Option CString :=
  match p with
  | none => none
  | some a =>
    match h.lookup a with
    | some (.text s) => some s
    | _ => none

def countChild (h : Heap (Block K)) (size : ℕ) (child : Addr) : Option (ℕ × Option Addr) := do
  let cell ← readItem h child
  return (size + 1, cell.next)

def getArraySize (array : Option Addr) (h : Heap (Block K)) : Option ℕ :=
  match array with
  | none => some 0
  | some array => do
    let cell ← readItem h array
    whilePtr (countChild h) h.keys.length 0 cell.child

/-- `while ((current_child != NULL) && (index > 0))` -/
def arrayItemFrom (h : Heap (Block K)) : ℕ → Option Addr → Option (Option Addr)
  | _, none => some none
  | 0, some currentChild => some (some currentChild)
  | index + 1, some currentChild => do
    let cell ← readItem h currentChild
    arrayItemFrom h index cell.next

def getArrayItem (array : Option Addr) (index : ℕ) (h : Heap (Block K)) : Option (Option Addr) :=
  match array with
  | none => some none
  | some array => do
    let cell ← readItem h array
    arrayItemFrom h index cell.child

/-- `strcmp` reads the name of every element up to the one that is found. -/
def objectItemFrom (name : CString) (h : Heap (Block K)) : ℕ → Option Addr → Option (Option Addr)
  | _, none => some none
  | 0, some _ => none
  | fuel + 1, some currentElement => do
    let cell ← readItem h currentElement
    let string ← readText h cell.value.string
    if name = string then return some currentElement
    else objectItemFrom name h fuel cell.next

def getObjectItemCaseSensitive (object : Option Addr) (name : CString) (h : Heap (Block K)) :
    Option (Option Addr) :=
  match object with
  | none => some none
  | some object => do
    let cell ← readItem h object
    objectItemFrom name h h.keys.length cell.child

-- ---------------------------------------------------------------------------
-- Whole items
-- ---------------------------------------------------------------------------

def itemOf (h : Heap (Block K)) (v : Fields K) (children : List (Option CString × CJson K)) :
    Option (CJson K) :=
  match v.type with
  | .invalid => none
  | .null => some .null
  | .false => some (.bool false)
  | .true => some (.bool true)
  | .number => some (.number v.valuedouble)
  | .string => (readText h v.valuestring).map .string
  | .array => some (.array (children.map Prod.snd))
  | .object => some (.object (children.filterMap fun (name, item) => name.map (·, item)))

def loadList (h : Heap (Block K)) : ℕ → Option Addr → Option (List (Option CString × CJson K))
  | _, none => some []
  | 0, some _ => none
  | fuel + 1, some a => do
    let cell ← readItem h a
    let children ← loadList h fuel cell.child
    let item ← itemOf h cell.value children
    let rest ← loadList h fuel cell.next
    return (readText h cell.value.string, item) :: rest

def load (h : Heap (Block K)) (p : Option Addr) : Option (Option (CJson K)) := do
  let list ← loadList h h.keys.length p
  return list.head?.map Prod.snd

-- ---------------------------------------------------------------------------
-- What is found
-- ---------------------------------------------------------------------------

section
variable [Field K] [LinearOrder K] [FloorRing K]

/-- A pointer to an item, which may have more behind it. -/
inductive Points (h : Heap (Block K)) : Option Addr → Option (CJson K) → Prop
  | null : Points h none none
  | item {before : Option Addr} {a : Addr} {v : Fields K} {child next : Forest (Fields K)}
      {name : Option CString} {item : CJson K} {rest : List (Option CString × CJson K)} :
      Laid Block.item h before (some a) (.node a v child next) none →
      Shows h (.node a v child next) ((name, item) :: rest) →
      (Forest.owned Fields.texts (.node a v child next)).Nodup → Points h (some a) (some item)

/-- The lookup finds the item, or reads through a null pointer. -/
def Finds (h : Heap (Block K)) (found : Option (Option Addr)) :
    Except Fault (Option (CJson K)) → Prop
  | .ok item => ∃ p, found = some p ∧ Points h p item
  | .error _ => found = none

section
variable {h : Heap (Block K)} {before first : Option Addr} {f : Forest (Fields K)}
  {shown : List (Option CString × CJson K)} {p : Option Addr} {string : Option CString}

omit [Field K] [LinearOrder K] [FloorRing K] in
theorem readText_of (htext : TextAt h p string) : readText h p = string := by
  cases p with
  | none => exact htext.symm
  | some a =>
    obtain ⟨s, rfl, hs⟩ := htext
    rw [readText, hs]

theorem Shows.points (hlaid : Laid Block.item h before first f none) (hshows : Shows h f shown)
    (hnodup : (f.owned Fields.texts).Nodup) : Points h first (shown.head?.map Prod.snd) := by
  cases f with
  | nil =>
    obtain rfl : first = none := hlaid
    obtain rfl : shown = [] := hshows
    exact .null
  | node a v child next =>
    obtain ⟨rfl, _⟩ := id hlaid
    obtain ⟨name, item, rest, rfl, _⟩ := id hshows
    exact .item hlaid hshows hnodup

theorem size_from (fuel size : ℕ) (hlaid : Laid Block.item h before first f none)
    (hshows : Shows h f shown) (hfuel : f.size ≤ fuel) :
    whilePtr (countChild h) fuel size first = some (size + shown.length) := by
  induction f generalizing before first shown fuel size with
  | nil =>
    obtain rfl : first = none := hlaid
    obtain rfl : shown = [] := hshows
    exact whilePtr_none fuel
  | node a v child next _ ih =>
    obtain ⟨rfl, nextAddr, childAddr, hcell, -, hnext⟩ := hlaid
    obtain ⟨name, item, rest, rfl, -, -, hrest⟩ := hshows
    simp only [Forest.size] at hfuel
    obtain ⟨fuel, rfl⟩ : ∃ n, fuel = n + 1 := ⟨fuel - 1, by omega⟩
    have hround : countChild h size a = some (size + 1, nextAddr) := by
      rw [countChild, readItem_of hcell]
      rfl
    rw [whilePtr_some hround, ih fuel (size + 1) hnext hrest (by omega), List.length_cons,
      Nat.add_right_comm, Nat.add_assoc]

theorem arrayItem_from (index : ℕ) (hlaid : Laid Block.item h before first f none)
    (hshows : Shows h f shown) (hnodup : (f.owned Fields.texts).Nodup) :
    ∃ p, arrayItemFrom h index first = some p ∧ Points h p (shown[index]?.map Prod.snd) := by
  induction f generalizing before first shown index with
  | nil =>
    obtain rfl : first = none := hlaid
    obtain rfl : shown = [] := hshows
    exact ⟨none, by cases index <;> rfl, .null⟩
  | node a v child next _ ih =>
    cases index with
    | zero =>
      obtain ⟨rfl, -⟩ := id hlaid
      refine ⟨some a, rfl, ?_⟩
      rw [← List.head?_eq_getElem?]
      exact hshows.points hlaid hnodup
    | succ index =>
      obtain ⟨rfl, nextAddr, childAddr, hcell, -, hnext⟩ := hlaid
      obtain ⟨name, item, rest, rfl, -, -, hrest⟩ := hshows
      simp only [Forest.owned, List.nodup_cons, List.nodup_append] at hnodup
      rw [arrayItemFrom, readItem_of hcell]
      exact ih index hnext hrest hnodup.2.2.1.2.1

theorem objectItem_from (name : CString) (fuel : ℕ) (hlaid : Laid Block.item h before first f none)
    (hshows : Shows h f shown) (hnodup : (f.owned Fields.texts).Nodup) (hfuel : f.size ≤ fuel) :
    Finds h (objectItemFrom name h fuel first) (findChild name shown) := by
  induction f generalizing before first shown fuel with
  | nil =>
    obtain rfl : first = none := hlaid
    obtain rfl : shown = [] := hshows
    exact ⟨none, by cases fuel <;> rfl, .null⟩
  | node a v child next _ ih =>
    have hpoints := hshows.points hlaid hnodup
    obtain ⟨rfl, nextAddr, childAddr, hcell, -, hnext⟩ := hlaid
    obtain ⟨string, item, rest, rfl, hfields, -, hrest⟩ := hshows
    simp only [Forest.owned, List.nodup_cons, List.nodup_append] at hnodup
    simp only [Forest.size] at hfuel
    obtain ⟨fuel, rfl⟩ : ∃ n, fuel = n + 1 := ⟨fuel - 1, by omega⟩
    cases string with
    | none =>
      show objectItemFrom name h (fuel + 1) (some a) = none
      simp only [objectItemFrom, readItem_of hcell, readText_of hfields.string, Option.bind_eq_bind,
        Option.bind_some, Option.bind_none]
    | some string =>
      by_cases hname : name = string
      · have hfound : findChild name ((some string, item) :: rest) = .ok (some item) :=
          if_pos hname
        rw [hfound]
        refine ⟨some a, ?_, hpoints⟩
        simp only [objectItemFrom, readItem_of hcell, readText_of hfields.string,
          Option.bind_eq_bind, Option.bind_some, if_pos hname, Option.pure_def]
      · have hnot : findChild name ((some string, item) :: rest) = findChild name rest :=
          if_neg hname
        rw [hnot]
        simp only [objectItemFrom, readItem_of hcell, readText_of hfields.string,
          Option.bind_eq_bind, Option.bind_some, if_neg hname]
        exact ih fuel hnext hrest hnodup.2.2.1.2.1 (by omega)

theorem itemOf_fields {v : Fields K} {name : Option CString} {item : CJson K}
    (hfields : FieldsShow h v name item) : itemOf h v item.child = some item := by
  have htype := hfields.type
  have hdouble := hfields.valuedouble
  have hstring := readText_of hfields.valuestring
  cases item with
  | null => simp [itemOf, htype, typeOf]
  | bool b => cases b <;> simp [itemOf, htype, typeOf]
  | number d => simp [itemOf, htype, typeOf, hdouble, CJson.valuedouble]
  | string s => simp [itemOf, htype, typeOf, hstring, CJson.valuestring]
  | array items => simp [itemOf, htype, typeOf, CJson.child, Function.comp_def]
  | object members => simp [itemOf, htype, typeOf, CJson.child]

theorem loadList_shows (fuel : ℕ) (hlaid : Laid Block.item h before first f none)
    (hshows : Shows h f shown) (hfuel : f.size ≤ fuel) : loadList h fuel first = some shown := by
  induction f generalizing before first shown fuel with
  | nil =>
    obtain rfl : first = none := hlaid
    obtain rfl : shown = [] := hshows
    cases fuel <;> rfl
  | node a v child next ihchild ihnext =>
    obtain ⟨rfl, nextAddr, childAddr, hcell, hchild, hnext⟩ := hlaid
    obtain ⟨name, item, rest, rfl, hfields, hitem, hrest⟩ := hshows
    simp only [Forest.size] at hfuel
    obtain ⟨fuel, rfl⟩ : ∃ n, fuel = n + 1 := ⟨fuel - 1, by omega⟩
    simp only [loadList, readItem_of hcell, ihchild fuel hchild hitem (by omega),
      itemOf_fields hfields, ihnext fuel hnext hrest (by omega), readText_of hfields.string,
      Option.bind_eq_bind, Option.bind_some, Option.pure_def]

theorem Points.extend {h' : Heap (Block K)} {item : Option (CJson K)} (hpoints : Points h p item)
    (hext : Extends h h') : Points h' p item := by
  cases hpoints with
  | null => exact .null
  | item hlaid hshows hnodup =>
    exact .item (hlaid.frame fun a ha => hext a (hshows.mem hlaid a ha))
      (hshows.frame fun a _ s hs => hext.lookup hs) hnodup

theorem Fresh.points {h₀ : Heap (Block K)} {a : Addr} {v : Fields K} {child : Forest (Fields K)}
    {name : Option CString} {item : CJson K}
    (hfresh : Fresh h₀ h (some a) (.node a v child .nil))
    (hshows : Shows h (.node a v child .nil) [(name, item)]) : Points h (some a) (some item) :=
  .item hfresh.laid hshows hfresh.grows.nodup

omit [Field K] [LinearOrder K] [FloorRing K] in
theorem loadList_none (fuel : ℕ) : loadList h fuel none = some [] := by
  cases fuel <;> rfl

theorem load_points {item : Option (CJson K)} (hpoints : Points h p item) :
    load h p = some item := by
  cases hpoints with
  | null =>
    rw [load, loadList_none]
    rfl
  | item hlaid hshows hnodup =>
    have hsize := (Forest.size_le_owned _).trans (length_le_keys hnodup (hshows.mem hlaid))
    rw [load, loadList_shows _ hlaid hshows hsize]
    rfl

theorem Points.children {a : Addr} {item : CJson K} (hpoints : Points h (some a) (some item)) :
    ∃ cell f name, readItem h a = some cell ∧ FieldsShow h cell.value name item ∧
      Laid Block.item h none cell.child f none ∧ Shows h f item.child ∧
      (f.owned Fields.texts).Nodup ∧ f.size ≤ h.keys.length := by
  cases hpoints with
  | item hlaid hshows hnodup =>
    obtain ⟨-, nextAddr, childAddr, hcell, hchild, -⟩ := hlaid
    obtain ⟨name, item, rest, heq, hfields, hshown, -⟩ := hshows
    cases heq
    simp only [Forest.owned, List.nodup_cons, List.nodup_append] at hnodup
    have hnodup' := hnodup.2.2.1.1
    exact ⟨_, _, _, readItem_of hcell, hfields, hchild, hshown, hnodup',
      (Forest.size_le_owned _).trans (length_le_keys hnodup' (hshown.mem hchild))⟩

end

/-- Each lookup through a pointer is the lookup on the item, and what it finds is
a pointer again. -/
theorem lookups_on_items {h : Heap (Block K)} {p : Option Addr} {item : Option (CJson K)}
    (hpoints : Points h p item) :
    getArraySize p h = some (WfPublisher.getArraySize item) ∧
      (∀ index, ∃ q, getArrayItem p index h = some q ∧
        Points h q (WfPublisher.getArrayItem item index)) ∧
      (∀ name, Finds h (getObjectItemCaseSensitive p name h)
        (WfPublisher.getObjectItemCaseSensitive item name)) ∧
      ∀ i, item = some i → ∃ a cell, p = some a ∧ readItem h a = some cell ∧
        cell.value.type = typeOf i ∧ readText h cell.value.valuestring = i.valuestring ∧
        cell.value.valueint = i.valueint ∧ cell.value.valuedouble = i.valuedouble := by
  cases item with
  | none =>
    cases hpoints
    refine ⟨rfl, fun _ => ⟨none, rfl, .null⟩, fun _ => ⟨none, rfl, .null⟩, fun i hi => ?_⟩
    cases hi
  | some item =>
    cases p with
    | none => cases hpoints
    | some a =>
      obtain ⟨cell, f, name, hcell, hfields, hlaid, hshows, hnodup, hsize⟩ := hpoints.children
      refine ⟨?_, fun index => ?_, fun key => ?_, fun i hi => ?_⟩
      · simp only [getArraySize, hcell, Option.bind_eq_bind, Option.bind_some]
        rw [size_from _ 0 hlaid hshows hsize, Nat.zero_add]
        rfl
      · simp only [getArrayItem, hcell, Option.bind_eq_bind, Option.bind_some]
        exact arrayItem_from index hlaid hshows hnodup
      · simp only [getObjectItemCaseSensitive, hcell, Option.bind_eq_bind, Option.bind_some]
        exact objectItem_from key _ hlaid hshows hnodup hsize
      · cases hi
        exact ⟨a, cell, rfl, hcell, hfields.type, readText_of hfields.valuestring, hfields.valueint,
          hfields.valuedouble⟩

theorem lookups_on_items_members : getArraySize (some 1) twoMembers = some 2 ∧
    (∃ q, getArrayItem (some 1) 0 twoMembers = some q ∧
      Points twoMembers q (some (.string "hi".toList))) ∧
    Finds twoMembers (getObjectItemCaseSensitive (some 1) "b".toList twoMembers)
      (.ok (some (.number 7))) ∧
    Finds twoMembers (getObjectItemCaseSensitive (some 1) "c".toList twoMembers) (.ok none) := by
  obtain ⟨hsize, hitem, hobject, -⟩ :=
    lookups_on_items (.item twoMembers_held.laid twoMembers_held.shows twoMembers_held.nodup)
  exact ⟨hsize, hitem 0, hobject "b".toList, hobject "c".toList⟩

/-- A text is parsed next to what there is, read as the item it spells, and freed without
a trace; nothing is read of it only where an allocation is refused. -/
theorem parse_and_delete (m : Allocator (Block K)) (value : CString) (h : Heap (Block K)) :
    ∃ p item h₁ h₂, cJSONParse m value h = some (p, h₁) ∧ (∀ a ∈ h, h₁.lookup a = h.lookup a) ∧
      Points h₁ p item ∧ load h₁ p = some item ∧
      (item = WfPublisher.cJSONParse value ∨ item = none ∧ ¬ m.Total) ∧
      cJSONDelete p h₁ = some h₂ ∧ ∀ a, h₂.lookup a = h.lookup a := by
  obtain ⟨p, h₁, hparse, houtcome⟩ := cJSONParse_outcome m value h
  cases houtcome with
  | refused hsame hnone =>
    refine ⟨none, none, h₁, h₁, hparse, fun a _ => hsame a List.not_mem_nil, .null,
      load_points .null, ?_, cJSONDelete_none, fun a => hsame a List.not_mem_nil⟩
    by_cases hall : m.Total
    · exact .inl (hnone hall).symm
    · exact .inr ⟨rfl, hall⟩
  | parsed hitem hfresh hshows =>
    have hpoints := hfresh.points hshows
    obtain ⟨h₂, hdelete, hsame⟩ := hfresh.delete
    exact ⟨_, _, h₁, h₂, hparse, hfresh.grows.same, hpoints, load_points hpoints,
      .inl hitem.symm, hdelete, fun a => hsame a List.not_mem_nil⟩

end

end WfPublisher.CJsonMemory
