import Axon7.Lib.DoublyLinked

/-!
# The linked list

`linked_list.c` keeps the data it is given in a doubly linked list: new elements come in at the
head, and elements are taken out at the tail or, by a search from the head, anywhere.

Each function is given what it does to the sequence of the elements from the head to the tail.
That the pointers are right in both directions is part of what the list holds: the last lemma
for a function is always that the nodes on the heap are again one list, and no others.
-/

namespace Axon7.GpsUtils

open Lib

/-! ## The code -/

/-- `linked_list_err_type`. -/
inductive LinkedListErrType
  | success
  | failureGeneral
  | invalidParameter
  | invalidHandle
  | unavailableResource
  | insufficientBuffer

/-- What a `list_element` has beside its pointers: some data, told apart by its pointer, and the
function to free it. -/
structure Element (δ φ : Type) where
  dataPtr : δ
  deallocFunc : Option φ

/-- `list_state` and the memory it points to, with the calls of functions to free data that
were made so far. -/
structure ListState (δ φ : Type) where
  heap : DHeap (Element δ φ)
  pHead : Option Nat
  pTail : Option Nat
  deallocs : List (φ × δ)

/-- What a call returns, what it writes through the pointer it was given for data, and the state
behind it. -/
structure Ret (ε δ σ : Type) where
  rv : ε
  out : Option (Option δ)
  state : σ

variable {δ φ : Type}

/-- The call that frees the data, if the caller has given a function for it. -/
def Element.dealloc (elem : Element δ φ) : List (φ × δ) :=
  match elem.deallocFunc with
  | some f => [(f, elem.dataPtr)]
  | none => []

/-- The list that `linked_list_init` makes. -/
def linkedListInit : ListState δ φ := ⟨∅, none, none, []⟩

section

variable (pList : ListState δ φ) (null : Bool)

/-- `linked_list_add`. Here and below, `null` is whether the handle is a null pointer. -/
def linkedListAdd (dataObj : Option δ) (dealloc : Option φ) (room : Bool) (pick : Nat) :
    Except Fault (Ret LinkedListErrType δ (ListState δ φ)) :=
  if null then .ok ⟨.invalidHandle, none, pList⟩
  else
    match dataObj with
    | none => .ok ⟨.invalidParameter, none, pList⟩
    | some dataObj =>
      match pList.heap.malloc room pick with
      | none => .ok ⟨.failureGeneral, none, pList⟩
      | some elem => do
        let heap := pList.heap.insert elem ⟨⟨dataObj, dealloc⟩, none, none⟩
        let tmp := pList.pHead
        let heap ← DHeap.modify heap elem ({ · with next := tmp })
        let heap ← DHeap.modifyIf heap tmp ({ · with prev := some elem })
        return ⟨.success, none, { pList with
          heap
          pHead := some elem
          pTail := if tmp = none then some elem else pList.pTail }⟩

/-- `linked_list_remove`; `dataObj` is whether there is a pointer for the data. -/
def linkedListRemove (dataObj : Bool) :
    Except Fault (Ret LinkedListErrType δ (ListState δ φ)) :=
  if null then .ok ⟨.invalidHandle, none, pList⟩
  else if !dataObj then .ok ⟨.invalidParameter, none, pList⟩
  else
    match pList.pTail with
    | none => .ok ⟨.unavailableResource, none, pList⟩
    | some tmp => do
      let node ← DHeap.read pList.heap tmp
      let pTail := node.prev
      let heap ← DHeap.modifyIf pList.heap pTail ({ · with next := none })
      let pHead := if pTail = none then pTail else pList.pHead
      let heap ← DHeap.free heap tmp
      return ⟨.success, some (some node.val.dataPtr), { pList with heap, pHead, pTail }⟩

/-- `linked_list_empty`. -/
def linkedListEmpty : Int :=
  if null then -3 else if pList.pHead = none then 1 else 0

end

/-- The loop of `linked_list_flush`, for so many elements at most. -/
def flushLoop : Nat → ListState δ φ → Except Fault (ListState δ φ)
  | 0, pList => if pList.pHead = none then .ok pList else .error .endless
  | fuel + 1, pList =>
    match pList.pHead with
    | none => .ok pList
    | some p => do
      let node ← DHeap.read pList.heap p
      let heap ← DHeap.free pList.heap p
      flushLoop fuel { pList with
        heap
        pHead := node.next
        deallocs := pList.deallocs ++ node.val.dealloc }

/-- `linked_list_flush`. -/
def linkedListFlush (pList : ListState δ φ) (null : Bool) :
    Except Fault (Ret LinkedListErrType δ (ListState δ φ)) :=
  if null then .ok ⟨.invalidHandle, none, pList⟩
  else do
    let pList ← flushLoop pList.heap.size pList
    return ⟨.success, none, { pList with pTail := none }⟩

/-- What `linked_list_search` does to take out the element it has found. Data that is not copied
out is freed. -/
def removeFound (pList : ListState δ φ) (dataP : Bool) (tmp : Nat)
    (node : DNode (Element δ φ)) : Except Fault (ListState δ φ) := do
  let heap ← DHeap.modifyIf pList.heap node.prev ({ · with next := node.next })
  let pHead := if node.prev = none then node.next else pList.pHead
  let heap ← DHeap.modifyIf heap node.next ({ · with prev := node.prev })
  let pTail := if node.next = none then node.prev else pList.pTail
  let heap ← DHeap.modify heap tmp ({ · with prev := none, next := none })
  let deallocs := if dataP then pList.deallocs else pList.deallocs ++ node.val.dealloc
  let heap ← DHeap.free heap tmp
  return { heap, pHead, pTail, deallocs }

/-- The loop of `linked_list_search`, for so many elements at most. -/
def searchLoop (dataP rmIfFound : Bool) (equal : δ → Bool) (pList : ListState δ φ)
    (out : Option (Option δ)) :
    Nat → Option Nat → Except Fault (Ret LinkedListErrType δ (ListState δ φ))
  | _, none => .ok ⟨.success, out, pList⟩
  | 0, some _ => .error .endless
  | fuel + 1, some tmp => do
    let node ← DHeap.read pList.heap tmp
    if equal node.val.dataPtr then
      let out := if dataP then some (some node.val.dataPtr) else out
      if rmIfFound then
        let pList ← removeFound pList dataP tmp node
        return ⟨.success, out, pList⟩
      else return ⟨.success, out, pList⟩
    else searchLoop dataP rmIfFound equal pList out fuel node.next

/-- `linked_list_search`; `dataP` is whether there is a pointer for the data found. -/
def linkedListSearch (pList : ListState δ φ) (null dataP : Bool)
    (equal : Option (Option δ → δ → Bool)) (data0 : Option δ) (rmIfFound : Bool) :
    Except Fault (Ret LinkedListErrType δ (ListState δ φ)) :=
  match equal with
  | none => .ok ⟨.invalidHandle, none, pList⟩
  | some equal =>
    if null then .ok ⟨.invalidHandle, none, pList⟩
    else if pList.pTail = none then .ok ⟨.unavailableResource, none, pList⟩
    else
      searchLoop dataP rmIfFound (equal data0) pList (if dataP then some none else none)
        pList.heap.size pList.pHead

/-! ## What a list holds -/

/-- The elements from the head to the tail are `items`, and there are no others in memory. -/
def ListState.Holds (pList : ListState δ φ) (items : List (Element δ φ)) : Prop :=
  ∃ nodes, DChain pList.heap pList.pHead pList.pTail nodes ∧ nodes.map Prod.snd = items

variable {pList : ListState δ φ} {items : List (Element δ φ)} {elem : Element δ φ}

theorem linkedListInit_holds : (linkedListInit : ListState δ φ).Holds [] :=
  ⟨[], .empty, rfl⟩

theorem ListState.Holds.pTail_eq_none_iff (h : pList.Holds items) :
    pList.pTail = none ↔ items = [] := by
  obtain ⟨nodes, hc, rfl⟩ := h
  rw [hc.tail_eq_none_iff, List.map_eq_nil_iff]

theorem ListState.Holds.pHead_eq_none_iff (h : pList.Holds items) :
    pList.pHead = none ↔ items = [] := by
  obtain ⟨nodes, hc, rfl⟩ := h
  rw [hc.head_eq_none_iff, List.map_eq_nil_iff]

theorem linkedListAdd_spec (h : pList.Holds items) (dataObj : δ) (dealloc : Option φ)
    (pick : Nat) :
    ∃ pList', linkedListAdd pList false (some dataObj) dealloc true pick =
        .ok ⟨.success, none, pList'⟩ ∧
      pList'.Holds (⟨dataObj, dealloc⟩ :: items) ∧ pList'.deallocs = pList.deallocs := by
  obtain ⟨nodes, hc, rfl⟩ := h
  obtain ⟨elem, helem⟩ : ∃ elem, pList.heap.malloc true pick = some elem :=
    Option.isSome_iff_exists.1 (DHeap.malloc_isSome _ _ _)
  obtain ⟨heap, hmodify, hc'⟩ := hc.push (DHeap.malloc_notMem helem) ⟨dataObj, dealloc⟩
  have hadd : linkedListAdd pList false (some dataObj) dealloc true pick =
      .ok ⟨.success, none, { pList with
        heap
        pHead := some elem
        pTail := if pList.pHead = none then some elem else pList.pTail }⟩ := by
    rw [linkedListAdd, if_neg Bool.false_ne_true]
    dsimp only
    rw [helem]
    dsimp only
    rw [DHeap.modify_eq (AList.lookup_insert _), AList.insert_insert]
    change DHeap.modifyIf _ _ _ >>= _ = _
    rw [hmodify]
    rfl
  exact ⟨_, hadd, ⟨_, hc', List.map_cons⟩, rfl⟩

theorem linkedListRemove_spec (h : pList.Holds (items ++ [elem])) :
    ∃ pList', linkedListRemove pList false true =
        .ok ⟨.success, some (some elem.dataPtr), pList'⟩ ∧
      pList'.Holds items ∧ pList'.deallocs = pList.deallocs := by
  obtain ⟨nodes, hc, hitems⟩ := h
  obtain ⟨front, last, rfl, rfl, hlast⟩ := List.map_eq_append_iff.1 hitems
  obtain ⟨⟨a, x⟩, rfl, rfl⟩ := List.map_eq_singleton_iff.1 hlast
  have htail : pList.pTail = some a := hc.seg.last_eq.1
  obtain ⟨n, m, h₁, h₂, hlookup, hlast, hmodify, hmodify', hlookup', hc'⟩ := hc.unlink
  obtain rfl : n = none := hlast rfl
  obtain rfl : h₁ = h₂ := Except.ok.inj hmodify'
  have hremove : linkedListRemove pList false true = .ok ⟨.success, some (some x.dataPtr),
      { pList with
        heap := h₁.erase a
        pTail := m
        pHead := if m = none then m else pList.pHead }⟩ := by
    rw [linkedListRemove, if_neg Bool.false_ne_true]
    simp only [Bool.not_true, Bool.false_eq_true, if_false, htail]
    rw [DHeap.read_eq hlookup]
    change DHeap.modifyIf _ _ _ >>= _ = _
    rw [hmodify]
    change DHeap.free _ _ >>= _ = _
    rw [DHeap.free_eq hlookup']
    rfl
  have hhead : (if m = none then m else pList.pHead) = if m = none then none else pList.pHead := by
    split
    · assumption
    · rfl
  refine ⟨_, hremove, ⟨front, ?_, rfl⟩, rfl⟩
  rw [if_pos rfl, List.append_nil] at hc'
  dsimp only
  rw [hhead]
  exact hc'

theorem linkedListRemove_nil (h : pList.Holds []) :
    linkedListRemove pList false true = .ok ⟨.unavailableResource, none, pList⟩ := by
  rw [linkedListRemove, h.pTail_eq_none_iff.2 rfl]
  rfl

/-! ## The flush -/

theorem flushLoop_none (h : pList.pHead = none) (fuel : Nat) :
    flushLoop fuel pList = .ok pList := by
  cases fuel with
  | zero => rw [flushLoop, if_pos h]
  | succ fuel => rw [flushLoop, h]

theorem flushLoop_some {p : Nat} {node : DNode (Element δ φ)} (h : pList.pHead = some p)
    (hlookup : pList.heap.lookup p = some node) (fuel : Nat) :
    flushLoop (fuel + 1) pList = flushLoop fuel { pList with
      heap := pList.heap.erase p
      pHead := node.next
      deallocs := pList.deallocs ++ node.val.dealloc } := by
  rw [flushLoop, h]
  dsimp only
  rw [DHeap.read_eq hlookup, DHeap.free_eq hlookup]
  rfl

theorem flushLoop_spec {nodes : List (Nat × Element δ φ)} {prev last : Option Nat}
    (hs : Seg pList.heap prev pList.pHead nodes last none)
    (hnodup : (nodes.map Prod.fst).Nodup) (hmem : ∀ a ∈ pList.heap, a ∈ nodes.map Prod.fst)
    {fuel : Nat} (hfuel : nodes.length ≤ fuel) :
    ∃ pList', flushLoop fuel pList = .ok pList' ∧ pList'.pHead = none ∧
      (∀ a, a ∉ pList'.heap) ∧
      pList'.deallocs = pList.deallocs ++ (nodes.map Prod.snd).flatMap Element.dealloc := by
  induction nodes generalizing fuel pList prev with
  | nil =>
    refine ⟨pList, flushLoop_none hs.1 _, hs.1, fun a ha => ?_, (List.append_nil _).symm⟩
    exact absurd (hmem a ha) List.not_mem_nil
  | cons node nodes ih =>
    obtain ⟨a, x⟩ := node
    obtain ⟨hhead, n, hlookup, hrest⟩ := hs
    obtain ⟨ha, hnodup⟩ := List.nodup_cons.1 hnodup
    obtain ⟨fuel, rfl⟩ : ∃ left, fuel = left + 1 :=
      Nat.exists_eq_succ_of_ne_zero (by rintro rfl; simp at hfuel)
    have hmem' : ∀ b ∈ pList.heap.erase a, b ∈ nodes.map Prod.fst := fun b hb => by
      obtain ⟨hne, hb⟩ := AList.mem_erase.1 hb
      exact (List.mem_cons.1 (hmem b hb)).resolve_left hne
    rw [flushLoop_some hhead hlookup]
    obtain ⟨pList', hflush, hnone, hempty, hdeallocs⟩ := @ih { pList with
      heap := pList.heap.erase a
      pHead := n
      deallocs := pList.deallocs ++ x.dealloc } _
      (hrest.erase_of_notMem ha) hnodup hmem' fuel (Nat.le_of_succ_le_succ hfuel)
    refine ⟨pList', hflush, hnone, hempty, ?_⟩
    rw [hdeallocs, List.map_cons, List.flatMap_cons, List.append_assoc]

theorem linkedListFlush_spec (h : pList.Holds items) :
    ∃ pList', linkedListFlush pList false = .ok ⟨.success, none, pList'⟩ ∧
      pList'.Holds [] ∧ pList'.deallocs = pList.deallocs ++ items.flatMap Element.dealloc := by
  obtain ⟨nodes, hc, rfl⟩ := h
  obtain ⟨pList', hflush, hnone, hempty, hdeallocs⟩ :=
    flushLoop_spec hc.seg hc.nodup hc.mem hc.length_le
  refine ⟨{ pList' with pTail := none }, ?_, ⟨[], ⟨⟨hnone, rfl⟩, List.nodup_nil, ?_⟩, rfl⟩,
    hdeallocs⟩
  · rw [linkedListFlush, if_neg Bool.false_ne_true, hflush]
    rfl
  · exact fun a ha => absurd ha (hempty a)

/-! ## The search -/

variable {dataP rmIfFound : Bool} {equal : δ → Bool} {out : Option (Option δ)}

theorem searchLoop_skip {nodes : List (Nat × Element δ φ)} {prev p last next : Option Nat}
    (hs : Seg pList.heap prev p nodes last next)
    (hnot : ∀ x ∈ nodes.map Prod.snd, equal x.dataPtr = false) (fuel : Nat) :
    searchLoop dataP rmIfFound equal pList out (nodes.length + fuel) p =
      searchLoop dataP rmIfFound equal pList out fuel next := by
  induction nodes generalizing prev p with
  | nil => rw [hs.1, List.length_nil, Nat.zero_add]
  | cons node nodes ih =>
    obtain ⟨a, x⟩ := node
    obtain ⟨rfl, n, hlookup, hrest⟩ := hs
    obtain ⟨hx, hnot⟩ := List.forall_mem_cons.1 hnot
    rw [List.length_cons, Nat.add_right_comm, searchLoop, DHeap.read_eq hlookup, ← ih hrest hnot]
    exact if_neg (ne_true_of_eq_false hx)

theorem removeFound_spec {front back : List (Nat × Element δ φ)} {a : Nat} {x : Element δ φ}
    (hc : DChain pList.heap pList.pHead pList.pTail (front ++ (a, x) :: back)) (dataP : Bool) :
    ∃ node pList', pList.heap.lookup a = some node ∧ node.val = x ∧
      removeFound pList dataP a node = .ok pList' ∧
      DChain pList'.heap pList'.pHead pList'.pTail (front ++ back) ∧
      pList'.deallocs = if dataP then pList.deallocs else pList.deallocs ++ x.dealloc := by
  obtain ⟨n, m, h₁, h₂, hlookup, -, hmodify₁, hmodify₂, hlookup₂, hc'⟩ := hc.unlink
  have hremove : removeFound pList dataP a ⟨x, n, m⟩ = .ok {
      heap := h₂.erase a
      pHead := if m = none then n else pList.pHead
      pTail := if n = none then m else pList.pTail
      deallocs := if dataP then pList.deallocs else pList.deallocs ++ x.dealloc } := by
    rw [removeFound, hmodify₁]
    change DHeap.modifyIf _ _ _ >>= _ = _
    rw [hmodify₂]
    change DHeap.modify _ _ _ >>= _ = _
    rw [DHeap.modify_eq hlookup₂]
    change DHeap.free _ _ >>= _ = _
    rw [DHeap.free_eq (AList.lookup_insert _), DHeap.erase_insert]
    rfl
  exact ⟨_, _, hlookup, rfl, hremove, hc', rfl⟩

/-- What a search writes through the pointer for the data. -/
def searchOut (dataP : Bool) (found : Option (Element δ φ)) : Option (Option δ) :=
  if dataP then some (found.map Element.dataPtr) else none

theorem linkedListSearch_spec (h : pList.Holds items) (hne : items ≠ [])
    (equal : Option δ → δ → Bool) (data0 : Option δ) (dataP rmIfFound : Bool) :
    ∃ pList', linkedListSearch pList false dataP (some equal) data0 rmIfFound =
        .ok ⟨.success, searchOut dataP (items.find? (equal data0 ·.dataPtr)), pList'⟩ ∧
      pList'.Holds (if rmIfFound then items.eraseP (equal data0 ·.dataPtr) else items) ∧
      pList'.deallocs = if rmIfFound && !dataP then
        pList.deallocs ++ ((items.find? (equal data0 ·.dataPtr)).elim [] Element.dealloc)
        else pList.deallocs := by
  have htail : pList.pTail ≠ none := fun hnone => hne (h.pTail_eq_none_iff.1 hnone)
  obtain ⟨nodes, hc, rfl⟩ := h
  rw [linkedListSearch, if_neg Bool.false_ne_true, if_neg htail]
  have hlen := hc.length_le
  cases hfind : (nodes.map Prod.snd).find? (equal data0 ·.dataPtr) with
  | none =>
    -- all are passed over
    have hnot : ∀ x ∈ nodes.map Prod.snd, equal data0 x.dataPtr = false := fun x hx => by
      simpa using List.find?_eq_none.1 hfind x hx
    have herase : (nodes.map Prod.snd).eraseP (equal data0 ·.dataPtr) = nodes.map Prod.snd :=
      List.eraseP_of_forall_not fun x hx => by simp [hnot x hx]
    obtain ⟨left, hleft⟩ := Nat.exists_eq_add_of_le hlen
    refine ⟨pList, ?_, ⟨nodes, hc, ?_⟩, ?_⟩
    · rw [hleft, searchLoop_skip hc.seg hnot]
      cases left <;> rfl
    · rw [herase, ite_self]
    · rw [Option.elim_none, List.append_nil, ite_self]
  | some x =>
    obtain ⟨hx, before, behind, hitems, hnot⟩ := List.find?_eq_some_iff_append.1 hfind
    obtain ⟨front, rest, rfl, rfl, hrest⟩ := List.map_eq_append_iff.1 hitems
    obtain ⟨⟨a, y⟩, back, rfl, rfl, rfl⟩ := List.map_eq_cons_iff.1 hrest
    have hnot' : ∀ z ∈ front.map Prod.snd, equal data0 z.dataPtr = false := fun z hz => by
      simpa using hnot z hz
    obtain ⟨m, q, hfront, rfl, -⟩ := Seg.append_iff.1 hc.seg
    obtain ⟨left, hleft⟩ : ∃ left, pList.heap.size = front.length + (left + 1) := by
      rw [List.length_append, List.length_cons] at hlen
      exact ⟨pList.heap.size - front.length - 1, by omega⟩
    obtain ⟨node, pList', hlookup, hval, hremove, hc', hdeallocs⟩ := removeFound_spec hc dataP
    have hy : equal data0 y.dataPtr = true := hx
    have herase : (front.map Prod.snd ++ y :: back.map Prod.snd).eraseP
        (equal data0 ·.dataPtr) = front.map Prod.snd ++ back.map Prod.snd := by
      rw [List.eraseP_append_right _ fun z hz => by simp [hnot' z hz]]
      simp [hy]
    have hstep : searchLoop dataP rmIfFound (equal data0) pList
        (if dataP then some none else none) pList.heap.size pList.pHead =
        if rmIfFound then .ok ⟨.success, searchOut dataP (some y), pList'⟩
        else .ok ⟨.success, searchOut dataP (some y), pList⟩ := by
      rw [hleft, searchLoop_skip hfront hnot', searchLoop, DHeap.read_eq hlookup]
      change (if equal data0 node.val.dataPtr = true then _ else _) = _
      rw [hval, if_pos hy, hremove]
      cases dataP <;> rfl
    rw [hstep]
    cases rmIfFound with
    | false => exact ⟨pList, rfl, ⟨_, hc, rfl⟩, rfl⟩
    | true =>
      refine ⟨pList', rfl, ⟨_, hc', ?_⟩, ?_⟩
      · rw [if_pos rfl, List.map_append, List.map_append, List.map_cons, herase]
      · rw [hdeallocs, Bool.true_and, Option.elim_some]
        cases dataP <;> rfl

theorem linkedListSearch_nil (h : pList.Holds []) (equal : Option δ → δ → Bool)
    (data0 : Option δ) (dataP rmIfFound : Bool) :
    linkedListSearch pList false dataP (some equal) data0 rmIfFound =
      .ok ⟨.unavailableResource, none, pList⟩ := by
  rw [linkedListSearch, if_neg Bool.false_ne_true, if_pos (h.pTail_eq_none_iff.2 rfl)]

theorem linkedListEmpty_eq (h : pList.Holds items) :
    linkedListEmpty pList false = if items = [] then 1 else 0 := by
  rw [linkedListEmpty, if_neg Bool.false_ne_true]
  simp only [h.pHead_eq_none_iff]

end Axon7.GpsUtils
