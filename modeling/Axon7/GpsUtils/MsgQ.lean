import Axon7.GpsUtils.LinkedList

/-!
# The message queue

`msg_q.c` puts a linked list behind a mutex, with a flag that ends the waiting for messages.
Here one thread does all the calls, of the queue and of its list, in any order. A receive that
finds no message waits for another thread, so such a call is the last.

What the calls are for is said by `Fifo`: a sequence with the newest element in front, which
knows nothing of nodes. Every run of calls answers as it does, and behind it the pointers hold
its sequence.
-/

namespace Axon7.GpsUtils

open Lib

/-! ## The code -/

/-- `msq_q_err_type`. -/
inductive MsqQErrType
  | success
  | failureGeneral
  | invalidParameter
  | invalidHandle
  | unavailableResource
  | insufficientBuffer

/-- `convert_linked_list_err_type`. -/
def convertLinkedListErrType : LinkedListErrType → MsqQErrType
  | .success => .success
  | .invalidParameter => .invalidParameter
  | .invalidHandle => .invalidHandle
  | .unavailableResource => .unavailableResource
  | .insufficientBuffer => .insufficientBuffer
  | .failureGeneral => .failureGeneral

/-- `msg_q`. -/
structure MsgQ (δ φ : Type) where
  msgList : ListState δ φ
  unblocked : Bool

variable {δ φ : Type}

/-- The queue that `msg_q_init` makes. -/
def msgQInit : MsgQ δ φ := ⟨linkedListInit, false⟩

/-- What a queue call returns of a call for its list. -/
def MsgQ.ofList (q : MsgQ δ φ) (ret : Ret LinkedListErrType δ (ListState δ φ)) :
    Ret MsqQErrType δ (MsgQ δ φ) :=
  ⟨convertLinkedListErrType ret.rv, ret.out, { q with msgList := ret.state }⟩

section

variable (q : MsgQ δ φ) (null : Bool)

/-- `msg_q_snd`. -/
def msgQSnd (msgObj : Option δ) (dealloc : Option φ) (room : Bool) (pick : Nat) :
    Except Fault (Ret MsqQErrType δ (MsgQ δ φ)) :=
  if null then .ok ⟨.invalidHandle, none, q⟩
  else if msgObj.isNone then .ok ⟨.invalidParameter, none, q⟩
  else if q.unblocked then .ok ⟨.unavailableResource, none, q⟩
  else do
    let ret ← linkedListAdd q.msgList false msgObj dealloc room pick
    return q.ofList ret

/-- `msg_q_rcv`: nothing if it waits. With one thread what it waits for does not come about. -/
def msgQRcv (msgObj : Bool) : Except Fault (Option (Ret MsqQErrType δ (MsgQ δ φ))) :=
  if null then .ok (some ⟨.invalidHandle, none, q⟩)
  else if !msgObj then .ok (some ⟨.invalidParameter, none, q⟩)
  else if q.unblocked then .ok (some ⟨.unavailableResource, none, q⟩)
  else if linkedListEmpty q.msgList false ≠ 0 ∧ !q.unblocked then .ok none
  else do
    let ret ← linkedListRemove q.msgList false msgObj
    return some (q.ofList ret)

/-- `msg_q_flush`. -/
def msgQFlush : Except Fault (Ret MsqQErrType δ (MsgQ δ φ)) :=
  if null then .ok ⟨.invalidHandle, none, q⟩
  else do
    let ret ← linkedListFlush q.msgList false
    return q.ofList ret

/-- `msg_q_unblock`. -/
def msgQUnblock : Ret MsqQErrType δ (MsgQ δ φ) :=
  if null then ⟨.invalidHandle, none, q⟩
  else if q.unblocked then ⟨.unavailableResource, none, q⟩
  else ⟨.success, none, { q with unblocked := true }⟩

end

/-! ## Runs -/

/-- A call, with what `malloc` does in it. -/
inductive Op (δ φ : Type)
  | add (null : Bool) (dataObj : Option δ) (dealloc : Option φ) (room : Bool) (pick : Nat)
  | remove (null dataObj : Bool)
  | search (null dataP : Bool) (equal : Option (Option δ → δ → Bool)) (data0 : Option δ)
      (rmIfFound : Bool)
  | flush (null : Bool)
  | snd (null : Bool) (msgObj : Option δ) (dealloc : Option φ) (room : Bool) (pick : Nat)
  | rcv (null msgObj : Bool)
  | flushQueue (null : Bool)
  | unblock (null : Bool)

/-- What a call returns and what it writes for its caller, or that it waits. -/
inductive Answer (δ : Type)
  | list (rv : LinkedListErrType) (out : Option (Option δ))
  | queue (rv : MsqQErrType) (out : Option (Option δ))
  | waits

/-- A call for the list. -/
def MsgQ.listCall (q : MsgQ δ φ)
    (call : Except Fault (Ret LinkedListErrType δ (ListState δ φ))) :
    Except Fault (Answer δ × MsgQ δ φ) := do
  let ret ← call
  return (.list ret.rv ret.out, { q with msgList := ret.state })

/-- A call for the queue. -/
def queueCall (call : Except Fault (Ret MsqQErrType δ (MsgQ δ φ))) :
    Except Fault (Answer δ × MsgQ δ φ) := do
  let ret ← call
  return (.queue ret.rv ret.out, ret.state)

/-- One call. -/
def MsgQ.step (q : MsgQ δ φ) : Op δ φ → Except Fault (Answer δ × MsgQ δ φ)
  | .add null dataObj dealloc room pick =>
    q.listCall (linkedListAdd q.msgList null dataObj dealloc room pick)
  | .remove null dataObj => q.listCall (linkedListRemove q.msgList null dataObj)
  | .search null dataP equal data0 rmIfFound =>
    q.listCall (linkedListSearch q.msgList null dataP equal data0 rmIfFound)
  | .flush null => q.listCall (linkedListFlush q.msgList null)
  | .snd null msgObj dealloc room pick => queueCall (msgQSnd q null msgObj dealloc room pick)
  | .rcv null msgObj => do
    match ← msgQRcv q null msgObj with
    | some ret => return (.queue ret.rv ret.out, ret.state)
    | none => return (.waits, q)
  | .flushQueue null => queueCall (msgQFlush q null)
  | .unblock null => queueCall (.ok (msgQUnblock q null))

/-- Calls one after the other, up to one that waits: the answers, and the queue then. -/
def MsgQ.run : MsgQ δ φ → List (Op δ φ) → Except Fault (List (Answer δ) × MsgQ δ φ)
  | q, [] => .ok ([], q)
  | q, op :: ops => do
    match ← q.step op with
    | (.waits, q) => return ([.waits], q)
    | (answer, q) =>
      let (answers, q) ← q.run ops
      return (answer :: answers, q)

/-! ## What the calls are for -/

/-- The elements, the newest in front, the flag, and the calls to free data so far. -/
structure Fifo (δ φ : Type) where
  items : List (Element δ φ)
  unblocked : Bool
  deallocs : List (φ × δ)

namespace Fifo

/-- The empty sequence. -/
def empty : Fifo δ φ := ⟨[], false, []⟩

variable (f : Fifo δ φ)

/-- A new element is put in front, if there is memory for it. -/
def add (dataObj : δ) (dealloc : Option φ) (room : Bool) : LinkedListErrType × Fifo δ φ :=
  if room then (.success, { f with items := ⟨dataObj, dealloc⟩ :: f.items })
  else (.failureGeneral, f)

/-- The oldest element is taken out, if there is one. -/
def remove : LinkedListErrType × Option (Option δ) × Fifo δ φ :=
  match f.items.getLast? with
  | some elem => (.success, some (some elem.dataPtr), { f with items := f.items.dropLast })
  | none => (.unavailableResource, none, f)

/-- The newest element that is equal is given and, if wanted, taken out. It is freed if it is
not given to anyone. -/
def search (dataP : Bool) (equal : δ → Bool) (rmIfFound : Bool) :
    LinkedListErrType × Option (Option δ) × Fifo δ φ :=
  if f.items = [] then (.unavailableResource, none, f)
  else
    let found := f.items.find? (equal ·.dataPtr)
    let out := if dataP then some (found.map Element.dataPtr) else none
    if rmIfFound then
      (.success, out, { f with
        items := f.items.eraseP (equal ·.dataPtr)
        deallocs := if dataP then f.deallocs else f.deallocs ++ found.elim [] Element.dealloc })
    else (.success, out, f)

/-- All elements are taken out and freed. -/
def flush : Fifo δ φ :=
  { f with items := [], deallocs := f.deallocs ++ f.items.flatMap Element.dealloc }

/-- What a call is to do. -/
def step : Op δ φ → Answer δ × Fifo δ φ
  | .add null dataObj dealloc room _ =>
    if null then (.list .invalidHandle none, f)
    else
      match dataObj with
      | none => (.list .invalidParameter none, f)
      | some dataObj =>
        (.list (f.add dataObj dealloc room).1 none, (f.add dataObj dealloc room).2)
  | .remove null dataObj =>
    if null then (.list .invalidHandle none, f)
    else if dataObj then (.list f.remove.1 f.remove.2.1, f.remove.2.2)
    else (.list .invalidParameter none, f)
  | .search null dataP equal data0 rmIfFound =>
    match equal with
    | none => (.list .invalidHandle none, f)
    | some equal =>
      if null then (.list .invalidHandle none, f)
      else
        let (rv, out, f) := f.search dataP (equal data0) rmIfFound
        (.list rv out, f)
  | .flush null =>
    if null then (.list .invalidHandle none, f) else (.list .success none, f.flush)
  | .snd null msgObj dealloc room _ =>
    if null then (.queue .invalidHandle none, f)
    else
      match msgObj with
      | none => (.queue .invalidParameter none, f)
      | some msgObj =>
        if f.unblocked then (.queue .unavailableResource none, f)
        else
          (.queue (convertLinkedListErrType (f.add msgObj dealloc room).1) none,
            (f.add msgObj dealloc room).2)
  | .rcv null msgObj =>
    if null then (.queue .invalidHandle none, f)
    else if !msgObj then (.queue .invalidParameter none, f)
    else if f.unblocked then (.queue .unavailableResource none, f)
    else if f.items = [] then (.waits, f)
    else (.queue (convertLinkedListErrType f.remove.1) f.remove.2.1, f.remove.2.2)
  | .flushQueue null =>
    if null then (.queue .invalidHandle none, f) else (.queue .success none, f.flush)
  | .unblock null =>
    if null then (.queue .invalidHandle none, f)
    else if f.unblocked then (.queue .unavailableResource none, f)
    else (.queue .success none, { f with unblocked := true })

/-- What calls are to do, one after the other. -/
def run : Fifo δ φ → List (Op δ φ) → List (Answer δ) × Fifo δ φ
  | f, [] => ([], f)
  | f, op :: ops =>
    match f.step op with
    | (.waits, f) => ([.waits], f)
    | (answer, f) => (answer :: (f.run ops).1, (f.run ops).2)

end Fifo

/-! ## The calls do it -/

/-- A list holds the elements of the sequence, and the same data was freed. -/
structure ListState.Represents (pList : ListState δ φ) (f : Fifo δ φ) : Prop where
  holds : pList.Holds f.items
  deallocs : pList.deallocs = f.deallocs

/-- The list of a queue holds the sequence, and the flag is the same. -/
structure MsgQ.Represents (q : MsgQ δ φ) (f : Fifo δ φ) : Prop where
  list : q.msgList.Represents f
  unblocked : q.unblocked = f.unblocked

variable {pList : ListState δ φ} {q : MsgQ δ φ} {f : Fifo δ φ}

theorem msgQInit_represents : (msgQInit : MsgQ δ φ).Represents Fifo.empty :=
  ⟨⟨linkedListInit_holds, rfl⟩, rfl⟩

theorem linkedListAdd_represents (h : pList.Represents f) (dataObj : δ) (dealloc : Option φ)
    (room : Bool) (pick : Nat) :
    ∃ pList', linkedListAdd pList false (some dataObj) dealloc room pick =
        .ok ⟨(f.add dataObj dealloc room).1, none, pList'⟩ ∧
      pList'.Represents (f.add dataObj dealloc room).2 := by
  cases room with
  | false => exact ⟨pList, rfl, h⟩
  | true =>
    obtain ⟨pList', hadd, hholds, hdeallocs⟩ := linkedListAdd_spec h.holds dataObj dealloc pick
    exact ⟨pList', hadd, hholds, hdeallocs.trans h.deallocs⟩

theorem linkedListRemove_represents (h : pList.Represents f) :
    ∃ pList', linkedListRemove pList false true = .ok ⟨f.remove.1, f.remove.2.1, pList'⟩ ∧
      pList'.Represents f.remove.2.2 := by
  obtain ⟨items, unblocked, deallocs⟩ := f
  rcases List.eq_nil_or_concat' items with rfl | ⟨front, elem, rfl⟩
  · exact ⟨pList, linkedListRemove_nil h.holds, h⟩
  · obtain ⟨pList', hremove, hholds, hdeallocs⟩ := linkedListRemove_spec h.holds
    refine ⟨pList', ?_, ?_⟩
    · simp only [Fifo.remove, List.getLast?_concat, hremove]
    · simp only [Fifo.remove, List.getLast?_concat, List.dropLast_concat]
      exact ⟨hholds, hdeallocs.trans h.deallocs⟩

theorem linkedListSearch_represents (h : pList.Represents f) (dataP : Bool)
    (equal : Option δ → δ → Bool) (data0 : Option δ) (rmIfFound : Bool) :
    ∃ pList', linkedListSearch pList false dataP (some equal) data0 rmIfFound =
        .ok ⟨(f.search dataP (equal data0) rmIfFound).1,
          (f.search dataP (equal data0) rmIfFound).2.1, pList'⟩ ∧
      pList'.Represents (f.search dataP (equal data0) rmIfFound).2.2 := by
  obtain ⟨items, unblocked, deallocs⟩ := f
  obtain ⟨hholds, rfl⟩ := h
  by_cases hnil : items = []
  · obtain rfl : items = [] := hnil
    exact ⟨pList, linkedListSearch_nil hholds equal data0 dataP rmIfFound, hholds, rfl⟩
  · obtain ⟨pList', hsearch, hholds', hdeallocs⟩ :=
      linkedListSearch_spec hholds hnil equal data0 dataP rmIfFound
    have hfifo : (⟨items, unblocked, pList.deallocs⟩ : Fifo δ φ).search dataP (equal data0)
        rmIfFound = (.success, searchOut dataP (items.find? (equal data0 ·.dataPtr)), {
          items := if rmIfFound then items.eraseP (equal data0 ·.dataPtr) else items
          unblocked
          deallocs := if rmIfFound && !dataP then
            pList.deallocs ++ ((items.find? (equal data0 ·.dataPtr)).elim [] Element.dealloc)
            else pList.deallocs }) := by
      rw [Fifo.search, if_neg hnil]
      cases rmIfFound <;> cases dataP <;> rfl
    rw [hfifo]
    exact ⟨pList', hsearch, hholds', hdeallocs⟩

theorem linkedListFlush_represents (h : pList.Represents f) :
    ∃ pList', linkedListFlush pList false = .ok ⟨.success, none, pList'⟩ ∧
      pList'.Represents f.flush := by
  obtain ⟨pList', hflush, hholds, hdeallocs⟩ := linkedListFlush_spec h.holds
  refine ⟨pList', hflush, hholds, ?_⟩
  rw [hdeallocs, h.deallocs]
  rfl

theorem Fifo.add_unblocked (f : Fifo δ φ) (dataObj : δ) (dealloc : Option φ) (room : Bool) :
    (f.add dataObj dealloc room).2.unblocked = f.unblocked := by
  cases room <;> rfl

theorem Fifo.remove_unblocked (f : Fifo δ φ) : f.remove.2.2.unblocked = f.unblocked := by
  rw [Fifo.remove]
  split <;> rfl

theorem Fifo.search_unblocked (f : Fifo δ φ) (dataP : Bool) (equal : δ → Bool)
    (rmIfFound : Bool) : (f.search dataP equal rmIfFound).2.2.unblocked = f.unblocked := by
  rw [Fifo.search]
  split
  · rfl
  · cases rmIfFound <;> rfl

theorem MsgQ.Represents.setList (h : q.Represents f) {f' : Fifo δ φ}
    (hlist : pList.Represents f') (hunblocked : f'.unblocked = f.unblocked) :
    MsgQ.Represents { q with msgList := pList } f' :=
  ⟨hlist, h.unblocked.trans hunblocked.symm⟩

theorem msgQRcv_eq {items : List (Element δ φ)} (h : pList.Holds items) :
    msgQRcv ⟨pList, false⟩ false true =
      if items = [] then .ok none
      else do
        let ret ← linkedListRemove pList false true
        return some (MsgQ.ofList ⟨pList, false⟩ ret) := by
  have hempty := linkedListEmpty_eq h
  by_cases hnil : items = []
  · rw [if_pos hnil] at hempty ⊢
    rw [msgQRcv, hempty]
    rfl
  · rw [if_neg hnil] at hempty ⊢
    rw [msgQRcv, hempty]
    rfl

theorem MsgQ.Represents.step (h : q.Represents f) (op : Op δ φ) :
    ∃ q', q.step op = .ok ((f.step op).1, q') ∧ q'.Represents (f.step op).2 := by
  cases op with
  | add null dataObj dealloc room pick =>
    cases null with
    | true => exact ⟨q, rfl, h⟩
    | false =>
      cases dataObj with
      | none => exact ⟨q, rfl, h⟩
      | some dataObj =>
        obtain ⟨pList', hadd, hlist⟩ :=
          linkedListAdd_represents h.list dataObj dealloc room pick
        refine ⟨_, ?_, h.setList hlist (f.add_unblocked ..)⟩
        rw [MsgQ.step, hadd]
        rfl
  | remove null dataObj =>
    cases null with
    | true => exact ⟨q, rfl, h⟩
    | false =>
      cases dataObj with
      | false => exact ⟨q, rfl, h⟩
      | true =>
        obtain ⟨pList', hremove, hlist⟩ := linkedListRemove_represents h.list
        refine ⟨_, ?_, h.setList hlist f.remove_unblocked⟩
        rw [MsgQ.step, hremove]
        rfl
  | search null dataP equal data0 rmIfFound =>
    cases equal with
    | none => exact ⟨q, rfl, h⟩
    | some equal =>
      cases null with
      | true => exact ⟨q, rfl, h⟩
      | false =>
        obtain ⟨pList', hsearch, hlist⟩ :=
          linkedListSearch_represents h.list dataP equal data0 rmIfFound
        refine ⟨_, ?_, h.setList hlist (f.search_unblocked ..)⟩
        rw [MsgQ.step, hsearch]
        rfl
  | flush null =>
    cases null with
    | true => exact ⟨q, rfl, h⟩
    | false =>
      obtain ⟨pList', hflush, hlist⟩ := linkedListFlush_represents h.list
      refine ⟨_, ?_, h.setList hlist rfl⟩
      rw [MsgQ.step, hflush]
      rfl
  | snd null msgObj dealloc room pick =>
    cases null with
    | true => exact ⟨q, rfl, h⟩
    | false =>
      cases msgObj with
      | none => exact ⟨q, rfl, h⟩
      | some msgObj =>
        obtain ⟨pList, unblocked⟩ := q
        obtain ⟨items, unblocked', deallocs⟩ := f
        obtain rfl : unblocked = unblocked' := h.unblocked
        cases unblocked with
        | true => exact ⟨_, rfl, h⟩
        | false =>
          obtain ⟨pList', hadd, hlist⟩ :=
            linkedListAdd_represents h.list msgObj dealloc room pick
          refine ⟨_, ?_, h.setList hlist (Fifo.add_unblocked ..)⟩
          change queueCall (linkedListAdd _ _ _ _ _ _ >>= _) = _
          rw [hadd]
          rfl
  | rcv null msgObj =>
    cases null with
    | true => exact ⟨q, rfl, h⟩
    | false =>
      cases msgObj with
      | false => exact ⟨q, rfl, h⟩
      | true =>
        obtain ⟨pList, unblocked⟩ := q
        obtain ⟨items, unblocked', deallocs⟩ := f
        obtain rfl : unblocked = unblocked' := h.unblocked
        cases unblocked with
        | true => exact ⟨_, rfl, h⟩
        | false =>
          have hrcv := msgQRcv_eq h.list.holds
          have hfifo : (⟨items, false, deallocs⟩ : Fifo δ φ).step (.rcv false true) =
              if items = [] then (.waits, ⟨items, false, deallocs⟩)
              else (.queue (convertLinkedListErrType (Fifo.remove ⟨items, _, _⟩).1)
                (Fifo.remove ⟨items, _, _⟩).2.1, (Fifo.remove ⟨items, _, _⟩).2.2) := rfl
          rw [MsgQ.step, hrcv, hfifo]
          by_cases hnil : items = []
          · rw [if_pos hnil, if_pos hnil]
            exact ⟨_, rfl, h⟩
          · rw [if_neg hnil, if_neg hnil]
            obtain ⟨pList', hremove, hlist⟩ := linkedListRemove_represents h.list
            refine ⟨_, ?_, h.setList hlist (Fifo.remove_unblocked _)⟩
            rw [hremove]
            rfl
  | flushQueue null =>
    cases null with
    | true => exact ⟨q, rfl, h⟩
    | false =>
      obtain ⟨pList', hflush, hlist⟩ := linkedListFlush_represents h.list
      refine ⟨_, ?_, h.setList hlist rfl⟩
      rw [MsgQ.step, msgQFlush, if_neg Bool.false_ne_true, hflush]
      rfl
  | unblock null =>
    cases null with
    | true => exact ⟨q, rfl, h⟩
    | false =>
      obtain ⟨pList, unblocked⟩ := q
      obtain ⟨items, unblocked', deallocs⟩ := f
      obtain rfl : unblocked = unblocked' := h.unblocked
      cases unblocked with
      | true => exact ⟨_, rfl, h⟩
      | false => exact ⟨_, rfl, ⟨h.list.holds, h.list.deallocs⟩, rfl⟩

theorem MsgQ.Represents.run (h : q.Represents f) (ops : List (Op δ φ)) :
    ∃ q', q.run ops = .ok ((f.run ops).1, q') ∧ q'.Represents (f.run ops).2 := by
  induction ops generalizing q f with
  | nil => exact ⟨q, rfl, h⟩
  | cons op ops ih =>
    obtain ⟨q', hstep, h'⟩ := h.step op
    obtain ⟨q'', hrun, h''⟩ := ih h'
    rw [MsgQ.run, Fifo.run, hstep]
    generalize f.step op = result at *
    obtain ⟨answer, f'⟩ := result
    cases answer with
    | waits => exact ⟨q', rfl, h'⟩
    | list rv out =>
      refine ⟨q'', ?_, h''⟩
      change q'.run ops >>= _ = _
      rw [hrun]
      rfl
    | queue rv out =>
      refine ⟨q'', ?_, h''⟩
      change q'.run ops >>= _ = _
      rw [hrun]
      rfl

/-- Whatever calls are made, in whatever order, they answer as the sequence does, and the nodes
are one list in both directions that holds its elements in order. -/
theorem msgQInit_run_fifo (ops : List (Op δ φ)) :
    ∃ q, (msgQInit : MsgQ δ φ).run ops = .ok ((Fifo.empty.run ops).1, q) ∧
      q.Represents (Fifo.empty.run ops).2 :=
  msgQInit_represents.run ops

end Axon7.GpsUtils
