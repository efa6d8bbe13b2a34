import Axon7.Dispatch.Dispatcher
import Axon7.Lib.LinkedList

/-!
# The command queues

`PostEvt` puts an event in one of two queues, and the thread that runs `MessageQueue::Process`
takes the events out and calls `ProcessEvt` for each, those of the internal queue first. Any
number of threads may post at once, the handlers of `Process` among them. The queues are made
by the first who asks for them.

A step is what a thread does between two points where another may come in: it looks whether
there is a queue, or makes and stores one, or takes it; it locks or unlocks the mutex; and with
the mutex it puts in or takes out one message. Memory lasts, and the calls for threads do not
fail.
-/

namespace Axon7.Dispatch

open Lib

/-- `inst_internal` and `inst_external`. -/
inductive QueueKind
  | internal
  | external
  deriving DecidableEq

/-- `ipacm_cmd_q_data`. -/
structure CmdQData (D : Type) where
  event : IpaCmEventId
  evtData : D

/-- The queue `PostEvt` puts an event in. -/
def CmdQData.kind {D : Type} (data : CmdQData D) : QueueKind :=
  if data.event.ctorIdx < IpaCmEventId.externalEventMax.ctorIdx then .external else .internal

/-- `MessageQueue`. -/
structure MessageQueue where
  head : Option Nat := none
  tail : Option Nat := none

namespace MessageQueue

variable {α : Type}

/-- `enqueue`. -/
def enqueue (q : MessageQueue) (heap : Heap α) (item : Nat) :
    Except Fault (Heap α × MessageQueue) :=
  match q.head with
  | none => .ok (heap, { head := some item, tail := some item })
  | some head => do
    let heap ← match q.tail with
      | none => heap.setNext head (some item)
      | some tail => heap.setNext tail (some item)
    .ok (heap, { q with tail := some item })

/-- `dequeue`. -/
def dequeue (q : MessageQueue) (heap : Heap α) : Except Fault (Option Nat × MessageQueue) :=
  match q.head with
  | none => .ok (none, q)
  | some tmp => do
    let cell ← heap.read tmp
    .ok (some tmp, { q with head := cell.next })

end MessageQueue

/-! ## The threads -/

/-- Where `getInstanceInternal` or `getInstanceExternal` is: at the look for a queue, at the
making of one, or at the return. -/
inductive GetPc
  | check
  | create
  | fetch
  deriving DecidableEq

/-- Where `PostEvt` is, with its event, its queue and its message. -/
inductive PostPc (D : Type)
  | idle
  | get (data : CmdQData D) (pc : GetPc)
  | lock (data : CmdQData D) (queue item : Nat)
  | enqueue (data : CmdQData D) (queue item : Nat)
  | unlock

/-- Where `Process` is. In `pthread_cond_wait` it has been signalled or not. -/
inductive ProcPc
  | get (kind : QueueKind) (pc : GetPc)
  | lock
  | dequeue
  | wait (signalled : Bool)
  | unlock (item : Option Nat)
  | callback (item : Nat)
  deriving DecidableEq

/-- The queues and the threads, and besides what was posted and what was processed, in order.
`Process` runs in thread 0, and `msgQueue` are its queues. -/
structure Cmdq (D : Type) where
  heap : Heap (CmdQData D) := ∅
  queues : List MessageQueue := []
  inst : QueueKind → Option Nat := fun _ => none
  mutex : Option Nat := none
  post : Nat → PostPc D := fun _ => .idle
  proc : ProcPc := .get .internal .check
  msgQueue : QueueKind → Option Nat := fun _ => none
  posted : QueueKind → List (CmdQData D) := fun _ => []
  processed : QueueKind → List (CmdQData D) := fun _ => []

/-- What may happen next: a thread calls `PostEvt`, or takes its next step there (with the
address `new` gives it), `Process` takes its next step, or wakes up for no reason. -/
inductive CmdqStep (D : Type)
  | call (thread : Nat) (data : CmdQData D)
  | post (thread item : Nat)
  | process
  | wake

/-- `pthread_cond_signal`. -/
def ProcPc.signal : ProcPc → ProcPc
  | .wait _ => .wait true
  | pc => pc

namespace Cmdq

variable {D : Type}

/-- `getInstanceInternal` or `getInstanceExternal`, up to the return. -/
def getInstance (s : Cmdq D) (kind : QueueKind) : GetPc → Cmdq D × GetPc
  | .check => (s, if s.inst kind = none then .create else .fetch)
  | .create =>
    ({ s with
        queues := s.queues ++ [{}]
        inst := Function.update s.inst kind (some s.queues.length) }, .fetch)
  | .fetch => (s, .fetch)

/-- A queue that was made. -/
def queue (s : Cmdq D) (q : Nat) : Except Fault MessageQueue :=
  match s.queues[q]? with
  | some queue => .ok queue
  | none => .error .freed

/-- The step with the mutex in `PostEvt`. -/
def putIn (s : Cmdq D) (thread : Nat) (data : CmdQData D) (q item : Nat) :
    Except Fault (Cmdq D) := do
  let queue ← s.queue q
  let (heap, queue) ← queue.enqueue s.heap item
  .ok { s with
    heap
    queues := s.queues.set q queue
    proc := s.proc.signal
    post := Function.update s.post thread .unlock
    posted := Function.update s.posted data.kind (s.posted data.kind ++ [data]) }

/-- The next step of `PostEvt`. -/
def postStep (s : Cmdq D) (thread item : Nat) : Option (Except Fault (Cmdq D)) :=
  match s.post thread with
  | .idle => none
  | .get data .fetch =>
    match s.inst data.kind with
    | none => some (.ok { s with post := Function.update s.post thread .idle })
    | some q =>
      if s.heap.lookup item = none then
        some (.ok { s with
          heap := s.heap.insert item ⟨data, none⟩
          post := Function.update s.post thread (.lock data q item) })
      else none
  | .get data pc =>
    let (s, pc) := s.getInstance data.kind pc
    some (.ok { s with post := Function.update s.post thread (.get data pc) })
  | .lock data q item =>
    if s.mutex = none then
      some (.ok { s with
        mutex := some thread
        post := Function.update s.post thread (.enqueue data q item) })
    else none
  | .enqueue data q item => some (s.putIn thread data q item)
  | .unlock =>
    some (.ok { s with mutex := none, post := Function.update s.post thread .idle })

/-- The local queue of `Process`. -/
def localQueue (s : Cmdq D) (kind : QueueKind) : Except Fault (Nat × MessageQueue) :=
  match s.msgQueue kind with
  | some q => do
    let queue ← s.queue q
    .ok (q, queue)
  | none => .error .freed

/-- The step with the mutex in `Process`. It ends in `pthread_cond_wait` if there is nothing. -/
def takeOut (s : Cmdq D) : Except Fault (Cmdq D) := do
  let (q, queue) ← s.localQueue .internal
  let (item, queue) ← queue.dequeue s.heap
  match item with
  | some item =>
    .ok { s with queues := s.queues.set q queue, proc := .unlock (some item) }
  | none =>
    let (q, queue) ← s.localQueue .external
    let (item, queue) ← queue.dequeue s.heap
    match item with
    | some item =>
      .ok { s with queues := s.queues.set q queue, proc := .unlock (some item) }
    | none => .ok { s with mutex := none, proc := .wait false }

/-- The next step of `Process`. When the handler of a message comes to its end, the message is
deleted. -/
def procStep (s : Cmdq D) : Option (Except Fault (Cmdq D)) :=
  match s.proc with
  | .get kind .fetch =>
    if s.inst kind = none then none
    else
      some (.ok { s with
        msgQueue := Function.update s.msgQueue kind (s.inst kind)
        proc := match kind with
          | .internal => .get .external .check
          | .external => .lock })
  | .get kind pc =>
    let (s, pc) := s.getInstance kind pc
    some (.ok { s with proc := .get kind pc })
  | .lock =>
    if s.mutex = none then some (.ok { s with mutex := some 0, proc := .dequeue }) else none
  | .dequeue => some s.takeOut
  | .wait false => none
  | .wait true =>
    if s.mutex = none then some (.ok { s with mutex := some 0, proc := .unlock none })
    else none
  | .unlock none => some (.ok { s with mutex := none, proc := .lock })
  | .unlock (some item) => some do
      let cell ← s.heap.read item
      let data := cell.val
      .ok { s with
        mutex := none
        proc := .callback item
        processed := Function.update s.processed data.kind (s.processed data.kind ++ [data]) }
  | .callback item =>
    match s.post 0 with
    | .idle => some do
        let _ ← s.heap.read item
        .ok { s with heap := s.heap.erase item, proc := .lock }
    | _ => none

/-- A step, if it can be taken. A handler of `Process` posts in thread 0. -/
def step (s : Cmdq D) : CmdqStep D → Option (Except Fault (Cmdq D))
  | .call thread data =>
    match s.post thread, thread, s.proc with
    | .idle, 0, .callback _ =>
      some (.ok { s with post := Function.update s.post 0 (.get data .check) })
    | .idle, thread + 1, _ =>
      some (.ok { s with post := Function.update s.post (thread + 1) (.get data .check) })
    | _, _, _ => none
  | .post thread item => s.postStep thread item
  | .process => s.procStep
  | .wake => if s.proc = .wait false then some (.ok { s with proc := .wait true }) else none

/-- `n` steps of `Process`. -/
def processRun (s : Cmdq D) : Nat → Option (Except Fault (Cmdq D))
  | 0 => some (.ok s)
  | n + 1 =>
    match s.procStep with
    | some (.ok s) => s.processRun n
    | next => next

/-- The states reached by steps that are allowed. -/
inductive Reached (allowed : Cmdq D → CmdqStep D → Prop) : Cmdq D → Prop
  | start : Reached allowed {}
  | step {s s' : Cmdq D} {a : CmdqStep D} : Reached allowed s → allowed s a →
      s.step a = some (.ok s') → Reached allowed s'

end Cmdq

/-! ## Looking for a queue -/

section

variable {D : Type}

/-- The queue looked for, and where the look is. -/
def PostPc.getting : PostPc D → Option (QueueKind × GetPc)
  | .get data pc => some (data.kind, pc)
  | _ => none

def ProcPc.getting : ProcPc → Option (QueueKind × GetPc)
  | .get kind pc => some (kind, pc)
  | _ => none

/-- Those who may look for a queue: `Process`, and the calls of `PostEvt`. -/
def Cmdq.getting (s : Cmdq D) : Option Nat → Option (QueueKind × GetPc)
  | none => s.proc.getting
  | some thread => (s.post thread).getting

/-- Whose step it is, if it is one of `Process` or of `PostEvt`. -/
def CmdqStep.who : CmdqStep D → Option (Option Nat)
  | .post thread _ => some (some thread)
  | .process => some none
  | _ => none

/-- No one looks for a queue while another, who found none, has not stored his yet. -/
def Cmdq.Undisturbed (s : Cmdq D) (a : CmdqStep D) : Prop :=
  ∀ who kind, a.who = some who → s.getting who = some (kind, .check) →
    ∀ other, s.getting other ≠ some (kind, .create)

end

end Axon7.Dispatch

/-!
# The messages of the queues

A queue is a list of messages at its `Head`, the last of which is at its `Tail`; `enqueue`
appends a message and `dequeue` takes the first. Messages of different queues are apart, and
neither does a queue hold the message that waits to be put in or the one that was taken out.
-/

namespace Axon7.Dispatch

open Lib

theorem of_update {ι β : Type*} [DecidableEq ι] {f : ι → β} {i j : ι} {v y : β}
    (h : Function.update f i v j = y) : j = i ∧ v = y ∨ j ≠ i ∧ f j = y := by
  rw [Function.update_apply] at h
  split at h
  next hji => exact .inl ⟨hji, h⟩
  next hji => exact .inr ⟨hji, h⟩

section

variable {α : Type} {heap : Heap α} {queue : MessageQueue} {cells : List (Nat × α)}

/-- The messages of a queue. -/
structure MessageQueue.Holds (queue : MessageQueue) (heap : Heap α) (cells : List (Nat × α)) :
    Prop where
  chain : Chain heap queue.head cells
  tail : ∀ older cell, cells = older ++ [cell] → queue.tail = some cell.1

theorem MessageQueue.Holds.congr (h : queue.Holds heap cells) {heap' : Heap α}
    (heq : ∀ b ∈ cells.map Prod.fst, heap'.lookup b = heap.lookup b) : queue.Holds heap' cells :=
  ⟨⟨h.chain.path.congr heq, h.chain.nodup⟩, h.tail⟩

theorem MessageQueue.holds_empty : ({} : MessageQueue).Holds heap [] :=
  ⟨⟨rfl, List.nodup_nil⟩, by simp⟩

theorem MessageQueue.Holds.enqueue (h : queue.Holds heap cells) {item : Nat} {x : α}
    (hitem : heap.lookup item = some ⟨x, none⟩) (hnot : item ∉ cells.map Prod.fst) :
    ∃ heap' queue', queue.enqueue heap item = .ok (heap', queue') ∧
      queue'.Holds heap' (cells ++ [(item, x)]) ∧
      ∀ b ∉ cells.map Prod.fst, heap'.lookup b = heap.lookup b := by
  have hnodup : ((cells ++ [(item, x)]).map Prod.fst).Nodup := by
    rw [List.map_append]
    exact h.chain.nodup.append (List.nodup_singleton _) (by simpa using hnot)
  have htail : ∀ older cell, cells ++ [(item, x)] = older ++ [cell] → some item = some cell.1 := by
    intro older cell hcell
    have : (item, x) = cell := by simpa using (List.append_inj' hcell rfl).2
    rw [← this]
  rcases List.eq_nil_or_concat' cells with rfl | ⟨older, ⟨a, y⟩, rfl⟩
  · have hhead : queue.head = none := h.chain.path
    refine ⟨heap, { head := some item, tail := some item }, ?_, ?_, fun _ _ => rfl⟩
    · rw [MessageQueue.enqueue, hhead]
    · exact ⟨⟨⟨rfl, none, hitem, rfl⟩, hnodup⟩, htail⟩
  · obtain ⟨head, hhead⟩ : ∃ head, queue.head = some head := by
      rw [h.chain.path.start]
      cases older with
      | nil => exact ⟨a, rfl⟩
      | cons cell older => exact ⟨cell.1, rfl⟩
    have hlast : queue.tail = some a := h.tail older (a, y) rfl
    have hlookup := h.chain.path.lookup_last
    have holder : a ∉ older.map Prod.fst := by
      have := h.chain.nodup
      rw [List.map_append, List.nodup_append] at this
      exact fun hmem => this.2.2 a hmem a (by simp) rfl
    have hne : item ≠ a := fun he => hnot (by simp [he])
    refine ⟨heap.insert a ⟨y, some item⟩, { queue with tail := some item }, ?_, ⟨⟨?_, hnodup⟩,
      htail⟩, ?_⟩
    · rw [MessageQueue.enqueue, hhead, hlast]
      change (Heap.setNext heap a (some item)).bind _ = _
      rw [Heap.setNext_eq hlookup]
      rfl
    · refine (h.chain.path.relink holder (some item)).append ⟨rfl, none, ?_, rfl⟩
      rw [AList.lookup_insert_ne hne, hitem]
    · exact fun b hb => AList.lookup_insert_ne fun he => hb (by simp [he])

theorem MessageQueue.Holds.dequeue_nil (h : queue.Holds heap []) :
    queue.dequeue heap = .ok (none, queue) := by
  have hhead : queue.head = none := h.chain.path
  rw [MessageQueue.dequeue, hhead]

theorem MessageQueue.Holds.dequeue_cons {a : Nat} {x : α} (h : queue.Holds heap ((a, x) :: cells)) :
    ∃ queue', queue.dequeue heap = .ok (some a, queue') ∧ queue'.Holds heap cells := by
  obtain ⟨hhead, next, hlookup, hrest⟩ := h.chain.path
  have hhead : queue.head = some a := hhead
  refine ⟨{ queue with head := next }, ?_, ⟨hrest, (List.nodup_cons.1 h.chain.nodup).2⟩, ?_⟩
  · rw [MessageQueue.dequeue, hhead]
    change (Heap.read heap a).bind _ = _
    rw [Heap.read_eq hlookup]
    rfl
  · intro older cell hcells
    exact h.tail ((a, x) :: older) cell (by rw [hcells, List.cons_append])

end

/-! ## The queues of the daemon -/

section

variable {D : Type}

/-- The message the loop of `Process` has in hand. -/
def ProcPc.item : ProcPc → Option Nat
  | .unlock item => item
  | .callback item => some item
  | _ => none

/-- The messages in the queues that were made, each of the kind of its queue. -/
structure QueuesHold (heap : Heap (CmdQData D)) (queues : List MessageQueue)
    (inst : QueueKind → Option Nat) (cells : QueueKind → List (Nat × CmdQData D)) : Prop where
  holds : ∀ kind q, inst kind = some q →
    ∃ queue, queues[q]? = some queue ∧ queue.Holds heap (cells kind)
  empty : ∀ kind, inst kind = none → cells kind = []
  apart : ∀ kind kind' q, inst kind = some q → inst kind' = some q → kind = kind'
  disjoint : ∀ kind kind' a, a ∈ (cells kind).map Prod.fst → a ∈ (cells kind').map Prod.fst →
    kind = kind'
  kinds : ∀ kind, ∀ cell ∈ cells kind, cell.2.kind = kind

variable {heap heap' : Heap (CmdQData D)} {queues : List MessageQueue}
  {inst : QueueKind → Option Nat} {cells : QueueKind → List (Nat × CmdQData D)}

theorem QueuesHold.congr (h : QueuesHold heap queues inst cells)
    (heq : ∀ kind, ∀ b ∈ (cells kind).map Prod.fst, heap'.lookup b = heap.lookup b) :
    QueuesHold heap' queues inst cells := by
  refine ⟨fun kind q hq => ?_, h.empty, h.apart, h.disjoint, h.kinds⟩
  obtain ⟨queue, hqueue, hholds⟩ := h.holds kind q hq
  exact ⟨queue, hqueue, hholds.congr (heq kind)⟩

theorem QueuesHold.make (h : QueuesHold heap queues inst cells) {kind : QueueKind}
    (hnone : inst kind = none) :
    QueuesHold heap (queues ++ [({} : MessageQueue)])
      (Function.update inst kind (some queues.length)) cells := by
  have hold : ∀ kind' q, inst kind' = some q → q < queues.length := by
    intro kind' q hq
    obtain ⟨queue, hqueue, -⟩ := h.holds kind' q hq
    exact (List.getElem?_eq_some_iff.1 hqueue).1
  refine ⟨fun kind' q hq => ?_, fun kind' hnone' => ?_, fun kind₁ kind₂ q hq₁ hq₂ => ?_, h.disjoint,
    h.kinds⟩
  · rcases of_update hq with ⟨hkind, hnew⟩ | ⟨-, hq⟩
    · obtain rfl := Option.some_inj.1 hnew
      refine ⟨{}, by simp, ?_⟩
      rw [hkind, h.empty kind hnone]
      exact MessageQueue.holds_empty
    · obtain ⟨queue, hqueue, hholds⟩ := h.holds kind' q hq
      exact ⟨queue, by rw [List.getElem?_append_left (hold kind' q hq), hqueue], hholds⟩
  · rcases of_update hnone' with ⟨-, hq⟩ | ⟨-, hnone'⟩
    · exact absurd hq (Option.some_ne_none _)
    · exact h.empty kind' hnone'
  · -- the number of the new queue is none of the old ones
    have hnew : ∀ kind' q, inst kind' = some q → some queues.length ≠ some q := by
      intro kind' q hq heq
      have := hold kind' q hq
      obtain rfl := Option.some_inj.1 heq
      omega
    rcases of_update hq₁ with ⟨hkind₁, hq₁⟩ | ⟨-, hq₁⟩
    · rcases of_update hq₂ with ⟨hkind₂, -⟩ | ⟨-, hq₂⟩
      · rw [hkind₁, hkind₂]
      · exact absurd hq₁ (hnew kind₂ q hq₂)
    · rcases of_update hq₂ with ⟨-, hq₂⟩ | ⟨-, hq₂⟩
      · exact absurd hq₂ (hnew kind₁ q hq₁)
      · exact h.apart kind₁ kind₂ q hq₁ hq₂

theorem QueuesHold.change (h : QueuesHold heap queues inst cells) {kind : QueueKind} {q : Nat}
    (hq : inst kind = some q) {queue : MessageQueue} {cells' : List (Nat × CmdQData D)}
    (hholds : queue.Holds heap' cells')
    (hkept : ∀ kind', kind' ≠ kind → ∀ b ∈ (cells kind').map Prod.fst,
      heap'.lookup b = heap.lookup b)
    (hnew : ∀ kind', kind' ≠ kind → ∀ a ∈ cells'.map Prod.fst, a ∉ (cells kind').map Prod.fst)
    (hkinds : ∀ cell ∈ cells', cell.2.kind = kind) :
    QueuesHold heap' (queues.set q queue) inst (Function.update cells kind cells') := by
  obtain ⟨old, hold, -⟩ := h.holds kind q hq
  have hlt : q < queues.length := (List.getElem?_eq_some_iff.1 hold).1
  refine ⟨fun kind' q' hq' => ?_, fun kind' hnone => ?_, h.apart, fun kind₁ kind₂ a h₁ h₂ => ?_,
    fun kind' => ?_⟩
  · by_cases hkind : kind' = kind
    · subst hkind
      obtain rfl := Option.some_inj.1 (hq.symm.trans hq')
      rw [Function.update_self]
      exact ⟨queue, List.getElem?_set_self hlt, hholds⟩
    · have hne : q ≠ q' := by
        rintro rfl
        exact hkind (h.apart kind' kind q hq' hq)
      obtain ⟨queue', hqueue', hholds'⟩ := h.holds kind' q' hq'
      rw [Function.update_of_ne hkind]
      exact ⟨queue', by rw [List.getElem?_set_ne hne, hqueue'], hholds'.congr (hkept kind' hkind)⟩
  · have hkind : kind' ≠ kind := by
      rintro rfl
      rw [hnone] at hq
      exact absurd hq (by simp)
    rw [Function.update_of_ne hkind]
    exact h.empty kind' hnone
  · by_cases hkind₁ : kind₁ = kind
    · by_cases hkind₂ : kind₂ = kind
      · rw [hkind₁, hkind₂]
      · rw [hkind₁, Function.update_self] at h₁
        rw [Function.update_of_ne hkind₂] at h₂
        exact absurd h₂ (hnew kind₂ hkind₂ a h₁)
    · rw [Function.update_of_ne hkind₁] at h₁
      by_cases hkind₂ : kind₂ = kind
      · rw [hkind₂, Function.update_self] at h₂
        exact absurd h₁ (hnew kind₁ hkind₁ a h₂)
      · rw [Function.update_of_ne hkind₂] at h₂
        exact h.disjoint kind₁ kind₂ a h₁ h₂
  · by_cases hkind : kind' = kind
    · rw [hkind, Function.update_self]
      exact hkinds
    · rw [Function.update_of_ne hkind]
      exact h.kinds kind'

end

end Axon7.Dispatch
