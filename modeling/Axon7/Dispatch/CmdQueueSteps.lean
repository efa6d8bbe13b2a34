import Axon7.Dispatch.CmdQueueInvariant

/-!
# What a step keeps

The invariant of the queues and the threads, and each step of `PostEvt` and of `Process`: if no
one is disturbed at making a queue, the step comes to its end and keeps the invariant. What
was posted to a queue stays what was processed, what `Process` has taken out, and what the
queue holds, in this order.
-/

namespace Axon7.Dispatch

open Lib

variable {D : Type}

/-! ## The invariant -/

/-- The local queues `Process` has. -/
def ProcPc.has : ProcPc → QueueKind → Bool
  | .get .internal _, _ => false
  | .get .external _, kind => kind = .internal
  | _, _ => true

/-- How far `Process` is from waiting. -/
def ProcPc.rank : ProcPc → Nat
  | .get .internal .check => 10
  | .get .internal .create => 9
  | .get .internal .fetch => 8
  | .get .external .check => 7
  | .get .external .create => 6
  | .get .external .fetch => 5
  | .unlock (some _) => 4
  | .wait true => 4
  | .callback _ => 3
  | .unlock none => 3
  | .lock => 2
  | .dequeue => 1
  | .wait false => 0

/-- What `Process` has taken out and not processed yet. -/
def Cmdq.taken (s : Cmdq D) (kind : QueueKind) : List (CmdQData D) :=
  match s.proc with
  | .unlock (some item) =>
    ((s.heap.lookup item).map (·.val)).toList.filter (·.kind = kind)
  | _ => []

/-- What holds along a run in which no one is disturbed. -/
structure Cmdq.Inv (s : Cmdq D) (cells : QueueKind → List (Nat × CmdQData D)) : Prop where
  queues : QueuesHold s.heap s.queues s.inst cells
  inHand : InHand s.heap s.inst s.post s.proc.item cells
  madeOnce : MadeOnce s.inst s.getting
  locals : ∀ kind, s.proc.has kind → s.msgQueue kind = s.inst kind ∧ s.inst kind ≠ none
  exclusive : Exclusive s.mutex s.post s.proc
  asleep : s.proc = .wait false → ∀ kind, cells kind = []
  kept : ∀ kind, s.posted kind = s.processed kind ++ s.taken kind ++ (cells kind).map Prod.snd

theorem Cmdq.inv_start : ({} : Cmdq D).Inv fun _ => [] where
  queues := ⟨by simp, by simp, by simp, by simp, by simp⟩
  inHand := ⟨by simp [PostPc.message], by simp [PostPc.message], by simp [PostPc.message],
    by simp [ProcPc.item]⟩
  madeOnce := by
    refine ⟨fun who kind h => ?_, fun who kind h => ?_⟩
    · cases who <;> simp [Cmdq.getting, ProcPc.getting, PostPc.getting] at h
    · cases who <;> simp [Cmdq.getting, ProcPc.getting, PostPc.getting] at h
  locals := by simp [ProcPc.has]
  exclusive := ⟨by simp [PostPc.critical], by simp [ProcPc.critical], by simp, .inl rfl⟩
  asleep := by simp
  kept := by simp [Cmdq.taken]

theorem QueuesHold.stored {heap : Heap (CmdQData D)} {queues : List MessageQueue}
    {inst : QueueKind → Option Nat} {cells : QueueKind → List (Nat × CmdQData D)}
    (h : QueuesHold heap queues inst cells) (kind : QueueKind) :
    ∀ b ∈ (cells kind).map Prod.fst, heap.lookup b ≠ none := by
  intro b hb
  cases hq : inst kind with
  | none =>
    rw [h.empty kind hq] at hb
    exact absurd hb (by simp)
  | some q =>
    obtain ⟨queue, -, hholds⟩ := h.holds kind q hq
    exact fun hnone => hholds.chain.notMem_of_fresh hnone hb

/-! A signal changes nothing but the waiting. -/

section

variable (pc : ProcPc)

@[simp]
theorem ProcPc.item_signal : pc.signal.item = pc.item := by cases pc <;> rfl

@[simp]
theorem ProcPc.getting_signal : pc.signal.getting = pc.getting := by cases pc <;> rfl

@[simp]
theorem ProcPc.has_signal (kind : QueueKind) : pc.signal.has kind = pc.has kind := by
  cases pc <;> rfl

@[simp]
theorem ProcPc.critical_signal : pc.signal.critical = pc.critical := by cases pc <;> rfl

theorem ProcPc.signal_ne : pc.signal ≠ .wait false := by cases pc <;> simp [ProcPc.signal]

end

theorem Exclusive.signal {mutex : Option Nat} {post : Nat → PostPc D} {proc : ProcPc}
    (h : Exclusive mutex post proc) : Exclusive mutex post proc.signal := by
  refine ⟨h.posts, ?_, ?_, h.handler.imp_right fun hrun => ?_⟩
  · rw [ProcPc.critical_signal]
    exact h.procs
  · rw [ProcPc.critical_signal]
    exact h.held
  · obtain ⟨item, hcallback⟩ := hrun
    exact ⟨item, by rw [hcallback]; rfl⟩

namespace Cmdq

variable {s : Cmdq D} {cells : QueueKind → List (Nat × CmdQData D)} {t : Nat}

theorem taken_of_item_none (h : s.proc.item = none) (kind : QueueKind) : s.taken kind = [] := by
  rw [taken]
  split
  next item hproc =>
    rw [hproc] at h
    exact absurd h (by simp [ProcPc.item])
  · rfl

theorem taken_congr (s : Cmdq D) {s' : Cmdq D} (hproc : s'.proc = s.proc ∨ s'.proc = s.proc.signal)
    (hheap : ∀ item, s.proc.item = some item → s'.heap.lookup item = s.heap.lookup item)
    (kind : QueueKind) : s'.taken kind = s.taken kind := by
  have hsame : s'.proc = s.proc ∨ s.proc.item = none ∧ s'.proc.item = none := by
    rcases hproc with hproc | hproc
    · exact .inl hproc
    · cases hs : s.proc with
      | wait signalled =>
        rw [hs] at hproc
        exact .inr ⟨rfl, by rw [hproc]; rfl⟩
      | _ =>
        rw [hs] at hproc
        exact .inl hproc
  rcases hsame with hproc | ⟨hitem, hitem'⟩
  · rw [taken, taken, hproc]
    split
    next item hitem => rw [hheap item (by rw [hitem]; rfl)]
    · rfl
  · rw [taken_of_item_none hitem, taken_of_item_none hitem']

theorem Inv.setPost (h : s.Inv cells) {pc : PostPc D} {mutex : Option Nat}
    (hmessage : ∀ m, pc.message = some m → (s.post t).message = some m)
    (hmadeOnce : MadeOnce s.inst (Function.update s.getting (some t) pc.getting))
    (hexclusive : Exclusive mutex (Function.update s.post t pc) s.proc) :
    Inv { s with mutex := mutex, post := Function.update s.post t pc } cells where
  queues := h.queues
  inHand := h.inHand.move hmessage
  madeOnce := s.getting_post t pc ▸ hmadeOnce
  locals := h.locals
  exclusive := hexclusive
  asleep := h.asleep
  kept := h.kept

theorem Inv.setProc (h : s.Inv cells) {pc : ProcPc} {mutex : Option Nat}
    {msgQueue : QueueKind → Option Nat} (hitem : s.proc.item = none) (hpc : pc.item = none)
    (hmadeOnce : MadeOnce s.inst (Function.update s.getting none pc.getting))
    (hlocals : ∀ kind, pc.has kind → msgQueue kind = s.inst kind ∧ s.inst kind ≠ none)
    (hexclusive : Exclusive mutex s.post pc)
    (hasleep : pc = .wait false → ∀ kind, cells kind = []) :
    Inv { s with mutex := mutex, proc := pc, msgQueue := msgQueue } cells where
  queues := h.queues
  inHand := by
    have := h.inHand
    rw [hitem] at this
    change InHand s.heap s.inst s.post pc.item cells
    rwa [hpc]
  madeOnce := s.getting_proc pc ▸ hmadeOnce
  locals := hlocals
  exclusive := hexclusive
  asleep := hasleep
  kept kind := by
    have := h.kept kind
    rw [taken_of_item_none hitem] at this
    rw [taken_of_item_none hpc]
    exact this

theorem Inv.move (h : s.Inv cells) (who : Option Nat) :
    MadeOnce s.inst (Function.update s.getting who none) :=
  h.madeOnce.move who fun _ => ⟨by simp, by simp⟩

theorem Inv.inLoop (h : s.Inv cells) (pc : ProcPc) (hpc : pc.getting = none) :
    MadeOnce s.inst ({ s with proc := pc } : Cmdq D).getting := by
  rw [s.getting_proc, hpc]
  exact h.move none

/-! ## The steps of `PostEvt` -/

theorem Inv.call (h : s.Inv cells) (data : CmdQData D) (hidle : s.post t = .idle)
    (hrun : t = 0 → ∃ item, s.proc = .callback item) :
    Inv { s with post := Function.update s.post t (.get data .check) } cells := by
  refine h.setPost (by simp [PostPc.message]) ?_ (h.exclusive.move (by rw [hidle]; rfl) hrun)
  exact h.madeOnce.move (some t) fun kind => ⟨by simp [PostPc.getting], by simp [PostPc.getting]⟩

theorem Inv.runs (h : s.Inv cells) (hne : s.post t ≠ .idle) (ht : t = 0) :
    ∃ item, s.proc = .callback item :=
  h.exclusive.handler.resolve_left (ht ▸ hne)

theorem Inv.found (h : s.Inv cells) {who : Option Nat} {kind : QueueKind}
    (hquiet : ∀ other, s.getting other ≠ some (kind, .create)) :
    MadeOnce s.inst (Function.update s.getting who
      (some (kind, if s.inst kind = none then .create else .fetch))) := by
  by_cases hnone : s.inst kind = none
  · rw [if_pos hnone]
    exact h.madeOnce.found_none hnone hquiet
  · rw [if_neg hnone]
    refine h.madeOnce.move who fun kind' => ⟨by simp, fun hkind => ?_⟩
    obtain ⟨rfl, -⟩ := Prod.mk.inj (Option.some_inj.1 hkind)
    exact hnone

theorem Inv.postCheck (h : s.Inv cells) {data : CmdQData D} (hpost : s.post t = .get data .check)
    (hquiet : ∀ other, s.getting other ≠ some (data.kind, .create)) :
    Inv { s with
      post := Function.update s.post t
        (.get data (if s.inst data.kind = none then .create else .fetch)) } cells := by
  have hne : s.post t ≠ .idle := by simp [hpost]
  refine h.setPost (by simp [PostPc.message]) (h.found hquiet) (h.exclusive.move ?_ (h.runs hne))
  rw [hpost]
  rfl

theorem Inv.make (h : s.Inv cells) {who : Option Nat} {kind : QueueKind}
    (hcreate : s.getting who = some (kind, .create)) :
    QueuesHold s.heap (s.queues ++ [({} : MessageQueue)])
        (Function.update s.inst kind (some s.queues.length)) cells ∧
      InHand s.heap (Function.update s.inst kind (some s.queues.length)) s.post s.proc.item cells ∧
      ∀ kind', s.proc.has kind' → s.msgQueue kind' =
        Function.update s.inst kind (some s.queues.length) kind' ∧
          Function.update s.inst kind (some s.queues.length) kind' ≠ none := by
  obtain ⟨hnone, -⟩ := h.madeOnce.create who kind hcreate
  refine ⟨h.queues.make hnone, h.inHand.make hnone _, fun kind' hhas => ?_⟩
  obtain ⟨hlocal, hsome⟩ := h.locals kind' hhas
  have hkind : kind' ≠ kind := by
    rintro rfl
    exact hsome hnone
  rw [Function.update_of_ne hkind]
  exact ⟨hlocal, hsome⟩

theorem Inv.postCreate (h : s.Inv cells) {data : CmdQData D}
    (hpost : s.post t = .get data .create) :
    Inv { s with
      queues := s.queues ++ [({} : MessageQueue)]
      inst := Function.update s.inst data.kind (some s.queues.length)
      post := Function.update s.post t (.get data .fetch) } cells := by
  have hcreate : s.getting (some t) = some (data.kind, .create) := by
    rw [Cmdq.getting, hpost, PostPc.getting]
  have hne : s.post t ≠ .idle := by simp [hpost]
  obtain ⟨hqueues, hinHand, hlocals⟩ := h.make hcreate
  refine ⟨hqueues, hinHand.move (by simp [PostPc.message]), ?_, hlocals,
    h.exclusive.move (by rw [hpost]; rfl) (h.runs hne), h.asleep, h.kept⟩
  have := h.madeOnce.made hcreate s.queues.length
  rw [show some (data.kind, GetPc.fetch) = (PostPc.get data .fetch).getting from rfl,
    ← s.getting_post] at this
  exact this

theorem Inv.postFetch (h : s.Inv cells) {data : CmdQData D} {q item : Nat}
    (hpost : s.post t = .get data .fetch) (hq : s.inst data.kind = some q)
    (hfresh : s.heap.lookup item = none) :
    Inv { s with
      heap := s.heap.insert item ⟨data, none⟩
      post := Function.update s.post t (.lock data q item) } cells := by
  have hne : s.post t ≠ .idle := by simp [hpost]
  have hother : ∀ b, s.heap.lookup b ≠ none →
      (s.heap.insert item (⟨data, none⟩ : Cell (CmdQData D))).lookup b = s.heap.lookup b := by
    intro b hb
    refine AList.lookup_insert_ne ?_
    rintro rfl
    exact hb hfresh
  refine ⟨h.queues.congr fun kind b hb => hother b (h.queues.stored kind b hb),
    h.inHand.alloc hfresh hq h.queues.stored rfl, ?_, h.locals,
    h.exclusive.move (by rw [hpost]; rfl) (h.runs hne), h.asleep, fun kind => ?_⟩
  · have := h.move (some t)
    rw [show none = (PostPc.lock data q item).getting from rfl, ← s.getting_post] at this
    exact this
  · have htaken : ({ s with
        heap := s.heap.insert item ⟨data, none⟩
        post := Function.update s.post t (.lock data q item) } : Cmdq D).taken kind =
          s.taken kind := by
      refine taken_congr s ?_ ?_ kind
      · exact .inl rfl
      · exact fun item' hitem' => hother item' (h.inHand.taken item' hitem').1
    rw [htaken]
    exact h.kept kind

theorem Inv.postLock (h : s.Inv cells) {data : CmdQData D} {q item : Nat}
    (hpost : s.post t = .lock data q item) (hmutex : s.mutex = none) :
    Inv { s with
      mutex := some t
      post := Function.update s.post t (.enqueue data q item) } cells := by
  have hne : s.post t ≠ .idle := by simp [hpost]
  have hexclusive := h.exclusive
  rw [hmutex] at hexclusive
  refine h.setPost ?_ (h.move _) (hexclusive.lock rfl (h.runs hne))
  intro m hm
  rw [hpost]
  exact hm

theorem Inv.postEnqueue (h : s.Inv cells) {data : CmdQData D} {q item : Nat}
    (hpost : s.post t = .enqueue data q item) :
    ∃ s', s.putIn t data q item = .ok s' ∧
      s'.Inv (Function.update cells data.kind (cells data.kind ++ [(item, data)])) := by
  have hne : s.post t ≠ .idle := by simp [hpost]
  have hmessage : (s.post t).message = some (data, q, item) := by rw [hpost]; rfl
  have hq := h.inHand.queue t data q item hmessage
  obtain ⟨hitem, -, hnot⟩ := h.inHand.stored t data q item hmessage
  obtain ⟨queue, hqueue, hholds⟩ := h.queues.holds data.kind q hq
  obtain ⟨heap', queue', henqueue, hholds', hkept⟩ := hholds.enqueue hitem (hnot data.kind)
  have hcells : ∀ kind, kind ≠ data.kind → ∀ b ∈ (cells kind).map Prod.fst,
      b ∉ (cells data.kind).map Prod.fst :=
    fun kind hkind b hb hb' => hkind (h.queues.disjoint kind data.kind b hb hb')
  have hheap : ∀ item', s.proc.item = some item' → heap'.lookup item' = s.heap.lookup item' :=
    fun item' hitem' => hkept item' ((h.inHand.taken item' hitem').2 data.kind)
  let s' : Cmdq D := { s with
    heap := heap'
    queues := s.queues.set q queue'
    proc := s.proc.signal
    post := Function.update s.post t .unlock
    posted := Function.update s.posted data.kind (s.posted data.kind ++ [data]) }
  have hgetting : s'.getting = Function.update s.getting (some t) none := by
    have hsignal : ({ s with proc := s.proc.signal } : Cmdq D).getting = s.getting := by
      rw [s.getting_proc, ProcPc.getting_signal]
      exact Function.update_eq_self none s.getting
    rw [← hsignal]
    exact Cmdq.getting_post { s with proc := s.proc.signal } t .unlock
  refine ⟨s', ?_, ?_⟩
  · rw [putIn, Cmdq.queue, hqueue]
    change (MessageQueue.enqueue queue s.heap item).bind _ = _
    rw [henqueue]
    rfl
  · refine ⟨h.queues.change hq hholds' (fun kind hkind b hb => hkept b (hcells kind hkind b hb))
      ?_ ?_, ?_, ?_, fun kind hhas => ?_, ?_, fun hasleep => ?_, fun kind => ?_⟩
    · intro kind hkind a ha
      rw [List.map_append, List.mem_append] at ha
      rcases ha with ha | ha
      · exact fun hb => hcells kind hkind a hb ha
      · rw [List.mem_singleton.1 ha]
        exact hnot kind
    · intro cell hcell
      rcases List.mem_append.1 hcell with hcell | hcell
      · exact h.queues.kinds data.kind cell hcell
      · rw [List.mem_singleton.1 hcell]
    · rw [s.proc.item_signal]
      exact h.inHand.putIn hmessage hkept rfl
    · rw [hgetting]
      exact h.move (some t)
    · rw [ProcPc.has_signal] at hhas
      exact h.locals kind hhas
    · exact (h.exclusive.move (by rw [hpost]; rfl) (h.runs hne)).signal
    · exact absurd hasleep s.proc.signal_ne
    · rw [taken_congr s (.inr rfl) hheap]
      change Function.update s.posted data.kind (s.posted data.kind ++ [data]) kind =
        s.processed kind ++ _ ++ _
      by_cases hkind : kind = data.kind
      · rw [hkind, Function.update_self, Function.update_self, h.kept data.kind,
          List.map_append, List.append_assoc]
        rfl
      · rw [Function.update_of_ne hkind, Function.update_of_ne hkind]
        exact h.kept kind

theorem Inv.postUnlock (h : s.Inv cells) (hpost : s.post t = .unlock) :
    Inv { s with mutex := none, post := Function.update s.post t .idle } cells :=
  h.setPost (by simp [PostPc.message]) (h.move _) (h.exclusive.unlock (by rw [hpost]; rfl))

/-! ## The steps of `Process` -/

theorem Inv.idle (h : s.Inv cells) (hne : ∀ item, s.proc ≠ .callback item) : s.post 0 = .idle :=
  h.exclusive.handler.resolve_right fun hrun => hrun.elim hne

theorem Inv.procCheck (h : s.Inv cells) {kind : QueueKind} (hproc : s.proc = .get kind .check)
    (hquiet : ∀ other, s.getting other ≠ some (kind, .create)) :
    Inv { s with proc := .get kind (if s.inst kind = none then .create else .fetch) } cells := by
  refine h.setProc (by rw [hproc]; rfl) rfl (h.found hquiet) (fun kind' hhas => h.locals kind' ?_)
    (h.exclusive.moveProc (h.idle (by simp [hproc])) (by rw [hproc]; rfl)) (by simp)
  rw [hproc]
  cases kind <;> exact hhas

theorem Inv.procCreate (h : s.Inv cells) {kind : QueueKind} (hproc : s.proc = .get kind .create) :
    Inv { s with
      queues := s.queues ++ [({} : MessageQueue)]
      inst := Function.update s.inst kind (some s.queues.length)
      proc := .get kind .fetch } cells := by
  have hcreate : s.getting none = some (kind, .create) := by
    rw [Cmdq.getting, hproc, ProcPc.getting]
  obtain ⟨hqueues, hinHand, hlocals⟩ := h.make hcreate
  rw [hproc] at hinHand hlocals
  refine ⟨hqueues, hinHand, ?_, fun kind' hhas => hlocals kind' ?_,
    h.exclusive.moveProc (h.idle (by simp [hproc])) (by rw [hproc]; rfl), by simp,
    fun kind' => ?_⟩
  · have := h.madeOnce.made hcreate s.queues.length
    rw [show some (kind, GetPc.fetch) = (ProcPc.get kind .fetch).getting from rfl,
      ← s.getting_proc] at this
    exact this
  · cases kind <;> exact hhas
  · have := h.kept kind'
    rw [taken_of_item_none (by rw [hproc]; rfl)] at this
    exact this

theorem Inv.procFetch_internal (h : s.Inv cells) (hproc : s.proc = .get .internal .fetch) :
    Inv { s with
      msgQueue := Function.update s.msgQueue .internal (s.inst .internal)
      proc := .get .external .check } cells := by
  have hsome := h.madeOnce.fetch none .internal (by rw [Cmdq.getting, hproc, ProcPc.getting])
  refine h.setProc (by rw [hproc]; rfl) rfl ?_ (fun kind hhas => ?_)
    (h.exclusive.moveProc (h.idle (by simp [hproc])) (by rw [hproc]; rfl)) (by simp)
  · exact h.madeOnce.move none fun kind => ⟨by simp [ProcPc.getting], by simp [ProcPc.getting]⟩
  · obtain rfl : kind = .internal := by simpa [ProcPc.has] using hhas
    rw [Function.update_self]
    exact ⟨rfl, hsome⟩

theorem Inv.procFetch_external (h : s.Inv cells) (hproc : s.proc = .get .external .fetch) :
    Inv { s with
      msgQueue := Function.update s.msgQueue .external (s.inst .external)
      proc := .lock } cells := by
  have hsome := h.madeOnce.fetch none .external (by rw [Cmdq.getting, hproc, ProcPc.getting])
  refine h.setProc (by rw [hproc]; rfl) rfl (h.move none) (fun kind _ => ?_)
    (h.exclusive.moveProc (h.idle (by simp [hproc])) (by rw [hproc]; rfl)) (by simp)
  cases kind with
  | internal =>
    rw [Function.update_of_ne (by simp)]
    exact h.locals .internal (by rw [hproc]; rfl)
  | external =>
    rw [Function.update_self]
    exact ⟨rfl, hsome⟩

theorem Inv.setLoop (h : s.Inv cells) {pc : ProcPc} {mutex : Option Nat}
    (hitem : s.proc.item = none) (hpc : pc.item = none) (hgetting : pc.getting = none)
    (hhas : ∀ kind, s.proc.has kind) (hexclusive : Exclusive mutex s.post pc)
    (hasleep : pc = .wait false → ∀ kind, cells kind = []) :
    Inv { s with mutex := mutex, proc := pc } cells := by
  refine h.setProc hitem hpc ?_ (fun kind _ => h.locals kind (hhas kind)) hexclusive hasleep
  rw [hgetting]
  exact h.move none

theorem Inv.procLock (h : s.Inv cells) (hproc : s.proc = .lock) (hmutex : s.mutex = none) :
    Inv { s with mutex := some 0, proc := .dequeue } cells := by
  have hexclusive := h.exclusive
  rw [hmutex] at hexclusive
  exact h.setLoop (by rw [hproc]; rfl) rfl rfl (fun kind => by rw [hproc]; rfl)
    (hexclusive.lockProc (h.idle (by simp [hproc])) rfl) (by simp)

theorem Inv.procWoken (h : s.Inv cells) (hproc : s.proc = .wait true) (hmutex : s.mutex = none) :
    Inv { s with mutex := some 0, proc := .unlock none } cells := by
  have hexclusive := h.exclusive
  rw [hmutex] at hexclusive
  exact h.setLoop (by rw [hproc]; rfl) rfl rfl (fun kind => by rw [hproc]; rfl)
    (hexclusive.lockProc (h.idle (by simp [hproc])) rfl) (by simp)

theorem Inv.procAgain (h : s.Inv cells) (hproc : s.proc = .unlock none) :
    Inv { s with mutex := none, proc := .lock } cells :=
  h.setLoop (by rw [hproc]; rfl) rfl rfl (fun kind => by rw [hproc]; rfl)
    (h.exclusive.unlockProc (h.idle (by simp [hproc])) (by rw [hproc]; rfl) rfl) (by simp)

theorem Inv.procWait (h : s.Inv cells) (hproc : s.proc = .dequeue)
    (hempty : ∀ kind, cells kind = []) :
    Inv { s with mutex := none, proc := .wait false } cells :=
  h.setLoop (by rw [hproc]; rfl) rfl rfl (fun kind => by rw [hproc]; rfl)
    (h.exclusive.unlockProc (h.idle (by simp [hproc])) (by rw [hproc]; rfl) rfl) fun _ => hempty

theorem Inv.wake (h : s.Inv cells) (hproc : s.proc = .wait false) :
    Inv { s with proc := .wait true } cells :=
  h.setLoop (by rw [hproc]; rfl) rfl rfl (fun kind => by rw [hproc]; rfl)
    (h.exclusive.moveProc (h.idle (by simp [hproc])) (by rw [hproc]; rfl)) (by simp)

theorem Inv.localQueue (h : s.Inv cells) (hhas : ∀ kind, s.proc.has kind) (kind : QueueKind) :
    ∃ q queue, s.inst kind = some q ∧ s.localQueue kind = .ok (q, queue) ∧
      queue.Holds s.heap (cells kind) := by
  obtain ⟨hlocal, hsome⟩ := h.locals kind (hhas kind)
  obtain ⟨q, hq⟩ := Option.ne_none_iff_exists'.1 hsome
  obtain ⟨queue, hqueue, hholds⟩ := h.queues.holds kind q hq
  refine ⟨q, queue, hq, ?_, hholds⟩
  rw [Cmdq.localQueue, hlocal, hq]
  change (s.queue q).bind _ = _
  rw [Cmdq.queue, hqueue]
  rfl

theorem Inv.procTaken (h : s.Inv cells) (hproc : s.proc = .dequeue) {kind : QueueKind}
    {q a : Nat} {x : CmdQData D} {queue : MessageQueue} {rest : List (Nat × CmdQData D)}
    (hq : s.inst kind = some q) (hcells : cells kind = (a, x) :: rest)
    (hholds : queue.Holds s.heap rest) :
    Inv { s with queues := s.queues.set q queue, proc := .unlock (some a) }
      (Function.update cells kind rest) := by
  obtain ⟨_, -, hold⟩ := h.queues.holds kind q hq
  rw [hcells] at hold
  obtain ⟨-, next, hlookup, -⟩ := hold.chain.path
  have hrest : a ∉ rest.map Prod.fst := (List.nodup_cons.1 hold.chain.nodup).1
  have hfirst : a ∈ (cells kind).map Prod.fst := by simp [hcells]
  have hsub : ∀ b ∈ rest.map Prod.fst, b ∈ (cells kind).map Prod.fst := by
    intro b hb
    rw [hcells]
    exact List.mem_cons_of_mem _ hb
  have hinHand := h.inHand
  rw [hproc] at hinHand
  refine ⟨h.queues.change hq hholds (fun _ _ _ _ => rfl) ?_ ?_,
    hinHand.takeOut hcells (by simp [hlookup]) hrest
      (fun kind' hmem => h.queues.disjoint kind' kind a hmem hfirst),
    ?_, fun kind' _ => h.locals kind' (by rw [hproc]; rfl), ?_, by simp, fun kind' => ?_⟩
  · exact fun kind' hkind b hb hb' => hkind (h.queues.disjoint kind' kind b hb' (hsub b hb))
  · exact fun cell hcell => h.queues.kinds kind cell (by simp [hcells, hcell])
  · exact h.inLoop (.unlock (some a)) rfl
  · exact h.exclusive.moveProc (h.idle (by simp [hproc])) (by rw [hproc]; rfl)
  · have hkind : x.kind = kind := h.queues.kinds kind (a, x) (by simp [hcells])
    have hkept := h.kept kind'
    rw [taken_of_item_none (by rw [hproc]; rfl)] at hkept
    change s.posted kind' = s.processed kind' ++
      ((s.heap.lookup a).map (·.val)).toList.filter (·.kind = kind') ++ _
    rw [hkept, hlookup]
    by_cases hkind' : kind' = kind
    · rw [hkind', Function.update_self, hcells]
      simp [hkind]
    · rw [Function.update_of_ne hkind']
      simp [hkind, Ne.symm hkind']

theorem Inv.takeOut (h : s.Inv cells) (hproc : s.proc = .dequeue) :
    (∃ kind q a x rest queue, cells kind = (a, x) :: rest ∧ s.inst kind = some q ∧
      queue.Holds s.heap rest ∧ (kind = .external → cells .internal = []) ∧
      s.takeOut = .ok { s with queues := s.queues.set q queue, proc := .unlock (some a) }) ∨
    (∀ kind, cells kind = []) ∧ s.takeOut = .ok { s with mutex := none, proc := .wait false } := by
  have hhas : ∀ kind, s.proc.has kind := fun kind => by rw [hproc]; rfl
  obtain ⟨q, queue, hq, hlocal, hholds⟩ := h.localQueue hhas .internal
  obtain ⟨q', queue', hq', hlocal', hholds'⟩ := h.localQueue hhas .external
  cases hinternal : cells .internal with
  | cons cell rest =>
    obtain ⟨a, x⟩ := cell
    rw [hinternal] at hholds
    obtain ⟨after, hdequeue, hafter⟩ := hholds.dequeue_cons
    refine .inl ⟨.internal, q, a, x, rest, after, hinternal, hq, hafter, by simp, ?_⟩
    rw [Cmdq.takeOut, hlocal]
    change (MessageQueue.dequeue queue s.heap).bind _ = _
    rw [hdequeue]
    rfl
  | nil =>
    rw [hinternal] at hholds
    have hdequeue := hholds.dequeue_nil
    cases hexternal : cells .external with
    | cons cell rest =>
      obtain ⟨a, x⟩ := cell
      rw [hexternal] at hholds'
      obtain ⟨after, hdequeue', hafter⟩ := hholds'.dequeue_cons
      refine .inl ⟨.external, q', a, x, rest, after, hexternal, hq', hafter,
        fun _ => rfl, ?_⟩
      rw [Cmdq.takeOut, hlocal]
      change (MessageQueue.dequeue queue s.heap).bind _ = _
      rw [hdequeue]
      change (s.localQueue .external).bind _ = _
      rw [hlocal']
      change (MessageQueue.dequeue queue' s.heap).bind _ = _
      rw [hdequeue']
      rfl
    | nil =>
      rw [hexternal] at hholds'
      have hdequeue' := hholds'.dequeue_nil
      refine .inr ⟨fun kind => by cases kind <;> assumption, ?_⟩
      rw [Cmdq.takeOut, hlocal]
      change (MessageQueue.dequeue queue s.heap).bind _ = _
      rw [hdequeue]
      change (s.localQueue .external).bind _ = _
      rw [hlocal']
      change (MessageQueue.dequeue queue' s.heap).bind _ = _
      rw [hdequeue']
      rfl

theorem Inv.procProcess (h : s.Inv cells) {item : Nat} (hproc : s.proc = .unlock (some item)) :
    ∃ cell, s.heap.read item = .ok cell ∧
      Inv { s with
        mutex := none
        proc := .callback item
        processed := Function.update s.processed cell.val.kind
          (s.processed cell.val.kind ++ [cell.val]) } cells := by
  have hinHand := h.inHand
  rw [hproc] at hinHand
  obtain ⟨cell, hlookup⟩ := Option.ne_none_iff_exists'.1 (hinHand.taken item rfl).1
  refine ⟨cell, Heap.read_eq hlookup, h.queues, hinHand, ?_,
    fun kind _ => h.locals kind (by rw [hproc]; rfl), ?_, by simp, fun kind => ?_⟩
  · exact h.inLoop (.callback item) rfl
  · exact h.exclusive.unlockProc (h.idle (by simp [hproc])) (by rw [hproc]; rfl) rfl
  · have hkept := h.kept kind
    have htaken : s.taken kind = [cell.val].filter (·.kind = kind) := by
      rw [taken, hproc]
      change ((s.heap.lookup item).map (·.val)).toList.filter _ = _
      rw [hlookup]
      rfl
    rw [htaken] at hkept
    change s.posted kind = Function.update s.processed cell.val.kind
      (s.processed cell.val.kind ++ [cell.val]) kind ++ [] ++ (cells kind).map Prod.snd
    rw [hkept]
    by_cases hkind : kind = cell.val.kind
    · rw [hkind, Function.update_self]
      simp
    · rw [Function.update_of_ne hkind]
      simp [Ne.symm hkind]

theorem Inv.procDelete (h : s.Inv cells) {item : Nat} (hproc : s.proc = .callback item)
    (hidle : s.post 0 = .idle) :
    (∃ cell, s.heap.read item = .ok cell) ∧
      Inv { s with heap := s.heap.erase item, proc := .lock } cells := by
  have hinHand := h.inHand
  rw [hproc] at hinHand
  obtain ⟨hstored, hnot⟩ := hinHand.taken item rfl
  obtain ⟨cell, hlookup⟩ := Option.ne_none_iff_exists'.1 hstored
  refine ⟨⟨cell, Heap.read_eq hlookup⟩, h.queues.congr fun kind b hb => ?_, hinHand.release, ?_,
    fun kind _ => h.locals kind (by rw [hproc]; rfl), ?_, by simp, fun kind => ?_⟩
  · exact AList.lookup_erase_ne (ne_of_mem_of_not_mem hb (hnot kind))
  · exact h.inLoop .lock rfl
  · exact h.exclusive.moveProc hidle (by rw [hproc]; rfl)
  · have hkept := h.kept kind
    rw [taken, hproc] at hkept
    exact hkept

/-! ## The step -/

theorem Inv.postStep (h : s.Inv cells) {item : Nat} {r : Except Fault (Cmdq D)}
    (hquiet : ∀ kind, s.getting (some t) = some (kind, .check) →
      ∀ other, s.getting other ≠ some (kind, .create))
    (hstep : s.postStep t item = some r) : ∃ s' cells', r = .ok s' ∧ s'.Inv cells' := by
  rw [Cmdq.postStep] at hstep
  cases hpost : s.post t with
  | idle =>
    rw [hpost] at hstep
    exact absurd hstep (by simp)
  | get data pc =>
    rw [hpost] at hstep
    cases pc with
    | check =>
      obtain rfl := Option.some_inj.1 hstep
      exact ⟨_, cells, rfl, h.postCheck hpost (hquiet _ (by rw [getting, hpost]; rfl))⟩
    | create =>
      obtain rfl := Option.some_inj.1 hstep
      exact ⟨_, cells, rfl, h.postCreate hpost⟩
    | fetch =>
      have hsome := h.madeOnce.fetch (some t) data.kind (by rw [getting, hpost]; rfl)
      obtain ⟨q, hq⟩ := Option.ne_none_iff_exists'.1 hsome
      simp only [hq] at hstep
      split at hstep
      next hfresh =>
        obtain rfl := Option.some_inj.1 hstep
        exact ⟨_, cells, rfl, h.postFetch hpost hq hfresh⟩
      · exact absurd hstep (by simp)
  | lock data q item =>
    simp only [hpost] at hstep
    split at hstep
    next hmutex =>
      obtain rfl := Option.some_inj.1 hstep
      exact ⟨_, cells, rfl, h.postLock hpost hmutex⟩
    · exact absurd hstep (by simp)
  | enqueue data q item =>
    simp only [hpost] at hstep
    obtain ⟨s', hs', hinv⟩ := h.postEnqueue hpost
    exact ⟨s', _, (Option.some_inj.1 hstep).symm.trans hs', hinv⟩
  | unlock =>
    simp only [hpost] at hstep
    obtain rfl := Option.some_inj.1 hstep
    exact ⟨_, cells, rfl, h.postUnlock hpost⟩

/-- The steps `Process` has left to do before it waits, if no one posts, with four for each
message. -/
def work (s : Cmdq D) (cells : QueueKind → List (Nat × CmdQData D)) : Nat :=
  4 * ((cells .internal).length + (cells .external).length) + s.proc.rank

theorem work_lt {s' : Cmdq D} (hrank : s'.proc.rank < s.proc.rank)
    (cells : QueueKind → List (Nat × CmdQData D)) : s'.work cells < s.work cells := by
  rw [work, work]
  omega

theorem work_taken {s' : Cmdq D} (hproc : s.proc = .dequeue) {kind : QueueKind} {a : Nat}
    {x : CmdQData D} {rest : List (Nat × CmdQData D)} (hcells : cells kind = (a, x) :: rest)
    (hproc' : s'.proc = .unlock (some a)) :
    s'.work (Function.update cells kind rest) < s.work cells := by
  have hlength : (cells kind).length = rest.length + 1 := by rw [hcells, List.length_cons]
  rw [work, work, hproc, hproc']
  cases kind <;> simp [ProcPc.rank, hlength] <;> omega

theorem Inv.procStep (h : s.Inv cells) {r : Except Fault (Cmdq D)}
    (hquiet : ∀ kind, s.getting none = some (kind, .check) →
      ∀ other, s.getting other ≠ some (kind, .create))
    (hstep : s.procStep = some r) :
    ∃ s' cells', r = .ok s' ∧ s'.Inv cells' ∧ s'.post = s.post ∧ s'.posted = s.posted ∧
      s'.work cells' < s.work cells := by
  rw [Cmdq.procStep] at hstep
  cases hproc : s.proc with
  | get kind pc =>
    rw [hproc] at hstep
    cases pc with
    | check =>
      obtain rfl := Option.some_inj.1 hstep
      refine ⟨_, cells, rfl, h.procCheck hproc (hquiet _ (by rw [getting, hproc]; rfl)), rfl, rfl,
        work_lt ?_ cells⟩
      rw [hproc]
      change (ProcPc.get kind (if s.inst kind = none then .create else .fetch)).rank < _
      by_cases hnone : s.inst kind = none
      · rw [if_pos hnone]
        cases kind <;> simp [ProcPc.rank]
      · rw [if_neg hnone]
        cases kind <;> simp [ProcPc.rank]
    | create =>
      obtain rfl := Option.some_inj.1 hstep
      refine ⟨_, cells, rfl, h.procCreate hproc, rfl, rfl, work_lt ?_ cells⟩
      rw [hproc]
      cases kind <;> simp [ProcPc.rank]
    | fetch =>
      have hsome := h.madeOnce.fetch none kind (by rw [getting, hproc]; rfl)
      simp only [if_neg hsome] at hstep
      obtain rfl := Option.some_inj.1 hstep
      cases kind with
      | internal =>
        exact ⟨_, cells, rfl, h.procFetch_internal hproc, rfl, rfl,
          work_lt (by rw [hproc]; simp [ProcPc.rank]) cells⟩
      | external =>
        exact ⟨_, cells, rfl, h.procFetch_external hproc, rfl, rfl,
          work_lt (by rw [hproc]; simp [ProcPc.rank]) cells⟩
  | lock =>
    simp only [hproc] at hstep
    split at hstep
    next hmutex =>
      obtain rfl := Option.some_inj.1 hstep
      exact ⟨_, cells, rfl, h.procLock hproc hmutex, rfl, rfl,
        work_lt (by rw [hproc]; simp [ProcPc.rank]) cells⟩
    · exact absurd hstep (by simp)
  | dequeue =>
    simp only [hproc] at hstep
    rcases h.takeOut hproc with ⟨kind, q, a, x, rest, queue, hcells, hq, hholds, -, htake⟩ |
      ⟨hempty, htake⟩
    · exact ⟨_, _, (Option.some_inj.1 hstep).symm.trans htake,
        h.procTaken hproc hq hcells hholds, rfl, rfl, work_taken hproc hcells rfl⟩
    · exact ⟨_, cells, (Option.some_inj.1 hstep).symm.trans htake, h.procWait hproc hempty, rfl,
        rfl, work_lt (by rw [hproc]; simp [ProcPc.rank]) cells⟩
  | wait signalled =>
    cases signalled with
    | false =>
      simp only [hproc] at hstep
      exact absurd hstep (by simp)
    | true =>
      simp only [hproc] at hstep
      split at hstep
      next hmutex =>
        obtain rfl := Option.some_inj.1 hstep
        exact ⟨_, cells, rfl, h.procWoken hproc hmutex, rfl, rfl,
          work_lt (by rw [hproc]; simp [ProcPc.rank]) cells⟩
      · exact absurd hstep (by simp)
  | unlock item =>
    cases item with
    | none =>
      simp only [hproc] at hstep
      obtain rfl := Option.some_inj.1 hstep
      exact ⟨_, cells, rfl, h.procAgain hproc, rfl, rfl,
        work_lt (by rw [hproc]; simp [ProcPc.rank]) cells⟩
    | some item =>
      simp only [hproc] at hstep
      obtain ⟨cell, hread, hinv⟩ := h.procProcess hproc
      rw [hread] at hstep
      exact ⟨_, cells, (Option.some_inj.1 hstep).symm, hinv, rfl, rfl,
        work_lt (by rw [hproc]; simp [ProcPc.rank]) cells⟩
  | callback item =>
    simp only [hproc] at hstep
    split at hstep
    next hidle =>
      obtain ⟨⟨cell, hread⟩, hinv⟩ := h.procDelete hproc hidle
      rw [hread] at hstep
      exact ⟨_, cells, (Option.some_inj.1 hstep).symm, hinv, rfl, rfl,
        work_lt (by rw [hproc]; simp [ProcPc.rank]) cells⟩
    · exact absurd hstep (by simp)

theorem Inv.step (h : s.Inv cells) {a : CmdqStep D} {r : Except Fault (Cmdq D)}
    (hquiet : s.Undisturbed a) (hstep : s.step a = some r) :
    ∃ s' cells', r = .ok s' ∧ s'.Inv cells' := by
  cases a with
  | call thread data =>
    simp only [Cmdq.step] at hstep
    split at hstep
    next hproc hidle =>
      obtain rfl := Option.some_inj.1 hstep
      exact ⟨_, cells, rfl, h.call data hidle fun _ => ⟨_, hproc⟩⟩
    next hidle =>
      obtain rfl := Option.some_inj.1 hstep
      exact ⟨_, cells, rfl, h.call data hidle (by simp)⟩
    · exact absurd hstep (by simp)
  | post thread item => exact h.postStep (fun kind => hquiet (some thread) kind rfl) hstep
  | process =>
    obtain ⟨s', cells', hr, hinv, -⟩ := h.procStep (fun kind => hquiet none kind rfl) hstep
    exact ⟨s', cells', hr, hinv⟩
  | wake =>
    rw [Cmdq.step] at hstep
    split at hstep
    next hproc =>
      obtain rfl := Option.some_inj.1 hstep
      exact ⟨_, cells, rfl, h.wake hproc⟩
    · exact absurd hstep (by simp)

end Cmdq

end Axon7.Dispatch
