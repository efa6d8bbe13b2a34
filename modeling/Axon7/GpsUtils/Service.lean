import Axon7.GpsUtils.Heap

/-!
# The timer service

Two `LocTimerContainer`s, one for timers and one for alarms, share a message
task and a poll thread. All heap work is done by the message task, one message
at a time; the poll thread turns a timerfd that has gone off into a
`MsgTimerExpire`. The two threads and the clients run side by side, so the
service moves in small steps: one system call, one payload popped, one message
posted at a time, in any order.
-/

namespace Axon7.GpsUtils

/-! ## Times -/

/-- A `timespec` of the boot clock, or one that lies ahead of it: normalised,
and never the zero by which `timerfd_settime` disarms. -/
structure Timespec where
  tvSec : Nat
  tvNsec : Nat
  nsec_lt : tvNsec < 1000000000
  booted : 0 < tvSec ∨ 0 < tvNsec
deriving DecidableEq

namespace Timespec

def toNsec (t : Timespec) : Nat := t.tvSec * 1000000000 + t.tvNsec

instance : LE Timespec := ⟨fun t t' => t.toNsec ≤ t'.toNsec⟩

instance (t t' : Timespec) : Decidable (t ≤ t') :=
  inferInstanceAs (Decidable (t.toNsec ≤ t'.toNsec))

theorem le_def {t t' : Timespec} : t ≤ t' ↔ t.toNsec ≤ t'.toNsec := Iff.rfl

theorem le_refl (t : Timespec) : t ≤ t := Nat.le_refl _

theorem le_trans {t t' t'' : Timespec} (h : t ≤ t') (h' : t' ≤ t'') :
    t ≤ t'' := Nat.le_trans h h'

theorem tvSec_le {t t' : Timespec} (h : t ≤ t') : t.tvSec ≤ t'.tvSec := by
  have hlt := t.nsec_lt
  have hlt' := t'.nsec_lt
  rw [le_def, toNsec, toNsec] at h
  omega

end Timespec

/-- The conversion of a `long` to an `int`. -/
def toInt (z : Int) : Int := z.bmod 4294967296

theorem toInt_of_lt {z : Int} (h : -2147483648 ≤ z) (h' : z < 2147483648) :
    toInt z = z := by
  rw [toInt, Int.bmod]
  split <;> omega

/-- `LocTimerDelegate::ranks` of the timer at `this` against the one at
`timer`: the later time ranks lower. -/
def ranks (this timer : Timespec) : Int :=
  let rank := toInt (timer.tvSec - this.tvSec)
  if 0 = rank then toInt (timer.tvNsec - this.tvNsec) else rank

/-- A timer in the service. The address stands for the object: a new
delegate has a new one. -/
structure LocTimerDelegate where
  addr : Nat
  mFutureTime : Timespec
deriving DecidableEq

def LocTimerDelegate.outRanks (this timer : LocTimerDelegate) : Bool :=
  ranks this.mFutureTime timer.mFutureTime > 0

/-! ## Containers -/

/-- What the message task and the poll thread ask of the kernel. A `settime`
without a time disarms. -/
inductive SysCall
  | addPoll
  | removePoll
  | settime (value : Option Timespec)

/-- A heap of timers with its timerfd: the time the timerfd is armed for and
whether the descriptor is in the poll set. -/
structure LocTimerContainer where
  mTree : LocHeapNode LocTimerDelegate
  armed : Option Timespec
  polled : Bool

namespace LocTimerContainer

def getSoonestTimer (c : LocTimerContainer) : Option LocTimerDelegate :=
  c.mTree.peek

/-- The call done: adding a descriptor twice and removing an absent one
change nothing. -/
def call (c : LocTimerContainer) : SysCall → LocTimerContainer
  | .addPoll => { c with polled := true }
  | .removePoll => { c with polled := false }
  | .settime value => { c with armed := value }

/-- The calls `updateSoonestTime` makes. -/
def updateSoonestTime (c : LocTimerContainer)
    (priorTop : Option LocTimerDelegate) : List SysCall :=
  if c.getSoonestTimer ≠ priorTop then
    match c.getSoonestTimer with
    | none => [.removePoll, .settime none]
    | some curTop =>
      -- no prior top, or one that ranks lower
      if priorTop.all curTop.outRanks then
        [.addPoll, .settime (some curTop.mFutureTime)]
      else []
  else []

/-- `LocHeap::push`. -/
def push (c : LocTimerContainer) (timer : LocTimerDelegate) :
    LocTimerContainer :=
  { c with mTree := c.mTree.push LocTimerDelegate.outRanks timer }

/-- `LocHeap::pop`. -/
def pop (c : LocTimerContainer) :
    LocTimerContainer × Option LocTimerDelegate :=
  let (mTree, popped) := c.mTree.pop LocTimerDelegate.outRanks
  ({ c with mTree := mTree }, popped)

/-- `popIfOutRanks` of a timer at `now`. -/
def popIfOutRanks (c : LocTimerContainer) (now : Timespec) :
    LocTimerContainer × Option LocTimerDelegate :=
  match c.mTree.peek with
  | none => (c, none)
  | some top => if ranks now top.mFutureTime > 0 then (c, none) else c.pop

/-- `LocHeap::remove`. -/
def remove (c : LocTimerContainer) (timer : LocTimerDelegate) :
    LocTimerContainer × Option LocTimerDelegate :=
  let (mTree, removed) := c.mTree.remove LocTimerDelegate.outRanks timer
  ({ c with mTree := mTree }, removed)

end LocTimerContainer

/-! ## The threads -/

/-- The messages to a container; the containers go by `wakeOnExpire`. -/
inductive Msg
  | push (wake : Bool) (timer : LocTimerDelegate)
  | remove (wake : Bool) (timer : LocTimerDelegate)
  | expire (wake : Bool)
deriving DecidableEq

/-- Where the message task stands: making the system calls it still owes; at the head of the
loop of `MsgTimerExpire::proc`, for the first time or again; or in the `expire()` of a timer
popped there. -/
inductive Task
  | calls (wake : Bool) (todo : List SysCall)
  | expiring (wake : Bool) (now : Timespec) (first : Bool)
  | calling (wake : Bool) (now : Timespec) (timer : LocTimerDelegate)

/-- What the poll thread does in `LocTimerContainer::expire`. -/
inductive PollAct
  | disarm
  | removePoll
  | sendExpire
deriving DecidableEq

/-- The calls of `LocTimerContainer::expire`, in order. -/
def expireActs (wake : Bool) : List (Bool × PollAct) :=
  [(wake, .disarm), (wake, .removePoll), (wake, .sendExpire)]

/-- The containers, the queue and position of the message task, what the poll
thread has to do before it is back in `epoll_wait`, and the boot clock. -/
structure Service where
  cont : Bool → LocTimerContainer
  queue : List Msg
  task : Task
  poll : List (Bool × PollAct)
  clock : Timespec

/-- What a step of the message task does that others can tell. -/
inductive Event
  | expired (timer : LocTimerDelegate) (time : Timespec)
  | removed (timer : LocTimerDelegate)
deriving DecidableEq

namespace Service

/-- The service before its first timer. -/
def start (clock : Timespec) : Service where
  cont _ := { mTree := .null, armed := none, polled := false }
  queue := []
  task := .calls false []
  poll := []
  clock := clock

def setCont (s : Service) (wake : Bool) (c : LocTimerContainer) : Service :=
  { s with cont := Function.update s.cont wake c }

theorem setCont_self (s : Service) (wake : Bool) (c : LocTimerContainer) :
    (s.setCont wake c).cont wake = c := Function.update_self ..

theorem setCont_ne (s : Service) {wake wake' : Bool} (h : wake' ≠ wake)
    (c : LocTimerContainer) :
    (s.setCont wake c).cont wake' = s.cont wake' := Function.update_of_ne h ..

def sendMsg (s : Service) (msg : Msg) : Service :=
  { s with queue := s.queue ++ [msg] }

/-- `proc` of the message, up to its first system call or to the loop of an
expiry. -/
def proc (s : Service) : Msg → Service
  | .push wake timer =>
    let priorTop := (s.cont wake).getSoonestTimer
    let c := (s.cont wake).push timer
    { s.setCont wake c with task := .calls wake (c.updateSoonestTime priorTop) }
  | .remove wake timer =>
    let priorTop := (s.cont wake).getSoonestTimer
    let (c, removed) := (s.cont wake).remove timer
    { s.setCont wake c with
      task := .calls wake
        (if priorTop = removed then c.updateSoonestTime none else []) }
  | .expire wake => { s with task := .expiring wake s.clock true }

/-- The pop at the head of the loop: the first one is unconditional. -/
def popNext (s : Service) (wake : Bool) (now : Timespec) (first : Bool) :
    LocTimerContainer × Option LocTimerDelegate :=
  if first then (s.cont wake).pop else (s.cont wake).popIfOutRanks now

/-- One step of the message task. -/
def taskStep (s : Service) : Service :=
  match s.task with
  | .calls wake (call :: todo) =>
    { s.setCont wake ((s.cont wake).call call) with
      task := .calls wake todo }
  | .calls _ [] =>
    match s.queue with
    | [] => s
    | msg :: queue => { s with queue := queue }.proc msg
  | .expiring wake now first =>
    match s.popNext wake now first with
    | (c, some timer) =>
      { s.setCont wake c with task := .calling wake now timer }
    | (c, none) =>
      { s.setCont wake c with
        task := .calls wake (c.updateSoonestTime none) }
  | .calling wake now _ => { s with task := .expiring wake now false }

/-- What the next step of the message task does: it calls `expire()` on the
timer it pops, or it processes the remove message of a timer. -/
def taskEvents (s : Service) : List Event :=
  match s.task with
  | .expiring wake now first =>
    match (s.popNext wake now first).2 with
    | some timer => [.expired timer s.clock]
    | none => []
  | .calls _ [] =>
    match s.queue with
    | .remove _ timer :: _ => [.removed timer]
    | _ => []
  | _ => []

/-- One step of the poll thread inside `LocTimerContainer::expire`. -/
def pollStep (s : Service) : Service :=
  match s.poll with
  | [] => s
  | (wake, .disarm) :: poll =>
    { s.setCont wake ((s.cont wake).call (.settime none)) with poll := poll }
  | (wake, .removePoll) :: poll =>
    { s.setCont wake ((s.cont wake).call .removePoll) with poll := poll }
  | (wake, .sendExpire) :: poll =>
    { s.sendMsg (.expire wake) with poll := poll }

/-- `epoll_wait` may report the descriptor: it is in the poll set and its
timerfd has gone off. -/
def Ready (s : Service) (wake : Bool) : Prop :=
  (s.cont wake).polled = true ∧ ∃ t ∈ (s.cont wake).armed, t ≤ s.clock

instance (s : Service) (wake : Bool) : Decidable (s.Ready wake) :=
  inferInstanceAs (Decidable (_ ∧ _))

/-- `epoll_wait` returns with these containers and the poll thread turns to
the `expire()` of each. -/
def wakePoll (s : Service) (ready : List Bool) : Service :=
  if s.poll = [] ∧ ready.Nodup ∧ ∀ wake ∈ ready, s.Ready wake then
    { s with poll := ready.flatMap expireActs }
  else s

/-- The clock moves on. -/
def tick (s : Service) (now : Timespec) : Service :=
  if s.clock ≤ now then { s with clock := now } else s

/-- What can happen next: time passes, some thread posts a message, the poll
thread wakes up or goes on, the message task goes on. A step that is not
possible changes nothing. -/
inductive Step
  | tick (now : Timespec)
  | send (msg : Msg)
  | wakePoll (ready : List Bool)
  | poll
  | task

def step (s : Service) : Step → Service
  | .tick now => s.tick now
  | .send msg => s.sendMsg msg
  | .wakePoll ready => s.wakePoll ready
  | .poll => s.pollStep
  | .task => s.taskStep

/-- The service after the steps. -/
def run (s : Service) (steps : List Step) : Service := steps.foldl step s

end Service

end Axon7.GpsUtils

/-!
# LocTimer and its clients

`LocTimer::start` makes a delegate and posts its push, `LocTimer::stop` posts
its remove, each under the lock of the `LocTimer`; so does the message task
when it expires a delegate, through the same `stop`. Every step here is a step
of the service, with the messages that clients post for steps of its
environment.
-/

namespace Axon7.GpsUtils

/-- The time `start` computes from the boot clock. -/
def futureTime (now : Timespec) (timeOutInMs : UInt32) : Timespec :=
  let tvSec := now.tvSec + timeOutInMs.toNat / 1000
  let tvNsec := now.tvNsec + timeOutInMs.toNat % 1000 * 1000000
  if h : 1000000000 ≤ tvNsec then
    ⟨tvSec + tvNsec / 1000000000, tvNsec % 1000000000,
      Nat.mod_lt _ (by decide), by omega⟩
  else
    ⟨tvSec, tvNsec, by omega, by have := now.booted; omega⟩

/-- A `LocTimer` object: its delegate, and what `start` has computed while it
holds `mLock`. -/
structure LocTimer where
  mTimer : Option LocTimerDelegate
  starting : Option (Bool × Timespec)

/-- The service with its clients. The fields of a delegate that change,
`mClient` and `mContainer`, go by its address; `callee` is the client that
`LocTimerDelegate::expire` has read before it stops it. -/
structure System where
  svc : Service
  timers : Nat → LocTimer
  mClient : Nat → Option Nat
  mContainer : Nat → Option Bool
  callee : Option Nat
  nextAddr : Nat

/-- What can happen next, by thread: time, a client in its `start` or `stop`,
the poll thread, the message task. -/
inductive Act
  | tick (now : Timespec)
  | startRead (client : Nat) (timeOutInMs : UInt32) (wakeOnExpire : Bool)
  | startPost (client : Nat)
  | stop (client : Nat)
  | wakePoll (ready : List Bool)
  | poll
  | task

namespace System

/-- No timer has been started yet. -/
def start (clock : Timespec) : System where
  svc := Service.start clock
  timers _ := { mTimer := none, starting := none }
  mClient _ := none
  mContainer _ := none
  callee := none
  nextAddr := 0

/-- `LocTimer::start` up to the time it will use: the lock is taken if it is
free and there is no timer yet. -/
def startRead (s : System) (client : Nat) (timeOutInMs : UInt32)
    (wakeOnExpire : Bool) : System :=
  let timer := s.timers client
  let future := futureTime s.svc.clock timeOutInMs
  if timer.starting = none ∧ timer.mTimer = none then
    { s with
      timers := Function.update s.timers client
        { timer with starting := some (wakeOnExpire, future) } }
  else s

/-- The rest of `LocTimer::start`: a new delegate posts its own push, and the
lock is released. -/
def startPost (s : System) (client : Nat) : System :=
  match (s.timers client).starting with
  | none => s
  | some (wake, mFutureTime) =>
    let timer : LocTimerDelegate := ⟨s.nextAddr, mFutureTime⟩
    { s with
      svc := s.svc.sendMsg (.push wake timer)
      timers := Function.update s.timers client
        { mTimer := some timer, starting := none }
      mClient := Function.update s.mClient s.nextAddr (some client)
      mContainer := Function.update s.mContainer s.nextAddr (some wake)
      nextAddr := s.nextAddr + 1 }

/-- `LocTimerDelegate::destroyLocked`. -/
def destroyLocked (s : System) (timer : LocTimerDelegate) : System :=
  let s := { s with mClient := Function.update s.mClient timer.addr none }
  match s.mContainer timer.addr with
  | none => s
  | some wake =>
    { s with
      svc := s.svc.sendMsg (.remove wake timer)
      mContainer := Function.update s.mContainer timer.addr none }

/-- `LocTimer::stop` with the lock taken. -/
def stop (s : System) (client : Nat) : System :=
  match (s.timers client).mTimer with
  | none => s
  | some timer =>
    { s with
      timers := Function.update s.timers client
        { s.timers client with mTimer := none } }.destroyLocked timer

/-- One step of the message task. In `LocTimerDelegate::expire` it first
reads the client, then stops it, for which it has to get the lock. -/
def taskStep (s : System) : System :=
  match s.svc.task with
  | .calling _ _ timer =>
    match s.callee with
    | none =>
      match s.mClient timer.addr with
      | none => { s with svc := s.svc.taskStep }
      | some client => { s with callee := some client }
    | some client =>
      if (s.timers client).starting = none then
        let s := s.stop client
        { s with svc := s.svc.taskStep, callee := none }
      else s
  | _ => { s with svc := s.svc.taskStep }

def step (s : System) : Act → System
  | .tick now => { s with svc := s.svc.tick now }
  | .startRead client timeOutInMs wakeOnExpire =>
    s.startRead client timeOutInMs wakeOnExpire
  | .startPost client => s.startPost client
  | .stop client =>
    if (s.timers client).starting = none then s.stop client else s
  | .wakePoll ready => { s with svc := s.svc.wakePoll ready }
  | .poll => { s with svc := s.svc.pollStep }
  | .task => s.taskStep

/-- What the act does that the claims of the service are about. -/
def events (s : System) : Act → List Event
  | .task => s.svc.taskEvents
  | _ => []

/-- The events of a run, in order. -/
def trace (s : System) : List Act → List Event
  | [] => []
  | act :: acts => s.events act ++ (s.step act).trace acts

/-! ## Runs of the system are runs of the service -/

/-- The remove message a `stop` posts. -/
def stopSends (s : System) (client : Nat) : List Service.Step :=
  match (s.timers client).mTimer with
  | none => []
  | some timer =>
    match s.mContainer timer.addr with
    | none => []
    | some wake => [.send (.remove wake timer)]

/-- The steps of the service an act consists of. -/
def serviceSteps (s : System) : Act → List Service.Step
  | .tick now => [.tick now]
  | .startRead .. => []
  | .startPost client =>
    match (s.timers client).starting with
    | none => []
    | some (wake, mFutureTime) =>
      [.send (.push wake ⟨s.nextAddr, mFutureTime⟩)]
  | .stop client =>
    if (s.timers client).starting = none then s.stopSends client else []
  | .wakePoll ready => [.wakePoll ready]
  | .poll => [.poll]
  | .task =>
    match s.svc.task with
    | .calling _ _ timer =>
      match s.callee with
      | none => if s.mClient timer.addr = none then [.task] else []
      | some client =>
        if (s.timers client).starting = none then
          s.stopSends client ++ [.task]
        else []
    | _ => [.task]

theorem stop_svc (s : System) (client : Nat) :
    (s.stop client).svc = s.svc.run (s.stopSends client) := by
  rw [stop, stopSends]
  split
  · rfl
  · next timer _ =>
      rw [destroyLocked]
      dsimp only
      cases s.mContainer timer.addr <;> rfl

theorem step_svc (s : System) (act : Act) :
    (s.step act).svc = s.svc.run (s.serviceSteps act) := by
  cases act with
  | tick now =>
    rw [step, serviceSteps, Service.run, List.foldl_cons, List.foldl_nil,
      Service.step]
  | startRead client timeOutInMs wakeOnExpire =>
    show (s.startRead client timeOutInMs wakeOnExpire).svc = s.svc
    rw [startRead]
    split <;> rfl
  | startPost client =>
    rw [step, startPost, serviceSteps]
    split <;> rfl
  | stop client =>
    rw [step, serviceSteps]
    split
    · exact stop_svc s client
    · rfl
  | wakePoll ready => rfl
  | poll => rfl
  | task =>
    rw [step, taskStep, serviceSteps]
    split
    · next timer _ =>
        split
        · split
          · next h => rw [if_pos h]; rfl
          · next client h => rw [h]; rfl
        · split
          · next client _ _ =>
              rw [Service.run, List.foldl_append]
              show Service.taskStep (s.stop client).svc = _
              rw [stop_svc]
              rfl
          · rfl
    · rfl

end System

end Axon7.GpsUtils
