import Axon7.GpsUtils.Order

/-!
# The timerfd is armed in time

Re-arming is left to two moments: a message that puts another timer on top of
the heap, and the end of an expiry. In between the poll thread may disarm the
descriptor at any time, but it only does so on its way to posting an expire
message. So a container is armed for its soonest timer, once the message task
has made the system calls it owes, unless an expire message is on its way.

No message needs to come from a client: the posts of a run are arbitrary.
-/

namespace Axon7.GpsUtils

open Axon7.Lib

namespace LocTimerContainer

/-- The timerfd is armed and polled for the timer on top, if there is one. -/
def Armed (c : LocTimerContainer) : Prop :=
  ∀ top, c.getSoonestTimer = some top →
    c.polled = true ∧ ∃ t, c.armed = some t ∧ t ≤ top.mFutureTime

/-- The container after the calls. -/
def calls (c : LocTimerContainer) (todo : List SysCall) : LocTimerContainer :=
  todo.foldl call c

@[simp] theorem calls_nil (c : LocTimerContainer) : c.calls [] = c := rfl

@[simp] theorem calls_cons (c : LocTimerContainer) (a : SysCall)
    (todo : List SysCall) : c.calls (a :: todo) = (c.call a).calls todo := rfl

theorem updateSoonestTime_self (c : LocTimerContainer) :
    c.updateSoonestTime c.getSoonestTimer = [] := by
  rw [updateSoonestTime, if_neg (fun h => h rfl)]

theorem updateSoonestTime_some {c : LocTimerContainer}
    {curTop : LocTimerDelegate} (hcur : c.getSoonestTimer = some curTop)
    {priorTop : Option LocTimerDelegate} (hne : priorTop ≠ some curTop)
    (hout : ∀ prior, priorTop = some prior → curTop.outRanks prior = true) :
    c.updateSoonestTime priorTop =
      [.addPoll, .settime (some curTop.mFutureTime)] := by
  have hall : priorTop.all curTop.outRanks = true := by
    cases priorTop with
    | none => rfl
    | some prior => exact hout prior rfl
  rw [updateSoonestTime, hcur, if_pos (fun h => hne h.symm)]
  exact if_pos hall

theorem arm_armed {c : LocTimerContainer} {curTop : LocTimerDelegate}
    (hcur : c.getSoonestTimer = some curTop) :
    (c.calls [.addPoll, .settime (some curTop.mFutureTime)]).Armed := by
  intro top htop
  obtain rfl : curTop = top := Option.some.inj (hcur.symm.trans htop)
  exact ⟨rfl, _, rfl, Timespec.le_refl _⟩

theorem updateSoonestTime_none (c : LocTimerContainer) :
    (c.calls (c.updateSoonestTime none)).Armed := by
  cases hcur : c.getSoonestTimer with
  | none =>
    intro top htop
    have hnil : c.updateSoonestTime none = [] := by
      rw [← hcur, updateSoonestTime_self]
    rw [hnil, calls_nil, hcur] at htop
    cases htop
  | some curTop =>
    rw [updateSoonestTime_some hcur (by simp) (by simp)]
    exact arm_armed hcur

theorem outRanks_self (timer : LocTimerDelegate) :
    timer.outRanks timer = false := by
  have h0 : toInt 0 = 0 := rfl
  simp [LocTimerDelegate.outRanks, ranks, h0]

theorem push_armed {c : LocTimerContainer} (h : c.Armed)
    (timer : LocTimerDelegate) :
    ((c.push timer).calls
      ((c.push timer).updateSoonestTime c.getSoonestTimer)).Armed := by
  obtain ⟨hnew, hout⟩ | ⟨hsame, -⟩ :=
    LocHeapNode.push_peek LocTimerDelegate.outRanks c.mTree timer
  · -- the new timer is on top: it outranks the prior one, if there was one
    have hne : c.getSoonestTimer ≠ some timer := by
      intro heq
      have hself := hout timer heq
      rw [outRanks_self] at hself
      cases hself
    have htop : (c.push timer).getSoonestTimer = some timer := hnew
    rw [updateSoonestTime_some htop hne hout]
    exact arm_armed htop
  · have hpeek : c.getSoonestTimer = (c.push timer).getSoonestTimer :=
      hsame.symm
    rw [hpeek, updateSoonestTime_self, calls_nil]
    intro top htop
    exact h top (hpeek.trans htop)

theorem remove_armed {c : LocTimerContainer} (h : c.Armed)
    (timer : LocTimerDelegate) :
    ((c.remove timer).1.calls
      (if c.getSoonestTimer = (c.remove timer).2 then
        (c.remove timer).1.updateSoonestTime none else [])).Armed := by
  split
  · exact updateSoonestTime_none _
  · next hne =>
      intro top htop
      have hpeek : (c.remove timer).1.getSoonestTimer = c.getSoonestTimer :=
        LocHeapNode.remove_peek c.mTree timer fun heq => hne heq.symm
      exact h top (hpeek.symm.trans htop)

end LocTimerContainer

namespace Service

/-! ## An expire message on its way -/

/-- The calls the message task still owes the container. -/
def pending (s : Service) (wake : Bool) : List SysCall :=
  match s.task with
  | .calls wake' todo => if wake' = wake then todo else []
  | _ => []

/-- The message task is in `MsgTimerExpire::proc` of the container. -/
def Expiring (s : Service) (wake : Bool) : Prop :=
  match s.task with
  | .calls _ _ => False
  | .expiring wake' _ _ => wake' = wake
  | .calling wake' _ _ => wake' = wake

instance (s : Service) (wake : Bool) : Decidable (s.Expiring wake) := by
  unfold Expiring
  split <;> infer_instance

/-- An expire message of the container is being processed, is in the queue,
or is about to be posted by the poll thread, which has disarmed already. -/
def ExpirePending (s : Service) (wake : Bool) : Prop :=
  s.Expiring wake ∨ .expire wake ∈ s.queue ∨
    (wake, PollAct.sendExpire) ∈ s.poll ∧ (wake, PollAct.disarm) ∉ s.poll

instance (s : Service) (wake : Bool) : Decidable (s.ExpirePending wake) :=
  inferInstanceAs (Decidable (_ ∨ _))

/-- Whatever the poll thread does to a descriptor, the message follows and
no second disarm comes before it. -/
def PollOk : List (Bool × PollAct) → Prop
  | [] => True
  | (wake, act) :: poll =>
    (act ≠ .sendExpire →
      (wake, .sendExpire) ∈ poll ∧ (wake, .disarm) ∉ poll) ∧ PollOk poll

theorem pollOk_expireActs {ready : List Bool} (hnd : ready.Nodup) :
    PollOk (ready.flatMap expireActs) := by
  induction ready with
  | nil => exact trivial
  | cons wake ready ih =>
    rw [List.nodup_cons] at hnd
    have hno : (wake, PollAct.disarm) ∉ ready.flatMap expireActs := by
      intro hin
      obtain ⟨wake', hw, hin⟩ := List.mem_flatMap.mp hin
      obtain rfl : wake = wake' := by
        simpa [expireActs] using hin
      exact hnd.1 hw
    simp [expireActs, PollOk, hno] at ih ⊢
    exact ih hnd.2

/-- Once the message task has made the calls it owes, the container is armed
for its soonest timer, or an expire message is on its way. -/
def ContInv (s : Service) (wake : Bool) : Prop :=
  s.ExpirePending wake ∨ ((s.cont wake).calls (s.pending wake)).Armed

/-- The invariant of the service. -/
structure Inv (s : Service) : Prop where
  armed : ∀ wake, s.ContInv wake
  poll : PollOk s.poll

theorem inv_start (clock : Timespec) : (start clock).Inv where
  armed wake := by
    refine .inr ?_
    rw [show (start clock).pending wake = [] by simp [pending, start]]
    intro top htop
    cases htop
  poll := trivial

section Steps

variable {s s' : Service} {wake : Bool}

theorem ContInv.frame (h : s.ContInv wake) (hc : s'.cont wake = s.cont wake)
    (ht : s'.task = s.task)
    (hq : .expire wake ∈ s.queue → .expire wake ∈ s'.queue)
    (hp : (wake, PollAct.sendExpire) ∈ s.poll ∧
        (wake, PollAct.disarm) ∉ s.poll →
      (wake, PollAct.sendExpire) ∈ s'.poll ∧
        (wake, PollAct.disarm) ∉ s'.poll) : s'.ContInv wake := by
  rw [ContInv, ExpirePending, Expiring, pending, hc, ht]
  obtain (hexp | hqueue | hpoll) | harm := h
  · exact .inl (.inl hexp)
  · exact .inl (.inr (.inl (hq hqueue)))
  · exact .inl (.inr (.inr (hp hpoll)))
  · exact .inr harm

theorem inv_tick (h : s.Inv) (now : Timespec) : (s.tick now).Inv := by
  rw [tick]
  split
  · exact ⟨fun wake => (h.armed wake).frame rfl rfl id id, h.poll⟩
  · exact h

theorem inv_sendMsg (h : s.Inv) (msg : Msg) : (s.sendMsg msg).Inv where
  armed wake := (h.armed wake).frame rfl rfl
    (fun hq => List.mem_append_left _ hq) id
  poll := h.poll

theorem inv_wakePoll (h : s.Inv) (ready : List Bool) :
    (s.wakePoll ready).Inv := by
  rw [wakePoll]
  split
  · next hen =>
      obtain ⟨hnil, hnd, -⟩ := hen
      refine ⟨fun wake => (h.armed wake).frame rfl rfl id ?_,
        pollOk_expireActs hnd⟩
      intro hpoll
      rw [hnil] at hpoll
      cases hpoll.1
  · exact h

theorem inv_pollStep (h : s.Inv) : s.pollStep.Inv := by
  have hok := h.poll
  -- past its own entry the poll thread still owes the other containers theirs
  have htail : ∀ {wake wake0 act poll}, s.poll = (wake0, act) :: poll →
      wake ≠ wake0 → (wake, PollAct.sendExpire) ∈ s.poll ∧
        (wake, PollAct.disarm) ∉ s.poll →
      (wake, PollAct.sendExpire) ∈ poll ∧ (wake, PollAct.disarm) ∉ poll := by
    intro wake wake0 act poll heq hw hpoll
    simpa [heq, hw] using hpoll
  rw [pollStep]
  split
  · exact h
  · next wake0 poll heq =>
      rw [heq] at hok
      refine ⟨fun wake => ?_, hok.2⟩
      by_cases hw : wake = wake0
      · exact .inl (.inr (.inr (hw ▸ hok.1 (by decide))))
      · exact (h.armed wake).frame (Function.update_of_ne hw _ _) rfl id
          (htail heq hw)
  · next wake0 poll heq =>
      rw [heq] at hok
      refine ⟨fun wake => ?_, hok.2⟩
      by_cases hw : wake = wake0
      · exact .inl (.inr (.inr (hw ▸ hok.1 (by decide))))
      · exact (h.armed wake).frame (Function.update_of_ne hw _ _) rfl id
          (htail heq hw)
  · next wake0 poll heq =>
      rw [heq] at hok
      refine ⟨fun wake => ?_, hok.2⟩
      by_cases hw : wake = wake0
      · exact .inl (.inr (.inl (List.mem_append_right _ (by simp [hw]))))
      · exact (h.armed wake).frame rfl rfl
          (fun hq => List.mem_append_left _ hq) (htail heq hw)

theorem ContInv.task (h : s.ContInv wake) (hexp : ¬ s.Expiring wake)
    (hpend : s.pending wake = []) (hpoll : s'.poll = s.poll)
    (hq : .expire wake ∈ s.queue → .expire wake ∈ s'.queue)
    (harm : (s.cont wake).Armed →
      ((s'.cont wake).calls (s'.pending wake)).Armed) : s'.ContInv wake := by
  obtain (hexp' | hqueue | hpoll') | harmed := h
  · exact absurd hexp' hexp
  · exact .inl (.inr (.inl (hq hqueue)))
  · exact .inl (.inr (.inr (hpoll ▸ hpoll')))
  · rw [hpend] at harmed
    exact .inr (harm harmed)

theorem contInv_proc {wake0 : Bool} {msg : Msg} {queue : List Msg}
    (h : s.ContInv wake) (htask : s.task = .calls wake0 [])
    (hqueue : s.queue = msg :: queue) :
    ({ s with queue := queue }.proc msg).ContInv wake := by
  have hexp : ¬ s.Expiring wake := by simp [Expiring, htask]
  have hpend : s.pending wake = [] := by simp [pending, htask]
  have hrest : .expire wake ∈ s.queue → msg ≠ .expire wake →
      .expire wake ∈ queue := by
    intro hin hne
    rw [hqueue] at hin
    exact (List.mem_cons.mp hin).resolve_left fun heq => hne heq.symm
  cases msg with
  | push wake1 timer =>
    refine h.task hexp hpend rfl (fun hin => hrest hin (by simp)) ?_
    intro harm
    by_cases hw : wake = wake1
    · subst hw
      simpa [proc, setCont, pending] using LocTimerContainer.push_armed harm timer
    · simpa [proc, setCont, pending, hw, Ne.symm hw] using harm
  | remove wake1 timer =>
    refine h.task hexp hpend rfl (fun hin => hrest hin (by simp)) ?_
    intro harm
    by_cases hw : wake = wake1
    · subst hw
      simpa [proc, setCont, pending] using
        LocTimerContainer.remove_armed harm timer
    · simpa [proc, setCont, pending, hw, Ne.symm hw] using harm
  | expire wake1 =>
    by_cases hw : wake1 = wake
    · exact .inl (.inl hw)
    · refine h.task hexp hpend rfl (fun hin => hrest hin (by simp [hw])) ?_
      exact fun harm => harm

theorem inv_taskStep (h : s.Inv) : s.taskStep.Inv := by
  have hpoll : s.taskStep.poll = s.poll := by
    rw [taskStep]
    split
    · rfl
    · split
      · rfl
      · next msg _ _ => cases msg <;> rfl
    · split <;> rfl
    · rfl
  refine ⟨fun wake => ?_, hpoll ▸ h.poll⟩
  rw [taskStep]
  split
  · next wake0 call todo htask =>
      by_cases hw : wake0 = wake
      · subst hw
        simpa [ContInv, ExpirePending, Expiring, pending, htask, setCont]
          using h.armed wake0
      · refine (h.armed wake).task (by simp [Expiring, htask])
          (by simp [pending, htask, hw]) rfl id ?_
        simp [setCont, pending, hw, Ne.symm hw]
  · next wake0 htask =>
      split
      · exact h.armed wake
      · next msg queue hqueue => exact contInv_proc (h.armed wake) htask hqueue
  · next wake0 now first htask =>
      by_cases hw : wake0 = wake
      · subst hw
        split
        · exact .inl (.inl rfl)
        · refine .inr ?_
          simpa [setCont, pending] using
            LocTimerContainer.updateSoonestTime_none _
      · have hexp : ¬ s.Expiring wake := by simp [Expiring, htask, hw]
        have hpend : s.pending wake = [] := by simp [pending, htask]
        split
        · refine (h.armed wake).task hexp hpend rfl id ?_
          simp [setCont, pending, Ne.symm hw]
        · refine (h.armed wake).task hexp hpend rfl id ?_
          simp [setCont, pending, hw, Ne.symm hw]
  · next wake0 now timer htask =>
      by_cases hw : wake0 = wake
      · exact .inl (.inl hw)
      · exact (h.armed wake).task (by simp [Expiring, htask, hw])
          (by simp [pending, htask]) rfl id fun harm => harm

theorem inv_step (h : s.Inv) (o : Step) : (s.step o).Inv := by
  cases o with
  | tick now => exact inv_tick h now
  | send msg => exact inv_sendMsg h msg
  | wakePoll ready => exact inv_wakePoll h ready
  | poll => exact inv_pollStep h
  | task => exact inv_taskStep h

end Steps

/-! ## Every run -/

theorem inv_run (clock : Timespec) (steps : List Step) :
    ((start clock).run steps).Inv :=
  foldl_invariant Inv (fun _ => True) (fun _ o h _ => inv_step h o)
    (inv_start clock) steps fun _ _ => trivial

/-- However the threads interleave: a container with a timer, no expire message on its way
and no system call outstanding is polled, and armed no later than the timer on top. That
is the soonest one as long as the times pushed fit the `int` of `ranks`. -/
theorem run_armed (clock : Timespec) (steps : List Step) (wake : Bool)
    (hno : ¬ ((start clock).run steps).ExpirePending wake)
    (hdone : ((start clock).run steps).pending wake = [])
    (hne : (((start clock).run steps).cont wake).mTree ≠ .null) :
    (((start clock).run steps).cont wake).polled = true ∧
      ∃ t, (((start clock).run steps).cont wake).armed = some t ∧
        (∃ top, (((start clock).run steps).cont wake).getSoonestTimer =
          some top ∧ t ≤ top.mFutureTime) ∧
        ((∀ o ∈ steps, o.InRange) →
          ∀ timer ∈ (((start clock).run steps).cont wake).mTree.elements,
            t ≤ timer.mFutureTime) := by
  have harm := ((inv_run clock steps).armed wake).resolve_left hno
  rw [hdone, LocTimerContainer.calls_nil] at harm
  obtain ⟨top, htop⟩ := Option.ne_none_iff_exists'.mp
    fun hnone => hne (LocHeapNode.peek_eq_none.mp hnone)
  obtain ⟨hpolled, t, ht, hle⟩ := harm top htop
  refine ⟨hpolled, t, ht, ⟨top, htop, hle⟩, ?_⟩
  intro hrange timer hmem
  exact Timespec.le_trans hle
    (((ordered_run clock hrange).cont wake).soonest htop timer hmem)

/-- A timer is pushed, goes off and is expired behind a later one that was
pushed while the wake-up was on its way. -/
def twoTimers : List Step :=
  [.send (.push false ⟨1, ⟨5, 0, by decide, by decide⟩⟩), .task, .task, .task,
    .tick ⟨6, 0, by decide, by decide⟩, .wakePoll [false], .poll,
    .send (.push false ⟨2, ⟨9, 0, by decide, by decide⟩⟩), .task, .poll, .poll,
    .task, .task, .task, .task, .task, .task]

theorem run_armed_twoTimers :
    (((start ⟨1, 0, by decide, by decide⟩).run twoTimers).cont
        false).polled = true ∧
      ∃ t, (((start ⟨1, 0, by decide, by decide⟩).run twoTimers).cont
          false).armed = some t ∧
        ∃ top, (((start ⟨1, 0, by decide, by decide⟩).run twoTimers).cont
          false).getSoonestTimer = some top ∧ t ≤ top.mFutureTime := by
  obtain ⟨hpolled, t, ht, htop, -⟩ :=
    run_armed ⟨1, 0, by decide, by decide⟩ twoTimers false
      (by decide +kernel) (by decide +kernel) (by decide +kernel)
  exact ⟨hpolled, t, ht, htop⟩

end Service

end Axon7.GpsUtils
