import Axon7.GpsUtils.Armed

/-!
# Stray alarms

An empty heap should have nobody waken the device. `updateSoonestTime` has a
branch for the empty heap that removes the descriptor from the poll set and
disarms it, but both callers that can find the heap empty pass no prior top,
and then nothing has changed. So the branch is never taken, and a descriptor
stays as it was when the last timer went: quiet if the poll thread had
silenced it and nobody armed it again, armed otherwise.
-/

namespace Axon7.GpsUtils

open Axon7.Lib

def Msg.wake : Msg → Bool
  | .push wake _ => wake
  | .remove wake _ => wake
  | .expire wake => wake

namespace Service

/-- The descriptor can wake nobody: it is disarmed or out of the poll set. -/
def Silent (s : Service) (wake : Bool) : Prop :=
  (s.cont wake).armed = none ∨ (s.cont wake).polled = false

/-- The poll thread is going to silence it. -/
def BeingSilenced (s : Service) (wake : Bool) : Prop :=
  (wake, PollAct.disarm) ∈ s.poll ∨ (wake, PollAct.removePoll) ∈ s.poll

/-- No message of the container is in the queue, being processed or about to
be posted. -/
def NoMsgPending (s : Service) (wake : Bool) : Prop :=
  (∀ msg ∈ s.queue, msg.wake ≠ wake) ∧ s.pending wake = [] ∧
    ¬ s.Expiring wake ∧ ∀ act ∈ s.poll, act.1 ≠ wake

/-- With an empty heap and no message pending the descriptor is silent. -/
def NoStray (s : Service) (wake : Bool) : Prop :=
  (s.cont wake).mTree = .null → s.NoMsgPending wake → s.Silent wake

instance (s : Service) (wake : Bool) : Decidable (s.Silent wake) :=
  inferInstanceAs (Decidable (_ ∨ _))

instance (s : Service) (wake : Bool) : Decidable (s.NoMsgPending wake) :=
  inferInstanceAs (Decidable (_ ∧ _ ∧ _ ∧ _))

instance (s : Service) (wake : Bool) : Decidable (s.NoStray wake) :=
  inferInstanceAs (Decidable (_ → _ → _))

/-- The next step of the message task takes the only timer of the container
out of its heap: it removes it, or pops it in an expiry. -/
def TakesLast (s : Service) (wake : Bool) : Prop :=
  match s.task with
  | .calls _ [] =>
    match s.queue with
    | .remove wake' timer :: _ =>
      wake' = wake ∧ (s.cont wake).mTree.elements = {timer}
    | _ => False
  | .expiring wake' now first =>
    wake' = wake ∧ ∃ timer ∈ (s.cont wake).getSoonestTimer,
      (s.cont wake).mTree.elements = {timer} ∧
        (first = true ∨ ¬ ranks now timer.mFutureTime > 0)
  | _ => False

instance (s : Service) (wake : Bool) : Decidable (s.TakesLast wake) := by
  unfold TakesLast
  refine s.task.casesOn (fun _ todo => ?_) (fun _ _ _ => ?_) fun _ _ _ => instDecidableFalse
  · refine todo.casesOn ?_ fun _ _ => instDecidableFalse
    refine s.queue.casesOn instDecidableFalse fun msg _ => ?_
    refine msg.casesOn ?_ ?_ ?_
    all_goals
      intros
      dsimp only
      infer_instance
  · dsimp only
    infer_instance

instance (s : Service) (wake : Bool) : Decidable (s.BeingSilenced wake) :=
  inferInstanceAs (Decidable (_ ∨ _))

/-- An empty heap owes no call, and its descriptor is silent or will be. -/
def Quiet (s : Service) (wake : Bool) : Prop :=
  (s.cont wake).mTree = .null →
    s.pending wake = [] ∧ (s.Silent wake ∨ s.BeingSilenced wake)

section Steps

variable {s s' : Service} {wake : Bool}

theorem quiet_start (clock : Timespec) (wake : Bool) :
    (start clock).Quiet wake := fun _ => ⟨by simp [pending, start],
  .inl (.inl rfl)⟩

theorem Quiet.noStray (h : s.Quiet wake) : s.NoStray wake := by
  intro hnull hno
  obtain ⟨-, hsilent | hpoll⟩ := h hnull
  · exact hsilent
  · obtain hin | hin := hpoll
    · exact absurd rfl (hno.2.2.2 _ hin)
    · exact absurd rfl (hno.2.2.2 _ hin)

theorem Quiet.frame (h : s.Quiet wake) (hc : s'.cont wake = s.cont wake)
    (ht : s'.pending wake = s.pending wake)
    (hp : s.BeingSilenced wake → s'.BeingSilenced wake) : s'.Quiet wake := by
  rw [Quiet, Silent, hc, ht]
  intro hnull
  obtain ⟨hpend, hsilent⟩ := h hnull
  exact ⟨hpend, hsilent.imp id hp⟩

theorem Quiet.taken (h : s.Quiet wake)
    (hlast : s'.pending wake = [] ∨ (s'.cont wake).mTree ≠ .null)
    (htaken : (s.cont wake).mTree ≠ .null → (s'.cont wake).mTree = .null →
      s.Silent wake ∨ s.BeingSilenced wake)
    (harmed : (s'.cont wake).armed = (s.cont wake).armed)
    (hpolled : (s'.cont wake).polled = (s.cont wake).polled)
    (hpoll : s'.poll = s.poll) : s'.Quiet wake := by
  intro hnull
  refine ⟨hlast.resolve_right fun hne => hne hnull, ?_⟩
  rw [Silent, BeingSilenced, harmed, hpolled, hpoll]
  by_cases hold : (s.cont wake).mTree = .null
  · exact (h hold).2
  · exact htaken hold hnull

theorem quiet_tick (h : s.Quiet wake) (now : Timespec) :
    (s.tick now).Quiet wake := by
  rw [tick]
  split
  · exact h.frame rfl rfl id
  · exact h

theorem quiet_wakePoll (h : s.Quiet wake) (ready : List Bool) :
    (s.wakePoll ready).Quiet wake := by
  rw [wakePoll]
  split
  · next hen =>
      refine h.frame rfl rfl fun hsil => ?_
      rw [BeingSilenced, hen.1] at hsil
      obtain hin | hin := hsil
      · cases hin
      · cases hin
  · exact h

theorem quiet_pollStep (h : s.Quiet wake) : s.pollStep.Quiet wake := by
  -- another container's entry leaves the poll list
  have htail : ∀ {wake0 act poll}, s.poll = (wake0, act) :: poll →
      wake ≠ wake0 ∨ act = .sendExpire → s.BeingSilenced wake →
      (wake, PollAct.disarm) ∈ poll ∨ (wake, PollAct.removePoll) ∈ poll := by
    intro wake0 act poll heq hne hsil
    rw [BeingSilenced, heq] at hsil
    obtain hne | rfl := hne
    · simpa [hne] using hsil
    · simpa using hsil
  rw [pollStep]
  split
  · exact h
  · next wake0 poll heq =>
      by_cases hw : wake = wake0
      · subst hw
        intro hnull
        rw [setCont_self] at hnull
        refine ⟨(h hnull).1, .inl (.inl ?_)⟩
        rw [setCont_self]
        rfl
      · exact h.frame (setCont_ne s hw _) rfl (htail heq (.inl hw))
  · next wake0 poll heq =>
      by_cases hw : wake = wake0
      · subst hw
        intro hnull
        rw [setCont_self] at hnull
        refine ⟨(h hnull).1, .inl (.inr ?_)⟩
        rw [setCont_self]
        rfl
      · exact h.frame (setCont_ne s hw _) rfl (htail heq (.inl hw))
  · next wake0 poll heq => exact h.frame rfl rfl (htail heq (.inr rfl))

theorem remove_null {c : LocTimerContainer} {timer : LocTimerDelegate}
    (hne : c.mTree ≠ .null) (hnull : (c.remove timer).1.mTree = .null) :
    c.mTree.elements = {timer} := by
  obtain ⟨-, hel⟩ | ⟨-, heq⟩ :=
    LocHeapNode.remove_cases LocTimerDelegate.outRanks c.mTree timer
  · have hempty : (c.mTree.remove LocTimerDelegate.outRanks timer).1 = .null :=
      hnull
    rw [hempty] at hel
    exact hel.symm
  · exact absurd (heq.symm.trans hnull) hne

theorem push_ne_null (c : LocTimerContainer) (timer : LocTimerDelegate) :
    (c.push timer).mTree ≠ .null := by
  intro hnull
  have hel : (c.mTree.push LocTimerDelegate.outRanks timer).elements =
      timer ::ₘ c.mTree.elements := LocHeapNode.push_elements c.mTree timer
  rw [show c.mTree.push LocTimerDelegate.outRanks timer = .null from hnull]
    at hel
  exact Multiset.cons_ne_zero hel.symm

theorem updateSoonestTime_null {c : LocTimerContainer}
    (hnull : c.mTree = .null) : c.updateSoonestTime none = [] := by
  have hnone : c.getSoonestTimer = none := LocHeapNode.peek_eq_none.mpr hnull
  rw [← hnone, LocTimerContainer.updateSoonestTime_self]

theorem popNext_null {now : Timespec} {first : Bool}
    (hne : (s.cont wake).mTree ≠ .null)
    (hnull : (s.popNext wake now first).1.mTree = .null) :
    ∃ timer ∈ (s.cont wake).getSoonestTimer,
      (s.cont wake).mTree.elements = {timer} ∧
        (first = true ∨ ¬ ranks now timer.mFutureTime > 0) := by
  obtain ⟨-, heq⟩ | ⟨timer, hsnd, htop, hel⟩ :=
    s.popNext_elements wake now first
  · exact absurd (heq ▸ hnull) hne
  · refine ⟨timer, htop, ?_, ?_⟩
    · rw [← hel, hnull]
      rfl
    · cases first with
      | true => exact .inl rfl
      | false =>
        refine .inr fun hdue => ?_
        have hpeek : (s.cont wake).mTree.peek = some timer := htop
        rw [popNext, if_neg Bool.false_ne_true,
          LocTimerContainer.popIfOutRanks, hpeek] at hsnd
        simp [hdue] at hsnd

theorem pending_calls (s : Service) (wake wake0 : Bool) (todo : List SysCall) :
    ({ s with task := .calls wake0 todo } : Service).pending wake =
      if wake0 = wake then todo else [] := rfl

theorem quiet_proc (h : s.Quiet wake) {wake0 : Bool} {msg : Msg}
    {queue : List Msg} (htask : s.task = .calls wake0 [])
    (hqueue : s.queue = msg :: queue)
    (hlast : s.TakesLast wake → s.Silent wake ∨ s.BeingSilenced wake) :
    ({ s with queue := queue }.proc msg).Quiet wake := by
  have hpend : s.pending wake = [] := by simp [pending, htask]
  cases msg with
  | push wake1 timer =>
    by_cases hw : wake1 = wake
    · subst hw
      intro hnull
      rw [proc] at hnull
      dsimp only at hnull
      rw [setCont_self] at hnull
      exact absurd hnull (push_ne_null _ timer)
    · refine h.frame (setCont_ne _ (Ne.symm hw) _) ?_ id
      rw [hpend, proc, pending_calls, if_neg hw]
  | remove wake1 timer =>
    by_cases hw : wake1 = wake
    · subst hw
      have hcont : ({ s with queue := queue }.proc
          (.remove wake1 timer)).cont wake1 =
          ((s.cont wake1).remove timer).1 := setCont_self _ _ _
      refine h.taken ?_ ?_ (by rw [hcont]; rfl) (by rw [hcont]; rfl) rfl
      · rw [hcont, proc, pending_calls, if_pos rfl]
        by_cases hnull : ((s.cont wake1).remove timer).1.mTree = .null
        · refine .inl ?_
          split
          · exact updateSoonestTime_null hnull
          · rfl
        · exact .inr hnull
      · rw [hcont]
        intro hne hnull
        refine hlast ?_
        rw [TakesLast, htask]
        dsimp only
        rw [hqueue]
        exact ⟨rfl, remove_null hne hnull⟩
    · refine h.frame (setCont_ne _ (Ne.symm hw) _) ?_ id
      rw [hpend, proc, pending_calls, if_neg hw]
  | expire wake1 => exact h.frame rfl (by rw [hpend]; simp [proc, pending]) id

theorem quiet_taskStep (h : s.Quiet wake)
    (hlast : s.TakesLast wake → s.Silent wake ∨ s.BeingSilenced wake) :
    s.taskStep.Quiet wake := by
  rw [taskStep]
  split
  · next wake0 call todo htask =>
      by_cases hw : wake0 = wake
      · subst hw
        intro hnull
        rw [setCont_self, LocTimerContainer.call_mTree] at hnull
        have hpend := (h hnull).1
        simp [pending, htask] at hpend
      · refine h.frame (setCont_ne s (Ne.symm hw) _) ?_ id
        simp [pending, htask, hw]
  · next wake0 htask =>
      split
      · exact h
      · next msg queue hqueue => exact quiet_proc h htask hqueue hlast
  · next wake0 now first htask =>
      have hpend : s.pending wake = [] := by simp [pending, htask]
      have hsame : (s.popNext wake0 now first).1.armed = (s.cont wake0).armed ∧
          (s.popNext wake0 now first).1.polled = (s.cont wake0).polled := by
        rw [popNext, LocTimerContainer.popIfOutRanks]
        split
        · exact ⟨rfl, rfl⟩
        · split
          · exact ⟨rfl, rfl⟩
          · split <;> exact ⟨rfl, rfl⟩
      by_cases hw : wake0 = wake
      · subst hw
        have htaken : (s.cont wake0).mTree ≠ .null →
            (s.popNext wake0 now first).1.mTree = .null →
            s.Silent wake0 ∨ s.BeingSilenced wake0 := by
          intro hne hnull
          refine hlast ?_
          rw [TakesLast, htask]
          exact ⟨rfl, popNext_null hne hnull⟩
        split
        · next c timer heq =>
            rw [heq] at hsame htaken
            refine h.taken (.inl (by simp [pending])) ?_ ?_ ?_ rfl
            · rw [setCont_self]
              exact htaken
            · rw [setCont_self]
              exact hsame.1
            · rw [setCont_self]
              exact hsame.2
        · next c heq =>
            rw [heq] at hsame htaken
            refine h.taken ?_ ?_ ?_ ?_ rfl
            · rw [setCont_self, pending_calls, if_pos rfl]
              by_cases hnull : c.mTree = .null
              · exact .inl (updateSoonestTime_null hnull)
              · exact .inr hnull
            · rw [setCont_self]
              exact htaken
            · rw [setCont_self]
              exact hsame.1
            · rw [setCont_self]
              exact hsame.2
      · split
        · refine h.frame (setCont_ne s (Ne.symm hw) _) ?_ id
          rw [hpend]
          simp [pending]
        · refine h.frame (setCont_ne s (Ne.symm hw) _) ?_ id
          rw [hpend, pending_calls, if_neg hw]
  · next wake0 now timer htask =>
      exact h.frame rfl (by simp [pending, htask]) id

theorem quiet_step (h : s.Quiet wake) {o : Step}
    (hlast : o = .task → s.TakesLast wake →
      s.Silent wake ∨ s.BeingSilenced wake) : (s.step o).Quiet wake := by
  cases o with
  | tick now => exact quiet_tick h now
  | send msg => exact h.frame rfl rfl id
  | wakePoll ready => exact quiet_wakePoll h ready
  | poll => exact quiet_pollStep h
  | task => exact quiet_taskStep h (hlast rfl)

end Steps

/-! ## Every run -/

/-- In every run, however the threads interleave: if each time the last timer
is taken out of a container its descriptor is silent or being silenced, then
no state of the run has a stray alarm. -/
theorem run_noStray (clock : Timespec) (steps : List Step) (wake : Bool)
    (hlast : ∀ pre, pre ++ [.task] <+: steps →
      ((start clock).run pre).TakesLast wake →
        ((start clock).run pre).Silent wake ∨
          ((start clock).run pre).BeingSilenced wake) :
    ∀ pre, pre <+: steps → ((start clock).run pre).NoStray wake := by
  intro pre hpre
  refine Quiet.noStray ?_
  induction pre using List.reverseRecOn with
  | nil => exact quiet_start clock wake
  | append_singleton pre o ih =>
    rw [run, List.foldl_concat]
    refine quiet_step (ih ((List.prefix_append _ _).trans hpre)) ?_
    rintro rfl
    exact hlast pre hpre

theorem zero_lt_nsec : 0 < 1000000000 := by decide

/-- A time of whole seconds. -/
def ofSec (sec : Nat) (h : 0 < sec) : Timespec := ⟨sec, 0, zero_lt_nsec, .inl h⟩

/-- A timer goes off and is expired. -/
def oneExpiry : List Step :=
  [.send (.push true ⟨1, ofSec 5 (by decide)⟩), .task, .task, .task,
    .tick (ofSec 6 (by decide)), .wakePoll [true], .poll, .poll, .poll,
    .task, .task, .task, .task]

theorem run_noStray_oneExpiry :
    ((start ⟨1, 0, by decide, by decide⟩).run oneExpiry).Silent true := by
  have hall : ∀ pre ∈ oneExpiry.inits,
      ((start ⟨1, 0, by decide, by decide⟩).run pre).TakesLast true →
        ((start ⟨1, 0, by decide, by decide⟩).run pre).Silent true ∨
          ((start ⟨1, 0, by decide, by decide⟩).run pre).BeingSilenced true := by
    decide +kernel
  have hstray := run_noStray _ oneExpiry true (fun pre hpre => hall pre
    ((List.mem_inits _ _).mpr ((List.prefix_append _ _).trans hpre)))
  exact hstray oneExpiry List.prefix_rfl (by decide +kernel) (by decide +kernel)

/-- A timer is pushed and removed before it goes off. -/
def pushRemove : List Step :=
  [.send (.push true ⟨1, ofSec 5 (by decide)⟩), .task, .task, .task,
    .send (.remove true ⟨1, ofSec 5 (by decide)⟩), .task]

/-- The heap is empty, nothing is pending, and the alarm stays armed and
polled. -/
theorem pushRemove_stray :
    ¬ ((start ⟨1, 0, by decide, by decide⟩).run pushRemove).NoStray true := by
  decide +kernel

end Service

end Axon7.GpsUtils
