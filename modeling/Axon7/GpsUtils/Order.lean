import Axon7.Lib.Run
import Axon7.GpsUtils.Service

/-!
# The order of the timers

`ranks` subtracts seconds into an `int`. While all times stay below 2^31
seconds the difference fits, a timer outranks exactly the later ones, and the
heaps are sorted throughout a run.
-/

namespace Axon7.GpsUtils

open Axon7.Lib

/-- The seconds of the time fit an `int`. -/
def Timespec.InRange (t : Timespec) : Prop := t.tvSec < 2147483648

theorem ranks_pos_iff {t t' : Timespec} (h : t.InRange) (h' : t'.InRange) :
    ranks t t' > 0 ↔ t.toNsec < t'.toNsec := by
  have hlt := t.nsec_lt
  have hlt' := t'.nsec_lt
  rw [Timespec.InRange] at h h'
  rw [ranks, toInt_of_lt (by omega) (by omega),
    toInt_of_lt (by omega) (by omega), Timespec.toNsec, Timespec.toNsec]
  split <;> omega

theorem ranking_outRanks : LocHeapNode.Ranking LocTimerDelegate.outRanks
    fun timer => timer.mFutureTime.InRange where
  asymm a b ha hb h := by
    rw [LocTimerDelegate.outRanks, decide_eq_true_iff, ranks_pos_iff ha hb] at h
    rw [LocTimerDelegate.outRanks, decide_eq_false_iff_not, ranks_pos_iff hb ha]
    omega
  trans a b c ha hb hc h h' := by
    rw [LocTimerDelegate.outRanks, decide_eq_false_iff_not,
      ranks_pos_iff ‹_› ‹_›] at h h' ⊢
    omega

namespace LocTimerContainer

/-- The heap is sorted and its times are in range. -/
structure Ordered (c : LocTimerContainer) : Prop where
  sorted : c.mTree.Sorted LocTimerDelegate.outRanks
  inRange : ∀ timer ∈ c.mTree.elements, timer.mFutureTime.InRange

variable {c : LocTimerContainer}

theorem Ordered.soonest (h : c.Ordered) {top : LocTimerDelegate}
    (htop : c.getSoonestTimer = some top) :
    ∀ timer ∈ c.mTree.elements, top.mFutureTime ≤ timer.mFutureTime := by
  intro timer hmem
  have hbest := h.sorted.peek_best ranking_outRanks h.inRange htop timer hmem
  rw [LocTimerDelegate.outRanks, decide_eq_false_iff_not, ranks_pos_iff
    (h.inRange timer hmem) (h.inRange top (LocHeapNode.mem_of_peek htop))]
    at hbest
  exact Nat.le_of_not_lt hbest

theorem call_mTree (c : LocTimerContainer) (a : SysCall) :
    (c.call a).mTree = c.mTree := by
  cases a <;> rfl

theorem Ordered.of_mTree (h : c.Ordered) {c' : LocTimerContainer}
    (heq : c'.mTree = c.mTree) : c'.Ordered :=
  ⟨heq ▸ h.sorted, heq ▸ h.inRange⟩

theorem Ordered.push (h : c.Ordered) {timer : LocTimerDelegate}
    (ht : timer.mFutureTime.InRange) : (c.push timer).Ordered where
  sorted := h.sorted.push ranking_outRanks h.inRange ht
  inRange timer' hmem := by
    rw [LocTimerContainer.push, LocHeapNode.push_elements,
      Multiset.mem_cons] at hmem
    obtain rfl | hmem := hmem
    · exact ht
    · exact h.inRange timer' hmem

theorem pop_elements (c : LocTimerContainer) :
    (c.pop.2 = none ∧ c.pop.1 = c) ∨
      ∃ timer, c.pop.2 = some timer ∧ c.getSoonestTimer = some timer ∧
        timer ::ₘ c.pop.1.mTree.elements = c.mTree.elements := by
  have hsnd : c.pop.2 = c.getSoonestTimer := LocHeapNode.pop_snd _
  cases htop : c.getSoonestTimer with
  | none =>
    have hnull : c.mTree = .null := LocHeapNode.peek_eq_none.mp htop
    refine .inl ⟨hsnd.trans htop, ?_⟩
    rw [pop, hnull, LocHeapNode.pop_null, ← hnull]
  | some timer =>
    exact .inr ⟨timer, hsnd.trans htop, rfl, LocHeapNode.pop_elements htop⟩

theorem Ordered.pop (h : c.Ordered) : c.pop.1.Ordered where
  sorted := h.sorted.pop ranking_outRanks h.inRange
  inRange timer hmem := by
    refine h.inRange timer ?_
    obtain ⟨-, heq⟩ | ⟨top, -, -, hel⟩ := c.pop_elements
    · rwa [heq] at hmem
    · rw [← hel]
      exact Multiset.mem_cons_of_mem hmem

theorem Ordered.popIfOutRanks (h : c.Ordered) (now : Timespec) :
    (c.popIfOutRanks now).1.Ordered := by
  rw [LocTimerContainer.popIfOutRanks]
  split
  · exact h
  · split
    · exact h
    · exact h.pop

theorem remove_mem (c : LocTimerContainer) (timer : LocTimerDelegate)
    {timer' : LocTimerDelegate}
    (hmem : timer' ∈ (c.remove timer).1.mTree.elements) :
    timer' ∈ c.mTree.elements := by
  obtain ⟨-, hel⟩ | ⟨-, heq⟩ :=
    LocHeapNode.remove_cases LocTimerDelegate.outRanks c.mTree timer
  · rw [← hel]
    exact Multiset.mem_cons_of_mem hmem
  · rw [← heq]
    exact hmem

theorem Ordered.remove (h : c.Ordered) (timer : LocTimerDelegate) :
    (c.remove timer).1.Ordered where
  sorted := h.sorted.remove ranking_outRanks h.inRange
  inRange timer' hmem := h.inRange timer' (c.remove_mem timer hmem)

end LocTimerContainer

namespace Service

/-! ## Steps away from the heaps -/

/-- A step that makes a system call, wakes the poll thread or lets time pass:
the heaps stay, and nothing but an expire message is posted. -/
structure SameTimers (s s' : Service) : Prop where
  mTree : ∀ wake, (s'.cont wake).mTree = (s.cont wake).mTree
  queue : s'.queue = s.queue ∨ ∃ wake, s'.queue = s.queue ++ [.expire wake]
  task : s'.task = s.task ∨ ∃ wake todo, s'.task = .calls wake todo
  clock : s.clock ≤ s'.clock

section SameTimers

variable {s : Service}

theorem setCont_call_mTree (s : Service) (wake wake' : Bool) (a : SysCall) :
    ((s.setCont wake ((s.cont wake).call a)).cont wake').mTree =
      (s.cont wake').mTree := by
  by_cases hw : wake' = wake
  · subst hw
    rw [setCont_self, LocTimerContainer.call_mTree]
  · rw [setCont_ne s hw]

theorem sameTimers_tick (s : Service) (now : Timespec) :
    s.SameTimers (s.tick now) := by
  rw [tick]
  split
  · next hle => exact ⟨fun _ => rfl, .inl rfl, .inl rfl, hle⟩
  · exact ⟨fun _ => rfl, .inl rfl, .inl rfl, Timespec.le_refl _⟩

theorem sameTimers_wakePoll (s : Service) (ready : List Bool) :
    s.SameTimers (s.wakePoll ready) := by
  rw [wakePoll]
  split <;> exact ⟨fun _ => rfl, .inl rfl, .inl rfl, Timespec.le_refl _⟩

theorem sameTimers_pollStep (s : Service) : s.SameTimers s.pollStep := by
  rw [pollStep]
  split
  · exact ⟨fun _ => rfl, .inl rfl, .inl rfl, Timespec.le_refl _⟩
  · exact ⟨fun _ => setCont_call_mTree .., .inl rfl, .inl rfl,
      Timespec.le_refl _⟩
  · exact ⟨fun _ => setCont_call_mTree .., .inl rfl, .inl rfl,
      Timespec.le_refl _⟩
  · exact ⟨fun _ => rfl, .inr ⟨_, rfl⟩, .inl rfl, Timespec.le_refl _⟩

theorem sameTimers_call (s : Service) (wake : Bool) (a : SysCall)
    (todo : List SysCall) :
    s.SameTimers { s.setCont wake ((s.cont wake).call a) with
      task := .calls wake todo } :=
  ⟨fun _ => setCont_call_mTree .., .inl rfl, .inr ⟨_, _, rfl⟩,
    Timespec.le_refl _⟩

theorem SameTimers.push_mem {s' : Service} (h : s.SameTimers s') {wake : Bool}
    {timer : LocTimerDelegate} (hmem : .push wake timer ∈ s'.queue) :
    .push wake timer ∈ s.queue := by
  obtain hq | ⟨_, hq⟩ := h.queue
  · exact hq ▸ hmem
  · rw [hq] at hmem
    simpa using hmem

end SameTimers

/-! ## Sorted heaps along a run -/

/-- Both heaps are sorted, and stay so: the pushes to come are in range. -/
structure Ordered (s : Service) : Prop where
  cont : ∀ wake, (s.cont wake).Ordered
  queue : ∀ wake timer, .push wake timer ∈ s.queue → timer.mFutureTime.InRange

/-- No push of the step is out of range. -/
def Step.InRange (o : Step) : Prop :=
  ∀ wake timer, o = .send (.push wake timer) → timer.mFutureTime.InRange

theorem ordered_start (clock : Timespec) : (start clock).Ordered where
  cont _ := ⟨trivial, fun timer h => by simp [start] at h⟩
  queue wake timer h := by cases h

section Steps

variable {s : Service}

theorem popNext_elements (s : Service) (wake : Bool) (now : Timespec)
    (first : Bool) :
    ((s.popNext wake now first).2 = none ∧
        (s.popNext wake now first).1 = s.cont wake) ∨
      ∃ timer, (s.popNext wake now first).2 = some timer ∧
        (s.cont wake).getSoonestTimer = some timer ∧
        timer ::ₘ (s.popNext wake now first).1.mTree.elements =
          (s.cont wake).mTree.elements := by
  rw [popNext]
  split
  · exact (s.cont wake).pop_elements
  · rw [LocTimerContainer.popIfOutRanks]
    split
    · exact .inl ⟨rfl, rfl⟩
    · split
      · exact .inl ⟨rfl, rfl⟩
      · exact (s.cont wake).pop_elements

theorem popNext_mem (s : Service) (wake : Bool) (now : Timespec)
    (first : Bool) {timer : LocTimerDelegate}
    (h : timer ∈ (s.popNext wake now first).1.mTree.elements) :
    timer ∈ (s.cont wake).mTree.elements := by
  obtain ⟨-, heq⟩ | ⟨top, -, -, hel⟩ := s.popNext_elements wake now first
  · exact heq ▸ h
  · exact hel ▸ Multiset.mem_cons_of_mem h

theorem Ordered.setCont (h : ∀ wake, (s.cont wake).Ordered) {wake : Bool}
    {c : LocTimerContainer} (hc : c.Ordered) :
    ∀ wake', ((s.setCont wake c).cont wake').Ordered := by
  intro wake'
  by_cases hw : wake' = wake
  · subst hw
    rw [setCont_self]
    exact hc
  · rw [setCont_ne s hw]
    exact h wake'

theorem Ordered.same {s' : Service} (h : s.Ordered) (hsame : s.SameTimers s') :
    s'.Ordered where
  cont wake := (h.cont wake).of_mTree (hsame.mTree wake)
  queue wake timer hmem := h.queue wake timer (hsame.push_mem hmem)

theorem ordered_proc {msg : Msg} {queue : List Msg} (h : s.Ordered)
    (hqueue : s.queue = msg :: queue) :
    ({ s with queue := queue }.proc msg).Ordered := by
  have hrest : ∀ wake timer, .push wake timer ∈ queue →
      timer.mFutureTime.InRange := by
    intro wake timer hmem
    exact h.queue wake timer (hqueue ▸ List.mem_cons_of_mem _ hmem)
  cases msg with
  | push wake timer =>
    have ht := h.queue wake timer (hqueue ▸ List.mem_cons_self)
    exact ⟨Ordered.setCont h.cont ((h.cont wake).push ht), hrest⟩
  | remove wake timer =>
    exact ⟨Ordered.setCont h.cont ((h.cont wake).remove timer), hrest⟩
  | expire wake => exact ⟨h.cont, hrest⟩

theorem ordered_taskStep (h : s.Ordered) : s.taskStep.Ordered := by
  rw [taskStep]
  split
  · exact h.same (sameTimers_call ..)
  · split
    · exact h
    · next msg queue hqueue => exact ordered_proc h hqueue
  · next wake now first _ =>
      have hpop : (s.popNext wake now first).1.Ordered := by
        rw [popNext]
        split
        · exact (h.cont wake).pop
        · exact (h.cont wake).popIfOutRanks now
      split
      · next c timer heq =>
          rw [heq] at hpop
          exact ⟨Ordered.setCont h.cont hpop, h.queue⟩
      · next c heq =>
          rw [heq] at hpop
          exact ⟨Ordered.setCont h.cont hpop, h.queue⟩
  · exact ⟨h.cont, h.queue⟩

theorem ordered_step (h : s.Ordered) {o : Step} (ho : o.InRange) :
    (s.step o).Ordered := by
  cases o with
  | tick now => exact h.same (sameTimers_tick s now)
  | send msg =>
    refine ⟨h.cont, fun wake timer hmem => ?_⟩
    obtain hmem | hmem := List.mem_append.mp hmem
    · exact h.queue wake timer hmem
    · exact ho wake timer (by rw [List.mem_singleton.mp hmem])
  | wakePoll ready => exact h.same (sameTimers_wakePoll s ready)
  | poll => exact h.same (sameTimers_pollStep s)
  | task => exact ordered_taskStep h

end Steps

theorem ordered_run (clock : Timespec) {steps : List Step}
    (hrange : ∀ o ∈ steps, o.InRange) :
    ((start clock).run steps).Ordered :=
  foldl_invariant Ordered Step.InRange (fun _ _ h ho => ordered_step h ho)
    (ordered_start clock) steps hrange

end Service

end Axon7.GpsUtils
