import Axon7.GpsUtils.Service
import Axon7.GpsUtils.Order

/-!
# Timers that go off early

The loop of `MsgTimerExpire::proc` pops a first timer without looking at its
time; only from the second one on does `popIfOutRanks` compare with the
clock. A wake-up of the poll thread is turned into a message that may be
processed after the timer it was for has left the heap, and then the first
pop takes a timer that is not due. A run is free of early expiries exactly
when each of these first pops meets an empty heap or a timer that is due.
-/

namespace Axon7.GpsUtils

open Axon7.Lib

/-- No further from `now` than the longest time-out allows. -/
def Timespec.Near (t now : Timespec) : Prop := t.tvSec ≤ now.tvSec + 4294968

theorem Timespec.Near.mono {t now now' : Timespec} (h : t.Near now)
    (hle : now ≤ now') : t.Near now' := by
  have hsec := Timespec.tvSec_le hle
  rw [Timespec.Near] at h ⊢
  omega

theorem futureTime_near (now : Timespec) (timeOutInMs : UInt32) :
    (futureTime now timeOutInMs).Near now := by
  have hms := timeOutInMs.toNat_lt
  have hns := now.nsec_lt
  rw [Timespec.Near, futureTime]
  split
  · show now.tvSec + timeOutInMs.toNat / 1000 + _ / 1000000000 ≤ _
    omega
  · show now.tvSec + timeOutInMs.toNat / 1000 ≤ _
    omega

theorem le_of_ranks {t now : Timespec} (hnear : t.Near now)
    (h : ¬ ranks now t > 0) : t ≤ now := by
  have ht := t.nsec_lt
  have hn := now.nsec_lt
  rw [Timespec.Near] at hnear
  rw [Timespec.le_def, Timespec.toNsec, Timespec.toNsec]
  by_cases hsec : t.tvSec < now.tvSec
  · omega
  · rw [ranks, toInt_of_lt (by omega) (by omega),
      toInt_of_lt (by omega) (by omega)] at h
    split at h <;> omega

namespace Service

/-- The timers of the service are near the clock, and those of a container in
expiry near the time its message task goes by. -/
structure Near (s : Service) : Prop where
  heap : ∀ wake, ∀ timer ∈ (s.cont wake).mTree.elements,
    timer.mFutureTime.Near s.clock
  queue : ∀ wake timer, .push wake timer ∈ s.queue →
    timer.mFutureTime.Near s.clock
  expiring : ∀ wake now first, s.task = .expiring wake now first →
    now ≤ s.clock ∧ ∀ timer ∈ (s.cont wake).mTree.elements,
      timer.mFutureTime.Near now
  calling : ∀ wake now timer', s.task = .calling wake now timer' →
    now ≤ s.clock ∧ ∀ timer ∈ (s.cont wake).mTree.elements,
      timer.mFutureTime.Near now

theorem near_start (clock : Timespec) : (start clock).Near where
  heap wake timer h := by simp [start] at h
  queue wake timer h := by cases h
  expiring wake now first h := by cases h
  calling wake now timer' h := by cases h

section Steps

variable {s : Service}

theorem Near.same {s' : Service} (h : s.Near) (hsame : s.SameTimers s') :
    s'.Near where
  heap wake timer hmem :=
    (h.heap wake timer (hsame.mTree wake ▸ hmem)).mono hsame.clock
  queue wake timer hmem :=
    (h.queue wake timer (hsame.push_mem hmem)).mono hsame.clock
  expiring wake now first htask := by
    obtain ht | ⟨_, _, ht⟩ := hsame.task
    · obtain ⟨hle, hnear⟩ := h.expiring wake now first (ht ▸ htask)
      exact ⟨Timespec.le_trans hle hsame.clock, hsame.mTree wake ▸ hnear⟩
    · rw [ht] at htask
      cases htask
  calling wake now timer htask := by
    obtain ht | ⟨_, _, ht⟩ := hsame.task
    · obtain ⟨hle, hnear⟩ := h.calling wake now timer (ht ▸ htask)
      exact ⟨Timespec.le_trans hle hsame.clock, hsame.mTree wake ▸ hnear⟩
    · rw [ht] at htask
      cases htask

theorem near_sendMsg (h : s.Near) {msg : Msg}
    (hmsg : ∀ wake timer, msg = .push wake timer →
      timer.mFutureTime.Near s.clock) : (s.sendMsg msg).Near where
  heap := h.heap
  queue wake timer hmem := by
    obtain hmem | hmem := List.mem_append.mp hmem
    · exact h.queue wake timer hmem
    · exact hmsg wake timer (List.mem_singleton.mp hmem).symm
  expiring := h.expiring
  calling := h.calling

theorem Near.setCont_heap (h : s.Near) {wake : Bool} {c : LocTimerContainer}
    (hc : ∀ timer ∈ c.mTree.elements, timer.mFutureTime.Near s.clock) :
    ∀ wake', ∀ timer ∈ ((s.setCont wake c).cont wake').mTree.elements,
      timer.mFutureTime.Near s.clock := by
  intro wake' timer hmem
  by_cases hw : wake' = wake
  · subst hw
    rw [setCont_self] at hmem
    exact hc timer hmem
  · rw [setCont_ne s hw] at hmem
    exact h.heap wake' timer hmem

theorem near_proc {msg : Msg} {queue : List Msg} (h : s.Near)
    (hqueue : s.queue = msg :: queue) :
    ({ s with queue := queue }.proc msg).Near := by
  have hrest : ∀ wake timer, .push wake timer ∈ queue →
      timer.mFutureTime.Near s.clock := by
    intro wake timer hmem
    exact h.queue wake timer (hqueue ▸ List.mem_cons_of_mem _ hmem)
  cases msg with
  | push wake timer =>
    have ht := h.queue wake timer (hqueue ▸ List.mem_cons_self)
    refine ⟨h.setCont_heap ?_, hrest, by rintro _ _ _ ⟨⟩, by rintro _ _ _ ⟨⟩⟩
    intro timer' hmem
    rw [LocTimerContainer.push, LocHeapNode.push_elements,
      Multiset.mem_cons] at hmem
    obtain rfl | hmem := hmem
    · exact ht
    · exact h.heap wake timer' hmem
  | remove wake timer =>
    refine ⟨h.setCont_heap ?_, hrest, by rintro _ _ _ ⟨⟩, by rintro _ _ _ ⟨⟩⟩
    intro timer' hmem
    exact h.heap wake timer' ((s.cont wake).remove_mem timer hmem)
  | expire wake =>
    refine ⟨h.heap, hrest, ?_, by rintro _ _ _ ⟨⟩⟩
    intro wake' now first htask
    obtain ⟨rfl, rfl, rfl⟩ := Task.expiring.inj htask
    exact ⟨Timespec.le_refl _, h.heap wake⟩

theorem near_taskStep (h : s.Near) : s.taskStep.Near := by
  rw [taskStep]
  split
  · exact h.same (sameTimers_call ..)
  · split
    · exact h
    · next msg queue hqueue => exact near_proc h hqueue
  · next wake now first htask =>
      obtain ⟨hle, hnear⟩ := h.expiring wake now first htask
      have hpop : ∀ timer ∈ (s.popNext wake now first).1.mTree.elements,
          timer ∈ (s.cont wake).mTree.elements :=
        fun timer hmem => s.popNext_mem wake now first hmem
      split
      · next c timer heq =>
          rw [heq] at hpop
          refine ⟨h.setCont_heap fun timer hmem =>
            h.heap wake timer (hpop timer hmem), h.queue, by rintro _ _ _ ⟨⟩, ?_⟩
          intro wake' now' timer' ht
          obtain ⟨rfl, rfl, rfl⟩ := Task.calling.inj ht
          refine ⟨hle, fun timer hmem => hnear timer (hpop timer ?_)⟩
          rwa [← s.setCont_self wake c]
      · next c heq =>
          rw [heq] at hpop
          exact ⟨h.setCont_heap fun timer hmem =>
            h.heap wake timer (hpop timer hmem), h.queue, by rintro _ _ _ ⟨⟩,
            by rintro _ _ _ ⟨⟩⟩
  · next wake now timer htask =>
      refine ⟨h.heap, h.queue, ?_, by rintro _ _ _ ⟨⟩⟩
      intro wake' now' first ht
      obtain ⟨rfl, rfl, -⟩ := Task.expiring.inj ht
      exact h.calling wake now timer htask

theorem taskStep_clock (s : Service) : s.taskStep.clock = s.clock := by
  rw [taskStep]
  split
  · rfl
  · split
    · rfl
    · next msg _ _ => cases msg <;> rfl
  · split <;> rfl
  · rfl

theorem clock_le_step (s : Service) (o : Step) : s.clock ≤ (s.step o).clock := by
  cases o with
  | tick now => exact (sameTimers_tick s now).clock
  | send msg => exact Timespec.le_refl s.clock
  | wakePoll ready => exact (sameTimers_wakePoll s ready).clock
  | poll => exact (sameTimers_pollStep s).clock
  | task =>
    rw [step, taskStep_clock]
    exact Timespec.le_refl _

theorem near_step (h : s.Near) {o : Step}
    (ho : ∀ wake timer, o = .send (.push wake timer) →
      timer.mFutureTime.Near s.clock) : (s.step o).Near := by
  cases o with
  | tick now => exact h.same (sameTimers_tick s now)
  | send msg =>
    exact near_sendMsg h fun wake timer heq => ho wake timer (heq ▸ rfl)
  | wakePoll ready => exact h.same (sameTimers_wakePoll s ready)
  | poll => exact h.same (sameTimers_pollStep s)
  | task => exact near_taskStep h

theorem near_run {steps : List Step} (h : s.Near)
    (hsteps : ∀ wake timer, .send (.push wake timer) ∈ steps →
      timer.mFutureTime.Near s.clock) :
    (s.run steps).Near ∧ s.clock ≤ (s.run steps).clock := by
  have hstart : s.Near ∧ s.clock ≤ s.clock := ⟨h, Timespec.le_refl s.clock⟩
  refine foldl_invariant (fun s' : Service => s'.Near ∧ s.clock ≤ s'.clock)
    (fun o => ∀ wake timer, o = .send (.push wake timer) →
      timer.mFutureTime.Near s.clock) ?_ hstart steps
    fun o ho wake timer heq => hsteps wake timer (heq ▸ ho)
  intro s' o hs' ho
  have hnear := near_step hs'.1 fun wake timer heq =>
    (ho wake timer heq).mono hs'.2
  exact ⟨hnear, Timespec.le_trans hs'.2 (clock_le_step s' o)⟩

end Steps

/-! ## The first pop of an expiry -/

/-- The pop about to be made without a look at the clock finds an empty heap
or a timer that is due. -/
def HeadDue (s : Service) : Prop :=
  ∀ wake now, s.task = .expiring wake now true →
    ∀ top, (s.cont wake).getSoonestTimer = some top →
      top.mFutureTime ≤ s.clock

theorem taskEvents_early {s : Service} (h : s.Near) :
    (∀ timer time, .expired timer time ∈ s.taskEvents →
      timer.mFutureTime ≤ time) ↔ s.HeadDue := by
  constructor
  · intro hev wake now htask top htop
    refine hev top s.clock ?_
    have hpop : (s.popNext wake now true).2 = some top :=
      (LocHeapNode.pop_snd _).trans htop
    rw [taskEvents, htask]
    simp only [hpop, List.mem_singleton]
  · intro hdue timer time hmem
    rw [taskEvents] at hmem
    split at hmem
    · next wake now first htask =>
        obtain ⟨hle, hnear⟩ := h.expiring wake now first htask
        obtain ⟨hnone, -⟩ | ⟨top, hsome, htop, -⟩ :=
          s.popNext_elements wake now first
        · rw [hnone] at hmem
          cases hmem
        · rw [hsome] at hmem
          obtain ⟨rfl, rfl⟩ := Event.expired.inj (List.mem_singleton.mp hmem)
          cases first with
          | true => exact hdue wake now htask timer htop
          | false =>
            refine Timespec.le_trans (le_of_ranks (hnear timer
              (LocHeapNode.mem_of_peek htop)) fun hrank => ?_) hle
            rw [LocTimerContainer.getSoonestTimer] at htop
            simp [popNext, LocTimerContainer.popIfOutRanks, htop, hrank]
              at hsome
    · split at hmem
      · simp at hmem
      · cases hmem
    · cases hmem

end Service

namespace System

/-- The timers in the service and those being started are near the clock. -/
structure Near (s : System) : Prop where
  svc : s.svc.Near
  starting : ∀ client wake mFutureTime,
    (s.timers client).starting = some (wake, mFutureTime) →
      mFutureTime.Near s.svc.clock

theorem near_start (clock : Timespec) : (start clock).Near where
  svc := Service.near_start clock
  starting client wake mFutureTime h := by cases h

theorem stopSends_push (s : System) (client : Nat) (wake : Bool)
    (timer : LocTimerDelegate) :
    .send (.push wake timer) ∉ s.stopSends client := by
  rw [stopSends]
  split
  · simp
  · split <;> simp

theorem serviceSteps_push {s : System} {act : Act} {wake : Bool}
    {timer : LocTimerDelegate}
    (h : .send (.push wake timer) ∈ s.serviceSteps act) :
    timer.addr = s.nextAddr ∧ ∃ client, act = .startPost client ∧
      (s.timers client).starting = some (wake, timer.mFutureTime) := by
  cases act with
  | startPost client =>
    rw [serviceSteps] at h
    split at h
    · cases h
    · next hst =>
        simp only [List.mem_singleton, Service.Step.send.injEq,
          Msg.push.injEq] at h
        obtain ⟨rfl, rfl⟩ := h
        exact ⟨rfl, client, rfl, hst⟩
  | stop client =>
    rw [serviceSteps] at h
    split at h
    · exact absurd h (s.stopSends_push client wake timer)
    · cases h
  | task =>
    rw [serviceSteps] at h
    split at h
    · split at h
      · split at h <;> simp at h
      · next client _ =>
          split at h
          · rw [List.mem_append] at h
            obtain h | h := h
            · exact absurd h (s.stopSends_push client wake timer)
            · simp at h
          · cases h
    · simp at h
  | _ => simp [serviceSteps] at h

theorem stop_starting (s : System) (client client' : Nat) :
    ((s.stop client).timers client').starting =
      (s.timers client').starting := by
  have hupd : ∀ mTimer, (Function.update s.timers client
      { s.timers client with mTimer := mTimer } client').starting =
        (s.timers client').starting := by
    intro mTimer
    by_cases hc : client' = client
    · rw [hc, Function.update_self]
    · rw [Function.update_of_ne hc]
  rw [stop]
  split
  · rfl
  · next timer _ =>
      rw [destroyLocked]
      cases s.mContainer timer.addr <;> exact hupd none

theorem step_starting {s : System} {act : Act} {client : Nat} {wake : Bool}
    {mFutureTime : Timespec}
    (h : ((s.step act).timers client).starting = some (wake, mFutureTime)) :
    (s.timers client).starting = some (wake, mFutureTime) ∨
      ∃ timeOutInMs, mFutureTime = futureTime s.svc.clock timeOutInMs := by
  cases act with
  | startRead client' timeOutInMs wakeOnExpire =>
    rw [step, startRead] at h
    split at h
    · by_cases hc : client = client'
      · subst hc
        simp only [Function.update_self, Option.some.injEq,
          Prod.mk.injEq] at h
        exact .inr ⟨timeOutInMs, h.2.symm⟩
      · simp only [Function.update_of_ne hc] at h
        exact .inl h
    · exact .inl h
  | startPost client' =>
    rw [step, startPost] at h
    split at h
    · exact .inl h
    · by_cases hc : client = client'
      · subst hc
        simp only [Function.update_self, reduceCtorEq] at h
      · simp only [Function.update_of_ne hc] at h
        exact .inl h
  | stop client' =>
    rw [step] at h
    split at h
    · exact .inl (s.stop_starting client' client ▸ h)
    · exact .inl h
  | task =>
    rw [step, taskStep] at h
    split at h
    · split at h
      · split at h <;> exact .inl h
      · next client' _ =>
          split at h
          · exact .inl (s.stop_starting client' client ▸ h)
          · exact .inl h
    · exact .inl h
  | _ => exact .inl h

theorem near_step {s : System} (h : s.Near) (act : Act) : (s.step act).Near := by
  have hpush : ∀ wake timer, .send (.push wake timer) ∈ s.serviceSteps act →
      timer.mFutureTime.Near s.svc.clock := by
    intro wake timer hmem
    obtain ⟨-, client, -, hst⟩ := serviceSteps_push hmem
    exact h.starting client wake timer.mFutureTime hst
  obtain ⟨hsvc, hclock⟩ := Service.near_run h.svc hpush
  rw [← step_svc] at hsvc hclock
  refine ⟨hsvc, fun client wake mFutureTime hst => ?_⟩
  obtain hst | ⟨timeOutInMs, rfl⟩ := step_starting hst
  · exact (h.starting client wake mFutureTime hst).mono hclock
  · exact (futureTime_near s.svc.clock timeOutInMs).mono hclock

/-! ## Early expiries in a run -/

/-- No timer is expired before its time. -/
def NeverEarly (evs : List Event) : Prop :=
  ∀ timer time, .expired timer time ∈ evs → timer.mFutureTime ≤ time

/-- Each time the message task moves, the first pop of an expiry finds an
empty heap or a timer that is due. -/
def HeadsDue : System → List Act → Prop
  | _, [] => True
  | s, act :: acts => (act = .task → s.svc.HeadDue) ∧ (s.step act).HeadsDue acts

theorem neverEarly_append {evs evs' : List Event} :
    NeverEarly (evs ++ evs') ↔ NeverEarly evs ∧ NeverEarly evs' := by
  simp only [NeverEarly, List.mem_append]
  exact ⟨fun h => ⟨fun t time hm => h t time (.inl hm),
    fun t time hm => h t time (.inr hm)⟩,
    fun h t time hm => hm.elim (h.1 t time) (h.2 t time)⟩

theorem trace_neverEarly {s : System} (h : s.Near) (acts : List Act) :
    NeverEarly (s.trace acts) ↔ s.HeadsDue acts := by
  induction acts generalizing s with
  | nil => exact ⟨fun _ => trivial, fun _ timer time hmem => by cases hmem⟩
  | cons act acts ih =>
    have hhead : NeverEarly (s.events act) ↔ (act = .task → s.svc.HeadDue) := by
      cases act with
      | task =>
        rw [events, NeverEarly, Service.taskEvents_early h.svc]
        exact ⟨fun hdue _ => hdue, fun hdue => hdue rfl⟩
      | _ => exact ⟨nofun, fun _ timer time hmem => by cases hmem⟩
    rw [trace, neverEarly_append, HeadsDue, hhead, ih (near_step h act)]

end System

end Axon7.GpsUtils
