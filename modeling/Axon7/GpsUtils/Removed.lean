import Axon7.GpsUtils.Early

/-!
# Timers after their remove message

A delegate is pushed once, by its own constructor, and a `stop` posts its
remove message behind that push. So when the remove message is processed the
delegate has been pushed, and if it has not been expired yet the remove finds
it: the heap is sorted as long as the times fit the `int` of `ranks`. After
that the delegate is neither in a heap nor in the queue and cannot be expired
any more.
-/

namespace Axon7.GpsUtils

open Axon7.Lib

/-- The longest time-out from here still fits the `int` of `ranks`: the first
68 years. -/
def Timespec.InUptime (t : Timespec) : Prop := t.tvSec + 4294968 < 2147483648

/-- The delegates whose remove message the events tell of. -/
def removedOf (evs : List Event) : List LocTimerDelegate :=
  evs.filterMap fun
    | .removed timer => some timer
    | .expired _ _ => none

namespace Service

/-- The life of the delegates below address `n`, each in its home container:
pushed once and not after its remove message, in the heap at most once, and
nowhere once it is removed. -/
structure Once (s : Service) (home : Nat → Bool) (n : Nat)
    (gone : List LocTimerDelegate) : Prop where
  heap : ∀ wake, ∀ timer ∈ (s.cont wake).mTree.elements,
    timer.addr < n ∧ home timer.addr = wake
  push : ∀ wake timer, .push wake timer ∈ s.queue →
    timer.addr < n ∧ home timer.addr = wake ∧
      timer ∉ (s.cont wake).mTree.elements
  remove : ∀ wake timer, .remove wake timer ∈ s.queue →
    timer.addr < n ∧ home timer.addr = wake
  nodup : ∀ wake, (s.cont wake).mTree.elements.Nodup
  order : s.queue.Pairwise fun msg msg' => ∀ wake timer,
    msg' = .push wake timer →
      msg ≠ .push wake timer ∧ msg ≠ .remove wake timer
  gone : ∀ timer ∈ gone, timer.addr < n ∧ ∀ wake,
    timer ∉ (s.cont wake).mTree.elements ∧ .push wake timer ∉ s.queue

theorem once_start (clock : Timespec) (home : Nat → Bool) :
    (start clock).Once home 0 [] where
  heap wake timer h := by simp [start] at h
  push wake timer h := by cases h
  remove wake timer h := by cases h
  nodup wake := by simp [start]
  order := List.Pairwise.nil
  gone timer h := by cases h

section Steps

variable {s : Service} {home : Nat → Bool} {n : Nat}
  {gone : List LocTimerDelegate}

theorem Once.same {s' : Service} (h : s.Once home n gone)
    (hsame : s.SameTimers s') : s'.Once home n gone where
  heap wake := hsame.mTree wake ▸ h.heap wake
  push wake timer hmem :=
    hsame.mTree wake ▸ h.push wake timer (hsame.push_mem hmem)
  remove wake timer hmem := by
    refine h.remove wake timer ?_
    obtain hq | ⟨_, hq⟩ := hsame.queue
    · exact hq ▸ hmem
    · rw [hq] at hmem
      simpa using hmem
  nodup wake := hsame.mTree wake ▸ h.nodup wake
  order := by
    obtain hq | ⟨wake0, hq⟩ := hsame.queue
    · exact hq ▸ h.order
    · rw [hq, List.pairwise_append]
      refine ⟨h.order, List.pairwise_singleton .., ?_⟩
      intro msg _ msg' hmsg' wake timer heq
      rw [List.mem_singleton.mp hmsg'] at heq
      cases heq
  gone timer hmem := by
    obtain ⟨hlt, hno⟩ := h.gone timer hmem
    refine ⟨hlt, fun wake => ⟨?_, fun hq => (hno wake).2 (hsame.push_mem hq)⟩⟩
    rw [hsame.mTree wake]
    exact (hno wake).1

theorem once_sendPush (h : s.Once home n gone) (wake : Bool)
    (mFutureTime : Timespec) :
    (s.sendMsg (.push wake ⟨n, mFutureTime⟩)).Once
      (Function.update home n wake) (n + 1) gone := by
  have hup : ∀ {addr}, addr < n → Function.update home n wake addr = home addr :=
    fun hlt => Function.update_of_ne (Nat.ne_of_lt hlt) ..
  have hfresh : ∀ wake', (⟨n, mFutureTime⟩ : LocTimerDelegate) ∉
      (s.cont wake').mTree.elements :=
    fun wake' hmem => Nat.lt_irrefl n (h.heap wake' _ hmem).1
  constructor
  · intro wake' timer hmem
    obtain ⟨hlt, hhome⟩ := h.heap wake' timer hmem
    exact ⟨Nat.lt_succ_of_lt hlt, by rw [hup hlt, hhome]⟩
  · intro wake' timer hmem
    obtain hmem | hmem := List.mem_append.mp hmem
    · obtain ⟨hlt, hhome, hno⟩ := h.push wake' timer hmem
      exact ⟨Nat.lt_succ_of_lt hlt, by rw [hup hlt, hhome], hno⟩
    · simp only [List.mem_singleton, Msg.push.injEq] at hmem
      obtain ⟨rfl, rfl⟩ := hmem
      exact ⟨Nat.lt_succ_self n, Function.update_self .., hfresh wake'⟩
  · intro wake' timer hmem
    obtain hmem | hmem := List.mem_append.mp hmem
    · obtain ⟨hlt, hhome⟩ := h.remove wake' timer hmem
      exact ⟨Nat.lt_succ_of_lt hlt, by rw [hup hlt, hhome]⟩
    · simp at hmem
  · exact h.nodup
  · refine List.pairwise_append.mpr
      ⟨h.order, List.pairwise_singleton .., ?_⟩
    intro msg hmsg msg' hmsg' wake' timer heq
    rw [List.mem_singleton.mp hmsg', Msg.push.injEq] at heq
    obtain ⟨rfl, rfl⟩ := heq
    constructor
    · intro hpush
      exact Nat.lt_irrefl n (h.push wake _ (hpush ▸ hmsg)).1
    · intro hrem
      exact Nat.lt_irrefl n (h.remove wake _ (hrem ▸ hmsg)).1
  · intro timer hmem
    obtain ⟨hlt, hno⟩ := h.gone timer hmem
    refine ⟨Nat.lt_succ_of_lt hlt, fun wake' => ⟨(hno wake').1, fun hq => ?_⟩⟩
    obtain hq | hq := List.mem_append.mp hq
    · exact (hno wake').2 hq
    · simp only [List.mem_singleton, Msg.push.injEq] at hq
      rw [hq.2] at hlt
      exact Nat.lt_irrefl n hlt

theorem once_sendRemove (h : s.Once home n gone) {wake : Bool}
    {timer : LocTimerDelegate} (hlt : timer.addr < n)
    (hhome : home timer.addr = wake) :
    (s.sendMsg (.remove wake timer)).Once home n gone where
  heap := h.heap
  push wake' timer' hmem := by
    refine h.push wake' timer' ?_
    simpa [sendMsg] using hmem
  remove wake' timer' hmem := by
    obtain hmem | hmem := List.mem_append.mp hmem
    · exact h.remove wake' timer' hmem
    · simp only [List.mem_singleton, Msg.remove.injEq] at hmem
      obtain ⟨rfl, rfl⟩ := hmem
      exact ⟨hlt, hhome⟩
  nodup := h.nodup
  order := by
    refine List.pairwise_append.mpr
      ⟨h.order, List.pairwise_singleton .., ?_⟩
    intro msg _ msg' hmsg' wake' timer' heq
    rw [List.mem_singleton.mp hmsg'] at heq
    cases heq
  gone timer' hmem := by
    obtain ⟨hlt', hno⟩ := h.gone timer' hmem
    refine ⟨hlt', fun wake' => ⟨(hno wake').1, fun hq => (hno wake').2 ?_⟩⟩
    simpa [sendMsg] using hq

theorem Once.shrink {s' : Service} (h : s.Once home n gone)
    (hheap : ∀ wake, (s'.cont wake).mTree.elements ≤
      (s.cont wake).mTree.elements)
    (hqueue : s'.queue.Sublist s.queue) : s'.Once home n gone where
  heap wake timer hmem := h.heap wake timer (Multiset.mem_of_le (hheap wake) hmem)
  push wake timer hmem := by
    obtain ⟨hlt, hhome, hno⟩ := h.push wake timer (hqueue.subset hmem)
    exact ⟨hlt, hhome, fun hin => hno (Multiset.mem_of_le (hheap wake) hin)⟩
  remove wake timer hmem := h.remove wake timer (hqueue.subset hmem)
  nodup wake := Multiset.nodup_of_le (hheap wake) (h.nodup wake)
  order := h.order.sublist hqueue
  gone timer hmem := by
    obtain ⟨hlt, hno⟩ := h.gone timer hmem
    exact ⟨hlt, fun wake =>
      ⟨fun hin => (hno wake).1 (Multiset.mem_of_le (hheap wake) hin),
        fun hq => (hno wake).2 (hqueue.subset hq)⟩⟩

theorem setCont_le {wake : Bool} {c : LocTimerContainer}
    (hc : c.mTree.elements ≤ (s.cont wake).mTree.elements) :
    ∀ wake', ((s.setCont wake c).cont wake').mTree.elements ≤
      (s.cont wake').mTree.elements := by
  intro wake'
  by_cases hw : wake' = wake
  · subst hw
    rw [setCont_self]
    exact hc
  · rw [setCont_ne s hw]

theorem once_procPush (h : s.Once home n gone) {wake : Bool}
    {timer : LocTimerDelegate} {queue : List Msg}
    (hqueue : s.queue = .push wake timer :: queue) :
    ({ s with queue := queue }.proc (.push wake timer)).Once home n gone := by
  have hmem : .push wake timer ∈ s.queue := hqueue ▸ List.mem_cons_self
  have hsub : ∀ msg ∈ queue, msg ∈ s.queue :=
    fun msg hm => hqueue ▸ List.mem_cons_of_mem _ hm
  obtain ⟨hlt, hhome, hno⟩ := h.push wake timer hmem
  have horder := h.order
  rw [hqueue, List.pairwise_cons] at horder
  -- the heaps after the push
  have hel : ∀ wake', (({ s with queue := queue }.proc
      (.push wake timer)).cont wake').mTree.elements =
        if wake' = wake then timer ::ₘ (s.cont wake').mTree.elements
        else (s.cont wake').mTree.elements := by
    intro wake'
    split
    · next hw =>
        subst hw
        show ((setCont _ wake' _).cont wake').mTree.elements = _
        rw [setCont_self]
        exact LocHeapNode.push_elements ..
    · next hw =>
        show ((setCont _ wake _).cont wake').mTree.elements = _
        rw [setCont_ne _ hw]
  constructor
  · intro wake' timer' hin
    rw [hel] at hin
    split at hin
    · next hw =>
        obtain rfl | hin := Multiset.mem_cons.mp hin
        · exact ⟨hlt, hw ▸ hhome⟩
        · exact h.heap wake' timer' hin
    · exact h.heap wake' timer' hin
  · intro wake' timer' hin
    obtain ⟨hlt', hhome', hno'⟩ := h.push wake' timer' (hsub _ hin)
    refine ⟨hlt', hhome', ?_⟩
    rw [hel]
    split
    · next hw =>
        subst hw
        rw [Multiset.mem_cons, not_or]
        refine ⟨fun heq => ?_, hno'⟩
        subst heq
        exact (horder.1 _ hin _ _ rfl).1 rfl
    · exact hno'
  · exact fun wake' timer' hin => h.remove wake' timer' (hsub _ hin)
  · intro wake'
    rw [hel]
    split
    · next hw => exact Multiset.nodup_cons.mpr ⟨hw ▸ hno, h.nodup wake'⟩
    · exact h.nodup wake'
  · exact horder.2
  · intro timer' hin
    obtain ⟨hlt', hno'⟩ := h.gone timer' hin
    refine ⟨hlt', fun wake' => ⟨?_, fun hq => (hno' wake').2 (hsub _ hq)⟩⟩
    rw [hel]
    split
    · next hw =>
        rw [Multiset.mem_cons, not_or]
        refine ⟨fun heq => ?_, (hno' wake').1⟩
        subst heq
        exact (hno' wake).2 hmem
    · exact (hno' wake').1

theorem once_procRemove (h : s.Once home n gone) (hord : s.Ordered)
    {wake : Bool} {timer : LocTimerDelegate} {queue : List Msg}
    (hqueue : s.queue = .remove wake timer :: queue) :
    ({ s with queue := queue }.proc (.remove wake timer)).Once home n
      (timer :: gone) := by
  obtain ⟨hlt, hhome⟩ := h.remove wake timer (hqueue ▸ List.mem_cons_self)
  have hsub : queue.Sublist s.queue := hqueue ▸ List.sublist_cons_self ..
  have horder := h.order
  rw [hqueue, List.pairwise_cons] at horder
  have hcases := LocHeapNode.remove_cases LocTimerDelegate.outRanks
    (s.cont wake).mTree timer
  have hle : ((s.cont wake).remove timer).1.mTree.elements ≤
      (s.cont wake).mTree.elements := by
    obtain ⟨-, hel⟩ | ⟨-, heq⟩ := hcases
    · exact hel ▸ Multiset.le_cons_self _ _
    · exact le_of_eq (congrArg _ heq)
  have hshrink : ({ s with queue := queue }.proc (.remove wake timer)).Once
      home n gone := h.shrink (setCont_le hle) hsub
  refine { hshrink with gone := ?_ }
  intro timer' hin
  obtain rfl | hin := List.mem_cons.mp hin
  · refine ⟨hlt, fun wake' => ?_⟩
    by_cases hw : wake' = wake
    · subst hw
      constructor
      · show timer' ∉ ((setCont _ wake' _).cont wake').mTree.elements
        rw [setCont_self]
        intro hmem
        -- still in the heap: then the sorted search has found it
        have hin := Multiset.mem_of_le hle hmem
        have hfound := (hord.cont wake').sorted.remove_mem hin
        obtain ⟨-, hel⟩ | ⟨hnone, -⟩ := hcases
        · have hnd := h.nodup wake'
          rw [← hel, Multiset.nodup_cons] at hnd
          exact hnd.1 hmem
        · rw [hnone] at hfound
          cases hfound
      · intro hq
        exact (horder.1 _ hq _ _ rfl).2 rfl
    · constructor
      · intro hmem
        exact hw ((hshrink.heap wake' timer' hmem).2.symm.trans hhome)
      · intro hq
        exact hw ((hshrink.push wake' timer' hq).2.1.symm.trans hhome)
  · exact hshrink.gone timer' hin

theorem once_taskStep (h : s.Once home n gone) (hord : s.Ordered) :
    s.taskStep.Once home n (removedOf s.taskEvents ++ gone) := by
  rw [taskStep]
  split
  · next wake call todo htask =>
      rw [taskEvents, htask]
      exact h.same (sameTimers_call ..)
  · next htask =>
      rw [taskEvents, htask]
      dsimp only
      split
      · next hqueue =>
          rw [hqueue]
          exact h
      · next msg queue hqueue =>
          rw [hqueue]
          cases msg with
          | push wake timer => exact once_procPush h hqueue
          | remove wake timer => exact once_procRemove h hord hqueue
          | expire wake =>
            have hsub : queue.Sublist s.queue :=
              hqueue ▸ List.sublist_cons_self ..
            exact h.shrink (fun _ => le_refl _) hsub
  · next wake now first htask =>
      have hnone : removedOf s.taskEvents = [] := by
        rw [taskEvents, htask]
        dsimp only
        cases (s.popNext wake now first).2 <;> rfl
      rw [hnone]
      have hle : (s.popNext wake now first).1.mTree.elements ≤
          (s.cont wake).mTree.elements := by
        obtain ⟨-, heq⟩ | ⟨top, -, -, hel⟩ := s.popNext_elements wake now first
        · rw [heq]
        · exact hel ▸ Multiset.le_cons_self _ _
      have hsub : s.queue.Sublist s.queue := List.Sublist.refl _
      split
      · next c timer heq =>
          rw [heq] at hle
          exact h.shrink (setCont_le hle) hsub
      · next c heq =>
          rw [heq] at hle
          exact h.shrink (setCont_le hle) hsub
  · next htask =>
      rw [taskEvents, htask]
      have hsub : s.queue.Sublist s.queue := List.Sublist.refl _
      exact h.shrink (fun _ => le_refl _) hsub

theorem expired_not_gone (h : s.Once home n gone) {timer : LocTimerDelegate}
    {time : Timespec} (hmem : .expired timer time ∈ s.taskEvents) :
    timer ∉ gone := by
  rw [taskEvents] at hmem
  split at hmem
  · next wake now first _ =>
      obtain ⟨hnone, -⟩ | ⟨top, hsome, htop, -⟩ :=
        s.popNext_elements wake now first
      · rw [hnone] at hmem
        cases hmem
      · rw [hsome] at hmem
        obtain ⟨rfl, -⟩ := Event.expired.inj (List.mem_singleton.mp hmem)
        intro hgone
        exact ((h.gone timer hgone).2 wake).1 (LocHeapNode.mem_of_peek htop)
  · split at hmem
    · simp at hmem
    · cases hmem
  · cases hmem

end Steps

end Service

namespace System

/-- The clients only know delegates that exist, and each remembers its
container until its remove message is posted. -/
structure Known (s : System) (home : Nat → Bool) : Prop where
  timer : ∀ client timer, (s.timers client).mTimer = some timer →
    timer.addr < s.nextAddr
  container : ∀ addr wake, s.mContainer addr = some wake → home addr = wake

/-- The delegates of the system live once. -/
structure Once (s : System) (home : Nat → Bool)
    (gone : List LocTimerDelegate) : Prop where
  svc : s.svc.Once home s.nextAddr gone
  known : s.Known home

theorem once_start (clock : Timespec) :
    (start clock).Once (fun _ => false) [] where
  svc := Service.once_start clock _
  known := ⟨nofun, nofun⟩

section Steps

variable {s : System} {home : Nat → Bool} {gone : List LocTimerDelegate}

theorem once_startPost (h : s.Once home gone) (client : Nat) :
    ∃ home', (s.startPost client).Once home' gone := by
  rw [startPost]
  split
  · exact ⟨home, h⟩
  · next wake mFutureTime _ =>
      refine ⟨Function.update home s.nextAddr wake,
        Service.once_sendPush h.svc wake mFutureTime, ?_, ?_⟩
      · intro client' timer htimer
        show timer.addr < s.nextAddr + 1
        by_cases hc : client' = client
        · subst hc
          simp only [Function.update_self, Option.some.injEq] at htimer
          rw [← htimer]
          exact Nat.lt_succ_self _
        · simp only [Function.update_of_ne hc] at htimer
          exact Nat.lt_succ_of_lt (h.known.timer client' timer htimer)
      · intro addr wake' hcont
        by_cases ha : addr = s.nextAddr
        · subst ha
          simp only [Function.update_self, Option.some.injEq] at hcont ⊢
          exact hcont
        · simp only [Function.update_of_ne ha] at hcont ⊢
          exact h.known.container addr wake' hcont

theorem once_stop (h : s.Once home gone) (client : Nat) :
    (s.stop client).Once home gone := by
  rw [stop]
  split
  · exact h
  · next timer htimer =>
      have hlt := h.known.timer client timer htimer
      -- the client lets go of the delegate
      have hknown : ∀ client' timer', (Function.update s.timers client
          { s.timers client with mTimer := none } client').mTimer =
            some timer' → timer'.addr < s.nextAddr := by
        intro client' timer' ht
        by_cases hc : client' = client
        · subst hc
          simp only [Function.update_self, reduceCtorEq] at ht
        · rw [Function.update_of_ne hc] at ht
          exact h.known.timer client' timer' ht
      rw [destroyLocked]
      cases hcont : s.mContainer timer.addr with
      | none => exact ⟨h.svc, hknown, h.known.container⟩
      | some wake =>
        refine ⟨Service.once_sendRemove h.svc hlt
          (h.known.container _ _ hcont), hknown, ?_⟩
        intro addr wake' hc
        by_cases ha : addr = timer.addr
        · subst ha
          simp only [Function.update_self, reduceCtorEq] at hc
        · simp only [Function.update_of_ne ha] at hc
          exact h.known.container addr wake' hc

theorem Once.of_svc (h : s.Once home gone) {svc : Service}
    {gone' : List LocTimerDelegate} (hsvc : svc.Once home s.nextAddr gone')
    (callee : Option Nat) :
    { s with svc := svc, callee := callee }.Once home gone' :=
  ⟨hsvc, h.known.timer, h.known.container⟩

theorem stop_task (s : System) (client : Nat) :
    (s.stop client).svc.task = s.svc.task := by
  rw [stop_svc, stopSends]
  split
  · rfl
  · split <;> rfl

theorem stop_ordered (hord : s.svc.Ordered) (client : Nat) :
    (s.stop client).svc.Ordered := by
  rw [stop_svc]
  refine foldl_invariant Service.Ordered Service.Step.InRange
    (fun _ _ h ho => Service.ordered_step h ho) hord _ ?_
  intro o ho wake timer heq
  exact absurd (heq ▸ ho) (s.stopSends_push client wake timer)

theorem once_task (h : s.Once home gone) (hord : s.svc.Ordered) :
    s.taskStep.Once home (removedOf s.svc.taskEvents ++ gone) := by
  have hstep := Service.once_taskStep h.svc hord
  rw [taskStep]
  split
  · next wake now timer htask =>
      have hquiet : ∀ svc : Service, svc.task = .calling wake now timer →
          svc.taskEvents = [] := by
        intro svc ht
        rw [Service.taskEvents, ht]
      split
      · split
        · exact h.of_svc hstep s.callee
        · rw [hquiet s.svc htask]
          exact h.of_svc h.svc _
      · next client _ =>
          split
          · have hstop := once_stop h client
            have hstep' := Service.once_taskStep hstop.svc
              (stop_ordered hord client)
            rw [hquiet _ ((s.stop_task client).trans htask)] at hstep'
            rw [hquiet s.svc htask]
            exact hstop.of_svc hstep' none
          · rw [hquiet s.svc htask]
            exact h
  · exact h.of_svc hstep s.callee

theorem once_step (h : s.Once home gone) (hord : s.svc.Ordered) (act : Act) :
    ∃ home', (s.step act).Once home' (removedOf (s.events act) ++ gone) := by
  cases act with
  | tick now =>
    exact ⟨home, h.of_svc (h.svc.same (s.svc.sameTimers_tick now)) s.callee⟩
  | startRead client timeOutInMs wakeOnExpire =>
    refine ⟨home, ?_⟩
    rw [step, startRead]
    split
    · refine ⟨h.svc, ?_, h.known.container⟩
      intro client' timer ht
      by_cases hc : client' = client
      · subst hc
        simp only [Function.update_self] at ht
        exact h.known.timer client' timer ht
      · simp only [Function.update_of_ne hc] at ht
        exact h.known.timer client' timer ht
    · exact h
  | startPost client => exact once_startPost h client
  | stop client =>
    refine ⟨home, ?_⟩
    rw [step]
    split
    · exact once_stop h client
    · exact h
  | wakePoll ready =>
    exact ⟨home,
      h.of_svc (h.svc.same (s.svc.sameTimers_wakePoll ready)) s.callee⟩
  | poll =>
    exact ⟨home, h.of_svc (h.svc.same s.svc.sameTimers_pollStep) s.callee⟩
  | task => exact ⟨home, once_task h hord⟩

end Steps

/-! ## The first 68 years -/

/-- No tick of the act leaves them. -/
def Act.InUptime (act : Act) : Prop := ∀ now, act = .tick now → now.InUptime

theorem step_clock (s : System) (act : Act) :
    (s.step act).svc.clock = s.svc.clock ∨
      ∃ now, act = .tick now ∧ (s.step act).svc.clock = now := by
  have hstop : ∀ client, (s.stop client).svc.clock = s.svc.clock := by
    intro client
    rw [stop_svc, stopSends]
    split
    · rfl
    · split <;> rfl
  cases act with
  | tick now =>
    rw [step, Service.tick]
    split
    · exact .inr ⟨now, rfl, rfl⟩
    · exact .inl rfl
  | startRead client timeOutInMs wakeOnExpire =>
    rw [step, startRead]
    split <;> exact .inl rfl
  | startPost client =>
    rw [step, startPost]
    split <;> exact .inl rfl
  | stop client =>
    rw [step]
    split
    · exact .inl (hstop client)
    · exact .inl rfl
  | wakePoll ready =>
    rw [step, Service.wakePoll]
    split <;> exact .inl rfl
  | poll =>
    rw [step, Service.pollStep]
    split <;> exact .inl rfl
  | task =>
    rw [step, taskStep]
    split
    · split
      · split
        · exact .inl s.svc.taskStep_clock
        · exact .inl rfl
      · next client _ =>
          split
          · exact .inl ((s.stop client).svc.taskStep_clock.trans (hstop client))
          · exact .inl rfl
    · exact .inl s.svc.taskStep_clock

/-- The invariant of the runs that stay within them. -/
structure Good (s : System) (home : Nat → Bool)
    (gone : List LocTimerDelegate) : Prop where
  near : s.Near
  ordered : s.svc.Ordered
  uptime : s.svc.clock.InUptime
  once : s.Once home gone

theorem good_start {clock : Timespec} (hclock : clock.InUptime) :
    (start clock).Good (fun _ => false) [] where
  near := near_start clock
  ordered := Service.ordered_start clock
  uptime := hclock
  once := once_start clock

theorem good_step {s : System} {home : Nat → Bool}
    {gone : List LocTimerDelegate} (h : s.Good home gone) {act : Act}
    (hact : Act.InUptime act) :
    ∃ home', (s.step act).Good home' (removedOf (s.events act) ++ gone) := by
  obtain ⟨home', honce⟩ := once_step h.once h.ordered act
  refine ⟨home', near_step h.near act, ?_, ?_, honce⟩
  · rw [step_svc]
    refine foldl_invariant Service.Ordered Service.Step.InRange
      (fun _ _ h ho => Service.ordered_step h ho) h.ordered _ ?_
    intro o ho wake timer heq
    obtain ⟨-, client, -, hst⟩ := serviceSteps_push (heq ▸ ho)
    have hnear := h.near.starting client wake timer.mFutureTime hst
    have hup := h.uptime
    rw [Timespec.Near] at hnear
    rw [Timespec.InUptime] at hup
    rw [Timespec.InRange]
    omega
  · obtain heq | ⟨now, htick, heq⟩ := s.step_clock act
    · rw [heq]
      exact h.uptime
    · rw [heq]
      exact hact now htick

/-- No timer is expired after its remove message has been processed. -/
def NeverAfterRemove (evs : List Event) : Prop :=
  evs.Pairwise fun ev ev' => ∀ timer time,
    ev' = .expired timer time → ev ≠ .removed timer

theorem trace_not_gone {s : System} {home : Nat → Bool}
    {gone : List LocTimerDelegate} (h : s.Good home gone) {acts : List Act}
    (hacts : ∀ act ∈ acts, Act.InUptime act) {timer : LocTimerDelegate}
    (hgone : timer ∈ gone) (time : Timespec) :
    .expired timer time ∉ s.trace acts := by
  induction acts generalizing s home gone with
  | nil => simp [trace]
  | cons act acts ih =>
    rw [trace, List.mem_append, not_or]
    obtain ⟨home', hstep⟩ := good_step h (hacts act List.mem_cons_self)
    refine ⟨?_, ih hstep (fun a ha => hacts a (List.mem_cons_of_mem _ ha))
      (List.mem_append_right _ hgone)⟩
    cases act with
    | task => exact fun hmem => Service.expired_not_gone h.once.svc hmem hgone
    | _ => simp [events]

theorem trace_neverAfterRemove {s : System} {home : Nat → Bool}
    {gone : List LocTimerDelegate} (h : s.Good home gone) {acts : List Act}
    (hacts : ∀ act ∈ acts, Act.InUptime act) :
    NeverAfterRemove (s.trace acts) := by
  induction acts generalizing s home gone with
  | nil => exact List.Pairwise.nil
  | cons act acts ih =>
    have hrest : ∀ a ∈ acts, Act.InUptime a :=
      fun a ha => hacts a (List.mem_cons_of_mem _ ha)
    obtain ⟨home', hstep⟩ := good_step h (hacts act List.mem_cons_self)
    refine List.pairwise_append.mpr ⟨?_, ih hstep hrest, ?_⟩
    · -- a step has one event at most
      cases act with
      | task =>
        rw [events, Service.taskEvents]
        repeat' split
        all_goals simp
      | _ => exact List.Pairwise.nil
    · intro ev hev ev' hev' timer time heq hrem
      subst heq hrem
      refine trace_not_gone hstep hrest (List.mem_append_left _ ?_) time hev'
      exact List.mem_filterMap.mpr ⟨_, hev, rfl⟩

/-! ## Runs from the start -/

/-- In every interleaving no timer is expired early if and only if each first pop of an
expiry finds an empty heap or a timer that is due. Within the first 68 years that is just
when all goes well: no timer is expired after its removal either. -/
theorem run_onTime (clock : Timespec) (acts : List Act) :
    (NeverEarly ((start clock).trace acts) ↔ (start clock).HeadsDue acts) ∧
      (clock.InUptime → (∀ act ∈ acts, Act.InUptime act) →
        (NeverEarly ((start clock).trace acts) ∧
            NeverAfterRemove ((start clock).trace acts) ↔
          (start clock).HeadsDue acts)) := by
  have hiff := trace_neverEarly (near_start clock) acts
  refine ⟨hiff, fun hclock hacts => ?_⟩
  have hafter := trace_neverAfterRemove (good_start hclock) hacts
  rw [← hiff]
  exact ⟨fun h => h.1, fun h => ⟨h, hafter⟩⟩

/-- A timer of 1 s and one of 100 s are started at 1 s. The first goes off,
but its client stops it before the poll thread has posted the wake-up. -/
def staleWakeUp : List Act :=
  [.startRead 0 1000 false, .startPost 0, .startRead 1 100000 false,
    .startPost 1, .task, .task, .task, .task,
    .tick ⟨2, 500000000, by decide, by decide⟩, .wakePoll [false], .stop 0,
    .poll, .poll, .poll, .task, .task, .task, .task, .task]

/-- The stale wake-up expires the timer of 100 s after a second and a half. -/
theorem staleWakeUp_early :
    ¬ (NeverEarly ((start ⟨1, 0, by decide, by decide⟩).trace staleWakeUp) ∧
      NeverAfterRemove
        ((start ⟨1, 0, by decide, by decide⟩).trace staleWakeUp)) := by
  intro h
  have hmem : .expired ⟨1, ⟨101, 0, by decide, by decide⟩⟩
      ⟨2, 500000000, by decide, by decide⟩ ∈
        (start ⟨1, 0, by decide, by decide⟩).trace staleWakeUp := by
    decide +kernel
  exact absurd (h.1 _ _ hmem) (by decide +kernel)

end System

end Axon7.GpsUtils
