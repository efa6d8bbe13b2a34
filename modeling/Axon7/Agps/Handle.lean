import Axon7.Agps.Agree

/-!
# What becomes of one handle

A handle that no request of the modem stands behind any more may wait in a list
for the close of its connection. No event that is not about the handle makes it
active again; and each event answers the modem for it as often as it takes it
out of the list.
-/

namespace Axon7.Agps

/-- The handle that a call answers the modem for. -/
def Out.answered? : Out → Option Int
  | .atlOpenStatus handle _ _ _ _ => some handle
  | .atlCloseStatus handle _ => some handle
  | _ => none

/-- The handle that a call grants a connection. -/
def Out.granted? : Out → Option Int
  | .atlOpenStatus handle true _ _ _ => some handle
  | _ => none

/-- How often the modem is answered for the handle. -/
def answers (handle : Int) (outs : List Out) : Nat :=
  outs.countP (·.answered? = some handle)

theorem answers_append (handle : Int) (outs outs' : List Out) :
    answers handle (outs ++ outs') = answers handle outs + answers handle outs' :=
  List.countP_append

theorem answered_of_granted {o : Out} {handle : Int}
    (h : o.granted? = some handle) : o.answered? = some handle := by
  unfold Out.granted? at h
  split at h
  · exact h
  · cases h

namespace AgpsStateMachine

variable {sm : AgpsStateMachine} {env : Env} {cur : AgpsSubscriber}
  {event : AgpsEvent} {handle : Int} {r : AgpsStateMachine × List Out}

/-- How often the handle is in the list. -/
def count (sm : AgpsStateMachine) (handle : Int) : Nat :=
  sm.mSubscriberList.countP (·.mConnHandle = handle)

/-- The handle is in the list, and not just waiting for a close. -/
def Active (sm : AgpsStateMachine) (handle : Int) : Prop :=
  ∃ s ∈ sm.mSubscriberList, s.mConnHandle = handle ∧ s.mIsInactive = false

/-- What has been done leaves the handle inactive and grants it nothing; it has
answered and may still answer for the handle as often as the bound says. -/
structure Quiet (handle : Int) (bound : Nat)
    (r : AgpsStateMachine × List Out) : Prop where
  inactive : ¬r.1.Active handle
  answered : answers handle r.2 + r.1.count handle ≤ bound
  ungranted : ∀ o ∈ r.2, o.granted? ≠ some handle

namespace Quiet

variable {bound : Nat}

theorem refl (h : ¬sm.Active handle) :
    Quiet handle (sm.count handle) (sm, []) :=
  ⟨h, by simp [answers], by simp⟩

theorem trans {r r' : AgpsStateMachine × List Out} (h : Quiet handle bound r)
    (h' : Quiet handle (r.1.count handle) r') :
    Quiet handle bound (r'.1, r.2 ++ r'.2) where
  inactive := h'.inactive
  answered := by
    show answers handle (r.2 ++ r'.2) + r'.1.count handle ≤ bound
    rw [answers_append]
    have h₁ := h.answered
    have h₂ := h'.answered
    omega
  ungranted := by
    intro o ho
    obtain ho | ho := List.mem_append.mp ho
    · exact h.ungranted o ho
    · exact h'.ungranted o ho

theorem of_list {r : AgpsStateMachine × List Out} (h : Quiet handle bound r)
    {sm' : AgpsStateMachine}
    (hlist : sm'.mSubscriberList = r.1.mSubscriberList) :
    Quiet handle bound (sm', r.2) := by
  refine ⟨?_, ?_, h.ungranted⟩
  · unfold Active
    rw [hlist]
    exact h.inactive
  · unfold count
    rw [hlist]
    exact h.answered

end Quiet

/-! ## The helpers -/

theorem quiet_of_silent {sm' : AgpsStateMachine} {outs : List Out}
    (h : ¬sm.Active handle) (hlist : sm'.mSubscriberList = sm.mSubscriberList)
    (houts : ∀ o ∈ outs, o.answered? ≠ some handle) :
    Quiet handle (sm.count handle) (sm', outs) := by
  refine ⟨?_, ?_, fun o ho hgranted => houts o ho (answered_of_granted hgranted)⟩
  · unfold Active
    rw [hlist]
    exact h
  · have hnone : answers handle outs = 0 := by
      unfold answers
      rw [List.countP_eq_zero]
      simpa using houts
    unfold count
    rw [hnone, hlist]
    omega

theorem quiet_transition (h : ¬sm.Active handle) (newState : AgpsState) :
    Quiet handle (sm.count handle) (sm.transitionState newState, []) :=
  (Quiet.refl h).of_list rfl

theorem quiet_add (h : ¬sm.Active handle) (hcur : cur.mConnHandle ≠ handle) :
    Quiet handle (sm.count handle) (sm.addSubscriber cur, []) := by
  refine ⟨?_, ?_, by simp⟩
  · rintro ⟨s, hs, heq, hactive⟩
    obtain hs | rfl := mem_addSubscriber hs
    · exact h ⟨s, hs, heq, hactive⟩
    · exact hcur heq
  · unfold addSubscriber
    split
    · simp [answers]
    · simp [answers, count, hcur]

theorem notification_answers (sm : AgpsStateMachine) (event : AgpsEvent)
    (x handle : Int) :
    answers handle (sm.notification event x) ≤ if x = handle then 1 else 0 := by
  unfold notification answers
  split <;> by_cases hx : x = handle <;> simp [Out.answered?, hx]

theorem notification_granted (sm : AgpsStateMachine) (event : AgpsEvent)
    (x handle : Int) : ∀ o ∈ sm.notification event x,
      o.granted? = some handle → x = handle ∧ event = .granted := by
  unfold notification
  split <;> simp [Out.granted?]

theorem quiet_notify (h : ¬sm.Active handle) (hcur : cur.mConnHandle ≠ handle)
    (event : AgpsEvent) (delete : Bool) :
    Quiet handle (sm.count handle) (sm.notifyEventToSubscriber event cur delete) := by
  obtain ⟨n, hn⟩ := sm.notifyEventToSubscriber_eq event cur delete
  rw [hn]
  have hsub : (if delete then
      sm.mSubscriberList.filter (·.mConnHandle ≠ cur.mConnHandle)
      else sm.mSubscriberList).Sublist sm.mSubscriberList := by
    split
    · exact List.filter_sublist
    · exact List.Sublist.refl _
  refine ⟨?_, ?_, ?_⟩
  · rintro ⟨s, hs, hhandle⟩
    exact h ⟨s, hsub.subset hs, hhandle⟩
  · have hanswers := sm.notification_answers event cur.mConnHandle handle
    rw [if_neg hcur] at hanswers
    have hcount : List.countP
        (fun s : AgpsSubscriber => decide (s.mConnHandle = handle)) _ ≤ _ :=
      hsub.countP_le
    unfold count
    dsimp only
    omega
  · intro o ho hgranted
    exact hcur (sm.notification_granted _ _ _ o ho hgranted).1

theorem answers_notifications (sm : AgpsStateMachine) (event : AgpsEvent)
    (handle : Int) (l : List AgpsSubscriber) :
    answers handle (l.flatMap (sm.notification event ·.mConnHandle)) ≤
      l.countP (·.mConnHandle = handle) := by
  induction l with
  | nil => simp [answers]
  | cons s l ih =>
    rw [List.flatMap_cons, answers_append, List.countP_cons]
    have hs := sm.notification_answers event s.mConnHandle handle
    by_cases heq : s.mConnHandle = handle <;> simp [heq] at hs ⊢ <;> omega

theorem quiet_notifyAll (h : ¬sm.Active handle) {event : AgpsEvent}
    (hevent : event ≠ .granted) (type : AgpsNotificationType) :
    Quiet handle (sm.count handle) (sm.notifyAllSubscribers event true type) := by
  refine ⟨?_, ?_, ?_⟩
  · rintro ⟨s, hs, hhandle⟩
    rw [notifyAllSubscribers_list, if_pos rfl] at hs
    exact h ⟨s, List.mem_of_mem_filter hs, hhandle⟩
  · have hanswers := sm.answers_notifications event handle
      (sm.mSubscriberList.filter type.meant)
    have hsplit := List.countP_eq_countP_filter_add sm.mSubscriberList
      (·.mConnHandle = handle) type.meant
    unfold count
    rw [notifyAllSubscribers_said, notifyAllSubscribers_list, if_pos rfl]
    omega
  · intro o ho hgranted
    rw [notifyAllSubscribers_said] at ho
    obtain ⟨s, -, ho⟩ := List.mem_flatMap.mp ho
    exact hevent (sm.notification_granted _ _ _ o ho hgranted).2

theorem quiet_notifyActive (h : ¬sm.Active handle) :
    Quiet handle (sm.count handle)
      (sm.notifyAllSubscribers event false .forActiveSubscribers) := by
  have hother : ∀ s ∈ sm.mSubscriberList.filter
      (AgpsNotificationType.meant · .forActiveSubscribers),
      s.mConnHandle ≠ handle := by
    intro s hs heq
    obtain ⟨hs, hactive⟩ := List.mem_filter.mp hs
    exact h ⟨s, hs, heq, by simpa [AgpsNotificationType.meant] using hactive⟩
  have hanswers := sm.answers_notifications event handle
    (sm.mSubscriberList.filter
      (AgpsNotificationType.meant · .forActiveSubscribers))
  have hnone : (sm.mSubscriberList.filter
      (AgpsNotificationType.meant · .forActiveSubscribers)).countP
      (·.mConnHandle = handle) = 0 := by
    rw [List.countP_eq_zero]
    simpa using hother
  have hquiet : Quiet handle (sm.count handle)
      ((sm.notifyAllSubscribers event false .forActiveSubscribers).1,
        (sm.notifyAllSubscribers event false .forActiveSubscribers).2) := by
    refine quiet_of_silent h (by simp) fun o ho hanswered => ?_
    rw [notifyAllSubscribers_said] at ho
    have hpos : 0 < answers handle ((sm.mSubscriberList.filter
        (AgpsNotificationType.meant · .forActiveSubscribers)).flatMap
        (sm.notification event ·.mConnHandle)) :=
      List.countP_pos_iff.mpr ⟨o, ho, by simpa using hanswered⟩
    omega
  exact hquiet

theorem quiet_conn (h : ¬sm.Active handle) (env : Env) (request : Bool) :
    Quiet handle (sm.count handle) ((sm.requestOrReleaseDataConn env request).1,
      (sm.requestOrReleaseDataConn env request).2.1) := by
  refine quiet_of_silent h (by simp) fun o ho => ?_
  cases hkind : sm.kind with
  | nif =>
    rw [requestOrReleaseDataConn_nif _ _ hkind] at ho
    obtain rfl := List.mem_singleton.mp ho
    simp [Out.answered?]
  | ds =>
    rw [requestOrReleaseDataConn, hkind] at ho
    obtain ho | ⟨-, s, -, -, rfl⟩ := requestOrReleaseDataCall_outs hkind ho
    · simp only [List.mem_cons, List.not_mem_nil, or_false] at ho
      obtain rfl | rfl | rfl := ho <;> simp [Out.answered?]
    · simp [Out.answered?]

theorem mem_setInactive {x : Int} {s : AgpsSubscriber}
    {l : List AgpsSubscriber} (h : s ∈ setInactive x l) :
    s ∈ l ∨ s.mIsInactive = true := by
  induction l with
  | nil => cases h
  | cons a l ih =>
    rw [setInactive] at h
    split at h
    · obtain rfl | h := List.mem_cons.mp h
      · exact .inr rfl
      · exact .inl (List.mem_cons_of_mem _ h)
    · obtain rfl | h := List.mem_cons.mp h
      · exact .inl List.mem_cons_self
      · exact (ih h).imp_left (List.mem_cons_of_mem _)

theorem countP_handles (l : List AgpsSubscriber) (handle : Int) :
    l.countP (·.mConnHandle = handle) = (handles l).count handle := by
  rw [handles, List.count, List.countP_map]
  rfl

theorem countP_setInactive (x handle : Int) (l : List AgpsSubscriber) :
    (setInactive x l).countP (·.mConnHandle = handle) =
      l.countP (·.mConnHandle = handle) := by
  rw [countP_handles, countP_handles, handles_setInactive]

theorem quiet_leave (h : ¬sm.Active handle) (hcur : cur.mConnHandle ≠ handle) :
    Quiet handle (sm.count handle) (sm.leave cur) := by
  unfold leave
  split
  · refine ⟨?_, ?_, by simp⟩
    · rintro ⟨s, hs, heq, hactive⟩
      obtain hs | hinactive := mem_setInactive hs
      · exact h ⟨s, hs, heq, hactive⟩
      · rw [hactive] at hinactive
        cases hinactive
    · simp [answers, count, countP_setInactive]
  · exact quiet_notify h hcur _ _

/-! ## The events -/

theorem Quiet.moveAndAsk {bound : Nat} (h : Quiet handle bound r)
    (newState : AgpsState) (env : Env) (request : Bool) :
    Quiet handle bound (moveAndAsk r newState env request) := by
  have hstate : Quiet handle bound (r.1.transitionState newState, r.2) :=
    h.of_list rfl
  exact hstate.trans (quiet_conn hstate.inactive env request)

theorem Subscribed.quiet (hr : Subscribed sm env cur r)
    (h : ¬sm.Active handle) (hcur : cur.mConnHandle ≠ handle) :
    Quiet handle (sm.count handle) r := by
  have hadd := quiet_add h hcur
  cases hr with
  | asks =>
    have hconn := hadd.trans (quiet_conn hadd.inactive env true)
    exact hconn.of_list rfl
  | granted =>
    have hgranted := quiet_notify h hcur .granted false
    have hadd' := hgranted.trans (quiet_add hgranted.inactive hcur)
    rw [List.append_nil] at hadd'
    exact hadd'
  | waits => exact hadd

theorem Unsubscribed.quiet (hr : Unsubscribed sm env cur r)
    (h : ¬sm.Active handle) (hcur : cur.mConnHandle ≠ handle) :
    Quiet handle (sm.count handle) r := by
  have hleave := quiet_leave h hcur
  cases hr with
  | refused => exact quiet_notify h hcur .unsubscribe false
  | stays => exact hleave.of_list rfl
  | closes newState => exact hleave.moveAndAsk newState env false

theorem Reported.quiet (hr : Reported sm env event r) (h : ¬sm.Active handle) :
    Quiet handle (sm.count handle) r := by
  have hreleased : AgpsEvent.released ≠ .granted := by simp
  have hdenied : AgpsEvent.denied ≠ .granted := by simp
  have hwaiting := quiet_notifyAll h hreleased .forInactiveSubscribers
  cases hr with
  | nothing => exact .refl h
  | granted =>
    have hstate := quiet_transition h .acquired
    exact hstate.trans (quiet_notifyActive hstate.inactive)
  | forced =>
    have hstate := quiet_transition h .released
    exact hstate.trans (quiet_notifyAll hstate.inactive hreleased _)
  | denied =>
    have hstate := quiet_transition h .released
    exact hstate.trans (quiet_notifyAll hstate.inactive hdenied _)
  | reopened => exact hwaiting.moveAndAsk .pending env true
  | closed => exact hwaiting.of_list rfl

/-! ## The release of the handle itself -/

theorem setInactive_inactive {l : List AgpsSubscriber} (h : (handles l).Nodup)
    (handle : Int) : ∀ s ∈ setInactive handle l, s.mConnHandle = handle →
      s.mIsInactive = true := by
  induction l with
  | nil => simp [setInactive]
  | cons a l ih =>
    obtain ⟨hnot, hnodup⟩ := List.nodup_cons.mp h
    intro s hs heq
    rw [setInactive] at hs
    split at hs
    · next ha =>
        obtain rfl | hs := List.mem_cons.mp hs
        · rfl
        · exact absurd (List.mem_map.mpr ⟨s, hs, heq.trans ha.symm⟩) hnot
    · next ha =>
        obtain rfl | hs := List.mem_cons.mp hs
        · exact absurd heq ha
        · exact ih hnodup s hs heq

theorem distinct_count (h : sm.Distinct) (handle : Int) :
    sm.count handle ≤ 1 := by
  rw [count, countP_handles]
  exact List.nodup_iff_count.mp h handle

theorem quiet_leave_self (h : sm.Distinct) (hcur : cur.mConnHandle = handle) :
    Quiet handle 1 (sm.leave cur) := by
  unfold leave
  split
  · refine ⟨?_, ?_, by simp⟩
    · rintro ⟨s, hs, heq, hactive⟩
      rw [setInactive_inactive h _ s hs (heq.trans hcur.symm)] at hactive
      cases hactive
    · have hone := distinct_count h handle
      unfold count at hone ⊢
      simpa [answers, countP_setInactive] using hone
  · refine ⟨?_, ?_, ?_⟩
    · rintro ⟨s, hs, heq, -⟩
      simp [hcur, heq] at hs
    · have hnone : (sm.notifyEventToSubscriber .unsubscribe cur true).1.count
          handle = 0 := by
        unfold count
        rw [List.countP_eq_zero]
        simp [hcur]
      have hanswers := sm.notification_answers .unsubscribe cur.mConnHandle
        handle
      rw [hnone, notifyEventToSubscriber_said]
      split at hanswers <;> omega
    · intro o ho hgranted
      rw [notifyEventToSubscriber_said] at ho
      cases (sm.notification_granted _ _ _ o ho hgranted).2

theorem Unsubscribed.quiet_self (hr : Unsubscribed sm env cur r)
    (h : sm.Distinct) (hstate : sm.mState ≠ .released)
    (hcur : cur.mConnHandle = handle) : Quiet handle 1 r := by
  have hleave := quiet_leave_self h hcur
  cases hr with
  | refused hreleased => exact absurd hreleased hstate
  | stays => exact hleave.of_list rfl
  | closes newState => exact hleave.moveAndAsk newState env false

end AgpsStateMachine

/-! ## Posted requests -/

/-- The requests posted to the adapter's queue, in order. -/
def posts (outs : List Out) : List (Int × AGpsExtType) :=
  outs.filterMap Out.posted?

theorem posts_append (outs outs' : List Out) :
    posts (outs ++ outs') = posts outs ++ posts outs' :=
  List.filterMap_append

namespace AgpsStateMachine

variable {sm : AgpsStateMachine} {env : Env} {cur : AgpsSubscriber}
  {event : AgpsEvent} {r : AgpsStateMachine × List Out}

theorem posts_notification (h : event ≠ .denied ∨ sm.kind = .nif) (x : Int) :
    posts (sm.notification event x) = [] := by
  unfold notification
  split <;> simp_all [posts, Out.posted?]

theorem posts_notifications (h : event ≠ .denied ∨ sm.kind = .nif)
    (l : List AgpsSubscriber) :
    posts (l.flatMap (sm.notification event ·.mConnHandle)) = [] := by
  induction l with
  | nil => rfl
  | cons s l ih =>
    rw [List.flatMap_cons, posts_append, ih, posts_notification h]
    rfl

theorem posts_denials (hkind : sm.kind = .ds) (l : List AgpsSubscriber) :
    posts (l.flatMap (sm.notification .denied ·.mConnHandle)) =
      l.map fun s => (s.mConnHandle, AGpsExtType.supl) := by
  induction l with
  | nil => rfl
  | cons s l ih =>
    rw [List.flatMap_cons, posts_append, ih, List.map_cons]
    simp [notification, hkind, posts, Out.posted?]

theorem posts_conn (h : sm.kind = .ds → sm.FallsBack env →
      ∀ s ∈ sm.mSubscriberList, s.mIsInactive = true) (request : Bool) :
    posts (sm.requestOrReleaseDataConn env request).2.1 = [] := by
  refine List.filterMap_eq_nil_iff.mpr fun o ho => ?_
  cases hkind : sm.kind with
  | nif =>
    rw [requestOrReleaseDataConn_nif _ _ hkind] at ho
    obtain rfl := List.mem_singleton.mp ho
    rfl
  | ds =>
    rw [requestOrReleaseDataConn, hkind] at ho
    obtain ho | ⟨hfall, s, hs, hactive, rfl⟩ :=
      requestOrReleaseDataCall_outs hkind ho
    · simp only [List.mem_cons, List.not_mem_nil, or_false] at ho
      obtain rfl | rfl | rfl := ho <;> rfl
    · rw [h hkind hfall s hs] at hactive
      cases hactive

theorem posts_leave : posts (sm.leave cur).2 = [] := by
  unfold leave
  split
  · rfl
  · simp [posts_notification]

theorem Subscribed.posts_nil (hr : Subscribed sm env cur r)
    (h : sm.kind = .ds → ¬sm.FallsBack env) : posts r.2 = [] := by
  cases hr with
  | asks =>
    refine posts_conn (fun hkind hfall => absurd hfall ?_) true
    rw [addSubscriber_eq] at hkind ⊢
    exact h hkind
  | granted => simp [posts_notification]
  | waits => rfl

theorem Unsubscribed.posts_nil (hr : Unsubscribed sm env cur r) :
    posts r.2 = [] := by
  cases hr with
  | refused => simp [posts_notification]
  | stays => exact posts_leave
  | closes newState hup hnone =>
    show posts (_ ++ _) = []
    rw [posts_append, posts_leave, List.nil_append]
    -- Nobody active is left to fall back for.
    refine posts_conn (fun _ _ s hs => hnone s ?_) false
    rwa [transitionState_list, leave_list] at hs

theorem Reported.posts_cases (hr : Reported sm env event r)
    (h : sm.kind = .ds → ¬sm.FallsBack env) :
    posts r.2 = [] ∨ sm.kind = .ds ∧ sm.mState = .pending ∧
      (event = .released ∨ event = .denied) ∧
      posts r.2 =
        (sm.mSubscriberList.map fun s => (s.mConnHandle, AGpsExtType.supl)) ∧
      r.1.mSubscriberList = [] := by
  have htold : ∀ (sm : AgpsStateMachine) event delete type,
      event ≠ .denied ∨ sm.kind = .nif →
        posts (sm.notifyAllSubscribers event delete type).2 = [] := by
    intro sm event delete type hevent
    rw [notifyAllSubscribers_said, posts_notifications hevent]
  cases hr with
  | nothing => exact .inl rfl
  | granted => exact .inl (htold _ _ _ _ (by simp))
  | forced => exact .inl (htold _ _ _ _ (by simp))
  | denied hstate hevent =>
    cases hkind : sm.kind with
    | nif => exact .inl (htold _ _ _ _ (by simp [hkind]))
    | ds =>
      refine .inr ⟨rfl, hstate, hevent, ?_, by
        simp [AgpsNotificationType.meant]⟩
      rw [notifyAllSubscribers_said, posts_denials (by simp [hkind])]
      simp [AgpsNotificationType.meant]
  | reopened =>
    refine .inl ?_
    show posts (_ ++ _) = []
    rw [posts_append, htold _ _ _ _ (by simp), List.nil_append]
    refine posts_conn (fun hkind hfall => absurd hfall ?_) true
    have hretries := sm.notifyAllSubscribers_retries .released true
      .forInactiveSubscribers (by simp)
    rw [transitionState_kind, notifyAllSubscribers_kind] at hkind
    have hnot := h hkind
    unfold FallsBack at hnot ⊢
    rw [← hretries] at hnot
    exact hnot
  | closed => exact .inl (htold _ _ _ _ (by simp))

end AgpsStateMachine

end Axon7.Agps
