import Axon7.Agps.Manager

/-!
# What an event leaves

All that an event can do to a machine of either class, said once for each kind
of event. The invariants are proved from this, without the code of the events.
-/

namespace Axon7.Agps

namespace AgpsStateMachine

variable {sm : AgpsStateMachine} {env : Env} {cur : AgpsSubscriber}

/-! ## Projections of the helpers -/

section

variable (sm : AgpsStateMachine) (env : Env) (cur : AgpsSubscriber)
  (event : AgpsEvent) (delete request : Bool) (type : AgpsNotificationType)
  (newState : AgpsState)

@[simp] theorem transitionState_list :
    (sm.transitionState newState).mSubscriberList = sm.mSubscriberList := rfl

@[simp] theorem transitionState_state :
    (sm.transitionState newState).mState = newState := rfl

@[simp] theorem transitionState_kind :
    (sm.transitionState newState).kind = sm.kind := rfl

@[simp] theorem transitionState_type :
    (sm.transitionState newState).mAgpsType = sm.mAgpsType := rfl

@[simp] theorem addSubscriber_state :
    (sm.addSubscriber cur).mState = sm.mState := by rw [addSubscriber_eq]

@[simp] theorem addSubscriber_kind :
    (sm.addSubscriber cur).kind = sm.kind := by rw [addSubscriber_eq]

@[simp] theorem addSubscriber_type :
    (sm.addSubscriber cur).mAgpsType = sm.mAgpsType := by rw [addSubscriber_eq]

theorem addSubscriber_congr {sm sm' : AgpsStateMachine}
    (h : sm.mSubscriberList = sm'.mSubscriberList) :
    (sm.addSubscriber cur).mSubscriberList =
      (sm'.addSubscriber cur).mSubscriberList := by
  unfold addSubscriber
  rw [h]
  split <;> simp [h]

@[simp] theorem notifyEventToSubscriber_list :
    (sm.notifyEventToSubscriber event cur false).1.mSubscriberList =
      sm.mSubscriberList := by
  obtain ⟨n, hn⟩ := sm.notifyEventToSubscriber_eq event cur false
  rw [hn]
  rfl

@[simp] theorem notifyEventToSubscriber_delete_list :
    (sm.notifyEventToSubscriber event cur true).1.mSubscriberList =
      sm.mSubscriberList.filter (·.mConnHandle ≠ cur.mConnHandle) := by
  obtain ⟨n, hn⟩ := sm.notifyEventToSubscriber_eq event cur true
  rw [hn]
  rfl

@[simp] theorem notifyEventToSubscriber_state :
    (sm.notifyEventToSubscriber event cur delete).1.mState = sm.mState := by
  obtain ⟨n, hn⟩ := sm.notifyEventToSubscriber_eq event cur delete
  rw [hn]

@[simp] theorem notifyEventToSubscriber_kind :
    (sm.notifyEventToSubscriber event cur delete).1.kind = sm.kind := by
  obtain ⟨n, hn⟩ := sm.notifyEventToSubscriber_eq event cur delete
  rw [hn]

@[simp] theorem notifyEventToSubscriber_type :
    (sm.notifyEventToSubscriber event cur delete).1.mAgpsType =
      sm.mAgpsType := by
  obtain ⟨n, hn⟩ := sm.notifyEventToSubscriber_eq event cur delete
  rw [hn]

@[simp] theorem notifyEventToSubscriber_said :
    (sm.notifyEventToSubscriber event cur delete).2 =
      sm.notification event cur.mConnHandle := by
  obtain ⟨n, hn⟩ := sm.notifyEventToSubscriber_eq event cur delete
  rw [hn]

@[simp] theorem notifyAllSubscribers_list :
    (sm.notifyAllSubscribers event delete type).1.mSubscriberList =
      if delete then sm.mSubscriberList.filter (!type.meant ·)
      else sm.mSubscriberList := by
  obtain ⟨n, hn, -⟩ := sm.notifyAllSubscribers_eq event delete type
  rw [hn]

@[simp] theorem notifyAllSubscribers_state :
    (sm.notifyAllSubscribers event delete type).1.mState = sm.mState := by
  obtain ⟨n, hn, -⟩ := sm.notifyAllSubscribers_eq event delete type
  rw [hn]

@[simp] theorem notifyAllSubscribers_kind :
    (sm.notifyAllSubscribers event delete type).1.kind = sm.kind := by
  obtain ⟨n, hn, -⟩ := sm.notifyAllSubscribers_eq event delete type
  rw [hn]

@[simp] theorem notifyAllSubscribers_type :
    (sm.notifyAllSubscribers event delete type).1.mAgpsType = sm.mAgpsType := by
  obtain ⟨n, hn, -⟩ := sm.notifyAllSubscribers_eq event delete type
  rw [hn]

@[simp] theorem notifyAllSubscribers_said :
    (sm.notifyAllSubscribers event delete type).2 =
      (sm.mSubscriberList.filter type.meant).flatMap
        (sm.notification event ·.mConnHandle) := by
  obtain ⟨n, hn, -⟩ := sm.notifyAllSubscribers_eq event delete type
  rw [hn]

theorem notifyAllSubscribers_retries (h : event ≠ .denied) :
    (sm.notifyAllSubscribers event delete type).1.mRetries = sm.mRetries := by
  obtain ⟨n, hn, hkeep⟩ := sm.notifyAllSubscribers_eq event delete type
  rw [hn]
  exact hkeep h

@[simp] theorem requestOrReleaseDataConn_list :
    (sm.requestOrReleaseDataConn env request).1.mSubscriberList =
      sm.mSubscriberList := by
  obtain ⟨n, hn⟩ := sm.requestOrReleaseDataConn_eq env request
  rw [hn]

@[simp] theorem requestOrReleaseDataConn_state :
    (sm.requestOrReleaseDataConn env request).1.mState = sm.mState := by
  obtain ⟨n, hn⟩ := sm.requestOrReleaseDataConn_eq env request
  rw [hn]

@[simp] theorem requestOrReleaseDataConn_kind :
    (sm.requestOrReleaseDataConn env request).1.kind = sm.kind := by
  obtain ⟨n, hn⟩ := sm.requestOrReleaseDataConn_eq env request
  rw [hn]

@[simp] theorem requestOrReleaseDataConn_type :
    (sm.requestOrReleaseDataConn env request).1.mAgpsType = sm.mAgpsType := by
  obtain ⟨n, hn⟩ := sm.requestOrReleaseDataConn_eq env request
  rw [hn]

theorem requestOrReleaseDataConn_nif {sm : AgpsStateMachine}
    (hkind : sm.kind = .nif) : sm.requestOrReleaseDataConn env request =
      (sm, [.frameworkStatus sm.mAgpsType request], 0) := by
  rw [requestOrReleaseDataConn, hkind]

end

/-! ## What an event can do -/

/-- A connection is being set up, or is there. -/
def Up (sm : AgpsStateMachine) : Prop :=
  sm.mState = .pending ∨ sm.mState = .acquired

theorem Up.not_released (h : sm.Up) : sm.mState ≠ .released := by
  obtain h | h := h <;> simp [h]

/-- The list without the subscriber, or with it waiting. -/
def left (sm : AgpsStateMachine) (cur : AgpsSubscriber) :
    List AgpsSubscriber :=
  if cur.mWaitForCloseComplete then
    setInactive cur.mConnHandle sm.mSubscriberList
  else
    sm.mSubscriberList.filter (·.mConnHandle ≠ cur.mConnHandle)

/-- A change of state, with what it makes the machine ask for. -/
def moveAndAsk (r : AgpsStateMachine × List Out) (newState : AgpsState)
    (env : Env) (request : Bool) : AgpsStateMachine × List Out :=
  (((r.1.transitionState newState).requestOrReleaseDataConn env request).1,
    r.2 ++ ((r.1.transitionState newState).requestOrReleaseDataConn env
      request).2.1)

/-- All that a request does: it asks for the connection, is granted the one
there is, or waits with the others. -/
inductive Subscribed (sm : AgpsStateMachine) (env : Env)
    (cur : AgpsSubscriber) : AgpsStateMachine × List Out → Prop
  | asks (newState : AgpsState) (hstate : sm.mState = .released)
      (hnew : newState = .pending ∨ newState = .released ∧ sm.kind = .ds) :
      Subscribed sm env cur
        (((sm.addSubscriber cur).requestOrReleaseDataConn env
            true).1.transitionState newState,
          ((sm.addSubscriber cur).requestOrReleaseDataConn env true).2.1)
  | granted (hstate : sm.mState = .acquired) :
      Subscribed sm env cur
        ((sm.notifyEventToSubscriber .granted cur false).1.addSubscriber cur,
          (sm.notifyEventToSubscriber .granted cur false).2)
  | waits (hstate : sm.mState = .pending ∨ sm.mState = .releasing) :
      Subscribed sm env cur (sm.addSubscriber cur, [])

/-- All that a release does: it leaves the list alone, takes the subscriber out
or sets it waiting, and closes the connection with the last active one. -/
inductive Unsubscribed (sm : AgpsStateMachine) (env : Env)
    (cur : AgpsSubscriber) : AgpsStateMachine × List Out → Prop
  | refused (hstate : sm.mState = .released) :
      Unsubscribed sm env cur (sm.notifyEventToSubscriber .unsubscribe cur false)
  | stays (newState : AgpsState) (hstate : sm.mState ≠ .released)
      (hnew : newState = sm.mState ∧ sm.left cur ≠ [] ∧
          (sm.Up → ∃ s ∈ sm.left cur, s.mIsInactive = false) ∨
        newState = .released ∧ sm.left cur = []) :
      Unsubscribed sm env cur
        ((sm.leave cur).1.transitionState newState, (sm.leave cur).2)
  | closes (newState : AgpsState) (hup : sm.Up)
      (hnone : ∀ s ∈ sm.left cur, s.mIsInactive = true)
      (hnew : newState = .releasing ∧ sm.left cur ≠ [] ∨
        newState = .released ∧ sm.left cur = []) :
      Unsubscribed sm env cur (moveAndAsk (sm.leave cur) newState env false)

/-- All that a report does: nothing, a grant to the active subscribers, a close
or a denial for all, or a close for those who wait for it, after which the
connection is asked for again if there are others. -/
inductive Reported (sm : AgpsStateMachine) (env : Env) (event : AgpsEvent) :
    AgpsStateMachine × List Out → Prop
  | nothing : Reported sm env event (sm, [])
  | granted (hstate : sm.mState = .pending) :
      Reported sm env event
        ((sm.transitionState .acquired).notifyAllSubscribers .granted false
          .forActiveSubscribers)
  | forced (hstate : sm.mState = .acquired) :
      Reported sm env event
        ((sm.transitionState .released).notifyAllSubscribers .released true
          .forAllSubscribers)
  | denied (hstate : sm.mState = .pending)
      (hevent : event = .released ∨ event = .denied) :
      Reported sm env event
        ((sm.transitionState .released).notifyAllSubscribers .denied true
          .forAllSubscribers)
  | reopened (hstate : sm.mState = .releasing)
      (hany : sm.anyActiveSubscribers = true) :
      Reported sm env event
        (moveAndAsk (sm.notifyAllSubscribers .released true
          .forInactiveSubscribers) .pending env true)
  | closed (hstate : sm.mState = .releasing)
      (hnone : sm.anyActiveSubscribers = false) :
      Reported sm env event
        ((sm.notifyAllSubscribers .released true
            .forInactiveSubscribers).1.transitionState .released,
          (sm.notifyAllSubscribers .released true .forInactiveSubscribers).2)

theorem subscribed (sm : AgpsStateMachine) (env : Env) (cur : AgpsSubscriber) :
    Subscribed sm env cur (sm.processAgpsEventSubscribe env cur) := by
  unfold processAgpsEventSubscribe
  split
  · next hstate =>
      dsimp only
      split
      · exact .asks .pending hstate (.inl rfl)
      · next hret =>
          have hkept : ((sm.addSubscriber cur).requestOrReleaseDataConn env
              true).1.mState = .released := by simp [hstate]
          have hkind : sm.kind = .ds := by
            cases hk : sm.kind with
            | nif =>
              have hadd : (sm.addSubscriber cur).kind = .nif := by simp [hk]
              simp [requestOrReleaseDataConn_nif _ _ hadd] at hret
            | ds => rfl
          have h : Subscribed sm env cur _ :=
            .asks .released hstate (.inr ⟨rfl, hkind⟩)
          rw [← hkept] at h
          exact h
  · next hstate => exact .waits (.inl hstate)
  · next hstate => exact .granted hstate
  · next hstate => exact .waits (.inr hstate)

theorem leave_list : (sm.leave cur).1.mSubscriberList = sm.left cur := by
  unfold leave left
  split <;> simp

theorem leave_state (cur : AgpsSubscriber) :
    (sm.leave cur).1.mState = sm.mState := by
  unfold leave
  split <;> simp

theorem unsubscribed_up (env : Env) (hup : sm.Up) :
    Unsubscribed sm env cur
      (if (sm.leave cur).1.mSubscriberList.isEmpty then
        moveAndAsk (sm.leave cur) .released env false
      else if !(sm.leave cur).1.anyActiveSubscribers then
        moveAndAsk (sm.leave cur) .releasing env false
      else
        sm.leave cur) := by
  rw [leave_list, anyActiveSubscribers, leave_list]
  split
  · next hempty =>
      have hnil := List.isEmpty_iff.mp hempty
      exact .closes .released hup (by simp [hnil]) (.inr ⟨rfl, hnil⟩)
  · next hempty =>
      rw [List.isEmpty_iff] at hempty
      split
      · next hnone =>
          exact .closes .releasing hup (by simpa using hnone)
            (.inl ⟨rfl, hempty⟩)
      · next hany =>
          have hany : ∃ s ∈ sm.left cur, s.mIsInactive = false := by
            simpa using hany
          have h : Unsubscribed sm env cur _ :=
            .stays sm.mState hup.not_released
              (.inl ⟨rfl, hempty, fun _ => hany⟩)
          rw [← leave_state cur] at h
          exact h

theorem unsubscribed (sm : AgpsStateMachine) (env : Env)
    (cur : AgpsSubscriber) :
    Unsubscribed sm env cur (sm.processAgpsEventUnsubscribe env cur) := by
  unfold processAgpsEventUnsubscribe
  split
  · next hstate => exact .refused hstate
  · next hstate => exact unsubscribed_up env (.inl hstate)
  · next hstate => exact unsubscribed_up env (.inr hstate)
  · next hstate =>
      dsimp only
      rw [leave_list]
      split
      · next hempty =>
          exact .stays .released (by simp [hstate])
            (.inr ⟨rfl, List.isEmpty_iff.mp hempty⟩)
      · next hempty =>
          rw [List.isEmpty_iff] at hempty
          have h : Unsubscribed sm env cur _ :=
            .stays sm.mState (by simp [hstate])
              (.inl ⟨rfl, hempty, by simp [Up, hstate]⟩)
          rw [← leave_state cur] at h
          exact h

theorem reported_closeComplete {event : AgpsEvent}
    (hstate : sm.mState = .releasing) :
    Reported sm env event (sm.closeComplete env) := by
  have hany : (sm.notifyAllSubscribers .released true
      .forInactiveSubscribers).1.anyActiveSubscribers =
      sm.anyActiveSubscribers := by
    simp [anyActiveSubscribers, AgpsNotificationType.meant]
  unfold closeComplete
  dsimp only
  rw [hany]
  split
  · next hany => exact .reopened hstate hany
  · next hnone => exact .closed hstate (by simpa using hnone)

theorem reported (sm : AgpsStateMachine) (env : Env) (event : AgpsEvent) :
    Reported sm env event (sm.processAgpsEvent env event none) := by
  have hdenied : event = .released ∨ event = .denied →
      Reported sm env event (sm.processAgpsEventDenied env) := by
    intro hevent
    unfold processAgpsEventDenied
    split
    · exact .nothing
    · exact .nothing
    · next hstate => exact reported_closeComplete hstate
    · next hstate => exact .denied hstate hevent
  cases event with
  | subscribe => exact .nothing
  | unsubscribe => exact .nothing
  | granted =>
    show Reported sm env _ sm.processAgpsEventGranted
    unfold processAgpsEventGranted
    split
    · exact .nothing
    · exact .nothing
    · exact .nothing
    · next hstate => exact .granted hstate
  | released =>
    unfold processAgpsEvent
    dsimp only
    split
    · exact hdenied (.inl rfl)
    · unfold processAgpsEventReleased
      split
      · exact .nothing
      · next hstate => exact .forced hstate
      · next hstate => exact reported_closeComplete hstate
      · exact .nothing
  | denied => exact hdenied (.inr rfl)

/-! ## The list after an event -/

theorem Subscribed.list {r : AgpsStateMachine × List Out}
    (h : Subscribed sm env cur r) :
    r.1.mSubscriberList = (sm.addSubscriber cur).mSubscriberList := by
  cases h with
  | asks => simp
  | granted => exact addSubscriber_congr cur (by simp)
  | waits => rfl

theorem Unsubscribed.list {r : AgpsStateMachine × List Out}
    (h : Unsubscribed sm env cur r) : r.1.mSubscriberList =
      if sm.mState = .released then sm.mSubscriberList else sm.left cur := by
  cases h with
  | refused hstate => simp [hstate]
  | stays newState hstate => simp [hstate, leave_list]
  | closes newState hup => simp [moveAndAsk, hup.not_released, leave_list]

theorem Reported.list {r : AgpsStateMachine × List Out} {event : AgpsEvent}
    (h : Reported sm env event r) : ∃ p : AgpsSubscriber → Bool,
      r.1.mSubscriberList = sm.mSubscriberList.filter p := by
  cases h with
  | nothing => exact ⟨fun _ => true, by simp⟩
  | granted => exact ⟨fun _ => true, by simp⟩
  | forced => exact ⟨fun _ => false, by simp [AgpsNotificationType.meant]⟩
  | denied => exact ⟨fun _ => false, by simp [AgpsNotificationType.meant]⟩
  | reopened => exact ⟨_, by simp [moveAndAsk]; rfl⟩
  | closed => exact ⟨_, by simp; rfl⟩

/-! ## Class and type -/

/-- The two are the same machine at two times. -/
def Same (sm sm' : AgpsStateMachine) : Prop :=
  sm'.kind = sm.kind ∧ sm'.mAgpsType = sm.mAgpsType

theorem leave_same : sm.Same (sm.leave cur).1 := by
  unfold leave Same
  split <;> simp

theorem Subscribed.same {r : AgpsStateMachine × List Out}
    (h : Subscribed sm env cur r) : sm.Same r.1 := by
  cases h <;> simp [Same]

theorem Unsubscribed.same {r : AgpsStateMachine × List Out}
    (h : Unsubscribed sm env cur r) : sm.Same r.1 := by
  have hleave : sm.Same (sm.leave cur).1 := leave_same
  unfold Same at hleave
  cases h <;> simp [Same, moveAndAsk, hleave]

theorem Reported.same {r : AgpsStateMachine × List Out} {event : AgpsEvent}
    (h : Reported sm env event r) : sm.Same r.1 := by
  cases h <;> simp [Same, moveAndAsk]

end AgpsStateMachine

end Axon7.Agps
