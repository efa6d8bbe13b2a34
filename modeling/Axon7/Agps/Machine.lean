import Mathlib

/-!
# The AGPS state machine

A state machine keeps the connection handles that wait for one kind of data
connection or use it. The DS machine is the same machine with two methods
overridden: it sets its call up through the data service client, which may
refuse, and it hands a denied subscriber on to the SUPL machine by a message
to the adapter's own queue.

Every function returns the machine it leaves and what it has said meanwhile.
-/

namespace Axon7.Agps

/-- `LOC_AGPS_TYPE_*` -/
abbrev AGpsExtType := Int

namespace AGpsExtType

def invalid : AGpsExtType := -1
def supl : AGpsExtType := 1
def wwanAny : AGpsExtType := 3
def suplEs : AGpsExtType := 5

end AGpsExtType

/-- `AGPS_APN_BEARER_*` -/
abbrev AGpsBearerType := Int

/-- `AGPS_APN_BEARER_INVALID` -/
def AGpsBearerType.invalid : AGpsBearerType := 0

/-- The answers of the data service client that are told apart. -/
def errSuccess : Int := 0
def errUnsupported : Int := 2
def errEngineBusy : Int := 6

inductive AgpsState
  | released
  | pending
  | acquired
  | releasing
deriving DecidableEq

inductive AgpsEvent
  | subscribe
  | unsubscribe
  | granted
  | released
  | denied
deriving DecidableEq

inductive AgpsNotificationType
  | forAllSubscribers
  | forInactiveSubscribers
  | forActiveSubscribers

structure AgpsSubscriber where
  mConnHandle : Int
  mWaitForCloseComplete : Bool
  mIsInactive : Bool

/-- The subscriber is among those a notification is for. -/
def AgpsNotificationType.meant (subscriber : AgpsSubscriber) :
    AgpsNotificationType → Bool
  | .forAllSubscribers => true
  | .forInactiveSubscribers => subscriber.mIsInactive
  | .forActiveSubscribers => !subscriber.mIsInactive

/-- The calls that leave the manager: to the framework, to the modem, to the
data service client, to the adapter's queue and to the timer. -/
inductive Out
  | frameworkStatus (type : AGpsExtType) (request : Bool)
  | atlOpenStatus (handle : Int) (isSuccess : Bool) (apn : Option (List UInt8))
      (bearer : AGpsBearerType) (type : AGpsExtType)
  | atlCloseStatus (handle : Int) (isSuccess : Bool)
  | dsInit (isDueToSSR : Bool)
  | dsOpenAndStartDataCall
  | dsStopDataCall
  | dsCloseDataCall
  | dsRelease
  | requestATLMsg (handle : Int) (type : AGpsExtType)
  | timerStart
deriving DecidableEq

/-- The configuration a step reads, and what the calls it makes return. A
function of the data service client that is not registered returns nothing. -/
structure Env where
  /-- `CAPABILITIES` has MSA or MSB. -/
  agpsCapable : Bool
  /-- `USE_EMERGENCY_PDN_FOR_EMERGENCY_SUPL` -/
  emergencyPdn : Bool
  mDSClientInitFn : Option Int
  mDSClientOpenAndStartDataCallFn : Option Int
  /-- `mDSClientStopDataCallFn` is registered. -/
  mDSClientStopDataCallFn : Bool
  /-- `loc_timer_start` gives a timer. -/
  timerStarts : Bool

/-- The class of a machine. -/
inductive Kind
  | nif
  | ds
deriving DecidableEq

structure AgpsStateMachine where
  kind : Kind
  mSubscriberList : List AgpsSubscriber
  mState : AgpsState
  mAgpsType : AGpsExtType
  mAPN : Option (List UInt8)
  mBearer : AGpsBearerType
  /-- Of a DS machine only. -/
  mRetries : Nat

namespace AgpsStateMachine

/-- The constructor of the base class. -/
def new (type : AGpsExtType) : AgpsStateMachine :=
  ⟨.nif, [], .released, type, none, AGpsBearerType.invalid, 0⟩

/-- The constructor of the DS class. -/
def newDs : AgpsStateMachine :=
  { new AGpsExtType.suplEs with kind := .ds }

def MAX_START_DATA_CALL_RETRIES : Nat := 4

/-! ## The subscriber list -/

def addSubscriber (sm : AgpsStateMachine) (subscriberToAdd : AgpsSubscriber) :
    AgpsStateMachine :=
  if sm.mSubscriberList.any (·.mConnHandle = subscriberToAdd.mConnHandle) then
    sm
  else
    { sm with mSubscriberList := sm.mSubscriberList ++ [subscriberToAdd] }

def deleteSubscriber (sm : AgpsStateMachine)
    (subscriberToDelete : AgpsSubscriber) : AgpsStateMachine :=
  { sm with
    mSubscriberList := sm.mSubscriberList.filter
      (·.mConnHandle ≠ subscriberToDelete.mConnHandle) }

def anyActiveSubscribers (sm : AgpsStateMachine) : Bool :=
  sm.mSubscriberList.any (!·.mIsInactive)

def getSubscriber (sm : AgpsStateMachine) (connHandle : Int) :
    Option AgpsSubscriber :=
  sm.mSubscriberList.find? (·.mConnHandle = connHandle)

def getFirstSubscriber (sm : AgpsStateMachine) (isInactive : Bool) :
    Option AgpsSubscriber :=
  sm.mSubscriberList.find? (·.mIsInactive = isInactive)

def dropAllSubscribers (sm : AgpsStateMachine) : AgpsStateMachine :=
  { sm with mSubscriberList := [] }

def transitionState (sm : AgpsStateMachine) (newState : AgpsState) :
    AgpsStateMachine :=
  { sm with mState := newState }

/-- `mIsInactive = true` in the first entry with the handle. -/
def setInactive (handle : Int) : List AgpsSubscriber → List AgpsSubscriber
  | [] => []
  | s :: rest =>
    if s.mConnHandle = handle then
      { s with mIsInactive := true } :: rest
    else
      s :: setInactive handle rest

/-! ## Notifications -/

/-- What the notification of one subscriber says. -/
def notification (sm : AgpsStateMachine) (event : AgpsEvent) (handle : Int) :
    List Out :=
  match sm.kind, event with
  | .nif, .granted =>
    [.atlOpenStatus handle true sm.mAPN sm.mBearer sm.mAgpsType]
  | .nif, .denied =>
    [.atlOpenStatus handle false sm.mAPN sm.mBearer sm.mAgpsType]
  | .nif, .unsubscribe => [.atlCloseStatus handle true]
  | .nif, .released => [.atlCloseStatus handle true]
  | .ds, .granted =>
    [.atlOpenStatus handle true none AGpsBearerType.invalid
      AGpsExtType.suplEs]
  | .ds, .denied => [.requestATLMsg handle AGpsExtType.supl]
  | .ds, .unsubscribe => [.atlCloseStatus handle true]
  | .ds, .released => [.dsCloseDataCall, .atlCloseStatus handle true]
  | _, .subscribe => []

/-- The change the notification makes to the machine itself: a denial at the
DS machine ends the series of its retries. -/
def notified (sm : AgpsStateMachine) (event : AgpsEvent) : AgpsStateMachine :=
  match sm.kind, event with
  | .ds, .denied => { sm with mRetries := 0 }
  | _, _ => sm

def notifyEventToSubscriber (sm : AgpsStateMachine) (event : AgpsEvent)
    (subscriberToNotify : AgpsSubscriber) (deleteSubscriberPostNotify : Bool) :
    AgpsStateMachine × List Out :=
  let told := sm.notification event subscriberToNotify.mConnHandle
  let sm := sm.notified event
  if deleteSubscriberPostNotify then
    (sm.deleteSubscriber subscriberToNotify, told)
  else
    (sm, told)

/-- One turn of the loop of `notifyAllSubscribers`. The list of the machine is
the part the iterator has gone past. -/
def notifyTurn (event : AgpsEvent) (deleteSubscriberPostNotify : Bool)
    (notificationType : AgpsNotificationType)
    (acc : AgpsStateMachine × List Out) (subscriber : AgpsSubscriber) :
    AgpsStateMachine × List Out :=
  let (sm, outs) := acc
  let keep (sm : AgpsStateMachine) : AgpsStateMachine :=
    { sm with mSubscriberList := sm.mSubscriberList ++ [subscriber] }
  if notificationType.meant subscriber then
    let (sm, told) := sm.notifyEventToSubscriber event subscriber false
    (if deleteSubscriberPostNotify then sm else keep sm, outs ++ told)
  else
    (keep sm, outs)

def notifyAllSubscribers (sm : AgpsStateMachine) (event : AgpsEvent)
    (deleteSubscriberPostNotify : Bool)
    (notificationType : AgpsNotificationType) :
    AgpsStateMachine × List Out :=
  sm.mSubscriberList.foldl
    (notifyTurn event deleteSubscriberPostNotify notificationType)
    ({ sm with mSubscriberList := [] }, [])

/-! ## The data connection -/

/-- `DSStateMachine::requestOrReleaseDataConn`, with what it returns. -/
def requestOrReleaseDataCall (sm : AgpsStateMachine) (env : Env)
    (request : Bool) : AgpsStateMachine × List Out × Int :=
  if !request && env.mDSClientStopDataCallFn then
    (sm, [.dsStopDataCall], 0)
  else
    match sm.getFirstSubscriber false with
    | none => (sm, [], -1)
    | some subscriber =>
      match env.mDSClientOpenAndStartDataCallFn with
      | none =>
        let (sm, told) := sm.notifyEventToSubscriber .denied subscriber false
        (sm, told, -1)
      | some ret =>
        if ret = errEngineBusy then
          let sm := { sm with mRetries := sm.mRetries + 1 }
          if sm.mRetries > MAX_START_DATA_CALL_RETRIES then
            let (sm, told) :=
              sm.notifyEventToSubscriber .denied subscriber false
            (sm, .dsOpenAndStartDataCall :: told, ret)
          -- The timer's handle is taken for an error code.
          else if env.timerStarts then
            (sm, [.dsOpenAndStartDataCall, .timerStart], -1)
          else
            (sm, [.dsOpenAndStartDataCall], ret)
        else if ret = errUnsupported then
          let (sm, told) :=
            sm.notifyEventToSubscriber .denied subscriber false
          (sm, .dsOpenAndStartDataCall :: told, ret)
        else
          (sm, [.dsOpenAndStartDataCall], ret)

def requestOrReleaseDataConn (sm : AgpsStateMachine) (env : Env)
    (request : Bool) : AgpsStateMachine × List Out × Int :=
  match sm.kind with
  | .nif => (sm, [.frameworkStatus sm.mAgpsType request], 0)
  | .ds => sm.requestOrReleaseDataCall env request

/-! ## Events -/

def processAgpsEventSubscribe (sm : AgpsStateMachine) (env : Env)
    (cur : AgpsSubscriber) : AgpsStateMachine × List Out :=
  match sm.mState with
  | .released =>
    let sm := sm.addSubscriber cur
    let (sm, outs, ret) := sm.requestOrReleaseDataConn env true
    if ret = 0 then
      (sm.transitionState .pending, outs)
    else
      (sm, outs)
  | .pending => (sm.addSubscriber cur, [])
  | .acquired =>
    let (sm, outs) := sm.notifyEventToSubscriber .granted cur false
    (sm.addSubscriber cur, outs)
  | .releasing => (sm.addSubscriber cur, [])

/-- The subscriber goes, or waits in the list for the connection to close. -/
def leave (sm : AgpsStateMachine) (cur : AgpsSubscriber) :
    AgpsStateMachine × List Out :=
  if cur.mWaitForCloseComplete then
    ({ sm with
      mSubscriberList := setInactive cur.mConnHandle sm.mSubscriberList }, [])
  else
    sm.notifyEventToSubscriber .unsubscribe cur true

def processAgpsEventUnsubscribe (sm : AgpsStateMachine) (env : Env)
    (cur : AgpsSubscriber) : AgpsStateMachine × List Out :=
  match sm.mState with
  | .released => sm.notifyEventToSubscriber .unsubscribe cur false
  | .pending | .acquired =>
    let (sm, outs) := sm.leave cur
    if sm.mSubscriberList.isEmpty then
      let sm := sm.transitionState .released
      let (sm, more, _) := sm.requestOrReleaseDataConn env false
      (sm, outs ++ more)
    else if !sm.anyActiveSubscribers then
      let sm := sm.transitionState .releasing
      let (sm, more, _) := sm.requestOrReleaseDataConn env false
      (sm, outs ++ more)
    else
      (sm, outs)
  | .releasing =>
    let (sm, outs) := sm.leave cur
    if sm.mSubscriberList.isEmpty then
      (sm.transitionState .released, outs)
    else
      (sm, outs)

def processAgpsEventGranted (sm : AgpsStateMachine) :
    AgpsStateMachine × List Out :=
  match sm.mState with
  | .released | .acquired | .releasing => (sm, [])
  | .pending =>
    (sm.transitionState .acquired).notifyAllSubscribers .granted false
      .forActiveSubscribers

/-- The RELEASING case of the released and the denied event. -/
def closeComplete (sm : AgpsStateMachine) (env : Env) :
    AgpsStateMachine × List Out :=
  let (sm, outs) := sm.notifyAllSubscribers .released true
    .forInactiveSubscribers
  if sm.anyActiveSubscribers then
    let sm := sm.transitionState .pending
    let (sm, more, _) := sm.requestOrReleaseDataConn env true
    (sm, outs ++ more)
  else
    (sm.transitionState .released, outs)

def processAgpsEventReleased (sm : AgpsStateMachine) (env : Env) :
    AgpsStateMachine × List Out :=
  match sm.mState with
  | .released => (sm, [])
  | .acquired =>
    (sm.transitionState .released).notifyAllSubscribers .released true
      .forAllSubscribers
  | .releasing => sm.closeComplete env
  | .pending => (sm, [])

def processAgpsEventDenied (sm : AgpsStateMachine) (env : Env) :
    AgpsStateMachine × List Out :=
  match sm.mState with
  | .released => (sm, [])
  | .acquired => (sm, [])
  | .releasing => sm.closeComplete env
  | .pending =>
    (sm.transitionState .released).notifyAllSubscribers .denied true
      .forAllSubscribers

/-- The reports come without a current subscriber. -/
def processAgpsEvent (sm : AgpsStateMachine) (env : Env) (event : AgpsEvent)
    (mCurrentSubscriber : Option AgpsSubscriber) :
    AgpsStateMachine × List Out :=
  match event, mCurrentSubscriber with
  | .subscribe, some cur => sm.processAgpsEventSubscribe env cur
  | .unsubscribe, some cur => sm.processAgpsEventUnsubscribe env cur
  | .granted, _ => sm.processAgpsEventGranted
  | .released, _ =>
    -- The data service client reports a failed set-up as a release.
    if sm.kind = .ds ∧ sm.mState = .pending then
      sm.processAgpsEventDenied env
    else
      sm.processAgpsEventReleased env
  | .denied, _ => sm.processAgpsEventDenied env
  | _, none => (sm, [])

/-- The handle a fired retry timer asks the data call for again. -/
def retryCallback (sm : AgpsStateMachine) : List Out :=
  match sm.getFirstSubscriber false with
  | none => []
  | some subscriber =>
    [.requestATLMsg subscriber.mConnHandle AGpsExtType.suplEs]

/-! ## What the helpers change

Only the subscriber list and the retries: the state is changed by
`transitionState` alone. -/

theorem notified_eq (sm : AgpsStateMachine) (event : AgpsEvent) :
    ∃ n, sm.notified event = { sm with mRetries := n } ∧
      (event ≠ .denied → n = sm.mRetries) := by
  unfold notified
  split
  · exact ⟨0, rfl, by simp⟩
  · exact ⟨sm.mRetries, rfl, fun _ => rfl⟩

theorem notification_congr (sm : AgpsStateMachine) (event : AgpsEvent)
    (l : List AgpsSubscriber) (n : Nat) :
    notification { sm with mSubscriberList := l, mRetries := n } event =
      sm.notification event := rfl

theorem notifyTurn_foldl (event : AgpsEvent) (delete : Bool)
    (type : AgpsNotificationType) (l : List AgpsSubscriber)
    (acc : AgpsStateMachine × List Out) :
    ∃ n, l.foldl (notifyTurn event delete type) acc =
      ({ acc.1 with
          mSubscriberList := acc.1.mSubscriberList ++
            if delete then l.filter (!type.meant ·) else l
          mRetries := n },
        acc.2 ++ (l.filter type.meant).flatMap
          (acc.1.notification event ·.mConnHandle)) ∧
      (event ≠ .denied → n = acc.1.mRetries) := by
  induction l generalizing acc with
  | nil => exact ⟨acc.1.mRetries, by cases delete <;> simp, fun _ => rfl⟩
  | cons s l ih =>
    obtain ⟨k, hk, hkeep⟩ := acc.1.notified_eq event
    obtain ⟨n, hn, hn'⟩ := ih (notifyTurn event delete type acc s)
    refine ⟨n, ?_, fun hne => (hn' hne).trans ?_⟩
    swap
    · cases hm : type.meant s <;> cases delete <;>
        simp [notifyTurn, notifyEventToSubscriber, hm, hk, hkeep hne]
    rw [List.foldl_cons, hn]
    cases hm : type.meant s with
    | true =>
      cases delete <;>
        simp [notifyTurn, notifyEventToSubscriber, hm, hk,
          notification_congr]
    | false =>
      cases delete <;> simp [notifyTurn, hm] <;> rfl

theorem notifyAllSubscribers_eq (sm : AgpsStateMachine) (event : AgpsEvent)
    (delete : Bool) (type : AgpsNotificationType) :
    ∃ n, sm.notifyAllSubscribers event delete type =
      ({ sm with
          mSubscriberList :=
            if delete then sm.mSubscriberList.filter (!type.meant ·)
            else sm.mSubscriberList
          mRetries := n },
        (sm.mSubscriberList.filter type.meant).flatMap
          (sm.notification event ·.mConnHandle)) ∧
      (event ≠ .denied → n = sm.mRetries) :=
  notifyTurn_foldl event delete type sm.mSubscriberList
    ({ sm with mSubscriberList := [] }, [])

theorem notifyEventToSubscriber_eq (sm : AgpsStateMachine) (event : AgpsEvent)
    (s : AgpsSubscriber) (delete : Bool) :
    ∃ n, sm.notifyEventToSubscriber event s delete =
      ({ sm with
          mSubscriberList :=
            if delete then
              sm.mSubscriberList.filter (·.mConnHandle ≠ s.mConnHandle)
            else sm.mSubscriberList
          mRetries := n },
        sm.notification event s.mConnHandle) := by
  obtain ⟨n, hn, -⟩ := sm.notified_eq event
  refine ⟨n, ?_⟩
  cases delete <;> simp [notifyEventToSubscriber, deleteSubscriber, hn]

theorem addSubscriber_eq (sm : AgpsStateMachine) (cur : AgpsSubscriber) :
    sm.addSubscriber cur =
      { sm with mSubscriberList := (sm.addSubscriber cur).mSubscriberList } := by
  unfold addSubscriber
  split <;> rfl

theorem mem_addSubscriber {sm : AgpsStateMachine} {cur s : AgpsSubscriber}
    (h : s ∈ (sm.addSubscriber cur).mSubscriberList) :
    s ∈ sm.mSubscriberList ∨ s = cur := by
  unfold addSubscriber at h
  split at h
  · exact .inl h
  · simpa using h

/-- The data call is finally refused if the machine asks for it now: the
requests fall back to SUPL. -/
def FallsBack (sm : AgpsStateMachine) (env : Env) : Prop :=
  match env.mDSClientOpenAndStartDataCallFn with
  | none => True
  | some ret => ret = errUnsupported ∨
      ret = errEngineBusy ∧ MAX_START_DATA_CALL_RETRIES ≤ sm.mRetries

instance (sm : AgpsStateMachine) (env : Env) : Decidable (sm.FallsBack env) := by
  unfold FallsBack
  split <;> infer_instance

theorem requestOrReleaseDataConn_eq (sm : AgpsStateMachine) (env : Env)
    (request : Bool) :
    ∃ n, (sm.requestOrReleaseDataConn env request).1 =
      { sm with mRetries := n } := by
  have hdenied := fun (sm : AgpsStateMachine) (s : AgpsSubscriber) =>
    sm.notifyEventToSubscriber_eq .denied s false
  unfold requestOrReleaseDataConn
  split
  · exact ⟨sm.mRetries, rfl⟩
  · unfold requestOrReleaseDataCall
    split
    · exact ⟨sm.mRetries, rfl⟩
    · split
      · exact ⟨sm.mRetries, rfl⟩
      · next s _ =>
          split
          · obtain ⟨n, hn⟩ := hdenied sm s
            exact ⟨n, by rw [hn]; rfl⟩
          · split
            · dsimp only
              split
              · obtain ⟨n, hn⟩ :=
                  hdenied { sm with mRetries := sm.mRetries + 1 } s
                exact ⟨n, by rw [hn]; rfl⟩
              · split <;> exact ⟨sm.mRetries + 1, rfl⟩
            · split
              · obtain ⟨n, hn⟩ := hdenied sm s
                exact ⟨n, by rw [hn]; rfl⟩
              · exact ⟨sm.mRetries, rfl⟩

theorem requestOrReleaseDataCall_outs {sm : AgpsStateMachine} {env : Env}
    {request : Bool} (hkind : sm.kind = .ds) {o : Out}
    (ho : o ∈ (sm.requestOrReleaseDataCall env request).2.1) :
    o ∈ [.dsStopDataCall, .dsOpenAndStartDataCall, .timerStart] ∨
      sm.FallsBack env ∧ ∃ s ∈ sm.mSubscriberList, s.mIsInactive = false ∧
        o = .requestATLMsg s.mConnHandle AGpsExtType.supl := by
  unfold requestOrReleaseDataCall at ho
  split at ho
  · left
    simp_all
  · split at ho
    · cases ho
    · next s hs =>
        have hmem := List.mem_of_find?_eq_some hs
        have hactive : s.mIsInactive = false := by
          simpa using List.find?_some hs
        split at ho
        · next hnone =>
            refine .inr ⟨by rw [FallsBack, hnone]; trivial, s, hmem, hactive, ?_⟩
            simpa [notifyEventToSubscriber, notification, hkind] using ho
        · next ret hret =>
            split at ho
            · next hbusy =>
                dsimp only at ho
                split at ho
                · next hmax =>
                    have hfall : sm.FallsBack env := by
                      rw [FallsBack, hret]
                      exact .inr ⟨hbusy, by omega⟩
                    simp [notifyEventToSubscriber, notification, hkind] at ho
                    obtain rfl | rfl := ho
                    · simp
                    · exact .inr ⟨hfall, s, hmem, hactive, rfl⟩
                · left
                  split at ho <;> simp_all
            · split at ho
              · next hunsupported =>
                  have hfall : sm.FallsBack env := by
                    rw [FallsBack, hret]
                    exact .inl hunsupported
                  simp [notifyEventToSubscriber, notification, hkind] at ho
                  obtain rfl | rfl := ho
                  · simp
                  · exact .inr ⟨hfall, s, hmem, hactive, rfl⟩
              · left
                simp_all

end AgpsStateMachine

end Axon7.Agps
