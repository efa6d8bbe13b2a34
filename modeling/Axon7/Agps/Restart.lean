import Axon7.Agps.Agree

/-!
# A restart of the modem

`handleModemSSR` empties the subscriber lists and restarts the data service
client, but leaves the states of the machines as they are. A machine that is
not released then holds on to a connection that nobody uses, or waits for an
answer nobody is asked for, and does not ask for a connection again when the
next request comes. So it recovers exactly when it was released before.
-/

namespace Axon7.Agps

/-- The call that sets a connection up. -/
def Nif.connRequest : Nif → Out
  | .agnss => .frameworkStatus AGpsExtType.supl true
  | .internet => .frameworkStatus AGpsExtType.wwanAny true
  | .ds => .dsOpenAndStartDataCall

/-- The report of a connection that has been set up. -/
def Nif.openSuccess (apnName : Option (List UInt8))
    (bearerType : AGpsBearerType) : Nif → Msg
  | .agnss => .reportAtlOpenSuccess AGpsExtType.supl apnName bearerType
  | .internet => .reportAtlOpenSuccess AGpsExtType.wwanAny apnName bearerType
  | .ds => .reportDataCallOpened

/-- What the modem is told when its request is granted. -/
def Nif.grant (handle : Int) (apnName : Option (List UInt8))
    (bearerType : AGpsBearerType) : Nif → Out
  | .agnss =>
    .atlOpenStatus handle true apnName bearerType AGpsExtType.supl
  | .internet =>
    .atlOpenStatus handle true apnName bearerType AGpsExtType.wwanAny
  | .ds =>
    .atlOpenStatus handle true none AGpsBearerType.invalid AGpsExtType.suplEs

/-- The requests of the machine's type go to it, and a data call starts. -/
def Nif.Serves (env : Env) (nif : Nif) : Prop :=
  nif = .ds → env.emergencyPdn = true ∧
    env.mDSClientOpenAndStartDataCallFn = some errSuccess

/-- No subscriber is left, and the next request of the machine's type asks for
a connection and is granted when that has been set up. -/
def AgpsManager.Recovered (m : AgpsManager) (nif : Nif) : Prop :=
  (∀ sm, m.machine nif = some sm → sm.mSubscriberList = []) ∧
  ∀ env, nif.Serves env → ∀ handle apnName bearerType,
    let r := m.proc env (.requestATL handle nif.new.mAgpsType)
    nif.connRequest ∈ r.2 ∧
      nif.grant handle apnName bearerType ∈
        (r.1.proc env (nif.openSuccess apnName bearerType)).2

/-! ## The next request -/

section

variable {m : AgpsManager} {env : Env} {nif : Nif} {sm : AgpsStateMachine}

theorem getAgpsStateMachine_type (hsm : m.machine nif = some sm)
    (henv : nif.Serves env) :
    m.getAgpsStateMachine env nif.new.mAgpsType = (m, [], nif) := by
  unfold AgpsManager.getAgpsStateMachine
  cases nif with
  | agnss => rfl
  | internet => rfl
  | ds =>
    have hds : m.mDsNif = some sm := hsm
    rw [(henv rfl).1, hds]
    rfl

theorem requestATL_type (hsm : m.machine nif = some sm)
    (henv : nif.Serves env) (handle : Int) :
    m.proc env (.requestATL handle nif.new.mAgpsType) =
      (m.setMachine nif (sm.processAgpsEventSubscribe env
          ⟨handle, nif.new.mAgpsType = AGpsExtType.suplEs, false⟩).1,
        (sm.processAgpsEventSubscribe env
          ⟨handle, nif.new.mAgpsType = AGpsExtType.suplEs, false⟩).2) := by
  show m.requestATL env handle nif.new.mAgpsType = _
  unfold AgpsManager.requestATL
  rw [getAgpsStateMachine_type hsm henv]
  dsimp only
  rw [hsm]
  rfl

/-- A machine of the base class has the name and the bearer of the connection
when it hears of it. -/
def Nif.labelled (nif : Nif) (apnName : Option (List UInt8))
    (bearerType : AGpsBearerType) (sm : AgpsStateMachine) : AgpsStateMachine :=
  if nif = .ds then sm else { sm with mAPN := apnName, mBearer := bearerType }

theorem openSuccess_type (hsm : m.machine nif = some sm)
    (apnName : Option (List UInt8)) (bearerType : AGpsBearerType) :
    (m.proc env (nif.openSuccess apnName bearerType)).2 =
      (nif.labelled apnName bearerType sm).processAgpsEventGranted.2 := by
  cases nif with
  | agnss =>
    have hm : m.mAgnssNif = some sm := hsm
    simp [AgpsManager.proc, Nif.openSuccess, AgpsManager.reportAtlOpenSuccess,
      AgpsManager.getAgpsStateMachine, AgpsManager.machine, hm,
      Nif.labelled, AgpsStateMachine.processAgpsEvent]
  | internet =>
    have hm : m.mInternetNif = some sm := hsm
    simp [AgpsManager.proc, Nif.openSuccess, AgpsManager.reportAtlOpenSuccess,
      AgpsManager.getAgpsStateMachine, AgpsManager.machine, hm,
      Nif.labelled, AgpsStateMachine.processAgpsEvent, AGpsExtType.wwanAny,
      AGpsExtType.invalid, AGpsExtType.supl, AGpsExtType.suplEs]
  | ds =>
    have hm : m.mDsNif = some sm := hsm
    simp [AgpsManager.proc, Nif.openSuccess,
      AgpsManager.reportDataCallOpened, AgpsManager.report,
      AgpsManager.machine, hm, Nif.labelled,
      AgpsStateMachine.processAgpsEvent]

theorem machine_proc_request (hsm : m.machine nif = some sm)
    (henv : nif.Serves env) (handle : Int) :
    (m.proc env (.requestATL handle nif.new.mAgpsType)).1.machine nif =
      some (sm.processAgpsEventSubscribe env
        ⟨handle, nif.new.mAgpsType = AGpsExtType.suplEs, false⟩).1 := by
  rw [requestATL_type hsm henv, AgpsManager.setMachine_machine, if_pos rfl]

theorem request_silent (hstate : sm.mState ≠ .released) (hsound : Sound nif sm)
    (cur : AgpsSubscriber) :
    nif.connRequest ∉ (sm.processAgpsEventSubscribe env cur).2 := by
  unfold AgpsStateMachine.processAgpsEventSubscribe
  split
  · contradiction
  · simp
  · have hkind := hsound.kind
    cases nif <;> simp [Nif.connRequest, AgpsStateMachine.notification, hkind,
      Nif.new, AgpsStateMachine.new, AgpsStateMachine.newDs]
  · simp

theorem connRequest_eq {cur : AgpsSubscriber} (hkind : sm.kind = nif.new.kind)
    (htype : sm.mAgpsType = nif.new.mAgpsType)
    (hlist : sm.mSubscriberList = [cur]) (hactive : cur.mIsInactive = false)
    (henv : nif.Serves env) :
    sm.requestOrReleaseDataConn env true = (sm, [nif.connRequest], 0) := by
  cases nif with
  | agnss =>
    rw [AgpsStateMachine.requestOrReleaseDataConn_nif _ _ hkind, htype]
    rfl
  | internet =>
    rw [AgpsStateMachine.requestOrReleaseDataConn_nif _ _ hkind, htype]
    rfl
  | ds =>
    have hds : sm.kind = .ds := hkind
    simp [AgpsStateMachine.requestOrReleaseDataConn, hds,
      AgpsStateMachine.requestOrReleaseDataCall,
      AgpsStateMachine.getFirstSubscriber, hlist, hactive, (henv rfl).2,
      errSuccess, errEngineBusy, errUnsupported, Nif.connRequest]

theorem request_pending (hstate : sm.mState = .released)
    (hsound : Sound nif sm) (hnil : sm.mSubscriberList = [])
    (henv : nif.Serves env) (cur : AgpsSubscriber)
    (hactive : cur.mIsInactive = false) :
    sm.processAgpsEventSubscribe env cur =
      ({ sm with mSubscriberList := [cur], mState := .pending },
        [nif.connRequest]) := by
  have hadd : sm.addSubscriber cur = { sm with mSubscriberList := [cur] } := by
    simp [AgpsStateMachine.addSubscriber, hnil]
  have hask : AgpsStateMachine.requestOrReleaseDataConn
      { sm with mSubscriberList := [cur] } env true =
      ({ sm with mSubscriberList := [cur] }, [nif.connRequest], 0) :=
    connRequest_eq hsound.kind hsound.type rfl hactive henv
  unfold AgpsStateMachine.processAgpsEventSubscribe
  rw [hstate]
  dsimp only
  rw [hadd, hask]
  rfl

theorem recovered_iff (hsm : m.machine nif = some sm) (hsound : Sound nif sm)
    (hnil : sm.mSubscriberList = []) :
    m.Recovered nif ↔ sm.mState = .released := by
  constructor
  · intro hrecovered
    by_contra hstate
    have henv : nif.Serves ⟨true, true, some 0, some errSuccess, true, true⟩ :=
      fun _ => ⟨rfl, rfl⟩
    have hrequest := (hrecovered.2 _ henv 0 none AGpsBearerType.invalid).1
    rw [requestATL_type hsm henv] at hrequest
    exact request_silent hstate hsound _ hrequest
  · intro hstate
    refine ⟨fun sm' hsm' => ?_, fun env henv handle apnName bearerType => ?_⟩
    · obtain rfl := Option.some.inj (hsm.symm.trans hsm')
      exact hnil
    · have hpending := request_pending hstate hsound hnil henv
        ⟨handle, nif.new.mAgpsType = AGpsExtType.suplEs, false⟩ rfl
      refine ⟨by rw [requestATL_type hsm henv, hpending]; simp, ?_⟩
      rw [openSuccess_type (machine_proc_request hsm henv handle), hpending]
      have hkind := hsound.kind
      have htype := hsound.type
      cases nif <;> simp [Nif.labelled, Nif.grant,
        AgpsStateMachine.processAgpsEventGranted, AgpsNotificationType.meant,
        AgpsStateMachine.notification, AgpsStateMachine.transitionState, hkind,
        htype, Nif.new, AgpsStateMachine.new, AgpsStateMachine.newDs]

end

/-! ## Runs -/

namespace System

/-- A machine recovers from a restart exactly if the restart found it
released. -/
theorem run_recovered_iff (os : List (Env × Op)) (env : Env) :
    (∀ nif, (run os).manager.machine nif ≠ none →
      (run (os ++ [(env, .call .handleModemSSR)])).manager.Recovered nif) ↔
    ∀ nif sm, (run os).manager.machine nif = some sm →
      sm.mState = .released := by
  have hdropped : ∀ nif sm, (run os).manager.machine nif = some sm →
      (run (os ++ [(env, .call .handleModemSSR)])).manager.machine nif =
        some sm.dropAllSubscribers := by
    intro nif sm hsm
    rw [run_snoc]
    show (((run os).manager.handleModemSSR env).1).machine nif = _
    rw [AgpsManager.handleModemSSR_machine, hsm]
    rfl
  have hiff : ∀ nif sm, (run os).manager.machine nif = some sm →
      ((run (os ++ [(env, .call .handleModemSSR)])).manager.Recovered nif ↔
        sm.mState = .released) := by
    intro nif sm hsm
    have hsm' := hdropped nif sm hsm
    have hiff := recovered_iff hsm' (run_sound _ nif _ hsm') rfl
    exact hiff
  constructor
  · intro hall nif sm hsm
    exact (hiff nif sm hsm).mp (hall nif (by simp [hsm]))
  · intro hreleased nif hne
    obtain ⟨sm, hsm⟩ := Option.ne_none_iff_exists'.mp hne
    exact (hiff nif sm hsm).mpr (hreleased nif sm hsm)

/-- The modem restarts while the emergency data call is up. The call is gone,
and the next emergency request does not start another. -/
theorem restart_lost :
    let env : Env := ⟨true, true, some 0, some errSuccess, true, true⟩
    let s := run [(env, .call .createAgpsStateMachines),
      (env, .call (.requestATL 1 AGpsExtType.suplEs)),
      (env, .call .reportDataCallOpened), (env, .call .handleModemSSR)]
    s.manager.machine .ds ≠ none ∧ ¬s.manager.Recovered .ds := by
  intro env s
  refine ⟨by decide, fun h => ?_⟩
  exact absurd (h.2 env (fun _ => ⟨rfl, rfl⟩) 2 none 0).1 (by decide)

end System

end Axon7.Agps

/-!
# Whom a connection is opened for

A machine asks for a connection only for an active subscriber: the one who has
come first, the one the data call is started for, or one who has come while the
last connection was being closed.
-/

namespace Axon7.Agps

namespace AgpsStateMachine

variable {sm : AgpsStateMachine} {env : Env} {cur : AgpsSubscriber}
  {nif : Nif} {event : AgpsEvent} {r : AgpsStateMachine × List Out}

theorem connRequest_notification (x : Int) :
    nif.connRequest ∉ sm.notification event x := by
  unfold notification
  split <;> cases nif <;> simp [Nif.connRequest]

theorem connRequest_notifications (l : List AgpsSubscriber) :
    nif.connRequest ∉ l.flatMap (sm.notification event ·.mConnHandle) := by
  intro hmem
  obtain ⟨s, -, hmem⟩ := List.mem_flatMap.mp hmem
  exact connRequest_notification _ hmem

/-- The machine is of the class and the type the pointer is for. -/
def Of (nif : Nif) (sm : AgpsStateMachine) : Prop :=
  sm.kind = nif.new.kind ∧ sm.mAgpsType = nif.new.mAgpsType

theorem Of.of_same {n : Nif} {sm' : AgpsStateMachine} (h : Of n sm)
    (hsame : sm.Same sm') : Of n sm' :=
  ⟨hsame.1.trans h.1, hsame.2.trans h.2⟩

variable {n : Nif}

theorem connRequest_conn (hof : Of n sm) {request : Bool}
    (h : nif.connRequest ∈ (sm.requestOrReleaseDataConn env request).2.1) :
    nif = n ∧ (sm.kind = .nif ∧ request = true ∨
      sm.anyActiveSubscribers = true) := by
  obtain ⟨hkind, htype⟩ := hof
  cases hk : sm.kind with
  | nif =>
    rw [requestOrReleaseDataConn_nif _ _ hk, htype] at h
    have heq := List.mem_singleton.mp h
    rw [hk] at hkind
    cases nif <;> cases n <;> simp [Nif.connRequest, Nif.new, new, newDs,
      AGpsExtType.supl, AGpsExtType.wwanAny] at heq hkind ⊢ <;>
      exact .inl heq
  | ds =>
    have hds : n = .ds := by
      rw [hk] at hkind
      cases n
      · cases hkind
      · cases hkind
      · rfl
    rw [requestOrReleaseDataConn, hk] at h
    have hnif : nif = .ds := by
      obtain h | ⟨-, s, -, -, h⟩ := requestOrReleaseDataCall_outs hk h
      · cases nif <;> simp [Nif.connRequest] at h ⊢
      · cases nif <;> simp [Nif.connRequest] at h
    refine ⟨hnif.trans hds.symm, .inr ?_⟩
    subst hnif
    unfold requestOrReleaseDataCall at h
    dsimp only at h
    split at h
    · simp [Nif.connRequest] at h
    · split at h
      · cases h
      · next s hs =>
          have hactive : s.mIsInactive = false := by
            simpa using List.find?_some hs
          rw [anyActiveSubscribers, List.any_eq_true]
          exact ⟨s, List.mem_of_find?_eq_some hs, by simp [hactive]⟩

theorem anyActive_of_list {sm' : AgpsStateMachine}
    (h : sm.anyActiveSubscribers = true)
    (hlist : sm'.mSubscriberList = sm.mSubscriberList) :
    sm'.anyActiveSubscribers = true := by
  unfold anyActiveSubscribers
  rw [hlist]
  exact h

theorem Subscribed.opens (hr : Subscribed sm env cur r) (hof : Of n sm)
    (hidle : sm.kind = .nif → sm.Idle) (hcur : cur.mIsInactive = false)
    (h : nif.connRequest ∈ r.2) :
    nif = n ∧ r.1.anyActiveSubscribers = true := by
  have hlist := hr.list
  cases hr with
  | asks newState hstate =>
    have hadd : Of n (sm.addSubscriber cur) := hof.of_same (by simp [Same])
    obtain ⟨hn, ⟨hkind, -⟩ | hactive⟩ := connRequest_conn hadd h
    · refine ⟨hn, anyActive_of_list ?_ hlist⟩
      rw [addSubscriber_kind] at hkind
      simp [addSubscriber, hidle hkind hstate, anyActiveSubscribers, hcur]
    · exact ⟨hn, anyActive_of_list hactive hlist⟩
  | granted =>
    rw [notifyEventToSubscriber_said] at h
    exact absurd h (connRequest_notification _)
  | waits => cases h

theorem Unsubscribed.opens (hr : Unsubscribed sm env cur r) (hof : Of n sm) :
    nif.connRequest ∉ r.2 := by
  have hleave : nif.connRequest ∉ (sm.leave cur).2 := by
    unfold leave
    split
    · simp
    · rw [notifyEventToSubscriber_said]
      exact connRequest_notification _
  cases hr with
  | refused =>
    rw [notifyEventToSubscriber_said]
    exact connRequest_notification _
  | stays => exact hleave
  | closes newState hup hnone =>
    have hof' : Of n ((sm.leave cur).1.transitionState newState) :=
      hof.of_same leave_same
    intro hmem
    obtain hmem | hmem := List.mem_append.mp hmem
    · exact hleave hmem
    · obtain ⟨-, ⟨-, hfalse⟩ | hactive⟩ := connRequest_conn hof' hmem
      · cases hfalse
      · obtain ⟨s, hs, hact⟩ := List.any_eq_true.mp hactive
        rw [transitionState_list, leave_list] at hs
        simp [hnone s hs] at hact

theorem Reported.opens (hr : Reported sm env event r) (hof : Of n sm)
    (h : nif.connRequest ∈ r.2) :
    nif = n ∧ r.1.anyActiveSubscribers = true := by
  have htold : ∀ (sm : AgpsStateMachine) event delete type,
      nif.connRequest ∉ (sm.notifyAllSubscribers event delete type).2 := by
    intro sm event delete type
    rw [notifyAllSubscribers_said]
    exact connRequest_notifications _
  cases hr with
  | nothing => cases h
  | granted => exact absurd h (htold _ _ _ _)
  | forced => exact absurd h (htold _ _ _ _)
  | denied => exact absurd h (htold _ _ _ _)
  | reopened hstate hany =>
    obtain h | h := List.mem_append.mp h
    · exact absurd h (htold _ _ _ _)
    · refine ⟨(connRequest_conn (hof.of_same (by simp [Same])) h).1, ?_⟩
      simpa [moveAndAsk, anyActiveSubscribers, AgpsNotificationType.meant]
        using hany
  | closed => exact absurd h (htold _ _ _ _)

end AgpsStateMachine

theorem Call.opens {m : AgpsManager} {env : Env} {msg : Msg}
    {r : AgpsManager × List Out} (h : Call env m msg r)
    (hsound : m.All Sound) {nif : Nif} (hmem : nif.connRequest ∈ r.2) :
    ∃ sm, r.1.machine nif = some sm ∧ sm.anyActiveSubscribers = true := by
  have hmade : ∀ {m' : AgpsManager} {made : List Out}, Created m (m', made) →
      nif.connRequest ∉ made := by
    intro m' made hmade hmem
    have hinit := hmade.said _ hmem
    cases nif <;> cases hinit
  have hset : ∀ {m' : AgpsManager} {n : Nif} {sm : AgpsStateMachine},
      nif = n ∧ sm.anyActiveSubscribers = true →
      ∃ sm', (m'.setMachine n sm).machine nif = some sm' ∧
        sm'.anyActiveSubscribers = true := by
    rintro m' n sm ⟨rfl, hactive⟩
    exact ⟨sm, by rw [AgpsManager.setMachine_machine, if_pos rfl], hactive⟩
  cases h with
  | created _ hcreated => exact absurd hmem (hmade hcreated)
  | openRefused hcreated =>
    obtain hmem | hmem := List.mem_append.mp hmem
    · exact absurd hmem (hmade hcreated)
    · cases nif <;> simp [Nif.connRequest] at hmem
  | closeRefused => cases nif <;> simp [Nif.connRequest] at hmem
  | subscribe hcreated hsm =>
    have hs := hsound.created .new hcreated _ _ hsm
    refine hset ((AgpsStateMachine.subscribed _ env _).opens
      ⟨hs.kind, hs.type⟩ (fun hkind => hs.idle fun hds => ?_) rfl
      ((List.mem_append.mp hmem).resolve_left (hmade hcreated)))
    rw [hs.kind, hds] at hkind
    cases hkind
  | unsubscribe hfind =>
    have hs := hsound _ _ (AgpsManager.findSubscriber_eq_some hfind).1
    exact absurd hmem
      ((AgpsStateMachine.unsubscribed _ env _).opens ⟨hs.kind, hs.type⟩)
  | @report _ m' made n event sm bearer apn _ hcreated hsm =>
    have hs := hsound.created .new hcreated _ _ hsm
    have hof : AgpsStateMachine.Of n
        { sm with mBearer := bearer, mAPN := apn } := ⟨hs.kind, hs.type⟩
    exact hset ((AgpsStateMachine.reported _ env event).opens hof
      ((List.mem_append.mp hmem).resolve_left (hmade hcreated)))
  | restart houts =>
    have hmem := houts _ hmem
    cases nif <;> simp [Nif.connRequest] at hmem

namespace System

theorem step_opens (os : List (Env × Op)) (o : Env × Op) {nif : Nif}
    {outs : List Out} (hlog : (run (os ++ [o])).log = (run os).log ++ outs)
    (hmem : nif.connRequest ∈ outs) :
    ∃ sm, (run (os ++ [o])).manager.machine nif = some sm ∧
      sm.anyActiveSubscribers = true := by
  rw [run_snoc] at hlog ⊢
  obtain ⟨msg, r, hcall, -, hr, hlog'⟩ | ⟨-, outs', hlog', houts⟩ :=
    (run os).step_cases o
  · rw [hr]
    obtain rfl := List.append_cancel_left (hlog.symm.trans hlog')
    exact hcall.opens (run_sound os) hmem
  · obtain rfl := List.append_cancel_left (hlog.symm.trans hlog')
    obtain ⟨handle, heq⟩ := houts _ hmem
    cases nif <;> cases heq

end System

end Axon7.Agps
