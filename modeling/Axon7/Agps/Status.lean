import Axon7.Agps.Agree

/-!
# What the framework is asked

A machine of the base class asks the framework for its connection when it is
first needed, and asks for the release when the last active subscriber leaves.
So what it asks follows its state: a release is asked only of a machine that is
up, and a machine is up only after a request.
-/

namespace Axon7.Agps

/-- The request or release of a type that a call is. -/
def Out.status? (type : AGpsExtType) : Out → Option Bool
  | .frameworkStatus t request => if t = type then some request else none
  | _ => none

/-- The requests and releases of a type, in order. -/
def statuses (type : AGpsExtType) (outs : List Out) : List Bool :=
  outs.filterMap (·.status? type)

theorem statuses_append (type : AGpsExtType) (outs outs' : List Out) :
    statuses type (outs ++ outs') = statuses type outs ++ statuses type outs' :=
  List.filterMap_append

/-- What an event may ask of the framework, by whether the machine is up
before and after. -/
def Follows (up : Prop) (asked : List Bool) (up' : Prop) : Prop :=
  asked = [] ∧ (up' → up) ∨ asked = [true] ∨ asked = [false] ∧ up ∧ ¬up'

namespace AgpsStateMachine

variable {sm : AgpsStateMachine} {env : Env} {cur : AgpsSubscriber}
  {event : AgpsEvent} {type : AGpsExtType} {r : AgpsStateMachine × List Out}

/-- The machine asks the framework for connections of the type. -/
def Asks (sm : AgpsStateMachine) (type : AGpsExtType) : Prop :=
  sm.kind = .nif ∧ sm.mAgpsType = type

instance : Decidable (sm.Asks type) := by
  unfold Asks
  infer_instance

theorem statuses_notification (handle : Int) :
    statuses type (sm.notification event handle) = [] := by
  unfold notification
  split <;> rfl

theorem statuses_notifications (l : List AgpsSubscriber) :
    statuses type (l.flatMap (sm.notification event ·.mConnHandle)) = [] := by
  induction l with
  | nil => rfl
  | cons s l ih =>
    rw [List.flatMap_cons, statuses_append, ih, statuses_notification]
    rfl

theorem statuses_conn (sm : AgpsStateMachine) (request : Bool) :
    statuses type (sm.requestOrReleaseDataConn env request).2.1 =
      if sm.Asks type then [request] else [] := by
  cases hkind : sm.kind with
  | nif =>
    rw [requestOrReleaseDataConn_nif env request hkind]
    by_cases htype : sm.mAgpsType = type <;>
      simp [Asks, statuses, Out.status?, hkind, htype]
  | ds =>
    have hnot : ¬sm.Asks type := by simp [Asks, hkind]
    rw [if_neg hnot, requestOrReleaseDataConn, hkind]
    refine List.filterMap_eq_nil_iff.mpr fun o ho => ?_
    obtain ho | ⟨-, s, -, -, rfl⟩ := requestOrReleaseDataCall_outs hkind ho
    · simp only [List.mem_cons, List.not_mem_nil, or_false] at ho
      obtain rfl | rfl | rfl := ho <;> rfl
    · rfl

theorem Same.asks {sm' : AgpsStateMachine} (h : sm.Same sm') :
    sm'.Asks type ↔ sm.Asks type := by
  unfold Asks
  rw [h.1, h.2]

theorem leave_statuses : statuses type (sm.leave cur).2 = [] := by
  unfold leave
  split
  · rfl
  · simp [statuses_notification]

/-- What the event has asked of the framework follows the state. -/
def Tells (sm : AgpsStateMachine) (r : AgpsStateMachine × List Out) : Prop :=
  ∀ type, if sm.Asks type then Follows sm.Up (statuses type r.2) r.1.Up
    else statuses type r.2 = []

theorem Tells.of_nothing (hnone : ∀ type, statuses type r.2 = [])
    (hup : r.1.Up → sm.Up) : sm.Tells r := by
  intro type
  split
  · exact .inl ⟨hnone type, hup⟩
  · exact hnone type

theorem Tells.of_request
    (hasked : ∀ type, statuses type r.2 = if sm.Asks type then [true] else []) :
    sm.Tells r := by
  intro type
  rw [hasked type]
  split
  · exact .inr (.inl rfl)
  · rfl

theorem Tells.of_release
    (hasked : ∀ type, statuses type r.2 = if sm.Asks type then [false] else [])
    (hup : sm.Up) (hdown : ¬r.1.Up) : sm.Tells r := by
  intro type
  rw [hasked type]
  split
  · exact .inr (.inr ⟨rfl, hup, hdown⟩)
  · rfl

theorem statuses_moveAndAsk (hsame : sm.Same r.1)
    (hnone : ∀ type, statuses type r.2 = []) (newState : AgpsState)
    (request : Bool) : statuses type (moveAndAsk r newState env request).2 =
      if sm.Asks type then [request] else [] := by
  have hasks : (r.1.transitionState newState).Asks type ↔ sm.Asks type :=
    hsame.asks
  unfold moveAndAsk
  rw [statuses_append, hnone, statuses_conn, List.nil_append]
  simp only [hasks]

theorem Subscribed.tells (hr : Subscribed sm env cur r) : sm.Tells r := by
  cases hr with
  | asks =>
    refine .of_request fun type => ?_
    rw [statuses_conn]
    simp [Asks]
  | granted hstate =>
    refine .of_nothing (fun type => ?_) fun _ => .inr hstate
    simp [statuses_notification]
  | waits hstate =>
    refine .of_nothing (fun _ => rfl) fun hup => ?_
    unfold Up at hup ⊢
    rwa [addSubscriber_state] at hup

theorem Unsubscribed.tells (hr : Unsubscribed sm env cur r) : sm.Tells r := by
  cases hr with
  | refused hstate =>
    refine .of_nothing (fun type => ?_) fun hup => ?_
    · simp [statuses_notification]
    · simp [Up, hstate] at hup
  | stays newState hstate hnew =>
    refine .of_nothing (fun _ => leave_statuses) fun hup => ?_
    obtain ⟨rfl, -⟩ | ⟨rfl, -⟩ := hnew
    · exact hup
    · simp [Up] at hup
  | closes newState hup hnone hnew =>
    refine .of_release (fun type => ?_) hup ?_
    · exact statuses_moveAndAsk leave_same (fun _ => leave_statuses) _ _
    · obtain ⟨rfl, -⟩ | ⟨rfl, -⟩ := hnew <;> simp [Up, moveAndAsk]

theorem Reported.tells (hr : Reported sm env event r) : sm.Tells r := by
  have htold : ∀ (sm : AgpsStateMachine) event delete kind type,
      statuses type (sm.notifyAllSubscribers event delete kind).2 = [] := by
    simp [statuses_notifications]
  cases hr with
  | nothing => exact .of_nothing (fun _ => rfl) id
  | granted hstate => exact .of_nothing (htold _ _ _ _) fun _ => .inl hstate
  | forced => exact .of_nothing (htold _ _ _ _) (by simp [Up])
  | denied => exact .of_nothing (htold _ _ _ _) (by simp [Up])
  | reopened =>
    refine .of_request fun type => ?_
    exact statuses_moveAndAsk (by simp [Same]) (htold _ _ _ _) _ _
  | closed => exact .of_nothing (htold _ _ _ _) (by simp [Up])

end AgpsStateMachine

/-! ## Runs -/

/-- Every release comes after a request, with no other release between. -/
def Asked (l : List Bool) : Prop :=
  ∀ pre, pre ++ [false] <+: l → pre.getLast? = some true

theorem Asked.concat {l : List Bool} (h : Asked l) {request : Bool}
    (hlast : request = false → l.getLast? = some true) :
    Asked (l ++ [request]) := by
  intro pre hpre
  obtain heq | hpre := List.prefix_concat_iff.mp hpre
  · obtain ⟨rfl, hreq⟩ := List.append_inj' heq rfl
    exact hlast (List.singleton_inj.mp hreq).symm
  · exact h pre hpre

/-- The statuses of a type that the framework has got are in order, and a
machine that is up was asked for last. -/
def Told (type : AGpsExtType) (m : AgpsManager) (l : List Bool) : Prop :=
  Asked l ∧ ∀ nif sm, m.machine nif = some sm → sm.Asks type → sm.Up →
    l.getLast? = some true

namespace Told

variable {type : AGpsExtType} {m m' : AgpsManager} {l : List Bool}
  {made outs : List Out}

theorem created (h : Told type m l) (hmade : Created m (m', made)) :
    Told type m' l := by
  refine ⟨h.1, fun nif sm hsm hasks hup => ?_⟩
  obtain heq | ⟨-, heq⟩ := hmade.machine nif
  · exact h.2 nif sm (heq.symm.trans hsm) hasks hup
  · obtain rfl := Option.some.inj (heq.symm.trans hsm)
    cases nif <;> simp [AgpsStateMachine.Up, Nif.new, AgpsStateMachine.new,
      AgpsStateMachine.newDs] at hup

theorem asks_unique (hsound : m.All Sound) {nif nif' : Nif}
    {sm sm' : AgpsStateMachine} (hsm : m.machine nif = some sm)
    (hsm' : m.machine nif' = some sm') (hasks : sm.Asks type)
    (hasks' : sm'.Asks type) : nif = nif' := by
  have h := hsound nif sm hsm
  have h' := hsound nif' sm' hsm'
  have hkind : nif.new.kind = .nif := h.kind.symm.trans hasks.1
  have hkind' : nif'.new.kind = .nif := h'.kind.symm.trans hasks'.1
  have htype : nif.new.mAgpsType = nif'.new.mAgpsType :=
    (h.type.symm.trans hasks.2).trans (hasks'.2.symm.trans h'.type)
  revert hkind hkind' htype
  cases nif <;> cases nif' <;> decide

theorem event (h : Told type m l) (hsound : m.All Sound) {nif : Nif}
    {sm : AgpsStateMachine} (hsm : m.machine nif = some sm)
    {r : AgpsStateMachine × List Out} (hsame : sm.Same r.1)
    (htells : sm.Tells r) :
    Told type (m.setMachine nif r.1) (l ++ statuses type r.2) := by
  have htells := htells type
  split at htells
  · next hasks =>
      -- The machine is the only one the statuses are about.
      have honly : ∀ n sm', (m.setMachine nif r.1).machine n = some sm' →
          sm'.Asks type → sm' = r.1 := by
        intro n sm' hsm' ha
        rw [AgpsManager.setMachine_machine] at hsm'
        split at hsm'
        · exact (Option.some.inj hsm').symm
        · next hne =>
            exact absurd (asks_unique hsound hsm' hsm ha hasks) hne
      obtain ⟨hnil, hup⟩ | htrue | ⟨hfalse, hup, hdown⟩ := htells
      · rw [hnil, List.append_nil]
        refine ⟨h.1, fun n sm' hsm' ha hup' => ?_⟩
        rw [honly n sm' hsm' ha] at hup'
        exact h.2 nif sm hsm hasks (hup hup')
      · rw [htrue]
        exact ⟨h.1.concat nofun, fun _ _ _ _ _ => by simp⟩
      · rw [hfalse]
        refine ⟨h.1.concat fun _ => h.2 nif sm hsm hasks hup,
          fun n sm' hsm' ha hup' => ?_⟩
        rw [honly n sm' hsm' ha] at hup'
        exact absurd hup' hdown
  · next hasks =>
      rw [htells, List.append_nil]
      refine ⟨h.1, fun n sm' hsm' ha hup => ?_⟩
      rw [AgpsManager.setMachine_machine] at hsm'
      split at hsm'
      · obtain rfl := Option.some.inj hsm'
        exact absurd (hsame.asks.mp ha) hasks
      · exact h.2 n sm' hsm' ha hup

end Told

theorem statuses_made {type : AGpsExtType} {m m' : AgpsManager}
    {made : List Out} (hmade : Created m (m', made)) :
    statuses type made = [] :=
  List.filterMap_eq_nil_iff.mpr fun o ho => by rw [hmade.said o ho]; rfl

theorem Told.call {type : AGpsExtType} {m : AgpsManager} {env : Env} {msg : Msg}
    {r : AgpsManager × List Out} {l : List Bool} (h : Told type m l)
    (hsound : m.All Sound) (hcall : Call env m msg r)
    (hmsg : msg ≠ .handleModemSSR) :
    Told type r.1 (l ++ statuses type r.2) := by
  cases hcall with
  | created _ hmade =>
    rw [statuses_made hmade, List.append_nil]
    exact h.created hmade
  | openRefused hmade =>
    rw [statuses_append, statuses_made hmade]
    simpa [statuses, Out.status?] using h.created hmade
  | closeRefused => simpa [statuses, Out.status?] using h
  | subscribe hmade hsm =>
    rw [statuses_append, statuses_made hmade, List.nil_append]
    exact (h.created hmade).event (hsound.created .new hmade) hsm
      (AgpsStateMachine.subscribed _ env _).same
      (AgpsStateMachine.subscribed _ env _).tells
  | unsubscribe hfind =>
    exact h.event hsound (AgpsManager.findSubscriber_eq_some hfind).1
      (AgpsStateMachine.unsubscribed _ env _).same
      (AgpsStateMachine.unsubscribed _ env _).tells
  | @report _ _ _ nif event sm bearer apn _ hmade hsm =>
    rw [statuses_append, statuses_made hmade, List.nil_append]
    have hr := AgpsStateMachine.reported
      { sm with mBearer := bearer, mAPN := apn } env event
    -- What is asked does not depend on the bearer and the name.
    have htells : sm.Tells (AgpsStateMachine.processAgpsEvent
        { sm with mBearer := bearer, mAPN := apn } env event none) := hr.tells
    exact (h.created hmade).event (hsound.created .new hmade) hsm hr.same
      htells
  | restart => exact absurd rfl hmsg

namespace System

theorem run_told {os : List (Env × Op)}
    (hos : ∀ o ∈ os, o.2 ≠ .call .handleModemSSR) (type : AGpsExtType) :
    Told type (run os).manager (statuses type (run os).log) := by
  induction os using List.reverseRecOn with
  | nil =>
    refine ⟨fun pre hpre => ?_, fun nif sm hsm => by cases nif <;> cases hsm⟩
    simpa [statuses] using List.prefix_nil.mp hpre
  | append_singleton os o ih =>
    have ih := ih fun o' ho' => hos o' (List.mem_append_left _ ho')
    rw [run_snoc]
    obtain ⟨msg, r, hcall, hmsg, hr, hlog⟩ | ⟨hsame, outs, hlog, houts⟩ :=
      (run os).step_cases o
    · rw [hr, hlog, statuses_append]
      exact ih.call (run_sound os) hcall fun hrestart =>
        hos o (by simp) (hmsg hrestart)
    · have hnone : statuses type outs = [] :=
        List.filterMap_eq_nil_iff.mpr fun out hout => by
          obtain ⟨handle, rfl⟩ := houts out hout
          rfl
      rw [hsame, hlog, statuses_append, hnone, List.append_nil]
      exact ih

/-- As long as the modem does not restart, the states of the AGNSS and the
internet machine agree with their subscriber lists, and a connection is
released only if it has been requested since the last release. -/
theorem run_agrees (os : List (Env × Op))
    (hos : ∀ o ∈ os, o.2 ≠ .call .handleModemSSR) :
    (∀ nif sm, nif ≠ .ds → (run os).manager.machine nif = some sm →
      sm.Agrees) ∧
    ∀ type pre, pre ++ [.frameworkStatus type false] <+: (run os).log →
      (statuses type pre).getLast? = some true := by
  refine ⟨fun nif sm hne hsm => (run_all_agrees hos nif sm hsm hne).2,
    fun type pre hpre => ?_⟩
  have hstatuses : statuses type pre ++ [false] <+:
      statuses type (run os).log := by
    have hlast : statuses type [.frameworkStatus type false] = [false] := by
      simp [statuses, Out.status?]
    rw [← hlast, ← statuses_append]
    exact hpre.filterMap _
  exact (run_told hos type).1 _ hstatuses

theorem run_agrees_supl :
    let env : Env := ⟨true, false, none, none, false, false⟩
    let s := run [(env, .call .createAgpsStateMachines),
      (env, .call (.requestATL 7 AGpsExtType.supl)),
      (env, .call (.reportAtlOpenSuccess AGpsExtType.supl (some [105]) 1)),
      (env, .call (.releaseATL 7))]
    (∃ sm, s.manager.mAgnssNif = some sm ∧ sm.Agrees) ∧
      (statuses AGpsExtType.supl (s.log.take 3)).getLast? = some true := by
  intro env s
  have hagrees := run_agrees [(env, .call .createAgpsStateMachines),
      (env, .call (.requestATL 7 AGpsExtType.supl)),
      (env, .call (.reportAtlOpenSuccess AGpsExtType.supl (some [105]) 1)),
      (env, .call (.releaseATL 7))] (by decide)
  exact ⟨⟨_, rfl, hagrees.1 .agnss _ (by decide) rfl⟩,
    hagrees.2 AGpsExtType.supl _ (by decide)⟩

end System

end Axon7.Agps
