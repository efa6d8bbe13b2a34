import Axon7.Agps.Machine

/-!
# The AGPS manager

The manager routes a request to one of three state machines by its type, finds
the machine that holds a handle to be released, and passes the reports on. It
runs in the message task of the adapter: what a machine posts to the adapter's
queue comes back as a request later, behind any other message, and a retry
timer posts one more when it fires.
-/

namespace Axon7.Agps

/-- The pointers of the manager. -/
inductive Nif
  | agnss
  | internet
  | ds
deriving DecidableEq

structure AgpsManager where
  mAgnssNif : Option AgpsStateMachine
  mInternetNif : Option AgpsStateMachine
  mDsNif : Option AgpsStateMachine

namespace AgpsManager

def machine (m : AgpsManager) : Nif → Option AgpsStateMachine
  | .agnss => m.mAgnssNif
  | .internet => m.mInternetNif
  | .ds => m.mDsNif

def setMachine (m : AgpsManager) (nif : Nif) (sm : AgpsStateMachine) :
    AgpsManager :=
  match nif with
  | .agnss => { m with mAgnssNif := some sm }
  | .internet => { m with mInternetNif := some sm }
  | .ds => { m with mDsNif := some sm }

theorem setMachine_machine (m : AgpsManager) (nif n : Nif)
    (sm : AgpsStateMachine) :
    (m.setMachine nif sm).machine n = if n = nif then some sm else m.machine n := by
  cases nif <;> cases n <;> rfl

def createAgpsStateMachines (m : AgpsManager) (env : Env) :
    AgpsManager × List Out :=
  let m :=
    if m.mInternetNif.isNone then
      m.setMachine .internet (.new AGpsExtType.wwanAny)
    else m
  if env.agpsCapable then
    let m :=
      if m.mAgnssNif.isNone then m.setMachine .agnss (.new AGpsExtType.supl)
      else m
    if m.mDsNif.isNone && env.emergencyPdn then
      match env.mDSClientInitFn with
      | none => (m, [])
      | some ret =>
        if ret ≠ 0 then
          (m, [.dsInit false])
        else
          (m.setMachine .ds .newDs, [.dsInit false])
    else
      (m, [])
  else
    (m, [])

def getAgpsStateMachine (m : AgpsManager) (env : Env) (agpsType : AGpsExtType) :
    AgpsManager × List Out × Nif :=
  if agpsType = AGpsExtType.invalid ∨ agpsType = AGpsExtType.supl then
    (m, [], .agnss)
  else if agpsType = AGpsExtType.suplEs then
    if env.emergencyPdn then
      if m.mDsNif.isNone then
        let (m, outs) := m.createAgpsStateMachines env
        (m, outs, .ds)
      else
        (m, [], .ds)
    else
      (m, [], .agnss)
  else
    (m, [], .internet)

def requestATL (m : AgpsManager) (env : Env) (connHandle : Int)
    (agpsType : AGpsExtType) : AgpsManager × List Out :=
  let (m, made, nif) := m.getAgpsStateMachine env agpsType
  match m.machine nif with
  | none =>
    (m, made ++
      [.atlOpenStatus connHandle false none AGpsBearerType.invalid agpsType])
  | some sm =>
    let subscriber : AgpsSubscriber :=
      ⟨connHandle, agpsType = AGpsExtType.suplEs, false⟩
    let (sm, outs) := sm.processAgpsEvent env .subscribe (some subscriber)
    (m.setMachine nif sm, made ++ outs)

/-- The machine that knows the handle, the first of the three. -/
def findSubscriber (m : AgpsManager) (connHandle : Int) :
    Option (Nif × AgpsStateMachine × AgpsSubscriber) :=
  [Nif.agnss, .internet, .ds].findSome? fun nif =>
    (m.machine nif).bind fun sm =>
      (sm.getSubscriber connHandle).map (nif, sm, ·)

def releaseATL (m : AgpsManager) (env : Env) (connHandle : Int) :
    AgpsManager × List Out :=
  match m.findSubscriber connHandle with
  | none => (m, [.atlCloseStatus connHandle false])
  | some (nif, sm, subscriber) =>
    let (sm, outs) := sm.processAgpsEvent env .unsubscribe (some subscriber)
    (m.setMachine nif sm, outs)

/-- A report to the machine, if there is one. -/
def report (m : AgpsManager) (env : Env) (nif : Nif) (event : AgpsEvent) :
    AgpsManager × List Out :=
  match m.machine nif with
  | none => (m, [])
  | some sm =>
    let (sm, outs) := sm.processAgpsEvent env event none
    (m.setMachine nif sm, outs)

def reportDataCallOpened (m : AgpsManager) (env : Env) :
    AgpsManager × List Out :=
  m.report env .ds .granted

def reportDataCallClosed (m : AgpsManager) (env : Env) :
    AgpsManager × List Out :=
  m.report env .ds .released

/-- Without a machine the source follows a null pointer here and in the next
two functions; the model does nothing. -/
def reportAtlOpenSuccess (m : AgpsManager) (env : Env) (agpsType : AGpsExtType)
    (apnName : Option (List UInt8)) (bearerType : AGpsBearerType) :
    AgpsManager × List Out :=
  let (m, made, nif) := m.getAgpsStateMachine env agpsType
  match m.machine nif with
  | none => (m, made)
  | some sm =>
    let sm := { sm with mBearer := bearerType, mAPN := apnName }
    let (sm, outs) := sm.processAgpsEvent env .granted none
    (m.setMachine nif sm, made ++ outs)

def reportAtlOpenFailed (m : AgpsManager) (env : Env)
    (agpsType : AGpsExtType) : AgpsManager × List Out :=
  let (m, made, nif) := m.getAgpsStateMachine env agpsType
  let (m, outs) := m.report env nif .denied
  (m, made ++ outs)

def reportAtlClosed (m : AgpsManager) (env : Env) (agpsType : AGpsExtType) :
    AgpsManager × List Out :=
  let (m, made, nif) := m.getAgpsStateMachine env agpsType
  let (m, outs) := m.report env nif .released
  (m, made ++ outs)

def handleModemSSR (m : AgpsManager) (env : Env) : AgpsManager × List Out :=
  let m : AgpsManager :=
    { mAgnssNif := m.mAgnssNif.map (·.dropAllSubscribers)
      mInternetNif := m.mInternetNif.map (·.dropAllSubscribers)
      mDsNif := m.mDsNif.map (·.dropAllSubscribers) }
  if env.emergencyPdn then
    (m, [.dsStopDataCall, .dsCloseDataCall, .dsRelease, .dsInit true])
  else
    (m, [])

end AgpsManager

/-! ## Runs -/

/-- What the message task calls. -/
inductive Msg
  | createAgpsStateMachines
  | requestATL (connHandle : Int) (agpsType : AGpsExtType)
  | releaseATL (connHandle : Int)
  | reportDataCallOpened
  | reportDataCallClosed
  | reportAtlOpenSuccess (agpsType : AGpsExtType)
      (apnName : Option (List UInt8)) (bearerType : AGpsBearerType)
  | reportAtlOpenFailed (agpsType : AGpsExtType)
  | reportAtlClosed (agpsType : AGpsExtType)
  | handleModemSSR
deriving DecidableEq

def AgpsManager.proc (m : AgpsManager) (env : Env) :
    Msg → AgpsManager × List Out
  | .createAgpsStateMachines => m.createAgpsStateMachines env
  | .requestATL connHandle agpsType => m.requestATL env connHandle agpsType
  | .releaseATL connHandle => m.releaseATL env connHandle
  | .reportDataCallOpened => m.reportDataCallOpened env
  | .reportDataCallClosed => m.reportDataCallClosed env
  | .reportAtlOpenSuccess agpsType apnName bearerType =>
    m.reportAtlOpenSuccess env agpsType apnName bearerType
  | .reportAtlOpenFailed agpsType => m.reportAtlOpenFailed env agpsType
  | .reportAtlClosed agpsType => m.reportAtlClosed env agpsType
  | .handleModemSSR => m.handleModemSSR env

/-- A call, a retry timer that fires, or the next of the posted requests. -/
inductive Op
  | call (msg : Msg)
  | retryCallback
  | procMsg
deriving DecidableEq

/-- The manager, the requests it has posted, the retry timers running and all
that it has said. -/
structure System where
  manager : AgpsManager
  queue : List (Int × AGpsExtType)
  timers : Nat
  log : List Out

/-- The request that a call posts. -/
def Out.posted? : Out → Option (Int × AGpsExtType)
  | .requestATLMsg handle type => some (handle, type)
  | _ => none

namespace System

def init : System := ⟨⟨none, none, none⟩, [], 0, []⟩

/-- The manager has been called and has said something. -/
def absorb (s : System) (r : AgpsManager × List Out) : System where
  manager := r.1
  queue := s.queue ++ r.2.filterMap Out.posted?
  timers := s.timers + r.2.count .timerStart
  log := s.log ++ r.2

/-- A timer that is not running does not fire, and an empty queue has no
message to process. -/
def step (s : System) (o : Env × Op) : System :=
  match o.2 with
  | .call msg => s.absorb (s.manager.proc o.1 msg)
  | .retryCallback =>
    match s.timers, s.manager.mDsNif with
    | timers + 1, some sm =>
      { s with timers := timers }.absorb (s.manager, sm.retryCallback)
    | _, _ => s
  | .procMsg =>
    match s.queue with
    | [] => s
    | (connHandle, agpsType) :: rest =>
      { s with queue := rest }.absorb
        (s.manager.requestATL o.1 connHandle agpsType)

def run (os : List (Env × Op)) : System :=
  os.foldl step init

theorem run_snoc (os : List (Env × Op)) (o : Env × Op) :
    run (os ++ [o]) = (run os).step o := List.foldl_concat ..

end System

end Axon7.Agps

/-!
# What one call can do

A call of the manager creates machines that are missing, turns a request or a
release away, or hands one machine one event. What holds of every machine in
every run is proved from this, without the manager's code.
-/

namespace Axon7.Agps

/-- A machine as it is created. -/
def Nif.new : Nif → AgpsStateMachine
  | .agnss => .new AGpsExtType.supl
  | .internet => .new AGpsExtType.wwanAny
  | .ds => .newDs

/-- Some of the missing machines have been created. -/
structure Created (m : AgpsManager) (r : AgpsManager × List Out) : Prop where
  machine : ∀ nif, r.1.machine nif = m.machine nif ∨
    m.machine nif = none ∧ r.1.machine nif = some nif.new
  said : ∀ o ∈ r.2, o = .dsInit false

namespace Created

variable {m m' m'' : AgpsManager} {outs : List Out}

theorem refl (m : AgpsManager) : Created m (m, []) :=
  ⟨fun _ => .inl rfl, by simp⟩

theorem set (nif : Nif) (h : Created m (m', []))
    (hnone : (m'.machine nif).isNone) (houts : ∀ o ∈ outs, o = .dsInit false) :
    Created m (m'.setMachine nif nif.new, outs) := by
  refine ⟨fun n => ?_, houts⟩
  show (m'.setMachine nif nif.new).machine n = _ ∨
    _ ∧ (m'.setMachine nif nif.new).machine n = _
  rw [AgpsManager.setMachine_machine]
  split
  · next heq =>
      subst heq
      rw [Option.isNone_iff_eq_none] at hnone
      obtain hm | ⟨hm, -⟩ := h.machine n
      · exact .inr ⟨hm.symm.trans hnone, rfl⟩
      · exact .inr ⟨hm, rfl⟩
  · exact h.machine n

theorem setIf (nif : Nif) (h : Created m (m', [])) :
    Created m (if (m'.machine nif).isNone then m'.setMachine nif nif.new
      else m', []) := by
  split
  · next hnone => exact h.set nif hnone (by simp)
  · exact h

theorem createAgpsStateMachines (m : AgpsManager) (env : Env) :
    Created m (m.createAgpsStateMachines env) := by
  unfold AgpsManager.createAgpsStateMachines
  extract_lets m₁ m₂
  have hinternet : Created m (m₁, []) := (refl m).setIf .internet
  have hagnss : Created m (m₂, []) := hinternet.setIf .agnss
  split
  · split
    · next hds =>
        simp only [Bool.and_eq_true] at hds
        split
        · exact hagnss
        · split
          · exact ⟨hagnss.machine, by simp⟩
          · exact hagnss.set .ds hds.1 (by simp)
    · exact hagnss
  · exact hinternet

end Created

/-- The machine that requests of a type go to. -/
def nifOf (env : Env) (agpsType : AGpsExtType) : Nif :=
  if agpsType = AGpsExtType.invalid ∨ agpsType = AGpsExtType.supl then .agnss
  else if agpsType = AGpsExtType.suplEs then
    if env.emergencyPdn then .ds else .agnss
  else .internet

theorem getAgpsStateMachine_spec (m : AgpsManager) (env : Env)
    (agpsType : AGpsExtType) : ∃ m' made, Created m (m', made) ∧
      m.getAgpsStateMachine env agpsType = (m', made, nifOf env agpsType) := by
  unfold AgpsManager.getAgpsStateMachine nifOf
  split
  · exact ⟨m, [], .refl m, rfl⟩
  · split
    · split
      · split
        · exact ⟨_, _, .createAgpsStateMachines m env, rfl⟩
        · exact ⟨m, [], .refl m, rfl⟩
      · exact ⟨m, [], .refl m, rfl⟩
    · exact ⟨m, [], .refl m, rfl⟩

/-- The machine that a report is for, and the event it gets. -/
def Msg.event? (env : Env) : Msg → Option (Nif × AgpsEvent)
  | .reportDataCallOpened => some (.ds, .granted)
  | .reportDataCallClosed => some (.ds, .released)
  | .reportAtlOpenSuccess agpsType _ _ => some (nifOf env agpsType, .granted)
  | .reportAtlOpenFailed agpsType => some (nifOf env agpsType, .denied)
  | .reportAtlClosed agpsType => some (nifOf env agpsType, .released)
  | _ => none

/-- All that a call can do: create machines, turn a request or a release away,
or hand one machine one event. -/
inductive Call (env : Env) (m : AgpsManager) :
    Msg → AgpsManager × List Out → Prop
  | created {msg r} (hmsg : msg = .createAgpsStateMachines ∨ msg.event? env ≠ none)
      (hmade : Created m r) : Call env m msg r
  | openRefused {m' made handle type} (hmade : Created m (m', made)) :
      Call env m (.requestATL handle type) (m', made ++
        [.atlOpenStatus handle false none AGpsBearerType.invalid type])
  | closeRefused {handle} (hnone : m.findSubscriber handle = none) :
      Call env m (.releaseATL handle) (m, [.atlCloseStatus handle false])
  | subscribe {m' made handle type sm} (hmade : Created m (m', made))
      (hsm : m'.machine (nifOf env type) = some sm) :
      Call env m (.requestATL handle type)
        (m'.setMachine (nifOf env type) (sm.processAgpsEventSubscribe env
            ⟨handle, type = AGpsExtType.suplEs, false⟩).1,
          made ++ (sm.processAgpsEventSubscribe env
            ⟨handle, type = AGpsExtType.suplEs, false⟩).2)
  | unsubscribe {handle nif sm cur}
      (hfind : m.findSubscriber handle = some (nif, sm, cur)) :
      Call env m (.releaseATL handle)
        (m.setMachine nif (sm.processAgpsEventUnsubscribe env cur).1,
          (sm.processAgpsEventUnsubscribe env cur).2)
  | report {msg m' made nif event sm} (bearer apn)
      (hmsg : msg.event? env = some (nif, event))
      (hmade : Created m (m', made)) (hsm : m'.machine nif = some sm) :
      Call env m msg
        (m'.setMachine nif (AgpsStateMachine.processAgpsEvent
            { sm with mBearer := bearer, mAPN := apn } env event none).1,
          made ++ (AgpsStateMachine.processAgpsEvent
            { sm with mBearer := bearer, mAPN := apn } env event none).2)
  | restart {outs} (houts : ∀ o ∈ outs, o ∈ [.dsStopDataCall, .dsCloseDataCall,
      .dsRelease, .dsInit true]) :
      Call env m .handleModemSSR
        ((m.handleModemSSR env).1, outs)

namespace AgpsManager

theorem report_call (m : AgpsManager) (env : Env) (msg : Msg) {nif : Nif}
    {event : AgpsEvent} (hmsg : msg.event? env = some (nif, event))
    {m' : AgpsManager} {made : List Out} (hmade : Created m (m', made)) :
    Call env m msg ((m'.report env nif event).1,
      made ++ (m'.report env nif event).2) := by
  unfold report
  split
  · rw [List.append_nil]
    exact .created (.inr (by simp [hmsg])) hmade
  · next sm hsm => exact .report sm.mBearer sm.mAPN hmsg hmade hsm

theorem findSubscriber_eq_some {m : AgpsManager} {handle : Int} {nif : Nif}
    {sm : AgpsStateMachine} {cur : AgpsSubscriber}
    (h : m.findSubscriber handle = some (nif, sm, cur)) :
    m.machine nif = some sm ∧ cur ∈ sm.mSubscriberList ∧
      cur.mConnHandle = handle := by
  obtain ⟨n, -, hn⟩ := List.exists_of_findSome?_eq_some h
  obtain ⟨sm', hsm, hcur⟩ := Option.bind_eq_some_iff.mp hn
  obtain ⟨c, hc, heq⟩ := Option.map_eq_some_iff.mp hcur
  obtain ⟨rfl, rfl, rfl⟩ : n = nif ∧ sm' = sm ∧ c = cur := by simpa using heq
  exact ⟨hsm, List.mem_of_find?_eq_some hc, by simpa using List.find?_some hc⟩

theorem findSubscriber_eq_none {m : AgpsManager} {handle : Int}
    (h : m.findSubscriber handle = none) {nif : Nif} {sm : AgpsStateMachine}
    (hsm : m.machine nif = some sm) :
    ∀ s ∈ sm.mSubscriberList, s.mConnHandle ≠ handle := by
  have hnif := List.findSome?_eq_none_iff.mp h nif (by cases nif <;> simp)
  rw [hsm] at hnif
  simpa [AgpsStateMachine.getSubscriber] using hnif

theorem handleModemSSR_machine (m : AgpsManager) (env : Env) (nif : Nif) :
    (m.handleModemSSR env).1.machine nif =
      (m.machine nif).map (·.dropAllSubscribers) := by
  unfold handleModemSSR
  cases nif <;> split <;> rfl

theorem requestATL_call (m : AgpsManager) (env : Env) (connHandle : Int)
    (agpsType : AGpsExtType) : Call env m (.requestATL connHandle agpsType)
      (m.requestATL env connHandle agpsType) := by
  obtain ⟨m', made, hmade, heq⟩ := getAgpsStateMachine_spec m env agpsType
  unfold requestATL
  rw [heq]
  dsimp only
  split
  · exact .openRefused hmade
  · next sm hsm => exact .subscribe hmade hsm

theorem proc_call (m : AgpsManager) (env : Env) (msg : Msg) :
    Call env m msg (m.proc env msg) := by
  cases msg with
  | createAgpsStateMachines =>
    exact .created (.inl rfl) (.createAgpsStateMachines m env)
  | requestATL connHandle agpsType =>
    exact m.requestATL_call env connHandle agpsType
  | releaseATL connHandle =>
    show Call env m _ (m.releaseATL env connHandle)
    unfold releaseATL
    split
    · next hnone => exact .closeRefused hnone
    · next hfind => exact .unsubscribe hfind
  | reportDataCallOpened =>
    exact m.report_call env .reportDataCallOpened rfl (.refl m)
  | reportDataCallClosed =>
    exact m.report_call env .reportDataCallClosed rfl (.refl m)
  | reportAtlOpenSuccess agpsType apnName bearerType =>
    obtain ⟨m', made, hmade, heq⟩ := getAgpsStateMachine_spec m env agpsType
    show Call env m _ (m.reportAtlOpenSuccess env agpsType apnName bearerType)
    unfold reportAtlOpenSuccess
    rw [heq]
    dsimp only
    split
    · exact .created (.inr (by simp [Msg.event?])) hmade
    · next sm hsm => exact .report bearerType apnName rfl hmade hsm
  | reportAtlOpenFailed agpsType =>
    obtain ⟨m', made, hmade, heq⟩ := getAgpsStateMachine_spec m env agpsType
    show Call env m _ (m.reportAtlOpenFailed env agpsType)
    unfold reportAtlOpenFailed
    rw [heq]
    exact m.report_call env (.reportAtlOpenFailed agpsType) rfl hmade
  | reportAtlClosed agpsType =>
    obtain ⟨m', made, hmade, heq⟩ := getAgpsStateMachine_spec m env agpsType
    show Call env m _ (m.reportAtlClosed env agpsType)
    unfold reportAtlClosed
    rw [heq]
    exact m.report_call env (.reportAtlClosed agpsType) rfl hmade
  | handleModemSSR =>
    have hproc : m.proc env .handleModemSSR = ((m.handleModemSSR env).1,
        (m.handleModemSSR env).2) := rfl
    rw [hproc]
    refine .restart fun o ho => ?_
    unfold handleModemSSR at ho
    split at ho
    · exact ho
    · cases ho

end AgpsManager

namespace System

theorem step_cases (s : System) (o : Env × Op) :
    (∃ msg r, Call o.1 s.manager msg r ∧
      (msg = .handleModemSSR → o.2 = .call .handleModemSSR) ∧
      (s.step o).manager = r.1 ∧ (s.step o).log = s.log ++ r.2) ∨
    (s.step o).manager = s.manager ∧ ∃ outs, (s.step o).log = s.log ++ outs ∧
      ∀ out ∈ outs, ∃ handle,
        out = .requestATLMsg handle AGpsExtType.suplEs := by
  obtain ⟨env, op⟩ := o
  have hsame : ∃ outs, s.log = s.log ++ outs ∧ ∀ out ∈ outs, ∃ handle,
      out = .requestATLMsg handle AGpsExtType.suplEs := ⟨[], by simp⟩
  cases op with
  | call msg =>
    exact .inl ⟨msg, s.manager.proc env msg, s.manager.proc_call env msg,
      fun h => congrArg Op.call h, rfl, rfl⟩
  | retryCallback =>
    right
    unfold step
    dsimp only
    split
    · next sm _ _ =>
        refine ⟨rfl, sm.retryCallback, rfl, fun out hout => ?_⟩
        unfold AgpsStateMachine.retryCallback at hout
        split at hout
        · cases hout
        · exact ⟨_, List.mem_singleton.mp hout⟩
    · exact ⟨rfl, hsame⟩
  | procMsg =>
    unfold step
    dsimp only
    split
    · exact .inr ⟨rfl, hsame⟩
    · next handle type _ _ =>
        exact .inl ⟨_, _, s.manager.requestATL_call env handle type, nofun,
          rfl, rfl⟩

end System

end Axon7.Agps
