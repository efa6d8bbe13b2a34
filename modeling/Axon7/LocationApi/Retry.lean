import Axon7.LocationApi.Control
import Axon7.Lib.Run

/-!
# Requests that fail

Both clients remember what they last asked for, and do not ask for it again: the
one that tracking is started, the other that the API is enabled, and the last
configuration. They remember it from the call on, and an answer changes nothing.
So a request that was answered with an error is made again only if the client has
been made to forget it: by a stop, by a disable, or by another configuration.
-/

namespace Axon7.LocationApi

open Gnss (LocationOptions)
open Lib

/-! ## Requests and their answers -/

/-- The requests of one kind: those without an answer, each with its session,
oldest first, and the arguments that were answered with an error, with no success
and no new request since. -/
structure Ledger (A : Type) where
  sent : List (ℕ × A)
  failed : List A

namespace Ledger

variable {A : Type} [DecidableEq A]

def empty : Ledger A := ⟨[], []⟩

/-- A new request is made. It has no session if the API refuses it. -/
def request (session : Option ℕ) (arg : A) (l : Ledger A) : Ledger A where
  sent := l.sent ++ (session.map fun session => (session, arg)).toList
  failed := l.failed.filter (· ≠ arg)

/-- The oldest request of the session is answered. -/
def answer (failure : Bool) (session : ℕ) (l : Ledger A) : Ledger A :=
  match l.sent.find? fun sent => sent.1 = session with
  | none => l
  | some (_, arg) =>
    { sent := l.sent.eraseP fun sent => sent.1 = session
      failed :=
        if failure then arg :: l.failed else l.failed.filter (· ≠ arg) }

end Ledger

/-- What the last of the calls that give something gives. -/
def lastGiven {O A : Type} (given : O → Option A) (before : A) (ops : List O) : A :=
  (ops.filterMap given).getLast?.getD before

theorem lastGiven_concat {O A : Type} (given : O → Option A) (before : A)
    (ops : List O) (op : O) : lastGiven given before (ops ++ [op]) =
      (given op).getD (lastGiven given before ops) := by
  rw [lastGiven, List.filterMap_append]
  cases h : given op with
  | none =>
    rw [List.filterMap_cons_none h, List.filterMap_nil, List.append_nil]
    rfl
  | some a =>
    rw [List.filterMap_cons_some h, List.filterMap_nil, List.getLast?_concat]
    rfl

/-! ## Tracking -/

namespace Client

/-- The client with what became of its start-tracking requests. -/
def stepStarts (p : Client × Ledger LocationOptions) (op : Op) :
    Client × Ledger LocationOptions :=
  (p.1.step op,
    match op with
    | .startTracking options session =>
      if (p.1.step op).calls = p.1.calls then p.2
      else p.2.request (some session) options
    | .response error session => p.2.answer (decide (error ≠ .success)) session
    | _ => p.2)

def runStarts (ops : List Op) : Client × Ledger LocationOptions :=
  ops.foldl stepStarts (new, .empty)

/-- The options that a start-tracking request failed with. -/
def failedStarts (ops : List Op) : List LocationOptions :=
  (runStarts ops).2.failed

/-- The call that failed is made again. -/
def Retried (failed : List LocationOptions) (c : Client) : Op → Prop
  | .startTracking options session => options ∈ failed →
      (c.locAPIStartTracking options session).calls =
        c.calls ++ [.startTracking options]
  | _ => True

/-- The calls that start and stop tracking. -/
def Op.starts : Op → Option Bool
  | .startTracking _ _ => some true
  | .stopTracking => some false
  | _ => none

/-- The last of the calls that start and stop tracking is a start. -/
def lastStarts : List Op → Bool := lastGiven Op.starts false

/-- After a failure, tracking is stopped before it is started with the same
options. -/
def Recalled (pre : List Op) : Op → Prop
  | .startTracking options _ => options ∈ failedStarts pre → lastStarts pre = false
  | _ => True

variable {c c' c'' : Client}

/-- Tracking is as before: the flag and the session. -/
structure SameTracking (c c' : Client) : Prop where
  tracking : c'.tracking = c.tracking
  session : (c'.requestQueues .tracking).session =
    (c.requestQueues .tracking).session

namespace SameTracking

theorem rfl : SameTracking c c := ⟨Eq.refl _, Eq.refl _⟩

theorem trans (h : SameTracking c c') (h' : SameTracking c' c'') :
    SameTracking c c'' :=
  ⟨h'.tracking.trans h.tracking, h'.session.trans h.session⟩

end SameTracking

theorem push_sameTracking (type : RequestType) (kind : RequestKind) (c : Client) :
    SameTracking c (c.push type kind) := by
  refine ⟨rfl, ?_⟩
  show (Function.update c.requestQueues type _ .tracking).session = _
  by_cases htype : .tracking = type
  · rw [← htype, Function.update_self]
    exact Eq.refl _
  · rw [Function.update_of_ne htype]

theorem popQueue_sameTracking (type : RequestType) (c : Client) :
    SameTracking c (c.popQueue type).2 := by
  refine ⟨rfl, ?_⟩
  show (Function.update c.requestQueues type _ .tracking).session = _
  by_cases htype : .tracking = type
  · rw [← htype, Function.update_self]
  · rw [Function.update_of_ne htype]

theorem setQueue_sameTracking {type : RequestType} (htype : type ≠ .tracking)
    (q : RequestQueue Request) (c : Client) :
    SameTracking c (c.setQueue type q) :=
  ⟨rfl, congrArg RequestQueue.session (Function.update_of_ne htype.symm _ _)⟩

theorem setSession_sameTracking {type : RequestType} (htype : type ≠ .tracking)
    (session : ℕ) (c : Client) : SameTracking c (c.setSession type session) :=
  setQueue_sameTracking htype _ c

/-! What is neither a queue nor the flag is of no account. -/

theorem locAPIUpdateTrackingOptions_sameTracking (options : LocationOptions)
    (c : Client) : SameTracking c (c.locAPIUpdateTrackingOptions options) := by
  have hpush := push_sameTracking .tracking .updateTrackingOptions c
  rw [locAPIUpdateTrackingOptions]
  split
  · exact ⟨hpush.tracking, hpush.session⟩
  · exact .rfl

theorem locAPIStartSession_sameTracking (id : ℕ) (mode : SessionMode)
    (options : LocationOptions) (session : SessionId) (c : Client) :
    SameTracking c (c.locAPIStartSession id mode options session).2 := by
  rw [locAPIStartSession]
  split
  · exact .rfl
  · dsimp only
    split
    · have hpush := push_sameTracking .session .startTracking c
      exact ⟨hpush.tracking, hpush.session⟩
    · have hset : SameTracking c (c.setSession .session session) :=
        setSession_sameTracking (by decide) session c
      have hpush := hset.trans (push_sameTracking .session .startBatching _)
      exact ⟨hpush.tracking, hpush.session⟩

theorem locAPIStopSession_sameTracking (id : ℕ) (c : Client) :
    SameTracking c (c.locAPIStopSession id).2 := by
  rw [locAPIStopSession]
  split
  · dsimp only
    split
    · have hpush := push_sameTracking .session .stopTracking c
      exact ⟨hpush.tracking, hpush.session⟩
    · have hpush := push_sameTracking .session .stopBatching c
      exact ⟨hpush.tracking, hpush.session⟩
  · exact .rfl

theorem locAPIUpdateSessionOptions_sameTracking (id : ℕ) (mode : SessionMode)
    (options : LocationOptions) (session : SessionId) (c : Client) :
    SameTracking c (c.locAPIUpdateSessionOptions id mode options session).2 := by
  have hset : ∀ session c, SameTracking c (c.setSession .session session) :=
    fun session c => setSession_sameTracking (by decide) session c
  have htracking := push_sameTracking .session .updateTrackingOptions c
  have hbatching := push_sameTracking .session .updateBatchingOptions c
  have htracking' := htracking.trans (hset 0 _)
  have hbatching' := hbatching.trans (hset session _)
  rw [locAPIUpdateSessionOptions]
  dsimp only
  split
  · split
    · split
      · exact ⟨htracking.tracking, htracking.session⟩
      · exact ⟨htracking'.tracking, htracking'.session⟩
    · split
      · exact ⟨hbatching'.tracking, hbatching'.session⟩
      · exact ⟨hbatching.tracking, hbatching.session⟩
  · exact .rfl

theorem locAPIGetBatchedLocations_sameTracking (id count : ℕ) (c : Client) :
    SameTracking c (c.locAPIGetBatchedLocations id count).2 := by
  have hpush := push_sameTracking .session .getBatchedLocations c
  rw [locAPIGetBatchedLocations]
  split
  · exact ⟨hpush.tracking, hpush.session⟩
  · exact .rfl

theorem locAPIAddGeofences_sameTracking (fences : List Fence) (accepted : Bool)
    (c : Client) : SameTracking c (c.locAPIAddGeofences fences accepted).2 := by
  have hset : SameTracking c
      (if (c.requestQueues .geofence).session ≠ geofenceSessionId then
        c.setQueue .geofence (.reset geofenceSessionId)
      else c) := by
    split
    · exact setQueue_sameTracking (by decide) _ c
    · exact .rfl
  rw [locAPIAddGeofences]
  generalize (if (c.requestQueues .geofence).session ≠ geofenceSessionId then
    c.setQueue .geofence (.reset geofenceSessionId) else c) = c' at hset ⊢
  dsimp only
  split
  · have hpush := hset.trans (push_sameTracking .geofence .addGeofences c')
    exact ⟨hpush.tracking, hpush.session⟩
  · exact ⟨hset.tracking, hset.session⟩

theorem SameTracking.geofenceCall (kind : RequestKind) (apiCall : ApiCall)
    (h : SameTracking c c') :
    SameTracking c ((c'.push .geofence kind).call apiCall) := by
  have hpush := h.trans (push_sameTracking .geofence kind c')
  exact ⟨hpush.tracking, hpush.session⟩

theorem locAPIRemoveGeofences_sameTracking (ids : List ℕ) (c : Client) :
    SameTracking c (c.locAPIRemoveGeofences ids) := by
  refine locAPIRemoveGeofences_keeps (I := SameTracking c) (fun p id hp => ?_)
    (fun _ kind apiCall hc => hc.geofenceCall kind apiCall) .rfl ids
  rw [removeGeofence]
  split <;> exact ⟨hp.tracking, hp.session⟩

theorem changeGeofences_sameTracking (kind : RequestKind)
    (apiCall : List ℕ → ApiCall) (fences : List (ℕ × Option BreachMask))
    (c : Client) : SameTracking c (c.changeGeofences kind apiCall fences) := by
  refine changeGeofences_keeps (I := SameTracking c) (fun p fence hp => ?_)
    (fun _ kind apiCall hc => hc.geofenceCall kind apiCall) .rfl kind apiCall fences
  rw [setGeofence]
  split
  · cases fence.2 <;> exact ⟨hp.tracking, hp.session⟩
  · exact hp

theorem locAPIGnssNiResponse_sameTracking (id : ℕ) (c : Client) :
    SameTracking c (c.locAPIGnssNiResponse id) := by
  have hset : SameTracking c (c.setQueue .niResponse (.reset id)) :=
    setQueue_sameTracking (by decide) _ c
  have hpush := hset.trans (push_sameTracking .niResponse .gnssNiResponse _)
  exact ⟨hpush.tracking, hpush.session⟩

theorem beforeBatchingStatusCb_sameTracking (completed : Bool)
    (tripCompleted : List ℕ) (c : Client) :
    SameTracking c (c.beforeBatchingStatusCb completed tripCompleted) := by
  refine beforeBatchingStatusCb_keeps (I := SameTracking c) (fun p session hp => ?_)
    (fun _ _ hc => ⟨hc.tracking, hc.session⟩) .rfl completed tripCompleted
  rw [completeTrip]
  split
  · dsimp only
    split <;> exact ⟨hp.tracking, hp.session⟩
  · exact hp

theorem onResponseCb_sameTracking (error : LocationError) (session : ℕ)
    (c : Client) : SameTracking c (c.onResponseCb error session) := by
  refine onResponseCb_keeps (I := SameTracking c)
    (fun c' type hc => hc.trans (popQueue_sameTracking type c'))
    (fun c' session hc => ?_) (fun _ _ hc => ⟨hc.tracking, hc.session⟩) .rfl error
    session
  rw [removeSession]
  split <;> exact ⟨hc.tracking, hc.session⟩

theorem onCollectiveResponseCb_sameTracking
    (responses : List (LocationError × ℕ)) (c : Client) :
    SameTracking c (c.onCollectiveResponseCb responses) :=
  onCollectiveResponseCb_keeps (I := SameTracking c)
    (fun c' type hc => hc.trans (popQueue_sameTracking type c'))
    (fun _ _ hc => ⟨hc.tracking, hc.session⟩) .rfl responses

theorem step_sameTracking {op : Op} (h : op.starts = none) (c : Client) :
    SameTracking c (c.step op) := by
  cases op with
  | startTracking options session => exact absurd h nofun
  | stopTracking => exact absurd h nofun
  | updateTrackingOptions options =>
    exact locAPIUpdateTrackingOptions_sameTracking options c
  | startSession id mode options session =>
    exact locAPIStartSession_sameTracking id mode options session c
  | stopSession id => exact locAPIStopSession_sameTracking id c
  | updateSessionOptions id mode options session =>
    exact locAPIUpdateSessionOptions_sameTracking id mode options session c
  | getBatchedLocations id count =>
    exact locAPIGetBatchedLocations_sameTracking id count c
  | addGeofences fences accepted =>
    exact locAPIAddGeofences_sameTracking fences accepted c
  | removeGeofences ids => exact locAPIRemoveGeofences_sameTracking ids c
  | modifyGeofences fences =>
    rw [step, locAPIModifyGeofences]
    exact changeGeofences_sameTracking _ _ _ c
  | pauseGeofences ids =>
    rw [step, locAPIPauseGeofences]
    exact changeGeofences_sameTracking _ _ _ c
  | resumeGeofences fences withMask =>
    rw [step, locAPIResumeGeofences]
    exact changeGeofences_sameTracking _ _ _ c
  | gnssNiResponse id => exact locAPIGnssNiResponse_sameTracking id c
  | response error session => exact onResponseCb_sameTracking error session c
  | collectiveResponse responses =>
    exact onCollectiveResponseCb_sameTracking responses c
  | geofenceBreach type sessions => exact ⟨rfl, rfl⟩
  | batchingStatus completed tripCompleted =>
    exact beforeBatchingStatusCb_sameTracking completed tripCompleted c

theorem lastStarts_concat (ops : List Op) (op : Op) :
    lastStarts (ops ++ [op]) = op.starts.getD (lastStarts ops) :=
  lastGiven_concat Op.starts false ops op

theorem run_tracking (ops : List Op) : (run ops).tracking = lastStarts ops ∧
    ((run ops).tracking = true →
      ((run ops).requestQueues .tracking).session ≠ 0) := by
  induction ops using List.reverseRecOn with
  | nil => exact ⟨rfl, nofun⟩
  | append_singleton ops op ih =>
    obtain ⟨hlast, hsession⟩ := ih
    rw [run_concat, lastStarts_concat]
    cases hop : op.starts with
    | none =>
      have hsame := step_sameTracking hop (run ops)
      rw [hsame.tracking, hsame.session]
      exact ⟨hlast, hsession⟩
    | some starts =>
      cases op with
      | startTracking options session =>
        obtain rfl : true = starts := Option.some.inj hop
        show ((run ops).locAPIStartTracking options session).tracking =
          true ∧ _
        rw [step, locAPIStartTracking]
        split
        · next htracking => exact ⟨htracking, hsession⟩
        · refine ⟨rfl, fun _ => ?_⟩
          have hsame := push_sameTracking .tracking .startTracking
            ((run ops).setQueue .tracking (.reset session))
          have hset : (((run ops).setQueue .tracking
              (.reset session)).requestQueues .tracking).session = session := by
            simp [setQueue, RequestQueue.reset]
          exact (hsame.session.trans hset).trans_ne session.property
      | stopTracking =>
        obtain rfl : false = starts := Option.some.inj hop
        show (run ops).locAPIStopTracking.tracking = false ∧ _
        rw [step, locAPIStopTracking]
        dsimp only
        split
        · exact ⟨rfl, nofun⟩
        · next hzero =>
            have hoff : (run ops).tracking = false := by
              rw [Bool.eq_false_iff]
              intro htracking
              have := hsession htracking
              omega
            exact ⟨hoff, hsession⟩
      | _ => exact absurd hop nofun

theorem startTracking_calls_iff (options : LocationOptions) (session : SessionId)
    (c : Client) :
    (c.locAPIStartTracking options session).calls =
      c.calls ++ [.startTracking options] ↔ c.tracking = false := by
  rw [locAPIStartTracking]
  split
  · next htracking => simp [htracking]
  · next htracking => simpa [call, push, setQueue] using htracking

theorem retried_iff (ops : List Op) (op : Op) :
    (run ops).Retried (failedStarts ops) op ↔ Recalled ops op := by
  cases op with
  | startTracking options session =>
    show (_ → _) ↔ (_ → _)
    rw [startTracking_calls_iff, (run_tracking ops).1]
  | _ => exact Iff.rfl

end Client

/-! ## Control -/

namespace ControlClient

variable {K : Type} {c c' c'' : ControlClient K}

/-- What became of the requests to enable and to update the configuration. -/
structure Requests (K : Type) where
  enables : Ledger Unit
  configs : Ledger K

/-- The client with its requests. The responses to configurations come in the
order of the requests. -/
def stepRequests [DecidableEq K] (p : ControlClient K × Requests K)
    (op : Op K) : ControlClient K × Requests K :=
  (p.1.step op,
    match op with
    | .enable session =>
      if (p.1.step op).calls = p.1.calls then p.2
      else { p.2 with enables := p.2.enables.request (some session.val) () }
    | .gnssUpdateConfig config idArray =>
      if (p.1.step op).calls = p.1.calls then p.2
      else
        { p.2 with
          configs := p.2.configs.request
            (if idArray then some configSessionId else none) config }
    | .response error session =>
      { p.2 with
        enables := p.2.enables.answer (decide (error ≠ .success)) session }
    | .collectiveResponse responses =>
      { p.2 with
        configs := p.2.configs.answer
          (responses.any fun response => response.1 ≠ .success)
          configSessionId }
    | _ => p.2)

def runRequests [DecidableEq K] [Inhabited K] (ops : List (Op K)) :
    ControlClient K × Requests K :=
  ops.foldl stepRequests (new, ⟨.empty, .empty⟩)

/-- What failed is asked for again. -/
def Retried [DecidableEq K] (requests : Requests K) (c : ControlClient K) :
    Op K → Prop
  | .enable session => () ∈ requests.enables.failed →
      (c.locAPIEnable session).calls = c.calls ++ [.enable]
  | .gnssUpdateConfig config idArray => config ∈ requests.configs.failed →
      (c.locAPIGnssUpdateConfig config idArray).2.calls =
        c.calls ++ [.gnssUpdateConfig config]
  | _ => True

/-- The calls that enable and disable. -/
def Op.enables : Op K → Option Bool
  | .enable _ => some true
  | .disable => some false
  | _ => none

/-- The last of the calls that enable and disable enables. -/
def lastEnables : List (Op K) → Bool := lastGiven Op.enables false

def Op.config : Op K → Option K
  | .gnssUpdateConfig config _ => some config
  | _ => none

/-- The last configuration given, all bytes 0 before the first. -/
def lastConfig [Inhabited K] : List (Op K) → K := lastGiven Op.config default

/-- After a failure, the API is disabled before it is enabled, and another
configuration is given before the same. -/
def Recalled [DecidableEq K] [Inhabited K] (pre : List (Op K)) : Op K → Prop
  | .enable _ => () ∈ (runRequests pre).2.enables.failed → lastEnables pre = false
  | .gnssUpdateConfig config _ =>
    config ∈ (runRequests pre).2.configs.failed → lastConfig pre ≠ config
  | _ => True

/-- What `locAPIEnable` and `locAPIGnssUpdateConfig` ask for is as before. -/
structure SameControl (c c' : ControlClient K) : Prop where
  enabled : c'.enabled = c.enabled
  session : (c'.requestQueues .control).session =
    (c.requestQueues .control).session
  config : c'.config = c.config

theorem SameControl.trans (h : SameControl c c') (h' : SameControl c' c'') :
    SameControl c c'' :=
  ⟨h'.enabled.trans h.enabled, h'.session.trans h.session,
    h'.config.trans h.config⟩

theorem setQueue_sameControl {type : CtrlRequestType} {q : RequestQueue CtrlRequest}
    (hq : type = .control → q.session = (c.requestQueues .control).session) :
    SameControl c (c.setQueue type q) := by
  refine ⟨rfl, ?_, rfl⟩
  show (Function.update c.requestQueues type q .control).session = _
  by_cases htype : .control = type
  · rw [← htype, Function.update_self]
    exact hq htype.symm
  · rw [Function.update_of_ne htype]

theorem push_sameControl (type : CtrlRequestType) (request : CtrlRequest)
    (c : ControlClient K) : SameControl c (c.push type request) := by
  rw [push]
  refine setQueue_sameControl fun htype => ?_
  rw [htype]
  rfl

theorem popQueue_sameControl (type : CtrlRequestType) (c : ControlClient K) :
    SameControl c (c.popQueue type).2 := by
  rw [popQueue, RequestQueue.pop]
  refine setQueue_sameControl fun htype => ?_
  rw [htype]

theorem locAPIGnssDeleteAidingData_sameControl (session : SessionId)
    (c : ControlClient K) : SameControl c (c.locAPIGnssDeleteAidingData session) := by
  have hset : SameControl c (c.setQueue .deleteAidingData (.reset session)) :=
    setQueue_sameControl nofun
  have hpush := hset.trans (push_sameControl .deleteAidingData
    .gnssDeleteAidingData _)
  exact ⟨hpush.enabled, hpush.session, hpush.config⟩

theorem onCtrlResponseCb_sameControl (error : LocationError) (session : ℕ)
    (c : ControlClient K) : SameControl c (c.onCtrlResponseCb error session) := by
  have hsame : SameControl c (c.getRequestBySession session).2 := by
    rw [getRequestBySession]
    split
    · exact popQueue_sameControl .deleteAidingData c
    · split
      · exact popQueue_sameControl .control c
      · exact ⟨rfl, rfl, rfl⟩
  rw [onCtrlResponseCb]
  generalize c.getRequestBySession session = r at hsame ⊢
  obtain ⟨request, c'⟩ := r
  cases request with
  | none => exact hsame
  | some request => exact ⟨hsame.enabled, hsame.session, hsame.config⟩

theorem onCtrlCollectiveResponseCb_sameControl
    (responses : List (LocationError × ℕ)) (c : ControlClient K) :
    SameControl c (c.onCtrlCollectiveResponseCb responses) := by
  have hsame := popQueue_sameControl .config c
  rw [onCtrlCollectiveResponseCb]
  split
  · generalize c.popQueue .config = r at hsame ⊢
    obtain ⟨request, c'⟩ := r
    cases request with
    | none => exact hsame
    | some request => exact ⟨hsame.enabled, hsame.session, hsame.config⟩
  · exact ⟨rfl, rfl, rfl⟩

theorem locAPIGnssUpdateConfig_sameControl [DecidableEq K] (config : K)
    (idArray : Bool) (c : ControlClient K) :
    SameControl { c with config := config }
      (c.locAPIGnssUpdateConfig config idArray).2 := by
  rw [locAPIGnssUpdateConfig]
  split
  · next hconfig => exact ⟨rfl, rfl, hconfig⟩
  · have hset : ∀ c : ControlClient K, SameControl c
        (if (c.requestQueues .config).session ≠ configSessionId then
          c.setQueue .config (.reset configSessionId)
        else c) := by
      intro c
      split
      · exact setQueue_sameControl nofun
      · exact ⟨rfl, rfl, rfl⟩
    dsimp only
    split
    · have hpush := (hset ({ c with config := config }.call
        (.gnssUpdateConfig config))).trans
          (push_sameControl .config .gnssUpdateConfig _)
      exact ⟨hpush.enabled, hpush.session, hpush.config⟩
    · exact ⟨rfl, rfl, rfl⟩

theorem run_concat [DecidableEq K] [Inhabited K] (ops : List (Op K)) (op : Op K) :
    run (ops ++ [op]) = (run ops).step op := by
  rw [run, List.foldl_append]
  rfl

theorem lastEnables_concat (ops : List (Op K)) (op : Op K) :
    lastEnables (ops ++ [op]) = op.enables.getD (lastEnables ops) :=
  lastGiven_concat Op.enables false ops op

theorem lastConfig_concat [Inhabited K] (ops : List (Op K)) (op : Op K) :
    lastConfig (ops ++ [op]) = op.config.getD (lastConfig ops) :=
  lastGiven_concat Op.config default ops op

theorem run_control [DecidableEq K] [Inhabited K] (ops : List (Op K)) :
    (run ops).enabled = lastEnables ops ∧
    ((run ops).enabled = true → ((run ops).requestQueues .control).session ≠ 0) ∧
    (run ops).config = lastConfig ops := by
  induction ops using List.reverseRecOn with
  | nil => exact ⟨rfl, nofun, rfl⟩
  | append_singleton ops op ih =>
    obtain ⟨hlast, hsession, hconfig⟩ := ih
    rw [run_concat, lastEnables_concat, lastConfig_concat]
    have hframe : ∀ {c'}, SameControl (run ops) c' → c'.enabled = lastEnables ops ∧
        (c'.enabled = true → (c'.requestQueues .control).session ≠ 0) ∧
        c'.config = lastConfig ops := by
      intro c' hsame
      rw [hsame.enabled, hsame.session, hsame.config]
      exact ⟨hlast, hsession, hconfig⟩
    cases op with
    | gnssDeleteAidingData session =>
      exact hframe (locAPIGnssDeleteAidingData_sameControl session _)
    | response error session =>
      exact hframe (onCtrlResponseCb_sameControl error session _)
    | collectiveResponse responses =>
      exact hframe (onCtrlCollectiveResponseCb_sameControl responses _)
    | gnssUpdateConfig config idArray =>
      have hsame := locAPIGnssUpdateConfig_sameControl config idArray (run ops)
      rw [step, hsame.enabled, hsame.session, hsame.config]
      exact ⟨hlast, hsession, rfl⟩
    | enable session =>
      show ((run ops).locAPIEnable session).enabled = true ∧ _
      rw [step, locAPIEnable]
      split
      · next henabled => exact ⟨henabled, hsession, hconfig⟩
      · refine ⟨rfl, fun _ => ?_, hconfig⟩
        have hsame := push_sameControl .control .enable
          ((run ops).setQueue .control (.reset session))
        have hset : (((run ops).setQueue .control (.reset session)).requestQueues
            .control).session = session := by
          simp [setQueue, RequestQueue.reset]
        exact (hsame.session.trans hset).trans_ne session.property
    | disable =>
      show (run ops).locAPIDisable.enabled = false ∧ _
      rw [step, locAPIDisable]
      split
      · next henabled =>
          have hpos := hsession henabled
          dsimp only
          rw [if_pos (Nat.pos_of_ne_zero hpos)]
          exact ⟨rfl, nofun, hconfig⟩
      · next henabled =>
          exact ⟨Bool.eq_false_iff.mpr henabled, hsession, hconfig⟩

theorem enable_calls_iff (session : SessionId) (c : ControlClient K) :
    (c.locAPIEnable session).calls = c.calls ++ [.enable] ↔ c.enabled = false := by
  rw [locAPIEnable]
  split
  · next henabled => simp [henabled]
  · next henabled => simpa [call, push, setQueue] using henabled

theorem gnssUpdateConfig_calls_iff [DecidableEq K] (config : K) (idArray : Bool)
    (c : ControlClient K) : (c.locAPIGnssUpdateConfig config idArray).2.calls =
      c.calls ++ [.gnssUpdateConfig config] ↔ c.config ≠ config := by
  rw [locAPIGnssUpdateConfig]
  split
  · next hconfig => simp [hconfig]
  · next hconfig =>
      refine iff_of_true ?_ hconfig
      dsimp only
      split
      · split <;> rfl
      · rfl

theorem retried_iff [DecidableEq K] [Inhabited K] (ops : List (Op K)) (op : Op K) :
    (run ops).Retried (runRequests ops).2 op ↔ Recalled ops op := by
  obtain ⟨henabled, -, hconfig⟩ := run_control ops
  cases op with
  | enable session =>
    show (_ → _) ↔ (_ → _)
    rw [enable_calls_iff, henabled]
  | gnssUpdateConfig config idArray =>
    show (_ → _) ↔ (_ → _)
    rw [gnssUpdateConfig_calls_iff, hconfig]
  | _ => exact Iff.rfl

end ControlClient

/-! ## Both clients -/

/-- A client and a control client. -/
structure Clients (K : Type) where
  base : Client
  control : ControlClient K

namespace Clients

variable {K : Type}

/-- The calls of either. -/
inductive Op (K : Type)
  | base (op : Client.Op)
  | control (op : ControlClient.Op K)

def Op.base? : Op K → Option Client.Op
  | .base op => some op
  | .control _ => none

def Op.control? : Op K → Option (ControlClient.Op K)
  | .base _ => none
  | .control op => some op

def step [DecidableEq K] (clients : Clients K) : Op K → Clients K
  | .base op => { clients with base := clients.base.step op }
  | .control op => { clients with control := clients.control.step op }

def run [DecidableEq K] [Inhabited K] (ops : List (Op K)) : Clients K :=
  ops.foldl step ⟨.new, .new⟩

theorem run_eq [DecidableEq K] [Inhabited K] (ops : List (Op K)) : run ops =
    ⟨Client.run (ops.filterMap Op.base?),
      ControlClient.run (ops.filterMap Op.control?)⟩ := by
  induction ops using List.reverseRecOn with
  | nil => rfl
  | append_singleton ops op ih =>
    have hrun : run (ops ++ [op]) = (run ops).step op := by
      rw [run, List.foldl_append]
      rfl
    rw [hrun, ih, List.filterMap_append, List.filterMap_append]
    cases op with
    | base op =>
      show Clients.mk _ _ = ⟨Client.run (_ ++ [op]), ControlClient.run (_ ++ [])⟩
      rw [Client.run_concat, List.append_nil]
    | control op =>
      show Clients.mk _ _ = ⟨Client.run (_ ++ []), ControlClient.run (_ ++ [op])⟩
      rw [ControlClient.run_concat, List.append_nil]

/-- After a failure, the next call with the same arguments makes a new request. -/
def Retried [DecidableEq K] [Inhabited K] (pre : List (Op K)) : Op K → Prop
  | .base op => (run pre).base.Retried
      (Client.failedStarts (pre.filterMap Op.base?)) op
  | .control op => (run pre).control.Retried
      (ControlClient.runRequests (pre.filterMap Op.control?)).2 op

/-- Between a failure and that call the owner has stopped tracking, disabled the
API or given another configuration. -/
def Recalled [DecidableEq K] [Inhabited K] (pre : List (Op K)) : Op K → Prop
  | .base op => Client.Recalled (pre.filterMap Op.base?) op
  | .control op => ControlClient.Recalled (pre.filterMap Op.control?) op

/-- All that fails can be retried just where the clients have been made to forget
it. -/
theorem run_retried_iff [DecidableEq K] [Inhabited K] (ops : List (Op K)) :
    (∀ pre op, pre ++ [op] <+: ops → Retried pre op) ↔
      ∀ pre op, pre ++ [op] <+: ops → Recalled pre op := by
  have hiff : ∀ pre (op : Op K), Retried pre op ↔ Recalled pre op := by
    intro pre op
    cases op with
    | base op =>
      rw [Retried, run_eq]
      exact Client.retried_iff _ op
    | control op =>
      rw [Retried, run_eq]
      exact ControlClient.retried_iff _ op
  exact forall₂_congr fun pre op => imp_congr_right fun _ => hiff pre op

/-- A start, an enable and a configuration fail, and are asked for again with no
request made. -/
theorem failed_not_retried :
    ¬ @Retried ℕ _ _ [.base (.startTracking {} ⟨1, by decide⟩),
        .base (.response .generalFailure 1)]
      (.base (.startTracking {} ⟨2, by decide⟩)) ∧
    ¬ @Retried ℕ _ _ [.control (.enable ⟨1, by decide⟩),
        .control (.response .generalFailure 1)]
      (.control (.enable ⟨2, by decide⟩)) ∧
    ¬ @Retried ℕ _ _ [.control (.gnssUpdateConfig 7 true),
        .control (.collectiveResponse [(.generalFailure, 1)])]
      (.control (.gnssUpdateConfig 7 true)) := by
  refine ⟨fun h => ?_, fun h => ?_, fun h => ?_⟩
  · exact absurd (h (by decide)) (by decide)
  · exact absurd (h (by decide)) (by decide)
  · exact absurd (h (by decide)) (by decide)

end Clients

end Axon7.LocationApi
