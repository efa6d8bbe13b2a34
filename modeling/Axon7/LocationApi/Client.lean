import Axon7.Gnss.Tracking
import Axon7.Lib.Run
import Axon7.LocationApi.BiDict

/-!
# LocationAPIClientBase

A client of the location API keeps what it has asked for in queues of requests:
one for tracking, one for all its sessions, one for geofences and one for
responses to NI requests. A response takes a request out of a queue. The location
API is there; it answers a start with a session, which is given with the call.
-/

namespace Axon7.LocationApi

open Gnss (LocationOptions)
open Lib

inductive LocationError
  | success
  | generalFailure
  | callbackMissing
  | invalidParameter
  | idExists
  | idUnknown
  | alreadyStarted
  | geofencesAtMax
  | notSupported
deriving DecidableEq

/-- `SESSION_MODE`; a mode is a number, of which four have names. -/
inductive SessionMode
  | none
  | onFull
  | onFix
  | onTripCompleted
  | other (mode : ℕ)
deriving DecidableEq

inductive BatchingMode
  | routine
  | trip
  | noAutoReport
deriving DecidableEq

/-- A session that the location API gives: never 0. -/
abbrev SessionId := { session : ℕ // session ≠ 0 }

/-- `GeofenceBreachTypeMask`. -/
abbrev BreachMask := BitVec 16

/-- The breaches that the masks are asked for. -/
inductive GeofenceBreachType
  | enter
  | exit
  | other
deriving DecidableEq

/-- `SessionEntity`. -/
structure SessionEntity where
  id : ℕ
  trackingSession : ℕ
  batchingSession : ℕ
  sessionMode : SessionMode

/-- All bits 0. -/
instance : Inhabited SessionEntity := ⟨⟨0, 0, 0, .none⟩⟩

/-- The classes of requests. -/
inductive RequestKind
  | startTracking
  | stopTracking
  | updateTrackingOptions
  | startBatching
  | stopBatching
  | updateBatchingOptions
  | getBatchedLocations
  | addGeofences
  | removeGeofences
  | modifyGeofences
  | pauseGeofences
  | resumeGeofences
  | gnssNiResponse
deriving DecidableEq

/-- `LocationAPIRequest`: the object, by a number of its own. -/
structure Request where
  kind : RequestKind
  serial : ℕ
deriving DecidableEq

/-- `REQUEST_TYPE`, in the order of the queues. -/
inductive RequestType
  | tracking
  | session
  | geofence
  | niResponse
deriving DecidableEq

/-- `RequestQueue`. -/
structure RequestQueue (R : Type) where
  session : ℕ
  queue : List R

namespace RequestQueue

variable {R : Type}

def reset (session : ℕ) : RequestQueue R := ⟨session, []⟩

def push (request : R) (q : RequestQueue R) : RequestQueue R :=
  { q with queue := q.queue ++ [request] }

def pop (q : RequestQueue R) : Option R × RequestQueue R :=
  (q.queue.head?, { q with queue := q.queue.tail })

end RequestQueue

/-- What is asked of the location API. -/
inductive ApiCall
  | startTracking (options : LocationOptions)
  | stopTracking (session : ℕ)
  | updateTrackingOptions (session : ℕ) (options : LocationOptions)
  | startBatching (options : LocationOptions) (mode : BatchingMode)
  | stopBatching (session : ℕ)
  | updateBatchingOptions (session : ℕ) (options : LocationOptions)
      (mode : BatchingMode)
  | getBatchedLocations (session count : ℕ)
  | addGeofences (masks : List BreachMask)
  | removeGeofences (sessions : List ℕ)
  | modifyGeofences (sessions : List ℕ) (masks : List BreachMask)
  | pauseGeofences (sessions : List ℕ)
  | resumeGeofences (sessions : List ℕ)
  | gnssNiResponse (id : ℕ)
deriving DecidableEq

/-- What is told to the owner of the client. -/
inductive Callback
  | response (request : Request) (error : LocationError)
  | collective (request : Request) (errors : List LocationError) (ids : List ℕ)
  | removeGeofences (error : LocationError) (id : ℕ)
  | geofenceBreach (type : GeofenceBreachType) (ids : List ℕ)
  | batchingStatus (ids : List ℕ)
deriving DecidableEq

/-- `GEOFENCE_SESSION_ID`. -/
def geofenceSessionId : ℕ := 0xFFFFFFFF

/-- `LocationAPIClientBase`, with the requests there have been, the calls made
and the callbacks given. -/
structure Client where
  requestQueues : RequestType → RequestQueue Request
  geofenceBiDict : BiDict BreachMask
  sessionBiDict : BiDict SessionEntity
  tracking : Bool
  created : ℕ
  calls : List ApiCall
  callbacks : List Callback

namespace Client

/-- The constructor. -/
def new : Client where
  requestQueues _ := .reset 0
  geofenceBiDict := .empty
  sessionBiDict := .empty
  tracking := false
  created := 0
  calls := []
  callbacks := []

def setQueue (type : RequestType) (q : RequestQueue Request) (c : Client) :
    Client :=
  { c with requestQueues := Function.update c.requestQueues type q }

/-- A new request is put into a queue. -/
def push (type : RequestType) (kind : RequestKind) (c : Client) : Client :=
  { c.setQueue type ((c.requestQueues type).push ⟨kind, c.created⟩) with
    created := c.created + 1 }

def setSession (type : RequestType) (session : ℕ) (c : Client) : Client :=
  c.setQueue type { c.requestQueues type with session := session }

def call (apiCall : ApiCall) (c : Client) : Client :=
  { c with calls := c.calls ++ [apiCall] }

def callback (cb : Callback) (c : Client) : Client :=
  { c with callbacks := c.callbacks ++ [cb] }

/-! ## Tracking -/

def locAPIStartTracking (options : LocationOptions) (session : SessionId)
    (c : Client) : Client :=
  if c.tracking then c
  else
    let c := c.call (.startTracking options)
    let c := (c.setQueue .tracking (.reset session)).push .tracking .startTracking
    { c with tracking := true }

def locAPIStopTracking (c : Client) : Client :=
  let session := (c.requestQueues .tracking).session
  if session > 0 then
    let c := (c.push .tracking .stopTracking).call (.stopTracking session)
    { c with tracking := false }
  else c

def locAPIUpdateTrackingOptions (options : LocationOptions) (c : Client) :
    Client :=
  let session := (c.requestQueues .tracking).session
  if session > 0 then
    (c.push .tracking .updateTrackingOptions).call
      (.updateTrackingOptions session options)
  else c

/-! ## Sessions -/

def batchingMode : SessionMode → BatchingMode
  | .onFull => .routine
  | .onTripCompleted => .trip
  | _ => .noAutoReport

def locAPIStartSession (id : ℕ) (sessionMode : SessionMode)
    (options : LocationOptions) (session : SessionId) (c : Client) :
    LocationError × Client :=
  if c.sessionBiDict.hasId id then (.alreadyStarted, c)
  else
    let (c, trackingSession, batchingSession) :=
      if sessionMode = .onFix then
        ((c.call (.startTracking options)).push .session .startTracking,
          session.val, 0)
      else
        (((c.call (.startBatching options (batchingMode sessionMode))).setSession
          .session session).push .session .startBatching, 0, session.val)
    (.success,
      { c with
        sessionBiDict := c.sessionBiDict.set id session
          ⟨id, trackingSession, batchingSession, sessionMode⟩ })

def locAPIStopSession (id : ℕ) (c : Client) : LocationError × Client :=
  if c.sessionBiDict.hasId id then
    let (entity, dict) := c.sessionBiDict.getExtById id
    let c := { c with sessionBiDict := dict }
    if entity.sessionMode = .onFix then
      (.success, (c.push .session .stopTracking).call
        (.stopTracking entity.trackingSession))
    else
      (.success, (c.push .session .stopBatching).call
        (.stopBatching entity.batchingSession))
  else (.idUnknown, c)

/-- `locAPIUpdateSessionOptions`. A change of mode makes two calls for one
request. -/
def locAPIUpdateSessionOptions (id : ℕ) (sessionMode : SessionMode)
    (options : LocationOptions) (session : SessionId) (c : Client) :
    LocationError × Client :=
  if c.sessionBiDict.hasId id then
    let (entity, dict) := c.sessionBiDict.getExtById id
    let c := { c with sessionBiDict := dict }
    let (c, trackingSession, batchingSession) :=
      if sessionMode = .onFix then
        let c := c.push .session .updateTrackingOptions
        if entity.sessionMode = .onFix then
          (c.call (.updateTrackingOptions entity.trackingSession options),
            entity.trackingSession, entity.batchingSession)
        else
          (((c.call (.stopBatching entity.batchingSession)).setSession .session
            0).call (.startTracking options), session.val, 0)
      else
        let c := c.push .session .updateBatchingOptions
        if entity.sessionMode = .onFix then
          (((c.call (.stopTracking entity.trackingSession)).call
            (.startBatching options (batchingMode sessionMode))).setSession
              .session session, 0, session.val)
        else
          (c.call (.updateBatchingOptions entity.batchingSession options
            (batchingMode sessionMode)),
            entity.trackingSession, entity.batchingSession)
    let current :=
      if sessionMode ≠ .onFix then batchingSession else trackingSession
    (.success,
      { c with
        sessionBiDict := (c.sessionBiDict.rmById id).set id current
          { entity with
            trackingSession := trackingSession
            batchingSession := batchingSession
            sessionMode := sessionMode } })
  else (.idUnknown, c)

def locAPIGetBatchedLocations (id count : ℕ) (c : Client) :
    LocationError × Client :=
  if c.sessionBiDict.hasId id then
    let (entity, dict) := c.sessionBiDict.getExtById id
    let c := { c with sessionBiDict := dict }
    (.success, (c.push .session .getBatchedLocations).call
      (.getBatchedLocations entity.batchingSession count))
  else (.idUnknown, c)

/-! ## Geofences -/

/-- A geofence to add, with the session that the location API gives it. -/
structure Fence where
  id : ℕ
  mask : BreachMask
  session : SessionId

/-- `locAPIAddGeofences`. The location API may refuse them all. -/
def locAPIAddGeofences (fences : List Fence) (accepted : Bool) (c : Client) :
    LocationError × Client :=
  let c :=
    if (c.requestQueues .geofence).session ≠ geofenceSessionId then
      c.setQueue .geofence (.reset geofenceSessionId)
    else c
  let c := c.call (.addGeofences (fences.map Fence.mask))
  if accepted then
    let c := c.push .geofence .addGeofences
    (.success,
      { c with
        geofenceBiDict := fences.foldl (fun dict fence =>
          dict.set fence.id fence.session fence.mask) c.geofenceBiDict })
  else (.generalFailure, c)

/-- One turn of the loop of `locAPIRemoveGeofences`, with the sessions so far. -/
def removeGeofence (p : List ℕ × Client) (id : ℕ) : List ℕ × Client :=
  let session := p.2.geofenceBiDict.getSession id
  if session > 0 then
    (p.1 ++ [session],
      { p.2 with geofenceBiDict := p.2.geofenceBiDict.rmBySession session }.callback
        (.removeGeofences .success id))
  else (p.1, p.2.callback (.removeGeofences .idUnknown id))

def locAPIRemoveGeofences (ids : List ℕ) (c : Client) : Client :=
  if (c.requestQueues .geofence).session = geofenceSessionId then
    let (sessions, c) := ids.foldl removeGeofence ([], c)
    if sessions ≠ [] then
      (c.push .geofence .removeGeofences).call (.removeGeofences sessions)
    else c
  else c

/-- One turn of the loops of the others: a geofence that is there may get a
mask. -/
def setGeofence (p : List ℕ × Client) (fence : ℕ × Option BreachMask) :
    List ℕ × Client :=
  let session := p.2.geofenceBiDict.getSession fence.1
  if session > 0 then
    (p.1 ++ [session],
      match fence.2 with
      | none => p.2
      | some mask =>
        { p.2 with
          geofenceBiDict := p.2.geofenceBiDict.set fence.1 session mask })
  else p

/-- What `locAPIModifyGeofences`, `locAPIPauseGeofences` and
`locAPIResumeGeofences` have in common. -/
def changeGeofences (kind : RequestKind) (apiCall : List ℕ → ApiCall)
    (fences : List (ℕ × Option BreachMask)) (c : Client) : Client :=
  if (c.requestQueues .geofence).session = geofenceSessionId then
    let (sessions, c) := fences.foldl setGeofence ([], c)
    if sessions ≠ [] then (c.push .geofence kind).call (apiCall sessions)
    else c
  else c

def locAPIModifyGeofences (fences : List (ℕ × BreachMask)) : Client → Client :=
  changeGeofences .modifyGeofences
    (fun sessions => .modifyGeofences sessions (fences.map Prod.snd))
    (fences.map fun fence => (fence.1, some fence.2))

def locAPIPauseGeofences (ids : List ℕ) : Client → Client :=
  changeGeofences .pauseGeofences .pauseGeofences (ids.map fun id => (id, none))

/-- `locAPIResumeGeofences`, with a mask each or none at all. -/
def locAPIResumeGeofences (fences : List (ℕ × BreachMask)) (withMask : Bool) :
    Client → Client :=
  changeGeofences .resumeGeofences .resumeGeofences
    (fences.map fun fence => (fence.1, if withMask then some fence.2 else none))

/-- The bit asked for is set. -/
def breaches (type : GeofenceBreachType) (mask : BreachMask) : Bool :=
  match type with
  | .enter => mask.getLsbD 0
  | .exit => mask.getLsbD 1
  | .other => false

/-- The ids that `beforeGeofenceBreachCb` hands on for the sessions. -/
def breachIds (type : GeofenceBreachType) (sessions : List ℕ) (c : Client) :
    List ℕ :=
  (sessions.filter fun session =>
    breaches type (c.geofenceBiDict.getExtBySession session)).map
      c.geofenceBiDict.getId

def beforeGeofenceBreachCb (type : GeofenceBreachType) (sessions : List ℕ)
    (c : Client) : Client :=
  c.callback (.geofenceBreach type (c.breachIds type sessions))

/-! ## NI responses -/

def locAPIGnssNiResponse (id : ℕ) (c : Client) : Client :=
  ((c.call (.gnssNiResponse id)).setQueue .niResponse (.reset id)).push .niResponse
    .gnssNiResponse

/-! ## Callbacks of the location API -/

def removeSession (session : ℕ) (c : Client) : Client :=
  if c.sessionBiDict.hasSession session then
    { c with sessionBiDict := c.sessionBiDict.rmBySession session }
  else c

/-- One turn of the loop of `beforeBatchingStatusCb`, with the ids so far. -/
def completeTrip (p : List ℕ × Client) (session : ℕ) : List ℕ × Client :=
  if p.2.sessionBiDict.hasSession session then
    let entity := p.2.sessionBiDict.getExtBySession session
    if entity.sessionMode = .onTripCompleted then
      (p.1 ++ [entity.id],
        { p.2 with sessionBiDict := p.2.sessionBiDict.rmBySession session })
    else p
  else p

/-- `beforeBatchingStatusCb`. The trips count if the status says that they are
completed. -/
def beforeBatchingStatusCb (completed : Bool) (tripCompleted : List ℕ)
    (c : Client) : Client :=
  let (ids, c) :=
    if completed then tripCompleted.foldl completeTrip ([], c) else ([], c)
  c.callback (.batchingStatus ids)

/-- A queue has its first request taken out. -/
def popQueue (type : RequestType) (c : Client) : Option Request × Client :=
  let (request, q) := (c.requestQueues type).pop
  (request, c.setQueue type q)

/-- `getRequestBySession`: the tracking queue and that of NI responses are asked
for the session, the first that has it is popped, and failing a request the
queue of sessions is, if the session is known. -/
def getRequestBySession (session : ℕ) (c : Client) : Option Request × Client :=
  let (request, c) :=
    if (c.requestQueues .tracking).session = session then c.popQueue .tracking
    else if (c.requestQueues .niResponse).session = session then
      c.popQueue .niResponse
    else (none, c)
  match request with
  | some request => (some request, c)
  | none =>
    if c.sessionBiDict.hasSession session then c.popQueue .session
    else (none, c)

/-- `onResponse` of the requests. -/
def onResponse (request : Request) (error : LocationError) (session : ℕ)
    (c : Client) : Client :=
  match request.kind with
  | .startTracking | .startBatching =>
    (if error ≠ .success then c.removeSession session else c).callback
      (.response request error)
  | .stopTracking | .stopBatching =>
    let c := c.callback (.response request error)
    if error = .success then c.removeSession session else c
  | .updateTrackingOptions | .updateBatchingOptions | .getBatchedLocations
  | .gnssNiResponse => c.callback (.response request error)
  | .addGeofences | .removeGeofences | .modifyGeofences | .pauseGeofences
  | .resumeGeofences => c

def onResponseCb (error : LocationError) (session : ℕ) (c : Client) : Client :=
  let (request, c) := c.getRequestBySession session
  match request with
  | some request => c.onResponse request error session
  | none => c

/-- `onCollectiveResponse` of the requests. -/
def onCollectiveResponse (request : Request)
    (responses : List (LocationError × ℕ)) (c : Client) : Client :=
  match request.kind with
  | .addGeofences | .modifyGeofences | .pauseGeofences | .resumeGeofences =>
    c.callback (.collective request (responses.map Prod.fst)
      (responses.map fun response => c.geofenceBiDict.getId response.2))
  | _ => c

def onCollectiveResponseCb (responses : List (LocationError × ℕ)) (c : Client) :
    Client :=
  if (c.requestQueues .geofence).session = geofenceSessionId then
    let (request, c) := c.popQueue .geofence
    match request with
    | some request => c.onCollectiveResponse request responses
    | none => c
  else c

/-! ## Runs -/

/-- The calls of the owner and of the location API. -/
inductive Op
  | startTracking (options : LocationOptions) (session : SessionId)
  | stopTracking
  | updateTrackingOptions (options : LocationOptions)
  | startSession (id : ℕ) (mode : SessionMode) (options : LocationOptions)
      (session : SessionId)
  | stopSession (id : ℕ)
  | updateSessionOptions (id : ℕ) (mode : SessionMode)
      (options : LocationOptions) (session : SessionId)
  | getBatchedLocations (id count : ℕ)
  | addGeofences (fences : List Fence) (accepted : Bool)
  | removeGeofences (ids : List ℕ)
  | modifyGeofences (fences : List (ℕ × BreachMask))
  | pauseGeofences (ids : List ℕ)
  | resumeGeofences (fences : List (ℕ × BreachMask)) (withMask : Bool)
  | gnssNiResponse (id : ℕ)
  | response (error : LocationError) (session : ℕ)
  | collectiveResponse (responses : List (LocationError × ℕ))
  | geofenceBreach (type : GeofenceBreachType) (sessions : List ℕ)
  | batchingStatus (completed : Bool) (tripCompleted : List ℕ)

def step (c : Client) : Op → Client
  | .startTracking options session => c.locAPIStartTracking options session
  | .stopTracking => c.locAPIStopTracking
  | .updateTrackingOptions options => c.locAPIUpdateTrackingOptions options
  | .startSession id mode options session =>
    (c.locAPIStartSession id mode options session).2
  | .stopSession id => (c.locAPIStopSession id).2
  | .updateSessionOptions id mode options session =>
    (c.locAPIUpdateSessionOptions id mode options session).2
  | .getBatchedLocations id count => (c.locAPIGetBatchedLocations id count).2
  | .addGeofences fences accepted => (c.locAPIAddGeofences fences accepted).2
  | .removeGeofences ids => c.locAPIRemoveGeofences ids
  | .modifyGeofences fences => c.locAPIModifyGeofences fences
  | .pauseGeofences ids => c.locAPIPauseGeofences ids
  | .resumeGeofences fences withMask => c.locAPIResumeGeofences fences withMask
  | .gnssNiResponse id => c.locAPIGnssNiResponse id
  | .response error session => c.onResponseCb error session
  | .collectiveResponse responses => c.onCollectiveResponseCb responses
  | .geofenceBreach type sessions => c.beforeGeofenceBreachCb type sessions
  | .batchingStatus completed tripCompleted =>
    c.beforeBatchingStatusCb completed tripCompleted

/-- The client after the calls. -/
def run (ops : List Op) : Client := ops.foldl step new

theorem run_concat (ops : List Op) (op : Op) :
    run (ops ++ [op]) = (run ops).step op := by
  rw [run, List.foldl_append]
  rfl

/-! ## What calls keep

What the turns of a loop keep, and the request and the call after it, the call
with the loop keeps; and a response keeps what a pop, a session removed and a
callback do. -/

section Keeps

variable {I : Client → Prop} {c : Client}

theorem foldl_keeps {B : Type} {turn : List ℕ × Client → B → List ℕ × Client}
    (hturn : ∀ p b, I p.2 → I (turn p b).2) (h : I c) (bs : List B) :
    I (bs.foldl turn ([], c)).2 :=
  foldl_invariant (fun p : List ℕ × Client => I p.2) (fun _ => True)
    (fun p b hp _ => hturn p b hp) h bs fun _ _ => trivial

theorem locAPIRemoveGeofences_keeps
    (hturn : ∀ p id, I p.2 → I (removeGeofence p id).2)
    (hcall : ∀ c kind apiCall, I c → I ((c.push .geofence kind).call apiCall))
    (h : I c) (ids : List ℕ) : I (c.locAPIRemoveGeofences ids) := by
  have hall := foldl_keeps hturn h ids
  rw [locAPIRemoveGeofences]
  split
  · dsimp only
    split
    · exact hcall _ _ _ hall
    · exact hall
  · exact h

theorem changeGeofences_keeps
    (hturn : ∀ p fence, I p.2 → I (setGeofence p fence).2)
    (hcall : ∀ c kind apiCall, I c → I ((c.push .geofence kind).call apiCall))
    (h : I c) (kind : RequestKind) (apiCall : List ℕ → ApiCall)
    (fences : List (ℕ × Option BreachMask)) :
    I (c.changeGeofences kind apiCall fences) := by
  have hall := foldl_keeps hturn h fences
  rw [changeGeofences]
  split
  · dsimp only
    split
    · exact hcall _ _ _ hall
    · exact hall
  · exact h

theorem beforeBatchingStatusCb_keeps
    (hturn : ∀ p session, I p.2 → I (completeTrip p session).2)
    (hcallback : ∀ c cb, I c → I (c.callback cb)) (h : I c) (completed : Bool)
    (tripCompleted : List ℕ) : I (c.beforeBatchingStatusCb completed tripCompleted) := by
  have hall := foldl_keeps hturn h tripCompleted
  rw [beforeBatchingStatusCb]
  dsimp only
  split
  · exact hcallback _ _ hall
  · exact hcallback _ _ h

theorem getRequestBySession_keeps
    (hpop : ∀ c type, I c → I (c.popQueue type).2) (h : I c) (session : ℕ) :
    I (c.getRequestBySession session).2 := by
  have hfirst : I (if (c.requestQueues .tracking).session = session then
        c.popQueue .tracking
      else if (c.requestQueues .niResponse).session = session then
        c.popQueue .niResponse
      else (none, c)).2 := by
    split
    · exact hpop c .tracking h
    · split
      · exact hpop c .niResponse h
      · exact h
  rw [getRequestBySession]
  generalize (if (c.requestQueues .tracking).session = session then
    c.popQueue .tracking
  else if (c.requestQueues .niResponse).session = session then
    c.popQueue .niResponse
  else (none, c)) = r at hfirst ⊢
  obtain ⟨request, c'⟩ := r
  cases request with
  | some request => exact hfirst
  | none =>
    dsimp only
    split
    · exact hpop c' .session hfirst
    · exact hfirst

theorem onResponseCb_keeps (hpop : ∀ c type, I c → I (c.popQueue type).2)
    (hremove : ∀ c session, I c → I (c.removeSession session))
    (hcallback : ∀ c cb, I c → I (c.callback cb)) (h : I c)
    (error : LocationError) (session : ℕ) : I (c.onResponseCb error session) := by
  have hc := getRequestBySession_keeps hpop h session
  rw [onResponseCb]
  generalize c.getRequestBySession session = r at hc ⊢
  obtain ⟨request, c'⟩ := r
  cases request with
  | none => exact hc
  | some request =>
    dsimp only
    rw [onResponse]
    cases request.kind with
    | startTracking | startBatching =>
      dsimp only
      split
      · exact hcallback _ _ (hremove c' session hc)
      · exact hcallback _ _ hc
    | stopTracking | stopBatching =>
      dsimp only
      split
      · exact hremove _ session (hcallback _ _ hc)
      · exact hcallback _ _ hc
    | updateTrackingOptions | updateBatchingOptions | getBatchedLocations
    | gnssNiResponse => exact hcallback _ _ hc
    | _ => exact hc

theorem onCollectiveResponseCb_keeps
    (hpop : ∀ c type, I c → I (c.popQueue type).2)
    (hcallback : ∀ c cb, I c → I (c.callback cb)) (h : I c)
    (responses : List (LocationError × ℕ)) :
    I (c.onCollectiveResponseCb responses) := by
  have hc := hpop c .geofence h
  rw [onCollectiveResponseCb]
  split
  · generalize c.popQueue .geofence = r at hc ⊢
    obtain ⟨request, c'⟩ := r
    cases request with
    | none => exact hc
    | some request =>
      dsimp only
      rw [onCollectiveResponse]
      cases request.kind with
      | addGeofences | modifyGeofences | pauseGeofences | resumeGeofences =>
        exact hcallback _ _ hc
      | _ => exact hc
  · exact h

end Keeps

end Client

end Axon7.LocationApi
