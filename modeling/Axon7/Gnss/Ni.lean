import Mathlib

/-!
# Network-initiated requests

The adapter keeps one emergency request and one ordinary one. A request that it
saves gets a thread that waits for the response of a client or for the time to be
up, and hands the raw request on with the response. The messages of the adapter
come one after the other, between them the steps of the threads: what a mutex
protects is one step, and so is what lies between. When the time is up is not
modelled: it may be at any moment of the wait.
-/

namespace Axon7.Gnss

/-- `GnssNiResponse`. The memory holds 0 at first, which has no name. -/
inductive GnssNiResponse
  | zero
  | accept
  | deny
  | noResponse
  | ignore
deriving DecidableEq

/-- The two sessions of `NiData`. -/
inductive NiSlot
  | session
  | sessionEs
deriving DecidableEq

/-- `NiSession`. A raw request goes by the number of the request it came with. -/
structure NiSession where
  respTimeLeft : ℕ
  respRecvd : Bool
  rawRequest : Option ℕ
  reqID : ℕ
  resp : GnssNiResponse

/-- What a thread hands on: the raw request, the response, and whether that is
because of `ETIMEDOUT`. -/
structure NiHand where
  rawRequest : ℕ
  resp : GnssNiResponse
  timedOut : Bool
deriving DecidableEq

/-- Where `niThreadProc` stands: before it has the lock, in the wait, after the
lock and after it has cleared the id and the time. -/
inductive NiPhase
  | absent
  | created
  | waiting
  | responded (hand : Option NiHand)
  | cleared (hand : Option NiHand)
  | done
deriving DecidableEq

namespace NiPhase

/-- The request waits for a response. -/
def isWaiting : NiPhase → Bool
  | .created | .waiting => true
  | _ => false

/-- The thread has yet to clear the session. -/
def isOpen : NiPhase → Bool
  | .created | .waiting | .responded _ => true
  | _ => false

def hand : NiPhase → Option NiHand
  | .responded hand | .cleared hand => hand
  | _ => none

/-- The raw request is out of the hands of the thread. -/
def isSettled : NiPhase → Bool
  | .responded none | .cleared none | .done => true
  | _ => false

end NiPhase

/-- A request that has been saved, and its thread. -/
structure NiRequest where
  slot : NiSlot
  reqID : ℕ
  data : Bool
  phase : NiPhase
deriving DecidableEq

/-- What the messages are at: `MsgGnssNiResponse::proc` before one of its locks,
or nothing. -/
inductive NiProc
  | idle
  | ignoring (id : ℕ) (response : GnssNiResponse)
  | responding (slot : NiSlot) (id : ℕ) (response : GnssNiResponse)
deriving DecidableEq

/-- The session that the lock is for. -/
def NiProc.slot : NiProc → Option NiSlot
  | .idle => none
  | .ignoring _ _ => some .session
  | .responding slot _ _ => some slot

/-- The errors that a response is reported with. -/
inductive NiError
  | success
  | idUnknown
deriving DecidableEq

/-- The adapter as far as it deals with these requests, with all requests saved,
the responses of its clients, the raw requests sent and freed, those of requests
not saved, the ids that clients are told of and the reports they get. -/
structure NiAdapter where
  sessions : NiSlot → NiSession
  reqIDCounter : ℕ
  requests : List NiRequest
  proc : NiProc
  responses : List (ℕ × GnssNiResponse)
  sent : List NiHand
  freed : List ℕ
  dropped : ℕ
  notified : List ℕ
  reports : List (NiError × ℕ)

namespace NiAdapter

def new : NiAdapter where
  sessions _ := ⟨0, false, none, 0, .zero⟩
  reqIDCounter := 0
  requests := []
  proc := .idle
  responses := []
  sent := []
  freed := []
  dropped := 0
  notified := []
  reports := []

def setSession (slot : NiSlot) (session : NiSession) (a : NiAdapter) : NiAdapter :=
  { a with sessions := Function.update a.sessions slot session }

def setPhase (n : ℕ) (phase : NiPhase) (a : NiAdapter) : NiAdapter :=
  { a with requests := a.requests.modify n fun r => { r with phase := phase } }

def report (error : NiError) (id : ℕ) (a : NiAdapter) : NiAdapter :=
  { a with reports := a.reports ++ [(error, id)] }

/-! ## Requests -/

/-- `LOC_NI_NO_RESPONSE_TIME`. -/
def noResponseTime : ℕ := 20

/-- The session that a request is saved in, if there is none in progress. -/
def freeSlot (emergency : Bool) (a : NiAdapter) : Option NiSlot :=
  if emergency then
    if (a.sessions .sessionEs).rawRequest ≠ none then none else some .sessionEs
  else if (a.sessions .session).rawRequest ≠ none ∨
      (a.sessions .sessionEs).rawRequest ≠ none then none
  else some .session

/-- `requestNiNotify`. The type of the request counts if it is that of an
emergency; `hasCallback` says that a client is there for it, `data` that the
pointer is not null, and `created` that `pthread_create` makes the thread. -/
def requestNiNotify (hasCallback emergency : Bool) (timeout : ℕ)
    (data created : Bool) (a : NiAdapter) : NiAdapter :=
  if hasCallback then
    match a.freeSlot emergency with
    | none => { a with dropped := a.dropped + data.toNat }
    | some slot =>
      let reqID := (a.reqIDCounter + 1) % 2 ^ 32
      { a with
        sessions := Function.update a.sessions slot
          { a.sessions slot with
            rawRequest := if data then some a.requests.length else none
            reqID := reqID
            respTimeLeft :=
              (5 + if timeout ≠ 0 then timeout else noResponseTime) % 2 ^ 32 }
        reqIDCounter := reqID
        requests := a.requests ++
          [⟨slot, reqID, data, if created then .created else .absent⟩]
        notified := a.notified ++ [reqID] }
  else a

/-! ## Responses of clients -/

/-- `MsgGnssNiResponse::proc` as far as its first lock. -/
def gnssNiResponse (hasCallback : Bool) (id : ℕ) (response : GnssNiResponse)
    (a : NiAdapter) : NiAdapter :=
  if hasCallback then
    let a := { a with responses := a.responses ++ [(id, response)] }
    if id = (a.sessions .sessionEs).reqID ∧
        (a.sessions .sessionEs).rawRequest ≠ none then
      -- an emergency that is accepted overrides the ordinary request
      if response = .accept ∧ (a.sessions .session).rawRequest ≠ none then
        { a with proc := .ignoring id response }
      else { a with proc := .responding .sessionEs id response }
    else if id = (a.sessions .session).reqID ∧
        (a.sessions .session).rawRequest ≠ none then
      { a with proc := .responding .session id response }
    else a.report .idUnknown id
  else a.report .idUnknown id

/-- A response is put into a session, for its thread to find. -/
def respond (slot : NiSlot) (response : GnssNiResponse) (a : NiAdapter) :
    NiAdapter :=
  a.setSession slot { a.sessions slot with resp := response, respRecvd := true }

/-- The next lock of `MsgGnssNiResponse::proc`, and what comes after it. -/
def gnssNiResponseLock (a : NiAdapter) : NiAdapter :=
  match a.proc with
  | .idle => a
  | .ignoring id response =>
    { a.respond .session .ignore with proc := .responding .sessionEs id response }
  | .responding slot id response =>
    { (a.respond slot response).report .success id with proc := .idle }

/-! ## Threads -/

/-- What follows the wait of `niThreadProc`, as far as the lock is held. -/
def takeRequest (n : ℕ) (slot : NiSlot) (timedOut : Bool) (a : NiAdapter) :
    NiAdapter :=
  let session := a.sessions slot
  let resp := if timedOut then .noResponse else session.resp
  let session := { session with resp := resp, respRecvd := false }
  match session.rawRequest with
  | none => (a.setSession slot session).setPhase n (.responded none)
  | some raw =>
    let a := a.setSession slot { session with rawRequest := none }
    if resp ≠ .ignore then
      a.setPhase n (.responded (some ⟨raw, resp, timedOut⟩))
    else
      { a with freed := a.freed ++ [raw] }.setPhase n (.responded none)

/-- A thread gets the lock: for the first time, or by a signal or none at all. -/
def niThreadLock (n : ℕ) (a : NiAdapter) : NiAdapter :=
  match a.requests[n]? with
  | some ⟨slot, _, _, .created⟩ | some ⟨slot, _, _, .waiting⟩ =>
    if (a.sessions slot).respRecvd then a.takeRequest n slot false
    else a.setPhase n .waiting
  | _ => a

/-- The time is up. -/
def niThreadTimeout (n : ℕ) (a : NiAdapter) : NiAdapter :=
  match a.requests[n]? with
  | some ⟨slot, _, _, .waiting⟩ => a.takeRequest n slot true
  | _ => a

/-- After the lock the time and the id are cleared. -/
def niThreadClear (n : ℕ) (a : NiAdapter) : NiAdapter :=
  match a.requests[n]? with
  | some ⟨slot, _, _, .responded hand⟩ =>
    (a.setSession slot { a.sessions slot with respTimeLeft := 0, reqID := 0 }).setPhase
      n (.cleared hand)
  | _ => a

/-- `gnssNiResponseCommand`, if there is something to send, and the end. -/
def niThreadSend (n : ℕ) (a : NiAdapter) : NiAdapter :=
  match a.requests[n]? with
  | some ⟨_, _, _, .cleared hand⟩ =>
    { a with sent := a.sent ++ hand.toList }.setPhase n .done
  | _ => a

/-! ## Runs -/

/-- The steps. A message is taken up when the one before has been done with. -/
inductive Op
  | requestNiNotify (hasCallback emergency : Bool) (timeout : ℕ)
      (data created : Bool)
  | gnssNiResponse (hasCallback : Bool) (id : ℕ) (response : GnssNiResponse)
  | gnssNiResponseLock
  | niThreadLock (n : ℕ)
  | niThreadTimeout (n : ℕ)
  | niThreadClear (n : ℕ)
  | niThreadSend (n : ℕ)

def step (a : NiAdapter) : Op → NiAdapter
  | .requestNiNotify hasCallback emergency timeout data created =>
    if a.proc = .idle then
      a.requestNiNotify hasCallback emergency timeout data created
    else a
  | .gnssNiResponse hasCallback id response =>
    if a.proc = .idle then a.gnssNiResponse hasCallback id response else a
  | .gnssNiResponseLock => a.gnssNiResponseLock
  | .niThreadLock n => a.niThreadLock n
  | .niThreadTimeout n => a.niThreadTimeout n
  | .niThreadClear n => a.niThreadClear n
  | .niThreadSend n => a.niThreadSend n

/-- The adapter after the steps. -/
def run (ops : List Op) : NiAdapter := ops.foldl step new

theorem run_concat (ops : List Op) (op : Op) :
    run (ops ++ [op]) = (run ops).step op := by
  rw [run, List.foldl_append]
  rfl

/-- How often the raw request of a request has been sent or freed. -/
def handled (n : ℕ) (a : NiAdapter) : ℕ :=
  (a.sent.map NiHand.rawRequest).count n + a.freed.count n

end NiAdapter

end Axon7.Gnss
