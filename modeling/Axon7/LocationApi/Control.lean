import Axon7.LocationApi.Client

/-!
# LocationAPIControlClient

The control client enables and disables the location API, deletes aiding data
and updates the configuration. It does not enable twice, nor send a
configuration that is the one before byte for byte. The location control API is
there, and has one technology.
-/

namespace Axon7.LocationApi

/-- `CTRL_REQUEST_TYPE`. -/
inductive CtrlRequestType
  | deleteAidingData
  | control
  | config
deriving DecidableEq

/-- The classes of its requests. -/
inductive CtrlRequest
  | gnssDeleteAidingData
  | enable
  | disable
  | gnssUpdateConfig

/-- What is asked of the location control API. `K` has the configurations. -/
inductive CtrlCall (K : Type)
  | gnssDeleteAidingData
  | enable
  | disable (session : ℕ)
  | gnssUpdateConfig (config : K)
deriving DecidableEq

/-- What is told to the owner of the client. -/
inductive CtrlCallback
  | response (request : CtrlRequest) (error : LocationError)
  | collective (responses : List (LocationError × ℕ))

/-- `CONFIG_SESSION_ID`. -/
def configSessionId : ℕ := 0xFFFFFFFF

/-- `LocationAPIControlClient`, with the calls made and the callbacks given. -/
structure ControlClient (K : Type) where
  requestQueues : CtrlRequestType → RequestQueue CtrlRequest
  enabled : Bool
  config : K
  calls : List (CtrlCall K)
  callbacks : List CtrlCallback

namespace ControlClient

variable {K : Type}

/-- The constructor. The configuration has all bytes 0. -/
def new [Inhabited K] : ControlClient K where
  requestQueues _ := .reset 0
  enabled := false
  config := default
  calls := []
  callbacks := []

def setQueue (type : CtrlRequestType) (q : RequestQueue CtrlRequest)
    (c : ControlClient K) : ControlClient K :=
  { c with requestQueues := Function.update c.requestQueues type q }

def push (type : CtrlRequestType) (request : CtrlRequest) (c : ControlClient K) :
    ControlClient K :=
  c.setQueue type ((c.requestQueues type).push request)

def call (ctrlCall : CtrlCall K) (c : ControlClient K) : ControlClient K :=
  { c with calls := c.calls ++ [ctrlCall] }

def callback (cb : CtrlCallback) (c : ControlClient K) : ControlClient K :=
  { c with callbacks := c.callbacks ++ [cb] }

def locAPIGnssDeleteAidingData (session : SessionId) (c : ControlClient K) :
    ControlClient K :=
  ((c.call .gnssDeleteAidingData).setQueue .deleteAidingData (.reset session)).push
    .deleteAidingData .gnssDeleteAidingData

/-- `locAPIEnable`, which returns success either way. -/
def locAPIEnable (session : SessionId) (c : ControlClient K) : ControlClient K :=
  if c.enabled then c
  else
    { ((c.call .enable).setQueue .control (.reset session)).push .control .enable with
      enabled := true }

def locAPIDisable (c : ControlClient K) : ControlClient K :=
  if c.enabled then
    let session := (c.requestQueues .control).session
    if session > 0 then
      { (c.push .control .disable).call (.disable session) with enabled := false }
    else c
  else c

/-- `locAPIGnssUpdateConfig`. The API gives an array of sessions or a null
pointer. -/
def locAPIGnssUpdateConfig [DecidableEq K] (config : K) (idArray : Bool)
    (c : ControlClient K) : LocationError × ControlClient K :=
  if c.config = config then (.success, c)
  else
    let c := { c with config := config }.call (.gnssUpdateConfig config)
    if idArray then
      let c :=
        if (c.requestQueues .config).session ≠ configSessionId then
          c.setQueue .config (.reset configSessionId)
        else c
      (.success, c.push .config .gnssUpdateConfig)
    else (.generalFailure, c)

def popQueue (type : CtrlRequestType) (c : ControlClient K) :
    Option CtrlRequest × ControlClient K :=
  let (request, q) := (c.requestQueues type).pop
  (request, c.setQueue type q)

/-- `getRequestBySession`: the first queue that has the session is popped. -/
def getRequestBySession (session : ℕ) (c : ControlClient K) :
    Option CtrlRequest × ControlClient K :=
  if (c.requestQueues .deleteAidingData).session = session then
    c.popQueue .deleteAidingData
  else if (c.requestQueues .control).session = session then c.popQueue .control
  else (none, c)

def onCtrlResponseCb (error : LocationError) (session : ℕ) (c : ControlClient K) :
    ControlClient K :=
  let (request, c) := c.getRequestBySession session
  match request with
  | some request => c.callback (.response request error)
  | none => c

def onCtrlCollectiveResponseCb (responses : List (LocationError × ℕ))
    (c : ControlClient K) : ControlClient K :=
  if (c.requestQueues .config).session = configSessionId then
    let (request, c) := c.popQueue .config
    match request with
    | some _ => c.callback (.collective responses)
    | none => c
  else c

/-- The calls of the owner and of the location control API. -/
inductive Op (K : Type)
  | gnssDeleteAidingData (session : SessionId)
  | enable (session : SessionId)
  | disable
  | gnssUpdateConfig (config : K) (idArray : Bool)
  | response (error : LocationError) (session : ℕ)
  | collectiveResponse (responses : List (LocationError × ℕ))

def step [DecidableEq K] (c : ControlClient K) : Op K → ControlClient K
  | .gnssDeleteAidingData session => c.locAPIGnssDeleteAidingData session
  | .enable session => c.locAPIEnable session
  | .disable => c.locAPIDisable
  | .gnssUpdateConfig config idArray =>
    (c.locAPIGnssUpdateConfig config idArray).2
  | .response error session => c.onCtrlResponseCb error session
  | .collectiveResponse responses => c.onCtrlCollectiveResponseCb responses

/-- The client after the calls. -/
def run [DecidableEq K] [Inhabited K] (ops : List (Op K)) : ControlClient K :=
  ops.foldl step new

end ControlClient

end Axon7.LocationApi
