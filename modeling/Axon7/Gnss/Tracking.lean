import Mathlib

/-!
# Time based tracking of the GNSS adapter

One engine serves the tracking sessions of all clients. Every message works out
anew which session the engine ought to run for, the one with the smallest
interval, and starts the engine with its options if that may have changed. The
proxy of the location processor is the default one, which answers false to
every request, so that each goes to the engine; a message carries whether the
engine accepts it.
-/

namespace Axon7.Gnss

open Std (TreeMap)

inductive GnssSuplMode
  | standalone
  | msb
  | msa
deriving DecidableEq

inductive LocPositionMode
  | standalone
  | msBased
  | msAssisted
deriving DecidableEq

/-- A size of zero says that the options have not been set. -/
structure LocationOptions where
  size : ℕ := 0
  minInterval : ℕ := 0
  minDistance : ℕ := 0
  mode : GnssSuplMode := .standalone
deriving DecidableEq

structure LocPosMode where
  mode : LocPositionMode
  sharePosition : Bool
  minInterval : ℕ
deriving DecidableEq

inductive LocationError
  | success
  | generalFailure
  | callbackMissing
  | invalidParameter
deriving DecidableEq

/-- The callbacks of a client that are looked at: whether they are there. -/
structure LocationCallbacks where
  trackingCb : Bool
  gnssMeasurementsCb : Bool

def convertOptions (options : LocationOptions) : LocPosMode where
  mode :=
    match options.mode with
    | .msb => .msBased
    | .msa => .msAssisted
    | .standalone => .standalone
  sharePosition := true
  minInterval := options.minInterval

structure LocationSessionKey (C : Type*) where
  client : C
  id : ℕ

variable {C : Type*} [LinearOrder C]

/-- By id first. -/
instance : LinearOrder (LocationSessionKey C) :=
  LinearOrder.lift' (fun key => toLex (key.id, key.client)) fun a b h => by
    cases a
    cases b
    simpa [and_comm] using h

abbrev LocationSessionMap (C : Type*) [LinearOrder C] :=
  TreeMap (LocationSessionKey C) LocationOptions

/-- The adapter and, under `engine`, what the engine was last started with if
it runs. -/
structure GnssAdapter (C : Type*) [LinearOrder C] where
  mTrackingSessions : LocationSessionMap C
  mClientData : TreeMap C LocationCallbacks
  engine : Option LocPosMode

/-- What a client is told of a request. -/
structure Response (C : Type*) where
  client : C
  err : LocationError
  id : ℕ

/-- One turn of the loop that looks for the smallest interval among the
sessions that count. -/
def smallerOptions (counts : LocationSessionKey C → Bool)
    (smallest : LocationOptions) (key : LocationSessionKey C)
    (options : LocationOptions) : LocationOptions :=
  if counts key ∧
      (smallest.size = 0 ∨ options.minInterval < smallest.minInterval) then
    options
  else smallest

def smallestIntervalOptions (m : LocationSessionMap C)
    (counts : LocationSessionKey C → Bool) : LocationOptions :=
  m.foldl (smallerOptions counts) {}

namespace GnssAdapter

def init : GnssAdapter C := ⟨{}, {}, none⟩

def hasTrackingCallback (a : GnssAdapter C) (client : C) : Bool :=
  match a.mClientData[client]? with
  | some callbacks => callbacks.trackingCb
  | none => false

def hasMeasurementsCallback (a : GnssAdapter C) (client : C) : Bool :=
  match a.mClientData[client]? with
  | some callbacks => callbacks.gnssMeasurementsCb
  | none => false

def isTrackingSession (a : GnssAdapter C) (key : LocationSessionKey C) : Bool :=
  a.mTrackingSessions.contains key

def saveTrackingSession (a : GnssAdapter C) (key : LocationSessionKey C)
    (options : LocationOptions) : GnssAdapter C :=
  { a with mTrackingSessions := a.mTrackingSessions.insert key options }

def eraseTrackingSession (a : GnssAdapter C) (key : LocationSessionKey C) :
    GnssAdapter C :=
  { a with mTrackingSessions := a.mTrackingSessions.erase key }

/-- An engine that refuses stays as it was. -/
def startTracking (a : GnssAdapter C) (ok : Bool) (options : LocationOptions) :
    GnssAdapter C × LocationError :=
  if ok then ({ a with engine := some (convertOptions options) }, .success)
  else (a, .generalFailure)

def stopTracking (a : GnssAdapter C) (ok : Bool) :
    GnssAdapter C × LocationError :=
  if ok then ({ a with engine := none }, .success)
  else (a, .generalFailure)

def startTrackingMultiplex (a : GnssAdapter C) (ok : Bool)
    (options : LocationOptions) : GnssAdapter C × LocationError :=
  if a.mTrackingSessions.isEmpty then a.startTracking ok options
  else
    let smallest := smallestIntervalOptions a.mTrackingSessions fun _ => true
    if options.minInterval < smallest.minInterval then
      a.startTracking ok options
    else (a, .success)

def updateTrackingMultiplex (a : GnssAdapter C) (ok : Bool)
    (key : LocationSessionKey C) (options : LocationOptions) :
    GnssAdapter C × LocationError :=
  if a.mTrackingSessions.size = 1 then a.startTracking ok options
  else
    match a.mTrackingSessions[key]? with
    | none => (a, .success)
    | some old =>
      let smallest :=
        smallestIntervalOptions a.mTrackingSessions fun k => k ≠ key
      if options.minInterval < smallest.minInterval then
        a.startTracking ok options
      else if old.minInterval < smallest.minInterval then
        a.startTracking ok smallest
      else (a, .success)

def stopTrackingMultiplex (a : GnssAdapter C) (ok : Bool)
    (key : LocationSessionKey C) : GnssAdapter C × LocationError :=
  if a.mTrackingSessions.size = 1 then a.stopTracking ok
  else
    match a.mTrackingSessions[key]? with
    | none => (a, .success)
    | some old =>
      let smallest :=
        smallestIntervalOptions a.mTrackingSessions fun k => k ≠ key
      if old.minInterval < smallest.minInterval then
        a.startTracking ok smallest
      else (a, .success)

/-- The session is saved unless the engine refuses. -/
def startSession (a : GnssAdapter C) (ok : Bool) (key : LocationSessionKey C)
    (options : LocationOptions) : GnssAdapter C × LocationError :=
  let (a, err) := a.startTrackingMultiplex ok options
  (if err = .success then a.saveTrackingSession key options else a, err)

/-- The options are saved unless the engine refuses. -/
def updateSession (a : GnssAdapter C) (ok : Bool) (key : LocationSessionKey C)
    (options : LocationOptions) : GnssAdapter C × LocationError :=
  let (a, err) := a.updateTrackingMultiplex ok key options
  (if err = .success then a.saveTrackingSession key options else a, err)

/-- The session goes unless the engine refuses. -/
def stopSession (a : GnssAdapter C) (ok : Bool) (key : LocationSessionKey C) :
    GnssAdapter C × LocationError :=
  let (a, err) := a.stopTrackingMultiplex ok key
  (if err = .success then a.eraseTrackingSession key else a, err)

/-- One turn of the loop that stops the sessions of a client. -/
def stopKey (client : C) (ok : LocationSessionKey C → Bool) (a : GnssAdapter C)
    (key : LocationSessionKey C) : GnssAdapter C :=
  if client = key.client then (a.stopSession (ok key) key).1 else a

/-- The sessions of the client, in the order of the map. -/
def stopClientSessions (a : GnssAdapter C) (client : C)
    (ok : LocationSessionKey C → Bool) : GnssAdapter C :=
  a.mTrackingSessions.keys.foldl (stopKey client ok) a

def restartSessions (a : GnssAdapter C) (ok : Bool) : GnssAdapter C :=
  if a.mTrackingSessions.isEmpty then a
  else
    (a.startTracking ok
      (smallestIntervalOptions a.mTrackingSessions fun _ => true)).1

end GnssAdapter

/-- The messages of the adapter that are about clients and tracking, each with
what the engine answers while it is processed, and the restart of the engine. -/
inductive Msg (C : Type*)
  | addClient (client : C) (callbacks : LocationCallbacks)
  | removeClient (client : C) (ok : LocationSessionKey C → Bool)
  | startTracking (client : C) (id : ℕ) (options : LocationOptions) (ok : Bool)
  | updateTracking (client : C) (id : ℕ) (options : LocationOptions) (ok : Bool)
  | stopTracking (client : C) (id : ℕ) (ok : Bool)
  | engineRestart
  | restartSessions (ok : Bool)

namespace GnssAdapter

def procStartTracking (a : GnssAdapter C) (client : C) (id : ℕ)
    (options : LocationOptions) (ok : Bool) :
    GnssAdapter C × List (Response C) :=
  if !a.hasTrackingCallback client && !a.hasMeasurementsCallback client then
    (a, [⟨client, .callbackMissing, id⟩])
  else if options.size = 0 then (a, [⟨client, .invalidParameter, id⟩])
  else
    let (a, err) := a.startSession ok ⟨client, id⟩ options
    (a, [⟨client, err, id⟩])

/-- Without the session there is no answer. -/
def procUpdateTracking (a : GnssAdapter C) (client : C) (id : ℕ)
    (options : LocationOptions) (ok : Bool) :
    GnssAdapter C × List (Response C) :=
  if a.isTrackingSession ⟨client, id⟩ then
    if options.size = 0 then (a, [⟨client, .invalidParameter, id⟩])
    else
      let (a, err) := a.updateSession ok ⟨client, id⟩ options
      (a, [⟨client, err, id⟩])
  else (a, [])

def procStopTracking (a : GnssAdapter C) (client : C) (id : ℕ) (ok : Bool) :
    GnssAdapter C × List (Response C) :=
  if a.isTrackingSession ⟨client, id⟩ then
    let (a, err) := a.stopSession ok ⟨client, id⟩
    (a, [⟨client, err, id⟩])
  else (a, [])

def proc (a : GnssAdapter C) : Msg C → GnssAdapter C × List (Response C)
  | .addClient client callbacks =>
    ({ a with mClientData := a.mClientData.insert client callbacks }, [])
  | .removeClient client ok =>
    let a := a.stopClientSessions client ok
    ({ a with mClientData := a.mClientData.erase client }, [])
  | .startTracking client id options ok =>
    a.procStartTracking client id options ok
  | .updateTracking client id options ok =>
    a.procUpdateTracking client id options ok
  | .stopTracking client id ok => a.procStopTracking client id ok
  | .engineRestart => ({ a with engine := none }, [])
  | .restartSessions ok => (a.restartSessions ok, [])

/-- The adapter after the messages. -/
def run (msgs : List (Msg C)) : GnssAdapter C :=
  msgs.foldl (fun a msg => (a.proc msg).1) init

theorem run_snoc (msgs : List (Msg C)) (msg : Msg C) :
    run (msgs ++ [msg]) = ((run msgs).proc msg).1 := List.foldl_concat ..

end GnssAdapter

end Axon7.Gnss
