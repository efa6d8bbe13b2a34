import Axon7.Lib.CloseGap
import Axon7.LocationApi.Bijection

/-!
# Batches of geofences

A batch names geofences by the ids of the client, some of which may be unknown.
The sessions of the known ones are compacted and handed to the location API. A
pause and a resume need nothing else. A change comes with options, in an array
that is not compacted with the sessions: a geofence after an unknown one gets
the options of another place, unless these are its own.
-/

namespace Axon7.LocationApi

open Lib

/-- `GeofenceOption`. -/
structure GeofenceOption where
  size : ℕ
  breachTypeMask : BreachMask
  responsiveness : ℕ
  dwellTime : ℕ
deriving DecidableEq

namespace Client

variable {c : Client}

/-! ## The queue of geofences

It is opened by the first geofences added and stays open; before, there are no
geofences. -/

/-- The queue of geofences is open. -/
def Opened (c : Client) : Prop :=
  (c.requestQueues .geofence).session = geofenceSessionId

instance (c : Client) : Decidable (Opened c) :=
  inferInstanceAs (Decidable ((c.requestQueues .geofence).session = _))

theorem Opened.setQueue (h : Opened c) (type : RequestType)
    (htype : type ≠ .geofence) (q : RequestQueue Request) :
    Opened (c.setQueue type q) := by
  show (Function.update c.requestQueues type q .geofence).session = _
  rw [Function.update_of_ne htype.symm]
  exact h

theorem Opened.push (h : Opened c) (type : RequestType) (kind : RequestKind) :
    Opened (c.push type kind) := by
  by_cases htype : type = .geofence
  · subst htype
    show (Function.update c.requestQueues .geofence _ .geofence).session = _
    rw [Function.update_self]
    exact h
  · exact h.setQueue _ htype _

theorem Opened.popQueue (h : Opened c) (type : RequestType) :
    Opened (c.popQueue type).2 := by
  by_cases htype : type = .geofence
  · subst htype
    show (Function.update c.requestQueues .geofence _ .geofence).session = _
    rw [Function.update_self]
    exact h
  · exact h.setQueue _ htype _

theorem Opened.removeSession (h : Opened c) (session : ℕ) :
    Opened (c.removeSession session) := by
  rw [Client.removeSession]
  split <;> exact h

theorem Opened.locAPIStartTracking (h : Opened c) (options : Gnss.LocationOptions)
    (session : SessionId) : Opened (c.locAPIStartTracking options session) := by
  rw [Client.locAPIStartTracking]
  split
  · exact h
  · have hreset := (show Opened (c.call (.startTracking options)) from h).setQueue
      .tracking (by decide) (.reset session)
    exact hreset.push .tracking .startTracking

theorem Opened.locAPIStopTracking (h : Opened c) : Opened c.locAPIStopTracking := by
  rw [Client.locAPIStopTracking]
  split
  · exact h.push .tracking .stopTracking
  · exact h

theorem Opened.locAPIUpdateTrackingOptions (h : Opened c)
    (options : Gnss.LocationOptions) :
    Opened (c.locAPIUpdateTrackingOptions options) := by
  rw [Client.locAPIUpdateTrackingOptions]
  split
  · exact h.push .tracking .updateTrackingOptions
  · exact h

theorem Opened.setSession (h : Opened c) (type : RequestType)
    (htype : type ≠ .geofence) (session : ℕ) : Opened (c.setSession type session) :=
  h.setQueue _ htype _

theorem Opened.locAPIStartSession (h : Opened c) (id : ℕ) (mode : SessionMode)
    (options : Gnss.LocationOptions) (session : SessionId) :
    Opened (c.locAPIStartSession id mode options session).2 := by
  rw [Client.locAPIStartSession]
  split
  · exact h
  · dsimp only
    split
    · exact h.push .session .startTracking
    · have hset := h.setSession .session (by decide) session
      exact hset.push .session .startBatching

theorem Opened.locAPIStopSession (h : Opened c) (id : ℕ) :
    Opened (c.locAPIStopSession id).2 := by
  rw [Client.locAPIStopSession]
  split
  · dsimp only
    split
    · exact h.push .session .stopTracking
    · exact h.push .session .stopBatching
  · exact h

theorem Opened.locAPIUpdateSessionOptions (h : Opened c) (id : ℕ)
    (mode : SessionMode) (options : Gnss.LocationOptions) (session : SessionId) :
    Opened (c.locAPIUpdateSessionOptions id mode options session).2 := by
  have htracking := h.push .session .updateTrackingOptions
  have hbatching := h.push .session .updateBatchingOptions
  rw [Client.locAPIUpdateSessionOptions]
  split
  · dsimp only
    split
    · split
      · exact htracking
      · exact htracking.setSession .session (by decide) 0
    · split
      · exact hbatching.setSession .session (by decide) session
      · exact hbatching
  · exact h

theorem Opened.locAPIGetBatchedLocations (h : Opened c) (id count : ℕ) :
    Opened (c.locAPIGetBatchedLocations id count).2 := by
  rw [Client.locAPIGetBatchedLocations]
  split
  · exact h.push .session .getBatchedLocations
  · exact h

theorem opened_locAPIAddGeofences (fences : List Fence) (accepted : Bool)
    (c : Client) : Opened (c.locAPIAddGeofences fences accepted).2 := by
  have hopen : Opened (if (c.requestQueues .geofence).session ≠ geofenceSessionId
      then c.setQueue .geofence (.reset geofenceSessionId) else c) := by
    split
    · show (Function.update c.requestQueues .geofence _ .geofence).session = _
      rw [Function.update_self]
      rfl
    · next hsame => exact not_not.mp hsame
  rw [locAPIAddGeofences]
  dsimp only
  cases accepted with
  | false => exact hopen
  | true => exact hopen.push .geofence .addGeofences

theorem Opened.removeGeofence {p : List ℕ × Client} (h : Opened p.2) (id : ℕ) :
    Opened (removeGeofence p id).2 := by
  rw [Client.removeGeofence]
  dsimp only
  split <;> exact h

theorem Opened.setGeofence {p : List ℕ × Client} (h : Opened p.2)
    (fence : ℕ × Option BreachMask) : Opened (setGeofence p fence).2 := by
  rw [Client.setGeofence]
  dsimp only
  split
  · split <;> exact h
  · exact h

theorem Opened.changeGeofences (h : Opened c) (kind : RequestKind)
    (apiCall : List ℕ → ApiCall) (fences : List (ℕ × Option BreachMask)) :
    Opened (c.changeGeofences kind apiCall fences) :=
  changeGeofences_keeps (fun _ fence hp => hp.setGeofence fence)
    (fun _ kind _ hc => hc.push .geofence kind) h kind apiCall fences

theorem Opened.step (h : Opened c) (op : Op) : Opened (c.step op) := by
  cases op with
  | startTracking options session => exact h.locAPIStartTracking options session
  | stopTracking => exact h.locAPIStopTracking
  | updateTrackingOptions options => exact h.locAPIUpdateTrackingOptions options
  | startSession id mode options session =>
    exact h.locAPIStartSession id mode options session
  | stopSession id => exact h.locAPIStopSession id
  | updateSessionOptions id mode options session =>
    exact h.locAPIUpdateSessionOptions id mode options session
  | getBatchedLocations id count => exact h.locAPIGetBatchedLocations id count
  | addGeofences fences accepted => exact opened_locAPIAddGeofences fences accepted c
  | removeGeofences ids =>
    exact locAPIRemoveGeofences_keeps (fun _ id hp => hp.removeGeofence id)
      (fun _ kind _ hc => hc.push .geofence kind) h ids
  | modifyGeofences fences => exact h.changeGeofences _ _ _
  | pauseGeofences ids => exact h.changeGeofences _ _ _
  | resumeGeofences fences withMask => exact h.changeGeofences _ _ _
  | gnssNiResponse id =>
    have hreset := (show Opened (c.call (.gnssNiResponse id)) from h).setQueue
      .niResponse (by decide) (.reset id)
    exact hreset.push .niResponse .gnssNiResponse
  | response error session =>
    exact onResponseCb_keeps (fun _ type hc => hc.popQueue type)
      (fun _ session hc => hc.removeSession session) (fun _ _ hc => hc) h error
      session
  | collectiveResponse responses =>
    exact onCollectiveResponseCb_keeps (fun _ type hc => hc.popQueue type)
      (fun _ _ hc => hc) h responses
  | geofenceBreach type sessions => exact h
  | batchingStatus completed tripCompleted =>
    refine beforeBatchingStatusCb_keeps (I := Opened) (fun p session hp => ?_)
      (fun _ _ hc => hc) h completed tripCompleted
    rw [completeTrip]
    split
    · dsimp only
      split <;> exact hp
    · exact hp

theorem changeGeofences_of_not_opened (h : ¬ Opened c) (kind : RequestKind)
    (apiCall : List ℕ → ApiCall) (fences : List (ℕ × Option BreachMask)) :
    c.changeGeofences kind apiCall fences = c := by
  exact if_neg h

theorem locAPIRemoveGeofences_of_not_opened (h : ¬ Opened c) (ids : List ℕ) :
    c.locAPIRemoveGeofences ids = c := by
  exact if_neg h

theorem run_opened (ops : List Op) :
    Opened (run ops) ∨ (run ops).geofenceBiDict = .empty := by
  induction ops using List.reverseRecOn with
  | nil => exact .inr rfl
  | append_singleton ops op ih =>
    rw [run_concat]
    by_cases hopen : Opened (run ops)
    · exact .inl (hopen.step op)
    · have hempty := ih.resolve_left hopen
      cases hop : op.isGeofence with
      | false =>
        rw [step_geofenceBiDict hop]
        exact .inr hempty
      | true =>
        cases op with
        | addGeofences fences accepted =>
          exact .inl (opened_locAPIAddGeofences fences accepted _)
        | removeGeofences ids =>
          rw [step, locAPIRemoveGeofences_of_not_opened hopen]
          exact .inr hempty
        | modifyGeofences fences =>
          rw [step, locAPIModifyGeofences, changeGeofences_of_not_opened hopen]
          exact .inr hempty
        | pauseGeofences ids =>
          rw [step, locAPIPauseGeofences, changeGeofences_of_not_opened hopen]
          exact .inr hempty
        | resumeGeofences fences withMask =>
          rw [step, locAPIResumeGeofences, changeGeofences_of_not_opened hopen]
          exact .inr hempty
        | _ => cases hop

theorem ne_zero_of_mem_sessionsOf {ops : List Op} {session : ℕ}
    (h : session ∈ sessionsOf ops) : session ≠ 0 := by
  obtain ⟨op, -, hs⟩ := List.mem_flatMap.mp h
  cases op with
  | startTracking options given =>
    rw [List.mem_singleton.mp hs]
    exact given.2
  | startSession id mode options given =>
    rw [List.mem_singleton.mp hs]
    exact given.2
  | updateSessionOptions id mode options given =>
    rw [List.mem_singleton.mp hs]
    exact given.2
  | addGeofences fences accepted =>
    obtain ⟨fence, -, rfl⟩ := List.mem_map.mp hs
    exact fence.session.2
  | _ => exact absurd hs List.not_mem_nil

end Client

namespace BiDict

variable {T : Type} {d d' : BiDict T} {id session : ℕ}

/-- An id has a session, and it is not 0. -/
def Positive (d : BiDict T) : Prop :=
  ∀ id session, d.forwardMap id = some session → 0 < session

theorem Positive.getSession_iff (h : d.Positive) (id : ℕ) :
    d.getSession id > 0 ↔ d.hasId id = true := by
  rw [getSession, hasId]
  cases hid : d.forwardMap id with
  | none => simp
  | some session => simpa using h id session hid

theorem forwardMap_of_hasId (h : d.hasId id = true) :
    d.forwardMap id = some (d.getSession id) := by
  obtain ⟨session, hsession⟩ := Option.isSome_iff_exists.mp h
  rw [getSession, hsession, Option.getD_some]

/-- Values are recorded for the sessions that the ids have, the last one for
each. -/
structure Recorded (d d' : BiDict T) (values : List (ℕ × T)) : Prop where
  forward : d'.forwardMap = d.forwardMap
  backward : ∀ session, d'.backwardMap session =
    ((values.filter fun v => d.forwardMap v.1 = some session).getLast?.map
      Prod.fst).or (d.backwardMap session)
  ext : ∀ session, d'.extMap session =
    ((values.filter fun v => d.forwardMap v.1 = some session).getLast?.map
      Prod.snd).or (d.extMap session)

variable {values : List (ℕ × T)}

theorem Recorded.nil (d : BiDict T) : Recorded d d [] :=
  ⟨rfl, fun _ => rfl, fun _ => rfl⟩

theorem Recorded.eq_of_nil (h : Recorded d d' []) : d' = d := by
  have hbackward : d'.backwardMap = d.backwardMap := funext h.backward
  have hext : d'.extMap = d.extMap := funext h.ext
  have hforward := h.forward
  cases d
  cases d'
  simp_all

theorem Recorded.set (h : Recorded d d' values) (hid : d.forwardMap id = some session)
    (value : T) : Recorded d (d'.set id session value) (values ++ [(id, value)]) where
  forward := by
    show Function.update d'.forwardMap id (some session) = _
    rw [h.forward, ← hid, Function.update_eq_self]
  backward session' := by
    show Function.update d'.backwardMap session (some id) session' = _
    rw [List.filter_append]
    by_cases hsession : session' = session
    · simp [hsession, hid]
    · rw [Function.update_of_ne hsession, h.backward]
      simp [hid, Ne.symm hsession]
  ext session' := by
    show Function.update d'.extMap session (some value) session' = _
    rw [List.filter_append]
    by_cases hsession : session' = session
    · simp [hsession, hid]
    · rw [Function.update_of_ne hsession, h.ext]
      simp [hid, Ne.symm hsession]

theorem Recorded.skip (h : Recorded d d' values) (hid : d.forwardMap id = none)
    (value : T) : Recorded d d' (values ++ [(id, value)]) where
  forward := h.forward
  backward session := by
    rw [List.filter_append, h.backward]
    simp [hid]
  ext session := by
    rw [List.filter_append, h.ext]
    simp [hid]

end BiDict

namespace Client

variable {c : Client}

/-! ## The loop of a batch -/

/-- The geofences of a batch that are known. -/
def knownOf {T : Type} (c : Client) (fences : List (ℕ × T)) : List (ℕ × T) :=
  fences.filter fun fence => c.geofenceBiDict.hasId fence.1

/-- The session of a geofence of a batch. -/
def sessionOf {T : Type} (c : Client) (fence : ℕ × T) : ℕ :=
  c.geofenceBiDict.getSession fence.1

/-- The masks of a batch, with the ids. -/
def masksOf (fences : List (ℕ × Option BreachMask)) : List (ℕ × BreachMask) :=
  fences.filterMap fun fence => fence.2.map fun mask => (fence.1, mask)

theorem masksOf_concat (fences : List (ℕ × Option BreachMask)) (id : ℕ)
    (mask : Option BreachMask) :
    masksOf (fences ++ [(id, mask)]) =
      masksOf fences ++ (mask.map fun mask => (id, mask)).toList := by
  rw [masksOf, List.filterMap_append]
  cases mask <;> rfl

/-- The turns over a batch: the sessions of the known ids, in order, and their
masks recorded. -/
structure Turned (c : Client) (fences : List (ℕ × Option BreachMask))
    (p : List ℕ × Client) : Prop where
  sessions : p.1 = (c.knownOf fences).map c.sessionOf
  only : p.2 = { c with geofenceBiDict := p.2.geofenceBiDict }
  recorded : c.geofenceBiDict.Recorded p.2.geofenceBiDict (masksOf fences)

theorem Turned.turn (hpos : c.geofenceBiDict.Positive)
    {fences : List (ℕ × Option BreachMask)} {p : List ℕ × Client}
    (h : Turned c fences p) (fence : ℕ × Option BreachMask) :
    Turned c (fences ++ [fence]) (setGeofence p fence) := by
  obtain ⟨id, mask⟩ := fence
  have hsame : p.2.geofenceBiDict.getSession id = c.geofenceBiDict.getSession id := by
    rw [BiDict.getSession, h.recorded.forward, BiDict.getSession]
  rw [setGeofence]
  dsimp only
  rw [hsame]
  by_cases hid : c.geofenceBiDict.hasId id = true
  · have hforward := BiDict.forwardMap_of_hasId hid
    have hknown : c.knownOf (fences ++ [(id, mask)]) =
        c.knownOf fences ++ [(id, mask)] := by
      simp [knownOf, hid]
    rw [if_pos ((hpos.getSession_iff id).mpr hid)]
    refine ⟨?_, ?_, ?_⟩
    · rw [hknown, List.map_append, ← h.sessions]
      rfl
    · rw [h.only]
      cases mask <;> rfl
    · rw [masksOf_concat]
      cases mask with
      | none => simpa using h.recorded
      | some mask => exact h.recorded.set hforward mask
  · have hforward : c.geofenceBiDict.forwardMap id = none :=
      Option.not_isSome_iff_eq_none.mp hid
    have hknown : c.knownOf (fences ++ [(id, mask)]) = c.knownOf fences := by
      simp [knownOf, hid]
    rw [if_neg (mt (hpos.getSession_iff id).mp hid)]
    refine ⟨?_, h.only, ?_⟩
    · rw [hknown, h.sessions]
    · rw [masksOf_concat]
      cases mask with
      | none => simpa using h.recorded
      | some mask => exact h.recorded.skip hforward mask

theorem turned_foldl (hpos : c.geofenceBiDict.Positive)
    (fences : List (ℕ × Option BreachMask)) :
    Turned c fences (fences.foldl setGeofence ([], c)) := by
  induction fences using List.reverseRecOn with
  | nil => exact ⟨rfl, rfl, BiDict.Recorded.nil _⟩
  | append_singleton fences fence ih =>
    rw [List.foldl_append]
    exact ih.turn hpos fence

theorem foldl_knownOf (hpos : c.geofenceBiDict.Positive)
    (fences : List (ℕ × Option BreachMask)) :
    (c.knownOf fences).foldl setGeofence ([], c) =
      fences.foldl setGeofence ([], c) := by
  induction fences using List.reverseRecOn with
  | nil => rfl
  | append_singleton fences fence ih =>
    by_cases hid : c.geofenceBiDict.hasId fence.1 = true
    · have hknown : c.knownOf (fences ++ [fence]) = c.knownOf fences ++ [fence] := by
        simp [knownOf, hid]
      rw [hknown, List.foldl_append, ih, ← List.foldl_append]
    · have hknown : c.knownOf (fences ++ [fence]) = c.knownOf fences := by
        simp [knownOf, hid]
      have hforward := (turned_foldl hpos fences).recorded.forward
      have hskip : setGeofence (fences.foldl setGeofence ([], c)) fence =
          fences.foldl setGeofence ([], c) := by
        rw [setGeofence]
        dsimp only
        rw [BiDict.getSession, hforward]
        exact if_neg (mt (hpos.getSession_iff fence.1).mp hid)
      rw [hknown, ih, List.foldl_append, List.foldl_cons, List.foldl_nil, hskip]

/-! ## The batches -/

/-- `locAPIModifyGeofences`, with the options whole: the sessions and the options
that the location API is given, if it is called. -/
def modifyGeofences (fences : List (ℕ × GeofenceOption)) (c : Client) :
    Client × Option (List ℕ × List GeofenceOption) :=
  if (c.requestQueues .geofence).session = geofenceSessionId then
    let (sessions, c) := (fences.map fun fence =>
      (fence.1, some fence.2.breachTypeMask)).foldl setGeofence ([], c)
    if sessions ≠ [] then
      (c.push .geofence .modifyGeofences, some (sessions, fences.map Prod.snd))
    else (c, none)
  else (c, none)

theorem locAPIModifyGeofences_eq (fences : List (ℕ × GeofenceOption)) (c : Client) :
    c.locAPIModifyGeofences (fences.map fun fence =>
        (fence.1, fence.2.breachTypeMask)) =
      match c.modifyGeofences fences with
      | (c', none) => c'
      | (c', some (sessions, options)) =>
        c'.call (.modifyGeofences sessions
          (options.map GeofenceOption.breachTypeMask)) := by
  rw [locAPIModifyGeofences, changeGeofences, modifyGeofences]
  split
  · simp only [List.map_map, Function.comp_def]
    split
    · simp only [List.map_map, Function.comp_def]
    · rfl
  · rfl

/-- What the location API reads: an option for each session. -/
def pairsRead : Option (List ℕ × List GeofenceOption) → List (ℕ × GeofenceOption)
  | none => []
  | some (sessions, options) => sessions.zip options

/-- A call for sessions, if there are any. -/
def callFor (apiCall : List ℕ → ApiCall) (sessions : List ℕ) : List ApiCall :=
  if sessions ≠ [] then [apiCall sessions] else []

/-- A batch changes the options of the known ids to their own. -/
structure Modifies (c : Client) (fences : List (ℕ × GeofenceOption)) : Prop where
  passed : pairsRead (c.modifyGeofences fences).2 =
    (c.knownOf fences).map fun fence => (c.sessionOf fence, fence.2)
  recorded : c.geofenceBiDict.Recorded (c.modifyGeofences fences).1.geofenceBiDict
    (fences.map fun fence => (fence.1, fence.2.breachTypeMask))
  unknown : (c.modifyGeofences fences).1 = (c.modifyGeofences (c.knownOf fences)).1

/-- A batch pauses the known ids. -/
structure Pauses (c : Client) (ids : List ℕ) : Prop where
  passed : (c.locAPIPauseGeofences ids).calls = c.calls ++
    callFor .pauseGeofences
      ((ids.filter c.geofenceBiDict.hasId).map c.geofenceBiDict.getSession)
  recorded : (c.locAPIPauseGeofences ids).geofenceBiDict = c.geofenceBiDict
  unknown : c.locAPIPauseGeofences ids =
    c.locAPIPauseGeofences (ids.filter c.geofenceBiDict.hasId)

/-- A batch resumes the known ids, with masks or without. -/
structure Resumes (c : Client) (fences : List (ℕ × BreachMask)) (withMask : Bool) :
    Prop where
  passed : (c.locAPIResumeGeofences fences withMask).calls = c.calls ++
    callFor .resumeGeofences ((c.knownOf fences).map c.sessionOf)
  recorded : c.geofenceBiDict.Recorded
    (c.locAPIResumeGeofences fences withMask).geofenceBiDict
    (if withMask then fences else [])
  unknown : c.locAPIResumeGeofences fences withMask =
    c.locAPIResumeGeofences (c.knownOf fences) withMask

/-- The client is ready for batches: its sessions are not 0, and while its queue
is not open it has none. -/
structure Ready (c : Client) : Prop where
  opened : Opened c ∨ c.geofenceBiDict = .empty
  positive : c.geofenceBiDict.Positive

theorem run_ready (ops : List Op) : Ready (run ops) :=
  ⟨run_opened ops, fun id session h => Nat.pos_of_ne_zero
    (ne_zero_of_mem_sessionsOf ((run_known ops).forward id session h))⟩

theorem knownOf_of_empty {T : Type} (h : c.geofenceBiDict = .empty)
    (fences : List (ℕ × T)) : c.knownOf fences = [] := by
  rw [knownOf, List.filter_eq_nil_iff, h]
  exact fun _ _ => Bool.false_ne_true

theorem recorded_of_empty (h : c.geofenceBiDict = .empty)
    (values : List (ℕ × BreachMask)) :
    c.geofenceBiDict.Recorded c.geofenceBiDict values := by
  have hnone : ∀ session, (values.filter fun v =>
      c.geofenceBiDict.forwardMap v.1 = some session) = [] := by
    intro session
    rw [List.filter_eq_nil_iff, h]
    exact fun v _ heq => absurd (of_decide_eq_true heq) nofun
  refine ⟨rfl, fun session => ?_, fun session => ?_⟩
  · rw [hnone]
    rfl
  · rw [hnone]
    rfl

theorem changeGeofences_opened (h : Opened c) (kind : RequestKind)
    (apiCall : List ℕ → ApiCall) (fences : List (ℕ × Option BreachMask)) :
    c.changeGeofences kind apiCall fences =
      if (fences.foldl setGeofence ([], c)).1 ≠ [] then
        ((fences.foldl setGeofence ([], c)).2.push .geofence kind).call
          (apiCall (fences.foldl setGeofence ([], c)).1)
      else (fences.foldl setGeofence ([], c)).2 :=
  if_pos h

theorem Ready.calls (h : Ready c) (kind : RequestKind) (apiCall : List ℕ → ApiCall)
    (fences : List (ℕ × Option BreachMask)) :
    (c.changeGeofences kind apiCall fences).calls =
      c.calls ++ callFor apiCall ((c.knownOf fences).map c.sessionOf) := by
  by_cases hopen : Opened c
  · obtain ⟨hsessions, honly, -⟩ := turned_foldl h.positive fences
    have hcalls : (fences.foldl setGeofence ([], c)).2.calls = c.calls := by
      rw [honly]
    rw [changeGeofences_opened hopen, ← hsessions, callFor]
    split
    · show (fences.foldl setGeofence ([], c)).2.calls ++ _ = _
      rw [hcalls]
    · rw [hcalls, List.append_nil]
  · rw [changeGeofences_of_not_opened hopen,
      knownOf_of_empty (h.opened.resolve_left hopen)]
    exact (List.append_nil _).symm

theorem Ready.recorded (h : Ready c) (kind : RequestKind)
    (apiCall : List ℕ → ApiCall) (fences : List (ℕ × Option BreachMask)) :
    c.geofenceBiDict.Recorded
      (c.changeGeofences kind apiCall fences).geofenceBiDict (masksOf fences) := by
  by_cases hopen : Opened c
  · have hrecorded := (turned_foldl h.positive fences).recorded
    rw [changeGeofences_opened hopen]
    split <;> exact hrecorded
  · rw [changeGeofences_of_not_opened hopen]
    exact recorded_of_empty (h.opened.resolve_left hopen) _

theorem Ready.unknown (h : Ready c) (kind : RequestKind)
    (apiCall : List ℕ → ApiCall) (fences : List (ℕ × Option BreachMask)) :
    c.changeGeofences kind apiCall fences =
      c.changeGeofences kind apiCall (c.knownOf fences) := by
  rw [changeGeofences, changeGeofences, foldl_knownOf h.positive]

theorem knownOf_map {A T : Type} (f : A → ℕ × T) (as : List A) :
    c.knownOf (as.map f) =
      (as.filter fun a => c.geofenceBiDict.hasId (f a).1).map f := by
  rw [knownOf, List.filter_map]
  rfl

theorem Ready.pauses (h : Ready c) (ids : List ℕ) : Pauses c ids where
  passed := by
    have hcalls := h.calls .pauseGeofences .pauseGeofences (ids.map fun id => (id, none))
    rw [knownOf_map, List.map_map] at hcalls
    exact hcalls
  recorded := by
    have hrecorded := h.recorded .pauseGeofences .pauseGeofences
      (ids.map fun id => (id, none))
    have hnil : masksOf (ids.map fun id => (id, none)) = [] := by
      simp [masksOf]
    rw [hnil] at hrecorded
    exact hrecorded.eq_of_nil
  unknown := by
    have hunknown := h.unknown .pauseGeofences .pauseGeofences
      (ids.map fun id => (id, none))
    rw [knownOf_map] at hunknown
    exact hunknown

theorem Ready.resumes (h : Ready c) (fences : List (ℕ × BreachMask))
    (withMask : Bool) : Resumes c fences withMask where
  passed := by
    have hcalls := h.calls .resumeGeofences .resumeGeofences (fences.map fun fence =>
      (fence.1, if withMask then some fence.2 else none))
    rw [knownOf_map, List.map_map] at hcalls
    exact hcalls
  recorded := by
    have hrecorded := h.recorded .resumeGeofences .resumeGeofences
      (fences.map fun fence => (fence.1, if withMask then some fence.2 else none))
    have hmasks : masksOf (fences.map fun fence =>
        (fence.1, if withMask then some fence.2 else none)) =
          if withMask then fences else [] := by
      cases withMask <;> simp [masksOf, List.filterMap_map]
    rw [hmasks] at hrecorded
    exact hrecorded
  unknown := by
    have hunknown := h.unknown .resumeGeofences .resumeGeofences (fences.map
      fun fence => (fence.1, if withMask then some fence.2 else none))
    rw [knownOf_map] at hunknown
    exact hunknown

theorem modifyGeofences_opened (h : Opened c) (fences : List (ℕ × GeofenceOption)) :
    c.modifyGeofences fences =
      let p := (fences.map fun fence =>
        (fence.1, some fence.2.breachTypeMask)).foldl setGeofence ([], c)
      if p.1 ≠ [] then
        (p.2.push .geofence .modifyGeofences, some (p.1, fences.map Prod.snd))
      else (p.2, none) :=
  if_pos h

theorem modifyGeofences_of_not_opened (h : ¬ Opened c)
    (fences : List (ℕ × GeofenceOption)) : c.modifyGeofences fences = (c, none) :=
  if_neg h

theorem Ready.pairsRead_eq (h : Ready c) (fences : List (ℕ × GeofenceOption)) :
    pairsRead (c.modifyGeofences fences).2 =
      ((c.knownOf fences).map c.sessionOf).zip (fences.map Prod.snd) := by
  by_cases hopen : Opened c
  · have hsessions := (turned_foldl h.positive (fences.map fun fence =>
      (fence.1, some fence.2.breachTypeMask))).sessions
    rw [knownOf_map, List.map_map] at hsessions
    rw [modifyGeofences_opened hopen]
    dsimp only
    split
    · show List.zip _ _ = _
      rw [hsessions]
      rfl
    · next hnil =>
        rw [not_not, hsessions] at hnil
        rw [show (c.knownOf fences).map c.sessionOf = [] from hnil]
        rfl
  · rw [modifyGeofences_of_not_opened hopen,
      knownOf_of_empty (h.opened.resolve_left hopen)]
    rfl

theorem Ready.modifyRecorded (h : Ready c) (fences : List (ℕ × GeofenceOption)) :
    c.geofenceBiDict.Recorded (c.modifyGeofences fences).1.geofenceBiDict
      (fences.map fun fence => (fence.1, fence.2.breachTypeMask)) := by
  by_cases hopen : Opened c
  · have hrecorded := (turned_foldl h.positive (fences.map fun fence =>
      (fence.1, some fence.2.breachTypeMask))).recorded
    have hmasks : masksOf (fences.map fun fence =>
        (fence.1, some fence.2.breachTypeMask)) =
          fences.map fun fence => (fence.1, fence.2.breachTypeMask) := by
      simp [masksOf, List.filterMap_map]
    rw [hmasks] at hrecorded
    rw [modifyGeofences_opened hopen]
    dsimp only
    split <;> exact hrecorded
  · rw [modifyGeofences_of_not_opened hopen]
    exact recorded_of_empty (h.opened.resolve_left hopen) _

theorem Ready.modifyUnknown (h : Ready c) (fences : List (ℕ × GeofenceOption)) :
    (c.modifyGeofences fences).1 = (c.modifyGeofences (c.knownOf fences)).1 := by
  by_cases hopen : Opened c
  · have hturns := foldl_knownOf h.positive (fences.map fun fence =>
      (fence.1, some fence.2.breachTypeMask))
    rw [knownOf_map] at hturns
    rw [modifyGeofences_opened hopen, modifyGeofences_opened hopen]
    dsimp only
    rw [knownOf, hturns]
    split <;> rfl
  · rw [modifyGeofences_of_not_opened hopen, modifyGeofences_of_not_opened hopen]

/-- Each known id has the options that stand at the place which is its own once
the unknown ids before it are left out. -/
def OptionsInPlace (c : Client) (fences : List (ℕ × GeofenceOption)) : Prop :=
  ∀ i fence, fences[i]? = some fence → c.geofenceBiDict.hasId fence.1 = true →
    (fences.map Prod.snd)[(fences.take i).countP fun fence =>
      c.geofenceBiDict.hasId fence.1]? = some fence.2

theorem Ready.modifies_iff (h : Ready c) (fences : List (ℕ × GeofenceOption)) :
    Modifies c fences ↔ OptionsInPlace c fences := by
  have hpassed : pairsRead (c.modifyGeofences fences).2 =
      (c.knownOf fences).map (fun fence => (c.sessionOf fence, fence.2)) ↔
        OptionsInPlace c fences := by
    rw [h.pairsRead_eq, zip_map_eq_map_iff, knownOf, map_filter_prefix_iff]
    exact Iff.rfl
  refine ⟨fun hmodifies => hpassed.mp hmodifies.passed, fun hplace => ?_⟩
  exact ⟨hpassed.mpr hplace, h.modifyRecorded fences, h.modifyUnknown fences⟩

/-- Pauses and resumes apply to the right geofences in every run, changes iff the
options stand where the location API reads them. -/
theorem batches_apply_iff (ops : List Op) (fences : List (ℕ × GeofenceOption))
    (ids : List ℕ) (resumed : List (ℕ × BreachMask)) (withMask : Bool) :
    (Modifies (run ops) fences ∧ Pauses (run ops) ids ∧
      Resumes (run ops) resumed withMask) ↔ OptionsInPlace (run ops) fences := by
  have hready := run_ready ops
  rw [hready.modifies_iff,
    and_iff_left ⟨hready.pauses ids, hready.resumes resumed withMask⟩]

/-- After an id that is unknown the geofence gets the options of that. -/
theorem unknownFirst_not_modifies :
    ¬ Modifies (run [addFence 1 10 (by decide)])
      [(2, ⟨16, 1, 100, 0⟩), (1, ⟨16, 2, 200, 5⟩)] := by
  intro h
  have hpassed := h.passed
  exact absurd hpassed (by decide)

end Client

end Axon7.LocationApi
