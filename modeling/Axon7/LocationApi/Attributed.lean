import Axon7.LocationApi.Sessions
import Axon7.Lib.Run

/-!
# Responses and requests of sessions

All sessions share one queue of requests, and a response takes the first one out
whichever session it is for. So a response finds the request it answers only if
that is the oldest of all, and its session is still known; and a response that
answers none must find the queue empty or be for a session that is not known.
-/

namespace Axon7.LocationApi

open Lib

namespace Client

/-- A request and the session it was made for. -/
abbrev Pending := ℕ × Request

/-- The request that a call makes, if it makes one. That of a change of mode is
for the session started. -/
def requestOf (c : Client) : Op → Option Pending
  | .startSession id mode _ session =>
    if c.sessionBiDict.hasId id then none
    else some (session, ⟨if mode = .onFix then .startTracking else .startBatching,
      c.created⟩)
  | .stopSession id =>
    let entity := (c.sessionBiDict.getExtById id).1
    if c.sessionBiDict.hasId id then
      some (current entity,
        ⟨if entity.sessionMode = .onFix then .stopTracking else .stopBatching,
          c.created⟩)
    else none
  | .updateSessionOptions id mode _ session =>
    let entity := (c.sessionBiDict.getExtById id).1
    if c.sessionBiDict.hasId id then
      some (if mode = .onFix ↔ entity.sessionMode = .onFix then current entity
        else session,
        ⟨if mode = .onFix then .updateTrackingOptions else .updateBatchingOptions,
          c.created⟩)
    else none
  | .getBatchedLocations id _ =>
    if c.sessionBiDict.hasId id then
      some ((c.sessionBiDict.getExtById id).1.batchingSession,
        ⟨.getBatchedLocations, c.created⟩)
    else none
  | _ => none

/-- The client and the requests that have not been answered, oldest first. A
response answers the oldest one for its session. -/
def stepPending (p : Client × List Pending) (op : Op) : Client × List Pending :=
  (p.1.step op,
    match op with
    | .response _ session => p.2.eraseP fun pending => pending.1 = session
    | _ => p.2 ++ (p.1.requestOf op).toList)

def runPending (ops : List Op) : Client × List Pending :=
  ops.foldl stepPending (new, [])

/-- The requests not answered after the run. -/
def unanswered (ops : List Op) : List Pending := (runPending ops).2

/-- The oldest one for the session. -/
def oldest (session : ℕ) (pending : List Pending) : Option Request :=
  (pending.find? fun p => p.1 = session).map Prod.snd

/-- The calls and the responses of sessions. -/
def Op.isSession : Op → Bool
  | .startSession _ _ _ _ => true
  | .stopSession _ => true
  | .updateSessionOptions _ _ _ _ => true
  | .getBatchedLocations _ _ => true
  | .response _ _ => true
  | _ => false

/-- A response completes the oldest request for its session, and no other. -/
def Attributed (pre : List Op) : Op → Prop
  | .response error session =>
    ((run pre).onResponseCb error session).callbacks =
      (run pre).callbacks ++ ((oldest session (unanswered pre)).map fun request =>
        Callback.response request error).toList
  | _ => True

/-- A response that answers a request answers the oldest of all, and for a
session that is known; one that answers none is for a session that is not, or
there is none to answer. -/
def InTurn (pre : List Op) : Op → Prop
  | .response _ session =>
    if session ∈ (unanswered pre).map Prod.fst then
      (run pre).sessionBiDict.hasSession session = true ∧
        (unanswered pre).head?.map Prod.fst = some session
    else
      (run pre).sessionBiDict.hasSession session = true → unanswered pre = []
  | _ => True

variable {c : Client} {op : Op} {ops : List Op}

theorem runPending_concat (ops : List Op) (op : Op) :
    runPending (ops ++ [op]) = stepPending (runPending ops) op := by
  rw [runPending, List.foldl_append]
  rfl

theorem runPending_fst (ops : List Op) : (runPending ops).1 = run ops := by
  induction ops using List.reverseRecOn with
  | nil => rfl
  | append_singleton ops op ih =>
    rw [runPending_concat, run, List.foldl_append]
    exact congrArg (·.step op) ih

theorem unanswered_response (ops : List Op) (error : LocationError)
    (session : ℕ) : unanswered (ops ++ [.response error session]) =
      (unanswered ops).eraseP fun pending => pending.1 = session := by
  rw [unanswered, runPending_concat]
  rfl

theorem unanswered_call (hop : ∀ error session, op ≠ .response error session) :
    unanswered (ops ++ [op]) =
      unanswered ops ++ ((run ops).requestOf op).toList := by
  rw [unanswered, runPending_concat, ← runPending_fst]
  cases op with
  | response error session => exact absurd rfl (hop error session)
  | _ => rfl

/-! ## What a call does to the queues -/

/-- The request of a call goes to the end of the queue of sessions, and the
other queues are left alone. -/
structure Pushes (c : Client) (request : Option Request) (c' : Client) : Prop where
  session : (c'.requestQueues .session).queue =
    (c.requestQueues .session).queue ++ request.toList
  others : ∀ type, type ≠ .session → c'.requestQueues type = c.requestQueues type
  created : c'.created = c.created + request.toList.length


theorem Pushes.nothing {c' : Client} (hqueues : c'.requestQueues = c.requestQueues)
    (hcreated : c'.created = c.created) : Pushes c none c' where
  session := by rw [hqueues, Option.toList_none, List.append_nil]
  others type _ := by rw [hqueues]
  created := hcreated

theorem Pushes.push {c' : Client} (kind : RequestKind) (session : ℕ)
    (hqueues : c'.requestQueues = Function.update c.requestQueues .session
      ⟨session, (c.requestQueues .session).queue ++ [⟨kind, c.created⟩]⟩)
    (hcreated : c'.created = c.created + 1) :
    Pushes c (some ⟨kind, c.created⟩) c' where
  session := by rw [hqueues, Function.update_self, Option.toList_some]
  others type htype := by rw [hqueues, Function.update_of_ne htype]
  created := hcreated

theorem locAPIStartSession_pushes (id : ℕ) (mode : SessionMode)
    (options : Gnss.LocationOptions) (session : SessionId) (c : Client) :
    Pushes c ((c.requestOf (.startSession id mode options session)).map Prod.snd)
      (c.locAPIStartSession id mode options session).2 := by
  rw [locAPIStartSession, requestOf]
  split
  · exact .nothing rfl rfl
  · dsimp only
    split
    · exact .push .startTracking (c.requestQueues .session).session rfl rfl
    · refine .push .startBatching session ?_ rfl
      simp [Client.push, setSession, setQueue, call, RequestQueue.push]

theorem locAPIStopSession_pushes (id : ℕ) (c : Client) :
    Pushes c ((c.requestOf (.stopSession id)).map Prod.snd)
      (c.locAPIStopSession id).2 := by
  rw [locAPIStopSession, requestOf]
  dsimp only
  split
  · split
    · exact .push .stopTracking (c.requestQueues .session).session rfl rfl
    · exact .push .stopBatching (c.requestQueues .session).session rfl rfl
  · exact .nothing rfl rfl

theorem locAPIUpdateSessionOptions_pushes (id : ℕ) (mode : SessionMode)
    (options : Gnss.LocationOptions) (session : SessionId) (c : Client) :
    Pushes c
      ((c.requestOf (.updateSessionOptions id mode options session)).map Prod.snd)
      (c.locAPIUpdateSessionOptions id mode options session).2 := by
  rw [locAPIUpdateSessionOptions, requestOf]
  dsimp only
  split
  · by_cases hmode : mode = .onFix
    · by_cases hentity : (c.sessionBiDict.getExtById id).1.sessionMode = .onFix
      · simp only [hmode, hentity, if_true]
        exact .push .updateTrackingOptions (c.requestQueues .session).session rfl rfl
      · simp only [hmode, hentity, if_true, if_false]
        refine .push .updateTrackingOptions 0 ?_ rfl
        simp [Client.push, setSession, setQueue, call, RequestQueue.push]
    · by_cases hentity : (c.sessionBiDict.getExtById id).1.sessionMode = .onFix
      · simp only [hmode, hentity, if_true, if_false]
        refine .push .updateBatchingOptions session ?_ rfl
        simp [Client.push, setSession, setQueue, call, RequestQueue.push]
      · simp only [hmode, hentity, if_false]
        exact .push .updateBatchingOptions (c.requestQueues .session).session rfl rfl
  · exact .nothing rfl rfl

theorem locAPIGetBatchedLocations_pushes (id count : ℕ) (c : Client) :
    Pushes c ((c.requestOf (.getBatchedLocations id count)).map Prod.snd)
      (c.locAPIGetBatchedLocations id count).2 := by
  rw [locAPIGetBatchedLocations, requestOf]
  split
  · exact .push .getBatchedLocations (c.requestQueues .session).session rfl rfl
  · exact .nothing rfl rfl

theorem step_pushes (hop : op.isSession = true)
    (hcall : ∀ error session, op ≠ .response error session) (c : Client) :
    Pushes c ((c.requestOf op).map Prod.snd) (c.step op) := by
  cases op with
  | startSession id mode options session =>
    exact locAPIStartSession_pushes id mode options session c
  | stopSession id => exact locAPIStopSession_pushes id c
  | updateSessionOptions id mode options session =>
    exact locAPIUpdateSessionOptions_pushes id mode options session c
  | getBatchedLocations id count =>
    exact locAPIGetBatchedLocations_pushes id count c
  | response error session => exact absurd rfl (hcall error session)
  | _ => exact absurd hop nofun

/-! ## What a response does -/

/-- The classes of requests of sessions. -/
def RequestKind.isSession : RequestKind → Bool
  | .startTracking | .stopTracking | .updateTrackingOptions => true
  | .startBatching | .stopBatching | .updateBatchingOptions => true
  | .getBatchedLocations => true
  | _ => false

/-- Only the queue of sessions has requests, all of sessions. -/
structure SessionsOnly (c : Client) : Prop where
  tracking : (c.requestQueues .tracking).queue = []
  niResponse : (c.requestQueues .niResponse).queue = []
  kinds : ∀ request ∈ (c.requestQueues .session).queue,
    RequestKind.isSession request.kind = true

/-- The request that a response takes out. -/
def taken (c : Client) (session : ℕ) : Option Request :=
  if c.sessionBiDict.hasSession session then
    (c.requestQueues .session).queue.head?
  else none

theorem setQueue_self (type : RequestType) (q : RequestQueue Request)
    (c : Client) :
    (c.setQueue type q).requestQueues type = q := Function.update_self _ _ _

theorem popQueue_empty {type : RequestType}
    (h : (c.requestQueues type).queue = []) : c.popQueue type = (none, c) := by
  have hq : (c.requestQueues type).pop = (none, c.requestQueues type) := by
    rw [RequestQueue.pop, h]
    exact congrArg _ (congrArg _ h.symm)
  rw [popQueue, hq]
  dsimp only
  rw [setQueue, Function.update_eq_self]

theorem SessionsOnly.getRequestBySession (h : c.SessionsOnly) (session : ℕ) :
    c.getRequestBySession session =
      if c.sessionBiDict.hasSession session then c.popQueue .session
      else (none, c) := by
  rw [Client.getRequestBySession, popQueue_empty h.tracking,
    popQueue_empty h.niResponse, ite_self, ite_self]

theorem removeSession_requestQueues (session : ℕ) (c : Client) :
    (c.removeSession session).requestQueues = c.requestQueues ∧
      (c.removeSession session).created = c.created ∧
      (c.removeSession session).callbacks = c.callbacks := by
  rw [removeSession]
  split <;> exact ⟨rfl, rfl, rfl⟩

theorem onResponse_isSession {request : Request}
    (h : RequestKind.isSession request.kind = true) (error : LocationError)
    (session : ℕ) (c : Client) :
    (c.onResponse request error session).requestQueues = c.requestQueues ∧
      (c.onResponse request error session).created = c.created ∧
      (c.onResponse request error session).callbacks =
        c.callbacks ++ [.response request error] := by
  have hremove := removeSession_requestQueues session
  rw [onResponse]
  cases hkind : request.kind with
  | startTracking | startBatching =>
    dsimp only
    split
    · exact ⟨(hremove c).1, (hremove c).2.1,
        congrArg (· ++ _) (hremove c).2.2⟩
    · exact ⟨rfl, rfl, rfl⟩
  | stopTracking | stopBatching =>
    dsimp only
    split
    · exact hremove _
    · exact ⟨rfl, rfl, rfl⟩
  | updateTrackingOptions | updateBatchingOptions | getBatchedLocations =>
    exact ⟨rfl, rfl, rfl⟩
  | _ =>
    rw [hkind] at h
    cases h

theorem SessionsOnly.onResponseCb (h : c.SessionsOnly) (error : LocationError)
    (session : ℕ) :
    ((c.onResponseCb error session).requestQueues .session).queue =
        (if c.sessionBiDict.hasSession session then
          (c.requestQueues .session).queue.tail
        else (c.requestQueues .session).queue) ∧
      (∀ type, type ≠ .session →
        (c.onResponseCb error session).requestQueues type = c.requestQueues type) ∧
      (c.onResponseCb error session).created = c.created ∧
      (c.onResponseCb error session).callbacks = c.callbacks ++
        ((c.taken session).map fun request =>
          Callback.response request error).toList := by
  rw [Client.onResponseCb, h.getRequestBySession, taken]
  by_cases hsession : c.sessionBiDict.hasSession session = true
  · rw [if_pos hsession, if_pos hsession, if_pos hsession]
    have hkinds := h.kinds
    rw [popQueue, RequestQueue.pop]
    dsimp only
    cases hqueue : (c.requestQueues .session).queue with
    | nil =>
      refine ⟨?_, fun type htype => Function.update_of_ne htype _ _, rfl,
        (List.append_nil _).symm⟩
      show ((c.setQueue .session _).requestQueues .session).queue = _
      rw [setQueue_self]
    | cons request rest =>
      rw [hqueue] at hkinds
      obtain ⟨hqueues, hcreated, hcallbacks⟩ := onResponse_isSession
        (hkinds request List.mem_cons_self) error session (c.setQueue .session
          ⟨(c.requestQueues .session).session, rest⟩)
      refine ⟨?_, fun type htype => ?_, hcreated, hcallbacks⟩
      · show ((onResponse request error session (c.setQueue .session
          ⟨(c.requestQueues .session).session, rest⟩)).requestQueues
            .session).queue = rest
        rw [hqueues, setQueue_self]
      · exact (congrFun hqueues type).trans (Function.update_of_ne htype _ _)
  · rw [if_neg hsession, if_neg hsession, if_neg hsession]
    exact ⟨rfl, fun _ _ => rfl, rfl, by simp⟩

/-! ## Runs -/

/-- The queue has the requests not answered, each with a number of its own. -/
structure InStep (ops : List Op) : Prop where
  only : (run ops).SessionsOnly
  queue : ((run ops).requestQueues .session).queue =
    (unanswered ops).map Prod.snd
  serials : ((unanswered ops).map fun p => p.2.serial).Nodup
  created : ∀ p ∈ unanswered ops, p.2.serial < (run ops).created

theorem requestOf_eq_some {pending : Pending}
    (h : c.requestOf op = some pending) :
    pending.2.serial = c.created ∧
      RequestKind.isSession pending.2.kind = true := by
  cases op with
  | startSession id mode options session =>
    rw [requestOf] at h
    split at h
    · exact absurd h nofun
    · obtain rfl := Option.some.inj h
      refine ⟨rfl, ?_⟩
      dsimp only
      split <;> rfl
  | stopSession id =>
    rw [requestOf] at h
    split at h
    · obtain rfl := Option.some.inj h
      refine ⟨rfl, ?_⟩
      split <;> rfl
    · exact absurd h nofun
  | updateSessionOptions id mode options session =>
    rw [requestOf] at h
    split at h
    · obtain rfl := Option.some.inj h
      refine ⟨rfl, ?_⟩
      show RequestKind.isSession (if mode = .onFix then _ else _) = true
      split <;> rfl
    · exact absurd h nofun
  | getBatchedLocations id count =>
    rw [requestOf] at h
    split at h
    · obtain rfl := Option.some.inj h
      exact ⟨rfl, rfl⟩
    · exact absurd h nofun
  | _ => exact absurd h nofun

theorem InStep.call (h : InStep ops) (hop : op.isSession = true)
    (hcall : ∀ error session, op ≠ .response error session) :
    InStep (ops ++ [op]) := by
  have hpushes := step_pushes hop hcall (run ops)
  rw [← run_concat] at hpushes
  have hunanswered := @unanswered_call op ops hcall
  have htracking : (run (ops ++ [op])).requestQueues .tracking = _ :=
    hpushes.others .tracking nofun
  have hni : (run (ops ++ [op])).requestQueues .niResponse = _ :=
    hpushes.others .niResponse nofun
  cases hrequest : (run ops).requestOf op with
  | none =>
    rw [hrequest, Option.toList_none, List.append_nil] at hunanswered
    rw [hrequest] at hpushes
    have hqueue := hpushes.session
    rw [Option.map_none, Option.toList_none, List.append_nil] at hqueue
    have hcreated : (run (ops ++ [op])).created = (run ops).created :=
      hpushes.created
    refine ⟨⟨htracking ▸ h.only.tracking, hni ▸ h.only.niResponse, ?_⟩, ?_, ?_, ?_⟩
    · rw [hqueue]
      exact h.only.kinds
    · rw [hqueue, hunanswered]
      exact h.queue
    · rw [hunanswered]
      exact h.serials
    · rw [hunanswered, hcreated]
      exact h.created
  | some pending =>
    obtain ⟨hserial, hkind⟩ := requestOf_eq_some hrequest
    rw [hrequest, Option.toList_some] at hunanswered
    rw [hrequest] at hpushes
    have hqueue := hpushes.session
    rw [Option.map_some, Option.toList_some] at hqueue
    have hcreated : (run (ops ++ [op])).created = (run ops).created + 1 :=
      hpushes.created
    refine ⟨⟨htracking ▸ h.only.tracking, hni ▸ h.only.niResponse, ?_⟩, ?_, ?_, ?_⟩
    · rw [hqueue]
      intro request hmem
      obtain hmem | hmem := List.mem_append.mp hmem
      · exact h.only.kinds request hmem
      · rw [List.mem_singleton.mp hmem]
        exact hkind
    · rw [hqueue, hunanswered, h.queue, List.map_append]
      rfl
    · rw [hunanswered, List.map_append, List.nodup_append]
      refine ⟨h.serials, by simp, ?_⟩
      intro serial hmem serial' hmem'
      obtain ⟨p, hp, rfl⟩ := List.mem_map.mp hmem
      have hlt := h.created p hp
      rw [List.mem_singleton.mp hmem']
      show p.2.serial ≠ pending.2.serial
      omega
    · rw [hunanswered, hcreated]
      intro p hp
      obtain hp | hp := List.mem_append.mp hp
      · have hlt := h.created p hp
        omega
      · rw [List.mem_singleton.mp hp, hserial]
        omega

theorem InStep.taken (h : InStep ops) (session : ℕ) :
    (run ops).taken session =
      if (run ops).sessionBiDict.hasSession session then
        (unanswered ops).head?.map Prod.snd
      else none := by
  rw [Client.taken, h.queue, List.head?_map]

theorem InStep.eq_of_snd (h : InStep ops) {p p' : Pending}
    (hp : p ∈ unanswered ops) (hp' : p' ∈ unanswered ops) (heq : p.2 = p'.2) :
    p = p' :=
  List.inj_on_of_nodup_map h.serials hp hp' (congrArg Request.serial heq)

theorem InStep.taken_eq_iff (h : InStep ops) (error : LocationError)
    (session : ℕ) : (run ops).taken session = oldest session (unanswered ops) ↔
      InTurn ops (.response error session) := by
  rw [h.taken, InTurn, oldest]
  by_cases hmem : session ∈ (unanswered ops).map Prod.fst
  · rw [if_pos hmem]
    obtain ⟨p, hfind⟩ : ∃ p, (unanswered ops).find? (fun p => p.1 = session) =
        some p := by
      obtain ⟨p, hp, hps⟩ := List.mem_map.mp hmem
      rw [← Option.isSome_iff_exists, List.find?_isSome]
      exact ⟨p, hp, by simpa using hps⟩
    have hp : p ∈ unanswered ops := List.mem_of_find?_eq_some hfind
    have hps : p.1 = session := by simpa using List.find?_some hfind
    rw [hfind, Option.map_some]
    constructor
    · intro htaken
      split at htaken
      · next hsession =>
          obtain ⟨p', hhead, heq⟩ := Option.map_eq_some_iff.mp htaken
          have hp' : p' ∈ unanswered ops := List.mem_of_head? hhead
          rw [h.eq_of_snd hp' hp heq] at hhead
          exact ⟨hsession, by rw [hhead, Option.map_some, hps]⟩
      · exact absurd htaken nofun
    · rintro ⟨hsession, hhead⟩
      rw [if_pos hsession]
      obtain ⟨p', hp', hps'⟩ := Option.map_eq_some_iff.mp hhead
      obtain ⟨rest, hrest⟩ := List.head?_eq_some_iff.mp hp'
      rw [hrest, List.find?_cons_of_pos (by simpa using hps')] at hfind
      rw [hp', ← Option.some.inj hfind]
      rfl
  · rw [if_neg hmem]
    have hfind : (unanswered ops).find? (fun p => p.1 = session) = none := by
      rw [List.find?_eq_none]
      intro p hp hps
      exact hmem (List.mem_map.mpr ⟨p, hp, by simpa using hps⟩)
    rw [hfind, Option.map_none]
    cases hhead : unanswered ops with
    | nil => simp
    | cons p rest => simp

theorem InStep.attributed_iff (h : InStep ops) (op : Op) :
    Attributed ops op ↔ InTurn ops op := by
  cases op with
  | response error session =>
    rw [← h.taken_eq_iff error session, Attributed,
      (h.only.onResponseCb error session).2.2.2, List.append_cancel_left_eq]
    constructor
    · intro heq
      have hhead := congrArg List.head? heq
      rw [Option.head?_toList, Option.head?_toList] at hhead
      refine Option.map_injective (fun r r' hr => ?_) hhead
      injection hr
    · intro heq
      rw [heq]
  | _ => exact Iff.rfl

theorem InStep.response (h : InStep ops) {error : LocationError} {session : ℕ}
    (hright : Attributed ops (.response error session)) :
    InStep (ops ++ [.response error session]) := by
  have hturn := (h.attributed_iff _).mp hright
  obtain ⟨hqueue, hothers, hcreated, -⟩ := h.only.onResponseCb error session
  have hrun : run (ops ++ [.response error session]) =
      (run ops).onResponseCb error session := run_concat ops _
  have hunanswered := unanswered_response ops error session
  -- the queue loses what the list loses
  have hqueue : ((run (ops ++ [.response error session])).requestQueues
      .session).queue =
        (unanswered (ops ++ [.response error session])).map Prod.snd := by
    rw [hrun, hqueue, hunanswered, h.queue]
    rw [InTurn] at hturn
    by_cases hmem : session ∈ (unanswered ops).map Prod.fst
    · rw [if_pos hmem] at hturn
      obtain ⟨hsession, hhead⟩ := hturn
      obtain ⟨p, hp, hps⟩ := Option.map_eq_some_iff.mp hhead
      obtain ⟨rest, hrest⟩ := List.head?_eq_some_iff.mp hp
      rw [if_pos hsession, hrest, List.eraseP_cons_of_pos (by simpa using hps)]
      rfl
    · rw [if_neg hmem] at hturn
      rw [List.eraseP_of_forall_not fun p hp hps =>
        hmem (List.mem_map.mpr ⟨p, hp, by simpa using hps⟩)]
      split
      · next hsession =>
          rw [hturn hsession]
          rfl
      · rfl
  have hsub : (unanswered (ops ++ [.response error session])).Sublist
      (unanswered ops) := by
    rw [hunanswered]
    exact List.eraseP_sublist
  refine ⟨⟨?_, ?_, ?_⟩, hqueue, (hsub.map _).nodup h.serials, ?_⟩
  · rw [hrun, hothers .tracking nofun]
    exact h.only.tracking
  · rw [hrun, hothers .niResponse nofun]
    exact h.only.niResponse
  · rw [hqueue]
    intro request hmem
    have hkinds := h.only.kinds
    rw [h.queue] at hkinds
    exact hkinds request ((hsub.map Prod.snd).subset hmem)
  · intro p hp
    rw [hrun, hcreated]
    exact h.created p (hsub.subset hp)

end Client

end Axon7.LocationApi
