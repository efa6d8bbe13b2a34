import Axon7.LocationApi.Sessions

/-!
# The dictionaries of a client

That of sessions stays sound. That of geofences stays sound as long as no
geofence is added under an id in use, which leaves the session it had behind: a
breach of that is then reported under the id.
-/

namespace Axon7.LocationApi

open Lib

variable {T : Type} {d : BiDict T} {used : List ℕ}

namespace Client

variable {c : Client}

/-! ## The ops on geofences -/

theorem removeGeofence_sound {p : List ℕ × Client}
    (h : p.2.geofenceBiDict.Sound) (id : ℕ) :
    (removeGeofence p id).2.geofenceBiDict.Sound := by
  rw [removeGeofence]
  dsimp only
  split
  · next hpos =>
      rw [BiDict.getSession] at hpos ⊢
      cases hforward : p.2.geofenceBiDict.forwardMap id with
      | none =>
        rw [hforward, Option.getD_none] at hpos
        omega
      | some session =>
        refine h.rmBySession ?_
        rw [Option.getD_some, BiDict.hasSession,
          (h.inverse id session).mp hforward]
        rfl
  · exact h

theorem setGeofence_sound {p : List ℕ × Client}
    (h : p.2.geofenceBiDict.Sound) (fence : ℕ × Option BreachMask) :
    (setGeofence p fence).2.geofenceBiDict.Sound := by
  rw [setGeofence]
  dsimp only
  split
  · next hpos =>
      rw [BiDict.getSession] at hpos ⊢
      cases hforward : p.2.geofenceBiDict.forwardMap fence.1 with
      | none =>
        rw [hforward, Option.getD_none] at hpos
        omega
      | some session =>
        split
        · exact h
        · refine h.set _ (fun session' hs => ?_) fun id' hs => ?_
          · rw [hforward, Option.some.injEq] at hs
            exact hs.symm
          · have hforward' := (h.inverse id' session).mpr hs
            have hback := (h.inverse fence.1 session).mp hforward
            rw [Option.getD_some, hback, Option.some.injEq] at hs
            exact hs.symm
  · exact h

theorem locAPIRemoveGeofences_sound (h : c.geofenceBiDict.Sound)
    (ids : List ℕ) : (c.locAPIRemoveGeofences ids).geofenceBiDict.Sound :=
  locAPIRemoveGeofences_keeps (I := fun c => c.geofenceBiDict.Sound)
    (fun _ id hp => removeGeofence_sound hp id) (fun _ _ _ hc => hc) h ids

theorem changeGeofences_sound (h : c.geofenceBiDict.Sound) (kind : RequestKind)
    (apiCall : List ℕ → ApiCall) (fences : List (ℕ × Option BreachMask)) :
    (c.changeGeofences kind apiCall fences).geofenceBiDict.Sound :=
  changeGeofences_keeps (I := fun c => c.geofenceBiDict.Sound)
    (fun _ fence hp => setGeofence_sound hp fence) (fun _ _ _ hc => hc) h kind
    apiCall fences

/-- What the loop of `locAPIAddGeofences` makes of the dictionary. -/
def setAll (fences : List Fence) (d : BiDict BreachMask) : BiDict BreachMask :=
  fences.foldl (fun dict fence => dict.set fence.id fence.session fence.mask) d

theorem setAll_backwardMap {session : ℕ} (fences : List Fence)
    (d : BiDict BreachMask)
    (h : ∀ fence ∈ fences, fence.session.val ≠ session) :
    (setAll fences d).backwardMap session = d.backwardMap session := by
  induction fences generalizing d with
  | nil => rfl
  | cons fence fences ih =>
    refine (ih _ fun fence' hf => h fence' (List.mem_cons_of_mem _ hf)).trans ?_
    exact Function.update_of_ne (h fence List.mem_cons_self).symm _ _

theorem setAll_forwardMap (id : ℕ) (fences : List Fence)
    (d : BiDict BreachMask) :
    (setAll fences d).forwardMap id = d.forwardMap id ∨
      ∃ fence ∈ fences, (setAll fences d).forwardMap id =
        some fence.session.val := by
  induction fences generalizing d with
  | nil => exact .inl rfl
  | cons fence fences ih =>
    obtain hsame | ⟨fence', hmem, heq⟩ :=
      ih (d.set fence.id fence.session fence.mask)
    · by_cases hid : id = fence.id
      · refine .inr ⟨fence, List.mem_cons_self, hsame.trans ?_⟩
        rw [hid]
        exact Function.update_self _ _ _
      · exact .inl (hsame.trans (Function.update_of_ne hid _ _))
    · exact .inr ⟨fence', List.mem_cons_of_mem _ hmem, heq⟩

theorem setAll_sound_iff {d : BiDict BreachMask} (h : d.Sound)
    (fences : List Fence)
    (hfresh : (fences.map fun fence => fence.session.val).Nodup)
    (hnew : ∀ fence ∈ fences, d.backwardMap fence.session = none) :
    (setAll fences d).Sound ↔ (fences.map Fence.id).Nodup ∧
      ∀ fence ∈ fences, d.hasId fence.id = false := by
  induction fences generalizing d with
  | nil => simpa [setAll] using h
  | cons fence fences ih =>
    rw [List.map_cons, List.nodup_cons] at hfresh
    obtain ⟨hne, hfresh⟩ := hfresh
    have hne : ∀ fence' ∈ fences, fence'.session.val ≠ fence.session.val :=
      fun fence' hf heq => hne (heq ▸ List.mem_map_of_mem hf)
    cases hforward : d.forwardMap fence.id with
    | some session =>
      -- the session there is left behind
      have hback := (h.inverse fence.id session).mp hforward
      have hother : ∀ fence' ∈ fence :: fences,
          fence'.session.val ≠ session := by
        intro fence' hf heq
        have hnone := hnew fence' hf
        rw [heq, hback] at hnone
        cases hnone
      have hkept := (setAll_backwardMap _ d hother).trans hback
      have hhas : d.hasId fence.id = true := by
        rw [BiDict.hasId, hforward]
        rfl
      refine ⟨fun hsound => ?_, fun hids => ?_⟩
      · have hnow : ∃ fence' ∈ fence :: fences,
            (setAll (fence :: fences) d).forwardMap fence.id =
              some fence'.session.val := by
          obtain hsame | ⟨fence', hf, heq⟩ := setAll_forwardMap fence.id fences
            (d.set fence.id fence.session fence.mask)
          · refine ⟨fence, List.mem_cons_self, hsame.trans ?_⟩
            exact Function.update_self _ _ _
          · exact ⟨fence', List.mem_cons_of_mem _ hf, heq⟩
        obtain ⟨fence', hf, heq⟩ := hnow
        exact absurd hsound
          (BiDict.not_sound_of_left (hother fence' hf).symm heq hkept)
      · have hfalse := hids.2 fence List.mem_cons_self
        rw [hhas] at hfalse
        cases hfalse
    | none =>
      have hset : (d.set fence.id fence.session fence.mask).Sound := by
        refine h.set _ (fun session hs => ?_) fun id hs => ?_
        · exact absurd (hforward.symm.trans hs) (by rintro ⟨⟩)
        · exact absurd ((hnew fence List.mem_cons_self).symm.trans hs) (by rintro ⟨⟩)
      have hstep := ih hset hfresh fun fence' hf =>
        (Function.update_of_ne (hne fence' hf) _ _).trans
          (hnew fence' (List.mem_cons_of_mem _ hf))
      have hid : d.hasId fence.id = false := by
        rw [BiDict.hasId, hforward]
        rfl
      have hhas : ∀ id, (d.set fence.id fence.session fence.mask).hasId id =
          false ↔ id ≠ fence.id ∧ d.hasId id = false := by
        intro id
        show (Function.update d.forwardMap fence.id _ id).isSome = false ↔ _
        by_cases heq : id = fence.id
        · simp [heq]
        · simp [heq, BiDict.hasId]
      refine hstep.trans ?_
      simp only [hhas, List.map_cons, List.nodup_cons, List.mem_map,
        List.mem_cons, forall_eq_or_imp]
      constructor
      · rintro ⟨hnodup, hall⟩
        exact ⟨⟨fun ⟨fence', hf, heq⟩ => (hall fence' hf).1 heq, hnodup⟩, hid,
          fun fence' hf => (hall fence' hf).2⟩
      · rintro ⟨⟨hnotMem, hnodup⟩, -, hall⟩
        exact ⟨hnodup, fun fence' hf =>
          ⟨fun heq => hnotMem ⟨fence', hf, heq⟩, hall fence' hf⟩⟩

/-! ## What an op leaves alone -/

theorem locAPIAddGeofences_geofenceBiDict (fences : List Fence) (accepted : Bool)
    (c : Client) : (c.locAPIAddGeofences fences accepted).2.geofenceBiDict =
      if accepted then setAll fences c.geofenceBiDict else c.geofenceBiDict := by
  rw [locAPIAddGeofences]
  dsimp only
  cases accepted with
  | true =>
    rw [if_pos rfl, if_pos rfl]
    split <;> rfl
  | false =>
    rw [if_neg Bool.false_ne_true, if_neg Bool.false_ne_true]
    split <;> rfl

theorem locAPIAddGeofences_sessionBiDict (fences : List Fence) (accepted : Bool)
    (c : Client) : (c.locAPIAddGeofences fences accepted).2.sessionBiDict =
      c.sessionBiDict := by
  rw [locAPIAddGeofences]
  dsimp only
  split <;> split <;> rfl

theorem locAPIRemoveGeofences_sessionBiDict (ids : List ℕ) (c : Client) :
    (c.locAPIRemoveGeofences ids).sessionBiDict = c.sessionBiDict := by
  refine locAPIRemoveGeofences_keeps (I := fun c' => c'.sessionBiDict =
    c.sessionBiDict) (fun p id hp => ?_) (fun _ _ _ hc => hc) rfl ids
  rw [removeGeofence]
  dsimp only
  split <;> exact hp

theorem changeGeofences_sessionBiDict (kind : RequestKind)
    (apiCall : List ℕ → ApiCall) (fences : List (ℕ × Option BreachMask))
    (c : Client) :
    (c.changeGeofences kind apiCall fences).sessionBiDict = c.sessionBiDict := by
  refine changeGeofences_keeps (I := fun c' => c'.sessionBiDict = c.sessionBiDict)
    (fun p fence hp => ?_) (fun _ _ _ hc => hc) rfl kind apiCall fences
  rw [setGeofence]
  dsimp only
  split
  · split <;> exact hp
  · exact hp

theorem onResponseCb_geofenceBiDict (error : LocationError) (session : ℕ)
    (c : Client) :
    (c.onResponseCb error session).geofenceBiDict = c.geofenceBiDict := by
  refine onResponseCb_keeps (I := fun c' => c'.geofenceBiDict = c.geofenceBiDict)
    (fun _ _ hc => hc) (fun c' session hc => ?_) (fun _ _ hc => hc) rfl error session
  rw [removeSession]
  split <;> exact hc

theorem beforeBatchingStatusCb_geofenceBiDict (completed : Bool)
    (tripCompleted : List ℕ) (c : Client) :
    (c.beforeBatchingStatusCb completed tripCompleted).geofenceBiDict =
      c.geofenceBiDict := by
  refine beforeBatchingStatusCb_keeps (I := fun c' => c'.geofenceBiDict =
    c.geofenceBiDict) (fun p session hp => ?_) (fun _ _ hc => hc) rfl completed
    tripCompleted
  rw [completeTrip]
  split
  · dsimp only
    split <;> exact hp
  · exact hp

theorem onCollectiveResponseCb_sameDicts (responses : List (LocationError × ℕ))
    (c : Client) : SameDicts c (c.onCollectiveResponseCb responses) :=
  onCollectiveResponseCb_keeps (I := SameDicts c)
    (fun _ _ hc => ⟨hc.geofences, hc.sessions⟩)
    (fun _ _ hc => ⟨hc.geofences, hc.sessions⟩) ⟨rfl, rfl⟩ responses

/-- The op is about geofences. -/
def Op.isGeofence : Op → Bool
  | .addGeofences _ _ => true
  | .removeGeofences _ => true
  | .modifyGeofences _ => true
  | .pauseGeofences _ => true
  | .resumeGeofences _ _ => true
  | _ => false

theorem locAPIStartTracking_sameDicts (options : Gnss.LocationOptions)
    (session : SessionId) (c : Client) :
    SameDicts c (c.locAPIStartTracking options session) := by
  rw [locAPIStartTracking]
  split <;> exact ⟨rfl, rfl⟩

theorem locAPIStopTracking_sameDicts (c : Client) :
    SameDicts c c.locAPIStopTracking := by
  rw [locAPIStopTracking]
  split <;> exact ⟨rfl, rfl⟩

theorem locAPIUpdateTrackingOptions_sameDicts (options : Gnss.LocationOptions)
    (c : Client) : SameDicts c (c.locAPIUpdateTrackingOptions options) := by
  rw [locAPIUpdateTrackingOptions]
  split <;> exact ⟨rfl, rfl⟩

theorem locAPIStartSession_geofenceBiDict (id : ℕ) (mode : SessionMode)
    (options : Gnss.LocationOptions) (session : SessionId) (c : Client) :
    (c.locAPIStartSession id mode options session).2.geofenceBiDict =
      c.geofenceBiDict := by
  rw [locAPIStartSession]
  split
  · rfl
  · dsimp only
    split <;> rfl

theorem locAPIStopSession_geofenceBiDict (id : ℕ) (c : Client) :
    (c.locAPIStopSession id).2.geofenceBiDict = c.geofenceBiDict := by
  rw [locAPIStopSession]
  split
  · dsimp only
    split <;> rfl
  · rfl

theorem locAPIUpdateSessionOptions_geofenceBiDict (id : ℕ) (mode : SessionMode)
    (options : Gnss.LocationOptions) (session : SessionId) (c : Client) :
    (c.locAPIUpdateSessionOptions id mode options session).2.geofenceBiDict =
      c.geofenceBiDict := by
  rw [locAPIUpdateSessionOptions]
  split
  · dsimp only
    split
    · split <;> rfl
    · split <;> rfl
  · rfl

theorem locAPIGetBatchedLocations_geofenceBiDict (id count : ℕ) (c : Client) :
    (c.locAPIGetBatchedLocations id count).2.geofenceBiDict =
      c.geofenceBiDict := by
  rw [locAPIGetBatchedLocations]
  split <;> rfl

theorem step_geofenceBiDict {op : Op} (h : op.isGeofence = false) (c : Client) :
    (c.step op).geofenceBiDict = c.geofenceBiDict := by
  cases op with
  | startTracking options session =>
    exact (locAPIStartTracking_sameDicts options session c).geofences
  | stopTracking => exact (locAPIStopTracking_sameDicts c).geofences
  | updateTrackingOptions options =>
    exact (locAPIUpdateTrackingOptions_sameDicts options c).geofences
  | startSession id mode options session =>
    exact locAPIStartSession_geofenceBiDict id mode options session c
  | stopSession id => exact locAPIStopSession_geofenceBiDict id c
  | updateSessionOptions id mode options session =>
    exact locAPIUpdateSessionOptions_geofenceBiDict id mode options session c
  | getBatchedLocations id count =>
    exact locAPIGetBatchedLocations_geofenceBiDict id count c
  | addGeofences fences accepted => exact absurd h nofun
  | removeGeofences ids => exact absurd h nofun
  | modifyGeofences fences => exact absurd h nofun
  | pauseGeofences ids => exact absurd h nofun
  | resumeGeofences fences withMask => exact absurd h nofun
  | gnssNiResponse id => rfl
  | response error session => exact onResponseCb_geofenceBiDict error session c
  | collectiveResponse responses =>
    exact (onCollectiveResponseCb_sameDicts responses c).geofences
  | geofenceBreach type sessions => rfl
  | batchingStatus completed tripCompleted =>
    exact beforeBatchingStatusCb_geofenceBiDict completed tripCompleted c

/-! ## Runs -/

/-- The sessions that the location API gives. -/
def Op.sessions : Op → List ℕ
  | .startTracking _ session => [session]
  | .startSession _ _ _ session => [session]
  | .updateSessionOptions _ _ _ session => [session]
  | .addGeofences fences _ => fences.map fun fence => fence.session.val
  | _ => []

/-- The sessions given in a run. -/
def sessionsOf (ops : List Op) : List ℕ := ops.flatMap Op.sessions

/-- Each is given once. -/
def Fresh (ops : List Op) : Prop := (sessionsOf ops).Nodup

theorem sessionsOf_concat (ops : List Op) (op : Op) :
    sessionsOf (ops ++ [op]) = sessionsOf ops ++ op.sessions := by
  rw [sessionsOf, List.flatMap_append, List.flatMap_singleton]
  rfl

theorem Fresh.concat {ops : List Op} {op : Op} (h : Fresh (ops ++ [op])) :
    Fresh ops ∧ op.sessions.Nodup ∧
      ∀ session ∈ op.sessions, session ∉ sessionsOf ops := by
  rw [Fresh, sessionsOf_concat, List.nodup_append] at h
  exact ⟨h.1, h.2.1, fun session hs hused => h.2.2 session hused session hs rfl⟩

theorem Fresh.of_prefix {ops pre : List Op} (h : Fresh ops) (hpre : pre <+: ops) :
    Fresh pre := by
  obtain ⟨rest, rfl⟩ := hpre
  rw [Fresh, sessionsOf, List.flatMap_append] at h
  exact (List.nodup_append.mp h).1

theorem sessions_step {op : Op} (h : Sessions used c.sessionBiDict)
    (hfresh : ∀ session ∈ op.sessions, session ∉ used) :
    Sessions (used ++ op.sessions) (c.step op).sessionBiDict := by
  cases op with
  | startTracking options session =>
    rw [step, (locAPIStartTracking_sameDicts options session c).sessions]
    exact h.mono _
  | stopTracking =>
    rw [step, (locAPIStopTracking_sameDicts c).sessions]
    exact h.mono _
  | updateTrackingOptions options =>
    rw [step, (locAPIUpdateTrackingOptions_sameDicts options c).sessions]
    exact h.mono _
  | startSession id mode options session =>
    exact h.locAPIStartSession id mode options
      (hfresh _ (List.mem_singleton_self _))
  | stopSession id =>
    rw [step, locAPIStopSession_sessionBiDict]
    exact h.mono _
  | updateSessionOptions id mode options session =>
    exact h.locAPIUpdateSessionOptions id mode options
      (hfresh _ (List.mem_singleton_self _))
  | getBatchedLocations id count =>
    rw [step, locAPIGetBatchedLocations_sessionBiDict]
    exact h.mono _
  | addGeofences fences accepted =>
    rw [step, locAPIAddGeofences_sessionBiDict]
    exact h.mono _
  | removeGeofences ids =>
    rw [step, locAPIRemoveGeofences_sessionBiDict]
    exact h.mono _
  | modifyGeofences fences =>
    rw [step, locAPIModifyGeofences, changeGeofences_sessionBiDict]
    exact h.mono _
  | pauseGeofences ids =>
    rw [step, locAPIPauseGeofences, changeGeofences_sessionBiDict]
    exact h.mono _
  | resumeGeofences fences withMask =>
    rw [step, locAPIResumeGeofences, changeGeofences_sessionBiDict]
    exact h.mono _
  | gnssNiResponse id => exact h.mono _
  | response error session => exact (h.onResponseCb error session).mono _
  | collectiveResponse responses =>
    rw [step, (onCollectiveResponseCb_sameDicts responses c).sessions]
    exact h.mono _
  | geofenceBreach type sessions => exact h.mono _
  | batchingStatus completed tripCompleted =>
    exact (h.beforeBatchingStatusCb completed tripCompleted).mono _

theorem run_sessions {ops : List Op} (h : Fresh ops) :
    Sessions (sessionsOf ops) (run ops).sessionBiDict := by
  induction ops using List.reverseRecOn with
  | nil =>
    exact ⟨BiDict.empty_sound, ⟨fun _ _ => nofun, fun _ => nofun⟩, fun _ => nofun,
      fun _ _ => nofun⟩
  | append_singleton ops op ih =>
    obtain ⟨hops, -, hfresh⟩ := h.concat
    rw [run_concat, sessionsOf_concat]
    exact sessions_step (ih hops) hfresh

theorem known_setAll (fences : List Fence) {d : BiDict BreachMask}
    (h : d.Known used)
    (hused : ∀ fence ∈ fences, fence.session.val ∈ used) :
    (setAll fences d).Known used :=
  foldl_invariant (BiDict.Known used) (fun fence : Fence => fence.session.val ∈ used)
    (fun _ _ hd hs => hd.set _ hs) h fences hused

theorem known_changeGeofences (h : c.geofenceBiDict.Known used)
    (kind : RequestKind) (apiCall : List ℕ → ApiCall)
    (fences : List (ℕ × Option BreachMask)) :
    (c.changeGeofences kind apiCall fences).geofenceBiDict.Known used := by
  refine changeGeofences_keeps (I := fun c => c.geofenceBiDict.Known used)
    (fun p fence hp => ?_) (fun _ _ _ hc => hc) h kind apiCall fences
  rw [setGeofence]
  dsimp only
  split
  · next hpos =>
      split
      · exact hp
      · refine hp.set _ ?_
        rw [BiDict.getSession] at hpos ⊢
        cases hforward : p.2.geofenceBiDict.forwardMap fence.1 with
        | none =>
          rw [hforward, Option.getD_none] at hpos
          omega
        | some session => exact hp.forward fence.1 session hforward
  · exact hp

theorem known_locAPIRemoveGeofences (h : c.geofenceBiDict.Known used)
    (ids : List ℕ) : (c.locAPIRemoveGeofences ids).geofenceBiDict.Known used := by
  refine locAPIRemoveGeofences_keeps (I := fun c => c.geofenceBiDict.Known used)
    (fun p id hp => ?_) (fun _ _ _ hc => hc) h ids
  rw [removeGeofence]
  dsimp only
  split
  · exact hp.erase _ _
  · exact hp

theorem run_known (ops : List Op) :
    (run ops).geofenceBiDict.Known (sessionsOf ops) := by
  induction ops using List.reverseRecOn with
  | nil => exact ⟨fun _ _ => nofun, fun _ => nofun⟩
  | append_singleton ops op ih =>
    rw [run_concat, sessionsOf_concat]
    cases hop : op.isGeofence with
    | false =>
      rw [step_geofenceBiDict hop]
      exact ih.mono
    | true =>
      cases op with
      | addGeofences fences accepted =>
        rw [step, locAPIAddGeofences_geofenceBiDict]
        split
        · exact known_setAll fences ih.mono fun fence hf =>
            List.mem_append_right _ (List.mem_map_of_mem hf)
        · exact ih.mono
      | removeGeofences ids =>
        exact (known_locAPIRemoveGeofences ih ids).mono
      | modifyGeofences fences => exact (known_changeGeofences ih _ _ _).mono
      | pauseGeofences ids => exact (known_changeGeofences ih _ _ _).mono
      | resumeGeofences fences withMask =>
        exact (known_changeGeofences ih _ _ _).mono
      | _ => exact absurd hop nofun

/-- Both dictionaries are bijections, and a breach of a session that no id has
names no id. -/
structure Bijective (c : Client) : Prop where
  geofences : c.geofenceBiDict.Sound
  sessions : c.sessionBiDict.Sound
  geofenceIds : c.geofenceBiDict.Inverts
  sessionIds : c.sessionBiDict.Inverts
  breach : ∀ type sessions, (∀ session ∈ sessions, ∀ id,
    c.geofenceBiDict.forwardMap id ≠ some session) → c.breachIds type sessions = []

theorem bijective_iff : Bijective c ↔
    c.geofenceBiDict.Sound ∧ c.sessionBiDict.Sound := by
  refine ⟨fun h => ⟨h.geofences, h.sessions⟩, fun ⟨hg, hs⟩ =>
    ⟨hg, hs, hg.inverts, hs.inverts, fun type sessions hgone => ?_⟩⟩
  rw [breachIds, List.map_eq_nil_iff, List.filter_eq_nil_iff]
  intro session hmem
  have hback : c.geofenceBiDict.backwardMap session = none := by
    cases hback : c.geofenceBiDict.backwardMap session with
    | none => rfl
    | some id =>
      exact absurd ((hg.inverse id session).mpr hback) (hgone session hmem id)
  have hext : c.geofenceBiDict.extMap session = none := by
    rw [← Option.not_isSome_iff_eq_none, hg.ext, hback]
    exact Bool.false_ne_true
  rw [BiDict.getExtBySession, hext]
  cases type <;> decide

/-- No geofence is added under an id in use, or under an id twice. -/
def AddsNew (c : Client) : Op → Prop
  | .addGeofences fences true => (fences.map Fence.id).Nodup ∧
      ∀ fence ∈ fences, c.geofenceBiDict.hasId fence.id = false
  | _ => True

theorem bijective_concat_iff {ops : List Op} {op : Op}
    (hfresh : Fresh (ops ++ [op])) (h : Bijective (run ops)) :
    Bijective (run (ops ++ [op])) ↔ AddsNew (run ops) op := by
  have hsessions : (run (ops ++ [op])).sessionBiDict.Sound :=
    (run_sessions hfresh).sound
  obtain ⟨-, hnodup, hnew⟩ := hfresh.concat
  rw [bijective_iff, and_iff_left hsessions, run_concat]
  have hsound := h.geofences
  cases hop : op.isGeofence with
  | false =>
    rw [step_geofenceBiDict hop]
    refine iff_of_true hsound ?_
    cases op with
    | addGeofences fences accepted => exact absurd hop nofun
    | _ => trivial
  | true =>
    cases op with
    | addGeofences fences accepted =>
      rw [step, locAPIAddGeofences_geofenceBiDict]
      cases accepted with
      | true =>
        rw [if_pos rfl]
        exact setAll_sound_iff hsound fences hnodup fun fence hf =>
          (run_known ops).backwardMap_of_notMem
            (hnew _ (List.mem_map_of_mem hf))
      | false =>
        rw [if_neg Bool.false_ne_true]
        exact iff_of_true hsound trivial
    | removeGeofences ids =>
      exact iff_of_true (locAPIRemoveGeofences_sound hsound ids) trivial
    | modifyGeofences fences =>
      exact iff_of_true (changeGeofences_sound hsound _ _ _) trivial
    | pauseGeofences ids =>
      exact iff_of_true (changeGeofences_sound hsound _ _ _) trivial
    | resumeGeofences fences withMask =>
      exact iff_of_true (changeGeofences_sound hsound _ _ _) trivial
    | _ => exact absurd hop nofun

/-- The dictionaries are bijections all along a run, iff no geofence is added
under an id in use. -/
theorem run_bijective_iff (ops : List Op) (hfresh : Fresh ops) :
    (∀ pre, pre <+: ops → Bijective (run pre)) ↔
      ∀ pre op, pre ++ [op] <+: ops → AddsNew (run pre) op :=
  forall_prefix_iff (bijective_iff.mpr ⟨BiDict.empty_sound, BiDict.empty_sound⟩)
    fun _ _ hpre h => bijective_concat_iff (hfresh.of_prefix hpre) h

/-- A geofence is added under an id. -/
def addFence (id session : ℕ) (h : session ≠ 0) : Op :=
  .addGeofences [⟨id, 1, ⟨session, h⟩⟩] true

theorem removedFirst_bijective : Bijective (run [addFence 1 10 (by decide),
    .removeGeofences [1], addFence 1 12 (by decide)]) := by
  refine (run_bijective_iff _ (show List.Nodup _ by decide)).mpr ?_ _
    List.prefix_rfl
  rintro pre op ⟨rest, hops⟩
  match pre, hops with
  | [], hops =>
    obtain ⟨rfl, -⟩ := List.cons.inj hops
    exact ⟨by decide, by decide⟩
  | [_], hops =>
    obtain ⟨-, hops⟩ := List.cons.inj hops
    obtain ⟨rfl, -⟩ := List.cons.inj hops
    exact trivial
  | [_, _], hops =>
    obtain ⟨hfirst, hops⟩ := List.cons.inj hops
    obtain ⟨hsecond, hops⟩ := List.cons.inj hops
    obtain ⟨rfl, -⟩ := List.cons.inj hops
    rw [hfirst, hsecond]
    exact ⟨by decide, by decide⟩
  | _ :: _ :: _ :: pre, hops => simp at hops

/-- An id is used again while it is in use: a breach of the session it had is
reported under it. -/
theorem replaced_not_bijective :
    let calls : List Op := [addFence 1 10 (by decide), addFence 1 11 (by decide)]
    ¬ Bijective (run calls) ∧ (run calls).breachIds .enter [10] = [1] ∧
      (run calls).geofenceBiDict.getSession 1 = 11 := by
  refine ⟨fun h => ?_, by decide, by decide⟩
  have hkeeps := h.geofenceIds.getSession_getId 10 (by decide)
  exact absurd hkeeps (by decide)

end Client

end Axon7.LocationApi
