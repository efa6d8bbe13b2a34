import Axon7.LocationApi.Client
import Axon7.Lib.Run

/-!
# The dictionary of sessions

Sessions are fresh, so the dictionary of sessions stays sound: an id gets a
session only when it has none, and an update takes the old one out first.
-/

namespace Axon7.LocationApi

open Lib

variable {T : Type} {d : BiDict T} {used : List ℕ}

namespace BiDict

/-- The two directions invert each other. -/
structure Inverts (d : BiDict T) : Prop where
  getId_getSession : ∀ id, d.hasId id = true → d.getId (d.getSession id) = id
  getSession_getId : ∀ session, d.hasSession session = true →
    d.getSession (d.getId session) = session

theorem Sound.inverts (h : d.Sound) : d.Inverts :=
  ⟨fun _ => h.getId_getSession, fun _ => h.getSession_getId⟩

/-- All sessions are among those used. -/
structure Known (used : List ℕ) (d : BiDict T) : Prop where
  forward : ∀ id session, d.forwardMap id = some session → session ∈ used
  backward : ∀ session, d.hasSession session = true → session ∈ used

theorem Known.mono {more : List ℕ} (h : d.Known used) : d.Known (used ++ more) :=
  ⟨fun id session hs => List.mem_append_left _ (h.forward id session hs),
    fun session hs => List.mem_append_left _ (h.backward session hs)⟩

theorem Known.set (h : d.Known used) {id session : ℕ} (ext : T)
    (hsession : session ∈ used) : (d.set id session ext).Known used where
  forward id' session' hs := by
    change Function.update d.forwardMap id (some session) id' = _ at hs
    by_cases hid' : id' = id
    · rw [hid', Function.update_self, Option.some.injEq] at hs
      exact hs ▸ hsession
    · rw [Function.update_of_ne hid'] at hs
      exact h.forward id' session' hs
  backward session' hs := by
    by_cases hsession' : session' = session
    · exact hsession' ▸ hsession
    · change (Function.update d.backwardMap session (some id) session').isSome =
        true at hs
      rw [Function.update_of_ne hsession'] at hs
      exact h.backward session' hs

theorem Known.erase (h : d.Known used) (id session : ℕ) :
    (d.erase id session).Known used where
  forward id' session' hs := by
    change Function.update d.forwardMap id none id' = _ at hs
    by_cases hid' : id' = id
    · rw [hid', Function.update_self] at hs
      cases hs
    · rw [Function.update_of_ne hid'] at hs
      exact h.forward id' session' hs
  backward session' hs := by
    change (Function.update d.backwardMap session none session').isSome = true at hs
    by_cases hsession' : session' = session
    · rw [hsession', Function.update_self] at hs
      cases hs
    · rw [Function.update_of_ne hsession'] at hs
      exact h.backward session' hs

theorem Known.backwardMap_of_notMem (h : d.Known used) {session : ℕ}
    (hsession : session ∉ used) : d.backwardMap session = none := by
  cases hback : d.backwardMap session with
  | none => rfl
  | some id =>
    exact absurd (h.backward session (by rw [hasSession, hback]; rfl)) hsession

end BiDict

namespace Client

variable {c : Client}

/-! ## What leaves the dictionaries alone -/

/-- The dictionaries are those of the client before. -/
structure SameDicts (c c' : Client) : Prop where
  geofences : c'.geofenceBiDict = c.geofenceBiDict
  sessions : c'.sessionBiDict = c.sessionBiDict

/-! ## Sessions -/

/-- The session that an entity stands for. -/
def current (entity : SessionEntity) : ℕ :=
  if entity.sessionMode ≠ .onFix then entity.batchingSession
  else entity.trackingSession

/-- The dictionary of sessions: each session there is one used, and not 0, and
its entity stands for it. -/
structure Sessions (used : List ℕ) (d : BiDict SessionEntity) : Prop where
  sound : d.Sound
  known : d.Known used
  nonzero : ∀ session, d.hasSession session = true → session ≠ 0
  entity : ∀ session entity, d.extMap session = some entity →
    current entity = session

variable {s : BiDict SessionEntity}

theorem Sessions.mono (h : Sessions used s) (more : List ℕ) :
    Sessions (used ++ more) s :=
  ⟨h.sound, h.known.mono, h.nonzero, h.entity⟩

theorem Sessions.erase (h : Sessions used s) {id session : ℕ}
    (hforward : s.forwardMap id = some session) :
    Sessions used (s.erase id session) where
  sound := h.sound.erase hforward
  known := h.known.erase id session
  nonzero session' hs := by
    change (Function.update s.backwardMap session none session').isSome = true at hs
    by_cases hsession' : session' = session
    · rw [hsession', Function.update_self] at hs
      exact absurd hs nofun
    · rw [Function.update_of_ne hsession'] at hs
      exact h.nonzero session' hs
  entity session' entity hs := by
    change Function.update s.extMap session none session' = _ at hs
    by_cases hsession' : session' = session
    · rw [hsession', Function.update_self] at hs
      exact absurd hs nofun
    · rw [Function.update_of_ne hsession'] at hs
      exact h.entity session' entity hs

theorem Sessions.rmById (h : Sessions used s) {id : ℕ}
    (hid : s.hasId id = true) : Sessions used (s.rmById id) := by
  obtain ⟨session, hsession⟩ := Option.isSome_iff_exists.mp hid
  rw [BiDict.rmById, hsession]
  exact h.erase hsession

theorem Sessions.rmBySession (h : Sessions used s) {session : ℕ}
    (hsession : s.hasSession session = true) :
    Sessions used (s.rmBySession session) := by
  obtain ⟨id, hid⟩ := Option.isSome_iff_exists.mp hsession
  rw [BiDict.rmBySession, hid]
  exact h.erase ((h.sound.inverse id session).mpr hid)

theorem Sessions.set (h : Sessions used s) {id session : ℕ}
    {entity : SessionEntity} (hid : s.forwardMap id = none)
    (hsession : s.backwardMap session = none) (hused : session ∈ used)
    (hzero : session ≠ 0) (hentity : current entity = session) :
    Sessions used (s.set id session entity) where
  sound := h.sound.set entity (fun _ hs => absurd (hid.symm.trans hs) (by rintro ⟨⟩))
    fun _ hs => absurd (hsession.symm.trans hs) (by rintro ⟨⟩)
  known := h.known.set entity hused
  nonzero session' hs := by
    by_cases hsession' : session' = session
    · exact hsession' ▸ hzero
    · change (Function.update s.backwardMap session (some id) session').isSome =
        true at hs
      rw [Function.update_of_ne hsession'] at hs
      exact h.nonzero session' hs
  entity session' entity' hs := by
    change Function.update s.extMap session (some entity) session' = _ at hs
    by_cases hsession' : session' = session
    · rw [hsession', Function.update_self, Option.some.injEq] at hs
      rw [hsession', ← hs, hentity]
    · rw [Function.update_of_ne hsession'] at hs
      exact h.entity session' entity' hs

theorem Sessions.getExtById (h : Sessions used s) {id session : ℕ}
    (hforward : s.forwardMap id = some session) :
    current (s.getExtById id).1 = session := by
  have hback : s.hasSession session = true := by
    rw [BiDict.hasSession, (h.sound.inverse id session).mp hforward]
    rfl
  have hpos : session > 0 := Nat.pos_of_ne_zero (h.nonzero session hback)
  obtain ⟨entity, hentity⟩ := Option.isSome_iff_exists.mp
    ((h.sound.ext session).trans hback)
  rw [BiDict.getExtById, hforward, Option.getD_some]
  dsimp only
  rw [if_pos hpos, hentity, Option.getD_some]
  exact h.entity session entity hentity

theorem Sessions.locAPIStartSession (h : Sessions used c.sessionBiDict)
    (id : ℕ) (mode : SessionMode) (options : Gnss.LocationOptions)
    {session : SessionId} (hfresh : session.val ∉ used) :
    Sessions (used ++ [session.val])
      (c.locAPIStartSession id mode options session).2.sessionBiDict := by
  rw [Client.locAPIStartSession]
  split
  · exact h.mono _
  · next hid =>
      rw [Bool.not_eq_true] at hid
      have hnone : c.sessionBiDict.forwardMap id = none :=
        Option.not_isSome_iff_eq_none.mp (Bool.not_eq_true _ ▸ hid)
      have hback := h.known.backwardMap_of_notMem hfresh
      have hused : session.val ∈ used ++ [session.val] := by simp
      dsimp only
      split
      · next hmode =>
          exact (h.mono _).set hnone hback hused session.2 (by simp [current, hmode])
      · next hmode =>
          exact (h.mono _).set hnone hback hused session.2 (by simp [current, hmode])

theorem Sessions.locAPIUpdateSessionOptions (h : Sessions used c.sessionBiDict)
    (id : ℕ) (mode : SessionMode) (options : Gnss.LocationOptions)
    {session : SessionId} (hfresh : session.val ∉ used) :
    Sessions (used ++ [session.val])
      (c.locAPIUpdateSessionOptions id mode options session).2.sessionBiDict := by
  rw [Client.locAPIUpdateSessionOptions]
  split
  · next hid =>
      obtain ⟨old, hforward⟩ := Option.isSome_iff_exists.mp hid
      have hcurrent := h.getExtById hforward
      have hsame := BiDict.getExtById_of_hasId hid
      generalize c.sessionBiDict.getExtById id = r at hcurrent hsame ⊢
      obtain ⟨entity, dict⟩ := r
      dsimp only at hcurrent hsame ⊢
      subst hsame
      -- the old session is out when one is put in: itself, or a fresh one
      have hback := (h.sound.inverse id old).mp hforward
      have hold : c.sessionBiDict.hasSession old = true := by
        rw [BiDict.hasSession, hback]
        rfl
      have hrm := (h.rmById hid).mono [session.val]
      have hgone : (c.sessionBiDict.rmById id).forwardMap id = none :=
        Function.update_self _ _ _
      have hgoneOld : (c.sessionBiDict.rmById id).backwardMap old = none := by
        rw [BiDict.rmById, hforward]
        exact Function.update_self _ _ _
      have hgoneNew : (c.sessionBiDict.rmById id).backwardMap session.val = none :=
        (h.rmById hid).known.backwardMap_of_notMem hfresh
      have hputOld : ∀ entity', current entity' = old →
          Sessions (used ++ [session.val])
            ((c.sessionBiDict.rmById id).set id old entity') := fun entity' =>
        hrm.set hgone hgoneOld (List.mem_append_left _ (h.known.backward old hold))
          (h.nonzero old hold)
      have hputNew : ∀ entity', current entity' = session.val →
          Sessions (used ++ [session.val])
            ((c.sessionBiDict.rmById id).set id session.val entity') :=
        fun entity' => hrm.set hgone hgoneNew (by simp) session.2
      rw [current] at hcurrent
      by_cases hmode : mode = .onFix
      · by_cases hentity : entity.sessionMode = .onFix
        · simp only [hmode, hentity, ne_eq, not_true_eq_false, if_true, if_false]
            at hcurrent ⊢
          rw [hcurrent]
          exact hputOld _ (by simp [current])
        · simp only [hmode, hentity, ne_eq, not_true_eq_false, if_true, if_false]
          exact hputNew _ (by simp [current])
      · by_cases hentity : entity.sessionMode = .onFix
        · simp only [hmode, hentity, ne_eq, not_false_eq_true, if_true, if_false]
          exact hputNew _ (by simp [current, hmode])
        · simp only [hmode, hentity, ne_eq, not_false_eq_true, if_true, if_false]
            at hcurrent ⊢
          rw [hcurrent]
          exact hputOld _ (by simp [current, hmode])
  · exact h.mono _

theorem locAPIStopSession_sessionBiDict (id : ℕ) (c : Client) :
    (c.locAPIStopSession id).2.sessionBiDict = c.sessionBiDict := by
  rw [locAPIStopSession]
  split
  · next hid =>
      dsimp only
      split <;> exact BiDict.getExtById_of_hasId hid
  · rfl

theorem locAPIGetBatchedLocations_sessionBiDict (id count : ℕ) (c : Client) :
    (c.locAPIGetBatchedLocations id count).2.sessionBiDict = c.sessionBiDict := by
  rw [locAPIGetBatchedLocations]
  split
  · next hid => exact BiDict.getExtById_of_hasId hid
  · rfl

theorem Sessions.removeSession (h : Sessions used c.sessionBiDict) (session : ℕ) :
    Sessions used (c.removeSession session).sessionBiDict := by
  rw [Client.removeSession]
  split
  · next hsession => exact h.rmBySession hsession
  · exact h

theorem Sessions.onResponseCb (h : Sessions used c.sessionBiDict)
    (error : LocationError) (session : ℕ) :
    Sessions used (c.onResponseCb error session).sessionBiDict :=
  onResponseCb_keeps (I := fun c => Sessions used c.sessionBiDict)
    (fun _ _ hc => hc) (fun _ session hc => Sessions.removeSession hc session)
    (fun _ _ hc => hc) h error session

theorem Sessions.beforeBatchingStatusCb (h : Sessions used c.sessionBiDict)
    (completed : Bool) (tripCompleted : List ℕ) :
    Sessions used
      (c.beforeBatchingStatusCb completed tripCompleted).sessionBiDict := by
  refine beforeBatchingStatusCb_keeps (I := fun c => Sessions used c.sessionBiDict)
    (fun p session hp => ?_) (fun _ _ hc => hc) h completed tripCompleted
  rw [completeTrip]
  split
  · next hsession =>
      dsimp only
      split
      · exact hp.rmBySession hsession
      · exact hp
  · exact hp

end Client

end Axon7.LocationApi
