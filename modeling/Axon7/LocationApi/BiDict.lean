import Mathlib

/-!
# BiDict

A dictionary of client ids and sessions: forward from ids to sessions, backward,
and from sessions to what else is kept. It is sound when the two maps are
inverse and the third has the sessions of the second; then each direction finds
what the other does. Setting an id for a fresh session keeps this exactly when
the id had no session.
-/

namespace Axon7.LocationApi

/-- `BiDict`. What `operator[]` gives for a key that is not there is 0. -/
structure BiDict (T : Type) where
  forwardMap : ℕ → Option ℕ
  backwardMap : ℕ → Option ℕ
  extMap : ℕ → Option T

namespace BiDict

variable {T : Type}

def empty : BiDict T where
  forwardMap _ := none
  backwardMap _ := none
  extMap _ := none

def hasId (d : BiDict T) (id : ℕ) : Bool := (d.forwardMap id).isSome

def hasSession (d : BiDict T) (session : ℕ) : Bool :=
  (d.backwardMap session).isSome

def set (id session : ℕ) (ext : T) (d : BiDict T) : BiDict T where
  forwardMap := Function.update d.forwardMap id (some session)
  backwardMap := Function.update d.backwardMap session (some id)
  extMap := Function.update d.extMap session (some ext)

/-- An id and a session are taken out. -/
def erase (id session : ℕ) (d : BiDict T) : BiDict T where
  forwardMap := Function.update d.forwardMap id none
  backwardMap := Function.update d.backwardMap session none
  extMap := Function.update d.extMap session none

/-- What `operator[]` enters is taken out again with the others. -/
def rmById (id : ℕ) (d : BiDict T) : BiDict T :=
  d.erase id ((d.forwardMap id).getD 0)

def rmBySession (session : ℕ) (d : BiDict T) : BiDict T :=
  d.erase ((d.backwardMap session).getD 0) session

def getId (d : BiDict T) (session : ℕ) : ℕ := (d.backwardMap session).getD 0

def getSession (d : BiDict T) (id : ℕ) : ℕ := (d.forwardMap id).getD 0

/-- What is kept under an id. The id is entered if it was not there. -/
def getExtById [Inhabited T] (id : ℕ) (d : BiDict T) : T × BiDict T :=
  let session := (d.forwardMap id).getD 0
  (if session > 0 then (d.extMap session).getD default else default,
    { d with forwardMap := Function.update d.forwardMap id (some session) })

def getExtBySession [Inhabited T] (d : BiDict T) (session : ℕ) : T :=
  (d.extMap session).getD default

/-- The maps are inverse, and something is kept for exactly the sessions there
are. -/
structure Sound (d : BiDict T) : Prop where
  inverse : ∀ id session,
    d.forwardMap id = some session ↔ d.backwardMap session = some id
  ext : ∀ session, (d.extMap session).isSome = (d.backwardMap session).isSome

variable {d : BiDict T} {id session : ℕ} {ext : T}

theorem empty_sound : (empty : BiDict T).Sound :=
  ⟨fun _ _ => ⟨nofun, nofun⟩, fun _ => rfl⟩

theorem Sound.getId_getSession (h : d.Sound) (hid : d.hasId id = true) :
    d.getId (d.getSession id) = id := by
  obtain ⟨session, hsession⟩ := Option.isSome_iff_exists.mp hid
  have hback := (h.inverse id session).mp hsession
  rw [getSession, hsession, Option.getD_some, getId, hback, Option.getD_some]

theorem Sound.getSession_getId (h : d.Sound) (hsession : d.hasSession session = true) :
    d.getSession (d.getId session) = session := by
  obtain ⟨id, hid⟩ := Option.isSome_iff_exists.mp hsession
  have hforward := (h.inverse id session).mpr hid
  rw [getId, hid, Option.getD_some, getSession, hforward, Option.getD_some]

theorem Sound.set (h : d.Sound) (ext : T)
    (hid : ∀ session', d.forwardMap id = some session' → session' = session)
    (hsession : ∀ id', d.backwardMap session = some id' → id' = id) :
    (d.set id session ext).Sound where
  inverse id' session' := by
    show Function.update d.forwardMap id (some session) id' = _ ↔
      Function.update d.backwardMap session (some id) session' = _
    by_cases hid' : id' = id
    · by_cases hsession' : session' = session
      · simp [hid', hsession']
      · rw [hid', Function.update_self, Function.update_of_ne hsession']
        refine ⟨fun heq => absurd (Option.some.inj heq).symm hsession', fun hback => ?_⟩
        exact absurd (hid session' ((h.inverse id session').mpr hback)) hsession'
    · rw [Function.update_of_ne hid']
      by_cases hsession' : session' = session
      · rw [hsession', Function.update_self]
        refine ⟨fun hforward => ?_, fun heq => absurd (Option.some.inj heq).symm hid'⟩
        exact absurd (hsession id' ((h.inverse id' session).mp hforward)) hid'
      · rw [Function.update_of_ne hsession']
        exact h.inverse id' session'
  ext session' := by
    show (Function.update d.extMap session (some ext) session').isSome =
      (Function.update d.backwardMap session (some id) session').isSome
    by_cases hsession' : session' = session
    · simp [hsession']
    · rw [Function.update_of_ne hsession', Function.update_of_ne hsession']
      exact h.ext session'

theorem not_sound_of_left {session' : ℕ} (hne : session' ≠ session)
    (hforward : d.forwardMap id = some session)
    (hback : d.backwardMap session' = some id) : ¬ d.Sound := by
  intro h
  have hforward' := (h.inverse id session').mpr hback
  rw [hforward, Option.some.injEq] at hforward'
  exact hne hforward'.symm

theorem Sound.erase (h : d.Sound) (hforward : d.forwardMap id = some session) :
    (d.erase id session).Sound where
  inverse id' session' := by
    have hback := (h.inverse id session).mp hforward
    show Function.update d.forwardMap id none id' = _ ↔
      Function.update d.backwardMap session none session' = _
    by_cases hid' : id' = id
    · by_cases hsession' : session' = session
      · simp [hid', hsession']
      · rw [hid', Function.update_self, Function.update_of_ne hsession']
        refine ⟨(by rintro ⟨⟩), fun hback' => ?_⟩
        have hforward' := (h.inverse id session').mpr hback'
        rw [hforward, Option.some.injEq] at hforward'
        exact absurd hforward'.symm hsession'
    · rw [Function.update_of_ne hid']
      by_cases hsession' : session' = session
      · rw [hsession', Function.update_self]
        refine ⟨fun hforward' => ?_, (by rintro ⟨⟩)⟩
        have hback' := (h.inverse id' session).mp hforward'
        rw [hback, Option.some.injEq] at hback'
        exact absurd hback'.symm hid'
      · rw [Function.update_of_ne hsession']
        exact h.inverse id' session'
  ext session' := by
    show (Function.update d.extMap session none session').isSome =
      (Function.update d.backwardMap session none session').isSome
    by_cases hsession' : session' = session
    · simp [hsession']
    · rw [Function.update_of_ne hsession', Function.update_of_ne hsession']
      exact h.ext session'

theorem Sound.rmBySession (h : d.Sound) (hsession : d.hasSession session = true) :
    (d.rmBySession session).Sound := by
  obtain ⟨id, hid⟩ := Option.isSome_iff_exists.mp hsession
  rw [BiDict.rmBySession, hid]
  exact h.erase ((h.inverse id session).mpr hid)

theorem getExtById_of_hasId [Inhabited T] (hid : d.hasId id = true) :
    (d.getExtById id).2 = d := by
  obtain ⟨session, hsession⟩ := Option.isSome_iff_exists.mp hid
  have hsame : Function.update d.forwardMap id (some session) = d.forwardMap := by
    rw [← hsession, Function.update_eq_self]
  rw [getExtById]
  dsimp only
  rw [hsession, Option.getD_some, hsame]

end BiDict

end Axon7.LocationApi
