import Axon7.Gnss.Multiplex

/-!
# The engine follows the sessions

Over every run the engine, while it runs, runs at the least interval of the
sessions, whatever requests it refuses. It runs just when there are sessions,
except between a restart of the engine and the restart of the sessions. A
session is started under an id that no session of the client has.
-/

namespace Axon7.Gnss

open Std (TreeMap)

variable {C : Type*} [LinearOrder C]

/-! ## Least intervals -/

theorem isLeast_insert_self {s : Set ℕ} {b : ℕ} (h : ∀ n ∈ s, b ≤ n) :
    IsLeast (insert b s) b := by
  refine ⟨Set.mem_insert b s, fun n hn => ?_⟩
  obtain rfl | hn := hn
  · exact le_rfl
  · exact h n hn

theorem isLeast_insert_of_le {s : Set ℕ} {b n : ℕ} (h : IsLeast s n)
    (hle : n ≤ b) : IsLeast (insert b s) n := by
  have hmin := h.insert b
  rwa [min_eq_right hle] at hmin

theorem IsLeast.of_insert {s : Set ℕ} {b n k : ℕ} (h : IsLeast s n)
    (hle : n ≤ b) (hk : IsLeast (insert b s) k) : k = n :=
  hk.unique (isLeast_insert_of_le h hle)

namespace GnssAdapter

/-! ## One message -/

/-- While it runs, the engine runs at the least interval. Unless a restart of
the engine is pending, it runs if there are sessions. -/
structure Multiplexed (pending : Bool) (a : GnssAdapter C) : Prop where
  sized : Sized a.mTrackingSessions
  least : ∀ mode, a.engine = some mode → IsLeast a.all mode.minInterval
  served : pending = false → a.engine = none → a.all = ∅

variable {a : GnssAdapter C} {pending : Bool} {key : LocationSessionKey C}
  {old options : LocationOptions}

theorem Multiplexed.clients (h : Multiplexed pending a)
    (clients : TreeMap C LocationCallbacks) :
    Multiplexed pending { a with mClientData := clients } :=
  ⟨h.sized, h.least, h.served⟩

theorem Multiplexed.started {m : LocationSessionMap C} (hsized : Sized m)
    (hleast : IsLeast (intervals m fun _ => true) options.minInterval) :
    Multiplexed pending
      { a with mTrackingSessions := m, engine := some (convertOptions options) } where
  sized := hsized
  least mode hmode := by
    obtain rfl := Option.some.inj hmode
    exact hleast
  served _ hnone := by cases hnone

theorem Multiplexed.start (h : Multiplexed pending a)
    (hfresh : a.isTrackingSession key = false) (hsize : options.size ≠ 0)
    (ok : Bool) : Multiplexed pending (a.startSession ok key options).1 := by
  have hsized : Sized (a.mTrackingSessions.insert key options) :=
    h.sized.insert hsize
  have hall : intervals (a.mTrackingSessions.insert key options)
      (fun _ => true) = insert options.minInterval a.all := by
    rw [intervals_insert, intervals_fresh
      (TreeMap.getElem?_eq_none_of_contains_eq_false hfresh)]
  rw [startSession]
  obtain heq | ⟨hlt, heq⟩ | ⟨⟨n, hleast, hle⟩, heq⟩ :=
    startTrackingMultiplex_cases h.sized ok options
  · rw [heq]
    exact h
  · rw [heq]
    refine .started hsized ?_
    rw [hall]
    exact isLeast_insert_self fun n hn => (hlt n hn).le
  · rw [heq]
    refine ⟨hsized, fun mode hmode => ?_, fun hpending hnone => ?_⟩
    · show IsLeast (intervals (a.mTrackingSessions.insert key options) _) _
      rw [hall, (h.least mode hmode).unique hleast]
      exact isLeast_insert_of_le hleast hle
    · have hempty := h.served hpending hnone
      rw [hempty] at hleast
      cases hleast.1

theorem Multiplexed.update (h : Multiplexed pending a)
    (hkey : a.mTrackingSessions[key]? = some old) (hsize : options.size ≠ 0)
    (ok : Bool) : Multiplexed pending (a.updateSession ok key options).1 := by
  have hsized : Sized (a.mTrackingSessions.insert key options) :=
    h.sized.insert hsize
  have hall : intervals (a.mTrackingSessions.insert key options)
      (fun _ => true) = insert options.minInterval (a.others key) :=
    intervals_insert
  rw [updateSession]
  obtain ⟨-, heq⟩ | ⟨hlt, heq⟩ |
      ⟨k, next, -, -, hleast, hle, -, heq⟩ | ⟨⟨n, hleast, hle, hle'⟩, heq⟩ :=
    updateTrackingMultiplex_cases h.sized ok hkey options
  · rw [heq]
    exact h
  · rw [heq]
    refine .started hsized ?_
    rw [hall]
    exact isLeast_insert_self fun n hn => (hlt n hn).le
  · rw [heq]
    refine .started hsized ?_
    rw [hall]
    exact isLeast_insert_of_le hleast hle
  · rw [heq]
    have hlive : a.all = insert old.minInterval (a.others key) :=
      intervals_live hkey
    refine ⟨hsized, fun mode hmode => ?_, fun hpending hnone => ?_⟩
    · have hmin := h.least mode hmode
      rw [hlive] at hmin
      show IsLeast (intervals (a.mTrackingSessions.insert key options) _) _
      rw [hall, IsLeast.of_insert hleast hle' hmin]
      exact isLeast_insert_of_le hleast hle
    · have hempty := h.served hpending hnone
      rw [hlive] at hempty
      exact absurd hempty (Set.insert_nonempty _ _).ne_empty

theorem Multiplexed.stop (h : Multiplexed pending a)
    (hkey : a.mTrackingSessions[key]? = some old) (ok : Bool) :
    Multiplexed pending (a.stopSession ok key).1 := by
  have hsized : Sized (a.mTrackingSessions.erase key) := h.sized.erase
  have hall : intervals (a.mTrackingSessions.erase key) (fun _ => true) =
      a.others key :=
    intervals_erase
  obtain ⟨-, heq⟩ | ⟨hempty, heq⟩ | ⟨k, next, -, -, hleast, -, heq⟩ |
      ⟨⟨n, hleast, hle⟩, heq⟩ := stopSession_cases h.sized ok hkey
  · rw [heq]
    exact h
  · rw [heq]
    exact ⟨hsized, nofun, fun _ _ => hall.trans hempty⟩
  · rw [heq]
    refine .started hsized ?_
    rw [hall]
    exact hleast
  · rw [heq]
    have hlive : a.all = insert old.minInterval (a.others key) :=
      intervals_live hkey
    refine ⟨hsized, fun mode hmode => ?_, fun hpending hnone => ?_⟩
    · have hmin := h.least mode hmode
      rw [hlive] at hmin
      show IsLeast (intervals (a.mTrackingSessions.erase key) _) _
      rw [hall, IsLeast.of_insert hleast hle hmin]
      exact hleast
    · have hempty := h.served hpending hnone
      rw [hlive] at hempty
      exact absurd hempty (Set.insert_nonempty _ _).ne_empty

theorem stopSession_other (a : GnssAdapter C) (ok : Bool)
    {k : LocationSessionKey C} (hne : k ≠ key) :
    (a.stopSession ok key).1.mTrackingSessions[k]? =
      a.mTrackingSessions[k]? := by
  have hsame := stopTrackingMultiplex_sessions a ok key
  rw [stopSession]
  dsimp only
  split
  · rw [eraseTrackingSession, hsame, erase_get, if_neg hne]
  · rw [hsame]

theorem stopKeys_other (client : C) (ok : LocationSessionKey C → Bool)
    {keys : List (LocationSessionKey C)} {k : LocationSessionKey C}
    (hk : k ∉ keys) :
    (keys.foldl (stopKey client ok) a).mTrackingSessions[k]? =
      a.mTrackingSessions[k]? := by
  induction keys generalizing a with
  | nil => rfl
  | cons key keys ih =>
    obtain ⟨hne, hk⟩ := List.ne_and_not_mem_of_not_mem_cons hk
    rw [List.foldl_cons, ih hk, stopKey]
    split
    · exact stopSession_other a (ok key) hne
    · rfl

theorem Multiplexed.stopKeys (client : C) (ok : LocationSessionKey C → Bool)
    {keys : List (LocationSessionKey C)} (hnd : keys.Nodup)
    (h : Multiplexed pending a)
    (hkeys : ∀ key ∈ keys, ∃ old, a.mTrackingSessions[key]? = some old) :
    Multiplexed pending (keys.foldl (stopKey client ok) a) := by
  induction keys generalizing a with
  | nil => exact h
  | cons key keys ih =>
    obtain ⟨hnot, hnd⟩ := List.nodup_cons.mp hnd
    rw [List.foldl_cons, stopKey]
    split
    · obtain ⟨old, hkey⟩ := hkeys key List.mem_cons_self
      refine ih hnd (h.stop hkey (ok key)) fun k hk => ?_
      have hne : k ≠ key := fun heq => hnot (heq ▸ hk)
      rw [stopSession_other a _ hne]
      exact hkeys k (List.mem_cons_of_mem key hk)
    · exact ih hnd h fun k hk => hkeys k (List.mem_cons_of_mem key hk)

theorem keys_live (m : LocationSessionMap C) :
    ∀ key ∈ m.keys, ∃ old, m[key]? = some old := by
  intro key hkey
  rw [TreeMap.mem_keys, TreeMap.mem_iff_isSome_getElem?,
    Option.isSome_iff_exists] at hkey
  exact hkey

theorem Multiplexed.stopClientSessions (h : Multiplexed pending a) (client : C)
    (ok : LocationSessionKey C → Bool) :
    Multiplexed pending (a.stopClientSessions client ok) :=
  h.stopKeys client ok TreeMap.nodup_keys (keys_live _)

theorem Multiplexed.restartSessions (h : Multiplexed pending a) (ok : Bool) :
    Multiplexed (pending && !ok) (a.restartSessions ok) := by
  rw [GnssAdapter.restartSessions]
  split
  · next hempty =>
      rw [← intervals_eq_empty] at hempty
      exact ⟨h.sized, h.least, fun _ _ => hempty⟩
  · next hne =>
      rw [← intervals_eq_empty] at hne
      obtain ⟨-, -, -, hleast⟩ :=
        smallest_spec h.sized (Set.nonempty_iff_ne_empty.mpr hne)
      cases ok with
      | false =>
        rw [Bool.not_false, Bool.and_true]
        exact h
      | true => exact .started h.sized hleast

theorem isTrackingSession_iff : a.isTrackingSession key = true ↔
    ∃ old, a.mTrackingSessions[key]? = some old := by
  rw [isTrackingSession, TreeMap.contains_eq_isSome_getElem?,
    Option.isSome_iff_exists]

/-- A session that is to be started has an id of its own. -/
def Fresh (a : GnssAdapter C) : Msg C → Prop
  | .startTracking client id _ _ =>
    a.isTrackingSession ⟨client, id⟩ = false
  | _ => True

instance (a : GnssAdapter C) (msg : Msg C) : Decidable (a.Fresh msg) :=
  match msg with
  | .startTracking .. => inferInstanceAs (Decidable (_ = _))
  | .addClient .. | .removeClient .. | .updateTracking .. | .stopTracking ..
  | .engineRestart | .restartSessions _ => isTrue trivial

/-- A restart of the engine is pending after the message. -/
def restarting (pending : Bool) : Msg C → Bool
  | .engineRestart => true
  | .restartSessions ok => pending && !ok
  | _ => pending

theorem Multiplexed.proc (h : Multiplexed pending a) {msg : Msg C}
    (hfresh : a.Fresh msg) :
    Multiplexed (restarting pending msg) (a.proc msg).1 := by
  cases msg with
  | addClient client callbacks => exact h.clients _
  | removeClient client ok => exact (h.stopClientSessions client ok).clients _
  | startTracking client id options ok =>
    show Multiplexed pending (a.procStartTracking client id options ok).1
    rw [procStartTracking]
    split
    · exact h
    · split
      · exact h
      · next hsize => exact h.start hfresh hsize ok
  | updateTracking client id options ok =>
    show Multiplexed pending (a.procUpdateTracking client id options ok).1
    rw [procUpdateTracking]
    split
    · next hlive =>
        obtain ⟨old, hkey⟩ := isTrackingSession_iff.mp hlive
        split
        · exact h
        · next hsize => exact h.update hkey hsize ok
    · exact h
  | stopTracking client id ok =>
    show Multiplexed pending (a.procStopTracking client id ok).1
    rw [procStopTracking]
    split
    · next hlive =>
        obtain ⟨old, hkey⟩ := isTrackingSession_iff.mp hlive
        exact h.stop hkey ok
    · exact h
  | engineRestart => exact ⟨h.sized, nofun, nofun⟩
  | restartSessions ok => exact h.restartSessions ok

/-! ## Runs -/

def restartPending (msgs : List (Msg C)) : Bool :=
  msgs.foldl restarting false

/-- Every session is started under an id that no session of the client has. -/
def FreshRun (msgs : List (Msg C)) : Prop :=
  ∀ pre msg, pre ++ [msg] <+: msgs → (run pre).Fresh msg

theorem freshRun_nil : FreshRun ([] : List (Msg C)) := fun pre msg h =>
  absurd (List.prefix_nil.mp h) (by simp)

theorem FreshRun.of_snoc {msgs : List (Msg C)} {msg : Msg C}
    (h : FreshRun (msgs ++ [msg])) : FreshRun msgs ∧ (run msgs).Fresh msg :=
  ⟨fun pre msg' hpre => h pre msg' (hpre.trans (List.prefix_append _ _)),
    h msgs msg List.prefix_rfl⟩

theorem FreshRun.snoc {msgs : List (Msg C)} {msg : Msg C} (h : FreshRun msgs)
    (hmsg : (run msgs).Fresh msg) : FreshRun (msgs ++ [msg]) := by
  intro pre msg' hprefix
  obtain heq | hprefix := List.prefix_concat_iff.mp hprefix
  · obtain ⟨rfl, hmsg'⟩ := List.append_inj' heq rfl
    obtain rfl : msg' = msg := List.singleton_inj.mp hmsg'
    exact hmsg
  · exact h pre msg' hprefix

theorem multiplexed_init : Multiplexed pending (init : GnssAdapter C) where
  sized key options h := by simp [init] at h
  least mode h := by cases h
  served _ _ := intervals_eq_empty.mpr (by simp [init])

theorem run_multiplexed {msgs : List (Msg C)} (h : FreshRun msgs) :
    Multiplexed (restartPending msgs) (run msgs) := by
  induction msgs using List.reverseRecOn with
  | nil => exact multiplexed_init
  | append_singleton msgs msg ih =>
    obtain ⟨hpre, hfresh⟩ := h.of_snoc
    rw [run_snoc, restartPending, List.foldl_concat]
    exact (ih hpre).proc hfresh

/-- Unless a restart of the engine is pending, the engine runs just when there
are sessions, and while it runs it runs at the least of their intervals. -/
theorem run_engine {msgs : List (Msg C)} (h : FreshRun msgs) :
    (restartPending msgs = false →
      ((run msgs).engine.isSome = true ↔
        (run msgs).mTrackingSessions.isEmpty = false)) ∧
      ∀ mode, (run msgs).engine = some mode →
        IsLeast (run msgs).all mode.minInterval := by
  have hrun := run_multiplexed h
  refine ⟨fun hpending => ?_, hrun.least⟩
  rw [← Bool.not_eq_true, ← intervals_eq_empty]
  cases hengine : (run msgs).engine with
  | none => simpa using hrun.served hpending hengine
  | some mode =>
    have hmem := (hrun.least mode hengine).1
    refine iff_of_true rfl fun hempty => ?_
    rw [all, hempty] at hmem
    cases hmem

/-- Two clients, a refused stop, and a restart of the engine. -/
def twoClients : List (Msg ℕ) :=
  [.addClient 1 ⟨true, false⟩, .addClient 2 ⟨true, false⟩,
    .startTracking 1 2 ⟨16, 5000, 0, .standalone⟩ true,
    .startTracking 2 3 ⟨16, 1000, 0, .msb⟩ true,
    .stopTracking 2 3 false, .engineRestart, .restartSessions true]

theorem run_engine_twoClients :
    (run twoClients).engine.isSome = true ∧
      IsLeast (run twoClients).all 1000 := by
  have hfresh : FreshRun twoClients :=
    ((((((freshRun_nil.snoc (by decide)).snoc (by decide)).snoc
      (by decide)).snoc (by decide)).snoc (by decide)).snoc
      (by decide)).snoc (by decide)
  have h := run_engine hfresh
  exact ⟨(h.1 (by decide)).mpr (by decide),
    h.2 ⟨.msBased, true, 1000⟩ (by decide)⟩

/-! ## Session ids -/

end GnssAdapter

end Axon7.Gnss
