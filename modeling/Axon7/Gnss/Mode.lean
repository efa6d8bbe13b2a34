import Axon7.Gnss.Active
import Axon7.Lib.Run

/-!
# The mode in force

Whether a restart is due is decided from intervals alone. So an engine that is
not restarted may go on in the mode of a session that has ended or changed,
when another session asks for the same interval in another mode. This is the
only way: the mode in force is that of some session with the least interval as
long as no stop and no update takes that session away without a restart.
-/

namespace Axon7.Gnss

open Axon7.Lib
open Std (TreeMap)

variable {C : Type*} [LinearOrder C]

namespace GnssAdapter

/-- While the engine runs, its mode is that of a session with the least
interval. -/
def InForce (a : GnssAdapter C) : Prop :=
  ∀ mode, a.engine = some mode →
    ∃ (key : LocationSessionKey C) (options : LocationOptions),
      a.mTrackingSessions[key]? = some options ∧
        IsLeast a.all options.minInterval ∧
        (convertOptions options).mode = mode.mode

/-- The engine would be started in the same mode for these options. -/
def Backs (options : LocationOptions) (mode : LocPosMode) : Prop :=
  (convertOptions options).mode = mode.mode ∧
    options.minInterval = mode.minInterval

/-- If the stop of the session does not restart the engine, because another
interval is no larger, another session backs the mode in force. -/
def BackedOnStop (a : GnssAdapter C) (key : LocationSessionKey C) : Prop :=
  ∀ old, a.mTrackingSessions[key]? = some old →
    (∃ n ∈ a.others key, n ≤ old.minInterval) →
      ∀ mode, a.engine = some mode → ∃ k next, k ≠ key ∧
        a.mTrackingSessions[k]? = some next ∧ Backs next mode

/-- If the update of the session does not restart the engine, because another
interval is no larger than its old one and its new one, another session or the
new options back the mode in force. -/
def BackedOnUpdate (a : GnssAdapter C) (key : LocationSessionKey C)
    (options : LocationOptions) : Prop :=
  ∀ old, a.mTrackingSessions[key]? = some old →
    (∃ n ∈ a.others key, n ≤ options.minInterval ∧ n ≤ old.minInterval) →
      ∀ mode, a.engine = some mode → Backs options mode ∨
        ∃ k next, k ≠ key ∧ a.mTrackingSessions[k]? = some next ∧
          Backs next mode

/-- Every stop and update that the message makes leaves the mode in force
backed. -/
def Backed (a : GnssAdapter C) : Msg C → Prop
  | .stopTracking client id _ => a.BackedOnStop ⟨client, id⟩
  | .updateTracking client id options _ =>
    options.size ≠ 0 → a.BackedOnUpdate ⟨client, id⟩ options
  | .removeClient client ok =>
    ∀ pre key, pre ++ [key] <+: a.mTrackingSessions.keys →
      client = key.client →
        (pre.foldl (stopKey client ok) a).BackedOnStop key
  | _ => True

/-! ## One message -/

variable {a : GnssAdapter C} {pending : Bool} {key : LocationSessionKey C}
  {old options : LocationOptions}

theorem inForce_iff (h : Multiplexed pending a) :
    a.InForce ↔ ∀ mode, a.engine = some mode →
      ∃ (key : LocationSessionKey C) (options : LocationOptions),
        a.mTrackingSessions[key]? = some options ∧ Backs options mode := by
  constructor
  · intro hforce mode hmode
    obtain ⟨key, options, hkey, hleast, hconv⟩ := hforce mode hmode
    exact ⟨key, options, hkey, hconv, hleast.unique (h.least mode hmode)⟩
  · intro hbacked mode hmode
    obtain ⟨key, options, hkey, hconv, heq⟩ := hbacked mode hmode
    refine ⟨key, options, hkey, ?_, hconv⟩
    rw [heq]
    exact h.least mode hmode

theorem backs_convertOptions : Backs options (convertOptions options) :=
  ⟨rfl, rfl⟩

theorem inForce_start (h : Multiplexed pending a) (hforce : a.InForce)
    (hfresh : a.isTrackingSession key = false) (hsize : options.size ≠ 0)
    (ok : Bool) : (a.startSession ok key options).1.InForce := by
  rw [inForce_iff (h.start hfresh hsize ok)]
  rw [inForce_iff h] at hforce
  have hnone := TreeMap.getElem?_eq_none_of_contains_eq_false hfresh
  rw [startSession]
  obtain heq | ⟨-, heq⟩ | ⟨-, heq⟩ :=
    startTrackingMultiplex_cases h.sized ok options
  · rw [heq]
    exact hforce
  · rw [heq]
    intro mode hmode
    obtain rfl := Option.some.inj hmode
    refine ⟨key, options, ?_, backs_convertOptions⟩
    exact TreeMap.getElem?_insert_self
  · rw [heq]
    intro mode hmode
    obtain ⟨k, o, hk, hbacks⟩ := hforce mode hmode
    have hne : key ≠ k := by
      intro heq
      rw [← heq, hnone] at hk
      cases hk
    refine ⟨k, o, ?_, hbacks⟩
    show (a.mTrackingSessions.insert key options)[k]? = some o
    rw [insert_get, if_neg (Ne.symm hne)]
    exact hk

theorem inForce_stop_iff (h : Multiplexed pending a) (hforce : a.InForce)
    (hkey : a.mTrackingSessions[key]? = some old) (ok : Bool) :
    (a.stopSession ok key).1.InForce ↔ a.BackedOnStop key := by
  have hiff := inForce_iff (h.stop hkey ok)
  have hrestart : (∀ n ∈ a.others key, old.minInterval < n) →
      a.BackedOnStop key := by
    intro hlt old' hold' ⟨n, hn, hle⟩
    rw [hkey] at hold'
    obtain rfl := Option.some.inj hold'
    exact absurd hle (not_le.mpr (hlt n hn))
  obtain ⟨hlt, heq⟩ | ⟨hempty, heq⟩ | ⟨k, next, hne, hk, hleast, hlt, heq⟩ |
      ⟨⟨n, hleast, hle⟩, heq⟩ := stopSession_cases h.sized ok hkey
  · rw [heq]
    exact iff_of_true hforce (hrestart hlt)
  · rw [heq] at hiff ⊢
    refine iff_of_true (hiff.mpr nofun) (hrestart fun n hn => ?_)
    rw [hempty] at hn
    cases hn
  · rw [heq] at hiff ⊢
    refine iff_of_true (hiff.mpr fun mode hmode => ?_)
      (hrestart fun n hn => hlt.trans_le (hleast.2 hn))
    obtain rfl := Option.some.inj hmode
    refine ⟨k, next, ?_, backs_convertOptions⟩
    rw [erase_get, if_neg hne]
    exact hk
  · rw [heq] at hiff ⊢
    rw [hiff]
    constructor
    · intro hbacked old' _ _ mode hmode
      obtain ⟨k, next, hk, hbacks⟩ := hbacked mode hmode
      rw [eraseTrackingSession, erase_get] at hk
      split at hk
      · cases hk
      · next hne => exact ⟨k, next, hne, hk, hbacks⟩
    · intro hbacked mode hmode
      obtain ⟨k, next, hne, hk, hbacks⟩ :=
        hbacked old hkey ⟨n, hleast.1, hle⟩ mode hmode
      refine ⟨k, next, ?_, hbacks⟩
      rw [eraseTrackingSession, erase_get, if_neg hne]
      exact hk

theorem inForce_update_iff (h : Multiplexed pending a) (hforce : a.InForce)
    (hkey : a.mTrackingSessions[key]? = some old) (hsize : options.size ≠ 0)
    (ok : Bool) : (a.updateSession ok key options).1.InForce ↔
      a.BackedOnUpdate key options := by
  have hiff := inForce_iff (h.update hkey hsize ok)
  have hget := fun k => insert_get a.mTrackingSessions key k options
  have hrestart : (∀ n ∈ a.others key,
      options.minInterval < n ∨ old.minInterval < n) →
      a.BackedOnUpdate key options := by
    intro hlt old' hold' ⟨n, hn, hle, hle'⟩
    rw [hkey] at hold'
    obtain rfl := Option.some.inj hold'
    have hlt := hlt n hn
    omega
  rw [updateSession] at hiff ⊢
  obtain ⟨hlt, heq⟩ | ⟨hlt, heq⟩ | ⟨k, next, hne, hk, hleast, hle, hlt, heq⟩ |
      ⟨⟨n, hleast, hle, hle'⟩, heq⟩ :=
    updateTrackingMultiplex_cases h.sized ok hkey options
  · rw [heq]
    exact iff_of_true hforce (hrestart hlt)
  · rw [heq] at hiff ⊢
    refine iff_of_true (hiff.mpr fun mode hmode => ?_)
      (hrestart fun n hn => .inl (hlt n hn))
    obtain rfl := Option.some.inj hmode
    exact ⟨key, options, (hget key).trans (if_pos rfl), backs_convertOptions⟩
  · rw [heq] at hiff ⊢
    refine iff_of_true (hiff.mpr fun mode hmode => ?_)
      (hrestart fun n hn => .inr (hlt.trans_le (hleast.2 hn)))
    obtain rfl := Option.some.inj hmode
    exact ⟨k, next, (hget k).trans ((if_neg hne).trans hk),
      backs_convertOptions⟩
  · rw [heq] at hiff ⊢
    rw [hiff]
    constructor
    · intro hbacked old' _ _ mode hmode
      obtain ⟨k, next, hk, hbacks⟩ := hbacked mode hmode
      have hk := (hget k).symm.trans hk
      split at hk
      · exact .inl (Option.some.inj hk ▸ hbacks)
      · next hne => exact .inr ⟨k, next, hne, hk, hbacks⟩
    · intro hbacked mode hmode
      obtain hbacks | ⟨k, next, hne, hk, hbacks⟩ :=
        hbacked old hkey ⟨n, hleast.1, hle, hle'⟩ mode hmode
      · exact ⟨key, options, (hget key).trans (if_pos rfl), hbacks⟩
      · exact ⟨k, next, (hget k).trans ((if_neg hne).trans hk), hbacks⟩

theorem inForce_restart (h : Multiplexed pending a) (hforce : a.InForce)
    (ok : Bool) : (a.restartSessions ok).InForce := by
  rw [restartSessions]
  split
  · exact hforce
  · next hne =>
      rw [← intervals_eq_empty] at hne
      obtain ⟨key, -, hkey, hleast⟩ :=
        smallest_spec h.sized (Set.nonempty_iff_ne_empty.mpr hne)
      cases ok with
      | false => exact hforce
      | true =>
        intro mode hmode
        obtain rfl := Option.some.inj hmode
        exact ⟨key, _, hkey, hleast, rfl⟩

theorem inForce_stopKey_iff (h : Multiplexed pending a) (hforce : a.InForce)
    (hkey : a.mTrackingSessions[key]? = some old) (client : C)
    (ok : LocationSessionKey C → Bool) : (stopKey client ok a key).InForce ↔
      (client = key.client → a.BackedOnStop key) := by
  rw [stopKey]
  split
  · next heq =>
      rw [inForce_stop_iff h hforce hkey]
      exact ⟨fun hbacked _ => hbacked, fun hbacked => hbacked heq⟩
  · next hne => exact iff_of_true hforce fun heq => absurd heq hne

theorem stopKeys_pre (h : Multiplexed pending a) (client : C)
    (ok : LocationSessionKey C → Bool) {pre : List (LocationSessionKey C)}
    (hpre : pre ++ [key] <+: a.mTrackingSessions.keys) :
    Multiplexed pending (pre.foldl (stopKey client ok) a) ∧
      ∃ old, (pre.foldl (stopKey client ok) a).mTrackingSessions[key]? =
        some old := by
  have hnd : (pre ++ [key]).Nodup :=
    List.Nodup.sublist hpre.sublist TreeMap.nodup_keys
  have hlive : ∀ k ∈ pre ++ [key],
      ∃ old, a.mTrackingSessions[k]? = some old :=
    fun k hk => keys_live _ k (hpre.subset hk)
  obtain ⟨hndpre, -, hdisj⟩ := List.nodup_append.mp hnd
  refine ⟨h.stopKeys client ok hndpre fun k hk =>
    hlive k (List.mem_append_left _ hk), ?_⟩
  rw [stopKeys_other client ok fun hk => hdisj key hk key (by simp) rfl]
  exact hlive key (by simp)

theorem inForce_stopClientSessions_iff (h : Multiplexed pending a)
    (hforce : a.InForce) (client : C) (ok : LocationSessionKey C → Bool) :
    Along (stopKey client ok) InForce a a.mTrackingSessions.keys ↔
      a.Backed (.removeClient client ok) := by
  refine forall_prefix_iff hforce fun pre key hpre hpre' => ?_
  obtain ⟨hmul, old, hkey⟩ := stopKeys_pre h client ok hpre
  rw [List.foldl_concat]
  exact inForce_stopKey_iff hmul hpre' hkey client ok

/-! ## Runs -/

/-- The mode in force is right after the messages, and was so after each
session that the last of them stopped. -/
def RightMode (msgs : List (Msg C)) : Prop :=
  (run msgs).InForce ∧
    ∀ pre client ok, msgs = pre ++ [.removeClient client ok] →
      Along (stopKey client ok) InForce (run pre)
        (run pre).mTrackingSessions.keys

theorem rightMode_snoc {msgs : List (Msg C)} {msg : Msg C}
    (h : FreshRun (msgs ++ [msg])) (hforce : (run msgs).InForce) :
    RightMode (msgs ++ [msg]) ↔ (run msgs).Backed msg := by
  obtain ⟨hpre, hfresh⟩ := h.of_snoc
  have hmul := run_multiplexed hpre
  rw [RightMode, run_snoc]
  have hlast : ∀ {pre : List (Msg C)} {client : C}
      {ok : LocationSessionKey C → Bool},
      msgs ++ [msg] = pre ++ [.removeClient client ok] →
        msgs = pre ∧ msg = .removeClient client ok := by
    intro pre client ok heq
    obtain ⟨rfl, hmsg⟩ := List.append_inj' heq rfl
    exact ⟨rfl, List.singleton_inj.mp hmsg⟩
  cases msg with
  | removeClient client ok =>
    rw [← inForce_stopClientSessions_iff hmul hforce]
    constructor
    · intro hright
      exact hright.2 msgs client ok rfl
    · intro halong
      refine ⟨halong _ List.prefix_rfl, fun pre client' ok' heq => ?_⟩
      obtain ⟨rfl, hmsg⟩ := hlast heq
      obtain ⟨rfl, rfl⟩ := Msg.removeClient.inj hmsg
      exact halong
  | addClient client callbacks =>
    refine iff_of_true ⟨hforce, fun pre client' ok heq => ?_⟩ trivial
    cases (hlast heq).2
  | startTracking client id options ok =>
    refine iff_of_true ⟨?_, fun pre client' ok heq => ?_⟩ trivial
    · show InForce (procStartTracking _ client id options ok).1
      rw [procStartTracking]
      split
      · exact hforce
      · split
        · exact hforce
        · next hsize => exact inForce_start hmul hforce hfresh hsize ok
    · cases (hlast heq).2
  | updateTracking client id options ok =>
    rw [and_iff_left fun pre client' ok' heq => by cases (hlast heq).2]
    show InForce (procUpdateTracking _ client id options ok).1 ↔ (_ → _)
    rw [procUpdateTracking]
    split
    · next hlive =>
        obtain ⟨old, hkey⟩ := isTrackingSession_iff.mp hlive
        split
        · next hsize => exact iff_of_true hforce fun h => absurd hsize h
        · next hsize =>
            rw [forall_prop_of_true hsize]
            exact inForce_update_iff hmul hforce hkey hsize ok
    · next hnot =>
        refine iff_of_true hforce fun _ old hkey => ?_
        exact absurd (isTrackingSession_iff.mpr ⟨old, hkey⟩) hnot
  | stopTracking client id ok =>
    rw [and_iff_left fun pre client' ok' heq => by cases (hlast heq).2]
    show InForce (procStopTracking _ client id ok).1 ↔ BackedOnStop _ _
    rw [procStopTracking]
    split
    · next hlive =>
        obtain ⟨old, hkey⟩ := isTrackingSession_iff.mp hlive
        exact inForce_stop_iff hmul hforce hkey ok
    · next hnot =>
        refine iff_of_true hforce fun old hkey => ?_
        exact absurd (isTrackingSession_iff.mpr ⟨old, hkey⟩) hnot
  | engineRestart =>
    refine iff_of_true ⟨by rintro _ ⟨⟩, fun pre client' ok heq => ?_⟩ trivial
    cases (hlast heq).2
  | restartSessions ok =>
    refine iff_of_true ⟨?_, fun pre client' ok' heq => ?_⟩ trivial
    · exact inForce_restart hmul hforce ok
    · cases (hlast heq).2

/-- The mode in force is right throughout a run just if every stop and update
of it leaves it backed. -/
theorem run_rightMode_iff {msgs : List (Msg C)} (h : FreshRun msgs) :
    (∀ pre, pre <+: msgs → RightMode pre) ↔
      ∀ pre msg, pre ++ [msg] <+: msgs → (run pre).Backed msg := by
  refine forall_prefix_iff ⟨?_, fun pre client ok heq => ?_⟩
    fun pre msg hpre hright => ?_
  · exact nofun
  · simp at heq
  · refine rightMode_snoc (fun pre' msg' hpre' => ?_) hright.1
    exact h pre' msg' (hpre'.trans hpre)

/-- Two sessions at the same interval: the first ends and its mode stays. -/
def equalIntervals : List (Msg ℕ) :=
  [.addClient 1 ⟨true, false⟩, .addClient 2 ⟨true, false⟩,
    .startTracking 1 2 ⟨16, 1000, 0, .msb⟩ true,
    .startTracking 2 3 ⟨16, 1000, 0, .msa⟩ true]

theorem equalIntervals_fresh : FreshRun equalIntervals :=
  (((freshRun_nil.snoc (by decide)).snoc (by decide)).snoc
    (by decide)).snoc (by decide)

theorem run_rightMode_equalIntervals :
    (∀ pre, pre <+: equalIntervals → RightMode pre) ↔
      ∀ pre msg, pre ++ [msg] <+: equalIntervals → (run pre).Backed msg :=
  run_rightMode_iff equalIntervals_fresh

/-- The session whose mode is in force ends, and the engine goes on in it for
one in another mode. -/
theorem equalIntervals_stale :
    let msgs := equalIntervals ++ [.stopTracking 1 2 true]
    FreshRun msgs ∧ ¬ (run msgs).InForce := by
  intro msgs
  refine ⟨equalIntervals_fresh.snoc (by decide), fun hforce => ?_⟩
  obtain ⟨key, options, hkey, -, hmode⟩ :=
    hforce ⟨.msBased, true, 1000⟩ (by decide)
  have hsessions : (run msgs).mTrackingSessions.toList =
      [(⟨2, 3⟩, ⟨16, 1000, 0, .msa⟩)] := by decide
  rw [← TreeMap.mem_toList_iff_getElem?_eq_some, hsessions,
    List.mem_singleton] at hkey
  obtain ⟨-, rfl⟩ := Prod.mk.inj hkey
  cases hmode

end GnssAdapter

end Axon7.Gnss
