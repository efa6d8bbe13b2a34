import Axon7.LocationApi.Batches

/-!
# Removing all geofences

All geofences are removed by handing the sessions of the dictionary to the
removal, which takes ids. Each session is looked up as if it were an id: what is
removed is another geofence, or none. All are removed iff the dictionary is a
bijection between a set of numbers and itself.
-/

namespace Axon7.LocationApi

open Lib

namespace BiDict

variable {T : Type} {d : BiDict T} {used ns : List ℕ}

/-- `getAllSessions`: the keys of the backward map in order, among the sessions
that there have been. -/
def getAllSessions (used : List ℕ) (d : BiDict T) : List ℕ :=
  (used.filter d.hasSession).dedup.insertionSort (· ≤ ·)

theorem mem_getAllSessions (h : d.Known used) {session : ℕ} :
    session ∈ d.getAllSessions used ↔ d.hasSession session = true := by
  rw [getAllSessions, List.mem_insertionSort, List.mem_dedup, List.mem_filter]
  exact and_iff_right_of_imp (h.backward session)

theorem nodup_getAllSessions (used : List ℕ) (d : BiDict T) :
    (d.getAllSessions used).Nodup :=
  (List.perm_insertionSort _ _).nodup_iff.mpr (List.nodup_dedup _)

/-! ## Numbers taken out one after another -/

/-- Each number is an id when its turn comes. -/
def AllTurns : List ℕ → BiDict T → Prop
  | [], _ => True
  | n :: ns, d => d.getSession n > 0 ∧ AllTurns ns (d.rmBySession (d.getSession n))

/-- The dictionary after the turns. -/
def rmAll (ns : List ℕ) (d : BiDict T) : BiDict T :=
  ns.foldl (fun d n => d.rmBySession (d.getSession n)) d

theorem erase_forwardMap_of_ne {id n : ℕ} (hne : n ≠ id) (session : ℕ) :
    (d.erase id session).forwardMap n = d.forwardMap n :=
  Function.update_of_ne hne _ _

theorem erase_backwardMap_of_ne {session s : ℕ} (hne : s ≠ session) (id : ℕ) :
    (d.erase id session).backwardMap s = d.backwardMap s :=
  Function.update_of_ne hne _ _

theorem hasId_erase {id session n : ℕ} :
    (d.erase id session).hasId n = true ↔ n ≠ id ∧ d.hasId n = true := by
  by_cases hne : n = id
  · refine iff_of_false (fun h => ?_) fun h => h.1 hne
    rw [hne] at h
    change (Function.update d.forwardMap id none id).isSome = true at h
    rw [Function.update_self] at h
    exact absurd h Bool.false_ne_true
  · rw [hasId, erase_forwardMap_of_ne hne, and_iff_right hne, hasId]

theorem getSession_erase_of_ne {id n : ℕ} (hne : n ≠ id) (session : ℕ) :
    (d.erase id session).getSession n = d.getSession n := by
  rw [getSession, erase_forwardMap_of_ne hne, getSession]

theorem AllTurns.hasId (h : AllTurns ns d) : ∀ n ∈ ns, d.hasId n = true := by
  induction ns generalizing d with
  | nil => exact fun n hn => absurd hn List.not_mem_nil
  | cons n ns ih =>
    intro m hm
    rw [List.mem_cons] at hm
    obtain rfl | hm := hm
    · cases hid : d.forwardMap m with
      | none =>
        have hpos := h.1
        rw [getSession, hid, Option.getD_none] at hpos
        omega
      | some session =>
        rw [BiDict.hasId, hid]
        rfl
    · exact (hasId_erase.mp (ih h.2 m hm)).2

theorem exists_erased (hleft : ∀ n, (d.rmAll ns).hasId n = false) :
    ∃ erased : List ℕ, erased.length ≤ ns.length ∧
      ∀ n, d.hasId n = true → n ∈ erased := by
  induction ns generalizing d with
  | nil =>
    refine ⟨[], Nat.le_refl 0, fun n hn => ?_⟩
    exact absurd (hn.symm.trans (hleft n)) nofun
  | cons n ns ih =>
    obtain ⟨erased, hlength, hmem⟩ := ih hleft
    refine ⟨(d.backwardMap (d.getSession n)).getD 0 :: erased, ?_, fun m hm => ?_⟩
    · simp only [List.length_cons]
      omega
    · by_cases hne : m = (d.backwardMap (d.getSession n)).getD 0
      · rw [hne]
        exact List.mem_cons_self
      · refine List.mem_cons_of_mem _ (hmem m ?_)
        exact hasId_erase.mpr ⟨hne, hm⟩

theorem first_own {id n session : ℕ} (hnodup : (n :: ns).Nodup)
    (hids : ∀ m ∈ n :: ns, d.hasId m = true) (hlater : AllTurns ns (d.erase id session))
    (hleft : ∀ m, ((d.erase id session).rmAll ns).hasId m = false) : id = n := by
  by_contra hne
  have hnotMem : id ∉ ns := fun hmem => (hasId_erase.mp (hlater.hasId id hmem)).1 rfl
  obtain ⟨erased, hlength, hmem⟩ := exists_erased hleft
  have hsubset : n :: ns ⊆ erased := by
    intro m hm
    have hmid : m ≠ id := by
      intro heq
      rw [heq, List.mem_cons] at hm
      exact hm.elim hne hnotMem
    exact hmem m (hasId_erase.mpr ⟨hmid, hids m hm⟩)
  have hle := List.Nodup.length_le_of_subset hnodup hsubset
  rw [List.length_cons] at hle
  omega

theorem backwardMap_of_allTurns (hnodup : ns.Nodup) (hturns : AllTurns ns d)
    (hids : ∀ n, d.hasId n = true → n ∈ ns)
    (hsessions : ∀ n ∈ ns, d.hasSession (d.getSession n) = true)
    (hdistinct : (ns.map d.getSession).Nodup)
    (hleft : ∀ n, (d.rmAll ns).hasId n = false) :
    ∀ n ∈ ns, d.backwardMap (d.getSession n) = some n := by
  induction ns generalizing d with
  | nil => exact fun n hn => absurd hn List.not_mem_nil
  | cons n ns ih =>
    obtain ⟨id, hid⟩ := Option.isSome_iff_exists.mp (hsessions n List.mem_cons_self)
    have hturn : d.rmBySession (d.getSession n) = d.erase id (d.getSession n) := by
      rw [rmBySession, hid, Option.getD_some]
    obtain ⟨hn, hns⟩ := List.nodup_cons.mp hnodup
    obtain ⟨hfirst, hrest⟩ := List.nodup_cons.mp hdistinct
    have hlater := hturns.2
    rw [hturn] at hlater
    have hleft' : ∀ n', ((d.erase id (d.getSession n)).rmAll ns).hasId n' = false := by
      rw [← hturn]
      exact hleft
    obtain rfl := first_own hnodup hturns.hasId hlater hleft'
    have hother : ∀ m ∈ ns, (d.erase id (d.getSession id)).getSession m =
        d.getSession m := fun m hm => by
      have hmid : m ≠ id := fun heq => hn (heq ▸ hm)
      exact getSession_erase_of_ne hmid _
    have hne : ∀ m ∈ ns, d.getSession m ≠ d.getSession id := fun m hm heq =>
      hfirst (heq ▸ List.mem_map_of_mem hm)
    intro m hm
    obtain rfl | hm := List.mem_cons.mp hm
    · exact hid
    · have hmap : ns.map (d.erase id (d.getSession id)).getSession =
          ns.map d.getSession := List.map_congr_left hother
      have hback := ih hns hlater
        (fun m hm => by
          obtain ⟨hmid, hm⟩ := hasId_erase.mp hm
          exact (List.mem_cons.mp (hids m hm)).resolve_left hmid)
        (fun m hm => by
          rw [hother m hm, hasSession, erase_backwardMap_of_ne (hne m hm)]
          exact hsessions m (List.mem_cons_of_mem _ hm))
        (hmap ▸ hrest) hleft' m hm
      rw [hother m hm, erase_backwardMap_of_ne (hne m hm)] at hback
      exact hback

theorem inverse_of_own
    (hown : ∀ id, d.hasId id = true → d.backwardMap (d.getSession id) = some id)
    (hsessions : ∀ session, d.hasSession session = true →
      ∃ id, d.hasId id = true ∧ d.getSession id = session) (id session : ℕ) :
    d.forwardMap id = some session ↔ d.backwardMap session = some id := by
  constructor
  · intro hforward
    have hid : d.hasId id = true := by
      rw [hasId, hforward]
      rfl
    have hback := hown id hid
    rwa [getSession, hforward, Option.getD_some] at hback
  · intro hback
    have hsession : d.hasSession session = true := by
      rw [hasSession, hback]
      rfl
    obtain ⟨id', hid', rfl⟩ := hsessions session hsession
    have hsame := hown id' hid'
    rw [hback, Option.some.injEq] at hsame
    rw [hsame]
    exact forwardMap_of_hasId hid'

/-- Something is kept for exactly the sessions there are. -/
def ExtKept (d : BiDict T) : Prop :=
  ∀ session, (d.extMap session).isSome = (d.backwardMap session).isSome

theorem ExtKept.set (h : d.ExtKept) (id session : ℕ) (ext : T) :
    (d.set id session ext).ExtKept := by
  intro s
  show (Function.update d.extMap session (some ext) s).isSome =
    (Function.update d.backwardMap session (some id) s).isSome
  by_cases hs : s = session
  · simp [hs]
  · rw [Function.update_of_ne hs, Function.update_of_ne hs, h s]

theorem ExtKept.erase (h : d.ExtKept) (id session : ℕ) :
    (d.erase id session).ExtKept := by
  intro s
  show (Function.update d.extMap session none s).isSome =
    (Function.update d.backwardMap session none s).isSome
  by_cases hs : s = session
  · simp [hs]
  · rw [Function.update_of_ne hs, Function.update_of_ne hs, h s]

theorem Sound.eq_empty (h : d.Sound) (hids : ∀ n, d.hasId n = false) :
    d = BiDict.empty := by
  have hforward : ∀ n, d.forwardMap n = none := fun n =>
    Option.not_isSome_iff_eq_none.mp (ne_true_of_eq_false (hids n))
  have hback : ∀ session, d.backwardMap session = none := by
    intro session
    cases hid : d.backwardMap session with
    | none => rfl
    | some id =>
      have hsession := (h.inverse id session).mpr hid
      rw [hforward] at hsession
      cases hsession
  have hext : ∀ session, d.extMap session = none := by
    intro session
    rw [← Option.not_isSome_iff_eq_none, h.ext, hback]
    exact Bool.false_ne_true
  obtain ⟨forward, back, ext⟩ := d
  rw [empty, BiDict.mk.injEq]
  exact ⟨funext hforward, funext hback, funext hext⟩

theorem Sound.rmBySession_getSession (h : d.Sound) {n : ℕ} (hn : d.hasId n = true) :
    d.rmBySession (d.getSession n) = d.erase n (d.getSession n) := by
  have hback := (h.inverse n _).mp (forwardMap_of_hasId hn)
  rw [BiDict.rmBySession, hback, Option.getD_some]

theorem Sound.rmAll (h : d.Sound) (hpos : d.Positive) (hnodup : ns.Nodup)
    (hids : ∀ n, d.hasId n = true ↔ n ∈ ns) :
    AllTurns ns d ∧ d.rmAll ns = BiDict.empty := by
  induction ns generalizing d with
  | nil =>
    refine ⟨trivial, h.eq_empty fun n => ?_⟩
    rw [← Bool.not_eq_true, hids n]
    exact List.not_mem_nil
  | cons n ns ih =>
    obtain ⟨hn, hns⟩ := List.nodup_cons.mp hnodup
    have hid : d.hasId n = true := (hids n).mpr List.mem_cons_self
    have hturn := h.rmBySession_getSession hid
    have hids' : ∀ m, (d.erase n (d.getSession n)).hasId m = true ↔ m ∈ ns := by
      intro m
      rw [hasId_erase, hids, List.mem_cons]
      constructor
      · intro ⟨hne, hm⟩
        exact hm.resolve_left hne
      · intro hm
        exact ⟨fun heq => hn (heq ▸ hm), .inr hm⟩
    have hpos' : (d.erase n (d.getSession n)).Positive := by
      intro m session hm
      have hmid : (d.erase n (d.getSession n)).hasId m = true := by
        rw [hasId, hm]
        rfl
      have hne := (hasId_erase.mp hmid).1
      rw [erase_forwardMap_of_ne hne] at hm
      exact hpos m session hm
    obtain ⟨hall, hempty⟩ := ih (h.erase (forwardMap_of_hasId hid)) hpos' hns hids'
    rw [← hturn] at hall hempty
    exact ⟨⟨(hpos.getSession_iff n).mpr hid, hall⟩, hempty⟩

end BiDict

namespace Client

variable {c : Client}

/-! ## The loop of the removal -/

theorem rmBySession_getSession_of_hasId {d : BiDict BreachMask} {n session : ℕ}
    (h : (d.rmBySession session).hasId n = true) :
    (d.rmBySession session).getSession n = d.getSession n :=
  BiDict.getSession_erase_of_ne (BiDict.hasId_erase.mp h).1 _

theorem removeGeofence_of_pos {p : List ℕ × Client} {n : ℕ}
    (h : p.2.geofenceBiDict.getSession n > 0) :
    removeGeofence p n = (p.1 ++ [p.2.geofenceBiDict.getSession n],
      { p.2 with
        geofenceBiDict := p.2.geofenceBiDict.rmBySession
          (p.2.geofenceBiDict.getSession n) }.callback (.removeGeofences .success n)) :=
  if_pos h

theorem foldl_removeGeofence {ns : List ℕ} {p : List ℕ × Client}
    (h : BiDict.AllTurns ns p.2.geofenceBiDict) :
    ns.foldl removeGeofence p = (p.1 ++ ns.map p.2.geofenceBiDict.getSession,
      { p.2 with
        geofenceBiDict := p.2.geofenceBiDict.rmAll ns
        callbacks := p.2.callbacks ++ ns.map (.removeGeofences .success) }) := by
  induction ns generalizing p with
  | nil => simp [BiDict.rmAll]
  | cons n ns ih =>
    have hmap : ns.map (p.2.geofenceBiDict.rmBySession
        (p.2.geofenceBiDict.getSession n)).getSession =
          ns.map p.2.geofenceBiDict.getSession :=
      List.map_congr_left fun m hm => rmBySession_getSession_of_hasId (h.2.hasId m hm)
    rw [List.foldl_cons, removeGeofence_of_pos h.1, ih h.2]
    simp only [callback, hmap, List.map_cons, List.append_assoc,
      List.singleton_append]
    rfl

theorem foldl_of_allTurns {ns : List ℕ} (h : BiDict.AllTurns ns c.geofenceBiDict) :
    (ns.foldl removeGeofence ([], c)).1 = ns.map c.geofenceBiDict.getSession ∧
      (ns.foldl removeGeofence ([], c)).2.callbacks =
        c.callbacks ++ ns.map (.removeGeofences .success) ∧
      (ns.foldl removeGeofence ([], c)).2.geofenceBiDict =
        c.geofenceBiDict.rmAll ns := by
  rw [foldl_removeGeofence (p := ([], c)) h]
  exact ⟨rfl, rfl, rfl⟩

theorem length_foldl_removeGeofence (ns : List ℕ) (p : List ℕ × Client) :
    (ns.foldl removeGeofence p).1.length ≤ p.1.length + ns.length ∧
      ((ns.foldl removeGeofence p).1.length = p.1.length + ns.length →
        BiDict.AllTurns ns p.2.geofenceBiDict) := by
  induction ns generalizing p with
  | nil => exact ⟨Nat.le_refl _, fun _ => trivial⟩
  | cons n ns ih =>
    obtain ⟨hle, hall⟩ := ih (removeGeofence p n)
    rw [List.foldl_cons, List.length_cons]
    by_cases hpos : p.2.geofenceBiDict.getSession n > 0
    · rw [removeGeofence_of_pos hpos] at hle hall ⊢
      rw [List.length_append, List.length_singleton] at hle hall
      exact ⟨by omega, fun heq => ⟨hpos, hall (by omega)⟩⟩
    · have hturn : removeGeofence p n =
          (p.1, p.2.callback (.removeGeofences .idUnknown n)) := if_neg hpos
      rw [hturn] at hle hall ⊢
      dsimp only at hle
      exact ⟨by omega, fun heq => by omega⟩

theorem foldl_removeGeofence_calls (ns : List ℕ) (c : Client) :
    (ns.foldl removeGeofence ([], c)).2.calls = c.calls := by
  refine foldl_keeps (I := fun c' => c'.calls = c.calls) (fun p n hp => ?_) rfl ns
  rw [removeGeofence]
  dsimp only
  split <;> exact hp

/-! ## All geofences -/

/-- `locAPIRemoveAllGeofences`, with the sessions that there have been. -/
def locAPIRemoveAllGeofences (used : List ℕ) (c : Client) : Client :=
  c.locAPIRemoveGeofences (c.geofenceBiDict.getAllSessions used)

/-- The sessions there were are requested to be removed, each id is reported, and
the dictionary is empty. -/
structure RemovesAll (used : List ℕ) (c : Client) : Prop where
  removed : ∃ removed : List ℕ, removed.Nodup ∧
    (∀ session, session ∈ removed ↔ c.geofenceBiDict.hasSession session = true) ∧
    (c.locAPIRemoveAllGeofences used).calls =
      c.calls ++ callFor .removeGeofences removed
  reported : ∀ id,
    (c.locAPIRemoveAllGeofences used).callbacks.count (.removeGeofences .success id) =
      c.callbacks.count (.removeGeofences .success id) +
        if c.geofenceBiDict.hasId id = true then 1 else 0
  empty : (c.locAPIRemoveAllGeofences used).geofenceBiDict = .empty

theorem locAPIRemoveGeofences_opened (h : Opened c) (ids : List ℕ) :
    c.locAPIRemoveGeofences ids =
      if (ids.foldl removeGeofence ([], c)).1 ≠ [] then
        ((ids.foldl removeGeofence ([], c)).2.push .geofence .removeGeofences).call
          (.removeGeofences (ids.foldl removeGeofence ([], c)).1)
      else (ids.foldl removeGeofence ([], c)).2 :=
  if_pos h

theorem locAPIRemoveGeofences_spec (h : Opened c) (ids : List ℕ) :
    (c.locAPIRemoveGeofences ids).calls =
        c.calls ++ callFor .removeGeofences (ids.foldl removeGeofence ([], c)).1 ∧
      (c.locAPIRemoveGeofences ids).callbacks =
        (ids.foldl removeGeofence ([], c)).2.callbacks ∧
      (c.locAPIRemoveGeofences ids).geofenceBiDict =
        (ids.foldl removeGeofence ([], c)).2.geofenceBiDict := by
  have hcalls := foldl_removeGeofence_calls ids c
  rw [locAPIRemoveGeofences_opened h, callFor]
  split
  · refine ⟨?_, rfl, rfl⟩
    show (ids.foldl removeGeofence ([], c)).2.calls ++ _ = _
    rw [hcalls]
  · exact ⟨hcalls.trans (List.append_nil _).symm, rfl, rfl⟩

theorem callFor_removeGeofences_inj {a b : List ℕ}
    (h : callFor .removeGeofences a = callFor .removeGeofences b) : a = b := by
  rw [callFor, callFor] at h
  split at h
  · split at h
    · simpa using h
    · cases h
  · next ha =>
      split at h
      · cases h
      · next hb => rw [not_not.mp ha, not_not.mp hb]

theorem count_reported {ns : List ℕ} (hnodup : ns.Nodup) (id : ℕ) :
    (ns.map (Callback.removeGeofences .success)).count (.removeGeofences .success id) =
      if id ∈ ns then 1 else 0 := by
  have hinj : Function.Injective (Callback.removeGeofences .success) :=
    fun a b heq => (Callback.removeGeofences.inj heq).2
  rw [List.count_map_of_injective _ _ hinj, List.Nodup.count hnodup]

theorem run_extKept (ops : List Op) : (run ops).geofenceBiDict.ExtKept := by
  induction ops using List.reverseRecOn with
  | nil => exact fun _ => rfl
  | append_singleton ops op ih =>
    have hchange : ∀ kind apiCall (fences : List (ℕ × Option BreachMask)),
        ((run ops).changeGeofences kind apiCall fences).geofenceBiDict.ExtKept := by
      refine changeGeofences_keeps (I := fun c => c.geofenceBiDict.ExtKept)
        (fun p fence hp => ?_) (fun _ _ _ hc => hc) ih
      rw [setGeofence]
      dsimp only
      split
      · split
        · exact hp
        · exact hp.set _ _ _
      · exact hp
    rw [run_concat]
    cases hop : op.isGeofence with
    | false =>
      rw [step_geofenceBiDict hop]
      exact ih
    | true =>
      cases op with
      | addGeofences fences accepted =>
        rw [step, locAPIAddGeofences_geofenceBiDict]
        split
        · exact foldl_invariant BiDict.ExtKept (fun _ : Fence => True)
            (fun _ _ hd _ => hd.set _ _ _) ih fences fun _ _ => trivial
        · exact ih
      | removeGeofences ids =>
        refine locAPIRemoveGeofences_keeps
          (I := fun c => c.geofenceBiDict.ExtKept) (fun p id hp => ?_)
          (fun _ _ _ hc => hc) ih ids
        rw [removeGeofence]
        dsimp only
        split
        · exact hp.erase _ _
        · exact hp
      | modifyGeofences fences => exact hchange _ _ _
      | pauseGeofences ids => exact hchange _ _ _
      | resumeGeofences fences withMask => exact hchange _ _ _
      | _ => cases hop

theorem removesAll_of_empty {used : List ℕ} (hopen : ¬ Opened c)
    (hempty : c.geofenceBiDict = .empty) : RemovesAll used c := by
  have hsame : c.locAPIRemoveAllGeofences used = c :=
    locAPIRemoveGeofences_of_not_opened hopen _
  refine ⟨⟨[], List.nodup_nil, fun session => ?_, ?_⟩, fun id => ?_, ?_⟩
  · rw [hempty]
    exact iff_of_false List.not_mem_nil Bool.false_ne_true
  · rw [hsame]
    exact (List.append_nil _).symm
  · rw [hsame, hempty]
    exact (Nat.add_zero _).symm
  · rw [hsame, hempty]

theorem removesAll_of_sound {used : List ℕ} (hopen : Opened c)
    (hpos : c.geofenceBiDict.Positive) (hknown : c.geofenceBiDict.Known used)
    (hsound : c.geofenceBiDict.Sound)
    (hsame : ∀ n, c.geofenceBiDict.hasSession n = c.geofenceBiDict.hasId n) :
    RemovesAll used c := by
  have hnodup := BiDict.nodup_getAllSessions used c.geofenceBiDict
  have hmem : ∀ n, c.geofenceBiDict.hasId n = true ↔
      n ∈ c.geofenceBiDict.getAllSessions used := fun n => by
    rw [BiDict.mem_getAllSessions hknown, hsame]
  obtain ⟨hturns, hempty⟩ := hsound.rmAll hpos hnodup hmem
  obtain ⟨hcalls, hcallbacks, hdict⟩ := locAPIRemoveGeofences_spec hopen
    (c.geofenceBiDict.getAllSessions used)
  obtain ⟨hturned, hreported, hleft⟩ := foldl_of_allTurns hturns
  rw [hturned] at hcalls
  rw [hreported] at hcallbacks
  rw [hleft] at hdict
  refine ⟨⟨_, ?_, fun session => ?_, hcalls⟩, fun id => ?_, hdict.trans hempty⟩
  · refine List.Nodup.map_on (fun m hm n hn heq => ?_) hnodup
    have hm' := hsound.getId_getSession ((hmem m).mpr hm)
    have hn' := hsound.getId_getSession ((hmem n).mpr hn)
    rw [← hm', heq, hn']
  · rw [List.mem_map]
    constructor
    · intro ⟨n, hn, heq⟩
      have hback := (hsound.inverse n _).mp
        (BiDict.forwardMap_of_hasId ((hmem n).mpr hn))
      rw [← heq, BiDict.hasSession, hback]
      rfl
    · intro hsession
      obtain ⟨id, hid⟩ := Option.isSome_iff_exists.mp hsession
      have hforward := (hsound.inverse id session).mpr hid
      refine ⟨id, (hmem id).mp ?_, ?_⟩
      · rw [BiDict.hasId, hforward]
        rfl
      · rw [BiDict.getSession, hforward, Option.getD_some]
  · rw [locAPIRemoveAllGeofences, hcallbacks, List.count_append, count_reported hnodup]
    simp only [hmem]

theorem sound_of_removesAll {used : List ℕ} (hopen : Opened c)
    (hknown : c.geofenceBiDict.Known used) (hext : c.geofenceBiDict.ExtKept)
    (h : RemovesAll used c) :
    c.geofenceBiDict.Sound ∧
      ∀ n, c.geofenceBiDict.hasSession n = c.geofenceBiDict.hasId n := by
  have hnodup := BiDict.nodup_getAllSessions used c.geofenceBiDict
  have hmem : ∀ n, n ∈ c.geofenceBiDict.getAllSessions used ↔
      c.geofenceBiDict.hasSession n = true := fun n =>
    BiDict.mem_getAllSessions hknown
  have hreported := h.reported
  have hleft := h.empty
  obtain ⟨removed, hremoved, hsessions, hrequest⟩ := h.removed
  obtain ⟨hcalls, hcallbacks, hdict⟩ := locAPIRemoveGeofences_spec hopen
    (c.geofenceBiDict.getAllSessions used)
  generalize hns : c.geofenceBiDict.getAllSessions used = ns at *
  simp only [locAPIRemoveAllGeofences, hns] at hrequest hreported hleft
  rw [hcalls, List.append_cancel_left_eq] at hrequest
  have heq := callFor_removeGeofences_inj hrequest
  -- as many sessions are requested as there are turns
  have hperm : removed.Perm ns := by
    refine (List.perm_ext_iff_of_nodup hremoved hnodup).mpr fun n => ?_
    rw [hsessions, hmem]
  have hturns : BiDict.AllTurns ns c.geofenceBiDict := by
    refine (length_foldl_removeGeofence ns ([], c)).2 ?_
    rw [heq, hperm.length_eq]
    exact (Nat.zero_add _).symm
  obtain ⟨hturned, hcalled, hrest⟩ := foldl_of_allTurns hturns
  rw [hturned] at heq
  rw [hcalled] at hcallbacks
  rw [hdict, hrest] at hleft
  have hids : ∀ n, c.geofenceBiDict.hasId n = true ↔ n ∈ ns := by
    intro n
    have hcount := hreported n
    rw [hcallbacks, List.count_append, count_reported hnodup] at hcount
    split at hcount <;> split at hcount
    · next hn hid => exact iff_of_true hid hn
    · omega
    · omega
    · next hn hid => exact iff_of_false hid hn
  have hown := BiDict.backwardMap_of_allTurns hnodup hturns (fun n => (hids n).mp)
    (fun n hn => (hsessions _).mp (heq ▸ List.mem_map_of_mem hn))
    (heq ▸ hremoved) (fun n => by
      rw [hleft]
      rfl)
  refine ⟨⟨BiDict.inverse_of_own (fun id hid => hown id ((hids id).mp hid))
    fun session hsession => ?_, hext⟩, fun n => ?_⟩
  · rw [← hsessions, ← heq, List.mem_map] at hsession
    obtain ⟨n, hn, hget⟩ := hsession
    exact ⟨n, (hids n).mpr hn, hget⟩
  · rw [Bool.eq_iff_iff, ← hmem, hids]

/-- All geofences are removed iff the dictionary is a bijection and the numbers
that are sessions are those that are ids. -/
theorem removesAll_iff (ops : List Op) :
    RemovesAll (sessionsOf ops) (run ops) ↔ (run ops).geofenceBiDict.Sound ∧
      ∀ n, (run ops).geofenceBiDict.hasSession n =
        (run ops).geofenceBiDict.hasId n := by
  have hready := run_ready ops
  by_cases hopen : Opened (run ops)
  · constructor
    · exact sound_of_removesAll hopen (run_known ops) (run_extKept ops)
    · intro ⟨hsound, hsame⟩
      exact removesAll_of_sound hopen hready.positive (run_known ops) hsound hsame
  · have hempty := hready.opened.resolve_left hopen
    refine iff_of_true (removesAll_of_empty hopen hempty) ?_
    rw [hempty]
    exact ⟨BiDict.empty_sound, fun _ => rfl⟩

/-- The session 10 is no id: it stays, and an unknown id is reported. -/
theorem not_removesAll_one :
    let ops : List Op := [addFence 1 10 (by decide)]
    ¬ RemovesAll (sessionsOf ops) (run ops) ∧
      ((run ops).locAPIRemoveAllGeofences (sessionsOf ops)).callbacks =
        [.removeGeofences .idUnknown 10] ∧
      ((run ops).locAPIRemoveAllGeofences (sessionsOf ops)).geofenceBiDict.getId 10 =
        1 := by
  refine ⟨fun h => ?_, by decide, by decide⟩
  have hreported := h.reported 1
  exact absurd hreported (by decide)

end Client

end Axon7.LocationApi
