import Axon7.Conntrack.FullNatApp
import Axon7.Conntrack.NatRefines
import Axon7.Lib.Run

/-!
# The time stamps of the connections

`UpdateUDPTimeStamp` leaves out the dummy rules, which it tells by the public address kept
in the entry. `CacheEntry` keeps it, `AddEntry` does not: an entry that it has filled has
the public address 0, and counts as a connection of a client whatever it is.
-/

namespace Axon7.Conntrack

open Axon7.Lib

/-- How a connection got into the cache: by `CacheEntry` or by `AddEntry`, and with which
public address. -/
structure Made where
  byCache : Bool
  publicIp : Ip
deriving DecidableEq

/-- `NatApp`, and how the connection of each entry got there. -/
structure Traced where
  inst : FullNatApp
  made : Nat → Option Made

namespace FullNatApp

/-- There is a connection in the entry. -/
def taken (s : FullNatApp) (cnt : Nat) : Bool := s.cache[cnt]?.any fun entry => !entry.isFree

/-- How a call adds connections. A flush adds temporary entries that have the address of
the table. -/
def Op.made (s : FullNatApp) : Op → Option Made
  | .addEntry rule _ => some ⟨false, rule.publicIp⟩
  | .flushTempEntries _ _ _ _ => some ⟨false, s.pubIpAddr⟩
  | .cacheEntry rule => some ⟨true, rule.publicIp⟩
  | _ => none

end FullNatApp

namespace Traced

open FullNatApp

def new (maxEntries : Nat) (pubIpAddrPre : Ip) (pwrSaveIfs : List Ip)
    (algPorts : List (BitVec 8 × Port)) : Traced where
  inst := .new maxEntries pubIpAddrPre pwrSaveIfs algPorts
  made _ := none

def step (t : Traced) (op : Op) : Traced where
  inst := t.inst.step op
  made cnt :=
    if (t.inst.step op).taken cnt then
      if t.inst.taken cnt then t.made cnt else op.made t.inst
    else none

/-- The connection in the entry was added as a dummy rule: its private address is the
public address that it was added with. -/
def Dummy (t : Traced) (cnt : Nat) (entry : NatEntry) : Prop :=
  ∃ m, t.made cnt = some m ∧ entry.privateIp = m.publicIp

/-- The time stamp of the rule in hardware is another one than that kept. -/
def Changed (t : Traced) (reply : Nat → Option (BitVec 32)) (cnt : Nat)
    (entry : NatEntry) : Prop :=
  ∃ ts, t.inst.ipaNatQueryTimestamp (reply cnt) = some ts ∧ ts ≠ entry.timestamp

/-- No dummy rule is asked for or refreshed, and every other entry whose time stamp has
changed is refreshed once. -/
structure Refreshes (t : Traced) (reply : Nat → Option (BitVec 32)) (r : Refresh) : Prop where
  dummy : ∀ cnt entry, t.inst.cache[cnt]? = some entry → entry.enabled = true →
    t.Dummy cnt entry → cnt ∉ r.queried ∧ ∀ u, (cnt, u) ∉ r.updated
  genuine : ∀ cnt entry, t.inst.cache[cnt]? = some entry → entry.enabled = true →
    ¬ t.Dummy cnt entry → t.Changed reply cnt entry →
    r.updated.filter (·.1 = cnt) = [(cnt, t.inst.timeoutUpdate entry)]

/-- Every enabled dummy rule was added by `CacheEntry`, and where anything else is to be
refreshed an updater is registered. -/
structure Recorded (t : Traced) (touInstance : Bool) (reply : Nat → Option (BitVec 32)) :
    Prop where
  dummy : ∀ cnt entry, t.inst.cache[cnt]? = some entry → entry.enabled = true →
    t.Dummy cnt entry → ∃ m, t.made cnt = some m ∧ m.byCache = true
  genuine : ∀ cnt entry, t.inst.cache[cnt]? = some entry → entry.enabled = true →
    ¬ t.Dummy cnt entry → t.Changed reply cnt entry → touInstance = true

end Traced

namespace FullNatApp

variable {s s' s'' : FullNatApp} {m : Option Made} {e e' e'' rule entry : NatEntry}
  {op : Op} {cnt : Nat}

/-! ## What a call does to an entry -/

/-- A connection comes into an entry that is free. `AddEntry` leaves the public address
that is there. -/
def Filled (m : Option Made) (e e' : NatEntry) : Prop :=
  e.isFree = true ∧ e'.isValid = true ∧
    ∃ made, m = some made ∧ e'.publicIp = if made.byCache then made.publicIp else e.publicIp

/-- The connection stays, and only one can be enabled. Or the entry is cleared, or filled. -/
inductive Change (m : Option Made) (e : NatEntry) : NatEntry → Prop
  | kept {e' : NatEntry} (hkey : e'.key = e.key) (haddr : e'.publicIp = e.publicIp)
      (hon : e'.enabled = true → e.enabled = true ∨ e.privateIp ≠ 0) : Change m e e'
  | cleared : Change m e .empty
  | filled {e' : NatEntry} (h : Filled m e e') : Change m e e'

theorem Change.refl (m : Option Made) (e : NatEntry) : Change m e e :=
  .kept rfl rfl .inl

/-- Every entry changes in one of these ways. -/
def Changes (m : Option Made) (s s' : FullNatApp) : Prop :=
  ∀ (cnt : Nat) (e' : NatEntry), s'.cache[cnt]? = some e' →
    ∃ e, s.cache[cnt]? = some e ∧ Change m e e'

theorem Changes.of_cache (h : s'.cache = s.cache) : Changes m s s' :=
  fun _ e' he' => ⟨e', h ▸ he', .refl m e'⟩

theorem Changes.overCache {turn : Nat → NatEntry → NatEntry × Int}
    (hcache : s'.cache = s.cache)
    (hturn : ∀ cnt e, s.cache[cnt]? = some e → Change m e (turn cnt e).1) :
    Changes m s (s'.overCache turn) := by
  intro cnt e' he'
  rw [overCache_getElem, hcache, Option.map_eq_some_iff] at he'
  obtain ⟨e, he, rfl⟩ := he'
  exact ⟨e, he, hturn cnt e he⟩

theorem setEntry_entrywise {R : NatEntry → NatEntry → Prop} (hrefl : ∀ e, R e e)
    (he : s.cache[cnt]? = some e) (hR : R e e') (more : Int) (j : Nat) (ej : NatEntry)
    (hj : (s.setEntry cnt e' more).cache[j]? = some ej) :
    ∃ e, s.cache[j]? = some e ∧ R e ej := by
  change (s.cache.set cnt e')[j]? = some ej at hj
  by_cases hcj : cnt = j
  · subst hcj
    rw [List.getElem?_set_self (List.getElem?_eq_some_iff.mp he).1] at hj
    exact ⟨e, he, Option.some.inj hj ▸ hR⟩
  · rw [List.getElem?_set_ne hcj] at hj
    exact ⟨ej, hj, hrefl ej⟩

theorem Changes.setEntry (he : s.cache[cnt]? = some e) (hchange : Change m e e') (more : Int) :
    Changes m s (s.setEntry cnt e' more) :=
  setEntry_entrywise (Change.refl m) he hchange more

/-- Entries are only filled. -/
def Fills (m : Option Made) (s s' : FullNatApp) : Prop :=
  ∀ (cnt : Nat) (e' : NatEntry), s'.cache[cnt]? = some e' →
    ∃ e, s.cache[cnt]? = some e ∧ (e' = e ∨ Filled m e e')

theorem Fills.changes (h : Fills m s s') : Changes m s s' := by
  intro cnt e' he'
  obtain ⟨e, he, rfl | hfilled⟩ := h cnt e' he'
  · exact ⟨e', he, .refl m e'⟩
  · exact ⟨e, he, .filled hfilled⟩

theorem Fills.of_cache (h : s'.cache = s.cache) : Fills m s s' :=
  fun _ e' he' => ⟨e', h ▸ he', .inl rfl⟩

theorem Fills.trans (h : Fills m s s') (h' : Fills m s' s'') : Fills m s s'' := by
  intro cnt e'' he''
  obtain ⟨e', he', rfl | hfilled'⟩ := h' cnt e'' he''
  · exact h cnt e'' he'
  · obtain ⟨e, he, rfl | hfilled⟩ := h cnt e' he'
    · exact ⟨e', he, .inr hfilled'⟩
    · have hfree := hfilled'.1
      have hused : e'.isFree = false := NatTableEntry.isFree_of_isValid hfilled.2.1
      exact absurd (hused.symm.trans hfree) Bool.false_ne_true

theorem isFree_of_findIdx (hfind : s.cache.findIdx? NatEntry.isFree = some cnt)
    (he : s.cache[cnt]? = some e) : e.isFree = true := by
  obtain ⟨e', he', hfree⟩ := NatCache.getElem_of_findIdx hfind
  rw [he] at he'
  exact Option.some.inj he' ▸ hfree

theorem Fills.setEntry (he : s.cache[cnt]? = some e) (hfilled : Filled m e e') (more : Int) :
    Fills m s (s.setEntry cnt e' more) :=
  setEntry_entrywise (R := fun e e' => e' = e ∨ Filled m e e') (fun _ => .inl rfl) he
    (.inr hfilled) more

theorem addEntry_fills (s : FullNatApp) (rule : NatEntry) (reply : Option Nat) {made : Made}
    (hmade : made.byCache = false) : Fills (some made) s (s.addEntry rule reply).2 := by
  have hfilled : ∀ (e : NatEntry) (enabled : Bool) (hdl : Nat), e.isFree = true →
      rule.isValid = true →
      Filled (some made) e (fill { e with enabled := enabled, ruleHdl := hdl } rule) := by
    intro e enabled hdl hfree hvalid
    refine ⟨hfree, hvalid, made, rfl, ?_⟩
    rw [hmade]
    rfl
  rw [addEntry]
  split
  · exact .of_cache rfl
  split
  · exact .of_cache rfl
  split
  · exact .of_cache rfl
  next hvalid =>
  have hvalid := eq_true_of_ne_false hvalid
  split
  · exact .of_cache rfl
  split
  · exact .of_cache rfl
  next cnt hfind =>
  split
  · exact .of_cache rfl
  next e he =>
  have hfree := isFree_of_findIdx hfind he
  split
  · exact .setEntry he (hfilled e false 0 hfree hvalid) 1
  split
  · exact .of_cache rfl
  · next hdl _ => exact .setEntry he (hfilled e true hdl hfree hvalid) 1

theorem cacheEntry_fills (s : FullNatApp) (rule : NatEntry) :
    Fills (some ⟨true, rule.publicIp⟩) s (s.cacheEntry rule) := by
  rw [cacheEntry]
  split
  · exact .of_cache rfl
  next hvalid =>
  split
  · exact .of_cache rfl
  split
  · exact .of_cache rfl
  next cnt hfind =>
  split
  · exact .of_cache rfl
  · next e he =>
    have hfilled : Filled (some ⟨true, rule.publicIp⟩) e
        { fill { e with enabled := false, ruleHdl := 0 } rule with
          publicIp := rule.publicIp } :=
      ⟨isFree_of_findIdx hfind he, eq_true_of_ne_false hvalid, _, rfl, rfl⟩
    exact .setEntry he hfilled 1

theorem flushTempEntry_fills {made : Made} (hmade : made.byCache = false) (s : FullNatApp)
    (ipAddr : Ip) (isAdd isDummy : Bool) (reply : Nat → Option Nat) (cnt : Nat) :
    Fills (some made) s (flushTempEntry ipAddr isAdd isDummy reply s cnt) := by
  rw [flushTempEntry]
  split
  · exact .of_cache rfl
  next entry _ =>
  split
  · split
    · generalize (if isDummy = true then
        { entry with privateIp := entry.publicIp, privatePort := entry.publicPort }
        else entry) = rule
      have hfills := addEntry_fills { s with temp := s.temp.set cnt rule } rule (reply cnt) hmade
      dsimp only
      split
      · next s' heq =>
        rw [heq] at hfills
        exact hfills
      · next s' heq =>
        rw [heq] at hfills
        exact hfills
    · exact .of_cache rfl
  · exact .of_cache rfl

theorem flushTempEntries_fills {made : Made} (hmade : made.byCache = false) (s : FullNatApp)
    (ipAddr : Ip) (isAdd isDummy : Bool) (reply : Nat → Option Nat) :
    Fills (some made) s (s.flushTempEntries ipAddr isAdd isDummy reply) := by
  rw [flushTempEntries]
  refine List.foldlRecOn (motive := Fills (some made) s) _ _ (.of_cache rfl)
    fun s' h cnt _ => ?_
  exact h.trans (flushTempEntry_fills hmade s' ipAddr isAdd isDummy reply cnt)

theorem addTable_changes (s : FullNatApp) (pubIp : Ip) (reply : TblReply) :
    Changes m s (s.addTable pubIp reply).2 := by
  rw [addTable]
  split
  · exact .of_cache rfl
  split
  · exact .of_cache rfl
  next hdl _ =>
  dsimp only
  split
  · have hloop : Changes m s (overCache (restoreEntry reply.ruleHdl)
        { s with natTableHdl := hdl }) := by
      refine .overCache rfl fun cnt e _ => ?_
      rw [restoreEntry]
      split
      · next hip =>
        split
        · exact .cleared
        · exact .kept rfl rfl fun _ => .inr hip
      · exact .refl m e
    exact hloop
  · exact .of_cache rfl

theorem deleteTable_changes (s : FullNatApp) (pubIp : Ip) (deleted : Bool) :
    Changes m s (s.deleteTable pubIp deleted).2 := by
  rw [deleteTable]
  split
  · exact .of_cache rfl
  split
  · exact .of_cache rfl
  split
  · intro cnt e' he'
    change (s.cache.map _)[cnt]? = some e' at he'
    rw [List.getElem?_map, Option.map_eq_some_iff] at he'
    obtain ⟨e, he, rfl⟩ := he'
    exact ⟨e, he, .kept rfl rfl nofun⟩
  · exact .of_cache rfl

theorem deleteEntry_changes (s : FullNatApp) (rule : NatEntry) (reply : Bool) :
    Changes m s (s.deleteEntry rule reply) := by
  rw [deleteEntry]
  split
  · exact .of_cache rfl
  · next cnt hfind =>
    obtain ⟨e, he, -⟩ := NatCache.getElem_of_findIdx hfind
    exact .setEntry he .cleared (-1)

theorem updatePwrSaveIf_changes (s : FullNatApp) (clientLanIp : Ip) (reply : Nat → Bool) :
    Changes m s (s.updatePwrSaveIf clientLanIp reply).2 := by
  rw [updatePwrSaveIf]
  split
  · exact .of_cache rfl
  split
  · exact .of_cache rfl
  refine .overCache rfl fun cnt e _ => ?_
  rw [savePower]
  split
  · split
    · exact .kept rfl rfl (by rintro ⟨⟩)
    · exact .refl m e
  · exact .refl m e

theorem resetPwrSaveIf_changes (s : FullNatApp) (clientLanIp : Ip) (reply : Nat → Option Nat) :
    Changes m s (s.resetPwrSaveIf clientLanIp reply) := by
  rw [resetPwrSaveIf]
  split
  · exact .of_cache rfl
  next hip =>
  refine .overCache rfl fun cnt e _ => ?_
  rw [resumePower]
  split
  · next hclient =>
    rw [Bool.and_eq_true, decide_eq_true_eq] at hclient
    split
    · exact .cleared
    · exact .kept rfl rfl fun _ => .inr (hclient.1 ▸ hip)
  · exact .refl m e

theorem delEntriesOnClntDiscon_changes (s : FullNatApp) (ipAddr : Ip) (reply : Nat → Bool) :
    Changes m s (s.delEntriesOnClntDiscon ipAddr reply).2 := by
  rw [delEntriesOnClntDiscon]
  split
  · exact .of_cache rfl
  refine .overCache rfl fun cnt e _ => ?_
  rw [dropRule]
  split
  · split
    · exact .kept rfl rfl (by rintro ⟨⟩)
    · exact .refl m e
  · exact .refl m e

theorem delEntriesOnSTAClntDiscon_changes (s : FullNatApp) (ipAddr : Ip) (reply : Nat → Bool) :
    Changes m s (s.delEntriesOnSTAClntDiscon ipAddr reply).2 := by
  rw [delEntriesOnSTAClntDiscon]
  split
  · exact .of_cache rfl
  refine .overCache rfl fun cnt e _ => ?_
  rw [dropEntry]
  split
  · split
    · exact .refl m e
    · exact .cleared
  · exact .refl m e

theorem addTempEntry_cache (s : FullNatApp) (newEntry : NatEntry) :
    (s.addTempEntry newEntry).cache = s.cache := by
  rw [addTempEntry]
  split
  · rfl
  split
  · rfl
  split
  · rfl
  split
  · rfl
  · rfl

theorem deleteTempEntry_cache (s : FullNatApp) (entry : NatEntry) :
    (s.deleteTempEntry entry).cache = s.cache := by
  rw [deleteTempEntry]
  split
  · rfl
  · rfl

/-! ## What `UpdateUDPTimeStamp` does -/

variable {touInstance : Bool} {reply : Nat → Option (BitVec 32)}

theorem refreshEntries_getElem (s : FullNatApp) (touInstance : Bool)
    (reply : Nat → Option (BitVec 32)) (cache : List NatEntry) (start cnt : Nat) :
    (s.refreshEntries touInstance reply start cache).2[cnt]? =
      cache[cnt]?.map fun e => (s.refreshEntry touInstance (reply (start + cnt)) e).2.2 := by
  induction cache generalizing start cnt with
  | nil => rfl
  | cons e cache ih =>
    rw [refreshEntries]
    dsimp only
    cases cnt with
    | zero => rfl
    | succ cnt =>
      rw [List.getElem?_cons_succ, List.getElem?_cons_succ, ih]
      rw [Nat.add_assoc, Nat.add_comm 1 cnt]

theorem refreshEntries_from (s : FullNatApp) (touInstance : Bool)
    (reply : Nat → Option (BitVec 32)) (cache : List NatEntry) (start : Nat) :
    (∀ j ∈ (s.refreshEntries touInstance reply start cache).1.queried, start ≤ j) ∧
      ∀ x ∈ (s.refreshEntries touInstance reply start cache).1.updated, start ≤ x.1 := by
  induction cache generalizing start with
  | nil => exact ⟨nofun, nofun⟩
  | cons e cache ih =>
    obtain ⟨hqueried, hupdated⟩ := ih (start + 1)
    rw [refreshEntries]
    dsimp only
    constructor
    · intro j hj
      split at hj
      · obtain rfl | hj := List.mem_cons.mp hj
        · exact Nat.le_refl j
        · exact Nat.le_of_succ_le (hqueried j hj)
      · exact Nat.le_of_succ_le (hqueried j hj)
    · intro x hx
      obtain hx | hx := List.mem_append.mp hx
      · obtain ⟨u, -, rfl⟩ := List.mem_map.mp hx
        exact Nat.le_refl start
      · exact Nat.le_of_succ_le (hupdated x hx)

theorem mem_queried_iff (s : FullNatApp) (touInstance : Bool)
    (reply : Nat → Option (BitVec 32)) (cache : List NatEntry) (start cnt : Nat) :
    start + cnt ∈ (s.refreshEntries touInstance reply start cache).1.queried ↔
      ∃ e, cache[cnt]? = some e ∧
        (s.refreshEntry touInstance (reply (start + cnt)) e).1 = true := by
  induction cache generalizing start cnt with
  | nil => exact ⟨nofun, fun ⟨_, h, _⟩ => absurd h nofun⟩
  | cons e cache ih =>
    have hnot : start ∉ (s.refreshEntries touInstance reply (start + 1) cache).1.queried :=
      fun h => Nat.not_succ_le_self start ((refreshEntries_from ..).1 start h)
    rw [refreshEntries]
    dsimp only
    cases cnt with
    | zero =>
      rw [Nat.add_zero]
      split
      · next hasked => simp [hasked]
      · next hasked => simp [hasked, hnot]
    | succ cnt =>
      have hrest := ih (start + 1) cnt
      rw [Nat.add_right_comm start 1 cnt] at hrest
      rw [List.getElem?_cons_succ, ← Nat.add_assoc, ← hrest]
      split
      · rw [List.mem_cons, or_iff_right (by omega)]
      · rfl

theorem updated_filter (s : FullNatApp) (touInstance : Bool)
    (reply : Nat → Option (BitVec 32)) (cache : List NatEntry) (start cnt : Nat) :
    (s.refreshEntries touInstance reply start cache).1.updated.filter
        (·.1 = start + cnt) =
      (cache[cnt]?.bind fun e =>
        (s.refreshEntry touInstance (reply (start + cnt)) e).2.1).toList.map
          fun u => (start + cnt, u) := by
  induction cache generalizing start cnt with
  | nil => rfl
  | cons e cache ih =>
    rw [refreshEntries]
    dsimp only
    rw [List.filter_append]
    cases cnt with
    | zero =>
      have hrest : (s.refreshEntries touInstance reply (start + 1) cache).1.updated.filter
          (·.1 = start + 0) = [] := by
        rw [List.filter_eq_nil_iff]
        intro x hx
        have hle := (refreshEntries_from ..).2 x hx
        simp only [Nat.add_zero, decide_eq_true_eq]
        omega
      rw [hrest, List.append_nil, List.filter_eq_self.mpr]
      · rfl
      · intro x hx
        obtain ⟨u, -, rfl⟩ := List.mem_map.mp hx
        exact decide_eq_true rfl
    | succ cnt =>
      have hrest := ih (start + 1) cnt
      rw [Nat.add_right_comm start 1 cnt] at hrest
      rw [List.getElem?_cons_succ, ← Nat.add_assoc, hrest, List.filter_eq_nil_iff.mpr]
      · rfl
      · intro x hx
        obtain ⟨u, -, rfl⟩ := List.mem_map.mp hx
        simp only [decide_eq_true_eq]
        omega

theorem updateUDPTimeStamp_changes (s : FullNatApp) (touInstance : Bool)
    (reply : Nat → Option (BitVec 32)) :
    Changes m s (s.updateUDPTimeStamp touInstance reply).2 := by
  intro cnt e' he'
  change (s.refreshEntries touInstance reply 0 s.cache).2[cnt]? = some e' at he'
  rw [refreshEntries_getElem, Option.map_eq_some_iff] at he'
  obtain ⟨e, he, rfl⟩ := he'
  refine ⟨e, he, ?_⟩
  rw [refreshEntry]
  split
  · split
    · exact .refl m e
    · split
      · exact .refl m e
      · rw [updateCTUdpTs]
        split
        · exact .kept rfl rfl .inl
        · exact .refl m e
  · exact .refl m e

theorem step_changes (s : FullNatApp) (op : Op) : Changes (op.made s) s (s.step op) := by
  cases op with
  | addTable pubIp reply => exact s.addTable_changes pubIp reply
  | deleteTable pubIp deleted => exact s.deleteTable_changes pubIp deleted
  | addEntry rule reply => exact (s.addEntry_fills rule reply rfl).changes
  | deleteEntry rule reply => exact s.deleteEntry_changes rule reply
  | cacheEntry rule => exact (s.cacheEntry_fills rule).changes
  | updateUDPTimeStamp touInstance reply => exact s.updateUDPTimeStamp_changes touInstance reply
  | updatePwrSaveIf clientLanIp reply => exact s.updatePwrSaveIf_changes clientLanIp reply
  | resetPwrSaveIf clientLanIp reply => exact s.resetPwrSaveIf_changes clientLanIp reply
  | delEntriesOnClntDiscon ipAddr reply => exact s.delEntriesOnClntDiscon_changes ipAddr reply
  | delEntriesOnSTAClntDiscon ipAddr reply =>
    exact s.delEntriesOnSTAClntDiscon_changes ipAddr reply
  | addTempEntry newEntry => exact .of_cache (s.addTempEntry_cache newEntry)
  | deleteTempEntry entry => exact .of_cache (s.deleteTempEntry_cache entry)
  | flushTempEntries ipAddr isAdd isDummy reply =>
    exact (flushTempEntries_fills rfl s ipAddr isAdd isDummy reply).changes

end FullNatApp

namespace Traced

open FullNatApp

variable {t : Traced} {op : Op} {reply : Nat → Option (BitVec 32)} {touInstance : Bool}

/-! ## What an entry tells of its connection -/

/-- An entry in use has the public address if it was given by `CacheEntry`, and else 0,
which its private address is not. An entry that is free is cleared. -/
def Tells (t : Traced) : Prop :=
  ∀ (cnt : Nat) (e : NatEntry), t.inst.cache[cnt]? = some e →
    if e.isFree then e.publicIp = 0 ∧ e.enabled = false ∧ e.privateIp = 0
    else e.privateIp ≠ 0 ∧ ∃ m, t.made cnt = some m ∧
      e.publicIp = if m.byCache then m.publicIp else 0

theorem new_tells (maxEntries : Nat) (pubIpAddrPre : Ip) (pwrSaveIfs : List Ip)
    (algPorts : List (BitVec 8 × Port)) :
    (new maxEntries pubIpAddrPre pwrSaveIfs algPorts).Tells := by
  intro cnt e he
  obtain rfl : e = .empty := List.eq_of_mem_replicate (List.mem_of_getElem? he)
  rw [if_pos (by decide)]
  exact ⟨rfl, rfl, rfl⟩

theorem isFree_congr {e e' : NatEntry} (h : e'.key = e.key) : e'.isFree = e.isFree := by
  simp only [NatEntry.key] at h
  rw [NatEntry.isFree, NatEntry.isFree, NatTableEntry.isFree, NatTableEntry.isFree, h]

theorem taken_iff {s : FullNatApp} {cnt : Nat} {e : NatEntry} (h : s.cache[cnt]? = some e) :
    s.taken cnt = !e.isFree := by
  rw [taken, h]
  rfl

theorem Tells.step (h : t.Tells) (op : Op) : (t.step op).Tells := by
  intro cnt e' he'
  obtain ⟨e, he, hchange⟩ := t.inst.step_changes op cnt e' he'
  have hbefore := h cnt e he
  have hmade : (t.step op).made cnt =
      if e'.isFree then none else if e.isFree then op.made t.inst else t.made cnt := by
    have htaken : (t.inst.step op).taken cnt = !e'.isFree := taken_iff he'
    show (if (t.inst.step op).taken cnt then _ else _) = _
    rw [htaken, taken_iff he]
    cases e'.isFree <;> cases e.isFree <;> rfl
  rw [hmade]
  cases hchange with
  | kept hkey haddr hon =>
    have hip : e'.privateIp = e.privateIp := congrArg Prod.fst hkey
    rw [isFree_congr hkey, haddr, hip]
    cases hfree : e.isFree with
    | true =>
      rw [hfree, if_pos rfl] at hbefore
      rw [if_pos rfl]
      refine ⟨hbefore.1, Bool.eq_false_iff.mpr fun hon' => ?_, hbefore.2.2⟩
      obtain hon | hne := hon hon'
      · rw [hbefore.2.1] at hon
        exact absurd hon Bool.false_ne_true
      · exact hne hbefore.2.2
    | false =>
      rw [hfree, if_neg Bool.false_ne_true] at hbefore
      simpa using hbefore
  | cleared =>
    rw [if_pos (by decide)]
    exact ⟨rfl, rfl, rfl⟩
  | filled hfilled =>
    obtain ⟨hfree, hvalid, made, hop, haddr⟩ := hfilled
    rw [hfree, if_pos rfl] at hbefore
    have hused : e'.isFree = false := NatTableEntry.isFree_of_isValid hvalid
    rw [hused, hfree, hop, haddr, hbefore.1]
    refine ⟨?_, made, rfl, rfl⟩
    have hip : e'.isValid = true := hvalid
    simp only [NatEntry.isValid, NatTableEntry.isValid, Bool.and_eq_true,
      decide_eq_true_eq] at hip
    exact hip.1.1.1.1

theorem run_tells (h : t.Tells) (ops : List Op) : (ops.foldl step t).Tells :=
  foldl_invariant Tells (fun _ => True) (fun _ op ht _ => ht.step op) h ops fun _ _ => trivial

/-! ## Refreshing -/

variable {cnt : Nat} {entry : NatEntry}

theorem mem_queried (hget : t.inst.cache[cnt]? = some entry) (hon : entry.enabled = true) :
    cnt ∈ (t.inst.updateUDPTimeStamp touInstance reply).1.queried ↔
      entry.privateIp ≠ entry.publicIp := by
  have hiff := mem_queried_iff t.inst touInstance reply t.inst.cache 0 cnt
  rw [Nat.zero_add] at hiff
  refine hiff.trans ?_
  rw [hget]
  constructor
  · rintro ⟨e, he, hasked⟩ heq
    obtain rfl := Option.some.inj he
    rw [refreshEntry, heq] at hasked
    simp at hasked
  · intro hne
    refine ⟨entry, rfl, ?_⟩
    rw [refreshEntry, hon, if_pos (by simpa using hne)]
    split
    · rfl
    · split
      · rfl
      · rfl

theorem updated_of_dummy (hget : t.inst.cache[cnt]? = some entry)
    (heq : entry.privateIp = entry.publicIp) (u : NatTimeoutUpdate) :
    (cnt, u) ∉ (t.inst.updateUDPTimeStamp touInstance reply).1.updated := by
  intro hu
  have hfilter := updated_filter t.inst touInstance reply t.inst.cache 0 cnt
  rw [Nat.zero_add, hget, Option.bind_some, refreshEntry, heq] at hfilter
  have hmem : (cnt, u) ∈ (t.inst.refreshEntries touInstance reply 0
      t.inst.cache).1.updated.filter (·.1 = cnt) :=
    List.mem_filter.mpr ⟨hu, decide_eq_true rfl⟩
  rw [hfilter] at hmem
  simp at hmem

theorem updated_of_changed (hget : t.inst.cache[cnt]? = some entry)
    (hon : entry.enabled = true) (hne : entry.privateIp ≠ entry.publicIp)
    (hchanged : t.Changed reply cnt entry) :
    (t.inst.updateUDPTimeStamp touInstance reply).1.updated.filter (·.1 = cnt) =
      if touInstance then [(cnt, t.inst.timeoutUpdate entry)] else [] := by
  obtain ⟨ts, hts, hneTs⟩ := hchanged
  have hfilter := updated_filter t.inst touInstance reply t.inst.cache 0 cnt
  rw [Nat.zero_add, hget, Option.bind_some, refreshEntry, hon, if_pos (by simpa using hne),
    hts] at hfilter
  dsimp only at hfilter
  rw [if_neg (Ne.symm hneTs), updateCTUdpTs] at hfilter
  refine hfilter.trans ?_
  cases touInstance <;> rfl

theorem Tells.dummy_iff (h : t.Tells) (hget : t.inst.cache[cnt]? = some entry)
    (hon : entry.enabled = true) :
    entry.privateIp = entry.publicIp ↔
      t.Dummy cnt entry ∧ ∃ m, t.made cnt = some m ∧ m.byCache = true := by
  have htells := h cnt entry hget
  have hused : entry.isFree = false := by
    by_contra hfree
    rw [if_pos (eq_true_of_ne_false hfree)] at htells
    rw [htells.2.1] at hon
    exact absurd hon Bool.false_ne_true
  rw [hused, if_neg Bool.false_ne_true] at htells
  obtain ⟨hne, m, hmade, haddr⟩ := htells
  constructor
  · intro heq
    cases hcache : m.byCache with
    | true =>
      rw [hcache, if_pos rfl] at haddr
      exact ⟨⟨m, hmade, heq.trans haddr⟩, m, hmade, hcache⟩
    | false =>
      rw [hcache, if_neg Bool.false_ne_true] at haddr
      exact absurd (heq.trans haddr) hne
  · rintro ⟨⟨m', hmade', heq⟩, m'', hmade'', hcache⟩
    rw [hmade] at hmade' hmade''
    obtain rfl := Option.some.inj hmade'
    obtain rfl := Option.some.inj hmade''
    rw [hcache, if_pos rfl] at haddr
    exact heq.trans haddr.symm

theorem Tells.refreshes_iff (h : t.Tells) (touInstance : Bool)
    (reply : Nat → Option (BitVec 32)) :
    t.Refreshes reply (t.inst.updateUDPTimeStamp touInstance reply).1 ↔
      t.Recorded touInstance reply := by
  constructor
  · intro hrefreshes
    refine ⟨fun cnt entry hget hon hdummy => ?_, fun cnt entry hget hon hgenuine hchanged => ?_⟩
    · have hnot := (hrefreshes.dummy cnt entry hget hon hdummy).1
      rw [mem_queried hget hon, not_not] at hnot
      exact ((h.dummy_iff hget hon).mp hnot).2
    · have hupdated := hrefreshes.genuine cnt entry hget hon hgenuine hchanged
      have hne : entry.privateIp ≠ entry.publicIp := fun heq =>
        hgenuine ((h.dummy_iff hget hon).mp heq).1
      rw [updated_of_changed hget hon hne hchanged] at hupdated
      by_contra hnone
      rw [if_neg hnone] at hupdated
      exact absurd hupdated nofun
  · intro hrecorded
    refine ⟨fun cnt entry hget hon hdummy => ?_, fun cnt entry hget hon hgenuine hchanged => ?_⟩
    · have heq := (h.dummy_iff hget hon).mpr
        ⟨hdummy, hrecorded.dummy cnt entry hget hon hdummy⟩
      exact ⟨fun hmem => (mem_queried hget hon).mp hmem heq, updated_of_dummy hget heq⟩
    · have hne : entry.privateIp ≠ entry.publicIp := fun heq =>
        hgenuine ((h.dummy_iff hget hon).mp heq).1
      rw [updated_of_changed hget hon hne hchanged,
        if_pos (hrecorded.genuine cnt entry hget hon hgenuine hchanged)]

/-- After every run of calls, `UpdateUDPTimeStamp` refreshes what it should iff the enabled
dummy rules were added by `CacheEntry`, and an updater is registered if anything else is
to be refreshed. -/
theorem run_refreshes_iff (maxEntries : Nat) (pubIpAddrPre : Ip) (pwrSaveIfs : List Ip)
    (algPorts : List (BitVec 8 × Port)) (ops : List Op) (touInstance : Bool)
    (reply : Nat → Option (BitVec 32)) :
    let t := ops.foldl step (new maxEntries pubIpAddrPre pwrSaveIfs algPorts)
    t.Refreshes reply (t.inst.updateUDPTimeStamp touInstance reply).1 ↔
      t.Recorded touInstance reply :=
  (run_tells (new_tells maxEntries pubIpAddrPre pwrSaveIfs algPorts) ops).refreshes_iff
    touInstance reply

/-- A dummy rule is added to a table. -/
def dummyAdded : List Op :=
  [.addTable 0x0A000001 ⟨some ⟨1, Nat.one_ne_zero⟩, fun _ => none⟩,
    .addEntry ⟨0x0A000001, 5000, 0x08080808, 53, 0x0A000001, 5000, 17, 0, false, false, 0⟩
      (some 7)]

/-- It is asked for its time stamp. -/
theorem dummyAdded_not_refreshes :
    let t := dummyAdded.foldl step (new 1 0 [] [])
    ¬ t.Refreshes (fun _ => some 1) (t.inst.updateUDPTimeStamp true fun _ => some 1).1 := by
  intro t h
  have hdummy := h.dummy 0
    ⟨0x0A000001, 5000, 0x08080808, 53, 0, 5000, 17, 0, false, true, 7⟩ (by decide) rfl
    ⟨⟨false, 0x0A000001⟩, by decide, rfl⟩
  exact hdummy.1 (by decide)

end Traced

end Axon7.Conntrack
