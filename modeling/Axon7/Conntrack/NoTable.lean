import Axon7.Conntrack.Asleep
import Axon7.Conntrack.Flush
import Axon7.Conntrack.PublicAddr

/-!
# Connections that wait for a table

Without a table in the driver the connections are cached, for the next table of the
address of the one before. `AddEntry` and `DeleteTable` look whether there is a table.
`ResetPwrSaveIf` does not: it asks the driver to add the rules of the client, and an entry
whose rule cannot be added is cleared.
-/

namespace Axon7.Conntrack

namespace NatCache

open NatTableEntry

/-- The connection in that entry waits: it is cached, and not enabled. -/
def Waits (c : NatCache) (cnt : Nat) (entry : NatTableEntry) : Prop :=
  c.cache[cnt]? = some entry ∧ entry.privateIp ≠ 0 ∧ entry.enabled = false

/-- A new table for the address of the one before, with a rule added for the entry, has
the connection. -/
def Installs (c : NatCache) (cnt : Nat) (entry : NatTableEntry) : Prop :=
  ∀ (reply : NewTblReply) (hdl : Nat), reply.ruleHdl cnt = some hdl →
    (c.addTable c.pubIpAddrPre reply).1 = true →
    (c.addTable c.pubIpAddrPre reply).2.rules hdl = some entry.natRule ∧
      ∃ entry', (c.addTable c.pubIpAddrPre reply).2.cache[cnt]? = some entry' ∧
        entry'.natRule = entry.natRule ∧ entry'.enabled = true ∧ entry'.ruleHdl = hdl

/-- All that waits in `c` is still cached in `c'`, and is installed by the next table for
the same address. -/
structure Survives (c c' : NatCache) : Prop where
  cached : ∀ cnt entry, c.Waits cnt entry →
    ∃ entry', c'.cache[cnt]? = some entry' ∧ entry'.natRule = entry.natRule
  addr : c'.pubIpAddrPre = c.pubIpAddrPre
  installs : ∀ cnt entry, c.Waits cnt entry → c'.Installs cnt entry

/-- The calls that try to enable entries, or to disable them. -/
inductive Op.Enabling : Op → Prop
  | reset (clientLanIp : Ip) (reply : Nat → Option Nat) :
      Enabling (.resetPwrSaveIf clientLanIp reply)
  | update (clientLanIp : Ip) : Enabling (.updatePwrSaveIf clientLanIp)
  | flush (ipAddr : Ip) (isDummy : Bool) (reply : Nat → Option Nat) :
      Enabling (.flushTempEntries ipAddr true isDummy reply)

/-- A client that leaves power save has a connection that waits. -/
def Wakes (c : NatCache) : Op → Prop
  | .resetPwrSaveIf clientLanIp _ =>
    clientLanIp ≠ 0 ∧ ∃ cnt entry, c.Waits cnt entry ∧ entry.privateIp = clientLanIp
  | _ => False

variable {c c' : NatCache} {cnt : Nat} {entry : NatTableEntry} {op : Op}

/-! ## A new table -/

theorem restoreRules_get {ruleHdl : Nat → Option Nat}
    (hfresh : ∀ i j hdl, ruleHdl i = some hdl → ruleHdl j = some hdl → i = j) {hdl : Nat}
    (hip : entry.privateIp ≠ 0) :
    ∀ {cache : List NatTableEntry} {start cnt : Nat} {rules : NatRules},
      cache[cnt]? = some entry → ruleHdl (start + cnt) = some hdl →
      restoreRules ruleHdl start cache rules hdl = some entry.natRule := by
  have hlater : ∀ {cache : List NatTableEntry} {start : Nat} {rules : NatRules},
      (∀ k, ruleHdl (start + k) ≠ some hdl) →
      restoreRules ruleHdl start cache rules hdl = rules hdl := by
    intro cache
    induction cache with
    | nil => exact fun _ => rfl
    | cons e cache ih =>
      intro start rules hnot
      rw [restoreRules, ih fun k => by rw [Nat.add_assoc]; exact hnot (1 + k)]
      split
      · cases hreply : ruleHdl start with
        | none => rfl
        | some hdl' =>
          refine Function.update_of_ne ?_ _ _
          rintro rfl
          exact hnot 0 hreply
      · rfl
  intro cache
  induction cache with
  | nil => exact fun hget => absurd hget (by rintro ⟨⟩)
  | cons e cache ih =>
    intro start cnt rules hget hreply
    rw [restoreRules]
    cases cnt with
    | zero =>
      obtain rfl := Option.some.inj hget
      rw [hlater, if_pos hip]
      · rw [Nat.add_zero] at hreply
        rw [hreply]
        exact Function.update_self ..
      · intro k hk
        have heq := hfresh _ _ hdl hk hreply
        omega
    | succ cnt =>
      refine ih hget ?_
      rw [Nat.add_assoc, Nat.add_comm 1 cnt]
      exact hreply

theorem installs_of_cached {entry' : NatTableEntry} (hget : c.cache[cnt]? = some entry')
    (hip : entry'.privateIp ≠ 0) (hrule : entry'.natRule = entry.natRule) :
    c.Installs cnt entry := by
  intro reply hdl hreply hok
  have hsize : c.noEntries = false := by
    by_contra hsize
    rw [addTable, NatApp.addTable, if_pos (eq_true_of_ne_false hsize)] at hok
    exact absurd hok Bool.false_ne_true
  cases htbl : reply.tbl with
  | none =>
    rw [addTable, NatApp.addTable, hsize, htbl] at hok
    exact absurd hok Bool.false_ne_true
  | some tbl =>
    rw [addTable, NatApp.addTable, hsize, htbl]
    simp only [Bool.false_eq_true, if_false, if_true, decide_true, Bool.and_self]
    have hcnt : reply.ruleHdl (0 + cnt) = some hdl := by rw [Nat.zero_add, hreply]
    refine ⟨?_, entry'.on hdl, ?_, hrule, rfl, rfl⟩
    · rw [restoreRules_get reply.fresh hip hget hcnt, hrule]
    · rw [restore_getElem, hget, hcnt, Option.map_some, NatApp.restoreEntry, if_pos hip]
      rfl

theorem survives_of_cache (hcache : c'.cache = c.cache)
    (haddr : c'.pubIpAddrPre = c.pubIpAddrPre) : Survives c c' where
  cached _ entry hwaits := ⟨entry, hcache ▸ hwaits.1, rfl⟩
  addr := haddr
  installs _ _ hwaits := installs_of_cached (hcache ▸ hwaits.1) hwaits.2.1 rfl

/-! ## The calls without a table -/

/-- The cache is as in `c`, and there is no table. -/
structure Idle (c c' : NatCache) : Prop where
  cache : c'.cache = c.cache
  addr : c'.pubIpAddrPre = c.pubIpAddrPre
  tbl : c'.natTableHdl = 0

theorem updatePwrSaveIf_idle (htbl : c.natTableHdl = 0) (clientLanIp : Ip) :
    Idle c (c.updatePwrSaveIf clientLanIp).2 := by
  rw [updatePwrSaveIf]
  split
  · exact ⟨rfl, rfl, htbl⟩
  split
  · exact ⟨rfl, rfl, htbl⟩
  · refine overCache_rec (P := Idle c) (fun c' cnt entry h _ => ?_) ⟨rfl, rfl, htbl⟩
    rw [savePower]
    split
    · rw [ipaNatDelIpv4Rule, if_pos h.tbl]
      exact h
    · exact h

theorem flushTempEntries_idle (htbl : c.natTableHdl = 0) (ipAddr : Ip) (isAdd isDummy : Bool)
    (reply : Nat → Option Nat) :
    Idle c (c.flushTempEntries ipAddr isAdd isDummy reply) := by
  rw [flushTempEntries]
  refine List.foldlRecOn (motive := Idle c) _ _ ⟨rfl, rfl, htbl⟩ fun c' h cnt _ => ?_
  have hfail : ∀ (temp : List TempEntry) (rule : NatTableEntry) (r : Option Nat),
      { c' with temp := temp }.addEntry rule r = (false, { c' with temp := temp }) :=
    fun _ _ _ => if_pos h.tbl
  rw [flushTempEntry]
  split
  · exact h
  split
  · split
    · dsimp only
      rw [hfail]
      exact ⟨h.cache, h.addr, h.tbl⟩
    · exact ⟨h.cache, h.addr, h.tbl⟩
  · exact h

/-- What a turn of the loop of `ResetPwrSaveIf` makes of an entry without a table. -/
def wiped (clientLanIp : Ip) (entry : NatTableEntry) : NatTableEntry :=
  if entry.privateIp = clientLanIp && !entry.enabled then .empty else entry

theorem resumePower_wipes (htbl : c.natTableHdl = 0) (hget : c.cache[cnt]? = some entry)
    (clientLanIp : Ip) (reply : Nat → Option Nat) :
    (resumePower clientLanIp reply cnt entry c).cache =
        c.cache.set cnt (wiped clientLanIp entry) ∧
      (resumePower clientLanIp reply cnt entry c).pubIpAddrPre = c.pubIpAddrPre ∧
      (resumePower clientLanIp reply cnt entry c).natTableHdl = 0 := by
  rw [resumePower, wiped]
  split
  · have hrefused : c.ipaNatAddIpv4Rule entry.natRule (reply cnt) = none := if_pos htbl
    rw [hrefused]
    exact ⟨rfl, rfl, htbl⟩
  · obtain ⟨hlt, rfl⟩ := List.getElem?_eq_some_iff.mp hget
    exact ⟨(List.set_getElem_self hlt).symm, rfl, htbl⟩

theorem resetLoop_spec (htbl : c.natTableHdl = 0) (clientLanIp : Ip)
    (reply : Nat → Option Nat) (n : Nat) :
    let c' := (List.range n).foldl (fun c cnt =>
      match c.cache[cnt]? with
      | none => c
      | some entry => resumePower clientLanIp reply cnt entry c) c
    c'.natTableHdl = 0 ∧ c'.pubIpAddrPre = c.pubIpAddrPre ∧
      ∀ j : Nat, c'.cache[j]? =
        if j < n then c.cache[j]?.map (wiped clientLanIp) else c.cache[j]? := by
  induction n with
  | zero => exact ⟨htbl, rfl, fun _ => rfl⟩
  | succ n ih =>
    obtain ⟨htbl', haddr, hcells⟩ := ih
    rw [List.range_succ, List.foldl_concat]
    dsimp only
    split
    · next hnone =>
      refine ⟨htbl', haddr, fun j => ?_⟩
      by_cases hj : j = n
      · subst hj
        rw [hnone, if_pos (Nat.lt_succ_self j)]
        rw [hcells j, if_neg (Nat.lt_irrefl j)] at hnone
        rw [hnone]
        rfl
      · rw [hcells j]
        have hiff : j < n + 1 ↔ j < n := by omega
        simp only [hiff]
    · next entry hget =>
      obtain ⟨hcache, haddr', htbl''⟩ := resumePower_wipes htbl' hget clientLanIp reply
      refine ⟨htbl'', haddr'.trans haddr, fun j => ?_⟩
      rw [hcache]
      by_cases hj : j = n
      · subst hj
        rw [List.getElem?_set_self (List.getElem?_eq_some_iff.mp hget).1,
          if_pos (Nat.lt_succ_self j)]
        rw [hcells j, if_neg (Nat.lt_irrefl j)] at hget
        rw [hget]
        rfl
      · rw [List.getElem?_set_ne (Ne.symm hj), hcells j]
        have hiff : j < n + 1 ↔ j < n := by omega
        simp only [hiff]

theorem resetPwrSaveIf_cells (htbl : c.natTableHdl = 0) {clientLanIp : Ip}
    (hip : clientLanIp ≠ 0) (reply : Nat → Option Nat) :
    (c.resetPwrSaveIf clientLanIp reply).pubIpAddrPre = c.pubIpAddrPre ∧
      ∀ j : Nat, (c.resetPwrSaveIf clientLanIp reply).cache[j]? =
        c.cache[j]?.map (wiped clientLanIp) := by
  rw [resetPwrSaveIf, if_neg hip]
  dsimp only
  rw [overCache]
  have hspec := resetLoop_spec
    (c := { c with pwrSaveIfs := c.pwrSaveIfs.replace clientLanIp 0 }) htbl clientLanIp reply
    c.cache.length
  refine ⟨hspec.2.1, fun j => (hspec.2.2 j).trans ?_⟩
  split
  · rfl
  · next hj =>
    rw [List.getElem?_eq_none (Nat.le_of_not_lt hj)]
    rfl

/-- Without a table, a call that tries to enable or to disable entries leaves everything
cached iff it is not for a client that leaves power save and has something that waits. -/
theorem noTable_survives_iff (c : NatCache) (htbl : c.natTableHdl = 0) (op : Op)
    (hop : op.Enabling) : Survives c (c.step op) ↔ ¬ c.Wakes op := by
  cases hop with
  | update clientLanIp =>
    have hidle := updatePwrSaveIf_idle htbl clientLanIp
    exact ⟨fun _ h => h, fun _ => survives_of_cache hidle.cache hidle.addr⟩
  | flush ipAddr isDummy reply =>
    have hidle := flushTempEntries_idle htbl ipAddr true isDummy reply
    exact ⟨fun _ h => h, fun _ => survives_of_cache hidle.cache hidle.addr⟩
  | reset clientLanIp reply =>
    by_cases hip : clientLanIp = 0
    · have hsame : c.step (.resetPwrSaveIf clientLanIp reply) = c := if_pos hip
      rw [hsame]
      exact ⟨fun _ h => h.1 hip, fun _ => survives_of_cache rfl rfl⟩
    · obtain ⟨haddr, hcells⟩ := resetPwrSaveIf_cells htbl hip reply
      constructor
      · rintro h ⟨-, cnt, entry, hwaits, hclient⟩
        obtain ⟨entry', hget, hrule⟩ := h.cached cnt entry hwaits
        have hwiped : wiped clientLanIp entry = .empty := by
          rw [wiped, hclient, hwaits.2.2]
          simp
        change (c.resetPwrSaveIf clientLanIp reply).cache[cnt]? = some entry' at hget
        rw [hcells cnt, hwaits.1, Option.map_some, hwiped] at hget
        rw [← Option.some.inj hget] at hrule
        exact hwaits.2.1 (congrArg NatRule.privateIp hrule).symm
      · intro hnone
        refine survives_of_cache (List.ext_getElem? fun j => (hcells j).trans ?_) haddr
        cases hget : c.cache[j]? with
        | none => rfl
        | some entry =>
          rw [Option.map_some, wiped, if_neg]
          rw [Bool.and_eq_true, decide_eq_true_eq, Bool.not_eq_true']
          rintro ⟨hclient, hoff⟩
          have hne : entry.privateIp ≠ 0 := hclient ▸ hip
          exact hnone ⟨hip, j, entry, ⟨hget, hne, hoff⟩, hclient⟩

/-- The phone has a connection cached, and there is no table. -/
def phoneWaits : NatCache :=
  (NatCache.new 2 0 [0, 0] []).step
    (.cacheEntry ⟨0xC0A80002, 5000, 0x08080808, 53, 5000, 17, false, 0⟩)

theorem phoneWaits_enters :
    Survives phoneWaits (phoneWaits.step (.updatePwrSaveIf 0xC0A80002)) :=
  (noTable_survives_iff phoneWaits (by decide) _ (.update 0xC0A80002)).mpr fun h => h

/-- It leaves power save: the connection is cleared. -/
theorem phoneWaits_leaves :
    ¬ Survives phoneWaits (phoneWaits.step (.resetPwrSaveIf 0xC0A80002 fun _ => none)) := by
  intro h
  obtain ⟨entry', hget, hrule⟩ := h.cached 0
    ⟨0xC0A80002, 5000, 0x08080808, 53, 5000, 17, false, 0⟩ (by
      exact ⟨by decide, by decide, by decide⟩)
  have hcleared : (phoneWaits.step (.resetPwrSaveIf 0xC0A80002 fun _ => none)).cache[0]? =
      some .empty := by decide
  rw [hcleared] at hget
  rw [← Option.some.inj hget] at hrule
  exact absurd hrule (by decide)

end NatCache

end Axon7.Conntrack
