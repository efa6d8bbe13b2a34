import Axon7.Conntrack.NatCache
import Axon7.Lib.Run
import Axon7.Lib.SlotSet

/-!
# Clients that save power have no rules

`AddEntry` leaves a connection of a client that saves power out of the table, and
`UpdatePwrSaveIf` takes out those that are in. `AddTable` does not look: a table for
the address of the one before gets all rules back. The driver is left free here to
have lost rules, and so to refuse any deletion.
-/

namespace Axon7.Conntrack

open Axon7.Lib

namespace NatCache

variable {c c' : NatCache} {entry rule : NatTableEntry} {ip : Ip} {cnt : Nat}

/-- No entry of a client that saves power is enabled. -/
def Asleep (c : NatCache) : Prop :=
  ∀ entry ∈ c.cache, entry.enabled = true → c.isPwrSaveIf entry.privateIp = false

theorem isPwrSaveIf_eq_true : c.isPwrSaveIf ip = true ↔ ip ≠ 0 ∧ ip ∈ c.pwrSaveIfs := by
  simp only [isPwrSaveIf, List.any_eq_true, Bool.and_eq_true, decide_eq_true_eq]
  constructor
  · rintro ⟨x, hx, hne, rfl⟩
    exact ⟨Ne.symm hne, hx⟩
  · intro ⟨hne, hmem⟩
    exact ⟨ip, hmem, Ne.symm hne, rfl⟩

theorem isPwrSaveIf_eq_false : c.isPwrSaveIf ip = false ↔ (ip ≠ 0 → ip ∉ c.pwrSaveIfs) := by
  rw [← Bool.not_eq_true, isPwrSaveIf_eq_true, not_and]

theorem Asleep.mono (h : c.Asleep)
    (hcache : ∀ e ∈ c'.cache, e.enabled = true →
      ∃ e₀ ∈ c.cache, e₀.enabled = true ∧ e₀.privateIp = e.privateIp)
    (hifs : ∀ ip, ip ≠ 0 → ip ∈ c'.pwrSaveIfs → ip ∈ c.pwrSaveIfs) : c'.Asleep := by
  intro e he hon
  obtain ⟨e₀, he₀, hon₀, heq⟩ := hcache e he hon
  have hawake := isPwrSaveIf_eq_false.mp (h e₀ he₀ hon₀)
  rw [heq] at hawake
  exact isPwrSaveIf_eq_false.mpr fun hne hmem => hawake hne (hifs _ hne hmem)

theorem Asleep.write (h : c.Asleep) {curCnt : Int} {rules : NatRules}
    (hentry : entry.enabled = true → c.isPwrSaveIf entry.privateIp = false) :
    (c.write cnt entry curCnt rules).Asleep := by
  intro e he
  obtain he | rfl := List.mem_or_eq_of_mem_set he
  · exact h e he
  · exact hentry

theorem Asleep.write_off (h : c.Asleep) {curCnt : Int} {rules : NatRules}
    (hoff : entry.enabled = false) : (c.write cnt entry curCnt rules).Asleep :=
  h.write fun hon => absurd (hoff.symm.trans hon) Bool.false_ne_true

theorem overCache_rec {P : NatCache → Prop} {turn : Nat → NatTableEntry → NatCache → NatCache}
    (hturn : ∀ c cnt entry, P c → c.cache[cnt]? = some entry → P (turn cnt entry c))
    (h : P c) : P (c.overCache turn) := by
  rw [overCache]
  refine List.foldlRecOn (motive := P) _ _ h fun c h cnt _ => ?_
  split
  · exact h
  · rename_i entry hentry
    exact hturn c cnt entry h hentry

/-! ## The calls -/

theorem Asleep.deleteEntry (h : c.Asleep) : (c.deleteEntry rule).Asleep := by
  unfold NatCache.deleteEntry
  split
  · exact h
  · split
    · exact h
    · exact h.write_off rfl

theorem Asleep.cacheEntry (h : c.Asleep) : (c.cacheEntry rule).Asleep := by
  unfold NatCache.cacheEntry
  split
  · exact h
  split
  · exact h
  split
  · exact h
  · exact h.write_off rfl

theorem Asleep.addEntry (h : c.Asleep) (rule : NatTableEntry) (reply : Option Nat) :
    (c.addEntry rule reply).2.Asleep := by
  unfold NatCache.addEntry
  split
  · exact h
  split
  · exact h
  split
  · exact h
  split
  · exact h
  split
  · exact h
  split
  · exact h.write_off rfl
  · rename_i hawake
    rw [Bool.or_eq_true, not_or] at hawake
    split
    · exact h
    · exact h.write fun _ => (Bool.not_eq_true _).mp hawake.1

theorem Asleep.addTempEntry (h : c.Asleep) {newEntry : TempEntry} :
    (c.addTempEntry newEntry).Asleep := by
  unfold NatCache.addTempEntry
  split
  · exact h
  split
  · exact h
  split
  · exact h
  split
  · exact h
  · exact h

theorem Asleep.deleteTempEntry (h : c.Asleep) : (c.deleteTempEntry entry).Asleep := by
  unfold NatCache.deleteTempEntry
  split
  · exact h
  · exact h

theorem Asleep.flushTempEntry (h : c.Asleep) {isAdd isDummy : Bool}
    {reply : Nat → Option Nat} : (flushTempEntry ip isAdd isDummy reply c cnt).Asleep := by
  unfold NatCache.flushTempEntry
  split
  · exact h
  split
  · split
    · rename_i entry _ _ _
      generalize (if isDummy = true then ({ entry with
        privateIp := entry.publicIp
        privatePort := entry.publicPort } : TempEntry) else entry) = entry'
      have hset : ({ c with temp := c.temp.set cnt entry' } : NatCache).Asleep := h
      have hadd := hset.addEntry entry'.toNatTableEntry (reply cnt)
      dsimp only
      split
      · rename_i heq
        rw [heq] at hadd
        exact hadd
      · rename_i heq
        rw [heq] at hadd
        exact hadd
    · exact h
  · exact h

theorem Asleep.flushTempEntries (h : c.Asleep) {isAdd isDummy : Bool}
    {reply : Nat → Option Nat} : (c.flushTempEntries ip isAdd isDummy reply).Asleep := by
  unfold NatCache.flushTempEntries
  exact List.foldlRecOn (motive := Asleep) _ _ h fun c h cnt _ => h.flushTempEntry

theorem Asleep.forget (h : c.Asleep) (ip : Ip) :
    ({ c with pwrSaveIfs := c.pwrSaveIfs.replace ip 0 } : NatCache).Asleep :=
  h.mono (fun e he hon => ⟨e, he, hon, rfl⟩) fun _ hne hmem => mem_of_mem_replace hmem hne

theorem Asleep.delEntriesOnClntDiscon (h : c.Asleep) :
    (c.delEntriesOnClntDiscon ip).2.Asleep := by
  unfold NatCache.delEntriesOnClntDiscon
  split
  · exact h
  · refine overCache_rec (fun c cnt entry h hentry => ?_) (h.forget ip)
    unfold dropRule
    split
    · split
      · exact h
      · exact h.write_off rfl
    · exact h

theorem Asleep.delEntriesOnSTAClntDiscon (h : c.Asleep) :
    (c.delEntriesOnSTAClntDiscon ip).2.Asleep := by
  unfold NatCache.delEntriesOnSTAClntDiscon
  split
  · exact h
  · refine overCache_rec (fun c cnt entry h hentry => ?_) h
    unfold dropEntry
    split
    · split
      · split
        · exact h
        · exact h.write_off rfl
      · exact h.write_off rfl
    · exact h

theorem Asleep.resetPwrSaveIf (h : c.Asleep) {reply : Nat → Option Nat}
    (honce : c.pwrSaveIfs.count ip ≤ 1) : (c.resetPwrSaveIf ip reply).Asleep := by
  unfold NatCache.resetPwrSaveIf
  split
  · exact h
  · rename_i hip
    have hgone : ip ∉ c.pwrSaveIfs.replace ip 0 := by
      rw [← List.count_eq_zero]
      by_cases hmem : ip ∈ c.pwrSaveIfs
      · have hcount := count_replace_add hmem 0 ip
        rw [if_pos rfl, if_neg (Ne.symm hip)] at hcount
        omega
      · rw [List.replace_of_not_mem hmem]
        exact List.count_eq_zero.mpr hmem
    refine (overCache_rec (P := fun c => c.Asleep ∧ ip ∉ c.pwrSaveIfs)
      (fun c cnt entry h hentry => ?_) ⟨h.forget ip, hgone⟩).1
    unfold resumePower
    split
    · rename_i hmatch
      have hprivate : entry.privateIp = ip := by
        simp only [Bool.and_eq_true, decide_eq_true_eq] at hmatch
        exact hmatch.1
      split
      · exact ⟨h.1.write_off rfl, h.2⟩
      · refine ⟨h.1.write fun _ => isPwrSaveIf_eq_false.mpr fun _ => ?_, h.2⟩
        rw [show (entry.on _).privateIp = ip from hprivate]
        exact h.2
    · exact h

/-! ## The client goes to sleep -/

/-- The driver deletes the rules of the entries of the client that are enabled. -/
structure Frees (c : NatCache) (ip : Ip) : Prop where
  deletes : ∀ entry ∈ c.cache, entry.privateIp = ip → entry.enabled = true →
    c.natTableHdl ≠ 0 ∧ c.rules entry.ruleHdl ≠ none
  distinct : ∀ (i j : Nat) (entry entry' : NatTableEntry), c.cache[i]? = some entry →
    c.cache[j]? = some entry' → entry.privateIp = ip → entry'.privateIp = ip →
      entry.enabled = true → entry'.enabled = true → entry.ruleHdl = entry'.ruleHdl → i = j

/-- The loop of `UpdatePwrSaveIf`, before the entry with the number given. -/
structure Saving (c₀ : NatCache) (ip : Ip) (k : Nat) (c : NatCache) : Prop where
  length : c.cache.length = c₀.cache.length
  pwrSaveIfs : c.pwrSaveIfs = c₀.pwrSaveIfs
  natTableHdl : c.natTableHdl = c₀.natTableHdl
  ahead : ∀ j, k ≤ j → c.cache[j]? = c₀.cache[j]?
  rules : ∀ j entry, k ≤ j → c₀.cache[j]? = some entry → entry.privateIp = ip →
    entry.enabled = true → c.rules entry.ruleHdl ≠ none
  behind : ∀ j entry, j < k → c.cache[j]? = some entry → entry.enabled = true →
    entry.privateIp ≠ ip ∧ entry ∈ c₀.cache

theorem Saving.turn {c₀ : NatCache} (hfrees : c₀.Frees ip) {k : Nat} (h : Saving c₀ ip k c)
    (hentry : c.cache[k]? = some entry) : Saving c₀ ip (k + 1) (savePower ip k entry c) := by
  have hentry₀ : c₀.cache[k]? = some entry := (h.ahead k (Nat.le_refl k)).symm.trans hentry
  unfold savePower
  split
  · rename_i hmatch
    simp only [Bool.and_eq_true, decide_eq_true_eq] at hmatch
    obtain ⟨hip, hon⟩ := hmatch
    have hheld := h.rules k entry (Nat.le_refl k) hentry₀ hip hon
    have htbl : c.natTableHdl ≠ 0 := by
      rw [h.natTableHdl]
      exact (hfrees.deletes entry (List.mem_of_getElem? hentry₀) hip hon).1
    have hdel : c.ipaNatDelIpv4Rule entry.ruleHdl =
        some (Function.update c.rules entry.ruleHdl none) := by
      rw [ipaNatDelIpv4Rule, if_neg htbl, HandleMap.next, if_neg hheld]
    rw [hdel]
    refine ⟨(List.length_set ..).trans h.length, h.pwrSaveIfs, h.natTableHdl, ?_, ?_, ?_⟩
    · intro j hj
      have hne : k ≠ j := by omega
      exact (List.getElem?_set_ne hne).trans (h.ahead j (Nat.le_of_succ_le hj))
    · intro j e hj he hip' hon'
      -- another entry has another handle
      have hhdl : e.ruleHdl ≠ entry.ruleHdl := by
        intro heq
        have := hfrees.distinct j k e entry he hentry₀ hip' hip hon' hon heq
        omega
      show Function.update c.rules entry.ruleHdl none e.ruleHdl ≠ none
      rw [Function.update_of_ne hhdl]
      exact h.rules j e (Nat.le_of_succ_le hj) he hip' hon'
    · intro j e hj he hon'
      have he : (c.cache.set k entry.off)[j]? = some e := he
      rcases eq_or_ne k j with rfl | hne
      · rw [List.getElem?_set_self (List.getElem?_eq_some_iff.mp hentry).1] at he
        obtain rfl := Option.some.inj he
        exact absurd hon' Bool.false_ne_true
      · rw [List.getElem?_set_ne hne] at he
        exact h.behind j e (by omega) he hon'
  · rename_i hmatch
    refine ⟨h.length, h.pwrSaveIfs, h.natTableHdl, fun j hj => h.ahead j (Nat.le_of_succ_le hj),
      fun j e hj => h.rules j e (Nat.le_of_succ_le hj), fun j e hj he hon => ?_⟩
    rcases eq_or_ne j k with rfl | hne
    · obtain rfl : entry = e := Option.some.inj (hentry.symm.trans he)
      refine ⟨fun hip => hmatch ?_, List.mem_of_getElem? hentry₀⟩
      rw [hon, Bool.and_true]
      exact decide_eq_true hip
    · exact h.behind j e (by omega) he hon

theorem Saving.loop {c₀ : NatCache} (hfrees : c₀.Frees ip) :
    Saving c₀ ip c₀.cache.length (c₀.overCache (savePower ip)) := by
  have hloop : ∀ turn : NatCache → Nat → NatCache,
      (∀ k c, k < c₀.cache.length → Saving c₀ ip k c → Saving c₀ ip (k + 1) (turn c k)) →
      ∀ k ≤ c₀.cache.length, Saving c₀ ip k ((List.range k).foldl turn c₀) := by
    intro turn hturn k
    induction k with
    | zero =>
      intro _
      exact ⟨rfl, rfl, rfl, fun _ _ => rfl, fun j e _ he hip hon =>
        (hfrees.deletes e (List.mem_of_getElem? he) hip hon).2,
        fun _ _ hj => absurd hj (Nat.not_lt_zero _)⟩
    | succ k ih =>
      intro hk
      rw [List.range_succ, List.foldl_concat]
      exact hturn k _ hk (ih (Nat.le_of_succ_le hk))
  rw [overCache]
  refine hloop _ (fun k c hk h => ?_) _ (Nat.le_refl _)
  split
  · rename_i hnone
    have hlen := List.getElem?_eq_none_iff.mp hnone
    rw [h.length] at hlen
    omega
  · rename_i entry hentry
    exact h.turn hfrees hentry

theorem Asleep.updatePwrSaveIf (h : c.Asleep)
    (hfrees : ip ∉ c.pwrSaveIfs → 0 ∈ c.pwrSaveIfs → c.Frees ip) :
    (c.updatePwrSaveIf ip).2.Asleep := by
  unfold NatCache.updatePwrSaveIf
  split
  · exact h
  split
  · exact h
  rename_i hip hnew
  by_cases hroom : 0 ∈ c.pwrSaveIfs
  · have hfrees := hfrees hnew hroom
    have hlisted : ({ c with pwrSaveIfs := c.pwrSaveIfs.replace 0 ip } : NatCache).Frees ip :=
      ⟨hfrees.deletes, hfrees.distinct⟩
    have hsaved := Saving.loop hlisted
    intro e he hon
    obtain ⟨j, hj⟩ := List.mem_iff_getElem?.mp he
    have hlt := (List.getElem?_eq_some_iff.mp hj).1
    rw [hsaved.length] at hlt
    obtain ⟨hother, hmem⟩ := hsaved.behind j e hlt hj hon
    refine isPwrSaveIf_eq_false.mpr fun hne hin => ?_
    rw [hsaved.pwrSaveIfs] at hin
    refine isPwrSaveIf_eq_false.mp (h e hmem hon) hne ?_
    exact mem_of_mem_replace hin hother
  · rw [List.replace_of_not_mem hroom]
    refine overCache_rec (fun c cnt entry h hentry => ?_) h
    unfold savePower
    split
    · split
      · exact h
      · exact h.write_off rfl
    · exact h

/-! ## The table -/

theorem mem_restore {ruleHdl : Nat → Option Nat} {k : Nat} {cache : List NatTableEntry}
    {curCnt : Int} (h : entry ∈ (NatApp.restore ruleHdl k cache curCnt).1) :
    ∃ (j : Nat) (e : NatTableEntry) (n : Int), cache[j]? = some e ∧
      entry = (NatApp.restoreEntry (ruleHdl (k + j)) e n).1 := by
  induction cache generalizing k curCnt with
  | nil => exact absurd h List.not_mem_nil
  | cons e cache ih =>
    obtain rfl | h := List.mem_cons.mp h
    · exact ⟨0, e, curCnt, rfl, rfl⟩
    · obtain ⟨j, e', n, he', heq⟩ := ih h
      refine ⟨j + 1, e', n, he', ?_⟩
      rw [heq, Nat.add_right_comm k 1 j, Nat.add_assoc]

/-- An entry that a new table gets back is not one of a client that saves power. -/
def Restores (c : NatCache) (pubIp : Ip) (reply : NewTblReply) : Prop :=
  c.noEntries = false → reply.tbl ≠ none → pubIp = c.pubIpAddrPre →
    ∀ (cnt : Nat) (entry : NatTableEntry), c.cache[cnt]? = some entry →
      reply.ruleHdl cnt ≠ none → c.isPwrSaveIf entry.privateIp = false

theorem Asleep.addTable (h : c.Asleep) {pubIp : Ip} {reply : NewTblReply}
    (hrestores : c.Restores pubIp reply) : (c.addTable pubIp reply).2.Asleep := by
  have hcache : ∀ e ∈ (c.toNatApp.addTable pubIp reply.toTblReply).2.cache,
      e.enabled = true → c.isPwrSaveIf e.privateIp = false := by
    rw [NatApp.addTable]
    split
    · exact h
    rename_i hsize
    have hsize : c.noEntries = false := (Bool.not_eq_true _).mp hsize
    split
    · exact h
    rename_i hdl htbl
    dsimp only
    split
    · rename_i hpre
      have hawake := hrestores hsize (by rw [htbl]; exact Option.some_ne_none _) hpre
      intro e he hon
      obtain ⟨j, e₀, n, he₀, rfl⟩ := mem_restore he
      rw [Nat.zero_add] at hon ⊢
      unfold NatApp.restoreEntry at hon ⊢
      split at hon
      · rename_i hne
        rw [if_pos hne]
        split at hon
        · exact absurd hon Bool.false_ne_true
        · rename_i hdl hreply
          exact hawake j e₀ he₀ (by rw [hreply]; exact Option.some_ne_none _)
      · rename_i hzero
        rw [if_neg hzero]
        exact h e₀ (List.mem_of_getElem? he₀) hon
    · exact h
  exact hcache

theorem Asleep.deleteTable (h : c.Asleep) {pubIp : Ip} {deleted : Bool} :
    (c.deleteTable pubIp deleted).2.Asleep := by
  have hcache : ∀ e ∈ (c.toNatApp.deleteTable pubIp deleted).2.cache,
      e.enabled = true → c.isPwrSaveIf e.privateIp = false := by
    rw [NatApp.deleteTable]
    split
    · exact h
    split
    · exact h
    split
    · intro e he hon
      obtain ⟨e₀, -, rfl⟩ := List.mem_map.mp he
      exact absurd hon Bool.false_ne_true
    · exact h
  exact hcache

/-! ## Runs -/

/-- A call, with the rules the driver has when it comes. -/
structure Call where
  rules : NatRules
  op : Op

def call (c : NatCache) (x : Call) : NatCache := { c with rules := x.rules }.step x.op

/-- A new table for the address of the one before gives no rule to a client that
saves power; the driver deletes the rules of a client that goes to sleep; and one
that wakes up is in the list once. -/
def Careful (c : NatCache) : Op → Prop
  | .addTable pubIp reply => c.Restores pubIp reply
  | .updatePwrSaveIf ip => ip ∉ c.pwrSaveIfs → 0 ∈ c.pwrSaveIfs → c.Frees ip
  | .resetPwrSaveIf ip _ => c.pwrSaveIfs.count ip ≤ 1
  | _ => True

theorem Asleep.step (h : c.Asleep) {op : Op} (hop : c.Careful op) : (c.step op).Asleep := by
  cases op with
  | addTable pubIp reply => exact h.addTable hop
  | deleteTable pubIp deleted => exact h.deleteTable
  | addEntry rule reply => exact h.addEntry rule reply
  | deleteEntry rule => exact h.deleteEntry
  | cacheEntry rule => exact h.cacheEntry
  | addTempEntry newEntry => exact h.addTempEntry
  | deleteTempEntry entry => exact h.deleteTempEntry
  | flushTempEntries ip isAdd isDummy reply => exact h.flushTempEntries
  | updatePwrSaveIf ip => exact h.updatePwrSaveIf hop
  | resetPwrSaveIf ip reply => exact h.resetPwrSaveIf hop
  | delEntriesOnClntDiscon ip => exact h.delEntriesOnClntDiscon
  | delEntriesOnSTAClntDiscon ip => exact h.delEntriesOnSTAClntDiscon

theorem new_asleep (maxEntries : Nat) (pubIpAddrPre : Ip) (pwrSaveIfs : List Ip)
    (algPorts : List (BitVec 8 × Port)) :
    (new maxEntries pubIpAddrPre pwrSaveIfs algPorts).Asleep := by
  intro e he hon
  rw [List.eq_of_mem_replicate he] at hon
  exact absurd hon Bool.false_ne_true

/-- In a run of careful calls, no client that saves power has a rule. -/
theorem run_asleep (maxEntries : Nat) (pubIpAddrPre : Ip) (pwrSaveIfs : List Ip)
    (algPorts : List (BitVec 8 × Port)) (calls : List Call)
    (hcalls : ∀ pre x, pre ++ [x] <+: calls →
      ({ pre.foldl call (new maxEntries pubIpAddrPre pwrSaveIfs algPorts) with
        rules := x.rules } : NatCache).Careful x.op) :
    ∀ pre, pre <+: calls →
      (pre.foldl call (new maxEntries pubIpAddrPre pwrSaveIfs algPorts)).Asleep := by
  intro pre
  induction pre using List.reverseRecOn with
  | nil => exact fun _ => new_asleep maxEntries pubIpAddrPre pwrSaveIfs algPorts
  | append_singleton pre x ih =>
    intro hpre
    have h := ih ((List.prefix_append _ _).trans hpre)
    rw [List.foldl_concat, call]
    exact Asleep.step (c := { pre.foldl call _ with rules := x.rules }) h (hcalls pre x hpre)

/-- A connection of a client. -/
def clientRule : NatTableEntry :=
  { NatTableEntry.empty with
    privateIp := 0xC0A80102, privatePort := 4000, targetIp := 0x08080808
    targetPort := 53, publicPort := 4000, protocol := 17 }

/-- A table, with the handle 7 for the first entry of the cache. -/
def tableOne : NewTblReply where
  tbl := some ⟨1, by decide⟩
  ruleHdl cnt := if cnt = 0 then some 7 else none
  fresh := by grind

/-- The client goes to sleep and wakes up. -/
def nap : List Call :=
  [⟨fun _ => none, .addTable 0x0A000001 tableOne⟩,
    ⟨fun _ => none, .addEntry clientRule (some 5)⟩,
    ⟨fun hdl => if hdl = 5 then some clientRule.natRule else none,
      .updatePwrSaveIf 0xC0A80102⟩,
    ⟨fun _ => none, .resetPwrSaveIf 0xC0A80102 fun _ => some 5⟩]

theorem nap_asleep : (nap.foldl call (new 1 0 [0, 0] [])).Asleep := by
  refine run_asleep 1 0 [0, 0] [] nap (forall_concat_of_take fun k hk => ?_) nap List.prefix_rfl
  have hk : k < 4 := hk
  interval_cases k
  · exact fun _ _ (hpre : (0x0A000001 : Ip) = 0) => absurd hpre (by decide)
  · trivial
  · intro _ _
    refine ⟨fun entry he hip hon => ?_, fun i j entry entry' hi hj _ _ _ _ _ => ?_⟩
    · obtain rfl : entry = clientRule.on 5 := List.mem_singleton.mp he
      exact ⟨Nat.one_ne_zero, Option.some_ne_none clientRule.natRule⟩
    · have hi := (List.getElem?_eq_some_iff.mp hi).1
      have hj := (List.getElem?_eq_some_iff.mp hj).1
      change i < 1 at hi
      change j < 1 at hj
      omega
  · show List.count (0xC0A80102 : Ip) [0xC0A80102, 0] ≤ 1
    decide

/-- The client sleeps while the table is deleted and made again. -/
def remade : List Op :=
  [.addTable 0x0A000001 tableOne, .addEntry clientRule (some 5), .updatePwrSaveIf 0xC0A80102,
    .deleteTable 0x0A000001 true, .addTable 0x0A000001 tableOne]

theorem remade_not_asleep : ¬ (remade.foldl step (new 1 0 [0, 0] [])).Asleep := by
  intro h
  have hawake := h (clientRule.on 7) (by decide) rfl
  have hasleep : (remade.foldl step (new 1 0 [0, 0] [])).isPwrSaveIf
      (clientRule.on 7).privateIp = true := by decide
  exact Bool.false_ne_true (hawake.symm.trans hasleep)

end NatCache

end Axon7.Conntrack
