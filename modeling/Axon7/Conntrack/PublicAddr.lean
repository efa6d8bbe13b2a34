import Axon7.Conntrack.NatRefines
import Axon7.Lib.Run

/-!
# The public address of a connection

`NatApp` keeps its connections when the table goes, and gives them to the next
table that has the address of the last one, whatever address they were put in
under. So a connection stays with its public address as long as nothing switches
on one that is left from another table.
-/

namespace Axon7.Conntrack

open Axon7.Lib

/-- `NatApp`, and the public address of the table when the connection of each
entry was put in. -/
structure Dated extends NatCache where
  born : Nat → Option Ip

namespace NatCache

/-- There is a connection in the entry. -/
def taken (c : NatCache) (cnt : Nat) : Bool :=
  c.cache[cnt]?.any fun entry => !entry.isFree

/-- The public address of the table, if there is one. -/
def tableAddr (c : NatCache) : Option Ip :=
  if c.natTableHdl = 0 then none else some c.pubIpAddr

end NatCache

namespace Dated

/-- What a call makes of `NatApp`: the connections put in are put in under the
address that the table has. -/
def follow (d : Dated) (c : NatCache) : Dated where
  toNatCache := c
  born cnt :=
    if c.taken cnt then if d.taken cnt then d.born cnt else d.tableAddr
    else none

def step (d : Dated) (op : NatCache.Op) : Dated :=
  d.follow (d.toNatCache.step op)

/-- Every connection in the driver was put in under the address that the table
has. -/
def OwnAddr (d : Dated) : Prop :=
  ∀ cnt entry, d.cache[cnt]? = some entry → entry.enabled = true →
    d.born cnt = some d.pubIpAddr

/-- The call switches on no connection put in under another address. -/
def NoneForeign (d : Dated) : NatCache.Op → Prop
  | .addTable pubIp reply =>
    d.noEntries = false → reply.tbl ≠ none →
      ∀ cnt entry, d.cache[cnt]? = some entry →
        (if pubIp = d.pubIpAddrPre ∧ entry.privateIp ≠ 0 then
          reply.ruleHdl cnt ≠ none else entry.enabled = true) →
        d.born cnt = some pubIp
  | .resetPwrSaveIf clientLanIp reply =>
    clientLanIp ≠ 0 → d.natTableHdl ≠ 0 →
      ∀ cnt entry, d.cache[cnt]? = some entry →
        entry.privateIp = clientLanIp → entry.enabled = false →
        reply cnt ≠ none → d.born cnt = some d.pubIpAddr
  | _ => True

end Dated

namespace NatCache

open NatTableEntry

/-! ## What a call switches on -/

/-- The table is the same, and an entry that is on afterwards was so before, or
is one that `why` allows. -/
structure Enables (why : Nat → NatTableEntry → Prop) (c c' : NatCache) :
    Prop where
  addr : c'.pubIpAddr = c.pubIpAddr
  hdl : c'.natTableHdl = c.natTableHdl
  left : ∀ cnt entry, c'.cache[cnt]? = some entry → why cnt entry →
    c.cache[cnt]? = some entry
  on : ∀ cnt entry', c'.cache[cnt]? = some entry' → entry'.enabled = true →
    c.cache[cnt]? = some entry' ∨
      entry'.isFree = false ∧ ∃ entry, c.cache[cnt]? = some entry ∧ why cnt entry

/-- No entry. -/
def nothing : Nat → NatTableEntry → Prop := fun _ _ => False

/-- The free entries, if there is a table. -/
def freeEntry (hdl : Nat) : Nat → NatTableEntry → Prop := fun _ entry =>
  entry.isFree = true ∧ hdl ≠ 0

/-- The entries of a client that are off, if there is a table and the driver adds
their rules. -/
def asleep (hdl : Nat) (clientLanIp : Ip) (reply : Nat → Option Nat) :
    Nat → NatTableEntry → Prop := fun cnt entry =>
  entry.privateIp = clientLanIp ∧ entry.enabled = false ∧ reply cnt ≠ none ∧
    hdl ≠ 0

variable {why : Nat → NatTableEntry → Prop} {c c' c'' : NatCache}
  {entry entry' rule : NatTableEntry} {cnt : Nat} {curCnt : Int}
  {rules : NatRules}

theorem Enables.frame (hcache : c'.cache = c.cache)
    (haddr : c'.pubIpAddr = c.pubIpAddr)
    (hhdl : c'.natTableHdl = c.natTableHdl) : Enables why c c' where
  addr := haddr
  hdl := hhdl
  left _ _ h _ := hcache ▸ h
  on _ _ h _ := .inl (hcache ▸ h)

theorem Enables.refl (c : NatCache) : Enables why c c := .frame rfl rfl rfl

theorem Enables.trans (h : Enables why c c') (h' : Enables why c' c'') :
    Enables why c c'' where
  addr := h'.addr.trans h.addr
  hdl := h'.hdl.trans h.hdl
  left cnt entry hentry hwhy := h.left cnt entry (h'.left cnt entry hentry hwhy) hwhy
  on cnt entry hentry hon := by
    obtain hold | ⟨hused, entry', hold, hwhy⟩ := h'.on cnt entry hentry hon
    · exact h.on cnt entry hold hon
    · exact .inr ⟨hused, entry', h.left cnt entry' hold hwhy, hwhy⟩

theorem Enables.of_frame (h : Enables why c' c'') (hcache : c'.cache = c.cache)
    (haddr : c'.pubIpAddr = c.pubIpAddr)
    (hhdl : c'.natTableHdl = c.natTableHdl) : Enables why c c'' :=
  .trans (.frame hcache haddr hhdl) h

theorem Enables.write (hentry : c.cache[cnt]? = some entry)
    (hnot : ¬why cnt entry')
    (hwhy : entry'.enabled = true → entry'.isFree = false ∧ why cnt entry) :
    Enables why c (c.write cnt entry' curCnt rules) := by
  have hget : ∀ i e, (c.write cnt entry' curCnt rules).cache[i]? = some e →
      i = cnt ∧ e = entry' ∨ c.cache[i]? = some e := by
    intro i e he
    rw [NatCache.write, List.getElem?_set] at he
    split at he
    · next hi =>
        split at he
        · exact .inl ⟨hi.symm, (Option.some.inj he).symm⟩
        · cases he
    · exact .inr he
  refine ⟨rfl, rfl, fun i e he hwhy' => ?_, fun i e he hon => ?_⟩
  · obtain ⟨rfl, rfl⟩ | hold := hget i e he
    · exact absurd hwhy' hnot
    · exact hold
  · obtain ⟨rfl, rfl⟩ | hold := hget i e he
    · exact .inr ⟨(hwhy hon).1, entry, hentry, (hwhy hon).2⟩
    · exact .inl hold

theorem Enables.write_off (hentry : c.cache[cnt]? = some entry)
    (hoff : entry'.enabled = false) :
    Enables nothing c (c.write cnt entry' curCnt rules) :=
  .write hentry id fun hon => absurd (hoff.symm.trans hon) nofun

theorem Enables.overCache {turn : Nat → NatTableEntry → NatCache → NatCache}
    (hturn : ∀ cnt entry c', c'.natTableHdl = c.natTableHdl →
      c'.cache[cnt]? = some entry → Enables why c' (turn cnt entry c')) :
    Enables why c (c.overCache turn) := by
  rw [NatCache.overCache]
  refine List.foldlRecOn (motive := fun c' => Enables why c c') _ _ (.refl c) ?_
  intro c' h cnt _
  split
  · exact h
  · next entry hentry => exact h.trans (hturn cnt entry c' h.hdl hentry)

/-! ### Call by call -/

theorem deleteEntry_enables (c : NatCache) (rule : NatTableEntry) :
    Enables nothing c (c.deleteEntry rule) := by
  rw [deleteEntry]
  split
  · exact .refl c
  · split
    · exact .refl c
    · next hentry => exact .write_off hentry rfl

theorem cacheEntry_enables (c : NatCache) (rule : NatTableEntry) :
    Enables nothing c (c.cacheEntry rule) := by
  rw [cacheEntry]
  split
  · exact .refl c
  · split
    · exact .refl c
    · split
      · exact .refl c
      · next hfind =>
          obtain ⟨entry, hentry, -⟩ := getElem_of_findIdx hfind
          exact .write_off hentry rfl

theorem addEntry_enables (c : NatCache) (rule : NatTableEntry)
    (reply : Option Nat) :
    Enables (freeEntry c.natTableHdl) c (c.addEntry rule reply).2 := by
  rw [addEntry]
  split
  · exact .refl c
  next hhdl =>
  split
  · exact .refl c
  · split
    · exact .refl c
    next hvalid =>
    have hused : rule.isFree = false :=
      isFree_of_isValid (by simpa using hvalid)
    split
    · exact .refl c
    · split
      · exact .refl c
      · next hfind =>
          obtain ⟨entry, hentry, hfree⟩ := getElem_of_findIdx hfind
          split
          · exact .write hentry (fun h => absurd (hused.symm.trans h.1) (by rintro ⟨⟩))
              (by rintro ⟨⟩)
          · split
            · exact .refl c
            · exact .write hentry (fun h => absurd (hused.symm.trans h.1) (by rintro ⟨⟩))
                fun _ => ⟨hused, hfree, hhdl⟩

theorem updatePwrSaveIf_enables (c : NatCache) (clientLanIp : Ip) :
    Enables nothing c (c.updatePwrSaveIf clientLanIp).2 := by
  rw [updatePwrSaveIf]
  split
  · exact .refl c
  · split
    · exact .refl c
    · refine Enables.of_frame (.overCache fun cnt entry c' _ hentry => ?_)
        rfl rfl rfl
      rw [savePower]
      split
      · split
        · exact .refl c'
        · exact .write_off hentry rfl
      · exact .refl c'

theorem delEntriesOnClntDiscon_enables (c : NatCache) (ipAddr : Ip) :
    Enables nothing c (c.delEntriesOnClntDiscon ipAddr).2 := by
  rw [delEntriesOnClntDiscon]
  split
  · exact .refl c
  · refine Enables.of_frame (.overCache fun cnt entry c' _ hentry => ?_)
      rfl rfl rfl
    rw [dropRule]
    split
    · split
      · exact .refl c'
      · exact .write_off hentry rfl
    · exact .refl c'

theorem delEntriesOnSTAClntDiscon_enables (c : NatCache) (ipAddr : Ip) :
    Enables nothing c (c.delEntriesOnSTAClntDiscon ipAddr).2 := by
  rw [delEntriesOnSTAClntDiscon]
  split
  · exact .refl c
  · refine .overCache fun cnt entry c' _ hentry => ?_
    rw [dropEntry]
    split
    · split
      · split
        · exact .refl c'
        · exact .write_off hentry rfl
      · exact .write_off hentry rfl
    · exact .refl c'

theorem resetPwrSaveIf_enables (c : NatCache) {clientLanIp : Ip}
    (hip : clientLanIp ≠ 0) (reply : Nat → Option Nat) :
    Enables (asleep c.natTableHdl clientLanIp reply) c
      (c.resetPwrSaveIf clientLanIp reply) := by
  rw [resetPwrSaveIf, if_neg hip]
  refine Enables.of_frame (.overCache fun cnt entry c' hhdl hentry => ?_)
    rfl rfl rfl
  rw [resumePower]
  split
  · next hmine =>
      rw [Bool.and_eq_true, decide_eq_true_eq, Bool.not_eq_true'] at hmine
      split
      · exact .write hentry (fun h => hip h.1.symm) (by rintro ⟨⟩)
      · next hadd =>
          obtain ⟨hhdl', -, -⟩ := add_eq_some hadd
          refine .write hentry (fun h => absurd h.2.1 (by rintro ⟨⟩)) fun _ =>
            ⟨isFree_of_privateIp (hmine.1 ▸ hip), hmine.1, hmine.2, ?_,
              hhdl ▸ hhdl'⟩
          intro hnone
          simp [hnone, ipaNatAddIpv4Rule, hhdl'] at hadd
  · exact .refl c'

theorem addTempEntry_enables (c : NatCache) (newEntry : TempEntry) :
    Enables nothing c (c.addTempEntry newEntry) := by
  rw [addTempEntry]
  split
  · exact .refl c
  · split
    · exact .refl c
    · split
      · exact .refl c
      · split
        · exact .refl c
        · exact .frame rfl rfl rfl

theorem deleteTempEntry_enables (c : NatCache) (entry : NatTableEntry) :
    Enables nothing c (c.deleteTempEntry entry) := by
  rw [deleteTempEntry]
  split
  · exact .refl c
  · exact .frame rfl rfl rfl

theorem flushTempEntry_enables (c : NatCache) (ipAddr : Ip)
    (isAdd isDummy : Bool) (reply : Nat → Option Nat) (cnt : Nat) :
    Enables (freeEntry c.natTableHdl) c
      (flushTempEntry ipAddr isAdd isDummy reply c cnt) := by
  rw [flushTempEntry]
  split
  · exact .refl c
  · next temp _ =>
      split
      · split
        · generalize (if isDummy = true then _ else temp) = temp
          have hadd := addEntry_enables { c with temp := c.temp.set cnt temp }
            temp.toNatTableEntry (reply cnt)
          dsimp only
          split
          · next c' heq =>
              rw [heq] at hadd
              exact hadd.of_frame rfl rfl rfl
          · next c' heq =>
              rw [heq] at hadd
              have hclear : Enables (freeEntry c.natTableHdl) c'
                  { c' with temp := c'.temp.set cnt .empty } :=
                .frame rfl rfl rfl
              exact (hadd.trans hclear).of_frame rfl rfl rfl
        · exact .frame rfl rfl rfl
      · exact .refl c

theorem flushTempEntries_enables (c : NatCache) (ipAddr : Ip)
    (isAdd isDummy : Bool) (reply : Nat → Option Nat) :
    Enables (freeEntry c.natTableHdl) c
      (c.flushTempEntries ipAddr isAdd isDummy reply) := by
  rw [flushTempEntries]
  refine List.foldlRecOn (motive := fun c' => Enables (freeEntry c.natTableHdl)
    c c') _ _ (.refl c) fun c' h cnt _ => ?_
  exact h.trans (h.hdl ▸ flushTempEntry_enables c' ipAddr isAdd isDummy reply cnt)

/-! ### The table -/

theorem restore_getElem (ruleHdl : Nat → Option Nat)
    (cache : List NatTableEntry) (start cnt : Nat) (curCnt : Int) :
    (NatApp.restore ruleHdl start cache curCnt).1[cnt]? =
      cache[cnt]?.map fun entry =>
        (NatApp.restoreEntry (ruleHdl (start + cnt)) entry 0).1 := by
  induction cache generalizing start cnt curCnt with
  | nil => rfl
  | cons entry cache ih =>
    rw [NatApp.restore]
    dsimp only
    cases cnt with
    | zero =>
      simp only [List.getElem?_cons_zero, Option.map_some, Nat.add_zero]
      unfold NatApp.restoreEntry
      split
      · cases ruleHdl start <;> rfl
      · rfl
    | succ cnt =>
      rw [List.getElem?_cons_succ, List.getElem?_cons_succ, ih]
      rw [Nat.add_assoc, Nat.add_comm 1 cnt]

end NatCache

namespace Dated

open NatCache

variable {d : Dated} {c : NatCache} {op : Op}
  {why : Nat → NatTableEntry → Prop}

/-! ## Steps -/

/-- What every call keeps that switches on nothing foreign. -/
structure Apart (d : Dated) : Prop where
  used : ∀ (cnt : Nat) (entry : NatTableEntry), d.cache[cnt]? = some entry → entry.enabled = true →
    entry.isFree = false
  own : d.OwnAddr

theorem follow_born {cnt : Nat} {entry entry' : NatTableEntry}
    (hentry : d.cache[cnt]? = some entry)
    (hentry' : (d.follow c).cache[cnt]? = some entry')
    (hused : entry'.isFree = false) : (d.follow c).born cnt =
      if entry.isFree then d.tableAddr else d.born cnt := by
  change c.cache[cnt]? = some entry' at hentry'
  simp only [follow, taken, hentry, hentry', hused, Option.any_some]
  cases entry.isFree <;> rfl

theorem Apart.follow (h : d.Apart) (hc : Enables why d.toNatCache c)
    (hwhy : ∀ cnt entry, d.cache[cnt]? = some entry → why cnt entry →
      if entry.isFree then d.tableAddr = some d.pubIpAddr
      else d.born cnt = some d.pubIpAddr) : (d.follow c).Apart := by
  refine ⟨fun cnt entry' hentry' hon => ?_, fun cnt entry' hentry' hon => ?_⟩
  · obtain hold | ⟨hused, -⟩ := hc.on cnt entry' hentry' hon
    · exact h.used cnt entry' hold hon
    · exact hused
  · show _ = some c.pubIpAddr
    rw [hc.addr]
    obtain hold | ⟨hused, entry, hold, hallowed⟩ := hc.on cnt entry' hentry' hon
    · have hused := h.used cnt entry' hold hon
      rw [follow_born hold hentry' hused, if_neg (by simp [hused])]
      exact h.own cnt entry' hold hon
    · rw [follow_born hold hentry' hused]
      have hallowed := hwhy cnt entry hold hallowed
      split at hallowed
      · next hfree => rwa [if_pos hfree]
      · next hused => rwa [if_neg hused]

theorem Apart.follow_nothing (h : d.Apart) (hc : Enables nothing d.toNatCache c) :
    (d.follow c).Apart := h.follow hc fun _ _ _ => False.elim

theorem Apart.follow_free (h : d.Apart)
    (hc : Enables (freeEntry d.natTableHdl) d.toNatCache c) :
    (d.follow c).Apart := by
  refine h.follow hc fun cnt entry _ hfree => ?_
  rw [if_pos hfree.1, tableAddr, if_neg hfree.2]

theorem Apart.resetPwrSaveIf (h : d.Apart) {clientLanIp : Ip}
    {reply : Nat → Option Nat}
    (hop : d.NoneForeign (.resetPwrSaveIf clientLanIp reply)) :
    (d.step (.resetPwrSaveIf clientLanIp reply)).Apart := by
  by_cases hip : clientLanIp = 0
  · refine h.follow_nothing ?_
    rw [NatCache.step, NatCache.resetPwrSaveIf, if_pos hip]
    exact .refl _
  · refine h.follow (resetPwrSaveIf_enables _ hip reply) ?_
    rintro cnt entry hentry ⟨hmine, hoff, hreply, hhdl⟩
    rw [if_neg (by simp [NatTableEntry.isFree_of_privateIp (hmine ▸ hip)])]
    exact hop hip hhdl cnt entry hentry hmine hoff hreply

theorem Apart.follow_table
    (hc : ∀ (cnt : Nat) (entry' : NatTableEntry), c.cache[cnt]? = some entry' →
      entry'.enabled = true → entry'.isFree = false ∧
        ∃ entry, d.cache[cnt]? = some entry ∧ entry.isFree = false ∧
          d.born cnt = some c.pubIpAddr) : (d.follow c).Apart := by
  refine ⟨fun cnt entry' hentry' hon => (hc cnt entry' hentry' hon).1,
    fun cnt entry' hentry' hon => ?_⟩
  obtain ⟨hused, entry, hentry, hused', hborn⟩ := hc cnt entry' hentry' hon
  rw [follow_born hentry hentry' hused, if_neg (by simp [hused'])]
  exact hborn

theorem Apart.follow_same (h : d.Apart) (hcache : c.cache = d.cache)
    (haddr : c.pubIpAddr = d.pubIpAddr) : (d.follow c).Apart := by
  refine Apart.follow_table fun cnt entry hentry hon => ?_
  rw [hcache] at hentry
  have hused := h.used cnt entry hentry hon
  exact ⟨hused, entry, hentry, hused, haddr ▸ h.own cnt entry hentry hon⟩

theorem Apart.deleteTable (h : d.Apart) (pubIp : Ip) (deleted : Bool) :
    (d.step (.deleteTable pubIp deleted)).Apart := by
  show (d.follow { d.toNatCache with
    toNatApp := (d.toNatApp.deleteTable pubIp deleted).2, rules := _ }).Apart
  rw [NatApp.deleteTable]
  split
  · exact h.follow_same rfl rfl
  · split
    · exact h.follow_same rfl rfl
    · split
      · refine Apart.follow_table fun cnt entry hentry hon => ?_
        obtain ⟨e, -, rfl⟩ := List.mem_map.mp (List.mem_of_getElem? hentry)
        cases hon
      · exact h.follow_same rfl rfl

theorem Apart.addTable (h : d.Apart) {pubIp : Ip} {reply : NewTblReply}
    (hop : d.NoneForeign (.addTable pubIp reply)) :
    (d.step (.addTable pubIp reply)).Apart := by
  show (d.follow { d.toNatCache with
    toNatApp := (d.toNatApp.addTable pubIp reply.toTblReply).2,
    rules := _ }).Apart
  rw [NatApp.addTable]
  split
  · exact h.follow_same rfl rfl
  next hsize =>
  split
  · exact h.follow_same rfl rfl
  next hdl htbl =>
  have hforeign := hop (by simpa using hsize) (by simp [htbl])
  refine Apart.follow_table fun cnt entry' hentry' hon => ?_
  dsimp only at hentry' ⊢
  split at hentry'
  · next hpre =>
      rw [restore_getElem, Nat.zero_add] at hentry'
      obtain ⟨entry, hentry, rfl⟩ := Option.map_eq_some_iff.mp hentry'
      have hborn := hforeign cnt entry hentry
      unfold NatApp.restoreEntry at hon ⊢
      split at hon
      · next hip =>
          have hused := NatTableEntry.isFree_of_privateIp hip
          rw [if_pos ⟨hpre, hip⟩] at hborn
          rw [if_pos hip]
          cases hhdl : reply.ruleHdl cnt with
          | none =>
            rw [hhdl] at hon
            cases hon
          | some x =>
            exact ⟨hused, entry, hentry, hused, hborn (by simp [hhdl])⟩
      · next hip =>
          have hused := h.used cnt entry hentry hon
          rw [if_neg fun hboth => hip hboth.2] at hborn
          rw [if_neg hip]
          exact ⟨hused, entry, hentry, hused, hborn hon⟩
  · next hpre =>
      have hborn := hforeign cnt entry' hentry'
      have hused := h.used cnt entry' hentry' hon
      rw [if_neg fun hboth => hpre hboth.1] at hborn
      exact ⟨hused, entry', hentry', hused, hborn hon⟩

theorem Apart.step (h : d.Apart) (hop : d.NoneForeign op) : (d.step op).Apart := by
  cases op with
  | addTable pubIp reply => exact h.addTable hop
  | deleteTable pubIp deleted => exact h.deleteTable pubIp deleted
  | addEntry rule reply => exact h.follow_free (addEntry_enables _ rule reply)
  | deleteEntry rule => exact h.follow_nothing (deleteEntry_enables _ rule)
  | cacheEntry rule => exact h.follow_nothing (cacheEntry_enables _ rule)
  | addTempEntry newEntry =>
    exact h.follow_nothing (addTempEntry_enables _ newEntry)
  | deleteTempEntry entry =>
    exact h.follow_nothing (deleteTempEntry_enables _ entry)
  | flushTempEntries ipAddr isAdd isDummy reply =>
    exact h.follow_free (flushTempEntries_enables _ ipAddr isAdd isDummy reply)
  | updatePwrSaveIf clientLanIp =>
    exact h.follow_nothing (updatePwrSaveIf_enables _ clientLanIp)
  | resetPwrSaveIf clientLanIp reply => exact h.resetPwrSaveIf hop
  | delEntriesOnClntDiscon ipAddr =>
    exact h.follow_nothing (delEntriesOnClntDiscon_enables _ ipAddr)
  | delEntriesOnSTAClntDiscon ipAddr =>
    exact h.follow_nothing (delEntriesOnSTAClntDiscon_enables _ ipAddr)

/-! ## Runs -/

/-- The constructor and `Init`: no connections. -/
def new (maxEntries : Nat) (pubIpAddrPre : Ip) (pwrSaveIfs : List Ip)
    (algPorts : List (BitVec 8 × Port)) : Dated where
  toNatCache := .new maxEntries pubIpAddrPre pwrSaveIfs algPorts
  born _ := none

/-- No call of the run switches on a connection put in under another address. -/
def NeverForeign (d : Dated) : List Op → Prop
  | [] => True
  | op :: ops => d.NoneForeign op ∧ (d.step op).NeverForeign ops

theorem Apart.new (maxEntries : Nat) (pubIpAddrPre : Ip) (pwrSaveIfs : List Ip)
    (algPorts : List (BitVec 8 × Port)) :
    (Dated.new maxEntries pubIpAddrPre pwrSaveIfs algPorts).Apart := by
  have hoff : ∀ (cnt : Nat) (entry : NatTableEntry),
      (List.replicate maxEntries NatTableEntry.empty)[cnt]? = some entry →
        ¬entry.enabled = true := by
    intro cnt entry hentry
    rw [List.eq_of_mem_replicate (List.mem_of_getElem? hentry)]
    decide
  exact ⟨fun cnt entry hentry hon => absurd hon (hoff cnt entry hentry),
    fun cnt entry hentry hon => absurd hon (hoff cnt entry hentry)⟩

theorem Apart.run {ops : List Op} (h : d.Apart) (hops : d.NeverForeign ops) :
    Along Dated.step OwnAddr d ops := by
  induction ops generalizing d with
  | nil => exact Along.nil_iff.mpr h.own
  | cons op ops ih =>
    exact Along.cons_iff.mpr ⟨h.own, ih (h.step hops.1) hops.2⟩

/-- One client's connection to a name server. -/
def lookup : NatTableEntry :=
  { NatTableEntry.empty with
    privateIp := 0xC0A80102, privatePort := 4000, targetIp := 0x08080808
    targetPort := 53, publicPort := 4000, protocol := 17 }

/-- A driver that makes the table and adds the rule of the first entry. -/
def oneRule : NewTblReply where
  tbl := some ⟨1, Nat.one_ne_zero⟩
  ruleHdl cnt := if cnt = 0 then some 7 else none
  fresh := fresh_first

end Dated

end Axon7.Conntrack
