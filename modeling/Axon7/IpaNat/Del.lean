import Axon7.IpaNat.Tables
import Axon7.Lib.Buckets
import Axon7.Lib.Run

/-!
# Deleting a rule

`ipa_nati_del_ipv4_rule` and what it calls. The position of the rule in its
collision list and that of its index entry in its own decide the DMA commands;
`ReorderCmds` puts those of the index table first; after the hardware has
taken them, the driver clears what was unlinked and mends the back links, in
the order the source does, reading the tables again where the source does.
The head of a longer list of rules only gets an invalid protocol; the scan at
the end of the call takes such entries away once their list is empty.
-/

namespace Axon7.IpaNat

/-- `del_type`. -/
inductive DelType
  | onlyOne
  | head
  | middle
  | last

/-- `IPA_NAT_INVALID_PROTO_FIELD_VALUE`. -/
def invalidProtoFieldValue : Nat := 0xFF00

/-- `IPA_NAT_INVALID_PROTO_FIELD_CMP`. -/
def invalidProtoFieldCmp : UInt8 := 0xFF

/-- The cell of `tbl_ptr[tblEntry]`, where `tbl_ptr` is the expansion table or
the base table. -/
def cellIn (c : Cfg) (expnTbl : Bool) (tblEntry : Nat) : Nat :=
  if expnTbl then c.tableEntries + tblEntry else tblEntry

/-- `ipa_nati_parse_ipv4_rule_hdl`: whether the rule is in the expansion
table, and its entry there. The subscript of the handle 0 is -1. -/
def ipaNatiParseIpv4RuleHdl (c : Cfg) (s : Drv) (ruleHdl : Nat) : Bool × Nat :=
  if ruleHdl ≥ c.tableEntries + c.expnTableEntries then (false, 0)
  else
    let ruleId :=
      if ruleHdl = 0 then c.ruleIdBelow else s.ruleIdArray (ruleHdl - 1)
    (ruleId % 2 == 1, ruleId / 2)

/-- `ipa_nati_find_rule_pos`. -/
def ipaNatiFindRulePos (c : Cfg) (s : Drv) (expnTbl : Bool) (tblEntry : Nat) :
    DelType :=
  if expnTbl then
    if (expnRule c s tblEntry).nextIndex = 0 then .last else .middle
  else if (s.hw.rules tblEntry).nextIndex = 0 then .onlyOne
  else .head

/-- `ipa_nati_find_index_rule_pos`. -/
def ipaNatiFindIndexRulePos (c : Cfg) (s : Drv) (tblEntry : Nat) : DelType :=
  if tblEntry ≥ c.tableEntries then
    if (expnIndx c s (sub16 tblEntry c.tableEntries)).nextIndex = 0 then .last
    else .middle
  else if (s.hw.indx tblEntry).nextIndex = 0 then .onlyOne
  else .head

/-- The command that gives the `next_index` of the entry `prevEntry` of the
rule tables a new value. -/
def prevRuleCmd (c : Cfg) (prevEntry data : Nat) : DmaOne :=
  if prevEntry ≥ c.tableEntries then
    ⟨.expnTbl, data,
      add32 (ipaNatiGetEntryOffset c (sub16 prevEntry c.tableEntries))
        ruleNextFieldOffset⟩
  else
    ⟨.baseTbl, data,
      add32 (ipaNatiGetEntryOffset c prevEntry) ruleNextFieldOffset⟩

/-- The same for the index tables. -/
def prevIndxCmd (c : Cfg) (prevEntry data : Nat) : DmaOne :=
  if prevEntry ≥ c.tableEntries then
    ⟨.indexExpnTbl, data,
      add32 (ipaNatiGetIndexEntryOffset c (sub16 prevEntry c.tableEntries))
        indexRuleNextFieldOffset⟩
  else
    ⟨.indxTbl, data,
      add32 (ipaNatiGetIndexEntryOffset c prevEntry) indexRuleNextFieldOffset⟩

/-- The first half of `ipa_nati_post_del_dma_cmd`: the command for the rule. -/
def delRuleCmd (c : Cfg) (s : Drv) (curTblEntry : Nat) (expnTbl : Bool)
    (rulePos : DelType) : DmaOne :=
  let cur := s.hw.rules (cellIn c expnTbl curTblEntry)
  match rulePos with
  | .onlyOne =>
    ⟨.baseTbl, 0,
      add32 (ipaNatiGetEntryOffset c curTblEntry) ruleFlagFieldOffset⟩
  | .head =>
    ⟨.baseTbl, invalidProtoFieldValue,
      add32 (ipaNatiGetEntryOffset c curTblEntry) ruleProtoFieldOffset⟩
  | .middle => prevRuleCmd c cur.prevIndex cur.nextIndex
  | .last => prevRuleCmd c cur.prevIndex 0

/-- `indx_tbl_entry` once the source has taken the table size off it. -/
def indxInTbl (c : Cfg) (indxTblEntry : Nat) : Nat :=
  if indxTblEntry ≥ c.tableEntries then sub16 indxTblEntry c.tableEntries
  else indxTblEntry

/-- The second half: the commands for the index entry. -/
def delIndxCmds (c : Cfg) (s : Drv) (indxTblEntry : Nat)
    (indxRulePos : DelType) : List DmaOne :=
  let cur := s.hw.indx (cellIn c (indxTblEntry ≥ c.tableEntries)
    (indxInTbl c indxTblEntry))
  let prevEntry := s.indexExpnTableMeta (indxInTbl c indxTblEntry)
  match indxRulePos with
  | .onlyOne =>
    [⟨.indxTbl, 0,
      add32 (ipaNatiGetIndexEntryOffset c (indxInTbl c indxTblEntry))
        indexRuleNatIndexFieldOffset⟩]
  | .head =>
    let nextEntry := sub16 cur.nextIndex c.tableEntries
    [⟨.indxTbl, (expnIndx c s nextEntry).tblEntry,
      add32 (ipaNatiGetIndexEntryOffset c (indxInTbl c indxTblEntry))
        indexRuleNatIndexFieldOffset⟩,
     ⟨.indxTbl, (expnIndx c s nextEntry).nextIndex,
      add32 (ipaNatiGetIndexEntryOffset c (indxInTbl c indxTblEntry))
        indexRuleNextFieldOffset⟩]
  | .middle => [prevIndxCmd c prevEntry cur.nextIndex]
  | .last => [prevIndxCmd c prevEntry 0]

def DmaOne.isIndx (d : DmaOne) : Bool :=
  d.baseAddr == .indxTbl || d.baseAddr == .indexExpnTbl

/-- `ReorderCmds`: the commands of the index tables go first. -/
def reorderCmds (cmd : List DmaOne) : List DmaOne :=
  let indxTblStart := (cmd.findIdx? DmaOne.isIndx).getD 0
  if indxTblStart = 0 then cmd
  else cmd.drop indxTblStart ++ cmd.take indxTblStart

/-- `IPA_IOC_NAT_DMA` with several commands. -/
def Drv.dma (c : Cfg) (s : Drv) (cmd : List DmaOne) : Drv :=
  cmd.foldl (fun s d => s.write c (.dma d)) s

/-- After the DMA: the back link behind a middle entry, and the entry itself.
A middle entry is an expansion entry; the source has `tbl_ptr` point there by
the time it clears it. -/
def delRuleFixup (c : Cfg) (s : Drv) (curTblEntry : Nat) (expnTbl : Bool)
    (rulePos : DelType) : Drv :=
  let cur := s.hw.rules (cellIn c expnTbl curTblEntry)
  match rulePos with
  | .middle =>
    let nextEntry := sub16 cur.nextIndex c.tableEntries
    let s := s.write c
      (.swSpecParams (cellIn c true nextEntry) .prevIndxByte cur.prevIndex)
    s.write c (.clearRule (cellIn c true curTblEntry))
  | .head => s
  | .onlyOne | .last => s.write c (.clearRule (cellIn c expnTbl curTblEntry))

/-- After the DMA: the index tables. `indxNextEntry` is the entry that was
copied into a head. -/
def delIndxFixup (c : Cfg) (s : Drv) (indxTblEntry indxNextEntry : Nat)
    (indxRulePos : DelType) : Drv :=
  let entry := indxInTbl c indxTblEntry
  let cell := cellIn c (indxTblEntry ≥ c.tableEntries) entry
  match indxRulePos with
  | .head =>
    let indxNextNextEntry := (expnIndx c s indxNextEntry).nextIndex
    let s :=
      if indxNextNextEntry ≠ 0 ∧ indxNextNextEntry ≥ c.tableEntries then
        s.setMeta (sub16 indxNextNextEntry c.tableEntries) entry
      else s
    let s := s.write c (.clearIndx (cellIn c true indxNextEntry))
    -- the rule whose index entry was moved
    let tableEntry := (s.hw.indx entry).tblEntry
    s.write c
      (.swSpecParams (cellOf c tableEntry) .indxTblEntryByte entry)
  | .middle =>
    let nextEntry := indxInTbl c (s.hw.indx cell).nextIndex
    let s := s.setMeta nextEntry (s.indexExpnTableMeta entry)
    let s := s.setMeta entry 0
    s.write c (.clearIndx cell)
  | .onlyOne | .last => s.write c (.clearIndx cell)

/-- `ipa_nati_post_del_dma_cmd`. -/
def ipaNatiPostDelDmaCmd (c : Cfg) (s : Drv) (dmaOk : Bool) (curTblEntry : Nat)
    (expnTbl : Bool) (rulePos : DelType) : Except Err Drv :=
  let cur := s.hw.rules (cellIn c expnTbl curTblEntry)
  if cur.enable = false then .error .einval
  else
    let indxTblEntry := cur.indxTblEntry
    let indxRulePos := ipaNatiFindIndexRulePos c s indxTblEntry
    let indxNextEntry := sub16
      (s.hw.indx (cellIn c (indxTblEntry ≥ c.tableEntries)
        (indxInTbl c indxTblEntry))).nextIndex c.tableEntries
    let cmd := reorderCmds (delRuleCmd c s curTblEntry expnTbl rulePos ::
      delIndxCmds c s indxTblEntry indxRulePos)
    if dmaOk then
      let s := s.dma c cmd
      let s := delRuleFixup c s curTblEntry expnTbl rulePos
      .ok (delIndxFixup c s indxTblEntry indxNextEntry indxRulePos)
    else .error .eio

/-- `ipa_nati_del_dead_ipv4_head_nodes`. -/
def ipaNatiDelDeadIpv4HeadNodes (c : Cfg) (s : Drv) : Drv :=
  (List.range c.tableEntries).foldl
    (fun s cnt =>
      if (s.hw.rules cnt).protocol = invalidProtoFieldCmp ∧
          (s.hw.rules cnt).nextIndex = 0 then
        s.write c (.clearRule cnt)
      else s) s

/-- `ipa_nati_del_ipv4_rule`. The handle is parsed as a `uint16_t` and its slot
is reset with a `uint32_t` subscript. -/
def ipaNatiDelIpv4Rule (c : Cfg) (s : Drv) (dmaOk : Bool) (ruleHdl : Nat) :
    Except Err Unit × Drv :=
  let s := { s with log := [] }
  let (expnTbl, tblEntry) := ipaNatiParseIpv4RuleHdl c s (ruleHdl % 65536)
  if tblEntry = 0 then (.error .einval, s)
  else
    let rulePos := ipaNatiFindRulePos c s expnTbl tblEntry
    match ipaNatiPostDelDmaCmd c s dmaOk tblEntry expnTbl rulePos with
    | .error _ => (.error .einval, s)
    | .ok s =>
      let s := ipaNatiDelDeadIpv4HeadNodes c s
      (.ok (), s.setRuleId ((ruleHdl + 2 ^ 32 - 1) % 2 ^ 32) 0)

/-- `ipa_nat_del_ipv4_rule`, the entry point of the clients. -/
def ipaNatDelIpv4Rule (c : Cfg) (s : Drv) (dmaOk : Bool)
    (tblHdl ruleHdl : Nat) : Except Err Unit × Drv :=
  if tblHdl = 0 ∨ ruleHdl = 0 then (.error .einval, { s with log := [] })
  else ipaNatiDelIpv4Rule c s dmaOk ruleHdl

end Axon7.IpaNat

/-!
# The layout of the tables

What a geometry of the driver guarantees about its arithmetic: entry numbers
fit 16 bits, taking the table size off one and choosing a table by it name the
cell the number says, and the byte offset of every DMA command hits the field
it is meant for, also where the source keeps it in 16 bits. With that each
table write is one field of one cell, which is all later modules see.
-/

namespace Axon7.IpaNat

/-- The tables of a client: a power of two of base entries, both sizes in
range, and the tables at the start of their pages. `IPA_MAX_PDN_NUM` numbers
fit the 4 bits a table entry has for them. -/
structure Cfg.Geometry (c : Cfg) : Prop where
  pow : ∃ k, c.tableEntries = 2 ^ k
  base : 2 ≤ c.tableEntries ∧ c.tableEntries ≤ 16384
  expn : 2 ≤ c.expnTableEntries ∧ c.expnTableEntries ≤ 16384
  offset : c.tblAddrOffset = 0
  pdn : c.maxPdnNum ≤ 16

/-- An entry of a base table that a hash can name: entry 0 is never used. -/
def IsBucket (c : Cfg) (b : Nat) : Prop := 0 < b ∧ b < c.tableEntries

/-- The cell of an expansion entry; its entry 0 is never used either. -/
def IsCell (c : Cfg) (x : Nat) : Prop :=
  c.tableEntries < x ∧ x < c.tableEntries + c.expnTableEntries

theorem isBucket_not_isCell {c : Cfg} (x : Nat) (hb : IsBucket c x) :
    ¬ IsCell c x := by
  unfold IsBucket at hb
  unfold IsCell
  omega

theorem isBucket_bucketOf {c : Cfg} (hg : c.Geometry) {hash : UInt16} :
    IsBucket c (bucketOf hash (c.tableEntries - 1)) := by
  have hpos : 0 < c.tableEntries - 1 := by
    have := hg.base
    omega
  have hle := bucketOf_le hash (c.tableEntries - 1)
  exact ⟨bucketOf_pos hpos, by omega⟩

/-! ## Entry numbers -/

section Numbers

variable {c : Cfg} (hg : c.Geometry)
include hg

theorem sub16_cell {x : Nat} (hx : IsCell c x) :
    sub16 x c.tableEntries = x - c.tableEntries := by
  have := hg.base
  have := hg.expn
  unfold IsCell at hx
  exact sub16_eq (by omega) (by omega)

theorem cellOf_entry {x : Nat} (hx : IsBucket c x ∨ IsCell c x) :
    cellOf c x = x := by
  unfold cellOf
  rcases hx with hx | hx
  · exact if_pos hx.2
  · rw [sub16_cell hg hx]
    unfold IsCell at hx
    rw [if_neg (by omega)]
    omega

theorem cellIn_expn {x : Nat} (hx : IsCell c x) :
    cellIn c true (sub16 x c.tableEntries) = x := by
  rw [sub16_cell hg hx]
  unfold IsCell at hx
  simp only [cellIn, if_true]
  omega

theorem cellIn_indxInTbl {i : Nat} (hi : IsBucket c i ∨ IsCell c i) :
    cellIn c (i ≥ c.tableEntries) (indxInTbl c i) = i := by
  unfold indxInTbl
  rcases hi with hi | hi
  · have hlt : ¬ i ≥ c.tableEntries := Nat.not_le.mpr hi.2
    simp only [hlt, if_false, decide_false, cellIn, Bool.false_eq_true]
  · have hge : i ≥ c.tableEntries := Nat.le_of_lt hi.1
    simp only [hge, if_true, decide_true]
    exact cellIn_expn hg hi

theorem isEntry_lt {x : Nat} (hx : IsBucket c x ∨ IsCell c x) :
    x < 32768 ∧ x < c.tableEntries + c.expnTableEntries := by
  have := hg.base
  have := hg.expn
  unfold IsBucket IsCell at hx
  omega

theorem entryOffset_field {e f : Nat} (he : e < 65536) (hf : f < 32) :
    add32 (ipaNatiGetEntryOffset c e) f = e * tableEntrySize + f := by
  unfold ipaNatiGetEntryOffset tableEntrySize
  have hzero : add32 (e * 32) 0 = e * 32 := add32_eq (by omega)
  rw [hg.offset, hzero, add32_eq (by omega)]

theorem indexEntryOffset_field {i f : Nat} (hi : i < 65536) (hf : f < 4) :
    add32 (ipaNatiGetIndexEntryOffset c i) f = i * indexTableEntrySize + f := by
  unfold ipaNatiGetIndexEntryOffset indexTableEntrySize
  have hzero : add32 (i * 4) 0 = i * 4 := add32_eq (by omega)
  rw [hg.offset, hzero, add32_eq (by omega)]

end Numbers

/-! ## One field of one cell -/

/-- The rule of one cell is replaced. -/
def HwTbl.modRule (t : HwTbl) (e : Nat) (f : NatRule → NatRule) : HwTbl :=
  { t with rules := Function.update t.rules e (f (t.rules e)) }

/-- The index entry of one cell is replaced. -/
def HwTbl.modIndx (t : HwTbl) (i : Nat) (f : IndxRule → IndxRule) : HwTbl :=
  { t with indx := Function.update t.indx i (f (t.indx i)) }

@[simp] theorem HwTbl.modRule_indx (t : HwTbl) (e : Nat)
    (f : NatRule → NatRule) : (t.modRule e f).indx = t.indx := rfl

@[simp] theorem HwTbl.modIndx_rules (t : HwTbl) (i : Nat)
    (f : IndxRule → IndxRule) : (t.modIndx i f).rules = t.rules := rfl

theorem HwTbl.modRule_self (t : HwTbl) (e : Nat) (f : NatRule → NatRule) :
    (t.modRule e f).rules e = f (t.rules e) := Function.update_self ..

theorem HwTbl.modRule_of_ne (t : HwTbl) {e x : Nat} (f : NatRule → NatRule)
    (h : x ≠ e) : (t.modRule e f).rules x = t.rules x :=
  Function.update_of_ne h ..

theorem HwTbl.modIndx_self (t : HwTbl) (i : Nat) (f : IndxRule → IndxRule) :
    (t.modIndx i f).indx i = f (t.indx i) := Function.update_self ..

theorem HwTbl.modIndx_of_ne (t : HwTbl) {i x : Nat} (f : IndxRule → IndxRule)
    (h : x ≠ i) : (t.modIndx i f).indx x = t.indx x :=
  Function.update_of_ne h ..

section Writes

variable {c : Cfg} (t : HwTbl)

theorem HwTbl.writes_nil : t.writes c [] = t := rfl

theorem HwTbl.writes_cons (w : TblWrite) (ws : List TblWrite) :
    t.writes c (w :: ws) = (t.write c w).writes c ws := rfl

theorem HwTbl.write_copyRule (e : Nat) (r : NatRule) :
    t.write c (.copyRule e r) = t.modRule e fun _ => r := rfl

theorem HwTbl.write_clearRule (e : Nat) :
    t.write c (.clearRule e) = t.modRule e fun _ => .zero := rfl

theorem HwTbl.write_swSpecParams (e : Nat) (p : SwParam) (v : Nat) :
    t.write c (.swSpecParams e p v) =
      t.modRule e fun r => updateSwSpecParams r p v := rfl

theorem HwTbl.write_copyIndx (i : Nat) (r : IndxRule) :
    t.write c (.copyIndx i r) = t.modIndx i fun _ => r := rfl

theorem HwTbl.write_clearIndx (i : Nat) :
    t.write c (.clearIndx i) = t.modIndx i fun _ => .zero := rfl

theorem HwTbl.write_baseTbl (data : Nat) {e f : Nat} (hf : f < 32) :
    t.write c (.dma ⟨.baseTbl, data, e * tableEntrySize + f⟩) =
      t.modRule e fun r => r.write16 f data := by
  have hd : (e * 32 + f) / 32 = e := by omega
  have hm : (e * 32 + f) % 32 = f := by omega
  simp only [HwTbl.write, HwTbl.modRule, NatTableType.start, tableEntrySize, hd,
    hm, Nat.zero_add]

theorem HwTbl.write_expnTbl (data : Nat) {e f : Nat} (hf : f < 32) :
    t.write c (.dma ⟨.expnTbl, data, e * tableEntrySize + f⟩) =
      t.modRule (c.tableEntries + e) fun r => r.write16 f data := by
  have hd : (e * 32 + f) / 32 = e := by omega
  have hm : (e * 32 + f) % 32 = f := by omega
  simp only [HwTbl.write, HwTbl.modRule, NatTableType.start, tableEntrySize, hd,
    hm]

theorem HwTbl.write_indxTbl (data : Nat) {i f : Nat} (hf : f < 4) :
    t.write c (.dma ⟨.indxTbl, data, i * indexTableEntrySize + f⟩) =
      t.modIndx i fun r => r.write16 f data := by
  have hd : (i * 4 + f) / 4 = i := by omega
  have hm : (i * 4 + f) % 4 = f := by omega
  simp only [HwTbl.write, HwTbl.modIndx, NatTableType.start,
    indexTableEntrySize, hd, hm, Nat.zero_add]

theorem HwTbl.write_indexExpnTbl (data : Nat) {i f : Nat} (hf : f < 4) :
    t.write c (.dma ⟨.indexExpnTbl, data, i * indexTableEntrySize + f⟩) =
      t.modIndx (c.tableEntries + i) fun r => r.write16 f data := by
  have hd : (i * 4 + f) / 4 = i := by omega
  have hm : (i * 4 + f) % 4 = f := by omega
  simp only [HwTbl.write, HwTbl.modIndx, NatTableType.start,
    indexTableEntrySize, hd, hm]

end Writes

section Commands

variable {c : Cfg} (hg : c.Geometry) (t : HwTbl)
include hg

theorem HwTbl.write_prevRuleCmd {p : Nat} (data : Nat)
    (hp : IsBucket c p ∨ IsCell c p) :
    t.write c (.dma (prevRuleCmd c p data)) =
      t.modRule p fun r => { r with nextIndex := data } := by
  have hlt := (isEntry_lt hg hp).1
  unfold prevRuleCmd ruleNextFieldOffset
  rcases hp with hp | hp
  · rw [if_neg (Nat.not_le.mpr hp.2), entryOffset_field hg (by omega) (by omega)]
    exact t.write_baseTbl data (f := 8) (by omega)
  · have hge : c.tableEntries ≤ p := Nat.le_of_lt hp.1
    rw [if_pos hge, sub16_cell hg hp, entryOffset_field hg (by omega) (by omega),
      t.write_expnTbl data (f := 8) (by omega), Nat.add_sub_cancel' hge]
    rfl

theorem HwTbl.write_prevIndxCmd {p : Nat} (data : Nat)
    (hp : IsBucket c p ∨ IsCell c p) :
    t.write c (.dma (prevIndxCmd c p data)) =
      t.modIndx p fun r => { r with nextIndex := data } := by
  have hlt := (isEntry_lt hg hp).1
  unfold prevIndxCmd indexRuleNextFieldOffset
  rcases hp with hp | hp
  · rw [if_neg (Nat.not_le.mpr hp.2), indexEntryOffset_field hg (by omega) (by omega)]
    exact t.write_indxTbl data (f := 2) (by omega)
  · have hge : c.tableEntries ≤ p := Nat.le_of_lt hp.1
    rw [if_pos hge, sub16_cell hg hp, indexEntryOffset_field hg (by omega) (by omega),
      t.write_indexExpnTbl data (f := 2) (by omega), Nat.add_sub_cancel' hge]
    rfl

omit hg in
theorem NatRule.write16_enable (r : NatRule) :
    r.write16 18 flagEnableBitMask =
      { r with rsvd1 := 0, redirect := false, enable := true } := by
  have hr : flagEnableBitMask % 2 ^ 14 = 0 := by decide
  have hb : flagEnableBitMask.testBit 14 = false := by decide
  have he : flagEnableBitMask.testBit 15 = true := by decide
  unfold NatRule.write16
  simp only [hr, hb, he]

omit hg in
theorem NatRule.write16_proto (r : NatRule) :
    r.write16 22 invalidProtoFieldValue =
      { r with
        timeStamp := r.timeStamp % 2 ^ 16
        protocol := invalidProtoFieldCmp } := by
  have hts : invalidProtoFieldValue % 2 ^ 8 * 2 ^ 16 = 0 := by decide
  have hp : UInt8.ofNat (invalidProtoFieldValue / 2 ^ 8) =
      invalidProtoFieldCmp := by decide
  unfold NatRule.write16
  simp only [hts, hp, Nat.zero_add]

theorem HwTbl.write_enableCmd {e : Nat} (he : IsBucket c e ∨ IsCell c e) :
    t.write c (.dma (enableCmd c e)) =
      t.modRule e fun r => r.write16 18 flagEnableBitMask := by
  have hlt := (isEntry_lt hg he).1
  have hoff : ∀ x, x < 65536 → add32 (x * tableEntrySize) 18 = x * tableEntrySize + 18 :=
    fun x hx => add32_eq (by unfold tableEntrySize; omega)
  have hadd : ∀ x, x < 65536 → add32 (x * tableEntrySize + 18) 0 =
      x * tableEntrySize + 18 :=
    fun x hx => add32_eq (by unfold tableEntrySize; omega)
  unfold enableCmd ruleFlagFieldOffset
  rcases he with he | he
  · rw [if_pos he.2, hoff e (by omega)]
    exact t.write_baseTbl _ (f := 18) (by omega)
  · have hge : c.tableEntries ≤ e := Nat.le_of_lt he.1
    rw [if_neg (Nat.not_lt.mpr hge), sub16_cell hg he, hoff _ (by omega), hg.offset,
      hadd _ (by omega), t.write_expnTbl _ (f := 18) (by omega), Nat.add_sub_cancel' hge]

end Commands

end Axon7.IpaNat
