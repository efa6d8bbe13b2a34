import Mathlib

/-!
# The NAT tables of the IPA driver

The entries the hardware reads, the cache the driver keeps beside them, and
the writes the driver makes to them.

The base table and the expansion table lie back to back in the mapped memory,
and so do the index table and its expansion, so each pair is one array here:
base entry `e` is cell `e`, expansion entry `c` is cell `tableEntries + c`,
which is also how the `next_index`, `prev_index` and `tbl_entry` fields number
them. An array is a function from cell numbers; every access of the driver is
below `tableEntries + expnTableEntries`.

Links and other 16-bit bookkeeping fields are natural numbers, truncated where
the source stores them; what a client gives and the hardware hashes keeps its
width.
-/

namespace Axon7.IpaNat

/-- `IPA_NAT_MAX_IP4_TBLS`. -/
def maxIp4Tbls : Nat := 1

/-- `ipa_nat_ipv4_rule`: what a client asks for. -/
structure ClntRule where
  targetIp : UInt32
  privateIp : UInt32
  targetPort : UInt16
  privatePort : UInt16
  publicPort : UInt16
  protocol : UInt8
  pdnIndex : Nat
deriving DecidableEq

/-- `struct ipa_nat_rule`, the 32-byte table entry, by the fields of
`struct ipa_nat_sw_rule`. -/
structure NatRule where
  privateIp : UInt32
  targetIp : UInt32
  nextIndex : Nat
  publicPort : UInt16
  privatePort : UInt16
  targetPort : UInt16
  ipChksum : UInt16
  rsvd1 : Nat
  redirect : Bool
  enable : Bool
  timeStamp : Nat
  protocol : UInt8
  prevIndex : Nat
  indxTblEntry : Nat
  rsvd2 : Nat
  rsvd3 : Nat
  pdnIndex : Nat
  tcpUdpChksum : UInt16
deriving DecidableEq

/-- The entry `memset` leaves. -/
def NatRule.zero : NatRule where
  privateIp := 0
  targetIp := 0
  nextIndex := 0
  publicPort := 0
  privatePort := 0
  targetPort := 0
  ipChksum := 0
  rsvd1 := 0
  redirect := false
  enable := false
  timeStamp := 0
  protocol := 0
  prevIndex := 0
  indxTblEntry := 0
  rsvd2 := 0
  rsvd3 := 0
  pdnIndex := 0
  tcpUdpChksum := 0

/-- `struct ipa_nat_sw_indx_tbl_rule`, the 4-byte index table entry. -/
structure IndxRule where
  tblEntry : Nat
  nextIndex : Nat
deriving DecidableEq

def IndxRule.zero : IndxRule := ⟨0, 0⟩

/-- `struct ipa_nat_indx_tbl_sw_rule`. -/
structure IndxSwRule where
  tblEntry : Nat
  nextIndex : Nat
  prevIndex : Nat

/-- `nat_table_type`. -/
inductive NatTableType
  | baseTbl
  | expnTbl
  | indxTbl
  | indexExpnTbl
deriving DecidableEq

/-- What stays put while rules come and go. `IPA_MAX_PDN_NUM` is a constant of the
kernel's header. `ruleIdBelow` is the half-word in front of `rule_id_array`, which the
parser reads for the handle 0. -/
structure Cfg where
  tableEntries : Nat
  expnTableEntries : Nat
  tblAddrOffset : Nat
  publicIp : Nat → UInt32
  maxPdnNum : Nat
  hwV4 : Bool
  ruleIdBelow : Nat

/-- The table memory the hardware reads. -/
structure HwTbl where
  rules : Nat → NatRule
  indx : Nat → IndxRule

/-! ## 16-bit arithmetic -/

/-- `uint16_t` subtraction. -/
def sub16 (a b : Nat) : Nat := (a + 65536 - b) % 65536

theorem sub16_eq {a b : Nat} (h : b ≤ a) (ha : a < 65536) :
    sub16 a b = a - b := by
  unfold sub16
  omega

/-! ## Writes -/

/-- Field selector of `UpdateSwSpecParams`. -/
inductive SwParam
  | prevIndxByte
  | indxTblEntryByte
deriving DecidableEq

/-- `UpdateSwSpecParams`: one half of the 32-bit word is replaced. -/
def updateSwSpecParams (rule : NatRule) (paramType : SwParam) (value : Nat) :
    NatRule :=
  match paramType with
  | .indxTblEntryByte => { rule with indxTblEntry := value % 65536 }
  | .prevIndxByte => { rule with prevIndex := value % 65536 }

/-- One `ipa_ioc_nat_dma_one`: a 16-bit write at a byte offset from the start
of a table. -/
structure DmaOne where
  baseAddr : NatTableType
  data : Nat
  offset : Nat
deriving DecidableEq

/-- A 16-bit write at byte `off` of a table entry. -/
def NatRule.write16 (r : NatRule) (off data : Nat) : NatRule :=
  match off with
  | 0 => { r with privateIp := (r.privateIp &&& 0xFFFF0000) ||| .ofNat data }
  | 2 => { r with
      privateIp := (r.privateIp &&& 0xFFFF) ||| .ofNat (data * 2 ^ 16) }
  | 4 => { r with targetIp := (r.targetIp &&& 0xFFFF0000) ||| .ofNat data }
  | 6 => { r with
      targetIp := (r.targetIp &&& 0xFFFF) ||| .ofNat (data * 2 ^ 16) }
  | 8 => { r with nextIndex := data }
  | 10 => { r with publicPort := .ofNat data }
  | 12 => { r with privatePort := .ofNat data }
  | 14 => { r with targetPort := .ofNat data }
  | 16 => { r with ipChksum := .ofNat data }
  | 18 => { r with
      rsvd1 := data % 2 ^ 14, redirect := data.testBit 14,
      enable := data.testBit 15 }
  | 20 => { r with timeStamp := r.timeStamp / 2 ^ 16 * 2 ^ 16 + data }
  | 22 => { r with
      timeStamp := data % 2 ^ 8 * 2 ^ 16 + r.timeStamp % 2 ^ 16,
      protocol := .ofNat (data / 2 ^ 8) }
  | 24 => { r with prevIndex := data }
  | 26 => { r with indxTblEntry := data }
  | 28 => { r with
      rsvd2 := data % 2 ^ 8, rsvd3 := data / 2 ^ 8 % 2 ^ 4,
      pdnIndex := data / 2 ^ 12 }
  | 30 => { r with tcpUdpChksum := .ofNat data }
  | _ => r

/-- A 16-bit write at byte `off` of an index table entry. -/
def IndxRule.write16 (r : IndxRule) (off data : Nat) : IndxRule :=
  match off with
  | 0 => { r with tblEntry := data }
  | 2 => { r with nextIndex := data }
  | _ => r

/-- The individual writes to the table memory: `memcpy` and `memset` of one
entry, the assignment of `sw_spec_params`, and the 16-bit writes of the DMA
engine. -/
inductive TblWrite
  | copyRule (e : Nat) (r : NatRule)
  | clearRule (e : Nat)
  | swSpecParams (e : Nat) (paramType : SwParam) (value : Nat)
  | copyIndx (e : Nat) (r : IndxRule)
  | clearIndx (e : Nat)
  | dma (cmd : DmaOne)
deriving DecidableEq

/-- The first cell of a table. -/
def NatTableType.start (c : Cfg) : NatTableType → Nat
  | .baseTbl | .indxTbl => 0
  | .expnTbl | .indexExpnTbl => c.tableEntries

/-- `IPA_NAT_TABLE_ENTRY_SIZE`. -/
def tableEntrySize : Nat := 32

/-- `IPA_NAT_INDEX_TABLE_ENTRY_SIZE`. -/
def indexTableEntrySize : Nat := 4

/-- What a write does to the table memory. -/
def HwTbl.write (c : Cfg) (t : HwTbl) : TblWrite → HwTbl
  | .copyRule e r => { t with rules := Function.update t.rules e r }
  | .clearRule e => { t with rules := Function.update t.rules e .zero }
  | .swSpecParams e p v => { t with
      rules := Function.update t.rules e (updateSwSpecParams (t.rules e) p v) }
  | .copyIndx e r => { t with indx := Function.update t.indx e r }
  | .clearIndx e => { t with indx := Function.update t.indx e .zero }
  | .dma ⟨ty, data, off⟩ =>
    match ty with
    | .baseTbl | .expnTbl =>
      let e := ty.start c + off / tableEntrySize
      { t with
        rules := Function.update t.rules e
          ((t.rules e).write16 (off % tableEntrySize) data) }
    | .indxTbl | .indexExpnTbl =>
      let e := ty.start c + off / indexTableEntrySize
      { t with
        indx := Function.update t.indx e
          ((t.indx e).write16 (off % indexTableEntrySize) data) }

/-- The table memory after a sequence of writes. -/
def HwTbl.writes (c : Cfg) (t : HwTbl) (ws : List TblWrite) : HwTbl :=
  ws.foldl (HwTbl.write c) t

theorem HwTbl.writes_append (c : Cfg) (t : HwTbl) (ws ws' : List TblWrite) :
    t.writes c (ws ++ ws') = (t.writes c ws).writes c ws' :=
  List.foldl_append

/-- The driver's state: the table memory, `index_expn_table_meta`,
`rule_id_array`, and, as a history variable, the table writes of the call in
progress, oldest first. -/
structure Drv where
  hw : HwTbl
  indexExpnTableMeta : Nat → Nat
  ruleIdArray : Nat → Nat
  log : List TblWrite

namespace Drv

def write (c : Cfg) (s : Drv) (w : TblWrite) : Drv :=
  { s with hw := s.hw.write c w, log := s.log ++ [w] }

def setMeta (s : Drv) (i v : Nat) : Drv :=
  { s with indexExpnTableMeta := Function.update s.indexExpnTableMeta i v }

def setRuleId (s : Drv) (i v : Nat) : Drv :=
  { s with ruleIdArray := Function.update s.ruleIdArray i v }

/-- The state of a table that was just created: `ipa_nati_update_cache` zeroes
the two host arrays and `ipa_nati_reset_tbl` the table memory. -/
def reset : Drv where
  hw := ⟨fun _ => .zero, fun _ => .zero⟩
  indexExpnTableMeta := fun _ => 0
  ruleIdArray := fun _ => 0
  log := []

end Drv

end Axon7.IpaNat

/-!
# Adding a rule

`ipa_nati_add_ipv4_rule` and what it calls, function by function: the two
hashes, the checksum differences, the choice of an entry in each of the two
tables, the copy of the rule and of its index entry to the table memory with
the link from the previous entry, the DMA command that enables the rule, and
the slot of the handle.

The search for the end of a collision list is a `while` loop over links read
from the table. It runs on fuel here, and running out of it is an outcome of
its own, `spin`: the call that does not return.
-/

namespace Axon7.IpaNat

/-- How a call fails: `-EINVAL`, `-EIO`, or not returning at all. -/
inductive Err
  | einval
  | eio
  | spin
deriving DecidableEq

/-- `IPPROTO_TCP`. -/
def ipprotoTcp : UInt8 := 6

/-- `IPPROTO_UDP`. -/
def ipprotoUdp : UInt8 := 17

/-! ## Hashes and checksums -/

/-- The end of both hashes: the mask, and `size` in place of 0, which is an
unused entry of the tables. -/
def bucketOf (hash : UInt16) (size : Nat) : Nat :=
  let hash := hash.toNat &&& size
  if hash = 0 then size else hash

theorem bucketOf_pos {hash : UInt16} {size : Nat} (hs : 0 < size) :
    0 < bucketOf hash size := by
  unfold bucketOf
  simp only
  split <;> omega

theorem bucketOf_le (hash : UInt16) (size : Nat) :
    bucketOf hash size ≤ size := by
  unfold bucketOf
  simp only
  split
  · exact Nat.le_refl _
  · exact Nat.and_le_right

/-- `dst_hash`: the bucket of the base table. -/
def dstHash (c : Cfg) (publicIp trgtIp : UInt32) (trgtPort publicPort : UInt16)
    (proto : UInt8) (size : Nat) : Nat :=
  let hash := trgtIp.toUInt16 ^^^ (trgtIp >>> 16).toUInt16 ^^^ trgtPort ^^^
    publicPort ^^^ proto.toUInt16
  let hash := if c.hwV4 then
      hash ^^^ (publicIp.toUInt16 ^^^ (publicIp >>> 16).toUInt16)
    else hash
  bucketOf hash size

/-- `src_hash`: the bucket of the index table. -/
def srcHash (privIp : UInt32) (privPort : UInt16) (trgtIp : UInt32)
    (trgtPort : UInt16) (proto : UInt8) (size : Nat) : Nat :=
  let hash := privIp.toUInt16 ^^^ (privIp >>> 16).toUInt16 ^^^ privPort ^^^
    trgtIp.toUInt16 ^^^ (trgtIp >>> 16).toUInt16 ^^^ trgtPort ^^^
    proto.toUInt16
  bucketOf hash size

/-- One addition of the checksums: the carry out of 16 bits is added back. -/
def cksumAdd (cksum x : UInt32) : UInt32 :=
  let cksum := cksum + x
  if cksum >>> 16 ≠ 0 then (cksum &&& 0xFFFF) + 1 else cksum

/-- `ipa_nati_calc_ip_cksum`. -/
def ipaNatiCalcIpCksum (pubIpAddr privIpAddr : UInt32) : UInt16 :=
  let cksum := pubIpAddr &&& 0xFFFF
  let cksum := cksumAdd cksum (pubIpAddr >>> 16)
  let privIpAddr := ~~~privIpAddr
  let cksum := cksumAdd cksum (privIpAddr &&& 0xFFFF)
  let cksum := cksumAdd cksum (privIpAddr >>> 16)
  cksum.toUInt16

/-- `ipa_nati_calc_tcp_udp_cksum`. -/
def ipaNatiCalcTcpUdpCksum (pubIpAddr : UInt32) (pubPort : UInt16)
    (privIpAddr : UInt32) (privPort : UInt16) : UInt16 :=
  let cksum := pubIpAddr &&& 0xFFFF
  let cksum := cksumAdd cksum (pubIpAddr >>> 16)
  let cksum := cksumAdd cksum pubPort.toUInt32
  let privIpAddr := ~~~privIpAddr
  let cksum := cksumAdd cksum (privIpAddr &&& 0xFFFF)
  let cksum := cksumAdd cksum (privIpAddr >>> 16)
  let cksum := cksumAdd cksum (~~~privPort).toUInt32
  cksum.toUInt16

/-! ## Choosing the entries -/

/-- The expansion table, from the driver's `expn_tbl` pointer. -/
def expnRule (c : Cfg) (s : Drv) (i : Nat) : NatRule :=
  s.hw.rules (c.tableEntries + i)

/-- The index expansion table, from `indx_expn_tbl`. -/
def expnIndx (c : Cfg) (s : Drv) (i : Nat) : IndxRule :=
  s.hw.indx (c.tableEntries + i)

/-- What the search for the last entry of a collision list comes to. -/
inductive ChainEnd
  | last (prev : Nat)
  | selfLink
  | spin

/-- The `while (nxt_indx != IPA_NAT_INVALID_NAT_ENTRY)` loop of the two
generators. -/
def findLast (c : Cfg) (expnNext : Nat → Nat) : Nat → Nat → Nat → ChainEnd
  | 0, prev, nxtIndx => if nxtIndx = 0 then .last prev else .spin
  | fuel + 1, prev, nxtIndx =>
    if nxtIndx = 0 then .last prev
    else
      let prev := nxtIndx
      let nxtIndx := expnNext (sub16 nxtIndx c.tableEntries)
      if prev = nxtIndx then .selfLink else findLast c expnNext fuel prev nxtIndx

/-- Fuel for `findLast`: no collision list is longer than the table. -/
def Cfg.walkFuel (c : Cfg) : Nat := c.tableEntries + c.expnTableEntries

/-- The previous entry of a rule that collides at `newEntry`. -/
def collisionPrev (c : Cfg) (baseNext expnNext : Nat → Nat) (newEntry : Nat) :
    ChainEnd :=
  if baseNext newEntry = 0 then .last newEntry
  else findLast c expnNext c.walkFuel 0 (baseNext newEntry)

/-- The scan of an expansion table: the first entry from 1 on that is not in
use, or 0. -/
def expnFreeEntry (inUse : Nat → Bool) (size : Nat) : Nat :=
  ((List.range' 1 (size - 1)).find? fun cnt => !inUse cnt).getD 0

/-- `ipa_nati_expn_tbl_free_entry`. -/
def ipaNatiExpnTblFreeEntry (c : Cfg) (s : Drv) : Nat :=
  expnFreeEntry (fun i => (expnRule c s i).enable) c.expnTableEntries

/-- `ipa_nati_index_expn_get_free_entry`. -/
def ipaNatiIndexExpnGetFreeEntry (c : Cfg) (s : Drv) : Nat :=
  expnFreeEntry (fun i => (expnIndx c s i).tblEntry != 0) c.expnTableEntries

/-- The rule `ipa_nati_generate_tbl_rule` makes of the client's, before it is
placed. -/
def swRuleOf (c : Cfg) (clntRule : ClntRule) : NatRule :=
  let pubIpAddr := c.publicIp clntRule.pdnIndex
  { NatRule.zero with
    privateIp := clntRule.privateIp
    privatePort := clntRule.privatePort
    protocol := clntRule.protocol
    publicPort := clntRule.publicPort
    targetIp := clntRule.targetIp
    targetPort := clntRule.targetPort
    pdnIndex := clntRule.pdnIndex % 16
    ipChksum := ipaNatiCalcIpCksum pubIpAddr clntRule.privateIp
    tcpUdpChksum :=
      if clntRule.protocol = ipprotoTcp ∨ clntRule.protocol = ipprotoUdp then
        ipaNatiCalcTcpUdpCksum pubIpAddr clntRule.publicPort
          clntRule.privateIp clntRule.privatePort
      else 0 }

/-- `ipa_nati_generate_tbl_rule`: the entry of the new rule and the rule. -/
def ipaNatiGenerateTblRule (c : Cfg) (s : Drv) (clntRule : ClntRule) :
    Except Err (Nat × NatRule) :=
  let swRule := swRuleOf c clntRule
  let newEntry := dstHash c (c.publicIp clntRule.pdnIndex) clntRule.targetIp
    clntRule.targetPort clntRule.publicPort clntRule.protocol
    (c.tableEntries - 1)
  -- no collision
  if (s.hw.rules newEntry).enable = false then .ok (newEntry, swRule)
  else
    match collisionPrev c (fun i => (s.hw.rules i).nextIndex)
        (fun i => (expnRule c s i).nextIndex) newEntry with
    | .spin => .error .spin
    | .selfLink => .error .einval
    | .last prev =>
      let swRule := { swRule with prevIndex := prev }
      let newEntry := ipaNatiExpnTblFreeEntry c s
      if newEntry = 0 then .error .einval
      else .ok (newEntry + c.tableEntries, swRule)

/-- `ipa_nati_generate_index_rule`: the index entry of the rule at `tblEntry`
and what goes there. -/
def ipaNatiGenerateIndexRule (c : Cfg) (s : Drv) (clntRule : ClntRule)
    (tblEntry : Nat) : Except Err (Nat × IndxSwRule) :=
  let newEntry := srcHash clntRule.privateIp clntRule.privatePort
    clntRule.targetIp clntRule.targetPort clntRule.protocol
    (c.tableEntries - 1)
  if (s.hw.indx newEntry).tblEntry = 0 then .ok (newEntry, ⟨tblEntry, 0, 0⟩)
  else
    match collisionPrev c (fun i => (s.hw.indx i).nextIndex)
        (fun i => (expnIndx c s i).nextIndex) newEntry with
    | .spin => .error .spin
    | .selfLink => .error .einval
    | .last prev =>
      let newEntry := ipaNatiIndexExpnGetFreeEntry c s
      if newEntry = 0 then .error .einval
      else if prev = newEntry + c.tableEntries then .error .einval
      else .ok (newEntry + c.tableEntries, ⟨tblEntry, 0, prev⟩)

/-- What `ipa_nati_generate_rule` hands back. -/
structure GenRule where
  rule : NatRule
  indexSwRule : IndxSwRule
  tblEntry : Nat
  indxTblEntry : Nat

/-- `ipa_nati_generate_rule`. -/
def ipaNatiGenerateRule (c : Cfg) (s : Drv) (clntRule : ClntRule) :
    Except Err (GenRule × Drv) :=
  match ipaNatiGenerateTblRule c s clntRule with
  | .error e => .error e
  | .ok (tblEntry, rule) =>
    match ipaNatiGenerateIndexRule c s clntRule tblEntry with
    | .error e => .error e
    | .ok (indxTblEntry, indexSwRule) =>
      let rule := { rule with indxTblEntry := indxTblEntry }
      let s := if indxTblEntry ≥ c.tableEntries then
          s.setMeta (sub16 indxTblEntry c.tableEntries)
            indexSwRule.prevIndex
        else s
      .ok (⟨rule, indexSwRule, tblEntry, indxTblEntry⟩, s)

/-! ## Writing them -/

/-- `IPA_NAT_RULE_FLAG_FIELD_OFFSET`. -/
def ruleFlagFieldOffset : Nat := 18

/-- `IPA_NAT_RULE_NEXT_FIELD_OFFSET`. -/
def ruleNextFieldOffset : Nat := 8

/-- `IPA_NAT_RULE_PROTO_FIELD_OFFSET`. -/
def ruleProtoFieldOffset : Nat := 22

/-- `IPA_NAT_INDEX_RULE_NEXT_FIELD_OFFSET`. -/
def indexRuleNextFieldOffset : Nat := 2

/-- `IPA_NAT_INDEX_RULE_NAT_INDEX_FIELD_OFFSET`. -/
def indexRuleNatIndexFieldOffset : Nat := 0

/-- `IPA_NAT_FLAG_ENABLE_BIT_MASK`. -/
def flagEnableBitMask : Nat := 0x8000

/-- `uint32_t` addition, as of one more offset to an offset. -/
def add32 (a b : Nat) : Nat := (a + b) % 2 ^ 32

theorem add32_eq {a b : Nat} (h : a + b < 2 ^ 32) : add32 a b = a + b :=
  Nat.mod_eq_of_lt h

/-- `ipa_nati_get_entry_offset`. -/
def ipaNatiGetEntryOffset (c : Cfg) (tblEntry : Nat) : Nat :=
  add32 (tblEntry * tableEntrySize) c.tblAddrOffset

/-- `ipa_nati_get_index_entry_offset`. -/
def ipaNatiGetIndexEntryOffset (c : Cfg) (indxTblEntry : Nat) : Nat :=
  add32 (indxTblEntry * indexTableEntrySize) c.tblAddrOffset

/-- `ipa_nati_write_next_index`: the outcome of the ioctl is not reported. -/
def ipaNatiWriteNextIndex (c : Cfg) (s : Drv) (dmaOk : Bool)
    (tblType : NatTableType) (value offset : Nat) : Drv :=
  if dmaOk then s.write c (.dma ⟨tblType, value, offset⟩) else s

/-- The cell of an entry number, by the table the source picks for it. -/
def cellOf (c : Cfg) (entry : Nat) : Nat :=
  if entry < c.tableEntries then entry
  else c.tableEntries + sub16 entry c.tableEntries

/-- `ipa_nati_copy_ipv4_rule_to_hw`. -/
def ipaNatiCopyIpv4RuleToHw (c : Cfg) (s : Drv) (dmaOk : Bool) (rule : NatRule)
    (entry : Nat) : Drv :=
  let s := s.write c (.copyRule (cellOf c entry) rule)
  let prevEntry := rule.prevIndex
  if prevEntry = 0 then s
  else if prevEntry < c.tableEntries then
    ipaNatiWriteNextIndex c s dmaOk .baseTbl entry
      (add32 (ipaNatiGetEntryOffset c prevEntry) ruleNextFieldOffset)
  else
    ipaNatiWriteNextIndex c s dmaOk .expnTbl entry
      (add32 (ipaNatiGetEntryOffset c (sub16 prevEntry c.tableEntries))
        ruleNextFieldOffset)

/-- `ipa_nati_copy_ipv4_index_rule_to_hw`. The offset is a `uint16_t` here. -/
def ipaNatiCopyIpv4IndexRuleToHw (c : Cfg) (s : Drv) (dmaOk : Bool)
    (indxSwRule : IndxSwRule) (entry : Nat) : Drv :=
  let s := s.write c
    (.copyIndx (cellOf c entry) ⟨indxSwRule.tblEntry, indxSwRule.nextIndex⟩)
  let prevEntry := indxSwRule.prevIndex
  let offset (e : Nat) : Nat :=
    (ipaNatiGetIndexEntryOffset c e % 65536 + indexRuleNextFieldOffset) % 65536
  if prevEntry = 0 then s
  else if prevEntry < c.tableEntries then
    ipaNatiWriteNextIndex c s dmaOk .indxTbl entry (offset prevEntry)
  else
    ipaNatiWriteNextIndex c s dmaOk .indexExpnTbl entry
      (offset (sub16 prevEntry c.tableEntries))

/-- The command of `ipa_nati_post_ipv4_dma_cmd`. -/
def enableCmd (c : Cfg) (entry : Nat) : DmaOne :=
  if entry < c.tableEntries then
    ⟨.baseTbl, flagEnableBitMask,
      add32 (entry * tableEntrySize) ruleFlagFieldOffset⟩
  else
    ⟨.expnTbl, flagEnableBitMask,
      add32 (add32 (sub16 entry c.tableEntries * tableEntrySize)
        ruleFlagFieldOffset) c.tblAddrOffset⟩

/-- `ipa_nati_post_ipv4_dma_cmd`: `none` is `-EIO`. -/
def ipaNatiPostIpv4DmaCmd (c : Cfg) (s : Drv) (dmaOk : Bool) (entry : Nat) :
    Option Drv :=
  if dmaOk then some (s.write c (.dma (enableCmd c entry))) else none

/-- The rule id of an entry: its number in its table and one bit for which. -/
def ruleIdOf (c : Cfg) (tblEntry : Nat) : Nat :=
  if tblEntry ≥ c.tableEntries then
    (sub16 tblEntry c.tableEntries * 2) % 65536 ||| 1
  else (tblEntry * 2) % 65536

/-- `ipa_nati_make_rule_hdl`: the handle, 0 when no slot is free. -/
def ipaNatiMakeRuleHdl (c : Cfg) (s : Drv) (tblEntry : Nat) : Nat × Drv :=
  let ruleHdl := ruleIdOf c tblEntry
  match (List.range (c.tableEntries + c.expnTableEntries)).find?
      fun cnt => s.ruleIdArray cnt == 0 with
  | some cnt => (cnt + 1, s.setRuleId cnt ruleHdl)
  | none => (0, s)

/-- Whether each `IPA_IOC_NAT_DMA` of an add succeeds. -/
structure AddDma where
  linkRule : Bool
  linkIndx : Bool
  enable : Bool

/-- All three do. -/
def AddDma.allOk : AddDma := ⟨true, true, true⟩

/-- `ipa_nati_add_ipv4_rule`: the new handle or the error, and the state. -/
def ipaNatiAddIpv4Rule (c : Cfg) (s : Drv) (dma : AddDma)
    (clntRule : ClntRule) : Except Err Nat × Drv :=
  let s := { s with log := [] }
  if clntRule.pdnIndex ≥ c.maxPdnNum ∨ c.publicIp clntRule.pdnIndex = 0 then
    (.error .einval, s)
  else
    match ipaNatiGenerateRule c s clntRule with
    | .error e => (.error e, s)
    | .ok (g, s) =>
      let s := ipaNatiCopyIpv4RuleToHw c s dma.linkRule g.rule g.tblEntry
      let s := ipaNatiCopyIpv4IndexRuleToHw c s dma.linkIndx g.indexSwRule
        g.indxTblEntry
      match ipaNatiPostIpv4DmaCmd c s dma.enable g.tblEntry with
      | none => (.error .eio, s)
      | some s =>
        let (ruleHdl, s) := ipaNatiMakeRuleHdl c s g.tblEntry
        if ruleHdl = 0 then (.error .einval, s) else (.ok ruleHdl, s)

end Axon7.IpaNat
