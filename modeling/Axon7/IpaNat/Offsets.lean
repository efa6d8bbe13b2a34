import Axon7.IpaNat.Del
import Axon7.IpaNat.Sizes

/-!
# The offsets of the DMA commands

A field of an entry is where its table is, behind the entries in front of it. The
offsets of most commands are put together in 32 bits by the same two functions;
the command that enables a rule of the base table leaves out the offset of the
table, and the one that links an index entry to its predecessor keeps its offset
in 16 bits.
-/

namespace Axon7.IpaNat

variable {c : Cfg}

/-- Where a field of a rule entry is, of the entry with the number given in its
table. -/
def ruleFieldAddr (c : Cfg) (number field : Nat) : Nat :=
  c.tblAddrOffset + number * tableEntrySize + field

/-- Where a field of an index entry is. -/
def indxFieldAddr (c : Cfg) (number field : Nat) : Nat :=
  c.tblAddrOffset + number * indexTableEntrySize + field

/-- The number of an entry in its own table. -/
def Cfg.numberOf (c : Cfg) (entry : Nat) : Nat :=
  if entry < c.tableEntries then entry else entry - c.tableEntries

/-- The entry is one of the two tables. -/
def Cfg.HasEntry (c : Cfg) (entry : Nat) : Prop :=
  entry < c.tableEntries + c.expnTableEntries

instance (c : Cfg) (entry : Nat) : Decidable (c.HasEntry entry) := Nat.decLt ..

/-- The commands, of an add and of a delete, that write a field of an entry all have
the offset of that field, whatever is in the tables. -/
structure OffsetsAgree (c : Cfg) : Prop where
  /-- to enable a rule that is added -/
  enable : ∀ entry, c.HasEntry entry →
    (enableCmd c entry).offset = ruleFieldAddr c (c.numberOf entry) ruleFlagFieldOffset
  /-- to link its predecessor, the last write of the copy -/
  linkRule : ∀ s rule entry, rule.prevIndex ≠ 0 → c.HasEntry rule.prevIndex →
    (ipaNatiCopyIpv4RuleToHw c s true rule entry).log.getLast? = some (.dma
      ⟨if rule.prevIndex < c.tableEntries then .baseTbl else .expnTbl, entry,
        ruleFieldAddr c (c.numberOf rule.prevIndex) ruleNextFieldOffset⟩)
  /-- to link the index predecessor -/
  linkIndx : ∀ s indxSwRule entry, indxSwRule.prevIndex ≠ 0 →
    c.HasEntry indxSwRule.prevIndex →
    (ipaNatiCopyIpv4IndexRuleToHw c s true indxSwRule entry).log.getLast? = some (.dma
      ⟨if indxSwRule.prevIndex < c.tableEntries then .indxTbl else .indexExpnTbl, entry,
        indxFieldAddr c (c.numberOf indxSwRule.prevIndex) indexRuleNextFieldOffset⟩)
  /-- to delete the only rule of its list -/
  delFlag : ∀ s entry, entry < c.tableEntries →
    (delRuleCmd c s entry false .onlyOne).offset = ruleFieldAddr c entry ruleFlagFieldOffset
  /-- to delete the head of a list -/
  delProto : ∀ s entry, entry < c.tableEntries →
    (delRuleCmd c s entry false .head).offset = ruleFieldAddr c entry ruleProtoFieldOffset
  /-- to take a rule out behind its predecessor -/
  delNext : ∀ s entry expnTbl pos, pos = .middle ∨ pos = .last →
    c.HasEntry (s.hw.rules (cellIn c expnTbl entry)).prevIndex →
    (delRuleCmd c s entry expnTbl pos).offset = ruleFieldAddr c
      (c.numberOf (s.hw.rules (cellIn c expnTbl entry)).prevIndex) ruleNextFieldOffset
  /-- to delete an index entry alone in its list -/
  delIndxOnly : ∀ s entry, entry < c.tableEntries →
    (delIndxCmds c s entry .onlyOne).map (·.offset) =
      [indxFieldAddr c entry indexRuleNatIndexFieldOffset]
  /-- to copy the next index entry into the head -/
  delIndxHead : ∀ s entry, entry < c.tableEntries →
    (delIndxCmds c s entry .head).map (·.offset) =
      [indxFieldAddr c entry indexRuleNatIndexFieldOffset,
        indxFieldAddr c entry indexRuleNextFieldOffset]
  /-- to take an index entry out behind its predecessor -/
  delIndxNext : ∀ s entry pos, pos = .middle ∨ pos = .last →
    c.HasEntry (s.indexExpnTableMeta (indxInTbl c entry)) →
    (delIndxCmds c s entry pos).map (·.offset) =
      [indxFieldAddr c (c.numberOf (s.indexExpnTableMeta (indxInTbl c entry)))
        indexRuleNextFieldOffset]

/-- The offset of the table is not left out where there is one, and the index tables end
within 16 bits. -/
structure Cfg.InReach (c : Cfg) : Prop where
  offset : 0 < c.tableEntries → c.tblAddrOffset = 0
  base : ∀ number, number < c.tableEntries → number ≠ 0 →
    indxFieldAddr c number indexRuleNextFieldOffset < 2 ^ 16
  expn : ∀ number, number < c.expnTableEntries → number + c.tableEntries ≠ 0 →
    indxFieldAddr c number indexRuleNextFieldOffset < 2 ^ 16

/-! ## One command -/

theorem add32_ruleFieldAddr {number field : Nat}
    (h : ruleFieldAddr c number field < 2 ^ 32) :
    add32 (ipaNatiGetEntryOffset c number) field = ruleFieldAddr c number field := by
  unfold ipaNatiGetEntryOffset add32
  unfold ruleFieldAddr at *
  omega

theorem add32_indxFieldAddr {number field : Nat}
    (h : indxFieldAddr c number field < 2 ^ 32) :
    add32 (ipaNatiGetIndexEntryOffset c number) field = indxFieldAddr c number field := by
  unfold ipaNatiGetIndexEntryOffset add32
  unfold indxFieldAddr at *
  omega

theorem link16_iff {number : Nat} (h : c.tblAddrOffset < 2 ^ 32) (hn : number < 2 ^ 16) :
    (ipaNatiGetIndexEntryOffset c number % 65536 + indexRuleNextFieldOffset) % 65536 =
        indxFieldAddr c number indexRuleNextFieldOffset ↔
      indxFieldAddr c number indexRuleNextFieldOffset < 2 ^ 16 := by
  unfold ipaNatiGetIndexEntryOffset add32 indxFieldAddr indexTableEntrySize
    indexRuleNextFieldOffset
  omega

section Commands

variable (hsize : c.tableEntries + c.expnTableEntries < 2 ^ 16) {entry : Nat}
include hsize

theorem numberOf_lt (he : c.HasEntry entry) : c.numberOf entry < 2 ^ 16 := by
  unfold Cfg.HasEntry at he
  unfold Cfg.numberOf
  split <;> omega

theorem sub16_numberOf (he : c.HasEntry entry) (hge : ¬entry < c.tableEntries) :
    sub16 entry c.tableEntries = c.numberOf entry := by
  unfold Cfg.HasEntry at he
  rw [sub16_eq (Nat.not_lt.mp hge) (by omega), Cfg.numberOf, if_neg hge]

omit hsize in
theorem numberOf_base (hlt : entry < c.tableEntries) : c.numberOf entry = entry := if_pos hlt

theorem copyIpv4RuleToHw_getLast {s : Drv} {rule : NatRule} (hne : rule.prevIndex ≠ 0)
    (he : c.HasEntry rule.prevIndex) :
    (ipaNatiCopyIpv4RuleToHw c s true rule entry).log.getLast? = some (.dma
      ⟨if rule.prevIndex < c.tableEntries then .baseTbl else .expnTbl, entry,
        add32 (ipaNatiGetEntryOffset c (c.numberOf rule.prevIndex)) ruleNextFieldOffset⟩) := by
  unfold ipaNatiCopyIpv4RuleToHw ipaNatiWriteNextIndex
  simp only [if_neg hne, if_true]
  by_cases hlt : rule.prevIndex < c.tableEntries
  · rw [if_pos hlt, if_pos hlt, numberOf_base hlt]
    exact List.getLast?_concat
  · rw [if_neg hlt, if_neg hlt, sub16_numberOf hsize he hlt]
    exact List.getLast?_concat

theorem copyIpv4IndexRuleToHw_getLast {s : Drv} {r : IndxSwRule} (hne : r.prevIndex ≠ 0)
    (he : c.HasEntry r.prevIndex) :
    (ipaNatiCopyIpv4IndexRuleToHw c s true r entry).log.getLast? = some (.dma
      ⟨if r.prevIndex < c.tableEntries then .indxTbl else .indexExpnTbl, entry,
        (ipaNatiGetIndexEntryOffset c (c.numberOf r.prevIndex) % 65536 +
          indexRuleNextFieldOffset) % 65536⟩) := by
  unfold ipaNatiCopyIpv4IndexRuleToHw ipaNatiWriteNextIndex
  simp only [if_neg hne, if_true]
  by_cases hlt : r.prevIndex < c.tableEntries
  · rw [if_pos hlt, if_pos hlt, numberOf_base hlt]
    exact List.getLast?_concat
  · rw [if_neg hlt, if_neg hlt, sub16_numberOf hsize he hlt]
    exact List.getLast?_concat

theorem enableCmd_offset (he : c.HasEntry entry) :
    (enableCmd c entry).offset =
      add32 (c.numberOf entry * tableEntrySize + ruleFlagFieldOffset)
        (if entry < c.tableEntries then 0 else c.tblAddrOffset) := by
  have hlt := numberOf_lt hsize he
  have hflag : add32 (c.numberOf entry * tableEntrySize) ruleFlagFieldOffset =
      c.numberOf entry * tableEntrySize + ruleFlagFieldOffset :=
    add32_eq (by unfold tableEntrySize ruleFlagFieldOffset; omega)
  unfold enableCmd
  by_cases hbase : entry < c.tableEntries
  · rw [if_pos hbase, if_pos hbase]
    rw [numberOf_base hbase] at hflag hlt ⊢
    show add32 (entry * tableEntrySize) ruleFlagFieldOffset = _
    rw [hflag, add32_eq (by unfold tableEntrySize ruleFlagFieldOffset; omega), Nat.add_zero]
  · rw [if_neg hbase, if_neg hbase, sub16_numberOf hsize he hbase]
    show add32 (add32 _ _) _ = _
    rw [hflag]

theorem prevRuleCmd_offset (he : c.HasEntry entry) (data : Nat) :
    (prevRuleCmd c entry data).offset =
      add32 (ipaNatiGetEntryOffset c (c.numberOf entry)) ruleNextFieldOffset := by
  unfold prevRuleCmd
  by_cases hlt : entry < c.tableEntries
  · rw [if_neg (Nat.not_le.mpr hlt), numberOf_base hlt]
  · rw [if_pos (Nat.not_lt.mp hlt), sub16_numberOf hsize he hlt]

theorem prevIndxCmd_offset (he : c.HasEntry entry) (data : Nat) :
    (prevIndxCmd c entry data).offset =
      add32 (ipaNatiGetIndexEntryOffset c (c.numberOf entry)) indexRuleNextFieldOffset := by
  unfold prevIndxCmd
  by_cases hlt : entry < c.tableEntries
  · rw [if_neg (Nat.not_le.mpr hlt), numberOf_base hlt]
  · rw [if_pos (Nat.not_lt.mp hlt), sub16_numberOf hsize he hlt]

end Commands

/-! ## All commands -/

section Agree

variable (hsize : c.tableEntries + c.expnTableEntries < 2 ^ 16)
include hsize

theorem OffsetsAgree.of_inReach (hexpn : 2 ≤ c.expnTableEntries) (h : c.InReach) :
    OffsetsAgree c := by
  have ho : c.tblAddrOffset < 2 ^ 16 := by
    have hone := h.expn 1 (by omega) (by omega)
    unfold indxFieldAddr at hone
    omega
  have hrule : ∀ number f, number < 2 ^ 16 → f < 32 →
      add32 (ipaNatiGetEntryOffset c number) f = ruleFieldAddr c number f := by
    intro number f hn hf
    exact add32_ruleFieldAddr (by unfold ruleFieldAddr tableEntrySize; omega)
  have hindx : ∀ number f, number < 2 ^ 16 → f < 4 →
      add32 (ipaNatiGetIndexEntryOffset c number) f = indxFieldAddr c number f := by
    intro number f hn hf
    exact add32_indxFieldAddr (by unfold indxFieldAddr indexTableEntrySize; omega)
  have hlink : ∀ entry, c.HasEntry entry → entry ≠ 0 →
      indxFieldAddr c (c.numberOf entry) indexRuleNextFieldOffset < 2 ^ 16 := by
    intro entry he hne
    unfold Cfg.HasEntry at he
    unfold Cfg.numberOf
    split
    · next hlt => exact h.base entry hlt hne
    · next hge => exact h.expn _ (by omega) (by omega)
  have hself : ∀ entry, entry < c.tableEntries → indxInTbl c entry = entry :=
    fun entry hlt => if_neg (Nat.not_le.mpr hlt)
  constructor
  case enable =>
    intro entry he
    have hn := numberOf_lt hsize he
    rw [enableCmd_offset hsize he]
    unfold ruleFieldAddr tableEntrySize ruleFlagFieldOffset
    split
    · next hlt =>
        rw [h.offset (by omega), add32_eq (by omega)]
        omega
    · rw [add32_eq (by omega)]
      omega
  case linkRule =>
    intro s rule entry hne he
    rw [copyIpv4RuleToHw_getLast hsize hne he,
      hrule _ ruleNextFieldOffset (numberOf_lt hsize he) (by decide)]
  case linkIndx =>
    intro s r entry hne he
    have h16 := (link16_iff (by omega) (numberOf_lt hsize he)).mpr (hlink _ he hne)
    rw [copyIpv4IndexRuleToHw_getLast hsize hne he, h16]
  case delFlag => exact fun s entry hlt => hrule entry _ (by omega) (by decide)
  case delProto => exact fun s entry hlt => hrule entry _ (by omega) (by decide)
  case delNext =>
    rintro s entry expnTbl pos (rfl | rfl) he
    · exact (prevRuleCmd_offset hsize he _).trans
        (hrule _ _ (numberOf_lt hsize he) (by decide))
    · exact (prevRuleCmd_offset hsize he _).trans
        (hrule _ _ (numberOf_lt hsize he) (by decide))
  case delIndxOnly =>
    intro s entry hlt
    have hentry := hindx entry indexRuleNatIndexFieldOffset (by omega) (by decide)
    simp only [delIndxCmds, List.map_cons, List.map_nil, hself entry hlt, hentry]
  case delIndxHead =>
    intro s entry hlt
    have hentry := hindx entry indexRuleNatIndexFieldOffset (by omega) (by decide)
    have hnext := hindx entry indexRuleNextFieldOffset (by omega) (by decide)
    simp only [delIndxCmds, List.map_cons, List.map_nil, hself entry hlt, hentry, hnext]
  case delIndxNext =>
    rintro s entry pos (rfl | rfl) he
    · have hnext := hindx _ indexRuleNextFieldOffset (numberOf_lt hsize he) (by decide)
      simp only [delIndxCmds, List.map_cons, List.map_nil, prevIndxCmd_offset hsize he, hnext]
    · have hnext := hindx _ indexRuleNextFieldOffset (numberOf_lt hsize he) (by decide)
      simp only [delIndxCmds, List.map_cons, List.map_nil, prevIndxCmd_offset hsize he, hnext]

theorem OffsetsAgree.inReach (h : OffsetsAgree c) (ho : c.tblAddrOffset < 2 ^ 32) :
    c.InReach := by
  have hlink : ∀ entry, c.HasEntry entry → entry ≠ 0 →
      indxFieldAddr c (c.numberOf entry) indexRuleNextFieldOffset < 2 ^ 16 := by
    intro entry he hne
    have hlast := h.linkIndx .reset ⟨0, 0, entry⟩ 0 hne he
    rw [copyIpv4IndexRuleToHw_getLast hsize hne he] at hlast
    injection hlast with hlast
    injection hlast with hlast
    injection hlast with _ _ hoffset
    exact (link16_iff ho (numberOf_lt hsize he)).mp hoffset
  refine ⟨fun hpos => ?_, fun number hlt hne => ?_, fun number hlt hne => ?_⟩
  · have he : c.HasEntry 0 := Nat.add_pos_left hpos _
    have henable := h.enable 0 he
    rw [enableCmd_offset hsize he, if_pos hpos, numberOf_base hpos] at henable
    have hflag : add32 (0 * tableEntrySize + ruleFlagFieldOffset) 0 = 18 := by decide
    rw [hflag] at henable
    unfold ruleFieldAddr ruleFlagFieldOffset at henable
    omega
  · have := hlink number (Nat.lt_add_right _ hlt) hne
    rwa [numberOf_base hlt] at this
  · have := hlink (c.tableEntries + number) (Nat.add_lt_add_left hlt _) (by omega)
    rwa [Cfg.numberOf, if_neg (by omega), Nat.add_sub_cancel_left] at this

end Agree

/-- A configuration with the sizes of a table that is made. -/
structure Cfg.Has (c : Cfg) (a : Alloc) : Prop where
  tableEntries : c.tableEntries = a.tableEntries
  expnTableEntries : c.expnTableEntries = a.expnTableEntries
  tblAddrOffset : c.tblAddrOffset < 2 ^ 32

/-- All offsets agree exactly if the table is at the start of its memory and the base
share of the entries is not above 2 to the 14, or if it is so large that there is no base
table, and the index expansion table ends within 16 bits. -/
theorem offsetsAgree_iff {n : Nat} {a : Alloc} {c : Cfg} (hn : n < 2 ^ 16)
    (ha : allocSizes n = .ok a) (hc : c.Has a) :
    OffsetsAgree c ↔ c.tblAddrOffset = 0 ∧ n ≤ 20481 ∨
      40961 < n ∧ c.tblAddrOffset + 4 * getNearestEven (n / 5) < 2 ^ 16 + 2 := by
  have hexpn := expansion_le hn
  have hshare : expansionShare n = n / 5 := Nat.mod_eq_of_lt (by omega)
  rw [hshare] at hexpn
  obtain ⟨ht, hx, ho⟩ := hc
  by_cases hle : n ≤ 40961
  · obtain ⟨k, hk, -, hroom, hleast⟩ := allocSizes_of_le hle
    rw [hk] at ha
    rw [← Except.ok.inj ha] at ht hx
    dsimp only at ht hx
    rw [hshare] at hx
    have hpos := Nat.two_pow_pos k
    have hhigh : 2 ^ k ≤ 2 ^ 15 :=
      Nat.pow_le_pow_right (by decide) (hleast 15 (by decide) (by omega))
    constructor
    · intro h
      have hreach := h.inReach (by omega) ho
      refine .inl ⟨hreach.offset (by omega), ?_⟩
      by_contra hgt
      -- the index entry with this number is the first that 16 bits are not enough for
      have hbase := hreach.base 16384 (by omega) (by decide)
      unfold indxFieldAddr indexTableEntrySize at hbase
      omega
    · rintro (⟨hzero, hsmall⟩ | ⟨hbig, -⟩)
      · have hlow : 2 ^ k ≤ 2 ^ 14 :=
          Nat.pow_le_pow_right (by decide) (hleast 14 (by decide) (by omega))
        refine .of_inReach (by omega) (by omega) ⟨fun _ => hzero, ?_, ?_⟩
        · intro number hlt _
          unfold indxFieldAddr indexTableEntrySize indexRuleNextFieldOffset
          omega
        · intro number hlt _
          unfold indxFieldAddr indexTableEntrySize indexRuleNextFieldOffset
          omega
      · omega
  · obtain ⟨size, hsize⟩ := allocSizes_of_lt (Nat.lt_of_not_le hle) hn
    rw [hsize] at ha
    rw [← Except.ok.inj ha] at ht hx
    dsimp only at ht hx
    rw [hshare] at hx
    constructor
    · intro h
      have hlast := (h.inReach (by omega) ho).expn (c.expnTableEntries - 1) (by omega) (by omega)
      unfold indxFieldAddr indexTableEntrySize indexRuleNextFieldOffset at hlast
      exact .inr ⟨Nat.lt_of_not_le hle, by omega⟩
    · rintro (⟨-, hsmall⟩ | ⟨-, hends⟩)
      · omega
      · refine .of_inReach (by omega) (by omega) ⟨?_, ?_, ?_⟩
        · intro hpos
          omega
        · intro number hlt
          omega
        · intro number hlt _
          unfold indxFieldAddr indexTableEntrySize indexRuleNextFieldOffset
          omega

/-- The configuration of a table of the default number of entries. -/
def Cfg.sample500 : Cfg where
  tableEntries := 512
  expnTableEntries := 100
  tblAddrOffset := 0
  publicIp := fun _ => 0
  maxPdnNum := 5
  hwV4 := true
  ruleIdBelow := 0

theorem offsetsAgree_500 : OffsetsAgree Cfg.sample500 :=
  (offsetsAgree_iff (n := 500) (a := ⟨36 * 612, 512, 100⟩) (by decide) (by decide)
    ⟨rfl, rfl, by decide⟩).mpr (.inl (by decide))

/-- Behind another table in its memory, the command for base entry 1 enables an entry of the
other table. With more base entries the link of index entry 16384 goes to index entry 0. -/
theorem not_offsetsAgree :
    (allocSizes 500 = .ok ⟨36 * 612, 512, 100⟩ ∧
      ¬OffsetsAgree { Cfg.sample500 with tblAddrOffset := 4096 }) ∧
    (allocSizes 20500 = .ok ⟨36 * 36868, 32768, 4100⟩ ∧
      ¬OffsetsAgree
        { Cfg.sample500 with tableEntries := 32768, expnTableEntries := 4100 }) := by
  refine ⟨⟨by decide, fun h => ?_⟩, ⟨by decide, fun h => ?_⟩⟩
  · have henable := h.enable 1 (by decide)
    exact absurd henable (by decide)
  · have hlink := h.linkIndx .reset ⟨0, 0, 16384⟩ 1 (by decide) (by decide)
    exact absurd hlink (by decide)

end Axon7.IpaNat
