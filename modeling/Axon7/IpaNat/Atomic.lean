import Axon7.IpaNat.Run

/-!
# A failed add is not undone

Of the DMA commands of an add the driver looks at the outcome of the last one only, and
by then the rule and its index entry are copied. The index entry that is taken was free:
whatever fails, it is in use afterwards.
-/

namespace Axon7.IpaNat

/-- One of the DMA commands that the call issues fails: a link from an entry before the
new one, where there is one, or the one that enables the rule. -/
def DmaFails (c : Cfg) (s : Drv) (dma : AddDma) (clntRule : ClntRule) : Prop :=
  ¬ (clntRule.pdnIndex ≥ c.maxPdnNum ∨ c.publicIp clntRule.pdnIndex = 0) ∧
    ∃ g s', ipaNatiGenerateRule c { s with log := [] } clntRule = .ok (g, s') ∧
      (g.rule.prevIndex ≠ 0 ∧ dma.linkRule = false ∨
        g.indexSwRule.prevIndex ≠ 0 ∧ dma.linkIndx = false ∨ dma.enable = false)

/-- The call fails and leaves everything as it was. -/
structure AddUndone (c : Cfg) (s : Drv) (dma : AddDma) (clntRule : ClntRule) : Prop where
  error : ∃ e, (ipaNatiAddIpv4Rule c s dma clntRule).1 = .error e
  hw : (ipaNatiAddIpv4Rule c s dma clntRule).2.hw = s.hw
  indexExpnTableMeta :
    (ipaNatiAddIpv4Rule c s dma clntRule).2.indexExpnTableMeta = s.indexExpnTableMeta
  ruleIdArray : (ipaNatiAddIpv4Rule c s dma clntRule).2.ruleIdArray = s.ruleIdArray

/-! ## The index table through an add -/

section Indx

variable {c : Cfg} {s : Drv}

theorem write_ruleDma_indx {ty : NatTableType} (hty : ty = .baseTbl ∨ ty = .expnTbl)
    (data off : Nat) : (s.write c (.dma ⟨ty, data, off⟩)).hw.indx = s.hw.indx := by
  obtain rfl | rfl := hty <;> rfl

theorem write_nextIndx_tblEntry {ty : NatTableType} (hty : ty = .indxTbl ∨ ty = .indexExpnTbl)
    {off : Nat} (hoff : off % indexTableEntrySize = 2) (data i : Nat) :
    ((s.write c (.dma ⟨ty, data, off⟩)).hw.indx i).tblEntry = (s.hw.indx i).tblEntry := by
  have hlink : ∀ t : HwTbl, ∀ e, ((t.modIndx e fun r => r.write16 2 data).indx i).tblEntry =
      (t.indx i).tblEntry := by
    intro t e
    by_cases he : i = e
    · subst he
      rw [HwTbl.modIndx_self]
      rfl
    · rw [HwTbl.modIndx_of_ne t _ he]
  have hwrite : (s.write c (.dma ⟨ty, data, off⟩)).hw =
      s.hw.modIndx (ty.start c + off / indexTableEntrySize) fun r => r.write16 2 data := by
    rw [← hoff]
    obtain rfl | rfl := hty <;> rfl
  rw [hwrite]
  exact hlink _ _

theorem copyIpv4IndexRuleToHw_tblEntry (hoff : c.tblAddrOffset = 0) (dmaOk : Bool)
    (r : IndxSwRule) (entry : Nat) :
    ((ipaNatiCopyIpv4IndexRuleToHw c s dmaOk r entry).hw.indx (cellOf c entry)).tblEntry =
      r.tblEntry := by
  have hcopy : ((s.write c (.copyIndx (cellOf c entry) ⟨r.tblEntry, r.nextIndex⟩)).hw.indx
      (cellOf c entry)).tblEntry = r.tblEntry := by
    rw [Drv.write, HwTbl.write_copyIndx, HwTbl.modIndx_self]
  have hlink : ∀ e, ((ipaNatiGetIndexEntryOffset c e % 65536 + indexRuleNextFieldOffset) %
      65536) % indexTableEntrySize = 2 := by
    intro e
    unfold ipaNatiGetIndexEntryOffset add32 indexTableEntrySize indexRuleNextFieldOffset
    rw [hoff]
    omega
  have hnext : ∀ ty : NatTableType, ty = .indxTbl ∨ ty = .indexExpnTbl → ∀ e,
      ((ipaNatiWriteNextIndex c (s.write c (.copyIndx (cellOf c entry)
        ⟨r.tblEntry, r.nextIndex⟩)) dmaOk ty entry ((ipaNatiGetIndexEntryOffset c e % 65536 +
          indexRuleNextFieldOffset) % 65536)).hw.indx (cellOf c entry)).tblEntry =
            r.tblEntry := by
    intro ty hty e
    cases dmaOk with
    | false => exact hcopy
    | true => exact (write_nextIndx_tblEntry hty (hlink e) _ _).trans hcopy
  unfold ipaNatiCopyIpv4IndexRuleToHw
  dsimp only
  split
  · exact hcopy
  split
  · exact hnext _ (.inl rfl) _
  · exact hnext _ (.inr rfl) _

theorem postIpv4DmaCmd_indx {dmaOk : Bool} {entry : Nat} {s' : Drv}
    (h : ipaNatiPostIpv4DmaCmd c s dmaOk entry = some s') : s'.hw.indx = s.hw.indx := by
  unfold ipaNatiPostIpv4DmaCmd enableCmd at h
  split at h
  · obtain rfl := Option.some.inj h
    split
    · exact write_ruleDma_indx (.inl rfl) _ _
    · exact write_ruleDma_indx (.inr rfl) _ _
  · exact absurd h nofun

theorem makeRuleHdl_hw (tblEntry : Nat) : (ipaNatiMakeRuleHdl c s tblEntry).2.hw = s.hw := by
  unfold ipaNatiMakeRuleHdl
  dsimp only
  split <;> rfl

end Indx

section Generate

variable {c : Cfg} (hg : c.Geometry) {s : Drv} {clntRule : ClntRule}
include hg

theorem generateTblRule_ne_zero {e : Nat} {rule : NatRule}
    (h : ipaNatiGenerateTblRule c s clntRule = .ok (e, rule)) : e ≠ 0 := by
  have hdst : 0 < dstHash c (c.publicIp clntRule.pdnIndex) clntRule.targetIp
      clntRule.targetPort clntRule.publicPort clntRule.protocol (c.tableEntries - 1) := by
    have hbase := hg.base
    exact bucketOf_pos (by omega)
  unfold ipaNatiGenerateTblRule at h
  dsimp only at h
  split at h
  · cases h
    exact hdst.ne'
  · split at h
    · exact absurd h nofun
    · exact absurd h nofun
    · split at h
      · exact absurd h nofun
      · cases h
        omega

theorem generateIndexRule_free {e i : Nat} {r : IndxSwRule}
    (h : ipaNatiGenerateIndexRule c s clntRule e = .ok (i, r)) :
    (s.hw.indx (cellOf c i)).tblEntry = 0 ∧ r.tblEntry = e := by
  have hbase := hg.base
  have hexpn := hg.expn
  unfold ipaNatiGenerateIndexRule at h
  dsimp only at h
  split at h
  · rename_i hfree
    have hbucket : IsBucket c (srcHash clntRule.privateIp clntRule.privatePort clntRule.targetIp
        clntRule.targetPort clntRule.protocol (c.tableEntries - 1)) := isBucket_bucketOf hg
    cases h
    rw [cellOf_entry hg (.inl hbucket)]
    exact ⟨hfree, rfl⟩
  · split at h
    · exact absurd h nofun
    · exact absurd h nofun
    · split at h
      · exact absurd h nofun
      split at h
      · exact absurd h nofun
      · rename_i hne _
        obtain hzero | ⟨hpos, hlt, hfree⟩ := expnFreeEntry_spec
          (fun i => (expnIndx c s i).tblEntry != 0) c.expnTableEntries
        · exact absurd hzero hne
        · have hcell : IsCell c (ipaNatiIndexExpnGetFreeEntry c s + c.tableEntries) := by
            unfold IsCell ipaNatiIndexExpnGetFreeEntry
            omega
          cases h
          rw [cellOf_entry hg (.inr hcell), Nat.add_comm]
          exact ⟨by simpa [ipaNatiIndexExpnGetFreeEntry, expnIndx] using hfree, rfl⟩

theorem generateRule_free {g : GenRule} {s' : Drv}
    (h : ipaNatiGenerateRule c s clntRule = .ok (g, s')) :
    (s.hw.indx (cellOf c g.indxTblEntry)).tblEntry = 0 ∧ g.indexSwRule.tblEntry ≠ 0 := by
  unfold ipaNatiGenerateRule at h
  split at h
  · exact absurd h nofun
  rename_i e rule htbl
  split at h
  · exact absurd h nofun
  · rename_i i r hindx
    obtain ⟨hfree, hentry⟩ := generateIndexRule_free hg hindx
    have hne := generateTblRule_ne_zero hg htbl
    cases h
    exact ⟨hfree, hentry.trans_ne hne⟩

/-! ## The whole call -/

theorem addIpv4Rule_takes (dma : AddDma) {g : GenRule} {s' : Drv}
    (hpdn : ¬ (clntRule.pdnIndex ≥ c.maxPdnNum ∨ c.publicIp clntRule.pdnIndex = 0))
    (h : ipaNatiGenerateRule c { s with log := [] } clntRule = .ok (g, s')) :
    ((ipaNatiAddIpv4Rule c s dma clntRule).2.hw.indx (cellOf c g.indxTblEntry)).tblEntry =
      g.indexSwRule.tblEntry := by
  have hcopied := copyIpv4IndexRuleToHw_tblEntry hg.offset (s :=
    ipaNatiCopyIpv4RuleToHw c s' dma.linkRule g.rule g.tblEntry) dma.linkIndx g.indexSwRule
      g.indxTblEntry
  rw [ipaNatiAddIpv4Rule]
  dsimp only
  rw [if_neg hpdn, h]
  dsimp only
  split
  · exact hcopied
  · rename_i s'' hpost
    rw [apply_ite Prod.snd, ite_self, makeRuleHdl_hw, postIpv4DmaCmd_indx hpost]
    exact hcopied

/-- Whatever DMA command fails, and in whatever state: the add is not undone. -/
theorem addIpv4Rule_not_undone (dma : AddDma) (hfails : DmaFails c s dma clntRule) :
    ¬ AddUndone c s dma clntRule := by
  intro hundone
  obtain ⟨hpdn, g, s', hgen, -⟩ := hfails
  obtain ⟨hfree, hused⟩ := generateRule_free hg hgen
  have htaken := addIpv4Rule_takes hg dma hpdn hgen
  rw [hundone.hw] at htaken
  exact hused (htaken.symm.trans hfree)

end Generate

/-- The table with one rule, behind which a second one of its bucket is linked. -/
def oneRule : Drv := (ipaNatiAddIpv4Rule smallCfg .reset .allOk tcpRule).2

theorem oneRule_not_undone : ¬ AddUndone smallCfg oneRule ⟨false, true, true⟩ tcpRule :=
  addIpv4Rule_not_undone smallCfg_geometry _
    ⟨by decide, _, _, rfl, .inl ⟨by decide, rfl⟩⟩

/-- The rule cannot be enabled: the call fails, and the index entry stays. -/
theorem enableFails_not_undone : DmaFails smallCfg .reset ⟨true, true, false⟩ tcpRule ∧
    ¬ AddUndone smallCfg .reset ⟨true, true, false⟩ tcpRule := by
  refine ⟨⟨by decide, _, _, rfl, .inr (.inr rfl)⟩, fun h => ?_⟩
  have hleft : (((ipaNatiAddIpv4Rule smallCfg .reset ⟨true, true, false⟩ tcpRule).2.hw.indx
      1).tblEntry, (Drv.reset.hw.indx 1).tblEntry) = (1, 0) := by decide
  rw [h.hw] at hleft
  exact absurd hleft (by decide)

end Axon7.IpaNat
