import Axon7.IpaNat.DelSpec

/-!
# The invariant across a delete

The writes of a delete, taken table by table: the rule table loses the entry
or keeps it as a dead head, the index table loses the index entry or the
successor moved into it, and the scan at the end removes the dead heads whose
list is empty. Each is one of the moves of the table modules.
-/

namespace Axon7.IpaNat

open Axon7.Lib

section Rules

variable {c : Cfg} (hg : c.Geometry) {s : Drv} {e : Nat}
  {tailR tailI : Nat → List Nat} (h : Inv c s tailR tailI)
  (he : (s.hw.rules e).Live)
include hg h he

/-- The rule tables after the command and the clean-up, cell by cell. -/
structure RuleGone (c : Cfg) (s : Drv) (e : Nat) (rules : Nat → NatRule)
    (tailR tailR' : Nat → List Nat) : Prop where
  chains : RuleChains c rules tailR'
  keeps : KeepsBut e tailR tailR'
  dead : ¬ (rules e).Live
  body : ∀ x, x ≠ e → (rules x).body = (s.hw.rules x).body ∧
    (rules x).indxTblEntry = (s.hw.rules x).indxTblEntry

omit hg he in
theorem RuleGone.of_cell {b : Nat} (hb : IsBucket c b) (hmem : e ∈ tailR b)
    {rules : Nat → NatRule} (hz : rules e = .zero)
    (hp : rules (s.hw.rules e).prevIndex =
      { s.hw.rules (s.hw.rules e).prevIndex with
        nextIndex := (s.hw.rules e).nextIndex })
    (hn : (s.hw.rules e).nextIndex ≠ 0 → rules (s.hw.rules e).nextIndex =
      { s.hw.rules (s.hw.rules e).nextIndex with
        prevIndex := (s.hw.rules e).prevIndex })
    (hx : ∀ x, x ≠ e → x ≠ (s.hw.rules e).prevIndex →
      ((s.hw.rules e).nextIndex ≠ 0 → x ≠ (s.hw.rules e).nextIndex) →
      rules x = s.hw.rules x) :
    ∃ tailR', RuleGone c s e rules tailR tailR' := by
  obtain ⟨tailR', hR, hkeep⟩ := h.rules.del_cell hb hmem hz hp hn hx
  refine ⟨tailR', hR, hkeep, ?_, fun x hxe => ?_⟩
  · rw [hz]
    exact NatRule.not_live_zero
  · by_cases hxp : x = (s.hw.rules e).prevIndex
    · rw [hxp, hp]
      exact ⟨rfl, rfl⟩
    · by_cases hxn : (s.hw.rules e).nextIndex ≠ 0 ∧
        x = (s.hw.rules e).nextIndex
      · rw [hxn.2, hn hxn.1]
        exact ⟨rfl, rfl⟩
      · rw [hx x hxe hxp fun hn0 hxn' => hxn ⟨hn0, hxn'⟩]
        exact ⟨rfl, rfl⟩

theorem ruleGone (t : HwTbl) (ht : t.rules = s.hw.rules) :
    ∃ tailR', RuleGone c s e ((t.write c (.dma (ruleDma c s.hw e))).writes c
      (ruleFix c s.hw e)).rules tailR tailR' := by
  have hs := h.site he
  rw [write_ruleDma hg hs]
  unfold ruleFix
  by_cases hlt : e < c.tableEntries
  · have hb : IsBucket c e := hs.entry.resolve_right fun hc =>
      absurd hc.1 (Nat.not_lt.mpr (Nat.le_of_lt hlt))
    rw [if_pos hlt]
    by_cases hn : (s.hw.rules e).nextIndex = 0
    · rw [if_pos hn, if_pos hn, HwTbl.writes_cons, HwTbl.writes_nil,
        HwTbl.write_clearRule]
      have hz := (t.modRule e (·.write16 18 0)).modRule_self e fun _ => .zero
      have hx : ∀ x, x ≠ e → ((t.modRule e (·.write16 18 0)).modRule e
          fun _ => .zero).rules x = s.hw.rules x := by
        intro x hxe
        rw [HwTbl.modRule_of_ne _ _ hxe, HwTbl.modRule_of_ne _ _ hxe, ht]
      obtain ⟨tailR', hR, hkeep⟩ := h.rules.del_only hb hn hz hx
      refine ⟨tailR', hR, hkeep, ?_, fun x hxe => ?_⟩
      · rw [hz]
        exact NatRule.not_live_zero
      · rw [hx x hxe]
        exact ⟨rfl, rfl⟩
    · rw [if_neg hn, if_neg hn, if_pos hlt, HwTbl.writes_nil]
      have hself : (t.modRule e
          (·.write16 22 invalidProtoFieldValue)).rules e =
          (s.hw.rules e).write16 22 invalidProtoFieldValue := by
        rw [← ht]
        exact t.modRule_self ..
      rw [NatRule.write16_proto] at hself
      have hx : ∀ x, x ≠ e → (t.modRule e
          (·.write16 22 invalidProtoFieldValue)).rules x = s.hw.rules x := by
        intro x hxe
        rw [HwTbl.modRule_of_ne _ _ hxe, ht]
      obtain ⟨tailR', hR, hkeep⟩ := h.rules.del_head hb
        (by rw [hself]; exact he.1) (by rw [hself]) (by rw [hself]) hx
      refine ⟨tailR', hR, hkeep, ?_, fun x hxe => ?_⟩
      · rw [hself]
        exact fun hl => hl.2 rfl
      · rw [hx x hxe]
        exact ⟨rfl, rfl⟩
  · have hc : IsCell c e := hs.entry.resolve_left fun hb => hlt hb.2
    obtain ⟨b, hb, hmem⟩ := h.rules.chained.cover e hc he.1
    obtain ⟨hpentry, hpe⟩ := hs.prev hc
    have hpmod : (s.hw.rules e).prevIndex % 65536 =
        (s.hw.rules e).prevIndex := by
      have := (isEntry_lt hg hpentry).1
      omega
    rw [if_neg hlt, if_neg hlt]
    by_cases hn : (s.hw.rules e).nextIndex = 0
    · rw [if_pos hn, HwTbl.writes_cons, HwTbl.writes_nil,
        HwTbl.write_clearRule]
      refine RuleGone.of_cell h hb hmem (HwTbl.modRule_self ..) ?_
        (fun hn' => absurd hn hn') fun x hxe hxp _ => ?_
      · rw [HwTbl.modRule_of_ne _ _ hpe, HwTbl.modRule_self, ht]
      · rw [HwTbl.modRule_of_ne _ _ hxe, HwTbl.modRule_of_ne _ _ hxp, ht]
    · obtain ⟨hncell, hne⟩ := hs.next hn
      have hpn := h.rules.chained.prev_ne_next hb hmem hn
      rw [if_neg hn, HwTbl.writes_cons, HwTbl.writes_cons, HwTbl.writes_nil,
        HwTbl.write_clearRule, HwTbl.write_swSpecParams]
      refine RuleGone.of_cell h hb hmem (HwTbl.modRule_self ..) ?_
        (fun _ => ?_) fun x hxe hxp hxn => ?_
      · rw [HwTbl.modRule_of_ne _ _ hpe, HwTbl.modRule_of_ne _ _ hpn,
          HwTbl.modRule_self, ht]
      · rw [HwTbl.modRule_of_ne _ _ hne, HwTbl.modRule_self,
          HwTbl.modRule_of_ne _ _ hpn.symm, ht]
        simp only [updateSwSpecParams, hpmod]
      · rw [HwTbl.modRule_of_ne _ _ hxe, HwTbl.modRule_of_ne _ _ (hxn hn),
          HwTbl.modRule_of_ne _ _ hxp, ht]

end Rules

/-! ## The index tables -/

section Indx

variable {c : Cfg} (hg : c.Geometry) {s : Drv} {e : Nat}
  {tailR tailI : Nat → List Nat} (h : Inv c s tailR tailI)
  (he : (s.hw.rules e).Live) {i q : Nat}
  (hi : i = (s.hw.rules e).indxTblEntry)
  (hq : q = s.indexExpnTableMeta (i - c.tableEntries))

/-- The index tables after the commands and the clean-up: either the entry of
the rule is gone, or its successor has moved into it. -/
inductive IndxGone (c : Cfg) (s : Drv) (i : Nat) (indx : Nat → IndxRule)
    (tailI tailI' : Nat → List Nat) : Prop
  | cleared
      (simple : ¬ (i < c.tableEntries ∧ (s.hw.indx i).nextIndex ≠ 0))
      (chains : IndxChains c indx
        (metaAfterDel c s.hw s.indexExpnTableMeta i) tailI')
      (keeps : KeepsBut i tailI tailI')
      (gone : (indx i).tblEntry = 0)
      (other : ∀ x, x ≠ i → (indx x).tblEntry = (s.hw.indx x).tblEntry)
  | moved
      (head : i < c.tableEntries) (next : (s.hw.indx i).nextIndex ≠ 0)
      (chains : IndxChains c indx
        (metaAfterDel c s.hw s.indexExpnTableMeta i) tailI')
      (keeps : KeepsBut (s.hw.indx i).nextIndex tailI tailI')
      (gone : (indx (s.hw.indx i).nextIndex).tblEntry = 0)
      (filled : (indx i).tblEntry =
        (s.hw.indx (s.hw.indx i).nextIndex).tblEntry)
      (other : ∀ x, x ≠ i → x ≠ (s.hw.indx i).nextIndex →
        (indx x).tblEntry = (s.hw.indx x).tblEntry)

include hg h he hi hq

theorem indxGone (t : HwTbl) (ht : t.indx = s.hw.indx) :
    ∃ tailI', IndxGone c s i ((t.writes c ((indxDma c s.hw i q).map
      .dma)).writes c (indxFix c s.hw i)).indx tailI tailI' := by
  have hs := h.site he
  have hentry : IsBucket c i ∨ IsCell c i := hi ▸ hs.indxEntry
  have hocc : (s.hw.indx i).tblEntry ≠ 0 := hi ▸ hs.indxOcc
  rw [writes_indxDma hg hs t hi hq]
  unfold indxFix
  by_cases hlt : i < c.tableEntries
  · have hb : IsBucket c i := hentry.resolve_right fun hc =>
      absurd hc.1 (Nat.not_lt.mpr (Nat.le_of_lt hlt))
    rw [if_pos hlt]
    by_cases hn : (s.hw.indx i).nextIndex = 0
    · rw [if_pos hn, if_neg (fun hh => hh.2 hn), HwTbl.writes_cons,
        HwTbl.writes_nil, HwTbl.write_clearIndx]
      have hz := (t.modIndx i fun r => { r with tblEntry := 0 }).modIndx_self i
        fun _ => .zero
      have hx : ∀ x, x ≠ i → ((t.modIndx i fun r =>
          { r with tblEntry := 0 }).modIndx i fun _ => .zero).indx x =
          s.hw.indx x := by
        intro x hxi
        rw [HwTbl.modIndx_of_ne _ _ hxi, HwTbl.modIndx_of_ne _ _ hxi, ht]
      obtain ⟨tailI', hI, hkeep⟩ := h.indx.del_only hb hn hz hx
      refine ⟨tailI', .cleared (fun hh => hh.2 hn) ?_ hkeep ?_ fun x hxi => ?_⟩
      · rw [metaAfterDel, if_pos hn]
        exact hI
      · rw [hz]
        rfl
      · rw [hx x hxi]
    · obtain ⟨hcell, hne, hnocc⟩ := hs.indxNext i hocc hn
      rw [if_neg hn, if_pos ⟨hlt, hn⟩, HwTbl.writes_cons, HwTbl.writes_cons,
        HwTbl.writes_nil, HwTbl.write_clearIndx, HwTbl.write_swSpecParams,
        HwTbl.modRule_indx]
      let t₁ := (t.modIndx i fun r => { r with
        tblEntry := (s.hw.indx (s.hw.indx i).nextIndex).tblEntry }).modIndx i
        fun r => { r with
          nextIndex := (s.hw.indx (s.hw.indx i).nextIndex).nextIndex }
      have hi' : (t₁.modIndx (s.hw.indx i).nextIndex fun _ => .zero).indx i =
          s.hw.indx (s.hw.indx i).nextIndex := by
        rw [HwTbl.modIndx_of_ne _ _ hne.symm, HwTbl.modIndx_self,
          HwTbl.modIndx_self]
      have hz := t₁.modIndx_self (s.hw.indx i).nextIndex fun _ => .zero
      have hx : ∀ x, x ≠ i → x ≠ (s.hw.indx i).nextIndex →
          (t₁.modIndx (s.hw.indx i).nextIndex fun _ => .zero).indx x =
          s.hw.indx x := by
        intro x hxi hxn
        rw [HwTbl.modIndx_of_ne _ _ hxn, HwTbl.modIndx_of_ne _ _ hxi,
          HwTbl.modIndx_of_ne _ _ hxi, ht]
      obtain ⟨tailI', hI, hkeep⟩ := h.indx.del_head
        (metaAfterDel c s.hw s.indexExpnTableMeta i) hb hn hi' hz hx
        (fun hnn => by
          rw [metaAfterDel, if_neg hn, if_pos hlt]
          simp only [hnn, if_false, Function.update_self])
        (fun x hxc _ hxnn => by
          rw [metaAfterDel, if_neg hn, if_pos hlt]
          by_cases hnn : (s.hw.indx (s.hw.indx i).nextIndex).nextIndex = 0
          · simp only [hnn, if_true]
          · have hcell' := (hs.indxNext _ hnocc hnn).1
            simp only [hnn, if_false]
            rw [Function.update_of_ne (sub_cell_ne hxc hcell' hxnn)])
      refine ⟨tailI', .moved hlt hn hI hkeep ?_ ?_ fun x hxi hxn => ?_⟩
      · rw [hz]
        rfl
      · rw [hi']
      · rw [hx x hxi hxn]
  · have hc : IsCell c i := hentry.resolve_left fun hb => hlt hb.2
    obtain ⟨b, hb, hmem⟩ := h.indx.chained.cover i hc hocc
    have hqi : q ≠ i := by
      have := (hs.indxPrev (hi ▸ hc)).2
      rwa [hq, hi]
    rw [if_neg hlt, if_neg (fun hh => hlt hh.1), HwTbl.writes_cons,
      HwTbl.writes_nil, HwTbl.write_clearIndx]
    have hz := (t.modIndx q fun r => { r with
      nextIndex := (s.hw.indx i).nextIndex }).modIndx_self i fun _ => .zero
    have hq' : ((t.modIndx q fun r => { r with
        nextIndex := (s.hw.indx i).nextIndex }).modIndx i fun _ => .zero).indx
        q = { s.hw.indx q with nextIndex := (s.hw.indx i).nextIndex } := by
      rw [HwTbl.modIndx_of_ne _ _ hqi, HwTbl.modIndx_self, ht]
    have hx : ∀ x, x ≠ i → x ≠ q → ((t.modIndx q fun r => { r with
        nextIndex := (s.hw.indx i).nextIndex }).modIndx i fun _ => .zero).indx
        x = s.hw.indx x := by
      intro x hxi hxq
      rw [HwTbl.modIndx_of_ne _ _ hxi, HwTbl.modIndx_of_ne _ _ hxq, ht]
    subst hq
    obtain ⟨tailI', hI, hkeep⟩ := h.indx.del_cell
      (metaAfterDel c s.hw s.indexExpnTableMeta i) hb hmem hz hq' hx
      (fun hn => by
        have hn' := hs.indxNext i hocc hn
        rw [metaAfterDel, if_neg hn, if_neg hlt,
          Function.update_of_ne (sub_cell_ne hn'.1 hc hn'.2.1),
          Function.update_self])
      (fun x hxc hxi hxn => by
        by_cases hn : (s.hw.indx i).nextIndex = 0
        · rw [metaAfterDel, if_pos hn]
        · have hn' := hs.indxNext i hocc hn
          rw [metaAfterDel, if_neg hn, if_neg hlt,
            Function.update_of_ne (sub_cell_ne hxc hc hxi),
            Function.update_of_ne (sub_cell_ne hxc hn'.1 hxn)])
    refine ⟨tailI', .cleared (fun hh => hlt hh.1) hI hkeep ?_ fun x hxi => ?_⟩
    · rw [hz]
      rfl
    · by_cases hxq : x = s.indexExpnTableMeta (i - c.tableEntries)
      · rw [hxq, hq']
      · rw [hx x hxi hxq]

end Indx

/-! ## Both tables -/

theorem indxFix_indx {c : Cfg} {t₀ t t' : HwTbl} {i : Nat}
    (ht : t.indx = t'.indx) :
    (t.writes c (indxFix c t₀ i)).indx = (t'.writes c (indxFix c t₀ i)).indx := by
  unfold indxFix
  split
  · simp only [HwTbl.writes_cons, HwTbl.writes_nil, HwTbl.write_clearIndx,
      HwTbl.write_swSpecParams, HwTbl.modRule_indx, HwTbl.modIndx, ht]
  · simp only [HwTbl.writes_cons, HwTbl.writes_nil, HwTbl.write_clearIndx,
      HwTbl.modIndx, ht]

theorem ruleFix_indx {c : Cfg} (t₀ t : HwTbl) (e : Nat) :
    (t.writes c (ruleFix c t₀ e)).indx = t.indx := by
  unfold ruleFix
  split
  · rfl
  · split <;> rfl

theorem delMid_eq (c : Cfg) (s : Drv) (e : Nat) :
    delMid c s e = (((s.hw.writes c ((indxDma c s.hw
      (s.hw.rules e).indxTblEntry (s.indexExpnTableMeta
        ((s.hw.rules e).indxTblEntry - c.tableEntries))).map .dma)).write c
      (.dma (ruleDma c s.hw e))).writes c (ruleFix c s.hw e)).writes c
      (indxFix c s.hw (s.hw.rules e).indxTblEntry) := by
  simp only [delMid, delWrites]
  rw [HwTbl.writes_append, HwTbl.writes_cons, HwTbl.writes_append]

theorem delMid_indx (c : Cfg) (s : Drv) (e : Nat) :
    (delMid c s e).indx = ((s.hw.writes c ((indxDma c s.hw
      (s.hw.rules e).indxTblEntry (s.indexExpnTableMeta
        ((s.hw.rules e).indxTblEntry - c.tableEntries))).map .dma)).writes c
      (indxFix c s.hw (s.hw.rules e).indxTblEntry)).indx := by
  rw [delMid_eq]
  refine indxFix_indx ?_
  rw [ruleFix_indx, HwTbl.write_dma_indx (ruleDma_isIndx c s.hw e)]

section Both

variable {c : Cfg} (hg : c.Geometry) {s : Drv} {e : Nat}
  {tailR tailI : Nat → List Nat} (h : Inv c s tailR tailI)
  (he : (s.hw.rules e).Live)
include hg h he

/-- The tables before the scan for dead heads. -/
structure MidGone (c : Cfg) (s : Drv) (e : Nat) (t : HwTbl)
    (tailR tailI tailR' tailI' : Nat → List Nat) : Prop where
  chains : RuleChains c t.rules tailR'
  keeps : KeepsBut e tailR tailR'
  dead : ¬ (t.rules e).Live
  body : ∀ x, x ≠ e → (t.rules x).body = (s.hw.rules x).body
  indx : IndxGone c s (s.hw.rules e).indxTblEntry t.indx tailI tailI'
  linked : Linked c t.rules t.indx tailI'

theorem midGone : ∃ tailR' tailI',
    MidGone c s e (delMid c s e) tailR tailI tailR' tailI' := by
  have hs := h.site he
  obtain ⟨i, hi⟩ : ∃ i, i = (s.hw.rules e).indxTblEntry := ⟨_, rfl⟩
  obtain ⟨q, hq⟩ : ∃ q, q = s.indexExpnTableMeta (i - c.tableEntries) :=
    ⟨_, rfl⟩
  have hocc : (s.hw.indx i).tblEntry ≠ 0 := hi ▸ hs.indxOcc
  obtain ⟨t₁, ht₁⟩ : ∃ t₁, t₁ =
    s.hw.writes c ((indxDma c s.hw i q).map .dma) := ⟨_, rfl⟩
  obtain ⟨t₂, ht₂⟩ : ∃ t₂, t₂ = (t₁.write c (.dma (ruleDma c s.hw e))).writes c
    (ruleFix c s.hw e) := ⟨_, rfl⟩
  have hmid : delMid c s e = t₂.writes c (indxFix c s.hw i) := by
    rw [delMid_eq, ht₂, ht₁, hq, hi]
  obtain ⟨tailR', hrules⟩ := ruleGone hg h he t₁ <| by
    rw [ht₁, HwTbl.writes_dma_rules indxDma_isIndx]
  obtain ⟨tailI', hindx⟩ := indxGone hg h he hi hq s.hw rfl
  rw [← ht₁] at hindx
  rw [← ht₂] at hrules
  rw [hmid]
  have hfixI : (t₂.writes c (indxFix c s.hw i)).indx =
      (t₁.writes c (indxFix c s.hw i)).indx := by
    rw [← hmid, delMid_indx, ht₁, hq, hi]
  refine ⟨tailR', tailI', ?_⟩
  have hix : (s.hw.rules e).indxTblEntry = i := hi.symm
  cases hindx with
  | cleared simple chains keeps gone other =>
    have hR : (t₂.writes c (indxFix c s.hw i)).rules = t₂.rules := by
      unfold indxFix
      rw [if_neg simple]
      rfl
    refine ⟨?_, hrules.keeps, ?_, fun x hx => ?_, ?_, ?_⟩
    · rw [hR]
      exact hrules.chains
    · rw [hR]
      exact hrules.dead
    · rw [hR]
      exact (hrules.body x hx).1
    · rw [hfixI, hix]
      exact .cleared simple chains keeps gone other
    · rw [hR, hfixI]
      refine h.linked.del he hrules.dead hrules.body ?_ ?_ ?_
      · rw [hix]
        exact gone
      · rw [hix]
        exact other
      · rw [hix]
        exact keeps
  | moved head next chains keeps gone filled other =>
    obtain ⟨hncell, hne, hnocc⟩ := hs.indxNext i hocc next
    have hmod : i % 65536 = i := by
      have := (isEntry_lt hg (hix ▸ hs.indxEntry)).1
      omega
    have hb : IsBucket c i := (hix ▸ hs.indxEntry).resolve_right fun hc =>
      absurd hc.1 (Nat.not_lt.mpr (Nat.le_of_lt head))
    have hm := h.linked.live _ hnocc
    have hme : (s.hw.indx (s.hw.indx i).nextIndex).tblEntry ≠ e := by
      intro hme
      have hback := h.linked.back _ hnocc
      rw [hme, hix] at hback
      exact hne hback.symm
    have hsrc : srcOf c (s.hw.rules
        (s.hw.indx (s.hw.indx i).nextIndex).tblEntry) = i := by
      have hhome := h.linked.home _ hm
      rw [h.linked.back _ hnocc] at hhome
      have hmem := (h.indx.chained.next_mem hb List.mem_cons_self next).1
      exact h.indx.chained.bucket_unique isBucket_not_isCell
        (srcOf_isBucket hg _) hb hhome (List.mem_cons_of_mem _ hmem)
    have hself : (t₂.writes c (indxFix c s.hw i)).rules
        (s.hw.indx (s.hw.indx i).nextIndex).tblEntry =
        { t₂.rules (s.hw.indx (s.hw.indx i).nextIndex).tblEntry with
          indxTblEntry := i } := by
      unfold indxFix
      rw [if_pos ⟨head, next⟩, HwTbl.writes_cons, HwTbl.writes_cons,
        HwTbl.writes_nil, HwTbl.write_swSpecParams, HwTbl.modRule_self]
      simp only [updateSwSpecParams, hmod, HwTbl.write_clearIndx,
        HwTbl.modIndx_rules]
    have hother : ∀ x, x ≠ (s.hw.indx (s.hw.indx i).nextIndex).tblEntry →
        (t₂.writes c (indxFix c s.hw i)).rules x = t₂.rules x := by
      intro x hx
      unfold indxFix
      rw [if_pos ⟨head, next⟩, HwTbl.writes_cons, HwTbl.writes_cons,
        HwTbl.writes_nil, HwTbl.write_swSpecParams,
        HwTbl.modRule_of_ne _ _ hx]
      rfl
    have hlinks : ∀ x, ((t₂.writes c (indxFix c s.hw i)).rules x).body =
        (t₂.rules x).body ∧
        ((t₂.writes c (indxFix c s.hw i)).rules x).nextIndex =
          (t₂.rules x).nextIndex ∧
        ((t₂.writes c (indxFix c s.hw i)).rules x).prevIndex =
          (t₂.rules x).prevIndex := by
      intro x
      rcases eq_or_ne x (s.hw.indx (s.hw.indx i).nextIndex).tblEntry with
        rfl | hx
      · rw [hself]
        exact ⟨rfl, rfl, rfl⟩
      · rw [hother x hx]
        exact ⟨rfl, rfl, rfl⟩
    have hen : ∀ x, (t₂.rules x).enable = false →
        (t₂.writes c (indxFix c s.hw i)).rules x = t₂.rules x := by
      intro x hx
      refine hother x ?_
      rintro rfl
      rw [NatRule.enable_of_body (hrules.body _ hme).1, hm.1] at hx
      cases hx
    have hdead : ¬ ((t₂.writes c (indxFix c s.hw i)).rules e).Live := by
      rw [NatRule.live_of_body (hlinks e).1]
      exact hrules.dead
    refine ⟨hrules.chains.congr_indx hlinks hen, hrules.keeps, hdead,
      fun x hx => (hlinks x).1.trans (hrules.body x hx).1, ?_, ?_⟩
    · rw [hfixI, hix]
      exact .moved head next chains keeps gone filled other
    · rw [hfixI]
      refine h.linked.del_move he hdead hnocc (hix ▸ hne)
        (fun x hx => ⟨(hlinks x).1.trans (hrules.body x hx).1,
          fun hxm => ?_⟩) ?_ (hix ▸ hsrc) (hix ▸ filled) gone
        (fun x hxi hxn => other x (hix ▸ hxi) hxn) keeps
      · rw [hother x hxm]
        exact (hrules.body x hx).2
      · rw [hself, hix]

omit hg h he in
theorem reclaimed_live {k x : Nat} :
    (((deletedState c s e k).hw.rules x).Live →
      (deletedState c s e k).hw.rules x = (delMid c s e).rules x) ∧
    (((delMid c s e).rules x).Live →
      (deletedState c s e k).hw.rules x = (delMid c s e).rules x) := by
  have hx : (deletedState c s e k).hw.rules x =
      if x < c.tableEntries ∧
        ((delMid c s e).rules x).protocol = invalidProtoFieldCmp ∧
        ((delMid c s e).rules x).nextIndex = 0 then .zero
      else (delMid c s e).rules x := deadWrites_rules c _ x
  rw [hx]
  constructor
  · intro hl
    split at hl
    · exact absurd hl NatRule.not_live_zero
    · next hd => rw [if_neg hd]
  · intro hl
    rw [if_neg fun hd => hl.2 hd.2.1]

theorem deleted_live {k : Nat} (x : Nat) :
    (((deletedState c s e k).hw.rules x).Live ↔
      (s.hw.rules x).Live ∧ x ≠ e) ∧
    ((s.hw.rules x).Live → x ≠ e →
      ((deletedState c s e k).hw.rules x).body = (s.hw.rules x).body) := by
  obtain ⟨tailR', tailI', hmid⟩ := midGone hg h he
  obtain ⟨hto, hfrom⟩ := reclaimed_live (c := c) (s := s) (e := e) (k := k)
    (x := x)
  refine ⟨⟨fun hl => ?_, fun hl => ?_⟩, fun hl hx => ?_⟩
  · rw [hto hl] at hl
    have hx : x ≠ e := by
      rintro rfl
      exact hmid.dead hl
    exact ⟨(NatRule.live_of_body (hmid.body x hx)).mp hl, hx⟩
  · have hl' := (NatRule.live_of_body (hmid.body x hl.2)).mpr hl.1
    rw [hfrom hl']
    exact hl'
  · have hl' := (NatRule.live_of_body (hmid.body x hx)).mpr hl
    rw [hfrom hl']
    exact hmid.body x hx

theorem Inv.deleted {k : Nat} (hk : s.ruleIdArray k = ruleIdOf c e) :
    Consistent c (deletedState c s e k) := by
  obtain ⟨tailR', tailI', hmid⟩ := midGone hg h he
  have hindx : (deletedState c s e k).hw.indx = (delMid c s e).indx :=
    clearRules_indx _ _
  obtain ⟨hR, hbusy⟩ := hmid.chains.reclaim (deletedState c s e k).hw.rules
    fun x => deadWrites_rules c _ x
  refine ⟨tailR', tailI', hR, hbusy, ?_, ?_, ?_⟩
  · rw [hindx]
    cases hmid.indx with
    | cleared _ chains _ _ _ => exact chains
    | moved _ _ chains _ _ _ _ => exact chains
  · rw [hindx]
    refine hmid.linked.congr_live (fun x hl => reclaimed_live.2 hl)
      fun x hl => ?_
    rw [← reclaimed_live.1 hl]
    exact hl
  · exact h.handles.del hg (fun _ => h.rules.live_range) he hk
      fun x => (deleted_live hg h he x).1

end Both

end Axon7.IpaNat
