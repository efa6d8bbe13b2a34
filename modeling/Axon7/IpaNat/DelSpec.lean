import Axon7.IpaNat.AddSpec

/-!
# What a delete does

The positions the driver finds for a rule and its index entry decide one list
of table writes, read off the tables as they are before the call: the commands
of the index table, the command of the rule table, the clean-up of both, and
the dead heads. Executing the source is shown to come to exactly that list;
what the list does to the tables is then a matter of the two tables separately.
-/

namespace Axon7.IpaNat

open Axon7.Lib

/-! ## The writes -/

/-- The DMA command for the rule at `e`. -/
def ruleDma (c : Cfg) (t : HwTbl) (e : Nat) : DmaOne :=
  if e < c.tableEntries then
    if (t.rules e).nextIndex = 0 then
      ⟨.baseTbl, 0, e * tableEntrySize + ruleFlagFieldOffset⟩
    else
      ⟨.baseTbl, invalidProtoFieldValue,
        e * tableEntrySize + ruleProtoFieldOffset⟩
  else prevRuleCmd c (t.rules e).prevIndex (t.rules e).nextIndex

/-- The DMA commands for the index entry `i` with the back link `q`. -/
def indxDma (c : Cfg) (t : HwTbl) (i q : Nat) : List DmaOne :=
  if i < c.tableEntries then
    if (t.indx i).nextIndex = 0 then
      [⟨.indxTbl, 0, i * indexTableEntrySize + indexRuleNatIndexFieldOffset⟩]
    else
      [⟨.indxTbl, (t.indx (t.indx i).nextIndex).tblEntry,
        i * indexTableEntrySize + indexRuleNatIndexFieldOffset⟩,
       ⟨.indxTbl, (t.indx (t.indx i).nextIndex).nextIndex,
        i * indexTableEntrySize + indexRuleNextFieldOffset⟩]
  else [prevIndxCmd c q (t.indx i).nextIndex]

/-- The clean-up of the rule table. -/
def ruleFix (c : Cfg) (t : HwTbl) (e : Nat) : List TblWrite :=
  if (t.rules e).nextIndex = 0 then [.clearRule e]
  else if e < c.tableEntries then []
  else [.swSpecParams (t.rules e).nextIndex .prevIndxByte (t.rules e).prevIndex,
    .clearRule e]

/-- The clean-up of the index table, and of the rule whose index entry was
moved. -/
def indxFix (c : Cfg) (t : HwTbl) (i : Nat) : List TblWrite :=
  if i < c.tableEntries ∧ (t.indx i).nextIndex ≠ 0 then
    [.clearIndx (t.indx i).nextIndex,
     .swSpecParams (t.indx (t.indx i).nextIndex).tblEntry .indxTblEntryByte i]
  else [.clearIndx i]

/-- `index_expn_table_meta` after the entry `i` is gone. -/
def metaAfterDel (c : Cfg) (t : HwTbl) (backs : Nat → Nat) (i : Nat) :
    Nat → Nat :=
  if (t.indx i).nextIndex = 0 then backs
  else if i < c.tableEntries then
    let nextNext := (t.indx (t.indx i).nextIndex).nextIndex
    if nextNext = 0 then backs
    else Function.update backs (nextNext - c.tableEntries) i
  else
    Function.update
      (Function.update backs ((t.indx i).nextIndex - c.tableEntries)
        (backs (i - c.tableEntries))) (i - c.tableEntries) 0

/-- The dead heads of a table, which are all that the last scan clears. -/
def deadWrites (c : Cfg) (t : HwTbl) : List TblWrite :=
  ((List.range c.tableEntries).filter fun cnt =>
    (t.rules cnt).protocol = invalidProtoFieldCmp ∧
      (t.rules cnt).nextIndex = 0).map .clearRule

/-- The writes of a delete up to the scan for dead heads. -/
def delWrites (c : Cfg) (t : HwTbl) (backs : Nat → Nat) (e : Nat) :
    List TblWrite :=
  let i := (t.rules e).indxTblEntry
  (indxDma c t i (backs (i - c.tableEntries))).map .dma ++
    (.dma (ruleDma c t e) :: (ruleFix c t e ++ indxFix c t i))

/-! ## Executing the source -/

section Exec

variable {c : Cfg} (hg : c.Geometry)
include hg

/-- How the parser splits the id of a rule: in the base table the entry, in
the expansion table its number there. -/
structure Parsed (c : Cfg) (e : Nat) (expnTbl : Bool) (tblEntry : Nat) :
    Prop where
  cell : cellIn c expnTbl tblEntry = e
  expn : expnTbl = decide (c.tableEntries ≤ e)
  pos : tblEntry ≠ 0

theorem parsed_ruleIdOf {e : Nat} (he : IsBucket c e ∨ IsCell c e) :
    Parsed c e (ruleIdOf c e % 2 == 1) (ruleIdOf c e / 2) := by
  obtain ⟨hcell, hpos⟩ := cellIn_ruleIdOf hg he
  refine ⟨hcell, ?_, hpos⟩
  rw [ruleIdOf_eq hg he]
  split
  · next hlt =>
      rw [decide_eq_false (Nat.not_le.mpr hlt)]
      have hm : 2 * e % 2 = 0 := by omega
      rw [hm]
      rfl
  · next hge =>
      rw [decide_eq_true (Nat.not_lt.mp hge)]
      have hm : (2 * (e - c.tableEntries) + 1) % 2 = 1 := by omega
      rw [hm]
      rfl

variable {s : Drv} {e tblEntry : Nat} {expnTbl : Bool}
  (hp : Parsed c e expnTbl tblEntry)

omit hg in
include hp in
theorem findRulePos_eq :
    ipaNatiFindRulePos c s expnTbl tblEntry =
      if e < c.tableEntries then
        if (s.hw.rules e).nextIndex = 0 then .onlyOne else .head
      else if (s.hw.rules e).nextIndex = 0 then .last else .middle := by
  unfold ipaNatiFindRulePos
  have hcell := hp.cell
  by_cases hlt : e < c.tableEntries
  · have hx : expnTbl = false := by
      rw [hp.expn, decide_eq_false (Nat.not_le.mpr hlt)]
    subst hx
    simp only [cellIn, Bool.false_eq_true, if_false] at hcell
    simp only [Bool.false_eq_true, if_false, hcell, hlt, if_true]
  · have hx : expnTbl = true := by
      rw [hp.expn, decide_eq_true (Nat.not_lt.mp hlt)]
    subst hx
    simp only [cellIn, if_true] at hcell
    simp only [if_true, expnRule, hcell, hlt, if_false]

include hp in
theorem delRuleCmd_eq :
    delRuleCmd c s tblEntry expnTbl
      (ipaNatiFindRulePos c s expnTbl tblEntry) = ruleDma c s.hw e := by
  rw [findRulePos_eq hp]
  have hcell := hp.cell
  unfold delRuleCmd ruleDma
  simp only [hcell]
  by_cases hlt : e < c.tableEntries
  · have hx : expnTbl = false := by
      rw [hp.expn, decide_eq_false (Nat.not_le.mpr hlt)]
    subst hx
    simp only [cellIn, Bool.false_eq_true, if_false] at hcell
    subst hcell
    have hfield : ∀ f, f < 32 → add32 (ipaNatiGetEntryOffset c tblEntry) f =
        tblEntry * tableEntrySize + f := fun f hf => by
      have := hg.base
      exact entryOffset_field hg (by omega) hf
    by_cases hn : (s.hw.rules tblEntry).nextIndex = 0
    · simp only [hlt, hn, if_true]
      rw [hfield ruleFlagFieldOffset (by decide)]
    · simp only [hlt, hn, if_true, if_false]
      rw [hfield ruleProtoFieldOffset (by decide)]
  · by_cases hn : (s.hw.rules e).nextIndex = 0
    · simp only [hlt, hn, if_true, if_false]
    · simp only [hlt, hn, if_false]

theorem findIndexRulePos_eq {i : Nat} (hi : IsBucket c i ∨ IsCell c i) :
    ipaNatiFindIndexRulePos c s i =
      if i < c.tableEntries then
        if (s.hw.indx i).nextIndex = 0 then .onlyOne else .head
      else if (s.hw.indx i).nextIndex = 0 then .last else .middle := by
  unfold ipaNatiFindIndexRulePos
  rcases hi with hb | hcell
  · rw [if_neg (Nat.not_le.mpr hb.2), if_pos hb.2]
  · have hge : c.tableEntries ≤ i := Nat.le_of_lt hcell.1
    rw [if_pos hge, if_neg (Nat.not_lt.mpr hge), sub16_cell hg hcell]
    unfold expnIndx
    rw [Nat.add_sub_cancel' hge]

theorem indxInTbl_eq {i : Nat} (hi : IsBucket c i ∨ IsCell c i) :
    indxInTbl c i = if i < c.tableEntries then i else i - c.tableEntries := by
  unfold indxInTbl
  rcases hi with hb | hcell
  · rw [if_neg (Nat.not_le.mpr hb.2), if_pos hb.2]
  · have hge : c.tableEntries ≤ i := Nat.le_of_lt hcell.1
    rw [if_pos hge, if_neg (Nat.not_lt.mpr hge), sub16_cell hg hcell]

theorem expnIndx_eq {n : Nat} (hn : IsCell c n) :
    expnIndx c s (sub16 n c.tableEntries) = s.hw.indx n := by
  rw [sub16_cell hg hn]
  unfold expnIndx
  rw [Nat.add_sub_cancel' (Nat.le_of_lt hn.1)]

theorem delIndxCmds_eq {i : Nat} (hi : IsBucket c i ∨ IsCell c i)
    (hnext : (s.hw.indx i).nextIndex ≠ 0 → IsCell c (s.hw.indx i).nextIndex) :
    delIndxCmds c s i (ipaNatiFindIndexRulePos c s i) =
      indxDma c s.hw i (s.indexExpnTableMeta (i - c.tableEntries)) := by
  rw [findIndexRulePos_eq hg hi]
  unfold delIndxCmds indxDma
  simp only [cellIn_indxInTbl hg hi]
  simp only [indxInTbl_eq hg hi]
  by_cases hlt : i < c.tableEntries
  · have hfield : ∀ f, f < 4 → add32 (ipaNatiGetIndexEntryOffset c i) f =
        i * indexTableEntrySize + f := fun f hf => by
      have := hg.base
      exact indexEntryOffset_field hg (by omega) hf
    have hentry := hfield indexRuleNatIndexFieldOffset (by decide)
    have hlink := hfield indexRuleNextFieldOffset (by decide)
    by_cases hn : (s.hw.indx i).nextIndex = 0
    · simp only [hlt, hn, if_true, hentry]
    · simp only [hlt, hn, if_true, if_false, expnIndx_eq hg (hnext hn), hentry, hlink]
  · by_cases hn : (s.hw.indx i).nextIndex = 0
    · simp only [hlt, hn, if_true, if_false]
    · simp only [hlt, hn, if_false]

end Exec

/-! ## The commands and the clean-up -/

section Reorder

theorem reorderCmds_cons {d : DmaOne} {ds : List DmaOne}
    (hd : d.isIndx = false) (hne : ds ≠ [])
    (hds : ∀ x ∈ ds, x.isIndx = true) : reorderCmds (d :: ds) = ds ++ [d] := by
  cases ds with
  | nil => exact absurd rfl hne
  | cons d' ds =>
    have hidx : (d :: d' :: ds).findIdx? DmaOne.isIndx = some 1 := by
      simp [List.findIdx?_cons, hd, hds d' List.mem_cons_self]
    unfold reorderCmds
    rw [hidx]
    rfl

theorem ruleDma_isIndx (c : Cfg) (t : HwTbl) (e : Nat) :
    (ruleDma c t e).isIndx = false := by
  unfold ruleDma prevRuleCmd
  split
  · split <;> rfl
  · split <;> rfl

theorem prevIndxCmd_isIndx (c : Cfg) (q data : Nat) :
    (prevIndxCmd c q data).isIndx = true := by
  unfold prevIndxCmd
  split <;> rfl

theorem indxDma_isIndx {c : Cfg} {t : HwTbl} {i q : Nat} :
    ∀ d ∈ indxDma c t i q, d.isIndx = true := by
  intro d hd
  unfold indxDma at hd
  split at hd
  · split at hd
    · rw [List.mem_singleton.mp hd]
      rfl
    · simp only [List.mem_cons, List.not_mem_nil, or_false] at hd
      rcases hd with rfl | rfl <;> rfl
  · rw [List.mem_singleton.mp hd]
    exact prevIndxCmd_isIndx c q _

theorem indxDma_ne_nil {c : Cfg} {t : HwTbl} {i q : Nat} :
    indxDma c t i q ≠ [] := by
  unfold indxDma
  split
  · split <;> exact List.cons_ne_nil _ _
  · exact List.cons_ne_nil _ _

theorem Drv.dma_eq {c : Cfg} {s : Drv} (cmd : List DmaOne) :
    s.dma c cmd = s.writes c (cmd.map .dma) := by
  induction cmd generalizing s with
  | nil => simp only [Drv.dma, Drv.writes, HwTbl.writes, List.foldl_nil,
      List.map_nil, List.append_nil]
  | cons d cmd ih =>
    have hcons : s.writes c (.dma d :: cmd.map .dma) =
        (s.write c (.dma d)).writes c (cmd.map .dma) :=
      (Drv.writes_append c s [.dma d] _).symm
    rw [List.map_cons, hcons, ← ih]
    rfl

end Reorder

section Arrays

variable {c : Cfg} {t : HwTbl}

theorem HwTbl.write_dma_rules {d : DmaOne} (hd : d.isIndx = true) :
    (t.write c (.dma d)).rules = t.rules := by
  obtain ⟨ty, data, off⟩ := d
  cases ty <;> first | rfl | cases hd

theorem HwTbl.writes_dma_rules {ds : List DmaOne}
    (hds : ∀ d ∈ ds, d.isIndx = true) :
    (t.writes c (ds.map .dma)).rules = t.rules := by
  induction ds generalizing t with
  | nil => rfl
  | cons d ds ih =>
    rw [List.map_cons, HwTbl.writes_cons,
      ih fun d' hd' => hds d' (List.mem_cons_of_mem _ hd'),
      HwTbl.write_dma_rules (hds d List.mem_cons_self)]

theorem HwTbl.write_dma_indx {d : DmaOne} (hd : d.isIndx = false) :
    (t.write c (.dma d)).indx = t.indx := by
  obtain ⟨ty, data, off⟩ := d
  cases ty <;> first | rfl | cases hd

end Arrays

/-- What the entries around a live rule are: neighbours in a chain are other
cells, and the entry moved into the head of an index list names an entry. -/
structure Site (c : Cfg) (s : Drv) (e : Nat) : Prop where
  entry : IsBucket c e ∨ IsCell c e
  next : (s.hw.rules e).nextIndex ≠ 0 →
    IsCell c (s.hw.rules e).nextIndex ∧ (s.hw.rules e).nextIndex ≠ e
  prev : IsCell c e → (IsBucket c (s.hw.rules e).prevIndex ∨
    IsCell c (s.hw.rules e).prevIndex) ∧ (s.hw.rules e).prevIndex ≠ e
  indxEntry : IsBucket c (s.hw.rules e).indxTblEntry ∨
    IsCell c (s.hw.rules e).indxTblEntry
  indxNext : ∀ i, (s.hw.indx i).tblEntry ≠ 0 → (s.hw.indx i).nextIndex ≠ 0 →
    IsCell c (s.hw.indx i).nextIndex ∧ (s.hw.indx i).nextIndex ≠ i ∧
    (s.hw.indx (s.hw.indx i).nextIndex).tblEntry ≠ 0
  indxPrev : IsCell c (s.hw.rules e).indxTblEntry →
    (IsBucket c (s.indexExpnTableMeta
        ((s.hw.rules e).indxTblEntry - c.tableEntries)) ∨
      IsCell c (s.indexExpnTableMeta
        ((s.hw.rules e).indxTblEntry - c.tableEntries))) ∧
    s.indexExpnTableMeta ((s.hw.rules e).indxTblEntry - c.tableEntries) ≠
      (s.hw.rules e).indxTblEntry
  indxOcc : (s.hw.indx (s.hw.rules e).indxTblEntry).tblEntry ≠ 0
  named : ∀ i, (s.hw.indx i).tblEntry ≠ 0 →
    IsBucket c (s.hw.indx i).tblEntry ∨ IsCell c (s.hw.indx i).tblEntry

theorem chained_mem {c : Cfg} {occ : Nat → Prop} {next prev : Nat → Nat}
    {tail : Nat → List Nat}
    (h : Chained 0 (IsBucket c) (IsCell c) occ next prev tail) {x : Nat}
    (hx : IsBucket c x ∨ IsCell c x) (ho : occ x) :
    ∃ b, IsBucket c b ∧ x ∈ b :: tail b := by
  rcases hx with hb | hcell
  · exact ⟨x, hb, List.mem_cons_self⟩
  · obtain ⟨b, hb, hmem⟩ := h.cover x hcell ho
    exact ⟨b, hb, List.mem_cons_of_mem _ hmem⟩

theorem Inv.site {c : Cfg} {s : Drv} {tailR tailI : Nat → List Nat}
    (h : Inv c s tailR tailI) {e : Nat} (he : (s.hw.rules e).Live) :
    Site c s e := by
  have hentry := h.rules.live_range he
  have hocc := h.indx_occ he
  have hi := h.indx.range _ hocc
  refine ⟨hentry, fun hn => ?_, fun hc => ?_, hi, fun i ho hn => ?_,
    fun hc => ?_, hocc, fun i ho => h.rules.live_range (h.linked.live i ho)⟩
  · obtain ⟨b, hb, hmem⟩ := chained_mem h.rules.chained hentry he.1
    obtain ⟨hcell, -, -, hne⟩ := h.rules.next_cell hb hmem hn
    exact ⟨hcell, hne⟩
  · obtain ⟨b, hb, hmem⟩ := h.rules.chained.cover e hc he.1
    obtain ⟨hpm, -⟩ := h.rules.chained.back b e hb hmem
    refine ⟨?_, h.rules.chained.prev_ne hb hmem⟩
    rcases List.mem_cons.mp hpm with hpb | hpt
    · exact .inl (hpb ▸ hb)
    · exact .inr (h.rules.chained.cells b _ hb hpt).1
  · obtain ⟨b, hb, hmem⟩ := chained_mem h.indx.chained (h.indx.range i ho) ho
    obtain ⟨hcell, hno, -, hne⟩ := h.indx.next_cell hb hmem hn
    exact ⟨hcell, hne, hno⟩
  · obtain ⟨b, hb, hmem⟩ := h.indx.chained.cover _ hc hocc
    obtain ⟨hpm, -⟩ := h.indx.chained.back b _ hb hmem
    refine ⟨?_, h.indx.chained.prev_ne hb hmem⟩
    rcases List.mem_cons.mp hpm with hpb | hpt
    · exact .inl (hpb ▸ hb)
    · exact .inr (h.indx.chained.cells b _ hb hpt).1

section Fixups

variable {c : Cfg} (hg : c.Geometry) {s : Drv} {e : Nat} (hs : Site c s e)
include hg hs

theorem write_ruleDma (t : HwTbl) :
    t.write c (.dma (ruleDma c s.hw e)) =
      if e < c.tableEntries then
        if (s.hw.rules e).nextIndex = 0 then t.modRule e (·.write16 18 0)
        else t.modRule e (·.write16 22 invalidProtoFieldValue)
      else t.modRule (s.hw.rules e).prevIndex fun r =>
        { r with nextIndex := (s.hw.rules e).nextIndex } := by
  unfold ruleDma
  split
  · split
    · exact t.write_baseTbl 0 (f := 18) (by omega)
    · exact t.write_baseTbl _ (f := 22) (by omega)
  · next hge =>
      have hcell : IsCell c e := hs.entry.resolve_left fun hb => hge hb.2
      exact t.write_prevRuleCmd hg _ (hs.prev hcell).1

theorem ruleDma_links (t : HwTbl) (ht : t.rules = s.hw.rules) :
    ((t.write c (.dma (ruleDma c s.hw e))).rules e).nextIndex =
        (s.hw.rules e).nextIndex ∧
      ((t.write c (.dma (ruleDma c s.hw e))).rules e).prevIndex =
        (s.hw.rules e).prevIndex := by
  rw [write_ruleDma hg hs]
  split
  · split
    · rw [HwTbl.modRule_self, ht]
      exact ⟨rfl, rfl⟩
    · rw [HwTbl.modRule_self, ht]
      exact ⟨rfl, rfl⟩
  · next hge =>
      have hcell : IsCell c e := hs.entry.resolve_left fun hb => hge hb.2
      rw [HwTbl.modRule_of_ne _ _ (hs.prev hcell).2.symm, ht]
      exact ⟨rfl, rfl⟩

theorem writes_indxDma (t : HwTbl) {i q : Nat}
    (hi : i = (s.hw.rules e).indxTblEntry)
    (hq : q = s.indexExpnTableMeta (i - c.tableEntries)) :
    t.writes c ((indxDma c s.hw i q).map .dma) =
      if i < c.tableEntries then
        if (s.hw.indx i).nextIndex = 0 then
          t.modIndx i fun r => { r with tblEntry := 0 }
        else
          (t.modIndx i fun r => { r with
            tblEntry := (s.hw.indx (s.hw.indx i).nextIndex).tblEntry }).modIndx
            i fun r => { r with
              nextIndex := (s.hw.indx (s.hw.indx i).nextIndex).nextIndex }
      else t.modIndx q fun r => { r with
        nextIndex := (s.hw.indx i).nextIndex } := by
  subst hi hq
  unfold indxDma
  split
  · split
    · rw [List.map_singleton, HwTbl.writes_cons]
      exact t.write_indxTbl 0 (f := 0) (by omega)
    · rw [List.map_cons, List.map_singleton, HwTbl.writes_cons,
        HwTbl.writes_cons]
      have h₁ := t.write_indxTbl (c := c)
        (s.hw.indx (s.hw.indx (s.hw.rules e).indxTblEntry).nextIndex).tblEntry
        (i := (s.hw.rules e).indxTblEntry) (f := 0) (by omega)
      unfold indexRuleNatIndexFieldOffset
      rw [h₁]
      exact HwTbl.write_indxTbl _ _ (f := 2) (by omega)
  · next hge =>
      have hcell : IsCell c (s.hw.rules e).indxTblEntry :=
        hs.indxEntry.resolve_left fun hb => hge hb.2
      rw [List.map_singleton, HwTbl.writes_cons]
      exact t.write_prevIndxCmd hg _ (hs.indxPrev hcell).1

theorem indxDma_keeps (t : HwTbl) (ht : t.indx = s.hw.indx) {i q : Nat}
    (hi : i = (s.hw.rules e).indxTblEntry)
    (hq : q = s.indexExpnTableMeta (i - c.tableEntries)) :
    (¬ i < c.tableEntries →
      ((t.writes c ((indxDma c s.hw i q).map .dma)).indx i).nextIndex =
        (s.hw.indx i).nextIndex) ∧
    (i < c.tableEntries → (s.hw.indx i).nextIndex ≠ 0 →
      (t.writes c ((indxDma c s.hw i q).map .dma)).indx i =
        s.hw.indx (s.hw.indx i).nextIndex ∧
      (t.writes c ((indxDma c s.hw i q).map .dma)).indx
        (s.hw.indx i).nextIndex = s.hw.indx (s.hw.indx i).nextIndex) := by
  rw [writes_indxDma hg hs t hi hq]
  have hocc : (s.hw.indx i).tblEntry ≠ 0 := hi ▸ hs.indxOcc
  constructor
  · intro hge
    have hcell : IsCell c i :=
      (hi ▸ hs.indxEntry).resolve_left fun hb => hge hb.2
    have hne : i ≠ q := by
      rw [hq, hi]
      exact (hs.indxPrev (hi ▸ hcell)).2.symm
    rw [if_neg hge, HwTbl.modIndx_of_ne _ _ hne, ht]
  · intro hlt hn
    have hne := (hs.indxNext i hocc hn).2.1
    rw [if_pos hlt, if_neg hn, HwTbl.modIndx_self, HwTbl.modIndx_self,
      HwTbl.modIndx_of_ne _ _ hne, HwTbl.modIndx_of_ne _ _ hne, ht]
    exact ⟨rfl, rfl⟩

theorem delRuleFixup_eq {expnTbl : Bool} {tblEntry : Nat}
    (hp : Parsed c e expnTbl tblEntry) {s₁ : Drv}
    (hnext : (s₁.hw.rules e).nextIndex = (s.hw.rules e).nextIndex)
    (hprev : (s₁.hw.rules e).prevIndex = (s.hw.rules e).prevIndex) :
    delRuleFixup c s₁ tblEntry expnTbl
      (ipaNatiFindRulePos c s expnTbl tblEntry) =
      s₁.writes c (ruleFix c s.hw e) := by
  rw [findRulePos_eq hp]
  unfold delRuleFixup ruleFix
  simp only [hp.cell]
  by_cases hn : (s.hw.rules e).nextIndex = 0
  · by_cases hlt : e < c.tableEntries
    · simp only [hn, hlt, if_true]
      rfl
    · simp only [hn, hlt, if_true, if_false]
      rfl
  · by_cases hlt : e < c.tableEntries
    · simp only [hn, hlt, if_true, if_false, Drv.writes, HwTbl.writes,
        List.foldl_nil, List.append_nil]
    · have hexpn : expnTbl = true := by
        rw [hp.expn, decide_eq_true (Nat.not_lt.mp hlt)]
      have hcell := hp.cell
      rw [hexpn] at hcell
      simp only [hn, hlt, if_false, hnext, hprev, hcell,
        cellIn_expn hg (hs.next hn).1]
      simp only [Drv.write, Drv.writes, HwTbl.writes, List.foldl_cons,
        List.foldl_nil, List.append_assoc, List.cons_append, List.nil_append]

theorem delIndxFixup_eq (s₂ : Drv) {i : Nat}
    (hi : i = (s.hw.rules e).indxTblEntry)
    (hmeta : s₂.indexExpnTableMeta = s.indexExpnTableMeta)
    (hkeep : ¬ i < c.tableEntries →
      (s₂.hw.indx i).nextIndex = (s.hw.indx i).nextIndex)
    (hmoved : i < c.tableEntries → (s.hw.indx i).nextIndex ≠ 0 →
      s₂.hw.indx i = s.hw.indx (s.hw.indx i).nextIndex ∧
      s₂.hw.indx (s.hw.indx i).nextIndex =
        s.hw.indx (s.hw.indx i).nextIndex) :
    delIndxFixup c s₂ i (sub16 (s.hw.indx i).nextIndex c.tableEntries)
      (ipaNatiFindIndexRulePos c s i) =
      { s₂.writes c (indxFix c s.hw i) with
        indexExpnTableMeta := metaAfterDel c s.hw s.indexExpnTableMeta i } := by
  have hentry : IsBucket c i ∨ IsCell c i := hi ▸ hs.indxEntry
  have hocc : (s.hw.indx i).tblEntry ≠ 0 := hi ▸ hs.indxOcc
  rw [findIndexRulePos_eq hg hentry]
  unfold delIndxFixup indxFix metaAfterDel
  simp only [cellIn_indxInTbl hg hentry]
  by_cases hlt : i < c.tableEntries
  · have hin : indxInTbl c i = i := by rw [indxInTbl_eq hg hentry, if_pos hlt]
    by_cases hn : (s.hw.indx i).nextIndex = 0
    · simp only [hlt, hn, if_true, ne_eq, not_true_eq_false, and_false,
        if_false, ← hmeta]
      rfl
    · obtain ⟨hcell, hne, hnocc⟩ := hs.indxNext i hocc hn
      obtain ⟨hself, hnx⟩ := hmoved hlt hn
      simp only [hlt, hn, hin, if_true, if_false, ne_eq, not_false_eq_true,
        and_self, expnIndx_eq hg hcell, hnx, cellIn_expn hg hcell]
      have hcm := cellOf_entry hg (hs.named _ hnocc)
      by_cases hnn : (s.hw.indx (s.hw.indx i).nextIndex).nextIndex = 0
      · simp only [hnn, not_true_eq_false, false_and, if_false, if_true,
          ← hmeta, Drv.write, HwTbl.write_clearIndx,
          HwTbl.modIndx_of_ne _ _ hne.symm, hself, hcm, Drv.writes,
          HwTbl.writes, List.foldl_cons, List.foldl_nil, List.append_assoc,
          List.cons_append, List.nil_append]
      · have hcell' := (hs.indxNext _ hnocc hnn).1
        have hge := Nat.le_of_lt hcell'.1
        simp only [hnn, not_false_eq_true, ge_iff_le, hge, and_self, if_true,
          if_false, Drv.setMeta, hmeta, sub16_cell hg hcell', Drv.write,
          HwTbl.write_clearIndx, HwTbl.modIndx_of_ne _ _ hne.symm, hself, hcm,
          Drv.writes, HwTbl.writes, List.foldl_cons, List.foldl_nil,
          List.append_assoc, List.cons_append, List.nil_append]
  · have hin : indxInTbl c i = i - c.tableEntries := by
      rw [indxInTbl_eq hg hentry, if_neg hlt]
    by_cases hn : (s.hw.indx i).nextIndex = 0
    · simp only [hlt, hn, if_true, if_false, false_and, ← hmeta]
      rfl
    · obtain ⟨hcell, -, -⟩ := hs.indxNext i hocc hn
      have hinn := indxInTbl_eq hg (.inr hcell)
      rw [if_neg (Nat.not_lt.mpr (Nat.le_of_lt hcell.1))] at hinn
      simp only [hlt, hn, hin, if_false, false_and, hkeep hlt, hinn,
        Drv.setMeta, hmeta]
      simp only [Drv.write, Drv.writes, HwTbl.writes, List.foldl_cons,
        List.foldl_nil]

end Fixups

/-! ## The scan for dead heads -/

theorem delDead_foldl {c : Cfg} {l : List Nat} (hl : l.Nodup) (s : Drv) :
    l.foldl (fun s cnt =>
      if (s.hw.rules cnt).protocol = invalidProtoFieldCmp ∧
          (s.hw.rules cnt).nextIndex = 0 then s.write c (.clearRule cnt)
      else s) s =
    s.writes c ((l.filter fun cnt =>
      (s.hw.rules cnt).protocol = invalidProtoFieldCmp ∧
        (s.hw.rules cnt).nextIndex = 0).map .clearRule) := by
  induction l generalizing s with
  | nil => simp only [List.foldl_nil, Drv.writes, HwTbl.writes, List.filter_nil,
      List.map_nil, List.append_nil]
  | cons cnt l ih =>
    obtain ⟨hcnt, hl⟩ := List.nodup_cons.mp hl
    rw [List.foldl_cons]
    by_cases hd : (s.hw.rules cnt).protocol = invalidProtoFieldCmp ∧
        (s.hw.rules cnt).nextIndex = 0
    · rw [if_pos hd, ih hl, List.filter_cons_of_pos (by simpa using hd)]
      -- clearing this entry does not change what the scan sees later
      have hsame : ∀ x ∈ l, (s.write c (.clearRule cnt)).hw.rules x =
          s.hw.rules x := by
        intro x hx
        have hne : x ≠ cnt := fun heq => hcnt (heq ▸ hx)
        exact Function.update_of_ne hne ..
      rw [List.filter_congr fun x hx => by rw [hsame x hx], List.map_cons]
      exact Drv.writes_append c s [.clearRule cnt] _
    · rw [if_neg hd, ih hl, List.filter_cons_of_neg (by simpa using hd)]

theorem delDeadIpv4HeadNodes_eq (c : Cfg) (s : Drv) :
    ipaNatiDelDeadIpv4HeadNodes c s = s.writes c (deadWrites c s.hw) :=
  delDead_foldl List.nodup_range s

theorem clearRules_rules {c : Cfg} (l : List Nat) (t : HwTbl) (x : Nat) :
    (t.writes c (l.map .clearRule)).rules x =
      if x ∈ l then .zero else t.rules x := by
  induction l generalizing t with
  | nil => simp only [List.map_nil, List.not_mem_nil, if_false]; rfl
  | cons y l ih =>
    rw [List.map_cons, HwTbl.writes_cons, ih, HwTbl.write_clearRule]
    by_cases hx : x ∈ l
    · rw [if_pos hx, if_pos (List.mem_cons_of_mem _ hx)]
    · rw [if_neg hx]
      rcases eq_or_ne x y with rfl | hxy
      · rw [if_pos List.mem_cons_self, HwTbl.modRule_self]
      · rw [HwTbl.modRule_of_ne _ _ hxy, if_neg]
        simpa [hxy] using hx

theorem clearRules_indx {c : Cfg} (l : List Nat) (t : HwTbl) :
    (t.writes c (l.map .clearRule)).indx = t.indx := by
  induction l generalizing t with
  | nil => rfl
  | cons y l ih => rw [List.map_cons, HwTbl.writes_cons, ih]; rfl

theorem deadWrites_rules (c : Cfg) (t : HwTbl) (x : Nat) :
    (t.writes c (deadWrites c t)).rules x =
      if x < c.tableEntries ∧ (t.rules x).protocol = invalidProtoFieldCmp ∧
        (t.rules x).nextIndex = 0 then .zero else t.rules x := by
  unfold deadWrites
  rw [clearRules_rules]
  simp only [List.mem_filter, List.mem_range, decide_eq_true_eq]

/-! ## The call -/

/-- The table memory before the scan for dead heads. -/
def delMid (c : Cfg) (s : Drv) (e : Nat) : HwTbl :=
  s.hw.writes c (delWrites c s.hw s.indexExpnTableMeta e)

/-- The state a delete of the rule at `e` leaves: `k` is its slot. -/
def deletedState (c : Cfg) (s : Drv) (e k : Nat) : Drv where
  hw := (delMid c s e).writes c (deadWrites c (delMid c s e))
  indexExpnTableMeta := metaAfterDel c s.hw s.indexExpnTableMeta
    (s.hw.rules e).indxTblEntry
  ruleIdArray := Function.update s.ruleIdArray k 0
  log := delWrites c s.hw s.indexExpnTableMeta e ++
    deadWrites c (delMid c s e)

section Call

variable {c : Cfg} (hg : c.Geometry) {s : Drv} {e : Nat}
include hg

theorem postDelDmaCmd_eq (hs : Site c s e) (hen : (s.hw.rules e).enable = true)
    {expnTbl : Bool} {tblEntry : Nat} (hp : Parsed c e expnTbl tblEntry) :
    ipaNatiPostDelDmaCmd c s true tblEntry expnTbl
      (ipaNatiFindRulePos c s expnTbl tblEntry) =
      .ok { s.writes c (delWrites c s.hw s.indexExpnTableMeta e) with
        indexExpnTableMeta := metaAfterDel c s.hw s.indexExpnTableMeta
          (s.hw.rules e).indxTblEntry } := by
  have hnextCell : (s.hw.indx (s.hw.rules e).indxTblEntry).nextIndex ≠ 0 →
      IsCell c (s.hw.indx (s.hw.rules e).indxTblEntry).nextIndex := fun hn =>
    (hs.indxNext _ hs.indxOcc hn).1
  unfold ipaNatiPostDelDmaCmd
  simp only [hp.cell, hen, Bool.true_eq_false, if_false, if_true,
    cellIn_indxInTbl hg hs.indxEntry]
  rw [delRuleCmd_eq hg hp, delIndxCmds_eq hg hs.indxEntry hnextCell,
    reorderCmds_cons (ruleDma_isIndx c s.hw e) indxDma_ne_nil
      indxDma_isIndx, Drv.dma_eq, List.map_append, List.map_singleton]
  generalize hi : (s.hw.rules e).indxTblEntry = i at *
  generalize hq : s.indexExpnTableMeta (i - c.tableEntries) = q
  let t := s.hw.writes c ((indxDma c s.hw i q).map .dma)
  have htr : t.rules = s.hw.rules := HwTbl.writes_dma_rules indxDma_isIndx
  obtain ⟨hnext, hprev⟩ := ruleDma_links hg hs t htr
  have hkeep := indxDma_keeps hg hs s.hw rfl hi.symm hq.symm
  have hdma : s.hw.writes c ((indxDma c s.hw i q).map .dma ++
      [.dma (ruleDma c s.hw e)]) = t.write c (.dma (ruleDma c s.hw e)) :=
    HwTbl.writes_append c _ _ _
  rw [delRuleFixup_eq hg hs hp
      (by simp only [Drv.writes, hdma, hnext])
      (by simp only [Drv.writes, hdma, hprev])]
  have hindx : ((s.writes c ((indxDma c s.hw i q).map .dma ++
      [.dma (ruleDma c s.hw e)])).writes c (ruleFix c s.hw e)).hw.indx =
      t.indx := by
    have hfix : ∀ t' : HwTbl, (t'.writes c (ruleFix c s.hw e)).indx =
        t'.indx := by
      intro t'
      unfold ruleFix
      split
      · rfl
      · split <;> rfl
    simp only [Drv.writes, hdma, hfix]
    exact HwTbl.write_dma_indx (ruleDma_isIndx c s.hw e)
  rw [delIndxFixup_eq hg hs ((s.writes c _).writes c _) hi.symm rfl
    (by rw [hindx]; exact hkeep.1) (by rw [hindx]; exact hkeep.2),
    Drv.writes_append, Drv.writes_append]
  simp only [delWrites, hi, hq, List.append_assoc, List.singleton_append]

theorem ipaNatDelIpv4Rule_ok {tailR tailI : Nat → List Nat}
    (h : Inv c s tailR tailI) (he : (s.hw.rules e).Live) {k : Nat}
    (hk : s.ruleIdArray k = ruleIdOf c e) :
    ipaNatDelIpv4Rule c s true 1 (k + 1) = (.ok (), deletedState c s e k) := by
  have hentry := h.rules.live_range he
  have hk0 : s.ruleIdArray k ≠ 0 := hk ▸ ruleIdOf_ne_zero hg hentry
  have hlt := h.handles.lt hk0
  have hlt' : k + 1 < 32768 := by
    have := hg.base
    have := hg.expn
    omega
  have hp := parsed_ruleIdOf hg hentry
  have h' : Inv c { s with log := [] } tailR tailI :=
    ⟨h.rules, h.busy, h.indx, h.linked, h.handles⟩
  have hmod : (k + 1) % 65536 = k + 1 := Nat.mod_eq_of_lt (by omega)
  have hparse : ipaNatiParseIpv4RuleHdl c { s with log := [] }
      ((k + 1) % 65536) = (ruleIdOf c e % 2 == 1, ruleIdOf c e / 2) := by
    rw [hmod]
    unfold ipaNatiParseIpv4RuleHdl
    rw [if_neg (by omega)]
    simp only [Nat.add_eq_zero_iff, Nat.one_ne_zero, and_false, if_false,
      Nat.add_sub_cancel, hk]
  unfold ipaNatDelIpv4Rule ipaNatiDelIpv4Rule
  simp only [Nat.one_ne_zero, Nat.add_eq_zero_iff, and_false, or_self, if_false,
    hparse, hp.pos]
  rw [postDelDmaCmd_eq hg (h'.site he) he.1 hp]
  simp only [delDeadIpv4HeadNodes_eq]
  have hslot : (k + 1 + 2 ^ 32 - 1) % 2 ^ 32 = k := by omega
  rw [hslot]
  simp only [deletedState, delMid, Drv.setRuleId, Drv.writes, List.nil_append]

omit hg in
theorem ipaNatDelIpv4Rule_refused {ruleHdl : Nat} (hlt : ruleHdl < 65536)
    (hno : ruleHdl = 0 ∨ s.ruleIdArray (ruleHdl - 1) = 0) :
    ipaNatDelIpv4Rule c s true 1 ruleHdl =
      (.error .einval, { s with log := [] }) := by
  unfold ipaNatDelIpv4Rule
  split
  · rfl
  · next hne =>
      simp only [Nat.one_ne_zero, false_or] at hne
      have h0 := hno.resolve_left hne
      have hparse : ipaNatiParseIpv4RuleHdl c { s with log := [] }
          (ruleHdl % 65536) = (false, 0) := by
        rw [Nat.mod_eq_of_lt hlt]
        unfold ipaNatiParseIpv4RuleHdl
        split
        · rfl
        · simp only [h0, Nat.zero_mod, Nat.zero_div]
          rfl
      unfold ipaNatiDelIpv4Rule
      simp only [hparse, if_true]

end Call

end Axon7.IpaNat
