import Axon7.IpaNat.Inv

/-!
# What an add does

On a state that meets the invariant the search for the end of a collision
list ends, and ends at its last entry; the entry chosen is one no rule has.
The table writes of a successful add are then a fixed list, the handle is the
first free slot, and the invariant holds again with one rule more.
-/

namespace Axon7.IpaNat

open Axon7.Lib

/-! ## Choosing the entries -/

section Search

variable {c : Cfg} (hg : c.Geometry) {occ : Nat → Prop} {next prev : Nat → Nat}
  {tail : Nat → List Nat}
include hg

theorem findLast_walk {a : Nat} {l : List Nat} (hw : Walk 0 next a l)
    (hcells : ∀ x ∈ l, IsCell c x) : ∀ fuel prev, l.length ≤ fuel →
    findLast c (fun i => next (c.tableEntries + i)) fuel prev a =
      .last (l.getLastD prev) := by
  induction hw with
  | stop =>
    intro fuel prev _
    cases fuel <;> rfl
  | @step a l hne hw ih =>
    intro fuel prev hfuel
    cases fuel with
    | zero => simp at hfuel
    | succ fuel =>
      have hcell := hcells a List.mem_cons_self
      have hread : c.tableEntries + sub16 a c.tableEntries = a := by
        have := cellIn_expn hg hcell
        simpa only [cellIn, if_true] using this
      have hself : a ≠ next a := by
        intro heq
        have hnd := (Walk.step hne hw).nodup
        rw [← heq] at hw
        cases hw with
        | stop => exact hne rfl
        | step _ _ => simp at hnd
      rw [findLast, if_neg hne]
      simp only [hread]
      rw [if_neg hself, List.getLastD_cons]
      exact ih (fun x hx => hcells x (List.mem_cons_of_mem _ hx)) fuel a
        (Nat.le_of_succ_le_succ hfuel)

theorem collisionPrev_spec
    (h : Chained 0 (IsBucket c) (IsCell c) occ next prev tail) {b : Nat}
    (hb : IsBucket c b) :
    ∃ p, collisionPrev c next (fun i => next (c.tableEntries + i)) b =
        .last p ∧
      p ∈ b :: tail b ∧ next p = 0 ∧ p ≠ 0 := by
  unfold collisionPrev
  by_cases hn : next b = 0
  · rw [if_pos hn]
    exact ⟨b, rfl, List.mem_cons_self, hn, Nat.pos_iff_ne_zero.mp hb.1⟩
  · rw [if_neg hn]
    have hw := h.walk b hb
    have hlen : (tail b).length ≤ c.walkFuel := by
      have hcard := length_le_card_of_nodup (List.nodup_cons.mp hw.nodup).2
        (s := Finset.range c.walkFuel) fun x hx =>
          Finset.mem_range.mpr (h.cells b x hb hx).1.2
      rwa [Finset.card_range] at hcard
    have hne : tail b ≠ [] := fun ht => hn ((h.tail_nil_iff hb).mp ht)
    obtain ⟨l, p, hl⟩ := (tail b).eq_nil_or_concat.resolve_left hne
    rw [List.concat_eq_append] at hl
    have hmem : p ∈ b :: tail b := by simp [hl]
    refine ⟨p, ?_, hmem, ?_, h.ne_nil hb hmem⟩
    · rw [findLast_walk hg hw.tail_walk (fun x hx => (h.cells b x hb hx).1) _ _
        hlen, hl, List.getLastD_concat]
    · rw [hl] at hw
      exact Walk.next_last (l := b :: l) hw

omit hg in
theorem expnFreeEntry_spec (inUse : Nat → Bool) (size : Nat) :
    expnFreeEntry inUse size = 0 ∨
      (1 ≤ expnFreeEntry inUse size ∧ expnFreeEntry inUse size < size ∧
        inUse (expnFreeEntry inUse size) = false) := by
  unfold expnFreeEntry
  cases hf : (List.range' 1 (size - 1)).find? fun cnt => !inUse cnt with
  | none => exact .inl rfl
  | some k =>
    have hmem := List.mem_range'_1.mp (List.mem_of_find?_eq_some hf)
    have huse := List.find?_some hf
    simp only [Bool.not_eq_true'] at huse
    refine .inr ⟨hmem.1, ?_, huse⟩
    have := hmem.2
    simp only [Option.getD_some]
    omega

end Search

/-- What `ipa_nati_generate_rule` decides: where the rule and its index entry
go, and what is written there. -/
structure Generated (c : Cfg) (s : Drv) (tailR tailI : Nat → List Nat)
    (clntRule : ClntRule) (g : GenRule) : Prop where
  place : Place 0 (IsCell c) (fun e => (s.hw.rules e).enable = true)
    (fun e => (s.hw.rules e).nextIndex) tailR (dstOf c (swRuleOf c clntRule))
    g.rule.prevIndex g.tblEntry
  placeIndx : Place 0 (IsCell c) (fun i => (s.hw.indx i).tblEntry ≠ 0)
    (fun i => (s.hw.indx i).nextIndex) tailI (srcOf c (swRuleOf c clntRule))
    g.indexSwRule.prevIndex g.indxTblEntry
  rule : g.rule.body = (swRuleOf c clntRule).body
  next : g.rule.nextIndex = 0
  indxTblEntry : g.rule.indxTblEntry = g.indxTblEntry
  indexSwRule : g.indexSwRule = ⟨g.tblEntry, 0, g.indexSwRule.prevIndex⟩

/-- `index_expn_table_meta` after `ipa_nati_generate_rule`. -/
def metaAfterAdd (c : Cfg) (s : Drv) (g : GenRule) : Nat → Nat :=
  if g.indxTblEntry ≥ c.tableEntries then
    Function.update s.indexExpnTableMeta
      (sub16 g.indxTblEntry c.tableEntries) g.indexSwRule.prevIndex
  else s.indexExpnTableMeta

section Generate

variable {c : Cfg} (hg : c.Geometry) {s : Drv} {tailR tailI : Nat → List Nat}
include hg

theorem generateTblRule_spec (h : RuleChains c s.hw.rules tailR)
    {clntRule : ClntRule} (hpdn : clntRule.pdnIndex < 16) :
    ipaNatiGenerateTblRule c s clntRule = .error .einval ∨
    ∃ p e, ipaNatiGenerateTblRule c s clntRule =
        .ok (e, { swRuleOf c clntRule with prevIndex := p }) ∧
      Place 0 (IsCell c) (fun e => (s.hw.rules e).enable = true)
        (fun e => (s.hw.rules e).nextIndex) tailR
        (dstOf c (swRuleOf c clntRule)) p e := by
  have hb := dstOf_isBucket hg (swRuleOf c clntRule)
  have hdst : dstHash c (c.publicIp clntRule.pdnIndex) clntRule.targetIp
      clntRule.targetPort clntRule.publicPort clntRule.protocol
      (c.tableEntries - 1) = dstOf c (swRuleOf c clntRule) := by
    simp only [dstOf, swRuleOf, Nat.mod_eq_of_lt hpdn]
  unfold ipaNatiGenerateTblRule
  simp only [hdst]
  generalize dstOf c (swRuleOf c clntRule) = b at hb
  split
  · next hv =>
      refine .inr ⟨0, b, rfl, .vacant ?_⟩
      rw [hv]
      exact Bool.false_ne_true
  · next hocc =>
      rw [Bool.not_eq_false] at hocc
      obtain ⟨p, heq, hmem, hlast, hp0⟩ := collisionPrev_spec hg h.chained hb
      have heq : collisionPrev c (fun i => (s.hw.rules i).nextIndex)
          (fun i => (expnRule c s i).nextIndex) b = .last p := heq
      rw [heq]
      simp only
      rcases expnFreeEntry_spec (fun i => (expnRule c s i).enable)
        c.expnTableEntries with h0 | ⟨hpos, hlt, hfree⟩
      · exact .inl (if_pos h0)
      · refine .inr ⟨p, ipaNatiExpnTblFreeEntry c s + c.tableEntries, ?_,
          .behind hocc hmem hlast hp0 ?_ ?_ ?_⟩
        · exact if_neg (by unfold ipaNatiExpnTblFreeEntry; omega)
        · unfold IsCell ipaNatiExpnTblFreeEntry
          omega
        · unfold ipaNatiExpnTblFreeEntry
          omega
        · rw [Nat.add_comm]
          exact Bool.eq_false_iff.mp hfree

theorem generateIndexRule_spec
    (h : IndxChains c s.hw.indx s.indexExpnTableMeta tailI)
    (clntRule : ClntRule) (tblEntry : Nat) :
    ipaNatiGenerateIndexRule c s clntRule tblEntry = .error .einval ∨
    ∃ q i, ipaNatiGenerateIndexRule c s clntRule tblEntry =
        .ok (i, ⟨tblEntry, 0, q⟩) ∧
      Place 0 (IsCell c) (fun i => (s.hw.indx i).tblEntry ≠ 0)
        (fun i => (s.hw.indx i).nextIndex) tailI
        (srcOf c (swRuleOf c clntRule)) q i := by
  have hb := srcOf_isBucket hg (swRuleOf c clntRule)
  have hsrc : srcHash clntRule.privateIp clntRule.privatePort
      clntRule.targetIp clntRule.targetPort clntRule.protocol
      (c.tableEntries - 1) = srcOf c (swRuleOf c clntRule) := rfl
  unfold ipaNatiGenerateIndexRule
  simp only [hsrc]
  generalize srcOf c (swRuleOf c clntRule) = b at hb
  split
  · next hv => exact .inr ⟨0, b, rfl, .vacant (not_not_intro hv)⟩
  · next hocc =>
      obtain ⟨q, heq, hmem, hlast, hq0⟩ := collisionPrev_spec hg h.chained hb
      have heq : collisionPrev c (fun i => (s.hw.indx i).nextIndex)
          (fun i => (expnIndx c s i).nextIndex) b = .last q := heq
      rw [heq]
      simp only
      rcases expnFreeEntry_spec (fun i => (expnIndx c s i).tblEntry != 0)
        c.expnTableEntries with h0 | ⟨hpos, hlt, hfree⟩
      · exact .inl (if_pos h0)
      · have hn0 : ¬ ipaNatiIndexExpnGetFreeEntry c s = 0 := by
          unfold ipaNatiIndexExpnGetFreeEntry
          omega
        rw [if_neg hn0]
        have hfree' : ¬ (s.hw.indx (ipaNatiIndexExpnGetFreeEntry c s +
            c.tableEntries)).tblEntry ≠ 0 := by
          rw [Nat.add_comm]
          simpa [ipaNatiIndexExpnGetFreeEntry, expnIndx] using hfree
        have hqi : q ≠ ipaNatiIndexExpnGetFreeEntry c s + c.tableEntries := by
          intro hqi
          rw [← hqi] at hfree'
          rcases List.mem_cons.mp hmem with rfl | hmem
          · exact hfree' hocc
          · exact hfree' (h.chained.cells b q hb hmem).2
        refine .inr ⟨q, _, if_neg hqi,
          .behind hocc hmem hlast hq0 ?_ ?_ hfree'⟩
        · unfold IsCell ipaNatiIndexExpnGetFreeEntry
          omega
        · omega

theorem generateRule_spec (h : Inv c s tailR tailI) (clntRule : ClntRule)
    (hpdn : clntRule.pdnIndex < 16) :
    ipaNatiGenerateRule c s clntRule = .error .einval ∨
    ∃ g, ipaNatiGenerateRule c s clntRule =
        .ok (g, { s with indexExpnTableMeta := metaAfterAdd c s g }) ∧
      Generated c s tailR tailI clntRule g := by
  unfold ipaNatiGenerateRule
  rcases generateTblRule_spec hg h.rules hpdn with heq | ⟨p, e, heq, hpl⟩
  · rw [heq]
    exact .inl rfl
  · rw [heq]
    simp only
    rcases generateIndexRule_spec hg h.indx clntRule e with heq' | ⟨q, i, heq', hpl'⟩
    · rw [heq']
      exact .inl rfl
    · rw [heq']
      simp only
      refine .inr ⟨⟨{ swRuleOf c clntRule with
          prevIndex := p, indxTblEntry := i }, ⟨e, 0, q⟩, e, i⟩, ?_,
        ⟨hpl, hpl', rfl, rfl, rfl, rfl⟩⟩
      unfold metaAfterAdd Drv.setMeta
      split <;> rfl

end Generate

/-! ## Writing them -/

/-- Table writes one after the other. -/
def Drv.writes (c : Cfg) (s : Drv) (ws : List TblWrite) : Drv :=
  { s with hw := s.hw.writes c ws, log := s.log ++ ws }

theorem Drv.writes_append (c : Cfg) (s : Drv) (ws ws' : List TblWrite) :
    (s.writes c ws).writes c ws' = s.writes c (ws ++ ws') := by
  simp only [Drv.writes, HwTbl.writes_append, List.append_assoc]

/-- The link from the previous entry, if there is one. -/
def linkWrite (prev : Nat) (w : TblWrite) : List TblWrite :=
  if prev = 0 then [] else [w]

/-- The table writes of a successful add, in order. -/
def addWrites (c : Cfg) (g : GenRule) : List TblWrite :=
  .copyRule g.tblEntry g.rule ::
    (linkWrite g.rule.prevIndex
      (.dma (prevRuleCmd c g.rule.prevIndex g.tblEntry)) ++
    (.copyIndx g.indxTblEntry ⟨g.tblEntry, 0⟩ ::
      (linkWrite g.indexSwRule.prevIndex
        (.dma (prevIndxCmd c g.indexSwRule.prevIndex g.indxTblEntry)) ++
      [.dma (enableCmd c g.tblEntry)])))

section Writes

variable {c : Cfg} (hg : c.Geometry)
include hg

omit hg in
theorem cellOf_write_link (s : Drv) (w : TblWrite) {prev : Nat}
    {cmd : DmaOne} :
    (if prev = 0 then s.write c w else (s.write c w).write c (.dma cmd)) =
      s.writes c (w :: linkWrite prev (.dma cmd)) := by
  unfold linkWrite
  split
  · rfl
  · simp only [Drv.write, Drv.writes, HwTbl.writes, List.foldl_cons,
      List.foldl_nil, List.append_assoc, List.singleton_append]

theorem copyIpv4RuleToHw_eq {s : Drv} {rule : NatRule} {entry : Nat}
    (he : IsBucket c entry ∨ IsCell c entry) :
    ipaNatiCopyIpv4RuleToHw c s true rule entry =
      s.writes c (.copyRule entry rule :: linkWrite rule.prevIndex
        (.dma (prevRuleCmd c rule.prevIndex entry))) := by
  rw [← cellOf_write_link]
  unfold ipaNatiCopyIpv4RuleToHw ipaNatiWriteNextIndex prevRuleCmd
  simp only [cellOf_entry hg he, if_true]
  split
  · rfl
  · split
    · next hlt => rw [if_neg (Nat.not_le.mpr hlt)]
    · next hge => rw [if_pos (Nat.not_lt.mp hge)]

theorem copyIpv4IndexRuleToHw_eq {s : Drv} {r : IndxSwRule} {entry : Nat}
    (he : IsBucket c entry ∨ IsCell c entry)
    (hq : r.prevIndex ≠ 0 → IsBucket c r.prevIndex ∨ IsCell c r.prevIndex) :
    ipaNatiCopyIpv4IndexRuleToHw c s true r entry =
      s.writes c (.copyIndx entry ⟨r.tblEntry, r.nextIndex⟩ ::
        linkWrite r.prevIndex
          (.dma (prevIndxCmd c r.prevIndex entry))) := by
  rw [← cellOf_write_link]
  have hbase := hg.base
  have hexpn := hg.expn
  have hoff : ∀ e, e < 16384 →
      (ipaNatiGetIndexEntryOffset c e % 65536 + indexRuleNextFieldOffset) % 65536 =
        add32 (ipaNatiGetIndexEntryOffset c e) indexRuleNextFieldOffset := by
    intro e he
    have hentry := indexEntryOffset_field hg (i := e) (f := 0) (by omega) (by omega)
    have hfield := indexEntryOffset_field hg (i := e) (f := 2) (by omega) (by omega)
    unfold indexTableEntrySize add32 indexRuleNextFieldOffset at *
    omega
  unfold ipaNatiCopyIpv4IndexRuleToHw ipaNatiWriteNextIndex prevIndxCmd
  simp only [cellOf_entry hg he, if_true]
  split
  · rfl
  · next hq0 =>
      split
      · next hlt =>
          rw [if_neg (Nat.not_le.mpr hlt), hoff _ (by omega)]
      · next hge =>
          have hcell : IsCell c r.prevIndex :=
            (hq hq0).resolve_left fun hb => hge hb.2
          rw [if_pos (Nat.not_lt.mp hge), sub16_cell hg hcell, hoff _ ?_]
          unfold IsCell at hcell
          omega

end Writes

/-! ## The tables after them -/

/-- The `next_index` of the previous entry, if there is one. -/
def HwTbl.linkRule (t : HwTbl) (p e : Nat) : HwTbl :=
  if p = 0 then t else t.modRule p fun r => { r with nextIndex := e }

def HwTbl.linkIndx (t : HwTbl) (q i : Nat) : HwTbl :=
  if q = 0 then t else t.modIndx q fun r => { r with nextIndex := i }

@[simp] theorem HwTbl.linkRule_indx (t : HwTbl) (p e : Nat) :
    (t.linkRule p e).indx = t.indx := by
  unfold HwTbl.linkRule
  split <;> rfl

@[simp] theorem HwTbl.linkIndx_rules (t : HwTbl) (q i : Nat) :
    (t.linkIndx q i).rules = t.rules := by
  unfold HwTbl.linkIndx
  split <;> rfl

theorem HwTbl.linkRule_self (t : HwTbl) {p e : Nat} (hp : p ≠ 0) :
    (t.linkRule p e).rules p = { t.rules p with nextIndex := e } := by
  rw [HwTbl.linkRule, if_neg hp, t.modRule_self]

theorem HwTbl.linkRule_of_ne (t : HwTbl) {p e x : Nat}
    (hx : p ≠ 0 → x ≠ p) : (t.linkRule p e).rules x = t.rules x := by
  unfold HwTbl.linkRule
  split
  · rfl
  · next hp => exact t.modRule_of_ne _ (hx hp)

theorem HwTbl.linkIndx_self (t : HwTbl) {q i : Nat} (hq : q ≠ 0) :
    (t.linkIndx q i).indx q = { t.indx q with nextIndex := i } := by
  rw [HwTbl.linkIndx, if_neg hq, t.modIndx_self]

theorem HwTbl.linkIndx_of_ne (t : HwTbl) {q i x : Nat}
    (hx : q ≠ 0 → x ≠ q) : (t.linkIndx q i).indx x = t.indx x := by
  unfold HwTbl.linkIndx
  split
  · rfl
  · next hq => exact t.modIndx_of_ne _ (hx hq)

section Placed

variable {c : Cfg} (hg : c.Geometry) {s : Drv} {tailR tailI : Nat → List Nat}
  (h : Inv c s tailR tailI) {clntRule : ClntRule} {g : GenRule}
  (hgen : Generated c s tailR tailI clntRule g)
include hg h hgen

namespace Generated

omit h in
theorem entry : IsBucket c g.tblEntry ∨ IsCell c g.tblEntry :=
  hgen.place.entry.elim (fun he => .inl (he ▸ dstOf_isBucket hg _)) .inr

omit h in
theorem indxEntry : IsBucket c g.indxTblEntry ∨ IsCell c g.indxTblEntry :=
  hgen.placeIndx.entry.elim (fun he => .inl (he ▸ srcOf_isBucket hg _)) .inr

theorem prev_occ (hp : g.rule.prevIndex ≠ 0) :
    (s.hw.rules g.rule.prevIndex).enable = true :=
  h.rules.chained.place_prev_occ (dstOf_isBucket hg _) hgen.place hp

theorem prev_ne (hp : g.rule.prevIndex ≠ 0) : g.rule.prevIndex ≠ g.tblEntry :=
  fun heq => hgen.place.not_occ (heq ▸ hgen.prev_occ hg h hp)

theorem indxPrev_occ (hq : g.indexSwRule.prevIndex ≠ 0) :
    (s.hw.indx g.indexSwRule.prevIndex).tblEntry ≠ 0 :=
  h.indx.chained.place_prev_occ (srcOf_isBucket hg _) hgen.placeIndx hq

theorem indxPrev_ne (hq : g.indexSwRule.prevIndex ≠ 0) :
    g.indexSwRule.prevIndex ≠ g.indxTblEntry :=
  fun heq => hgen.placeIndx.not_occ (heq ▸ hgen.indxPrev_occ hg h hq)

end Generated

end Placed

/-! ## The state after an add -/

theorem writes_linkRule {c : Cfg} (hg : c.Geometry) (t : HwTbl) {p e : Nat}
    (hp : p ≠ 0 → IsBucket c p ∨ IsCell c p) :
    t.writes c (linkWrite p (.dma (prevRuleCmd c p e))) = t.linkRule p e := by
  unfold linkWrite HwTbl.linkRule
  split
  · rfl
  · next hp0 => exact t.write_prevRuleCmd hg e (hp hp0)

theorem writes_linkIndx {c : Cfg} (hg : c.Geometry) (t : HwTbl) {q i : Nat}
    (hq : q ≠ 0 → IsBucket c q ∨ IsCell c q) :
    t.writes c (linkWrite q (.dma (prevIndxCmd c q i))) = t.linkIndx q i := by
  unfold linkWrite HwTbl.linkIndx
  split
  · rfl
  · next hq0 => exact t.write_prevIndxCmd hg i (hq hq0)

/-- The table memory after a successful add. -/
def HwTbl.added (t : HwTbl) (g : GenRule) : HwTbl :=
  let t := (t.modRule g.tblEntry fun _ => g.rule).linkRule g.rule.prevIndex
    g.tblEntry
  let t := (t.modIndx g.indxTblEntry fun _ => ⟨g.tblEntry, 0⟩).linkIndx
    g.indexSwRule.prevIndex g.indxTblEntry
  t.modRule g.tblEntry fun r => r.write16 18 flagEnableBitMask

section Added

variable {c : Cfg} (hg : c.Geometry) {s : Drv} {tailR tailI : Nat → List Nat}
  (h : Inv c s tailR tailI) {clntRule : ClntRule} {g : GenRule}
  (hgen : Generated c s tailR tailI clntRule g)
include hg h hgen

theorem writes_addWrites : s.hw.writes c (addWrites c g) = s.hw.added g := by
  unfold addWrites HwTbl.added
  rw [HwTbl.writes_cons, HwTbl.writes_append, HwTbl.writes_cons,
    HwTbl.writes_append, HwTbl.write_copyRule,
    writes_linkRule hg _ fun hp => h.rules.range _ (hgen.prev_occ hg h hp),
    HwTbl.write_copyIndx,
    writes_linkIndx hg _ fun hq => h.indx.range _ (hgen.indxPrev_occ hg h hq)]
  exact HwTbl.write_enableCmd hg _ (hgen.entry hg)

namespace Generated

theorem added_self : (s.hw.added g).rules g.tblEntry =
    g.rule.write16 18 flagEnableBitMask := by
  unfold HwTbl.added
  simp only [HwTbl.modRule_self, HwTbl.linkIndx_rules, HwTbl.modIndx_rules]
  rw [HwTbl.linkRule_of_ne, HwTbl.modRule_self]
  exact fun hp => (hgen.prev_ne hg h hp).symm

theorem added_prev (hp : g.rule.prevIndex ≠ 0) :
    (s.hw.added g).rules g.rule.prevIndex =
      { s.hw.rules g.rule.prevIndex with nextIndex := g.tblEntry } := by
  unfold HwTbl.added
  have hne := hgen.prev_ne hg h hp
  rw [HwTbl.modRule_of_ne _ _ hne, HwTbl.linkIndx_rules, HwTbl.modIndx_rules,
    HwTbl.linkRule_self _ hp, HwTbl.modRule_of_ne _ _ hne]

omit hg h hgen in
theorem added_other {x : Nat} (hx : x ≠ g.tblEntry)
    (hxp : g.rule.prevIndex ≠ 0 → x ≠ g.rule.prevIndex) :
    (s.hw.added g).rules x = s.hw.rules x := by
  unfold HwTbl.added
  rw [HwTbl.modRule_of_ne _ _ hx, HwTbl.linkIndx_rules, HwTbl.modIndx_rules,
    HwTbl.linkRule_of_ne _ hxp, HwTbl.modRule_of_ne _ _ hx]

theorem addedIndx_self :
    (s.hw.added g).indx g.indxTblEntry = ⟨g.tblEntry, 0⟩ := by
  unfold HwTbl.added
  rw [HwTbl.modRule_indx, HwTbl.linkIndx_of_ne, HwTbl.modIndx_self]
  exact fun hq => (hgen.indxPrev_ne hg h hq).symm

theorem addedIndx_prev (hq : g.indexSwRule.prevIndex ≠ 0) :
    (s.hw.added g).indx g.indexSwRule.prevIndex =
      { s.hw.indx g.indexSwRule.prevIndex with
        nextIndex := g.indxTblEntry } := by
  unfold HwTbl.added
  have hne := hgen.indxPrev_ne hg h hq
  rw [HwTbl.modRule_indx, HwTbl.linkIndx_self _ hq,
    HwTbl.modIndx_of_ne _ _ hne, HwTbl.linkRule_indx, HwTbl.modRule_indx]

omit hg h hgen in
theorem addedIndx_other {x : Nat} (hx : x ≠ g.indxTblEntry)
    (hxq : g.indexSwRule.prevIndex ≠ 0 → x ≠ g.indexSwRule.prevIndex) :
    (s.hw.added g).indx x = s.hw.indx x := by
  unfold HwTbl.added
  rw [HwTbl.modRule_indx, HwTbl.linkIndx_of_ne _ hxq,
    HwTbl.modIndx_of_ne _ _ hx, HwTbl.linkRule_indx, HwTbl.modRule_indx]

theorem added_body {x : Nat} (hx : x ≠ g.tblEntry) :
    ((s.hw.added g).rules x).body = (s.hw.rules x).body ∧
      ((s.hw.added g).rules x).indxTblEntry = (s.hw.rules x).indxTblEntry := by
  by_cases hxp : g.rule.prevIndex ≠ 0 ∧ x = g.rule.prevIndex
  · rw [hxp.2, hgen.added_prev hg h hxp.1]
    exact ⟨rfl, rfl⟩
  · rw [added_other hx fun hp0 hxp' => hxp ⟨hp0, hxp'⟩]
    exact ⟨rfl, rfl⟩

theorem addedIndx_tblEntry {x : Nat} (hx : x ≠ g.indxTblEntry) :
    ((s.hw.added g).indx x).tblEntry = (s.hw.indx x).tblEntry := by
  by_cases hxq : g.indexSwRule.prevIndex ≠ 0 ∧ x = g.indexSwRule.prevIndex
  · rw [hxq.2, hgen.addedIndx_prev hg h hxq.1]
  · rw [addedIndx_other hx fun hq0 hxq' => hxq ⟨hq0, hxq'⟩]

theorem added_new (hproto : clntRule.protocol ≠ invalidProtoFieldCmp)
    (hpdn : clntRule.pdnIndex < 16) :
    ((s.hw.added g).rules g.tblEntry).Live ∧
      ((s.hw.added g).rules g.tblEntry).clnt = clntRule ∧
      dstOf c ((s.hw.added g).rules g.tblEntry) =
        dstOf c (swRuleOf c clntRule) ∧
      srcOf c ((s.hw.added g).rules g.tblEntry) =
        srcOf c (swRuleOf c clntRule) := by
  rw [hgen.added_self hg h, NatRule.write16_enable]
  have hb := hgen.rule
  refine ⟨⟨rfl, ?_⟩, ?_, ?_, ?_⟩
  · rw [← show g.rule.protocol = clntRule.protocol from
      NatRule.protocol_of_body hb] at hproto
    exact hproto
  · have hclnt := NatRule.clnt_of_body hb
    simp only [NatRule.clnt, swRuleOf, Nat.mod_eq_of_lt hpdn] at hclnt ⊢
    exact hclnt
  · exact dstOf_of_body (c := c) hb
  · exact srcOf_of_body (c := c) hb

end Generated

end Added

/-! ## The call -/

/-- The state a successful add leaves: `k` is the slot of the new handle. -/
def addedState (c : Cfg) (s : Drv) (g : GenRule) (k : Nat) : Drv where
  hw := s.hw.added g
  indexExpnTableMeta := metaAfterAdd c s g
  ruleIdArray := Function.update s.ruleIdArray k (ruleIdOf c g.tblEntry)
  log := addWrites c g

/-- What it takes for the rule, the entries and the slot to be chosen. -/
structure Added (c : Cfg) (s : Drv) (tailR tailI : Nat → List Nat)
    (clntRule : ClntRule) (g : GenRule) (k : Nat) : Prop where
  gen : Generated c s tailR tailI clntRule g
  pdn : clntRule.pdnIndex < 16
  slot : k + 1 < c.tableEntries + c.expnTableEntries
  free : s.ruleIdArray k = 0

section Call

variable {c : Cfg} (hg : c.Geometry) {s : Drv} {tailR tailI : Nat → List Nat}
  (h : Inv c s tailR tailI)
include hg h

theorem makeRuleHdl_spec {e : Nat} (he : IsBucket c e ∨ IsCell c e)
    (hfree : ¬ (s.hw.rules e).Live) (s' : Drv)
    (hids : s'.ruleIdArray = s.ruleIdArray) :
    ∃ k, ipaNatiMakeRuleHdl c s' e = (k + 1, s'.setRuleId k (ruleIdOf c e)) ∧
      k + 1 < c.tableEntries + c.expnTableEntries ∧ s.ruleIdArray k = 0 := by
  have hused : ∀ n, (∀ k < n, s.ruleIdArray k ≠ 0) →
      n + 1 < c.tableEntries + c.expnTableEntries - 1 := fun n hn =>
    h.handles.used_lt hg (fun _ => h.rules.live_range) he hfree hn
  unfold ipaNatiMakeRuleHdl
  rw [hids]
  split
  · next k hk =>
      obtain ⟨hk0, -, hbefore⟩ := List.find?_range_eq_some.mp hk
      have hlt := hused k fun j hj => by simpa using hbefore j hj
      exact ⟨k, rfl, by omega, by simpa using hk0⟩
  · next hnone =>
      have hall := List.find?_eq_none.mp hnone
      have hlt := hused (c.tableEntries + c.expnTableEntries) fun k hk => by
        simpa using hall k (List.mem_range.mpr hk)
      omega

theorem ipaNatiAddIpv4Rule_spec (clntRule : ClntRule) :
    ipaNatiAddIpv4Rule c s .allOk clntRule =
        (.error .einval, { s with log := [] }) ∨
      ∃ g k, Added c s tailR tailI clntRule g k ∧
        ipaNatiAddIpv4Rule c s .allOk clntRule =
          (.ok (k + 1), addedState c s g k) := by
  unfold ipaNatiAddIpv4Rule
  simp only
  split
  · exact .inl rfl
  · next hvalid =>
      simp only [ge_iff_le, not_or, Nat.not_le] at hvalid
      have hpdn : clntRule.pdnIndex < 16 :=
        Nat.lt_of_lt_of_le hvalid.1 hg.pdn
      have h' : Inv c { s with log := [] } tailR tailI :=
        ⟨h.rules, h.busy, h.indx, h.linked, h.handles⟩
      rcases generateRule_spec hg h' clntRule hpdn with
        heq | ⟨g, heq, hgen⟩
      · rw [heq]
        exact .inl rfl
      · have he := hgen.entry hg
        have hi := hgen.indxEntry hg
        have hfree : ¬ (s.hw.rules g.tblEntry).Live := fun hl =>
          hgen.place.not_occ hl.1
        rw [heq]
        simp only [AddDma.allOk]
        rw [copyIpv4RuleToHw_eq hg he, copyIpv4IndexRuleToHw_eq hg hi fun hq =>
          h.indx.range _ (hgen.indxPrev_occ hg h' hq)]
        simp only [ipaNatiPostIpv4DmaCmd, if_true]
        have hone : ∀ (s : Drv) (w : TblWrite),
            s.write c w = s.writes c [w] := fun _ _ => rfl
        rw [hone, Drv.writes_append, Drv.writes_append]
        have hgen' : Generated c s tailR tailI clntRule g :=
          ⟨hgen.place, hgen.placeIndx, hgen.rule, hgen.next,
            hgen.indxTblEntry, hgen.indexSwRule⟩
        have hws : (.copyRule g.tblEntry g.rule :: linkWrite g.rule.prevIndex
            (.dma (prevRuleCmd c g.rule.prevIndex g.tblEntry))) ++
            ((.copyIndx g.indxTblEntry ⟨g.indexSwRule.tblEntry,
              g.indexSwRule.nextIndex⟩ ::
              linkWrite g.indexSwRule.prevIndex
                (.dma (prevIndxCmd c g.indexSwRule.prevIndex
                  g.indxTblEntry))) ++
            [.dma (enableCmd c g.tblEntry)]) = addWrites c g := by
          rw [hgen.indexSwRule]
          simp only [addWrites, List.cons_append]
        rw [hws]
        obtain ⟨k, hmk, hlt, hk0⟩ := makeRuleHdl_spec hg h he hfree
          (Drv.writes c { s with
            indexExpnTableMeta := metaAfterAdd c { s with log := [] } g,
            log := [] } (addWrites c g)) rfl
        rw [hmk]
        refine .inr ⟨g, k, ⟨hgen', hpdn, hlt, hk0⟩, ?_⟩
        simp only [Nat.add_eq_zero_iff, Nat.one_ne_zero, and_false, if_false,
          addedState, ← writes_addWrites hg h hgen', Drv.setRuleId, Drv.writes,
          List.nil_append]
        rfl

omit h in
theorem Generated.metaAfterAdd_eq {clntRule : ClntRule} {g : GenRule}
    (hgen : Generated c s tailR tailI clntRule g) :
    (g.indexSwRule.prevIndex ≠ 0 →
      metaAfterAdd c s g (g.indxTblEntry - c.tableEntries) =
        g.indexSwRule.prevIndex) ∧
    ∀ x, IsCell c x → x ≠ g.indxTblEntry →
      metaAfterAdd c s g (x - c.tableEntries) =
        s.indexExpnTableMeta (x - c.tableEntries) := by
  have hi := hgen.indxEntry hg
  unfold metaAfterAdd
  constructor
  · intro hq
    have hcell := hgen.placeIndx.cell hq
    rw [if_pos (Nat.le_of_lt hcell.1), sub16_cell hg hcell,
      Function.update_self]
  · intro x hx hxi
    split
    · next hge =>
        have hcell : IsCell c g.indxTblEntry :=
          hi.resolve_left fun hb => absurd hb.2 (Nat.not_lt.mpr hge)
        rw [sub16_cell hg hcell,
          Function.update_of_ne (sub_cell_ne hx hcell hxi)]
    · rfl

theorem Added.inv {clntRule : ClntRule} {g : GenRule} {k : Nat}
    (hadd : Added c s tailR tailI clntRule g k)
    (hproto : clntRule.protocol ≠ invalidProtoFieldCmp) :
    ∃ tailR' tailI', Inv c (addedState c s g k) tailR' tailI' ∧
      KeepsBut g.tblEntry tailR tailR' ∧
      KeepsBut g.indxTblEntry tailI tailI' := by
  have hgen := hadd.gen
  have he := hgen.entry hg
  have hnew := hgen.added_new hg h hproto hadd.pdn
  have hself := hgen.added_self hg h
  rw [NatRule.write16_enable] at hself
  have hfree : ¬ (s.hw.rules g.tblEntry).Live := fun hl =>
    hgen.place.not_occ hl.1
  have hlive : ∀ x, ((s.hw.added g).rules x).Live ↔
      (s.hw.rules x).Live ∨ x = g.tblEntry := by
    intro x
    rcases eq_or_ne x g.tblEntry with rfl | hx
    · exact iff_of_true hnew.1 (.inr rfl)
    · rw [NatRule.live_of_body (hgen.added_body hg h hx).1]
      exact (or_iff_left hx).symm
  obtain ⟨tailR', hR, hkeepR⟩ := h.rules.add (s.hw.added g).rules
    (dstOf_isBucket hg _) hgen.place hnew.1 hnew.2.2.1
    (by rw [hself, ← hgen.next])
    (fun _ => by rw [hself]) (hgen.added_prev hg h)
    fun x hx hxp => Generated.added_other hx hxp
  obtain ⟨hback, hbacks⟩ := hgen.metaAfterAdd_eq hg
  obtain ⟨tailI', hI, hmem, hkeepI⟩ := h.indx.add (s.hw.added g).indx
    (metaAfterAdd c s g) (e := g.tblEntry)
    (by unfold IsBucket IsCell at he; omega) (srcOf_isBucket hg _)
    hgen.placeIndx (hgen.addedIndx_self hg h) (hgen.addedIndx_prev hg h)
    (fun x hx hxq => Generated.addedIndx_other hx hxq) hback hbacks
  have hindx : ((s.hw.added g).rules g.tblEntry).indxTblEntry =
      g.indxTblEntry := by
    rw [hself]
    exact hgen.indxTblEntry
  refine ⟨tailR', tailI', ⟨hR, fun x hen hp => ?_, hI, ?_, ?_⟩, hkeepR, hkeepI⟩
  · have hx : x ≠ g.tblEntry := by
      rintro rfl
      exact hnew.1.2 hp
    have hb := (hgen.added_body hg h hx).1
    have hold := h.busy x (NatRule.enable_of_body hb ▸ hen)
      (NatRule.protocol_of_body hb ▸ hp)
    show ((s.hw.added g).rules x).nextIndex ≠ 0
    by_cases hxp : g.rule.prevIndex ≠ 0 ∧ x = g.rule.prevIndex
    · rw [hxp.2, hgen.added_prev hg h hxp.1]
      unfold IsBucket IsCell at he
      simp only
      omega
    · rwa [Generated.added_other hx fun hp0 hxp' => hxp ⟨hp0, hxp'⟩]
  · refine h.linked.add (e := g.tblEntry) (fun _ => h.live_ne_zero) hfree
      (not_not.mp hgen.placeIndx.not_occ) hnew.1 hindx ?_
      (fun x hx => hgen.added_body hg h hx)
      (congrArg IndxRule.tblEntry (hgen.addedIndx_self hg h))
      (fun x hx => hgen.addedIndx_tblEntry hg h hx) hkeepI
    show g.indxTblEntry ∈ srcOf c ((s.hw.added g).rules g.tblEntry) ::
      tailI' (srcOf c ((s.hw.added g).rules g.tblEntry))
    rw [hnew.2.2.2]
    exact hmem
  · exact h.handles.add hg (fun _ => h.rules.live_range) he hfree hadd.slot
      hadd.free hlive

end Call

end Axon7.IpaNat
