import Axon7.IpaNat.RuleTable

/-!
# The index tables and what they name

The chains of the index table and its expansion, whose back links are in
`index_expn_table_meta`, and the correspondence between index entries and live
rules. The head of an index list is deleted by moving its successor into it,
so seen from the chains it is the successor that goes.
-/

namespace Axon7.IpaNat

open Axon7.Lib

/-- The chains of the index tables. `backs` is `index_expn_table_meta`, which
has no entries for the base table. -/
structure IndxChains (c : Cfg) (indx : Nat → IndxRule) (backs : Nat → Nat)
    (tail : Nat → List Nat) : Prop where
  chained : Chained 0 (IsBucket c) (IsCell c) (fun i => (indx i).tblEntry ≠ 0)
    (fun i => (indx i).nextIndex) (fun i => backs (i - c.tableEntries)) tail
  clear : ∀ i, (indx i).tblEntry = 0 → indx i = .zero
  range : ∀ i, (indx i).tblEntry ≠ 0 → IsBucket c i ∨ IsCell c i

/-- Live rules and index entries name each other, and a rule's index entry is
on the chain of its bucket. -/
structure Linked (c : Cfg) (rules : Nat → NatRule) (indx : Nat → IndxRule)
    (tail : Nat → List Nat) : Prop where
  named : ∀ e, (rules e).Live → (indx (rules e).indxTblEntry).tblEntry = e
  home : ∀ e, (rules e).Live →
    (rules e).indxTblEntry ∈ srcOf c (rules e) :: tail (srcOf c (rules e))
  live : ∀ i, (indx i).tblEntry ≠ 0 → (rules (indx i).tblEntry).Live
  back : ∀ i, (indx i).tblEntry ≠ 0 →
    (rules (indx i).tblEntry).indxTblEntry = i

theorem sub_cell_ne {c : Cfg} {x y : Nat} (hx : IsCell c x) (hy : IsCell c y)
    (hne : x ≠ y) : x - c.tableEntries ≠ y - c.tableEntries := by
  unfold IsCell at hx hy
  omega

namespace IndxChains

variable {c : Cfg} {indx indx' : Nat → IndxRule} {backs backs' : Nat → Nat}
  {tail : Nat → List Nat} (h : IndxChains c indx backs tail)
include h

theorem next_cell {b i : Nat} (hb : IsBucket c b) (hi : i ∈ b :: tail b)
    (hne : (indx i).nextIndex ≠ 0) :
    IsCell c (indx i).nextIndex ∧ (indx (indx i).nextIndex).tblEntry ≠ 0 ∧
      backs ((indx i).nextIndex - c.tableEntries) = i ∧
      (indx i).nextIndex ≠ i := by
  obtain ⟨hmem, hprev, hself⟩ := h.chained.next_mem hb hi hne
  obtain ⟨hcell, hocc⟩ := h.chained.cells b _ hb hmem
  exact ⟨hcell, hocc, hprev, hself⟩

theorem add (indx' : Nat → IndxRule) (backs' : Nat → Nat) {b q i e : Nat}
    (he : e ≠ 0) (hb : IsBucket c b)
    (hpl : Place 0 (IsCell c) (fun i => (indx i).tblEntry ≠ 0)
      (fun i => (indx i).nextIndex) tail b q i)
    (hi : indx' i = ⟨e, 0⟩)
    (hq : q ≠ 0 → indx' q = { indx q with nextIndex := i })
    (hx : ∀ x, x ≠ i → (q ≠ 0 → x ≠ q) → indx' x = indx x)
    (hback : q ≠ 0 → backs' (i - c.tableEntries) = q)
    (hbacks : ∀ x, IsCell c x → x ≠ i →
      backs' (x - c.tableEntries) = backs (x - c.tableEntries)) :
    ∃ tail', IndxChains c indx' backs' tail' ∧ i ∈ b :: tail' b ∧
      KeepsBut i tail tail' := by
  have hqocc := h.chained.place_prev_occ hb hpl
  have hte : ∀ x, x ≠ i → (indx' x).tblEntry = (indx x).tblEntry := by
    intro x hxi
    by_cases hxq : q ≠ 0 ∧ x = q
    · rw [hxq.2, hq hxq.1]
    · rw [hx x hxi fun hq0 hxq' => hxq ⟨hq0, hxq'⟩]
  obtain ⟨tail', hch, hmem, hkeep⟩ := h.chained.place
    (fun i => (indx' i).tblEntry ≠ 0) (fun i => (indx' i).nextIndex)
    (fun i => backs' (i - c.tableEntries)) isBucket_not_isCell hb hpl
    (by simp only [hi])
    (fun hq0 => by simp only [hq hq0])
    (fun x hxi hxq => by simp only [hx x hxi hxq]) hback hbacks
    (fun x _ => by
      rcases eq_or_ne x i with rfl | hxi
      · simp only [hi, ne_eq, he, not_false_eq_true, or_true]
      · simp only [hte x hxi, hxi, or_false])
  refine ⟨tail', ⟨hch, fun x hx0 => ?_, fun x hx0 => ?_⟩, hmem,
    fun b' x _ hmem => hkeep b' x hmem⟩
  · have hxi : x ≠ i := by
      rintro rfl
      rw [hi] at hx0
      exact he hx0
    rw [hte x hxi] at hx0
    rw [hx x hxi]
    · exact h.clear x hx0
    · rintro hq0 rfl
      exact hqocc hq0 hx0
  · rcases eq_or_ne x i with rfl | hxi
    · exact hpl.entry.elim (fun hxb => .inl (hxb ▸ hb)) .inr
    · rw [hte x hxi] at hx0
      exact h.range x hx0

theorem del_only {i : Nat} (hb : IsBucket c i)
    (hnext : (indx i).nextIndex = 0) (hi : indx' i = .zero)
    (hx : ∀ x, x ≠ i → indx' x = indx x) :
    ∃ tail', IndxChains c indx' backs tail' ∧ KeepsBut i tail tail' := by
  have hti := (h.chained.tail_nil_iff hb).mpr hnext
  have hcell : ∀ x, IsCell c x → x ≠ i := fun x hxc hxi =>
    isBucket_not_isCell i hb (hxi ▸ hxc)
  refine ⟨tail, ⟨?_, fun x hx0 => ?_, fun x hx0 => ?_⟩, fun _ _ _ => id⟩
  · have hlinks : Chained 0 (IsBucket c) (IsCell c)
        (fun i => (indx i).tblEntry ≠ 0) (fun i => (indx' i).nextIndex)
        (fun i => backs (i - c.tableEntries)) tail := by
      refine h.chained.congr (fun _ _ => Iff.rfl) (fun x _ => ?_)
        fun _ _ _ => rfl
      rcases eq_or_ne x i with rfl | hxi
      · rw [hi, hnext]
        rfl
      · rw [hx x hxi]
    refine hlinks.reoccupy (fun x hxc => ?_) fun b hb' ht => ?_
    · rw [hx x (hcell x hxc)]
    · have hbi : b ≠ i := fun hbi => ht (hbi ▸ hti)
      rw [hx b hbi]
      exact fun hv => ht (h.chained.vacant b hb' (not_not_intro hv))
  · rcases eq_or_ne x i with rfl | hxi
    · exact hi
    · rw [hx x hxi] at hx0 ⊢
      exact h.clear x hx0
  · have hxi : x ≠ i := by
      rintro rfl
      rw [hi] at hx0
      exact hx0 rfl
    rw [hx x hxi] at hx0
    exact h.range x hx0

theorem del_cell (backs' : Nat → Nat) {b i : Nat} (hb : IsBucket c b) (hmem : i ∈ tail b)
    (hi : indx' i = .zero)
    (hq : indx' (backs (i - c.tableEntries)) =
      { indx (backs (i - c.tableEntries)) with
        nextIndex := (indx i).nextIndex })
    (hx : ∀ x, x ≠ i → x ≠ backs (i - c.tableEntries) → indx' x = indx x)
    (hback : (indx i).nextIndex ≠ 0 →
      backs' ((indx i).nextIndex - c.tableEntries) =
        backs (i - c.tableEntries))
    (hbacks : ∀ x, IsCell c x → x ≠ i → x ≠ (indx i).nextIndex →
      backs' (x - c.tableEntries) = backs (x - c.tableEntries)) :
    ∃ tail', IndxChains c indx' backs' tail' ∧ KeepsBut i tail tail' := by
  have hqocc : (indx (backs (i - c.tableEntries))).tblEntry ≠ 0 := by
    obtain ⟨hqm, -⟩ := h.chained.back b i hb hmem
    rcases List.mem_cons.mp hqm with hqb | hqt
    · rw [hqb]
      exact h.chained.occ_head hb hmem
    · exact (h.chained.cells b _ hb hqt).2
  have hte : ∀ x, x ≠ i → (indx' x).tblEntry = (indx x).tblEntry := by
    intro x hxi
    by_cases hxq : x = backs (i - c.tableEntries)
    · rw [hxq, hq]
    · rw [hx x hxi hxq]
  obtain ⟨tail', hch, hkeep⟩ := h.chained.remove
    (fun i => (indx' i).tblEntry ≠ 0) (fun i => (indx' i).nextIndex)
    (fun i => backs' (i - c.tableEntries)) isBucket_not_isCell hb hmem
    (by simp only [hq]) (fun x hxq hxi => by simp only [hx x hxi hxq]) hback
    hbacks
    (fun x _ => by
      rcases eq_or_ne x i with rfl | hxi
      · simp only [hi, IndxRule.zero, ne_eq, not_true_eq_false, and_false]
      · simp only [hte x hxi, ne_eq, hxi, not_false_eq_true, and_true])
  refine ⟨tail', ⟨hch, fun x hx0 => ?_, fun x hx0 => ?_⟩, hkeep⟩
  · rcases eq_or_ne x i with rfl | hxi
    · exact hi
    · rw [hte x hxi] at hx0
      rw [hx x hxi]
      · exact h.clear x hx0
      · rintro rfl
        exact hqocc hx0
  · have hxi : x ≠ i := by
      rintro rfl
      rw [hi] at hx0
      exact hx0 rfl
    rw [hte x hxi] at hx0
    exact h.range x hx0

theorem del_head (backs' : Nat → Nat) {i : Nat} (hb : IsBucket c i)
    (hne : (indx i).nextIndex ≠ 0)
    (hi : indx' i = indx (indx i).nextIndex)
    (hn : indx' (indx i).nextIndex = .zero)
    (hx : ∀ x, x ≠ i → x ≠ (indx i).nextIndex → indx' x = indx x)
    (hback : (indx (indx i).nextIndex).nextIndex ≠ 0 →
      backs' ((indx (indx i).nextIndex).nextIndex - c.tableEntries) = i)
    (hbacks : ∀ x, IsCell c x → x ≠ (indx i).nextIndex →
      x ≠ (indx (indx i).nextIndex).nextIndex →
      backs' (x - c.tableEntries) = backs (x - c.tableEntries)) :
    ∃ tail', IndxChains c indx' backs' tail' ∧
      KeepsBut (indx i).nextIndex tail tail' := by
  obtain ⟨hmem, hprev, hself⟩ := h.chained.next_mem hb List.mem_cons_self hne
  obtain ⟨hncell, hnocc⟩ := h.chained.cells i _ hb hmem
  obtain ⟨tail', hch, hkeep⟩ := h.chained.remove
    (fun i => (indx' i).tblEntry ≠ 0) (fun i => (indx' i).nextIndex)
    (fun i => backs' (i - c.tableEntries)) isBucket_not_isCell hb hmem
    (by simp only [hprev, hi])
    (fun x hxp hxn => by
      simp only [hprev] at hxp
      simp only [hx x hxp hxn])
    (fun hnn => by rw [hprev, hback hnn]) hbacks
    (fun x hxe => by
      rcases eq_or_ne x (indx i).nextIndex with rfl | hxn
      · simp only [hn, IndxRule.zero, ne_eq, not_true_eq_false, and_false]
      · rcases eq_or_ne x i with rfl | hxi
        · have hocc := h.chained.occ_head hb hmem
          simp only [hi, ne_eq, hxn, not_false_eq_true, and_true, hocc, hnocc]
        · simp only [hx x hxi hxn, ne_eq, hxn, not_false_eq_true, and_true])
  refine ⟨tail', ⟨hch, fun x hx0 => ?_, fun x hx0 => ?_⟩, hkeep⟩
  · rcases eq_or_ne x (indx i).nextIndex with rfl | hxn
    · exact hn
    · rcases eq_or_ne x i with rfl | hxi
      · rw [hi] at hx0
        exact absurd hx0 hnocc
      · rw [hx x hxi hxn] at hx0 ⊢
        exact h.clear x hx0
  · have hxn : x ≠ (indx i).nextIndex := by
      rintro rfl
      rw [hn] at hx0
      exact hx0 rfl
    rcases eq_or_ne x i with rfl | hxi
    · exact .inl hb
    · rw [hx x hxi hxn] at hx0
      exact h.range x hx0

end IndxChains

/-! ## Names -/

namespace Linked

variable {c : Cfg} {rules rules' : Nat → NatRule}
  {indx indx' : Nat → IndxRule} {tail tail' : Nat → List Nat}
  (h : Linked c rules indx tail)
include h

theorem congr_live (hlive : ∀ x, (rules x).Live → rules' x = rules x)
    (hdead : ∀ x, (rules' x).Live → (rules x).Live) :
    Linked c rules' indx tail := by
  have heq : ∀ x, (rules' x).Live → (rules x).Live ∧ rules' x = rules x :=
    fun x hx => ⟨hdead x hx, hlive x (hdead x hx)⟩
  refine ⟨fun x hx => ?_, fun x hx => ?_, fun i hi => ?_, fun i hi => ?_⟩
  · rw [(heq x hx).2]
    exact h.named x (heq x hx).1
  · rw [(heq x hx).2]
    exact h.home x (heq x hx).1
  · rw [hlive _ (h.live i hi)]
    exact h.live i hi
  · rw [hlive _ (h.live i hi)]
    exact h.back i hi

theorem add {e i : Nat} (hpos : ∀ x, (rules x).Live → x ≠ 0)
    (hfree : ¬ (rules e).Live) (hi : (indx i).tblEntry = 0)
    (hlive : (rules' e).Live) (he : (rules' e).indxTblEntry = i)
    (hmem : i ∈ srcOf c (rules' e) :: tail' (srcOf c (rules' e)))
    (hbody : ∀ x, x ≠ e → (rules' x).body = (rules x).body ∧
      (rules' x).indxTblEntry = (rules x).indxTblEntry)
    (hi' : (indx' i).tblEntry = e)
    (hindx : ∀ x, x ≠ i → (indx' x).tblEntry = (indx x).tblEntry)
    (hkeep : KeepsBut i tail tail') : Linked c rules' indx' tail' := by
  have hold : ∀ x, x ≠ e → (rules' x).Live →
      (rules x).Live ∧ (rules x).indxTblEntry ≠ i := by
    intro x hxe hxl
    have hxl := (NatRule.live_of_body (hbody x hxe).1).mp hxl
    refine ⟨hxl, fun hxi => hpos x hxl ?_⟩
    rw [← h.named x hxl, hxi, hi]
  have hname : ∀ j, j ≠ i → (indx' j).tblEntry ≠ 0 →
      (indx j).tblEntry ≠ 0 ∧ (indx' j).tblEntry = (indx j).tblEntry ∧
      (indx j).tblEntry ≠ e := by
    intro j hji hj
    have hjeq := hindx j hji
    rw [hjeq] at hj
    refine ⟨hj, hjeq, fun hje => hfree ?_⟩
    rw [← hje]
    exact h.live j hj
  refine ⟨fun x hxl => ?_, fun x hxl => ?_, fun j hj => ?_, fun j hj => ?_⟩
  · rcases eq_or_ne x e with rfl | hxe
    · rw [he, hi']
    · obtain ⟨hxl', hxi⟩ := hold x hxe hxl
      rw [(hbody x hxe).2, hindx _ hxi]
      exact h.named x hxl'
  · rcases eq_or_ne x e with rfl | hxe
    · rw [he]
      exact hmem
    · obtain ⟨hxl', hxi⟩ := hold x hxe hxl
      rw [(hbody x hxe).2, srcOf_of_body (hbody x hxe).1]
      exact hkeep _ _ hxi (h.home x hxl')
  · rcases eq_or_ne j i with rfl | hji
    · rwa [hi']
    · obtain ⟨hj', heq, hne⟩ := hname j hji hj
      rw [heq, NatRule.live_of_body (hbody _ hne).1]
      exact h.live j hj'
  · rcases eq_or_ne j i with rfl | hji
    · rw [hi', he]
    · obtain ⟨hj', heq, hne⟩ := hname j hji hj
      rw [heq, (hbody _ hne).2]
      exact h.back j hj'

section Del

variable {e : Nat} (he : (rules e).Live) (hdead : ¬ (rules' e).Live)
include he hdead

theorem del
    (hbody : ∀ x, x ≠ e → (rules' x).body = (rules x).body ∧
      (rules' x).indxTblEntry = (rules x).indxTblEntry)
    (hi : (indx' (rules e).indxTblEntry).tblEntry = 0)
    (hindx : ∀ x, x ≠ (rules e).indxTblEntry →
      (indx' x).tblEntry = (indx x).tblEntry)
    (hkeep : KeepsBut (rules e).indxTblEntry tail tail') :
    Linked c rules' indx' tail' := by
  have hold : ∀ x, (rules' x).Live → x ≠ e ∧ (rules x).Live ∧
      (rules x).indxTblEntry ≠ (rules e).indxTblEntry := by
    intro x hxl
    have hxe : x ≠ e := by
      rintro rfl
      exact hdead hxl
    have hxl := (NatRule.live_of_body (hbody x hxe).1).mp hxl
    refine ⟨hxe, hxl, fun hxi => hxe ?_⟩
    rw [← h.named x hxl, hxi, h.named e he]
  have hname : ∀ j, (indx' j).tblEntry ≠ 0 →
      (indx j).tblEntry ≠ 0 ∧ (indx' j).tblEntry = (indx j).tblEntry ∧
      (indx j).tblEntry ≠ e := by
    intro j hj
    have hji : j ≠ (rules e).indxTblEntry := by
      rintro rfl
      exact hj hi
    have hjeq := hindx j hji
    rw [hjeq] at hj
    refine ⟨hj, hjeq, fun hje => hji ?_⟩
    rw [← hje, h.back j hj]
  refine ⟨fun x hxl => ?_, fun x hxl => ?_, fun j hj => ?_, fun j hj => ?_⟩
  · obtain ⟨hxe, hxl', hxi⟩ := hold x hxl
    rw [(hbody x hxe).2, hindx _ hxi]
    exact h.named x hxl'
  · obtain ⟨hxe, hxl', hxi⟩ := hold x hxl
    rw [(hbody x hxe).2, srcOf_of_body (hbody x hxe).1]
    exact hkeep _ _ hxi (h.home x hxl')
  · obtain ⟨hj', heq, hne⟩ := hname j hj
    rw [heq, NatRule.live_of_body (hbody _ hne).1]
    exact h.live j hj'
  · obtain ⟨hj', heq, hne⟩ := hname j hj
    rw [heq, (hbody _ hne).2]
    exact h.back j hj'

theorem del_move {n : Nat} (hn : (indx n).tblEntry ≠ 0)
    (hni : n ≠ (rules e).indxTblEntry)
    (hbody : ∀ x, x ≠ e → (rules' x).body = (rules x).body ∧
      (x ≠ (indx n).tblEntry →
        (rules' x).indxTblEntry = (rules x).indxTblEntry))
    (hmoved : (rules' (indx n).tblEntry).indxTblEntry =
      (rules e).indxTblEntry)
    (hsrc : srcOf c (rules (indx n).tblEntry) = (rules e).indxTblEntry)
    (hi : (indx' (rules e).indxTblEntry).tblEntry = (indx n).tblEntry)
    (hn' : (indx' n).tblEntry = 0)
    (hindx : ∀ x, x ≠ (rules e).indxTblEntry → x ≠ n →
      (indx' x).tblEntry = (indx x).tblEntry)
    (hkeep : KeepsBut n tail tail') : Linked c rules' indx' tail' := by
  have hm := h.live n hn
  have hme : (indx n).tblEntry ≠ e := by
    intro hme
    have hback := h.back n hn
    rw [hme] at hback
    exact hni hback.symm
  have hold : ∀ x, (rules' x).Live → x ≠ (indx n).tblEntry → x ≠ e ∧
      (rules x).Live ∧ (rules x).indxTblEntry ≠ (rules e).indxTblEntry ∧
      (rules x).indxTblEntry ≠ n := by
    intro x hxl hxm
    have hxe : x ≠ e := by
      rintro rfl
      exact hdead hxl
    have hxl := (NatRule.live_of_body (hbody x hxe).1).mp hxl
    refine ⟨hxe, hxl, fun hxi => hxe ?_, fun hxn => hxm ?_⟩
    · rw [← h.named x hxl, hxi, h.named e he]
    · rw [← h.named x hxl, hxn]
  have hname : ∀ j, (indx' j).tblEntry ≠ 0 → j ≠ (rules e).indxTblEntry →
      (indx j).tblEntry ≠ 0 ∧ (indx' j).tblEntry = (indx j).tblEntry ∧
      (indx j).tblEntry ≠ e ∧ (indx j).tblEntry ≠ (indx n).tblEntry := by
    intro j hj hji
    have hjn : j ≠ n := by
      rintro rfl
      exact hj hn'
    have hjeq := hindx j hji hjn
    rw [hjeq] at hj
    have hback := h.back j hj
    refine ⟨hj, hjeq, fun hje => hji ?_, fun hjm => hjn ?_⟩
    · rw [← hje, hback]
    · rw [← h.back n hn, ← hjm, hback]
  refine ⟨fun x hxl => ?_, fun x hxl => ?_, fun j hj => ?_, fun j hj => ?_⟩
  · rcases eq_or_ne x (indx n).tblEntry with rfl | hxm
    · rw [hmoved, hi]
    · obtain ⟨hxe, hxl', hxi, hxn⟩ := hold x hxl hxm
      rw [(hbody x hxe).2 hxm, hindx _ hxi hxn]
      exact h.named x hxl'
  · rcases eq_or_ne x (indx n).tblEntry with rfl | hxm
    · rw [hmoved, srcOf_of_body (hbody _ hme).1, hsrc]
      exact List.mem_cons_self
    · obtain ⟨hxe, hxl', hxi, hxn⟩ := hold x hxl hxm
      rw [(hbody x hxe).2 hxm, srcOf_of_body (hbody x hxe).1]
      exact hkeep _ _ hxn (h.home x hxl')
  · rcases eq_or_ne j (rules e).indxTblEntry with rfl | hji
    · rw [hi, NatRule.live_of_body (hbody _ hme).1]
      exact hm
    · obtain ⟨hj', heq, hne, -⟩ := hname j hj hji
      rw [heq, NatRule.live_of_body (hbody _ hne).1]
      exact h.live j hj'
  · rcases eq_or_ne j (rules e).indxTblEntry with rfl | hji
    · rw [hi, hmoved]
    · obtain ⟨hj', heq, hne, hnm⟩ := hname j hj hji
      rw [heq, (hbody _ hne).2 hnm]
      exact h.back j hj'

end Del

end Linked

end Axon7.IpaNat
