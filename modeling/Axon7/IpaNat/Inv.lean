import Axon7.IpaNat.IndexTable

/-!
# The invariant of the driver

The chains of both tables, the correspondence between rules and index entries,
and the handles: every non-zero slot of `rule_id_array` is the id of a live
rule, every live rule has one slot, and that slot's number is small enough for
the parser, because there are fewer rules than slots.
-/

namespace Axon7.IpaNat

open Axon7.Lib

/-! ## Rule ids -/

section RuleId

variable {c : Cfg} (hg : c.Geometry)
include hg

theorem ruleIdOf_eq {e : Nat} (he : IsBucket c e ∨ IsCell c e) :
    ruleIdOf c e = if e < c.tableEntries then 2 * e
      else 2 * (e - c.tableEntries) + 1 := by
  have hlt := isEntry_lt hg he
  unfold ruleIdOf
  rcases he with he | he
  · rw [if_neg (Nat.not_le.mpr he.2), if_pos he.2]
    omega
  · have hge : c.tableEntries ≤ e := Nat.le_of_lt he.1
    rw [if_pos hge, if_neg (Nat.not_lt.mpr hge), sub16_cell hg he,
      Nat.mod_eq_of_lt (by omega), Nat.mul_comm]
    exact (Nat.two_pow_add_eq_or_of_lt (i := 1) (by omega) _).symm

theorem ruleIdOf_ne_zero {e : Nat} (he : IsBucket c e ∨ IsCell c e) :
    ruleIdOf c e ≠ 0 := by
  rw [ruleIdOf_eq hg he]
  unfold IsBucket IsCell at he
  split <;> omega

theorem ruleIdOf_inj {e e' : Nat} (he : IsBucket c e ∨ IsCell c e)
    (he' : IsBucket c e' ∨ IsCell c e') (h : ruleIdOf c e = ruleIdOf c e') :
    e = e' := by
  rw [ruleIdOf_eq hg he, ruleIdOf_eq hg he'] at h
  split at h <;> split at h <;> omega

theorem cellIn_ruleIdOf {e : Nat} (he : IsBucket c e ∨ IsCell c e) :
    cellIn c (ruleIdOf c e % 2 == 1) (ruleIdOf c e / 2) = e ∧
      ruleIdOf c e / 2 ≠ 0 := by
  rw [ruleIdOf_eq hg he]
  unfold cellIn
  rcases he with he | he
  · rw [if_pos he.2]
    have hm : 2 * e % 2 = 0 := by omega
    have hd : 2 * e / 2 = e := by omega
    rw [hm, hd]
    exact ⟨rfl, Nat.pos_iff_ne_zero.mp he.1⟩
  · have hge : c.tableEntries < e := he.1
    rw [if_neg (Nat.not_lt.mpr (Nat.le_of_lt hge))]
    have hm : (2 * (e - c.tableEntries) + 1) % 2 = 1 := by omega
    have hd : (2 * (e - c.tableEntries) + 1) / 2 = e - c.tableEntries := by
      omega
    rw [hm, hd]
    simp only [beq_self_eq_true, if_true]
    omega

end RuleId

/-! ## Handles -/

/-- Slot `k` of `rule_id_array` belongs to the handle `k + 1`. -/
structure Handles (c : Cfg) (ids : Nat → Nat) (live : Nat → Prop) : Prop where
  held : ∀ k, ids k ≠ 0 → ∃ e, live e ∧ ids k = ruleIdOf c e
  inj : ∀ k k', ids k ≠ 0 → ids k = ids k' → k = k'
  slot : ∀ e, live e →
    ∃ k, k + 1 < c.tableEntries + c.expnTableEntries ∧ ids k = ruleIdOf c e

namespace Handles

variable {c : Cfg} {ids : Nat → Nat} {live live' : Nat → Prop}
  (h : Handles c ids live)
include h

theorem lt {k : Nat} (hk : ids k ≠ 0) :
    k + 1 < c.tableEntries + c.expnTableEntries := by
  obtain ⟨e, he, hid⟩ := h.held k hk
  obtain ⟨k', hlt, hid'⟩ := h.slot e he
  rw [h.inj k k' hk (hid.trans hid'.symm)]
  exact hlt

theorem used_lt (hg : c.Geometry)
    (hrange : ∀ e, live e → IsBucket c e ∨ IsCell c e) {e : Nat}
    (he : IsBucket c e ∨ IsCell c e) (hfree : ¬ live e) {n : Nat}
    (hn : ∀ k < n, ids k ≠ 0) :
    n + 1 < c.tableEntries + c.expnTableEntries - 1 := by
  classical
  choose f hf hid using fun k : Nat => fun hk : ids k ≠ 0 => h.held k hk
  let entries := ((Finset.range (c.tableEntries + c.expnTableEntries)).erase
    0).erase c.tableEntries
  let g : Nat → Nat := fun k => if hk : ids k ≠ 0 then f k hk else 0
  have hge : ∀ k, ∀ hk : ids k ≠ 0, g k = f k hk := fun k hk => dif_pos hk
  have hcard : (Finset.range n).card ≤ (entries.erase e).card := by
    refine Finset.card_le_card_of_injOn g (fun k hk => ?_) fun k hk k' hk' hkk => ?_
    · have hk0 := hn k (Finset.mem_range.mp hk)
      have hl := hf k hk0
      have hr := hrange _ hl
      rw [hge k hk0]
      have hne : f k hk0 ≠ e := fun heq => hfree (heq ▸ hl)
      simp only [entries, Finset.coe_erase, Finset.coe_range, Set.mem_sdiff,
        Set.mem_Iio, Set.mem_singleton_iff]
      unfold IsBucket IsCell at hr
      omega
    · have hk0 := hn k (Finset.mem_range.mp hk)
      have hk0' := hn k' (Finset.mem_range.mp hk')
      rw [hge k hk0, hge k' hk0'] at hkk
      refine h.inj k k' hk0 ?_
      rw [hid k hk0, hid k' hk0', hkk]
  have hm : e ∈ entries ∧ c.tableEntries ∈
      (Finset.range (c.tableEntries + c.expnTableEntries)).erase 0 ∧
      0 ∈ Finset.range (c.tableEntries + c.expnTableEntries) := by
    have := hg.base
    have := hg.expn
    unfold IsBucket IsCell at he
    simp only [entries, Finset.mem_erase, Finset.mem_range]
    omega
  rw [Finset.card_erase_of_mem hm.1, Finset.card_erase_of_mem hm.2.1,
    Finset.card_erase_of_mem hm.2.2, Finset.card_range,
    Finset.card_range] at hcard
  have := hg.base
  have := hg.expn
  unfold IsBucket IsCell at he
  omega

theorem add (hg : c.Geometry)
    (hrange : ∀ e, live e → IsBucket c e ∨ IsCell c e) {e k : Nat}
    (he : IsBucket c e ∨ IsCell c e) (hfree : ¬ live e)
    (hk : k + 1 < c.tableEntries + c.expnTableEntries) (hk0 : ids k = 0)
    (hlive : ∀ x, live' x ↔ live x ∨ x = e) :
    Handles c (Function.update ids k (ruleIdOf c e)) live' where
  held k' hk' := by
    rcases eq_or_ne k' k with rfl | hkk
    · rw [Function.update_self]
      exact ⟨e, (hlive e).mpr (.inr rfl), rfl⟩
    · rw [Function.update_of_ne hkk] at hk' ⊢
      obtain ⟨x, hx, hid⟩ := h.held k' hk'
      exact ⟨x, (hlive x).mpr (.inl hx), hid⟩
  inj k₁ k₂ h₁ heq := by
    have hnew : ∀ k', k' ≠ k → ids k' ≠ ruleIdOf c e := by
      intro k' hkk hid
      have hk' : ids k' ≠ 0 := hid ▸ ruleIdOf_ne_zero hg he
      obtain ⟨x, hx, hidx⟩ := h.held k' hk'
      have := ruleIdOf_inj hg (hrange x hx) he (hidx.symm.trans hid)
      exact hfree (this ▸ hx)
    rcases eq_or_ne k₁ k with hk₁ | hk₁ <;> rcases eq_or_ne k₂ k with hk₂ | hk₂
    · rw [hk₁, hk₂]
    · rw [hk₁, Function.update_self, Function.update_of_ne hk₂] at heq
      exact absurd heq.symm (hnew k₂ hk₂)
    · rw [hk₂, Function.update_self, Function.update_of_ne hk₁] at heq
      exact absurd heq (hnew k₁ hk₁)
    · rw [Function.update_of_ne hk₁] at h₁ heq
      rw [Function.update_of_ne hk₂] at heq
      exact h.inj k₁ k₂ h₁ heq
  slot x hx := by
    rcases (hlive x).mp hx with hx | rfl
    · obtain ⟨k', hlt, hid⟩ := h.slot x hx
      refine ⟨k', hlt, ?_⟩
      rw [Function.update_of_ne, hid]
      intro hkk
      rw [hkk, hk0] at hid
      exact ruleIdOf_ne_zero hg (hrange x hx) hid.symm
    · exact ⟨k, hk, Function.update_self ..⟩

theorem del (hg : c.Geometry)
    (hrange : ∀ e, live e → IsBucket c e ∨ IsCell c e) {e k : Nat}
    (he : live e) (hk : ids k = ruleIdOf c e)
    (hlive : ∀ x, live' x ↔ live x ∧ x ≠ e) :
    Handles c (Function.update ids k 0) live' where
  held k' hk' := by
    rcases eq_or_ne k' k with rfl | hkk
    · rw [Function.update_self] at hk'
      exact absurd rfl hk'
    · rw [Function.update_of_ne hkk] at hk' ⊢
      obtain ⟨x, hx, hid⟩ := h.held k' hk'
      refine ⟨x, (hlive x).mpr ⟨hx, ?_⟩, hid⟩
      rintro rfl
      exact hkk (h.inj k' k hk' (hid.trans hk.symm))
  inj k₁ k₂ h₁ heq := by
    rcases eq_or_ne k₁ k with rfl | hk₁
    · rw [Function.update_self] at h₁
      exact absurd rfl h₁
    · rw [Function.update_of_ne hk₁] at h₁ heq
      rcases eq_or_ne k₂ k with rfl | hk₂
      · rw [Function.update_self] at heq
        exact absurd heq h₁
      · rw [Function.update_of_ne hk₂] at heq
        exact h.inj k₁ k₂ h₁ heq
  slot x hx := by
    obtain ⟨hx, hxe⟩ := (hlive x).mp hx
    obtain ⟨k', hlt, hid⟩ := h.slot x hx
    refine ⟨k', hlt, ?_⟩
    rw [Function.update_of_ne, hid]
    rintro rfl
    exact hxe (ruleIdOf_inj hg (hrange x hx) (hrange e he) (hid.symm.trans hk))

end Handles

/-! ## All together -/

/-- The invariant, with the lists behind the buckets of the two tables. -/
structure Inv (c : Cfg) (s : Drv) (tailR tailI : Nat → List Nat) : Prop where
  rules : RuleChains c s.hw.rules tailR
  busy : ∀ e, (s.hw.rules e).enable = true →
    (s.hw.rules e).protocol = invalidProtoFieldCmp →
    (s.hw.rules e).nextIndex ≠ 0
  indx : IndxChains c s.hw.indx s.indexExpnTableMeta tailI
  linked : Linked c s.hw.rules s.hw.indx tailI
  handles : Handles c s.ruleIdArray fun e => (s.hw.rules e).Live

/-- Some lists make the invariant hold. -/
def Consistent (c : Cfg) (s : Drv) : Prop := ∃ tailR tailI, Inv c s tailR tailI

theorem Inv.live_ne_zero {c : Cfg} {s : Drv} {tailR tailI : Nat → List Nat}
    (h : Inv c s tailR tailI) {e : Nat} (he : (s.hw.rules e).Live) :
    e ≠ 0 := by
  have hr := h.rules.live_range he
  unfold IsBucket IsCell at hr
  omega

theorem Inv.indx_occ {c : Cfg} {s : Drv} {tailR tailI : Nat → List Nat}
    (h : Inv c s tailR tailI) {e : Nat} (he : (s.hw.rules e).Live) :
    (s.hw.indx (s.hw.rules e).indxTblEntry).tblEntry ≠ 0 := by
  rw [h.linked.named e he]
  exact h.live_ne_zero he

theorem chained_empty {c : Cfg} {occ : Nat → Prop} {prev : Nat → Nat}
    (hocc : ∀ x, ¬ occ x) :
    Chained 0 (IsBucket c) (IsCell c) occ (fun _ => 0) prev fun _ => [] where
  walk _ hb := .step (Nat.pos_iff_ne_zero.mp hb.1) .stop
  cells _ _ _ hx := absurd hx List.not_mem_nil
  vacant _ _ _ := rfl
  back _ _ _ hx := absurd hx List.not_mem_nil
  cover x _ ho := absurd ho (hocc x)
  disjoint _ _ _ _ _ hx := absurd hx List.not_mem_nil

theorem consistent_reset (c : Cfg) : Consistent c .reset := by
  have hdead : ∀ e, ¬ (Drv.reset.hw.rules e).Live := fun _ =>
    NatRule.not_live_zero
  refine ⟨fun _ => [], fun _ => [], ⟨?_, fun _ _ => rfl, ?_, ?_, ?_⟩, ?_,
    ⟨?_, fun _ _ => rfl, ?_⟩, ⟨?_, ?_, ?_, ?_⟩, ⟨?_, ?_, ?_⟩⟩
  · exact chained_empty fun x h => Bool.false_ne_true h
  · exact fun _ h => absurd h Bool.false_ne_true
  · exact fun _ h => absurd h Bool.false_ne_true
  · exact fun e h => absurd h (hdead e)
  · exact fun _ h => absurd h Bool.false_ne_true
  · exact chained_empty fun x h => h rfl
  · exact fun _ h => absurd rfl h
  · exact fun e h => absurd h (hdead e)
  · exact fun e h => absurd h (hdead e)
  · exact fun _ h => absurd rfl h
  · exact fun _ h => absurd rfl h
  · exact fun _ h => absurd rfl h
  · exact fun _ _ h => absurd rfl h
  · exact fun e h => absurd h (hdead e)

end Axon7.IpaNat
