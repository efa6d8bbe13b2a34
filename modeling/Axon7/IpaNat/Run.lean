import Axon7.IpaNat.DelInv
import Axon7.Lib.SlotTable

/-!
# Runs of the driver

Sequences of adds and deletes from the tables a reset leaves, with every DMA
command succeeding. A delete comes in through `ipa_nat_del_ipv4_rule`, which
is what refuses the handle 0. Every call returns, every state is consistent,
and seen through its handles the driver is a store: the events of a run
replay on the abstract map, and the map they end in is the one read off the
tables.
-/

namespace Axon7.IpaNat

open Axon7.Lib

/-- The calls of a client. -/
inductive Op
  | add (clntRule : ClntRule)
  | del (ruleHdl : Nat)

/-- What clients pass: TCP and UDP rules, and handles of 16 bits. -/
def Op.Valid : Op → Prop
  | .add r => r.protocol = ipprotoTcp ∨ r.protocol = ipprotoUdp
  | .del h => h < 65536

instance (op : Op) : Decidable op.Valid := by
  cases op <;> unfold Op.Valid <;> infer_instance

/-- One call: what the client sees of it and the state after it, or `none`
when it does not return. -/
def exec (c : Cfg) (s : Drv) : Op → Option (StoreEvent Nat ClntRule × Drv)
  | .add r =>
    match ipaNatiAddIpv4Rule c s .allOk r with
    | (.ok h, s) => some (.added h r, s)
    | (.error .spin, _) => none
    | (.error _, s) => some (.addFailed r, s)
  | .del h =>
    match ipaNatDelIpv4Rule c s true 1 h with
    | (.ok _, s) => some (.deleted h, s)
    | (.error .spin, _) => none
    | (.error _, s) => some (.delRefused h, s)

/-- The calls in order. -/
def run (c : Cfg) (s : Drv) :
    List Op → Option (List (StoreEvent Nat ClntRule) × Drv)
  | [] => some ([], s)
  | op :: ops =>
    (exec c s op).bind fun (ev, s) =>
      (run c s ops).map fun (evs, s) => (ev :: evs, s)

/-! ## What the handles stand for -/

/-- The entry a handle is parsed to. -/
def handleEntry (c : Cfg) (s : Drv) (ruleHdl : Nat) : Nat :=
  let (expnTbl, tblEntry) := ipaNatiParseIpv4RuleHdl c s ruleHdl
  cellIn c expnTbl tblEntry

/-- The rules behind the handles. -/
def heldRules (c : Cfg) (s : Drv) : HandleMap Nat ClntRule := fun ruleHdl =>
  if ruleHdl = 0 ∨ s.ruleIdArray (ruleHdl - 1) = 0 then none
  else some (s.hw.rules (handleEntry c s ruleHdl)).clnt

section Held

variable {c : Cfg} (hg : c.Geometry) {s : Drv} {tailR tailI : Nat → List Nat}
  (h : Inv c s tailR tailI)
include hg h

theorem parse_of_id {e k : Nat} (he : (s.hw.rules e).Live)
    (hk : s.ruleIdArray k = ruleIdOf c e) :
    ipaNatiParseIpv4RuleHdl c s (k + 1) =
      (ruleIdOf c e % 2 == 1, ruleIdOf c e / 2) := by
  have hk0 : s.ruleIdArray k ≠ 0 :=
    hk ▸ ruleIdOf_ne_zero hg (h.rules.live_range he)
  have hlt := h.handles.lt hk0
  unfold ipaNatiParseIpv4RuleHdl
  rw [if_neg (by omega)]
  simp only [Nat.add_eq_zero_iff, Nat.one_ne_zero, and_false, if_false,
    Nat.add_sub_cancel, hk]

theorem handleEntry_of_id {e k : Nat} (he : (s.hw.rules e).Live)
    (hk : s.ruleIdArray k = ruleIdOf c e) : handleEntry c s (k + 1) = e := by
  unfold handleEntry
  rw [parse_of_id hg h he hk]
  exact (cellIn_ruleIdOf hg (h.rules.live_range he)).1

theorem heldRules_of_id {e k : Nat} (he : (s.hw.rules e).Live)
    (hk : s.ruleIdArray k = ruleIdOf c e) :
    heldRules c s (k + 1) = some (s.hw.rules e).clnt := by
  have hk0 := ruleIdOf_ne_zero hg (h.rules.live_range he)
  unfold heldRules
  rw [handleEntry_of_id hg h he hk, if_neg]
  simp only [Nat.add_eq_zero_iff, Nat.one_ne_zero, and_false,
    Nat.add_sub_cancel, hk, hk0, or_self, not_false_eq_true]

omit hg in
theorem held_id {ruleHdl : Nat} (hne : heldRules c s ruleHdl ≠ none) :
    ∃ k e, ruleHdl = k + 1 ∧ (s.hw.rules e).Live ∧
      s.ruleIdArray k = ruleIdOf c e := by
  unfold heldRules at hne
  split at hne
  · exact absurd rfl hne
  · next hno =>
      rw [not_or] at hno
      obtain ⟨e, he, hk⟩ := h.handles.held _ hno.2
      exact ⟨ruleHdl - 1, e, by omega, he, hk⟩

omit hg h in
theorem held_none {ruleHdl : Nat} (hno : heldRules c s ruleHdl = none) :
    ruleHdl = 0 ∨ s.ruleIdArray (ruleHdl - 1) = 0 := by
  unfold heldRules at hno
  split at hno
  · next h0 => exact h0
  · cases hno

end Held

/-- What a call leaves alone: the handles other than the one deleted decode
to the same entries, whose rules are as they were but for their links. -/
def Undisturbed (c : Cfg) (s s' : Drv) (ev : StoreEvent Nat ClntRule) : Prop :=
  ∀ hdl, ev ≠ .deleted hdl → heldRules c s hdl ≠ none →
    heldRules c s' hdl = heldRules c s hdl ∧
    handleEntry c s' hdl = handleEntry c s hdl ∧
    (s'.hw.rules (handleEntry c s hdl)).body =
      (s.hw.rules (handleEntry c s hdl)).body

/-- A call that returns what the store may do. -/
structure Stepped (c : Cfg) (s : Drv) (op : Op)
    (ev : StoreEvent Nat ClntRule) (s' : Drv) : Prop where
  exec : exec c s op = some (ev, s')
  consistent : Consistent c s'
  next : (heldRules c s).next ev = some (heldRules c s')
  frame : Undisturbed c s s' ev

section Step

variable {c : Cfg} (hg : c.Geometry) {s : Drv} {tailR tailI : Nat → List Nat}
  (h : Inv c s tailR tailI)
include hg h

omit hg in
theorem stepped_refused {op : Op} (ev : StoreEvent Nat ClntRule)
    (hexec : exec c s op = some (ev, { s with log := [] }))
    (hnext : (heldRules c s).next ev = some (heldRules c s)) :
    Stepped c s op ev { s with log := [] } where
  exec := hexec
  consistent :=
    ⟨tailR, tailI, ⟨h.rules, h.busy, h.indx, h.linked, h.handles⟩⟩
  next := hnext
  frame := fun _ _ _ => ⟨rfl, rfl, rfl⟩

theorem stepped_add {r : ClntRule} (hv : (Op.add r).Valid) :
    ∃ ev s', Stepped c s (.add r) ev s' := by
  have hproto : r.protocol ≠ invalidProtoFieldCmp := by
    rcases hv with hv | hv
    · rw [hv]
      decide
    · rw [hv]
      decide
  rcases ipaNatiAddIpv4Rule_spec hg h r with heq | ⟨g, k, hadd, heq⟩
  · refine ⟨_, _, stepped_refused h (.addFailed r) ?_ rfl⟩
    simp only [exec, heq]
  · obtain ⟨tailR', tailI', h', -, -⟩ := hadd.inv hg h hproto
    have hnew := hadd.gen.added_new hg h hproto hadd.pdn
    have hfree : heldRules c s (k + 1) = none := by
      unfold heldRules
      rw [if_pos (.inr (by rw [Nat.add_sub_cancel]; exact hadd.free))]
    have hold : ∀ hdl, heldRules c s hdl ≠ none →
        hdl ≠ k + 1 ∧
        heldRules c (addedState c s g k) hdl = heldRules c s hdl ∧
        handleEntry c (addedState c s g k) hdl = handleEntry c s hdl ∧
        ((addedState c s g k).hw.rules (handleEntry c s hdl)).body =
          (s.hw.rules (handleEntry c s hdl)).body := by
      intro hdl hne
      have hk : hdl ≠ k + 1 := fun heq => hne (heq ▸ hfree)
      obtain ⟨k', e, rfl, he, hid⟩ := held_id h hne
      have hxe : e ≠ g.tblEntry := by
        rintro rfl
        exact hadd.gen.place.not_occ he.1
      have hbody := (hadd.gen.added_body hg h hxe).1
      have he' : ((addedState c s g k).hw.rules e).Live :=
        (NatRule.live_of_body hbody).mpr he
      have hid' : (addedState c s g k).ruleIdArray k' = ruleIdOf c e := by
        have hkk : k' ≠ k := fun heq => hk (heq ▸ rfl)
        rw [← hid]
        exact Function.update_of_ne hkk ..
      rw [handleEntry_of_id hg h he hid, handleEntry_of_id hg h' he' hid',
        heldRules_of_id hg h he hid, heldRules_of_id hg h' he' hid']
      exact ⟨hk, congrArg some (NatRule.clnt_of_body hbody), rfl, hbody⟩
    refine ⟨.added (k + 1) r, addedState c s g k, ⟨?_, ⟨_, _, h'⟩, ?_,
      fun hdl _ hne => (hold hdl hne).2⟩⟩
    · simp only [exec, heq]
    · rw [HandleMap.next, if_pos hfree]
      refine congrArg some (funext fun hdl => ?_)
      rcases eq_or_ne hdl (k + 1) with rfl | hk
      · have hid : (addedState c s g k).ruleIdArray k =
          ruleIdOf c g.tblEntry := Function.update_self ..
        rw [Function.update_self, heldRules_of_id hg h' hnew.1 hid]
        exact congrArg some hnew.2.1.symm
      · rw [Function.update_of_ne hk]
        by_cases hne : heldRules c s hdl = none
        · rw [hne]
          refine (if_pos ?_).symm
          by_cases h0 : hdl = 0
          · exact .inl h0
          · have hkk : hdl - 1 ≠ k := by omega
            have hid := (held_none hne).resolve_left h0
            rw [← hid]
            exact .inr (Function.update_of_ne hkk ..)
        · exact (hold hdl hne).2.1.symm

theorem stepped_del {ruleHdl : Nat} (hv : (Op.del ruleHdl).Valid) :
    ∃ ev s', Stepped c s (.del ruleHdl) ev s' := by
  by_cases hheld : heldRules c s ruleHdl = none
  · have heq := ipaNatDelIpv4Rule_refused (c := c) (s := s) hv
      (held_none hheld)
    refine ⟨_, _, stepped_refused h (.delRefused ruleHdl) ?_ ?_⟩
    · simp only [exec, heq]
    · rw [HandleMap.next, if_pos hheld]
  · obtain ⟨k, e, rfl, he, hid⟩ := held_id h hheld
    have heq := ipaNatDelIpv4Rule_ok hg h he hid
    obtain ⟨tailR', tailI', h'⟩ := h.deleted hg he hid
    have hold : ∀ hdl, hdl ≠ k + 1 → heldRules c s hdl ≠ none →
        heldRules c (deletedState c s e k) hdl = heldRules c s hdl ∧
        handleEntry c (deletedState c s e k) hdl = handleEntry c s hdl ∧
        ((deletedState c s e k).hw.rules (handleEntry c s hdl)).body =
          (s.hw.rules (handleEntry c s hdl)).body := by
      intro hdl hk hne
      obtain ⟨k', e', rfl, he', hid'⟩ := held_id h hne
      have hkk : k' ≠ k := fun heq => hk (heq ▸ rfl)
      have hee : e' ≠ e := by
        rintro rfl
        have hk0 := ruleIdOf_ne_zero hg (h.rules.live_range he)
        exact hkk (h.handles.inj k' k (hid' ▸ hk0) (hid'.trans hid.symm))
      obtain ⟨hlive, hbody⟩ := deleted_live hg h he (k := k) e'
      have hid'' : (deletedState c s e k).ruleIdArray k' = ruleIdOf c e' := by
        rw [← hid']
        exact Function.update_of_ne hkk ..
      have hl := hlive.mpr ⟨he', hee⟩
      rw [handleEntry_of_id hg h he' hid', handleEntry_of_id hg h' hl hid'',
        heldRules_of_id hg h he' hid', heldRules_of_id hg h' hl hid'']
      exact ⟨congrArg some (NatRule.clnt_of_body (hbody he' hee)), rfl,
        hbody he' hee⟩
    refine ⟨.deleted (k + 1), deletedState c s e k, ⟨?_, ⟨_, _, h'⟩, ?_,
      fun hdl hne => hold hdl fun hk => hne (hk ▸ rfl)⟩⟩
    · simp only [exec, heq]
    · rw [HandleMap.next, if_neg hheld]
      refine congrArg some (funext fun hdl => ?_)
      rcases eq_or_ne hdl (k + 1) with rfl | hk
      · rw [Function.update_self]
        refine (if_pos (.inr ?_)).symm
        exact Function.update_self ..
      · rw [Function.update_of_ne hk]
        by_cases hne : heldRules c s hdl = none
        · rw [hne]
          refine (if_pos ?_).symm
          by_cases h0 : hdl = 0
          · exact .inl h0
          · have hkk : hdl - 1 ≠ k := by omega
            have hid := (held_none hne).resolve_left h0
            rw [← hid]
            exact .inr (Function.update_of_ne hkk ..)
        · exact (hold hdl hk hne).1.symm

end Step

theorem Consistent.step {c : Cfg} (hg : c.Geometry) {s : Drv}
    (hs : Consistent c s) {op : Op} (hv : op.Valid) :
    ∃ ev s', Stepped c s op ev s' := by
  obtain ⟨tailR, tailI, h⟩ := hs
  cases op with
  | add r => exact stepped_add hg h hv
  | del hdl => exact stepped_del hg h hv

/-! ## Whole runs -/

theorem heldRules_reset (c : Cfg) : heldRules c .reset = fun _ => none :=
  funext fun _ => if_pos (.inr rfl)

theorem Consistent.run {c : Cfg} (hg : c.Geometry) {s : Drv}
    (hs : Consistent c s) {ops : List Op} (hv : ∀ op ∈ ops, op.Valid) :
    ∃ evs s', run c s ops = some (evs, s') ∧ Consistent c s' ∧
      (heldRules c s).replay evs = some (heldRules c s') := by
  induction ops generalizing s with
  | nil => exact ⟨[], s, rfl, hs, rfl⟩
  | cons op ops ih =>
    obtain ⟨ev, s₁, hstep⟩ := hs.step hg (hv op List.mem_cons_self)
    obtain ⟨evs, s', hrun, hs', hreplay⟩ := ih hstep.consistent
      fun op' hop => hv op' (List.mem_cons_of_mem _ hop)
    refine ⟨ev :: evs, s', ?_, hs', ?_⟩
    · rw [IpaNat.run, hstep.exec, Option.bind_some]
      simp only [hrun, Option.map_some]
    · rw [HandleMap.replay, hstep.next, Option.bind_some, hreplay]

/-! ## The smallest tables -/

/-- The smallest tables, with the id of base entry 1 in front of
`rule_id_array`. -/
def smallCfg : Cfg where
  tableEntries := 2
  expnTableEntries := 2
  tblAddrOffset := 0
  publicIp := fun _ => 1
  maxPdnNum := 5
  hwV4 := true
  ruleIdBelow := 2

theorem smallCfg_geometry : smallCfg.Geometry where
  pow := ⟨1, rfl⟩
  base := by decide
  expn := by decide
  offset := rfl
  pdn := by decide

def tcpRule : ClntRule := ⟨1, 1, 1, 1, 1, 6, 0⟩

/-! ## The driver is a store -/

end Axon7.IpaNat

/-!
# Well-formed tables

What the tables look like to someone who reads them without the lists the
invariant carries along: from every base entry in use the links visit entries
of the expansion table that are in use, once each, and end; each such entry is
on one of these chains and its back link is the entry before it; and live
rules and index entries in use are in bijection.

The well-formedness holds after every run of calls that clients can make. It
is `ipa_nat_del_ipv4_rule` that makes it so: below it, the parser takes the
handle 0 for the slot before the first one.
-/

namespace Axon7.IpaNat

open Axon7.Lib

/-- `x` is on the chain behind the base entry `b`. -/
def OnChain (next : Nat → Nat) (b x : Nat) : Prop :=
  ∃ l, Walk 0 next (next b) l ∧ x ∈ l

/-- A base table and its expansion, by what is in use and the two links. -/
structure TableWf (c : Cfg) (inUse : Nat → Prop) (next prev : Nat → Nat) :
    Prop where
  chain : ∀ b < c.tableEntries, inUse b →
    ∃ l, Walk 0 next (next b) l ∧ l.Nodup ∧
      ∀ x ∈ l, c.tableEntries ≤ x ∧
        x < c.tableEntries + c.expnTableEntries ∧ inUse x
  owner : ∀ x, c.tableEntries ≤ x →
    x < c.tableEntries + c.expnTableEntries → inUse x →
    ∃! b, b < c.tableEntries ∧ inUse b ∧ OnChain next b x
  back : ∀ b < c.tableEntries, inUse b → ∀ l, Walk 0 next (next b) l →
    ∀ x ∈ l, ∃ l₁ l₂, b :: l = l₁ ++ prev x :: x :: l₂

/-- Both tables, and what they say of each other. -/
structure WellFormed (c : Cfg) (s : Drv) : Prop where
  rules : TableWf c (fun e => (s.hw.rules e).enable = true)
    (fun e => (s.hw.rules e).nextIndex) (fun e => (s.hw.rules e).prevIndex)
  indx : TableWf c (fun i => (s.hw.indx i).tblEntry ≠ 0)
    (fun i => (s.hw.indx i).nextIndex)
    (fun i => s.indexExpnTableMeta (i - c.tableEntries))
  named : ∀ e, (s.hw.rules e).Live →
    (s.hw.indx (s.hw.rules e).indxTblEntry).tblEntry ≠ 0 ∧
      (s.hw.indx (s.hw.rules e).indxTblEntry).tblEntry = e
  back : ∀ i, (s.hw.indx i).tblEntry ≠ 0 →
    (s.hw.rules (s.hw.indx i).tblEntry).Live ∧
      (s.hw.rules (s.hw.indx i).tblEntry).indxTblEntry = i

theorem tableWf_of_chained {c : Cfg} {occ : Nat → Prop} {next prev : Nat → Nat}
    {tail : Nat → List Nat}
    (h : Chained 0 (IsBucket c) (IsCell c) occ next prev tail)
    (hrange : ∀ x, occ x → IsBucket c x ∨ IsCell c x) :
    TableWf c occ next prev := by
  have hbucket : ∀ b < c.tableEntries, occ b → IsBucket c b := by
    intro b hb ho
    refine (hrange b ho).resolve_right fun hc => ?_
    exact absurd hc.1 (Nat.not_lt.mpr (Nat.le_of_lt hb))
  have hwalk : ∀ b, IsBucket c b → Walk 0 next (next b) (tail b) :=
    fun b hb => (h.walk b hb).tail_walk
  refine ⟨fun b hb ho => ?_, fun x hge _ ho => ?_, fun b hb ho l hl x hx => ?_⟩
  · have hb := hbucket b hb ho
    refine ⟨tail b, hwalk b hb, (hwalk b hb).nodup, fun x hx => ?_⟩
    obtain ⟨hc, hox⟩ := h.cells b x hb hx
    exact ⟨Nat.le_of_lt hc.1, hc.2, hox⟩
  · have hc : IsCell c x :=
      (hrange x ho).resolve_left fun hb => absurd hb.2 (Nat.not_lt.mpr hge)
    obtain ⟨b, hb, hmem⟩ := h.cover x hc ho
    refine ⟨b, ⟨hb.2, h.occ_head hb hmem, tail b, hwalk b hb, hmem⟩, ?_⟩
    rintro b' ⟨hlt, ho', l, hl, hxl⟩
    have hb' := hbucket b' hlt ho'
    rw [hl.unique (hwalk b' hb')] at hxl
    exact h.disjoint b' b x hb' hb hxl hmem
  · have hb := hbucket b hb ho
    rw [hl.unique (hwalk b hb)] at hx ⊢
    exact h.split hb hx

theorem Consistent.wellFormed {c : Cfg} {s : Drv} (hs : Consistent c s) :
    WellFormed c s := by
  obtain ⟨tailR, tailI, h⟩ := hs
  exact ⟨tableWf_of_chained h.rules.chained h.rules.range,
    tableWf_of_chained h.indx.chained h.indx.range,
    fun e he => ⟨h.indx_occ he, h.linked.named e he⟩,
    fun i hi => ⟨h.linked.live i hi, h.linked.back i hi⟩⟩

/-- The tables are well formed after every run of a client's calls. -/
theorem run_wellFormed {c : Cfg} (hg : c.Geometry) (ops : List Op)
    (hv : ∀ op ∈ ops, op.Valid) :
    ∃ evs s, run c .reset ops = some (evs, s) ∧ WellFormed c s := by
  obtain ⟨evs, s, hrun, hs, -⟩ := (consistent_reset c).run hg hv
  exact ⟨evs, s, hrun, hs.wellFormed⟩

/-! ## Below the check for the handle 0 -/

/-- The same calls, with deletes straight to `ipa_nati_del_ipv4_rule`. -/
def runNati (c : Cfg) (s : Drv) : List Op → Drv
  | [] => s
  | .add r :: ops => runNati c (ipaNatiAddIpv4Rule c s .allOk r).2 ops
  | .del h :: ops => runNati c (ipaNatiDelIpv4Rule c s true h).2 ops

def twoTcpThenZero : List Op := [.add tcpRule, .add tcpRule, .del 1, .del 0]

/-- Two rules of one bucket; the first is deleted and becomes a dead head; the
handle 0 then names it again, and what is cleared is the index entry of the
second rule. -/
theorem runNati_not_wellFormed :
    ¬ ∀ c : Cfg, c.Geometry → ∀ ops : List Op, (∀ op ∈ ops, op.Valid) →
      WellFormed c (runNati c .reset ops) := by
  intro hall
  have hwf := hall smallCfg smallCfg_geometry twoTcpThenZero (by decide)
  have hlive : ((runNati smallCfg .reset twoTcpThenZero).hw.rules 3).Live := by
    decide +kernel
  have hindx : ((runNati smallCfg .reset twoTcpThenZero).hw.indx
      ((runNati smallCfg .reset twoTcpThenZero).hw.rules 3).indxTblEntry
      ).tblEntry = 0 := by decide +kernel
  exact (hwf.named 3 hlive).1 hindx

theorem run_wellFormed_twoTcpThenZero :
    ∃ evs s, run smallCfg .reset twoTcpThenZero = some (evs, s) ∧
      WellFormed smallCfg s :=
  run_wellFormed smallCfg_geometry _ (by decide)

end Axon7.IpaNat

/-!
# No entry leaks

When every handle given out has been given back there is no live rule. A dead
head would still need a list behind it, and a list ends in a live rule, so no
entry of either table is in use; and entries not in use are blank.
-/

namespace Axon7.IpaNat

open Axon7.Lib

/-- The tables and the slots as a reset leaves them. -/
structure Blank (s : Drv) : Prop where
  rules : ∀ e, s.hw.rules e = .zero
  indx : ∀ i, s.hw.indx i = .zero
  slots : ∀ k, s.ruleIdArray k = 0

theorem Inv.blank {c : Cfg} {s : Drv} {tailR tailI : Nat → List Nat}
    (h : Inv c s tailR tailI) (hdead : ∀ e, ¬ (s.hw.rules e).Live) :
    Blank s := by
  refine ⟨fun e => h.rules.clear e ?_, fun i => h.indx.clear i ?_,
    fun k => ?_⟩
  · by_contra hen
    rw [Bool.not_eq_false] at hen
    have hproto : (s.hw.rules e).protocol = invalidProtoFieldCmp := by
      by_contra hp
      exact hdead e ⟨hen, hp⟩
    have hb := h.rules.dead e hen hproto
    obtain ⟨hcell, hnext, -, -⟩ := h.rules.next_cell hb List.mem_cons_self
      (h.busy e hen hproto)
    -- the entry behind a dead head is an expansion entry, so it is live
    refine hdead _ ⟨hnext, fun hp => ?_⟩
    exact isBucket_not_isCell _ (h.rules.dead _ hnext hp) hcell
  · by_contra hi
    exact hdead _ (h.linked.live i hi)
  · by_contra hk
    obtain ⟨e, he, -⟩ := h.handles.held k hk
    exact hdead e he

/-- Every run whose handles have all been returned ends in blank tables. -/
theorem run_blank {c : Cfg} (hg : c.Geometry) (ops : List Op)
    (hv : ∀ op ∈ ops, op.Valid) :
    ∃ evs s, run c .reset ops = some (evs, s) ∧
      (AllReturned evs → Blank s) := by
  obtain ⟨evs, s, hrun, hs, hreplay⟩ := (consistent_reset c).run hg hv
  refine ⟨evs, s, hrun, fun hret => ?_⟩
  rw [heldRules_reset] at hreplay
  have hnone := HandleMap.replay_returned hreplay hret
  obtain ⟨tailR, tailI, h⟩ := hs
  refine h.blank fun e he => ?_
  obtain ⟨k, -, hk⟩ := h.handles.slot e he
  have hheld := heldRules_of_id hg h he hk
  rw [hnone] at hheld
  cases hheld

theorem run_blank_headFirst :
    ∃ s, run { smallCfg with expnTableEntries := 4 } .reset
        [.add tcpRule, .add tcpRule, .add tcpRule, .del 1, .del 3, .del 2] =
      some ([.added 1 tcpRule, .added 2 tcpRule, .added 3 tcpRule,
        .deleted 1, .deleted 3, .deleted 2], s) ∧ Blank s := by
  obtain ⟨evs, s, hrun, hblank⟩ := run_blank
    (c := { smallCfg with expnTableEntries := 4 })
    ⟨⟨1, rfl⟩, by decide, by decide, rfl, by decide⟩
    [.add tcpRule, .add tcpRule, .add tcpRule, .del 1, .del 3, .del 2]
    (by decide)
  have hevs : (run { smallCfg with expnTableEntries := 4 } .reset
      [.add tcpRule, .add tcpRule, .add tcpRule, .del 1, .del 3, .del 2]).map
      Prod.fst = some [.added 1 tcpRule, .added 2 tcpRule, .added 3 tcpRule,
        .deleted 1, .deleted 3, .deleted 2] := by decide +kernel
  rw [hrun, Option.map_some] at hevs
  obtain rfl := Option.some.inj hevs
  exact ⟨s, hrun, hblank (by simp [AllReturned])⟩

end Axon7.IpaNat
