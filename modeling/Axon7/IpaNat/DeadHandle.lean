import Axon7.IpaNat.Run

/-!
# Handles of no rule

A handle is parsed in 16 bits, and what is parsed is only looked at by the delete. So a
handle that differs from that of a rule by a multiple of 65536 deletes the rule, and the
time stamp is read for any handle at all: where there is no rule, that of entry 0.
-/

namespace Axon7.IpaNat

/-- `ipa_nati_query_timestamp`, of a table that is valid. -/
def ipaNatiQueryTimestamp (c : Cfg) (s : Drv) (ruleHdl : Nat) : Except Err Nat :=
  let (expnTbl, tblEntry) := ipaNatiParseIpv4RuleHdl c s (ruleHdl % 65536)
  .ok (s.hw.rules (cellIn c expnTbl tblEntry)).timeStamp

/-- `ipa_nat_query_timestamp`. -/
def ipaNatQueryTimestamp (c : Cfg) (s : Drv) (tblHdl ruleHdl : Nat) : Except Err Nat :=
  if tblHdl = 0 ∨ tblHdl > maxIp4Tbls then .error .einval
  else ipaNatiQueryTimestamp c s ruleHdl

/-- The delete fails and leaves everything as it is. -/
structure DelRefused (c : Cfg) (s : Drv) (dmaOk : Bool) (ruleHdl : Nat) : Prop where
  error : ∃ e, (ipaNatDelIpv4Rule c s dmaOk 1 ruleHdl).1 = .error e
  hw : (ipaNatDelIpv4Rule c s dmaOk 1 ruleHdl).2.hw = s.hw
  indexExpnTableMeta :
    (ipaNatDelIpv4Rule c s dmaOk 1 ruleHdl).2.indexExpnTableMeta = s.indexExpnTableMeta
  ruleIdArray : (ipaNatDelIpv4Rule c s dmaOk 1 ruleHdl).2.ruleIdArray = s.ruleIdArray

/-- The handle does nothing: neither call takes it. -/
structure Inert (c : Cfg) (s : Drv) (dmaOk : Bool) (ruleHdl : Nat) : Prop where
  del : DelRefused c s dmaOk ruleHdl
  query : ∃ e, ipaNatQueryTimestamp c s 1 ruleHdl = .error e

/-- What the lower half of a handle names is no rule. For 0 that is what lies in front
of `rule_id_array`, and no entry or one that is not enabled. -/
def NamesNone (c : Cfg) (s : Drv) (hdl16 : Nat) : Prop :=
  if hdl16 = 0 then c.ruleIdBelow / 2 = 0 ∨ (s.hw.rules (handleEntry c s 0)).enable = false
  else heldRules c s hdl16 = none

section

variable {c : Cfg} {s : Drv} {dmaOk : Bool} {ruleHdl : Nat}

theorem queryTimestamp_ok (c : Cfg) (s : Drv) (ruleHdl : Nat) :
    ipaNatQueryTimestamp c s 1 ruleHdl =
      .ok (s.hw.rules (handleEntry c s (ruleHdl % 65536))).timeStamp :=
  rfl

theorem postDelDmaCmd_ok {e : Nat} {expnTbl : Bool} (rulePos : DelType)
    (henable : (s.hw.rules (cellIn c expnTbl e)).enable = true) :
    ∃ s', ipaNatiPostDelDmaCmd c s true e expnTbl rulePos = .ok s' := by
  unfold ipaNatiPostDelDmaCmd
  dsimp only
  rw [if_neg (by simp [henable]), if_pos rfl]
  exact ⟨_, rfl⟩

theorem postDelDmaCmd_error {e : Nat} {expnTbl : Bool} (rulePos : DelType)
    (h : dmaOk = false ∨ (s.hw.rules (cellIn c expnTbl e)).enable = false) :
    ∃ err, ipaNatiPostDelDmaCmd c s dmaOk e expnTbl rulePos = .error err := by
  unfold ipaNatiPostDelDmaCmd
  dsimp only
  split
  · exact ⟨_, rfl⟩
  · rename_i henable
    rw [if_neg (by simp [h.resolve_right henable])]
    exact ⟨_, rfl⟩

theorem delRefused_iff : DelRefused c s dmaOk ruleHdl ↔
    ruleHdl = 0 ∨ (ipaNatiParseIpv4RuleHdl c s (ruleHdl % 65536)).2 = 0 ∨ dmaOk = false ∨
      (s.hw.rules (handleEntry c s (ruleHdl % 65536))).enable = false := by
  have hparse : ipaNatiParseIpv4RuleHdl c { s with log := [] } (ruleHdl % 65536) =
      ipaNatiParseIpv4RuleHdl c s (ruleHdl % 65536) := rfl
  rw [handleEntry]
  generalize ipaNatiParseIpv4RuleHdl c s (ruleHdl % 65536) = parsed at hparse ⊢
  obtain ⟨expnTbl, tblEntry⟩ := parsed
  dsimp only
  constructor
  · intro h
    obtain ⟨err, herror⟩ := h.error
    by_contra hno
    simp only [not_or, Bool.not_eq_false] at hno
    obtain ⟨hzero, hentry, rfl, henable⟩ := hno
    obtain ⟨s', hs'⟩ := postDelDmaCmd_ok (c := c) (s := { s with log := [] })
      (ipaNatiFindRulePos c { s with log := [] } expnTbl tblEntry) henable
    rw [ipaNatDelIpv4Rule, if_neg (by simpa using hzero), ipaNatiDelIpv4Rule] at herror
    dsimp only at herror
    rw [hparse] at herror
    dsimp only at herror
    rw [if_neg hentry, hs'] at herror
    exact absurd herror nofun
  · intro h
    have hrefused : ipaNatDelIpv4Rule c s dmaOk 1 ruleHdl =
        (.error .einval, { s with log := [] }) := by
      rw [ipaNatDelIpv4Rule]
      split
      · rfl
      · rename_i hne
        have h := h.resolve_left fun hzero => hne (.inr hzero)
        rw [ipaNatiDelIpv4Rule]
        dsimp only
        rw [hparse]
        dsimp only
        split
        · rfl
        · rename_i hentry
          obtain ⟨err, herr⟩ := postDelDmaCmd_error (s := { s with log := [] })
            (ipaNatiFindRulePos c { s with log := [] } expnTbl tblEntry)
              (h.resolve_left hentry)
          rw [herr]
    exact ⟨⟨.einval, congrArg Prod.fst hrefused⟩, congrArg (·.2.hw) hrefused,
      congrArg (·.2.indexExpnTableMeta) hrefused, congrArg (·.2.ruleIdArray) hrefused⟩

theorem Consistent.namesNone_iff (hg : c.Geometry) (hs : Consistent c s) (hdl16 : Nat) :
    (ipaNatiParseIpv4RuleHdl c s hdl16).2 = 0 ∨
      (s.hw.rules (handleEntry c s hdl16)).enable = false ↔ NamesNone c s hdl16 := by
  obtain ⟨tailR, tailI, h⟩ := hs
  rw [NamesNone]
  split
  · rename_i hzero
    subst hzero
    have hbase := hg.base
    have hbelow : (ipaNatiParseIpv4RuleHdl c s 0).2 = c.ruleIdBelow / 2 := by
      unfold ipaNatiParseIpv4RuleHdl
      rw [if_neg (by omega)]
      rfl
    rw [hbelow]
  · rename_i hne
    constructor
    · intro hdead
      by_contra hheld
      obtain ⟨k, e, rfl, he, hid⟩ := held_id h hheld
      have hentry := h.rules.live_range he
      obtain hnone | hoff := hdead
      · rw [parse_of_id hg h he hid] at hnone
        exact (cellIn_ruleIdOf hg hentry).2 hnone
      · rw [handleEntry_of_id hg h he hid, he.1] at hoff
        exact Bool.false_ne_true hoff.symm
    · intro hnone
      have hid := (held_none hnone).resolve_left hne
      left
      unfold ipaNatiParseIpv4RuleHdl
      split
      · rfl
      · simp [hid]

/-- No handle is inert, of a rule or not: its time stamp is given. The delete refuses it
just if its lower half names no rule, or the DMA fails. -/
theorem handle_not_inert (hg : c.Geometry) (s : Drv) (dmaOk : Bool) (ruleHdl : Nat) :
    ¬ Inert c s dmaOk ruleHdl ∧
      (Consistent c s → (DelRefused c s dmaOk ruleHdl ↔
        ruleHdl = 0 ∨ dmaOk = false ∨ NamesNone c s (ruleHdl % 65536))) := by
  constructor
  · intro h
    obtain ⟨e, he⟩ := h.query
    rw [queryTimestamp_ok] at he
    exact absurd he nofun
  · intro hs
    rw [delRefused_iff, ← hs.namesNone_iff hg, or_left_comm (b := dmaOk = false)]

end

/-- A handle of 17 bits, of which the lower 16 are those of a rule that is in use. -/
theorem handle65537_not_inert :
    heldRules smallCfg (ipaNatiAddIpv4Rule smallCfg .reset .allOk tcpRule).2 65537 = none ∧
      ¬ Inert smallCfg (ipaNatiAddIpv4Rule smallCfg .reset .allOk tcpRule).2 true 65537 := by
  refine ⟨by decide, fun h => ?_⟩
  have hrefused := delRefused_iff.mp h.del
  exact absurd hrefused (by decide)

theorem smallCfg_handle_not_inert : ¬ Inert smallCfg .reset true 5 ∧
    (Consistent smallCfg .reset → (DelRefused smallCfg .reset true 5 ↔
      5 = 0 ∨ true = false ∨ NamesNone smallCfg .reset (5 % 65536))) :=
  handle_not_inert smallCfg_geometry .reset true 5

end Axon7.IpaNat
