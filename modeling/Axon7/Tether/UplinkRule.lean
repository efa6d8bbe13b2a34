import Axon7.Tether.Lan

/-!
# The content of the modem's uplink rules

`handle_uplink_filter_rule` installs the rules the modem wants for uplink
packets. The modem gives a rule as equations over the packet, each in one of a
few slots. With `FEATURE_IPACM_HAL` a rule is to match packets of the tethered
prefix only, so an equation on the source address is put into a free slot of
the rule.

Modelled as built without `FEATURE_IPA_V3`. The equations the function does not
touch are one field of the model. The order of the bytes in a word is left out.
-/

namespace Axon7.Tether

/-! ## Equations -/

/-- `IPA_IPFLTR_NUM_MEQ_32_EQNS`. -/
def numMeq32Eqns : Nat := 2

/-- `IPA_IPFLTR_NUM_MEQ_128_EQNS`. -/
def numMeq128Eqns : Nat := 2

/-- `ipa_ipfltr_mask_eq_32`. -/
structure MaskEq32 where
  offset : Nat
  mask : BitVec 32
  value : BitVec 32

/-- `ipa_ipfltr_mask_eq_128`, by its words. -/
structure MaskEq128 where
  offset : Nat
  mask : Fin 4 → BitVec 32
  value : Fin 4 → BitVec 32

/-- A packet: the word at each offset of its IP header. -/
abbrev IpHeader := Nat → BitVec 32

namespace IpHeader

/-- The source address of an IPv4 packet. -/
def srcV4 (pkt : IpHeader) : BitVec 32 := pkt 12

/-- The source address of an IPv6 packet. -/
def srcV6 (pkt : IpHeader) (i : Fin 4) : BitVec 32 := pkt (8 + 4 * i)

end IpHeader

def MaskEq32.Matches (e : MaskEq32) (pkt : IpHeader) : Prop :=
  pkt e.offset &&& e.mask = e.value &&& e.mask

def MaskEq128.Matches (e : MaskEq128) (pkt : IpHeader) : Prop :=
  ∀ i : Fin 4, pkt (e.offset + 4 * i) &&& e.mask i = e.value i &&& e.mask i

/-- `prefix`, of both families. -/
structure Prefixes where
  v4Addr : BitVec 32
  v4Mask : BitVec 32
  v6Addr : Fin 4 → BitVec 32
  v6Mask : Fin 4 → BitVec 32

namespace Prefixes

def ContainsV4 (pfx : Prefixes) (addr : BitVec 32) : Prop :=
  addr &&& pfx.v4Mask = pfx.v4Addr &&& pfx.v4Mask

def ContainsV6 (pfx : Prefixes) (addr : Fin 4 → BitVec 32) : Prop :=
  ∀ i, addr i &&& pfx.v6Mask i = pfx.v6Addr i &&& pfx.v6Mask i

/-- The equation put into a slot of `offset_meq_32`. -/
def eqV4 (pfx : Prefixes) : MaskEq32 := ⟨12, pfx.v4Mask, pfx.v4Addr⟩

/-- The equation put into a slot of `offset_meq_128`. -/
def eqV6 (pfx : Prefixes) : MaskEq128 := ⟨8, pfx.v6Mask, pfx.v6Addr⟩

theorem eqV4_matches (pfx : Prefixes) (pkt : IpHeader) :
    pfx.eqV4.Matches pkt ↔ pfx.ContainsV4 pkt.srcV4 :=
  Iff.rfl

theorem eqV6_matches (pfx : Prefixes) (pkt : IpHeader) :
    pfx.eqV6.Matches pkt ↔ pfx.ContainsV6 pkt.srcV6 :=
  Iff.rfl

end Prefixes

/-- `ipa_ipfltri_rule_eq`: of each array of slots the first few are in use. -/
structure EqAttrib (ε : Type) where
  ruleEqBitmap : BitVec 16
  numOffsetMeq32 : Nat
  offsetMeq32 : Fin numMeq32Eqns → MaskEq32
  numOffsetMeq128 : Nat
  offsetMeq128 : Fin numMeq128Eqns → MaskEq128
  metadataMeq32Present : Bool
  metadataMeq32 : MaskEq32
  others : ε

namespace EqAttrib

variable {ε : Type}

/-- The equations in `offset_meq_32`. -/
def eqs32 (a : EqAttrib ε) : List MaskEq32 :=
  (List.ofFn a.offsetMeq32).take a.numOffsetMeq32

/-- The equations in `offset_meq_128`. -/
def eqs128 (a : EqAttrib ε) : List MaskEq128 :=
  (List.ofFn a.offsetMeq128).take a.numOffsetMeq128

/-- The bit of a slot of `offset_meq_32` in the bitmap. -/
def meq32Bit (eqIndex : Nat) : Nat := if eqIndex = 0 then 2 else 3

/-- The bit of a slot of `offset_meq_128` in the bitmap. -/
def meq128Bit (eqIndex : Nat) : Nat := if eqIndex = 0 then 9 else 10

def setBit (bit : Nat) (a : EqAttrib ε) : EqAttrib ε :=
  { a with ruleEqBitmap := a.ruleEqBitmap ||| BitVec.ofNat 16 (1 <<< bit) }

/-- An equation into the next slot of `offset_meq_32`. -/
def addMeq32 (a : EqAttrib ε) (hroom : a.numOffsetMeq32 < numMeq32Eqns)
    (e : MaskEq32) : EqAttrib ε :=
  { a.setBit (meq32Bit a.numOffsetMeq32) with
    numOffsetMeq32 := a.numOffsetMeq32 + 1
    offsetMeq32 := Function.update a.offsetMeq32 ⟨a.numOffsetMeq32, hroom⟩ e }

/-- An equation into the next slot of `offset_meq_128`. -/
def addMeq128 (a : EqAttrib ε) (hroom : a.numOffsetMeq128 < numMeq128Eqns)
    (e : MaskEq128) : EqAttrib ε :=
  { a.setBit (meq128Bit a.numOffsetMeq128) with
    numOffsetMeq128 := a.numOffsetMeq128 + 1
    offsetMeq128 := Function.update a.offsetMeq128 ⟨a.numOffsetMeq128, hroom⟩ e }

/-- Add prefix equation in modem UL rules. -/
def addPrefixEquation (pfx : Prefixes) (ip : IpType) (a : EqAttrib ε) : EqAttrib ε :=
  if h : ip = .v4 ∧ a.numOffsetMeq32 < numMeq32Eqns then
    a.addMeq32 h.2 pfx.eqV4
  -- the slots are out one equation earlier
  else if numMeq32Eqns < a.numOffsetMeq32 then
    { a with numOffsetMeq32 := a.numOffsetMeq32 - 1 }
  else if h : a.numOffsetMeq128 < numMeq128Eqns then
    a.addMeq128 h pfx.eqV6
  else
    { a with numOffsetMeq128 := a.numOffsetMeq128 - 1 }

/-- The equation on the meta-data of an XLAT call. -/
def xlatMetadata (xlatMuxId : BitVec 8) : MaskEq32 where
  offset := 0
  mask := 0x00FF0000
  value := (xlatMuxId.setWidth 32 &&& 0xFF) <<< 16

def setXlatMetadata (xlatMuxId : BitVec 8) (a : EqAttrib ε) : EqAttrib ε :=
  { a with
    metadataMeq32Present := true
    metadataMeq32 := xlatMetadata xlatMuxId }

end EqAttrib

/-! ## handle_uplink_filter_rule -/

/-- `ipa_ioc_ext_intf_prop`. -/
structure ExtProp (ε : Type) where
  eqAttrib : EqAttrib ε
  rtTblIdx : Nat
  isXlatRule : Bool
  filterHdl : Nat

inductive FltAction
  | passToRouting
  | passToSrcNat

/-- `ipa_flt_rule` of a rule at the rear. -/
structure UplinkRule (ε : Type) where
  action : FltAction
  rtTblIdx : Nat
  eqAttrib : EqAttrib ε

/-- `ipa_fltr_installed_notif_req_msg_v01`. -/
structure FltIndexMsg where
  sourcePipeIndex : Nat
  embeddedPipeIndex : Nat
  embeddedCallMuxId : Nat
  filterIndexList : List (Nat × Nat)

/-- What the function reads of the interface and of `IPACM_Config`. -/
structure UplinkIface where
  hasRxProp : Bool
  oduBridge : Bool
  fltRuleCount : IpType → Nat
  qmapId : Nat
  pfx : Prefixes

/-- How the system calls of the function turn out. A pipe that cannot be
queried is `none`. -/
structure UplinkCalls where
  opened : Bool
  srcPipe : Option Nat
  embeddedPipe : Option Nat
  allocated : Bool
  sendFilteringRuleIndex : Bool
  addFilteringRule : Bool

/-- What the function returns, tells the modem and installs. -/
structure UplinkOutcome (ε : Type) where
  success : Bool
  sent : Option FltIndexMsg
  installed : List (UplinkRule ε)

variable {ε : Type}

namespace ExtProp

/-- The XLAT configuration of the rule of a property. -/
def handleXlat (ip : IpType) (xlatMuxId : BitVec 8) (p : ExtProp ε) : EqAttrib ε :=
  if ip = .v4 ∧ p.isXlatRule = true ∧ xlatMuxId ≠ 0 then
    p.eqAttrib.setXlatMetadata xlatMuxId
  else p.eqAttrib

end ExtProp

/-- `flt_rule_entry` of a property. -/
def uplinkRule (lan : UplinkIface) (ip : IpType) (xlatMuxId : BitVec 8)
    (p : ExtProp ε) : UplinkRule ε where
  action :=
    match ip with
    | .v4 => if lan.oduBridge then .passToRouting else .passToSrcNat
    | .v6 => .passToRouting
  rtTblIdx := p.rtTblIdx
  eqAttrib := (p.handleXlat ip xlatMuxId).addPrefixEquation lan.pfx ip

/-- `filter_index_list`: the rules are numbered from the count of the pipe. -/
def filterIndexList (index : Nat) : List (ExtProp ε) → List (Nat × Nat)
  | [] => []
  | p :: props => (index, p.filterHdl) :: filterIndexList (index + 1) props

/-- `handle_uplink_filter_rule`. -/
def handleUplinkFilterRule (lan : UplinkIface) (calls : UplinkCalls) (ip : IpType)
    (xlatMuxId : BitVec 8) (props : List (ExtProp ε)) : UplinkOutcome ε :=
  if lan.hasRxProp = false then ⟨true, none, []⟩
  else if props = [] then ⟨true, none, []⟩
  else if calls.opened = false then ⟨false, none, []⟩
  else if maxNumExtProps < props.length then ⟨false, none, []⟩
  else
    match calls.srcPipe, calls.embeddedPipe with
    | some src, some emb =>
      if calls.allocated = false then ⟨false, none, []⟩
      else
        let fltIndex : FltIndexMsg :=
          ⟨src, emb, lan.qmapId, filterIndexList (lan.fltRuleCount ip) props⟩
        if calls.sendFilteringRuleIndex = false then ⟨false, none, []⟩
        else if calls.addFilteringRule = false then ⟨false, some fltIndex, []⟩
        else ⟨true, some fltIndex, props.map (uplinkRule lan ip xlatMuxId)⟩
    | _, _ => ⟨false, none, []⟩

/-! ## What a rule is to be -/

/-- The rule `r` is what the modem wants by `p`, for packets of the tethered
prefix: it has every equation of `p`, and one more, on the source address, among
those of the family. -/
structure Restricts (pfx : Prefixes) (ip : IpType) (p r : EqAttrib ε) : Prop where
  source :
    match ip with
    | .v4 => r.eqs128 = p.eqs128 ∧ ∃ e, r.eqs32 = p.eqs32 ++ [e] ∧
        (∀ pkt, e.Matches pkt ↔ pfx.ContainsV4 pkt.srcV4) ∧
        r.ruleEqBitmap.getLsbD (EqAttrib.meq32Bit p.numOffsetMeq32) = true
    | .v6 => r.eqs32 = p.eqs32 ∧ ∃ e, r.eqs128 = p.eqs128 ++ [e] ∧
        (∀ pkt, e.Matches pkt ↔ pfx.ContainsV6 pkt.srcV6) ∧
        r.ruleEqBitmap.getLsbD (EqAttrib.meq128Bit p.numOffsetMeq128) = true
  bitmap : ∀ i, p.ruleEqBitmap.getLsbD i = true → r.ruleEqBitmap.getLsbD i = true
  metadata : p.metadataMeq32Present = true →
    r.metadataMeq32Present = true ∧ r.metadataMeq32 = p.metadataMeq32
  others : r.others = p.others

/-- The kernel's limits on the equations of a property. -/
structure EqAttrib.WithinLimits (a : EqAttrib ε) : Prop where
  meq32 : a.numOffsetMeq32 ≤ numMeq32Eqns
  meq128 : a.numOffsetMeq128 ≤ numMeq128Eqns

/-- There is a free slot for an equation of the family. -/
def EqAttrib.HasRoom (ip : IpType) (a : EqAttrib ε) : Prop :=
  match ip with
  | .v4 => a.numOffsetMeq32 < numMeq32Eqns
  | .v6 => a.numOffsetMeq128 < numMeq128Eqns

/-- The rules installed are those of properties there is room in, each
restricted to the prefix. -/
def RestrictedTo (pfx : Prefixes) (ip : IpType) (props : List (ExtProp ε))
    (rules : List (UplinkRule ε)) : Prop :=
  ∃ ps, ps.Sublist props ∧ (∀ p ∈ ps, p.eqAttrib.HasRoom ip) ∧
    List.Forall₂ (fun p r => Restricts pfx ip p.eqAttrib r.eqAttrib) ps rules

/-! ## Slots -/

namespace EqAttrib

variable {a : EqAttrib ε} {pfx : Prefixes}

theorem eqs128_length (h : a.numOffsetMeq128 ≤ numMeq128Eqns) :
    a.eqs128.length = a.numOffsetMeq128 := by
  rw [eqs128, List.length_take, List.length_ofFn, min_eq_left h]

end EqAttrib

theorem take_ofFn_update {α : Type} {m n : Nat} (f : Fin m → α) (hn : n < m) (x : α) :
    (List.ofFn (Function.update f ⟨n, hn⟩ x)).take (n + 1)
      = (List.ofFn f).take n ++ [x] := by
  refine List.ext_getElem (by simp; omega) fun i h₁ h₂ => ?_
  simp only [List.length_take, List.length_ofFn] at h₁
  rw [List.getElem_take, List.getElem_ofFn, List.getElem_append]
  have hlen : ((List.ofFn f).take n).length = n := by
    simp only [List.length_take, List.length_ofFn]
    omega
  split
  · rename_i hi
    rw [hlen] at hi
    rw [List.getElem_take, List.getElem_ofFn, Function.update_of_ne]
    exact fun heq => by simp only [Fin.mk.injEq] at heq; omega
  · rename_i hi
    rw [hlen] at hi
    obtain rfl : i = n := by omega
    rw [Function.update_self, List.getElem_singleton]

namespace EqAttrib

variable {a : EqAttrib ε} {pfx : Prefixes} {ip : IpType}

theorem setBit_getLsbD {bit : Nat} (hbit : bit < 16) (i : Nat) :
    (a.setBit bit).ruleEqBitmap.getLsbD i
      = (a.ruleEqBitmap.getLsbD i || decide (i = bit)) := by
  rw [setBit, BitVec.getLsbD_or, BitVec.getLsbD_ofNat, Nat.one_shiftLeft,
    Nat.testBit_two_pow]
  by_cases hi : i = bit
  · subst hi
    simp [hbit]
  · simp [hi, Ne.symm hi]

theorem meq32Bit_lt (n : Nat) : meq32Bit n < 16 := by
  rw [meq32Bit]
  split <;> omega

theorem meq128Bit_lt (n : Nat) : meq128Bit n < 16 := by
  rw [meq128Bit]
  split <;> omega

theorem addMeq32_eqs32 (h : a.numOffsetMeq32 < numMeq32Eqns) (e : MaskEq32) :
    (a.addMeq32 h e).eqs32 = a.eqs32 ++ [e] :=
  take_ofFn_update a.offsetMeq32 h e

theorem addMeq128_eqs128 (h : a.numOffsetMeq128 < numMeq128Eqns) (e : MaskEq128) :
    (a.addMeq128 h e).eqs128 = a.eqs128 ++ [e] :=
  take_ofFn_update a.offsetMeq128 h e

theorem restricts_addMeq32 (h : a.numOffsetMeq32 < numMeq32Eqns) :
    Restricts pfx .v4 a (a.addMeq32 h pfx.eqV4) where
  source := by
    refine ⟨rfl, pfx.eqV4, addMeq32_eqs32 h _, pfx.eqV4_matches, ?_⟩
    refine (setBit_getLsbD (meq32Bit_lt _) _).trans ?_
    simp
  bitmap i hi := by
    refine (setBit_getLsbD (meq32Bit_lt _) i).trans ?_
    simp [hi]
  metadata hpresent := ⟨hpresent, rfl⟩
  others := rfl

theorem restricts_addMeq128 (h : a.numOffsetMeq128 < numMeq128Eqns) :
    Restricts pfx .v6 a (a.addMeq128 h pfx.eqV6) where
  source := by
    refine ⟨rfl, pfx.eqV6, addMeq128_eqs128 h _, pfx.eqV6_matches, ?_⟩
    refine (setBit_getLsbD (meq128Bit_lt _) _).trans ?_
    simp
  bitmap i hi := by
    refine (setBit_getLsbD (meq128Bit_lt _) i).trans ?_
    simp [hi]
  metadata hpresent := ⟨hpresent, rfl⟩
  others := rfl

theorem restricts_addPrefixEquation (hlim : a.WithinLimits) (hroom : a.HasRoom ip) :
    Restricts pfx ip a (a.addPrefixEquation pfx ip) := by
  cases ip with
  | v4 =>
    have hv4 : IpType.v4 = .v4 ∧ a.numOffsetMeq32 < numMeq32Eqns := ⟨rfl, hroom⟩
    rw [addPrefixEquation, dif_pos hv4]
    exact restricts_addMeq32 hroom
  | v6 =>
    have hv6 : ¬ (IpType.v6 = .v4 ∧ a.numOffsetMeq32 < numMeq32Eqns) := by simp
    have hlt : ¬ numMeq32Eqns < a.numOffsetMeq32 := by
      have := hlim.meq32
      omega
    have hroom' : a.numOffsetMeq128 < numMeq128Eqns := hroom
    rw [addPrefixEquation, dif_neg hv6, if_neg hlt, dif_pos hroom']
    exact restricts_addMeq128 hroom

theorem not_restricts_addPrefixEquation {p : EqAttrib ε} (hlim : a.WithinLimits)
    (h32 : p.eqs32 = a.eqs32) (h128 : p.eqs128 = a.eqs128) (hroom : ¬ a.HasRoom ip) :
    ¬ Restricts pfx ip p (a.addPrefixEquation pfx ip) := by
  intro h
  have hlt : ¬ numMeq32Eqns < a.numOffsetMeq32 := by
    have := hlim.meq32
    omega
  have hsource := h.source
  cases ip with
  | v4 =>
    have hfull : ¬ a.numOffsetMeq32 < numMeq32Eqns := hroom
    obtain ⟨-, e, heq, -⟩ := hsource
    -- the equations of the family are left as they are
    have hsame : (a.addPrefixEquation pfx .v4).eqs32 = a.eqs32 := by
      rw [addPrefixEquation, dif_neg fun hv4 => hfull hv4.2, if_neg hlt]
      split <;> rfl
    rw [hsame, h32] at heq
    have hlen := congrArg List.length heq
    rw [List.length_append, List.length_singleton] at hlen
    omega
  | v6 =>
    have hfull : ¬ a.numOffsetMeq128 < numMeq128Eqns := hroom
    have hv6 : ¬ (IpType.v6 = .v4 ∧ a.numOffsetMeq32 < numMeq32Eqns) := by simp
    obtain ⟨-, e, heq, -⟩ := hsource
    -- and one is taken out of use here
    rw [addPrefixEquation, dif_neg hv6, if_neg hlt, dif_neg hfull, h128] at heq
    have hlen := congrArg List.length heq
    rw [List.length_append, List.length_singleton,
      eqs128_length hlim.meq128] at hlen
    have hle : (List.take (a.numOffsetMeq128 - 1) (List.ofFn a.offsetMeq128)).length
        ≤ a.numOffsetMeq128 - 1 :=
      List.length_take_le _ _
    have heqs : ({ a with numOffsetMeq128 := a.numOffsetMeq128 - 1 }
        : EqAttrib ε).eqs128.length ≤ a.numOffsetMeq128 - 1 := hle
    omega

@[simp]
theorem addPrefixEquation_metadata :
    (a.addPrefixEquation pfx ip).metadataMeq32 = a.metadataMeq32 := by
  rw [addPrefixEquation]
  split
  · rfl
  · split
    · rfl
    · split <;> rfl

end EqAttrib

/-! ## The rule of a property -/

/-- The equation on the meta-data is not replaced by another. -/
def ExtProp.KeepsMetadata (ip : IpType) (xlatMuxId : BitVec 8) (p : ExtProp ε) : Prop :=
  ip = .v4 → p.isXlatRule = true → xlatMuxId ≠ 0 →
    p.eqAttrib.metadataMeq32Present = true →
    p.eqAttrib.metadataMeq32 = EqAttrib.xlatMetadata xlatMuxId

variable {lan : UplinkIface} {ip : IpType} {xlatMuxId : BitVec 8} {p : ExtProp ε}

theorem ExtProp.handleXlat_cases (p : ExtProp ε) (ip : IpType) (xlatMuxId : BitVec 8) :
    p.handleXlat ip xlatMuxId = p.eqAttrib ∨
      p.handleXlat ip xlatMuxId = p.eqAttrib.setXlatMetadata xlatMuxId := by
  rw [handleXlat]
  split
  · exact .inr rfl
  · exact .inl rfl

theorem uplinkRule_restricts_iff (hlim : p.eqAttrib.WithinLimits) :
    Restricts lan.pfx ip p.eqAttrib (uplinkRule lan ip xlatMuxId p).eqAttrib ↔
      p.eqAttrib.HasRoom ip ∧ p.KeepsMetadata ip xlatMuxId := by
  have hrule : (uplinkRule lan ip xlatMuxId p).eqAttrib
      = (p.handleXlat ip xlatMuxId).addPrefixEquation lan.pfx ip := rfl
  constructor
  · intro h
    constructor
    · by_contra hroom
      rw [hrule] at h
      obtain hx | hx := p.handleXlat_cases ip xlatMuxId
      · rw [hx] at h
        exact EqAttrib.not_restricts_addPrefixEquation hlim rfl rfl hroom h
      · rw [hx] at h
        exact EqAttrib.not_restricts_addPrefixEquation (p := p.eqAttrib)
          (a := p.eqAttrib.setXlatMetadata xlatMuxId) ⟨hlim.meq32, hlim.meq128⟩
          rfl rfl hroom h
    · intro hip hxlat hmux hpresent
      have hmeta := (h.metadata hpresent).2
      rw [hrule, ExtProp.handleXlat, if_pos ⟨hip, hxlat, hmux⟩,
        EqAttrib.addPrefixEquation_metadata] at hmeta
      exact hmeta.symm
  · intro ⟨hroom, hkeeps⟩
    rw [hrule, ExtProp.handleXlat]
    split
    · rename_i hx
      obtain ⟨hip, hxlat, hmux⟩ := hx
      have h : Restricts lan.pfx ip (p.eqAttrib.setXlatMetadata xlatMuxId)
          ((p.eqAttrib.setXlatMetadata xlatMuxId).addPrefixEquation lan.pfx ip) :=
        EqAttrib.restricts_addPrefixEquation ⟨hlim.meq32, hlim.meq128⟩ hroom
      refine ⟨h.source, h.bitmap, fun hpresent => ?_, h.others⟩
      have hmeta := h.metadata rfl
      exact ⟨hmeta.1, hmeta.2.trans (hkeeps hip hxlat hmux hpresent).symm⟩
    · exact EqAttrib.restricts_addPrefixEquation hlim hroom

/-! ## The rules installed -/

/-- The function gets to the end, and the calls it makes succeed. -/
structure Installs (lan : UplinkIface) (calls : UplinkCalls)
    (props : List (ExtProp ε)) : Prop where
  rxProp : lan.hasRxProp = true
  opened : calls.opened = true
  length : props.length ≤ maxNumExtProps
  srcPipe : calls.srcPipe.isSome = true
  embeddedPipe : calls.embeddedPipe.isSome = true
  allocated : calls.allocated = true
  sent : calls.sendFilteringRuleIndex = true
  added : calls.addFilteringRule = true

variable {calls : UplinkCalls} {props : List (ExtProp ε)}

theorem installed_of_installs (h : Installs lan calls props) :
    (handleUplinkFilterRule lan calls ip xlatMuxId props).installed
      = props.map (uplinkRule lan ip xlatMuxId) := by
  obtain ⟨src, hsrc⟩ := Option.isSome_iff_exists.mp h.srcPipe
  obtain ⟨emb, hemb⟩ := Option.isSome_iff_exists.mp h.embeddedPipe
  rw [handleUplinkFilterRule, if_neg (by simp [h.rxProp])]
  by_cases hnil : props = []
  · rw [if_pos hnil, hnil]
    rfl
  · rw [if_neg hnil, if_neg (by simp [h.opened]), if_neg (Nat.not_lt.mpr h.length)]
    simp [hsrc, hemb, h.allocated, h.sent, h.added]

theorem installed_of_not_installs (h : ¬ Installs lan calls props) :
    (handleUplinkFilterRule lan calls ip xlatMuxId props).installed = [] := by
  rw [handleUplinkFilterRule]
  split
  · rfl
  · rename_i hrx
    split
    · rfl
    · split
      · rfl
      · rename_i hopened
        split
        · rfl
        · rename_i hlen
          split
          · rename_i src emb hsrc hemb
            split
            · rfl
            · rename_i halloc
              split
              · rfl
              · rename_i hsent
                split
                · rfl
                · rename_i hadded
                  refine absurd ?_ h
                  exact ⟨by simpa using hrx, by simpa using hopened,
                    Nat.not_lt.mp hlen, by simp [hsrc], by simp [hemb],
                    by simpa using halloc, by simpa using hsent,
                    by simpa using hadded⟩
          · rfl

theorem restrictedTo_map_iff {f : ExtProp ε → UplinkRule ε} :
    RestrictedTo lan.pfx ip props (props.map f) ↔
      ∀ p ∈ props, p.eqAttrib.HasRoom ip ∧ Restricts lan.pfx ip p.eqAttrib (f p).eqAttrib := by
  constructor
  · intro ⟨ps, hsub, hroom, hall⟩
    -- as many rules as properties, so no property is left out
    obtain rfl : ps = props := by
      refine hsub.eq_of_length ?_
      have hlen := hall.length_eq
      rwa [List.length_map] at hlen
    intro p hp
    refine ⟨hroom p hp, ?_⟩
    rw [List.forall₂_map_right_iff, List.forall₂_same] at hall
    exact hall p hp
  · intro h
    refine ⟨props, List.Sublist.refl _, fun p hp => (h p hp).1, ?_⟩
    rw [List.forall₂_map_right_iff, List.forall₂_same]
    exact fun p hp => (h p hp).2

/-- The rules installed are restricted to the tethered prefix exactly when none
is installed, or every property has a slot left in its family and keeps its
equation on the meta-data. -/
theorem handleUplinkFilterRule_restrictedTo_iff (lan : UplinkIface)
    (calls : UplinkCalls) (ip : IpType) (xlatMuxId : BitVec 8)
    (props : List (ExtProp ε)) (hlim : ∀ p ∈ props, p.eqAttrib.WithinLimits) :
    RestrictedTo lan.pfx ip props
        (handleUplinkFilterRule lan calls ip xlatMuxId props).installed ↔
      ¬ Installs lan calls props ∨
        ∀ p ∈ props, p.eqAttrib.HasRoom ip ∧ p.KeepsMetadata ip xlatMuxId := by
  by_cases h : Installs lan calls props
  · rw [installed_of_installs h, restrictedTo_map_iff]
    constructor
    · intro hres
      refine .inr fun p hp => ?_
      exact (uplinkRule_restricts_iff (hlim p hp)).mp (hres p hp).2
    · intro hcond p hp
      have hp' := (hcond.resolve_left fun hn => hn h) p hp
      exact ⟨hp'.1, (uplinkRule_restricts_iff (hlim p hp)).mpr hp'⟩
  · rw [installed_of_not_installs h]
    refine ⟨fun _ => .inl h, fun _ => ⟨[], List.nil_sublist _, ?_, .nil⟩⟩
    intro p hp
    exact absurd hp List.not_mem_nil

/-- A property with both slots of `offset_meq_32` in use, as the modem may give
one: two equations on the addresses of the packet. -/
def fullProp : ExtProp Unit where
  eqAttrib :=
    { ruleEqBitmap := 0xC
      numOffsetMeq32 := 2
      offsetMeq32 := fun i => ⟨16 - 4 * i, 0xFFFFFF00, 0xC0A82B00⟩
      numOffsetMeq128 := 0
      offsetMeq128 := fun _ => ⟨0, fun _ => 0, fun _ => 0⟩
      metadataMeq32Present := false
      metadataMeq32 := ⟨0, 0, 0⟩
      others := () }
  rtTblIdx := 5
  isXlatRule := false
  filterHdl := 1

/-- A tethered interface of the prefix 192.168.43.0/24. -/
def tetheredIface : UplinkIface where
  hasRxProp := true
  oduBridge := false
  fltRuleCount _ := 3
  qmapId := 1
  pfx := ⟨0xC0A82B00, 0xFFFFFF00, fun _ => 0, fun _ => 0⟩

/-- Every call succeeds. -/
def uplinkCalls : UplinkCalls := ⟨true, some 2, some 3, true, true, true⟩

theorem fullProp_withinLimits : fullProp.eqAttrib.WithinLimits :=
  ⟨Nat.le_refl 2, Nat.zero_le _⟩

theorem uplinkCalls_installs : Installs tetheredIface uplinkCalls [fullProp] :=
  ⟨rfl, rfl, by decide, rfl, rfl, rfl, rfl, rfl⟩

/-- With the slots all in use it is installed as an IPv4 rule nonetheless, with an
equation on an IPv6 address put in. -/
theorem fullProp_installed :
    ¬ RestrictedTo tetheredIface.pfx .v4 [fullProp]
      (handleUplinkFilterRule tetheredIface uplinkCalls .v4 0 [fullProp]).installed := by
  intro h
  rw [installed_of_installs uplinkCalls_installs, restrictedTo_map_iff] at h
  exact Nat.lt_irrefl 2 (h fullProp (List.mem_singleton_self _)).1

theorem handleUplinkFilterRule_restrictedTo_iff_fullProp :
    RestrictedTo tetheredIface.pfx .v6 [fullProp]
        (handleUplinkFilterRule tetheredIface uplinkCalls .v6 0 [fullProp]).installed ↔
      ¬ Installs tetheredIface uplinkCalls [fullProp] ∨
        ∀ p ∈ [fullProp], p.eqAttrib.HasRoom .v6 ∧ p.KeepsMetadata .v6 0 :=
  handleUplinkFilterRule_restrictedTo_iff tetheredIface uplinkCalls .v6 0 [fullProp]
    fun p hp => by
      rw [List.mem_singleton.mp hp]
      exact fullProp_withinLimits

end Axon7.Tether
