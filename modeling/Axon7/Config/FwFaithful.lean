import Axon7.Config.Xml
import Axon7.Config.CfgFaithful

/-!
# The firewall file as it reads

A `Firewall` element says of a packet what the texts inside it are: an attribute
is named if its value is given. The parser sets the flags of some attributes at
the container of the value, and those of the ports at the range, so that the
flags are the ones named only if the containers have their values and the ports
a range. Of the prefix lengths it knows the multiples of four, and it has room
for fifty entries.
-/

namespace Axon7.Config

open Axon7.Lib
open Axon7.Lib.Reader (textOf Before)

/-! ## What an entry is to be -/

namespace FwTag

/-- One tag, and no other. -/
def only (t u : FwTag) : Bool := decide (u = t)

def isPort (d : Dir) : FwTag → Bool
  | .port _ d' => decide (d' = d)
  | _ => false

def isRange (d : Dir) : FwTag → Bool
  | .portRange _ d' => decide (d' = d)
  | _ => false

/-- The tags that an entry has one of. -/
def isAddress (d : Dir) : FwTag → Bool
  | .v4IPAddress d' | .v6IPAddress d' => decide (d' = d)
  | _ => false

/-- The containers of addresses. -/
def holdsAddress (d : Dir) : FwTag → Bool
  | .v4Address d' | .v6Address d' => decide (d' = d)
  | _ => false

def isV4 : FwTag → Bool
  | .v4Address _ | .v4IPAddress _ | .v4SubnetMask _ | .v4TypeOfService | .tosValue | .tosMask
  | .v4NextHeaderProtocol => true
  | _ => false

def isV6 : FwTag → Bool
  | .v6Address _ | .v6IPAddress _ | .v6Prefix _ | .v6TrafficClass | .trfClsValue
  | .trfClsMask | .v6NextHeaderProtocol => true
  | _ => false

end FwTag

section Stated

variable (c : XmlLibc) (body : List (Visit FwTag))

/-- The number that a text is, or zero. -/
def numberOf (p : FwTag → Bool) : Int := (textOf p body).elim 0 c.atoi

/-- The attributes whose values are given. -/
def Given : FltAttr → Prop
  | .addr d => (textOf (FwTag.isAddress d) body).isSome
  | .tos => (textOf (FwTag.only .tosValue) body).isSome
  | .protocol => (textOf (FwTag.only .v4NextHeaderProtocol) body).isSome
  | .tc => (textOf (FwTag.only .trfClsValue) body).isSome
  | .nextHdr => (textOf (FwTag.only .v6NextHeaderProtocol) body).isSome
  | .port d => (textOf (FwTag.isPort d) body).isSome ∧ numberOf c body (FwTag.isRange d) = 0
  | .portRange d =>
    (textOf (FwTag.isPort d) body).isSome ∧ numberOf c body (FwTag.isRange d) ≠ 0
  | .type => (textOf (FwTag.only .icmpType) body).isSome
  | .code => (textOf (FwTag.only .icmpCode) body).isSome
  | .spi => (textOf (FwTag.only .espSpi) body).isSome

/-- A value under its mask. Without a mask it is all of the value. -/
def maskedOf (value mask : FwTag) : BitVec 8 :=
  (textOf (FwTag.only value) body).elim 0 c.byte &&&
    (textOf (FwTag.only mask) body).elim (BitVec.allOnes 8) c.byte

/-- A port, or the range that begins with it. -/
def portsOf (d : Dir) : PortAttrib :=
  let port := numberOf c body (FwTag.isPort d)
  let range := numberOf c body (FwTag.isRange d)
  if range = 0 then ⟨BitVec.ofInt 16 port, 0, 0⟩
  else ⟨0, BitVec.ofInt 16 port, BitVec.ofInt 16 (port + range)⟩

/-- The top `n` bits are set over the words, and no others. -/
def TopBits (n : Nat) (mask : Fin 4 → BitVec 32) : Prop :=
  ∀ i : Fin 4, ∀ b < 32, (mask i).getMsbD b = decide (32 * i.val + b < n)

instance (n : Nat) (mask : Fin 4 → BitVec 32) : Decidable (TopBits n mask) :=
  inferInstanceAs (Decidable (∀ i : Fin 4, ∀ b < 32,
    (mask i).getMsbD b = decide (32 * i.val + b < n)))

/-- The entry is what the elements of a `Firewall` say. -/
structure Means (e : FwEntry) : Prop where
  attribMask : ∀ a, a ∈ e.attribMask ↔ Given c body a
  ipVsn : e.ipVsn = numberOf c body (FwTag.only .ipFamily)
  v4 : ∀ d, e.v4 d =
    ⟨(textOf (FwTag.only (.v4IPAddress d)) body).elim 0 c.inetAddr,
      (textOf (FwTag.only (.v4SubnetMask d)) body).elim 0 c.inetAddr⟩
  tos : e.tos = maskedOf c body .tosValue .tosMask
  protocol : e.protocol = BitVec.ofInt 8 (numberOf c body (FwTag.only .v4NextHeaderProtocol))
  v6Addr : ∀ d, (e.v6 d).addr =
    (textOf (FwTag.only (.v6IPAddress d)) body).elim (fun _ => 0) c.inetPton6
  v6Mask : ∀ d, TopBits (numberOf c body (FwTag.only (.v6Prefix d))).toNat (e.v6 d).mask
  tc : e.tc = maskedOf c body .trfClsValue .trfClsMask
  nextHdr : e.nextHdr = BitVec.ofInt 8 (numberOf c body (FwTag.only .v6NextHeaderProtocol))
  ports : ∀ d, e.ports d = portsOf c body d
  type : e.type = BitVec.ofInt 8 (numberOf c body (FwTag.only .icmpType))
  code : e.code = BitVec.ofInt 8 (numberOf c body (FwTag.only .icmpCode))
  spi : e.spi = BitVec.ofInt 32 (numberOf c body (FwTag.only .espSpi))

/-! ## What the elements may be -/

/-- Each tag at most once, ports of one kind, a range behind its port, and lengths of
prefixes that there are. -/
structure Shaped : Prop where
  once : ∀ t, Before (FwTag.only t) (FwTag.only t) body
  onePort : ∀ d, Before (FwTag.isPort d) (FwTag.isPort d) body
  oneRange : ∀ d, Before (FwTag.isRange d) (FwTag.isRange d) body
  portFirst : ∀ d, Before (FwTag.isPort d) (FwTag.isRange d) body
  portGiven : ∀ d, (textOf (FwTag.isRange d) body).isSome →
    (textOf (FwTag.isPort d) body).isSome
  prefixes : ∀ d, 0 ≤ numberOf c body (FwTag.only (.v6Prefix d)) ∧
    numberOf c body (FwTag.only (.v6Prefix d)) ≤ 128

/-- The value is before its mask, or the mask takes nothing away. -/
def MaskReached (value mask : FwTag) : Prop :=
  Before (FwTag.only value) (FwTag.only mask) body ∨
    (textOf (FwTag.only value) body).elim 0 c.byte = maskedOf c body value mask

/-- A container is there if and only if its value is given, a port has a range, and
the prefixes are of whole hexadecimal digits. -/
structure Plain : Prop where
  addr : ∀ d, (∃ v ∈ body, FwTag.holdsAddress d v.1 = true) ↔
    (textOf (FwTag.isAddress d) body).isSome
  tos : (∃ v ∈ body, v.1 = .v4TypeOfService) ↔ (textOf (FwTag.only .tosValue) body).isSome
  tc : (∃ v ∈ body, v.1 = .v6TrafficClass) ↔ (textOf (FwTag.only .trfClsValue) body).isSome
  ranges : ∀ d, (textOf (FwTag.isPort d) body).isSome →
    (textOf (FwTag.isRange d) body).isSome
  prefixes : ∀ d, 4 ∣ numberOf c body (FwTag.only (.v6Prefix d))
  tosMask : MaskReached c body .tosValue .tosMask
  tcMask : MaskReached c body .trfClsValue .trfClsMask

end Stated

/-! ## What the parser makes of an entry -/

section Read

variable {c : XmlLibc} {body : List (Visit FwTag)}

theorem ipVsn_acts : (fwReader c).ActsAlone (·.ipVsn) (FwTag.only .ipFamily)
    fun text _ => c.atoi text := by
  intro v e
  obtain ⟨t, content⟩ := v
  cases t <;> cases content <;> rfl

theorem v4Addr_acts (d : Dir) : (fwReader c).ActsAlone (fun e => (e.v4 d).addr)
    (FwTag.only (.v4IPAddress d)) fun text _ => c.inetAddr text := by
  intro v e
  obtain ⟨t, content⟩ := v
  cases t <;> cases content <;> try rfl
  case v4IPAddress.none d' => cases d <;> cases d' <;> rfl
  case v4IPAddress.some d' text => cases d <;> cases d' <;> rfl
  case v4SubnetMask.some d' text => cases d <;> cases d' <;> rfl

theorem v4Mask_acts (d : Dir) : (fwReader c).ActsAlone (fun e => (e.v4 d).mask)
    (FwTag.only (.v4SubnetMask d)) fun text _ => c.inetAddr text := by
  intro v e
  obtain ⟨t, content⟩ := v
  cases t <;> cases content <;> try rfl
  case v4SubnetMask.none d' => cases d <;> cases d' <;> rfl
  case v4IPAddress.some d' text => cases d <;> cases d' <;> rfl
  case v4SubnetMask.some d' text => cases d <;> cases d' <;> rfl

theorem protocol_acts : (fwReader c).ActsAlone (·.protocol)
    (FwTag.only .v4NextHeaderProtocol) fun text _ => c.byte text := by
  intro v e
  obtain ⟨t, content⟩ := v
  cases t <;> cases content <;> rfl

theorem v6Addr_acts (d : Dir) : (fwReader c).ActsAlone (fun e => (e.v6 d).addr)
    (FwTag.only (.v6IPAddress d)) fun text _ => c.inetPton6 text := by
  intro v e
  obtain ⟨t, content⟩ := v
  cases t <;> cases content <;> try rfl
  case v6IPAddress.none d' => cases d <;> cases d' <;> rfl
  case v6IPAddress.some d' text => cases d <;> cases d' <;> rfl
  case v6Prefix.some d' text => cases d <;> cases d' <;> rfl

theorem v6Mask_acts (d : Dir) : (fwReader c).ActsAlone (fun e => (e.v6 d).mask)
    (FwTag.only (.v6Prefix d)) fun text mask => setMaskWords (c.atoi text) mask := by
  intro v e
  obtain ⟨t, content⟩ := v
  cases t <;> cases content <;> try rfl
  case v6Prefix.none d' => cases d <;> cases d' <;> rfl
  case v6IPAddress.some d' text => cases d <;> cases d' <;> rfl
  case v6Prefix.some d' text => cases d <;> cases d' <;> rfl

theorem nextHdr_acts : (fwReader c).ActsAlone (·.nextHdr)
    (FwTag.only .v6NextHeaderProtocol) fun text _ => c.byte text := by
  intro v e
  obtain ⟨t, content⟩ := v
  cases t <;> cases content <;> rfl

theorem type_acts : (fwReader c).ActsAlone (·.type)
    (FwTag.only .icmpType) fun text _ => c.byte text := by
  intro v e
  obtain ⟨t, content⟩ := v
  cases t <;> cases content <;> rfl

theorem code_acts : (fwReader c).ActsAlone (·.code)
    (FwTag.only .icmpCode) fun text _ => c.byte text := by
  intro v e
  obtain ⟨t, content⟩ := v
  cases t <;> cases content <;> rfl

theorem spi_acts : (fwReader c).ActsAlone (·.spi)
    (FwTag.only .espSpi) fun text _ => BitVec.ofInt 32 (c.atoi text) := by
  intro v e
  obtain ⟨t, content⟩ := v
  cases t <;> cases content <;> rfl

theorem only_iff {t u : FwTag} : FwTag.only t u = true ↔ u = t := decide_eq_true_iff

theorem not_only_and_only {t t' : FwTag} (h : t ≠ t') (u : FwTag) :
    ¬ (FwTag.only t u = true ∧ FwTag.only t' u = true) := by
  rw [only_iff, only_iff]
  intro ⟨ht, ht'⟩
  exact h (ht.symm.trans ht')

theorem tos_acts : (fwReader c).Acts (·.tos) (FwTag.only .tosValue)
    (fun text _ => c.byte text) (FwTag.only .tosMask)
    fun text tos => tos &&& c.byte text := by
  refine ⟨not_only_and_only (by decide), ?_, ?_, ?_⟩
  · intro ⟨t, content⟩ e h
    obtain rfl := only_iff.mp h
    cases content <;> rfl
  · intro ⟨t, content⟩ e h
    obtain rfl := only_iff.mp h
    cases content <;> rfl
  · intro ⟨t, content⟩ e hp hq
    cases t <;> cases content <;> try rfl
    case tosValue.some text => simp [FwTag.only] at hp
    case tosMask.some text => simp [FwTag.only] at hq

theorem tc_acts : (fwReader c).Acts (·.tc) (FwTag.only .trfClsValue)
    (fun text _ => c.byte text) (FwTag.only .trfClsMask)
    fun text tc => tc &&& c.byte text := by
  refine ⟨not_only_and_only (by decide), ?_, ?_, ?_⟩
  · intro ⟨t, content⟩ e h
    obtain rfl := only_iff.mp h
    cases content <;> rfl
  · intro ⟨t, content⟩ e h
    obtain rfl := only_iff.mp h
    cases content <;> rfl
  · intro ⟨t, content⟩ e hp hq
    cases t <;> cases content <;> try rfl
    case trfClsValue.some text => simp [FwTag.only] at hp
    case trfClsMask.some text => simp [FwTag.only] at hq

theorem isPort_iff {d : Dir} {t : FwTag} : FwTag.isPort d t = true ↔ ∃ k, t = .port k d := by
  cases t <;> simp [FwTag.isPort]

theorem isRange_iff {d : Dir} {t : FwTag} :
    FwTag.isRange d t = true ↔ ∃ k, t = .portRange k d := by
  cases t <;> simp [FwTag.isRange]

theorem ports_acts (d : Dir) : (fwReader c).Acts (fun e => e.ports d) (FwTag.isPort d)
    (fun text ports => { ports with port := BitVec.ofInt 16 (c.atoi text) })
    (FwTag.isRange d) fun text ports => ports.setRange (c.atoi text) := by
  refine ⟨?_, ?_, ?_, ?_⟩
  · intro t ⟨hp, hq⟩
    obtain ⟨k, rfl⟩ := isPort_iff.mp hp
    exact absurd hq (by simp [FwTag.isRange])
  · intro ⟨t, content⟩ e h
    obtain ⟨k, rfl⟩ := isPort_iff.mp h
    cases content with
    | none => rfl
    | some text => exact Function.update_self ..
  · intro ⟨t, content⟩ e h
    obtain ⟨k, rfl⟩ := isRange_iff.mp h
    cases content with
    | none => rfl
    | some text => exact Function.update_self ..
  · intro ⟨t, content⟩ e hp hq
    cases t <;> cases content <;> try rfl
    case port.some k d' text =>
      have hne : d ≠ d' := fun heq => by simp [FwTag.isPort, heq] at hp
      exact Function.update_of_ne hne ..
    case portRange.some k d' text =>
      have hne : d ≠ d' := fun heq => by simp [FwTag.isRange, heq] at hq
      exact Function.update_of_ne hne ..

/-! The flags that are set, and those of what is given. -/

/-- The flag that an element sets. -/
def fwNames (c : XmlLibc) : Visit FwTag → Option FltAttr
  | (.v4Address d, _) | (.v6Address d, _) => some (.addr d)
  | (.v4TypeOfService, _) => some .tos
  | (.v4NextHeaderProtocol, some _) => some .protocol
  | (.v6TrafficClass, _) => some .tc
  | (.v6NextHeaderProtocol, some _) => some .nextHdr
  | (.portRange _ d, some t) => some (if c.atoi t ≠ 0 then .portRange d else .port d)
  | (.icmpType, some _) => some .type
  | (.icmpCode, some _) => some .code
  | (.espSpi, some _) => some .spi
  | _ => none

theorem mem_attribMask_apply (v : Visit FwTag) (e : FwEntry) (a : FltAttr) :
    a ∈ ((fwReader c).apply e v).attribMask ↔
      a ∈ e.attribMask ∨ fwNames c v = some a := by
  have hadd (b : FltAttr) : a ∈ insert b e.attribMask ↔ a ∈ e.attribMask ∨ some b = some a := by
    rw [Finset.mem_insert, Option.some_inj, or_comm, eq_comm]
  have hsame : a ∈ e.attribMask ↔ a ∈ e.attribMask ∨ none = some a := by simp
  obtain ⟨t, content⟩ := v
  cases t <;> cases content <;> first | exact hsame | exact hadd _

theorem mem_attribMask_foldl (e : FwEntry) (a : FltAttr) :
    a ∈ (body.foldl (fwReader c).apply e).attribMask ↔
      a ∈ e.attribMask ∨ ∃ v ∈ body, fwNames c v = some a := by
  induction body generalizing e with
  | nil => simp
  | cons v body ih =>
    rw [List.foldl_cons, ih, mem_attribMask_apply, or_assoc, List.exists_mem_cons_iff]

theorem exists_names_iff {t : FwTag} {a : FltAttr}
    (h : ∀ v, fwNames c v = some a ↔ v.1 = t ∧ v.2.isSome = true) :
    (∃ v ∈ body, fwNames c v = some a) ↔ (textOf (FwTag.only t) body).isSome = true := by
  rw [Reader.textOf_isSome_iff]
  simp only [h, only_iff]

theorem addr_named_iff {d : Dir} :
    (∃ v ∈ body, fwNames c v = some (.addr d)) ↔
      ∃ v ∈ body, FwTag.holdsAddress d v.1 = true := by
  have hv (v : Visit FwTag) :
      fwNames c v = some (.addr d) ↔ FwTag.holdsAddress d v.1 = true := by
    obtain ⟨t, content⟩ := v
    cases t <;> cases content <;> simp [fwNames, FwTag.holdsAddress]
    split <;> simp
  simp only [hv]

theorem container_named_iff {t : FwTag} {a : FltAttr}
    (h : ∀ v, fwNames c v = some a ↔ v.1 = t) :
    (∃ v ∈ body, fwNames c v = some a) ↔ ∃ v ∈ body, v.1 = t := by
  simp only [h]

theorem exists_range_of_names {d : Dir} {v : Visit FwTag} {a : FltAttr}
    (ha : a = .port d ∨ a = .portRange d) (h : fwNames c v = some a) :
    ∃ k text, v = (.portRange k d, some text) := by
  obtain ⟨t, content⟩ := v
  cases t <;> cases content <;> try (obtain rfl | rfl := ha <;> simp [fwNames] at h; done)
  case portRange.some k d' text =>
    refine ⟨k, text, ?_⟩
    rw [fwNames, Option.some_inj] at h
    obtain rfl | rfl := ha
    · split at h
      · exact FltAttr.noConfusion h
      · rw [FltAttr.port.inj h]
    · split at h
      · rw [FltAttr.portRange.inj h]
      · exact FltAttr.noConfusion h

theorem range_named_iff {d : Dir} {a : FltAttr} (ha : a = .port d ∨ a = .portRange d)
    (honce : Before (FwTag.isRange d) (FwTag.isRange d) body) :
    (∃ v ∈ body, fwNames c v = some a) ↔
      (textOf (FwTag.isRange d) body).isSome = true ∧
        a = if numberOf c body (FwTag.isRange d) ≠ 0 then .portRange d else .port d := by
  have hrange (k : PortKind) : FwTag.isRange d (.portRange k d) = true :=
    isRange_iff.mpr ⟨k, rfl⟩
  constructor
  · intro ⟨v, hv, hname⟩
    obtain ⟨k, text, rfl⟩ := exists_range_of_names ha hname
    have htext := Reader.textOf_eq_of_mem honce hv (hrange k)
    rw [numberOf, htext]
    exact ⟨rfl, (Option.some.inj hname).symm⟩
  · intro ⟨hsome, hname⟩
    obtain ⟨⟨t, content⟩, hv, hp, hcontent⟩ := Reader.textOf_isSome_iff.mp hsome
    obtain ⟨k, rfl⟩ := isRange_iff.mp hp
    obtain ⟨text, rfl⟩ := Option.isSome_iff_exists.mp hcontent
    have htext := Reader.textOf_eq_of_mem honce hv hp
    rw [numberOf, htext] at hname
    exact ⟨_, hv, congrArg some hname.symm⟩

theorem setMaskWords_topBits_iff {n : Nat} (hn : n ≤ 128) :
    TopBits n (setMaskWords n fun _ => 0) ↔ 4 ∣ n := by
  revert n
  decide +kernel

/-! Values under a mask, ports, and the masks of the prefixes. -/

theorem masked_iff {proj : FwEntry → BitVec 8} {value mask : FwTag}
    (h : (fwReader c).Acts proj (FwTag.only value) (fun text _ => c.byte text)
      (FwTag.only mask) fun text byte => byte &&& c.byte text)
    (hvalue : Before (FwTag.only value) (FwTag.only value) body)
    (hmask : Before (FwTag.only mask) (FwTag.only mask) body) {e : FwEntry}
    (he : proj e = 0) :
    proj (body.foldl (fwReader c).apply e) = maskedOf c body value mask ↔
      MaskReached c body value mask := by
  have hzero (text : Option (List Char)) :
      text.elim id (fun t byte => byte &&& c.byte t) (0 : BitVec 8) = 0 := by
    cases text with
    | none => rfl
    | some t => exact BitVec.zero_and
  by_cases hbefore : Before (FwTag.only value) (FwTag.only mask) body
  · have hread : proj (body.foldl (fwReader c).apply e) = maskedOf c body value mask := by
      rw [h.foldl_eq hvalue hmask hbefore, he, maskedOf]
      cases textOf (FwTag.only value) body with
      | none => exact (hzero _).trans BitVec.zero_and.symm
      | some v =>
        cases textOf (FwTag.only mask) body with
        | none => exact BitVec.and_allOnes.symm
        | some m => rfl
    exact ⟨fun _ => Or.inl hbefore, fun _ => hread⟩
  · have hafter : Before (FwTag.only mask) (FwTag.only value) body :=
      (Reader.before_or_before hvalue hmask h.disjoint).resolve_left hbefore
    have hread : proj (body.foldl (fwReader c).apply e) =
        (textOf (FwTag.only value) body).elim 0 c.byte := by
      rw [h.swap.foldl_eq hmask hvalue hafter, he, hzero]
      cases textOf (FwTag.only value) body <;> rfl
    rw [hread]
    exact ⟨Or.inr, fun hr => hr.resolve_left hbefore⟩

theorem setRange_eq (port range : Int) :
    (PortAttrib.mk (BitVec.ofInt 16 port) 0 0).setRange range =
      if range = 0 then ⟨BitVec.ofInt 16 port, 0, 0⟩
      else ⟨0, BitVec.ofInt 16 port, BitVec.ofInt 16 (port + range)⟩ := by
  have hsum : BitVec.ofInt 16 ((BitVec.ofInt 16 port).toNat + range) =
      BitVec.ofInt 16 (port + range) := by
    rw [BitVec.ofInt_add, BitVec.ofInt_natCast, BitVec.ofNat_toNat, BitVec.setWidth_eq,
      ← BitVec.ofInt_add]
  rw [PortAttrib.setRange]
  by_cases hr : range = 0
  · rw [if_neg (not_not.mpr hr), if_pos hr]
  · rw [if_pos hr, if_neg hr, hsum]

theorem ports_eq (h : Shaped c body) (d : Dir) :
    (body.foldl (fwReader c).apply .blank).ports d = portsOf c body d := by
  have hread := (ports_acts (c := c) d).foldl_eq (h.onePort d) (h.oneRange d) (h.portFirst d)
    FwEntry.blank
  rw [hread, portsOf]
  have hgiven := h.portGiven d
  cases hp : textOf (FwTag.isPort d) body with
  | none =>
    cases hq : textOf (FwTag.isRange d) body with
    | none => simp [numberOf, hp, hq, FwEntry.blank]
    | some range =>
      rw [hp, hq] at hgiven
      exact absurd (hgiven rfl) (by decide)
  | some port =>
    have hport : numberOf c body (FwTag.isPort d) = c.atoi port := by
      rw [numberOf, hp]
      rfl
    rw [hport, ← setRange_eq]
    cases hq : textOf (FwTag.isRange d) body with
    | none => simp [numberOf, hq, PortAttrib.setRange, FwEntry.blank]
    | some range => simp [numberOf, hq, FwEntry.blank]

theorem v6Mask_iff (h : Shaped c body) (d : Dir) :
    TopBits (numberOf c body (FwTag.only (.v6Prefix d))).toNat
        ((body.foldl (fwReader c).apply .blank).v6 d).mask ↔
      4 ∣ numberOf c body (FwTag.only (.v6Prefix d)) := by
  have hread := (v6Mask_acts (c := c) d).foldl_eq (h.once (.v6Prefix d)) FwEntry.blank
  obtain ⟨hpos, hle⟩ := h.prefixes d
  obtain ⟨n, hn⟩ := Int.eq_ofNat_of_zero_le hpos
  have hmask : ((body.foldl (fwReader c).apply .blank).v6 d).mask =
      setMaskWords n fun _ => 0 := by
    rw [hread, ← hn, numberOf]
    cases textOf (FwTag.only (.v6Prefix d)) body with
    | none =>
      have hzero : setMaskWords 0 (fun _ => 0) = fun _ => 0 := by decide
      exact hzero.symm
    | some text => rfl
  rw [hmask, hn, Int.toNat_natCast, setMaskWords_topBits_iff (by omega)]
  omega

theorem value_eq {β : Type} {proj : FwEntry → β} {t : FwTag} {value : List Char → β}
    (h : (fwReader c).ActsAlone proj (FwTag.only t) fun text _ => value text)
    (ht : Before (FwTag.only t) (FwTag.only t) body) :
    proj (body.foldl (fwReader c).apply .blank) =
      (textOf (FwTag.only t) body).elim (proj .blank) value := by
  rw [h.foldl_eq ht]
  cases textOf (FwTag.only t) body <;> rfl

theorem number_eq {β : Type} {proj : FwEntry → β} {t : FwTag} (ofInt : Int → β)
    (h : (fwReader c).ActsAlone proj (FwTag.only t) fun text _ => ofInt (c.atoi text))
    (ht : Before (FwTag.only t) (FwTag.only t) body) (hzero : proj .blank = ofInt 0) :
    proj (body.foldl (fwReader c).apply .blank) = ofInt (numberOf c body (FwTag.only t)) := by
  rw [value_eq h ht, hzero, numberOf]
  cases textOf (FwTag.only t) body <;> rfl

theorem named_iff_given (h : Shaped c body) :
    (∀ a, (∃ v ∈ body, fwNames c v = some a) ↔ Given c body a) ↔
      (∀ d, (∃ v ∈ body, FwTag.holdsAddress d v.1 = true) ↔
          (textOf (FwTag.isAddress d) body).isSome) ∧
        ((∃ v ∈ body, v.1 = .v4TypeOfService) ↔
          (textOf (FwTag.only .tosValue) body).isSome) ∧
        ((∃ v ∈ body, v.1 = .v6TrafficClass) ↔
          (textOf (FwTag.only .trfClsValue) body).isSome) ∧
        ∀ d, (textOf (FwTag.isPort d) body).isSome →
          (textOf (FwTag.isRange d) body).isSome := by
  have htos : (∃ v ∈ body, fwNames c v = some .tos) ↔
      ∃ v ∈ body, v.1 = .v4TypeOfService := by
    refine container_named_iff fun ⟨t, content⟩ => ?_
    cases t <;> cases content <;> simp [fwNames]
    split <;> simp
  have htc : (∃ v ∈ body, fwNames c v = some .tc) ↔
      ∃ v ∈ body, v.1 = .v6TrafficClass := by
    refine container_named_iff fun ⟨t, content⟩ => ?_
    cases t <;> cases content <;> simp [fwNames]
    split <;> simp
  constructor
  · intro hnames
    refine ⟨fun d => addr_named_iff.symm.trans (hnames (.addr d)),
      htos.symm.trans (hnames .tos), htc.symm.trans (hnames .tc), fun d hport => ?_⟩
    by_contra hno
    have hzero : numberOf c body (FwTag.isRange d) = 0 := by
      rw [numberOf, Option.not_isSome_iff_eq_none.mp hno]
      rfl
    have hset := (hnames (.port d)).mpr ⟨hport, hzero⟩
    exact hno ((range_named_iff (Or.inl rfl) (h.oneRange d)).mp hset).1
  · intro ⟨haddr, htos', htc', hranges⟩ a
    cases a with
    | addr d => exact addr_named_iff.trans (haddr d)
    | tos => exact htos.trans htos'
    | tc => exact htc.trans htc'
    | port d =>
      rw [range_named_iff (Or.inl rfl) (h.oneRange d), Given]
      have hiff : (textOf (FwTag.isPort d) body).isSome ↔
          (textOf (FwTag.isRange d) body).isSome := ⟨hranges d, h.portGiven d⟩
      rw [hiff]
      by_cases hr : numberOf c body (FwTag.isRange d) = 0 <;> simp [hr]
    | portRange d =>
      rw [range_named_iff (Or.inr rfl) (h.oneRange d), Given]
      have hiff : (textOf (FwTag.isPort d) body).isSome ↔
          (textOf (FwTag.isRange d) body).isSome := ⟨hranges d, h.portGiven d⟩
      rw [hiff]
      by_cases hr : numberOf c body (FwTag.isRange d) = 0 <;> simp [hr]
    | protocol | nextHdr | type | code | spi =>
      refine exists_names_iff fun ⟨t, content⟩ => ?_
      cases t <;> cases content <;> simp [fwNames]
      split <;> simp

theorem means_iff (h : Shaped c body) :
    Means c body (body.foldl (fwReader c).apply .blank) ↔ Plain c body := by
  have hmask (a : FltAttr) : a ∈ (body.foldl (fwReader c).apply .blank).attribMask ↔
      ∃ v ∈ body, fwNames c v = some a := by
    rw [mem_attribMask_foldl]
    simp [FwEntry.blank]
  constructor
  · intro hmeans
    obtain ⟨haddr, htos, htc, hranges⟩ := (named_iff_given h).mp fun a =>
      (hmask a).symm.trans (hmeans.attribMask a)
    exact ⟨haddr, htos, htc, hranges, fun d => (v6Mask_iff h d).mp (hmeans.v6Mask d),
      (masked_iff tos_acts (h.once _) (h.once _) rfl).mp hmeans.tos,
      (masked_iff tc_acts (h.once _) (h.once _) rfl).mp hmeans.tc⟩
  · intro hplain
    have hnames := (named_iff_given h).mpr
      ⟨hplain.addr, hplain.tos, hplain.tc, hplain.ranges⟩
    constructor
    · exact fun a => (hmask a).trans (hnames a)
    · exact number_eq id ipVsn_acts (h.once _) rfl
    · intro d
      have haddr := value_eq (v4Addr_acts (c := c) d) (h.once _)
      have hmask := value_eq (v4Mask_acts (c := c) d) (h.once _)
      exact congrArg₂ V4Addr.mk haddr hmask
    · exact (masked_iff tos_acts (h.once _) (h.once _) rfl).mpr hplain.tosMask
    · exact number_eq (BitVec.ofInt 8) protocol_acts (h.once _) rfl
    · exact fun d => value_eq (v6Addr_acts d) (h.once _)
    · exact fun d => (v6Mask_iff h d).mpr (hplain.prefixes d)
    · exact (masked_iff tc_acts (h.once _) (h.once _) rfl).mpr hplain.tcMask
    · exact number_eq (BitVec.ofInt 8) nextHdr_acts (h.once _) rfl
    · exact ports_eq h
    · exact number_eq (BitVec.ofInt 8) type_acts (h.once _) rfl
    · exact number_eq (BitVec.ofInt 8) code_acts (h.once _) rfl
    · exact number_eq (BitVec.ofInt 32) spi_acts (h.once _) rfl

end Read

/-! ## When the file means what it says -/

section Tree

variable (c : XmlLibc) (tree : XmlNode)

/-- What is inside the `Firewall` elements. -/
def fwElems : List (List (Visit FwTag)) :=
  tree.records fwTagOf FwTag.descends (fwReader c).starts

/-- The array holds what the elements say, as far as it goes, and nothing is written
outside of it. -/
def FwMeans : Prop :=
  ∃ s, (ipacmFirewallXmlParseTree c tree .zero).entries = some s ∧
    (∀ (i : Nat) (hi : i < (fwElems c tree).length) (hcap : i < maxFirewallEntries),
      Means c (fwElems c tree)[i] (s.rows ⟨i, hcap⟩)) ∧
    ∀ i : Fin maxFirewallEntries, (fwElems c tree).length ≤ i.val → s.rows i = .blank

/-- Everything said is inside a `Firewall` element, no such element is inside another,
and each of those that there is room for is shaped and of one family. -/
structure FwShaped : Prop where
  placed : tree.Placed fwTagOf FwTag.descends (fwReader c).starts (fwReader c).States false
  shaped : ∀ (i : Nat) (hi : i < (fwElems c tree).length), i < maxFirewallEntries →
    Shaped c (fwElems c tree)[i]
  oneFamily : ∀ (i : Nat) (hi : i < (fwElems c tree).length), i < maxFirewallEntries →
    ∀ v ∈ (fwElems c tree)[i], ∀ w ∈ (fwElems c tree)[i],
      ¬ (FwTag.isV4 v.1 = true ∧ FwTag.isV6 w.1 = true)

/-- There is room for what is said, and the elements are plain. -/
structure FwReadable : Prop where
  fits : (fwReader c).FitsIn maxFirewallEntries (fwElems c tree)
  plain : ∀ (i : Nat) (hi : i < (fwElems c tree).length), i < maxFirewallEntries →
    Plain c (fwElems c tree)[i]

end Tree

section Whole

variable {c : XmlLibc} {tree : XmlNode}

theorem entries_step (cfg : FwConf) (v : Visit FwTag) :
    (cfg.step c v).entries = (fwReader c).step cfg.entries v := by
  obtain ⟨t, content⟩ := v
  cases t <;> cases content <;> rfl

theorem entries_parse (c : XmlLibc) (tree : XmlNode) :
    (ipacmFirewallXmlParseTree c tree .zero).entries =
      (tree.visits fwTagOf FwTag.descends).foldl (fwReader c).step
        (some (Rows.blank _ .blank)) := by
  rw [ipacmFirewallXmlParseTree, XmlNode.walk_eq_foldl]
  have hfold (visits : List (Visit FwTag)) (cfg : FwConf) :
      (visits.foldl (FwConf.step c) cfg).entries =
        visits.foldl (fwReader c).step cfg.entries := by
    induction visits generalizing cfg with
    | nil => rfl
    | cons v visits ih => rw [List.foldl_cons, List.foldl_cons, ih, entries_step]
  exact hfold _ _

theorem firewall_descends (t : FwTag) (h : (fwReader c).starts t = true) :
    t.descends = true := by
  obtain rfl := of_decide_eq_true h
  rfl

theorem entries_of_fits (h : FwShaped c tree)
    (hfits : (fwReader c).FitsIn maxFirewallEntries (fwElems c tree)) :
    (ipacmFirewallXmlParseTree c tree .zero).entries =
      some ⟨(fwElems c tree).length % 256,
        (fwReader c).rowsOf maxFirewallEntries .blank (fwElems c tree)⟩ :=
  (entries_parse c tree).trans
    (Reader.foldl_visits_eq (by decide) firewall_descends h.placed hfits)

theorem means_row_iff (h : FwShaped c tree) {i : Nat} (hi : i < (fwElems c tree).length)
    (hcap : i < maxFirewallEntries) :
    Means c (fwElems c tree)[i]
        ((fwReader c).rowsOf maxFirewallEntries .blank (fwElems c tree) ⟨i, hcap⟩) ↔
      Plain c (fwElems c tree)[i] := by
  rw [Reader.rowsOf, List.getElem?_eq_getElem hi]
  exact means_iff (h.shaped i hi hcap)

theorem fwMeans_of_readable (h : FwShaped c tree) (hr : FwReadable c tree) :
    FwMeans c tree := by
  refine ⟨_, entries_of_fits h hr.fits, ?_, ?_⟩
  · intro i hi hcap
    exact (means_row_iff h hi hcap).mpr (hr.plain i hi hcap)
  · intro i hi
    simp only [Reader.rowsOf, List.getElem?_eq_none hi]

theorem readable_of_fwMeans (h : FwShaped c tree) (hlen : (fwElems c tree).length < 256)
    (hm : FwMeans c tree) : FwReadable c tree := by
  obtain ⟨s, hs, hmeans, -⟩ := hm
  have hfits : (fwReader c).FitsIn maxFirewallEntries (fwElems c tree) := by
    by_contra hno
    rw [entries_parse, Reader.foldl_visits_eq_none (by decide) firewall_descends h.placed
      hlen hno] at hs
    exact absurd hs (by simp)
  refine ⟨hfits, fun i hi hcap => ?_⟩
  rw [entries_of_fits h hfits] at hs
  obtain rfl := Option.some.inj hs
  exact (means_row_iff h hi hcap).mp (hmeans i hi hcap)

/-- A file of shaped elements is read as it says if there is room for its entries and
they are plain; and one whose elements can be counted only then. -/
theorem ipacmFirewallXmlParseTree_means (c : XmlLibc) (tree : XmlNode)
    (h : FwShaped c tree) :
    (FwReadable c tree → FwMeans c tree) ∧
      ((fwElems c tree).length < 256 → (FwMeans c tree ↔ FwReadable c tree)) := by
  refine ⟨fwMeans_of_readable h, fun hlen => ?_⟩
  exact ⟨readable_of_fwMeans h hlen, fwMeans_of_readable h⟩

end Whole

/-! ## Files about one network -/

/-- A file with one entry, of packets from some network to a port. -/
def oneNetwork (prefixLen : String) : XmlNode :=
  .element "system".toList
    (.element "MobileAPFirewallCfg".toList
      (.element "Firewall".toList
        (leaf "IPFamily" "6"
          (.element "IPV6SourceAddress".toList
            (leaf "IPV6SourceIPAddress" "2001:db8::" (leaf "IPV6SourcePrefix" prefixLen .nil))
            (.element "TCPDestination".toList
              (leaf "TCPDestinationPort" "80" (leaf "TCPDestinationRange" "0" .nil)) .nil)))
        .nil) .nil) .nil

/-- The entry of such a file. -/
def oneNetworkBody (prefixLen : String) : List (Visit FwTag) :=
  [(.ipFamily, some "6".toList), (.v6Address .src, none),
    (.v6IPAddress .src, some "2001:db8::".toList), (.v6Prefix .src, some prefixLen.toList),
    (.portsOf .tcp .dst, none), (.port .tcp .dst, some "80".toList),
    (.portRange .tcp .dst, some "0".toList)]

/-- The one address of these files. -/
def docLibc : XmlLibc := ⟨fun _ => 0, fun _ i => if i.val = 0 then 0x20010db8 else 0, fun _ => 0⟩

theorem fwElems_63 : fwElems docLibc (oneNetwork "63") = [oneNetworkBody "63"] := by
  decide +kernel

theorem fwElems_64 : fwElems docLibc (oneNetwork "64") = [oneNetworkBody "64"] := by
  decide +kernel

/-- Of a prefix of 63 bits the second word is not set. -/
theorem oneNetwork_63_not_means : ¬ FwMeans docLibc (oneNetwork "63") := by
  intro ⟨s, hs, hmeans, _⟩
  have hlen : 0 < (fwElems docLibc (oneNetwork "63")).length := by
    rw [fwElems_63]
    exact Nat.one_pos
  have hbody : (fwElems docLibc (oneNetwork "63"))[0] = oneNetworkBody "63" :=
    (List.getElem_of_eq fwElems_63 hlen).trans rfl
  have hbits := (hmeans 0 hlen (by decide)).v6Mask .src 1 0 (by decide)
  have hread : ((ipacmFirewallXmlParseTree docLibc (oneNetwork "63") .zero).entries.map
      fun s => ((s.rows ⟨0, by decide⟩).v6 .src).mask 1) = some 0 := by
    decide +kernel
  have hsaid :
      numberOf docLibc (oneNetworkBody "63") (FwTag.only (.v6Prefix .src)) = 63 := by
    decide +kernel
  rw [hs, Option.map_some, Option.some_inj] at hread
  rw [hread, hbody, hsaid] at hbits
  exact absurd hbits (by decide)

theorem once_of_nodup {body : List (Visit FwTag)} (h : (body.map Prod.fst).Nodup)
    (t : FwTag) : Before (FwTag.only t) (FwTag.only t) body := by
  rw [List.Nodup, List.pairwise_map] at h
  refine h.imp fun hne => ?_
  rw [only_iff, only_iff]
  intro ⟨hv, hw⟩
  exact hne (hv.trans hw.symm)

theorem oneNetworkBody_shaped : Shaped docLibc (oneNetworkBody "64") where
  once := once_of_nodup (by decide)
  onePort d := by cases d <;> decide
  oneRange d := by cases d <;> decide
  portFirst d := by cases d <;> decide
  portGiven d := by cases d <;> decide
  prefixes d := by cases d <;> decide +kernel

theorem oneNetworkBody_plain : Plain docLibc (oneNetworkBody "64") where
  addr d := by cases d <;> decide
  tos := by decide
  tc := by decide
  ranges d := by cases d <;> decide
  prefixes d := by cases d <;> decide +kernel
  tosMask := Or.inl (by decide)
  tcMask := Or.inl (by decide)

theorem eq_of_fwElems {i : Nat} (hi : i < (fwElems docLibc (oneNetwork "64")).length) :
    (fwElems docLibc (oneNetwork "64"))[i] = oneNetworkBody "64" := by
  have hmem : ∀ body ∈ fwElems docLibc (oneNetwork "64"), body = oneNetworkBody "64" := by
    rw [fwElems_64]
    exact fun body hbody => List.mem_singleton.mp hbody
  exact hmem _ (List.getElem_mem hi)

theorem oneNetwork_64_shaped : FwShaped docLibc (oneNetwork "64") where
  placed := by decide +kernel
  shaped i hi _ := by
    rw [eq_of_fwElems hi]
    exact oneNetworkBody_shaped
  oneFamily i hi _ := by
    rw [eq_of_fwElems hi]
    decide

theorem oneNetwork_64_readable : FwReadable docLibc (oneNetwork "64") where
  fits := by decide +kernel
  plain i hi _ := by
    rw [eq_of_fwElems hi]
    exact oneNetworkBody_plain

theorem oneNetwork_64_means : FwMeans docLibc (oneNetwork "64") :=
  (ipacmFirewallXmlParseTree_means docLibc (oneNetwork "64") oneNetwork_64_shaped).1
    oneNetwork_64_readable

end Axon7.Config
