import Axon7.Wan.Table

/-!
# Both paths implement the policy

A packet is tried against the rules of its family in their order, and a rule
matches that has every attribute it names. An entry for TCP and UDP is for either,
and the policy asks only whether some entry matches.
-/

namespace Axon7.Wan.Policy

open Axon7.Config (FwEntry FltAttr Dir)
open Axon7.Tether (IpType)

/-! ## Packets -/

/-- What the rules look at in a packet. -/
structure Packet where
  ip : IpType
  v4 : Dir → BitVec 32
  v6 : Dir → Fin 4 → BitVec 32
  tos : BitVec 8
  tc : BitVec 8
  /-- The protocol of IPv4, the next header of IPv6. -/
  protocol : BitVec 8
  ports : Dir → BitVec 16
  type : BitVec 8
  code : BitVec 8
  spi : BitVec 32
  fragment : Bool
  metaData : BitVec 32

/-- A packet of the family has an attribute with the values of an entry. Attributes of
the other family are not looked at. -/
def HasAttr (ip : IpType) (e : FwEntry) (p : Packet) : FltAttr → Prop
  | .addr d =>
    match ip with
    | .v4 => p.v4 d &&& (e.v4 d).mask = (e.v4 d).addr &&& (e.v4 d).mask
    | .v6 => ∀ i, p.v6 d i &&& (e.v6 d).mask i = (e.v6 d).addr i &&& (e.v6 d).mask i
  | .tos => ip = .v4 → p.tos = e.tos
  | .protocol => ip = .v4 → p.protocol = e.protocol
  | .tc => ip = .v6 → p.tc = e.tc
  | .nextHdr => ip = .v6 → p.protocol = e.nextHdr
  | .port d => p.ports d = (e.ports d).port
  | .portRange d => (e.ports d).lo ≤ p.ports d ∧ p.ports d ≤ (e.ports d).hi
  | .type => p.type = e.type
  | .code => p.code = e.code
  | .spi => p.spi = e.spi

instance (ip : IpType) (e : FwEntry) (p : Packet) : DecidablePred (HasAttr ip e p)
  | .addr d =>
    match ip with
    | .v4 => inferInstanceAs
        (Decidable (p.v4 d &&& (e.v4 d).mask = (e.v4 d).addr &&& (e.v4 d).mask))
    | .v6 => inferInstanceAs
        (Decidable (∀ i, p.v6 d i &&& (e.v6 d).mask i = (e.v6 d).addr i &&& (e.v6 d).mask i))
  | .tos | .protocol | .tc | .nextHdr => inferInstanceAs (Decidable (_ = _ → _ = _))
  | .port _ | .type | .code | .spi => inferInstanceAs (Decidable (_ = _))
  | .portRange _ => inferInstanceAs (Decidable (_ ∧ _))

/-- The packet carries the metadata. -/
def RuleAttrib.CarriedBy (a : RuleAttrib) (p : Packet) : Prop :=
  a.metaDataNamed = true → p.metaData &&& a.metaDataMask = a.metaData

instance (a : RuleAttrib) (p : Packet) : Decidable (a.CarriedBy p) :=
  inferInstanceAs (Decidable (_ → _))

/-- Every attribute that is named is there. -/
structure FltRule.Matches (r : FltRule) (p : Packet) : Prop where
  attrs : ∀ a ∈ r.attrib.entry.attribMask, HasAttr r.ip r.attrib.entry p a
  fragment : r.attrib.fragment = true → p.fragment = true
  metaData : r.attrib.CarriedBy p

instance (r : FltRule) (p : Packet) : Decidable (r.Matches p) :=
  decidable_of_iff ((∀ a ∈ r.attrib.entry.attribMask, HasAttr r.ip r.attrib.entry p a) ∧
      (r.attrib.fragment = true → p.fragment = true) ∧ r.attrib.CarriedBy p)
    ⟨fun h => ⟨h.1, h.2.1, h.2.2⟩, fun h => ⟨h.attrs, h.fragment, h.metaData⟩⟩

/-- Where a packet goes. -/
inductive Decision
  | forwarded
  | host
deriving DecidableEq

/-- The table of the modem leads to the host, and so does an exception. -/
def decisionOf (rtTbl : Option RtTbl) : FltAction → Decision
  | .passToException => .host
  | .passToDstNat => .forwarded
  | .passToRouting => if rtTbl = some .wanDl then .host else .forwarded

def FltRule.decision (r : FltRule) : Decision := decisionOf r.rtTbl r.action

/-- The first rule that matches decides. -/
def firstMatch (rules : List FltRule) (p : Packet) : Option Decision :=
  (rules.find? fun r => decide (r.Matches p)).map FltRule.decision

/-! ## The policy -/

/-- An entry for TCP and UDP matches as either. -/
def EntryMatches (ip : IpType) (e : FwEntry) (p : Packet) : Prop :=
  ∀ a ∈ e.attribMask,
    if a = protocolAttr ip ∧ protocolOf ip e = tcpUdp then p.protocol = tcp ∨ p.protocol = udp
    else HasAttr ip e p a

/-- Some entry of the packet's family matches. -/
def FirewallConfig.SomeMatches (cfg : FirewallConfig) (p : Packet) : Prop :=
  ∃ e ∈ cfg.entries, e.ipVsn = ipVsn p.ip ∧ EntryMatches p.ip e p

/-- Forwarded is what comes when the firewall is off, and otherwise what matches if it
accepts and what does not if it denies. -/
def FirewallConfig.Forwards (cfg : FirewallConfig) (p : Packet) : Prop :=
  cfg.firewallEnable = true → (cfg.SomeMatches p ↔ cfg.ruleActionAccept = true)

/-- A receive property names the metadata, or nothing. -/
structure RuleAttrib.OnlyMetaData (rx : RuleAttrib) : Prop where
  attribMask : rx.entry.attribMask = ∅
  fragment : rx.fragment = false

/-! ## Rules that match -/

section Match

variable {rx : RuleAttrib} {p : Packet} {ip : IpType}

theorem matches_anyDst (h : rx.OnlyMetaData) (hp : rx.CarriedBy p) (action : FltAction)
    (rtTbl : Option RtTbl) : (FltRule.mk ip action rtTbl (rx.anyDst ip)).Matches p := by
  cases ip with
  | v4 =>
    refine ⟨fun a ha => ?_, fun hf => absurd hf (by simp [RuleAttrib.anyDst, h.fragment]), hp⟩
    simp only [RuleAttrib.anyDst, FwEntry.setV4, FwEntry.addAttr, h.attribMask,
      Finset.mem_insert, Finset.notMem_empty, or_false] at ha
    subst ha
    simp [HasAttr, RuleAttrib.anyDst, FwEntry.setV4, FwEntry.addAttr]
  | v6 =>
    refine ⟨fun a ha => ?_, fun hf => absurd hf (by simp [RuleAttrib.anyDst, h.fragment]), hp⟩
    simp only [RuleAttrib.anyDst, FwEntry.setV6, FwEntry.addAttr, h.attribMask,
      Finset.mem_insert, Finset.notMem_empty, or_false] at ha
    subst ha
    simp [HasAttr, RuleAttrib.anyDst, FwEntry.setV6, FwEntry.addAttr]

theorem not_matches_fragment (hfrag : p.fragment = false) (action : FltAction)
    (rtTbl : Option RtTbl) : ¬ (FltRule.mk ip action rtTbl rx.withFragment).Matches p := by
  intro hm
  have hp := hm.fragment rfl
  rw [hfrag] at hp
  exact absurd hp (by decide)

theorem not_matches_nextHdr {x : BitVec 8} (hx : p.protocol ≠ x) (action : FltAction)
    (rtTbl : Option RtTbl) :
    ¬ (FltRule.mk .v6 action rtTbl (rx.withNextHdr x)).Matches p := by
  intro hm
  exact hx (hm.attrs .nextHdr (Finset.mem_insert_self ..) rfl)

theorem matches_withEntry_iff (h : rx.OnlyMetaData) (hp : rx.CarriedBy p) (e : FwEntry)
    (action : FltAction) (rtTbl : Option RtTbl) :
    (FltRule.mk ip action rtTbl (rx.withEntry e)).Matches p ↔
      ∀ a ∈ e.attribMask, HasAttr ip e p a := by
  have hmask : (rx.withEntry e).entry.attribMask = e.attribMask := by
    rw [RuleAttrib.withEntry, h.attribMask]
    exact Finset.union_empty _
  have hsame (a : FltAttr) : HasAttr ip (rx.withEntry e).entry p a ↔ HasAttr ip e p a := by
    cases a <;> rfl
  constructor
  · intro hm a ha
    exact (hsame a).mp (hm.attrs a (by rwa [hmask]))
  · intro hm
    refine ⟨fun a ha => (hsame a).mpr (hm a (by rwa [hmask] at ha)), ?_, hp⟩
    intro hf
    exact absurd hf (by simp [RuleAttrib.withEntry, h.fragment])

theorem hasAttr_setProtocol_iff (x : BitVec 8) (e : FwEntry) (a : FltAttr) :
    HasAttr ip (setProtocol x ip e) p a ↔
      if a = protocolAttr ip then p.protocol = x else HasAttr ip e p a := by
  cases ip <;> cases a <;> simp [HasAttr, setProtocol, protocolAttr]

theorem withEntry_setProtocol (x : BitVec 8) (e : FwEntry) :
    { rx.withEntry e with entry := setProtocol x ip (rx.withEntry e).entry } =
      rx.withEntry (setProtocol x ip e) := by
  cases ip <;> rfl

theorem attribMask_setProtocol (x : BitVec 8) (e : FwEntry) :
    (setProtocol x ip e).attribMask = e.attribMask := by
  cases ip <;> rfl

theorem exists_entryRules_iff (h : rx.OnlyMetaData) (hp : rx.CarriedBy p) (e : FwEntry)
    (action : FltAction) (rtTbl : Option RtTbl) :
    (∃ r ∈ entryRules ip action rtTbl rx e, r.Matches p) ↔ EntryMatches ip e p := by
  rw [entryRules, EntryMatches]
  by_cases hboth : protocolOf ip e = tcpUdp
  · rw [if_pos hboth]
    simp only [List.mem_cons, List.not_mem_nil, or_false, exists_eq_or_imp,
      exists_eq_left, withEntry_setProtocol, matches_withEntry_iff h hp,
      attribMask_setProtocol, hasAttr_setProtocol_iff, hboth, and_true]
    constructor
    · intro hm a ha
      by_cases hproto : a = protocolAttr ip
      · rw [if_pos hproto]
        refine hm.imp (fun hm => ?_) fun hm => ?_
        · simpa only [if_pos hproto] using hm a ha
        · simpa only [if_pos hproto] using hm a ha
      · rw [if_neg hproto]
        obtain hm | hm := hm
        · simpa only [if_neg hproto] using hm a ha
        · simpa only [if_neg hproto] using hm a ha
    · intro hm
      -- a named protocol tells which of the two rules it is; otherwise either does
      have hor : (protocolAttr ip ∈ e.attribMask → p.protocol = tcp) ∨
          (protocolAttr ip ∈ e.attribMask → p.protocol = udp) := by
        by_cases hnamed : protocolAttr ip ∈ e.attribMask
        · have hproto := hm _ hnamed
          rw [if_pos rfl] at hproto
          exact hproto.imp (fun h _ => h) fun h _ => h
        · exact Or.inl fun hn => absurd hn hnamed
      have hrule {x : BitVec 8} (hx : protocolAttr ip ∈ e.attribMask → p.protocol = x) :
          ∀ a ∈ e.attribMask,
            if a = protocolAttr ip then p.protocol = x else HasAttr ip e p a := by
        intro a ha
        by_cases hproto : a = protocolAttr ip
        · rw [if_pos hproto]
          exact hx (hproto ▸ ha)
        · rw [if_neg hproto]
          have hother := hm a ha
          rwa [if_neg hproto] at hother
      exact hor.imp hrule hrule
  · rw [if_neg hboth]
    simp only [List.mem_singleton, exists_eq_left, matches_withEntry_iff h hp, hboth,
      and_false, if_false]

theorem of_mem_entryRules {action : FltAction} {rtTbl : Option RtTbl} {e : FwEntry}
    {r : FltRule} (hr : r ∈ entryRules ip action rtTbl rx e) :
    r.action = action ∧ r.rtTbl = rtTbl := by
  rw [entryRules] at hr
  split at hr
  · rw [List.mem_cons, List.mem_singleton] at hr
    obtain rfl | rfl := hr <;> exact ⟨rfl, rfl⟩
  · obtain rfl := List.mem_singleton.mp hr
    exact ⟨rfl, rfl⟩

end Match

/-! ## The first rule that matches -/

section First

variable {p : Packet}

theorem firstMatch_append {rules rest : List FltRule} (h : ∀ r ∈ rules, ¬ r.Matches p) :
    firstMatch (rules ++ rest) p = firstMatch rest p := by
  have hnone : rules.find? (fun r => decide (r.Matches p)) = none := by
    rw [List.find?_eq_none]
    intro r hr
    simpa using h r hr
  rw [firstMatch, firstMatch, List.find?_append, hnone, Option.none_or]

theorem firstMatch_of_exists {rules rest : List FltRule} {d : Decision}
    (hd : ∀ r ∈ rules, r.decision = d) (h : ∃ r ∈ rules, r.Matches p) :
    firstMatch (rules ++ rest) p = some d := by
  obtain ⟨r, hr, hm⟩ := h
  have hsome : (rules.find? fun r => decide (r.Matches p)).isSome = true := by
    rw [List.find?_isSome]
    exact ⟨r, hr, decide_eq_true hm⟩
  obtain ⟨r', hr'⟩ := Option.isSome_iff_exists.mp hsome
  rw [firstMatch, List.find?_append, hr', Option.some_or, Option.map_some,
    hd r' (List.mem_of_find?_eq_some hr')]

theorem firstMatch_last {last : FltRule} (h : last.Matches p) :
    firstMatch [last] p = some last.decision := by
  have hfind : [last].find? (fun r => decide (r.Matches p)) = some last :=
    List.find?_cons_of_pos (decide_eq_true h)
  rw [firstMatch, hfind, Option.map_some]

variable {cfg : FirewallConfig} {rx : RuleAttrib} (action : FltAction)
  (rtTbl : Option RtTbl) {ip : IpType} {front mid : List FltRule} {last : FltRule}

theorem exists_entriesRules_iff (hip : p.ip = ip) (hrx : rx.OnlyMetaData) (hp : rx.CarriedBy p) :
    (∃ r ∈ cfg.entriesRules ip action rtTbl rx, r.Matches p) ↔
      cfg.firewallEnable = true ∧ cfg.SomeMatches p := by
  subst hip
  rw [FirewallConfig.entriesRules]
  by_cases hon : cfg.firewallEnable = true
  · rw [if_pos hon]
    constructor
    · intro ⟨r, hr, hm⟩
      obtain ⟨e, he, hr⟩ := List.mem_flatMap.mp hr
      obtain ⟨hmem, hvsn⟩ := List.mem_filter.mp he
      exact ⟨hon, e, hmem, of_decide_eq_true hvsn,
        (exists_entryRules_iff hrx hp e action rtTbl).mp ⟨r, hr, hm⟩⟩
    · intro ⟨_, e, hmem, hvsn, hm⟩
      obtain ⟨r, hr, hm⟩ := (exists_entryRules_iff hrx hp e action rtTbl).mpr hm
      exact ⟨r, List.mem_flatMap.mpr
        ⟨e, List.mem_filter.mpr ⟨hmem, decide_eq_true hvsn⟩, hr⟩, hm⟩
  · rw [if_neg hon]
    exact ⟨fun ⟨r, hr, _⟩ => absurd hr List.not_mem_nil, fun h => absurd h.1 hon⟩

variable {action rtTbl} in
theorem decision_of_mem_entriesRules {r : FltRule}
    (hr : r ∈ cfg.entriesRules ip action rtTbl rx) :
    r.decision = decisionOf rtTbl action := by
  rw [FirewallConfig.entriesRules] at hr
  split at hr
  · obtain ⟨e, -, hr⟩ := List.mem_flatMap.mp hr
    obtain ⟨haction, htbl⟩ := of_mem_entryRules hr
    rw [FltRule.decision, haction, htbl]
  · exact absurd hr List.not_mem_nil

theorem firstMatch_rules (hip : p.ip = ip) (hrx : rx.OnlyMetaData) (hp : rx.CarriedBy p)
    (hfront : ∀ r ∈ front, ¬ r.Matches p) (hmid : ∀ r ∈ mid, ¬ r.Matches p)
    (hlast : last.Matches p) :
    (cfg.firewallEnable = true → cfg.SomeMatches p →
        firstMatch (front ++ cfg.entriesRules ip action rtTbl rx ++ (mid ++ [last])) p =
          some (decisionOf rtTbl action)) ∧
      (¬ (cfg.firewallEnable = true ∧ cfg.SomeMatches p) →
        firstMatch (front ++ cfg.entriesRules ip action rtTbl rx ++ (mid ++ [last])) p =
          some last.decision) := by
  rw [List.append_assoc, firstMatch_append hfront]
  refine ⟨fun hon hsome => ?_, fun hno => ?_⟩
  · exact firstMatch_of_exists (fun r hr => decision_of_mem_entriesRules hr)
      ((exists_entriesRules_iff action rtTbl hip hrx hp).mpr ⟨hon, hsome⟩)
  · have hnone : ∀ r ∈ cfg.entriesRules ip action rtTbl rx, ¬ r.Matches p :=
      fun r hr hm => hno ((exists_entriesRules_iff action rtTbl hip hrx hp).mp ⟨r, hr, hm⟩)
    rw [firstMatch_append hnone, firstMatch_append hmid, firstMatch_last hlast]

theorem firstMatch_policy (hip : p.ip = ip) (hrx : rx.OnlyMetaData) (hp : rx.CarriedBy p)
    (hfront : ∀ r ∈ front, ¬ r.Matches p) (hmid : ∀ r ∈ mid, ¬ r.Matches p)
    (hlast : last.Matches p)
    (hentry : decisionOf rtTbl action = .forwarded ↔
      cfg.ruleActionAccept = true)
    (hdft : last.decision = .forwarded ↔
      (cfg.firewallEnable = true → cfg.ruleActionAccept = false)) :
    ∃ d, firstMatch (front ++ cfg.entriesRules ip action rtTbl rx ++ (mid ++ [last])) p =
        some d ∧ (d = .forwarded ↔ cfg.Forwards p) := by
  obtain ⟨hsome, hno⟩ := @firstMatch_rules p cfg rx action rtTbl ip front mid last
    hip hrx hp hfront hmid hlast
  by_cases h : cfg.firewallEnable = true ∧ cfg.SomeMatches p
  · refine ⟨_, hsome h.1 h.2, hentry.trans ?_⟩
    rw [FirewallConfig.Forwards]
    exact ⟨fun ha _ => ⟨fun _ => ha, fun _ => h.2⟩, fun hf => (hf h.1).mp h.2⟩
  · refine ⟨_, hno h, hdft.trans ?_⟩
    rw [FirewallConfig.Forwards]
    refine imp_congr_right fun hon => ?_
    have hnone : ¬ cfg.SomeMatches p := fun hs => h ⟨hon, hs⟩
    rw [iff_false_left hnone, Bool.not_eq_true]

end First

/-! ## Both paths -/

section Paths

variable {p : Packet}

theorem not_matches_frag {cfg : FirewallConfig} {ip : IpType} {action : FltAction}
    {rtTbl : Option RtTbl} {rx : RuleAttrib} (hfrag : p.fragment = false) :
    ∀ r ∈ (if cfg.hasFragRule ip then
        [FltRule.mk .v6 action rtTbl rx.withFragment] else []), ¬ r.Matches p := by
  intro r hr
  split at hr
  · obtain rfl := List.mem_singleton.mp hr
    exact not_matches_fragment hfrag action rtTbl
  · exact absurd hr List.not_mem_nil

theorem entriesRules_eq_nil {cfg : FirewallConfig} {ip : IpType} (h : cfg.numRules ip = 0)
    (action : FltAction) (rtTbl : Option RtTbl) (rx : RuleAttrib) :
    cfg.entriesRules ip action rtTbl rx = [] := by
  have hnone : (cfg.entries.filter fun e => decide (e.ipVsn = ipVsn ip)) = [] := by
    rw [List.filter_eq_nil_iff]
    intro e he
    cases ip with
    | v4 => exact List.countP_eq_zero.mp h e he
    | v6 =>
      have hno := List.countP_eq_zero.mp h e he
      have hvsn : e.ipVsn = 4 := by simpa using hno
      simp [ipVsn, hvsn]
  rw [FirewallConfig.entriesRules, hnone]
  split <;> rfl

theorem configDftFirewallRules_v4 (cfg : FirewallConfig) (rx : RuleAttrib) :
    configDftFirewallRules cfg rx true .v4 =
      [] ++ cfg.entriesRules .v4
          (if cfg.ruleActionAccept then passV4 true else .passToException) (some .lanV4) rx ++
        ([] ++ [dftRule cfg rx true .v4]) := by
  have hfrag : cfg.hasFragRule .v4 = false := rfl
  rw [configDftFirewallRules, hfrag]
  split
  · rename_i hnum
    rw [entriesRules_eq_nil hnum]
    rfl
  · rfl

theorem configDftFirewallRules_v6 (cfg : FirewallConfig) (rx : RuleAttrib) :
    configDftFirewallRules cfg rx true .v6 =
      (if cfg.hasFragRule .v6 then [⟨.v6, .passToException, none, rx.withFragment⟩] else []) ++
          cfg.entriesRules .v6
            (if cfg.ruleActionAccept then .passToRouting else .passToException)
            (some .wanV6) rx ++
        ([⟨.v6, .passToException, none, rx.withNextHdr icmp6⟩] ++
          [dftRule cfg rx true .v6]) := by
  rw [configDftFirewallRules]
  split
  · rename_i hnum
    rw [entriesRules_eq_nil hnum, List.append_nil]
    rfl
  · rfl

theorem configDftFirewallRules_met (cfg : FirewallConfig) {rx : RuleAttrib}
    (hrx : rx.OnlyMetaData) (hp : rx.CarriedBy p) (hfrag : p.fragment = false)
    (hicmp : p.ip = .v6 → p.protocol ≠ icmp6) :
    ∃ d, firstMatch (configDftFirewallRules cfg rx true p.ip) p = some d ∧
      (d = .forwarded ↔ cfg.Forwards p) := by
  cases hip : p.ip with
  | v4 =>
    rw [configDftFirewallRules_v4]
    refine firstMatch_policy _ _ hip hrx hp (fun r hr => absurd hr List.not_mem_nil)
      (fun r hr => absurd hr List.not_mem_nil) (matches_anyDst hrx hp _ _) ?_ ?_
    · cases cfg.ruleActionAccept <;> decide
    · simp only [dftRule, FltRule.decision]
      cases cfg.ruleActionAccept <;> cases cfg.firewallEnable <;> decide
  | v6 =>
    rw [configDftFirewallRules_v6]
    refine firstMatch_policy _ _ hip hrx hp (not_matches_frag hfrag) (fun r hr => ?_)
      (matches_anyDst hrx hp _ _) ?_ ?_
    · obtain rfl := List.mem_singleton.mp hr
      exact not_matches_nextHdr (hicmp hip) _ _
    · cases cfg.ruleActionAccept <;> decide
    · simp only [dftRule, FltRule.decision]
      cases cfg.ruleActionAccept <;> cases cfg.firewallEnable <;> decide

theorem configDftFirewallRulesEx_met (cfg : FirewallConfig) {rx : Fin 2 → RuleAttrib}
    (hrx : ∀ i, (rx i).OnlyMetaData) (hp : ∀ i, (rx i).CarriedBy p)
    (hfrag : p.fragment = false) :
    ∃ d, firstMatch (configDftFirewallRulesEx cfg rx false p.ip) p = some d ∧
      (d = .forwarded ↔ cfg.Forwards p) := by
  cases hip : p.ip with
  | v4 =>
    have hnofrag : cfg.hasFragRule .v4 = false := rfl
    rw [configDftFirewallRulesEx, hnofrag]
    refine @firstMatch_policy p cfg (rx 0) _ _ .v4 [] [] _ hip (hrx 0) (hp 0)
      (fun r hr => absurd hr List.not_mem_nil) (fun r hr => absurd hr List.not_mem_nil)
      (matches_anyDst (hrx 0) (hp 0) _ _) ?_ ?_
    · cases cfg.ruleActionAccept <;> decide
    · simp only [FltRule.decision]
      cases cfg.ruleActionAccept <;> cases cfg.firewallEnable <;> decide
  | v6 =>
    rw [configDftFirewallRulesEx]
    refine @firstMatch_policy p cfg (rx 0) _ _ .v6 _ [] _ hip (hrx 0) (hp 0)
      (not_matches_frag hfrag) (fun r hr => absurd hr List.not_mem_nil)
      (matches_anyDst (hrx 1) (hp 1) _ _) ?_ ?_
    · cases cfg.ruleActionAccept <;> decide
    · simp only [FltRule.decision]
      cases cfg.ruleActionAccept <;> cases cfg.firewallEnable <;> decide

/-- Behind a router, both paths decide as the policy says about every packet that is
not a fragment and not ICMPv6. -/
theorem configDftFirewallRules_policy (cfg : FirewallConfig) (rx : Fin 2 → RuleAttrib)
    (p : Packet) (hrx : ∀ i, (rx i).OnlyMetaData) (hp : ∀ i, (rx i).CarriedBy p)
    (hfrag : p.fragment = false) (hicmp : p.ip = .v6 → p.protocol ≠ icmp6) :
    ∃ d, firstMatch (configDftFirewallRules cfg (rx 0) true p.ip) p = some d ∧
      firstMatch (configDftFirewallRulesEx cfg rx false p.ip) p = some d ∧
      (d = .forwarded ↔ cfg.Forwards p) := by
  obtain ⟨d, hd, hiff⟩ := configDftFirewallRules_met cfg (hrx 0) (hp 0) hfrag hicmp
  obtain ⟨d', hd', hiff'⟩ := configDftFirewallRulesEx_met cfg hrx hp hfrag
  have hsame : d' = d := by
    have hboth : d' = .forwarded ↔ d = .forwarded := hiff'.trans hiff.symm
    cases d <;> cases d' <;> simp at hboth <;> rfl
  exact ⟨d, hd, hsame ▸ hd', hiff⟩

end Paths

/-- A packet for the DNS port of some host. -/
def dnsPacket : Packet where
  ip := .v4
  v4 _ := 0x0a000001
  v6 _ _ := 0
  tos := 0
  tc := 0
  protocol := udp
  ports _ := 53
  type := 0
  code := 0
  spi := 0
  fragment := false
  metaData := 0x00010000

/-- Metadata of some PDN. -/
def pdnAttrib : RuleAttrib := ⟨.blank, false, true, 0x00010000, 0x00ff0000⟩

/-- DNS is denied, over TCP and UDP. -/
def noDns : FirewallConfig where
  entries :=
    [{ FwEntry.blank with
      attribMask := {.protocol, .port .dst}, ipVsn := 4, protocol := tcpUdp
      ports := fun _ => ⟨53, 0, 0⟩ }]
  ruleActionAccept := false
  firewallEnable := true

theorem noDns_dnsPacket : ∃ d,
    firstMatch (configDftFirewallRules noDns pdnAttrib true .v4) dnsPacket = some d ∧
      firstMatch (configDftFirewallRulesEx noDns (fun _ => pdnAttrib) false .v4) dnsPacket =
        some d ∧
      (d = .forwarded ↔ noDns.Forwards dnsPacket) :=
  configDftFirewallRules_policy noDns (fun _ => pdnAttrib) dnsPacket
    (fun _ => ⟨rfl, rfl⟩) (fun _ => by decide) rfl (fun h => absurd h (by decide))

end Axon7.Wan.Policy
