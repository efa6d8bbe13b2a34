import Axon7.Wan.Downlink
import Axon7.Wan.Frame

/-!
# PDNs of the modem and their rules

What the handlers of an instance in modem mode do to the tables of rules for the modem,
for each family, in the terms of `Axon7.Wan.Downlink`.
-/

namespace Axon7.Wan

open Axon7.Tether (IpType IfaceIpType Addr)

/-! ## Views -/

/-- What of an instance the tables depend on. -/
structure PdnView where
  conf : Conf
  ipType : IfaceIpType
  wanV4AddrSet : Bool
  ipv6Addr : List (BitVec 128)
  ipv6Prefix : BitVec 64
  active : IpType → Bool
  isDefaultGateway : Bool
  waiting : IpType → Bool
  numWanClient : Nat

def Iface.pdnView (i : Iface) : PdnView where
  conf := i.conf
  ipType := i.ipType
  wanV4AddrSet := i.wanV4AddrSet
  ipv6Addr := i.ipv6Addr
  ipv6Prefix := i.ipv6Prefix
  active := i.active
  isDefaultGateway := i.isDefaultGateway
  waiting := i.headerPartialDefaultWan
  numWanClient := i.numWanClient

/-- The tables, the number of PDNs, and what the rules are made from. -/
structure FltView where
  flt : IpType → Table
  numModemPdn : IpType → Int
  algPorts : List (Nat × Nat)
  isBridge : Bool

def Statics.fltView (g : Statics) : FltView where
  flt := g.flt
  numModemPdn := g.numModemPdn
  algPorts := g.algPorts
  isBridge := g.backhaulIsWanBridge

namespace PdnView

/-- The instance is counted as a PDN of the family. -/
def hasAddr (v : PdnView) : IpType → Bool
  | .v4 => v.wanV4AddrSet
  | .v6 => 1 < v.ipv6Addr.length

/-- The instance, as far as the family is concerned. -/
def pdn (ip : IpType) (v : PdnView) : Pdn where
  metaData := v.conf.metaData
  hasAddr := v.hasAddr ip
  active := v.active ip
  refreshes := v.isDefaultGateway && v.ipType.has ip

/-- An instance in modem mode with receive properties. Its first IPv6 address is not a
global one, and its second is. -/
structure Modem (v : PdnView) : Prop where
  q6 : v.conf.staMode = .q6Wan
  rx : v.conf.rx ≠ []
  numWanClient : v.numWanClient = 0
  waiting : ∀ ip, v.waiting ip = false
  tx : ∀ ip, v.ipType.has ip = true → v.conf.tx ≠ []
  v4 : v.wanV4AddrSet = v.ipType.has .v4
  v6 : v.ipv6Addr ≠ [] → v.ipType.has .v6 = true
  pfx : v.ipv6Prefix ≠ 0 → 1 < v.ipv6Addr.length
  global : (∃ a ∈ v.ipv6Addr, Iface.isGlobalIpv6Addr a = true) ↔ 1 < v.ipv6Addr.length

end PdnView

namespace FltView

/-- A PDN of the family gets its address. -/
def init (ip : IpType) (f : FltView) : FltView :=
  { f with
    flt := if f.numModemPdn ip = 0 then Function.update f.flt ip ((f.flt ip).reset ip) else f.flt
    numModemPdn := Function.update f.numModemPdn ip (f.numModemPdn ip + 1) }

def set (ip : IpType) (t : Table) (f : FltView) : FltView :=
  { f with flt := Function.update f.flt ip t }

/-- What is behind the default rules is deleted. -/
def del (ip : IpType) (f : FltView) : FltView := f.set ip ((f.flt ip).delWanFirewallRule ip)

/-- A PDN of the family goes. -/
def dec (ip : IpType) (f : FltView) : FltView :=
  { f with numModemPdn := Function.update f.numModemPdn ip (f.numModemPdn ip - 1) }

/-- With the last PDN of the family all rules go. -/
def clear (ip : IpType) (f : FltView) : FltView :=
  if f.numModemPdn ip = 0 then f.set ip { (f.flt ip).zeroFrom 0 with num := 0 } else f

end FltView

/-- The views of an instance and of what the instances share. -/
def viewOf (x : Iface × Statics) : PdnView × FltView := (x.1.pdnView, x.2.fltView)

namespace Iface

variable (alloc : Alloc) {i : Iface} {g : Statics} {ip : IpType} {fw : FirewallConf}

theorem isSta_of_q6 {c : Conf} (h : c.staMode = .q6Wan) : c.isSta = false := by
  simp [Conf.isSta, h]

theorem installWanFilteringRule_fltView (conf : Conf) (g : Statics) :
    (g.installWanFilteringRule conf).fltView = g.fltView := by
  rw [Statics.installWanFilteringRule]
  split <;> rfl

/-! ## Addresses -/

theorem viewOf_addAt (ps : List Place) (x : Iface × Statics) :
    viewOf (x.1.addAt alloc ps x.2) = viewOf x := by
  obtain ⟨hdl, k, heq⟩ := addAt_frame alloc x.1 x.2 ps
  rw [heq]
  rfl

theorem viewOf_initFl (ip : IpType) (x : Iface × Statics) (h : x.1.conf.staMode = .q6Wan) :
    viewOf (x.1.initFl alloc ip x.2) = (x.1.pdnView, x.2.fltView.init ip) := by
  have hidx : Function.update x.1.modemPdnIndex ip (x.2.numModemPdn ip) ip = x.2.numModemPdn ip :=
    Function.update_self ..
  rw [initFl, isSta_of_q6 h, if_neg Bool.false_ne_true]
  dsimp only
  rw [initFlRuleEx, viewOf]
  dsimp only
  rw [installWanFilteringRule_fltView, FltView.init,
    show x.2.fltView.numModemPdn = x.2.numModemPdn from rfl]
  by_cases hnum : x.2.numModemPdn ip = 0
  · rw [if_pos (hidx.trans hnum), if_pos hnum]
    rfl
  · rw [if_neg fun hzero => hnum (hidx.symm.trans hzero), if_neg hnum]
    rfl

theorem viewOf_addV6Addr (addr : BitVec 128) (i : Iface) (g : Statics)
    (h : i.conf.staMode = .q6Wan) :
    viewOf
      (let n := i.ipv6Addr.length
      let x := i.addAt alloc [.dftRtV6 (2 * n), .dftRtV6 (2 * n + 1)] g
      let x := if n = 1 then x.1.initFl alloc .v6 x.2 else x
      let y := x.1.addAt alloc [.ipv6DestFlt x.1.numIpv6DestFltRule] x.2
      let x :=
        if x.1.conf.isSta && isGlobalIpv6Addr addr &&
            x.1.numIpv6DestFltRule < Tether.maxDftRtV6 then
          ({ y.1 with numIpv6DestFltRule := y.1.numIpv6DestFltRule + 1 }, y.2)
        else x
      let j :=
        if isGlobalIpv6Addr addr then { x.1 with ipv6Prefix := addr.extractLsb' 64 64 }
        else x.1
      ({ j with ipv6Addr := j.ipv6Addr ++ [addr] }, x.2)) =
      ({ i.pdnView with
        ipv6Addr := i.ipv6Addr ++ [addr]
        ipv6Prefix :=
          if isGlobalIpv6Addr addr then addr.extractLsb' 64 64 else i.ipv6Prefix },
        if i.ipv6Addr.length = 1 then g.fltView.init .v6 else g.fltView) := by
  extract_lets n x₁ x₂ y y₁ x₃ i₃ j
  have h₁ : viewOf x₁ = (i.pdnView, g.fltView) := viewOf_addAt alloc _ (i, g)
  have hfst : x₁.1.pdnView = i.pdnView := congrArg Prod.fst h₁
  have hsnd : x₁.2.fltView = g.fltView := congrArg Prod.snd h₁
  have h₂ : viewOf x₂ =
      (i.pdnView, if i.ipv6Addr.length = 1 then g.fltView.init .v6 else g.fltView) := by
    have hconf : x₁.1.conf.staMode = .q6Wan := by
      rw [show x₁.1.conf = i.conf from congrArg (fun v => v.1.conf) h₁]
      exact h
    simp only [x₂, n]
    split
    · rw [viewOf_initFl alloc .v6 x₁ hconf, hfst, hsnd]
    · exact h₁
  have h₃ : x₃ = x₂ := by
    have hconf : x₂.1.conf = i.conf := congrArg (fun v => v.1.conf) h₂
    have hoff : (x₂.1.conf.isSta && isGlobalIpv6Addr addr &&
        x₂.1.numIpv6DestFltRule < Tether.maxDftRtV6) ≠ true := by
      rw [hconf, isSta_of_q6 h]
      exact Bool.false_ne_true
    exact if_neg hoff
  have hj : j.pdnView = { i.pdnView with
      ipv6Prefix := if isGlobalIpv6Addr addr then addr.extractLsb' 64 64 else i.ipv6Prefix } := by
    have hfst : x₂.1.pdnView = i.pdnView := congrArg Prod.fst h₂
    simp only [j, i₃, h₃]
    split
    · show { x₂.1.pdnView with ipv6Prefix := addr.extractLsb' 64 64 } = _
      rw [hfst]
    · exact hfst
  refine Prod.ext ?_ ?_
  · show { j.pdnView with ipv6Addr := j.pdnView.ipv6Addr ++ [addr] } = _
    rw [hj]
    rfl
  · show x₃.2.fltView = _
    rw [h₃]
    exact congrArg Prod.snd h₂

theorem viewOf_addV4Addr (addr : BitVec 32) (i : Iface) (g : Statics)
    (h : i.conf.staMode = .q6Wan) :
    viewOf
      (let g := if i.wanV4AddrSet then i.delAt [.dftRtV4] g else g
      let x := i.addAt alloc [.dftRtV4] g
      let x := if x.1.wanV4AddrSet then x else x.1.initFl alloc .v4 x.2
      ({ x.1 with wanV4Addr := addr, wanV4AddrSet := true },
        if x.1.conf.isSta then x.2 else { x.2 with currWanIp := addr })) =
      ({ i.pdnView with wanV4AddrSet := true },
        if i.wanV4AddrSet then g.fltView else g.fltView.init .v4) := by
  extract_lets g' x₁ x₂
  have hdel : g'.fltView = g.fltView := by
    simp only [g']
    split <;> rfl
  have h₁ : viewOf x₁ = (i.pdnView, g.fltView) :=
    (viewOf_addAt alloc _ (i, g')).trans (Prod.ext rfl hdel)
  have hfst : x₁.1.pdnView = i.pdnView := congrArg Prod.fst h₁
  have hsnd : x₁.2.fltView = g.fltView := congrArg Prod.snd h₁
  have hset : x₁.1.wanV4AddrSet = i.wanV4AddrSet := congrArg (fun v => v.1.wanV4AddrSet) h₁
  have h₂ : viewOf x₂ =
      (i.pdnView, if i.wanV4AddrSet then g.fltView else g.fltView.init .v4) := by
    have hconf : x₁.1.conf.staMode = .q6Wan := by
      rw [show x₁.1.conf = i.conf from congrArg (fun v => v.1.conf) h₁]
      exact h
    simp only [x₂, hset]
    split
    · exact h₁
    · rw [viewOf_initFl alloc .v4 x₁ hconf, hfst, hsnd]
  refine Prod.ext ?_ ?_
  · show { x₂.1.pdnView with wanV4AddrSet := true } = _
    rw [show x₂.1.pdnView = i.pdnView from congrArg Prod.fst h₂]
  · have hsnd : x₂.2.fltView =
        if i.wanV4AddrSet then g.fltView else g.fltView.init .v4 := congrArg Prod.snd h₂
    refine Eq.trans ?_ hsnd
    rw [viewOf]
    dsimp only
    split <;> rfl

theorem viewOf_handleV4Addr (h : i.conf.staMode = .q6Wan)
    (hprops : ¬ (i.conf.tx = [] ∨ i.conf.rx = [])) (addr : BitVec 32) (g : Statics) :
    viewOf (i.handleAddrEvt alloc (.v4 addr) g) =
      ({ i.pdnView with ipType := i.ipType.config .v4, wanV4AddrSet := true },
        if i.wanV4AddrSet then g.fltView else g.fltView.init .v4) := by
  rw [handleAddrEvt, if_neg hprops]
  dsimp only [Addr.ipType]
  split
  case isTrue hold =>
    rw [Bool.and_eq_true] at hold
    rw [if_pos hold.1]
    refine Prod.ext ?_ rfl
    show { i.pdnView with ipType := i.ipType.config .v4 } = _
    rw [← hold.1]
    rfl
  case isFalse => exact viewOf_addV4Addr alloc addr { i with ipType := i.ipType.config .v4 } g h

theorem viewOf_handleV6Addr (h : i.conf.staMode = .q6Wan)
    (hprops : ¬ (i.conf.tx = [] ∨ i.conf.rx = [])) (addr : BitVec 128) (g : Statics) :
    viewOf (i.handleAddrEvt alloc (.v6 addr) g) =
      if addr ∈ i.ipv6Addr then ({ i.pdnView with ipType := i.ipType.config .v6 }, g.fltView)
      else
        ({ i.pdnView with
          ipType := i.ipType.config .v6
          ipv6Addr := i.ipv6Addr ++ [addr]
          ipv6Prefix :=
            if isGlobalIpv6Addr addr then addr.extractLsb' 64 64 else i.ipv6Prefix },
          if i.ipv6Addr.length = 1 then g.fltView.init .v6 else g.fltView) := by
  rw [handleAddrEvt, if_neg hprops]
  dsimp only [Addr.ipType]
  split
  · rfl
  · exact viewOf_addV6Addr alloc addr { i with ipType := i.ipType.config .v6 } g h

/-! ## Routes -/

theorem handleStaHeaderAddEvt_eq (h : i.pdnView.Modem) (fw : FirewallConf) (u : Upstream)
    (hgw : hasGateway u = true) (g : Statics) :
    (i.setGateway u).handleStaHeaderAddEvt alloc fw g = (i.setGateway u, g) := by
  have hnum : i.numWanClient = 0 := h.numWanClient
  have hgateway : ∀ i' : Iface, i'.numWanClient = 0 → ∀ ip, (i'.findGateway ip).1 = i' ∧
      ((i'.findGateway ip).2 = true → match ip with
        | .v4 => i'.wanV4AddrGw = none
        | .v6 => i'.wanV6AddrGw = none) := by
    intro i' hnum ip
    cases ip with
    | v4 =>
      rw [findGateway]
      cases i'.wanV4AddrGw with
      | none => exact ⟨rfl, fun _ => rfl⟩
      | some addr => simp [wanClientIndexIpv4, hnum]
    | v6 =>
      rw [findGateway]
      cases i'.wanV6AddrGw with
      | none => exact ⟨rfl, fun _ => rfl⟩
      | some addr => simp [wanClientIndexIpv6, hnum]
  have hnum' : (i.setGateway u).numWanClient = 0 := by
    cases u with
    | v4 gw => cases gw <;> exact hnum
    | v6 gw => cases gw <;> exact hnum
  rw [handleStaHeaderAddEvt]
  split
  · rfl
  obtain ⟨hv4, hgw4⟩ := hgateway _ hnum' .v4
  rcases hf4 : (i.setGateway u).findGateway .v4 with ⟨i₁, b₁⟩
  rw [hf4] at hv4 hgw4
  obtain rfl : i₁ = i.setGateway u := hv4
  cases b₁ with
  | false => rfl
  | true =>
    dsimp only
    obtain ⟨hv6, hgw6⟩ := hgateway _ hnum' .v6
    rcases hf6 : (i.setGateway u).findGateway .v6 with ⟨i₂, b₂⟩
    rw [hf6] at hv6 hgw6
    obtain rfl : i₂ = i.setGateway u := hv6
    cases b₂ with
    | false => rfl
    | true =>
      have hnone4 : (i.setGateway u).wanV4AddrGw = none := hgw4 rfl
      have hnone6 : (i.setGateway u).wanV6AddrGw = none := hgw6 rfl
      cases u with
      | v4 gw =>
        cases gw with
        | none => exact absurd hgw Bool.false_ne_true
        | some addr => exact absurd hnone4 (Option.some_ne_none addr)
      | v6 gw =>
        cases gw with
        | none => exact absurd hgw Bool.false_ne_true
        | some addr => exact absurd hnone6 (Option.some_ne_none addr)

/-- The PDN takes the default route. -/
def TakesRoute (u : Upstream) (i : Iface) : Prop :=
  i.ipType.has u.ipType = true ∧ ¬ (u.ipType = .v6 ∧ i.ipv6Prefix = 0) ∧
    i.active u.ipType = false ∧ i.conf.ext ≠ []

instance (u : Upstream) (i : Iface) : Decidable (i.TakesRoute u) :=
  inferInstanceAs (Decidable (_ ∧ _ ∧ _ ∧ _))

theorem viewOf_routeUp (h : i.conf.staMode = .q6Wan) (ip : IpType) (fw : FirewallConf)
    (g : Statics) : viewOf (i.routeUp alloc ip fw g) =
      ({ i.pdnView with active := Function.update i.active ip true },
        g.fltView.set ip ((g.flt ip).configWanFirewallRule g.algPorts fw g.backhaulIsWanBridge
          i.conf.metaData ip)) := by
  rw [routeUp]
  obtain ⟨hdl, k, heq⟩ := addDefaultRoute_frame alloc i g ip
  rw [heq]
  dsimp only
  rw [isSta_of_q6 h, if_neg Bool.false_ne_true]
  refine Prod.ext rfl ?_
  show Statics.fltView (Statics.installWanFilteringRule _ _) = _
  rw [installWanFilteringRule_fltView]
  rfl

theorem viewOf_handleRouteAddEvt (h : i.conf.staMode = .q6Wan) (htx : i.conf.tx ≠ [])
    (ip : IpType) (fw : FirewallConf) (g : Statics) :
    viewOf (i.handleRouteAddEvt alloc ip fw g) =
      if i.conf.ext = [] then
        ({ i.pdnView with isDefaultGateway := true },
          { g.fltView with isBridge := i.conf.isBridge })
      else
        ({ i.pdnView with
          active := Function.update i.active ip true
          isDefaultGateway := true },
          { g.fltView with isBridge := i.conf.isBridge }.set ip
            ((g.flt ip).configWanFirewallRule g.algPorts fw i.conf.isBridge i.conf.metaData
              ip)) := by
  rw [handleRouteAddEvt, if_neg htx]
  dsimp only
  rw [isSta_of_q6 h, if_neg Bool.false_ne_true]
  split
  case h_1 hext =>
    rw [if_pos hext]
    rfl
  case h_2 muxId _ hext =>
    rw [hext, if_neg (List.cons_ne_nil _ _)]
    exact viewOf_routeUp alloc (i := { i with isDefaultGateway := true }) h ip fw
      { g with
        backhaulIsWanBridge := i.conf.isBridge
        backhaulIsStaMode := false
        qmapId := muxId }

theorem handleUpstreamRouteAdd_view (h : i.pdnView.Modem) (u : Upstream) (fw : FirewallConf)
    (g : Statics) :
    (i.TakesRoute u ∧ viewOf (i.handleUpstreamRouteAdd alloc u fw g) =
      ({ i.pdnView with
        active := Function.update i.active u.ipType true
        isDefaultGateway := true },
        { g.fltView with isBridge := i.conf.isBridge }.set u.ipType
          ((g.flt u.ipType).configWanFirewallRule g.algPorts fw i.conf.isBridge
            i.conf.metaData u.ipType))) ∨
      ¬ i.TakesRoute u ∧ ∃ dgw isBridge, viewOf (i.handleUpstreamRouteAdd alloc u fw g) =
        ({ i.pdnView with isDefaultGateway := dgw }, { g.fltView with isBridge := isBridge }) := by
  rw [handleUpstreamRouteAdd]
  by_cases hhas : i.ipType.has u.ipType = false
  · rw [if_pos hhas]
    refine .inr ⟨fun ht => ?_, _, _, rfl⟩
    exact Bool.false_ne_true (hhas.symm.trans ht.1)
  have hhas := Bool.eq_true_of_not_eq_false hhas
  rw [hhas, if_neg Bool.noConfusion]
  by_cases hpfx : u.ipType = .v6 ∧ i.ipv6Prefix = 0
  · rw [if_pos hpfx]
    exact .inr ⟨fun ht => ht.2.1 hpfx, _, _, rfl⟩
  rw [if_neg hpfx]
  dsimp only
  cases hon : i.active u.ipType with
  | true =>
    rw [if_pos rfl]
    exact .inr ⟨fun ht => Bool.false_ne_true (ht.2.2.1.symm.trans hon), _, _, rfl⟩
  | false =>
    rw [if_neg Bool.false_ne_true]
    obtain ⟨i', heq, hview⟩ : ∃ i', (if hasGateway u = true then
        (i.setGateway u).handleStaHeaderAddEvt alloc fw g else (i, g)) = (i', g) ∧
        i'.pdnView = i.pdnView := by
      split
      case isTrue hgw =>
        rw [handleStaHeaderAddEvt_eq alloc h fw u hgw]
        refine ⟨_, rfl, ?_⟩
        cases u with
        | v4 gw => cases gw <;> rfl
        | v6 gw => cases gw <;> rfl
      case isFalse => exact ⟨i, rfl, rfl⟩
    rw [heq]
    have hconf : i'.conf = i.conf := congrArg PdnView.conf hview
    have hactive : i'.active = i.active := congrArg PdnView.active hview
    have htx : i.conf.tx ≠ [] := h.tx _ hhas
    have hadd := viewOf_handleRouteAddEvt alloc (i := i') (hconf ▸ h.q6) (hconf ▸ htx) u.ipType
      fw g
    dsimp only
    rw [hactive, hon, if_neg Bool.false_ne_true]
    rw [hview, hactive, hconf] at hadd
    split at hadd
    case isTrue hext => exact .inr ⟨fun ht => ht.2.2.2 hext, true, i.conf.isBridge, hadd⟩
    case isFalse hext => exact .inl ⟨⟨hhas, hpfx, hon, hext⟩, hadd⟩

theorem viewOf_leaveRoute (h : i.conf.staMode = .q6Wan) (htx : i.conf.tx ≠ []) {ip : IpType}
    (hon : i.active ip = true) (g : Statics) :
    viewOf (i.leaveRoute ip g) =
      ({ i.pdnView with
        active := Function.update i.active ip false
        isDefaultGateway := false }, g.fltView.del ip) := by
  rw [leaveRoute, isSta_of_q6 h, if_neg Bool.false_ne_true]
  obtain ⟨name, k, heq⟩ := handleRouteDelEvt_frame i
    ((g.delWanFirewallRule ip).installWanFilteringRule i.conf) ip htx hon
  rw [heq]
  refine Prod.ext rfl ?_
  exact installWanFilteringRule_fltView i.conf (g.delWanFirewallRule ip)

theorem viewOf_handleOtherRouteAdd (h : i.conf.staMode = .q6Wan) (htx : i.conf.tx ≠ [])
    {ip : IpType} (hon : i.active ip = true) (g : Statics) :
    viewOf (i.handleOtherRouteAdd ip g) =
      ({ i.pdnView with
        active := Function.update i.active ip false
        isDefaultGateway := false }, g.fltView.del ip) := by
  rw [handleOtherRouteAdd, if_pos hon]
  cases ip with
  | v4 => exact viewOf_leaveRoute (i := i.forgetGateway .v4) h htx hon g
  | v6 => exact viewOf_leaveRoute (i := i.forgetGateway .v6) h htx hon g

theorem viewOf_handleUpstreamRouteDel (h : i.conf.staMode = .q6Wan) (htx : i.conf.tx ≠ [])
    {ip : IpType} (hon : i.active ip = true) (g : Statics) :
    viewOf (i.handleUpstreamRouteDel ip g) =
      ({ i.pdnView with
        active := Function.update i.active ip false
        isDefaultGateway := false }, g.fltView.del ip) := by
  rw [handleUpstreamRouteDel, if_pos hon]
  cases ip with
  | v4 => exact viewOf_leaveRoute (i := i.forgetGateway .v4) h htx hon _
  | v6 => exact viewOf_leaveRoute (i := i.forgetGateway .v6) h htx hon _

/-! ## The firewall -/

/-- The firewall of the family is configured anew by one that takes itself for active. -/
def refreshed (fw : FirewallConf) (v : PdnView) (f : FltView) : FltView :=
  { f with
    flt := fun ip =>
      if (v.pdn ip).refreshes then
        ((f.flt ip).delWanFirewallRule ip).configWanFirewallRule f.algPorts fw f.isBridge
          v.conf.metaData ip
      else f.flt ip }

theorem handleFirewallChange_view (h : i.conf.staMode = .q6Wan) (fw : FirewallConf)
    (g : Statics) : (i.handleFirewallChange alloc fw g).1 = i ∧
      (i.handleFirewallChange alloc fw g).2.fltView = refreshed fw i.pdnView g.fltView := by
  rw [handleFirewallChange, isSta_of_q6 h, if_neg Bool.false_ne_true]
  cases hdgw : i.isDefaultGateway with
  | false =>
    have hoff : ∀ ip, (i.pdnView.pdn ip).refreshes = false := fun ip => by
      show (i.isDefaultGateway && _) = false
      rw [hdgw]
      rfl
    rw [if_pos rfl]
    refine ⟨rfl, ?_⟩
    simp only [refreshed, hoff, if_neg Bool.false_ne_true]
  | true =>
    have hrefreshes : ∀ ip, (i.pdnView.pdn ip).refreshes = i.ipType.has ip := fun ip => by
      show (i.isDefaultGateway && _) = _
      rw [hdgw]
      rfl
    have hview : ∀ g' : Statics, g'.numModemPdn = g.numModemPdn → g'.algPorts = g.algPorts →
        g'.backhaulIsWanBridge = g.backhaulIsWanBridge →
        (∀ ip, g'.flt ip = if i.ipType.has ip then
          ((g.flt ip).delWanFirewallRule ip).configWanFirewallRule g.algPorts fw
            g.backhaulIsWanBridge i.conf.metaData ip else g.flt ip) →
        g'.fltView = refreshed fw i.pdnView g.fltView := by
      intro g' hnum halg hbridge hflt
      simp only [refreshed, hrefreshes]
      rw [Statics.fltView, hnum, halg, hbridge, funext hflt]
      rfl
    have hrefresh : ∀ ip (g : Statics),
        (i.refreshWanFirewall ip fw g).numModemPdn = g.numModemPdn ∧
          (i.refreshWanFirewall ip fw g).algPorts = g.algPorts ∧
          (i.refreshWanFirewall ip fw g).backhaulIsWanBridge = g.backhaulIsWanBridge :=
      fun _ _ => ⟨rfl, rfl, rfl⟩
    rw [if_neg (by simp)]
    cases hty : i.ipType with
    | null =>
      refine ⟨rfl, hview g rfl rfl rfl fun ip => ?_⟩
      rw [hty]
      cases ip <;> rfl
    | v4 =>
      refine ⟨rfl, (installWanFilteringRule_fltView _ _).trans
        (hview _ rfl rfl rfl fun ip => ?_)⟩
      rw [hty]
      cases ip <;> rfl
    | v6 =>
      refine ⟨rfl, (installWanFilteringRule_fltView _ _).trans
        (hview _ rfl rfl rfl fun ip => ?_)⟩
      rw [hty]
      cases ip <;> rfl
    | max =>
      obtain ⟨hnum₄, halg₄, hbridge₄⟩ := hrefresh .v4 g
      obtain ⟨hnum, halg, hbridge⟩ := hrefresh .v6 (i.refreshWanFirewall .v4 fw g)
      refine ⟨rfl, (installWanFilteringRule_fltView _ _).trans
        (hview _ (hnum.trans hnum₄) (halg.trans halg₄) (hbridge.trans hbridge₄)
          fun ip => ?_)⟩
      rw [hty]
      cases ip <;> rfl

/-! ## The link goes down -/

theorem handleRouteDelEvt_fltView (ip : IpType) (i : Iface) (g : Statics) :
    (i.handleRouteDelEvt ip g).2.fltView = g.fltView := by
  have hdown : ∀ (i : Iface) (g : Statics), (i.routeDown ip g).2.fltView = g.fltView := by
    intro i g
    obtain ⟨name, heq⟩ := routeDown_frame i g ip
    rw [heq]
    rfl
  rw [handleRouteDelEvt]
  split
  · rfl
  dsimp only
  split
  · rw [hdown]
    cases ip <;> rfl
  · rfl

theorem downRouteEx_fltView (ip : IpType) (tell : Bool) (i : Iface) (g : Statics) :
    (i.downRouteEx ip tell g).2.fltView = g.fltView.del ip := by
  rw [downRouteEx]
  refine (handleRouteDelEvt_fltView ip i _).trans ?_
  split
  · exact installWanFilteringRule_fltView i.conf _
  · rfl

theorem clearFltIfLast_fltView (conf : Conf) (ip : IpType) (g : Statics) :
    (g.clearFltIfLast conf ip).fltView = g.fltView.clear ip := by
  rw [Statics.clearFltIfLast, FltView.clear,
    show g.fltView.numModemPdn = g.numModemPdn from rfl]
  split
  · exact installWanFilteringRule_fltView conf _
  · rfl

theorem clearDevName_fltView (ip : IpType) (g : Statics) :
    (g.clearDevName ip).fltView = g.fltView := by
  rw [Statics.clearDevName]
  split <;> rfl

/-- What is left of the tables when a PDN goes. -/
def downView (v : PdnView) (f : FltView) : FltView :=
  let dec ip (f : FltView) : FltView := if v.hasAddr ip then f.dec ip else f
  let del ip (f : FltView) : FltView := if v.isDefaultGateway then f.del ip else f
  match v.ipType with
  | .null => f
  | .v4 => (del .v4 (dec .v4 f)).clear .v4
  | .v6 => (del .v6 (dec .v6 f)).clear .v6
  | .max => ((del .v6 (del .v4 (dec .v6 (dec .v4 f)))).clear .v4).clear .v6

theorem handleDownEvtEx_fltView (h : i.pdnView.Modem) (hembms : i.conf.isEmbms = false)
    (g : Statics) : (i.handleDownEvtEx g).fltView = downView i.pdnView g.fltView := by
  have hdec6 : ∀ g : Statics, (if 1 < i.ipv6Addr.length then g.decModemPdn .v6 else g).fltView =
      if i.pdnView.hasAddr .v6 then g.fltView.dec .v6 else g.fltView := by
    intro g
    have hiff : i.pdnView.hasAddr .v6 = true ↔ 1 < i.ipv6Addr.length := decide_eq_true_iff
    by_cases hlt : 1 < i.ipv6Addr.length
    · rw [if_pos hlt, if_pos (hiff.mpr hlt)]
      rfl
    · rw [if_neg hlt, if_neg fun hp => hlt (hiff.mp hp)]
  have hdown : ∀ ip ip' (g : Statics), (if i.isDefaultGateway then
      (i.downRouteEx ip true g).2.clearDevName ip' else g).fltView =
      if i.isDefaultGateway then g.fltView.del ip else g.fltView := by
    intro ip ip' g
    split
    · rw [clearDevName_fltView, downRouteEx_fltView]
    · rfl
  have haddr4 : i.pdnView.hasAddr .v4 = i.ipType.has .v4 := h.v4
  rw [handleDownEvtEx, hembms, if_neg Bool.false_ne_true, downView]
  dsimp only
  rw [haddr4, show i.pdnView.ipType = i.ipType from rfl,
    show i.pdnView.isDefaultGateway = i.isDefaultGateway from rfl]
  cases i.ipType with
  | null => rfl
  | v4 =>
    refine (clearFltIfLast_fltView i.conf .v4 _).trans ?_
    rw [hdown]
    rfl
  | v6 =>
    refine (clearFltIfLast_fltView i.conf .v6 _).trans ?_
    rw [hdown, hdec6]
  | max =>
    have hboth : ∀ g : Statics, (if i.isDefaultGateway then
        ({ ((i.downRouteEx .v4 false g).1.downRouteEx .v6 false
          (i.downRouteEx .v4 false g).2).2 with wanUpDevName := "" } :
            Statics).installWanFilteringRule ((i.downRouteEx .v4 false g).1.downRouteEx .v6
              false (i.downRouteEx .v4 false g).2).1.conf else g).fltView =
        if i.isDefaultGateway then (g.fltView.del .v4).del .v6 else g.fltView := by
      intro g
      split
      · rw [installWanFilteringRule_fltView]
        refine (downRouteEx_fltView .v6 false _ _).trans ?_
        rw [downRouteEx_fltView]
      · rfl
    refine (clearFltIfLast_fltView i.conf .v6 _).trans ?_
    rw [clearFltIfLast_fltView]
    dsimp only at hboth ⊢
    rw [hboth, hdec6]
    cases i.isDefaultGateway <;> rfl

end Iface

end Axon7.Wan
