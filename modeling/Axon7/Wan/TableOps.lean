import Axon7.Wan.ModemTable
import Axon7.Wan.Written

/-!
# What a run does to the tables

What an event does to the tables of rules is a list of operations, one after the other
over all instances. From an event and the instances before it the list is told here, and
replaying it gives the tables after the event: so the calls of `config_wan_firewall_rule`
along a run are known, each with the table it finds.
-/

namespace Axon7.Wan

open Axon7.Tether (IpType IfaceIpType Addr)

/-! ## Operations -/

/-- The default rules are written, `del_wan_firewall_rule`, the table of the last PDN is
cleared, and `config_wan_firewall_rule`. -/
inductive FltOp
  | reset (ip : IpType)
  | del (ip : IpType)
  | clear (ip : IpType)
  | config (ip : IpType) (conf : Conf) (isBridge : Bool) (fw : FirewallConf)

namespace FltOp

/-- The family. -/
def ip : FltOp → IpType
  | .reset ip | .del ip | .clear ip | .config ip _ _ _ => ip

/-- What becomes of the table of the family. -/
def onTable (algPorts : List (Nat × Nat)) (op : FltOp) (t : Table) : Table :=
  match op with
  | .reset ip => t.reset ip
  | .del ip => t.delWanFirewallRule ip
  | .clear _ => { t.zeroFrom 0 with num := 0 }
  | .config ip conf isBridge fw => t.configWanFirewallRule algPorts fw isBridge conf.metaData ip

def apply (algPorts : List (Nat × Nat)) (f : IpType → Table) (op : FltOp) : IpType → Table :=
  Function.update f op.ip (op.onTable algPorts (f op.ip))

/-- The operations, one after the other. -/
def replay (algPorts : List (Nat × Nat)) (ops : List FltOp) (f : IpType → Table) :
    IpType → Table :=
  ops.foldl (apply algPorts) f

theorem replay_append (algPorts : List (Nat × Nat)) (ops ops' : List FltOp)
    (f : IpType → Table) :
    replay algPorts (ops ++ ops') f = replay algPorts ops' (replay algPorts ops f) :=
  List.foldl_append ..

end FltOp

namespace Statics

variable {g g' g'' : Statics} {ops ops' : List FltOp}

/-- The tables are those that the operations give. -/
structure Does (g : Statics) (ops : List FltOp) (g' : Statics) : Prop where
  algPorts : g'.algPorts = g.algPorts
  flt : g'.flt = FltOp.replay g.algPorts ops g.flt

theorem Does.refl (g : Statics) : g.Does [] g := ⟨rfl, rfl⟩

theorem Does.trans (h : g.Does ops g') (h' : g'.Does ops' g'') : g.Does (ops ++ ops') g'' := by
  refine ⟨h'.algPorts.trans h.algPorts, ?_⟩
  rw [FltOp.replay_append, h'.flt, h.flt, h.algPorts]

theorem Does.after (h : g.Does ops g') (halg : g''.algPorts = g'.algPorts)
    (hflt : g''.flt = g'.flt) : g.Does ops g'' :=
  ⟨halg.trans h.algPorts, hflt.trans h.flt⟩

theorem Does.before (h : g'.Does ops g'') (halg : g'.algPorts = g.algPorts)
    (hflt : g'.flt = g.flt) : g.Does ops g'' := by
  refine ⟨h.algPorts.trans halg, ?_⟩
  rw [h.flt, halg, hflt]

theorem KernelOnly.does (h : g.KernelOnly g') : g.Does [] g' := by
  obtain ⟨k, rfl⟩ := h
  exact ⟨rfl, rfl⟩

theorem does_of_fltView (h : g'.fltView = g.fltView) : g.Does [] g' :=
  ⟨congrArg (fun v : FltView => v.algPorts) h, congrArg (fun v : FltView => v.flt) h⟩

theorem Does.install (h : g.Does ops g') (conf : Conf) :
    g.Does ops (g'.installWanFilteringRule conf) := by
  have hview := does_of_fltView (Iface.installWanFilteringRule_fltView conf g')
  exact h.after hview.algPorts hview.flt

theorem delWanFirewallRule_does (ip : IpType) (g : Statics) :
    g.Does [.del ip] (g.delWanFirewallRule ip) := ⟨rfl, rfl⟩

theorem configWanFirewallRule_does (conf : Conf) (ip : IpType) (fw : FirewallConf)
    (g : Statics) : g.Does [.config ip conf g.backhaulIsWanBridge fw]
      (g.configWanFirewallRule conf ip fw) := ⟨rfl, rfl⟩

end Statics

/-! ## The operations of an instance -/

namespace Iface

variable (alloc : Alloc)

/-- `init_fl_rule_ex` of the first PDN. -/
def initFlOps (ip : IpType) (i : Iface) (g : Statics) : List FltOp :=
  if i.conf.isSta then [] else if g.numModemPdn ip = 0 then [.reset ip] else []

local instance lawfulBEq_addr : LawfulBEq (BitVec 128) := instLawfulBEq

/-- `handle_addr_evt`. -/
def handleAddrOps (a : Addr) (i : Iface) (g : Statics) : List FltOp :=
  if i.conf.tx = [] ∨ i.conf.rx = [] then []
  else
    match a with
    | .v6 addr =>
      if addr ∈ i.ipv6Addr then []
      else if i.ipv6Addr.length = 1 then i.initFlOps .v6 g else []
    | .v4 addr =>
      if i.wanV4AddrSet && addr = i.wanV4Addr then []
      else if i.wanV4AddrSet then [] else i.initFlOps .v4 g

/-- `handle_route_add_evt`. -/
def handleRouteAddOps (ip : IpType) (fw : FirewallConf) (i : Iface) : List FltOp :=
  if i.conf.tx = [] then []
  else if i.conf.isSta then []
  else
    match i.conf.ext with
    | [] => []
    | _ :: _ => [.config ip i.conf i.conf.isBridge fw]

/-- `handle_sta_header_add_evt`. -/
def handleStaHeaderAddOps (fw : FirewallConf) (i : Iface) (g : Statics) : List FltOp :=
  if i.headerSet .v4 || i.headerSet .v6 then []
  else
    match i.findGateway .v4 with
    | (_, false) => []
    | (i, true) =>
      match i.findGateway .v6 with
      | (_, false) => []
      | (i, true) =>
        let (i', _) :=
          if i.headerPartialDefaultWan .v4 then i.handleRouteAddEvt alloc .v4 fw g
          else (i, g)
        (if i.headerPartialDefaultWan .v4 then i.handleRouteAddOps .v4 fw else []) ++
          if i'.headerPartialDefaultWan .v6 then i'.handleRouteAddOps .v6 fw else []

/-- `IPA_WAN_UPSTREAM_ROUTE_ADD_EVENT` for this interface. -/
def handleUpstreamRouteAddOps (u : Upstream) (fw : FirewallConf) (i : Iface) (g : Statics) :
    List FltOp :=
  let ip := u.ipType
  if i.ipType.has ip = false then []
  else if ip = .v6 ∧ i.ipv6Prefix = 0 then []
  else if i.active ip then []
  else
    let (i', _) :=
      if hasGateway u then (i.setGateway u).handleStaHeaderAddEvt alloc fw g else (i, g)
    (if hasGateway u then (i.setGateway u).handleStaHeaderAddOps alloc fw g else []) ++
      if i'.active ip then [] else i'.handleRouteAddOps ip fw

/-- The default route goes to another, or is deleted. -/
def leaveRouteOps (ip : IpType) (i : Iface) : List FltOp :=
  if i.active ip then if i.conf.isSta then [] else [.del ip] else []

/-- `IPA_NEIGH_CLIENT_IP_ADDR_ADD_EVENT`. -/
def handleNeighOps (mac : Clients.Mac) (a : Addr) (fw : FirewallConf) (i : Iface)
    (g : Statics) : List FltOp :=
  if i.conf.staMode = .wlanWan ∧ i.isOwnAddr a = true then []
  else if mac = 0 then []
  else
    let (i, g) := i.handleWanHdrInit alloc mac g
    match i.handleWanClientIpaddr mac a g with
    | none => []
    | some (i, g) =>
      let (i, g) := i.handleWanClientRouteRule alloc mac a.ipType g
      i.handleStaHeaderAddOps alloc fw g

/-- The families of the interface. -/
def families (i : Iface) : List IpType :=
  match i.ipType with
  | .null => []
  | .v4 => [.v4]
  | .v6 => [.v6]
  | .max => [.v4, .v6]

/-- `IPA_FIREWALL_CHANGE_EVENT`. -/
def handleFirewallChangeOps (fw : FirewallConf) (i : Iface) (g : Statics) : List FltOp :=
  if i.conf.isSta then []
  else if i.isDefaultGateway = false then []
  else i.families.flatMap fun ip => [.del ip, .config ip i.conf g.backhaulIsWanBridge fw]

/-- The PDNs of the family without the instance. -/
def numLeft (ip : IpType) (i : Iface) (g : Statics) : Int :=
  match ip with
  | .v4 => g.numModemPdn .v4 - 1
  | .v6 => if 1 < i.ipv6Addr.length then g.numModemPdn .v6 - 1 else g.numModemPdn .v6

/-- `handle_down_evt_ex`. -/
def handleDownEvtExOps (i : Iface) (g : Statics) : List FltOp :=
  if i.conf.isEmbms then []
  else
    (if i.isDefaultGateway then i.families.map .del else []) ++
      i.families.flatMap fun ip => if i.numLeft ip g = 0 then [.clear ip] else []

/-- `event_callback`. -/
def eventOps (ev : WanEvent) (i : Iface) (g : Statics) : List FltOp :=
  match ev with
  | .addrAdd ifNum a =>
    if a.isZero then []
    else if ifNum = i.conf.ipaIfNum ∧
        (a.ipType = .v4 ∨ i.ipv6Addr.length ≠ Tether.maxDftRtV6) then
      i.handleAddrOps a g
    else []
  | .upstreamRouteAdd ifNum u fw =>
    if ifNum = i.conf.ipaIfNum then i.handleUpstreamRouteAddOps alloc u fw g
    else i.leaveRouteOps u.ipType
  | .upstreamRouteDel ifNum ip => if ifNum = i.conf.ipaIfNum then i.leaveRouteOps ip else []
  | .neighClientIpAddrAdd ifNum mac a fw =>
    if ifNum = i.conf.ipaIfNum then i.handleNeighOps alloc mac a fw g else []
  | .firewallChange fw => i.handleFirewallChangeOps fw g
  | .linkDown ifNum =>
    if ifNum = i.conf.ipaIfNum then
      match i.conf.staMode with
      | .q6Wan => i.handleDownEvtExOps g
      | .ecmWan | .wlanWan => []
    else []
  | .wlanLinkDown _ => []

/-! ## Replaying them gives the tables -/

theorem addAt_does (ps : List Place) (i : Iface) (g : Statics) :
    g.Does [] (i.addAt alloc ps g).2 := by
  obtain ⟨hdl, k, heq⟩ := addAt_frame alloc i g ps
  rw [heq]
  exact ⟨rfl, rfl⟩

theorem delAt_does (ps : List Place) (i : Iface) (g : Statics) : g.Does [] (i.delAt ps g) :=
  ⟨rfl, rfl⟩

theorem initFl_does (ip : IpType) (i : Iface) (g : Statics) :
    g.Does (i.initFlOps ip g) (i.initFl alloc ip g).2 := by
  rw [initFlOps, initFl]
  split
  · exact addAt_does alloc _ i g
  · have hidx : Function.update i.modemPdnIndex ip (g.numModemPdn ip) ip = g.numModemPdn ip :=
      Function.update_self ..
    dsimp only
    rw [initFlRuleEx]
    refine Statics.Does.install ?_ i.conf
    by_cases hnum : g.numModemPdn ip = 0
    · rw [if_pos hnum, if_pos (hidx.trans hnum)]
      exact ⟨rfl, rfl⟩
    · rw [if_neg hnum, if_neg fun hzero => hnum (hidx.symm.trans hzero)]
      exact ⟨rfl, rfl⟩

theorem addV4Addr_does (addr : BitVec 32) (i : Iface) (g : Statics) :
    g.Does (if i.wanV4AddrSet then [] else i.initFlOps .v4 g)
      (let g' := if i.wanV4AddrSet then i.delAt [.dftRtV4] g else g
      let x := i.addAt alloc [.dftRtV4] g'
      let x := if x.1.wanV4AddrSet then x else x.1.initFl alloc .v4 x.2
      if x.1.conf.isSta then x.2 else { x.2 with currWanIp := addr }) := by
  extract_lets g' x₁ x₂
  have hdel : g.Does [] g' ∧ g'.numModemPdn = g.numModemPdn := by
    simp only [g']
    split <;> exact ⟨⟨rfl, rfl⟩, rfl⟩
  obtain ⟨hdl, k, heq⟩ : ∃ hdl k, x₁ = ({ i with hdl := hdl }, { g' with kernel := k }) :=
    addAt_frame alloc i g' [.dftRtV4]
  suffices hinit : g.Does (if i.wanV4AddrSet then [] else i.initFlOps .v4 g) x₂.2 by
    refine hinit.after ?_ ?_
    · split <;> rfl
    · split <;> rfl
  simp only [x₂, heq]
  split
  · exact hdel.1.after rfl rfl
  · have hops : initFlOps .v4 { i with hdl := hdl } { g' with kernel := k } =
        i.initFlOps .v4 g := by
      rw [initFlOps, initFlOps]
      dsimp only
      rw [hdel.2]
    rw [← hops]
    exact (initFl_does alloc .v4 { i with hdl := hdl } { g' with kernel := k }).before
      hdel.1.algPorts hdel.1.flt

theorem addV6Addr_does (addr : BitVec 128) (i : Iface) (g : Statics) :
    g.Does (if i.ipv6Addr.length = 1 then i.initFlOps .v6 g else [])
      (let n := i.ipv6Addr.length
      let x := i.addAt alloc [.dftRtV6 (2 * n), .dftRtV6 (2 * n + 1)] g
      let x := if n = 1 then x.1.initFl alloc .v6 x.2 else x
      let y := x.1.addAt alloc [.ipv6DestFlt x.1.numIpv6DestFltRule] x.2
      (if x.1.conf.isSta && isGlobalIpv6Addr addr &&
          x.1.numIpv6DestFltRule < Tether.maxDftRtV6 then
        ({ y.1 with numIpv6DestFltRule := y.1.numIpv6DestFltRule + 1 }, y.2)
      else x).2) := by
  extract_lets n x₁ x₂ y
  obtain ⟨hdl, k, heq⟩ : ∃ hdl k, x₁ = ({ i with hdl := hdl }, { g with kernel := k }) :=
    addAt_frame alloc i g [.dftRtV6 (2 * n), .dftRtV6 (2 * n + 1)]
  have hinit : g.Does (if i.ipv6Addr.length = 1 then i.initFlOps .v6 g else []) x₂.2 := by
    simp only [x₂, heq, n]
    split
    · exact (initFl_does alloc .v6 { i with hdl := hdl } { g with kernel := k }).before rfl rfl
    · exact ⟨rfl, rfl⟩
  have hdest : x₂.2.Does [] (if x₂.1.conf.isSta && isGlobalIpv6Addr addr &&
      x₂.1.numIpv6DestFltRule < Tether.maxDftRtV6 then
      ({ y.1 with numIpv6DestFltRule := y.1.numIpv6DestFltRule + 1 }, y.2) else x₂).2 := by
    split
    · exact addAt_does alloc [.ipv6DestFlt x₂.1.numIpv6DestFltRule] x₂.1 x₂.2
    · exact .refl _
  exact hinit.after hdest.algPorts hdest.flt

theorem handleAddrEvt_does (a : Addr) (i : Iface) (g : Statics) :
    g.Does (i.handleAddrOps a g) (i.handleAddrEvt alloc a g).2 := by
  cases a with
  | v4 addr =>
    rw [handleAddrOps, handleAddrEvt]
    split
    · exact .refl g
    dsimp only
    split
    · exact .refl g
    · exact addV4Addr_does alloc addr { i with ipType := i.ipType.config .v4 } g
  | v6 addr =>
    rw [handleAddrOps, handleAddrEvt]
    split
    · exact .refl g
    dsimp only
    split
    · exact .refl g
    · exact addV6Addr_does alloc addr { i with ipType := i.ipType.config .v6 } g

/-! ## Routes -/

theorem routeUp_does (ip : IpType) (fw : FirewallConf) (i : Iface) (g : Statics) :
    g.Does (if i.conf.isSta then [] else [.config ip i.conf g.backhaulIsWanBridge fw])
      (i.routeUp alloc ip fw g).2 := by
  rw [routeUp]
  obtain ⟨hdl, k, heq⟩ := addDefaultRoute_frame alloc i g ip
  rw [heq]
  dsimp only
  split
  · obtain ⟨conf, frag, num, hdl', k', hdft⟩ := configDftFirewallRules_frame alloc
      { i with active := Function.update i.active ip true, hdl := hdl }
      { g with
        backhaulIpv6Prefix := if ip = .v6 then i.ipv6Prefix else g.backhaulIpv6Prefix
        wanUp := Function.update g.wanUp ip true
        wanUpDevName := i.conf.devName
        kernel := k } ip fw
    rw [hdft]
    exact ⟨rfl, rfl⟩
  · have hconfig := Statics.configWanFirewallRule_does i.conf ip fw
      { g with
        backhaulIpv6Prefix := if ip = .v6 then i.ipv6Prefix else g.backhaulIpv6Prefix
        wanUp := Function.update g.wanUp ip true
        wanUpDevName := i.conf.devName
        kernel := k }
    have htold := hconfig.install i.conf
    exact ⟨htold.algPorts, htold.flt⟩

theorem handleRouteAddEvt_does (ip : IpType) (fw : FirewallConf) (i : Iface) (g : Statics) :
    g.Does (i.handleRouteAddOps ip fw) (i.handleRouteAddEvt alloc ip fw g).2 := by
  rw [handleRouteAddOps, handleRouteAddEvt]
  split
  · exact .refl g
  dsimp only
  split
  case isTrue hsta =>
    split
    · exact ⟨rfl, rfl⟩
    · have hup := routeUp_does alloc ip fw { i with isDefaultGateway := true }
        { g with backhaulIsWanBridge := i.conf.isBridge, backhaulIsStaMode := true }
      rw [if_pos hsta] at hup
      exact hup.before rfl rfl
  case isFalse hsta =>
    cases hext : i.conf.ext with
    | nil => exact ⟨rfl, rfl⟩
    | cons muxId rest =>
      have hup := routeUp_does alloc ip fw { i with isDefaultGateway := true }
        { g with
          backhaulIsWanBridge := i.conf.isBridge
          backhaulIsStaMode := false
          qmapId := muxId }
      rw [if_neg hsta] at hup
      exact hup.before rfl rfl

theorem handleStaHeaderAddEvt_does (fw : FirewallConf) (i : Iface) (g : Statics) :
    g.Does (i.handleStaHeaderAddOps alloc fw g) (i.handleStaHeaderAddEvt alloc fw g).2 := by
  rw [handleStaHeaderAddOps, handleStaHeaderAddEvt]
  split
  · exact .refl g
  rcases i.findGateway .v4 with ⟨i₁, _ | _⟩
  · exact .refl g
  dsimp only
  rcases i₁.findGateway .v6 with ⟨i₂, _ | _⟩
  · exact .refl g
  dsimp only
  have hadd : ∀ (ip : IpType) (x : Iface × Statics), x.2.Does
      (if x.1.headerPartialDefaultWan ip then x.1.handleRouteAddOps ip fw else [])
      (if x.1.headerPartialDefaultWan ip then x.1.handleRouteAddEvt alloc ip fw x.2
      else (x.1, x.2)).2 := by
    intro ip x
    split
    · exact handleRouteAddEvt_does alloc ip fw x.1 x.2
    · exact .refl x.2
  exact (hadd .v4 (i₂, g)).trans (hadd .v6 _)

theorem handleUpstreamRouteAdd_does (u : Upstream) (fw : FirewallConf) (i : Iface)
    (g : Statics) : g.Does (i.handleUpstreamRouteAddOps alloc u fw g)
      (i.handleUpstreamRouteAdd alloc u fw g).2 := by
  rw [handleUpstreamRouteAddOps, handleUpstreamRouteAdd]
  dsimp only
  split
  · exact .refl g
  split
  · exact .refl g
  split
  · exact ⟨rfl, rfl⟩
  have hgateway : g.Does
      (if hasGateway u then (i.setGateway u).handleStaHeaderAddOps alloc fw g else [])
      (if hasGateway u then (i.setGateway u).handleStaHeaderAddEvt alloc fw g
      else (i, g)).2 := by
    split
    · exact handleStaHeaderAddEvt_does alloc fw _ g
    · exact .refl g
  have hadd : ∀ x : Iface × Statics, x.2.Does
      (if x.1.active u.ipType then [] else x.1.handleRouteAddOps u.ipType fw)
      (if x.1.active u.ipType then (x.1, x.2)
      else x.1.handleRouteAddEvt alloc u.ipType fw x.2).2 := by
    intro x
    split
    · exact .refl x.2
    · exact handleRouteAddEvt_does alloc u.ipType fw x.1 x.2
  have hall := hgateway.trans (hadd _)
  exact ⟨hall.algPorts, hall.flt⟩

theorem handleRouteDelEvt_does (ip : IpType) (i : Iface) (g : Statics) :
    g.Does [] (i.handleRouteDelEvt ip g).2 :=
  Statics.does_of_fltView (handleRouteDelEvt_fltView ip i g)

theorem leaveRoute_does (ip : IpType) (i : Iface) (g : Statics) :
    g.Does (if i.conf.isSta then [] else [.del ip]) (i.leaveRoute ip g).2 := by
  rw [leaveRoute]
  split
  · obtain ⟨frag, num, k, heq⟩ := delDftFirewallRules_frame i g ip
    rw [heq]
    exact (handleRouteDelEvt_does ip { i with fragInstalled := frag, numFirewall := num }
      { g with kernel := k }).before rfl rfl
  · have hdel := (Statics.delWanFirewallRule_does ip g).install i.conf
    exact hdel.trans (handleRouteDelEvt_does ip i _)

theorem forgetGateway_conf (ip : IpType) (i : Iface) : (i.forgetGateway ip).conf = i.conf := by
  cases ip <;> rfl

/-! ## Clients -/

theorem handleNeighClientIpAddrAdd_does (mac : Clients.Mac) (a : Addr) (fw : FirewallConf)
    (i : Iface) (g : Statics) : g.Does (i.handleNeighOps alloc mac a fw g)
      (i.handleNeighClientIpAddrAdd alloc mac a fw g).2 := by
  rw [handleNeighOps, handleNeighClientIpAddrAdd]
  split
  · exact .refl g
  split
  · exact .refl g
  obtain ⟨cs, num, hdl, k, hinit⟩ := handleWanHdrInit_frame alloc i g mac
  rw [hinit]
  dsimp only
  cases hset : handleWanClientIpaddr mac a
      { i with clients := cs, numWanClient := num, hdl := hdl } { g with kernel := k } with
  | none => exact ⟨rfl, rfl⟩
  | some x =>
    obtain ⟨cs₁, k₁, rfl⟩ := handleWanClientIpaddr_frame _ _ mac a hset
    obtain ⟨cs₂, hdl₂, k₂, hroute⟩ := handleWanClientRouteRule_frame alloc
      { i with clients := cs₁, numWanClient := num, hdl := hdl } { g with kernel := k₁ }
      a.ipType mac
    dsimp only
    rw [hroute]
    have hadd := handleStaHeaderAddEvt_does alloc fw
      { i with clients := cs₂, numWanClient := num, hdl := hdl₂ } { g with kernel := k₂ }
    exact ⟨hadd.algPorts, hadd.flt⟩

/-! ## The firewall changes -/

theorem refreshWanFirewall_does (ip : IpType) (fw : FirewallConf) (i : Iface) (g : Statics) :
    g.Does [.del ip, .config ip i.conf g.backhaulIsWanBridge fw]
      (i.refreshWanFirewall ip fw g) := by
  have hdel := Statics.delWanFirewallRule_does ip g
  exact hdel.trans (Statics.configWanFirewallRule_does i.conf ip fw _)

theorem handleFirewallChange_does (fw : FirewallConf) (i : Iface) (g : Statics) :
    g.Does (i.handleFirewallChangeOps fw g) (i.handleFirewallChange alloc fw g).2 := by
  rw [handleFirewallChangeOps, handleFirewallChange]
  split
  · obtain ⟨conf, frag, num, hdl, k, heq⟩ := refreshDftFirewall_frame alloc i g .v4 fw
    rw [heq]
    obtain ⟨conf', frag', num', hdl', k', heq'⟩ := refreshDftFirewall_frame alloc
      { i with
        firewallConfig := conf
        fragInstalled := frag
        numFirewall := num
        hdl := hdl } { g with kernel := k } .v6 fw
    dsimp only
    rw [heq']
    exact ⟨rfl, rfl⟩
  split
  · exact .refl g
  rw [families]
  cases i.ipType with
  | null => exact .refl g
  | v4 => exact (refreshWanFirewall_does .v4 fw i g).install i.conf
  | v6 => exact (refreshWanFirewall_does .v6 fw i g).install i.conf
  | max =>
    have hv4 := refreshWanFirewall_does .v4 fw i g
    exact (hv4.trans (refreshWanFirewall_does .v6 fw i _)).install i.conf

/-! ## The link goes down -/

theorem downRouteEx_does (ip : IpType) (tell : Bool) (i : Iface) (g : Statics) :
    g.Does [.del ip] (i.downRouteEx ip tell g).2 := by
  have hview := downRouteEx_fltView ip tell i g
  exact ⟨congrArg (fun v : FltView => v.algPorts) hview,
    congrArg (fun v : FltView => v.flt) hview⟩

theorem clearFltIfLast_does {g g' : Statics} {ops : List FltOp} {n : Int} (h : g.Does ops g')
    (conf : Conf) (ip : IpType) (hnum : g'.numModemPdn ip = n) :
    g.Does (ops ++ if n = 0 then [.clear ip] else []) (g'.clearFltIfLast conf ip) := by
  subst hnum
  refine h.trans ?_
  rw [Statics.clearFltIfLast]
  split
  · have hclear : g'.Does [.clear ip]
        (g'.setFlt ip { (g'.flt ip).zeroFrom 0 with num := 0 }) := ⟨rfl, rfl⟩
    exact hclear.install conf
  · exact .refl g'

theorem clearFltIfLast_num (conf : Conf) (ip : IpType) (g : Statics) :
    (g.clearFltIfLast conf ip).numModemPdn = g.numModemPdn := by
  rw [Statics.clearFltIfLast, Statics.installWanFilteringRule]
  split
  · split <;> rfl
  · rfl

theorem downRouteEx_num (ip : IpType) (tell : Bool) (i : Iface) (g : Statics) :
    (i.downRouteEx ip tell g).2.numModemPdn = g.numModemPdn :=
  congrArg (fun v : FltView => v.numModemPdn) (downRouteEx_fltView ip tell i g)

theorem downRoute_does (ip ip' : IpType) (i : Iface) (g : Statics) :
    g.Does (if i.isDefaultGateway then [.del ip] else [])
        (if i.isDefaultGateway then (i.downRouteEx ip true g).2.clearDevName ip' else g) ∧
      (if i.isDefaultGateway then (i.downRouteEx ip true g).2.clearDevName ip'
        else g).numModemPdn = g.numModemPdn := by
  split
  · have hname := clearDevName_fltView ip' (i.downRouteEx ip true g).2
    have hdown := (downRouteEx_does ip true i g).trans (Statics.does_of_fltView hname)
    exact ⟨hdown, (congrArg (fun v : FltView => v.numModemPdn) hname).trans
      (downRouteEx_num ip true i g)⟩
  · exact ⟨.refl g, rfl⟩

theorem downRoutes_does (i : Iface) (g : Statics) :
    let x := i.downRouteEx .v4 false g
    let x := x.1.downRouteEx .v6 false x.2
    let g' := if i.isDefaultGateway then
      { x.2 with wanUpDevName := "" }.installWanFilteringRule x.1.conf else g
    g.Does (if i.isDefaultGateway then [.del .v4, .del .v6] else []) g' ∧
      g'.numModemPdn = g.numModemPdn := by
  intro x y g'
  simp only [g']
  split
  · have hboth : g.Does [.del .v4, .del .v6] y.2 :=
      (downRouteEx_does .v4 false i g).trans (downRouteEx_does .v6 false x.1 x.2)
    have hnum : y.2.numModemPdn = g.numModemPdn :=
      (downRouteEx_num .v6 false x.1 x.2).trans (downRouteEx_num .v4 false i g)
    have hview : ({ y.2 with wanUpDevName := "" }.installWanFilteringRule y.1.conf).fltView =
        y.2.fltView := installWanFilteringRule_fltView y.1.conf _
    exact ⟨hboth.trans (Statics.does_of_fltView hview),
      (congrArg (fun v : FltView => v.numModemPdn) hview).trans hnum⟩
  · exact ⟨.refl g, rfl⟩

theorem decModemPdn_self (ip : IpType) (g : Statics) :
    (g.decModemPdn ip).numModemPdn ip = g.numModemPdn ip - 1 := by
  rw [Statics.decModemPdn]
  exact Function.update_self ..

theorem decModemPdn_of_ne {ip t : IpType} (h : t ≠ ip) (g : Statics) :
    (g.decModemPdn ip).numModemPdn t = g.numModemPdn t := by
  rw [Statics.decModemPdn]
  exact Function.update_of_ne h ..

theorem downV6_num (i : Iface) (g : Statics) :
    let g' := if 1 < i.ipv6Addr.length then g.decModemPdn .v6 else g
    g.Does [] g' ∧ g'.numModemPdn .v6 = i.numLeft .v6 g ∧
      g'.numModemPdn .v4 = g.numModemPdn .v4 := by
  intro g'
  simp only [g', numLeft]
  split
  · exact ⟨⟨rfl, rfl⟩, decModemPdn_self .v6 g, decModemPdn_of_ne IpType.noConfusion g⟩
  · exact ⟨.refl g, rfl, rfl⟩

theorem handleDownEvt_does (i : Iface) (g : Statics) : g.Does [] (i.handleDownEvt g) := by
  have hroute : ∀ (ip : IpType) (x : Iface × Statics), x.2.Does [] (x.1.downRoute ip x.2).2 := by
    intro ip x
    rw [downRoute]
    split
    · obtain ⟨frag, num, k, heq⟩ := delDftFirewallRules_frame x.1 x.2 ip
      rw [heq]
      have hdel := handleRouteDelEvt_does ip
        { x.1 with fragInstalled := frag, numFirewall := num } { x.2 with kernel := k }
      exact ⟨hdel.algPorts, hdel.flt⟩
    · exact .refl x.2
  rw [handleDownEvt]
  split
  · exact .refl g
  · have hroutes := (hroute .v4 (i, g)).trans (hroute .v6 (i.downRoute .v4 g))
    exact hroutes.trans (delAll_frame _ _).does

theorem handleDownEvtEx_does (i : Iface) (g : Statics) :
    g.Does (i.handleDownEvtExOps g) (i.handleDownEvtEx g) := by
  rw [handleDownEvtExOps, handleDownEvtEx]
  split
  · exact (Statics.does_of_fltView (installWanFilteringRule_fltView i.conf _)).before rfl rfl
  rw [families]
  have hv4 : (g.decModemPdn .v4).numModemPdn .v4 = i.numLeft .v4 g := decModemPdn_self .v4 g
  cases i.ipType with
  | null =>
    dsimp only
    split <;> exact .refl g
  | v4 =>
    obtain ⟨hdown, hnum⟩ := downRoute_does .v4 .v6 i (g.decModemPdn .v4)
    have hclear := clearFltIfLast_does hdown i.conf .v4 ((congrFun hnum .v4).trans hv4)
    rw [List.flatMap_singleton]
    exact ⟨hclear.algPorts, hclear.flt⟩
  | v6 =>
    obtain ⟨hdec, hv6, -⟩ := downV6_num i g
    obtain ⟨hdown, hnum⟩ := downRoute_does .v6 .v4 i _
    have hclear := clearFltIfLast_does (hdec.trans hdown) i.conf .v6
      ((congrFun hnum .v6).trans hv6)
    rw [List.flatMap_singleton]
    exact ⟨hclear.algPorts, hclear.flt⟩
  | max =>
    obtain ⟨hdec, hv6, hother⟩ := downV6_num i (g.decModemPdn .v4)
    obtain ⟨hdown, hnum⟩ := downRoutes_does i _
    have hclear4 := clearFltIfLast_does (hdec.trans hdown) i.conf .v4
      ((congrFun hnum .v4).trans (hother.trans hv4))
    have hclear6 := clearFltIfLast_does hclear4 i.conf .v6
      ((congrFun (clearFltIfLast_num i.conf .v4 _) .v6).trans ((congrFun hnum .v6).trans hv6))
    have hleft : i.numLeft .v6 (g.decModemPdn .v4) = i.numLeft .v6 g := rfl
    have hall := (hclear6.trans (delAt_does [.dftRtV4] i _)).trans
      (delAt_does ((List.range (2 * i.ipv6Addr.length)).map .dftRtV6) i _)
    rw [List.append_nil, List.append_nil, hleft, List.nil_append, List.append_assoc] at hall
    rw [List.flatMap_cons, List.flatMap_singleton]
    exact hall.before rfl rfl

/-! ## An event -/

theorem eventCallback_does (ev : WanEvent) (i : Iface) (g : Statics) :
    g.Does (i.eventOps alloc ev g) (i.eventCallback alloc ev g).2 := by
  cases ev with
  | addrAdd ifNum a =>
    rw [eventOps, eventCallback]
    split
    · exact .refl g
    split
    · exact handleAddrEvt_does alloc a i g
    · exact .refl g
  | upstreamRouteAdd ifNum u fw =>
    rw [eventOps, eventCallback]
    split
    · exact handleUpstreamRouteAdd_does alloc u fw i g
    · rw [leaveRouteOps, handleOtherRouteAdd]
      split
      · have hleave := leaveRoute_does u.ipType (i.forgetGateway u.ipType) g
        rw [forgetGateway_conf] at hleave
        exact hleave
      · exact .refl g
  | upstreamRouteDel ifNum ip =>
    rw [eventOps, eventCallback]
    split
    · rw [leaveRouteOps, handleUpstreamRouteDel]
      split
      · have hleave := leaveRoute_does ip (i.forgetGateway ip) (i.postWanDownTetherEvt ip g)
        rw [forgetGateway_conf] at hleave
        exact ⟨hleave.algPorts, hleave.flt⟩
      · exact .refl g
    · exact .refl g
  | neighClientIpAddrAdd ifNum mac a fw =>
    rw [eventOps, eventCallback]
    split
    · exact handleNeighClientIpAddrAdd_does alloc mac a fw i g
    · exact .refl g
  | firewallChange fw => exact handleFirewallChange_does alloc fw i g
  | linkDown ifNum =>
    rw [eventOps, eventCallback]
    split
    · cases i.conf.staMode with
      | q6Wan => exact handleDownEvtEx_does i g
      | wlanWan => exact .refl g
      | ecmWan => exact handleDownEvt_does i g
    · exact .refl g
  | wlanLinkDown ifNum =>
    rw [eventOps, eventCallback]
    split
    · exact handleDownEvt_does i g
    · exact .refl g

end Iface

end Axon7.Wan
