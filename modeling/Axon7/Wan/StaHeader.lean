import Axon7.Wan.Gateway

/-!
# A station and its gateways

What the handlers of a station do to the view of `Axon7.Wan.Gateway`: each does there
what the operation of its name does. The headers of the clients stay in their places, as
no other thing is kept there, and the client of an address is found by it.
-/

namespace Axon7.Wan

open Axon7.Lib
open Axon7.Tether (IpType IfaceIpType Addr)
open Axon7.Clients (Mac)

/-- The client has the address. -/
def WanClient.serves (c : WanClient) : Addr → Bool
  | .v4 addr => c.ipv4Set && c.v4Addr = addr
  | .v6 addr => (List.range c.ipv6Set).any fun m => c.v6Addr m = addr

/-! ## Headers stay -/

namespace Iface

variable (alloc : Alloc)

/-- The handles of the headers of the clients. -/
def clientHdrs (i : Iface) (n : Nat) (ip : IpType) : Nat := i.hdl (.clientHdr n ip)

theorem addAt_hdl {p : Place} {ps : List Place} (hp : p ∉ ps) (i : Iface) (g : Statics) :
    (i.addAt alloc ps g).1.hdl p = i.hdl p := by
  induction ps generalizing i g with
  | nil => rfl
  | cons q qs ih =>
    rw [List.mem_cons, not_or] at hp
    rw [addAt, ih hp.2]
    exact Function.update_of_ne hp.1 ..

theorem addAt_clientHdrs (ps : List Place) (hps : ∀ n ip, Place.clientHdr n ip ∉ ps) (i : Iface)
    (g : Statics) : (i.addAt alloc ps g).1.clientHdrs = i.clientHdrs := by
  funext n ip
  exact addAt_hdl alloc (hps n ip) i g

variable (ip : IpType) (fw : FirewallConf) (i : Iface) (g : Statics)

theorem configDftFirewallRules_clientHdrs :
    (i.configDftFirewallRules alloc ip fw g).1.clientHdrs = i.clientHdrs := by
  have hfrag : (if fw.hasFragRule ip then
      ({ (addAt alloc [.ipv6FragFirewall] { i with firewallConfig := fw } g).1 with
        fragInstalled := true },
        (addAt alloc [.ipv6FragFirewall] { i with firewallConfig := fw } g).2)
      else ({ i with firewallConfig := fw }, g)).1.clientHdrs = i.clientHdrs := by
    split
    · exact addAt_clientHdrs alloc [.ipv6FragFirewall] (by simp)
        { i with firewallConfig := fw } g
    · rfl
  rw [configDftFirewallRules]
  split
  · rfl
  dsimp only
  generalize (if fw.hasFragRule ip then
      ({ (addAt alloc [.ipv6FragFirewall] { i with firewallConfig := fw } g).1 with
        fragInstalled := true },
        (addAt alloc [.ipv6FragFirewall] { i with firewallConfig := fw } g).2)
      else ({ i with firewallConfig := fw }, g)) = x at hfrag ⊢
  have hrules := (addAt_clientHdrs alloc ((List.range (fw.split ip).length).map
    (.firewall ip)) (by simp) x.1 x.2).trans hfrag
  cases ip with
  | v4 =>
    dsimp only
    rw [addAt_clientHdrs alloc _ (by simp)]
    exact hrules
  | v6 =>
    dsimp only
    rw [addAt_clientHdrs alloc _ (by simp)]
    exact hrules

theorem addDefaultRoute_clientHdrs :
    (i.addDefaultRoute alloc ip g).1.clientHdrs = i.clientHdrs := by
  have hroutes := addAt_clientHdrs alloc (i.wanRoutes ip) (by
    intro n t
    rw [wanRoutes]
    split <;> simp) i g
  rw [addDefaultRoute]
  cases ip with
  | v4 => exact hroutes
  | v6 =>
    dsimp only
    rw [addAt_clientHdrs alloc _ (by simp)]
    split
    · rw [addAt_clientHdrs alloc _ (by simp)]
      exact hroutes
    · exact hroutes

theorem routeUp_clientHdrs : (i.routeUp alloc ip fw g).1.clientHdrs = i.clientHdrs := by
  have hroute := addDefaultRoute_clientHdrs alloc ip i g
  rw [routeUp]
  dsimp only
  split
  · rw [configDftFirewallRules_clientHdrs]
    exact hroute
  · exact hroute

/-! ## Clients -/

/-- The client of an address. -/
def wanClientOf (i : Iface) : Addr → Option Nat
  | .v4 addr => i.wanClientIndexIpv4 addr
  | .v6 addr => i.wanClientIndexIpv6 addr

theorem wanClientOf_eq (i : Iface) (a : Addr) : i.wanClientOf a =
    (List.range i.numWanClient).find? fun n => (i.clients n).serves a := by
  cases a <;> rfl

end Iface

/-! ## The view of a station -/

namespace Station

def view (s : Station) : GwView where
  known n a := decide (n < s.iface.numWanClient) && (s.iface.clients n).serves a
  client := s.iface.wanClientOf
  header := s.iface.clientHdrs
  gateway
    | .v4 => s.iface.wanV4AddrGw.map .v4
    | .v6 => s.iface.wanV6AddrGw.map .v6
  active := s.iface.active
  headerSet := s.iface.headerSet .v4
  waiting := s.iface.headerPartialDefaultWan
  hdrHdlSta := s.hdrHdlSta
  wanRouteHdr := s.wanRouteHdr

/-- A station with addresses and transmit properties of both families, whose clients have
their headers. -/
structure Ready (s : Station) : Prop where
  sta : s.iface.conf.isSta = true
  tx : ∀ ip, ip ∈ s.iface.conf.tx
  ipType : s.iface.ipType = .max
  headers : ∀ n < s.iface.numWanClient, ∀ ip, (s.iface.clients n).headerSet ip = true
  both : s.iface.headerSet .v4 = s.iface.headerSet .v6

/-- The members that `Ready` is about are kept. -/
structure SameClients (s s' : Station) : Prop where
  conf : s'.iface.conf = s.iface.conf
  ipType : s'.iface.ipType = s.iface.ipType
  ipv6Prefix : s'.iface.ipv6Prefix = s.iface.ipv6Prefix
  clients : s'.iface.clients = s.iface.clients
  numWanClient : s'.iface.numWanClient = s.iface.numWanClient

variable {alloc : Alloc} {s s' s'' : Station} {ip : IpType} {n : Nat} {a : Addr}
  {fw : FirewallConf}

theorem SameClients.refl (s : Station) : s.SameClients s := ⟨rfl, rfl, rfl, rfl, rfl⟩

theorem SameClients.trans (h : s.SameClients s') (h' : s'.SameClients s'') :
    s.SameClients s'' where
  conf := h'.conf.trans h.conf
  ipType := h'.ipType.trans h.ipType
  ipv6Prefix := h'.ipv6Prefix.trans h.ipv6Prefix
  clients := h'.clients.trans h.clients
  numWanClient := h'.numWanClient.trans h.numWanClient

theorem SameClients.ready (h : s.SameClients s') (hr : s.Ready)
    (hboth : s'.iface.headerSet .v4 = s'.iface.headerSet .v6) : s'.Ready where
  sta := by
    rw [h.conf]
    exact hr.sta
  tx := by
    rw [h.conf]
    exact hr.tx
  ipType := h.ipType.trans hr.ipType
  headers := by
    rw [h.numWanClient, h.clients]
    exact hr.headers
  both := hboth

theorem known_eq_true :
    s.view.known n a = true ↔ n < s.iface.numWanClient ∧ (s.iface.clients n).serves a = true := by
  simp [view]

theorem lookup (s : Station) : s.view.Lookup where
  found {a n} h := by
    have h : s.iface.wanClientOf a = some n := h
    rw [Iface.wanClientOf_eq] at h
    have hserves := List.find?_some h
    exact known_eq_true.mpr ⟨List.mem_range.mp (List.mem_of_find?_eq_some h), hserves⟩
  missed {a} h n := by
    have h : s.iface.wanClientOf a = none := h
    rw [Iface.wanClientOf_eq, List.find?_eq_none] at h
    refine Bool.eq_false_of_not_eq_true fun hn => ?_
    obtain ⟨hlt, hserves⟩ := known_eq_true.mp hn
    exact h n (List.mem_range.mpr hlt) hserves

/-! ## Headers are taken -/

theorem takeHeaders_view (h : s.Ready) (hn : n < s.iface.numWanClient) (ip : IpType) :
    (s.takeHeaders n ip).1.view = s.view.take n ∧ (s.takeHeaders n ip).2 = true ∧
      s.SameClients (s.takeHeaders n ip).1 ∧ (s.takeHeaders n ip).1.Ready := by
  have htake : s.takeHeaders n ip = ((s.setHeader n ip).setHeader n (otherFamily ip), true) := by
    rw [takeHeaders]
    dsimp only
    rw [h.headers n hn, h.headers n hn]
    rfl
  have hset : ∀ t, ((s.setHeader n ip).setHeader n (otherFamily ip)).iface.headerSet t = true := by
    intro t
    cases ip <;> cases t <;> rfl
  have hhdl : ((s.setHeader n ip).setHeader n (otherFamily ip)).hdrHdlSta =
      s.iface.clientHdrs n := by
    funext t
    cases ip <;> cases t <;> rfl
  have hsame : s.SameClients ((s.setHeader n ip).setHeader n (otherFamily ip)) :=
    ⟨rfl, rfl, rfl, rfl, rfl⟩
  rw [htake]
  refine ⟨?_, rfl, hsame, hsame.ready h ((hset .v4).trans (hset .v6).symm)⟩
  exact GwView.ext rfl rfl rfl rfl rfl (hset .v4) rfl hhdl rfl

theorem findGateway_view (h : s.Ready) (ip : IpType) :
    ((s.findGateway ip).1.view, (s.findGateway ip).2) = s.view.find ip ∧
      s.SameClients (s.findGateway ip).1 ∧ (s.findGateway ip).1.Ready := by
  have hlt : ∀ {a n}, s.iface.wanClientOf a = some n → n < s.iface.numWanClient :=
    fun hc => (known_eq_true.mp (s.lookup.found hc)).1
  have htake : ∀ {a n} (t : IpType), s.view.gateway ip = some a → s.iface.wanClientOf a = some n →
      ((s.takeHeaders n t).1.view, (s.takeHeaders n t).2) = s.view.find ip ∧
        s.SameClients (s.takeHeaders n t).1 ∧ (s.takeHeaders n t).1.Ready := by
    intro a n t hgw hc
    obtain ⟨hview, hgoes, hsame, hready⟩ := takeHeaders_view h (hlt hc) t
    refine ⟨?_, hsame, hready⟩
    have hc' : s.view.client a = some n := hc
    rw [hview, hgoes, GwView.find, hgw]
    dsimp only
    rw [hc']
  have hmiss : ∀ {a}, s.view.gateway ip = some a → s.iface.wanClientOf a = none →
      (s.view, false) = s.view.find ip := by
    intro a hgw hc
    have hc' : s.view.client a = none := hc
    rw [GwView.find, hgw]
    dsimp only
    rw [hc']
  have hnone : s.view.gateway ip = none → (s.view, true) = s.view.find ip := by
    intro hgw
    rw [GwView.find, hgw]
  cases ip with
  | v4 =>
    rw [findGateway]
    cases hgw : s.iface.wanV4AddrGw with
    | none => exact ⟨hnone (by simp [view, hgw]), .refl s, h⟩
    | some addr =>
      have hgw' : s.view.gateway .v4 = some (.v4 addr) := by simp [view, hgw]
      dsimp only
      cases hc : s.iface.wanClientIndexIpv4 addr with
      | none => exact ⟨hmiss hgw' hc, .refl s, h⟩
      | some n => exact htake .v4 hgw' hc
  | v6 =>
    rw [findGateway]
    cases hgw : s.iface.wanV6AddrGw with
    | none => exact ⟨hnone (by simp [view, hgw]), .refl s, h⟩
    | some addr =>
      have hgw' : s.view.gateway .v6 = some (.v6 addr) := by simp [view, hgw]
      dsimp only
      cases hc : s.iface.wanClientIndexIpv6 addr with
      | none => exact ⟨hmiss hgw' hc, .refl s, h⟩
      | some n => exact htake .v6 hgw' hc

/-! ## Routes -/

theorem handleRouteAddEvt_view (h : s.Ready) (alloc : Alloc) (ip : IpType) (fw : FirewallConf) :
    (s.handleRouteAddEvt alloc ip fw).view = s.view.routeAdd ip ∧
      s.SameClients (s.handleRouteAddEvt alloc ip fw) ∧
      (s.handleRouteAddEvt alloc ip fw).Ready := by
  have htx : s.iface.conf.tx ≠ [] := List.ne_nil_of_mem (h.tx ip)
  have hset : s.iface.headerSet ip = s.view.headerSet := by
    cases ip with
    | v4 => rfl
    | v6 => exact h.both.symm
  rw [handleRouteAddEvt, Iface.handleRouteAddEvt, if_neg htx]
  dsimp only
  rw [if_pos h.sta, GwView.routeAdd, hset]
  cases hon : s.view.headerSet with
  | false =>
    have hoff : ¬ (false = true ∧ ip ∈ s.iface.conf.tx) := by simp
    rw [if_pos rfl, if_neg hoff, if_neg Bool.false_ne_true]
    have hsame : s.SameClients { s with
      iface := { s.iface with
        isDefaultGateway := true
        headerPartialDefaultWan := Function.update s.iface.headerPartialDefaultWan ip true }
      statics := { s.statics with
        backhaulIsWanBridge := s.iface.conf.isBridge
        backhaulIsStaMode := true } } := ⟨rfl, rfl, rfl, rfl, rfl⟩
    exact ⟨GwView.ext rfl rfl rfl rfl rfl hon rfl rfl rfl, hsame, hsame.ready h h.both⟩
  | true =>
    rw [if_neg (by simp), if_pos ⟨rfl, h.tx ip⟩, if_pos rfl]
    have hhdrs := Iface.routeUp_clientHdrs alloc ip fw { s.iface with isDefaultGateway := true }
      { s.statics with
        backhaulIsWanBridge := s.iface.conf.isBridge
        backhaulIsStaMode := true }
    obtain ⟨conf, frag, num, hdl, p, f, m, k, heq⟩ := Iface.routeUp_frame alloc
      { s.iface with isDefaultGateway := true }
      { s.statics with
        backhaulIsWanBridge := s.iface.conf.isBridge
        backhaulIsStaMode := true } ip fw
    rw [heq] at hhdrs ⊢
    dsimp only
    refine ⟨GwView.ext rfl rfl hhdrs rfl rfl hon rfl rfl rfl, ⟨rfl, rfl, rfl, rfl, rfl⟩, ?_⟩
    exact SameClients.ready (s := s) ⟨rfl, rfl, rfl, rfl, rfl⟩ h h.both

theorem install_view (h : s.Ready) (alloc : Alloc) (ip : IpType) (fw : FirewallConf) :
    (if s.iface.headerPartialDefaultWan ip then s.handleRouteAddEvt alloc ip fw else s).view =
        s.view.install ip ∧
      s.SameClients
        (if s.iface.headerPartialDefaultWan ip then s.handleRouteAddEvt alloc ip fw else s) ∧
      (if s.iface.headerPartialDefaultWan ip then s.handleRouteAddEvt alloc ip fw
        else s).Ready := by
  rw [GwView.install, show s.view.waiting = s.iface.headerPartialDefaultWan from rfl]
  split
  · exact handleRouteAddEvt_view h alloc ip fw
  · exact ⟨rfl, .refl s, h⟩

theorem handleStaHeaderAddEvt_view (h : s.Ready) (alloc : Alloc) (fw : FirewallConf) :
    (s.handleStaHeaderAddEvt alloc fw).view = s.view.staHeader ∧
      s.SameClients (s.handleStaHeaderAddEvt alloc fw) ∧
      (s.handleStaHeaderAddEvt alloc fw).Ready := by
  rw [handleStaHeaderAddEvt, GwView.staHeader, ← h.both, Bool.or_self,
    show s.view.headerSet = s.iface.headerSet .v4 from rfl]
  split
  · exact ⟨rfl, .refl s, h⟩
  obtain ⟨hview, hsame, hready⟩ := findGateway_view h .v4
  rcases hv4 : s.findGateway .v4 with ⟨s₁, goes₁⟩
  rw [hv4] at hview hsame hready
  rw [← hview]
  cases goes₁ with
  | false => exact ⟨rfl, hsame, hready⟩
  | true =>
    dsimp only at hsame hready ⊢
    obtain ⟨hview₂, hsame₂, hready₂⟩ := findGateway_view hready .v6
    rcases hv6 : s₁.findGateway .v6 with ⟨s₂, goes₂⟩
    rw [hv6] at hview₂ hsame₂ hready₂
    rw [← hview₂]
    cases goes₂ with
    | false => exact ⟨rfl, hsame.trans hsame₂, hready₂⟩
    | true =>
      dsimp only at hsame₂ hready₂ ⊢
      obtain ⟨hview₄, hsame₄, hready₄⟩ := install_view hready₂ alloc .v4 fw
      rw [← hview₄]
      obtain ⟨hview₆, hsame₆, hready₆⟩ := install_view hready₄ alloc .v6 fw
      exact ⟨hview₆, ((hsame.trans hsame₂).trans hsame₄).trans hsame₆, hready₆⟩

theorem setGateway_view (s : Station) (gw : Addr) :
    ({ s with iface := s.iface.setGateway (upstreamBy gw) } : Station).view =
      s.view.setGateway gw := by
  have hgateway : ({ s with iface := s.iface.setGateway (upstreamBy gw) } : Station).view.gateway =
      (s.view.setGateway gw).gateway := by
    funext ip
    cases gw <;> cases ip <;> rfl
  cases gw with
  | v4 addr => exact GwView.ext rfl rfl rfl hgateway rfl rfl rfl rfl rfl
  | v6 addr => exact GwView.ext rfl rfl rfl hgateway rfl rfl rfl rfl rfl

theorem handleUpstreamRouteAdd_view (h : s.Ready) (alloc : Alloc) (gw : Addr) (fw : FirewallConf)
    (hpfx : gw.ipType = .v6 → s.iface.ipv6Prefix ≠ 0) :
    (s.handleUpstreamRouteAdd alloc (upstreamBy gw) fw).view = s.view.add gw ∧
      s.SameClients (s.handleUpstreamRouteAdd alloc (upstreamBy gw) fw) ∧
      (s.handleUpstreamRouteAdd alloc (upstreamBy gw) fw).Ready := by
  have htype : (upstreamBy gw).ipType = gw.ipType := by cases gw <;> rfl
  have hhas : s.iface.ipType.has gw.ipType ≠ false := by
    rw [h.ipType]
    cases gw.ipType <;> exact Bool.noConfusion
  have hgw : Iface.hasGateway (upstreamBy gw) = true := by cases gw <;> rfl
  have hready : ({ s with iface := s.iface.setGateway (upstreamBy gw) } : Station).Ready := by
    cases gw <;> exact ⟨h.sta, h.tx, h.ipType, h.headers, h.both⟩
  have hsame : s.SameClients { s with iface := s.iface.setGateway (upstreamBy gw) } := by
    cases gw <;> exact ⟨rfl, rfl, rfl, rfl, rfl⟩
  rw [handleUpstreamRouteAdd, htype]
  dsimp only
  rw [if_neg hhas, if_neg fun hnone => hpfx hnone.1 hnone.2, GwView.add,
    show s.view.active = s.iface.active from rfl, hgw]
  split
  · exact ⟨rfl, ⟨rfl, rfl, rfl, rfl, rfl⟩, ⟨h.sta, h.tx, h.ipType, h.headers, h.both⟩⟩
  rw [if_pos rfl, ← setGateway_view]
  obtain ⟨hview, hsame', hready'⟩ := handleStaHeaderAddEvt_view hready alloc fw
  rw [← hview]
  generalize handleStaHeaderAddEvt alloc fw { s with iface := s.iface.setGateway (upstreamBy gw) }
    = s' at hsame' hready' ⊢
  dsimp only
  rw [show s'.view.active = s'.iface.active from rfl]
  split
  · have hs := hsame.trans hsame'
    exact ⟨rfl, ⟨hs.conf, hs.ipType, hs.ipv6Prefix, hs.clients, hs.numWanClient⟩,
      ⟨hready'.sta, hready'.tx, hready'.ipType, hready'.headers, hready'.both⟩⟩
  · obtain ⟨hview, hsame'', hready''⟩ := handleRouteAddEvt_view hready' alloc gw.ipType fw
    have hs := (hsame.trans hsame').trans hsame''
    exact ⟨hview, ⟨hs.conf, hs.ipType, hs.ipv6Prefix, hs.clients, hs.numWanClient⟩,
      ⟨hready''.sta, hready''.tx, hready''.ipType, hready''.headers, hready''.both⟩⟩

theorem handleUpstreamRouteDel_view (h : s.Ready) (ip : IpType) :
    (s.handleUpstreamRouteDel ip).view = s.view.del ip ∧
      s.SameClients (s.handleUpstreamRouteDel ip) ∧ (s.handleUpstreamRouteDel ip).Ready := by
  have htx : s.iface.conf.tx ≠ [] := List.ne_nil_of_mem (h.tx ip)
  rw [handleUpstreamRouteDel, Iface.handleUpstreamRouteDel, GwView.del,
    show s.view.active = s.iface.active from rfl]
  by_cases hon : s.iface.active ip = true
  case neg =>
    rw [if_neg hon, if_neg hon]
    dsimp only
    rw [if_neg hon]
    exact ⟨rfl, .refl s, h⟩
  case pos =>
    have hframe : ∃ gw frag num dgw g, ((s.iface.forgetGateway ip).leaveRoute ip
        (s.iface.postWanDownTetherEvt ip s.statics)) =
        ({ s.iface with
          wanV4AddrGw := gw
          fragInstalled := frag
          numFirewall := num
          isDefaultGateway := dgw
          active := Function.update s.iface.active ip false }, g) ∧
        gw = if ip = .v4 then none else s.iface.wanV4AddrGw := by
      obtain ⟨gw, hforget, hgw⟩ : ∃ gw, s.iface.forgetGateway ip =
          { s.iface with wanV4AddrGw := gw } ∧
          gw = if ip = .v4 then none else s.iface.wanV4AddrGw := by
        cases ip <;> exact ⟨_, rfl, rfl⟩
      rw [hforget, Iface.leaveRoute, if_pos h.sta]
      obtain ⟨frag, num, k, hdft⟩ := Iface.delDftFirewallRules_frame
        { s.iface with wanV4AddrGw := gw } (s.iface.postWanDownTetherEvt ip s.statics) ip
      rw [hdft]
      dsimp only
      obtain ⟨name, k', hdel⟩ := Iface.handleRouteDelEvt_frame
        { s.iface with
          wanV4AddrGw := gw
          fragInstalled := frag
          numFirewall := num }
        { s.iface.postWanDownTetherEvt ip s.statics with kernel := k } ip htx hon
      rw [hdel]
      exact ⟨_, _, _, _, _, rfl, hgw⟩
    obtain ⟨gw, frag, num, dgw, g, heq, hgw⟩ := hframe
    rw [if_pos hon, if_pos hon, heq]
    dsimp only
    rw [if_pos hon]
    refine ⟨GwView.ext rfl rfl rfl ?_ rfl rfl rfl rfl rfl, ⟨rfl, rfl, rfl, rfl, rfl⟩,
      ⟨h.sta, h.tx, h.ipType, h.headers, h.both⟩⟩
    funext t
    rw [hgw]
    cases ip <;> cases t <;> rfl

end Station

/-! ## Neighbours -/

namespace Iface

variable {alloc : Alloc} {i i' : Iface} {g : Statics} {mac : Mac} {a b : Addr} {n : Nat}

/-- The client of a neighbour, which comes last if it is new. -/
def neighClient (mac : Mac) (i : Iface) : Nat := (i.wanClientIndex mac).getD i.numWanClient

/-- The address of a neighbour is stored: it is not one of the interface itself, nor has the
client got it, and there is room for it. -/
def KeepsNeigh (mac : Mac) (a : Addr) (i : Iface) : Prop :=
  ¬ (i.conf.staMode = .wlanWan ∧ i.isOwnAddr a = true) ∧ mac ≠ 0 ∧ a.isZero = false ∧
    match i.wanClientIndex mac with
    | none => i.numWanClient < maxNumWanClients
    | some n => (i.clients n).serves a = false ∧
        (a.ipType = .v6 → (i.clients n).ipv6Set < Clients.ipv6NumAddr)

/-- The clients have the addresses and the headers they had. -/
structure KeepsClients (i i' : Iface) : Prop where
  rest : ∃ cs num hdl, i' = { i with clients := cs, numWanClient := num, hdl := hdl }
  known : ∀ k b, k < i'.numWanClient ∧ (i'.clients k).serves b = true ↔
    k < i.numWanClient ∧ (i.clients k).serves b = true
  headers : (∀ k < i.numWanClient, ∀ ip, (i.clients k).headerSet ip = true) →
    ∀ k < i'.numWanClient, ∀ ip, (i'.clients k).headerSet ip = true
  hdrs : ∀ k ip, k < i.numWanClient → i'.clientHdrs k ip = i.clientHdrs k ip

theorem KeepsClients.refl (i : Iface) : i.KeepsClients i :=
  ⟨⟨_, _, _, rfl⟩, fun _ _ => .rfl, id, fun _ _ _ => rfl⟩

theorem lt_of_wanClientIndex (h : i.wanClientIndex mac = some n) : n < i.numWanClient :=
  List.mem_range.mp (List.mem_of_find?_eq_some h)

theorem addClientHeader_eq (alloc : Alloc) (n : Nat) {ip : IpType} (htx : ip ∈ i.conf.tx)
    (g : Statics) : ∃ hdl g', i.addClientHeader alloc n ip g =
      ({ i with
        clients := Function.update i.clients n { i.clients n with
          headerSet := Function.update (i.clients n).headerSet ip true }
        hdl := hdl }, g') ∧ ∀ k t, k ≠ n → hdl (.clientHdr k t) = i.hdl (.clientHdr k t) := by
  have hhdl : ∀ k t, k ≠ n → (i.addAt alloc [.clientHdr n ip] g).1.hdl (.clientHdr k t) =
      i.hdl (.clientHdr k t) := fun k t hne => addAt_hdl alloc (by simp [hne]) i g
  rw [addClientHeader, if_pos htx]
  obtain ⟨hdl, k, heq⟩ := addAt_frame alloc i g [.clientHdr n ip]
  rw [heq] at hhdl ⊢
  exact ⟨hdl, _, rfl, hhdl⟩

theorem handleWanHdrInit_new (alloc : Alloc) (htx : ∀ ip, ip ∈ i.conf.tx)
    (hmac : i.wanClientIndex mac = none) (hlt : i.numWanClient < maxNumWanClients) (g : Statics) :
    ∃ c hdl g', i.handleWanHdrInit alloc mac g =
        ({ i with
          clients := Function.update i.clients i.numWanClient c
          numWanClient := i.numWanClient + 1
          hdl := hdl }, g') ∧
      c.mac = mac ∧ c.ipv4Set = false ∧ c.ipv6Set = 0 ∧ (∀ ip, c.headerSet ip = true) ∧
      ∀ k t, k ≠ i.numWanClient → hdl (.clientHdr k t) = i.hdl (.clientHdr k t) := by
  have htx' : ∀ c, (i.setClient i.numWanClient c).conf.tx ≠ [] :=
    fun _ => List.ne_nil_of_mem (htx .v4)
  rw [handleWanHdrInit, hmac]
  dsimp only
  rw [if_neg (Nat.not_le.mpr hlt), if_neg (htx' _)]
  obtain ⟨hdl, g₁, heq, hhdl⟩ := addClientHeader_eq
    (i := i.setClient i.numWanClient { i.clients i.numWanClient with mac := mac }) alloc
    i.numWanClient (htx .v4) g
  rw [heq]
  obtain ⟨hdl', g₂, heq', hhdl'⟩ := addClientHeader_eq
    (i := { i.setClient i.numWanClient { i.clients i.numWanClient with mac := mac } with
      clients := _
      hdl := hdl }) alloc i.numWanClient (htx .v6) g₁
  dsimp only
  rw [heq']
  refine ⟨{ i.clients i.numWanClient with
    mac := mac
    headerSet := Function.update (Function.update (i.clients i.numWanClient).headerSet .v4 true)
      .v6 true
    routeRuleSetV4 := false
    routeRuleSetV6 := 0
    ipv4Set := false
    ipv6Set := 0 }, hdl', g₂, ?_, rfl, rfl, rfl, ?_, fun k t hne => ?_⟩
  · simp [setClient]
  · intro ip
    cases ip <;> rfl
  · exact (hhdl' k t hne).trans (hhdl k t hne)

theorem handleWanHdrInit_keepsClients (alloc : Alloc) (htx : ∀ ip, ip ∈ i.conf.tx) (mac : Mac)
    (g : Statics) : i.KeepsClients (i.handleWanHdrInit alloc mac g).1 := by
  cases hmac : i.wanClientIndex mac with
  | some n =>
    rw [handleWanHdrInit, hmac]
    exact .refl i
  | none =>
    by_cases hlt : i.numWanClient < maxNumWanClients
    case neg =>
      rw [handleWanHdrInit, hmac]
      dsimp only
      rw [if_pos (Nat.not_lt.mp hlt)]
      exact .refl i
    case pos =>
      obtain ⟨c, hdl, g', heq, -, h4, h6, hset, hhdl⟩ := handleWanHdrInit_new alloc htx hmac hlt g
      rw [heq]
      have hserves : ∀ b, c.serves b = false := by
        intro b
        cases b <;> simp [WanClient.serves, h4, h6]
      refine ⟨⟨_, _, _, rfl⟩, fun k b => ?_, fun hall k hk ip => ?_, fun k ip hk => ?_⟩
      · show k < i.numWanClient + 1 ∧ (Function.update i.clients i.numWanClient c k).serves b =
          true ↔ _
        rcases eq_or_ne k i.numWanClient with rfl | hne
        · simp [hserves]
        · rw [Function.update_of_ne hne]
          exact and_congr_left' (by omega)
      · show (Function.update i.clients i.numWanClient c k).headerSet ip = true
        rcases eq_or_ne k i.numWanClient with rfl | hne
        · rw [Function.update_self]
          exact hset ip
        · rw [Function.update_of_ne hne]
          exact hall k (by dsimp only at hk; omega) ip
      · exact hhdl k ip (Nat.ne_of_lt hk)

theorem wanClientIndex_new {c : WanClient} (hmac : i.wanClientIndex mac = none)
    (hc : c.mac = mac) (hdl : Place → Nat) :
    wanClientIndex mac { i with
      clients := Function.update i.clients i.numWanClient c
      numWanClient := i.numWanClient + 1
      hdl := hdl } = some i.numWanClient := by
  rw [wanClientIndex, List.find?_eq_none] at hmac
  refine List.find?_range_eq_some.mpr ⟨by simp [hc], by simp, fun k hk => ?_⟩
  have hne : k ≠ i.numWanClient := Nat.ne_of_lt hk
  simpa [Function.update_of_ne hne] using hmac k (List.mem_range.mpr hk)

theorem handleWanHdrInit_room (alloc : Alloc) (htx : ∀ ip, ip ∈ i.conf.tx) (g : Statics)
    (hroom : match i.wanClientIndex mac with
      | none => i.numWanClient < maxNumWanClients
      | some n => (i.clients n).serves a = false ∧
          (a.ipType = .v6 → (i.clients n).ipv6Set < Clients.ipv6NumAddr)) :
    ∃ i' g', i.handleWanHdrInit alloc mac g = (i', g') ∧
      i'.wanClientIndex mac = some (i.neighClient mac) ∧
      (i'.clients (i.neighClient mac)).serves a = false ∧
      (a.ipType = .v6 → (i'.clients (i.neighClient mac)).ipv6Set < Clients.ipv6NumAddr) := by
  cases hmac : i.wanClientIndex mac with
  | some n =>
    rw [hmac] at hroom
    rw [handleWanHdrInit, neighClient, hmac]
    exact ⟨i, g, rfl, hmac, hroom⟩
  | none =>
    rw [hmac] at hroom
    obtain ⟨c, hdl, g', heq, hc, h4, h6, -⟩ := handleWanHdrInit_new alloc htx hmac hroom g
    rw [heq, neighClient, hmac]
    refine ⟨_, g', rfl, wanClientIndex_new hmac hc hdl, ?_⟩
    simp only [Option.getD_none, Function.update_self]
    refine ⟨?_, fun _ => ?_⟩
    · cases a <;> simp [WanClient.serves, h4, h6]
    · rw [h6]
      exact Nat.succ_pos _

theorem handleWanClientIpaddr_eq_some (hn : i.wanClientIndex mac = some n)
    (hzero : a.isZero = false) (hserves : (i.clients n).serves a = false)
    (hroom : a.ipType = .v6 → (i.clients n).ipv6Set < Clients.ipv6NumAddr) (g : Statics) :
    ∃ c g', i.handleWanClientIpaddr mac a g = some (i.setClient n c, g') ∧
      c.headerSet = (i.clients n).headerSet ∧ ∀ b, c.serves b = true ↔
        b = a ∨ (i.clients n).serves b = true ∧ (a.ipType = .v6 ∨ b.ipType = .v6) := by
  rw [handleWanClientIpaddr, hn]
  dsimp only
  cases a with
  | v4 addr =>
    have hne : addr ≠ 0 := fun h => by simp [Addr.isZero, h] at hzero
    have hv4 : ∀ r, ∀ b, ({ i.clients n with
        v4Addr := addr
        ipv4Set := true
        routeRuleSetV4 := r } : WanClient).serves b = true ↔
        b = .v4 addr ∨ (i.clients n).serves b = true ∧ (IpType.v4 = .v6 ∨ b.ipType = .v6) := by
      intro r b
      cases b with
      | v4 x => simpa [WanClient.serves, Addr.ipType] using eq_comm
      | v6 x => simp [WanClient.serves, Addr.ipType]
    dsimp only
    rw [if_neg hne]
    split
    case isTrue => exact ⟨_, _, rfl, rfl, hv4 _⟩
    case isFalse hset =>
      have hset := Bool.eq_true_of_not_eq_false hset
      have hother : addr ≠ (i.clients n).v4Addr := fun h => by
        simp [WanClient.serves, hset, h] at hserves
      rw [if_neg hother]
      refine ⟨{ i.clients n with v4Addr := addr, ipv4Set := true, routeRuleSetV4 := false },
        (i.deleteWanRtrules n .v4 g).2, ?_, rfl, hv4 _⟩
      simp [deleteWanRtrules, setClient, hset]
  | v6 addr =>
    have hne : addr ≠ 0 := fun h => by simp [Addr.isZero, h] at hzero
    have hother : ¬ ∃ m < (i.clients n).ipv6Set, (i.clients n).v6Addr m = addr := by
      rintro ⟨m, hm, h⟩
      have hall : ∀ m < (i.clients n).ipv6Set, (i.clients n).v6Addr m ≠ addr := by
        simpa [WanClient.serves] using hserves
      exact hall m hm h
    dsimp only
    rw [if_neg hne, if_pos (hroom rfl), if_neg hother]
    refine ⟨_, _, rfl, rfl, fun b => ?_⟩
    cases b with
    | v4 x => simp [WanClient.serves, Addr.ipType]
    | v6 x =>
      simp only [WanClient.serves, Addr.ipType, List.any_eq_true, List.mem_range,
        decide_eq_true_eq, Addr.v6.injEq, or_self, and_true]
      constructor
      · rintro ⟨m, hm, h⟩
        rcases eq_or_ne m (i.clients n).ipv6Set with rfl | hlt
        · exact .inl (h.symm.trans (Function.update_self ..))
        · rw [Function.update_of_ne hlt] at h
          exact .inr ⟨m, by omega, h⟩
      · rintro (rfl | ⟨m, hm, h⟩)
        · exact ⟨(i.clients n).ipv6Set, by omega, Function.update_self ..⟩
        · exact ⟨m, by omega, by rw [Function.update_of_ne (Nat.ne_of_lt hm), h]⟩

theorem handleWanClientIpaddr_eq_none (hn : i.wanClientIndex mac = some n)
    (h : ¬ (a.isZero = false ∧ (i.clients n).serves a = false ∧
      (a.ipType = .v6 → (i.clients n).ipv6Set < Clients.ipv6NumAddr))) (g : Statics) :
    i.handleWanClientIpaddr mac a g = none := by
  rw [handleWanClientIpaddr, hn]
  dsimp only
  cases a with
  | v4 addr =>
    dsimp only
    split
    · rfl
    next hne =>
      have hserves : (i.clients n).serves (.v4 addr) = true := by
        refine Bool.eq_true_of_not_eq_false fun hs => h ⟨by simpa [Addr.isZero] using hne, hs, ?_⟩
        rintro ⟨⟩
      obtain ⟨hset, haddr⟩ : (i.clients n).ipv4Set = true ∧ (i.clients n).v4Addr = addr := by
        simpa [WanClient.serves] using hserves
      rw [if_neg (by simp [hset]), if_pos haddr.symm]
  | v6 addr =>
    dsimp only
    split
    · rfl
    next hne =>
      split
      · next hroom =>
          have hserves : (i.clients n).serves (.v6 addr) = true :=
            Bool.eq_true_of_not_eq_false fun hs =>
              h ⟨by simpa [Addr.isZero] using hne, hs, fun _ => hroom⟩
          rw [if_pos (by simpa [WanClient.serves] using hserves)]
      · rfl

theorem handleWanClientRouteRule_keepsClients (alloc : Alloc) (mac : Mac) (ip : IpType)
    (i : Iface) (g : Statics) :
    i.KeepsClients (i.handleWanClientRouteRule alloc mac ip g).1 := by
  have hset : ∀ n c hdl, c.headerSet = (i.clients n).headerSet →
      c.serves = (i.clients n).serves → (∀ k t, hdl (.clientHdr k t) = i.hdl (.clientHdr k t)) →
      i.KeepsClients { i with clients := Function.update i.clients n c, hdl := hdl } := by
    intro n c hdl hheader hserves hhdl
    have hsame : ∀ k, (Function.update i.clients n c k).headerSet = (i.clients k).headerSet ∧
        (Function.update i.clients n c k).serves = (i.clients k).serves := by
      intro k
      rcases eq_or_ne k n with rfl | hne
      · rw [Function.update_self]
        exact ⟨hheader, hserves⟩
      · rw [Function.update_of_ne hne]
        exact ⟨rfl, rfl⟩
    refine ⟨⟨_, _, _, rfl⟩, fun k b => ?_, fun hall k hk t => ?_, fun k t _ => hhdl k t⟩
    · dsimp only
      rw [(hsame k).2]
    · dsimp only
      rw [(hsame k).1]
      exact hall k hk t
  have hadd : ∀ n (rs : List Clients.RtHdl), ∃ hdl g', i.addAt alloc (rs.map (.clientRt n)) g =
      ({ i with hdl := hdl }, g') ∧ ∀ k t, hdl (.clientHdr k t) = i.hdl (.clientHdr k t) := by
    intro n rs
    have hhdl : ∀ k t, (i.addAt alloc (rs.map (.clientRt n)) g).1.hdl (.clientHdr k t) =
        i.hdl (.clientHdr k t) := fun k t => addAt_hdl alloc (by simp) i g
    obtain ⟨hdl, k, heq⟩ := addAt_frame alloc i g (rs.map (.clientRt n))
    rw [heq] at hhdl ⊢
    exact ⟨hdl, _, rfl, hhdl⟩
  rw [handleWanClientRouteRule]
  split
  · exact .refl i
  split
  · exact .refl i
  next n _ =>
    cases ip with
    | v4 =>
      dsimp only
      split
      · obtain ⟨hdl, g', heq, hhdl⟩ := hadd n (Clients.v4Hdls i.conf.tx)
        rw [heq]
        exact hset n _ hdl rfl (by funext b; cases b <;> rfl) hhdl
      · exact .refl i
    | v6 =>
      dsimp only
      split
      · obtain ⟨hdl, g', heq, hhdl⟩ := hadd n (Clients.v6Hdls i.conf.tx
          (List.range' (i.clients n).routeRuleSetV6
            ((i.clients n).ipv6Set - (i.clients n).routeRuleSetV6)))
        rw [heq]
        exact hset n _ hdl rfl (by funext b; cases b <;> rfl) hhdl
      · exact .refl i

end Iface

namespace GwView

variable {u v v' w : GwView} {n : Nat} {a : Addr}

theorem Stores.of_storesNone (hs : Stores n a v v') (hv : StoresNone u v)
    (hw : StoresNone v' w) : Stores n a u w where
  known k b := by
    rw [hw.known, hs.known, hv.known]
  header k b ip hk := by
    have hkv : v.known k b = true := by
      rw [hv.known]
      exact hk
    have hkv' : ∃ c, v'.known k c = true := by
      rcases eq_or_ne k n with rfl | hne
      · exact ⟨a, hs.known_self⟩
      · exact ⟨b, by rw [hs.known, if_neg hne]; exact hkv⟩
    obtain ⟨c, hc⟩ := hkv'
    rw [hw.header k c ip hc, hs.header k b ip hkv, hv.header k b ip hk]
  gateway := (hw.gateway.trans hs.gateway).trans hv.gateway
  active := (hw.active.trans hs.active).trans hv.active
  headerSet := (hw.headerSet.trans hs.headerSet).trans hv.headerSet
  waiting := (hw.waiting.trans hs.waiting).trans hv.waiting
  hdrHdlSta := (hw.hdrHdlSta.trans hs.hdrHdlSta).trans hv.hdrHdlSta
  wanRouteHdr := (hw.wanRouteHdr.trans hs.wanRouteHdr).trans hv.wanRouteHdr

end GwView

namespace Station

variable {alloc : Alloc} {s : Station} {i : Iface} {n : Nat} {a : Addr} {mac : Mac}

theorem storesNone_of_keepsClients (h : s.iface.KeepsClients i) (g : Statics) :
    s.view.StoresNone ({ s with iface := i, statics := g } : Station).view := by
  obtain ⟨⟨cs, num, hdl, rfl⟩, hknown, -, hhdrs⟩ := h
  refine ⟨?_, fun k b ip hk => hhdrs k ip (known_eq_true.mp hk).1, rfl, rfl, rfl, rfl, rfl, rfl⟩
  funext k b
  rw [Bool.eq_iff_iff, known_eq_true, known_eq_true]
  exact hknown k b

theorem ready_of_keepsClients (hr : s.Ready) (h : s.iface.KeepsClients i) (g : Statics) :
    ({ s with iface := i, statics := g } : Station).Ready ∧
      i.ipv6Prefix = s.iface.ipv6Prefix := by
  obtain ⟨⟨cs, num, hdl, rfl⟩, -, hheaders, -⟩ := h
  exact ⟨⟨hr.sta, hr.tx, hr.ipType, hheaders hr.headers, hr.both⟩, rfl⟩

theorem setClient_stores {c : WanClient} (hn : n < s.iface.numWanClient)
    (hserves : ∀ b, c.serves b = true ↔
      b = a ∨ (s.iface.clients n).serves b = true ∧ (a.ipType = .v6 ∨ b.ipType = .v6))
    (g : Statics) : s.view.Stores n a
      ({ s with iface := s.iface.setClient n c, statics := g } : Station).view where
  known k b := by
    rw [known_eq_true]
    show k < s.iface.numWanClient ∧ (Function.update s.iface.clients n c k).serves b = true ↔ _
    split
    case isTrue heq =>
      subst heq
      rw [Function.update_self, hserves, known_eq_true]
      simp [hn]
    case isFalse hne => rw [Function.update_of_ne hne, known_eq_true]
  header _ _ _ _ := rfl
  gateway := rfl
  active := rfl
  headerSet := rfl
  waiting := rfl
  hdrHdlSta := rfl
  wanRouteHdr := rfl

theorem setClient_ready {c : WanClient} (h : s.Ready)
    (hheader : c.headerSet = (s.iface.clients n).headerSet) (g : Statics) :
    ({ s with iface := s.iface.setClient n c, statics := g } : Station).Ready := by
  refine ⟨h.sta, h.tx, h.ipType, fun k hk ip => ?_, h.both⟩
  show (Function.update s.iface.clients n c k).headerSet ip = true
  rcases eq_or_ne k n with rfl | hne
  · rw [Function.update_self, hheader]
    exact h.headers k hk ip
  · rw [Function.update_of_ne hne]
    exact h.headers k hk ip

theorem storeNeigh_of_keepsNeigh (h : s.Ready) (alloc : Alloc)
    (hkeeps : s.iface.KeepsNeigh mac a) : ∃ s', s.storeNeigh alloc mac a = (s', true) ∧
      s.view.Stores (s.iface.neighClient mac) a s'.view ∧ s'.Ready ∧
      s'.iface.ipv6Prefix = s.iface.ipv6Prefix := by
  obtain ⟨hown, hmac, hzero, hroom⟩ := hkeeps
  have hinit := Iface.handleWanHdrInit_keepsClients alloc h.tx mac s.statics
  obtain ⟨i, g, heq, hindex, hserves, hroom⟩ :=
    Iface.handleWanHdrInit_room alloc h.tx s.statics hroom
  rw [heq] at hinit
  obtain ⟨c, g', hstore, hheader, hc⟩ :=
    Iface.handleWanClientIpaddr_eq_some hindex hzero hserves hroom g
  have hlt := Iface.lt_of_wanClientIndex hindex
  generalize s.iface.neighClient mac = n at hindex hserves hroom hstore hheader hc hlt ⊢
  obtain ⟨hready, hpfx⟩ := ready_of_keepsClients h hinit g
  have hset := setClient_stores (s := { s with iface := i, statics := g }) hlt hc g'
  have hready' := setClient_ready (s := { s with iface := i, statics := g }) hready hheader g'
  have hrt := Iface.handleWanClientRouteRule_keepsClients alloc mac a.ipType (i.setClient n c) g'
  obtain ⟨hready'', hpfx'⟩ := ready_of_keepsClients hready' hrt
    ((i.setClient n c).handleWanClientRouteRule alloc mac a.ipType g').2
  rw [storeNeigh, if_neg hown, if_neg hmac, heq]
  dsimp only
  rw [hstore]
  exact ⟨_, rfl, hset.of_storesNone (storesNone_of_keepsClients hinit g)
    (storesNone_of_keepsClients (s := { s with iface := i.setClient n c, statics := g' }) hrt _),
    hready'', hpfx'.trans hpfx⟩

theorem storeNeigh_of_not_keepsNeigh (h : s.Ready) (alloc : Alloc)
    (hkeeps : ¬ s.iface.KeepsNeigh mac a) : ∃ s', s.storeNeigh alloc mac a = (s', false) ∧
      s.view.StoresNone s'.view ∧ s'.Ready ∧ s'.iface.ipv6Prefix = s.iface.ipv6Prefix := by
  have hnone : s.view.StoresNone s.view :=
    ⟨rfl, fun _ _ _ _ => rfl, rfl, rfl, rfl, rfl, rfl, rfl⟩
  by_cases hown : s.iface.conf.staMode = .wlanWan ∧ s.iface.isOwnAddr a = true
  · rw [storeNeigh, if_pos hown]
    exact ⟨s, rfl, hnone, h, rfl⟩
  by_cases hmac : mac = 0
  · rw [storeNeigh, if_neg hown, if_pos hmac]
    exact ⟨s, rfl, hnone, h, rfl⟩
  have hinit := Iface.handleWanHdrInit_keepsClients alloc h.tx mac s.statics
  obtain ⟨hready, hpfx⟩ := ready_of_keepsClients h hinit
    (s.iface.handleWanHdrInit alloc mac s.statics).2
  have hnot : (s.iface.handleWanHdrInit alloc mac s.statics).1.handleWanClientIpaddr mac a
      (s.iface.handleWanHdrInit alloc mac s.statics).2 = none := by
    cases hi : s.iface.wanClientIndex mac with
    | some n =>
      rw [Iface.handleWanHdrInit, hi]
      refine Iface.handleWanClientIpaddr_eq_none hi (fun hroom => hkeeps ?_) _
      refine ⟨hown, hmac, hroom.1, ?_⟩
      rw [hi]
      exact hroom.2
    | none =>
      by_cases hlt : s.iface.numWanClient < maxNumWanClients
      · obtain ⟨c, hdl, g, heq, hc, -⟩ :=
          Iface.handleWanHdrInit_new alloc h.tx hi hlt s.statics
        rw [heq]
        refine Iface.handleWanClientIpaddr_eq_none (Iface.wanClientIndex_new hi hc hdl)
          (fun hroom => hkeeps ⟨hown, hmac, hroom.1, ?_⟩) _
        rw [hi]
        exact hlt
      · rw [Iface.handleWanHdrInit, hi]
        dsimp only
        rw [if_pos (Nat.not_lt.mp hlt), Iface.handleWanClientIpaddr, hi]
  rw [storeNeigh, if_neg hown, if_neg hmac]
  dsimp only
  rw [hnot]
  exact ⟨_, rfl, storesNone_of_keepsClients hinit _, hready, hpfx⟩

end Station

end Axon7.Wan
