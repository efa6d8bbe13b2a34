import Axon7.Wan.Iface

/-!
# What a handler changes

Rules that come and go change handles and the kernel; beside these, the firewall of
a station has its own members. So much is left to say of an operation when the
rules themselves do not matter.
-/

namespace Axon7.Wan

open Axon7.Tether (IpType)

namespace Statics

variable {g g' g'' : Statics}

/-- Only the kernel is another. -/
def KernelOnly (g g' : Statics) : Prop := ∃ k, g' = { g with kernel := k }

theorem KernelOnly.refl (g : Statics) : g.KernelOnly g := ⟨_, rfl⟩

theorem KernelOnly.trans (h : g.KernelOnly g') (h' : g'.KernelOnly g'') :
    g.KernelOnly g'' := by
  obtain ⟨k, rfl⟩ := h
  obtain ⟨k', rfl⟩ := h'
  exact ⟨k', rfl⟩

theorem KernelOnly.delAt (h : g.KernelOnly g') (p : Prop) [Decidable p] (i : Iface)
    (ps : List Place) : g.KernelOnly (if p then i.delAt ps g' else g') := by
  split
  · exact h.trans ⟨_, rfl⟩
  · exact h

end Statics

namespace Iface

variable (alloc : Alloc) (i : Iface) (g : Statics) (ip : IpType)

theorem addAt_frame (ps : List Place) : ∃ hdl k,
    i.addAt alloc ps g = ({ i with hdl := hdl }, { g with kernel := k }) := by
  induction ps generalizing i g with
  | nil => exact ⟨_, _, rfl⟩
  | cons p ps ih =>
    rw [addAt]
    obtain ⟨hdl, k, h⟩ := ih { i with hdl := Function.update i.hdl p (alloc g.kernel p.res) }
      { g with kernel := g.kernel.add (p.res, alloc g.kernel p.res) (i.conf.ipaIfNum, p) }
    exact ⟨hdl, k, h⟩

theorem configDftFirewallRules_frame (fw : FirewallConf) : ∃ conf frag num hdl k,
    i.configDftFirewallRules alloc ip fw g =
      ({ i with
          firewallConfig := conf
          fragInstalled := frag
          numFirewall := num
          hdl := hdl }, { g with kernel := k }) := by
  have hfrag : ∃ frag hdl k, (if fw.hasFragRule ip then
      ({ (addAt alloc [.ipv6FragFirewall] { i with firewallConfig := fw } g).1 with
        fragInstalled := true },
        (addAt alloc [.ipv6FragFirewall] { i with firewallConfig := fw } g).2)
      else ({ i with firewallConfig := fw }, g)) =
      ({ i with
        firewallConfig := fw
        fragInstalled := frag
        hdl := hdl }, { g with kernel := k }) := by
    split
    · obtain ⟨hdl, k, h⟩ := addAt_frame alloc { i with firewallConfig := fw } g
        [.ipv6FragFirewall]
      rw [h]
      exact ⟨_, _, _, rfl⟩
    · exact ⟨_, _, _, rfl⟩
  rw [configDftFirewallRules]
  split
  · exact ⟨_, _, _, _, _, rfl⟩
  · obtain ⟨frag, hdl, k, h⟩ := hfrag
    dsimp only
    rw [h]
    cases ip with
    | v4 =>
      dsimp only
      obtain ⟨hdl₁, k₁, h₁⟩ := addAt_frame alloc { i with
          firewallConfig := fw
          fragInstalled := frag
          hdl := hdl } { g with kernel := k }
        ((List.range (fw.split .v4).length).map (.firewall .v4))
      rw [h₁]
      dsimp only
      obtain ⟨hdl₂, k₂, h₂⟩ := addAt_frame alloc { i with
          firewallConfig := fw
          fragInstalled := frag
          numFirewall := Function.update i.numFirewall .v4
            (i.numFirewall .v4 + (fw.split .v4).length)
          hdl := hdl₁ } { g with kernel := k₁ } [.dftWanFl 0]
      rw [h₂]
      exact ⟨_, _, _, _, _, rfl⟩
    | v6 =>
      dsimp only
      obtain ⟨hdl₁, k₁, h₁⟩ := addAt_frame alloc { i with
          firewallConfig := fw
          fragInstalled := frag
          hdl := hdl } { g with kernel := k }
        ((List.range (fw.split .v6).length).map (.firewall .v6))
      rw [h₁]
      dsimp only
      obtain ⟨hdl₂, k₂, h₂⟩ := addAt_frame alloc { i with
          firewallConfig := fw
          fragInstalled := frag
          numFirewall := Function.update i.numFirewall .v6
            (i.numFirewall .v6 + (fw.split .v6).length)
          hdl := hdl₁ } { g with kernel := k₁ } [.dftWanFl 2, .dftWanFl 1]
      rw [h₂]
      exact ⟨_, _, _, _, _, rfl⟩

theorem delDftFirewallRules_frame : ∃ frag num k,
    i.delDftFirewallRules ip g =
      ({ i with fragInstalled := frag, numFirewall := num }, { g with kernel := k }) := by
  rw [delDftFirewallRules]
  split
  · exact ⟨_, _, _, rfl⟩
  split
  · exact ⟨_, _, _, rfl⟩
  cases ip with
  | v4 => exact ⟨_, _, _, rfl⟩
  | v6 =>
    dsimp only
    split <;> exact ⟨_, _, _, rfl⟩

theorem addDefaultRoute_frame : ∃ hdl k,
    i.addDefaultRoute alloc ip g = ({ i with hdl := hdl }, { g with kernel := k }) := by
  rw [addDefaultRoute]
  obtain ⟨hdl, k, h⟩ := addAt_frame alloc i g (i.wanRoutes ip)
  rw [h]
  cases ip with
  | v4 => exact ⟨_, _, rfl⟩
  | v6 =>
    dsimp only
    obtain ⟨hdl₁, k₁, h₁⟩ : ∃ hdl₁ k₁, (if i.conf.isSta then
        addAt alloc [.hdrDummyV6, .hdrProcDummyV6] { i with hdl := hdl }
          { g with kernel := k }
        else ({ i with hdl := hdl }, { g with kernel := k })) =
        ({ i with hdl := hdl₁ }, { g with kernel := k₁ }) := by
      split
      · obtain ⟨hdl₁, k₁, h₁⟩ := addAt_frame alloc { i with hdl := hdl }
          { g with kernel := k } [.hdrDummyV6, .hdrProcDummyV6]
        exact ⟨hdl₁, k₁, h₁⟩
      · exact ⟨hdl, k, rfl⟩
    rw [h₁]
    obtain ⟨hdl₂, k₂, h₂⟩ := addAt_frame alloc { i with hdl := hdl₁ }
      { g with kernel := k₁ } [.wanRouteV6A5]
    exact ⟨hdl₂, k₂, h₂⟩

theorem routeUp_frame (fw : FirewallConf) : ∃ conf frag num hdl p f m k,
    i.routeUp alloc ip fw g =
      ({ i with
          active := Function.update i.active ip true
          firewallConfig := conf
          fragInstalled := frag
          numFirewall := num
          hdl := hdl },
        { g with
          backhaulIpv6Prefix := p
          wanUp := Function.update g.wanUp ip true
          wanUpDevName := i.conf.devName
          flt := f
          modem := m
          posted := g.posted ++ [.wanUp ip (i.ifaceUp i.conf.devName ip)]
          kernel := k }) := by
  rw [routeUp]
  obtain ⟨hdl, k, h⟩ := addDefaultRoute_frame alloc i g ip
  rw [h]
  dsimp only
  split
  · obtain ⟨conf, frag, num, hdl₁, k₁, h₁⟩ := configDftFirewallRules_frame alloc
      { i with active := Function.update i.active ip true, hdl := hdl }
      { g with
        backhaulIpv6Prefix := if ip = .v6 then i.ipv6Prefix else g.backhaulIpv6Prefix
        wanUp := Function.update g.wanUp ip true
        wanUpDevName := i.conf.devName
        kernel := k } ip fw
    rw [h₁]
    exact ⟨_, _, _, _, _, _, _, _, rfl⟩
  · rw [Statics.installWanFilteringRule]
    split <;> exact ⟨_, _, _, _, _, _, _, _, rfl⟩

theorem routeDown_frame : ∃ name,
    i.routeDown ip g =
      ({ i with active := Function.update i.active ip false },
        { g with
          wanUp := Function.update g.wanUp ip false
          wanUpDevName := name
          posted := g.posted ++ [.wanDown ip (i.ifaceUp "" ip)] }) := by
  rw [routeDown, Statics.clearDevName]
  dsimp only
  split <;> exact ⟨_, rfl⟩

theorem handleRouteDelEvt_frame (htx : i.conf.tx ≠ []) (hon : i.active ip = true) :
    ∃ name k,
      i.handleRouteDelEvt ip g =
        ({ i with
            active := Function.update i.active ip false
            isDefaultGateway := false },
          { g with
            wanUp := Function.update g.wanUp ip false
            wanUpDevName := name
            posted := g.posted ++ [.wanDown ip (i.ifaceUp "" ip)]
            kernel := k }) := by
  rw [handleRouteDelEvt, if_neg htx]
  dsimp only
  rw [if_pos hon]
  have hdown : ∀ k, ∃ name, routeDown ip { i with isDefaultGateway := false }
      { g with kernel := k } =
      ({ i with
          active := Function.update i.active ip false
          isDefaultGateway := false },
        { g with
          wanUp := Function.update g.wanUp ip false
          wanUpDevName := name
          posted := g.posted ++ [.wanDown ip (i.ifaceUp "" ip)]
          kernel := k }) := fun k =>
    routeDown_frame { i with isDefaultGateway := false } { g with kernel := k } ip
  cases ip with
  | v4 =>
    obtain ⟨name, h⟩ := hdown _
    exact ⟨name, _, h⟩
  | v6 =>
    obtain ⟨name, h⟩ := hdown _
    exact ⟨name, _, h⟩

theorem deleteWanRtrules_frame (n : Nat) : ∃ cs k,
    i.deleteWanRtrules n ip g = ({ i with clients := cs }, { g with kernel := k }) := by
  cases ip with
  | v4 =>
    rw [deleteWanRtrules]
    cases (i.clients n).routeRuleSetV4 <;> exact ⟨_, _, rfl⟩
  | v6 => exact ⟨_, _, rfl⟩

theorem cleanClient_frame (n : Nat) : ∃ cs k,
    (let (i, g) := i.deleteWanRtrules n .v4 g
      let (i, g) := i.deleteWanRtrules n .v6 g
      let g := if (i.clients n).headerSet .v4 then i.delAt [.clientHdr n .v4] g else g
      (i, if (i.clients n).headerSet .v6 then i.delAt [.clientHdr n .v6] g else g)) =
      ({ i with clients := cs }, { g with kernel := k }) := by
  have hdel : ∀ (b : Bool) (ps : List Place) (i : Iface) (g : Statics), ∃ k,
      (if b = true then i.delAt ps g else g) = { g with kernel := k } := by
    intro b ps i g
    cases b <;> exact ⟨_, rfl⟩
  obtain ⟨cs₁, k₁, h₁⟩ := deleteWanRtrules_frame i g .v4 n
  obtain ⟨cs₂, k₂, h₂⟩ := deleteWanRtrules_frame { i with clients := cs₁ }
    { g with kernel := k₁ } .v6 n
  rw [h₁]
  dsimp only
  rw [h₂]
  dsimp only
  obtain ⟨k₃, h₃⟩ := hdel ((cs₂ n).headerSet .v4) [.clientHdr n .v4] { i with clients := cs₂ }
    { g with kernel := k₂ }
  rw [h₃]
  obtain ⟨k₄, h₄⟩ := hdel ((cs₂ n).headerSet .v6) [.clientHdr n .v6] { i with clients := cs₂ }
    { g with kernel := k₃ }
  rw [h₄]
  exact ⟨_, _, rfl⟩

theorem cleanClients_frame : ∃ cs k,
    i.cleanClients g = ({ i with clients := cs }, { g with kernel := k }) := by
  rw [cleanClients]
  generalize List.range i.numWanClient = ns
  induction ns generalizing i g with
  | nil => exact ⟨_, _, rfl⟩
  | cons n ns ih =>
    obtain ⟨cs, k, h⟩ := cleanClient_frame i g n
    rw [List.foldl_cons]
    dsimp only at h ⊢
    rw [h]
    exact ih { i with clients := cs } { g with kernel := k }

theorem delAll_frame : g.KernelOnly (i.delAll g) := by
  have hfl : ∀ (p : Prop) [Decidable p] (ip : IpType) (i : Iface) {g' : Statics},
      g.KernelOnly g' → g.KernelOnly (if p then i.delDftFl ip g' else g') := by
    intro p _ ip i g' h
    split
    · exact h.delAt _ i _
    · exact h
  rw [delAll]
  have hrt := ((Statics.KernelOnly.refl g).delAt (i.ipType ≠ .v6) i [.dftRtV4]).delAt
    (i.ipType ≠ .v4) i ((List.range (2 * i.ipv6Addr.length)).map .dftRtV6)
  dsimp only
  obtain ⟨cs, k, hclean⟩ := cleanClients_frame i (if i.ipType ≠ .v4 then
    i.delDftRtV6 (if i.ipType ≠ .v6 then i.delAt [.dftRtV4] g else g)
    else if i.ipType ≠ .v6 then i.delAt [.dftRtV4] g else g)
  rw [hclean]
  exact (((hfl _ _ _ (hfl _ _ _ (hrt.trans ⟨k, rfl⟩))).delAt _ _ _).delAt _ _ _).delAt _ _ _

/-! ## Clients -/

theorem addClientHeader_frame (n : Nat) : ∃ cs hdl k,
    i.addClientHeader alloc n ip g =
      ({ i with clients := cs, hdl := hdl }, { g with kernel := k }) := by
  rw [addClientHeader]
  split
  · obtain ⟨hdl, k, h⟩ := addAt_frame alloc i g [.clientHdr n ip]
    rw [h]
    exact ⟨_, _, _, rfl⟩
  · exact ⟨_, _, _, rfl⟩

theorem handleWanHdrInit_frame (mac : Clients.Mac) : ∃ cs num hdl k,
    i.handleWanHdrInit alloc mac g =
      ({ i with clients := cs, numWanClient := num, hdl := hdl }, { g with kernel := k }) := by
  rw [handleWanHdrInit]
  split
  · exact ⟨_, _, _, _, rfl⟩
  split
  · exact ⟨_, _, _, _, rfl⟩
  dsimp only
  split
  · exact ⟨_, _, _, _, rfl⟩
  obtain ⟨cs, hdl, k, h⟩ : ∃ cs hdl k, addClientHeader alloc i.numWanClient .v4
      (i.setClient i.numWanClient { i.clients i.numWanClient with mac := mac }) g =
        ({ i with clients := cs, hdl := hdl }, { g with kernel := k }) :=
    addClientHeader_frame alloc _ g .v4 _
  obtain ⟨cs', hdl', k', h'⟩ : ∃ cs' hdl' k', addClientHeader alloc i.numWanClient .v6
      { i with clients := cs, hdl := hdl } { g with kernel := k } =
        ({ i with clients := cs', hdl := hdl' }, { g with kernel := k' }) :=
    addClientHeader_frame alloc { i with clients := cs, hdl := hdl } { g with kernel := k } .v6 _
  rw [h]
  dsimp only
  rw [h']
  exact ⟨_, _, _, _, rfl⟩

theorem handleWanClientIpaddr_frame (mac : Clients.Mac) (a : Tether.Addr)
    {x : Iface × Statics} (hx : i.handleWanClientIpaddr mac a g = some x) :
    ∃ cs k, x = ({ i with clients := cs }, { g with kernel := k }) := by
  rw [handleWanClientIpaddr] at hx
  cases hmac : i.wanClientIndex mac with
  | none => simp [hmac] at hx
  | some n =>
    rw [hmac] at hx
    cases a with
    | v4 addr =>
      dsimp only at hx
      split at hx
      · exact nomatch hx
      split at hx
      · obtain rfl := Option.some.inj hx
        exact ⟨_, _, rfl⟩
      split at hx
      · exact nomatch hx
      · obtain ⟨cs, k, h⟩ := deleteWanRtrules_frame i g .v4 n
        rw [h] at hx
        obtain rfl := Option.some.inj hx
        exact ⟨_, _, rfl⟩
    | v6 addr =>
      dsimp only at hx
      split at hx
      · exact nomatch hx
      split at hx
      · split at hx
        · exact nomatch hx
        · obtain rfl := Option.some.inj hx
          exact ⟨_, _, rfl⟩
      · exact nomatch hx

theorem handleWanClientRouteRule_frame (mac : Clients.Mac) : ∃ cs hdl k,
    i.handleWanClientRouteRule alloc mac ip g =
      ({ i with clients := cs, hdl := hdl }, { g with kernel := k }) := by
  rw [handleWanClientRouteRule]
  split
  · exact ⟨_, _, _, rfl⟩
  split
  · exact ⟨_, _, _, rfl⟩
  rename_i n _
  cases ip with
  | v4 =>
    dsimp only
    split
    · obtain ⟨hdl, k, h⟩ := addAt_frame alloc i g
        ((Clients.v4Hdls i.conf.tx).map (.clientRt n))
      rw [h]
      exact ⟨_, _, _, rfl⟩
    · exact ⟨_, _, _, rfl⟩
  | v6 =>
    dsimp only
    split
    · obtain ⟨hdl, k, h⟩ := addAt_frame alloc i g
        ((Clients.v6Hdls i.conf.tx (List.range' (i.clients n).routeRuleSetV6
          ((i.clients n).ipv6Set - (i.clients n).routeRuleSetV6))).map (.clientRt n))
      rw [h]
      exact ⟨_, _, _, rfl⟩
    · exact ⟨_, _, _, rfl⟩

/-! ## Addresses -/

theorem initFl_frame : ∃ pdn hdl num f m k,
    i.initFl alloc ip g =
      ({ i with modemPdnIndex := pdn, hdl := hdl },
        { g with numModemPdn := num, flt := f, modem := m, kernel := k }) := by
  rw [initFl]
  split
  · obtain ⟨hdl, k, h⟩ := addAt_frame alloc i g
      ((List.range (Tether.numDftRules ip)).map (.dftFl ip))
    rw [h]
    exact ⟨_, _, _, _, _, _, rfl⟩
  · dsimp only
    rw [initFlRuleEx, Statics.installWanFilteringRule]
    dsimp only
    split <;> split <;> exact ⟨_, _, _, _, _, _, rfl⟩

/-! ## The firewall changes -/

theorem refreshDftFirewall_frame (fw : FirewallConf) : ∃ conf frag num hdl k,
    i.refreshDftFirewall alloc ip fw g =
      ({ i with
          firewallConfig := conf
          fragInstalled := frag
          numFirewall := num
          hdl := hdl }, { g with kernel := k }) := by
  rw [refreshDftFirewall]
  split
  · obtain ⟨frag, num, k, h⟩ := delDftFirewallRules_frame i g ip
    rw [h]
    obtain ⟨conf, frag', num', hdl, k', h'⟩ := configDftFirewallRules_frame alloc
      { i with fragInstalled := frag, numFirewall := num } { g with kernel := k } ip fw
    exact ⟨conf, frag', num', hdl, k', h'⟩
  · exact ⟨_, _, _, _, _, rfl⟩

theorem handleFirewallChange_frame (fw : FirewallConf) : ∃ conf frag num hdl f m k,
    i.handleFirewallChange alloc fw g =
      ({ i with
          firewallConfig := conf
          fragInstalled := frag
          numFirewall := num
          hdl := hdl }, { g with flt := f, modem := m, kernel := k }) := by
  have hinstall : ∀ (g' : Statics) (f : IpType → Table) (m : IpType → List (Option FltRule)),
      g' = { g with flt := f, modem := m } → ∃ m',
        g'.installWanFilteringRule i.conf = { g with flt := f, modem := m' } := by
    rintro g' f m rfl
    rw [Statics.installWanFilteringRule]
    split <;> exact ⟨_, rfl⟩
  rw [handleFirewallChange]
  split
  · obtain ⟨conf, frag, num, hdl, k, h⟩ := refreshDftFirewall_frame alloc i g .v4 fw
    rw [h]
    obtain ⟨conf', frag', num', hdl', k', h'⟩ := refreshDftFirewall_frame alloc
      { i with
        firewallConfig := conf
        fragInstalled := frag
        numFirewall := num
        hdl := hdl } { g with kernel := k } .v6 fw
    exact ⟨conf', frag', num', hdl', _, _, k', h'⟩
  split
  · exact ⟨_, _, _, _, _, _, _, rfl⟩
  split
  · exact ⟨_, _, _, _, _, _, _, rfl⟩
  · obtain ⟨m, h⟩ := hinstall (i.refreshWanFirewall .v4 fw g) _ _ rfl
    rw [h]
    exact ⟨_, _, _, _, _, _, _, rfl⟩
  · obtain ⟨m, h⟩ := hinstall (i.refreshWanFirewall .v6 fw g) _ _ rfl
    rw [h]
    exact ⟨_, _, _, _, _, _, _, rfl⟩
  · obtain ⟨m, h⟩ := hinstall
      (i.refreshWanFirewall .v6 fw (i.refreshWanFirewall .v4 fw g)) _ _ rfl
    rw [h]
    exact ⟨_, _, _, _, _, _, _, rfl⟩

end Iface

end Axon7.Wan
