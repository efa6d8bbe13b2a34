import Axon7.Lib.Run
import Axon7.Wan.StaFirewall

/-!
# Runs of a station's firewall

Default routes are activated and deleted, and the file of the firewall changes; it
may be another one each time it is read.
-/

namespace Axon7.Wan

open Axon7.Lib
open Axon7.Tether (IpType)

/-! ## Routes -/

namespace Iface

variable {alloc : Alloc} {i : Iface} {g : Statics} {ps : Set Place} {ip : IpType}
  {base count : IpType → Int} {on : IpType → Bool}

theorem FirewallAt.addDefaultRoute (h : i.FirewallAt g ps) (hA : alloc.Grants)
    (ip : IpType) :
    (i.addDefaultRoute alloc ip g).1.FirewallAt (i.addDefaultRoute alloc ip g).2 ps := by
  have hroutes : ∀ q ∈ i.wanRoutes ip, q.isFirewall = false := by
    intro q hq
    rw [wanRoutes] at hq
    split at hq
    · obtain ⟨t, -, rfl⟩ := List.mem_map.mp hq
      rfl
    · exact absurd hq List.not_mem_nil
  have h₁ := h.addAt_other hA hroutes
  cases ip with
  | v4 => exact h₁
  | v6 =>
    rw [Iface.addDefaultRoute]
    dsimp only
    split
    · refine FirewallAt.addAt_other (FirewallAt.addAt_other h₁ hA ?_) hA ?_
      · intro q hq
        obtain rfl | rfl := List.mem_pair.mp hq <;> rfl
      · intro q hq
        rw [List.mem_singleton.mp hq]
        rfl
    · refine FirewallAt.addAt_other h₁ hA fun q hq => ?_
      rw [List.mem_singleton.mp hq]
      rfl

theorem Tidy.routeUp (h : i.Tidy base on g count) (hA : alloc.Grants)
    (hsta : i.conf.isSta = true) (hoff : on ip = false) {fw : FirewallConf}
    (hfw : (fw.split ip).length ≤ maxFirewallEntries) :
    Tidy base (Function.update on ip true) (i.routeUp alloc ip fw g).1
      (i.routeUp alloc ip fw g).2 (i.configCount ip fw count) := by
  have hroute := h.installed.addDefaultRoute hA ip
  obtain ⟨hdl, k, heq⟩ := addDefaultRoute_frame alloc i g ip
  rw [heq] at hroute
  rw [Iface.routeUp, heq]
  dsimp only
  rw [if_pos hsta]
  have hup : Tidy base on { i with active := Function.update i.active ip true, hdl := hdl }
      { g with
        backhaulIpv6Prefix := if ip = .v6 then i.ipv6Prefix else g.backhaulIpv6Prefix
        wanUp := Function.update g.wanUp ip true
        wanUpDevName := i.conf.devName
        kernel := k } count :=
    h.of_installed (hroute.of_eq (by rfl) (by rfl) (by rfl)) rfl rfl rfl
  have hconfig := hup.config hA hoff hfw
  exact hconfig.of_installed (hconfig.installed.of_eq (by rfl) (by rfl) (by rfl)) rfl rfl rfl

theorem routeDown_kernel (ip : IpType) (i : Iface) (g : Statics) :
    (i.routeDown ip g).2.kernel = g.kernel := by
  obtain ⟨name, heq⟩ := routeDown_frame i g ip
  rw [heq]

theorem Tidy.handleRouteDelEvt (h : i.Tidy base on g count) (ip : IpType) :
    Tidy base on (i.handleRouteDelEvt ip g).1 (i.handleRouteDelEvt ip g).2 count := by
  rw [Iface.handleRouteDelEvt]
  split
  · exact h
  dsimp only
  split
  · have hroutes : ∀ q ∈ i.wanRoutes ip, ∀ ip', q.res ≠ .flt ip' := by
      intro q hq ip'
      rw [wanRoutes] at hq
      split at hq
      · obtain ⟨t, -, rfl⟩ := List.mem_map.mp hq
        exact Res.noConfusion
      · exact absurd hq List.not_mem_nil
    have hdel := h.installed.delAt_other hroutes
    cases ip with
    | v4 =>
      exact h.of_installed (hdel.of_eq (by rfl) (by rfl) (routeDown_kernel _ _ _))
        rfl rfl rfl
    | v6 =>
      have hroute : ∀ q ∈ [Place.wanRouteV6A5], ∀ ip', q.res ≠ .flt ip' := by
        intro q hq ip'
        rw [List.mem_singleton.mp hq]
        exact Res.noConfusion
      have hdel6 := hdel.delAt_other hroute
      exact h.of_installed (hdel6.of_eq (by rfl) (by rfl) (routeDown_kernel _ _ _))
        rfl rfl rfl
  · exact h.of_installed (h.installed.of_eq (by rfl) (by rfl) (by rfl)) rfl rfl rfl

theorem Tidy.leaveRoute (h : i.Tidy base on g count) (hsta : i.conf.isSta = true)
    (hon : on ip = true) (hactive : i.active ip = true)
    (hdrop : ip = .v6 → i.fragInstalled = true → i.firewallConfig.checkAttrMask = true) :
    Tidy base (Function.update on ip false) (i.leaveRoute ip g).1 (i.leaveRoute ip g).2
      (i.delCount ip count) := by
  rw [Iface.leaveRoute, if_pos hsta]
  exact (h.del hon hactive hdrop).handleRouteDelEvt ip

theorem Tidy.refresh (h : i.Tidy base i.active g count) (hA : alloc.Grants)
    (hactive : i.active ip = true) {fw : FirewallConf}
    (hfw : (fw.split ip).length ≤ maxFirewallEntries)
    (hdrop : ip = .v6 → i.fragInstalled = true → i.firewallConfig.checkAttrMask = true) :
    Tidy base i.active (i.refreshDftFirewall alloc ip fw g).1
      (i.refreshDftFirewall alloc ip fw g).2
      ((i.delDftFirewallRules ip g).1.configCount ip fw (i.delCount ip count)) := by
  rw [refreshDftFirewall, if_pos hactive]
  have hon : Function.update (Function.update i.active ip false) ip true = i.active := by
    rw [Function.update_idem, ← hactive, Function.update_eq_self]
  have hconfig := (h.del hactive hactive hdrop).config hA (Function.update_self ..) hfw
  rw [hon] at hconfig
  exact hconfig

end Iface

/-! ## Events -/

/-- A station, and `flt_rule_count_v4` and `flt_rule_count_v6` of its pipe. -/
structure FirewallStation where
  iface : Iface
  statics : Statics
  fltRuleCount : IpType → Int

/-- An activation comes with what is read of the file, and a change of the file with
what is read for each family. -/
inductive FirewallEvent
  | routeAdd (ip : IpType) (fw : FirewallConf)
  | routeDel (ip : IpType)
  | firewallChange (fw : IpType → FirewallConf)

namespace FirewallStation

variable (alloc : Alloc)

/-- `del_dft_firewall_rules` and `config_dft_firewall_rules` for a family that is
active. -/
def refresh (ip : IpType) (fw : FirewallConf) (s : FirewallStation) : FirewallStation :=
  let x := s.iface.refreshDftFirewall alloc ip fw s.statics
  { iface := x.1
    statics := x.2
    fltRuleCount :=
      if s.iface.active ip then
        (s.iface.delDftFirewallRules ip s.statics).1.configCount ip fw
          (s.iface.delCount ip s.fltRuleCount)
      else s.fltRuleCount }

/-- A default route is activated if there is none of the family and there are transmit
properties, and deleted if there is one. -/
def step (s : FirewallStation) : FirewallEvent → FirewallStation
  | .routeAdd ip fw =>
    if s.iface.active ip = true ∨ s.iface.conf.tx = [] then s
    else
      let x := s.iface.routeUp alloc ip fw s.statics
      ⟨x.1, x.2, s.iface.configCount ip fw s.fltRuleCount⟩
  | .routeDel ip =>
    if s.iface.active ip then
      let x := s.iface.leaveRoute ip s.statics
      ⟨x.1, x.2, s.iface.delCount ip s.fltRuleCount⟩
    else s
  | .firewallChange fw => (s.refresh alloc .v4 (fw .v4)).refresh alloc .v6 (fw .v6)

def run (s : FirewallStation) (evs : List FirewallEvent) : FirewallStation :=
  evs.foldl (step alloc) s

variable {alloc} {s : FirewallStation}

/-! ## What is named -/

/-- The firewall rules installed are those that the handles name, within the arrays,
and no two of them have one handle. -/
structure Named (s : FirewallStation) : Prop where
  keyed : s.statics.kernel.Keyed
  named : ∀ e, (e ∈ s.statics.kernel.live ∧
      e.2.1 = s.iface.conf.ipaIfNum ∧ e.2.2.isFirewall = true) ↔
    ∃ p ∈ s.iface.names s.iface.active, s.iface.entry p = e
  within : ∀ ip, s.iface.numFirewall ip ≤ maxFirewallEntries

/-- No firewall rule is left, and the count is what it was. -/
structure Gone (base : IpType → Int) (s : FirewallStation) : Prop where
  live : ∀ e ∈ s.statics.kernel.live, e.2.1 = s.iface.conf.ipaIfNum →
    e.2.2.isFirewall = false
  count : s.fltRuleCount = base

/-- A station without default routes. -/
structure Untouched (s : FirewallStation) : Prop where
  sta : s.iface.conf.isSta = true
  keyed : s.statics.kernel.Keyed
  live : ∀ e ∈ s.statics.kernel.live, e.2.1 = s.iface.conf.ipaIfNum →
    e.2.2.isFirewall = false
  active : ∀ ip, s.iface.active ip = false
  numFirewall : ∀ ip, s.iface.numFirewall ip = 0
  fragInstalled : s.iface.fragInstalled = false

/-- What is read has no more rules than there are handles for, and where the rule for
fragments is to be deleted, the content read last has an attribute that it is for. -/
def Meets (s : FirewallStation) : FirewallEvent → Prop
  | .routeAdd ip fw => s.iface.active ip = false → (fw.split ip).length ≤ maxFirewallEntries
  | .routeDel ip => ip = .v6 → s.iface.fragInstalled = true →
      s.iface.firewallConfig.checkAttrMask = true
  | .firewallChange fw =>
    (∀ ip, s.iface.active ip = true → ((fw ip).split ip).length ≤ maxFirewallEntries) ∧
      (s.iface.fragInstalled = true →
        (if s.iface.active .v4 then fw .v4 else s.iface.firewallConfig).checkAttrMask =
          true)

theorem refresh_v4 (alloc : Alloc) (s : FirewallStation) (fw : FirewallConf)
    (hrx : s.iface.conf.rx ≠ []) :
    (s.refresh alloc .v4 fw).iface.fragInstalled = s.iface.fragInstalled ∧
      (s.refresh alloc .v4 fw).iface.firewallConfig =
        if s.iface.active .v4 then fw else s.iface.firewallConfig := by
  rw [refresh, Iface.refreshDftFirewall]
  split
  · have hdel : (s.iface.delDftFirewallRules .v4 s.statics).1.fragInstalled =
          s.iface.fragInstalled ∧
        (s.iface.delDftFirewallRules .v4 s.statics).1.conf = s.iface.conf := by
      rw [Iface.delDftFirewallRules]
      split
      · exact ⟨rfl, rfl⟩
      · split <;> exact ⟨rfl, rfl⟩
    dsimp only
    generalize s.iface.delDftFirewallRules .v4 s.statics = x at hdel
    rw [← hdel.2] at hrx
    rw [← hdel.1, Iface.configDftFirewallRules_eq hrx, Iface.hasFragRule_v4,
      if_neg Bool.false_ne_true]
    dsimp only
    obtain ⟨hdl, k, heq⟩ := Iface.addAt_frame alloc { x.1 with firewallConfig := fw } x.2
      (Iface.entryPlaces .v4 (fw.split .v4).length)
    rw [heq]
    dsimp only
    obtain ⟨hdl', k', heq'⟩ := Iface.addAt_frame alloc
      { x.1 with
        firewallConfig := fw
        numFirewall := Function.update x.1.numFirewall .v4
          (x.1.numFirewall .v4 + (fw.split .v4).length)
        hdl := hdl } { x.2 with kernel := k } (Iface.dftPlaces .v4)
    rw [heq']
    exact ⟨rfl, rfl⟩
  · exact ⟨rfl, rfl⟩

/-! ## Runs -/

/-- What holds all along a run. -/
structure Sound (base : IpType → Int) (s : FirewallStation) : Prop where
  sta : s.iface.conf.isSta = true
  tx : ∀ ip, s.iface.active ip = true → s.iface.conf.tx ≠ []
  tidy : s.iface.Tidy base s.iface.active s.statics s.fltRuleCount

variable {base : IpType → Int}

theorem Untouched.sound (h : s.Untouched) : s.Sound s.fltRuleCount := by
  have hnone : ∀ p, p ∉ s.iface.names s.iface.active := by
    intro p hp
    change s.iface.names s.iface.active p at hp
    cases p <;> simp [Iface.names, h.active, h.numFirewall, h.fragInstalled] at hp
  refine ⟨h.sta, fun ip hip => ?_, ⟨⟨h.keyed, fun e => ?_, fun p hp => absurd hp (hnone p)⟩,
    fun ip _ => h.numFirewall ip, fun _ => h.fragInstalled, fun ip => ?_, fun ip => ?_⟩⟩
  · rw [h.active] at hip
    exact absurd hip Bool.false_ne_true
  · constructor
    · rintro ⟨he, hnum, hfw⟩
      rw [h.live e he hnum] at hfw
      exact absurd hfw Bool.false_ne_true
    · rintro ⟨p, hp, _⟩
      exact absurd hp (hnone p)
  · rw [h.numFirewall]
    exact Nat.zero_le _
  · simp [Iface.numRules, h.active, h.numFirewall, h.fragInstalled]

theorem Sound.named (h : s.Sound base) : s.Named :=
  ⟨h.tidy.installed.keyed, h.tidy.installed.tracks, h.tidy.within⟩

theorem Sound.gone (h : s.Sound base) (hoff : ∀ ip, s.iface.active ip = false) :
    s.Gone base := by
  have hnum (ip : IpType) := h.tidy.idle ip (.inl (hoff ip))
  have hfrag := h.tidy.noFrag (.inl (hoff .v6))
  refine ⟨fun e he hiface => ?_, funext fun ip => ?_⟩
  · by_contra hfw
    rw [Bool.not_eq_false] at hfw
    obtain ⟨p, hp, -⟩ := (h.tidy.installed.tracks e).mp ⟨he, hiface, hfw⟩
    change s.iface.names s.iface.active p at hp
    cases p <;> simp [Iface.names, hoff, hnum, hfrag] at hp
  · rw [h.tidy.counted]
    simp [Iface.numRules, hoff, hnum, hfrag]

theorem Sound.refresh (h : s.Sound base) (hA : alloc.Grants) {ip : IpType}
    {fw : FirewallConf}
    (hfw : s.iface.active ip = true → (fw.split ip).length ≤ maxFirewallEntries)
    (hdrop : ip = .v6 → s.iface.fragInstalled = true →
      s.iface.firewallConfig.checkAttrMask = true) : (s.refresh alloc ip fw).Sound base := by
  by_cases hactive : s.iface.active ip = true
  · obtain ⟨conf, frag, num, hdl, k, heq⟩ :=
      Iface.refreshDftFirewall_frame alloc s.iface s.statics ip fw
    have htidy := h.tidy.refresh hA hactive (hfw hactive) hdrop
    rw [FirewallStation.refresh, if_pos hactive]
    rw [heq] at htidy ⊢
    exact ⟨h.sta, h.tx, htidy⟩
  · have hsame : s.refresh alloc ip fw = s := by
      rw [FirewallStation.refresh, Iface.refreshDftFirewall, if_neg hactive,
        if_neg hactive]
    rw [hsame]
    exact h

theorem Sound.step (h : s.Sound base) (hA : alloc.Grants) {ev : FirewallEvent}
    (hev : s.Meets ev) : (s.step alloc ev).Sound base := by
  cases ev with
  | routeAdd ip fw =>
    rw [FirewallStation.step]
    split
    · exact h
    · rename_i hnew
      rw [not_or, Bool.not_eq_true] at hnew
      have htidy := h.tidy.routeUp hA h.sta hnew.1 (hev hnew.1)
      obtain ⟨conf, frag, num, hdl, p, f, m, k, heq⟩ :=
        Iface.routeUp_frame alloc s.iface s.statics ip fw
      dsimp only
      rw [heq] at htidy ⊢
      exact ⟨h.sta, fun _ _ => hnew.2, htidy⟩
  | routeDel ip =>
    rw [FirewallStation.step]
    split
    · rename_i hactive
      have htidy := h.tidy.leaveRoute h.sta hactive hactive hev
      have htx := h.tx ip hactive
      obtain ⟨frag, num, k, hdel⟩ := Iface.delDftFirewallRules_frame s.iface s.statics ip
      obtain ⟨name, k', hroute⟩ := Iface.handleRouteDelEvt_frame
        { s.iface with fragInstalled := frag, numFirewall := num }
        { s.statics with kernel := k } ip htx hactive
      have heq : s.iface.leaveRoute ip s.statics = _ :=
        (if_pos h.sta).trans ((congrArg (fun x : Iface × Statics =>
          x.1.handleRouteDelEvt ip x.2) hdel).trans hroute)
      dsimp only
      rw [heq] at htidy ⊢
      exact ⟨h.sta, fun _ _ => htx, htidy⟩
    · exact h
  | firewallChange fw =>
    have hfirst : (s.refresh alloc .v4 (fw .v4)).Sound base :=
      h.refresh hA (hev.1 .v4) fun hip => absurd hip (by decide)
    have hactive : (s.refresh alloc .v4 (fw .v4)).iface.active = s.iface.active := by
      obtain ⟨conf, frag, num, hdl, k, heq⟩ :=
        Iface.refreshDftFirewall_frame alloc s.iface s.statics .v4 (fw .v4)
      rw [FirewallStation.refresh, heq]
    refine hfirst.refresh hA (fun hv6 => hev.1 .v6 (hactive ▸ hv6)) fun _ hfrag => ?_
    have hrx : s.iface.conf.rx ≠ [] := by
      intro hrx
      have hconf : (s.refresh alloc .v4 (fw .v4)).iface.conf = s.iface.conf := by
        obtain ⟨conf, frag, num, hdl, k, heq⟩ :=
          Iface.refreshDftFirewall_frame alloc s.iface s.statics .v4 (fw .v4)
        rw [FirewallStation.refresh, heq]
      rw [hfirst.tidy.noFrag (.inr (hconf ▸ hrx))] at hfrag
      exact Bool.false_ne_true hfrag
    obtain ⟨hsame, hread⟩ := refresh_v4 alloc s (fw .v4) hrx
    rw [hread]
    exact hev.2 (hsame ▸ hfrag)

/-- All along a run whose events are as they must be, the firewall rules installed are
those that the handles name, and without default routes none is left. -/
theorem run_named (hA : alloc.Grants) (h : s.Untouched) (evs : List FirewallEvent)
    (hmeets : ∀ pre ev, pre ++ [ev] <+: evs → (s.run alloc pre).Meets ev) :
    ∀ pre, pre <+: evs → (s.run alloc pre).Named ∧
      ((∀ ip, (s.run alloc pre).iface.active ip = false) →
        (s.run alloc pre).Gone s.fltRuleCount) := by
  intro pre hpre
  suffices hsound : (s.run alloc pre).Sound s.fltRuleCount from ⟨hsound.named, hsound.gone⟩
  induction pre using List.reverseRecOn with
  | nil => exact h.sound
  | append_singleton pre ev ih =>
    have hbefore := ih ((List.prefix_append pre [ev]).trans hpre)
    rw [run, List.foldl_concat]
    exact hbefore.step hA (hmeets pre ev hpre)

/-- A Wi-Fi station. -/
def wlan : FirewallStation :=
  ⟨.init ⟨1, "wlan0", .wlanWan, false, false, [.v4, .v6], [1], []⟩, .init [], fun _ => 0⟩

theorem wlan_untouched : wlan.Untouched where
  sta := rfl
  keyed := List.nodup_nil
  live _ he := absurd he List.not_mem_nil
  active _ := rfl
  numFirewall _ := rfl
  fragInstalled := rfl

/-- A file that denies a port over IPv6. -/
def denyPort : FirewallConf := ⟨true, false, [⟨6, ipprotoTcpUdp, true, 0⟩]⟩

/-- The file is the same each time. -/
def sameFile : List FirewallEvent :=
  [.routeAdd .v6 denyPort, .routeAdd .v4 denyPort, .firewallChange fun _ => denyPort,
    .routeDel .v4, .routeDel .v6]

theorem sameFile_named :
    (wlan.run nextHandle (sameFile.take 3)).Named ∧
      (wlan.run nextHandle sameFile).Gone fun _ => 0 := by
  suffices hmeets : ∀ pre ev, pre ++ [ev] <+: sameFile →
      (wlan.run nextHandle pre).Meets ev by
    have hnamed := run_named nextHandle_grants wlan_untouched sameFile hmeets
    refine ⟨(hnamed _ (List.take_prefix 3 sameFile)).1, (hnamed _ List.prefix_rfl).2 ?_⟩
    intro ip
    cases ip <;> decide +kernel
  refine forall_concat_of_take fun k hk => ?_
  have hk : k < 5 := hk
  interval_cases k
  · exact fun _ => by decide
  · exact fun _ => by decide
  · exact ⟨fun ip _ => by cases ip <;> decide, fun _ => by decide +kernel⟩
  · exact fun hip => absurd hip (by decide)
  · exact fun _ _ => by decide +kernel

/-- The file no longer has the attribute when the IPv4 rules are made from it. -/
def otherFile : List FirewallEvent :=
  [.routeAdd .v6 denyPort, .routeAdd .v4 .dft, .routeDel .v4, .routeDel .v6]

/-- The rule for fragments is left. -/
theorem otherFile_not_gone :
    wlan.Untouched ∧ (∀ ip, (wlan.run nextHandle otherFile).iface.active ip = false) ∧
      ¬ (wlan.run nextHandle otherFile).Gone wlan.fltRuleCount := by
  refine ⟨wlan_untouched, fun ip => by cases ip <;> decide +kernel, fun hgone => ?_⟩
  have hcount : (wlan.run nextHandle otherFile).fltRuleCount .v6 = 1 := by
    decide +kernel
  rw [hgone.count] at hcount
  exact absurd hcount (by decide)

end FirewallStation

end Axon7.Wan
