import Axon7.Wan.Frame

/-!
# What an event does to the default routes

Each instance says whether it carries the default route of a family, the static
flags say whether one does, and the events posted tell the listeners. The rest of
an instance, its handles and clients, and the rest of what is shared have no say in
it: the instances react to an event as their views do.
-/

namespace Axon7.Wan

open Axon7.Tether (IpType IfaceIpType Addr)

/-! ## What the listeners were told -/

/-- What an event says of the family: the name of the backhaul, or that there is
none. -/
def Posted.tells (ip : IpType) : Posted → Option (Option String)
  | .wanUp ip' data => if ip' = ip then some (some data.ifname) else none
  | .wanDown ip' _ => if ip' = ip then some none else none
  | _ => none

/-- `wan_up` or `wan_up_v6`, and what was last said of the family. -/
abbrev Routes := IpType → Bool × Option (Option String)

namespace Statics

/-- What was last said of the family. -/
def told (ip : IpType) (g : Statics) : Option (Option String) :=
  (g.posted.filterMap (·.tells ip)).getLast?

def routes (g : Statics) : Routes := fun ip => (g.wanUp ip, g.told ip)

variable {g g' : Statics} {ip : IpType}

theorem told_append (h : g'.posted = g.posted ++ [e]) (ip : IpType) :
    g'.told ip = (e.tells ip).or (g.told ip) := by
  rw [told, h, List.filterMap_append]
  cases he : e.tells ip with
  | none => simp [he, told]
  | some x => simp [he]

theorem told_congr (h : g'.posted = g.posted) : g'.told ip = g.told ip := by
  rw [told, h, told]

theorem routes_congr (hup : g'.wanUp = g.wanUp) (hposted : g'.posted = g.posted) :
    g'.routes = g.routes := by
  funext ip
  rw [routes, routes, hup, told_congr hposted]

theorem routes_wanUp (data : IfaceUp) (hup : g'.wanUp = Function.update g.wanUp ip true)
    (hposted : g'.posted = g.posted ++ [.wanUp ip data]) :
    g'.routes = Function.update g.routes ip (true, some (some data.ifname)) := by
  funext ip'
  rw [routes, hup, told_append hposted]
  rcases eq_or_ne ip' ip with rfl | hne
  · simp [Posted.tells]
  · simp [Posted.tells, hne, hne.symm, routes]

theorem routes_wanDown (data : IfaceUp) (hup : g'.wanUp = Function.update g.wanUp ip false)
    (hposted : g'.posted = g.posted ++ [.wanDown ip data]) :
    g'.routes = Function.update g.routes ip (false, some none) := by
  funext ip'
  rw [routes, hup, told_append hposted]
  rcases eq_or_ne ip' ip with rfl | hne
  · simp [Posted.tells]
  · simp [Posted.tells, hne, hne.symm, routes]

theorem routes_postEvt {e : Posted} (he : ∀ ip, e.tells ip = none) :
    (g.postEvt e).routes = g.routes := by
  funext ip
  rw [routes, told_append (show (g.postEvt e).posted = g.posted ++ [e] from rfl), he]
  rfl

end Statics

/-! ## The view -/

/-- What of an instance the default routes are about. -/
structure RouteView where
  conf : Conf
  active : IpType → Bool
  isDefaultGateway : Bool

namespace RouteView

/-- The route of the family comes to the instance. -/
def up (ip : IpType) (v : RouteView) (r : Routes) : RouteView × Routes :=
  if v.active ip then (v, r)
  else
    ({ v with active := Function.update v.active ip true, isDefaultGateway := true },
      Function.update r ip (true, some (some v.conf.devName)))

/-- The route of the family leaves the instance. -/
def down (ip : IpType) (v : RouteView) (r : Routes) : RouteView × Routes :=
  if v.active ip then
    ({ v with active := Function.update v.active ip false, isDefaultGateway := false },
      Function.update r ip (false, some none))
  else (v, r)

/-- The link of a station goes down, with its routes. -/
def drop (v : RouteView) (r : Routes) : Routes := fun ip =>
  if v.active ip then (false, some none) else r ip

/-- The link of a PDN goes down: the flags of both families are cleared if it is
taken for the default gateway, and none is if it is not. -/
def dropEx (v : RouteView) (r : Routes) : Routes := fun ip =>
  if v.conf.isEmbms = false ∧ v.isDefaultGateway = true then
    (false, if v.active ip then some none else (r ip).2)
  else r ip

/-- An instance gets an event. -/
def react (ev : WanEvent) (v : RouteView) (r : Routes) : Option RouteView × Routes :=
  let keep (x : RouteView × Routes) : Option RouteView × Routes := (some x.1, x.2)
  match ev with
  | .upstreamRouteAdd n u _ =>
    if n = v.conf.ipaIfNum then keep (v.up u.ipType r) else keep (v.down u.ipType r)
  | .upstreamRouteDel n ip =>
    if n = v.conf.ipaIfNum then keep (v.down ip r) else (some v, r)
  | .linkDown n =>
    if n = v.conf.ipaIfNum then
      match v.conf.staMode with
      | .q6Wan => (none, v.dropEx r)
      | .ecmWan => (none, v.drop r)
      | .wlanWan => (some v, r)
    else (some v, r)
  | .wlanLinkDown n =>
    if n = v.conf.ipaIfNum ∧ v.conf.staMode = .wlanWan then (none, v.drop r)
    else (some v, r)
  | _ => (some v, r)

theorem down_of_inactive {ip : IpType} {v : RouteView} (h : v.active ip = false)
    (r : Routes) : v.down ip r = (v, r) :=
  if_neg (by rw [h]; exact Bool.noConfusion)

/-- All instances get an event, in turn. -/
def reactAll (ev : WanEvent) : List RouteView → Routes → List RouteView × Routes
  | [], r => ([], r)
  | v :: vs, r =>
    let (v', r) := v.react ev r
    let (vs, r) := reactAll ev vs r
    (v'.toList ++ vs, r)

theorem reactAll_cons (ev : WanEvent) (v : RouteView) (vs : List RouteView) (r : Routes) :
    reactAll ev (v :: vs) r =
      ((v.react ev r).1.toList ++ (reactAll ev vs (v.react ev r).2).1,
        (reactAll ev vs (v.react ev r).2).2) :=
  rfl

end RouteView

/-- An event about the default routes or about a link. -/
def WanEvent.IsRoute : WanEvent → Prop
  | .upstreamRouteAdd .. => True
  | .upstreamRouteDel .. => True
  | .linkDown _ => True
  | .wlanLinkDown _ => True
  | _ => False

namespace Iface

def routeView (i : Iface) : RouteView := ⟨i.conf, i.active, i.isDefaultGateway⟩

/-- Both families have addresses, there are properties of every kind, and the
headers of a station are constructed. A PDN never waits for a header. -/
structure Ready (i : Iface) : Prop where
  ipType : i.ipType = .max
  ipv6Prefix : i.ipv6Prefix ≠ 0
  tx : i.conf.tx ≠ []
  rx : i.conf.rx ≠ []
  ext : i.conf.isSta = false → i.conf.ext ≠ []
  header : i.conf.isSta = true → ∀ ip, i.headerSet ip = true
  noPartial : i.conf.isSta = false → ∀ ip, i.headerPartialDefaultWan ip = false

variable {alloc : Alloc} {i : Iface} {g : Statics} {ip : IpType}

theorem Ready.congr {i' : Iface} (h : i.Ready) (hty : i'.ipType = i.ipType)
    (hpre : i'.ipv6Prefix = i.ipv6Prefix) (hconf : i'.conf = i.conf)
    (hset : i'.headerSet = i.headerSet)
    (hwaiting : i'.headerPartialDefaultWan = i.headerPartialDefaultWan) : i'.Ready where
  ipType := by rw [hty, h.ipType]
  ipv6Prefix := by rw [hpre]; exact h.ipv6Prefix
  tx := by rw [hconf]; exact h.tx
  rx := by rw [hconf]; exact h.rx
  ext := by rw [hconf]; exact h.ext
  header := by rw [hconf, hset]; exact h.header
  noPartial := by rw [hconf, hwaiting]; exact h.noPartial

/-- What an operation comes to, as seen on the default routes. -/
structure Shows (x : Iface × Statics) (y : RouteView × Routes) : Prop where
  ready : x.1.Ready
  view : x.1.routeView = y.1
  routes : x.2.routes = y.2

/-! ## The route comes -/

theorem handleRouteAddEvt_shows (h : i.Ready) (fw : FirewallConf) (hoff : i.active ip = false) :
    Shows (i.handleRouteAddEvt alloc ip fw g) (i.routeView.up ip g.routes) := by
  have hoff' : i.routeView.active ip = false := hoff
  have hup : ∀ (i' : Iface) (g' : Statics), i'.Ready → i'.conf = i.conf →
      i'.active = i.active → i'.isDefaultGateway = true → g'.wanUp = g.wanUp →
      g'.posted = g.posted →
      Shows (i'.routeUp alloc ip fw g') (i.routeView.up ip g.routes) := by
    intro i' g' hr hconf hact hdft hwan hposted
    obtain ⟨conf, frag, num, hdl, p, f, m, k, heq⟩ := routeUp_frame alloc i' g' ip fw
    rw [heq, RouteView.up, hoff', if_neg Bool.false_ne_true]
    refine ⟨hr.congr rfl rfl rfl rfl rfl, ?_, ?_⟩
    · simp only [routeView, hconf, hact, hdft]
    · rw [Statics.routes_wanUp (i'.ifaceUp i'.conf.devName ip) rfl rfl,
        Statics.routes_congr hwan hposted]
      simp only [ifaceUp, hconf, routeView]
  rw [handleRouteAddEvt, if_neg h.tx]
  dsimp only
  split
  · rename_i hsta
    rw [if_neg (by rw [h.header hsta]; exact Bool.noConfusion)]
    exact hup _ _ (h.congr rfl rfl rfl rfl rfl) rfl rfl rfl rfl rfl
  · rename_i hsta
    split
    · rename_i hnil
      exact absurd hnil (h.ext (Bool.eq_false_of_not_eq_true hsta))
    · exact hup _ _ (h.congr rfl rfl rfl rfl rfl) rfl rfl rfl rfl rfl

theorem takeHeaders_frame (n : Nat) (ip : IpType) (i : Iface) :
    ∃ hs, (i.takeHeaders n ip).1 = { i with headerSet := hs } := by
  rw [takeHeaders]
  dsimp only
  split
  · split <;> exact ⟨_, rfl⟩
  · exact ⟨_, rfl⟩

theorem findGateway_frame (ip : IpType) (i : Iface) :
    ∃ hs, (i.findGateway ip).1 = { i with headerSet := hs } := by
  cases ip with
  | v4 =>
    rw [findGateway]
    split
    · exact ⟨_, rfl⟩
    split
    · exact ⟨_, rfl⟩
    · exact takeHeaders_frame _ _ i
  | v6 =>
    rw [findGateway]
    split
    · exact ⟨_, rfl⟩
    split
    · exact ⟨_, rfl⟩
    · exact takeHeaders_frame _ _ i

theorem handleStaHeaderAddEvt_shows (h : i.Ready) (fw : FirewallConf) :
    Shows (i.handleStaHeaderAddEvt alloc fw g) (i.routeView, g.routes) := by
  rw [handleStaHeaderAddEvt]
  cases hsta : i.conf.isSta with
  | true =>
    rw [h.header hsta, Bool.true_or, if_pos rfl]
    exact ⟨h, rfl, rfl⟩
  | false =>
    have hhs : ∀ hs, Ready { i with headerSet := hs } := fun hs =>
      ⟨h.ipType, h.ipv6Prefix, h.tx, h.rx, h.ext,
        fun hon => absurd (hsta.symm.trans hon) nofun, h.noPartial⟩
    split
    · exact ⟨h, rfl, rfl⟩
    obtain ⟨hs, hgw⟩ := findGateway_frame .v4 i
    split
    · rename_i i' heq
      rw [heq] at hgw
      obtain rfl : i' = _ := hgw
      exact ⟨hhs hs, rfl, rfl⟩
    · rename_i i' heq
      rw [heq] at hgw
      obtain rfl : i' = _ := hgw
      obtain ⟨hs', hgw'⟩ := findGateway_frame .v6 { i with headerSet := hs }
      split
      · rename_i i' heq
        rw [heq] at hgw'
        obtain rfl : i' = _ := hgw'
        exact ⟨hhs hs', rfl, rfl⟩
      · rename_i i' heq
        rw [heq] at hgw'
        obtain rfl : i' = _ := hgw'
        dsimp only
        rw [h.noPartial hsta, if_neg Bool.false_ne_true]
        dsimp only
        rw [h.noPartial hsta, if_neg Bool.false_ne_true]
        exact ⟨hhs hs', rfl, rfl⟩

theorem Shows.postWanUpTetherEvt {x : Iface × Statics} {y : RouteView × Routes}
    (h : Shows x y) (ip : IpType) : Shows (x.1, x.1.postWanUpTetherEvt ip x.2) y :=
  ⟨h.ready, h.view, (Statics.routes_postEvt fun _ => rfl).trans h.routes⟩

theorem handleUpstreamRouteAdd_shows (h : i.Ready) (u : Upstream) (fw : FirewallConf) :
    Shows (i.handleUpstreamRouteAdd alloc u fw g) (i.routeView.up u.ipType g.routes) := by
  rw [handleUpstreamRouteAdd]
  dsimp only
  have hhas : i.ipType.has u.ipType = true := by
    rw [h.ipType]
    rfl
  rw [if_neg (by rw [hhas]; exact Bool.noConfusion), if_neg fun hand => h.ipv6Prefix hand.2]
  refine Shows.postWanUpTetherEvt (x := if i.active u.ipType = true then (i, g) else _) ?_ _
  cases hon : i.active u.ipType with
  | true =>
    have hon' : i.routeView.active u.ipType = true := hon
    rw [if_pos rfl, RouteView.up, if_pos hon']
    exact ⟨h, rfl, rfl⟩
  | false =>
    rw [if_neg Bool.false_ne_true]
    have hgw : Shows (if hasGateway u = true then
        (i.setGateway u).handleStaHeaderAddEvt alloc fw g else (i, g))
        (i.routeView, g.routes) := by
      split
      · have hset : (i.setGateway u).Ready ∧ (i.setGateway u).routeView = i.routeView := by
          cases u with
          | v4 gw =>
            cases gw <;> exact ⟨⟨h.ipType, h.ipv6Prefix, h.tx, h.rx, h.ext, h.header,
              h.noPartial⟩, rfl⟩
          | v6 gw =>
            cases gw <;> exact ⟨⟨h.ipType, h.ipv6Prefix, h.tx, h.rx, h.ext, h.header,
              h.noPartial⟩, rfl⟩
        rw [← hset.2]
        exact handleStaHeaderAddEvt_shows hset.1 fw
      · exact ⟨h, rfl, rfl⟩
    generalize (if hasGateway u = true then
      (i.setGateway u).handleStaHeaderAddEvt alloc fw g else (i, g)) = x at hgw ⊢
    have hact : x.1.active = i.active := congrArg RouteView.active hgw.view
    have hoff : x.1.active u.ipType = false := by rw [hact, hon]
    have hup : Shows (x.1.handleRouteAddEvt alloc u.ipType fw x.2) _ :=
      handleRouteAddEvt_shows hgw.ready fw hoff
    rw [hgw.view, hgw.routes] at hup
    rw [hact, hon, if_neg Bool.false_ne_true]
    exact hup

/-! ## The route leaves -/

theorem handleRouteDelEvt_shows (h : i.Ready) (hon : i.active ip = true) :
    Shows (i.handleRouteDelEvt ip g) (i.routeView.down ip g.routes) := by
  have hon' : i.routeView.active ip = true := hon
  obtain ⟨name, k, heq⟩ := handleRouteDelEvt_frame i g ip h.tx hon
  rw [heq, RouteView.down, if_pos hon']
  refine ⟨h.congr rfl rfl rfl rfl rfl, rfl, ?_⟩
  exact Statics.routes_wanDown (i.ifaceUp "" ip) rfl rfl

theorem leaveRoute_shows (h : i.Ready) (hon : i.active ip = true) :
    Shows (i.leaveRoute ip g) (i.routeView.down ip g.routes) := by
  rw [leaveRoute]
  split
  · obtain ⟨frag, num, k, heq⟩ := delDftFirewallRules_frame i g ip
    rw [heq]
    exact handleRouteDelEvt_shows (i := { i with fragInstalled := frag, numFirewall := num })
      (g := { g with kernel := k })
      (h.congr rfl rfl rfl rfl rfl) hon
  · have hg : Statics.routes ((g.delWanFirewallRule ip).installWanFilteringRule i.conf) =
        g.routes := by
      rw [Statics.installWanFilteringRule]
      split <;> rfl
    rw [← hg]
    exact handleRouteDelEvt_shows h hon

theorem forgetGateway_ready (ip : IpType) (h : i.Ready) : (i.forgetGateway ip).Ready ∧
    (i.forgetGateway ip).routeView = i.routeView := by
  cases ip with
  | v4 =>
    exact ⟨h.congr rfl rfl rfl rfl rfl, rfl⟩
  | v6 => exact ⟨h, rfl⟩

theorem handleOtherRouteAdd_shows (h : i.Ready) (ip : IpType) :
    Shows (i.handleOtherRouteAdd ip g) (i.routeView.down ip g.routes) := by
  obtain ⟨hr, hview⟩ := forgetGateway_ready ip h
  have hact : (i.forgetGateway ip).active = i.active := congrArg RouteView.active hview
  rw [handleOtherRouteAdd]
  split
  · rename_i hon
    rw [← hview]
    exact leaveRoute_shows hr (by rw [hact, hon])
  · rename_i hoff
    rw [RouteView.down_of_inactive (Bool.eq_false_of_not_eq_true hoff)]
    exact ⟨h, rfl, rfl⟩

theorem handleUpstreamRouteDel_shows (h : i.Ready) (ip : IpType) :
    Shows (i.handleUpstreamRouteDel ip g) (i.routeView.down ip g.routes) := by
  obtain ⟨hr, hview⟩ := forgetGateway_ready ip h
  have hact : (i.forgetGateway ip).active = i.active := congrArg RouteView.active hview
  rw [handleUpstreamRouteDel]
  split
  · rename_i hon
    have hg : (i.postWanDownTetherEvt ip g).routes = g.routes :=
      Statics.routes_postEvt fun _ => rfl
    rw [← hview, ← hg]
    exact leaveRoute_shows hr (by rw [hact, hon])
  · rename_i hoff
    rw [RouteView.down_of_inactive (Bool.eq_false_of_not_eq_true hoff)]
    exact ⟨h, rfl, rfl⟩

/-! ## The link goes down -/

theorem downRoute_shows (h : i.Ready) (ip : IpType) :
    Shows (i.downRoute ip g) (i.routeView.down ip g.routes) := by
  rw [downRoute]
  split
  · rename_i hon
    obtain ⟨frag, num, k, heq⟩ := delDftFirewallRules_frame i g ip
    rw [heq]
    have hdel := handleRouteDelEvt_shows
      (i := { i with fragInstalled := frag, numFirewall := num }) (g := { g with kernel := k })
      (h.congr rfl rfl rfl rfl rfl) hon
    exact ⟨hdel.ready, hdel.view, (Statics.routes_postEvt fun _ => rfl).trans hdel.routes⟩
  · rename_i hoff
    rw [RouteView.down_of_inactive (Bool.eq_false_of_not_eq_true hoff)]
    exact ⟨h, rfl, rfl⟩

theorem handleDownEvt_routes (h : i.Ready) :
    (i.handleDownEvt g).routes = i.routeView.drop g.routes := by
  have hboth : ∀ (v : RouteView) (r : Routes),
      ((v.down .v4 r).1.down .v6 (v.down .v4 r).2).2 = v.drop r := by
    intro v r
    funext ip
    cases hv4 : v.active .v4 <;> cases hv6 : v.active .v6 <;> cases ip <;>
      simp [RouteView.down, RouteView.drop, hv4, hv6]
  have hnull : i.ipType ≠ .null := by
    rw [h.ipType]
    exact nofun
  have hv4 := downRoute_shows (g := g) h .v4
  have hv6 := downRoute_shows (g := (i.downRoute .v4 g).2) hv4.ready .v6
  rw [hv4.view, hv4.routes] at hv6
  rw [handleDownEvt, if_neg hnull, ← hboth, ← hv6.routes]
  obtain ⟨k, hk⟩ := delAll_frame ((i.downRoute .v4 g).1.downRoute .v6 (i.downRoute .v4 g).2).1
    ((i.downRoute .v4 g).1.downRoute .v6 (i.downRoute .v4 g).2).2
  dsimp only
  rw [hk]
  rfl

theorem installWanFilteringRule_routes (conf : Conf) :
    (g.installWanFilteringRule conf).routes = g.routes := by
  rw [Statics.installWanFilteringRule]
  split <;> rfl

theorem clearFltIfLast_routes (conf : Conf) :
    (g.clearFltIfLast conf ip).routes = g.routes := by
  rw [Statics.clearFltIfLast]
  split
  · rw [installWanFilteringRule_routes]
    rfl
  · rfl

theorem downRouteEx_routes (i : Iface) (g : Statics) (ip : IpType) (h : i.conf.tx ≠ [])
    (tell : Bool) :
    (i.downRouteEx ip tell g).1.conf = i.conf ∧
      (∀ ip', ip' ≠ ip → (i.downRouteEx ip tell g).1.active ip' = i.active ip') ∧
      (i.downRouteEx ip tell g).2.routes = Function.update g.routes ip
        (false, if i.active ip then some none else (g.routes ip).2) := by
  have hinstall : ∀ g : Statics, (if tell = true then g.installWanFilteringRule i.conf
      else g).wanUp = g.wanUp ∧ (if tell = true then g.installWanFilteringRule i.conf
      else g).posted = g.posted := by
    intro g
    cases tell with
    | true =>
      rw [if_pos rfl, Statics.installWanFilteringRule]
      split <;> exact ⟨rfl, rfl⟩
    | false => exact ⟨rfl, rfl⟩
  rw [downRouteEx]
  dsimp only
  obtain ⟨hup, hposted⟩ := hinstall
    (Statics.delWanFirewallRule ip { g with wanUp := Function.update g.wanUp ip false })
  generalize (if tell = true then (Statics.delWanFirewallRule ip
    { g with wanUp := Function.update g.wanUp ip false }).installWanFilteringRule i.conf
    else Statics.delWanFirewallRule ip { g with wanUp := Function.update g.wanUp ip false })
    = g' at hup hposted ⊢
  have htether : ∀ (i : Iface) (g : Statics), (i.postWanDownTetherEvt ip g).routes = g.routes :=
    fun _ _ => Statics.routes_postEvt fun _ => rfl
  cases hon : i.active ip with
  | true =>
    obtain ⟨name, k, heq⟩ := handleRouteDelEvt_frame i g' ip h hon
    rw [heq, htether]
    refine ⟨rfl, fun ip' hne => Function.update_of_ne hne _ _, ?_⟩
    rw [if_pos rfl]
    refine Statics.routes_wanDown (i.ifaceUp "" ip) ?_ ?_
    · rw [hup]
      exact Function.update_idem _ _ _
    · rw [hposted]
      rfl
  | false =>
    rw [handleRouteDelEvt, if_neg h]
    dsimp only
    rw [hon, if_neg Bool.false_ne_true, htether]
    refine ⟨rfl, fun _ _ => rfl, ?_⟩
    rw [if_neg Bool.false_ne_true]
    funext ip'
    have htold : g'.told ip' = g.told ip' := Statics.told_congr hposted
    rw [Statics.routes, htold, hup]
    rcases eq_or_ne ip' ip with rfl | hne
    · simp [Statics.delWanFirewallRule, Statics.setFlt, Statics.routes]
    · simp [Statics.delWanFirewallRule, Statics.setFlt, Statics.routes, hne]

theorem handleDownEvtEx_routes (h : i.Ready) :
    (i.handleDownEvtEx g).routes = i.routeView.dropEx g.routes := by
  rw [handleDownEvtEx]
  cases hembms : i.conf.isEmbms with
  | true =>
    rw [if_pos rfl, installWanFilteringRule_routes]
    funext ip
    rw [RouteView.dropEx, if_neg (by simp [routeView, hembms])]
    rfl
  | false =>
    rw [if_neg Bool.false_ne_true, h.ipType]
    have hdec : Statics.routes (if 1 < i.ipv6Addr.length then
        (g.decModemPdn .v4).decModemPdn .v6 else g.decModemPdn .v4) = g.routes := by
      split <;> rfl
    have hdel : ∀ g : Statics, (i.delDftRtV6 (i.delAt [.dftRtV4] g)).routes = g.routes :=
      fun _ => rfl
    have hname : ∀ g : Statics, Statics.routes { g with wanUpDevName := "" } = g.routes :=
      fun _ => rfl
    dsimp only
    rw [hdel, clearFltIfLast_routes, clearFltIfLast_routes]
    cases hdft : i.isDefaultGateway with
    | true =>
      rw [if_pos rfl, installWanFilteringRule_routes, hname]
      generalize (if 1 < i.ipv6Addr.length then
        (g.decModemPdn .v4).decModemPdn .v6 else g.decModemPdn .v4) = g' at hdec ⊢
      obtain ⟨hconf, hact, hv4⟩ := downRouteEx_routes i g' .v4 h.tx false
      have hv6 := (downRouteEx_routes (i.downRouteEx .v4 false g').1
        (i.downRouteEx .v4 false g').2 .v6 (by rw [hconf]; exact h.tx) false).2.2
      rw [hv4, hact .v6 nofun] at hv6
      rw [hv6]
      funext ip
      rw [RouteView.dropEx, if_pos (show i.routeView.conf.isEmbms = false ∧
        i.routeView.isDefaultGateway = true from ⟨hembms, hdft⟩), hdec]
      cases ip <;> rfl
    | false =>
      rw [if_neg Bool.false_ne_true, hdec]
      funext ip
      rw [RouteView.dropEx, if_neg (by simp [routeView, hdft])]

/-! ## Events -/

/-- What an instance makes of an event is what its view makes of it. -/
structure Reacts (x : Option Iface × Statics) (y : Option RouteView × Routes) : Prop where
  ready : ∀ i, x.1 = some i → i.Ready
  view : x.1.map routeView = y.1
  routes : x.2.routes = y.2

theorem Shows.reacts {x : Iface × Statics} {y : RouteView × Routes} (h : Shows x y) :
    Reacts (some x.1, x.2) (some y.1, y.2) where
  ready := by
    rintro i ⟨⟩
    exact h.ready
  view := congrArg some h.view
  routes := h.routes

theorem reacts_gone {r : Routes} (h : g.routes = r) : Reacts (none, g) (none, r) where
  ready _ hi := nomatch hi
  view := rfl
  routes := h

theorem eventCallback_reacts (alloc : Alloc) (g : Statics) (h : i.Ready) {ev : WanEvent}
    (hev : ev.IsRoute) :
    Reacts (i.eventCallback alloc ev g) (i.routeView.react ev g.routes) := by
  have hconf : i.routeView.conf = i.conf := rfl
  have hkeep : Reacts (some i, g) (some i.routeView, g.routes) :=
    Shows.reacts (x := (i, g)) (y := (i.routeView, g.routes)) ⟨h, rfl, rfl⟩
  cases ev with
  | upstreamRouteAdd n u fw =>
    rw [eventCallback, RouteView.react, hconf]
    by_cases hn : n = i.conf.ipaIfNum
    · rw [if_pos hn, if_pos hn]
      exact (handleUpstreamRouteAdd_shows h u fw).reacts
    · rw [if_neg hn, if_neg hn]
      exact (handleOtherRouteAdd_shows h u.ipType).reacts
  | upstreamRouteDel n ip =>
    rw [eventCallback, RouteView.react, hconf]
    by_cases hn : n = i.conf.ipaIfNum
    · rw [if_pos hn, if_pos hn]
      exact (handleUpstreamRouteDel_shows h ip).reacts
    · rw [if_neg hn, if_neg hn]
      exact hkeep
  | linkDown n =>
    rw [eventCallback, RouteView.react, hconf]
    by_cases hn : n = i.conf.ipaIfNum
    · rw [if_pos hn, if_pos hn]
      cases hmode : i.conf.staMode with
      | q6Wan => exact reacts_gone (handleDownEvtEx_routes h)
      | ecmWan => exact reacts_gone (handleDownEvt_routes h)
      | wlanWan => exact hkeep
    · rw [if_neg hn, if_neg hn]
      exact hkeep
  | wlanLinkDown n =>
    rw [eventCallback, RouteView.react, hconf]
    by_cases hn : n = i.conf.ipaIfNum ∧ i.conf.staMode = .wlanWan
    · rw [if_pos hn, if_pos hn]
      exact reacts_gone (handleDownEvt_routes h)
    · rw [if_neg hn, if_neg hn]
      exact hkeep
  | addrAdd n a => exact hev.elim
  | neighClientIpAddrAdd n mac a fw => exact hev.elim
  | firewallChange fw => exact hev.elim

end Iface

namespace World

variable {alloc : Alloc}

theorem deliver_nil (ev : WanEvent) (g : Statics) : deliver alloc ev [] g = ([], g) := rfl

theorem deliver_cons (ev : WanEvent) (i : Iface) (is : List Iface) (g : Statics) :
    deliver alloc ev (i :: is) g =
      ((i.eventCallback alloc ev g).1.toList ++
          (deliver alloc ev is (i.eventCallback alloc ev g).2).1,
        (deliver alloc ev is (i.eventCallback alloc ev g).2).2) :=
  rfl

theorem deliver_reacts {ev : WanEvent} (hev : ev.IsRoute) {is : List Iface}
    (his : ∀ i ∈ is, i.Ready) (g : Statics) :
    (∀ i ∈ (deliver alloc ev is g).1, i.Ready) ∧
      (deliver alloc ev is g).1.map Iface.routeView =
        (RouteView.reactAll ev (is.map Iface.routeView) g.routes).1 ∧
      (deliver alloc ev is g).2.routes =
        (RouteView.reactAll ev (is.map Iface.routeView) g.routes).2 := by
  induction is generalizing g with
  | nil =>
    rw [deliver_nil]
    exact ⟨fun _ hi => absurd hi List.not_mem_nil, rfl, rfl⟩
  | cons i is ih =>
    have hi := Iface.eventCallback_reacts alloc g (his i List.mem_cons_self) hev
    obtain ⟨hready, hview, hroutes⟩ := ih (fun j hj => his j (List.mem_cons_of_mem _ hj))
      (i.eventCallback alloc ev g).2
    rw [hi.routes] at hview hroutes
    rw [deliver_cons, List.map_cons, RouteView.reactAll_cons]
    refine ⟨fun j hj => ?_, ?_, hroutes⟩
    · obtain hj | hj := List.mem_append.mp hj
      · exact hi.ready j (Option.mem_toList.mp hj)
      · exact hready j hj
    · rw [← hi.view, List.map_append, hview, Option.toList_map]

end World

end Axon7.Wan
