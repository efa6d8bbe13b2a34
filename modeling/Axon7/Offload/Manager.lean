import Axon7.Lib.Run

/-!
# IPACM_OffloadManager

The framework tells the manager which upstream carries the default route and
which downstreams to serve; the manager posts events for it. What concerns an
interface that IPACM has not configured yet is cached, and done again when
IPACM has. The devices there are when a call is made are given with it.
-/

namespace Axon7.Offload

/-- `IP_FAM`. -/
inductive IpFam
  | v4
  | v6
  | invalid
deriving DecidableEq

/-- `ipa_ip_type`. -/
inductive IpType
  | v4
  | v6
deriving DecidableEq

abbrev Word := BitVec 32

/-- `Prefix`. -/
structure Prefix where
  fam : IpFam
  v4Addr : Word
  v4Mask : Word
  v6Addr : Vector Word 4
  v6Mask : Vector Word 4
deriving DecidableEq

namespace Prefix

/-- All bits 0 but for the family. -/
def blank (fam : IpFam) : Prefix where
  fam := fam
  v4Addr := 0
  v4Mask := 0
  v6Addr := .replicate 4 0
  v6Mask := .replicate 4 0

end Prefix

abbrev IfName := List Char

/-- `IF_NAME_LEN`. -/
def ifNameLen : Nat := 16

/-- What of a name is copied and compared. -/
def devName (name : IfName) : IfName := name.take ifNameLen

/-- `INVALID_IFACE`. -/
def invalidIface : Int := -1

/-- `MAX_EVENT_CACHE`. -/
abbrev maxEventCache : Nat := 10

abbrev CacheIndex := Fin maxEventCache

/-- The devices: their indices, and whether IPACM has configured them, which
`CheckNatIfaces` says by a 0. -/
structure Devices where
  ifIndex : IfName → Option Nat
  checkNatIfaces : IfName → IpType → Bool

/-- The events in the cache, one that is neither included. -/
inductive CachedEvent
  | other
  | downstreamAdd
  | wanUpstreamRouteAdd
deriving DecidableEq

/-- `framework_event_cache`. -/
structure FrameworkEventCache where
  event : CachedEvent
  devName : IfName
  prefixCache : Prefix
  prefixCacheV6 : Prefix
  valid : Bool
deriving DecidableEq

/-- An entry cleared. -/
def FrameworkEventCache.cleared : FrameworkEventCache where
  event := .other
  devName := []
  prefixCache := .blank .v4
  prefixCacheV6 := .blank .v4
  valid := false

/-- The events posted. -/
inductive Evt
  | downstreamAdd (ifIndex : Int) (pfx : Prefix)
  | downstreamDel (ifIndex : Int) (pfx : Prefix)
  | routeAdd (ipType : IpType) (ifIndex : Int) (gw : Prefix)
  | routeDel (ipType : IpType) (ifIndex : Int) (gw : Prefix)

/-- `RET`, as far as it is returned. -/
inductive Ret
  | success
  | successDuplicateConfig
  | failInputCheck
  | failHardware
deriving DecidableEq

/-- `IPACM_OffloadManager`, with what it has posted. `upstream_v4_up` and
`upstream_v6_up` are one field. -/
structure Manager where
  validIfaces : List IfName
  upstreamUp : IpType → Bool
  defaultGwIndex : Int
  eventCache : CacheIndex → FrameworkEventCache
  latestCacheIndex : CacheIndex
  posted : List Evt

namespace Manager

/-- The constructor. -/
def new : Manager where
  validIfaces := []
  upstreamUp _ := false
  defaultGwIndex := invalidIface
  eventCache _ := .cleared
  latestCacheIndex := 0
  posted := []

def post (m : Manager) (evt : Evt) : Manager :=
  { m with posted := m.posted ++ [evt] }

def setEntry (m : Manager) (i : CacheIndex) (entry : FrameworkEventCache) :
    Manager :=
  { m with eventCache := Function.update m.eventCache i entry }

/-- The loop that puts an event into the cache: the first entry free from
`latest_cache_index` on is filled in. -/
def cacheEvent (fill : FrameworkEventCache → FrameworkEventCache) :
    Nat → Manager → Ret × Manager
  | 0, m => (.failHardware, m)
  | n + 1, m =>
    let next := { m with latestCacheIndex := m.latestCacheIndex + 1 }
    let entry := m.eventCache m.latestCacheIndex
    if entry.valid = false then
      (.success, next.setEntry m.latestCacheIndex (fill entry))
    else cacheEvent fill n next

/-- The interface has a family that IPACM has not configured. -/
def cacheNeed (d : Devices) (name : IfName) (famV4 famV6 : IpFam) : Bool :=
  famV4 = .v4 && !d.checkNatIfaces name .v4 ||
    famV6 = .v6 && !d.checkNatIfaces name .v6

/-- `addDownstream`. -/
def addDownstream (d : Devices) (downstreamName : IfName) (pfx : Prefix)
    (m : Manager) : Ret × Manager :=
  match d.ifIndex downstreamName with
  | none => (.failInputCheck, m)
  | some index =>
    let m :=
      if downstreamName ∈ m.validIfaces then m
      else { m with validIfaces := m.validIfaces ++ [downstreamName] }
    if cacheNeed d downstreamName pfx.fam pfx.fam then
      m.cacheEvent (fun entry =>
        { entry with
          valid := true
          event := .downstreamAdd
          devName := devName downstreamName
          prefixCache := pfx }) maxEventCache
    else (.success, m.post (.downstreamAdd index pfx))

/-- `removeDownstream`. -/
def removeDownstream (d : Devices) (downstreamName : IfName) (pfx : Prefix)
    (m : Manager) : Ret × Manager :=
  if downstreamName = [] then (.failHardware, m)
  else if downstreamName ∉ m.validIfaces then (.failHardware, m)
  else
    match d.ifIndex downstreamName with
    | none => (.success, m)
    | some index => (.success, m.post (.downstreamDel index pfx))

/-- An upstream is cached. -/
def pendingUpstream (entry : FrameworkEventCache) : Bool :=
  entry.valid && entry.event = .wanUpstreamRouteAdd

/-- The route of a family is withdrawn, if it is up. -/
def delRoute (ipType : IpType) (gw : Prefix) (m : Manager) : Manager :=
  if m.upstreamUp ipType = true then
    { m.post (.routeDel ipType m.defaultGwIndex gw) with
      upstreamUp := Function.update m.upstreamUp ipType false }
  else m

/-- It is announced, unless it is up. An IPv6 gateway must not be the address
0. -/
def addRoute (ipType : IpType) (index : Int) (gw : Prefix) (m : Manager) :
    Manager :=
  if m.upstreamUp ipType = false then
    if ipType = .v6 ∧ gw.v6Addr = .replicate 4 0 then m
    else
      { m.post (.routeAdd ipType index gw) with
        upstreamUp := Function.update m.upstreamUp ipType true }
  else m

/-- `setUpstream` without a name: the default route is removed. An upstream
still in the cache has the whole cache cleared. -/
def clearUpstream (gwAddrV4 gwAddrV6 : Prefix) (m : Manager) : Ret × Manager :=
  if m.defaultGwIndex = invalidIface then
    if ∃ i, pendingUpstream (m.eventCache i) = true then
      (.success, { m with eventCache := fun _ => .cleared })
    else (.failInputCheck, m)
  else
    let m := if gwAddrV4.fam = .v4 then m.delRoute .v4 gwAddrV4 else m
    let m := if gwAddrV6.fam = .v6 then m.delRoute .v6 gwAddrV6 else m
    (.success, { m with defaultGwIndex := invalidIface })

/-- The part of `setUpstream` before the routes are announced: another
interface withdraws those of the one before. -/
def switchUpstream (index : Nat) (gwAddrV4 gwAddrV6 : Prefix) (m : Manager) :
    Manager :=
  if (index : Int) ≠ m.defaultGwIndex then
    { (m.delRoute .v4 gwAddrV4).delRoute .v6 gwAddrV6 with
      defaultGwIndex := invalidIface }
  else m

/-- The part that announces the routes of the families given and withdraws
that of a family no longer given. -/
def announce (index : Nat) (gwAddrV4 gwAddrV6 : Prefix) (m : Manager) :
    Ret × Manager :=
  if gwAddrV4.fam = .v4 ∧ gwAddrV6.fam = .v6 then
    (.success, (m.addRoute .v4 index gwAddrV4).addRoute .v6 index gwAddrV6)
  else if gwAddrV4.fam = .v4 then
    let m :=
      if m.defaultGwIndex ≠ invalidIface then m.delRoute .v6 gwAddrV6 else m
    (if m.upstreamUp .v4 then .successDuplicateConfig else .success,
      m.addRoute .v4 index gwAddrV4)
  else if gwAddrV6.fam = .v6 then
    let m :=
      if m.defaultGwIndex ≠ invalidIface then m.delRoute .v4 gwAddrV4 else m
    (if m.upstreamUp .v6 then .successDuplicateConfig else .success,
      m.addRoute .v6 index gwAddrV6)
  else (.success, m)

/-- `setUpstream`. -/
def setUpstream (d : Devices) (upstreamName : Option IfName)
    (gwAddrV4 gwAddrV6 : Prefix) (m : Manager) : Ret × Manager :=
  match upstreamName with
  | none => m.clearUpstream gwAddrV4 gwAddrV6
  | some name =>
    match d.ifIndex name with
    | none => (.failInputCheck, m)
    | some index =>
      if cacheNeed d name gwAddrV4.fam gwAddrV6.fam then
        m.cacheEvent (fun entry =>
          { entry with
            valid := true
            event := .wanUpstreamRouteAdd
            devName := devName name
            prefixCache := gwAddrV4
            prefixCacheV6 := gwAddrV6 }) maxEventCache
      else
        let (ret, m) := (m.switchUpstream index gwAddrV4 gwAddrV6).announce
          index gwAddrV4 gwAddrV6
        (ret, { m with defaultGwIndex := index })

/-- `stopAllOffload`. -/
def stopAllOffload (d : Devices) (m : Manager) : Ret × Manager :=
  let (ret, m) := m.setUpstream d none (.blank .v4) (.blank .v6)
  (ret,
    { m with
      defaultGwIndex := invalidIface
      upstreamUp := fun _ => false
      eventCache := fun _ => .cleared
      latestCacheIndex := 0
      validIfaces := [] })

/-- One turn of the loop of `search_framwork_cache`: a valid entry of the
interface is done again and ceases to be valid. -/
def replayEntry (d : Devices) (interfaceName : IfName) (m : Manager)
    (i : CacheIndex) : Manager :=
  let entry := m.eventCache i
  if entry.valid = true ∧ entry.devName = devName interfaceName then
    let m :=
      match entry.event with
      | .downstreamAdd => (m.addDownstream d interfaceName entry.prefixCache).2
      | .wanUpstreamRouteAdd =>
        (m.setUpstream d (some interfaceName) entry.prefixCache
          entry.prefixCacheV6).2
      | .other => m
    m.setEntry i { m.eventCache i with valid := false }
  else m

/-- `search_framwork_cache`. The devices may change from one turn to the
next. -/
def searchFramworkCache (d : CacheIndex → Devices) (interfaceName : IfName)
    (m : Manager) : Manager :=
  (List.finRange maxEventCache).foldl
    (fun m i => replayEntry (d i) interfaceName m i) m

/-- The calls there are. -/
inductive Call
  | addDownstream (d : Devices) (name : IfName) (pfx : Prefix)
  | removeDownstream (d : Devices) (name : IfName) (pfx : Prefix)
  | setUpstream (d : Devices) (name : Option IfName) (gwAddrV4 gwAddrV6 : Prefix)
  | stopAllOffload (d : Devices)
  | searchFramworkCache (d : CacheIndex → Devices) (name : IfName)

def step (m : Manager) : Call → Manager
  | .addDownstream d name pfx => (m.addDownstream d name pfx).2
  | .removeDownstream d name pfx => (m.removeDownstream d name pfx).2
  | .setUpstream d name gwAddrV4 gwAddrV6 =>
    (m.setUpstream d name gwAddrV4 gwAddrV6).2
  | .stopAllOffload d => (m.stopAllOffload d).2
  | .searchFramworkCache d name => m.searchFramworkCache d name

/-- The manager after the calls. -/
def run (calls : List Call) : Manager := calls.foldl step new

theorem announce_keeps {I : Manager → Prop} {m : Manager} {index : Nat}
    (hdel : ∀ ipType gw, m.defaultGwIndex ≠ invalidIface → I (m.delRoute ipType gw))
    (hadd : ∀ m ipType gw, I m → I (m.addRoute ipType index gw)) (h : I m)
    (gwAddrV4 gwAddrV6 : Prefix) : I (m.announce index gwAddrV4 gwAddrV6).2 := by
  have hkept : ∀ ipType gw,
      I (if m.defaultGwIndex ≠ invalidIface then m.delRoute ipType gw else m) := by
    intro ipType gw
    split
    · next hne => exact hdel ipType gw hne
    · exact h
  rw [announce]
  split
  · exact hadd _ .v6 gwAddrV6 (hadd m .v4 gwAddrV4 h)
  · split
    · exact hadd _ .v4 gwAddrV4 (hkept .v6 gwAddrV6)
    · split
      · exact hadd _ .v6 gwAddrV6 (hkept .v4 gwAddrV4)
      · exact h

end Manager

end Axon7.Offload

/-!
# The route events

For each family the manager posts that a route is there and that it has gone,
in turn: the flag of the family says which was posted last, and while it is set
`default_gw_index` is the interface of the route. Caching, replays and the
other calls do not disturb this.
-/

namespace Axon7.Offload

open Axon7.Lib

/-- `IPA_WAN_UPSTREAM_ROUTE_ADD_EVENT` and its counterpart, with the index of
the interface. -/
inductive RouteEvt
  | add (ifIndex : Int)
  | del (ifIndex : Int)
deriving DecidableEq

/-- The event as one of the family. -/
def routeOf (ipType : IpType) : Evt → Option RouteEvt
  | .routeAdd ip ifIndex _ => if ip = ipType then some (.add ifIndex) else none
  | .routeDel ip ifIndex _ => if ip = ipType then some (.del ifIndex) else none
  | _ => none

/-- The route events of a family, as they were posted. -/
def routes (ipType : IpType) (posted : List Evt) : List RouteEvt :=
  posted.filterMap (routeOf ipType)

/-- Adds and deletes by turns, an add first, each delete for the interface of
the add before it. The interface whose route is there at the end is given. -/
inductive Alternation : List RouteEvt → Option Int → Prop
  | nil : Alternation [] none
  | add {evts : List RouteEvt} (ifIndex : Int) (h : Alternation evts none) :
      Alternation (evts ++ [.add ifIndex]) (some ifIndex)
  | del {evts : List RouteEvt} {ifIndex : Int}
      (h : Alternation evts (some ifIndex)) :
      Alternation (evts ++ [.del ifIndex]) none

namespace Manager

/-- The routes that are up are those of the interface `gw`. -/
def RoutedAt (gw : Int) (m : Manager) : Prop :=
  ∀ ipType, Alternation (routes ipType m.posted)
    (if m.upstreamUp ipType then some gw else none)

/-- They are those of the default gateway, and there is one if any is up. -/
structure Routed (m : Manager) : Prop where
  routed : m.RoutedAt m.defaultGwIndex
  gw : ∀ ipType, m.upstreamUp ipType = true → m.defaultGwIndex ≠ invalidIface

/-- Nothing that concerns the routes differs. -/
structure SameRoutes (m m' : Manager) : Prop where
  posted : ∀ ipType, routes ipType m'.posted = routes ipType m.posted
  up : m'.upstreamUp = m.upstreamUp
  gw : m'.defaultGwIndex = m.defaultGwIndex

variable {m m' : Manager} {gw : Int} {gwAddr gwAddrV4 gwAddrV6 : Prefix}

theorem SameRoutes.refl (m : Manager) : m.SameRoutes m :=
  ⟨fun _ => rfl, rfl, rfl⟩

theorem SameRoutes.trans {m'' : Manager} (h : m.SameRoutes m')
    (h' : m'.SameRoutes m'') : m.SameRoutes m'' where
  posted ipType := (h'.posted ipType).trans (h.posted ipType)
  up := h'.up.trans h.up
  gw := h'.gw.trans h.gw

theorem SameRoutes.routed (h : m.SameRoutes m') (hm : m.Routed) : m'.Routed where
  routed ipType := by
    rw [h.posted, h.up, h.gw]
    exact hm.routed ipType
  gw ipType := by
    rw [h.up, h.gw]
    exact hm.gw ipType

theorem post_sameRoutes {evt : Evt} (h : ∀ ipType, routeOf ipType evt = none) :
    m.SameRoutes (m.post evt) where
  posted ipType := by
    show routes ipType (m.posted ++ [evt]) = _
    rw [routes, List.filterMap_append]
    simp [routes, h]
  up := rfl
  gw := rfl

theorem SameRoutes.setEntry (i : CacheIndex) (entry : FrameworkEventCache) :
    m.SameRoutes (m.setEntry i entry) := ⟨fun _ => rfl, rfl, rfl⟩

theorem cacheEvent_sameRoutes (fill : FrameworkEventCache → FrameworkEventCache)
    (n : Nat) (m : Manager) : m.SameRoutes (m.cacheEvent fill n).2 := by
  induction n generalizing m with
  | zero => exact .refl m
  | succ n ih =>
    rw [cacheEvent]
    split
    · exact ⟨fun _ => rfl, rfl, rfl⟩
    · refine SameRoutes.trans ?_
        (ih { m with latestCacheIndex := m.latestCacheIndex + 1 })
      exact ⟨fun _ => rfl, rfl, rfl⟩

theorem addDownstream_sameRoutes (d : Devices) (name : IfName) (pfx : Prefix)
    (m : Manager) : m.SameRoutes (m.addDownstream d name pfx).2 := by
  rw [addDownstream]
  split
  · exact .refl m
  · next index _ =>
      have hlisted : m.SameRoutes (if name ∈ m.validIfaces then m
          else { m with validIfaces := m.validIfaces ++ [name] }) := by
        split
        · exact .refl m
        · exact ⟨fun _ => rfl, rfl, rfl⟩
      dsimp only
      split
      · exact hlisted.trans (cacheEvent_sameRoutes _ _ _)
      · exact hlisted.trans (post_sameRoutes fun _ => rfl)

theorem removeDownstream_sameRoutes (d : Devices) (name : IfName) (pfx : Prefix)
    (m : Manager) : m.SameRoutes (m.removeDownstream d name pfx).2 := by
  rw [removeDownstream]
  split
  · exact .refl m
  · split
    · exact .refl m
    · split
      · exact .refl m
      · exact post_sameRoutes fun _ => rfl

/-! ## Routes withdrawn and announced -/

theorem routes_post (ipType : IpType) (posted : List Evt) (evt : Evt) :
    routes ipType (posted ++ [evt]) =
      routes ipType posted ++ (routeOf ipType evt).toList := by
  rw [routes, List.filterMap_append]
  cases h : routeOf ipType evt <;> simp [routes, h]

@[simp] theorem delRoute_gw (ipType : IpType) (gwAddr : Prefix) (m : Manager) :
    (m.delRoute ipType gwAddr).defaultGwIndex = m.defaultGwIndex := by
  rw [delRoute]
  split <;> rfl

@[simp] theorem delRoute_up (ipType : IpType) (gwAddr : Prefix) (m : Manager) :
    (m.delRoute ipType gwAddr).upstreamUp =
      Function.update m.upstreamUp ipType false := by
  rw [delRoute]
  split
  · rfl
  · next hdown =>
      rw [eq_comm, Function.update_eq_self_iff]
      simpa using hdown

theorem RoutedAt.delRoute (h : m.RoutedAt m.defaultGwIndex) (ipType : IpType)
    (gwAddr : Prefix) : (m.delRoute ipType gwAddr).RoutedAt m.defaultGwIndex := by
  rw [Manager.delRoute]
  split
  · next hup =>
      intro ip
      have hold := h ip
      show Alternation (routes ip (m.posted ++ [_]))
        (if Function.update m.upstreamUp ipType false ip then _ else none)
      rw [routes_post]
      by_cases hip : ip = ipType
      · subst hip
        rw [hup, if_pos rfl] at hold
        simpa [routeOf] using hold.del
      · simpa [routeOf, hip, Ne.symm hip] using hold
  · exact h

theorem RoutedAt.addRoute (h : m.RoutedAt gw) (ipType : IpType)
    (gwAddr : Prefix) : (m.addRoute ipType gw gwAddr).RoutedAt gw := by
  rw [Manager.addRoute]
  split
  · next hdown =>
      split
      · exact h
      · intro ip
        have hold := h ip
        show Alternation (routes ip (m.posted ++ [_]))
          (if Function.update m.upstreamUp ipType true ip then _ else none)
        rw [routes_post]
        by_cases hip : ip = ipType
        · subst hip
          rw [hdown, if_neg Bool.false_ne_true] at hold
          simpa [routeOf] using hold.add gw
        · simpa [routeOf, hip, Ne.symm hip] using hold
  · exact h

theorem RoutedAt.of_down (h : m.RoutedAt gw)
    (hdown : ∀ ipType, m.upstreamUp ipType = false) (gw' : Int) :
    m.RoutedAt gw' := by
  intro ipType
  have hold := h ipType
  rw [hdown, if_neg Bool.false_ne_true] at hold ⊢
  exact hold

theorem delRoutes_down (ipType : IpType) :
    ((m.delRoute .v4 gwAddrV4).delRoute .v6 gwAddrV6).upstreamUp ipType =
      false := by
  cases ipType <;> simp

theorem RoutedAt.delRoutes (h : m.RoutedAt m.defaultGwIndex)
    (gwAddrV4 gwAddrV6 : Prefix) (gw : Int) :
    ((m.delRoute .v4 gwAddrV4).delRoute .v6 gwAddrV6).RoutedAt gw := by
  have hv4 := h.delRoute .v4 gwAddrV4
  rw [← delRoute_gw .v4 gwAddrV4] at hv4
  exact (hv4.delRoute .v6 gwAddrV6).of_down delRoutes_down gw

/-! ## The calls -/

theorem Routed.clearUpstream (h : m.Routed) (hv4 : gwAddrV4.fam = .v4)
    (hv6 : gwAddrV6.fam = .v6) : (m.clearUpstream gwAddrV4 gwAddrV6).2.Routed ∧
      ∀ ipType, (m.clearUpstream gwAddrV4 gwAddrV6).2.upstreamUp ipType =
        false := by
  rw [Manager.clearUpstream]
  split
  · next hinvalid =>
      have hdown : ∀ ipType, m.upstreamUp ipType = false := fun ipType =>
        Bool.eq_false_iff.mpr fun hup => h.gw ipType hup hinvalid
      split
      · exact ⟨⟨h.routed, h.gw⟩, hdown⟩
      · exact ⟨h, hdown⟩
  · refine ⟨⟨h.routed.delRoutes gwAddrV4 gwAddrV6 _, fun ipType hup => ?_⟩,
      delRoutes_down⟩
    exact absurd ((delRoutes_down ipType).symm.trans hup) nofun

theorem RoutedAt.announce {index : Nat} (h : m.RoutedAt index)
    (hgw : m.defaultGwIndex = index ∨ ∀ ipType, m.upstreamUp ipType = false)
    (gwAddrV4 gwAddrV6 : Prefix) :
    (m.announce index gwAddrV4 gwAddrV6).2.RoutedAt index := by
  refine announce_keeps (I := fun m => m.RoutedAt index) (fun ipType gw _ => ?_)
    (fun _ ipType gw hm => hm.addRoute ipType gw) h gwAddrV4 gwAddrV6
  obtain hgw | hdown := hgw
  · rw [← hgw] at h ⊢
    exact h.delRoute ipType gw
  · rw [Manager.delRoute, hdown, if_neg Bool.false_ne_true]
    exact h

theorem Routed.setUpstream (h : m.Routed) (d : Devices) (name : IfName)
    (gwAddrV4 gwAddrV6 : Prefix) :
    (m.setUpstream d (some name) gwAddrV4 gwAddrV6).2.Routed := by
  rw [Manager.setUpstream]
  dsimp only
  split
  · exact h
  · next index _ =>
      split
      · exact (cacheEvent_sameRoutes _ _ m).routed h
      · have hswitch : (m.switchUpstream index gwAddrV4 gwAddrV6).RoutedAt index ∧
            ((m.switchUpstream index gwAddrV4 gwAddrV6).defaultGwIndex = index ∨
              ∀ ipType, (m.switchUpstream index gwAddrV4
                gwAddrV6).upstreamUp ipType = false) := by
          rw [switchUpstream]
          split
          · exact ⟨h.routed.delRoutes gwAddrV4 gwAddrV6 index,
              .inr delRoutes_down⟩
          · next heq =>
              rw [not_not] at heq
              exact ⟨heq ▸ h.routed, .inl heq.symm⟩
        refine ⟨hswitch.1.announce hswitch.2 gwAddrV4 gwAddrV6, fun _ _ => ?_⟩
        show (index : Int) ≠ invalidIface
        rw [invalidIface]
        omega

theorem Routed.replayEntry (h : m.Routed) (d : Devices) (name : IfName)
    (i : CacheIndex) : (m.replayEntry d name i).Routed := by
  rw [Manager.replayEntry]
  dsimp only
  split
  · refine (SameRoutes.setEntry i _).routed ?_
    split
    · exact (addDownstream_sameRoutes d name _ m).routed h
    · exact h.setUpstream d name _ _
    · exact h
  · exact h

theorem Routed.searchFramworkCache (h : m.Routed) (d : CacheIndex → Devices)
    (name : IfName) : (m.searchFramworkCache d name).Routed :=
  foldl_invariant Routed (fun _ => True)
    (fun _ i hm _ => hm.replayEntry (d i) name i) h _ fun _ _ => trivial

theorem Routed.stopAllOffload (h : m.Routed) (d : Devices) :
    (m.stopAllOffload d).2.Routed := by
  obtain ⟨hrouted, hdown⟩ := @Routed.clearUpstream m (.blank .v4) (.blank .v6) h
    rfl rfl
  refine ⟨fun ipType => ?_, fun _ hup => absurd hup nofun⟩
  have hold := hrouted.routed ipType
  rw [hdown, if_neg Bool.false_ne_true] at hold
  exact hold

/-- The default route is removed for both families, as the HAL has it. -/
def Call.fromHal : Call → Prop
  | .setUpstream _ none gwAddrV4 gwAddrV6 =>
    gwAddrV4.fam = .v4 ∧ gwAddrV6.fam = .v6
  | _ => True

theorem Routed.step (h : m.Routed) {call : Call} (hcall : call.fromHal) :
    (m.step call).Routed := by
  cases call with
  | addDownstream d name pfx => exact (addDownstream_sameRoutes d name pfx m).routed h
  | removeDownstream d name pfx =>
    exact (removeDownstream_sameRoutes d name pfx m).routed h
  | setUpstream d name gwAddrV4 gwAddrV6 =>
    cases name with
    | none => exact (h.clearUpstream hcall.1 hcall.2).1
    | some name => exact h.setUpstream d name gwAddrV4 gwAddrV6
  | stopAllOffload d => exact h.stopAllOffload d
  | searchFramworkCache d name => exact h.searchFramworkCache d name

/-- The events of each family alternate, and at the end the flag says which
was last. -/
theorem run_alternates (calls : List Call)
    (hcalls : ∀ call ∈ calls, call.fromHal) (ipType : IpType) :
    ∃ last, Alternation (routes ipType (run calls).posted) last ∧
      last = if (run calls).upstreamUp ipType then
        some (run calls).defaultGwIndex else none := by
  have hnew : new.Routed := ⟨fun _ => .nil, fun _ hup => absurd hup nofun⟩
  have hrun : (run calls).Routed := foldl_invariant Routed Call.fromHal
    (fun _ _ hm hcall => hm.step hcall) hnew calls hcalls
  exact ⟨_, hrun.routed ipType, rfl⟩

theorem wlanThenMobile_alternates :
    let wlan : Devices := ⟨fun _ => some 4, fun _ _ => true⟩
    let mobile : Devices := ⟨fun _ => some 7, fun _ _ => true⟩
    let gwV4 : Prefix := { Prefix.blank .v4 with v4Addr := 1 }
    let gwV6 : Prefix := { Prefix.blank .v6 with v6Addr := .replicate 4 1 }
    let calls : List Call :=
      [.setUpstream wlan (some "wlan0".toList) gwV4 gwV6,
        .setUpstream mobile (some "rmnet0".toList) gwV4 (.blank .invalid),
        .setUpstream mobile none (.blank .v4) (.blank .v6)]
    (∃ last, Alternation (routes .v4 (run calls).posted) last ∧
      last = if (run calls).upstreamUp .v4 then
        some (run calls).defaultGwIndex else none) ∧
      routes .v4 (run calls).posted = [.add 4, .del 4, .add 7, .del 7] ∧
      routes .v6 (run calls).posted = [.add 4, .del 4] :=
  ⟨run_alternates _ (by simp [Call.fromHal, Prefix.blank]) .v4, by decide,
    by decide⟩

end Manager

end Axon7.Offload
