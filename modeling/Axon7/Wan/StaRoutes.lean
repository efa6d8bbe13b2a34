import Axon7.Wan.StaHeader

/-!
# The default routes of a station

A run of a station: default routes are added and deleted, and neighbours are found. The
routes are right all along it if each event finds the station as it must.
-/

namespace Axon7.Wan

open Axon7.Lib
open Axon7.Tether (IpType IfaceIpType Addr)

/-! ## The start -/

/-- An instance that has had no route and no client. -/
structure Iface.Unrouted (conf : Conf) (i : Iface) : Prop where
  conf : i.conf = conf
  numWanClient : i.numWanClient = 0
  wanV4AddrGw : i.wanV4AddrGw = none
  wanV6AddrGw : i.wanV6AddrGw = none
  active : ∀ ip, i.active ip = false
  headerSet : ∀ ip, i.headerSet ip = false
  waiting : ∀ ip, i.headerPartialDefaultWan ip = false

namespace Iface.Unrouted

variable (alloc : Alloc) {conf : Conf} {i : Iface} {x y : Iface × Statics}

theorem addAt (h : Unrouted conf x.1) (ps : List Place) :
    Unrouted conf (x.1.addAt alloc ps x.2).1 := by
  obtain ⟨hdl, k, heq⟩ := Iface.addAt_frame alloc x.1 x.2 ps
  rw [heq]
  exact ⟨h.1, h.2, h.3, h.4, h.5, h.6, h.7⟩

theorem initFl (h : Unrouted conf x.1) (ip : IpType) :
    Unrouted conf (x.1.initFl alloc ip x.2).1 := by
  obtain ⟨pdn, hdl, num, f, m, k, heq⟩ := Iface.initFl_frame alloc x.1 x.2 ip
  rw [heq]
  exact ⟨h.1, h.2, h.3, h.4, h.5, h.6, h.7⟩

theorem ite {p : Prop} [Decidable p] (h : Unrouted conf x.1) (h' : Unrouted conf y.1) :
    Unrouted conf (if p then x else y).1 := by
  split
  · exact h
  · exact h'

theorem addV6Addr (addr : BitVec 128) (h : Unrouted conf i) (g : Statics) :
    Unrouted conf
      (let n := i.ipv6Addr.length
      let x := i.addAt alloc [.dftRtV6 (2 * n), .dftRtV6 (2 * n + 1)] g
      let x := if n = 1 then x.1.initFl alloc .v6 x.2 else x
      let y := x.1.addAt alloc [.ipv6DestFlt x.1.numIpv6DestFltRule] x.2
      let x :=
        if x.1.conf.isSta && Iface.isGlobalIpv6Addr addr &&
            x.1.numIpv6DestFltRule < Tether.maxDftRtV6 then
          ({ y.1 with numIpv6DestFltRule := y.1.numIpv6DestFltRule + 1 }, y.2)
        else x
      let j :=
        if Iface.isGlobalIpv6Addr addr then { x.1 with ipv6Prefix := addr.extractLsb' 64 64 }
        else x.1
      ({ j with ipv6Addr := j.ipv6Addr ++ [addr] }, x.2)).1 := by
  extract_lets n x₁ x₂ y y₁ x₃ i₃ j
  have h₁ : Unrouted conf x₁.1 := addAt (x := (i, g)) alloc h _
  have h₂ : Unrouted conf x₂.1 := ite (initFl alloc h₁ .v6) h₁
  have hy : Unrouted conf y.1 := addAt alloc h₂ _
  have h₃ : Unrouted conf x₃.1 := ite ⟨hy.1, hy.2, hy.3, hy.4, hy.5, hy.6, hy.7⟩ h₂
  have hj : Unrouted conf j := by
    simp only [j]
    split
    · exact ⟨h₃.1, h₃.2, h₃.3, h₃.4, h₃.5, h₃.6, h₃.7⟩
    · exact h₃
  exact ⟨hj.1, hj.2, hj.3, hj.4, hj.5, hj.6, hj.7⟩

theorem addV4Addr (addr : BitVec 32) (h : Unrouted conf i) (g : Statics) :
    Unrouted conf
      (let g := if i.wanV4AddrSet then i.delAt [.dftRtV4] g else g
      let x := i.addAt alloc [.dftRtV4] g
      let x := if x.1.wanV4AddrSet then x else x.1.initFl alloc .v4 x.2
      ({ x.1 with wanV4Addr := addr, wanV4AddrSet := true },
        if x.1.conf.isSta then x.2 else { x.2 with currWanIp := addr })).1 := by
  extract_lets g' x₁ x₂
  have h₁ : Unrouted conf x₁.1 := addAt (x := (i, g')) alloc h _
  have h₂ : Unrouted conf x₂.1 := ite h₁ (initFl alloc h₁ .v4)
  exact ⟨h₂.1, h₂.2, h₂.3, h₂.4, h₂.5, h₂.6, h₂.7⟩

theorem handleAddrEvt (h : Unrouted conf i) (a : Addr) (g : Statics) :
    Unrouted conf (i.handleAddrEvt alloc a g).1 := by
  rw [Iface.handleAddrEvt]
  split
  · exact h
  have h' : Unrouted conf { i with ipType := i.ipType.config a.ipType } :=
    ⟨h.1, h.2, h.3, h.4, h.5, h.6, h.7⟩
  cases a with
  | v4 addr => exact ite h' (addV4Addr alloc addr h' g)
  | v6 addr => exact ite h' (addV6Addr alloc addr h' g)

end Iface.Unrouted

namespace Station

/-- A station with the addresses it has got. -/
def start (alloc : Alloc) (conf : Conf) (g : Statics) (addrs : List Addr) : Station :=
  let x := addrs.foldl (fun x a => x.1.handleAddrEvt alloc a x.2) (Iface.init conf, g)
  ⟨x.1, x.2, fun _ => 0, fun _ => none⟩

theorem start_unrouted (alloc : Alloc) (conf : Conf) (g : Statics) (addrs : List Addr) :
    (start alloc conf g addrs).iface.Unrouted conf :=
  foldl_invariant (fun x => Iface.Unrouted conf x.1) (fun _ => True)
    (fun x a h _ => h.handleAddrEvt alloc a x.2)
    (s := (Iface.init conf, g)) ⟨rfl, rfl, rfl, rfl, fun _ => rfl, fun _ => rfl, fun _ => rfl⟩
    addrs fun _ _ => trivial

end Station

/-! ## Runs -/

/-- The gateways wanted after an event. -/
def Wanted.step (want : Wanted) : StationEvent → Wanted
  | .upstreamRouteAdd gw _ => want.add gw
  | .upstreamRouteDel ip => want.del ip
  | .neighClientIpAddrAdd _ _ _ => want

/-- The gateways of the routes added and not since deleted. -/
def wantedAfter (evs : List StationEvent) : Wanted := evs.foldl Wanted.step .empty

namespace Station

variable {alloc : Alloc} {s : Station} {want : Wanted}

/-- What an event must find: an IPv6 route a prefix, any route what `GwView.FindsAdd` says,
and the address of a neighbour, if it is stored, what `GwView.FindsStore` says. -/
def Finds (s : Station) (want : Wanted) : StationEvent → Prop
  | .upstreamRouteAdd gw _ => (gw.ipType = .v6 → s.iface.ipv6Prefix ≠ 0) ∧ s.view.FindsAdd gw
  | .upstreamRouteDel _ => True
  | .neighClientIpAddrAdd mac a _ =>
    s.iface.KeepsNeigh mac a → s.view.FindsStore (s.iface.neighClient mac) a want

theorem step_sound (hr : s.Ready) (h : s.view.Sound want) {ev : StationEvent}
    (hf : s.Finds want ev) (alloc : Alloc) :
    (s.step alloc ev).Ready ∧ (s.step alloc ev).view.Sound (want.step ev) := by
  cases ev with
  | upstreamRouteAdd gw fw =>
    obtain ⟨hview, -, hready⟩ := handleUpstreamRouteAdd_view hr alloc gw fw hf.1
    refine ⟨hready, ?_⟩
    show (s.handleUpstreamRouteAdd alloc (upstreamBy gw) fw).view.Sound (want.add gw)
    rw [hview]
    exact h.add s.lookup hf.2
  | upstreamRouteDel ip =>
    obtain ⟨hview, -, hready⟩ := handleUpstreamRouteDel_view hr ip
    refine ⟨hready, ?_⟩
    show (s.handleUpstreamRouteDel ip).view.Sound (want.del ip)
    rw [hview]
    exact h.del ip
  | neighClientIpAddrAdd mac a fw =>
    show (s.handleNeighClientIpAddrAdd alloc mac a fw).Ready ∧
      (s.handleNeighClientIpAddrAdd alloc mac a fw).view.Sound want
    rw [handleNeighClientIpAddrAdd]
    by_cases hkeeps : s.iface.KeepsNeigh mac a
    · obtain ⟨s', heq, hstores, hready, -⟩ := storeNeigh_of_keepsNeigh hr alloc hkeeps
      rw [heq]
      obtain ⟨hview, -, hready'⟩ := handleStaHeaderAddEvt_view hready alloc fw
      refine ⟨hready', ?_⟩
      dsimp only
      rw [hview]
      exact h.stores hstores s'.lookup (hf hkeeps)
    · obtain ⟨s', heq, hnone, hready, -⟩ := storeNeigh_of_not_keepsNeigh hr alloc hkeeps
      rw [heq]
      exact ⟨hready, h.storesNone hnone⟩

variable {conf : Conf} {g : Statics} {addrs : List Addr}

theorem start_ready (hsta : conf.isSta = true) (htx : ∀ ip, ip ∈ conf.tx)
    (hboth : (start alloc conf g addrs).iface.ipType = .max) :
    (start alloc conf g addrs).Ready := by
  have h := start_unrouted alloc conf g addrs
  refine ⟨?_, ?_, hboth, fun n hn => ?_, (h.headerSet .v4).trans (h.headerSet .v6).symm⟩
  · rw [h.conf]
    exact hsta
  · rw [h.conf]
    exact htx
  · rw [h.numWanClient] at hn
    exact absurd hn (Nat.not_lt_zero n)

theorem start_sound (alloc : Alloc) (conf : Conf) (g : Statics) (addrs : List Addr) :
    (start alloc conf g addrs).view.Sound .empty := by
  have h := start_unrouted alloc conf g addrs
  have hgateway : ∀ ip, (start alloc conf g addrs).view.gateway ip = none := by
    intro ip
    cases ip with
    | v4 => exact congrArg (Option.map Addr.v4) h.wanV4AddrGw
    | v6 => exact congrArg (Option.map Addr.v6) h.wanV6AddrGw
  have hidle : (start alloc conf g addrs).view.Idle .empty := by
    refine ⟨h.active, fun _ => rfl, fun ip a ha => ?_, fun ip a ha => ?_⟩
    · rw [hgateway] at ha
      exact nomatch ha
    · exact absurd ha (Wanted.empty_ne_some a)
  refine hidle.sound_waits ⟨fun ip => ?_, fun ip a ha => ?_, fun a ha => ?_, fun _ a ha => ?_⟩
    fun ip a ha => absurd ha (Wanted.empty_ne_some a)
  · rw [hgateway]
    exact h.waiting ip
  · exact absurd ha (Wanted.empty_ne_some a)
  · rw [hgateway] at ha
    exact nomatch ha
  · rw [hgateway] at ha
    exact nomatch ha

/-- All along a run of a station with addresses of both families whose events find what they
must: the default routes of a family are installed just while one is wanted whose gateway is a
client, and have its header. -/
theorem run_right (alloc : Alloc) (conf : Conf) (g : Statics) (addrs : List Addr)
    (hsta : conf.isSta = true) (htx : ∀ ip, ip ∈ conf.tx)
    (hboth : (start alloc conf g addrs).iface.ipType = .max) (evs : List StationEvent)
    (hfinds : ∀ pre ev, pre ++ [ev] <+: evs →
      ((start alloc conf g addrs).run alloc pre).Finds (wantedAfter pre) ev) :
    ∀ pre, pre <+: evs →
      ((start alloc conf g addrs).run alloc pre).view.Right (wantedAfter pre) := by
  intro pre hpre
  suffices hinv : ((start alloc conf g addrs).run alloc pre).Ready ∧
      ((start alloc conf g addrs).run alloc pre).view.Sound (wantedAfter pre) from hinv.2.right
  induction pre using List.reverseRecOn with
  | nil => exact ⟨start_ready hsta htx hboth, start_sound alloc conf g addrs⟩
  | append_singleton pre ev ih =>
    obtain ⟨hready, hsound⟩ := ih ((List.prefix_append pre [ev]).trans hpre)
    have hstep := step_sound hready hsound (hfinds pre ev hpre) alloc
    rw [run, wantedAfter, List.foldl_concat, List.foldl_concat]
    exact hstep

/-- A Wi-Fi station with an address of each family. -/
def wlanStation : Station :=
  start nextHandle ⟨1, "wlan0", .wlanWan, false, false, [.v4, .v6], [1], []⟩ (.init [])
    [.v4 0x0A000005, .v6 0x20010DB8000000000000000000000005]

/-- The addresses of its gateway. -/
def gwV4 : Addr := .v4 0x0A000001

def gwV6 : Addr := .v6 0x20010DB8000000000000000000000001

/-- A route waits for its gateway, and the other has the same. -/
def oneGateway : List StationEvent :=
  [.upstreamRouteAdd gwV4 .dft, .neighClientIpAddrAdd 1 gwV6 .dft,
    .neighClientIpAddrAdd 1 gwV4 .dft, .upstreamRouteAdd gwV6 .dft, .upstreamRouteDel .v4]

theorem oneGateway_right :
    (wlanStation.run nextHandle (oneGateway.take 3)).view.Right (wantedAfter (oneGateway.take 3)) ∧
      (wlanStation.run nextHandle oneGateway).view.Right (wantedAfter oneGateway) := by
  suffices hfinds : ∀ pre ev, pre ++ [ev] <+: oneGateway →
      (wlanStation.run nextHandle pre).Finds (wantedAfter pre) ev by
    have hright := run_right nextHandle _ _ _ (by decide) (fun ip => by cases ip <;> decide)
      (by decide) oneGateway hfinds
    exact ⟨hright _ (List.take_prefix 3 oneGateway), hright _ List.prefix_rfl⟩
  refine forall_concat_of_take fun k hk => ?_
  have hk : k < 5 := hk
  interval_cases k
  · refine ⟨by rintro ⟨⟩, ?_⟩
    rw [GwView.FindsAdd, if_neg (by decide), if_neg (by decide)]
    exact fun _ b hb => absurd (show none = some b from hb) (by rintro ⟨⟩)
  · intro _
    rw [GwView.FindsStore, if_neg (by decide)]
    rintro ⟨⟩
  · intro _
    rw [GwView.FindsStore, if_neg (by decide)]
    exact .inl ⟨rfl, rfl⟩
  · refine ⟨fun _ => by decide, ?_⟩
    rw [GwView.FindsAdd, if_neg (by decide), if_pos (by decide)]
    exact ⟨0, by decide, by decide⟩
  · trivial

/-- Both routes wait, and the gateway of both is found: neither is added. -/
theorem bothWait_not_right :
    let evs : List StationEvent := [.upstreamRouteAdd gwV4 .dft, .upstreamRouteAdd gwV6 .dft,
      .neighClientIpAddrAdd 1 gwV4 .dft, .neighClientIpAddrAdd 1 gwV6 .dft]
    let s := wlanStation.run nextHandle evs
    (∀ a ∈ [gwV4, gwV6], wantedAfter evs a.ipType = some a ∧ s.view.known 0 a = true ∧
        s.wanRouteHdr a.ipType = none) ∧
      ¬ s.view.Right (wantedAfter evs) := by
  refine ⟨fun a ha => ?_, fun hright => ?_⟩
  · rw [List.mem_pair] at ha
    rcases ha with rfl | rfl
    · exact ⟨rfl, by decide, by decide⟩
    · exact ⟨rfl, by decide, by decide⟩
  · exact absurd (hright.missing .v4 (by decide) gwV4 rfl 0) (by decide)

end Station

end Axon7.Wan
