import Axon7.Lib.Run
import Axon7.Wan.Station
import Axon7.Wan.Upstream

/-!
# Default routes wait for the gateway

A default route of a station waits until its gateway is one of the clients, and then has
that client's header. The station takes the headers of both families at once, from one
client, and never again; and a route that waits is not given up when it is deleted. So
the gateways of both families must be one client, learned before the second route, and
no route may be deleted while it waits for what comes.
-/

namespace Axon7.Wan

open Axon7.Lib
open Axon7.Tether (IpType IfaceIpType Addr)
open Axon7.Clients (Mac)

/-! ## The view -/

/-- What of a station the gateways are about: which client has which address, and which
one is found by it; the headers of the clients; and for each family the gateway, whether
there is a route or one waits, the station's header and that of the route's rules. -/
@[ext]
structure GwView where
  known : Nat → Addr → Bool
  client : Addr → Option Nat
  header : Nat → IpType → Nat
  gateway : IpType → Option Addr
  active : IpType → Bool
  headerSet : Bool
  waiting : IpType → Bool
  hdrHdlSta : IpType → Nat
  wanRouteHdr : IpType → Option Nat

/-- The gateways named by the routes that were added and not since deleted. -/
def Wanted := IpType → Option Addr

namespace Wanted

def empty : Wanted := fun _ => none

def add (gw : Addr) (want : Wanted) : Wanted := Function.update want gw.ipType (some gw)

def del (ip : IpType) (want : Wanted) : Wanted := Function.update want ip none

variable {gw : Addr} {ip t : IpType} (want : Wanted)

theorem empty_ne_some (a : Addr) : empty ip ≠ some a := (Option.some_ne_none a).symm

@[simp] theorem add_self : want.add gw gw.ipType = some gw := Function.update_self ..

theorem add_of_ne (h : ip ≠ gw.ipType) : want.add gw ip = want ip := Function.update_of_ne h ..

@[simp] theorem del_self : want.del ip ip = none := Function.update_self ..

theorem del_of_ne (h : t ≠ ip) : want.del ip t = want t := Function.update_of_ne h ..

theorem ipType_add {want : Wanted} (h : ∀ ip a, want ip = some a → a.ipType = ip) (ip : IpType)
    (a : Addr) (ha : want.add gw ip = some a) : a.ipType = ip := by
  rcases eq_or_ne ip gw.ipType with rfl | hne
  · rw [add_self] at ha
    exact congrArg Addr.ipType (Option.some.inj ha).symm
  · exact h ip a ((want.add_of_ne hne).symm.trans ha)

theorem ipType_del {want : Wanted} (h : ∀ ip a, want ip = some a → a.ipType = ip) (t : IpType)
    (a : Addr) (ha : want.del ip t = some a) : a.ipType = t := by
  rcases eq_or_ne t ip with rfl | hne
  · rw [del_self] at ha
    exact nomatch ha
  · exact h t a ((want.del_of_ne hne).symm.trans ha)

end Wanted

namespace GwView

/-- The rules are added, or the route waits. -/
def routeAdd (ip : IpType) (v : GwView) : GwView :=
  if v.headerSet then
    { v with
      active := Function.update v.active ip true
      wanRouteHdr := Function.update v.wanRouteHdr ip (some (v.hdrHdlSta ip)) }
  else { v with waiting := Function.update v.waiting ip true }

/-- The headers of a client become those of the station. -/
def take (n : Nat) (v : GwView) : GwView :=
  { v with headerSet := true, hdrHdlSta := v.header n }

def find (ip : IpType) (v : GwView) : GwView × Bool :=
  match v.gateway ip with
  | none => (v, true)
  | some a =>
    match v.client a with
    | none => (v, false)
    | some n => (v.take n, true)

/-- A route that waits is added. -/
def install (ip : IpType) (v : GwView) : GwView :=
  if v.waiting ip then v.routeAdd ip else v

def staHeader (v : GwView) : GwView :=
  if v.headerSet then v
  else
    match v.find .v4 with
    | (v, false) => v
    | (v, true) =>
      match v.find .v6 with
      | (v, false) => v
      | (v, true) => (v.install .v4).install .v6

def setGateway (gw : Addr) (v : GwView) : GwView :=
  { v with gateway := Function.update v.gateway gw.ipType (some gw) }

/-- The route with that gateway is added. -/
def add (gw : Addr) (v : GwView) : GwView :=
  if v.active gw.ipType then v
  else
    let v := (v.setGateway gw).staHeader
    if v.active gw.ipType then v else v.routeAdd gw.ipType

/-- The route of the family is deleted; the IPv4 gateway is forgotten with it. -/
def del (ip : IpType) (v : GwView) : GwView :=
  if v.active ip then
    { v with
      active := Function.update v.active ip false
      wanRouteHdr := Function.update v.wanRouteHdr ip none
      gateway := if ip = .v4 then Function.update v.gateway .v4 none else v.gateway }
  else v

/-- Client `n` has the address `a` too; an IPv4 address replaces the one it had. -/
structure Stores (n : Nat) (a : Addr) (v w : GwView) : Prop where
  known : ∀ k b, w.known k b = true ↔
    if k = n then b = a ∨ v.known n b = true ∧ (a.ipType = .v6 ∨ b.ipType = .v6)
    else v.known k b = true
  header : ∀ k b ip, v.known k b = true → w.header k ip = v.header k ip
  gateway : w.gateway = v.gateway
  active : w.active = v.active
  headerSet : w.headerSet = v.headerSet
  waiting : w.waiting = v.waiting
  hdrHdlSta : w.hdrHdlSta = v.hdrHdlSta
  wanRouteHdr : w.wanRouteHdr = v.wanRouteHdr

/-- No address is stored. -/
structure StoresNone (v w : GwView) : Prop where
  known : w.known = v.known
  header : ∀ k b ip, v.known k b = true → w.header k ip = v.header k ip
  gateway : w.gateway = v.gateway
  active : w.active = v.active
  headerSet : w.headerSet = v.headerSet
  waiting : w.waiting = v.waiting
  hdrHdlSta : w.hdrHdlSta = v.hdrHdlSta
  wanRouteHdr : w.wanRouteHdr = v.wanRouteHdr

/-- A client found has the address, and none is missed. -/
structure Lookup (v : GwView) : Prop where
  found : ∀ {a n}, v.client a = some n → v.known n a = true
  missed : ∀ {a}, v.client a = none → ∀ n, v.known n a = false

/-! ## What is right -/

/-- The rules of a family are installed just while a route is wanted whose gateway is one
of the clients, and have its header. -/
structure Right (v : GwView) (want : Wanted) : Prop where
  installed : ∀ ip hdl, v.wanRouteHdr ip = some hdl →
    ∃ a n, want ip = some a ∧ v.known n a = true ∧ hdl = v.header n ip
  missing : ∀ ip, v.wanRouteHdr ip = none → ∀ a, want ip = some a → ∀ n, v.known n a = false

/-- Before the station has headers, the routes wait: each gateway is noted and is not one
of the clients, or waits behind an IPv4 one that is not. -/
structure Waits (v : GwView) (want : Wanted) : Prop where
  waiting : ∀ ip, v.waiting ip = (v.gateway ip).isSome
  wanted : ∀ ip a, want ip = some a → v.gateway ip = some a
  unknownV4 : ∀ a, v.gateway .v4 = some a → ∀ n, v.known n a = false
  unknownV6 : v.gateway .v4 = none → ∀ a, v.gateway .v6 = some a → ∀ n, v.known n a = false

/-- All that holds of a station along a run. -/
structure Sound (v : GwView) (want : Wanted) : Prop where
  right : v.Right want
  rule : ∀ ip, (v.wanRouteHdr ip).isSome = v.active ip
  active : ∀ ip, v.active ip = true → v.headerSet = true
  waits : v.headerSet = false → v.Waits want
  gateway : ∀ ip a, v.gateway ip = some a → a.ipType = ip
  wanted : ∀ ip a, want ip = some a → a.ipType = ip

/-- What an added route must find. An active one keeps its gateway's header, and with
headers the gateway is the client they are from. Without, an IPv6 gateway is not known
while an IPv4 one is waited for, and an IPv4 gateway that is known finds no IPv6 one that
is. -/
def FindsAdd (gw : Addr) (v : GwView) : Prop :=
  if v.active gw.ipType then
    ∃ n, v.known n gw = true ∧ v.wanRouteHdr gw.ipType = some (v.header n gw.ipType)
  else if v.headerSet then
    ∃ n, v.known n gw = true ∧ v.hdrHdlSta gw.ipType = v.header n gw.ipType
  else
    (∃ n, v.known n gw = true) →
      match gw.ipType with
      | .v4 => ∀ b, v.gateway .v6 = some b → ∀ n, v.known n b = false
      | .v6 => v.gateway .v4 = none

/-- What an address that is stored must find. With headers it is not that of a gateway
still waited for, and does not take the address of the gateway from its client. Without,
it lets the routes go on that are wanted, and no others. -/
def FindsStore (n : Nat) (a : Addr) (v : GwView) (want : Wanted) : Prop :=
  if v.headerSet then
    (∀ ip, v.active ip = false → want ip ≠ some a) ∧
      (a.ipType = .v4 → ∀ b, want .v4 = some b → b ≠ a → v.known n b = true →
        v.wanRouteHdr .v4 ≠ some (v.header n .v4))
  else
    match v.gateway .v4, v.gateway .v6 with
    | some b, gw6 =>
      if a = b then
        want .v4 = some a ∧ gw6 = none ∨
          want .v4 = none ∧ ∃ c, gw6 = some c ∧ ∀ n, v.known n c = false
      else want .v6 ≠ some a
    | none, some b => a = b → want .v6 = some a
    | none, none => True

variable {v w : GwView} {want : Wanted} {a b : Addr} {n : Nat} {ip : IpType}

/-! ## The headers are looked for -/

theorem staHeader_of_headerSet (h : v.headerSet = true) : v.staHeader = v := by
  rw [staHeader, if_pos h]

theorem staHeader_unknownV4 (h : v.headerSet = false) (hgw : v.gateway .v4 = some a)
    (ha : v.client a = none) : v.staHeader = v := by
  simp [staHeader, find, h, hgw, ha]

theorem staHeader_unknownV6 (h : v.headerSet = false) (hgw4 : v.gateway .v4 = none)
    (hgw6 : v.gateway .v6 = some a) (ha : v.client a = none) : v.staHeader = v := by
  simp [staHeader, find, h, hgw4, hgw6, ha]

theorem staHeader_none (h : v.headerSet = false) (hgw : ∀ ip, v.gateway ip = none)
    (hw : ∀ ip, v.waiting ip = false) : v.staHeader = v := by
  simp [staHeader, find, h, hgw, install, hw]

theorem staHeader_stop (h : v.headerSet = false) (hgw4 : v.gateway .v4 = some a)
    (ha : v.client a = some n) (hgw6 : v.gateway .v6 = some b) (hb : v.client b = none) :
    v.staHeader = v.take n := by
  simp [staHeader, find, take, h, hgw4, hgw6, ha, hb]

theorem staHeader_v4 (h : v.headerSet = false) (hgw4 : v.gateway .v4 = some a)
    (ha : v.client a = some n) (hgw6 : v.gateway .v6 = none) :
    v.staHeader = ((v.take n).install .v4).install .v6 := by
  simp [staHeader, find, take, h, hgw4, hgw6, ha]

theorem staHeader_v6 (h : v.headerSet = false) (hgw4 : v.gateway .v4 = none)
    (hgw6 : v.gateway .v6 = some a) (ha : v.client a = some n) :
    v.staHeader = ((v.take n).install .v4).install .v6 := by
  simp [staHeader, find, take, h, hgw4, hgw6, ha]

theorem install_v4 (h4 : v.waiting .v4 = true) (h6 : v.waiting .v6 = false) :
    ((v.take n).install .v4).install .v6 = (v.take n).routeAdd .v4 := by
  simp [install, routeAdd, take, h4, h6]

theorem install_v6 (h4 : v.waiting .v4 = false) (h6 : v.waiting .v6 = true) :
    ((v.take n).install .v4).install .v6 = (v.take n).routeAdd .v6 := by
  simp [install, routeAdd, take, h4, h6]

theorem install_none (h : ∀ ip, v.waiting ip = false) :
    ((v.take n).install .v4).install .v6 = v.take n := by
  simp [install, take, h]

/-! ## Without headers -/

/-- No family has a route, and the gateways are of their families. -/
structure Idle (v : GwView) (want : Wanted) : Prop where
  active : ∀ ip, v.active ip = false
  rule : ∀ ip, v.wanRouteHdr ip = none
  gateway : ∀ ip a, v.gateway ip = some a → a.ipType = ip
  wanted : ∀ ip a, want ip = some a → a.ipType = ip

theorem Sound.idle (h : v.Sound want) (hoff : v.headerSet = false) : v.Idle want := by
  have hidle : ∀ ip, v.active ip = false := fun ip =>
    Bool.eq_false_of_not_eq_true fun hon =>
      Bool.false_ne_true (hoff.symm.trans (h.active ip hon))
  refine ⟨hidle, fun ip => ?_, h.gateway, h.wanted⟩
  have hrule := h.rule ip
  rw [hidle ip] at hrule
  simpa using hrule

theorem Idle.right (h : v.Idle want)
    (hmissing : ∀ ip a, want ip = some a → ∀ n, v.known n a = false) : v.Right want where
  installed ip hdl hrule := by
    rw [h.rule ip] at hrule
    cases hrule
  missing ip _ a ha := hmissing ip a ha

theorem Idle.sound_waits (h : v.Idle want) (hwaits : v.Waits want)
    (hmissing : ∀ ip a, want ip = some a → ∀ n, v.known n a = false) : v.Sound want where
  right := h.right hmissing
  rule ip := by rw [h.rule ip, h.active ip]; rfl
  active ip hon := absurd ((h.active ip).symm.trans hon) Bool.false_ne_true
  waits _ := hwaits
  gateway := h.gateway
  wanted := h.wanted

theorem Idle.sound_take (h : v.Idle want) (n : Nat)
    (hmissing : ∀ ip a, want ip = some a → ∀ n, v.known n a = false) :
    (v.take n).Sound want where
  right := ⟨(h.right hmissing).installed, (h.right hmissing).missing⟩
  rule ip := by
    show (v.wanRouteHdr ip).isSome = v.active ip
    rw [h.rule ip, h.active ip]
    rfl
  active _ _ := rfl
  waits hoff := absurd hoff.symm Bool.false_ne_true
  gateway := h.gateway
  wanted := h.wanted

theorem Idle.sound_routeAdd (h : v.Idle want) (hwant : want ip = some a)
    (hknown : v.known n a = true)
    (hother : ∀ ip' b, ip' ≠ ip → want ip' = some b → ∀ n, v.known n b = false) :
    ((v.take n).routeAdd ip).Sound want := by
  have hadd : (v.take n).routeAdd ip =
      { v.take n with
        active := Function.update v.active ip true
        wanRouteHdr := Function.update v.wanRouteHdr ip (some (v.header n ip)) } := if_pos rfl
  rw [hadd]
  refine ⟨⟨fun ip' hdl hrule => ?_, fun ip' hrule b hb => ?_⟩, fun ip' => ?_, fun _ _ => rfl,
    fun hoff => absurd hoff.symm Bool.false_ne_true, h.gateway, h.wanted⟩
  · rcases eq_or_ne ip' ip with rfl | hne
    · simp only [Function.update_self, Option.some.injEq] at hrule
      exact ⟨a, n, hwant, hknown, hrule.symm⟩
    · simp only [Function.update_of_ne hne, h.rule ip'] at hrule
      cases hrule
  · rcases eq_or_ne ip' ip with rfl | hne
    · simp at hrule
    · exact hother ip' b hne hb
  · rcases eq_or_ne ip' ip with rfl | hne
    · simp
    · simp [Function.update_of_ne hne, h.rule ip', h.active ip']

/-! ## A route is added -/

theorem Idle.setGateway (h : v.Idle want) (gw : Addr) : (v.setGateway gw).Idle (want.add gw) :=
  ⟨h.active, h.rule, Wanted.ipType_add h.gateway, Wanted.ipType_add h.wanted⟩

theorem add_of_waits {gw : Addr} (hact : v.active gw.ipType = false) (hoff : v.headerSet = false)
    (hsta : (v.setGateway gw).staHeader = v.setGateway gw) :
    v.add gw =
      { v.setGateway gw with waiting := Function.update v.waiting gw.ipType true } := by
  have hact' : (v.setGateway gw).active gw.ipType = false := hact
  have hoff' : (v.setGateway gw).headerSet = false := hoff
  rw [add, hact, if_neg Bool.false_ne_true, hsta]
  dsimp only
  rw [hact', if_neg Bool.false_ne_true, routeAdd, hoff', if_neg Bool.false_ne_true]
  rfl

theorem add_of_take {gw : Addr} (hact : v.active gw.ipType = false)
    (hsta : (v.setGateway gw).staHeader = (v.setGateway gw).take n ∨
      (v.setGateway gw).staHeader = ((v.setGateway gw).take n).routeAdd gw.ipType) :
    v.add gw = ((v.setGateway gw).take n).routeAdd gw.ipType := by
  rw [add, hact, if_neg Bool.false_ne_true]
  rcases hsta with hsta | hsta
  · have hact' : ((v.setGateway gw).take n).active gw.ipType = false := hact
    rw [hsta]
    dsimp only
    rw [hact', if_neg Bool.false_ne_true]
  · have hact' : (((v.setGateway gw).take n).routeAdd gw.ipType).active gw.ipType = true := by
      simp [routeAdd, take]
    rw [hsta]
    dsimp only
    rw [hact', if_pos rfl]

theorem Lookup.client_eq_none (h : v.Lookup) (ha : ∀ n, v.known n a = false) :
    v.client a = none := by
  cases hc : v.client a with
  | none => rfl
  | some n => exact absurd ((ha n).symm.trans (h.found hc)) Bool.false_ne_true

theorem Lookup.exists_client (h : v.Lookup) (ha : v.known n a = true) :
    ∃ m, v.client a = some m := by
  cases hc : v.client a with
  | none => exact absurd ((h.missed hc n).symm.trans ha) Bool.false_ne_true
  | some m => exact ⟨m, rfl⟩

theorem Sound.add_unknown {gw : Addr} (h : v.Sound want) (hoff : v.headerSet = false)
    (hgw : ∀ n, v.known n gw = false)
    (hsta : (v.setGateway gw).staHeader = v.setGateway gw) : (v.add gw).Sound (want.add gw) := by
  have hidle := (h.idle hoff).setGateway gw
  have hw := h.waits hoff
  have hself : (v.setGateway gw).gateway gw.ipType = some gw := Function.update_self ..
  have hother : ∀ ip, ip ≠ gw.ipType → (v.setGateway gw).gateway ip = v.gateway ip :=
    fun ip hne => Function.update_of_ne hne ..
  rw [add_of_waits ((h.idle hoff).active _) hoff hsta]
  refine Idle.sound_waits ⟨hidle.active, hidle.rule, hidle.gateway, hidle.wanted⟩
    ⟨fun ip => ?_, fun ip a ha => ?_, fun a ha n => ?_, fun hnone a ha n => ?_⟩
    fun ip a ha n => ?_
  · show Function.update v.waiting gw.ipType true ip = ((v.setGateway gw).gateway ip).isSome
    rcases eq_or_ne ip gw.ipType with rfl | hne
    · rw [hself, Function.update_self]
      rfl
    · rw [hother ip hne, Function.update_of_ne hne]
      exact hw.waiting ip
  · show (v.setGateway gw).gateway ip = some a
    rcases eq_or_ne ip gw.ipType with rfl | hne
    · rw [hself, ← ha, Wanted.add_self]
    · rw [hother ip hne]
      exact hw.wanted ip a ((want.add_of_ne hne).symm.trans ha)
  · show v.known n a = false
    rcases eq_or_ne .v4 gw.ipType with heq | hne
    · have ha' : (v.setGateway gw).gateway .v4 = some a := ha
      rw [heq, hself] at ha'
      exact Option.some.inj ha' ▸ hgw n
    · exact hw.unknownV4 a ((hother .v4 hne).symm.trans ha) n
  · show v.known n a = false
    rcases eq_or_ne .v6 gw.ipType with heq | hne
    · have ha' : (v.setGateway gw).gateway .v6 = some a := ha
      rw [heq, hself] at ha'
      exact Option.some.inj ha' ▸ hgw n
    · rcases eq_or_ne .v4 gw.ipType with heq | hne'
      · have hnone' : (v.setGateway gw).gateway .v4 = none := hnone
        rw [heq, hself] at hnone'
        exact nomatch hnone'
      · exact hw.unknownV6 ((hother .v4 hne').symm.trans hnone) a
          ((hother .v6 hne).symm.trans ha) n
  · show v.known n a = false
    rcases eq_or_ne ip gw.ipType with rfl | hne
    · rw [Wanted.add_self] at ha
      exact Option.some.inj ha ▸ hgw n
    · exact h.right.missing ip ((h.idle hoff).rule ip) a ((want.add_of_ne hne).symm.trans ha) n

theorem Sound.add_known {gw : Addr} (h : v.Sound want) (hoff : v.headerSet = false)
    (hgw : v.known n gw = true)
    (hother : ∀ ip b, ip ≠ gw.ipType → v.gateway ip = some b → ∀ n, v.known n b = false)
    (hsta : (v.setGateway gw).staHeader = (v.setGateway gw).take n ∨
      (v.setGateway gw).staHeader = ((v.setGateway gw).take n).routeAdd gw.ipType) :
    (v.add gw).Sound (want.add gw) := by
  rw [add_of_take ((h.idle hoff).active _) hsta]
  refine ((h.idle hoff).setGateway gw).sound_routeAdd want.add_self hgw fun ip b hne hb => ?_
  exact hother ip b hne
    ((h.waits hoff).wanted ip b ((want.add_of_ne hne).symm.trans hb))

theorem Sound.add_headerSet {gw : Addr} (h : v.Sound want) (hact : v.active gw.ipType = false)
    (hon : v.headerSet = true) (hgw : v.known n gw = true)
    (hhdl : v.hdrHdlSta gw.ipType = v.header n gw.ipType) :
    (v.add gw).Sound (want.add gw) := by
  have hadd : v.add gw =
      { v.setGateway gw with
        active := Function.update v.active gw.ipType true
        wanRouteHdr :=
          Function.update v.wanRouteHdr gw.ipType (some (v.hdrHdlSta gw.ipType)) } := by
    have hon' : (v.setGateway gw).headerSet = true := hon
    have hact' : (v.setGateway gw).active gw.ipType = false := hact
    rw [add, hact, if_neg Bool.false_ne_true, staHeader_of_headerSet hon']
    dsimp only
    rw [hact', if_neg Bool.false_ne_true, routeAdd, hon', if_pos rfl]
    rfl
  rw [hadd]
  refine ⟨⟨fun ip hdl hrule => ?_, fun ip hrule a ha n => ?_⟩, fun ip => ?_, fun _ _ => hon,
    fun hoff => absurd (hon.symm.trans hoff) Bool.noConfusion, Wanted.ipType_add h.gateway,
    Wanted.ipType_add h.wanted⟩
  · rcases eq_or_ne ip gw.ipType with rfl | hne
    · simp only [Function.update_self, Option.some.injEq] at hrule
      exact ⟨gw, n, want.add_self, hgw, hrule.symm.trans hhdl⟩
    · simp only [Function.update_of_ne hne] at hrule
      obtain ⟨a, m, ha, hm, rfl⟩ := h.right.installed ip hdl hrule
      exact ⟨a, m, (want.add_of_ne hne).trans ha, hm, rfl⟩
  · rcases eq_or_ne ip gw.ipType with rfl | hne
    · simp at hrule
    · simp only [Function.update_of_ne hne] at hrule
      exact h.right.missing ip hrule a ((want.add_of_ne hne).symm.trans ha) n
  · rcases eq_or_ne ip gw.ipType with rfl | hne
    · simp
    · simp [Function.update_of_ne hne, h.rule ip]

theorem Sound.add_active {gw : Addr} (h : v.Sound want) (hact : v.active gw.ipType = true)
    (hgw : v.known n gw = true)
    (hrule : v.wanRouteHdr gw.ipType = some (v.header n gw.ipType)) :
    (v.add gw).Sound (want.add gw) := by
  rw [show v.add gw = v from if_pos hact]
  refine ⟨⟨fun ip hdl hip => ?_, fun ip hip a ha m => ?_⟩, h.rule, h.active,
    fun hoff => absurd (hoff.symm.trans (h.active _ hact)) Bool.false_ne_true, h.gateway,
    Wanted.ipType_add h.wanted⟩
  · rcases eq_or_ne ip gw.ipType with rfl | hne
    · exact ⟨gw, n, want.add_self, hgw, Option.some.inj (hip.symm.trans hrule)⟩
    · obtain ⟨a, m, ha, hm, rfl⟩ := h.right.installed ip hdl hip
      exact ⟨a, m, (want.add_of_ne hne).trans ha, hm, rfl⟩
  · rcases eq_or_ne ip gw.ipType with rfl | hne
    · rw [hrule] at hip
      exact nomatch hip
    · exact h.right.missing ip hip a ((want.add_of_ne hne).symm.trans ha) m

theorem Sound.add_v4 {gw : Addr} (h : v.Sound want) (hl : v.Lookup) (hoff : v.headerSet = false)
    (ht : gw.ipType = .v4)
    (hfinds : (∃ n, v.known n gw = true) →
      ∀ b, v.gateway .v6 = some b → ∀ n, v.known n b = false) :
    (v.add gw).Sound (want.add gw) := by
  have hgw4 : (v.setGateway gw).gateway .v4 = some gw := by
    rw [← ht]
    exact Function.update_self ..
  have hne : IpType.v6 ≠ gw.ipType := by simp [ht]
  have hgw6 : (v.setGateway gw).gateway .v6 = v.gateway .v6 := Function.update_of_ne hne ..
  cases hc : v.client gw with
  | none => exact h.add_unknown hoff (hl.missed hc) (staHeader_unknownV4 hoff hgw4 hc)
  | some m =>
    have hfinds := hfinds ⟨m, hl.found hc⟩
    refine h.add_known hoff (hl.found hc) (fun ip b hip hb => ?_) ?_
    · obtain rfl : ip = .v6 := by cases ip with
        | v4 => exact absurd ht.symm hip
        | v6 => rfl
      exact hfinds b hb
    · cases h6 : v.gateway .v6 with
      | none =>
        have hwait6 : v.waiting .v6 = false := by rw [(h.waits hoff).waiting, h6]; rfl
        rw [staHeader_v4 (v := v.setGateway gw) hoff hgw4 hc (hgw6.trans h6), ht]
        cases hwait4 : v.waiting .v4 with
        | false =>
          exact .inl (install_none (v := v.setGateway gw)
            (fun ip => by cases ip with | v4 => exact hwait4 | v6 => exact hwait6))
        | true => exact .inr (install_v4 (v := v.setGateway gw) hwait4 hwait6)
      | some b =>
        exact .inl (staHeader_stop hoff hgw4 hc (hgw6.trans h6)
          (hl.client_eq_none (hfinds b h6)))

theorem Sound.add_v6 {gw : Addr} (h : v.Sound want) (hl : v.Lookup) (hoff : v.headerSet = false)
    (ht : gw.ipType = .v6) (hfinds : (∃ n, v.known n gw = true) → v.gateway .v4 = none) :
    (v.add gw).Sound (want.add gw) := by
  have hgw6 : (v.setGateway gw).gateway .v6 = some gw := by
    rw [← ht]
    exact Function.update_self ..
  have hne : IpType.v4 ≠ gw.ipType := by simp [ht]
  have hgw4 : (v.setGateway gw).gateway .v4 = v.gateway .v4 := Function.update_of_ne hne ..
  cases hc : v.client gw with
  | none =>
    refine h.add_unknown hoff (hl.missed hc) ?_
    cases h4 : v.gateway .v4 with
    | none => exact staHeader_unknownV6 hoff (hgw4.trans h4) hgw6 hc
    | some a =>
      exact staHeader_unknownV4 hoff (hgw4.trans h4)
        (hl.client_eq_none ((h.waits hoff).unknownV4 a h4))
  | some m =>
    have h4 := hfinds ⟨m, hl.found hc⟩
    refine h.add_known hoff (hl.found hc) (fun ip b hip hb => ?_) ?_
    · obtain rfl : ip = .v4 := by cases ip with
        | v4 => rfl
        | v6 => exact absurd ht.symm hip
      rw [h4] at hb
      exact nomatch hb
    · have hwait4 : v.waiting .v4 = false := by rw [(h.waits hoff).waiting, h4]; rfl
      rw [staHeader_v6 (v := v.setGateway gw) hoff (hgw4.trans h4) hgw6 hc, ht]
      cases hwait6 : v.waiting .v6 with
      | false =>
        exact .inl (install_none (v := v.setGateway gw)
          (fun ip => by cases ip with | v4 => exact hwait4 | v6 => exact hwait6))
      | true => exact .inr (install_v6 (v := v.setGateway gw) hwait4 hwait6)

theorem Sound.add {gw : Addr} (h : v.Sound want) (hl : v.Lookup) (hfinds : v.FindsAdd gw) :
    (v.add gw).Sound (want.add gw) := by
  rw [FindsAdd] at hfinds
  split at hfinds
  case isTrue hact =>
    obtain ⟨n, hn, hrule⟩ := hfinds
    exact h.add_active hact hn hrule
  case isFalse hact =>
    have hact := Bool.eq_false_of_not_eq_true hact
    split at hfinds
    case isTrue hon =>
      obtain ⟨n, hn, hhdl⟩ := hfinds
      exact h.add_headerSet hact hon hn hhdl
    case isFalse hoff =>
      have hoff := Bool.eq_false_of_not_eq_true hoff
      cases ht : gw.ipType with
      | v4 => exact h.add_v4 hl hoff ht (by simpa only [ht] using hfinds)
      | v6 => exact h.add_v6 hl hoff ht (by simpa only [ht] using hfinds)

/-! ## A route is deleted -/

theorem Sound.del (h : v.Sound want) (ip : IpType) : (v.del ip).Sound (want.del ip) := by
  rw [GwView.del]
  split
  case isTrue hact =>
    have hon := h.active ip hact
    refine ⟨⟨fun t hdl hrule => ?_, fun t hrule a ha n => ?_⟩, fun t => ?_, fun _ _ => hon,
      fun hoff => absurd (hon.symm.trans hoff) Bool.noConfusion, fun t a ha => ?_,
      Wanted.ipType_del h.wanted⟩
    · rcases eq_or_ne t ip with rfl | hne
      · simp at hrule
      · simp only [Function.update_of_ne hne] at hrule
        obtain ⟨a, n, ha, hn, rfl⟩ := h.right.installed t hdl hrule
        exact ⟨a, n, (want.del_of_ne hne).trans ha, hn, rfl⟩
    · rcases eq_or_ne t ip with rfl | hne
      · simp at ha
      · simp only [Function.update_of_ne hne] at hrule
        exact h.right.missing t hrule a ((want.del_of_ne hne).symm.trans ha) n
    · rcases eq_or_ne t ip with rfl | hne
      · simp
      · simp [Function.update_of_ne hne, h.rule t]
    · dsimp only at ha
      split at ha
      · exact Wanted.ipType_del h.gateway t a ha
      · exact h.gateway t a ha
  case isFalse hact =>
    have hact := Bool.eq_false_of_not_eq_true hact
    refine ⟨⟨fun t hdl hrule => ?_, fun t hrule a ha n => ?_⟩, h.rule, h.active, fun hoff => ?_,
      h.gateway, Wanted.ipType_del h.wanted⟩
    · rcases eq_or_ne t ip with rfl | hne
      · have := h.rule t
        rw [hrule, hact] at this
        exact nomatch this
      · obtain ⟨a, n, ha, hn, rfl⟩ := h.right.installed t hdl hrule
        exact ⟨a, n, (want.del_of_ne hne).trans ha, hn, rfl⟩
    · rcases eq_or_ne t ip with rfl | hne
      · simp at ha
      · exact h.right.missing t hrule a ((want.del_of_ne hne).symm.trans ha) n
    · have hw := h.waits hoff
      refine ⟨hw.waiting, fun t a ha => ?_, hw.unknownV4, hw.unknownV6⟩
      rcases eq_or_ne t ip with rfl | hne
      · simp at ha
      · exact hw.wanted t a ((want.del_of_ne hne).symm.trans ha)

/-! ## An address is stored -/

theorem Sound.storesNone (h : v.Sound want) (hs : StoresNone v w) : w.Sound want := by
  obtain ⟨hknown, hheader, hgateway, hactive, hheaderSet, hwaiting, -, hrule⟩ := hs
  refine ⟨⟨fun ip hdl hip => ?_, fun ip hip a ha n => ?_⟩, fun ip => ?_, fun ip hip => ?_,
    fun hoff => ?_, fun ip a ha => ?_, h.wanted⟩
  · obtain ⟨a, n, ha, hn, rfl⟩ := h.right.installed ip hdl (hrule ▸ hip)
    exact ⟨a, n, ha, hknown ▸ hn, (hheader n a ip hn).symm⟩
  · rw [hknown]
    exact h.right.missing ip (hrule ▸ hip) a ha n
  · rw [hrule, hactive]
    exact h.rule ip
  · rw [hheaderSet]
    exact h.active ip (hactive ▸ hip)
  · have hw := h.waits (hheaderSet ▸ hoff)
    refine ⟨?_, ?_, ?_, ?_⟩
    · rw [hwaiting, hgateway]
      exact hw.waiting
    · rw [hgateway]
      exact hw.wanted
    · rw [hgateway, hknown]
      exact hw.unknownV4
    · rw [hgateway, hknown]
      exact hw.unknownV6
  · exact h.gateway ip a (hgateway ▸ ha)

theorem Stores.unknown (hs : Stores n a v w) (hne : b ≠ a) (hb : ∀ k, v.known k b = false)
    (k : Nat) : w.known k b = false := by
  refine Bool.eq_false_of_not_eq_true fun hk => ?_
  have := (hs.known k b).mp hk
  split at this
  · rcases this with rfl | ⟨hn, -⟩
    · exact hne rfl
    · exact Bool.false_ne_true ((hb n).symm.trans hn)
  · exact Bool.false_ne_true ((hb k).symm.trans this)

theorem Stores.known_self (hs : Stores n a v w) : w.known n a = true := by
  rw [hs.known, if_pos rfl]
  exact .inl rfl

theorem Stores.idle (hs : Stores n a v w) (h : v.Idle want) : w.Idle want := by
  refine ⟨fun ip => ?_, fun ip => ?_, fun ip a => ?_, h.wanted⟩
  · rw [hs.active]
    exact h.active ip
  · rw [hs.wanRouteHdr]
    exact h.rule ip
  · rw [hs.gateway]
    exact h.gateway ip a

theorem Sound.stores_headerSet (h : v.Sound want) (hs : Stores n a v w) (hon : v.headerSet = true)
    (hnew : ∀ ip, v.active ip = false → want ip ≠ some a)
    (hold : a.ipType = .v4 → ∀ b, want .v4 = some b → b ≠ a → v.known n b = true →
      v.wanRouteHdr .v4 ≠ some (v.header n .v4)) :
    w.staHeader.Sound want := by
  have hon' : w.headerSet = true := hs.headerSet.trans hon
  rw [staHeader_of_headerSet hon']
  refine ⟨⟨fun ip hdl hip => ?_, fun ip hip b hb k => ?_⟩, fun ip => ?_, fun _ _ => hon',
    fun hoff => absurd (hon'.symm.trans hoff) Bool.noConfusion, fun ip b hb => ?_, h.wanted⟩
  · rw [hs.wanRouteHdr] at hip
    obtain ⟨b, m, hb, hm, rfl⟩ := h.right.installed ip hdl hip
    refine ⟨b, m, hb, ?_, (hs.header m b ip hm).symm⟩
    rw [hs.known]
    split
    case isTrue heq =>
      rcases eq_or_ne b a with rfl | hne
      · exact .inl rfl
      refine .inr ⟨heq ▸ hm, ?_⟩
      cases ht : b.ipType with
      | v6 => exact .inr rfl
      | v4 =>
        refine .inl ?_
        obtain rfl : ip = .v4 := (h.wanted ip b hb).symm.trans ht
        cases hta : a.ipType with
        | v6 => rfl
        | v4 => exact absurd (heq ▸ hip) (hold hta b hb hne (heq ▸ hm))
    case isFalse => exact hm
  · rw [hs.wanRouteHdr] at hip
    have hact : v.active ip = false := by
      rw [← h.rule ip, hip]
      rfl
    exact hs.unknown (fun heq => hnew ip hact (heq ▸ hb)) (h.right.missing ip hip b hb) k
  · rw [hs.wanRouteHdr, hs.active]
    exact h.rule ip
  · rw [hs.gateway] at hb
    exact h.gateway ip b hb

theorem Sound.stores_waits (h : v.Sound want) (hs : Stores n a v w) (hoff : v.headerSet = false)
    (h4 : v.gateway .v4 ≠ some a) (h6 : v.gateway .v4 = none → v.gateway .v6 ≠ some a)
    (hnew : ∀ ip, want ip ≠ some a) : w.Sound want := by
  have hw := h.waits hoff
  refine (hs.idle (h.idle hoff)).sound_waits ⟨fun ip => ?_, fun ip b hb => ?_, fun b hb => ?_,
    fun hnone b hb => ?_⟩ fun ip b hb => ?_
  · rw [hs.waiting, hs.gateway]
    exact hw.waiting ip
  · rw [hs.gateway]
    exact hw.wanted ip b hb
  · rw [hs.gateway] at hb
    exact hs.unknown (fun heq => h4 (heq ▸ hb)) (hw.unknownV4 b hb)
  · rw [hs.gateway] at hb hnone
    exact hs.unknown (fun heq => h6 hnone (heq ▸ hb)) (hw.unknownV6 hnone b hb)
  · exact hs.unknown (fun heq => hnew ip (heq ▸ hb))
      (h.right.missing ip ((h.idle hoff).rule ip) b hb)

theorem Sound.stores_v4 (h : v.Sound want) (hs : Stores n a v w) (hl : w.Lookup)
    (hoff : v.headerSet = false) (h4 : v.gateway .v4 = some b)
    (hfinds : if a = b then
        want .v4 = some a ∧ v.gateway .v6 = none ∨
          want .v4 = none ∧ ∃ c, v.gateway .v6 = some c ∧ ∀ n, v.known n c = false
      else want .v6 ≠ some a) :
    w.staHeader.Sound want := by
  have hw := h.waits hoff
  have hoff' : w.headerSet = false := hs.headerSet.trans hoff
  have h4' : w.gateway .v4 = some b := hs.gateway ▸ h4
  split at hfinds
  case isTrue heq =>
    obtain rfl := heq
    obtain ⟨m, hm⟩ := hl.exists_client hs.known_self
    have hidle := hs.idle (h.idle hoff)
    rcases hfinds with ⟨hwant, h6⟩ | ⟨hwant, c, h6, hc⟩
    · have hwait : ∀ ip, w.waiting ip = (v.gateway ip).isSome :=
        fun ip => hs.waiting ▸ hw.waiting ip
      rw [staHeader_v4 hoff' h4' hm (hs.gateway ▸ h6),
        install_v4 (by rw [hwait, h4]; rfl) (by rw [hwait, h6]; rfl)]
      refine hidle.sound_routeAdd hwant (hl.found hm) fun ip x hip hx => ?_
      obtain rfl : ip = .v6 := by cases ip with
        | v4 => exact absurd rfl hip
        | v6 => rfl
      have := hw.wanted .v6 x hx
      rw [h6] at this
      exact nomatch this
    · have hca : c ≠ a := fun heq => by
        have := (h.gateway .v6 c h6).symm.trans (heq ▸ h.gateway .v4 a h4)
        exact nomatch this
      rw [staHeader_stop hoff' h4' hm (hs.gateway ▸ h6)
        (hl.client_eq_none (hs.unknown hca hc))]
      refine hidle.sound_take m fun ip x hx => ?_
      cases ip with
      | v4 =>
        rw [hwant] at hx
        exact nomatch hx
      | v6 =>
        obtain rfl := Option.some.inj ((hw.wanted .v6 x hx).symm.trans h6)
        exact hs.unknown hca hc
  case isFalse hne =>
    have h4a : v.gateway .v4 ≠ some a := fun heq =>
      hne (Option.some.inj (heq.symm.trans h4))
    rw [staHeader_unknownV4 hoff' h4'
      (hl.client_eq_none (hs.unknown (Ne.symm hne) (hw.unknownV4 b h4)))]
    refine h.stores_waits hs hoff h4a (fun hnone => ?_) fun ip => ?_
    · exact absurd (h4.symm.trans hnone) (Option.some_ne_none b)
    · cases ip with
      | v4 => exact fun hwant => h4a (hw.wanted .v4 a hwant)
      | v6 => exact hfinds

theorem Sound.stores_v6 (h : v.Sound want) (hs : Stores n a v w) (hl : w.Lookup)
    (hoff : v.headerSet = false) (h4 : v.gateway .v4 = none) (h6 : v.gateway .v6 = some b)
    (hfinds : a = b → want .v6 = some a) : w.staHeader.Sound want := by
  have hw := h.waits hoff
  have hoff' : w.headerSet = false := hs.headerSet.trans hoff
  have h4' : w.gateway .v4 = none := hs.gateway ▸ h4
  have h6' : w.gateway .v6 = some b := hs.gateway ▸ h6
  have hwant4 : ∀ x, want .v4 ≠ some x := fun x hx => by
    have := hw.wanted .v4 x hx
    rw [h4] at this
    exact nomatch this
  rcases eq_or_ne a b with rfl | hne
  · have hwait : ∀ ip, w.waiting ip = (v.gateway ip).isSome :=
      fun ip => hs.waiting ▸ hw.waiting ip
    obtain ⟨m, hm⟩ := hl.exists_client hs.known_self
    rw [staHeader_v6 hoff' h4' h6' hm,
      install_v6 (by rw [hwait, h4]; rfl) (by rw [hwait, h6]; rfl)]
    refine (hs.idle (h.idle hoff)).sound_routeAdd (hfinds rfl) (hl.found hm)
      fun ip x hip hx => ?_
    cases ip with
    | v4 => exact absurd hx (hwant4 x)
    | v6 => exact absurd rfl hip
  · have h6a : v.gateway .v6 ≠ some a := fun heq =>
      hne (Option.some.inj (heq.symm.trans h6))
    rw [staHeader_unknownV6 hoff' h4' h6'
      (hl.client_eq_none (hs.unknown (Ne.symm hne) (hw.unknownV6 h4 b h6)))]
    refine h.stores_waits hs hoff (by simp [h4]) (fun _ => h6a) fun ip => ?_
    cases ip with
    | v4 => exact hwant4 a
    | v6 => exact fun hwant => h6a (hw.wanted .v6 a hwant)

theorem Sound.stores (h : v.Sound want) (hs : Stores n a v w) (hl : w.Lookup)
    (hfinds : v.FindsStore n a want) : w.staHeader.Sound want := by
  rw [FindsStore] at hfinds
  split at hfinds
  case isTrue hon => exact h.stores_headerSet hs hon hfinds.1 hfinds.2
  case isFalse hoff =>
    have hoff := Bool.eq_false_of_not_eq_true hoff
    split at hfinds
    case h_1 h4 => exact h.stores_v4 hs hl hoff h4 hfinds
    case h_2 b h4 h6 => exact h.stores_v6 hs hl hoff h4 h6 hfinds
    case h_3 h4 h6 =>
      have hw := h.waits hoff
      have hnone : ∀ ip, v.gateway ip = none := fun ip => by cases ip <;> assumption
      rw [staHeader_none (hs.headerSet.trans hoff) (fun ip => hs.gateway ▸ hnone ip)
        (fun ip => by rw [hs.waiting, hw.waiting, hnone]; rfl)]
      refine h.stores_waits hs hoff (by simp [h4]) (by simp [h6]) fun ip hwant => ?_
      have := hw.wanted ip a hwant
      rw [hnone] at this
      exact nomatch this

end GwView

end Axon7.Wan
