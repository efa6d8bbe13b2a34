import Axon7.Conntrack.NatApp
import Axon7.Wan.Upstream

/-!
# The NAT's address

An interface posts its IPv4 address with `IPA_HANDLE_WAN_UP` when the default route
comes to it. `IPACM_ConntrackListener` has the NAT table for the address it was told,
until it is told that the WAN is down. An address that changes under the route is not
posted, and a PDN can go without a word about its route.
-/

namespace Axon7.Wan

open Axon7.Lib
open Axon7.Tether (IpType IfaceIpType Addr)
open Axon7.Conntrack (Listener TblReply)

/-! ## The listener -/

/-- What `IPACM_ConntrackListener` takes of an event, if anything. The driver does what
it is asked for, and answers with a table. -/
def Posted.toNat (reply : TblReply) : Posted → Option Conntrack.WanEvent
  | .wanUp .v4 data => some (.up data.ipv4Addr true reply)
  | .wanDown .v4 data => some (.down data.ipv4Addr true)
  | _ => none

/-- The listener gets an event. -/
def hear (l : Listener) (e : Posted) (reply : TblReply) : Listener :=
  match e.toNat reply with
  | some ev => l.step ev
  | none => l

/-- The listener, once it has processed all that was posted. The driver has an answer for
each. -/
def processed (l : Listener) (replies : ℕ → TblReply) (posted : List Posted) : Listener :=
  posted.zipIdx.foldl (fun l e => hear l e.1 (replies e.2)) l

theorem processed_concat (l : Listener) (replies : ℕ → TblReply) (posted : List Posted)
    (e : Posted) :
    processed l replies (posted ++ [e]) =
      hear (processed l replies posted) e (replies posted.length) := by
  rw [processed, List.zipIdx_append, List.foldl_append]
  simp [processed]

/-- The listener was last told that the WAN is up with this address, or that it is not
up. -/
structure Heard (l : Listener) (up : Bool) (addr : BitVec 32) : Prop where
  entries : l.natInst.noEntries = false
  agrees : l.Agrees
  wanUp : l.wanUp = up
  addr : up = true → l.wanIpaddr = addr

namespace Heard

variable {l : Listener} {up : Bool} {addr addr' : BitVec 32} {reply : TblReply}

theorem step_up (h : Heard l up addr) (hne : addr' ≠ 0) (hreply : reply.tbl.isSome = true) :
    Heard (l.step (.up addr' true reply)) true addr' := by
  have hset : ∀ l : Listener, l.natInst.noEntries = false →
      Heard (l.setWanUp addr' reply) true addr' := fun l hl =>
    ⟨Conntrack.NatApp.addTable_noEntries.trans hl, Listener.setWanUp_agrees hreply hl, rfl,
      fun _ => rfl⟩
  rw [Listener.step, Listener.triggerWANUp, if_neg hne]
  split
  · rename_i hup
    split
    · exact hset _ (Listener.triggerWANDown_noEntries.trans h.entries)
    · rename_i heq
      exact ⟨h.entries, h.agrees, hup, fun _ => not_not.mp heq⟩
  · exact hset l h.entries

theorem step_down (h : Heard l true addr) (addr' : BitVec 32) :
    Heard (l.step (.down addr true)) false addr' := by
  have hhdl : l.natInst.natTableHdl ≠ 0 := h.agrees.up.mp h.wanUp
  have haddr : l.natInst.pubIpAddr = addr := (h.agrees.addr hhdl).trans (h.addr rfl)
  have hok : (l.natInst.deleteTable addr true).1 = true := by
    rw [Conntrack.NatApp.deleteTable, if_neg hhdl, if_neg (not_not.mpr haddr), if_pos rfl]
  have hdown : (l.triggerWANDown addr true).wanUp = false := by
    rw [Listener.triggerWANDown]
    dsimp only
    rw [hok, if_pos rfl]
  rw [Listener.step, if_pos h.wanUp]
  exact ⟨Listener.triggerWANDown_noEntries.trans h.entries, h.agrees.down addr true, hdown,
    (by rintro ⟨⟩)⟩

theorem of_down (h : Heard l false addr) (addr' : BitVec 32) : Heard l false addr' :=
  ⟨h.entries, h.agrees, h.wanUp, nofun⟩

theorem table (h : Heard l up addr) : l.natInst.natTableHdl ≠ 0 ↔ up = true := by
  rw [← h.agrees.up, h.wanUp]

theorem pubIpAddr (h : Heard l true addr) : l.natInst.pubIpAddr = addr :=
  (h.agrees.addr (h.table.mpr rfl)).trans (h.addr rfl)

end Heard

theorem heard_init {maxEntries : ℕ} (hsize : maxEntries % 2 ^ 16 ≠ 0) (pre addr : BitVec 32) :
    Heard (.init (.new maxEntries pre)) false addr where
  entries := by simpa [Listener.init, Conntrack.NatApp.new, Conntrack.NatApp.noEntries] using hsize
  agrees := ⟨by simp [Listener.init, Conntrack.NatApp.new], fun hne => absurd rfl hne⟩
  wanUp := rfl
  addr := nofun

/-! ## The interface -/

theorem of_update_true {f : IpType → Bool} {ip ip' : IpType}
    (h : Function.update f ip true ip' = true) : ip' = ip ∨ f ip' = true := by
  rcases eq_or_ne ip' ip with heq | hne
  · exact .inl heq
  · exact .inr (by rwa [Function.update_of_ne hne] at h)

theorem of_update_false {f : IpType → Bool} {ip ip' : IpType}
    (h : Function.update f ip false ip' = true) : f ip' = true := by
  rcases eq_or_ne ip' ip with rfl | hne
  · simp at h
  · rwa [Function.update_of_ne hne] at h

/-- What of an instance its IPv4 address and route are about. -/
structure AddrView where
  conf : Conf
  ipType : IfaceIpType
  wanV4Addr : BitVec 32
  active : IpType → Bool
  headerSet : IpType → Bool
  headerPartialDefaultWan : IpType → Bool
  isDefaultGateway : Bool

def Iface.addrView (i : Iface) : AddrView where
  conf := i.conf
  ipType := i.ipType
  wanV4Addr := i.wanV4Addr
  active := i.active
  headerSet := i.headerSet
  headerPartialDefaultWan := i.headerPartialDefaultWan
  isDefaultGateway := i.isDefaultGateway

/-- The listener follows an instance: it was last told what is so. A route, present or
waiting for a header, has an address; with IPv4 alone an active instance is the default
gateway. -/
structure Follows (l : Listener) (v : AddrView) : Prop where
  heard : Heard l (v.active .v4) v.wanV4Addr
  tx : v.ipType ≠ .null → v.conf.tx ≠ [] ∧ v.conf.rx ≠ []
  addr : v.ipType.has .v4 = true → v.wanV4Addr ≠ 0
  active : ∀ ip, v.active ip = true → v.ipType.has ip = true
  waiting : ∀ ip, v.headerPartialDefaultWan ip = true →
    v.ipType.has ip = true ∧ v.conf.isSta = true
  header : ∀ ip, v.active ip = true → v.conf.isSta = true → v.headerSet ip = true
  gateway : v.active .v4 = true → v.ipType = .v4 → v.isDefaultGateway = true

namespace Follows

variable {l : Listener} {v : AddrView} {ip : IpType} {reply : TblReply}

theorem tx_of_has (h : Follows l v) (hhas : v.ipType.has ip = true) : v.conf.tx ≠ [] := by
  refine (h.tx fun hnull => ?_).1
  rw [hnull] at hhas
  exact Bool.false_ne_true hhas

theorem rx_of_has (h : Follows l v) (hhas : v.ipType.has ip = true) : v.conf.rx ≠ [] := by
  refine (h.tx fun hnull => ?_).2
  rw [hnull] at hhas
  exact Bool.false_ne_true hhas

theorem setGateway (h : Follows l v) : Follows l { v with isDefaultGateway := true } :=
  ⟨h.heard, h.tx, h.addr, h.active, h.waiting, h.header, fun _ _ => rfl⟩

theorem wait (h : Follows l v) (hhas : v.ipType.has ip = true) (hsta : v.conf.isSta = true) :
    Follows l { v with
      headerPartialDefaultWan := Function.update v.headerPartialDefaultWan ip true } := by
  refine ⟨h.heard, h.tx, h.addr, h.active, fun ip' hw => ?_, h.header, h.gateway⟩
  obtain rfl | hw := of_update_true hw
  · exact ⟨hhas, hsta⟩
  · exact h.waiting ip' hw

theorem setHeader (h : Follows l v) (hoff : v.conf.isSta = true → ∀ ip, v.active ip = false)
    (hs : IpType → Bool) : Follows l { v with headerSet := hs } :=
  ⟨h.heard, h.tx, h.addr, h.active, h.waiting,
    fun ip hon hsta => absurd ((hoff hsta ip).symm.trans hon) Bool.false_ne_true, h.gateway⟩

theorem routeUp (h : Follows l v) (hhas : v.ipType.has ip = true)
    (hheader : v.conf.isSta = true → v.headerSet ip = true)
    (hdft : v.isDefaultGateway = true) {data : IfaceUp}
    (hdata : ip = .v4 → data.ipv4Addr = v.wanV4Addr) (hreply : reply.tbl.isSome = true) :
    Follows (hear l (.wanUp ip data) reply)
      { v with active := Function.update v.active ip true } := by
  have hheard : Heard (hear l (.wanUp ip data) reply) (Function.update v.active ip true .v4)
      v.wanV4Addr := by
    cases ip with
    | v4 =>
      rw [← hdata rfl]
      exact h.heard.step_up (by rw [hdata rfl]; exact h.addr hhas) hreply
    | v6 => exact h.heard
  refine ⟨hheard, h.tx, h.addr, fun ip' hon => ?_, h.waiting, fun ip' hon hsta => ?_,
    fun _ _ => hdft⟩
  · obtain rfl | hon := of_update_true hon
    · exact hhas
    · exact h.active ip' hon
  · obtain rfl | hon := of_update_true hon
    · exact hheader hsta
    · exact h.header ip' hon hsta

theorem routeDown (h : Follows l v) (hon : v.active ip = true) {data : IfaceUp}
    (hdata : ip = .v4 → data.ipv4Addr = v.wanV4Addr) :
    Follows (hear l (.wanDown ip data) reply)
      { v with
        active := Function.update v.active ip false
        isDefaultGateway := false } := by
  have hheard : Heard (hear l (.wanDown ip data) reply)
      (Function.update v.active ip false .v4) v.wanV4Addr := by
    cases ip with
    | v4 =>
      show Heard (l.step (.down data.ipv4Addr true)) false v.wanV4Addr
      rw [hdata rfl]
      have hup := h.heard
      rw [hon] at hup
      exact hup.step_down _
    | v6 => exact h.heard
  refine ⟨hheard, h.tx, h.addr, fun ip' hon' => h.active ip' (of_update_false hon'), h.waiting,
    fun ip' hon' => h.header ip' (of_update_false hon'), fun hon' hv4 => ?_⟩
  -- what is left is the route of the other family, so there are two
  cases ip with
  | v4 => exact absurd hon' Bool.false_ne_true
  | v6 =>
    have hhas := h.active .v6 hon
    rw [show v.ipType = .v4 from hv4] at hhas
    exact absurd hhas Bool.false_ne_true

theorem setV4Addr (h : Follows l v) (htx : v.conf.tx ≠ []) (hrx : v.conf.rx ≠ [])
    {addr : BitVec 32} (hne : addr ≠ 0) (hsame : v.active .v4 = true → addr = v.wanV4Addr) :
    Follows l { v with ipType := v.ipType.config .v4, wanV4Addr := addr } := by
  have hhas : ∀ ip, v.ipType.has ip = true → (v.ipType.config .v4).has ip = true := by
    intro ip hip
    cases hty : v.ipType <;> rw [hty] at hip <;> cases ip <;> first | rfl | exact hip
  refine ⟨⟨h.heard.entries, h.heard.agrees, h.heard.wanUp, fun hon => ?_⟩, fun _ => ⟨htx, hrx⟩,
    fun _ => hne, fun ip hon => hhas ip (h.active ip hon),
    fun ip hw => ⟨hhas ip (h.waiting ip hw).1, (h.waiting ip hw).2⟩, h.header,
    fun hon hv4 => h.gateway hon ?_⟩
  · rw [hsame hon]
    exact h.heard.addr hon
  · have hactive := h.active .v4 hon
    cases hty : v.ipType <;> simp_all [IfaceIpType.config, IfaceIpType.has]

theorem addV6Addr (h : Follows l v) (htx : v.conf.tx ≠ []) (hrx : v.conf.rx ≠ []) :
    Follows l { v with ipType := v.ipType.config .v6 } := by
  have hhas : ∀ ip, v.ipType.has ip = true → (v.ipType.config .v6).has ip = true := by
    intro ip hip
    cases hty : v.ipType <;> rw [hty] at hip <;> cases ip <;> first | rfl | exact hip
  have hback : (v.ipType.config .v6).has .v4 = true → v.ipType.has .v4 = true := by
    cases v.ipType <;> simp [IfaceIpType.config, IfaceIpType.has]
  refine ⟨h.heard, fun _ => ⟨htx, hrx⟩, fun hv4 => h.addr (hback hv4),
    fun ip hon => hhas ip (h.active ip hon),
    fun ip hw => ⟨hhas ip (h.waiting ip hw).1, (h.waiting ip hw).2⟩, h.header,
    fun _ hv4 => ?_⟩
  exfalso
  revert hv4
  cases v.ipType <;> simp [IfaceIpType.config]

end Follows

/-! ## What the handlers do -/

section IpType

variable {alloc : Alloc} (fw : FirewallConf) (i : Iface) (g : Statics) (ip : IpType)

theorem handleRouteAddEvt_ipType : (i.handleRouteAddEvt alloc ip fw g).1.ipType = i.ipType := by
  have hup : ∀ (i : Iface) (g : Statics), (i.routeUp alloc ip fw g).1.ipType = i.ipType := by
    intro i g
    obtain ⟨conf, frag, num, hdl, p, f, m, k, heq⟩ := Iface.routeUp_frame alloc i g ip fw
    rw [heq]
  rw [Iface.handleRouteAddEvt]
  split
  · rfl
  dsimp only
  split
  · split
    · rfl
    · exact hup _ _
  · split
    · rfl
    · exact hup _ _

theorem handleStaHeaderAddEvt_ipType :
    (i.handleStaHeaderAddEvt alloc fw g).1.ipType = i.ipType := by
  have hwaiting : ∀ (j : Iface) (g : Statics) (ip : IpType),
      (if j.headerPartialDefaultWan ip then j.handleRouteAddEvt alloc ip fw g
        else (j, g)).1.ipType = j.ipType := by
    intro j g ip
    split
    · exact handleRouteAddEvt_ipType fw j g ip
    · rfl
  have hgw : ∀ (ip : IpType) (j : Iface), (j.findGateway ip).1.ipType = j.ipType := by
    intro ip j
    obtain ⟨hs, h⟩ := Iface.findGateway_frame ip j
    rw [h]
  rw [Iface.handleStaHeaderAddEvt]
  split
  · rfl
  have hv4 := hgw .v4 i
  split
  · rename_i i' heq
    rwa [heq] at hv4
  · rename_i i' heq
    rw [heq] at hv4
    have hv6 := (hgw .v6 i').trans hv4
    split
    · rename_i i'' heq
      rwa [heq] at hv6
    · rename_i i'' heq
      rw [heq] at hv6
      exact ((hwaiting _ _ .v6).trans (hwaiting _ _ .v4)).trans hv6

end IpType

/-- Neither the instance's address and route nor what was posted is another. -/
structure Quiet (x y : Iface × Statics) : Prop where
  view : y.1.addrView = x.1.addrView
  posted : y.2.posted = x.2.posted

namespace Quiet

variable (alloc : Alloc) {x y z : Iface × Statics}

theorem refl (x : Iface × Statics) : Quiet x x := ⟨rfl, rfl⟩

theorem trans (h : Quiet x y) (h' : Quiet y z) : Quiet x z :=
  ⟨h'.view.trans h.view, h'.posted.trans h.posted⟩

theorem addAt (h : Quiet x y) (ps : List Place) : Quiet x (y.1.addAt alloc ps y.2) := by
  obtain ⟨hdl, k, heq⟩ := Iface.addAt_frame alloc y.1 y.2 ps
  rw [heq]
  exact h.trans ⟨rfl, rfl⟩

theorem initFl (h : Quiet x y) (ip : IpType) : Quiet x (y.1.initFl alloc ip y.2) := by
  obtain ⟨pdn, hdl, num, f, m, k, heq⟩ := Iface.initFl_frame alloc y.1 y.2 ip
  rw [heq]
  exact h.trans ⟨rfl, rfl⟩

theorem ite {p : Prop} [Decidable p] (h : Quiet x y) (h' : Quiet x z) :
    Quiet x (if p then y else z) := by
  split
  · exact h
  · exact h'

theorem addV6Addr (addr : BitVec 128) (i : Iface) (g : Statics) :
    Quiet (i, g)
      (let n := i.ipv6Addr.length
      let x := i.addAt alloc [.dftRtV6 (2 * n), .dftRtV6 (2 * n + 1)] g
      let x := if n = 1 then x.1.initFl alloc .v6 x.2 else x
      let y := x.1.addAt alloc [.ipv6DestFlt x.1.numIpv6DestFltRule] x.2
      let x :=
        if x.1.conf.isSta && Iface.isGlobalIpv6Addr addr &&
            x.1.numIpv6DestFltRule < Tether.maxDftRtV6 then
          ({ y.1 with numIpv6DestFltRule := y.1.numIpv6DestFltRule + 1 }, y.2)
        else x
      let j :=
        if Iface.isGlobalIpv6Addr addr then { x.1 with ipv6Prefix := addr.extractLsb' 64 64 }
        else x.1
      ({ j with ipv6Addr := j.ipv6Addr ++ [addr] }, x.2)) := by
  extract_lets n x₁ x₂ y y₁ x₃ i₃ j
  have h₁ : Quiet (i, g) x₁ := addAt alloc (refl (i, g)) _
  have h₂ : Quiet (i, g) x₂ := ite (initFl alloc h₁ .v6) h₁
  have hy : Quiet (i, g) y := addAt alloc h₂ _
  have h₃ : Quiet (i, g) x₃ := ite (hy.trans ⟨rfl, rfl⟩) h₂
  refine h₃.trans ⟨?_, rfl⟩
  show j.addrView = x₃.1.addrView
  simp only [j]
  split <;> rfl

theorem addV4Addr (addr : BitVec 32) (i : Iface) (g : Statics) :
    Quiet ({ i with wanV4Addr := addr }, g)
      (let g := if i.wanV4AddrSet then i.delAt [.dftRtV4] g else g
      let x := i.addAt alloc [.dftRtV4] g
      let x := if x.1.wanV4AddrSet then x else x.1.initFl alloc .v4 x.2
      ({ x.1 with wanV4Addr := addr, wanV4AddrSet := true },
        if x.1.conf.isSta then x.2 else { x.2 with currWanIp := addr })) := by
  extract_lets g' x₁ x₂
  have hdel : Quiet (i, g) (i, g') := by
    refine ⟨rfl, ?_⟩
    simp only [g']
    split <;> rfl
  have h₁ : Quiet (i, g) x₁ := addAt alloc hdel _
  have h₂ : Quiet (i, g) x₂ := ite h₁ (initFl alloc h₁ .v4)
  refine ⟨?_, ?_⟩
  · show { x₂.1.addrView with wanV4Addr := addr } = { i.addrView with wanV4Addr := addr }
    rw [h₂.view]
  · refine Eq.trans ?_ h₂.posted
    dsimp only
    split <;> rfl

theorem handleV6Addr {i : Iface} {g : Statics} (hprops : ¬ (i.conf.tx = [] ∨ i.conf.rx = []))
    (addr : BitVec 128) :
    Quiet ({ i with ipType := i.ipType.config .v6 }, g) (i.handleAddrEvt alloc (.v6 addr) g) := by
  rw [Iface.handleAddrEvt, if_neg hprops]
  exact ite (refl _) (addV6Addr alloc addr { i with ipType := i.ipType.config .v6 } g)

theorem handleV4Addr {i : Iface} {g : Statics} (hprops : ¬ (i.conf.tx = [] ∨ i.conf.rx = []))
    (addr : BitVec 32) :
    Quiet ({ i with ipType := i.ipType.config .v4, wanV4Addr := addr }, g)
      (i.handleAddrEvt alloc (.v4 addr) g) := by
  rw [Iface.handleAddrEvt, if_neg hprops]
  dsimp only [Addr.ipType]
  split
  · rename_i hold
    rw [Bool.and_eq_true, decide_eq_true_eq] at hold
    rw [hold.2]
    exact refl _
  · exact addV4Addr alloc addr { i with ipType := i.ipType.config .v4 } g

end Quiet

/-- The listener follows an instance, once it has processed what was posted. -/
def Tracked (l : Listener) (replies : ℕ → TblReply) (x : Iface × Statics) : Prop :=
  Follows (processed l replies x.2.posted) x.1.addrView

namespace Tracked

variable {alloc : Alloc} {l : Listener} {replies : ℕ → TblReply} {i i' : Iface}
  {g g' : Statics} {ip : IpType}

theorem congr (h : Tracked l replies (i, g)) (hview : i'.addrView = i.addrView)
    (hposted : g'.posted = g.posted) : Tracked l replies (i', g') := by
  rw [Tracked, hview, hposted]
  exact h

theorem quiet {x y : Iface × Statics} (h : Tracked l replies x) (hq : Quiet x y) :
    Tracked l replies y :=
  h.congr hq.view hq.posted

theorem postEvt {x : Iface × Statics} (h : Tracked l replies x) {e : Posted}
    (he : ∀ reply, e.toNat reply = none) : Tracked l replies (x.1, x.2.postEvt e) := by
  rw [Tracked, Statics.postEvt]
  dsimp only
  rw [processed_concat, hear, he]
  exact h

section Up

variable (hreplies : ∀ n, (replies n).tbl.isSome = true) (fw : FirewallConf)

include hreplies

theorem routeUp (h : Tracked l replies (i, g)) (hhas : i.ipType.has ip = true)
    (hheader : i.conf.isSta = true → i.headerSet ip = true) (hdft : i.isDefaultGateway = true) :
    Tracked l replies (i.routeUp alloc ip fw g) := by
  obtain ⟨conf, frag, num, hdl, p, f, m, k, heq⟩ := Iface.routeUp_frame alloc i g ip fw
  rw [heq, Tracked]
  dsimp only
  rw [processed_concat]
  refine Follows.routeUp h hhas hheader hdft ?_ (hreplies _)
  rintro rfl
  rfl

theorem handleRouteAddEvt (h : Tracked l replies (i, g)) (hhas : i.ipType.has ip = true) :
    Tracked l replies (i.handleRouteAddEvt alloc ip fw g) := by
  have hdft : Tracked l replies ({ i with isDefaultGateway := true }, g) := Follows.setGateway h
  have hup : ∀ g' : Statics, g'.posted = g.posted →
      (i.conf.isSta = true → i.headerSet ip = true) →
      Tracked l replies (Iface.routeUp alloc ip fw { i with isDefaultGateway := true } g') :=
    fun g' hposted hheader => routeUp hreplies fw (hdft.congr rfl hposted) hhas hheader rfl
  have htx : i.conf.tx ≠ [] := Follows.tx_of_has h hhas
  rw [Iface.handleRouteAddEvt, if_neg htx]
  dsimp only
  split
  · rename_i hsta
    split
    · exact Follows.wait hdft hhas hsta
    · rename_i hheader
      exact hup _ rfl fun _ => Bool.eq_true_of_not_eq_false hheader
  · rename_i hsta
    split
    · exact hdft
    · exact hup _ rfl fun hsta' => absurd hsta' hsta

theorem handleStaHeaderAddEvt (h : Tracked l replies (i, g)) :
    Tracked l replies (i.handleStaHeaderAddEvt alloc fw g) := by
  rw [Iface.handleStaHeaderAddEvt]
  split
  · exact h
  rename_i hnone
  have hoff : i.conf.isSta = true → ∀ ip, i.active ip = false := by
    intro hsta ip
    refine Bool.eq_false_of_not_eq_true fun hon => hnone ?_
    have hset : i.headerSet ip = true := Follows.header h ip hon hsta
    cases ip with
    | v4 => rw [hset, Bool.true_or]
    | v6 => rw [hset, Bool.or_true]
  have hheaders : ∀ hs, Tracked l replies ({ i with headerSet := hs }, g) := fun hs =>
    Follows.setHeader h hoff hs
  have hwaiting : ∀ (x : Iface × Statics) (ip : IpType), Tracked l replies x →
      Tracked l replies (if x.1.headerPartialDefaultWan ip then
        x.1.handleRouteAddEvt alloc ip fw x.2 else x) := by
    intro x ip hx
    split
    · rename_i hw
      exact handleRouteAddEvt hreplies fw hx (Follows.waiting hx ip hw).1
    · exact hx
  obtain ⟨hs, hgw⟩ := Iface.findGateway_frame .v4 i
  split
  · rename_i i' heq
    rw [heq] at hgw
    obtain rfl : i' = _ := hgw
    exact hheaders hs
  · rename_i i' heq
    rw [heq] at hgw
    obtain rfl : i' = _ := hgw
    obtain ⟨hs', hgw'⟩ := Iface.findGateway_frame .v6 { i with headerSet := hs }
    split
    · rename_i i' heq
      rw [heq] at hgw'
      obtain rfl : i' = _ := hgw'
      exact hheaders hs'
    · rename_i i' heq
      rw [heq] at hgw'
      obtain rfl : i' = _ := hgw'
      exact hwaiting _ .v6 (hwaiting ({ i with headerSet := hs' }, g) .v4 (hheaders hs'))

theorem handleUpstreamRouteAdd (h : Tracked l replies (i, g)) (u : Upstream) :
    Tracked l replies (i.handleUpstreamRouteAdd alloc u fw g) := by
  rw [Iface.handleUpstreamRouteAdd]
  dsimp only
  split
  · exact h
  rename_i hhas
  have hhas : i.ipType.has u.ipType = true := Bool.eq_true_of_not_eq_false hhas
  split
  · exact h
  refine postEvt (x := if i.active u.ipType = true then (i, g) else _) ?_ fun _ => rfl
  split
  · exact h
  have hset : (i.setGateway u).addrView = i.addrView := by
    cases u with
    | v4 gw => cases gw <;> rfl
    | v6 gw => cases gw <;> rfl
  have hgw : Tracked l replies (if Iface.hasGateway u = true then
      (i.setGateway u).handleStaHeaderAddEvt alloc fw g else (i, g)) ∧
      (if Iface.hasGateway u = true then (i.setGateway u).handleStaHeaderAddEvt alloc fw g
        else (i, g)).1.ipType = i.ipType := by
    split
    · exact ⟨handleStaHeaderAddEvt hreplies fw (h.congr hset rfl),
        (handleStaHeaderAddEvt_ipType fw _ g).trans (congrArg AddrView.ipType hset)⟩
    · exact ⟨h, rfl⟩
  generalize (if Iface.hasGateway u = true then
    (i.setGateway u).handleStaHeaderAddEvt alloc fw g else (i, g)) = x at hgw ⊢
  split
  · exact hgw.1
  · exact handleRouteAddEvt hreplies fw hgw.1 (by rw [hgw.2]; exact hhas)

end Up

/-! ### The route goes -/

theorem handleRouteDelEvt (h : Tracked l replies (i, g)) (hon : i.active ip = true) :
    Tracked l replies (i.handleRouteDelEvt ip g) := by
  have htx : i.conf.tx ≠ [] := Follows.tx_of_has h (Follows.active h ip hon)
  obtain ⟨name, k, heq⟩ := Iface.handleRouteDelEvt_frame i g ip htx hon
  rw [heq, Tracked]
  dsimp only
  rw [processed_concat]
  refine Follows.routeDown h hon ?_
  rintro rfl
  rfl

theorem delDftFirewallRules (h : Tracked l replies (i, g)) (ip : IpType) :
    Tracked l replies (i.delDftFirewallRules ip g) ∧
      (i.delDftFirewallRules ip g).1.active = i.active := by
  obtain ⟨frag, num, k, heq⟩ := Iface.delDftFirewallRules_frame i g ip
  rw [heq]
  exact ⟨h.congr rfl rfl, rfl⟩

theorem leaveRoute (h : Tracked l replies (i, g)) (hon : i.active ip = true) :
    Tracked l replies (i.leaveRoute ip g) := by
  rw [Iface.leaveRoute]
  split
  · obtain ⟨hdel, hact⟩ := h.delDftFirewallRules ip
    exact handleRouteDelEvt hdel ((congrFun hact ip).trans hon)
  · refine handleRouteDelEvt (h.congr rfl ?_) hon
    rw [Statics.installWanFilteringRule]
    split <;> rfl

theorem handleOtherRouteAdd (h : Tracked l replies (i, g)) (ip : IpType) :
    Tracked l replies (i.handleOtherRouteAdd ip g) := by
  have hview : (i.forgetGateway ip).addrView = i.addrView := by cases ip <;> rfl
  rw [Iface.handleOtherRouteAdd]
  split
  · rename_i hon
    exact leaveRoute (h.congr hview rfl)
      ((congrFun (congrArg AddrView.active hview) ip).trans hon)
  · exact h

theorem handleUpstreamRouteDel (h : Tracked l replies (i, g)) (ip : IpType) :
    Tracked l replies (i.handleUpstreamRouteDel ip g) := by
  have hview : (i.forgetGateway ip).addrView = i.addrView := by cases ip <;> rfl
  rw [Iface.handleUpstreamRouteDel]
  split
  · rename_i hon
    have hpost : Tracked l replies (i, i.postWanDownTetherEvt ip g) := h.postEvt fun _ => rfl
    exact leaveRoute (hpost.congr hview rfl)
      ((congrFun (congrArg AddrView.active hview) ip).trans hon)
  · exact h

/-! ### Neighbours, the firewall and addresses -/

theorem handleNeighClientIpAddrAdd (hreplies : ∀ n, (replies n).tbl.isSome = true)
    (h : Tracked l replies (i, g)) (mac : Clients.Mac) (a : Addr) (fw : FirewallConf) :
    Tracked l replies (i.handleNeighClientIpAddrAdd alloc mac a fw g) := by
  rw [Iface.handleNeighClientIpAddrAdd]
  split
  · exact h
  split
  · exact h
  obtain ⟨cs, num, hdl, k, heq⟩ := Iface.handleWanHdrInit_frame alloc i g mac
  rw [heq]
  dsimp only
  split
  · exact h.congr rfl rfl
  · rename_i i' g' hip
    obtain ⟨cs', k', hx⟩ := Iface.handleWanClientIpaddr_frame _ _ mac a hip
    obtain ⟨rfl, rfl⟩ := Prod.mk.inj hx
    obtain ⟨cs'', hdl', k'', hrt⟩ := Iface.handleWanClientRouteRule_frame alloc
      { i with clients := cs', numWanClient := num, hdl := hdl } { g with kernel := k' }
      a.ipType mac
    rw [hrt]
    exact handleStaHeaderAddEvt hreplies fw (h.congr rfl rfl)

theorem handleFirewallChange (h : Tracked l replies (i, g)) (fw : FirewallConf) :
    Tracked l replies (i.handleFirewallChange alloc fw g) := by
  obtain ⟨conf, frag, num, hdl, f, m, k, heq⟩ := Iface.handleFirewallChange_frame alloc i g fw
  rw [heq]
  exact h.congr rfl rfl

theorem handleAddrEvt (h : Tracked l replies (i, g)) {a : Addr} (hne : a.isZero = false)
    (hsame : ∀ addr, a = .v4 addr → i.active .v4 = true → addr = i.wanV4Addr) :
    Tracked l replies (i.handleAddrEvt alloc a g) := by
  by_cases hprops : i.conf.tx = [] ∨ i.conf.rx = []
  · rw [Iface.handleAddrEvt, if_pos hprops]
    exact h
  obtain ⟨htx, hrx⟩ := not_or.mp hprops
  cases a with
  | v4 addr =>
    have hset : Tracked l replies
        ({ i with ipType := i.ipType.config .v4, wanV4Addr := addr }, g) :=
      Follows.setV4Addr h htx hrx (of_decide_eq_false hne) (hsame addr rfl)
    exact hset.quiet (.handleV4Addr alloc hprops addr)
  | v6 addr =>
    have hset : Tracked l replies ({ i with ipType := i.ipType.config .v6 }, g) :=
      Follows.addV6Addr h htx hrx
    exact hset.quiet (.handleV6Addr alloc hprops addr)

end Tracked

/-! ### The link goes down -/

/-- As much of it as is left of an instance that goes: the listener was last told what is
so. -/
def HeardBy (l : Listener) (replies : ℕ → TblReply) (x : Iface × Statics) : Prop :=
  Heard (processed l replies x.2.posted) (x.1.active .v4) x.1.wanV4Addr

/-- The route of the family has left the instance. -/
structure Left (l : Listener) (replies : ℕ → TblReply) (ip : IpType) (i : Iface)
    (x : Iface × Statics) : Prop where
  heard : HeardBy l replies x
  active : x.1.active = Function.update i.active ip false
  conf : x.1.conf = i.conf

section Down

variable {l : Listener} {replies : ℕ → TblReply} {i : Iface} {g g' : Statics} {ip : IpType}

theorem Left.postEvt {x : Iface × Statics} (h : Left l replies ip i x) {e : Posted}
    (he : ∀ reply, e.toNat reply = none) : Left l replies ip i (x.1, x.2.postEvt e) := by
  refine ⟨?_, h.active, h.conf⟩
  rw [HeardBy, Statics.postEvt]
  dsimp only
  rw [processed_concat, hear, he]
  exact h.heard

theorem HeardBy.handleRouteDelEvt (h : HeardBy l replies (i, g)) (htx : i.conf.tx ≠ [])
    (ip : IpType) : Left l replies ip i (i.handleRouteDelEvt ip g) := by
  cases hon : i.active ip with
  | true =>
    obtain ⟨name, k, heq⟩ := Iface.handleRouteDelEvt_frame i g ip htx hon
    rw [heq]
    refine ⟨?_, rfl, rfl⟩
    rw [HeardBy]
    dsimp only
    rw [processed_concat]
    cases ip with
    | v4 =>
      rw [HeardBy, hon] at h
      exact h.step_down _
    | v6 => exact h
  | false =>
    rw [Iface.handleRouteDelEvt, if_neg htx]
    dsimp only
    rw [if_neg (by rw [hon]; exact Bool.false_ne_true)]
    refine ⟨h, ?_, rfl⟩
    rw [← hon, Function.update_eq_self]

theorem HeardBy.downRoute {x : Iface × Statics} (h : HeardBy l replies x)
    (htx : x.1.conf.tx ≠ []) (ip : IpType) : Left l replies ip x.1 (x.1.downRoute ip x.2) := by
  obtain ⟨i, g⟩ := x
  rw [Iface.downRoute]
  split
  · obtain ⟨frag, num, k, heq⟩ := Iface.delDftFirewallRules_frame i g ip
    rw [heq]
    dsimp only
    have hdel : HeardBy l replies
        ({ i with fragInstalled := frag, numFirewall := num }, { g with kernel := k }) := h
    obtain ⟨hheard, hactive, hconf⟩ := hdel.handleRouteDelEvt htx ip
    generalize Iface.handleRouteDelEvt ip _ _ = x at hheard hactive hconf ⊢
    have hleft : Left l replies ip i x := ⟨hheard, hactive, hconf⟩
    exact hleft.postEvt (e := .wanDownTether ip x.1.conf.isSta) fun _ => rfl
  · rename_i hoff
    refine ⟨h, ?_, rfl⟩
    rw [← Bool.eq_false_of_not_eq_true hoff, Function.update_eq_self]

@[simp] theorem installWanFilteringRule_posted (conf : Conf) :
    (g.installWanFilteringRule conf).posted = g.posted := by
  rw [Statics.installWanFilteringRule]
  split <;> rfl

@[simp] theorem clearFltIfLast_posted (conf : Conf) (ip : IpType) :
    (g.clearFltIfLast conf ip).posted = g.posted := by
  rw [Statics.clearFltIfLast]
  split
  · exact installWanFilteringRule_posted conf
  · rfl

@[simp] theorem delAt_posted (ps : List Place) : (i.delAt ps g).posted = g.posted := rfl

@[simp] theorem delDftRtV6_posted : (i.delDftRtV6 g).posted = g.posted := rfl

@[simp] theorem decModemPdn_posted : (g.decModemPdn ip).posted = g.posted := rfl

@[simp] theorem clearDevName_posted (ip : IpType) : (g.clearDevName ip).posted = g.posted := by
  rw [Statics.clearDevName]
  split <;> rfl

theorem HeardBy.downRouteEx {x : Iface × Statics} (h : HeardBy l replies x)
    (htx : x.1.conf.tx ≠ []) (ip : IpType) (tell : Bool) :
    Left l replies ip x.1 (x.1.downRouteEx ip tell x.2) := by
  obtain ⟨i, g⟩ := x
  have hposted : ∀ g' : Statics, g'.posted = g.posted → HeardBy l replies (i, g') := by
    intro g' hg'
    rw [HeardBy, hg']
    exact h
  rw [Iface.downRouteEx]
  dsimp only
  have hdel : ∀ g' : Statics, g'.posted = g.posted →
      Left l replies ip i ((i.handleRouteDelEvt ip g').1,
        (i.handleRouteDelEvt ip g').1.postWanDownTetherEvt ip (i.handleRouteDelEvt ip g').2) :=
    fun g' hg' => ((hposted g' hg').handleRouteDelEvt htx ip).postEvt fun _ => rfl
  refine hdel _ ?_
  split
  · exact installWanFilteringRule_posted i.conf
  · rfl

/-- The instance is gone, and the listener was told. -/
def Gone (l : Listener) (replies : ℕ → TblReply) (g : Statics) : Prop :=
  Heard (processed l replies g.posted) false 0

theorem HeardBy.gone {x : Iface × Statics} (h : HeardBy l replies x)
    (hoff : x.1.active .v4 = false) (hposted : g.posted = x.2.posted) : Gone l replies g := by
  rw [HeardBy, hoff, ← hposted] at h
  exact h.of_down 0

theorem Follows.inactive {v : AddrView} {l : Listener} (h : Follows l v)
    (hty : v.ipType.has ip = false) : v.active ip = false :=
  Bool.eq_false_of_not_eq_true fun hon =>
    Bool.false_ne_true (hty.symm.trans (h.active ip hon))

theorem handleDownEvt_gone (h : Tracked l replies (i, g)) : Gone l replies (i.handleDownEvt g) := by
  have hheard : HeardBy l replies (i, g) := Follows.heard h
  rw [Iface.handleDownEvt]
  split
  · rename_i hnull
    have hoff : i.active .v4 = false :=
      Follows.inactive h (show i.ipType.has .v4 = false by rw [hnull]; rfl)
    exact hheard.gone hoff rfl
  · rename_i hnull
    have htx : i.conf.tx ≠ [] := (Follows.tx h hnull).1
    have hv4 := hheard.downRoute htx .v4
    have hv6 := hv4.heard.downRoute (by rw [hv4.conf]; exact htx) .v6
    dsimp only at hv4 hv6
    refine hv6.heard.gone ?_ ?_
    · rw [hv6.active, hv4.active]
      rfl
    · obtain ⟨k, hk⟩ := Iface.delAll_frame
        ((i.downRoute .v4 g).1.downRoute .v6 (i.downRoute .v4 g).2).1
        ((i.downRoute .v4 g).1.downRoute .v6 (i.downRoute .v4 g).2).2
      dsimp only
      rw [hk]

theorem handleDownEvtEx_gone (h : Tracked l replies (i, g))
    (hon : i.active .v4 = true → i.conf.isEmbms = false ∧ i.isDefaultGateway = true) :
    Gone l replies (i.handleDownEvtEx g) := by
  have hheard : HeardBy l replies (i, g) := Follows.heard h
  have hsilent : ∀ g' : Statics, i.active .v4 = false → g'.posted = g.posted →
      Gone l replies g' := fun g' hoff hg' => hheard.gone hoff hg'
  have hidle : i.conf.isEmbms = true ∨ i.isDefaultGateway = false → i.active .v4 = false := by
    rintro hor
    refine Bool.eq_false_of_not_eq_true fun hv4 => ?_
    obtain ⟨hembms, hdft⟩ := hon hv4
    simp [hembms, hdft] at hor
  have htx : i.ipType ≠ .null → i.conf.tx ≠ [] := fun hnull => (Follows.tx h hnull).1
  have hnone : ∀ ip, i.ipType.has ip = false → i.active ip = false := fun ip hip =>
    Follows.inactive h hip
  have hdown : ∀ (g' : Statics) (ip : IpType) (tell : Bool), i.ipType ≠ .null →
      g'.posted = g.posted → Left l replies ip i (i.downRouteEx ip tell g') := by
    intro g' ip tell hnull hg'
    have hg : HeardBy l replies (i, g') := by
      rw [HeardBy, hg']
      exact hheard
    exact hg.downRouteEx (htx hnull) ip tell
  rw [Iface.handleDownEvtEx]
  split
  · rename_i hembms
    exact hsilent _ (hidle (.inl hembms)) (installWanFilteringRule_posted i.conf)
  dsimp only
  split
  · rename_i hty
    exact hsilent _ (hnone .v4 (by rw [hty]; rfl)) rfl
  · rename_i hty
    split
    · have hv4 := hdown (g.decModemPdn .v4) .v4 true (by rw [hty]; rintro ⟨⟩) rfl
      exact hv4.heard.gone (by rw [hv4.active]; rfl) (by simp)
    · rename_i hdft
      exact hsilent _ (hidle (.inr (Bool.eq_false_of_not_eq_true hdft))) (by simp)
  · rename_i hty
    have hoff : i.active .v4 = false := hnone .v4 (by rw [hty]; rfl)
    have hdec : ∀ p : Prop, ∀ [Decidable p],
        Statics.posted (if p then g.decModemPdn .v6 else g) = g.posted := fun p _ => by
      split <;> rfl
    split
    · have hv6 := hdown (if 1 < i.ipv6Addr.length then g.decModemPdn .v6 else g) .v6 true
        (by rw [hty]; rintro ⟨⟩) (hdec _)
      exact hv6.heard.gone (by rw [hv6.active]; exact hoff) (by simp)
    · exact hsilent _ hoff (by simp [hdec])
  · rename_i hty
    have hdec : ∀ p : Prop, ∀ [Decidable p], Statics.posted
        (if p then (g.decModemPdn .v4).decModemPdn .v6 else g.decModemPdn .v4) = g.posted :=
      fun p _ => by split <;> rfl
    split
    · have hv4 := hdown (if 1 < i.ipv6Addr.length then
        (g.decModemPdn .v4).decModemPdn .v6 else g.decModemPdn .v4) .v4 false
        (by rw [hty]; rintro ⟨⟩) (hdec _)
      have hv6 := hv4.heard.downRouteEx (by rw [hv4.conf]; exact htx (by rw [hty]; rintro ⟨⟩))
        .v6 false
      refine hv6.heard.gone ?_ (by simp)
      rw [hv6.active, hv4.active]
      rfl
    · rename_i hdft
      exact hsilent _ (hidle (.inr (Bool.eq_false_of_not_eq_true hdft))) (by simp [hdec])

theorem handleDownEvtEx_posted (h : i.conf.isEmbms = true ∨ i.isDefaultGateway = false) :
    (i.handleDownEvtEx g).posted = g.posted := by
  rw [Iface.handleDownEvtEx]
  split
  · exact installWanFilteringRule_posted i.conf
  · rename_i hembms
    rw [h.resolve_left hembms]
    dsimp only
    split
    · rfl
    · simp
    · simp only [Bool.false_eq_true, if_false, delDftRtV6_posted, clearFltIfLast_posted]
      split <;> rfl
    · simp only [Bool.false_eq_true, if_false, delDftRtV6_posted, delAt_posted,
        clearFltIfLast_posted]
      split <;> rfl

end Down

/-! ## Runs -/

/-- What an event must find so that the listener is told: no other IPv4 address comes
under the route, and a PDN that goes with the route is the default gateway and not for
EMBMS. -/
def Iface.Reports (i : Iface) : WanEvent → Prop
  | .addrAdd n (.v4 addr) =>
    n = i.conf.ipaIfNum → addr ≠ 0 → i.active .v4 = true → addr = i.wanV4Addr
  | .linkDown n =>
    n = i.conf.ipaIfNum → i.conf.staMode = .q6Wan → i.active .v4 = true →
      i.conf.isEmbms = false ∧ i.isDefaultGateway = true
  | _ => True

section Events

variable (alloc : Alloc) {l : Listener} {replies : ℕ → TblReply} {i : Iface} {g : Statics}

theorem eventCallback_tracked (hreplies : ∀ n, (replies n).tbl.isSome = true)
    (h : Tracked l replies (i, g)) {ev : WanEvent} (hev : i.Reports ev) :
    (∀ i', (i.eventCallback alloc ev g).1 = some i' →
        Tracked l replies (i', (i.eventCallback alloc ev g).2)) ∧
      ((i.eventCallback alloc ev g).1 = none → Gone l replies (i.eventCallback alloc ev g).2) := by
  have hkeep : ∀ x : Iface × Statics, Tracked l replies x →
      (∀ i', some x.1 = some i' → Tracked l replies (i', x.2)) ∧
        (some x.1 = none → Gone l replies x.2) := by
    intro x hx
    refine ⟨fun i' hi' => ?_, fun hnone => absurd hnone (Option.some_ne_none x.1)⟩
    obtain rfl := Option.some.inj hi'
    exact hx
  have hgone : ∀ g' : Statics, Gone l replies g' →
      (∀ i', none = some i' → Tracked l replies (i', g')) ∧
        ((none : Option Iface) = none → Gone l replies g') :=
    fun g' hg' => ⟨fun i' hi' => absurd hi'.symm (Option.some_ne_none i'), fun _ => hg'⟩
  cases ev with
  | addrAdd n a =>
    rw [Iface.eventCallback]
    dsimp only
    split
    · exact hkeep (i, g) h
    rename_i hzero
    split
    · rename_i hown
      refine hkeep _ (h.handleAddrEvt (Bool.eq_false_of_not_eq_true hzero) ?_)
      rintro addr rfl hon
      exact hev hown.1 (fun hz => hzero (decide_eq_true hz)) hon
    · exact hkeep (i, g) h
  | upstreamRouteAdd n u fw =>
    rw [Iface.eventCallback]
    dsimp only
    split
    · exact hkeep _ (Tracked.handleUpstreamRouteAdd hreplies fw h u)
    · exact hkeep _ (h.handleOtherRouteAdd u.ipType)
  | upstreamRouteDel n ip =>
    rw [Iface.eventCallback]
    dsimp only
    split
    · exact hkeep _ (h.handleUpstreamRouteDel ip)
    · exact hkeep (i, g) h
  | neighClientIpAddrAdd n mac a fw =>
    rw [Iface.eventCallback]
    dsimp only
    split
    · exact hkeep _ (Tracked.handleNeighClientIpAddrAdd hreplies h mac a fw)
    · exact hkeep (i, g) h
  | firewallChange fw => exact hkeep _ (h.handleFirewallChange fw)
  | linkDown n =>
    rw [Iface.eventCallback]
    split
    · rename_i hown
      cases hmode : i.conf.staMode with
      | q6Wan => exact hgone _ (handleDownEvtEx_gone h (hev hown hmode))
      | ecmWan => exact hgone _ (handleDownEvt_gone h)
      | wlanWan => exact hkeep (i, g) h
    · exact hkeep (i, g) h
  | wlanLinkDown n =>
    rw [Iface.eventCallback]
    split
    · exact hgone _ (handleDownEvt_gone h)
    · exact hkeep (i, g) h

end Events

namespace World

/-- The NAT table is there just while the interface is active for IPv4, and has its
address. -/
structure NatFollows (w : World) (l : Listener) : Prop where
  table : l.natInst.natTableHdl ≠ 0 ↔ ∃ i ∈ w.ifaces, i.active .v4 = true
  addr : ∀ i ∈ w.ifaces, i.active .v4 = true →
    l.natInst.pubIpAddr = i.wanV4Addr ∧ l.wanIpaddr = i.wanV4Addr

/-- There is one interface, and the listener follows it, or it has gone. -/
def OneTracked (l : Listener) (replies : ℕ → TblReply) (w : World) : Prop :=
  (∃ i, w.ifaces = [i] ∧ Tracked l replies (i, w.statics)) ∨
    w.ifaces = [] ∧ Gone l replies w.statics

variable {alloc : Alloc} {l : Listener} {replies : ℕ → TblReply} {w : World}

theorem OneTracked.natFollows (h : w.OneTracked l replies) :
    w.NatFollows (processed l replies w.statics.posted) := by
  obtain ⟨i, hi, h⟩ | ⟨hnil, h⟩ := h
  · have hheard : Heard (processed l replies w.statics.posted) (i.active .v4) i.wanV4Addr :=
      Follows.heard h
    refine ⟨?_, ?_⟩
    · rw [hheard.table, hi]
      simp
    · rintro j hj hon
      obtain rfl : j = i := by simpa [hi] using hj
      rw [hon] at hheard
      exact ⟨hheard.pubIpAddr, hheard.addr rfl⟩
  · have hheard : Heard (processed l replies w.statics.posted) false 0 := h
    refine ⟨?_, ?_⟩
    · rw [hheard.table, hnil]
      simp
    · rintro j hj
      rw [hnil] at hj
      exact absurd hj List.not_mem_nil

theorem step_single {i : Iface} (ev : WanEvent) (hi : w.ifaces = [i]) :
    w.step alloc ev =
      ⟨(i.eventCallback alloc ev w.statics).1.toList, (i.eventCallback alloc ev w.statics).2⟩ := by
  rw [step, hi]
  simp [deliver]

theorem OneTracked.step (hreplies : ∀ n, (replies n).tbl.isSome = true)
    (h : w.OneTracked l replies) {ev : WanEvent} (hev : ∀ i ∈ w.ifaces, i.Reports ev) :
    (w.step alloc ev).OneTracked l replies := by
  obtain ⟨i, hi, h⟩ | ⟨hnil, h⟩ := h
  · obtain ⟨hsome, hnone⟩ := eventCallback_tracked alloc hreplies h
      (hev i (by rw [hi]; exact List.mem_singleton_self i))
    rw [step_single ev hi]
    cases hcb : (i.eventCallback alloc ev w.statics).1 with
    | some i' => exact .inl ⟨i', rfl, hsome i' hcb⟩
    | none => exact .inr ⟨rfl, hnone hcb⟩
  · refine .inr ?_
    rw [World.step, hnil]
    exact ⟨rfl, h⟩

theorem OneTracked.reports (h : w.OneTracked l replies) {ev : WanEvent}
    (hnat : (w.step alloc ev).NatFollows (processed l replies (w.step alloc ev).statics.posted)) :
    ∀ i ∈ w.ifaces, i.Reports ev := by
  intro i hmem
  obtain ⟨i', hi, h⟩ | ⟨hnil, -⟩ := h
  swap
  · rw [hnil] at hmem
    exact absurd hmem List.not_mem_nil
  obtain rfl : i = i' := by simpa [hi] using hmem
  rw [step_single ev hi] at hnat
  have hheard : i.active .v4 = true →
      Heard (processed l replies w.statics.posted) true i.wanV4Addr := by
    intro hon
    rw [← hon]
    exact Follows.heard h
  cases ev with
  | addrAdd n a =>
    cases a with
    | v6 addr => trivial
    | v4 addr =>
      intro hown hne hon
      have hhas : i.ipType.has .v4 = true := Follows.active h .v4 hon
      have hprops : ¬ (i.conf.tx = [] ∨ i.conf.rx = []) :=
        not_or.mpr ⟨Follows.tx_of_has h hhas, Follows.rx_of_has h hhas⟩
      have hzero : ¬ (Addr.v4 addr).isZero = true := fun hz => hne (of_decide_eq_true hz)
      obtain ⟨hview, hposted⟩ :=
        Quiet.handleV4Addr alloc (i := i) (g := w.statics) hprops addr
      rw [Iface.eventCallback] at hnat
      dsimp only at hnat
      rw [if_neg hzero, if_pos ⟨hown, .inl rfl⟩] at hnat
      have haddr := (hnat.addr _ (List.mem_singleton_self _)
        ((congrFun (congrArg AddrView.active hview) .v4).trans hon)).1
      rw [hposted, (hheard hon).pubIpAddr] at haddr
      exact (haddr.trans (congrArg AddrView.wanV4Addr hview)).symm
  | linkDown n =>
    intro hown hmode hon
    rw [Iface.eventCallback] at hnat
    dsimp only at hnat
    rw [if_pos hown, hmode] at hnat
    by_contra hnot
    have hsilent : (i.handleDownEvtEx w.statics).posted = w.statics.posted := by
      refine handleDownEvtEx_posted ?_
      cases hembms : i.conf.isEmbms <;> simp_all
    have htable := hnat.table.mp
    rw [hsilent] at htable
    obtain ⟨j, hj, -⟩ := htable ((hheard hon).table.mpr rfl)
    exact absurd hj List.not_mem_nil
  | _ => trivial

/-- One interface, before the first event. -/
def single (conf : Conf) (algPorts : List (Nat × Nat)) : World :=
  ⟨[.init conf], .init algPorts⟩

theorem single_oneTracked (conf : Conf) (algPorts : List (Nat × Nat)) {maxEntries : ℕ}
    (hsize : maxEntries % 2 ^ 16 ≠ 0) (pubIpAddrPre : BitVec 32) (replies : ℕ → TblReply) :
    (single conf algPorts).OneTracked (.init (.new maxEntries pubIpAddrPre)) replies :=
  .inl ⟨_, rfl, heard_init hsize pubIpAddrPre _, fun hnull => absurd rfl hnull, nofun, nofun,
    nofun, nofun, nofun⟩

/-- Along a run of one interface the NAT table follows its address, once the listener has
processed what was posted, just if no event finds the interface as it must not. -/
theorem run_natFollows_iff (alloc : Alloc) (conf : Conf) (algPorts : List (Nat × Nat))
    {maxEntries : ℕ} (hsize : maxEntries % 2 ^ 16 ≠ 0) (pubIpAddrPre : BitVec 32)
    {replies : ℕ → TblReply} (hreplies : ∀ n, (replies n).tbl.isSome = true)
    (evs : List WanEvent) :
    (∀ pre, pre <+: evs →
        ((single conf algPorts).run alloc pre).NatFollows
          (processed (.init (.new maxEntries pubIpAddrPre)) replies
            ((single conf algPorts).run alloc pre).statics.posted)) ↔
      ∀ pre ev, pre ++ [ev] <+: evs →
        ∀ i ∈ ((single conf algPorts).run alloc pre).ifaces, i.Reports ev := by
  have hconcat : ∀ pre ev, (single conf algPorts).run alloc (pre ++ [ev]) =
      ((single conf algPorts).run alloc pre).step alloc ev := fun pre ev => List.foldl_concat ..
  refine forall_prefix_iff_of_invariant
    (I := fun pre => ((single conf algPorts).run alloc pre).OneTracked
      (.init (.new maxEntries pubIpAddrPre)) replies)
    (single_oneTracked conf algPorts hsize pubIpAddrPre replies) (fun pre h => h.natFollows)
    (fun pre ev _ h hev => ?_) (fun pre ev _ h hnat => ?_)
  · rw [hconcat]
    exact h.step hreplies hev
  · rw [hconcat] at hnat
    exact h.reports hnat

/-- A PDN with one interface. -/
def lteConf : Conf := ⟨1, "rmnet_data0", .q6Wan, false, false, [.v4, .v6], [1], [1]⟩

/-- The driver makes every table. -/
def grants : ℕ → TblReply := fun _ => ⟨some ⟨1, Nat.one_ne_zero⟩, fun _ => none⟩

/-- The listener, once it has processed what the interface has posted. -/
def lteListener (evs : List WanEvent) : Listener :=
  processed (.init (.new 1 0)) grants ((single lteConf []).run nextHandle evs).statics.posted

/-- The address comes before the route and stays until the route is deleted. -/
def upAndDown : List WanEvent :=
  [.addrAdd 1 (.v4 0x0A000001), .upstreamRouteAdd 1 (.v4 none) .dft, .upstreamRouteDel 1 .v4,
    .addrAdd 1 (.v4 0x0A000002), .linkDown 1]

theorem upAndDown_natFollows :
    ((single lteConf []).run nextHandle (upAndDown.take 2)).NatFollows
        (lteListener (upAndDown.take 2)) ∧
      ((single lteConf []).run nextHandle upAndDown).NatFollows (lteListener upAndDown) := by
  suffices hreports : ∀ pre ev, pre ++ [ev] <+: upAndDown →
      ∀ i ∈ ((single lteConf []).run nextHandle pre).ifaces, i.Reports ev by
    have hfollows : ∀ pre, pre <+: upAndDown →
        ((single lteConf []).run nextHandle pre).NatFollows (lteListener pre) :=
      (run_natFollows_iff nextHandle lteConf [] (by decide) 0 (fun _ => rfl) upAndDown).mpr
        hreports
    exact ⟨hfollows _ (List.take_prefix 2 upAndDown), hfollows _ List.prefix_rfl⟩
  refine forall_concat_of_take fun k hk => ?_
  have hidle : ∀ (w : World), (∀ i ∈ w.ifaces, i.active .v4 = false) →
      ∀ (ev : WanEvent), ∀ i ∈ w.ifaces, i.Reports ev := by
    intro w hoff ev i hi
    have hon : i.active .v4 ≠ true := by simp [hoff i hi]
    cases ev with
    | addrAdd n a =>
      cases a with
      | v4 addr => exact fun _ _ h => absurd h hon
      | v6 addr => trivial
    | linkDown n => exact fun _ _ h => absurd h hon
    | _ => trivial
  have hk : k < 5 := hk
  interval_cases k
  · exact hidle _ (by decide) _
  · exact hidle _ (by decide) _
  · exact fun _ _ => trivial
  · exact hidle _ (by decide) _
  · exact hidle _ (by decide) _

/-- The address changes under the route: the table keeps the old one. -/
theorem changedAddr_not_natFollows :
    let evs := [.addrAdd 1 (.v4 0x0A000001), .upstreamRouteAdd 1 (.v4 none) .dft,
      .addrAdd 1 (.v4 0x0A000002)]
    (lteListener evs).natInst.natTableHdl ≠ 0 ∧
      (lteListener evs).natInst.pubIpAddr = 0x0A000001 ∧
      (∀ i ∈ ((single lteConf []).run nextHandle evs).ifaces,
        i.active .v4 = true ∧ i.wanV4Addr = 0x0A000002) ∧
      ¬ ((single lteConf []).run nextHandle evs).NatFollows (lteListener evs) := by
  have hall : ∀ i ∈ ((single lteConf []).run nextHandle [.addrAdd 1 (.v4 0x0A000001),
      .upstreamRouteAdd 1 (.v4 none) .dft, .addrAdd 1 (.v4 0x0A000002)]).ifaces,
      i.active .v4 = true ∧ i.wanV4Addr = 0x0A000002 := by decide
  refine ⟨by decide, by decide, hall, fun hnat => ?_⟩
  obtain ⟨i, hi, hon⟩ := hnat.table.mp (by decide)
  have haddr := (hnat.addr i hi hon).1.trans (hall i hi).2
  exact absurd haddr (by decide)

end World

end Axon7.Wan
