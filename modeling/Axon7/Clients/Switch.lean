import Axon7.Clients.Owned
import Axon7.Lib.Run

/-!
# The pipe of a routing rule

The rules of a client lead to the pipe of a transmit property, or to its alternate pipe
while the Wi-Fi is on more than one channel. A rule is added for the mode there is at the
time, and `handle_SCC_MCC_switch` is to set all of them anew when the mode changes.
-/

namespace Axon7.Clients

open Axon7.Lib
open Axon7.Tether (IpType Addr)
open Axon7.Conntrack (CtListener)

/-! ## Destinations -/

/-- A transmit property: the family, `dst_pipe` and `alt_dst_pipe`. -/
structure TxProp where
  ip : IpType
  dstPipe : Nat
  altDstPipe : Nat

/-- The families of the properties. -/
def families (props : List TxProp) : List IpType := props.map TxProp.ip

/-- The pipe of the property for the mode. -/
def dstPipe (props : List TxProp) (t : Nat) (isMccMode : Bool) : Nat :=
  match props[t]? with
  | none => 0
  | some p => if isMccMode then p.altDstPipe else p.dstPipe

/-- Where a rule leads to, and the mode it was set in last. -/
structure Dest where
  pipe : Nat
  isMccMode : Bool

/-- The destinations, by handle. -/
abbrev Dests := Res × Nat → Dest

/-- The transmit property of a place. -/
def RtHdl.txIndex : RtHdl → Nat
  | .v4 t | .v6 t _ | .v6Wan t _ => t

/-- A rule for what comes from the backhaul. The others for IPv6 lead to the exception
pipe. -/
def RtHdl.Downlink : RtHdl → Prop
  | .v4 _ | .v6Wan _ _ => True
  | .v6 _ _ => False

/-- What does not change: the transmit properties and `excp_pipe`. -/
structure TxConf where
  props : List TxProp
  excpPipe : Nat

namespace TxConf

def tx (conf : TxConf) : List IpType := families conf.props

/-- The destination of a rule that is added or modified. -/
def dest (conf : TxConf) (isMccMode : Bool) : RtHdl → Dest
  | .v4 t | .v6Wan t _ => ⟨dstPipe conf.props t isMccMode, isMccMode⟩
  | .v6 _ _ => ⟨conf.excpPipe, isMccMode⟩

end TxConf

/-! ## Rules are added -/

namespace Client

variable (alloc : Alloc) (conf : TxConf) (isMccMode : Bool)

/-- `addRtRules`, with the destinations. -/
def addRtRulesTo (hdls : List RtHdl) (c : Client) (k : Kernel) (d : Dests) :
    (Client × Kernel) × Dests :=
  hdls.foldl (fun ((c, k), d) r =>
    let hdl := alloc k (.rt r.ip)
    (({ c with rtHdl := Function.update c.rtHdl r hdl },
      k.add (.rt r.ip, hdl) (c.rtRule r)),
      Function.update d (.rt r.ip, hdl) (conf.dest isMccMode r))) ((c, k), d)

/-- The destinations after `routeRule`. -/
def routeDests (ip : IpType) (c : Client) (k : Kernel) (d : Dests) : Dests :=
  match ip with
  | .v4 =>
    if c.routeRuleSetV4 = false ∧ c.ipv4Set = true then
      (c.addRtRulesTo alloc conf isMccMode (v4Hdls conf.tx) k d).2
    else d
  | .v6 =>
    if c.routeRuleSetV6 < c.ipv6Set then
      let nums := List.range' c.routeRuleSetV6 (c.ipv6Set - c.routeRuleSetV6)
      (c.addRtRulesTo alloc conf isMccMode (v6Hdls conf.tx nums) k d).2
    else d

/-- The destinations after `wake`. -/
def wakeDests (c : Client) (k : Kernel) (d : Dests) : Dests :=
  if c.powerSaveSet then
    let c := { c with powerSaveSet := false }
    let d := if c.ipv4Set then c.routeDests alloc conf isMccMode .v4 k d else d
    let (c, k) := if c.ipv4Set then c.routeRule alloc conf.tx .v4 k else (c, k)
    if c.ipv6Set ≠ 0 then c.routeDests alloc conf isMccMode .v6 k d else d
  else d

/-- The destinations after `addAddr`. -/
def addAddrDests (ipv6Prefix : BitVec 64) (a : Addr) (c : Client) (k : Kernel) (d : Dests) :
    Dests :=
  match c.ipaddr conf.tx ipv6Prefix a k with
  | none => d
  | some (c, k) =>
    if c.powerSaveSet then d else c.routeDests alloc conf isMccMode a.ipType k d

end Client

/-! ## The switch -/

/-- The clients of an interface, with the destinations of the rules. -/
structure Routed where
  iface : Iface
  dest : Dests

namespace Routed

variable (alloc : Alloc) (conf : TxConf)

def init (ct : CtListener) : Routed := ⟨.init ct, fun _ => ⟨0, false⟩⟩

/-- `ModifyRoutingRule`, if it does not fail. -/
def modifyRule (isMccMode : Bool) (c : Client) (s : Routed) (r : RtHdl) : Routed where
  iface := { s.iface with
    kernel := s.iface.kernel.modify (.rt r.ip, c.rtHdl r) (c.rtRule r) }
  dest := Function.update s.dest (.rt r.ip, c.rtHdl r) (conf.dest isMccMode r)

/-- The places `handle_SCC_MCC_switch` goes through for a client. -/
def switchHdls (ip : IpType) (c : Client) : List RtHdl :=
  match ip with
  | .v4 =>
    if c.powerSaveSet || !c.routeRuleSetV4 then [] else v4Hdls conf.tx
  | .v6 =>
    if c.powerSaveSet || c.routeRuleSetV6 < c.ipv6Set then []
    else
      (txOf conf.tx .v6).flatMap fun t =>
        (List.range' c.routeRuleSetV6 (c.ipv6Set - c.routeRuleSetV6)).map (.v6Wan t)

/-- `handle_SCC_MCC_switch`, with no modification failing. -/
def handleSccMccSwitch (isMccMode : Bool) (ip : IpType) (s : Routed) : Routed :=
  (List.range s.iface.numClient).foldl (fun s i =>
    let c := s.iface.clients i
    (switchHdls conf ip c).foldl (modifyRule conf isMccMode c) s) s

/-! ## Events -/

/-- The destinations after an event. -/
def eventDests (isMccMode : Bool) (ev : WlanEvent) (s : Routed) : Dests :=
  if s.iface.isActive then
    match ev with
    | .recover mac _ =>
      match s.iface.clientIndex mac with
      | none => s.dest
      | some i =>
        (s.iface.clients i).wakeDests alloc conf isMccMode s.iface.kernel s.dest
    | .neighIpAddrAdd mac a ipv6Prefix _ _ _ =>
      match s.iface.clientIndex mac with
      | none => s.dest
      | some i =>
        (s.iface.clients i).addAddrDests alloc conf isMccMode ipv6Prefix a
          s.iface.kernel s.dest
    | .clientAdd _ _ | .clientDel _ | .powerSave _ | .resetRt _ | .linkDown => s.dest
  else s.dest

end Routed

/-- An event, or a switch for one of the families, in the mode there is at the time. -/
inductive RoutedEvent
  | wlan (isMccMode : Bool) (ev : WlanEvent)
  | sccMccSwitch (isMccMode : Bool) (ip : IpType)

namespace Routed

variable (alloc : Alloc) (conf : TxConf)

def step (s : Routed) : RoutedEvent → Routed
  | .wlan isMccMode ev =>
    ⟨s.iface.wlanCallback alloc conf.tx ev, s.eventDests alloc conf isMccMode ev⟩
  | .sccMccSwitch isMccMode ip =>
    if s.iface.isActive then s.handleSccMccSwitch conf isMccMode ip else s

def run (s : Routed) (evs : List RoutedEvent) : Routed := evs.foldl (step alloc conf) s

end Routed

/-! ## The pipe of a rule is that of a mode -/

/-- Every rule that is not for the exception pipe leads to the pipe of its property for
the mode it was set in last. -/
def Placed (conf : TxConf) (k : Kernel) (d : Dests) : Prop :=
  ∀ e ∈ k.live, ∀ mac tbl t a h, e.2 = .rtRule mac tbl t a h → tbl ≠ .v6 →
    (d e.1).pipe = dstPipe conf.props t (d e.1).isMccMode

section Placed

variable {alloc : Alloc} {conf : TxConf} {isMccMode : Bool} {c : Client} {k k' : Kernel}
  {d : Dests} {ip : IpType}

theorem dest_placed {r : RtHdl} {mac : Mac} {tbl : RtTbl} {t : Nat} {a : Addr} {h : Nat}
    (hr : c.rtRule r = .rtRule mac tbl t a h) (htbl : tbl ≠ .v6) :
    (conf.dest isMccMode r).pipe =
      dstPipe conf.props t (conf.dest isMccMode r).isMccMode := by
  cases r with
  | v4 t' | v6Wan t' n =>
    obtain rfl : t' = t := by injection hr
    rfl
  | v6 t' n =>
    have heq : RtTbl.v6 = tbl := by injection hr
    exact absurd heq.symm htbl

theorem dest_isMccMode (r : RtHdl) : (conf.dest isMccMode r).isMccMode = isMccMode := by
  cases r <;> rfl

/-- No rule is there that was not; there may be more headers. -/
def NoNewRule (k k' : Kernel) : Prop :=
  ∀ e ∈ k'.live, e ∈ k.live ∨ ∃ mac ip, e.2 = .header mac ip

theorem NoNewRule.refl (k : Kernel) : NoNewRule k k := fun _ he => .inl he

theorem NoNewRule.trans {k'' : Kernel} (h : NoNewRule k k') (h' : NoNewRule k' k'') :
    NoNewRule k k'' := by
  intro e he
  obtain he | hheader := h' e he
  · exact h e he
  · exact .inr hheader

theorem Placed.noNewRule (h : Placed conf k d) (hk : NoNewRule k k') : Placed conf k' d := by
  intro e he mac tbl t a hdl hr htbl
  obtain he | ⟨mac', ip, hheader⟩ := hk e he
  · exact h e he mac tbl t a hdl hr htbl
  · exact nomatch hheader.symm.trans hr

theorem Placed.add (hA : alloc.Grants) (h : Placed conf k d) (c : Client) (r : RtHdl) :
    Placed conf (k.add (.rt r.ip, alloc k (.rt r.ip)) (c.rtRule r))
      (Function.update d (.rt r.ip, alloc k (.rt r.ip)) (conf.dest isMccMode r)) := by
  intro e he mac tbl t a hdl hr htbl
  obtain rfl | he := List.mem_cons.mp he
  · rw [Function.update_self]
    exact dest_placed hr htbl
  · have hne : e.1 ≠ (.rt r.ip, alloc k (.rt r.ip)) := by
      intro heq
      exact hA.fresh k (.rt r.ip) (List.mem_map.mpr ⟨e, he, heq⟩)
    rw [Function.update_of_ne hne]
    exact h e he mac tbl t a hdl hr htbl

end Placed

namespace Client

variable {alloc : Alloc} {conf : TxConf} {isMccMode : Bool} {c : Client} {k k' : Kernel}
  {d : Dests} {ip : IpType}

theorem addRtRulesTo_placed (hA : alloc.Grants) (hdls : List RtHdl) (h : Placed conf k d) :
    Placed conf (c.addRtRules alloc hdls k).2
      (c.addRtRulesTo alloc conf isMccMode hdls k d).2 := by
  induction hdls generalizing c k d with
  | nil => exact h
  | cons r hdls ih => exact ih (h.add hA c r)

theorem routeRule_placed (hA : alloc.Grants) (h : Placed conf k d) :
    Placed conf (c.routeRule alloc conf.tx ip k).2
      (c.routeDests alloc conf isMccMode ip k d) := by
  cases ip with
  | v4 =>
    rw [routeRule, routeDests]
    split
    · exact addRtRulesTo_placed hA _ h
    · exact h
  | v6 =>
    rw [routeRule, routeDests]
    split
    · exact addRtRulesTo_placed hA _ h
    · exact h

theorem wake_placed (hA : alloc.Grants) (h : Placed conf k d) :
    Placed conf (c.wake alloc conf.tx k).2 (c.wakeDests alloc conf isMccMode k d) := by
  rw [wake, wakeDests]
  split
  · dsimp only
    have hv4 : Placed conf
        (if c.ipv4Set then ({ c with powerSaveSet := false } : Client).routeRule alloc
          conf.tx .v4 k else ({ c with powerSaveSet := false }, k)).2
        (if c.ipv4Set then ({ c with powerSaveSet := false } : Client).routeDests alloc
          conf isMccMode .v4 k d else d) := by
      split
      · exact routeRule_placed hA h
      · exact h
    have hv6 : ∀ (ck : Client × Kernel) (d : Dests), Placed conf ck.2 d → Placed conf
        (if ck.1.ipv6Set ≠ 0 then ck.1.routeRule alloc conf.tx .v6 ck.2 else ck).2
        (if ck.1.ipv6Set ≠ 0 then ck.1.routeDests alloc conf isMccMode .v6 ck.2 d else d) := by
      intro ck d hck
      split
      · exact routeRule_placed hA hck
      · exact hck
    exact hv6 _ _ hv4
  · exact h

theorem deleteRtHdls_noNewRule (hdls : List RtHdl) (c : Client) (k : Kernel) :
    NoNewRule k (c.deleteRtHdls hdls k) := by
  induction hdls generalizing k with
  | nil => exact .refl k
  | cons r hdls ih =>
    refine NoNewRule.trans ?_ (ih (deleteRoutingHdl r.ip (c.rtHdl r) k))
    rw [deleteRoutingHdl]
    split
    · exact .refl k
    · exact fun e he => .inl (Pool.mem_of_mem_del he)

theorem deleteRtRules_noNewRule {tx : List IpType} :
    NoNewRule k (c.deleteRtRules tx ip k).2 := by
  cases ip with
  | v4 =>
    rw [deleteRtRules]
    dsimp only
    split
    · exact deleteRtHdls_noNewRule _ c k
    · exact .refl k
  | v6 => exact deleteRtHdls_noNewRule _ c k

theorem ipaddr_noNewRule {tx : List IpType} {ipv6Prefix : BitVec 64} {a : Addr}
    {ck : Client × Kernel} (h : c.ipaddr tx ipv6Prefix a k = some ck) :
    NoNewRule k ck.2 := by
  cases a with
  | v4 addr =>
    rw [ipaddr] at h
    split at h
    · cases h
    split at h
    · cases h
      exact .refl k
    split at h
    · cases h
    · cases h
      have hdel : NoNewRule k (c.deleteRtRules tx .v4 k).2 := deleteRtRules_noNewRule
      exact hdel
  | v6 addr =>
    rw [ipaddr] at h
    split at h
    · cases h
    split at h
    · cases h
    split at h
    · split at h
      · cases h
      · cases h
        exact .refl k
    · cases h

theorem addAddr_placed (hA : alloc.Grants) {ipv6Prefix : BitVec 64} {a : Addr}
    (h : Placed conf k d) :
    Placed conf (c.addAddr alloc conf.tx ipv6Prefix a k).2
      (c.addAddrDests alloc conf isMccMode ipv6Prefix a k d) := by
  rw [addAddr, addAddrDests]
  cases haddr : c.ipaddr conf.tx ipv6Prefix a k with
  | none => exact h
  | some ck =>
    have hck := h.noNewRule (ipaddr_noNewRule haddr)
    dsimp only
    split
    · exact hck
    · exact routeRule_placed hA hck

theorem addHeader_noNewRule {tx : List IpType} (c : Client) (k : Kernel) :
    NoNewRule k (c.addHeader alloc tx ip k).2 := by
  rw [addHeader]
  split
  · intro e he
    obtain rfl | he := List.mem_cons.mp he
    · exact .inr ⟨c.mac, ip, rfl⟩
    · exact .inl he
  · exact .refl k

end Client

/-! ## Events keep the pipes -/

namespace Iface

variable {alloc : Alloc} {tx : List IpType} {s t : Iface} {mac : Mac} {ip : IpType}

theorem handleWlanClientInitEx_noNewRule {attribs : List HdrAttrib} {total : Nat} :
    NoNewRule s.kernel (s.handleWlanClientInitEx alloc tx attribs total).kernel := by
  rw [handleWlanClientInitEx]
  split
  · exact .refl s.kernel
  split
  · exact .refl s.kernel
  have hv4 : NoNewRule s.kernel (Client.addHeader alloc tx .v4
      { s.clients s.numClient with mac := macAttrib attribs (s.clients s.numClient).mac }
      s.kernel).2 := Client.addHeader_noNewRule _ _
  exact hv4.trans (Client.addHeader_noNewRule _ _)

theorem handleWlanClientPwrsave_noNewRule :
    NoNewRule s.kernel (s.handleWlanClientPwrsave tx mac).kernel := by
  cases hf : s.clientIndex mac with
  | none =>
    rw [handleWlanClientPwrsave, hf]
    exact .refl s.kernel
  | some i =>
    rw [(handleWlanClientPwrsave_alike hf).kernel]
    have hsleep : NoNewRule s.kernel ((s.clients i).sleep tx s.kernel).2 := by
      rw [Client.sleep]
      split
      · exact .refl s.kernel
      · have hv4 : NoNewRule s.kernel ((s.clients i).deleteRtRules tx .v4 s.kernel).2 :=
          Client.deleteRtRules_noNewRule
        exact hv4.trans Client.deleteRtRules_noNewRule
    exact hsleep

theorem handleClientResetRt_noNewRule :
    NoNewRule s.kernel (s.handleClientResetRt tx ip).kernel := by
  rw [handleClientResetRt]
  induction List.range s.numClient generalizing s with
  | nil => exact .refl s.kernel
  | cons i l ih =>
    have hdel : NoNewRule s.kernel ((s.clients i).deleteRtRules tx ip s.kernel).2 :=
      Client.deleteRtRules_noNewRule
    exact hdel.trans ih

theorem Owned.handleClientDownEvt_noNewRule (h : s.Owned tx) :
    NoNewRule s.kernel (s.handleClientDownEvt tx mac).kernel := by
  cases hf : s.clientIndex mac with
  | none =>
    rw [Iface.handleClientDownEvt, hf]
    exact .refl s.kernel
  | some i =>
    obtain ⟨ck, -, -, hholds, halike⟩ := h.handleClientDownEvt_alike hf
    have hkernel : (s.handleClientDownEvt tx mac).kernel = ck.2 := halike.kernel
    intro e he
    rw [hkernel, ← Multiset.mem_coe, hholds.owns.live, Multiset.mem_sum] at he
    obtain ⟨j, hj, he⟩ := he
    refine .inl ?_
    rw [← Multiset.mem_coe, h.holds.owns.live, books, Multiset.mem_sum]
    exact ⟨j, Finset.mem_of_mem_erase hj, he⟩

end Iface

namespace Routed

variable {alloc : Alloc} {conf : TxConf} {isMccMode : Bool} {s : Routed} {ip : IpType}

/-- The books are kept, and the rules have their pipes. -/
structure Good (conf : TxConf) (s : Routed) : Prop where
  settled : s.iface.Settled conf.tx
  placed : Placed conf s.iface.kernel s.dest

theorem Good.placed_wlan (hA : alloc.Grants) (h : s.Good conf) (ev : WlanEvent) :
    Placed conf (s.iface.wlanCallback alloc conf.tx ev).kernel
      (s.eventDests alloc conf isMccMode ev) := by
  have hplaced := h.placed
  unfold Iface.wlanCallback eventDests
  obtain howned | ⟨hdown, -⟩ := h.settled
  · rw [if_pos howned.active, if_pos howned.active]
    cases ev with
    | clientAdd attribs total =>
      exact hplaced.noNewRule Iface.handleWlanClientInitEx_noNewRule
    | clientDel mac => exact hplaced.noNewRule howned.handleClientDownEvt_noNewRule
    | powerSave mac => exact hplaced.noNewRule Iface.handleWlanClientPwrsave_noNewRule
    | recover mac resumed =>
      cases hf : s.iface.clientIndex mac with
      | none =>
        dsimp only
        rw [Iface.handleWlanClientRecover, hf]
        exact hplaced
      | some i =>
        dsimp only
        rw [(Iface.handleWlanClientRecover_alike hf).kernel, hf]
        exact Client.wake_placed hA hplaced
    | neighIpAddrAdd mac a ipv6Prefix natIface resumed reply =>
      cases hf : s.iface.clientIndex mac with
      | none =>
        dsimp only
        rw [Iface.handleNeighIpAddrAdd, Iface.handleClientIpaddr, hf]
        exact hplaced
      | some i =>
        dsimp only
        rw [(Iface.handleNeighIpAddrAdd_alike hf).kernel, hf]
        exact Client.addAddr_placed hA hplaced
    | resetRt ip => exact hplaced.noNewRule Iface.handleClientResetRt_noNewRule
    | linkDown =>
      have hnone := howned.cleanClients.owns.live
      intro e he
      rw [← Multiset.mem_coe] at he
      exact absurd (hnone ▸ he) (Multiset.notMem_zero e)
  · have hoff : ¬ s.iface.isActive = true := by
      rw [hdown]
      exact Bool.false_ne_true
    rw [if_neg hoff, if_neg hoff]
    exact hplaced

/-! ## What the switch writes -/

/-- The entry of the rule whose handle is kept at a place. -/
def entry (c : Client) (r : RtHdl) : (Res × Nat) × Item :=
  ((.rt r.ip, c.rtHdl r), c.rtRule r)

theorem entry_mem_live {s : Iface} {tx : List IpType} (h : s.Owned tx) {i : Nat}
    (hi : i < s.numClient) {r : RtHdl} (hr : r ∈ (s.clients i).hdlsInUse tx) :
    entry (s.clients i) r ∈ s.kernel.live := by
  rw [← Multiset.mem_coe, h.holds.owns.live, Iface.books, Multiset.mem_sum]
  refine ⟨i, Finset.mem_range.mpr hi, ?_⟩
  rw [Client.books, Multiset.mem_add]
  exact .inr (Multiset.mem_coe.mpr (List.mem_map.mpr ⟨r, hr, rfl⟩))

/-- The rules that are modified, in turn. -/
def switchWrites (conf : TxConf) (ip : IpType) (s : Iface) : List (Client × RtHdl) :=
  (List.range s.numClient).flatMap fun i =>
    (switchHdls conf ip (s.clients i)).map fun r => (s.clients i, r)

theorem mem_switchHdls_v4 {c : Client} {r : RtHdl} : r ∈ switchHdls conf .v4 c ↔
    c.powerSaveSet = false ∧ c.routeRuleSetV4 = true ∧ r ∈ v4Hdls conf.tx := by
  rw [switchHdls]
  split
  case isTrue hskip =>
    refine iff_of_false List.not_mem_nil fun ⟨hawake, hset, _⟩ => ?_
    rw [hawake, hset] at hskip
    exact absurd hskip Bool.false_ne_true
  case isFalse hgo =>
    rw [Bool.or_eq_true, not_or, Bool.not_eq_true, Bool.not_eq_true', Bool.not_eq_false] at hgo
    exact ⟨fun hr => ⟨hgo.1, hgo.2, hr⟩, fun h => h.2.2⟩

theorem switchHdls_v6 (c : Client) : switchHdls conf .v6 c = [] := by
  rw [switchHdls]
  split
  case isTrue => rfl
  case isFalse hgo =>
    have hnone : c.ipv6Set - c.routeRuleSetV6 = 0 := by
      simp only [Bool.or_eq_true, decide_eq_true_eq, not_or] at hgo
      omega
    rw [hnone]
    exact List.flatMap_eq_nil_iff.mpr fun t _ => rfl

theorem switchHdls_subset {c : Client} {r : RtHdl} (hr : r ∈ switchHdls conf ip c) :
    r ∈ c.hdlsInUse conf.tx := by
  cases ip with
  | v4 =>
    obtain ⟨-, hset, hr⟩ := mem_switchHdls_v4.mp hr
    rw [Client.hdlsInUse, if_pos hset]
    exact List.mem_append_left _ hr
  | v6 =>
    rw [switchHdls_v6] at hr
    exact absurd hr List.not_mem_nil

theorem mem_switchWrites {s : Iface} {p : Client × RtHdl} :
    p ∈ switchWrites conf ip s ↔
      ∃ i < s.numClient, p.1 = s.clients i ∧ p.2 ∈ switchHdls conf ip (s.clients i) := by
  rw [switchWrites, List.mem_flatMap]
  refine exists_congr fun i => and_congr List.mem_range ?_
  rw [List.mem_map]
  constructor
  · intro ⟨r, hr, heq⟩
    rw [← heq]
    exact ⟨rfl, hr⟩
  · intro ⟨hc, hr⟩
    exact ⟨p.2, hr, Prod.ext hc.symm rfl⟩

theorem foldl_modifyRule {s : Iface} (hkeyed : s.kernel.Keyed) {c : Client}
    {hdls : List RtHdl} (hlive : ∀ r ∈ hdls, entry c r ∈ s.kernel.live) (d : Dests) :
    hdls.foldl (modifyRule conf isMccMode c) ⟨s, d⟩ =
      ⟨s, hdls.foldl (fun d r =>
        Function.update d (entry c r).1 (conf.dest isMccMode r)) d⟩ := by
  induction hdls generalizing d with
  | nil => rfl
  | cons r hdls ih =>
    have hmodify : modifyRule conf isMccMode c ⟨s, d⟩ r =
        ⟨s, Function.update d (entry c r).1 (conf.dest isMccMode r)⟩ := by
      rw [modifyRule, hkeyed.modify_eq (hlive r List.mem_cons_self)]
      rfl
    rw [List.foldl_cons, List.foldl_cons, hmodify]
    exact ih (fun r' hr' => hlive r' (List.mem_cons_of_mem _ hr')) _

theorem handleSccMccSwitch_eq (h : s.iface.Owned conf.tx) :
    s.handleSccMccSwitch conf isMccMode ip =
      ⟨s.iface, (switchWrites conf ip s.iface).foldl (fun d p =>
        Function.update d (entry p.1 p.2).1 (conf.dest isMccMode p.2)) s.dest⟩ := by
  have hall : ∀ l : List Nat, (∀ i ∈ l, i < s.iface.numClient) →
      l.foldl (fun s i => (switchHdls conf ip (s.iface.clients i)).foldl
        (modifyRule conf isMccMode (s.iface.clients i)) s) s =
      ⟨s.iface, (l.flatMap fun i => (switchHdls conf ip (s.iface.clients i)).map fun r =>
        (s.iface.clients i, r)).foldl (fun d p =>
          Function.update d (entry p.1 p.2).1 (conf.dest isMccMode p.2)) s.dest⟩ := by
    intro l hl
    induction l using List.reverseRecOn with
    | nil => rfl
    | append_singleton l i ih =>
      have ih := ih fun j hj => hl j (List.mem_append_left _ hj)
      have hi := hl i List.mem_concat_self
      rw [List.foldl_concat, ih, List.flatMap_append, List.foldl_append]
      dsimp only
      rw [foldl_modifyRule h.holds.owns.nodup fun r hr =>
        entry_mem_live h hi (switchHdls_subset hr)]
      rw [List.flatMap_singleton, List.foldl_map]
  exact hall _ fun i hi => List.mem_range.mp hi

theorem handleSccMccSwitch_dest (isMccMode : Bool) (ip : IpType)
    (h : s.iface.Owned conf.tx) (x : Res × Nat) :
    (∀ p ∈ switchWrites conf ip s.iface, (entry p.1 p.2).1 ≠ x) ∧
        (s.handleSccMccSwitch conf isMccMode ip).dest x = s.dest x ∨
      ∃ p ∈ switchWrites conf ip s.iface, (entry p.1 p.2).1 = x ∧
        (s.handleSccMccSwitch conf isMccMode ip).dest x = conf.dest isMccMode p.2 := by
  rw [handleSccMccSwitch_eq h]
  exact foldl_update_cases _ _ _ _ _

theorem switchWrites_live (h : s.iface.Owned conf.tx) {p : Client × RtHdl}
    (hp : p ∈ switchWrites conf ip s.iface) : entry p.1 p.2 ∈ s.iface.kernel.live := by
  obtain ⟨i, hi, hc, hr⟩ := mem_switchWrites.mp hp
  rw [hc]
  exact entry_mem_live h hi (switchHdls_subset hr)

theorem Good.switch (h : s.Good conf) (howned : s.iface.Owned conf.tx) :
    (s.handleSccMccSwitch conf isMccMode ip).Good conf := by
  have hiface : (s.handleSccMccSwitch conf isMccMode ip).iface = s.iface := by
    rw [handleSccMccSwitch_eq howned]
  refine ⟨by rw [hiface]; exact h.settled, fun e he mac tbl t a hdl hr htbl => ?_⟩
  rw [hiface] at he
  obtain ⟨-, hdest⟩ | ⟨p, hp, hkey, hdest⟩ :=
    handleSccMccSwitch_dest isMccMode ip howned e.1
  · rw [hdest]
    exact h.placed e he mac tbl t a hdl hr htbl
  · have heq := Pool.Keyed.eq_of_fst_eq howned.holds.owns.nodup
      (switchWrites_live howned hp) he hkey
    rw [hdest]
    rw [← heq] at hr
    exact dest_placed hr htbl

theorem Good.step (hA : alloc.Grants) (h : s.Good conf) (ev : RoutedEvent) :
    (s.step alloc conf ev).Good conf := by
  cases ev with
  | wlan isMccMode ev => exact ⟨h.settled.wlanCallback hA ev, h.placed_wlan hA ev⟩
  | sccMccSwitch isMccMode ip =>
    rw [Routed.step]
    split
    case isTrue hactive =>
      obtain howned | ⟨hdown, -⟩ := h.settled
      · exact h.switch howned
      · exact absurd (hactive.symm.trans hdown) nofun
    case isFalse => exact h

theorem init_good (conf : TxConf) (ct : CtListener) : (init ct).Good conf :=
  ⟨.inl (Iface.init_owned conf.tx ct), fun _ he => absurd he List.not_mem_nil⟩

theorem run_good (hA : alloc.Grants) (conf : TxConf) (ct : CtListener)
    (evs : List RoutedEvent) : ((init ct).run alloc conf evs).Good conf :=
  foldl_invariant (Good conf) (fun _ => True) (fun _ ev h _ => h.step hA ev)
    (init_good conf ct) evs fun _ _ => trivial

/-! ## Which rules it retargets -/

/-- A rule of a client that does not save power is in the kernel, of the family, and for
what comes from the backhaul. -/
structure AwakeRule (conf : TxConf) (s : Iface) (ip : IpType) (i : Nat) (r : RtHdl) :
    Prop where
  client : i < s.numClient
  awake : (s.clients i).powerSaveSet = false
  inUse : r ∈ (s.clients i).hdlsInUse conf.tx
  live : entry (s.clients i) r ∈ s.kernel.live
  ip : r.ip = ip
  downlink : r.Downlink

/-- Every such rule is still there with its address and its header, and leads to the pipe
of its transmit property for the mode. -/
def Retargets (conf : TxConf) (isMccMode : Bool) (ip : IpType) (s s' : Routed) : Prop :=
  ∀ i r, AwakeRule conf s.iface ip i r →
    entry (s.iface.clients i) r ∈ s'.iface.kernel.live ∧
      (s'.dest (entry (s.iface.clients i) r).1).pipe =
        dstPipe conf.props r.txIndex isMccMode

/-- The pipe of the property for the mode in which the rule was set last is that for the
mode there is now. -/
def SamePipe (conf : TxConf) (isMccMode : Bool) (s : Routed) (i : Nat) (r : RtHdl) : Prop :=
  dstPipe conf.props r.txIndex (s.dest (entry (s.iface.clients i) r).1).isMccMode =
    dstPipe conf.props r.txIndex isMccMode

theorem rtRule_downlink (c : Client) {r : RtHdl} (hr : r.Downlink) :
    ∃ tbl a h, c.rtRule r = .rtRule c.mac tbl r.txIndex a h ∧ tbl ≠ .v6 := by
  cases r with
  | v4 t => exact ⟨_, _, _, rfl, nofun⟩
  | v6 t n => exact absurd hr id
  | v6Wan t n => exact ⟨_, _, _, rfl, nofun⟩

theorem retargets_v4 (h : s.iface.Owned conf.tx) :
    Retargets conf isMccMode .v4 s (s.handleSccMccSwitch conf isMccMode .v4) := by
  intro i r hr
  have hiface : (s.handleSccMccSwitch conf isMccMode .v4).iface = s.iface := by
    rw [handleSccMccSwitch_eq h]
  refine ⟨by rw [hiface]; exact hr.live, ?_⟩
  have hwritten : (s.iface.clients i, r) ∈ switchWrites conf .v4 s.iface := by
    refine mem_switchWrites.mpr ⟨i, hr.client, rfl, mem_switchHdls_v4.mpr ⟨hr.awake, ?_⟩⟩
    have huse := hr.inUse
    rw [Client.hdlsInUse, List.mem_append] at huse
    obtain huse | huse := huse
    · split at huse
      case isTrue hset => exact ⟨hset, huse⟩
      case isFalse => exact absurd huse List.not_mem_nil
    · obtain ⟨t, -, n, -, heq | heq⟩ := mem_v6Hdls.mp huse
      all_goals
        rw [heq] at hr
        cases hr.ip
  obtain ⟨hnone, -⟩ | ⟨p, hp, hkey, hdest⟩ := handleSccMccSwitch_dest
      isMccMode .v4 h (entry (s.iface.clients i) r).1
  · exact absurd rfl (hnone _ hwritten)
  · -- the handle is that of one rule only
    have heq := Pool.Keyed.eq_of_fst_eq h.holds.owns.nodup (switchWrites_live h hp) hr.live hkey
    have hrule : p.1.rtRule p.2 = (s.iface.clients i).rtRule r := congrArg Prod.snd heq
    obtain ⟨tbl, a, hdl, hkind, htbl⟩ := rtRule_downlink (s.iface.clients i) hr.downlink
    have hpipe : (conf.dest isMccMode p.2).pipe =
        dstPipe conf.props r.txIndex (conf.dest isMccMode p.2).isMccMode :=
      dest_placed (hrule.trans hkind) htbl
    rw [dest_isMccMode] at hpipe
    rw [hdest]
    exact hpipe

theorem handleSccMccSwitch_v6 (h : s.iface.Owned conf.tx) :
    s.handleSccMccSwitch conf isMccMode .v6 = s := by
  have hnone : switchWrites conf .v6 s.iface = [] := by
    rw [switchWrites]
    refine List.flatMap_eq_nil_iff.mpr fun i _ => ?_
    rw [switchHdls_v6]
    rfl
  rw [handleSccMccSwitch_eq h, hnone]
  rfl

theorem pipe_eq_iff (h : s.Good conf) {i : Nat} {r : RtHdl}
    (hr : AwakeRule conf s.iface ip i r) :
    (s.dest (entry (s.iface.clients i) r).1).pipe = dstPipe conf.props r.txIndex isMccMode ↔
      SamePipe conf isMccMode s i r := by
  obtain ⟨tbl, a, hdl, hkind, htbl⟩ := rtRule_downlink (s.iface.clients i) hr.downlink
  rw [h.placed _ hr.live _ _ _ _ _ hkind htbl, SamePipe]

/-- After any events, a switch retargets the rules of all clients that do not save power
just if it is for IPv4, or the rules have the pipe for the mode already. -/
theorem run_retargets (hA : alloc.Grants) (conf : TxConf) (ct : CtListener)
    (evs : List RoutedEvent) (isMccMode : Bool) (ip : IpType) :
    let s := (init ct).run alloc conf evs
    Retargets conf isMccMode ip s (s.step alloc conf (.sccMccSwitch isMccMode ip)) ↔
      (ip = .v4 ∨ ∀ i r, AwakeRule conf s.iface ip i r → SamePipe conf isMccMode s i r) := by
  intro s
  have hgood : s.Good conf := run_good hA conf ct evs
  rw [step]
  split
  case isFalse hactive =>
    -- nothing is in the kernel
    have hnone : ∀ i r, ¬ AwakeRule conf s.iface ip i r := by
      intro i r hr
      have hempty := hgood.settled.noLeak.down (Bool.eq_false_of_not_eq_true hactive)
      have hlive := hr.live
      rw [hempty] at hlive
      exact List.not_mem_nil hlive
    exact iff_of_true (fun i r hr => absurd hr (hnone i r))
      (.inr fun i r hr => absurd hr (hnone i r))
  case isTrue hactive =>
    have howned : s.iface.Owned conf.tx := by
      obtain howned | ⟨hdown, -⟩ := hgood.settled
      · exact howned
      · exact absurd (hactive.symm.trans hdown) nofun
    cases ip with
    | v4 => exact iff_of_true (retargets_v4 howned) (.inl rfl)
    | v6 =>
      rw [handleSccMccSwitch_v6 howned, or_iff_right nofun]
      constructor
      · intro h i r hr
        exact (pipe_eq_iff hgood hr).mp (h i r hr).2
      · intro h i r hr
        exact ⟨hr.live, (pipe_eq_iff hgood hr).mpr (h i r hr)⟩

/-- One transmit property for each family. -/
def bothFamilies : TxConf := ⟨[⟨.v4, 10, 11⟩, ⟨.v6, 12, 13⟩], 5⟩

/-- A client with an address of each family, on one channel. -/
def oneClient : List RoutedEvent :=
  [.wlan false (.clientAdd [.macAddr 1] 0),
    .wlan false (.neighIpAddrAdd 1 (.v4 0xC0A80102) 0 none (fun _ => none) fun _ => none),
    .wlan false (.neighIpAddrAdd 1 (.v6 (0xFE80 <<< 112)) 0 none (fun _ => none) fun _ => none)]

def oneClientRouted : Routed := (init newListener).run nextHandle bothFamilies oneClient

theorem oneClient_retargets :
    AwakeRule bothFamilies oneClientRouted.iface .v4 0 (.v4 0) ∧
      Retargets bothFamilies true .v4 oneClientRouted
        (oneClientRouted.step nextHandle bothFamilies (.sccMccSwitch true .v4)) := by
  have h := run_retargets nextHandle_grants bothFamilies newListener oneClient true .v4
  exact ⟨⟨by decide, by decide, by decide, by decide, rfl, trivial⟩, h.mpr (.inl rfl)⟩

/-- The IPv6 rule of the client still leads to the pipe for one channel. -/
theorem oneClient_not_retargets :
    AwakeRule bothFamilies oneClientRouted.iface .v6 0 (.v6Wan 1 0) ∧
      ¬ Retargets bothFamilies true .v6 oneClientRouted
        (oneClientRouted.step nextHandle bothFamilies (.sccMccSwitch true .v6)) := by
  have hrule : AwakeRule bothFamilies oneClientRouted.iface .v6 0 (.v6Wan 1 0) :=
    ⟨by decide, by decide, by decide, by decide, rfl, trivial⟩
  refine ⟨hrule, fun h => ?_⟩
  exact absurd (h 0 (.v6Wan 1 0) hrule).2 (by decide)

end Routed

end Axon7.Clients
