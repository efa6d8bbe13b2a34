import Axon7.Wan.Handover
import Axon7.Wan.ModemTable

/-!
# The tables of rules for the modem along a run

In every run of modem-mode instances whose events find what they must, the tables hold
the default rules while there is a PDN of the family, and the other rules of the one that
is active for it.
-/

namespace Axon7.Wan

open Axon7.Lib
open Axon7.Tether (IpType IfaceIpType Addr)

/-! ## Instances that are kept -/

/-- All that holds of the instances and the tables along a run. -/
structure Kept (vs : List PdnView) (f : FltView) (fw : IpType → FirewallConf) : Prop where
  modem : ∀ v ∈ vs, v.Modem
  distinct : (vs.map (·.conf.ipaIfNum)).Nodup
  sound : ∀ ip,
    Pdn.Sound f.algPorts (fw ip) ip (vs.map (·.pdn ip)) (f.numModemPdn ip) (f.flt ip)

namespace FltView

variable {ip t : IpType} {f : FltView}

theorem init_self : (f.init ip).flt ip =
      (if f.numModemPdn ip = 0 then (f.flt ip).reset ip else f.flt ip) ∧
    (f.init ip).numModemPdn ip = f.numModemPdn ip + 1 := by
  rw [init]
  refine ⟨?_, Function.update_self ..⟩
  dsimp only
  split
  · exact Function.update_self ..
  · rfl

theorem init_of_ne (h : t ≠ ip) :
    (f.init ip).flt t = f.flt t ∧ (f.init ip).numModemPdn t = f.numModemPdn t := by
  rw [init]
  refine ⟨?_, Function.update_of_ne h ..⟩
  dsimp only
  split
  · exact Function.update_of_ne h ..
  · rfl

theorem set_self (tab : Table) : (f.set ip tab).flt ip = tab := Function.update_self ..

theorem set_of_ne (h : t ≠ ip) (tab : Table) : (f.set ip tab).flt t = f.flt t :=
  Function.update_of_ne h ..

theorem clear_flt : (f.clear ip).flt t =
    if t = ip ∧ f.numModemPdn ip = 0 then { (f.flt ip).zeroFrom 0 with num := 0 }
    else f.flt t := by
  rw [clear]
  by_cases hnum : f.numModemPdn ip = 0
  · rw [if_pos hnum]
    rcases eq_or_ne t ip with rfl | hne
    · rw [if_pos ⟨rfl, hnum⟩]
      exact set_self _
    · rw [if_neg fun h => hne h.1]
      exact set_of_ne hne _
  · rw [if_neg hnum, if_neg fun h => hnum h.2]

theorem clear_num : (f.clear ip).numModemPdn = f.numModemPdn := by
  rw [clear]
  split <;> rfl

theorem del_flt : (f.del ip).flt t =
    if t = ip then (f.flt ip).delWanFirewallRule ip else f.flt t := by
  split
  case isTrue heq =>
    subst heq
    exact set_self _
  case isFalse hne => exact set_of_ne hne _

theorem dec_num : (f.dec ip).numModemPdn t =
    if t = ip then f.numModemPdn t - 1 else f.numModemPdn t := by
  split
  case isTrue heq =>
    subst heq
    exact Function.update_self ..
  case isFalse hne => exact Function.update_of_ne hne ..

theorem del_num : (f.del ip).numModemPdn = f.numModemPdn := rfl

theorem dec_flt : (f.dec ip).flt = f.flt := rfl

end FltView

namespace Kept

variable {pre post vs : List PdnView} {v v' : PdnView} {f f' : FltView}
  {fw fw' : IpType → FirewallConf}

theorem forall_mid {P : PdnView → Prop} : (∀ w ∈ pre ++ v :: post, P w) ↔
    (∀ w ∈ pre, P w) ∧ P v ∧ ∀ w ∈ post, P w := by
  simp [or_imp, forall_and]

theorem map_mid (ip : IpType) : (pre ++ v :: post).map (·.pdn ip) =
    pre.map (·.pdn ip) ++ v.pdn ip :: post.map (·.pdn ip) := by
  rw [List.map_append, List.map_cons]

theorem sound_mid (h : Kept (pre ++ v :: post) f fw) (ip : IpType) :
    Pdn.Sound f.algPorts (fw ip) ip (pre.map (·.pdn ip) ++ v.pdn ip :: post.map (·.pdn ip))
      (f.numModemPdn ip) (f.flt ip) := by
  rw [← map_mid]
  exact h.sound ip

theorem modem_mid (h : Kept (pre ++ v :: post) f fw) : v.Modem := (forall_mid.mp h.modem).2.1

theorem replace (h : Kept (pre ++ v :: post) f fw) (hmodem : v'.Modem)
    (hconf : v'.conf = v.conf)
    (hsound : ∀ ip, Pdn.Sound f'.algPorts (fw' ip) ip
      (pre.map (·.pdn ip) ++ v'.pdn ip :: post.map (·.pdn ip)) (f'.numModemPdn ip) (f'.flt ip)) :
    Kept (pre ++ v' :: post) f' fw' where
  modem := by
    obtain ⟨hpre, -, hpost⟩ := forall_mid.mp h.modem
    exact forall_mid.mpr ⟨hpre, hmodem, hpost⟩
  distinct := by
    have := h.distinct
    rw [List.map_append, List.map_cons] at this ⊢
    rwa [hconf]
  sound ip := by
    rw [map_mid]
    exact hsound ip

theorem addV4Addr (h : Kept (pre ++ v :: post) f fw) (htx : v.conf.tx ≠ []) :
    Kept (pre ++ { v with ipType := v.ipType.config .v4, wanV4AddrSet := true } :: post)
      (if v.wanV4AddrSet then f else f.init .v4) fw := by
  have hm := h.modem_mid
  have hhas : (v.ipType.config .v4).has .v4 = true := by cases v.ipType <;> rfl
  have hhas6 : (v.ipType.config .v4).has .v6 = v.ipType.has .v6 := by cases v.ipType <;> rfl
  refine h.replace ⟨hm.q6, hm.rx, hm.numWanClient, hm.waiting, fun _ _ => htx, hhas.symm,
    fun hne => hhas6.trans (hm.v6 hne), hm.pfx, hm.global⟩ rfl fun ip => ?_
  have hs := h.sound_mid ip
  cases hset : v.wanV4AddrSet with
  | true =>
    rw [if_pos rfl]
    refine hs.congr rfl ?_ rfl
    cases ip with
    | v4 => exact hset.symm
    | v6 => rfl
  | false =>
    rw [if_neg Bool.false_ne_true]
    cases ip with
    | v4 =>
      have hinit := hs.init hset
      rw [(FltView.init_self (f := f)).1, (FltView.init_self (f := f)).2]
      exact hinit.congr rfl rfl rfl
    | v6 =>
      have hne : IpType.v6 ≠ .v4 := by decide
      rw [(FltView.init_of_ne hne).1, (FltView.init_of_ne hne).2]
      exact hs.congr rfl rfl rfl

theorem configV6 (h : Kept (pre ++ v :: post) f fw) (htx : v.conf.tx ≠ []) :
    Kept (pre ++ { v with ipType := v.ipType.config .v6 } :: post) f fw := by
  have hm := h.modem_mid
  have hhas : (v.ipType.config .v6).has .v6 = true := by cases v.ipType <;> rfl
  have hhas4 : (v.ipType.config .v6).has .v4 = v.ipType.has .v4 := by cases v.ipType <;> rfl
  refine h.replace ⟨hm.q6, hm.rx, hm.numWanClient, hm.waiting, fun _ _ => htx,
    hm.v4.trans hhas4.symm, fun _ => hhas, hm.pfx, hm.global⟩ rfl fun ip => ?_
  refine (h.sound_mid ip).congr rfl ?_ rfl
  cases ip <;> rfl

theorem addV6Addr (h : Kept (pre ++ v :: post) f fw) (htx : v.conf.tx ≠ []) {addr : BitVec 128}
    (hfirst : v.ipv6Addr = [] → Iface.isGlobalIpv6Addr addr = false)
    (hsecond : v.ipv6Addr.length = 1 → Iface.isGlobalIpv6Addr addr = true) :
    Kept (pre ++ { v with
      ipType := v.ipType.config .v6
      ipv6Addr := v.ipv6Addr ++ [addr]
      ipv6Prefix := if Iface.isGlobalIpv6Addr addr then addr.extractLsb' 64 64
        else v.ipv6Prefix } :: post)
      (if v.ipv6Addr.length = 1 then f.init .v6 else f) fw := by
  have hm := h.modem_mid
  have hhas : (v.ipType.config .v6).has .v6 = true := by cases v.ipType <;> rfl
  have hhas4 : (v.ipType.config .v6).has .v4 = v.ipType.has .v4 := by cases v.ipType <;> rfl
  have hlen : (v.ipv6Addr ++ [addr]).length = v.ipv6Addr.length + 1 := List.length_append
  refine h.replace ⟨hm.q6, hm.rx, hm.numWanClient, hm.waiting, fun _ _ => htx,
    hm.v4.trans hhas4.symm, fun _ => hhas, fun hne => ?_, ?_⟩ rfl fun ip => ?_
  · show 1 < (v.ipv6Addr ++ [addr]).length
    rw [hlen]
    by_cases hnil : v.ipv6Addr = []
    · dsimp only at hne
      rw [hfirst hnil, if_neg Bool.false_ne_true] at hne
      have := hm.pfx hne
      omega
    · have := List.length_pos_iff.mpr hnil
      omega
  · show (∃ a ∈ v.ipv6Addr ++ [addr], _) ↔ 1 < (v.ipv6Addr ++ [addr]).length
    rw [hlen]
    constructor
    · rintro ⟨a, ha, hglobal⟩
      rcases List.mem_append.mp ha with ha | ha
      · have := hm.global.mp ⟨a, ha, hglobal⟩
        omega
      · obtain rfl := List.mem_singleton.mp ha
        have hne : v.ipv6Addr ≠ [] := fun hnil =>
          Bool.false_ne_true ((hfirst hnil).symm.trans hglobal)
        have := List.length_pos_iff.mpr hne
        omega
    · intro hlt
      rcases Nat.lt_or_eq_of_le (Nat.le_of_lt_succ hlt) with hlt | heq
      · obtain ⟨a, ha, hglobal⟩ := hm.global.mpr hlt
        exact ⟨a, List.mem_append_left _ ha, hglobal⟩
      · exact ⟨addr, by simp, hsecond heq.symm⟩
  · have hs := h.sound_mid ip
    have haddr : PdnView.hasAddr { v with
        ipType := v.ipType.config .v6
        ipv6Addr := v.ipv6Addr ++ [addr]
        ipv6Prefix := if Iface.isGlobalIpv6Addr addr then addr.extractLsb' 64 64
          else v.ipv6Prefix } .v6 = decide (1 < v.ipv6Addr.length + 1) := by
      rw [← hlen]
      rfl
    by_cases hone : v.ipv6Addr.length = 1
    · rw [if_pos hone]
      cases ip with
      | v4 =>
        have hne : IpType.v4 ≠ .v6 := by decide
        rw [(FltView.init_of_ne hne).1, (FltView.init_of_ne hne).2]
        exact hs.congr rfl rfl rfl
      | v6 =>
        have hoff : (v.pdn .v6).hasAddr = false := by
          show decide (1 < v.ipv6Addr.length) = false
          rw [hone]
          rfl
        have hinit := hs.init hoff
        rw [(FltView.init_self (f := f)).1, (FltView.init_self (f := f)).2]
        refine hinit.congr rfl (haddr.trans ?_) rfl
        rw [hone]
        rfl
    · rw [if_neg hone]
      refine hs.congr rfl ?_ rfl
      cases ip with
      | v4 => rfl
      | v6 =>
        refine haddr.trans ?_
        show decide (1 < v.ipv6Addr.length + 1) = decide (1 < v.ipv6Addr.length)
        rw [decide_eq_decide]
        by_cases hnil : v.ipv6Addr = []
        · simp [hnil]
        · have := List.length_pos_iff.mpr hnil
          omega

theorem routeUp (h : Kept (pre ++ v :: post) f fw) {ip : IpType} (haddr : v.hasAddr ip = true)
    (hidle : ∀ w ∈ pre ++ v :: post, w.active ip = false) (fwIp : FirewallConf)
    (isBridge : Bool) :
    Kept
      (pre ++ { v with
        active := Function.update v.active ip true
        isDefaultGateway := true } :: post)
      ({ f with isBridge := isBridge }.set ip
        ((f.flt ip).configWanFirewallRule f.algPorts fwIp isBridge v.conf.metaData ip))
      (Function.update fw ip fwIp) := by
  have hm := h.modem_mid
  refine h.replace ⟨hm.q6, hm.rx, hm.numWanClient, hm.waiting, hm.tx, hm.v4, hm.v6, hm.pfx,
    hm.global⟩ rfl fun t => ?_
  have hs := h.sound_mid t
  rcases eq_or_ne t ip with rfl | hne
  · rw [FltView.set_self, Function.update_self]
    refine (hs.routeUp haddr ?_ fwIp isBridge).congr rfl rfl (Function.update_self ..)
    rw [← map_mid]
    intro q hq
    obtain ⟨w, hw, rfl⟩ := List.mem_map.mp hq
    exact hidle w hw
  · rw [FltView.set_of_ne hne, Function.update_of_ne hne]
    exact hs.congr rfl rfl (Function.update_of_ne hne ..)

theorem setDefaultGateway (h : Kept (pre ++ v :: post) f fw) (dgw isBridge : Bool) :
    Kept (pre ++ { v with isDefaultGateway := dgw } :: post) { f with isBridge := isBridge }
      fw := by
  have hm := h.modem_mid
  exact h.replace ⟨hm.q6, hm.rx, hm.numWanClient, hm.waiting, hm.tx, hm.v4, hm.v6, hm.pfx,
    hm.global⟩ rfl fun t => (h.sound_mid t).congr rfl rfl rfl

theorem leaveRoute (h : Kept (pre ++ v :: post) f fw) (hon : v.active .v4 = true) :
    Kept
      (pre ++ { v with
        active := Function.update v.active .v4 false
        isDefaultGateway := false } :: post) (f.del .v4) fw := by
  have hm := h.modem_mid
  refine h.replace ⟨hm.q6, hm.rx, hm.numWanClient, hm.waiting, hm.tx, hm.v4, hm.v6, hm.pfx,
    hm.global⟩ rfl fun t => ?_
  have hs := h.sound_mid t
  cases t with
  | v4 => exact (hs.routeDown hon).congr rfl rfl rfl
  | v6 => exact hs.congr rfl rfl rfl

/-! ## The firewall changes -/

theorem foldl_refreshed (fwNew : FirewallConf) (vs : List PdnView) (f : FltView) :
    (vs.foldl (fun f v => Iface.refreshed fwNew v f) f).algPorts = f.algPorts ∧
      (vs.foldl (fun f v => Iface.refreshed fwNew v f) f).numModemPdn = f.numModemPdn ∧
      (vs.foldl (fun f v => Iface.refreshed fwNew v f) f).isBridge = f.isBridge ∧
      ∀ ip, (vs.foldl (fun f v => Iface.refreshed fwNew v f) f).flt ip =
        Pdn.refreshAll f.algPorts fwNew f.isBridge ip (vs.map (·.pdn ip)) (f.flt ip) := by
  induction vs generalizing f with
  | nil => exact ⟨rfl, rfl, rfl, fun _ => rfl⟩
  | cons v vs ih =>
    obtain ⟨halg, hnum, hbridge, hflt⟩ := ih (Iface.refreshed fwNew v f)
    rw [List.foldl_cons]
    exact ⟨halg, hnum, hbridge, fun ip => hflt ip⟩

theorem refresh (h : Kept vs f fw) (hlast : ∀ ip, Pdn.Refreshed (vs.map (·.pdn ip)))
    (fwNew : FirewallConf) :
    Kept vs (vs.foldl (fun f v => Iface.refreshed fwNew v f) f) fun _ => fwNew := by
  obtain ⟨halg, hnum, -, hflt⟩ := foldl_refreshed fwNew vs f
  refine ⟨h.modem, h.distinct, fun ip => ?_⟩
  rw [halg, hnum, hflt]
  exact (h.sound ip).refresh (hlast ip) fwNew f.isBridge

/-! ## A link goes down -/

theorem has_of_hasAddr (hm : v.Modem) {ip : IpType} (h : v.hasAddr ip = true) :
    v.ipType.has ip = true := by
  cases ip with
  | v4 => exact hm.v4.symm.trans h
  | v6 =>
    refine hm.v6 fun hnil => ?_
    have hlt : 1 < v.ipv6Addr.length := of_decide_eq_true h
    rw [hnil] at hlt
    exact absurd hlt (by decide)

theorem downView_algPorts : (Iface.downView v f).algPorts = f.algPorts := by
  have hclear : ∀ (ip : IpType) (f : FltView), (f.clear ip).algPorts = f.algPorts := by
    intro ip f
    rw [FltView.clear]
    split <;> rfl
  have hdec : ∀ (ip : IpType) (f : FltView),
      (if v.hasAddr ip then f.dec ip else f).algPorts = f.algPorts := by
    intro ip f
    split <;> rfl
  have hdel : ∀ (ip : IpType) (f : FltView),
      (if v.isDefaultGateway then f.del ip else f).algPorts = f.algPorts := by
    intro ip f
    split <;> rfl
  rw [Iface.downView]
  dsimp only
  cases v.ipType with
  | null => rfl
  | v4 => exact (hclear _ _).trans ((hdel _ _).trans (hdec _ _))
  | v6 => exact (hclear _ _).trans ((hdel _ _).trans (hdec _ _))
  | max =>
    refine ((hclear _ _).trans (hclear _ _)).trans ?_
    exact ((hdel _ _).trans (hdel _ _)).trans ((hdec _ _).trans (hdec _ _))

theorem downView_num (hm : v.Modem) (ip : IpType) : (Iface.downView v f).numModemPdn ip =
    if v.hasAddr ip then f.numModemPdn ip - 1 else f.numModemPdn ip := by
  have h4 : v.hasAddr .v4 = v.ipType.has .v4 := hm.v4
  have h6 : v.ipType.has .v6 = false → v.hasAddr .v6 = false := fun hno =>
    Bool.eq_false_of_not_eq_true fun hyes =>
      Bool.false_ne_true (hno.symm.trans (has_of_hasAddr hm hyes))
  rw [Iface.downView]
  dsimp only
  cases hty : v.ipType with
  | null =>
    rw [hty] at h4 h6
    cases ip with
    | v4 => rw [h4]; rfl
    | v6 => rw [h6 rfl]; rfl
  | v4 =>
    rw [hty] at h4 h6
    have h4 : v.hasAddr .v4 = true := h4
    cases ip <;> cases v.isDefaultGateway <;>
      simp [FltView.clear_num, FltView.del_num, FltView.dec_num, h4, h6 rfl]
  | v6 =>
    rw [hty] at h4
    have h4 : v.hasAddr .v4 = false := h4
    cases ip <;> cases v.isDefaultGateway <;> cases v.hasAddr .v6 <;>
      simp [FltView.clear_num, FltView.del_num, FltView.dec_num, h4]
  | max =>
    rw [hty] at h4
    have h4 : v.hasAddr .v4 = true := h4
    cases ip <;> cases v.isDefaultGateway <;> cases v.hasAddr .v6 <;>
      simp [FltView.clear_num, FltView.del_num, FltView.dec_num, h4]

theorem downView_flt (hm : v.Modem) (ip : IpType) : (Iface.downView v f).flt ip =
    if v.ipType.has ip = true ∧ (Iface.downView v f).numModemPdn ip = 0 then
      { (if (v.pdn ip).refreshes then (f.flt ip).delWanFirewallRule ip
        else f.flt ip).zeroFrom 0 with num := 0 }
    else if (v.pdn ip).refreshes then (f.flt ip).delWanFirewallRule ip else f.flt ip := by
  have hrefreshes : (v.pdn ip).refreshes = (v.isDefaultGateway && v.ipType.has ip) := rfl
  rw [hrefreshes, downView_num hm]
  have h4 : v.hasAddr .v4 = v.ipType.has .v4 := hm.v4
  rw [Iface.downView]
  dsimp only
  cases hty : v.ipType with
  | null => cases ip <;> simp [IfaceIpType.has]
  | v4 =>
    rw [hty] at h4
    have h4 : v.hasAddr .v4 = true := h4
    cases ip <;> cases v.isDefaultGateway <;>
      simp [FltView.clear_flt, FltView.del_flt, FltView.del_num, FltView.dec_flt,
        FltView.dec_num, IfaceIpType.has, h4]
  | v6 =>
    rw [hty] at h4
    have h4 : v.hasAddr .v4 = false := h4
    cases ip <;> cases v.isDefaultGateway <;> cases v.hasAddr .v6 <;>
      simp [FltView.clear_flt, FltView.del_flt, FltView.del_num, FltView.dec_flt,
        FltView.dec_num, IfaceIpType.has]
  | max =>
    rw [hty] at h4
    have h4 : v.hasAddr .v4 = true := h4
    cases ip <;> cases v.isDefaultGateway <;> cases v.hasAddr .v6 <;>
      simp [FltView.clear_flt, FltView.clear_num, FltView.del_flt, FltView.del_num,
        FltView.dec_flt, FltView.dec_num, IfaceIpType.has, h4]

theorem modem_rest (h : Kept (pre ++ v :: post) f fw) : ∀ w ∈ pre ++ post, w.Modem := by
  obtain ⟨hpre, -, hpost⟩ := forall_mid.mp h.modem
  intro w hw
  rcases List.mem_append.mp hw with hw | hw
  · exact hpre w hw
  · exact hpost w hw

theorem distinct_rest (h : Kept (pre ++ v :: post) f fw) :
    ((pre ++ post).map (·.conf.ipaIfNum)).Nodup := by
  refine List.Nodup.sublist (List.Sublist.map _ ?_) h.distinct
  exact List.Sublist.append_left (List.sublist_cons_self v post) pre

theorem forget (h : Kept (pre ++ v :: post) f fw) (hnone : ∀ ip, v.hasAddr ip = false) :
    Kept (pre ++ post) f fw := by
  refine ⟨h.modem_rest, h.distinct_rest, fun ip => ?_⟩
  rw [List.map_append]
  exact (h.sound_mid ip).forget (hnone ip)

theorem down (h : Kept (pre ++ v :: post) f fw)
    (hleaves : ∀ ip, Pdn.LeavesWell ip (v.pdn ip) ((pre ++ post).map (·.pdn ip))) :
    Kept (pre ++ post) (Iface.downView v f) fw := by
  have hm := h.modem_mid
  refine ⟨h.modem_rest, h.distinct_rest, fun ip => ?_⟩
  have hhas : (v.pdn ip).hasAddr = true ∨ (v.pdn ip).refreshes = true →
      v.ipType.has ip = true := by
    rintro (hp | hp)
    · exact has_of_hasAddr hm hp
    · exact (Bool.and_eq_true_iff.mp hp).2
  have hs := (h.sound_mid ip).leave (by simpa [List.map_append] using hleaves ip)
    (downView_num hm ip) hhas
  rw [downView_algPorts, List.map_append, downView_flt hm]
  exact hs

end Kept

/-! ## All instances -/

/-- The events of PDNs. -/
def WanEvent.IsPdn : WanEvent → Prop
  | .neighClientIpAddrAdd .. => False
  | .wlanLinkDown _ => False
  | _ => True

namespace World

variable {alloc : Alloc} {w : World} {fw : IpType → FirewallConf}

/-- The instances and the tables are kept. -/
def Books (w : World) (fw : IpType → FirewallConf) : Prop :=
  Kept (w.ifaces.map (·.pdnView)) w.statics.fltView fw

theorem deliver_append (ev : WanEvent) (is js : List Iface) (g : Statics) :
    deliver alloc ev (is ++ js) g =
      ((deliver alloc ev is g).1 ++ (deliver alloc ev js (deliver alloc ev is g).2).1,
        (deliver alloc ev js (deliver alloc ev is g).2).2) := by
  induction is generalizing g with
  | nil => rfl
  | cons i is ih => rw [List.cons_append, deliver_cons, deliver_cons, ih, List.append_assoc]

theorem deliver_quiet {ev : WanEvent} {is : List Iface}
    (h : ∀ i ∈ is, ∀ g, i.eventCallback alloc ev g = (some i, g)) (g : Statics) :
    deliver alloc ev is g = (is, g) := by
  induction is with
  | nil => rfl
  | cons i is ih =>
    rw [deliver_cons, h i List.mem_cons_self, ih fun j hj => h j (List.mem_cons_of_mem _ hj)]
    rfl

theorem deliver_mid {ev : WanEvent} {pre post : List Iface} {i : Iface}
    (hpre : ∀ j ∈ pre, ∀ g, j.eventCallback alloc ev g = (some j, g))
    (hpost : ∀ j ∈ post, ∀ g, j.eventCallback alloc ev g = (some j, g)) (g : Statics) :
    deliver alloc ev (pre ++ i :: post) g =
      (pre ++ ((i.eventCallback alloc ev g).1.toList ++ post),
        (i.eventCallback alloc ev g).2) := by
  rw [deliver_append, deliver_quiet hpre, deliver_cons, deliver_quiet hpost]

/-- What an event must find. The second IPv6 address of a PDN is the first global one. A PDN
that takes the IPv4 route comes behind the one that leaves it; the IPv6 one is not taken over
or deleted. When the firewall changes, the last PDN that takes itself for the active one is
it. A PDN leaves well that goes, and one for broadcast has no address. -/
def Finds (w : World) : WanEvent → Prop
  | .addrAdd n (.v6 addr) => ∀ i ∈ w.ifaces, i.conf.ipaIfNum = n → i.conf.tx ≠ [] →
      addr ≠ 0 → addr ∉ i.ipv6Addr → (i.ipv6Addr = [] → Iface.isGlobalIpv6Addr addr = false) ∧
        (i.ipv6Addr.length = 1 → Iface.isGlobalIpv6Addr addr = true)
  | .upstreamRouteAdd n u _ =>
    match u.ipType with
    | .v4 => ∀ pre i post, w.ifaces = pre ++ i :: post → i.conf.ipaIfNum = n →
        i.TakesRoute u → ∀ j ∈ post, j.active .v4 = false
    | .v6 => ∀ j ∈ w.ifaces, j.conf.ipaIfNum ≠ n → j.active .v6 = false
  | .upstreamRouteDel n .v6 => ∀ i ∈ w.ifaces, i.conf.ipaIfNum = n → i.active .v6 = false
  | .firewallChange _ => ∀ ip, Pdn.Refreshed (w.ifaces.map (·.pdnView.pdn ip))
  | .linkDown n => ∀ pre i post, w.ifaces = pre ++ i :: post → i.conf.ipaIfNum = n →
      if i.conf.isEmbms then ∀ ip, i.pdnView.hasAddr ip = false
      else ∀ ip, Pdn.LeavesWell ip (i.pdnView.pdn ip)
        ((pre ++ post).map (·.pdnView.pdn ip))
  | _ => True

/-- The configuration of the firewall that was read last for each family: a PDN reads it
that takes the default route, and all of them do when it changes. -/
def reads (w : World) (fw : IpType → FirewallConf) : WanEvent → IpType → FirewallConf
  | .upstreamRouteAdd n u fwNew =>
    if ∃ i ∈ w.ifaces, i.conf.ipaIfNum = n ∧ i.TakesRoute u then
      Function.update fw u.ipType fwNew
    else fw
  | .firewallChange fwNew => fun _ => fwNew
  | _ => fw

theorem Books.distinct (h : w.Books fw) : w.Distinct := by
  have hdistinct := Kept.distinct h
  rwa [List.map_map] at hdistinct

theorem books_mid {pre post : List Iface} {i : Iface} {g : Statics} :
    Books ⟨pre ++ i :: post, g⟩ fw ↔
      Kept (pre.map (·.pdnView) ++ i.pdnView :: post.map (·.pdnView)) g.fltView fw := by
  rw [Books, List.map_append, List.map_cons]

theorem step_books_of_stays (fw' : IpType → FirewallConf) {ev : WanEvent}
    {pre post : List Iface} {i : Iface} {x : Iface × Statics} (hi : w.ifaces = pre ++ i :: post)
    (hpre : ∀ j ∈ pre, ∀ g, j.eventCallback alloc ev g = (some j, g))
    (hpost : ∀ j ∈ post, ∀ g, j.eventCallback alloc ev g = (some j, g))
    (hx : i.eventCallback alloc ev w.statics = (some x.1, x.2)) {v : PdnView} {f : FltView}
    (hview : viewOf x = (v, f))
    (hkept : Kept (pre.map (·.pdnView) ++ v :: post.map (·.pdnView)) f fw') :
    (w.step alloc ev).Books fw' := by
  obtain ⟨rfl, rfl⟩ := Prod.mk.inj hview
  rw [step, hi, deliver_mid hpre hpost, hx]
  exact books_mid.mpr hkept

theorem step_books_of_quiet {ev : WanEvent} (h : w.Books fw)
    (hquiet : ∀ i ∈ w.ifaces, ∀ g, i.eventCallback alloc ev g = (some i, g)) :
    (w.step alloc ev).Books fw := by
  rw [step, deliver_quiet hquiet]
  exact h

theorem eventCallback_other {i : Iface} {n : Nat} (hn : i.conf.ipaIfNum ≠ n) {ev : WanEvent}
    (hev : (∃ a, ev = .addrAdd n a) ∨ (∃ ip, ev = .upstreamRouteDel n ip) ∨ ev = .linkDown n)
    (g : Statics) : i.eventCallback alloc ev g = (some i, g) := by
  obtain ⟨a, rfl⟩ | ⟨ip, rfl⟩ | rfl := hev
  · rw [Iface.eventCallback]
    split
    · rfl
    · exact if_neg fun h => hn h.1.symm
  · exact if_neg hn.symm
  · exact if_neg hn.symm

theorem step_addrAdd (alloc : Alloc) (h : w.Books fw) {n : Nat} {a : Addr}
    (hf : w.Finds (.addrAdd n a)) : (w.step alloc (.addrAdd n a)).Books fw := by
  have hother : ∀ j : Iface, j.conf.ipaIfNum ≠ n → ∀ g,
      j.eventCallback alloc (.addrAdd n a) g = (some j, g) := fun j hj g =>
    eventCallback_other hj (.inl ⟨a, rfl⟩) g
  obtain hnone | ⟨pre, i, post, hi, hn, hpre, hpost⟩ := h.distinct.cases n
  · exact step_books_of_quiet h fun j hj g => hother j (hnone j hj) g
  have hk : Kept (pre.map (·.pdnView) ++ i.pdnView :: post.map (·.pdnView))
      w.statics.fltView fw := by
    rw [← books_mid (g := w.statics), ← hi]
    exact h
  by_cases hskip : a.isZero = true ∨ ¬ (a.ipType = .v4 ∨ i.ipv6Addr.length ≠ Tether.maxDftRtV6) ∨
      i.conf.tx = []
  · refine step_books_of_stays fw hi (fun j hj => hother j (hpre j hj))
      (fun j hj => hother j (hpost j hj)) (x := (i, w.statics)) ?_ rfl hk
    rw [Iface.eventCallback]
    split
    · rfl
    next hzero =>
      split
      next hboth =>
        have htx : i.conf.tx = [] := by tauto
        rw [Iface.handleAddrEvt, if_pos (.inl htx)]
      · rfl
  · have hzero : a.isZero ≠ true := fun hz => hskip (.inl hz)
    have hroom : a.ipType = .v4 ∨ i.ipv6Addr.length ≠ Tether.maxDftRtV6 := by tauto
    have htx : i.conf.tx ≠ [] := fun htx => hskip (.inr (.inr htx))
    have hm := hk.modem_mid
    have hprops : ¬ (i.conf.tx = [] ∨ i.conf.rx = []) := not_or.mpr ⟨htx, hm.rx⟩
    have hcb : i.eventCallback alloc (.addrAdd n a) w.statics =
        (some (i.handleAddrEvt alloc a w.statics).1, (i.handleAddrEvt alloc a w.statics).2) := by
      rw [Iface.eventCallback, if_neg hzero, if_pos ⟨hn.symm, hroom⟩]
    have hstays := fun {v f} (hview : viewOf (i.handleAddrEvt alloc a w.statics) = (v, f)) =>
      step_books_of_stays fw hi (fun j hj => hother j (hpre j hj))
        (fun j hj => hother j (hpost j hj)) hcb hview
    cases a with
    | v4 addr =>
      exact hstays (Iface.viewOf_handleV4Addr alloc hm.q6 hprops addr w.statics)
        (hk.addV4Addr htx)
    | v6 addr =>
      have hview := Iface.viewOf_handleV6Addr alloc hm.q6 hprops addr w.statics
      have hne : addr ≠ 0 := fun hz => hzero (by simp [Addr.isZero, hz])
      split at hview
      case isTrue => exact hstays hview (hk.configV6 htx)
      case isFalse hmem =>
        obtain ⟨hfirst, hsecond⟩ := hf i (by rw [hi]; simp) hn htx hne hmem
        exact hstays hview (hk.addV6Addr htx hfirst hsecond)

theorem step_upstreamRouteDel (alloc : Alloc) (h : w.Books fw) {n : Nat} {ip : IpType}
    (hf : w.Finds (.upstreamRouteDel n ip)) :
    (w.step alloc (.upstreamRouteDel n ip)).Books fw := by
  have hother : ∀ j : Iface, j.conf.ipaIfNum ≠ n → ∀ g,
      j.eventCallback alloc (.upstreamRouteDel n ip) g = (some j, g) := fun j hj g =>
    eventCallback_other hj (.inr (.inl ⟨ip, rfl⟩)) g
  obtain hnone | ⟨pre, i, post, hi, hn, hpre, hpost⟩ := h.distinct.cases n
  · exact step_books_of_quiet h fun j hj g => hother j (hnone j hj) g
  have hk : Kept (pre.map (·.pdnView) ++ i.pdnView :: post.map (·.pdnView))
      w.statics.fltView fw := by
    rw [← books_mid (g := w.statics), ← hi]
    exact h
  have hm := hk.modem_mid
  have hcb : i.eventCallback alloc (.upstreamRouteDel n ip) w.statics =
      (some (i.handleUpstreamRouteDel ip w.statics).1,
        (i.handleUpstreamRouteDel ip w.statics).2) := if_pos hn.symm
  have hstays := fun {v f} (hview : viewOf (i.handleUpstreamRouteDel ip w.statics) = (v, f)) =>
    step_books_of_stays fw hi (fun j hj => hother j (hpre j hj))
      (fun j hj => hother j (hpost j hj)) hcb hview
  cases hon : i.active ip with
  | false =>
    have hidle : i.handleUpstreamRouteDel ip w.statics = (i, w.statics) := by
      rw [Iface.handleUpstreamRouteDel, hon, if_neg Bool.false_ne_true]
    exact hstays (by rw [hidle]; rfl) hk
  | true =>
    cases ip with
    | v6 =>
      have hoff := hf i (by rw [hi]; simp) hn
      exact absurd (hoff.symm.trans hon) Bool.false_ne_true
    | v4 =>
      have haddr : i.pdnView.hasAddr .v4 = true :=
        (hk.sound_mid .v4).hasAddr (i.pdnView.pdn .v4) (by simp) hon
      have htx : i.conf.tx ≠ [] := hm.tx .v4 (Kept.has_of_hasAddr hm haddr)
      exact hstays (Iface.viewOf_handleUpstreamRouteDel hm.q6 htx hon w.statics)
        (hk.leaveRoute hon)

theorem step_firewallChange (alloc : Alloc) (h : w.Books fw) {fwNew : FirewallConf}
    (hf : w.Finds (.firewallChange fwNew)) :
    (w.step alloc (.firewallChange fwNew)).Books fun _ => fwNew := by
  have hdeliver : ∀ (is : List Iface) (g : Statics), (∀ i ∈ is, i.pdnView.Modem) →
      (deliver alloc (.firewallChange fwNew) is g).1 = is ∧
        (deliver alloc (.firewallChange fwNew) is g).2.fltView =
          (is.map (·.pdnView)).foldl (fun f v => Iface.refreshed fwNew v f) g.fltView := by
    intro is
    induction is with
    | nil => exact fun g _ => ⟨rfl, rfl⟩
    | cons i is ih =>
      intro g hmodem
      obtain ⟨hi, hflt⟩ := Iface.handleFirewallChange_view alloc
        (hmodem i List.mem_cons_self).q6 fwNew g
      obtain ⟨his, hflts⟩ := ih (i.handleFirewallChange alloc fwNew g).2
        fun j hj => hmodem j (List.mem_cons_of_mem _ hj)
      rw [deliver_cons]
      refine ⟨?_, ?_⟩
      · show (some (i.handleFirewallChange alloc fwNew g).1).toList ++ _ = _
        rw [hi]
        exact congrArg (i :: ·) his
      · rw [List.map_cons, List.foldl_cons, ← hflt]
        exact hflts
  have hmodem : ∀ i ∈ w.ifaces, i.pdnView.Modem := fun i hi =>
    Kept.modem h _ (List.mem_map_of_mem hi)
  obtain ⟨hifaces, hflt⟩ := hdeliver w.ifaces w.statics hmodem
  rw [step, Books]
  dsimp only
  rw [hifaces, hflt]
  refine Kept.refresh h (fun ip => ?_) fwNew
  rw [List.map_map]
  exact hf ip

theorem step_linkDown (alloc : Alloc) (h : w.Books fw) {n : Nat} (hf : w.Finds (.linkDown n)) :
    (w.step alloc (.linkDown n)).Books fw := by
  have hother : ∀ j : Iface, j.conf.ipaIfNum ≠ n → ∀ g,
      j.eventCallback alloc (.linkDown n) g = (some j, g) := fun j hj g =>
    eventCallback_other hj (.inr (.inr rfl)) g
  obtain hnone | ⟨pre, i, post, hi, hn, hpre, hpost⟩ := h.distinct.cases n
  · exact step_books_of_quiet h fun j hj g => hother j (hnone j hj) g
  have hk : Kept (pre.map (·.pdnView) ++ i.pdnView :: post.map (·.pdnView))
      w.statics.fltView fw := by
    rw [← books_mid (g := w.statics), ← hi]
    exact h
  have hm := hk.modem_mid
  have hcb : i.eventCallback alloc (.linkDown n) w.statics =
      (none, i.handleDownEvtEx w.statics) := by
    have hq6 : i.conf.staMode = .q6Wan := hm.q6
    rw [Iface.eventCallback, if_pos hn.symm, hq6]
  have hf := hf pre i post hi hn
  rw [step, hi, deliver_mid (fun j hj => hother j (hpre j hj)) (fun j hj => hother j (hpost j hj)),
    hcb, Books]
  dsimp only [Option.toList, List.nil_append]
  rw [List.map_append]
  split at hf
  case isTrue hembms =>
    rw [Iface.handleDownEvtEx, if_pos hembms, Iface.installWanFilteringRule_fltView]
    exact hk.forget hf
  case isFalse hembms =>
    rw [Iface.handleDownEvtEx_fltView hm (Bool.eq_false_of_not_eq_true hembms)]
    refine hk.down fun ip => ?_
    rw [← List.map_append, List.map_map]
    exact hf ip

theorem deliver_others (alloc : Alloc) {n : Nat} {u : Upstream} (fwNew : FirewallConf)
    {is : List Iface} (done rest : List PdnView) (hn : ∀ j ∈ is, j.conf.ipaIfNum ≠ n)
    (hidle : u.ipType = .v4 ∨ ∀ j ∈ is, j.active u.ipType = false) {g : Statics}
    (h : Kept (done ++ (is.map (·.pdnView) ++ rest)) g.fltView fw) :
    Kept (done ++ ((deliver alloc (.upstreamRouteAdd n u fwNew) is g).1.map (·.pdnView) ++ rest))
        (deliver alloc (.upstreamRouteAdd n u fwNew) is g).2.fltView fw ∧
      ∀ j ∈ (deliver alloc (.upstreamRouteAdd n u fwNew) is g).1,
        j.active u.ipType = false := by
  induction is generalizing g done with
  | nil => exact ⟨h, fun j hj => absurd hj List.not_mem_nil⟩
  | cons i is ih =>
    have hcb : i.eventCallback alloc (.upstreamRouteAdd n u fwNew) g =
        (some (i.handleOtherRouteAdd u.ipType g).1, (i.handleOtherRouteAdd u.ipType g).2) :=
      if_neg (hn i List.mem_cons_self).symm
    have hk : Kept (done ++ i.pdnView :: (is.map (·.pdnView) ++ rest)) g.fltView fw := h
    have hstep : Kept (done ++ (i.handleOtherRouteAdd u.ipType g).1.pdnView ::
          (is.map (·.pdnView) ++ rest)) (i.handleOtherRouteAdd u.ipType g).2.fltView fw ∧
        (i.handleOtherRouteAdd u.ipType g).1.active u.ipType = false := by
      cases hon : i.active u.ipType with
      | false =>
        rw [Iface.handleOtherRouteAdd, hon, if_neg Bool.false_ne_true]
        exact ⟨hk, hon⟩
      | true =>
        have hv4 : u.ipType = .v4 := hidle.resolve_right fun hall =>
          Bool.false_ne_true ((hall i List.mem_cons_self).symm.trans hon)
        rw [hv4] at hon ⊢
        have hm := hk.modem_mid
        have haddr : i.pdnView.hasAddr .v4 = true :=
          (hk.sound_mid .v4).hasAddr (i.pdnView.pdn .v4) (by simp) hon
        have hview := Iface.viewOf_handleOtherRouteAdd hm.q6
          (hm.tx .v4 (Kept.has_of_hasAddr hm haddr)) hon g
        obtain ⟨hfst, hsnd⟩ := Prod.mk.inj hview
        refine ⟨?_, ?_⟩
        · rw [hfst, hsnd]
          exact hk.leaveRoute hon
        · exact congrArg (fun v => v.active .v4) hfst
    rw [List.append_cons] at hstep
    obtain ⟨hkept, hall⟩ := ih _ (fun j hj => hn j (List.mem_cons_of_mem _ hj))
      (hidle.imp_right fun hall j hj => hall j (List.mem_cons_of_mem _ hj)) hstep.1
    rw [deliver_cons, hcb]
    refine ⟨?_, fun j hj => ?_⟩
    · rw [← List.append_cons] at hkept
      exact hkept
    · rcases List.mem_cons.mp hj with rfl | hj
      · exact hstep.2
      · exact hall j hj

theorem hasAddr_of_takesRoute {i : Iface} {u : Upstream} (hm : i.pdnView.Modem)
    (ht : i.TakesRoute u) : i.pdnView.hasAddr u.ipType = true := by
  obtain ⟨hhas, hpfx, -, -⟩ := ht
  cases hu : u.ipType with
  | v4 => exact hm.v4.trans (hu ▸ hhas)
  | v6 => exact decide_eq_true (hm.pfx fun hzero => hpfx ⟨hu, hzero⟩)

theorem step_upstreamRouteAdd (alloc : Alloc) (h : w.Books fw) {n : Nat} {u : Upstream}
    {fwNew : FirewallConf} (hf : w.Finds (.upstreamRouteAdd n u fwNew)) :
    (w.step alloc (.upstreamRouteAdd n u fwNew)).Books
      (w.reads fw (.upstreamRouteAdd n u fwNew)) := by
  obtain hnone | ⟨pre, i, post, hi, hn, hpre, hpost⟩ := h.distinct.cases n
  · have hreads : w.reads fw (.upstreamRouteAdd n u fwNew) = fw := by
      refine if_neg ?_
      rintro ⟨i, hi, hn, -⟩
      exact hnone i hi hn
    have hidle : u.ipType = .v4 ∨ ∀ j ∈ w.ifaces, j.active u.ipType = false := by
      cases hu : u.ipType with
      | v4 => exact .inl rfl
      | v6 =>
        rw [Finds, hu] at hf
        exact .inr fun j hj => hf j hj (hnone j hj)
    have hkept := (deliver_others alloc fwNew [] [] hnone hidle
      (by rwa [List.nil_append, List.append_nil])).1
    rw [hreads]
    rwa [List.nil_append, List.append_nil] at hkept
  have hk : Kept (pre.map (·.pdnView) ++ i.pdnView :: post.map (·.pdnView))
      w.statics.fltView fw := by
    rw [← books_mid (g := w.statics), ← hi]
    exact h
  have hreads : w.reads fw (.upstreamRouteAdd n u fwNew) =
      if i.TakesRoute u then Function.update fw u.ipType fwNew else fw := by
    refine if_congr ?_ rfl rfl
    constructor
    · rintro ⟨j, hj, hjn, ht⟩
      rw [hi, List.mem_append, List.mem_cons] at hj
      rcases hj with hj | rfl | hj
      · exact absurd hjn (hpre j hj)
      · exact ht
      · exact absurd hjn (hpost j hj)
    · exact fun ht => ⟨i, by rw [hi]; simp, hn, ht⟩
  have hidle : ∀ js : List Iface, (∀ j ∈ js, j ∈ w.ifaces ∧ j.conf.ipaIfNum ≠ n) →
      u.ipType = .v4 ∨ ∀ j ∈ js, j.active u.ipType = false := by
    intro js hjs
    cases hu : u.ipType with
    | v4 => exact .inl rfl
    | v6 =>
      rw [Finds, hu] at hf
      exact .inr fun j hj => hf j (hjs j hj).1 (hjs j hj).2
  have hmemPre : ∀ j ∈ pre, j ∈ w.ifaces ∧ j.conf.ipaIfNum ≠ n := fun j hj =>
    ⟨by rw [hi]; exact List.mem_append_left _ hj, hpre j hj⟩
  have hmemPost : ∀ j ∈ post, j ∈ w.ifaces ∧ j.conf.ipaIfNum ≠ n := fun j hj =>
    ⟨by rw [hi]; exact List.mem_append_right _ (List.mem_cons_of_mem _ hj), hpost j hj⟩
  -- those before the instance, the instance, and those behind it
  obtain ⟨hkPre, hidlePre⟩ := deliver_others alloc fwNew [] (i.pdnView :: post.map Iface.pdnView)
    hpre (hidle pre hmemPre) hk
  rw [step, hi, deliver_append, deliver_cons, hreads]
  generalize deliver alloc (.upstreamRouteAdd n u fwNew) pre w.statics = x at hkPre hidlePre ⊢
  have hcb : i.eventCallback alloc (.upstreamRouteAdd n u fwNew) x.2 =
      (some (i.handleUpstreamRouteAdd alloc u fwNew x.2).1,
        (i.handleUpstreamRouteAdd alloc u fwNew x.2).2) := if_pos hn.symm
  have hkI : Kept (x.1.map (·.pdnView) ++
      ((i.handleUpstreamRouteAdd alloc u fwNew x.2).1.pdnView :: post.map (·.pdnView)))
      (i.handleUpstreamRouteAdd alloc u fwNew x.2).2.fltView
      (if i.TakesRoute u then Function.update fw u.ipType fwNew else fw) := by
    have hk' : Kept (x.1.map (·.pdnView) ++ i.pdnView :: post.map (·.pdnView)) x.2.fltView fw :=
      hkPre
    obtain ⟨ht, hview⟩ | ⟨ht, dgw, isBridge, hview⟩ :=
      Iface.handleUpstreamRouteAdd_view alloc hk'.modem_mid u fwNew x.2
    · obtain ⟨hfst, hsnd⟩ := Prod.mk.inj hview
      rw [if_pos ht, hfst, hsnd]
      refine hk'.routeUp (hasAddr_of_takesRoute hk'.modem_mid ht) ?_ fwNew i.conf.isBridge
      refine Kept.forall_mid.mpr ⟨fun v hv => ?_, ht.2.2.1, fun v hv => ?_⟩
      · obtain ⟨j, hj, rfl⟩ := List.mem_map.mp hv
        exact hidlePre j hj
      · obtain ⟨j, hj, rfl⟩ := List.mem_map.mp hv
        cases hu : u.ipType with
        | v4 =>
          rw [Finds, hu] at hf
          exact hf pre i post hi hn ht j hj
        | v6 =>
          rw [Finds, hu] at hf
          exact hf j (hmemPost j hj).1 (hmemPost j hj).2
    · obtain ⟨hfst, hsnd⟩ := Prod.mk.inj hview
      rw [if_neg ht, hfst, hsnd]
      exact hk'.setDefaultGateway dgw isBridge
  rw [List.append_cons, ← List.append_nil (post.map _)] at hkI
  have hkPost := (deliver_others alloc fwNew _ [] hpost (hidle post hmemPost) hkI).1
  rw [List.append_nil, ← List.append_cons] at hkPost
  rw [hcb, Books]
  simpa using hkPost

theorem step_books (alloc : Alloc) (h : w.Books fw) {ev : WanEvent} (hev : ev.IsPdn)
    (hf : w.Finds ev) : (w.step alloc ev).Books (w.reads fw ev) := by
  cases ev with
  | addrAdd n a => exact step_addrAdd alloc h hf
  | upstreamRouteAdd n u fwNew => exact step_upstreamRouteAdd alloc h hf
  | upstreamRouteDel n ip => exact step_upstreamRouteDel alloc h hf
  | firewallChange fwNew => exact step_firewallChange alloc h hf
  | linkDown n => exact step_linkDown alloc h hf
  | neighClientIpAddrAdd n mac a fwNew => exact hev.elim
  | wlanLinkDown n => exact hev.elim

/-! ## What the modem is sent -/

end World

/-- The instance has an address of the family, a global one for IPv6. -/
def Iface.HasAddress (i : Iface) : IpType → Prop
  | .v4 => i.wanV4AddrSet = true
  | .v6 => ∃ a ∈ i.ipv6Addr, isGlobalIpv6Addr a = true

instance (i : Iface) (ip : IpType) : Decidable (i.HasAddress ip) := by
  cases ip
  · exact inferInstanceAs (Decidable (i.wanV4AddrSet = true))
  · exact inferInstanceAs (Decidable (∃ a ∈ i.ipv6Addr, Iface.isGlobalIpv6Addr a = true))

namespace World

variable {alloc : Alloc} {w : World} {fw : IpType → FirewallConf}

/-- The default rules while some instance has an address of the family, and the others of
the one that is active for it. -/
def downlinkRules (w : World) (fw : FirewallConf) (isBridge : Bool) (ip : IpType) :
    List FltRule :=
  if ∃ i ∈ w.ifaces, i.HasAddress ip then
    dftRules ip ++
      match w.ifaces.find? (·.active ip) with
      | none => []
      | some i =>
        tcpCtrlRules i.conf.metaData ip ++
          wanRules w.statics.algPorts fw isBridge i.conf.metaData ip
  else []

/-- What the modem is sent for a family is these rules, built with the configuration that
was read last. -/
def Reflects (w : World) (fw : IpType → FirewallConf) : Prop :=
  ∀ ip, ∃ isBridge,
    (w.statics.flt ip).sent = (w.downlinkRules (fw ip) isBridge ip).map some

theorem hasAddress_iff {i : Iface} (hm : i.pdnView.Modem) (ip : IpType) :
    i.HasAddress ip ↔ i.pdnView.hasAddr ip = true := by
  cases ip with
  | v4 => exact Iff.rfl
  | v6 => exact hm.global.trans decide_eq_true_iff.symm

theorem Books.reflects (h : w.Books fw) : w.Reflects fw := by
  intro ip
  obtain ⟨isBridge, hshows⟩ := (Kept.sound h ip).shows
  refine ⟨isBridge, hshows.sent.trans (congrArg (List.map some) ?_)⟩
  have hmodem : ∀ i ∈ w.ifaces, i.pdnView.Modem := fun i hi =>
    Kept.modem h _ (List.mem_map_of_mem hi)
  have hpresent : Pdn.present ((w.ifaces.map (·.pdnView)).map (·.pdn ip)) = true ↔
      ∃ i ∈ w.ifaces, i.HasAddress ip := by
    rw [Pdn.present_eq_true, List.map_map]
    constructor
    · rintro ⟨q, hq, haddr⟩
      obtain ⟨i, hi, rfl⟩ := List.mem_map.mp hq
      exact ⟨i, hi, (hasAddress_iff (hmodem i hi) ip).mpr haddr⟩
    · rintro ⟨i, hi, haddr⟩
      exact ⟨_, List.mem_map_of_mem hi, (hasAddress_iff (hmodem i hi) ip).mp haddr⟩
  have hactive : Pdn.activeMeta ((w.ifaces.map (·.pdnView)).map (·.pdn ip)) =
      (w.ifaces.find? (·.active ip)).map (·.conf.metaData) := by
    rw [Pdn.activeMeta, List.map_map, List.find?_map, Option.map_map]
    rfl
  rw [Pdn.rules, hactive, downlinkRules]
  refine if_congr hpresent ?_ rfl
  cases w.ifaces.find? (·.active ip) with
  | none => rfl
  | some i => rfl

/-- The instances as they are made. -/
def pdns (confs : List Conf) (algPorts : List (Nat × Nat)) : World :=
  ⟨confs.map .init, .init algPorts⟩

theorem pdns_books {confs : List Conf} (hconfs : ∀ c ∈ confs, c.staMode = .q6Wan ∧ c.rx ≠ [])
    (hdistinct : (confs.map (·.ipaIfNum)).Nodup) (algPorts : List (Nat × Nat))
    (fw : IpType → FirewallConf) : (pdns confs algPorts).Books fw := by
  have hnone : ∀ (ip : IpType), ∀ q ∈ (((pdns confs algPorts).ifaces.map (·.pdnView)).map
      (·.pdn ip)), q.hasAddr = false ∧ q.active = false := by
    intro ip q hq
    simp only [pdns, List.map_map, List.mem_map] at hq
    obtain ⟨c, -, rfl⟩ := hq
    refine ⟨?_, rfl⟩
    cases ip <;> rfl
  refine ⟨fun v hv => ?_, ?_, fun ip => ⟨⟨false, ?_⟩, ?_, fun q hq hon => ?_, ?_⟩⟩
  · simp only [pdns, List.map_map, List.mem_map] at hv
    obtain ⟨c, hc, rfl⟩ := hv
    obtain ⟨hq6, hrx⟩ := hconfs c hc
    refine ⟨hq6, hrx, rfl, fun _ => rfl, fun ip hhas => ?_, rfl, fun hne => absurd rfl hne,
      fun hne => absurd rfl hne, ?_⟩
    · cases ip <;> exact absurd hhas Bool.false_ne_true
    · exact ⟨fun ⟨a, ha, _⟩ => absurd ha List.not_mem_nil,
        fun h => absurd (show 1 < 0 from h) (by decide)⟩
  · simp only [pdns, List.map_map]
    exact hdistinct
  · rw [Pdn.rules_of_absent fun q hq => (hnone ip q hq).1]
    exact ⟨rfl, Table.starts_nil _⟩
  · rw [List.countP_eq_zero.mpr fun q hq => by simp [(hnone ip q hq).1]]
    rfl
  · exact absurd ((hnone ip q hq).2.symm.trans hon) Bool.false_ne_true
  · rw [List.countP_eq_zero.mpr fun q hq => by simp [(hnone ip q hq).2]]
    exact Nat.zero_le 1

/-- The instances and the configurations that were read last, along a run. -/
def watch (alloc : Alloc) (w : World) (evs : List WanEvent) :
    World × (IpType → FirewallConf) :=
  evs.foldl (fun x ev => (x.1.step alloc ev, x.1.reads x.2 ev)) (w, fun _ => .dft)

theorem watch_concat (w : World) (evs : List WanEvent) (ev : WanEvent) :
    w.watch alloc (evs ++ [ev]) =
      ((w.watch alloc evs).1.step alloc ev,
        (w.watch alloc evs).1.reads (w.watch alloc evs).2 ev) :=
  List.foldl_concat ..

theorem watch_run (w : World) (evs : List WanEvent) :
    (w.watch alloc evs).1 = w.run alloc evs := by
  induction evs using List.reverseRecOn with
  | nil => rfl
  | append_singleton evs ev ih =>
    rw [watch_concat, ih, run, run, List.foldl_concat]

/-- All along a run of PDNs whose events find what they must, the modem is sent the rules
there should be. -/
theorem run_reflects (alloc : Alloc) {confs : List Conf}
    (hconfs : ∀ c ∈ confs, c.staMode = .q6Wan ∧ c.rx ≠ [])
    (hdistinct : (confs.map (·.ipaIfNum)).Nodup) (algPorts : List (Nat × Nat))
    {evs : List WanEvent} (hevs : ∀ ev ∈ evs, ev.IsPdn)
    (hfinds : ∀ pre ev, pre ++ [ev] <+: evs →
      ((pdns confs algPorts).run alloc pre).Finds ev) :
    ∀ pre, pre <+: evs → ((pdns confs algPorts).run alloc pre).Reflects
      ((pdns confs algPorts).watch alloc pre).2 := by
  intro pre hpre
  suffices hbooks : ((pdns confs algPorts).watch alloc pre).1.Books
      ((pdns confs algPorts).watch alloc pre).2 by
    rw [watch_run] at hbooks
    exact hbooks.reflects
  induction pre using List.reverseRecOn with
  | nil => exact pdns_books hconfs hdistinct algPorts _
  | append_singleton pre ev ih =>
    have hbooks := ih ((List.prefix_append pre [ev]).trans hpre)
    have hf := hfinds pre ev hpre
    rw [← watch_run] at hf
    rw [watch_concat]
    exact step_books alloc hbooks (hevs ev (hpre.subset (by simp))) hf

theorem second_of_two {is pre post : List Iface} {i : Iface} {n m : Nat} (hne : n ≠ m)
    (his : is.map (·.conf.ipaIfNum) = [n, m]) (hi : is = pre ++ i :: post)
    (hn : i.conf.ipaIfNum = m) : ∃ a, is = [a, i] ∧ pre = [a] ∧ post = [] := by
  subst hi
  rcases pre with _ | ⟨a, _ | ⟨b, pre⟩⟩
  · rw [List.nil_append, List.map_cons] at his
    exact absurd ((List.cons.inj his).1.symm.trans hn) hne
  · have hlen := congrArg List.length his
    have hpost : post = [] := List.eq_nil_of_length_eq_zero (by simpa using hlen)
    exact ⟨a, by rw [hpost]; rfl, rfl, hpost⟩
  · have hlen := congrArg List.length his
    simp at hlen

/-- Two PDNs. -/
def twoPdns : World :=
  pdns [⟨1, "rmnet_data0", .q6Wan, false, false, [.v4, .v6], [1, 2], [1]⟩,
    ⟨2, "rmnet_data1", .q6Wan, false, false, [.v4, .v6], [3, 4], [2]⟩] []

/-- The second PDN takes the IPv4 route over from the first, and goes. -/
def handedOver : List WanEvent :=
  [.addrAdd 1 (.v4 0x0A000001), .addrAdd 2 (.v4 0x0A000002),
    .upstreamRouteAdd 1 (.v4 none) .dft, .upstreamRouteAdd 2 (.v4 none) .dft,
    .firewallChange .dft, .linkDown 2]

theorem handedOver_reflects :
    (twoPdns.run nextHandle (handedOver.take 5)).Reflects
        (twoPdns.watch nextHandle (handedOver.take 5)).2 ∧
      (twoPdns.run nextHandle handedOver).Reflects (twoPdns.watch nextHandle handedOver).2 := by
  suffices hfinds : ∀ pre ev, pre ++ [ev] <+: handedOver →
      (twoPdns.run nextHandle pre).Finds ev by
    have hevs : ∀ ev ∈ handedOver, ev.IsPdn := by simp [handedOver, WanEvent.IsPdn]
    have hreflects := run_reflects nextHandle (by decide) (by decide) [] hevs hfinds
    exact ⟨hreflects _ (List.take_prefix 5 handedOver), hreflects _ List.prefix_rfl⟩
  refine forall_concat_of_take fun k hk => ?_
  have hk : k < 6 := hk
  interval_cases k
  · trivial
  · trivial
  · rintro pre i post hi - - j hj
    exact (by decide : ∀ j ∈ (twoPdns.run nextHandle (handedOver.take 2)).ifaces,
      j.active .v4 = false) j (by rw [hi]; simp [hj])
  · rintro pre i post hi hn - j hj
    obtain ⟨a, -, -, rfl⟩ := second_of_two (by decide : 1 ≠ 2) (by decide) hi hn
    exact absurd hj List.not_mem_nil
  · intro ip
    cases ip with
    | v4 => exact rfl
    | v6 =>
      show ∀ q ∈ (twoPdns.run nextHandle (handedOver.take 4)).ifaces.map
        (·.pdnView.pdn .v6), q.active = false
      decide
  · rintro pre i post hi hn
    obtain ⟨a, his, rfl, rfl⟩ := second_of_two (by decide : 1 ≠ 2) (by decide) hi hn
    have hboth : ∀ j ∈ (twoPdns.run nextHandle (handedOver.take 5)).ifaces,
        j.conf.isEmbms = false ∧ j.pdnView.hasAddr .v6 = false := by decide
    have hfirst : ((twoPdns.run nextHandle (handedOver.take 5)).ifaces.map
        fun j => (j.active .v4, (j.pdnView.pdn .v4).refreshes)) =
        [(false, false), (true, true)] := by decide
    rw [his, List.map_cons, List.map_cons, List.map_nil, List.cons.injEq, List.cons.injEq,
      Prod.mk.injEq, Prod.mk.injEq] at hfirst
    obtain ⟨⟨hoff, -⟩, ⟨-, hrefreshes⟩, -⟩ := hfirst
    rw [if_neg (by simp [(hboth i (by rw [his]; simp)).1])]
    intro ip hpresent
    obtain ⟨q, hq, haddr⟩ := Pdn.present_eq_true.mp hpresent
    cases ip with
    | v4 =>
      refine (if_pos hrefreshes).mpr ⟨rfl, fun q hq => ?_⟩
      obtain rfl : q = a.pdnView.pdn .v4 := by simpa using hq
      exact hoff
    | v6 =>
      obtain rfl : q = a.pdnView.pdn .v6 := by simpa using hq
      exact absurd ((hboth a (by rw [his]; simp)).2.symm.trans haddr) Bool.false_ne_true

/-- The firewall changes, while the PDN has the IPv4 route only: the modem is sent slots
that are zeroed for IPv6. -/
theorem v4Route_not_reflects :
    let evs : List WanEvent := [.addrAdd 1 (.v4 0x0A000001),
      .addrAdd 1 (.v6 0xFE800000000000000000000000000001),
      .addrAdd 1 (.v6 0x20010DB8000000000000000000000001),
      .upstreamRouteAdd 1 (.v4 none) .dft, .firewallChange .dft]
    let w := twoPdns.run nextHandle evs
    none ∈ (w.statics.flt .v6).sent ∧ some (.icmp .v6 2) ∈ (w.statics.flt .v6).sent ∧
      (∀ i ∈ w.ifaces, i.active .v6 = false) ∧
      ¬ w.Reflects (twoPdns.watch nextHandle evs).2 := by
  intro evs w
  have hnone : none ∈ (w.statics.flt .v6).sent := by decide
  refine ⟨hnone, by decide, by decide, fun hreflects => ?_⟩
  obtain ⟨isBridge, hsent⟩ := hreflects .v6
  rw [hsent] at hnone
  simp at hnone

end World

end Axon7.Wan
