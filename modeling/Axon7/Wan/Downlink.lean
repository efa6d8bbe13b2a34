import Axon7.Lib.Run
import Axon7.Wan.Iface

/-!
# The downlink rules of a family

What a table of rules for the modem should hold, for the PDNs that have addresses of the
family and the one that is active for it; and what becomes of it as these come, go and
are active in turn. For IPv6 the rules for TCP control are counted in with the default
ones, and stay when the others go.
-/

namespace Axon7.Wan

open Axon7.Tether (IpType)

/-! ## Rules in a table -/

namespace Table

variable {t : Table} {rs rs' : List FltRule}

/-- The rules are the first in the array. -/
def Starts (rs : List FltRule) (t : Table) : Prop := ∀ i < rs.length, t.rule i = rs[i]?

/-- The rules are those in use. -/
def Shows (rs : List FltRule) (t : Table) : Prop := t.num = rs.length ∧ t.Starts rs

theorem Shows.sent (h : t.Shows rs) : t.sent = rs.map some := by
  refine List.ext_getElem? fun i => ?_
  rw [Table.sent, h.1, List.getElem?_map, List.getElem?_map]
  by_cases hi : i < rs.length
  · rw [List.getElem?_range hi, Option.map_some, h.2 i hi, List.getElem?_eq_getElem hi]
    rfl
  · rw [List.getElem?_eq_none (by simpa using hi), List.getElem?_eq_none (by simpa using hi)]
    rfl

theorem starts_nil (t : Table) : t.Starts [] := fun _ hi => absurd hi (Nat.not_lt_zero _)

theorem Starts.left (h : t.Starts (rs ++ rs')) : t.Starts rs := by
  intro i hi
  rw [h i (by rw [List.length_append]; omega), List.getElem?_append_left hi]

theorem Starts.zeroFrom (h : t.Starts rs) {n : Nat} (hn : rs.length ≤ n) :
    (t.zeroFrom n).Starts rs := by
  intro i hi
  rw [Table.zeroFrom]
  dsimp only
  rw [if_pos (by omega)]
  exact h i hi

theorem Starts.addRules (h : t.Starts rs) : (t.addRules rs.length rs').Starts (rs ++ rs') := by
  induction rs' generalizing rs t with
  | nil =>
    rw [List.append_nil]
    exact h
  | cons r rs' ih =>
    have hr : Starts (rs ++ [r])
        { rule := Function.update t.rule rs.length (some r), num := t.num + 1 } := by
      intro i hi
      rw [List.length_append, List.length_singleton] at hi
      rcases eq_or_ne i rs.length with rfl | hne
      · simp
      · have hlt : i < rs.length := by omega
        dsimp only
        rw [Function.update_of_ne hne, List.getElem?_append_left hlt]
        exact h i hlt
    have := ih hr
    rw [List.length_append, List.append_assoc] at this
    exact this

theorem addRules_num (offset : Nat) (rs : List FltRule) (t : Table) :
    (t.addRules offset rs).num = t.num + rs.length := by
  induction rs generalizing offset t with
  | nil => rfl
  | cons r rs ih =>
    rw [Table.addRules, ih, List.length_cons]
    dsimp only
    omega

theorem Shows.addRules (h : t.Shows rs) (rs' : List FltRule) :
    (t.addRules t.num rs').Shows (rs ++ rs') := by
  refine ⟨by rw [addRules_num, h.1, List.length_append], ?_⟩
  rw [h.1]
  exact h.2.addRules

end Table

/-! ## The rules there should be -/

variable {ip : IpType}

/-- The default rules. -/
def dftRules (ip : IpType) : List FltRule := (List.range (numDftRule ip)).map (.dft ip)

/-- The rules for TCP control. -/
def tcpCtrlRules (metaData : Nat → Nat) : IpType → List FltRule
  | .v4 => []
  | .v6 => [.tcpCtrl .fin (metaData 0), .tcpCtrl .syn (metaData 0), .tcpCtrl .rst (metaData 0)]

/-- The rules for ICMP and ALG ports and the firewall. -/
def wanRules (algPorts : List (Nat × Nat)) (fw : FirewallConf) (isBridge : Bool)
    (metaData : Nat → Nat) (ip : IpType) : List FltRule :=
  Table.icmpAlgRules algPorts metaData ip ++ Table.firewallRules fw isBridge metaData ip

theorem length_dftRules_append (metaData : Nat → Nat) (ip : IpType) :
    (dftRules ip ++ tcpCtrlRules metaData ip).length = numDftWanFltRule ip := by
  cases ip <;> rfl

namespace Table

variable {t : Table} {rs rs' : List FltRule} {algPorts : List (Nat × Nat)} {fw : FirewallConf}
  {isBridge : Bool} {metaData metaData' : Nat → Nat}

theorem shows_reset (ip : IpType) (t : Table) : (t.reset ip).Shows (dftRules ip) := by
  have hnil : Shows [] { t with num := 0 } := ⟨rfl, starts_nil _⟩
  exact hnil.addRules (dftRules ip)

theorem shows_cleared (t : Table) : Shows [] { t.zeroFrom 0 with num := 0 } :=
  ⟨rfl, starts_nil _⟩

theorem Starts.delWanFirewallRule (h : t.Starts rs) (hlen : rs.length = numDftWanFltRule ip) :
    (t.delWanFirewallRule ip).Shows rs :=
  ⟨hlen.symm, h.zeroFrom hlen.le⟩

theorem Starts.configWan (h : t.Starts rs) (hlen : rs.length = numDftWanFltRule ip) :
    (Table.configDftFirewallRulesEx fw isBridge metaData
      (Table.addIcmpAlgRules algPorts metaData (numDftWanFltRule ip) ip
        { t with num := numDftWanFltRule ip }).num ip
      (Table.addIcmpAlgRules algPorts metaData (numDftWanFltRule ip) ip
        { t with num := numDftWanFltRule ip })).Shows
      (rs ++ wanRules algPorts fw isBridge metaData ip) := by
  have hbase : Shows rs { t with num := numDftWanFltRule ip } := ⟨hlen.symm, h⟩
  have hicmp := hbase.addRules (icmpAlgRules algPorts metaData ip)
  rw [wanRules, ← List.append_assoc]
  exact hicmp.addRules _

theorem Shows.configWanFirewallRule (h : t.Shows (dftRules ip)) :
    (t.configWanFirewallRule algPorts fw isBridge metaData ip).Shows
      (dftRules ip ++ tcpCtrlRules metaData ip ++
        wanRules algPorts fw isBridge metaData ip) := by
  cases ip with
  | v4 => exact h.2.configWan (length_dftRules_append metaData .v4)
  | v6 =>
    have htcp := h.addRules (tcpCtrlRules metaData .v6)
    exact htcp.2.configWan (length_dftRules_append metaData .v6)

theorem Shows.refresh (h : t.Shows rs) (hlen : rs.length = numDftWanFltRule ip) :
    (t.configWanFirewallRule algPorts fw isBridge metaData ip).Shows
      (rs ++ wanRules algPorts fw isBridge metaData ip) := by
  cases ip with
  | v4 => exact h.2.configWan hlen
  | v6 =>
    have htcp := h.addRules (tcpCtrlRules metaData .v6)
    exact htcp.2.left.configWan hlen

end Table

/-! ## The PDNs of a family -/

/-- A PDN, as far as one family is concerned: its meta data, whether it has an address of
the family and is active for it, and whether it takes itself for the one whose rules are
in the table. -/
structure Pdn where
  metaData : Nat → Nat
  hasAddr : Bool
  active : Bool
  refreshes : Bool

namespace Pdn

/-- Some PDN has an address of the family. -/
def present (ps : List Pdn) : Bool := ps.any (·.hasAddr)

/-- The meta data of the PDN that is active for the family. -/
def activeMeta (ps : List Pdn) : Option (Nat → Nat) := (ps.find? (·.active)).map (·.metaData)

/-- The rules there should be. -/
def rules (algPorts : List (Nat × Nat)) (fw : FirewallConf) (isBridge : Bool) (ip : IpType)
    (ps : List Pdn) : List FltRule :=
  if present ps then
    dftRules ip ++
      match activeMeta ps with
      | none => []
      | some metaData =>
        tcpCtrlRules metaData ip ++ wanRules algPorts fw isBridge metaData ip
  else []

variable {ps pre post : List Pdn} {p p' : Pdn} {algPorts : List (Nat × Nat)}
  {fw : FirewallConf} {isBridge : Bool}

theorem forall_mid {P : Pdn → Prop} : (∀ q ∈ pre ++ p :: post, P q) ↔
    (∀ q ∈ pre, P q) ∧ P p ∧ ∀ q ∈ post, P q := by
  simp [or_imp, forall_and]

theorem present_eq_true : present ps = true ↔ ∃ q ∈ ps, q.hasAddr = true := List.any_eq_true

theorem present_eq_false : present ps = false ↔ ∀ q ∈ ps, q.hasAddr = false := by
  simp [present]

theorem activeMeta_eq_none : activeMeta ps = none ↔ ∀ q ∈ ps, q.active = false := by
  simp [activeMeta]

theorem activeMeta_mid (hpre : ∀ q ∈ pre, q.active = false) (hp : p.active = true) :
    activeMeta (pre ++ p :: post) = some p.metaData := by
  have hnone : pre.find? (·.active) = none := by simpa using hpre
  rw [activeMeta, List.find?_append, hnone, Option.none_or, List.find?_cons, hp]
  rfl

theorem rules_of_absent (h : ∀ q ∈ ps, q.hasAddr = false) :
    rules algPorts fw isBridge ip ps = [] := by
  rw [rules, present_eq_false.mpr h]
  rfl

theorem rules_of_idle (h : present ps = true) (hidle : ∀ q ∈ ps, q.active = false) :
    rules algPorts fw isBridge ip ps = dftRules ip := by
  rw [rules, h, activeMeta_eq_none.mpr hidle, if_pos rfl]
  exact List.append_nil _

theorem rules_of_active (h : present ps = true) {metaData : Nat → Nat}
    (hm : activeMeta ps = some metaData) : rules algPorts fw isBridge ip ps =
      dftRules ip ++ tcpCtrlRules metaData ip ++ wanRules algPorts fw isBridge metaData ip := by
  rw [rules, h, hm, if_pos rfl, List.append_assoc]

theorem rules_congr {qs : List Pdn} (h : present qs = present ps)
    (h' : activeMeta qs = activeMeta ps) :
    rules algPorts fw isBridge ip qs = rules algPorts fw isBridge ip ps := by
  rw [rules, rules, h, h']

/-- The table is right: there are the rules there should be, the PDNs are counted, and at
most one is active, that has an address. -/
structure Sound (algPorts : List (Nat × Nat)) (fw : FirewallConf) (ip : IpType) (ps : List Pdn)
    (num : Int) (t : Table) : Prop where
  shows : ∃ isBridge, t.Shows (rules algPorts fw isBridge ip ps)
  num : num = ps.countP (·.hasAddr)
  hasAddr : ∀ q ∈ ps, q.active = true → q.hasAddr = true
  one : ps.countP (·.active) ≤ 1

variable {num : Int} {t : Table}

theorem Sound.others_idle (h : Sound algPorts fw ip (pre ++ p :: post) num t)
    (hp : p.active = true) : ∀ q ∈ pre ++ post, q.active = false := by
  have hone : pre.countP (·.active) + (post.countP (·.active) + 1) ≤ 1 := by
    simpa [List.countP_cons, hp] using h.one
  have hcount : (pre ++ post).countP (·.active) = 0 := by
    rw [List.countP_append]
    omega
  intro q hq
  exact Bool.eq_false_of_not_eq_true (List.countP_eq_zero.mp hcount q hq)

theorem Sound.activeMeta_mid (h : Sound algPorts fw ip (pre ++ p :: post) num t)
    (hp : p.active = true) : activeMeta (pre ++ p :: post) = some p.metaData :=
  Pdn.activeMeta_mid (fun q hq => h.others_idle hp q (List.mem_append_left _ hq)) hp

theorem Sound.congr (h : Sound algPorts fw ip (pre ++ p :: post) num t)
    (hmeta : p'.metaData = p.metaData) (haddr : p'.hasAddr = p.hasAddr)
    (hactive : p'.active = p.active) : Sound algPorts fw ip (pre ++ p' :: post) num t where
  shows := by
    obtain ⟨isBridge, hshows⟩ := h.shows
    refine ⟨isBridge, ?_⟩
    have hpresent : present (pre ++ p' :: post) = present (pre ++ p :: post) := by
      simp [present, haddr]
    have hactiveMeta : activeMeta (pre ++ p' :: post) = activeMeta (pre ++ p :: post) := by
      rw [activeMeta, activeMeta, List.find?_append, List.find?_append, List.find?_cons,
        List.find?_cons, hactive]
      cases pre.find? (·.active) with
      | some q => rfl
      | none =>
        cases p.active with
        | false => rfl
        | true => exact congrArg some hmeta
    rwa [rules_congr hpresent hactiveMeta]
  num := by
    rw [h.num]
    simp [List.countP_cons, haddr]
  hasAddr := by
    obtain ⟨hpre, hp, hpost⟩ := forall_mid.mp h.hasAddr
    exact forall_mid.mpr
      ⟨hpre, fun hon => haddr.trans (hp (hactive.symm.trans hon)), hpost⟩
  one := by
    have := h.one
    simpa [List.countP_cons, hactive] using this

theorem Sound.inactive (h : Sound algPorts fw ip ps num t) {q : Pdn} (hq : q ∈ ps)
    (haddr : q.hasAddr = false) : q.active = false :=
  Bool.eq_false_of_not_eq_true fun hon =>
    Bool.false_ne_true (haddr.symm.trans (h.hasAddr q hq hon))

theorem Sound.num_eq_zero (h : Sound algPorts fw ip ps num t) :
    num = 0 ↔ ∀ q ∈ ps, q.hasAddr = false := by
  rw [h.num, Int.natCast_eq_zero, List.countP_eq_zero]
  exact forall₂_congr fun q _ => Bool.not_eq_true _ ▸ Iff.rfl

theorem Sound.present (h : Sound algPorts fw ip ps num t) (hnum : num ≠ 0) :
    Pdn.present ps = true :=
  Bool.eq_true_of_not_eq_false fun hnone =>
    hnum (h.num_eq_zero.mpr (present_eq_false.mp hnone))

theorem Sound.init (h : Sound algPorts fw ip (pre ++ p :: post) num t) (hp : p.hasAddr = false) :
    Sound algPorts fw ip (pre ++ { p with hasAddr := true } :: post) (num + 1)
      (if num = 0 then t.reset ip else t) := by
  have hoff : p.active = false := h.inactive (by simp) hp
  have hpresent : Pdn.present (pre ++ { p with hasAddr := true } :: post) = true := by
    simp [Pdn.present]
  have hmeta : activeMeta (pre ++ { p with hasAddr := true } :: post) =
      activeMeta (pre ++ p :: post) := by
    simp [activeMeta, List.find?_append, hoff]
  obtain ⟨hpre, -, hpost⟩ := forall_mid.mp h.hasAddr
  refine ⟨?_, ?_, forall_mid.mpr ⟨hpre, fun _ => rfl, hpost⟩, ?_⟩
  · split
    case isTrue hnum =>
      have hidle : activeMeta (pre ++ p :: post) = none := activeMeta_eq_none.mpr fun q hq =>
        h.inactive hq (h.num_eq_zero.mp hnum q hq)
      refine ⟨false, ?_⟩
      rw [rules_of_idle hpresent (activeMeta_eq_none.mp (hmeta.trans hidle))]
      exact Table.shows_reset ip t
    case isFalse hnum =>
      obtain ⟨isBridge, hshows⟩ := h.shows
      refine ⟨isBridge, ?_⟩
      rwa [rules_congr (hpresent.trans (h.present hnum).symm) hmeta]
  · rw [h.num]
    simp [hp]
    omega
  · simpa [List.countP_cons] using h.one

theorem Sound.routeUp (h : Sound algPorts fw ip (pre ++ p :: post) num t) (hp : p.hasAddr = true)
    (hidle : ∀ q ∈ pre ++ p :: post, q.active = false) (fw' : FirewallConf) (isBridge : Bool) :
    Sound algPorts fw' ip (pre ++ { p with active := true } :: post) num
      (t.configWanFirewallRule algPorts fw' isBridge p.metaData ip) := by
  obtain ⟨hpre, -, hpost⟩ := forall_mid.mp hidle
  obtain ⟨haddrPre, -, haddrPost⟩ := forall_mid.mp h.hasAddr
  refine ⟨⟨isBridge, ?_⟩, ?_, forall_mid.mpr ⟨haddrPre, fun _ => hp, haddrPost⟩, ?_⟩
  · obtain ⟨isBridge', hshows⟩ := h.shows
    rw [rules_of_idle (present_eq_true.mpr ⟨p, by simp, hp⟩) hidle] at hshows
    rw [rules_of_active (present_eq_true.mpr ⟨{ p with active := true }, by simp, hp⟩)
      (Pdn.activeMeta_mid hpre rfl)]
    exact hshows.configWanFirewallRule
  · rw [h.num]
    simp [List.countP_cons]
  · have hnone : pre.countP (·.active) = 0 ∧ post.countP (·.active) = 0 :=
      ⟨List.countP_eq_zero.mpr fun q hq => by simp [hpre q hq],
        List.countP_eq_zero.mpr fun q hq => by simp [hpost q hq]⟩
    simp [hnone]

theorem Sound.routeDown (h : Sound algPorts fw .v4 (pre ++ p :: post) num t)
    (hp : p.active = true) :
    Sound algPorts fw .v4 (pre ++ { p with active := false } :: post) num
      (t.delWanFirewallRule .v4) := by
  have hothers := h.others_idle hp
  have haddr : p.hasAddr = true := h.hasAddr p (by simp) hp
  have hidle : ∀ q ∈ pre ++ { p with active := false } :: post, q.active = false :=
    forall_mid.mpr ⟨fun q hq => hothers q (List.mem_append_left _ hq), rfl,
      fun q hq => hothers q (List.mem_append_right _ hq)⟩
  refine ⟨⟨false, ?_⟩, ?_, fun q hq hon => ?_, ?_⟩
  · obtain ⟨isBridge, hshows⟩ := h.shows
    rw [rules_of_active (present_eq_true.mpr ⟨p, by simp, haddr⟩) (h.activeMeta_mid hp),
      List.append_assoc] at hshows
    rw [rules_of_idle (present_eq_true.mpr ⟨{ p with active := false }, by simp, haddr⟩) hidle]
    exact hshows.2.left.delWanFirewallRule rfl
  · rw [h.num]
    simp [List.countP_cons]
  · exact absurd ((hidle q hq).symm.trans hon) Bool.false_ne_true
  · rw [List.countP_eq_zero.mpr fun q hq => by simp [hidle q hq]]
    exact Nat.zero_le 1

/-! ## The firewall changes -/

/-- Each PDN that takes itself for the active one configures the firewall anew. -/
def refreshAll (algPorts : List (Nat × Nat)) (fw : FirewallConf) (isBridge : Bool) (ip : IpType)
    (ps : List Pdn) (t : Table) : Table :=
  ps.foldl (fun t p =>
    if p.refreshes then
      (t.delWanFirewallRule ip).configWanFirewallRule algPorts fw isBridge p.metaData ip
    else t) t

/-- The last that does so is the active one. -/
def Refreshed (ps : List Pdn) : Prop :=
  match ps.reverse.find? (·.refreshes) with
  | some p => p.active = true
  | none => ∀ q ∈ ps, q.active = false

variable {rs : List FltRule} (algPorts fw isBridge)

theorem refresh_shows (h : t.Starts rs) (hlen : rs.length = numDftWanFltRule ip)
    (metaData : Nat → Nat) :
    ((t.delWanFirewallRule ip).configWanFirewallRule algPorts fw isBridge metaData ip).Shows
      (rs ++ wanRules algPorts fw isBridge metaData ip) :=
  (h.delWanFirewallRule hlen).refresh hlen

theorem refreshAll_starts (h : t.Starts rs) (hlen : rs.length = numDftWanFltRule ip) :
    (refreshAll algPorts fw isBridge ip ps t).Starts rs := by
  induction ps generalizing t with
  | nil => exact h
  | cons p ps ih =>
    rw [refreshAll, List.foldl_cons]
    refine ih ?_
    split
    · exact (refresh_shows algPorts fw isBridge h hlen p.metaData).2.left
    · exact h

theorem refreshAll_none (h : ∀ q ∈ ps, q.refreshes = false) :
    refreshAll algPorts fw isBridge ip ps t = t := by
  induction ps with
  | nil => rfl
  | cons p ps ih =>
    rw [refreshAll, List.foldl_cons, h p List.mem_cons_self]
    exact ih fun q hq => h q (List.mem_cons_of_mem _ hq)

variable {algPorts fw isBridge}

theorem Sound.refresh (h : Sound algPorts fw ip ps num t) (hlast : Refreshed ps)
    (fw' : FirewallConf) (isBridge : Bool) :
    Sound algPorts fw' ip ps num (refreshAll algPorts fw' isBridge ip ps t) := by
  refine ⟨?_, h.num, h.hasAddr, h.one⟩
  obtain ⟨isBridge', hshows⟩ := h.shows
  rw [Refreshed] at hlast
  cases hfind : ps.reverse.find? (·.refreshes) with
  | some p =>
    rw [hfind] at hlast
    obtain ⟨hrefreshes, as, bs, hps, hlater⟩ := List.find?_eq_some_iff_append.mp hfind
    obtain rfl : ps = bs.reverse ++ p :: as.reverse := by
      simpa using congrArg List.reverse hps
    have hpresent : Pdn.present (bs.reverse ++ p :: as.reverse) = true :=
      present_eq_true.mpr ⟨p, by simp, h.hasAddr p (by simp) hlast⟩
    have hactive := h.activeMeta_mid hlast
    rw [rules_of_active hpresent hactive] at hshows
    refine ⟨isBridge, ?_⟩
    rw [rules_of_active hpresent hactive, refreshAll, List.foldl_append, List.foldl_cons,
      hrefreshes, if_pos rfl]
    have hlen := length_dftRules_append p.metaData ip
    have hstarts : (refreshAll algPorts fw' isBridge ip bs.reverse t).Starts
        (dftRules ip ++ tcpCtrlRules p.metaData ip) :=
      refreshAll_starts algPorts fw' isBridge hshows.2.left hlen
    have hrefresh := refresh_shows algPorts fw' isBridge hstarts hlen p.metaData
    rwa [← refreshAll, ← refreshAll, refreshAll_none]
    intro q hq
    simpa using hlater q (List.mem_reverse.mp hq)
  | none =>
    rw [hfind] at hlast
    have hnone : ∀ q ∈ ps, q.refreshes = false := by simpa using hfind
    rw [refreshAll_none algPorts fw' isBridge hnone]
    refine ⟨isBridge', ?_⟩
    cases hpresent : Pdn.present ps with
    | true =>
      rw [rules_of_idle hpresent hlast] at hshows ⊢
      exact hshows
    | false =>
      rw [rules_of_absent (present_eq_false.mp hpresent)] at hshows ⊢
      exact hshows

/-! ## A PDN goes -/

theorem Sound.forget (h : Sound algPorts fw ip (pre ++ p :: post) num t)
    (hp : p.hasAddr = false) : Sound algPorts fw ip (pre ++ post) num t := by
  have hoff : p.active = false := h.inactive (by simp) hp
  obtain ⟨hpre, -, hpost⟩ := forall_mid.mp h.hasAddr
  refine ⟨?_, ?_, fun q hq => ?_, ?_⟩
  · obtain ⟨isBridge, hshows⟩ := h.shows
    refine ⟨isBridge, ?_⟩
    have hpresent : Pdn.present (pre ++ post) = Pdn.present (pre ++ p :: post) := by
      simp [Pdn.present, hp]
    have hactiveMeta : activeMeta (pre ++ post) = activeMeta (pre ++ p :: post) := by
      simp [activeMeta, List.find?_append, hoff]
    rwa [rules_congr hpresent hactiveMeta]
  · rw [h.num]
    simp [hp]
  · rcases List.mem_append.mp hq with hq | hq
    · exact hpre q hq
    · exact hpost q hq
  · simpa [hoff] using h.one

/-- What a PDN must find that goes, if another has an address of the family: it takes what
is behind the default rules with it if it takes itself for the active one, and leaves all
else; for IPv6 the default rules do not come out right. -/
def LeavesWell (ip : IpType) (p : Pdn) (rest : List Pdn) : Prop :=
  present rest = true →
    if p.refreshes then ip = .v4 ∧ ∀ q ∈ rest, q.active = false else p.active = false

theorem Sound.leave (h : Sound algPorts fw ip (pre ++ p :: post) num t)
    (hleaves : LeavesWell ip p (pre ++ post)) {num' : Int}
    (hnum : num' = if p.hasAddr then num - 1 else num) {has : Prop} [Decidable has]
    (hhas : p.hasAddr = true ∨ p.refreshes = true → has) :
    Sound algPorts fw ip (pre ++ post) num'
      (if has ∧ num' = 0 then
        { (if p.refreshes then t.delWanFirewallRule ip else t).zeroFrom 0 with num := 0 }
      else if p.refreshes then t.delWanFirewallRule ip else t) := by
  have hcount : num' = (pre ++ post).countP (·.hasAddr) := by
    rw [hnum, h.num]
    cases hp : p.hasAddr
    · simp [hp]
    · simp [hp]
      omega
  obtain ⟨haddrPre, -, haddrPost⟩ := forall_mid.mp h.hasAddr
  obtain ⟨isBridge, hshows⟩ := h.shows
  refine ⟨⟨isBridge, ?_⟩, hcount, fun q hq => ?_, ?_⟩
  · by_cases hzero : num' = 0
    case pos =>
      have habsent : ∀ q ∈ pre ++ post, q.hasAddr = false := by
        rw [hzero] at hcount
        have := List.countP_eq_zero.mp (Int.natCast_eq_zero.mp hcount.symm)
        exact fun q hq => Bool.eq_false_of_not_eq_true (this q hq)
      rw [rules_of_absent habsent]
      by_cases hcleared : has
      · rw [if_pos ⟨hcleared, hzero⟩]
        exact Table.shows_cleared _
      · rw [if_neg fun hc => hcleared hc.1]
        have haddr : p.hasAddr = false := Bool.eq_false_of_not_eq_true fun hp =>
          hcleared (hhas (.inl hp))
        have hoff : p.refreshes = false := Bool.eq_false_of_not_eq_true fun hp =>
          hcleared (hhas (.inr hp))
        rw [rules_of_absent] at hshows
        · rwa [hoff, if_neg Bool.false_ne_true]
        · exact forall_mid.mpr ⟨fun q hq => habsent q (List.mem_append_left _ hq), haddr,
            fun q hq => habsent q (List.mem_append_right _ hq)⟩
    case neg =>
      rw [if_neg fun hc => hzero hc.2]
      have hpresent : Pdn.present (pre ++ post) = true := by
        refine Bool.eq_true_of_not_eq_false fun hnone => hzero ?_
        rw [hcount, List.countP_eq_zero.mpr fun q hq => by simp [present_eq_false.mp hnone q hq]]
        rfl
      have hpresent' : Pdn.present (pre ++ p :: post) = true := by
        rw [Pdn.present, List.any_append, Bool.or_eq_true] at hpresent
        rw [Pdn.present, List.any_append, List.any_cons]
        rcases hpresent with h | h <;> simp [h]
      have hwell := hleaves hpresent
      split at hwell
      case isTrue hrefreshes =>
        obtain ⟨rfl, hidle⟩ := hwell
        rw [if_pos hrefreshes, rules_of_idle hpresent hidle]
        rw [rules, hpresent', if_pos rfl] at hshows
        exact hshows.2.left.delWanFirewallRule rfl
      case isFalse hrefreshes =>
        rw [if_neg hrefreshes]
        rwa [rules_congr (hpresent.trans hpresent'.symm)]
        simp [activeMeta, List.find?_append, hwell]
  · rcases List.mem_append.mp hq with hq | hq
    · exact haddrPre q hq
    · exact haddrPost q hq
  · have hone := h.one
    rw [List.countP_append, List.countP_cons] at hone
    rw [List.countP_append]
    omega

end Pdn

end Axon7.Wan
