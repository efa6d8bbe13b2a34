import Axon7.Config.Xml
import Axon7.Wan.Downlink

/-!
# The slots that are written

The arrays `flt_rule_v4` and `flt_rule_v6` have `IPA_MAX_FLT_RULE` slots, and nothing
that writes to them looks at the bound. For one call of `config_wan_firewall_rule` it is
said here which slots it writes to, and when all of them are there.
-/

namespace Axon7.Wan

open Axon7.Tether (IpType)

/-- `IPA_MAX_FLT_RULE`. -/
def maxFltRule : Nat := 50

namespace Table

variable {offset : Nat} {rs : List FltRule} {t : Table} {ip : IpType}
  {algPorts : List (Nat × Nat)} {fw : FirewallConf} {isBridge : Bool} {metaData : Nat → Nat}

/-- The slots `addRules` writes to. -/
def written (offset : Nat) (rs : List FltRule) : List Nat := List.range' offset rs.length

/-- Where the rules of `config_wan_firewall_rule` start: behind the default rules, and
behind those of `add_icmp_alg_rules`. -/
def firewallOffset (algPorts : List (Nat × Nat)) (metaData : Nat → Nat) (ip : IpType) : Nat :=
  numDftWanFltRule ip + (icmpAlgRules algPorts metaData ip).length

/-- The slots `config_wan_firewall_rule` writes to, in turn: the rules for TCP control
are added where the table ends at the call. -/
def configWritten (algPorts : List (Nat × Nat)) (fw : FirewallConf) (isBridge : Bool)
    (metaData : Nat → Nat) (ip : IpType) (t : Table) : List Nat :=
  written t.num (tcpCtrlRules metaData ip) ++
    written (numDftWanFltRule ip) (icmpAlgRules algPorts metaData ip) ++
    written (firewallOffset algPorts metaData ip) (firewallRules fw isBridge metaData ip)

/-! ## The other slots are left alone -/

theorem mem_written {i : Nat} :
    i ∈ written offset rs ↔ offset ≤ i ∧ i < offset + rs.length := by
  rw [written, List.mem_range'_1]

theorem configWanFirewallRule_eq : t.configWanFirewallRule algPorts fw isBridge metaData ip =
    addRules (firewallOffset algPorts metaData ip) (firewallRules fw isBridge metaData ip)
      (addRules (numDftWanFltRule ip) (icmpAlgRules algPorts metaData ip)
        { addRules t.num (tcpCtrlRules metaData ip) t with num := numDftWanFltRule ip }) := by
  have hnum : ∀ t' : Table, (addRules (numDftWanFltRule ip) (icmpAlgRules algPorts metaData ip)
      { t' with num := numDftWanFltRule ip }).num = firewallOffset algPorts metaData ip :=
    fun t' => addRules_num ..
  cases ip with
  | v4 =>
    rw [configWanFirewallRule, configDftFirewallRulesEx, addIcmpAlgRules]
    dsimp only
    rw [hnum]
    rfl
  | v6 =>
    rw [configWanFirewallRule, configDftFirewallRulesEx, addIcmpAlgRules]
    dsimp only
    rw [hnum]
    rfl

/-! ## How many there are -/

/-- The rules `config_wan_firewall_rule` leaves in the table, counted from the files: the
default ones, those for ICMP and the ports of an ALG, two each, the one for fragments, one or
two for an entry, and the last. -/
def numWanRule (numAlg : Nat) (fw : FirewallConf) : IpType → Nat
  | .v4 => 2 + (1 + 2 * numAlg) + ((fw.split .v4).length + 1)
  | .v6 => 7 + 1 + ((if fw.hasFragRule .v6 then 1 else 0) + (fw.split .v6).length + 1)

theorem length_firewallRules : (firewallRules fw isBridge metaData ip).length =
    (if fw.hasFragRule ip then 1 else 0) + (fw.split ip).length + 1 := by
  rw [firewallRules, List.length_append, List.length_append, List.length_map,
    apply_ite List.length, List.length_singleton]
  rfl

theorem length_icmpAlgRules_v4 :
    (icmpAlgRules algPorts metaData .v4).length = 1 + 2 * algPorts.length := by
  rw [icmpAlgRules, List.length_cons, List.length_append, List.length_map, List.length_map]
  omega

theorem firewallOffset_add : firewallOffset algPorts metaData ip +
    (firewallRules fw isBridge metaData ip).length = numWanRule algPorts.length fw ip := by
  rw [length_firewallRules, firewallOffset]
  cases ip with
  | v4 =>
    have hfrag : fw.hasFragRule .v4 = false := rfl
    rw [length_icmpAlgRules_v4, hfrag, numWanRule, numDftWanFltRule,
      if_neg Bool.false_ne_true]
    omega
  | v6 => rfl

theorem configWan_num : (t.configWanFirewallRule algPorts fw isBridge metaData ip).num =
    numWanRule algPorts.length fw ip := by
  rw [configWanFirewallRule_eq, addRules_num, addRules_num, ← firewallOffset_add]
  rfl

/-! ## When the slots are there -/

/-- The rules of the files fit in the array, and so do those for TCP control behind what
the table has at the call. -/
def Fits (numAlg : Nat) (fw : FirewallConf) (t : Table) : IpType → Prop
  | .v4 => numWanRule numAlg fw .v4 ≤ maxFltRule
  | .v6 => numWanRule numAlg fw .v6 ≤ maxFltRule ∧ t.num + 3 ≤ maxFltRule

theorem written_lt {bound : Nat} (h : rs ≠ []) :
    (∀ i ∈ written offset rs, i < bound) ↔ offset + rs.length ≤ bound := by
  have hpos : 0 < rs.length := List.length_pos_of_ne_nil h
  constructor
  · intro hlt
    have hlast := hlt (offset + rs.length - 1) (mem_written.mpr (by omega))
    omega
  · intro hle i hi
    have := mem_written.mp hi
    omega

theorem configWritten_lt :
    (∀ i ∈ t.configWritten algPorts fw isBridge metaData ip, i < maxFltRule) ↔
      Fits algPorts.length fw t ip := by
  have hicmp : icmpAlgRules algPorts metaData ip ≠ [] := by
    cases ip <;> exact List.cons_ne_nil _ _
  have hfirewall : firewallRules fw isBridge metaData ip ≠ [] :=
    List.append_ne_nil_of_right_ne_nil _ (List.cons_ne_nil _ _)
  have hrules : ((∀ i ∈ written (numDftWanFltRule ip) (icmpAlgRules algPorts metaData ip),
      i < maxFltRule) ∧ ∀ i ∈ written (firewallOffset algPorts metaData ip)
        (firewallRules fw isBridge metaData ip), i < maxFltRule) ↔
      numWanRule algPorts.length fw ip ≤ maxFltRule := by
    have hoffset : numDftWanFltRule ip + (icmpAlgRules algPorts metaData ip).length =
        firewallOffset algPorts metaData ip := rfl
    have hnum : firewallOffset algPorts metaData ip +
        (firewallRules fw isBridge metaData ip).length = numWanRule algPorts.length fw ip :=
      firewallOffset_add
    rw [written_lt hicmp, written_lt hfirewall]
    omega
  simp only [configWritten, List.mem_append, or_imp, forall_and, and_assoc]
  rw [hrules]
  cases ip with
  | v4 =>
    have htcp : ∀ i ∈ written t.num (tcpCtrlRules metaData .v4), i < maxFltRule :=
      fun i hi => absurd hi List.not_mem_nil
    exact and_iff_right htcp
  | v6 =>
    have htcp : tcpCtrlRules metaData .v6 ≠ [] := List.cons_ne_nil _ _
    rw [written_lt htcp, and_comm]
    rfl

end Table

end Axon7.Wan
