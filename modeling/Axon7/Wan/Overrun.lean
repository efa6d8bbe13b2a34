import Axon7.Lib.Run
import Axon7.Wan.TableOps

/-!
# The arrays are overrun

In every run the calls of `config_wan_firewall_rule` write below `IPA_MAX_FLT_RULE`, and
no more rules than that are counted, just if the rules of the files fit at each call and
the IPv6 table leaves room for the rules for TCP control, which are written behind what it
has at the call. The files may be longer than that.
-/

namespace Axon7.Wan

open Axon7.Lib
open Axon7.Tether (IpType)

/-! ## One operation -/

namespace FltOp

/-- The slots that an operation writes rules to, if it is `config_wan_firewall_rule`. -/
def written (algPorts : List (Nat × Nat)) (t : Table) : FltOp → List Nat
  | .config ip conf isBridge fw => t.configWritten algPorts fw isBridge conf.metaData ip
  | .reset _ | .del _ | .clear _ => []

/-- What `config_wan_firewall_rule` writes fits. -/
def Fits (algPorts : List (Nat × Nat)) (t : Table) : FltOp → Prop
  | .config ip _ _ fw => Table.Fits algPorts.length fw t ip
  | .reset _ | .del _ | .clear _ => True

variable {algPorts : List (Nat × Nat)} {op : FltOp} {f : IpType → Table} {t : Table}

theorem written_lt : (∀ i ∈ op.written algPorts t, i < maxFltRule) ↔ op.Fits algPorts t := by
  cases op with
  | config ip conf isBridge fw => exact Table.configWritten_lt
  | reset ip | del ip | clear ip => exact iff_of_true (fun i hi => nomatch hi) trivial

theorem onTable_num {bound : Nat} (hbound : 7 ≤ bound)
    (hconfig : ∀ ip conf isBridge fw, op = .config ip conf isBridge fw →
      Table.numWanRule algPorts.length fw ip ≤ bound) :
    (op.onTable algPorts t).num ≤ bound := by
  cases op with
  | reset ip =>
    have hnum := (Table.shows_reset ip t).1
    have hlen : (dftRules ip).length ≤ 7 := by cases ip <;> decide
    exact hnum.trans_le (hlen.trans hbound)
  | del ip =>
    have hlen : numDftWanFltRule ip ≤ 7 := by cases ip <;> decide
    exact hlen.trans hbound
  | clear ip => exact Nat.zero_le bound
  | config ip conf isBridge fw =>
    have hnum : (onTable algPorts (.config ip conf isBridge fw) t).num =
      Table.numWanRule algPorts.length fw ip := Table.configWan_num
    rw [hnum]
    exact hconfig ip conf isBridge fw rfl

theorem apply_num {bound : IpType → Nat} (hf : ∀ ip, (f ip).num ≤ bound ip)
    (hop : (op.onTable algPorts (f op.ip)).num ≤ bound op.ip) (ip : IpType) :
    (apply algPorts f op ip).num ≤ bound ip := by
  rw [apply]
  rcases eq_or_ne ip op.ip with rfl | hne
  · rw [Function.update_self]
    exact hop
  · rw [Function.update_of_ne hne]
    exact hf ip

end FltOp

/-! ## All operations -/

section Ops

variable {algPorts : List (Nat × Nat)} {ops : List FltOp} {f : IpType → Table}

/-- All slots that are written to along the operations are there, and no more rules than
there are slots are counted. -/
def InBounds (algPorts : List (Nat × Nat)) (ops : List FltOp) (f : IpType → Table) : Prop :=
  (∀ pre op, pre ++ [op] <+: ops →
    ∀ i ∈ op.written algPorts (FltOp.replay algPorts pre f op.ip), i < maxFltRule) ∧
  ∀ pre, pre <+: ops → ∀ ip, (FltOp.replay algPorts pre f ip).num ≤ maxFltRule

/-- At each call the rules fit. -/
def AllFit (algPorts : List (Nat × Nat)) (ops : List FltOp) (f : IpType → Table) : Prop :=
  ∀ pre op, pre ++ [op] <+: ops → op.Fits algPorts (FltOp.replay algPorts pre f op.ip)

theorem FltOp.replay_concat (pre : List FltOp) (op : FltOp) :
    replay algPorts (pre ++ [op]) f = apply algPorts (replay algPorts pre f) op :=
  List.foldl_concat ..

theorem Table.Fits.num_le {numAlg : Nat} {fw : FirewallConf} {t : Table} {ip : IpType}
    (h : t.Fits numAlg fw ip) : numWanRule numAlg fw ip ≤ maxFltRule := by
  cases ip with
  | v4 => exact h
  | v6 => exact h.1

theorem inBounds_iff (hf : ∀ ip, (f ip).num ≤ maxFltRule) :
    InBounds algPorts ops f ↔ AllFit algPorts ops f := by
  have hwritten : (∀ pre op, pre ++ [op] <+: ops →
      ∀ i ∈ op.written algPorts (FltOp.replay algPorts pre f op.ip), i < maxFltRule) ↔
      AllFit algPorts ops f :=
    forall_congr' fun pre => forall_congr' fun op => imp_congr_right fun _ => FltOp.written_lt
  refine (and_congr_left' hwritten).trans (and_iff_left_of_imp fun hfit => ?_)
  intro pre
  induction pre using List.reverseRecOn with
  | nil => exact fun _ => hf
  | append_singleton pre op ih =>
    intro hpre
    have hnum := ih ((List.prefix_append pre [op]).trans hpre)
    rw [FltOp.replay_concat]
    refine FltOp.apply_num hnum (FltOp.onTable_num (by decide) ?_)
    intro ip conf isBridge fw hop
    have hlast := hfit pre op hpre
    rw [hop] at hlast
    exact Table.Fits.num_le hlast

end Ops

/-! ## Runs -/

/-- An instance is made, or all get an event. -/
inductive WanAct
  | opened (conf : Conf)
  | event (ev : WanEvent)

namespace World

variable (alloc : Alloc)

/-- What the instances do to the tables, in turn. -/
def deliverOps (ev : WanEvent) : List Iface → Statics → List FltOp
  | [], _ => []
  | i :: is, g =>
    i.eventOps alloc ev g ++ deliverOps ev is (i.eventCallback alloc ev g).2

def act (w : World) : WanAct → World
  | .opened conf => { w with ifaces := w.ifaces ++ [.init conf] }
  | .event ev => w.step alloc ev

def actOps (w : World) : WanAct → List FltOp
  | .opened _ => []
  | .event ev => deliverOps alloc ev w.ifaces w.statics

def runActs (w : World) (acts : List WanAct) : World := acts.foldl (act alloc) w

/-- What a run does to the tables. -/
def runOps : World → List WanAct → List FltOp
  | _, [] => []
  | w, a :: acts => w.actOps alloc a ++ runOps (w.act alloc a) acts

/-- Nothing is there yet. -/
def start (algPorts : List (Nat × Nat)) : World := ⟨[], .init algPorts⟩

theorem deliver_does (ev : WanEvent) (is : List Iface) (g : Statics) :
    g.Does (deliverOps alloc ev is g) (deliver alloc ev is g).2 := by
  induction is generalizing g with
  | nil => exact .refl g
  | cons i is ih => exact (Iface.eventCallback_does alloc ev i g).trans (ih _)

theorem act_does (w : World) (a : WanAct) :
    w.statics.Does (w.actOps alloc a) (w.act alloc a).statics := by
  cases a with
  | opened conf => exact .refl w.statics
  | event ev => exact deliver_does alloc ev w.ifaces w.statics

theorem runActs_does (w : World) (acts : List WanAct) :
    w.statics.Does (w.runOps alloc acts) (w.runActs alloc acts).statics := by
  induction acts generalizing w with
  | nil => exact .refl w.statics
  | cons a acts ih => exact (act_does alloc w a).trans (ih (w.act alloc a))

/-- Along every run, `config_wan_firewall_rule` writes to slots that are there and counts
no more than there are, just if the rules fit at each call. -/
theorem run_inBounds (algPorts : List (Nat × Nat)) (acts : List WanAct) :
    ((start algPorts).runActs alloc acts).statics.flt =
        FltOp.replay algPorts ((start algPorts).runOps alloc acts) (fun _ => .empty) ∧
      (InBounds algPorts ((start algPorts).runOps alloc acts) (fun _ => .empty) ↔
        AllFit algPorts ((start algPorts).runOps alloc acts) (fun _ => .empty)) := by
  refine ⟨(runActs_does alloc (start algPorts) acts).flt, ?_⟩
  exact inBounds_iff fun _ => Nat.zero_le maxFltRule

/-- As many ports as the configuration takes. -/
def manyPorts : List (Nat × Nat) := (List.range 20).map fun n => (5000 + n, ipprotoTcp)

/-- Seven entries for IPv4. -/
def sevenEntries : FirewallConf :=
  ⟨true, true, (List.range 7).map fun n => ⟨4, ipprotoTcp, false, n⟩⟩

/-- The first PDN gets its address and the IPv4 route. -/
def firstRoute : List WanAct :=
  [.opened ⟨1, "rmnet_data0", .q6Wan, false, false, [.v4], [1], [1]⟩,
    .event (.addrAdd 1 (.v4 0x0A000001)),
    .event (.upstreamRouteAdd 1 (.v4 none) sevenEntries)]

/-- The last rule is written behind the array. -/
theorem firstRoute_not_inBounds :
    manyPorts.length ≤ Config.maxAlgEntries ∧
      sevenEntries.entries.length ≤ maxFirewallEntries ∧
      ¬ InBounds manyPorts ((start manyPorts).runOps nextHandle firstRoute)
        (fun _ => .empty) := by
  refine ⟨by decide, by decide, fun h => ?_⟩
  have hops : (start manyPorts).runOps nextHandle firstRoute =
      [.reset .v4] ++ [.config .v4 ⟨1, "rmnet_data0", .q6Wan, false, false, [.v4], [1], [1]⟩
        false sevenEntries] := by
    rfl
  rw [hops] at h
  have hlast := h.1 [.reset .v4] _ List.prefix_rfl 50
  exact absurd (hlast (by decide)) (by decide)

end World

end Axon7.Wan
