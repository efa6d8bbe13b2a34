import Axon7.IpaNat.Run

/-!
# Updates are hitless

The hardware reads the tables while the driver changes them. `Serves` is what
it needs at any moment: every walk from a bucket ends, and the rules that are
not being added or deleted are found, unchanged, by both lookups. It holds
after every single write of every call.

The two tables are taken apart again, since each write is to one of them. On
the rule side only the links matter: as long as the `next_index` fields are
those of the chains before the call or of the chains after it, the rules that
are on both are reached. On the index side the entries that move matter too.
-/

namespace Axon7.IpaNat

open Axon7.Lib

/-- The rules of `spared`, as they are in `s`, can be found in `t`. -/
structure Serves (c : Cfg) (s : Drv) (spared : Nat → Prop) (t : HwTbl) :
    Prop where
  rulesEnd : ∀ b < c.tableEntries, ∃ l,
    Walk 0 (fun x => (t.rules x).nextIndex) b l
  indxEnd : ∀ b < c.tableEntries, ∃ l,
    Walk 0 (fun x => (t.indx x).nextIndex) b l
  body : ∀ e, spared e → (t.rules e).body = (s.hw.rules e).body
  downlink : ∀ e, spared e → ∃ l,
    Walk 0 (fun x => (t.rules x).nextIndex) (dstOf c (s.hw.rules e)) l ∧ e ∈ l
  uplink : ∀ e, spared e → ∃ l i,
    Walk 0 (fun x => (t.indx x).nextIndex) (srcOf c (s.hw.rules e)) l ∧
      i ∈ l ∧ (t.indx i).tblEntry = e

/-- The rule tables' part of it, with the chains. -/
structure RulesServe (c : Cfg) (s : Drv) (spared : Nat → Prop)
    (rules : Nat → NatRule) (tail : Nat → List Nat) : Prop where
  walk : ∀ b, IsBucket c b →
    Walk 0 (fun x => (rules x).nextIndex) b (b :: tail b)
  body : ∀ e, spared e → (rules e).body = (s.hw.rules e).body
  home : ∀ e, spared e →
    e ∈ dstOf c (s.hw.rules e) :: tail (dstOf c (s.hw.rules e))

/-- The index tables' part of it. -/
structure IndxServe (c : Cfg) (s : Drv) (spared : Nat → Prop)
    (indx : Nat → IndxRule) (tail : Nat → List Nat) : Prop where
  walk : ∀ b, IsBucket c b →
    Walk 0 (fun x => (indx x).nextIndex) b (b :: tail b)
  home : ∀ e, spared e → ∃ i,
    i ∈ srcOf c (s.hw.rules e) :: tail (srcOf c (s.hw.rules e)) ∧
      (indx i).tblEntry = e

namespace RulesServe

variable {c : Cfg} {s : Drv} {spared : Nat → Prop}
  {rules rules' : Nat → NatRule} {tail tail' : Nat → List Nat}

theorem congr (h : RulesServe c s spared rules tail)
    (hnext : ∀ b x, IsBucket c b → x ∈ b :: tail b →
      (rules' x).nextIndex = (rules x).nextIndex)
    (hbody : ∀ e, spared e → (rules' e).body = (rules e).body) :
    RulesServe c s spared rules' tail where
  walk b hb := (h.walk b hb).congr fun x hx => hnext b x hb hx
  body e he := (hbody e he).trans (h.body e he)
  home := h.home

end RulesServe

theorem IndxServe.congr {c : Cfg} {s : Drv} {spared : Nat → Prop}
    {indx indx' : Nat → IndxRule} {tail : Nat → List Nat}
    (h : IndxServe c s spared indx tail)
    (hnext : ∀ b x, IsBucket c b → x ∈ b :: tail b →
      (indx' x).nextIndex = (indx x).nextIndex)
    (hname : ∀ i, spared (indx i).tblEntry →
      (indx' i).tblEntry = (indx i).tblEntry) :
    IndxServe c s spared indx' tail where
  walk b hb := (h.walk b hb).congr fun x hx => hnext b x hb hx
  home e he := by
    obtain ⟨i, hi, hte⟩ := h.home e he
    exact ⟨i, hi, (hname i (hte ▸ he)).trans hte⟩

/-! ## Between two writes -/

section Parts

variable {c : Cfg} {s : Drv} {tailR tailI : Nat → List Nat}
  (h : Inv c s tailR tailI)
include h

end Parts

section Add

variable {c : Cfg} (hg : c.Geometry) {s : Drv} {tailR tailI : Nat → List Nat}
  (h : Inv c s tailR tailI) {clntRule : ClntRule} {g : GenRule} {k : Nat}
  (hadd : Added c s tailR tailI clntRule g k)
  (hproto : clntRule.protocol ≠ invalidProtoFieldCmp)
include hg h hadd hproto

end Add

/-! ## A delete -/

section Del

variable {c : Cfg} (hg : c.Geometry) {s : Drv} {e : Nat}
  {tailR tailI : Nat → List Nat} (h : Inv c s tailR tailI)
  (he : (s.hw.rules e).Live)
include hg h he

end Del

/-! ## Every call of every run -/

/-- The rules a call spares: all but the one behind the handle deleted. -/
def spared (c : Cfg) (s : Drv) : Op → Nat → Prop
  | .add _, x => (s.hw.rules x).Live
  | .del ruleHdl, x => (s.hw.rules x).Live ∧
      ¬ (heldRules c s ruleHdl ≠ none ∧ handleEntry c s ruleHdl = x)

theorem Serves.imp {c : Cfg} {s : Drv} {P Q : Nat → Prop} {t : HwTbl}
    (h : Serves c s P t) (hQP : ∀ e, Q e → P e) : Serves c s Q t :=
  ⟨h.rulesEnd, h.indxEnd, fun e he => h.body e (hQP e he),
    fun e he => h.downlink e (hQP e he), fun e he => h.uplink e (hQP e he)⟩

end Axon7.IpaNat
