import Axon7.Lib.Run
import Axon7.Tether.Lan

/-!
# Software routing, with a kernel that refuses

`handle_software_routing_enable` adds two rules and then sets its flag,
`handle_software_routing_disable` deletes both and then clears it. A call that gets only
the first of the two changes leaves what it has done and the flag it has found.
-/

namespace Axon7.Tether

open Axon7.Lib

/-- What there is of software routing: `softwarerouting_act`,
`software_routing_fl_rule_hdl`, and the counts and the rules of the source pipe. -/
structure SwRouting where
  hasRxProp : Bool
  softwareroutingAct : Bool
  softwareRoutingFlRuleHdl : IpType → Nat
  fltRuleCount : IpType → Int
  kernel : Kernel

/-- A call, and for which families the kernel makes the change. -/
inductive SwRoutingCall
  | enable (ok : IpType → Bool)
  | disable (ok : IpType → Bool)

namespace SwRouting

variable (alloc : Alloc)

/-- `increaseFltRuleCount` and `decreaseFltRuleCount`. -/
def countFltRule (ip : IpType) (n : Int) (s : SwRouting) : SwRouting :=
  { s with fltRuleCount := Function.update s.fltRuleCount ip (s.fltRuleCount ip + n) }

/-- `AddFilteringRule` with the rule of a family, and the note of its handle. -/
def addRule (ok : Bool) (ip : IpType) (s : SwRouting) : Option SwRouting :=
  if ok then
    let hdl := alloc s.kernel ip
    let s := { s with kernel := s.kernel.add (ip, hdl) (.swRouting ip) }.countFltRule ip 1
    some { s with
      softwareRoutingFlRuleHdl := Function.update s.softwareRoutingFlRuleHdl ip hdl }
  else none

/-- `handle_software_routing_enable`. -/
def handleSoftwareRoutingEnable (ok : IpType → Bool) (s : SwRouting) : SwRouting × Bool :=
  if s.softwareroutingAct then (s, true)
  else if s.hasRxProp = false then (s, true)
  else
    match s.addRule alloc (ok .v4) .v4 with
    | none => (s, false)
    | some s =>
      match s.addRule alloc (ok .v6) .v6 with
      | none => (s, false)
      | some s => ({ s with softwareroutingAct := true }, true)

/-- `DeleteFilteringHdls` with the handle of a family. The handle 0 is skipped, and no kernel
deletes a rule that it does not have. -/
def deleteRule (ok : Bool) (ip : IpType) (s : SwRouting) : Option SwRouting :=
  let hdl := s.softwareRoutingFlRuleHdl ip
  if hdl = 0 then some (s.countFltRule ip (-1))
  else if ok = true ∧ (ip, hdl) ∈ s.kernel.live.map Prod.fst then
    some ({ s with kernel := s.kernel.del (ip, hdl) }.countFltRule ip (-1))
  else none

/-- `handle_software_routing_disable`. -/
def handleSoftwareRoutingDisable (ok : IpType → Bool) (s : SwRouting) : SwRouting × Bool :=
  if s.hasRxProp = false then (s, true)
  else if s.softwareroutingAct = false then (s, true)
  else
    match s.deleteRule (ok .v4) .v4 with
    | none => (s, false)
    | some s =>
      match s.deleteRule (ok .v6) .v6 with
      | none => (s, false)
      | some s => ({ s with softwareroutingAct := false }, true)

def call (s : SwRouting) : SwRoutingCall → SwRouting × Bool
  | .enable ok => s.handleSoftwareRoutingEnable alloc ok
  | .disable ok => s.handleSoftwareRoutingDisable ok

def run (s : SwRouting) (calls : List SwRoutingCall) : SwRouting :=
  calls.foldl (fun s c => (s.call alloc c).1) s

/-! ## What is promised -/

def IsSwRouting (r : RuleSet) : Prop := ∃ ip, r = .swRouting ip

/-- The rules that the handles stand for while the flag is set. -/
def named (s : SwRouting) : Set ((IpType × Nat) × RuleSet) :=
  {e | s.softwareroutingAct = true ∧
    ∃ ip, e = ((ip, s.softwareRoutingFlRuleHdl ip), .swRouting ip)}

/-- Both rules are there and counted, or none is. -/
structure AllOrNothing (base : IpType → Int) (s : SwRouting) : Prop where
  rules : s.kernel.Tracks IsSwRouting s.named
  count : ∀ ip, s.fltRuleCount ip = base ip + if s.softwareroutingAct then 1 else 0

/-- What a call must leave: all or nothing, and nothing where a disable has succeeded. -/
def Leaves (base : IpType → Int) (s : SwRouting) (c : SwRoutingCall) : Prop :=
  AllOrNothing base (s.call alloc c).1 ∧
    ∀ ok, c = .disable ok → (s.call alloc c).2 = true →
      (s.call alloc c).1.kernel.Tracks IsSwRouting ∅

/-- The first change of the call is made and the second is not. -/
def Torn (s : SwRouting) : SwRoutingCall → Prop
  | .enable ok => s.softwareroutingAct = false ∧ ok .v4 = true ∧ ok .v6 = false
  | .disable ok => s.softwareroutingAct = true ∧ ok .v4 = true ∧ ok .v6 = false

/-- What holds of an interface with receive properties in any case. -/
structure Inv (s : SwRouting) : Prop where
  rx : s.hasRxProp = true
  keyed : s.kernel.Keyed
  ne_zero : s.softwareroutingAct = true → ∀ ip, s.softwareRoutingFlRuleHdl ip ≠ 0

variable {alloc} {base : IpType → Int} {s s' : SwRouting} {ok : IpType → Bool} {b : Bool}
  {ip : IpType}

/-! ## One rule -/

theorem addRule_eq_some (h : s.addRule alloc b ip = some s') :
    b = true ∧ s'.hasRxProp = s.hasRxProp ∧ s'.softwareroutingAct = s.softwareroutingAct ∧
      s'.kernel = s.kernel.add (ip, alloc s.kernel ip) (.swRouting ip) ∧
      s'.softwareRoutingFlRuleHdl =
        Function.update s.softwareRoutingFlRuleHdl ip (alloc s.kernel ip) ∧
      s'.fltRuleCount = Function.update s.fltRuleCount ip (s.fltRuleCount ip + 1) := by
  rw [addRule] at h
  split at h
  · cases h
    exact ⟨‹_›, rfl, rfl, rfl, rfl, rfl⟩
  · cases h

theorem deleteRule_eq_some (hne : s.softwareRoutingFlRuleHdl ip ≠ 0)
    (h : s.deleteRule b ip = some s') :
    b = true ∧ s'.hasRxProp = s.hasRxProp ∧ s'.softwareroutingAct = s.softwareroutingAct ∧
      s'.kernel = s.kernel.del (ip, s.softwareRoutingFlRuleHdl ip) ∧
      s'.softwareRoutingFlRuleHdl = s.softwareRoutingFlRuleHdl ∧
      s'.fltRuleCount = Function.update s.fltRuleCount ip (s.fltRuleCount ip - 1) := by
  rw [deleteRule, if_neg hne] at h
  split at h
  case isTrue hyes =>
    cases h
    exact ⟨hyes.1, rfl, rfl, rfl, rfl, rfl⟩
  case isFalse => cases h

theorem deleteRule_of_live (hlive : (ip, s.softwareRoutingFlRuleHdl ip) ∈
    s.kernel.live.map Prod.fst) : ∃ s', s.deleteRule true ip = some s' := by
  rw [deleteRule]
  split
  · exact ⟨_, rfl⟩
  · rw [if_pos ⟨rfl, hlive⟩]
    exact ⟨_, rfl⟩

theorem deleteRule_false (hne : s.softwareRoutingFlRuleHdl ip ≠ 0) :
    s.deleteRule false ip = none := by
  rw [deleteRule, if_neg hne, if_neg fun h => Bool.false_ne_true h.1]

/-! ## One call -/

theorem Inv.enable (hA : alloc.Grants) (h : s.Inv) (ok : IpType → Bool) :
    (s.handleSoftwareRoutingEnable alloc ok).1.Inv := by
  rw [handleSoftwareRoutingEnable, h.rx]
  split
  · exact h
  case isFalse hact =>
    rw [if_neg Bool.noConfusion]
    split
    · exact h
    case h_2 s₁ h₁ =>
      obtain ⟨-, hrx₁, hact₁, hk₁, hhdl₁, -⟩ := addRule_eq_some h₁
      have hkeyed₁ : s₁.kernel.Keyed := hk₁ ▸ h.keyed.add (hA.fresh _ _)
      split
      · exact ⟨hrx₁.trans h.rx, hkeyed₁, fun hon => absurd (hact₁ ▸ hon) hact⟩
      case h_2 s₂ h₂ =>
        obtain ⟨-, hrx₂, -, hk₂, hhdl₂, -⟩ := addRule_eq_some h₂
        refine ⟨hrx₂.trans (hrx₁.trans h.rx), hk₂ ▸ hkeyed₁.add (hA.fresh _ _),
          fun _ ip => ?_⟩
        show s₂.softwareRoutingFlRuleHdl ip ≠ 0
        rw [hhdl₂, hhdl₁]
        cases ip with
        | v4 => exact hA.ne_zero _ _
        | v6 => exact hA.ne_zero _ _

theorem Inv.disable (h : s.Inv) (ok : IpType → Bool) :
    (s.handleSoftwareRoutingDisable ok).1.Inv := by
  rw [handleSoftwareRoutingDisable, if_neg (by simp [h.rx])]
  split
  · exact h
  case isFalse hact =>
    have hne := h.ne_zero (Bool.eq_true_of_not_eq_false hact)
    split
    · exact h
    case h_2 s₁ h₁ =>
      obtain ⟨-, hrx₁, -, hk₁, hhdl₁, -⟩ := deleteRule_eq_some (hne .v4) h₁
      have hkeyed₁ : s₁.kernel.Keyed := hk₁ ▸ h.keyed.del _
      split
      · exact ⟨hrx₁.trans h.rx, hkeyed₁, fun _ ip => hhdl₁ ▸ hne ip⟩
      case h_2 s₂ h₂ =>
        obtain ⟨-, hrx₂, -, hk₂, -, -⟩ := deleteRule_eq_some (hhdl₁ ▸ hne .v6) h₂
        exact ⟨hrx₂.trans (hrx₁.trans h.rx), hk₂ ▸ hkeyed₁.del _, nofun⟩

theorem Inv.call (hA : alloc.Grants) (h : s.Inv) (c : SwRoutingCall) : (s.call alloc c).1.Inv := by
  cases c with
  | enable ok => exact h.enable hA ok
  | disable ok => exact h.disable ok

theorem AllOrNothing.tracks_none (h : AllOrNothing base s) (hoff : s.softwareroutingAct = false) :
    s.kernel.Tracks IsSwRouting ∅ := by
  have hnone : s.named = ∅ := by
    ext e
    simp [named, hoff]
  exact hnone ▸ h.rules

theorem AllOrNothing.enable_iff (h : AllOrNothing base s) (hi : s.Inv) (ok : IpType → Bool) :
    AllOrNothing base (s.handleSoftwareRoutingEnable alloc ok).1 ↔ ¬ s.Torn (.enable ok) := by
  rw [handleSoftwareRoutingEnable, hi.rx, Torn]
  cases hact : s.softwareroutingAct with
  | true => exact iff_of_true h (by simp)
  | false =>
    rw [if_neg Bool.false_ne_true, if_neg Bool.noConfusion]
    have hcount := h.count
    simp only [hact, Bool.false_eq_true, if_false, Int.add_zero] at hcount
    cases h₁ : s.addRule alloc (ok .v4) .v4 with
    | none =>
      refine iff_of_true h fun htorn => ?_
      rw [htorn.2.1, addRule, if_pos rfl] at h₁
      cases h₁
    | some s₁ =>
      obtain ⟨hok, -, hact₁, hk₁, hhdl₁, hc₁⟩ := addRule_eq_some h₁
      have hrules := (h.tracks_none hact).add_mem (x := (.v4, alloc s.kernel .v4))
        (r := .swRouting .v4) ⟨.v4, rfl⟩
      rw [← hk₁] at hrules
      dsimp only
      cases h₂ : s₁.addRule alloc (ok .v6) .v6 with
      | none =>
        have hok₂ : ok .v6 = false := by
          cases hv6 : ok .v6 with
          | false => rfl
          | true =>
            rw [hv6, addRule, if_pos rfl] at h₂
            cases h₂
        refine iff_of_false (fun hall => ?_) (not_not_intro ⟨rfl, hok, hok₂⟩)
        have hone := hall.count .v4
        simp only [hact₁, hact, hc₁, Function.update_self, hcount] at hone
        simp at hone
      | some s₂ =>
        obtain ⟨hok₂, -, -, hk₂, hhdl₂, hc₂⟩ := addRule_eq_some h₂
        refine iff_of_true ⟨?_, fun ip => ?_⟩ fun htorn => ?_
        · have hboth := hrules.add_mem (x := (.v6, alloc s₁.kernel .v6)) (r := .swRouting .v6)
            ⟨.v6, rfl⟩
          rw [← hk₂] at hboth
          refine fun e => (hboth e).trans ?_
          simp only [named, Set.mem_ofPred_eq, true_and, hhdl₂, hhdl₁]
          rw [Set.mem_insert_iff, Set.mem_insert_iff]
          constructor
          · rintro (rfl | rfl | hnone)
            · exact ⟨.v6, rfl⟩
            · exact ⟨.v4, rfl⟩
            · exact absurd hnone (Set.notMem_empty e)
          · rintro ⟨ip, rfl⟩
            cases ip with
            | v4 => exact .inr (.inl rfl)
            | v6 => exact .inl rfl
        · show s₂.fltRuleCount ip = base ip + 1
          rw [hc₂, hc₁]
          cases ip with
          | v4 => simp [hcount]
          | v6 => simp [hcount]
        · exact Bool.false_ne_true (htorn.2.2.symm.trans hok₂)

theorem AllOrNothing.disable_iff (h : AllOrNothing base s) (hi : s.Inv) (ok : IpType → Bool) :
    AllOrNothing base (s.handleSoftwareRoutingDisable ok).1 ↔ ¬ s.Torn (.disable ok) := by
  rw [handleSoftwareRoutingDisable, if_neg (by simp [hi.rx]), Torn]
  cases hact : s.softwareroutingAct with
  | false => exact iff_of_true h (by simp)
  | true =>
    rw [if_neg Bool.noConfusion]
    have hne := hi.ne_zero hact
    have hcount := h.count
    simp only [hact, if_true] at hcount
    have hnamed : ∀ ip, ((ip, s.softwareRoutingFlRuleHdl ip), RuleSet.swRouting ip) ∈ s.named :=
      fun ip => ⟨hact, ip, rfl⟩
    have hlive : ∀ ip, (ip, s.softwareRoutingFlRuleHdl ip) ∈ s.kernel.live.map Prod.fst :=
      fun ip => List.mem_map.mpr ⟨_, ((h.rules _).mpr (hnamed ip)).1, rfl⟩
    cases h₁ : s.deleteRule (ok .v4) .v4 with
    | none =>
      refine iff_of_true h fun htorn => ?_
      obtain ⟨s₁, hs₁⟩ := deleteRule_of_live (hlive .v4)
      rw [htorn.2.1, hs₁] at h₁
      cases h₁
    | some s₁ =>
      obtain ⟨hok, -, hact₁, hk₁, hhdl₁, hc₁⟩ := deleteRule_eq_some (hne .v4) h₁
      have hrules := h.rules.del_mem hi.keyed (hnamed .v4)
      have hkeyed := hi.keyed.del (.v4, s.softwareRoutingFlRuleHdl .v4)
      rw [← hk₁] at hrules hkeyed
      have hstill : ((.v6, s.softwareRoutingFlRuleHdl .v6), RuleSet.swRouting .v6) ∈ s.named \
          {((.v4, s.softwareRoutingFlRuleHdl .v4), RuleSet.swRouting .v4)} :=
        ⟨hnamed .v6, by simp⟩
      dsimp only
      cases h₂ : s₁.deleteRule (ok .v6) .v6 with
      | none =>
        have hok₂ : ok .v6 = false := by
          cases hv6 : ok .v6 with
          | false => rfl
          | true =>
            have hlive₁ : (.v6, s₁.softwareRoutingFlRuleHdl .v6) ∈ s₁.kernel.live.map Prod.fst :=
              List.mem_map.mpr ⟨_, ((hrules _).mpr hstill).1, by rw [hhdl₁]⟩
            obtain ⟨s₂, hs₂⟩ := deleteRule_of_live hlive₁
            rw [hv6, hs₂] at h₂
            cases h₂
        refine iff_of_false (fun hall => ?_) (not_not_intro ⟨rfl, hok, hok₂⟩)
        have hone := hall.count .v4
        simp only [hact₁, hact, hc₁, Function.update_self, hcount, if_true] at hone
        omega
      | some s₂ =>
        obtain ⟨hok₂, -, -, hk₂, -, hc₂⟩ := deleteRule_eq_some (hhdl₁ ▸ hne .v6) h₂
        refine iff_of_true ⟨?_, fun ip => ?_⟩ fun htorn => ?_
        · have hnone := hrules.del_mem hkeyed hstill
          rw [← hhdl₁, ← hk₂, hhdl₁] at hnone
          refine fun e => (hnone e).trans ?_
          simp only [named, Set.mem_sdiff, Set.mem_singleton_iff, Set.mem_ofPred_eq,
            Bool.false_eq_true, false_and, iff_false]
          rintro ⟨⟨⟨-, ip, rfl⟩, hv4⟩, hv6⟩
          cases ip with
          | v4 => exact hv4 rfl
          | v6 => exact hv6 rfl
        · show s₂.fltRuleCount ip = base ip + 0
          rw [hc₂, hc₁]
          cases ip with
          | v4 => simp [hcount]
          | v6 => simp [hcount]
        · exact Bool.false_ne_true (htorn.2.2.symm.trans hok₂)

theorem off_of_disable (hi : s.Inv) (h : (s.handleSoftwareRoutingDisable ok).2 = true) :
    (s.handleSoftwareRoutingDisable ok).1.softwareroutingAct = false := by
  rw [handleSoftwareRoutingDisable, if_neg (by simp [hi.rx])] at h ⊢
  split at h
  case isTrue hoff => rwa [if_pos hoff]
  case isFalse hon =>
    rw [if_neg hon]
    split at h
    · cases h
    · split at h
      · cases h
      · simp only [*]

theorem leaves_iff (h : AllOrNothing base s) (hi : s.Inv) (c : SwRoutingCall) :
    s.Leaves alloc base c ↔ ¬ s.Torn c := by
  cases c with
  | enable ok => exact ⟨fun hl => (h.enable_iff hi ok).mp hl.1,
      fun ht => ⟨(h.enable_iff hi ok).mpr ht, fun _ => nofun⟩⟩
  | disable ok => exact ⟨fun hl => (h.disable_iff hi ok).mp hl.1, fun ht =>
      have hall := (h.disable_iff hi ok).mpr ht
      ⟨hall, fun _ _ hret => hall.tracks_none (off_of_disable hi hret)⟩⟩

/-! ## Runs -/

/-- Each call of a run leaves all or nothing just if no call gets its first change only. -/
theorem run_leaves_iff (hA : alloc.Grants) (hi : s.Inv) (h : AllOrNothing base s)
    (calls : List SwRoutingCall) :
    (∀ pre c, pre ++ [c] <+: calls → (run alloc s pre).Leaves alloc base c) ↔
      ∀ pre c, pre ++ [c] <+: calls → ¬ (run alloc s pre).Torn c := by
  refine forall_concat_iff (I := fun pre => (run alloc s pre).Inv ∧
    AllOrNothing base (run alloc s pre)) ⟨hi, h⟩ (fun pre c _ hpre hl => ?_)
    fun pre c _ hpre => leaves_iff hpre.2 hpre.1 c
  rw [run, List.foldl_append]
  exact ⟨hpre.1.call hA c, hl.1⟩

/-- The constructor, with a kernel that has no rules. -/
def new : SwRouting := ⟨true, false, fun _ => 0, fun _ => 0, .empty⟩

theorem inv_new : new.Inv := ⟨rfl, List.nodup_nil, nofun⟩

theorem allOrNothing_new : AllOrNothing (fun _ => 0) new where
  rules e := by simp [new, Pool.empty, named]
  count _ := rfl

theorem run_leaves_iff_retry :
    (∀ pre c, pre ++ [c] <+: [.enable (fun _ => false), .enable fun _ => true] →
        (run nextHandle new pre).Leaves nextHandle (fun _ => 0) c) ↔
      ∀ pre c, pre ++ [c] <+: [.enable (fun _ => false), .enable fun _ => true] →
        ¬ (run nextHandle new pre).Torn c :=
  run_leaves_iff nextHandle_grants inv_new allOrNothing_new _

/-- The kernel adds the IPv4 rule and refuses the IPv6 one. -/
theorem not_leaves_half :
    ¬ (run nextHandle new []).Leaves nextHandle (fun _ => 0) (.enable fun ip => ip = .v4) := by
  intro h
  exact absurd (h.1.count .v4) (by decide)

/-! ## A rule that stays -/

/-- The IPv4 rule is there, and no disable names it. -/
def Left (hdl : Nat) (s : SwRouting) : Prop :=
  ((.v4, hdl), .swRouting .v4) ∈ s.kernel.live ∧
    (s.softwareroutingAct = true → s.softwareRoutingFlRuleHdl .v4 ≠ hdl)

theorem Left.enable (hA : alloc.Grants) {hdl : Nat} (h : s.Left hdl) (ok : IpType → Bool) :
    (s.handleSoftwareRoutingEnable alloc ok).1.Left hdl := by
  rw [handleSoftwareRoutingEnable]
  split
  · exact h
  case isFalse hact =>
    split
    · exact h
    split
    · exact h
    case h_2 s₁ h₁ =>
      obtain ⟨-, -, hact₁, hk₁, hhdl₁, -⟩ := addRule_eq_some h₁
      have hlive₁ : ((.v4, hdl), .swRouting .v4) ∈ s₁.kernel.live :=
        hk₁ ▸ List.mem_cons_of_mem _ h.1
      split
      · exact ⟨hlive₁, fun hon => absurd (hact₁ ▸ hon) hact⟩
      case h_2 s₂ h₂ =>
        obtain ⟨-, -, -, hk₂, hhdl₂, -⟩ := addRule_eq_some h₂
        refine ⟨hk₂ ▸ List.mem_cons_of_mem _ hlive₁, fun _ heq => ?_⟩
        -- the new handle is fresh, and the old one is not
        refine hA.fresh s.kernel .v4 (List.mem_map.mpr ⟨_, h.1, ?_⟩)
        change s₂.softwareRoutingFlRuleHdl .v4 = hdl at heq
        rw [hhdl₂, hhdl₁] at heq
        exact congrArg (Prod.mk IpType.v4) heq.symm

theorem Left.disable (hi : s.Inv) {hdl : Nat} (h : s.Left hdl) (ok : IpType → Bool) :
    (s.handleSoftwareRoutingDisable ok).1.Left hdl := by
  rw [handleSoftwareRoutingDisable, if_neg (by simp [hi.rx])]
  split
  · exact h
  case isFalse hact =>
    have hon := Bool.eq_true_of_not_eq_false hact
    have hne := hi.ne_zero hon
    split
    · exact h
    case h_2 s₁ h₁ =>
      obtain ⟨-, -, -, hk₁, hhdl₁, -⟩ := deleteRule_eq_some (hne .v4) h₁
      have hlive₁ : ((.v4, hdl), .swRouting .v4) ∈ s₁.kernel.live :=
        hk₁ ▸ Pool.mem_del_of_ne h.1 fun heq => h.2 hon (Prod.mk.inj heq).2.symm
      split
      · exact ⟨hlive₁, fun _ => hhdl₁ ▸ h.2 hon⟩
      case h_2 s₂ h₂ =>
        obtain ⟨-, -, -, hk₂, -, -⟩ := deleteRule_eq_some (hhdl₁ ▸ hne .v6) h₂
        exact ⟨hk₂ ▸ Pool.mem_del_of_ne hlive₁ (by simp), nofun⟩

/-- After a torn enable its IPv4 rule stays, whatever is called. -/
theorem run_left (hA : alloc.Grants) (hi : s.Inv) (htorn : s.Torn (.enable ok))
    (calls : List SwRoutingCall) :
    ∃ hdl, (.v4, hdl) ∉ s.kernel.live.map Prod.fst ∧
      ((.v4, hdl), .swRouting .v4) ∈ (run alloc s (.enable ok :: calls)).kernel.live := by
  obtain ⟨hact, hok, hno⟩ := htorn
  have hfirst : (s.handleSoftwareRoutingEnable alloc ok).1.Left (alloc s.kernel .v4) := by
    rw [handleSoftwareRoutingEnable, hi.rx, hact, hok, hno]
    exact ⟨List.mem_cons_self, fun hon => absurd (hact.symm.trans hon) Bool.false_ne_true⟩
  have hrun : ∀ calls : List SwRoutingCall,
      (run alloc s (.enable ok :: calls)).Inv ∧
        (run alloc s (.enable ok :: calls)).Left (alloc s.kernel .v4) := by
    intro calls
    induction calls using List.reverseRecOn with
    | nil => exact ⟨hi.call hA _, hfirst⟩
    | append_singleton calls c ih =>
      rw [run, ← List.cons_append, List.foldl_concat]
      refine ⟨ih.1.call hA c, ?_⟩
      cases c with
      | enable ok' => exact ih.2.enable hA ok'
      | disable ok' => exact ih.2.disable ih.1 ok'
  exact ⟨_, hA.fresh _ _, (hrun calls).2.1⟩

theorem run_left_disabled : ∃ hdl, (.v4, hdl) ∉ new.kernel.live.map Prod.fst ∧
    ((.v4, hdl), .swRouting .v4) ∈ (run nextHandle new [.enable fun ip => ip = .v4,
      .enable fun _ => true, .disable fun _ => true]).kernel.live :=
  run_left nextHandle_grants inv_new ⟨rfl, rfl, rfl⟩ _

end SwRouting

end Axon7.Tether
