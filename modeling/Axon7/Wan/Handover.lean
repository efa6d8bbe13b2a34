import Axon7.Lib.Run
import Axon7.Wan.Upstream

/-!
# One default route for each family

The instance that gets the default route takes the flag and the listeners with it,
and so does the one that has to give it up. The second has the last word if it is
the later in the order of registration, and then the route is taken for gone. A PDN
whose link goes down clears the flags of both families.
-/

namespace Axon7.Wan

open Axon7.Lib
open Axon7.Tether (IpType IfaceIpType Addr)

namespace RouteView

variable {vs ws pre post : List RouteView} {B : RouteView} {r : Routes} {ip : IpType} {n : Nat}

/-! ## Holders -/

/-- The instances with the default route of the family. -/
def holders (ip : IpType) (vs : List RouteView) : List Conf :=
  (vs.filter (·.active ip)).map (·.conf)

theorem holders_append : holders ip (vs ++ ws) = holders ip vs ++ holders ip ws := by
  rw [holders, List.filter_append, List.map_append]
  rfl

theorem holders_cons :
    holders ip (B :: vs) = (if B.active ip then [B.conf] else []) ++ holders ip vs := by
  cases h : B.active ip <;> simp [holders, h]

theorem holders_eq_nil : holders ip vs = [] ↔ ∀ v ∈ vs, v.active ip = false := by
  simp [holders]

/-- What the flag and the listeners say of the family is right. -/
def Shown : List Conf → Bool × Option (Option String) → Prop
  | [], x => x.1 = false ∧ ∀ up, x.2 = some up → up = none
  | [c], x => x = (true, some (some c.devName))
  | _, _ => False

theorem shown_down : Shown [] (false, some none) :=
  ⟨rfl, fun _ h => (Option.some.inj h).symm⟩

theorem shown_mid {a b : List Conf} {c : Conf} {x : Bool × Option (Option String)} :
    Shown (a ++ c :: b) x ↔ a = [] ∧ b = [] ∧ x = (true, some (some c.devName)) := by
  cases a with
  | nil => cases b <;> simp [Shown]
  | cons a as => cases as <;> simp [Shown]

theorem shown_cleared {a : List Conf} {x : Bool × Option (Option String)} (h : Shown a x) :
    Shown a (false, x.2) ↔ a = [] := by
  constructor
  · intro hcleared
    match a with
    | [] => rfl
    | [c] => exact absurd (congrArg Prod.fst hcleared) Bool.false_ne_true
  · rintro rfl
    exact ⟨rfl, h.2⟩

/-- The flags and the listeners are right. -/
def Agrees (vs : List RouteView) (r : Routes) : Prop :=
  ∀ ip, Shown (holders ip vs) (r ip)

theorem Agrees.alone (h : Agrees (pre ++ B :: post) r) (hB : B.active ip = true) :
    holders ip pre = [] ∧ holders ip post = [] ∧
      r ip = (true, some (some B.conf.devName)) := by
  have hip := h ip
  rwa [holders_append, holders_cons, if_pos hB, List.singleton_append, shown_mid] at hip

/-! ## The instances in turn -/

theorem reactAll_append (ev : WanEvent) (vs ws : List RouteView) (r : Routes) :
    reactAll ev (vs ++ ws) r =
      ((reactAll ev vs r).1 ++ (reactAll ev ws (reactAll ev vs r).2).1,
        (reactAll ev ws (reactAll ev vs r).2).2) := by
  induction vs generalizing r with
  | nil => rfl
  | cons v vs ih => rw [List.cons_append, reactAll_cons, ih, reactAll_cons, List.append_assoc]


theorem down_conf (v : RouteView) : (v.down ip r).1.conf = v.conf := by
  rw [down]
  split <;> rfl

theorem down_active (v : RouteView) (ip' : IpType) :
    (v.down ip r).1.active ip' = if ip' = ip then false else v.active ip' := by
  rw [down]
  cases h : v.active ip with
  | true => exact Function.update_apply _ _ _ _
  | false =>
    rw [if_neg Bool.false_ne_true]
    split
    · rename_i heq
      rw [heq, h]
    · rfl

theorem down_routes (v : RouteView) :
    (v.down ip r).2 = if v.active ip then Function.update r ip (false, some none) else r := by
  rw [down]
  split <;> rfl

theorem up_conf (v : RouteView) : (v.up ip r).1.conf = v.conf := by
  rw [up]
  split <;> rfl

theorem up_active (v : RouteView) (ip' : IpType) :
    (v.up ip r).1.active ip' = if ip' = ip then true else v.active ip' := by
  rw [up]
  cases h : v.active ip with
  | false => exact Function.update_apply _ _ _ _
  | true =>
    rw [if_pos rfl]
    split
    · rename_i heq
      rw [heq, h]
    · rfl

theorem up_routes (v : RouteView) :
    (v.up ip r).2 =
      if v.active ip then r else Function.update r ip (true, some (some v.conf.devName)) := by
  rw [up]
  split <;> rfl

theorem react_conf (ev : WanEvent) (v : RouteView) (r : Routes) :
    ∀ v' ∈ (v.react ev r).1, v'.conf = v.conf := by
  have hkeep : ∀ (x : RouteView × Routes), x.1.conf = v.conf →
      ∀ v' ∈ some x.1, v'.conf = v.conf := by
    intro x hx v' hv'
    obtain rfl := Option.some.inj hv'
    exact hx
  cases ev with
  | upstreamRouteAdd n u fw =>
    rw [react]
    split
    · exact hkeep (v.up u.ipType r) (up_conf v)
    · exact hkeep (v.down u.ipType r) (down_conf v)
  | upstreamRouteDel n ip =>
    rw [react]
    split
    · exact hkeep (v.down ip r) (down_conf v)
    · exact hkeep (v, r) rfl
  | linkDown n =>
    rw [react]
    split
    · split
      · rintro _ ⟨⟩
      · rintro _ ⟨⟩
      · exact hkeep (v, r) rfl
    · exact hkeep (v, r) rfl
  | wlanLinkDown n =>
    rw [react]
    split
    · rintro _ ⟨⟩
    · exact hkeep (v, r) rfl
  | addrAdd n a => exact hkeep (v, r) rfl
  | neighClientIpAddrAdd n mac a fw => exact hkeep (v, r) rfl
  | firewallChange fw => exact hkeep (v, r) rfl

theorem reactAll_confs (ev : WanEvent) (vs : List RouteView) (r : Routes) :
    ((reactAll ev vs r).1.map (·.conf)).Sublist (vs.map (·.conf)) := by
  induction vs generalizing r with
  | nil => exact List.Sublist.refl _
  | cons v vs ih =>
    rw [reactAll_cons, List.map_append, List.map_cons]
    cases hv : (v.react ev r).1 with
    | none => exact (ih _).cons _
    | some v' =>
      rw [Option.toList_some, List.map_singleton, react_conf ev v r v' hv]
      exact (ih _).cons_cons _

/-! ## The route goes to one of them -/

theorem react_add_other {v : RouteView} (hn : v.conf.ipaIfNum ≠ n) (u : Upstream)
    (fw : FirewallConf) (r : Routes) :
    v.react (.upstreamRouteAdd n u fw) r =
      (some (v.down u.ipType r).1, (v.down u.ipType r).2) :=
  if_neg hn.symm

theorem react_add_self {v : RouteView} (hn : v.conf.ipaIfNum = n) (u : Upstream)
    (fw : FirewallConf) (r : Routes) :
    v.react (.upstreamRouteAdd n u fw) r = (some (v.up u.ipType r).1, (v.up u.ipType r).2) :=
  if_pos hn.symm

theorem reactAll_add_others (h : ∀ v ∈ vs, v.conf.ipaIfNum ≠ n) (u : Upstream)
    (fw : FirewallConf) (r : Routes) :
    (∀ ip, holders ip (reactAll (.upstreamRouteAdd n u fw) vs r).1 =
      if ip = u.ipType then [] else holders ip vs) ∧
    (reactAll (.upstreamRouteAdd n u fw) vs r).2 =
      if holders u.ipType vs = [] then r
      else Function.update r u.ipType (false, some none) := by
  induction vs generalizing r with
  | nil =>
    refine ⟨fun ip => ?_, rfl⟩
    split <;> rfl
  | cons v vs ih =>
    obtain ⟨hholders, hroutes⟩ :=
      ih (fun w hw => h w (List.mem_cons_of_mem _ hw)) (v.down u.ipType r).2
    rw [reactAll_cons, react_add_other (h v List.mem_cons_self)]
    dsimp only [Option.toList_some]
    constructor
    · intro ip
      rw [List.singleton_append, holders_cons, holders_cons, hholders, down_active, down_conf]
      split <;> rfl
    · rw [hroutes, down_routes, holders_cons]
      cases v.active u.ipType with
      | false => rfl
      | true => simp

theorem Agrees.add_none (h : Agrees vs r) (hvs : ∀ v ∈ vs, v.conf.ipaIfNum ≠ n) (u : Upstream)
    (fw : FirewallConf) :
    Agrees (reactAll (.upstreamRouteAdd n u fw) vs r).1
      (reactAll (.upstreamRouteAdd n u fw) vs r).2 := by
  obtain ⟨hholders, hroutes⟩ := reactAll_add_others hvs u fw r
  intro ip
  have hip := h ip
  rw [hholders, hroutes]
  rcases eq_or_ne ip u.ipType with rfl | hne
  · rw [if_pos rfl]
    split
    · rename_i hnone
      rwa [hnone] at hip
    · rw [Function.update_self]
      exact shown_down
  · rw [if_neg hne]
    split
    · exact hip
    · rwa [Function.update_of_ne hne]

theorem Agrees.add_iff (h : Agrees (pre ++ B :: post) r)
    (hpre : ∀ v ∈ pre, v.conf.ipaIfNum ≠ n) (hB : B.conf.ipaIfNum = n)
    (hpost : ∀ v ∈ post, v.conf.ipaIfNum ≠ n) (u : Upstream) (fw : FirewallConf) :
    Agrees (reactAll (.upstreamRouteAdd n u fw) (pre ++ B :: post) r).1
      (reactAll (.upstreamRouteAdd n u fw) (pre ++ B :: post) r).2 ↔
        holders u.ipType post = [] := by
  obtain ⟨hpre1, hpre2⟩ := reactAll_add_others hpre u fw r
  rw [reactAll_append, reactAll_cons, react_add_self hB]
  dsimp only [Option.toList_some]
  generalize (reactAll (.upstreamRouteAdd n u fw) pre r).1 = pre' at hpre1 ⊢
  generalize (reactAll (.upstreamRouteAdd n u fw) pre r).2 = r₁ at hpre2 ⊢
  obtain ⟨hpost1, hpost2⟩ := reactAll_add_others hpost u fw (B.up u.ipType r₁).2
  rw [hpost2]
  have hother : ∀ ip, ip ≠ u.ipType → r₁ ip = r ip := by
    intro ip hne
    rw [hpre2]
    split
    · rfl
    · exact Function.update_of_ne hne _ _
  -- what is said as far as the instance itself
  have hsaid : (B.up u.ipType r₁).2 u.ipType = (true, some (some B.conf.devName)) := by
    rw [up_routes]
    split
    · rename_i hact
      obtain ⟨hnone, -, hr⟩ := h.alone hact
      rw [hpre2, if_pos hnone, hr]
    · exact Function.update_self _ _ _
  have hholders : ∀ ip, holders ip (pre' ++ ([(B.up u.ipType r₁).1] ++
      (reactAll (.upstreamRouteAdd n u fw) post (B.up u.ipType r₁).2).1)) =
        if ip = u.ipType then [B.conf] else holders ip (pre ++ B :: post) := by
    intro ip
    rw [List.singleton_append, holders_append, holders_cons, holders_append, holders_cons, hpre1,
      hpost1, up_active, up_conf]
    split <;> rfl
  constructor
  · intro hafter
    have hip := hafter u.ipType
    rw [hholders, if_pos rfl] at hip
    by_contra hnone
    rw [if_neg hnone, Function.update_self] at hip
    exact Bool.false_ne_true (congrArg Prod.fst hip)
  · intro hnone ip
    rw [hholders, if_pos hnone]
    split
    · rename_i heq
      rw [heq]
      exact hsaid
    · rename_i hne
      have hip := h ip
      rw [up_routes]
      split
      · rwa [hother ip hne]
      · rwa [Function.update_of_ne hne, hother ip hne]

theorem reactAll_add_serves {u : Upstream} {fw : FirewallConf} {v : RouteView}
    (hv : v ∈ (reactAll (.upstreamRouteAdd n u fw) vs r).1) (hn : v.conf.ipaIfNum = n) :
    v.active u.ipType = true := by
  induction vs generalizing r with
  | nil => exact absurd hv List.not_mem_nil
  | cons w vs ih =>
    rw [reactAll_cons] at hv
    obtain hv | hv := List.mem_append.mp hv
    · have hw := Option.mem_toList.mp hv
      by_cases hwn : w.conf.ipaIfNum = n
      · rw [react_add_self hwn] at hw
        obtain rfl := Option.some.inj hw
        rw [up_active, if_pos rfl]
      · rw [react_add_other hwn] at hw
        obtain rfl := Option.some.inj hw
        rw [down_conf] at hn
        exact absurd hn hwn
    · exact ih hv

/-! ## The route or the link of one of them goes -/

/-- The events for one instance only. -/
def Names (n : Nat) : WanEvent → Prop
  | .upstreamRouteDel m _ => m = n
  | .linkDown m => m = n
  | .wlanLinkDown m => m = n
  | _ => False

theorem react_of_names {v : RouteView} {ev : WanEvent} (hev : Names n ev)
    (hv : v.conf.ipaIfNum ≠ n) (r : Routes) : v.react ev r = (some v, r) := by
  cases ev with
  | upstreamRouteDel m ip =>
    obtain rfl : m = n := hev
    exact if_neg hv.symm
  | linkDown m =>
    obtain rfl : m = n := hev
    exact if_neg hv.symm
  | wlanLinkDown m =>
    obtain rfl : m = n := hev
    exact if_neg fun hand => hv hand.1.symm
  | upstreamRouteAdd m u fw => exact hev.elim
  | addrAdd m a => exact hev.elim
  | neighClientIpAddrAdd m mac a fw => exact hev.elim
  | firewallChange fw => exact hev.elim

theorem reactAll_of_names {ev : WanEvent} (hev : Names n ev)
    (h : ∀ v ∈ vs, v.conf.ipaIfNum ≠ n) (r : Routes) : reactAll ev vs r = (vs, r) := by
  induction vs with
  | nil => rfl
  | cons v vs ih =>
    rw [reactAll_cons, react_of_names hev (h v List.mem_cons_self),
      ih fun w hw => h w (List.mem_cons_of_mem _ hw)]
    rfl

theorem reactAll_one {ev : WanEvent} (hev : Names n ev)
    (hpre : ∀ v ∈ pre, v.conf.ipaIfNum ≠ n) (hpost : ∀ v ∈ post, v.conf.ipaIfNum ≠ n)
    (r : Routes) :
    reactAll ev (pre ++ B :: post) r =
      (pre ++ ((B.react ev r).1.toList ++ post), (B.react ev r).2) := by
  rw [reactAll_append, reactAll_of_names hev hpre, reactAll_cons, reactAll_of_names hev hpost]

theorem Agrees.rest (h : Agrees (pre ++ B :: post) r) (hB : B.active ip = false) :
    Shown (holders ip (pre ++ post)) (r ip) := by
  have hip := h ip
  rw [holders_append, holders_cons, hB, if_neg Bool.false_ne_true, List.nil_append,
    ← holders_append] at hip
  exact hip

theorem Agrees.down (h : Agrees (pre ++ B :: post) r) (t : IpType) :
    Agrees (pre ++ (B.down t r).1 :: post) (B.down t r).2 := by
  intro ip
  rw [holders_append, holders_cons, down_active, down_conf, down_routes]
  rcases eq_or_ne ip t with rfl | hne
  · rw [if_pos rfl, if_neg Bool.false_ne_true, List.nil_append]
    split
    · rename_i hact
      obtain ⟨hpre, hpost, -⟩ := h.alone hact
      rw [hpre, hpost, Function.update_self]
      exact shown_down
    · rename_i hact
      rw [← holders_append]
      exact h.rest (Bool.eq_false_of_not_eq_true hact)
  · have hip := h ip
    rw [holders_append, holders_cons] at hip
    have hr : (if B.active t then Function.update r t (false, some none) else r) ip = r ip := by
      split
      · exact Function.update_of_ne hne _ _
      · rfl
    rwa [if_neg hne, hr]

theorem Agrees.drop (h : Agrees (pre ++ B :: post) r) : Agrees (pre ++ post) (B.drop r) := by
  intro ip
  rw [RouteView.drop]
  split
  · rename_i hact
    obtain ⟨hpre, hpost, -⟩ := h.alone hact
    rw [holders_append, hpre, hpost]
    exact shown_down
  · rename_i hact
    exact h.rest (Bool.eq_false_of_not_eq_true hact)

theorem Agrees.dropEx_iff (h : Agrees (pre ++ B :: post) r) :
    Agrees (pre ++ post) (B.dropEx r) ↔
      if B.conf.isEmbms = false ∧ B.isDefaultGateway = true then
        ∀ ip, holders ip (pre ++ post) = []
      else ∀ ip, B.active ip = false := by
  split
  · rename_i hclear
    have hip : ∀ ip, Shown (holders ip (pre ++ post)) (B.dropEx r ip) ↔
        holders ip (pre ++ post) = [] := by
      intro ip
      rw [dropEx, if_pos hclear]
      cases hact : B.active ip with
      | true =>
        obtain ⟨hpre, hpost, -⟩ := h.alone hact
        rw [holders_append, hpre, hpost]
        exact iff_of_true shown_down rfl
      | false => exact shown_cleared (h.rest hact)
    exact forall_congr' hip
  · rename_i hkeep
    refine forall_congr' fun ip => ?_
    rw [dropEx, if_neg hkeep]
    cases hact : B.active ip with
    | true =>
      obtain ⟨hpre, hpost, hr⟩ := h.alone hact
      rw [holders_append, hpre, hpost, hr]
      exact iff_of_false (fun hshown => Bool.false_ne_true hshown.1.symm) (by rintro ⟨⟩)
    | false => exact iff_of_true (h.rest hact) rfl

theorem Agrees.named (h : Agrees (pre ++ B :: post) r) {ev : WanEvent}
    (hev : Names B.conf.ipaIfNum ev) :
    Agrees (pre ++ ((B.react ev r).1.toList ++ post)) (B.react ev r).2 ↔
      ((∃ m, ev = .linkDown m) → B.conf.staMode = .q6Wan →
        if B.conf.isEmbms = false ∧ B.isDefaultGateway = true then
          ∀ ip, holders ip (pre ++ post) = []
        else ∀ ip, B.active ip = false) := by
  cases ev with
  | upstreamRouteDel m ip =>
    obtain rfl : m = B.conf.ipaIfNum := hev
    rw [react, if_pos rfl]
    exact iff_of_true (h.down ip) (by rintro ⟨_, ⟨⟩⟩)
  | linkDown m =>
    obtain rfl : m = B.conf.ipaIfNum := hev
    rw [react, if_pos rfl]
    cases hmode : B.conf.staMode with
    | q6Wan => exact h.dropEx_iff.trans ⟨fun hpdn _ _ => hpdn, fun hpdn => hpdn ⟨_, rfl⟩ rfl⟩
    | ecmWan => exact iff_of_true h.drop (by rintro - ⟨⟩)
    | wlanWan => exact iff_of_true h (by rintro - ⟨⟩)
  | wlanLinkDown m =>
    obtain rfl : m = B.conf.ipaIfNum := hev
    rw [react]
    split
    · exact iff_of_true h.drop (by rintro ⟨_, ⟨⟩⟩)
    · exact iff_of_true h (by rintro ⟨_, ⟨⟩⟩)
  | upstreamRouteAdd m u fw => exact hev.elim
  | addrAdd m a => exact hev.elim
  | neighClientIpAddrAdd m mac a fw => exact hev.elim
  | firewallChange fw => exact hev.elim

end RouteView

namespace World

variable {alloc : Alloc} {w : World}

/-- One instance at most carries the default route of a family; the flag says
whether one does, and the listeners know it by its name. -/
structure Agrees (w : World) : Prop where
  one : ∀ ip, (w.ifaces.filter (·.active ip)).length ≤ 1
  wanUp : ∀ ip, w.statics.wanUp ip = true ↔ ∃ i ∈ w.ifaces, i.active ip = true
  told : ∀ ip, ∀ i ∈ w.ifaces, i.active ip = true →
    w.statics.told ip = some (some i.conf.devName)
  toldDown : ∀ ip, (∀ i ∈ w.ifaces, i.active ip = false) →
    ∀ up, w.statics.told ip = some up → up = none

def views (w : World) : List RouteView := w.ifaces.map (·.routeView)

theorem holders_views (is : List Iface) (ip : IpType) :
    RouteView.holders ip (is.map (·.routeView)) =
      (is.filter (·.active ip)).map (·.conf) := by
  rw [RouteView.holders, List.filter_map, List.map_map]
  rfl

theorem holders_views_eq_nil {is : List Iface} {ip : IpType} :
    RouteView.holders ip (is.map (·.routeView)) = [] ↔ ∀ i ∈ is, i.active ip = false := by
  rw [RouteView.holders_eq_nil, List.forall_mem_map]
  rfl

theorem shown_iff (is : List Iface) (ip : IpType) (x : Bool × Option (Option String)) :
    RouteView.Shown (RouteView.holders ip (is.map (·.routeView))) x ↔
      (is.filter (·.active ip)).length ≤ 1 ∧
      (x.1 = true ↔ ∃ i ∈ is, i.active ip = true) ∧
      (∀ i ∈ is, i.active ip = true → x.2 = some (some i.conf.devName)) ∧
      ((∀ i ∈ is, i.active ip = false) → ∀ up, x.2 = some up → up = none) := by
  rw [holders_views]
  have hmem : ∀ i, i ∈ is.filter (·.active ip) ↔ i ∈ is ∧ i.active ip = true := fun i =>
    List.mem_filter
  generalize is.filter (·.active ip) = on at hmem ⊢
  match on with
  | [] =>
    have hnone : ∀ i ∈ is, i.active ip = false := fun i hi =>
      Bool.eq_false_of_not_eq_true fun hact => List.not_mem_nil ((hmem i).mpr ⟨hi, hact⟩)
    constructor
    · rintro ⟨hup, htold⟩
      refine ⟨Nat.zero_le _, ?_, ?_, fun _ => htold⟩
      · rw [hup]
        refine ⟨nofun, fun ⟨i, hi, hact⟩ => ?_⟩
        exact (hnone i hi).symm.trans hact
      · intro i hi hact
        exact absurd ((hnone i hi).symm.trans hact) Bool.false_ne_true
    · rintro ⟨-, hup, -, htold⟩
      refine ⟨Bool.eq_false_of_not_eq_true fun hon => ?_, htold hnone⟩
      obtain ⟨i, hi, hact⟩ := hup.mp hon
      exact Bool.false_ne_true ((hnone i hi).symm.trans hact)
  | [i] =>
    obtain ⟨hi, hact⟩ := (hmem i).mp List.mem_cons_self
    constructor
    · intro hx
      obtain rfl : x = (true, some (some i.conf.devName)) := hx
      refine ⟨Nat.le_refl _, iff_of_true rfl ⟨i, hi, hact⟩, ?_, ?_⟩
      · intro j hj hactj
        obtain rfl : j = i := List.mem_singleton.mp ((hmem j).mpr ⟨hj, hactj⟩)
        rfl
      · intro hnone
        exact absurd ((hnone i hi).symm.trans hact) Bool.false_ne_true
    · rintro ⟨-, hup, htold, -⟩
      exact Prod.ext (hup.mpr ⟨i, hi, hact⟩) (htold i hi hact)
  | i :: j :: on =>
    refine iff_of_false (fun h => h) fun h => ?_
    have hlen := h.1
    simp at hlen

theorem agrees_iff : w.Agrees ↔ RouteView.Agrees w.views w.statics.routes := by
  have hip := fun ip => shown_iff w.ifaces ip (w.statics.routes ip)
  constructor
  · intro h ip
    exact (hip ip).mpr ⟨h.one ip, h.wanUp ip, h.told ip, h.toldDown ip⟩
  · intro h
    have hall := fun ip => (hip ip).mp (h ip)
    exact ⟨fun ip => (hall ip).1, fun ip => (hall ip).2.1, fun ip => (hall ip).2.2.1,
      fun ip => (hall ip).2.2.2⟩

/-! ## One event -/

/-- What the event must find. The instance the route goes to is behind the one
that gives it up. A PDN of the modem whose link goes down either is taken for the
default gateway, and no other carries a route, or carries none itself. -/
def Keeps (w : World) : WanEvent → Prop
  | .upstreamRouteAdd n u _ =>
    ∀ B post, B :: post <:+ w.ifaces → B.conf.ipaIfNum = n →
      ∀ A ∈ post, A.active u.ipType = false
  | .linkDown n =>
    ∀ A ∈ w.ifaces, A.conf.ipaIfNum = n → A.conf.staMode = .q6Wan →
      if A.conf.isEmbms = false ∧ A.isDefaultGateway = true then
        ∀ B ∈ w.ifaces, B.conf.ipaIfNum ≠ n → ∀ ip, B.active ip = false
      else ∀ ip, A.active ip = false
  | _ => True

theorem keeps_of_idle {n : Nat} {u : Upstream} {fw : FirewallConf}
    (h : ∀ i ∈ w.ifaces, i.active u.ipType = false) :
    w.Keeps (.upstreamRouteAdd n u fw) :=
  fun _ _ hsuffix _ A hA => h A (hsuffix.subset (List.mem_cons_of_mem _ hA))

theorem keeps_of_last {n : Nat} {u : Upstream} {fw : FirewallConf}
    (h : ∀ i ∈ w.ifaces.dropLast, i.conf.ipaIfNum ≠ n) :
    w.Keeps (.upstreamRouteAdd n u fw) := by
  rintro B post ⟨pre, heq⟩ hB A hA
  have hne : post ≠ [] := List.ne_nil_of_mem hA
  refine absurd hB (h B ?_)
  rw [← heq, List.dropLast_append_of_ne_nil (List.cons_ne_nil _ _),
    List.dropLast_cons_of_ne_nil hne]
  exact List.mem_append_right _ List.mem_cons_self

/-- Every instance has its own interface. -/
def Distinct (w : World) : Prop := (w.ifaces.map (·.conf.ipaIfNum)).Nodup

theorem Distinct.cases (h : w.Distinct) (n : Nat) :
    (∀ i ∈ w.ifaces, i.conf.ipaIfNum ≠ n) ∨
      ∃ pre B post, w.ifaces = pre ++ B :: post ∧ B.conf.ipaIfNum = n ∧
        (∀ i ∈ pre, i.conf.ipaIfNum ≠ n) ∧ ∀ i ∈ post, i.conf.ipaIfNum ≠ n := by
  by_cases hB : ∃ B ∈ w.ifaces, B.conf.ipaIfNum = n
  · obtain ⟨B, hB, hn⟩ := hB
    obtain ⟨pre, post, heq⟩ := List.append_of_mem hB
    refine .inr ⟨pre, B, post, heq, hn, ?_⟩
    rw [Distinct, heq, List.map_append, List.map_cons, List.nodup_append, List.nodup_cons] at h
    obtain ⟨-, ⟨hpost, -⟩, hdisj⟩ := h
    constructor
    · intro i hi hni
      exact hdisj _ (List.mem_map_of_mem hi) _ List.mem_cons_self (hni.trans hn.symm)
    · intro i hi hni
      exact hpost (List.mem_map.mpr ⟨i, hi, hni.trans hn.symm⟩)
  · exact .inl fun i hi hn => hB ⟨i, hi, hn⟩

theorem step_views (alloc : Alloc) {ev : WanEvent} (hr : ∀ i ∈ w.ifaces, i.Ready)
    (hev : ev.IsRoute) :
    (∀ i ∈ (w.step alloc ev).ifaces, i.Ready) ∧
      (w.step alloc ev).views = (RouteView.reactAll ev w.views w.statics.routes).1 ∧
      (w.step alloc ev).statics.routes =
        (RouteView.reactAll ev w.views w.statics.routes).2 :=
  deliver_reacts hev hr w.statics

theorem Agrees.named_iff {n : Nat} {ev : WanEvent} (hd : w.Distinct) (h : w.Agrees)
    (hev : RouteView.Names n ev) :
    RouteView.Agrees (RouteView.reactAll ev w.views w.statics.routes).1
        (RouteView.reactAll ev w.views w.statics.routes).2 ↔
      ((∃ m, ev = .linkDown m) → w.Keeps (.linkDown n)) := by
  have h := agrees_iff.mp h
  obtain hnone | ⟨pre, B, post, heq, hB, hpre, hpost⟩ := hd.cases n
  · have hviews : ∀ v ∈ w.views, v.conf.ipaIfNum ≠ n := List.forall_mem_map.mpr hnone
    rw [RouteView.reactAll_of_names hev hviews]
    exact iff_of_true h fun _ A hA hn => absurd hn (hnone A hA)
  · rw [views, heq, List.map_append, List.map_cons] at h ⊢
    rw [RouteView.reactAll_one hev (List.forall_mem_map.mpr hpre)
      (List.forall_mem_map.mpr hpost), h.named (by rw [← hB] at hev; exact hev)]
    have hmem : ∀ A, A ∈ w.ifaces ↔ A ∈ pre ∨ A = B ∨ A ∈ post := fun A => by
      rw [heq, List.mem_append, List.mem_cons]
    have hothers : (∀ A ∈ w.ifaces, A.conf.ipaIfNum ≠ n → ∀ ip, A.active ip = false) ↔
        ∀ ip, RouteView.holders ip
          (pre.map (·.routeView) ++ post.map (·.routeView)) = [] := by
      simp only [← List.map_append, holders_views_eq_nil, List.mem_append]
      constructor
      · rintro hoff ip A (hA | hA)
        · exact hoff A ((hmem A).mpr (.inl hA)) (hpre A hA) ip
        · exact hoff A ((hmem A).mpr (.inr (.inr hA))) (hpost A hA) ip
      · intro hoff A hA hn ip
        obtain hA | rfl | hA := (hmem A).mp hA
        · exact hoff ip A (.inl hA)
        · exact absurd hB hn
        · exact hoff ip A (.inr hA)
    refine forall_congr' fun _ => ?_
    rw [Keeps, hothers]
    constructor
    · intro hpdn A hA hn
      have hAB : A = B := by
        obtain hA | rfl | hA := (hmem A).mp hA
        · exact absurd hn (hpre A hA)
        · rfl
        · exact absurd hn (hpost A hA)
      rw [hAB]
      exact hpdn
    · exact fun hpdn => hpdn B ((hmem B).mpr (.inr (.inl rfl))) hB

theorem step_agrees_iff (alloc : Alloc) {ev : WanEvent} (hd : w.Distinct)
    (hr : ∀ i ∈ w.ifaces, i.Ready) (hev : ev.IsRoute) (h : w.Agrees) :
    (w.step alloc ev).Agrees ↔ w.Keeps ev := by
  obtain ⟨-, hviews, hroutes⟩ := step_views alloc hr hev
  rw [agrees_iff, hviews, hroutes]
  cases ev with
  | upstreamRouteAdd n u fw =>
    have h := agrees_iff.mp h
    obtain hnone | ⟨pre, B, post, heq, hB, hpre, hpost⟩ := hd.cases n
    · refine iff_of_true (h.add_none (List.forall_mem_map.mpr hnone) u fw)
        fun B post hsuffix hB => ?_
      exact absurd hB (hnone B (hsuffix.subset List.mem_cons_self))
    · rw [views, heq, List.map_append, List.map_cons] at h ⊢
      rw [h.add_iff (List.forall_mem_map.mpr hpre) hB (List.forall_mem_map.mpr hpost),
        holders_views_eq_nil]
      constructor
      · rintro hoff B' post' ⟨pre', heq'⟩ hB'
        have hsame := (List.append_cons_inj_of_notMem
          (fun hin => hpre B' hin hB') fun hin => hpost B' hin hB').mp
          (heq.symm.trans heq'.symm)
        rw [← hsame.2.2]
        exact hoff
      · exact fun hkeeps => hkeeps B post ⟨pre, heq.symm⟩ hB
  | upstreamRouteDel n ip =>
    have hn : RouteView.Names n (.upstreamRouteDel n ip) := rfl
    exact iff_of_true ((h.named_iff hd hn).mpr nofun) trivial
  | linkDown n =>
    have hn : RouteView.Names n (.linkDown n) := rfl
    exact (h.named_iff hd hn).trans ⟨fun hk => hk ⟨n, rfl⟩, fun hk _ => hk⟩
  | wlanLinkDown n =>
    have hn : RouteView.Names n (.wlanLinkDown n) := rfl
    exact iff_of_true ((h.named_iff hd hn).mpr nofun) trivial
  | addrAdd n a => exact hev.elim
  | neighClientIpAddrAdd n mac a fw => exact hev.elim
  | firewallChange fw => exact hev.elim

/-- The interface the route goes to has it. -/
def Serves (w : World) : WanEvent → Prop
  | .upstreamRouteAdd n u _ => ∀ i ∈ w.ifaces, i.conf.ipaIfNum = n → i.active u.ipType = true
  | _ => True

theorem step_serves {ev : WanEvent} (hr : ∀ i ∈ w.ifaces, i.Ready) (hev : ev.IsRoute) :
    (w.step alloc ev).Serves ev := by
  cases ev with
  | upstreamRouteAdd n u fw =>
    obtain ⟨-, hviews, -⟩ := step_views alloc hr hev
    intro i hi
    have hv : i.routeView ∈ (RouteView.reactAll (.upstreamRouteAdd n u fw) w.views
        w.statics.routes).1 := by
      rw [← hviews]
      exact List.mem_map_of_mem hi
    exact RouteView.reactAll_add_serves hv
  | upstreamRouteDel n ip => trivial
  | linkDown n => trivial
  | wlanLinkDown n => trivial
  | addrAdd n a => trivial
  | neighClientIpAddrAdd n mac a fw => trivial
  | firewallChange fw => trivial

theorem step_distinct {ev : WanEvent} (hr : ∀ i ∈ w.ifaces, i.Ready) (hev : ev.IsRoute)
    (hd : w.Distinct) : (w.step alloc ev).Distinct := by
  obtain ⟨-, hviews, -⟩ := step_views alloc hr hev
  have hnums : ∀ w : World, w.ifaces.map (·.conf.ipaIfNum) =
      (w.views.map (·.conf)).map (·.ipaIfNum) := fun w => by
    rw [views, List.map_map, List.map_map]
    rfl
  rw [Distinct, hnums] at hd ⊢
  rw [hviews]
  exact hd.sublist ((RouteView.reactAll_confs ev w.views _).map _)

/-! ## Runs -/

/-- The instances are ready, none carries a default route yet, and no one was told
of one. -/
structure Start (w : World) : Prop where
  distinct : w.Distinct
  ready : ∀ i ∈ w.ifaces, i.Ready
  inactive : ∀ i ∈ w.ifaces, ∀ ip, i.active ip = false
  down : ∀ ip, w.statics.wanUp ip = false
  untold : ∀ ip, w.statics.told ip = none

theorem Start.agrees (h : w.Start) : w.Agrees where
  one ip := by
    rw [List.filter_eq_nil_iff.mpr fun i hi => by
      rw [h.inactive i hi]
      exact Bool.false_ne_true]
    exact Nat.zero_le _
  wanUp ip := by
    rw [h.down]
    refine ⟨nofun, fun ⟨i, hi, hact⟩ => ?_⟩
    exact (h.inactive i hi ip).symm.trans hact
  told ip i hi hact := absurd ((h.inactive i hi ip).symm.trans hact) Bool.false_ne_true
  toldDown ip _ up hup := by
    rw [h.untold] at hup
    exact nomatch hup

theorem run_distinct (alloc : Alloc) {evs : List WanEvent} (h : w.Start)
    (hevs : ∀ ev ∈ evs, ev.IsRoute) :
    (w.run alloc evs).Distinct ∧ ∀ i ∈ (w.run alloc evs).ifaces, i.Ready :=
  foldl_invariant (fun w : World => w.Distinct ∧ ∀ i ∈ w.ifaces, i.Ready) WanEvent.IsRoute
    (fun _ _ hw hev => ⟨step_distinct hw.2 hev hw.1, (step_views alloc hw.2 hev).1⟩)
    ⟨h.distinct, h.ready⟩ evs hevs

/-- After a run: one default route for each family, and it is where the last event
put it. -/
def OneBackhaul (alloc : Alloc) (w : World) (evs : List WanEvent) : Prop :=
  (w.run alloc evs).Agrees ∧ ∀ ev, evs.getLast? = some ev → (w.run alloc evs).Serves ev

/-- In a run there is one default route for each family just if every event finds
what it must. -/
theorem run_oneBackhaul_iff (h : w.Start) {evs : List WanEvent}
    (hevs : ∀ ev ∈ evs, ev.IsRoute) :
    (∀ pre, pre <+: evs → OneBackhaul alloc w pre) ↔
      ∀ pre ev, pre ++ [ev] <+: evs → (w.run alloc pre).Keeps ev := by
  refine forall_prefix_iff ⟨h.agrees, nofun⟩ fun pre ev hpre hright => ?_
  have hev : ev.IsRoute := hevs ev (hpre.subset (by simp))
  obtain ⟨hd, hr⟩ := run_distinct alloc h fun o ho =>
    hevs o (hpre.subset (List.mem_append_left _ ho))
  have hstep := step_agrees_iff alloc hd hr hev hright.1
  rw [OneBackhaul, run, List.foldl_concat, ← run, hstep]
  refine and_iff_left fun ev' hlast => ?_
  obtain rfl : ev = ev' := by
    rw [List.getLast?_concat] at hlast
    exact Option.some.inj hlast
  exact step_serves hr hev

end World

/-- A PDN of the modem with addresses of both families. -/
def modemIface : Iface :=
  { Iface.init ⟨1, "rmnet_data0", .q6Wan, false, false, [.v4, .v6], [1], [1]⟩ with
    ipType := .max
    ipv6Prefix := 0x20010DB800000001 }

/-- The Wi-Fi station with its headers. -/
def wlanIface : Iface :=
  { Iface.init ⟨2, "wlan0", .wlanWan, false, false, [.v4, .v6], [1], []⟩ with
    ipType := .max
    ipv6Prefix := 0x20010DB800000002
    headerSet := fun _ => true }

def modemFirst : World := ⟨[modemIface, wlanIface], Statics.init []⟩

/-- Both routes go to the modem, then to the station, and the station leaves. -/
def toStation : List WanEvent :=
  [.upstreamRouteAdd 1 (.v4 none) .dft, .upstreamRouteAdd 1 (.v6 none) .dft,
    .upstreamRouteAdd 2 (.v4 none) .dft, .upstreamRouteAdd 2 (.v6 none) .dft,
    .wlanLinkDown 2]

theorem modemFirst_start : modemFirst.Start where
  distinct := show [1, 2].Nodup by decide
  ready i hi := by
    obtain rfl | rfl : i = modemIface ∨ i = wlanIface := by simpa [modemFirst] using hi
    · exact ⟨rfl, by decide, by decide, by decide, fun _ => by decide, nofun, fun _ _ => rfl⟩
    · exact ⟨rfl, by decide, by decide, by decide, nofun, fun _ _ => rfl, fun _ _ => rfl⟩
  inactive i hi ip := by
    obtain rfl | rfl : i = modemIface ∨ i = wlanIface := by simpa [modemFirst] using hi
    · rfl
    · rfl
  down _ := rfl
  untold _ := rfl

theorem toStation_oneBackhaul : World.OneBackhaul nextHandle modemFirst toStation := by
  refine (World.run_oneBackhaul_iff modemFirst_start (by simp [toStation, WanEvent.IsRoute])).mpr
    (forall_concat_of_take fun k hk => ?_) toStation List.prefix_rfl
  have hk : k < 5 := hk
  interval_cases k
  · exact World.keeps_of_idle (by decide)
  · exact World.keeps_of_idle (by decide)
  · exact World.keeps_of_last (by decide)
  · exact World.keeps_of_last (by decide)
  · trivial

def stationFirst : World := ⟨[wlanIface, modemIface], Statics.init []⟩

/-- The IPv4 route goes from the modem to the station, which was registered before
it: the modem clears the flag the station has set. -/
theorem stationFirst_twice :
    ¬ ∀ pre, pre <+: [WanEvent.upstreamRouteAdd 1 (.v4 none) .dft,
      .upstreamRouteAdd 2 (.v4 none) .dft] →
        World.OneBackhaul nextHandle stationFirst pre := by
  intro h
  have hup := ((h _ List.prefix_rfl).1.wanUp .v4).mpr (by decide)
  have hdown : (stationFirst.run nextHandle [.upstreamRouteAdd 1 (.v4 none) .dft,
      .upstreamRouteAdd 2 (.v4 none) .dft]).statics.wanUp .v4 = false := by decide
  exact Bool.false_ne_true (hdown.symm.trans hup)

end Axon7.Wan
