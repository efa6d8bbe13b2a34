import Axon7.Clients.Books
import Axon7.Clients.Effect

/-!
# The same record

Two records are the same if they differ at most in what their flags and counts
say is not in use. The operations cannot tell them apart: over the same kernel
they leave the same records and the same kernel.
-/

namespace Axon7.Clients

open Axon7.Lib
open Axon7.Tether (IpType Addr)

namespace Client

variable {alloc : Alloc} {tx : List IpType} {c d : Client} {k : Kernel}
  {hdls : List RtHdl} {ip : IpType}

/-- The records have the same addresses, header handles, rule handles, flags and
counts. -/
structure Same (tx : List IpType) (c d : Client) : Prop where
  mac : d.mac = c.mac
  ipv4Set : d.ipv4Set = c.ipv4Set
  ipv6Set : d.ipv6Set = c.ipv6Set
  routeRuleSetV4 : d.routeRuleSetV4 = c.routeRuleSetV4
  routeRuleSetV6 : d.routeRuleSetV6 = c.routeRuleSetV6
  headerSet : d.headerSet = c.headerSet
  powerSaveSet : d.powerSaveSet = c.powerSaveSet
  v4Addr : c.ipv4Set = true → d.v4Addr = c.v4Addr
  v6Addr : ∀ n < c.ipv6Set, d.v6Addr n = c.v6Addr n
  hdrHdl : ∀ ip ∈ tx, d.hdrHdl ip = c.hdrHdl ip
  rtHdl : ∀ r ∈ c.hdlsInUse tx, d.rtHdl r = c.rtHdl r

theorem Same.refl (tx : List IpType) (c : Client) : Same tx c c where
  mac := rfl
  ipv4Set := rfl
  ipv6Set := rfl
  routeRuleSetV4 := rfl
  routeRuleSetV6 := rfl
  headerSet := rfl
  powerSaveSet := rfl
  v4Addr _ := rfl
  v6Addr _ _ := rfl
  hdrHdl _ _ := rfl
  rtHdl _ _ := rfl

theorem Same.inUse (h : Same tx c d) : d.hdlsInUse tx = c.hdlsInUse tx := by
  rw [Client.hdlsInUse, Client.hdlsInUse, h.routeRuleSetV4, h.routeRuleSetV6]

theorem Same.trans {e : Client} (h : Same tx c d) (h' : Same tx d e) : Same tx c e where
  mac := h'.mac.trans h.mac
  ipv4Set := h'.ipv4Set.trans h.ipv4Set
  ipv6Set := h'.ipv6Set.trans h.ipv6Set
  routeRuleSetV4 := h'.routeRuleSetV4.trans h.routeRuleSetV4
  routeRuleSetV6 := h'.routeRuleSetV6.trans h.routeRuleSetV6
  headerSet := h'.headerSet.trans h.headerSet
  powerSaveSet := h'.powerSaveSet.trans h.powerSaveSet
  v4Addr hset := (h'.v4Addr (h.ipv4Set.trans hset)).trans (h.v4Addr hset)
  v6Addr n hn := (h'.v6Addr n (h.ipv6Set.symm ▸ hn)).trans (h.v6Addr n hn)
  hdrHdl ip hip := (h'.hdrHdl ip hip).trans (h.hdrHdl ip hip)
  rtHdl r hr := (h'.rtHdl r (h.inUse.symm ▸ hr)).trans (h.rtHdl r hr)

/-- The same record, and the same kernel. -/
structure SameWith (tx : List IpType) (x y : Client × Kernel) : Prop where
  record : Same tx x.1 y.1
  kernel : y.2 = x.2

theorem Same.with (h : Same tx c d) (k : Kernel) : SameWith tx (c, k) (d, k) := ⟨h, rfl⟩

/-! ## Rules -/

theorem deleteRtHdls_congr (h : ∀ r ∈ hdls, d.rtHdl r = c.rtHdl r) :
    d.deleteRtHdls hdls k = c.deleteRtHdls hdls k := by
  induction hdls generalizing k with
  | nil => rfl
  | cons r hdls ih =>
    rw [deleteRtHdls, deleteRtHdls, List.foldl_cons, List.foldl_cons,
      h r List.mem_cons_self]
    exact ih fun r' hr' => h r' (List.mem_cons_of_mem _ hr')

theorem addRtRules_congr (alloc : Alloc) (hrule : ∀ r ∈ hdls, d.rtRule r = c.rtRule r) :
    (d.addRtRules alloc hdls k).2 = (c.addRtRules alloc hdls k).2 ∧
      ∀ r, r ∈ hdls ∨ d.rtHdl r = c.rtHdl r →
        (d.addRtRules alloc hdls k).1.rtHdl r = (c.addRtRules alloc hdls k).1.rtHdl r := by
  induction hdls generalizing c d k with
  | nil => exact ⟨rfl, fun r hr => hr.resolve_left List.not_mem_nil⟩
  | cons r hdls ih =>
    have hsame : ∀ (c : Client) hdl r', rtRule { c with rtHdl := hdl } r' =
        c.rtRule r' := by
      intro c hdl r'
      cases r' <;> rfl
    obtain ⟨hk, hhdl⟩ := ih (k := k.add (.rt r.ip, alloc k (.rt r.ip)) (c.rtRule r))
      (c := { c with rtHdl := Function.update c.rtHdl r (alloc k (.rt r.ip)) })
      (d := { d with rtHdl := Function.update d.rtHdl r (alloc k (.rt r.ip)) })
      fun r' hr' => by
        rw [hsame, hsame]
        exact hrule r' (List.mem_cons_of_mem _ hr')
    have hcons : d.addRtRules alloc (r :: hdls) k = addRtRules alloc hdls
        { d with rtHdl := Function.update d.rtHdl r (alloc k (.rt r.ip)) }
        (k.add (.rt r.ip, alloc k (.rt r.ip)) (c.rtRule r)) := by
      rw [← hrule r List.mem_cons_self]
      rfl
    rw [hcons]
    refine ⟨hk, fun r' hr' => hhdl r' ?_⟩
    dsimp only
    rcases eq_or_ne r' r with rfl | hne
    · exact .inr (by rw [Function.update_self, Function.update_self])
    · rw [Function.update_of_ne hne, Function.update_of_ne hne]
      exact hr'.imp_left fun hr' => (List.mem_cons.mp hr').resolve_left hne

theorem Same.rtRule_v4 (h : Same tx c d) (hset : c.ipv4Set = true) :
    ∀ r ∈ v4Hdls tx, d.rtRule r = c.rtRule r := by
  intro r hr
  obtain ⟨t, ht, rfl⟩ := mem_v4Hdls.mp hr
  rw [rtRule, rtRule, h.mac, h.v4Addr hset, h.hdrHdl _ (mem_of_txOf ht)]

theorem Same.rtRule_v6 (h : Same tx c d) (nums : List Nat)
    (hnums : ∀ n ∈ nums, n < c.ipv6Set) : ∀ r ∈ v6Hdls tx nums, d.rtRule r = c.rtRule r := by
  intro r hr
  obtain ⟨t, ht, n, hn, rfl | rfl⟩ := mem_v6Hdls.mp hr
  · rw [rtRule, rtRule, h.mac, h.v6Addr n (hnums n hn)]
  · rw [rtRule, rtRule, h.mac, h.v6Addr n (hnums n hn), h.hdrHdl _ (mem_of_txOf ht)]

theorem mem_hdlsInUse_of_v4 (hset : c.routeRuleSetV4 = true) {r : RtHdl}
    (hr : r ∈ v4Hdls tx) : r ∈ c.hdlsInUse tx := by
  rw [hdlsInUse, if_pos hset]
  exact List.mem_append_left _ hr

theorem mem_hdlsInUse_of_v6 {r : RtHdl}
    (hr : r ∈ v6Hdls tx (List.range c.routeRuleSetV6)) : r ∈ c.hdlsInUse tx :=
  List.mem_append_right _ hr

theorem Same.deleteRtRules (h : Same tx c d) (ip : IpType) (k : Kernel) :
    SameWith tx (c.deleteRtRules tx ip k) (d.deleteRtRules tx ip k) := by
  cases ip with
  | v4 =>
    refine ⟨{ h with routeRuleSetV4 := rfl, rtHdl := fun r hr => ?_ }, ?_⟩
    · exact h.rtHdl r (mem_hdlsInUse_of_v6 hr)
    · rw [Client.deleteRtRules, Client.deleteRtRules]
      dsimp only
      rw [h.routeRuleSetV4]
      split
      · rename_i hset
        exact deleteRtHdls_congr fun r hr => h.rtHdl r (mem_hdlsInUse_of_v4 hset hr)
      · rfl
  | v6 =>
    refine ⟨{ h with routeRuleSetV6 := rfl, rtHdl := fun r hr => ?_ }, ?_⟩
    · obtain ⟨t, -, hset, rfl⟩ | ⟨t, -, n, hn, -⟩ := mem_hdlsInUse hr
      · refine h.rtHdl _ ?_
        rw [hdlsInUse] at hr ⊢
        have hset : c.routeRuleSetV4 = true := hset
        obtain hr | hr := List.mem_append.mp hr
        · exact List.mem_append_left _ hr
        · obtain ⟨_, _, n, hn, _⟩ := mem_v6Hdls.mp hr
          exact absurd hn List.not_mem_nil
      · exact absurd hn (Nat.not_lt_zero n)
    · rw [Client.deleteRtRules, Client.deleteRtRules]
      dsimp only
      rw [h.routeRuleSetV6]
      exact deleteRtHdls_congr fun r hr => h.rtHdl r (mem_hdlsInUse_of_v6 hr)

theorem Same.routeRule (h : Same tx c d) (alloc : Alloc) (ip : IpType) (k : Kernel) :
    SameWith tx (c.routeRule alloc tx ip k) (d.routeRule alloc tx ip k) := by
  cases ip with
  | v4 =>
    rw [Client.routeRule, Client.routeRule, h.routeRuleSetV4, h.ipv4Set]
    dsimp only
    split
    · rename_i hset
      obtain ⟨hk, hhdl⟩ := addRtRules_congr alloc (k := k)
        (h.rtRule_v4 hset.2)
      rw [addRtRules_eq alloc _ c, addRtRules_eq alloc _ d]
      refine ⟨{ h with routeRuleSetV4 := rfl, rtHdl := fun r hr => hhdl r ?_ }, hk⟩
      rw [hdlsInUse, if_pos rfl, List.mem_append] at hr
      exact hr.imp_right fun hr => h.rtHdl r (mem_hdlsInUse_of_v6 hr)
    · exact ⟨h, rfl⟩
  | v6 =>
    rw [Client.routeRule, Client.routeRule, h.routeRuleSetV6, h.ipv6Set]
    dsimp only
    split
    · rename_i hlt
      obtain ⟨hk, hhdl⟩ := addRtRules_congr alloc (k := k)
        (h.rtRule_v6 (List.range' c.routeRuleSetV6
          (c.ipv6Set - c.routeRuleSetV6)) fun n hn => by
            have hmem := List.mem_range'_1.mp hn
            omega)
      rw [addRtRules_eq alloc _ c, addRtRules_eq alloc _ d]
      refine ⟨{ h with routeRuleSetV6 := h.ipv6Set, rtHdl := fun r hr => hhdl r ?_ }, hk⟩
      -- the rules are those that were set before, and the new ones
      rw [hdlsInUse, List.mem_append] at hr
      obtain hr | hr := hr
      · exact .inr (h.rtHdl r (List.mem_append_left _ hr))
      · obtain ⟨t, ht, n, hn, heq⟩ := mem_v6Hdls.mp hr
        have hn := List.mem_range.mp hn
        rcases Nat.lt_or_ge n c.routeRuleSetV6 with hold | hnew
        · refine .inr (h.rtHdl r (mem_hdlsInUse_of_v6 ?_))
          exact mem_v6Hdls.mpr ⟨t, ht, n, List.mem_range.mpr hold, heq⟩
        · refine .inl (mem_v6Hdls.mpr ⟨t, ht, n, List.mem_range'_1.mpr ⟨hnew, ?_⟩, heq⟩)
          have hn : n < c.ipv6Set := hn
          omega
    · exact ⟨h, rfl⟩

/-! ## Addresses -/

theorem Same.ipaddr (h : Same tx c d) (ipv6Prefix : BitVec 64) (a : Addr) (k : Kernel) :
    Option.Rel (SameWith tx) (c.ipaddr tx ipv6Prefix a k)
      (d.ipaddr tx ipv6Prefix a k) := by
  cases a with
  | v4 addr =>
    rw [Client.ipaddr, Client.ipaddr, h.ipv4Set]
    dsimp only
    split
    · exact .none
    split
    · rename_i hset
      refine .some ⟨{ h with ipv4Set := rfl, v4Addr := fun _ => rfl }, rfl⟩
    rename_i hset
    rw [h.v4Addr (Bool.eq_true_of_not_eq_false hset)]
    split
    · exact .none
    · have hdel := h.deleteRtRules .v4 k
      exact .some ⟨{ hdel.record with v4Addr := fun _ => rfl }, hdel.kernel⟩
  | v6 addr =>
    rw [Client.ipaddr, Client.ipaddr, h.ipv6Set]
    split
    · exact .none
    split
    · exact .none
    split
    · have hseen : (∃ n < c.ipv6Set, d.v6Addr n = addr) ↔
          ∃ n < c.ipv6Set, c.v6Addr n = addr := by
        refine exists_congr fun n => and_congr_right fun hn => ?_
        rw [h.v6Addr n hn]
      rw [if_congr hseen rfl rfl]
      split
      · exact .none
      · refine .some ⟨{ h with ipv6Set := rfl, v6Addr := fun n hn => ?_ }, rfl⟩
        dsimp only
        rcases eq_or_ne n c.ipv6Set with rfl | hne
        · rw [Function.update_self, Function.update_self]
        · rw [Function.update_of_ne hne, Function.update_of_ne hne]
          exact h.v6Addr n (lt_of_le_of_ne (Nat.lt_succ_iff.mp hn) hne)
    · exact .none

/-! ## Events -/

section SameWith

variable {x y : Client × Kernel}

theorem SameWith.deleteRtRules (h : SameWith tx x y) (ip : IpType) :
    SameWith tx (x.1.deleteRtRules tx ip x.2) (y.1.deleteRtRules tx ip y.2) := by
  rw [h.kernel]
  exact h.record.deleteRtRules ip x.2

theorem SameWith.routeRule (h : SameWith tx x y) (alloc : Alloc) (ip : IpType) :
    SameWith tx (x.1.routeRule alloc tx ip x.2) (y.1.routeRule alloc tx ip y.2) := by
  rw [h.kernel]
  exact h.record.routeRule alloc ip x.2

theorem SameWith.withPowerSave (h : SameWith tx x y) (b : Bool) :
    SameWith tx ({ x.1 with powerSaveSet := b }, x.2)
      ({ y.1 with powerSaveSet := b }, y.2) :=
  ⟨{ h.record with powerSaveSet := rfl }, h.kernel⟩

end SameWith

theorem Same.sleep (h : Same tx c d) (k : Kernel) :
    SameWith tx (c.sleep tx k) (d.sleep tx k) := by
  rw [Client.sleep, Client.sleep, h.powerSaveSet]
  split
  · exact h.with k
  · exact (((h.with k).deleteRtRules .v4).deleteRtRules .v6).withPowerSave true

theorem Same.wake (h : Same tx c d) (alloc : Alloc) (k : Kernel) :
    SameWith tx (c.wake alloc tx k) (d.wake alloc tx k) := by
  rw [Client.wake, Client.wake, h.powerSaveSet]
  split
  · have hv6 : ∀ {x y : Client × Kernel}, SameWith tx x y → SameWith tx
        (if x.1.ipv6Set ≠ 0 then x.1.routeRule alloc tx .v6 x.2 else x)
        (if y.1.ipv6Set ≠ 0 then y.1.routeRule alloc tx .v6 y.2 else y) := by
      intro x y hxy
      rw [hxy.record.ipv6Set]
      split
      · exact hxy.routeRule alloc .v6
      · exact hxy
    have hawake := (h.with k).withPowerSave false
    have hset : d.ipv4Set = true ↔ c.ipv4Set = true := by rw [h.ipv4Set]
    dsimp only
    by_cases hv4 : c.ipv4Set = true
    · rw [if_pos hv4, if_pos (hset.mpr hv4)]
      exact hv6 (hawake.routeRule alloc .v4)
    · rw [if_neg hv4, if_neg (hset.not.mpr hv4)]
      exact hv6 hawake
  · exact h.with k

theorem Same.addAddr (h : Same tx c d) (alloc : Alloc) (ipv6Prefix : BitVec 64)
    (a : Addr) (k : Kernel) :
    SameWith tx (c.addAddr alloc tx ipv6Prefix a k)
      (d.addAddr alloc tx ipv6Prefix a k) := by
  have hrel := h.ipaddr ipv6Prefix a k
  rw [Client.addAddr, Client.addAddr]
  revert hrel
  cases c.ipaddr tx ipv6Prefix a k <;> cases d.ipaddr tx ipv6Prefix a k
  · exact fun _ => h.with k
  · rintro ⟨⟩
  · rintro ⟨⟩
  · rintro ⟨hxy⟩
    dsimp only
    rw [hxy.record.powerSaveSet]
    split
    · exact hxy
    · exact hxy.routeRule alloc a.ipType

theorem addHeader_congr (alloc : Alloc) (tx : List IpType) {x y : Client × Kernel}
    (hmac : y.1.mac = x.1.mac)
    (hk : y.2 = x.2) (ip : IpType) :
    (y.1.addHeader alloc tx ip y.2).1.mac = (x.1.addHeader alloc tx ip x.2).1.mac ∧
      (y.1.addHeader alloc tx ip y.2).2 = (x.1.addHeader alloc tx ip x.2).2 ∧
      (∀ ip', ip ∈ tx ∧ ip' = ip ∨ y.1.hdrHdl ip' = x.1.hdrHdl ip' →
        (y.1.addHeader alloc tx ip y.2).1.hdrHdl ip' =
          (x.1.addHeader alloc tx ip x.2).1.hdrHdl ip') ∧
      ∀ ip', ip ∈ tx ∧ ip' = ip ∨ y.1.headerSet ip' = x.1.headerSet ip' →
        (y.1.addHeader alloc tx ip y.2).1.headerSet ip' =
          (x.1.addHeader alloc tx ip x.2).1.headerSet ip' := by
  by_cases hip : ip ∈ tx
  · simp only [addHeader, if_pos hip]
    refine ⟨hmac, by rw [hmac, hk], fun ip' h => ?_, fun ip' h => ?_⟩
    all_goals
      rcases eq_or_ne ip' ip with rfl | hne
      · simp only [Function.update_self, hk]
      · rw [Function.update_of_ne hne, Function.update_of_ne hne]
        exact h.resolve_left fun h => hne h.2
  · simp only [addHeader, if_neg hip]
    exact ⟨hmac, hk, fun ip' h => h.resolve_left fun h => hip h.1,
      fun ip' h => h.resolve_left fun h => hip h.1⟩

theorem make_same (attribs : List HdrAttrib) (k : Kernel)
    (hmac : macAttrib attribs d.mac = macAttrib attribs c.mac)
    (hset : ∀ ip ∉ tx, d.headerSet ip = c.headerSet ip) :
    SameWith tx (c.make alloc tx attribs k) (d.make alloc tx attribs k) := by
  obtain ⟨hmac₄, hk₄, hhdl₄, hset₄⟩ := addHeader_congr alloc tx
    (x := ({ c with mac := macAttrib attribs c.mac }, k))
    (y := ({ d with mac := macAttrib attribs d.mac }, k)) hmac rfl .v4
  obtain ⟨hmac₆, hk₆, hhdl₆, hset₆⟩ := addHeader_congr alloc tx
    hmac₄ hk₄ .v6
  refine ⟨⟨hmac₆, rfl, rfl, rfl, rfl, funext fun ip => hset₆ ip ?_, rfl, nofun, nofun,
    fun ip hip => hhdl₆ ip ?_, fun r hr => ?_⟩, hk₆⟩
  · by_cases hip : ip ∈ tx
    · cases ip with
      | v4 => exact .inr (hset₄ .v4 (.inl ⟨hip, rfl⟩))
      | v6 => exact .inl ⟨hip, rfl⟩
    · exact .inr (hset₄ ip (.inr (hset ip hip)))
  · cases ip with
    | v4 => exact .inr (hhdl₄ .v4 (.inl ⟨hip, rfl⟩))
    | v6 => exact .inl ⟨hip, rfl⟩
  · rw [hdlsInUse_eq_nil rfl rfl] at hr
    cases hr

theorem moveUp_same (next : Client) (h : c.powerSaveSet = next.powerSaveSet) :
    Same tx next (moveUp tx next c) where
  mac := rfl
  ipv4Set := rfl
  ipv6Set := rfl
  routeRuleSetV4 := rfl
  routeRuleSetV6 := rfl
  headerSet := rfl
  powerSaveSet := h
  v4Addr _ := rfl
  v6Addr n hn := if_pos hn
  hdrHdl _ _ := rfl
  rtHdl r hr := by
    refine if_pos ?_
    obtain ⟨t, ht, -, rfl⟩ | ⟨t, ht, n, hn, rfl | rfl⟩ := mem_hdlsInUse hr
    exacts [ht, ⟨ht, hn⟩, ⟨ht, hn⟩]

end Client

end Axon7.Clients
