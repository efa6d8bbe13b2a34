import Axon7.Clients.Failing

/-!
# What a setup that fails leaves behind

A setup leaves no trace if it fails before it has added anything: for headers at
one of the first two calls, for rules at the first. Every later failure leaves a
header that is on the books of no client, or a rule that is not on those of its
client.

What is added has a handle that is not in use. A WLAN client names only what is
installed, whatever was left behind before, so it does not name what was just
added. A LAN client may name what is long deleted; but a header that is added is for
an address that no client has, and a rule for one that the client has no rule
for.
-/

namespace Axon7.Clients

open Axon7.Lib
open Axon7.Tether (IpType Addr)
open Axon7.Conntrack (CtListener)

namespace Client

variable {alloc : Alloc} {tx : List IpType} {c : Client} {k : Kernel} {rest : Books}
  {attribs : List HdrAttrib} {ioctls : List HdrIoctl} {hdls : List RtHdl} {ip : IpType}
  {n : Nat}

/-! ## Headers -/

theorem runHdrIoctls_take (alloc : Alloc) (attribs : List HdrAttrib) (c : Client)
    (k : Kernel) (h : n < (hdrIoctls tx).length) :
    (n < 2 → (c.runHdrIoctls alloc tx attribs ((hdrIoctls tx).take n) k).2 = k) ∧
      (2 ≤ n → (c.runHdrIoctls alloc tx attribs ((hdrIoctls tx).take n) k).2 =
        k.add (.hdr, alloc k .hdr) (.header (macAttrib attribs c.mac) .v4)) := by
  by_cases hv4 : IpType.v4 ∈ tx <;> by_cases hv6 : IpType.v6 ∈ tx
  · have hlist : hdrIoctls tx =
        [.copyHeader .v4, .addHeader .v4, .copyHeader .v6, .addHeader .v6] := by
      simp [hdrIoctls, hv4, hv6]
    rw [hlist] at h ⊢
    simp only [List.length_cons, List.length_nil] at h
    interval_cases n <;> simp [runHdrIoctls, hdrIoctl, addHeader, hv4]
  · have hlist : hdrIoctls tx = [.copyHeader .v4, .addHeader .v4] := by
      simp [hdrIoctls, hv4, hv6]
    rw [hlist] at h ⊢
    simp only [List.length_cons, List.length_nil] at h
    interval_cases n <;> simp [runHdrIoctls, hdrIoctl]
  · have hlist : hdrIoctls tx = [.copyHeader .v6, .addHeader .v6] := by
      simp [hdrIoctls, hv4, hv6]
    rw [hlist] at h ⊢
    simp only [List.length_cons, List.length_nil] at h
    interval_cases n <;> simp [runHdrIoctls, hdrIoctl]
  · have hlist : hdrIoctls tx = [] := by simp [hdrIoctls, hv4, hv6]
    rw [hlist] at h
    exact absurd h (Nat.not_lt_zero n)

theorem runHdrIoctls_fst (alloc : Alloc) (tx : List IpType) (attribs : List HdrAttrib)
    (ioctls : List HdrIoctl) (c : Client) (k : Kernel) :
    ∃ mac hdl set, (c.runHdrIoctls alloc tx attribs ioctls k).1 =
        { c with mac := mac, hdrHdl := hdl, headerSet := set } ∧
      ∀ ip ∉ tx, set ip = c.headerSet ip := by
  induction ioctls generalizing c k with
  | nil => exact ⟨c.mac, c.hdrHdl, c.headerSet, rfl, fun _ _ => rfl⟩
  | cons ioctl ioctls ih =>
    obtain ⟨mac, hdl, set, heq, hset⟩ := ih (hdrIoctl alloc tx attribs (c, k) ioctl).1
      (hdrIoctl alloc tx attribs (c, k) ioctl).2
    refine ⟨mac, hdl, set, heq.trans ?_, fun ip hip => (hset ip hip).trans ?_⟩
    · cases ioctl with
      | copyHeader ip => rfl
      | addHeader ip =>
        rw [hdrIoctl, addHeader]
        split <;> rfl
    · cases ioctl with
      | copyHeader ip => rfl
      | addHeader ip' => exact addHeader_headerSet hip

theorem Wf.runHdrIoctls (h : c.Wf tx) :
    (c.runHdrIoctls alloc tx attribs ioctls k).1.Wf tx := by
  obtain ⟨mac, hdl, set, heq, hset⟩ := runHdrIoctls_fst alloc tx attribs ioctls c k
  rw [heq]
  exact ⟨h.v4, h.v6, fun ip hip => (hset ip hip).trans (h.header ip hip)⟩

theorem not_mem_headerBooks {ip' : IpType} {hdl : Nat} {x : Item} :
    ((.rt ip, hdl), x) ∉ c.headerBooks ip' := by
  rw [headerBooks]
  split
  · intro h
    cases Multiset.mem_singleton.mp h
  · exact Multiset.notMem_zero _

theorem mac_of_mem_books {hdl : Nat} {mac : Mac}
    (h : ((.hdr, hdl), .header mac ip) ∈ c.books tx) : mac = c.mac := by
  have hheader : ∀ ip', ((.hdr, hdl), .header mac ip) ∈ c.headerBooks ip' → mac = c.mac := by
    intro ip' h
    rw [headerBooks] at h
    split at h
    · cases Multiset.mem_singleton.mp h
      rfl
    · exact absurd h (Multiset.notMem_zero _)
  rw [books, Multiset.mem_add, Multiset.mem_add] at h
  obtain (h | h) | h := h
  · exact hheader .v4 h
  · exact hheader .v6 h
  · obtain ⟨r, -, heq⟩ := List.mem_map.mp (Multiset.mem_coe.mp h)
    exact absurd (Prod.mk.inj (Prod.mk.inj heq).1).1 (by rintro ⟨⟩)

/-! ## Rules -/

theorem mem_addRtRules {e : (Res × Nat) × Item} (h : e ∈ k.live) :
    e ∈ (c.addRtRules alloc hdls k).2.live := by
  induction hdls generalizing c k with
  | nil => exact h
  | cons r hdls ih => exact ih (List.mem_cons_of_mem _ h)

theorem first_mem_addRtRules (r : RtHdl) (hdls : List RtHdl) :
    ((.rt r.ip, alloc k (.rt r.ip)), c.rtRule r) ∈
      (c.addRtRules alloc (r :: hdls) k).2.live :=
  mem_addRtRules (k := k.add (.rt r.ip, alloc k (.rt r.ip)) (c.rtRule r))
    (c := { c with rtHdl := Function.update c.rtHdl r (alloc k (.rt r.ip)) })
    List.mem_cons_self

theorem addRtRules_rtRule (r : RtHdl) :
    (c.addRtRules alloc hdls k).1.rtRule r = c.rtRule r := by
  rw [addRtRules_eq]
  cases r <;> rfl

theorem books_addRtRules (h : ∀ r ∈ hdls, r ∈ c.missingHdls tx ip) :
    (c.addRtRules alloc hdls k).1.books tx = c.books tx := by
  have huse : (c.addRtRules alloc hdls k).1.hdlsInUse tx = c.hdlsInUse tx := by
    rw [addRtRules_eq]
    rfl
  refine books_congr (fun ip => ?_) huse (fun r hr => ?_) fun r _ => addRtRules_rtRule r
  · rw [addRtRules_eq]
    rfl
  · exact addRtRules_rtHdl fun hmem => not_mem_missingHdls hr (h r hmem)

theorem retry_duplicates (hA : alloc.Grants) {r : RtHdl}
    (hmiss : c.missingHdls tx ip = r :: hdls) (m : Nat) {ck : Client × Kernel}
    (hck : ck = c.addRtRules alloc ((c.missingHdls tx ip).take (m + 1)) k) :
    ∃ hdl hdl', hdl ≠ hdl' ∧
      ((.rt r.ip, hdl), c.rtRule r) ∈ (ck.1.routeRule alloc tx ip ck.2).2.live ∧
      ((.rt r.ip, hdl'), c.rtRule r) ∈ (ck.1.routeRule alloc tx ip ck.2).2.live := by
  have hagain : ck.1.missingHdls tx ip = r :: hdls := by
    rw [hck, addRtRules_eq, ← hmiss]
    cases ip <;> rfl
  have hrule : ck.1.rtRule r = c.rtRule r := by
    rw [hck]
    exact addRtRules_rtRule r
  have hleft : ((.rt r.ip, alloc k (.rt r.ip)), c.rtRule r) ∈ ck.2.live := by
    rw [hck, hmiss, List.take_succ_cons]
    exact first_mem_addRtRules r _
  have hnew : ((.rt r.ip, alloc ck.2 (.rt r.ip)), ck.1.rtRule r) ∈
      (ck.1.addRtRules alloc (r :: hdls) ck.2).2.live := first_mem_addRtRules r hdls
  rw [routeRule_eq_addRtRules, hagain]
  refine ⟨_, _, fun heq => ?_, mem_addRtRules hleft, hrule ▸ hnew⟩
  refine hA.fresh ck.2 (.rt r.ip) ?_
  rw [← heq]
  exact List.mem_map.mpr ⟨_, hleft, rfl⟩

theorem retry_duplicates_v4 :
    let c : Client := { blank with ipv4Set := true, v4Addr := 5 }
    let ck := c.addRtRules nextHandle [.v4 0] .empty
    ∃ hdl hdl', hdl ≠ hdl' ∧
      ((.rt .v4, hdl), c.rtRule (.v4 0)) ∈
        (ck.1.routeRule nextHandle [.v4, .v6, .v4] .v4 ck.2).2.live ∧
      ((.rt .v4, hdl'), c.rtRule (.v4 0)) ∈
        (ck.1.routeRule nextHandle [.v4, .v6, .v4] .v4 ck.2).2.live :=
  retry_duplicates nextHandle_grants (r := .v4 0) rfl 0 rfl

/-- The IPv6 addresses of a client are distinct. -/
def DistinctV6 (c : Client) : Prop :=
  ∀ m n, m < c.ipv6Set → n < c.ipv6Set → c.v6Addr m = c.v6Addr n → m = n

theorem DistinctV6.missing_not_mem (h : c.DistinctV6) {r : RtHdl} {hdl : Nat}
    (hr : r ∈ c.missingHdls tx ip) : ((.rt r.ip, hdl), c.rtRule r) ∉ c.books tx := by
  intro hmem
  rw [books, Multiset.mem_add, Multiset.mem_add] at hmem
  obtain (hmem | hmem) | hmem := hmem
  · exact not_mem_headerBooks hmem
  · exact not_mem_headerBooks hmem
  -- a place in use with the rule is for the same address
  · obtain ⟨r', hr', heq⟩ := List.mem_map.mp (Multiset.mem_coe.mp hmem)
    have hrule : c.rtRule r' = c.rtRule r := (Prod.mk.inj heq).2
    obtain ⟨t, hset, rfl⟩ | ⟨t, n, hlo, hhi, hplace⟩ := mem_missingHdls hr
    · obtain ⟨t', -, hset', -⟩ | ⟨t', -, n', -, hplace'⟩ := mem_hdlsInUse hr'
      · exact absurd (hset.symm.trans hset') (by rintro ⟨⟩)
      · obtain rfl | rfl := hplace' <;> cases hrule
    · obtain ⟨t', -, -, rfl⟩ | ⟨t', -, n', hn', hplace'⟩ := mem_hdlsInUse hr'
      · obtain rfl | rfl := hplace <;> cases hrule
      · have hdiff : n' ≠ n := by omega
        refine hdiff (h n' n (by omega) hhi ?_)
        obtain rfl | rfl := hplace <;> obtain rfl | rfl := hplace' <;>
          simp_all [rtRule]

/-! ## The IPv6 addresses stay distinct -/

theorem DistinctV6.congr {d : Client} (h : c.DistinctV6) (haddr : d.v6Addr = c.v6Addr)
    (hnum : d.ipv6Set = c.ipv6Set) : d.DistinctV6 := by
  intro m n
  rw [haddr, hnum]
  exact h m n

theorem distinctV6_of_none (h : c.ipv6Set = 0) : c.DistinctV6 := by
  intro m n hm
  rw [h] at hm
  exact absurd hm (Nat.not_lt_zero m)

theorem DistinctV6.ipaddr (h : c.DistinctV6) {ipv6Prefix : BitVec 64} {a : Addr}
    {ck : Client × Kernel} (hck : c.ipaddr tx ipv6Prefix a k = some ck) :
    ck.1.DistinctV6 := by
  cases a with
  | v4 addr =>
    rw [Client.ipaddr] at hck
    split at hck
    · cases hck
    split at hck
    · cases hck
      exact h
    split at hck <;> cases hck
    exact h
  | v6 addr =>
    rw [Client.ipaddr] at hck
    split at hck
    · cases hck
    split at hck
    · cases hck
    split at hck
    · split at hck <;> cases hck
      -- the new address is none of those before
      rename_i hnew
      have hold : ∀ {n}, n < c.ipv6Set →
          Function.update c.v6Addr c.ipv6Set addr n = c.v6Addr n := fun hn =>
        Function.update_of_ne hn.ne _ _
      intro m n hm hn heq
      dsimp only at hm hn heq
      obtain hm | rfl := Nat.lt_succ_iff_lt_or_eq.mp hm <;>
        obtain hn | rfl := Nat.lt_succ_iff_lt_or_eq.mp hn
      · rw [hold hm, hold hn] at heq
        exact h m n hm hn heq
      · rw [hold hm, Function.update_self] at heq
        exact absurd ⟨m, hm, heq⟩ hnew
      · rw [hold hn, Function.update_self] at heq
        exact absurd ⟨n, hn, heq.symm⟩ hnew
      · rfl
    · cases hck

theorem DistinctV6.deleteHeader (h : c.DistinctV6) {ck : Client × Kernel}
    (hck : c.deleteHeader ip k = some ck) : ck.1.DistinctV6 := by
  rw [Client.deleteHeader] at hck
  split at hck
  · obtain ⟨k', -, rfl⟩ := Option.map_eq_some_iff.mp hck
    exact h
  · cases hck
    exact h

theorem DistinctV6.moveUp {next : Client} (h : next.DistinctV6) :
    (Client.moveUp tx next c).DistinctV6 := by
  intro m n hm hn heq
  have hcopied : ∀ {n}, n < next.ipv6Set → (Client.moveUp tx next c).v6Addr n =
      next.v6Addr n := fun hn => if_pos hn
  rw [hcopied hm, hcopied hn] at heq
  exact h m n hm hn heq

theorem DistinctV6.closeV6Gap (h : c.DistinctV6) (t n : Nat) :
    (c.closeV6Gap t n).DistinctV6 := by
  intro i j hi hj heq
  have hi : i < c.ipv6Set - 1 := hi
  have hj : j < c.ipv6Set - 1 := hj
  have hfrom : ∀ {i}, i < c.ipv6Set - 1 →
      (c.closeV6Gap t n).v6Addr i = c.v6Addr (Iface.skip n i) := by
    intro i hi
    rw [Client.closeV6Gap, Iface.skip]
    dsimp only
    by_cases hlt : i < n
    · rw [if_neg (by omega), if_pos hlt]
    · rw [if_pos (by omega), if_neg hlt]
  rw [hfrom hi, hfrom hj] at heq
  have hbound : ∀ {i}, i < c.ipv6Set - 1 → Iface.skip n i < c.ipv6Set := by
    intro i hi
    have hskip := Iface.skip_lt (i := n) hi
    omega
  exact Iface.skip_injective (h _ _ (hbound hi) (hbound hj) heq)

theorem DistinctV6.delIpv6Addr (h : c.DistinctV6) (addr : BitVec 128) :
    (c.delIpv6Addr tx addr k).1.DistinctV6 := by
  have hturns : ∀ (l : List Nat) (x : Nat × Client × Kernel), x.2.1.DistinctV6 →
      (l.foldl delIpv6Turn x).2.1.DistinctV6 := by
    intro l
    induction l with
    | nil => exact fun _ hx => hx
    | cons t l ih =>
      intro x hx
      refine ih _ ?_
      rw [delIpv6Turn]
      split
      · exact hx
      · exact hx.closeV6Gap t _
  rw [Client.delIpv6Addr]
  split
  · exact h
  dsimp only
  split
  · exact h
  · exact hturns _ _ h

end Client

namespace Iface

variable {alloc : Alloc} {tx : List IpType} {s t : Iface} {mac : Mac} {ip : IpType}
  {i n total : Nat} {left : Books}

/-! ## Traces -/

/-- The number of clients is as before, and what was added is on the books of a
client that is present. -/
structure NoHeaderTrace (tx : List IpType) (s s' : Iface) : Prop where
  numClient : s'.numClient = s.numClient
  named : ∀ e ∈ s'.kernel.live, e ∉ s.kernel.live →
    ∃ j < s'.numClient, e ∈ (s'.clients j).books tx

/-- What was added is on the books of the client. -/
def NoRuleTrace (tx : List IpType) (i : Nat) (s s' : Iface) : Prop :=
  ∀ e ∈ s'.kernel.live, e ∉ s.kernel.live → e ∈ (s'.clients i).books tx

theorem not_mem_live (hA : alloc.Grants) (k : Kernel) (res : Res) (x : Item) :
    ((res, alloc k res), x) ∉ k.live := fun hmem =>
  hA.fresh k res (List.mem_map.mpr ⟨_, hmem, rfl⟩)

theorem wlanIoctls_eq (h : n < (s.wlanIoctls tx total).length) :
    s.wlanIoctls tx total = hdrIoctls tx := by
  rw [wlanIoctls] at h ⊢
  split at h
  · exact absurd h (Nat.not_lt_zero n)
  · rename_i hroom
    exact if_neg hroom

theorem ethIoctls_eq (h : n < (s.ethIoctls tx mac).length) :
    s.clientIndex mac = none ∧ s.ethIoctls tx mac = hdrIoctls tx := by
  rw [ethIoctls] at h ⊢
  cases hf : s.clientIndex mac with
  | some i =>
    rw [hf] at h
    exact absurd h (Nat.not_lt_zero n)
  | none =>
    rw [hf] at h
    dsimp only at h ⊢
    split at h
    · exact absurd h (Nat.not_lt_zero n)
    · rename_i hroom
      exact ⟨rfl, if_neg hroom⟩

theorem rulesToAdd_eq (hf : s.clientIndex mac = some i)
    (h : n < (s.rulesToAdd tx mac ip).length) :
    s.rulesToAdd tx mac ip = (s.clients i).missingHdls tx ip := by
  rw [rulesToAdd, hf] at h ⊢
  dsimp only at h ⊢
  split at h
  · exact absurd h (Nat.not_lt_zero n)
  · rename_i hawake
    exact if_neg hawake

theorem noHeaderTrace_iff (hA : alloc.Grants) {ck : Client × Kernel}
    (hsame : n < 2 → ck.2 = s.kernel)
    (hadd : 2 ≤ n → ck.2 = s.kernel.add (.hdr, alloc s.kernel .hdr) (.header mac .v4))
    (hnone : ∀ j < s.numClient,
      ((.hdr, alloc s.kernel .hdr), .header mac .v4) ∉ (s.clients j).books tx) :
    NoHeaderTrace tx s (s.write s.numClient ck) ↔ n < 2 := by
  constructor
  · intro h
    by_contra hge
    have hlive : ((.hdr, alloc s.kernel .hdr), .header mac .v4) ∈
        (s.write s.numClient ck).kernel.live := by
      change _ ∈ ck.2.live
      rw [hadd (by omega)]
      exact List.mem_cons_self
    obtain ⟨j, hj, hmem⟩ := h.named _ hlive (not_mem_live hA _ _ _)
    have hj : j < s.numClient := hj
    rw [write_of_ne hj.ne] at hmem
    exact hnone j hj hmem
  · intro hlt
    refine ⟨rfl, fun e he hold => absurd ?_ hold⟩
    change e ∈ ck.2.live at he
    rwa [hsame hlt] at he

theorem noRuleTrace_iff (hA : alloc.Grants)
    (hn : n < ((s.clients i).missingHdls tx ip).length)
    (hnone : ∀ r ∈ (s.clients i).missingHdls tx ip,
      ((.rt r.ip, alloc s.kernel (.rt r.ip)), (s.clients i).rtRule r) ∉
        (s.clients i).books tx) :
    NoRuleTrace tx i s (s.write i ((s.clients i).addRtRules alloc
      (((s.clients i).missingHdls tx ip).take n) s.kernel)) ↔ n = 0 := by
  constructor
  · intro h
    by_contra hne
    obtain ⟨m, rfl⟩ := Nat.exists_eq_succ_of_ne_zero hne
    have hmiss := fun r => List.mem_of_mem_take (a := r) (i := m + 1)
      (l := (s.clients i).missingHdls tx ip)
    cases hlist : (s.clients i).missingHdls tx ip with
    | nil =>
      rw [hlist] at hn
      exact absurd hn (Nat.not_lt_zero _)
    | cons r hdls =>
      have hmem := h _ (by
        change _ ∈ ((s.clients i).addRtRules alloc _ s.kernel).2.live
        rw [hlist, List.take_succ_cons]
        exact Client.first_mem_addRtRules r _) (not_mem_live hA _ _ _)
      rw [write_self, Client.books_addRtRules hmiss] at hmem
      exact hnone r (hlist ▸ List.mem_cons_self) hmem
  · rintro rfl e he hold
    exact absurd he hold

/-! ## WLAN clients name what is installed -/

theorem OwnedWith.mem_live (h : s.OwnedWith tx left) (hi : i < s.numClient)
    {e : (Res × Nat) × Item} (he : e ∈ (s.clients i).books tx) : e ∈ s.kernel.live := by
  rw [← Multiset.mem_coe, h.holds.owns.live, Multiset.mem_add, books, Multiset.mem_sum]
  exact .inl ⟨i, Finset.mem_range.mpr hi, he⟩

theorem OwnedWith.write_of_books (h : s.OwnedWith tx left) {ck : Client × Kernel}
    (hwf : ck.1.Wf tx) (hbooks : (s.write i ck).books tx = s.books tx) {left' : Books}
    (hk : Holds ck.2 (s.books tx + left')) : (s.write i ck).OwnedWith tx left' where
  active := h.active
  holds := by
    rw [hbooks]
    exact hk
  wf j := by
    rcases eq_or_ne j i with rfl | hne
    · rw [write_self]
      exact hwf
    · rw [write_of_ne hne]
      exact h.wf j

theorem OwnedWith.failingWlanClientInitEx (hA : alloc.Grants) (h : s.OwnedWith tx left)
    (attribs : List HdrAttrib) (total n : Nat) :
    ∃ left', (s.failingWlanClientInitEx alloc tx attribs total n).OwnedWith tx left' := by
  rw [Iface.failingWlanClientInitEx]
  split
  · rename_i hn
    have hioctls := wlanIoctls_eq hn
    rw [hioctls] at hn ⊢
    obtain ⟨hsame, hadd⟩ := Client.runHdrIoctls_take alloc attribs
      (s.clients s.numClient) s.kernel hn
    have hbooks : ∀ ck : Client × Kernel,
        (s.write s.numClient ck).books tx = s.books tx := fun ck =>
      Finset.sum_congr rfl fun j hj => by rw [write_of_ne (Finset.mem_range.mp hj).ne]
    have hwf : Client.Wf tx ((s.clients s.numClient).runHdrIoctls alloc tx attribs
        ((hdrIoctls tx).take n) s.kernel).1 := (h.wf s.numClient).runHdrIoctls
    rcases Nat.lt_or_ge n 2 with hlt | hge
    · refine ⟨left, h.write_of_books hwf (hbooks _) ?_⟩
      rw [hsame hlt]
      exact h.holds
    · have hk := h.holds.add hA .hdr
        (.header (macAttrib attribs (s.clients s.numClient).mac) .v4)
      rw [← hadd hge, ← Multiset.add_cons] at hk
      exact ⟨_, h.write_of_books hwf (hbooks _) hk⟩
  · exact ⟨left, h.handleWlanClientInitEx hA⟩

theorem OwnedWith.failingClientRouteRule (hA : alloc.Grants) (h : s.OwnedWith tx left)
    (mac : Mac) (ip : IpType) (n : Nat) :
    ∃ left', (s.failingClientRouteRule alloc tx mac ip n).OwnedWith tx left' := by
  rw [Iface.failingClientRouteRule]
  cases hf : s.clientIndex mac with
  | none => exact ⟨left, h⟩
  | some i =>
    have hi := (clientIndex_eq_some hf).1
    dsimp only
    split
    · rename_i hn
      rw [rulesToAdd_eq hf hn]
      have hmiss := fun r => List.mem_of_mem_take (a := r) (i := n)
        (l := (s.clients i).missingHdls tx ip)
      have hnd := (Client.missingHdls_nodup tx ip (s.clients i)).sublist
        (List.take_sublist n _)
      obtain ⟨hholds, -⟩ := Client.addRtRules_holds hA hnd h.holds
        (c := s.clients i)
      rw [add_left_comm] at hholds
      refine ⟨_, h.write_of_books ?_ ?_ hholds⟩
      · have hwf := h.wf i
        rw [Client.addRtRules_eq]
        exact ⟨hwf.v4, hwf.v6, hwf.header⟩
      · rw [books_write hi, Client.books_addRtRules hmiss, ← books_split hi]
    · rw [handleClientRouteRule, hf]
      dsimp only
      split
      · exact ⟨left, h⟩
      · exact ⟨left, h.write hi ((h.wf i).routeRule hA ip s.kernel)⟩

theorem OwnedWith.clientCall (hA : alloc.Grants) (h : s.OwnedWith tx left)
    (call : ClientCall) : ∃ left', (s.clientCall alloc tx call).OwnedWith tx left' := by
  cases call with
  | ipaddr mac ipv6Prefix a =>
    refine ⟨left, ?_⟩
    rw [Iface.clientCall, handleClientIpaddr]
    cases hf : s.clientIndex mac with
    | none => exact h
    | some i =>
      have hi := (clientIndex_eq_some hf).1
      dsimp only
      cases hck : (s.clients i).ipaddr tx ipv6Prefix a s.kernel with
      | none => exact h
      | some ck =>
        have hwrite := h.write hi ((h.wf i).ipaddr hck)
        cases a with
        | v4 addr =>
          exact ((dropAddr_alike (s.clients i)).write i ck).ownedWith hwrite
        | v6 addr => exact hwrite
  | routeRule mac ip n => exact h.failingClientRouteRule hA mac ip n
  | downEvt mac => exact ⟨left, h.handleClientDownEvt⟩
  | resetRt ip => exact ⟨left, h.handleClientResetRt ip⟩
  | listener ct => exact ⟨left, h.active, h.holds, h.wf⟩

theorem OwnedWith.wlanCall (hA : alloc.Grants) (h : s.OwnedWith tx left)
    (call : WlanCall) : ∃ left', (s.wlanCall alloc tx call).OwnedWith tx left' := by
  cases call with
  | initEx attribs total n => exact h.failingWlanClientInitEx hA attribs total n
  | pwrsave mac => exact ⟨left, h.handleWlanClientPwrsave⟩
  | awake mac =>
    refine ⟨left, ?_⟩
    rw [Iface.wlanCall, Iface.awake]
    cases hf : s.clientIndex mac with
    | none => exact h
    | some i =>
      have hkeeps := ((h.wf i).keeps s.kernel).withPowerSave false
      exact h.write (clientIndex_eq_some hf).1 hkeeps
  | client call => exact h.clientCall hA call

theorem OwnedWith.wlanCalls (hA : alloc.Grants) (h : s.OwnedWith tx left)
    (calls : List WlanCall) :
    ∃ left', (s.wlanCalls alloc tx calls).OwnedWith tx left' := by
  induction calls generalizing s left with
  | nil => exact ⟨left, h⟩
  | cons call calls ih =>
    obtain ⟨left', h'⟩ := h.wlanCall hA call
    exact ih h'

/-! ## LAN clients have distinct addresses -/

/-- Also what is left behind the last record has. -/
def DistinctV6 (s : Iface) : Prop := ∀ j, (s.clients j).DistinctV6

theorem DistinctV6.write (h : s.DistinctV6) {ck : Client × Kernel}
    (hck : ck.1.DistinctV6) : (s.write i ck).DistinctV6 := by
  intro j
  rcases eq_or_ne j i with rfl | hne
  · rw [write_self]
    exact hck
  · rw [write_of_ne hne]
    exact h j

theorem DistinctV6.of_alike (h : s.DistinctV6) (ht : s.Alike t) : t.DistinctV6 := by
  intro j
  rw [ht.clients]
  exact h j

theorem DistinctV6.closeGap (h : s.DistinctV6) (i : Nat) :
    (s.closeGap tx i).DistinctV6 := by
  intro j
  rw [closeGap_clients]
  split
  · exact (h (j + 1)).moveUp
  · exact h j

theorem DistinctV6.foldl {f : Iface → Nat → Iface}
    (hf : ∀ s i, DistinctV6 s → (f s i).DistinctV6) (h : s.DistinctV6) (l : List Nat) :
    (l.foldl f s).DistinctV6 := by
  induction l generalizing s with
  | nil => exact h
  | cons i l ih => exact ih (hf s i h)

theorem DistinctV6.handleClientDownEvt (h : s.DistinctV6) :
    (s.handleClientDownEvt tx mac).DistinctV6 := by
  rw [Iface.handleClientDownEvt]
  split
  · exact h
  · rename_i i hf
    have hdrop := h.of_alike (dropAddr_alike (s.clients i))
    dsimp only
    split
    · exact hdrop.write ((hdrop i).congr rfl rfl)
    · rename_i c k hv4
      have hrec : c.DistinctV6 := by
        refine Client.DistinctV6.deleteHeader ?_ hv4
        exact (hdrop i).congr rfl rfl
      split
      · exact hdrop.write hrec
      · exact (hdrop.write (Client.distinctV6_of_none rfl)).closeGap i

theorem DistinctV6.cleanClients (h : s.DistinctV6) : (s.cleanClients tx).DistinctV6 := by
  refine h.foldl (fun s i h => ?_) _
  have hdrop := h.of_alike (dropAddr_alike (s.clients i))
  exact hdrop.write ((hdrop i).congr rfl rfl)

theorem DistinctV6.handleClientResetRt (h : s.DistinctV6) (ip : IpType) :
    (s.handleClientResetRt tx ip).DistinctV6 := by
  refine h.foldl (fun s i h => h.write ?_) _
  cases ip with
  | v4 => exact (h i).congr rfl rfl
  | v6 => exact Client.distinctV6_of_none rfl

theorem DistinctV6.failingClientRouteRule (h : s.DistinctV6) (mac : Mac) (ip : IpType)
    (n : Nat) : (s.failingClientRouteRule alloc tx mac ip n).DistinctV6 := by
  rw [Iface.failingClientRouteRule]
  split
  · exact h
  · rename_i i hf
    split
    · refine h.write ?_
      rw [Client.addRtRules_eq]
      exact h i
    · rw [handleClientRouteRule, hf]
      dsimp only
      split
      · exact h
      · obtain ⟨_, _, _, heq⟩ := Client.routeRule_fst alloc tx ip (s.clients i) s.kernel
        refine h.write ?_
        rw [heq]
        exact h i

theorem DistinctV6.failingEthHdrInit (h : s.DistinctV6) (mac : Mac) (n : Nat) :
    (s.failingEthHdrInit alloc tx mac n).DistinctV6 := by
  rw [Iface.failingEthHdrInit]
  split
  · obtain ⟨_, _, _, heq, -⟩ := Client.runHdrIoctls_fst alloc tx []
      ((s.ethIoctls tx mac).take n) { s.clients s.numClient with mac := mac } s.kernel
    refine h.write ?_
    rw [heq]
    exact h s.numClient
  · rw [handleEthHdrInit]
    split
    · exact h
    split
    · exact h
    dsimp only
    split
    · exact h.write (h s.numClient)
    · exact h.write (Client.distinctV6_of_none rfl)

theorem DistinctV6.clientCall (h : s.DistinctV6) (call : ClientCall) :
    (s.clientCall alloc tx call).DistinctV6 := by
  cases call with
  | ipaddr mac ipv6Prefix a =>
    rw [Iface.clientCall, handleClientIpaddr]
    cases hf : s.clientIndex mac with
    | none => exact h
    | some i =>
      dsimp only
      cases hck : (s.clients i).ipaddr tx ipv6Prefix a s.kernel with
      | none => exact h
      | some ck =>
        have hrec := (h i).ipaddr hck
        cases a with
        | v4 addr => exact (h.of_alike (dropAddr_alike (s.clients i))).write hrec
        | v6 addr => exact h.write hrec
  | routeRule mac ip n => exact h.failingClientRouteRule mac ip n
  | downEvt mac => exact h.handleClientDownEvt
  | resetRt ip => exact h.handleClientResetRt ip
  | listener ct => exact h

theorem DistinctV6.lanCall (h : s.DistinctV6) (call : LanCall) :
    (s.lanCall alloc tx call).DistinctV6 := by
  cases call with
  | hdrInit mac n => exact h.failingEthHdrInit mac n
  | delIpv6Addr mac addr =>
    rw [Iface.lanCall, handleDelIpv6Addr]
    split
    · exact h
    · exact h.write ((h _).delIpv6Addr addr)
  | cleanClients => exact h.cleanClients
  | client call => exact h.clientCall call

theorem DistinctV6.lanCalls (h : s.DistinctV6) (calls : List LanCall) :
    (s.lanCalls alloc tx calls).DistinctV6 := by
  induction calls generalizing s with
  | nil => exact h
  | cons call calls ih => exact ih (h.lanCall call)

theorem init_distinctV6 (ct : CtListener) : (init ct).DistinctV6 :=
  fun _ => Client.distinctV6_of_none rfl

/-! ## Every point of failure -/

theorem OwnedWith.failingWlanClientInitEx_iff (hA : alloc.Grants)
    (h : s.OwnedWith tx left) (attribs : List HdrAttrib)
    (hn : n < (s.wlanIoctls tx total).length) :
    NoHeaderTrace tx s (s.failingWlanClientInitEx alloc tx attribs total n) ↔ n < 2 := by
  rw [Iface.failingWlanClientInitEx, if_pos hn]
  have hioctls := wlanIoctls_eq hn
  rw [hioctls] at hn ⊢
  obtain ⟨hsame, hadd⟩ := Client.runHdrIoctls_take alloc attribs
    (s.clients s.numClient) s.kernel hn
  exact noHeaderTrace_iff hA hsame hadd fun j hj hmem =>
    not_mem_live hA _ _ _ (h.mem_live hj hmem)

theorem OwnedWith.failingClientRouteRule_iff (hA : alloc.Grants)
    (h : s.OwnedWith tx left) (hf : s.clientIndex mac = some i)
    (hn : n < (s.rulesToAdd tx mac ip).length) :
    NoRuleTrace tx i s (s.failingClientRouteRule alloc tx mac ip n) ↔ n = 0 := by
  rw [Iface.failingClientRouteRule, hf]
  dsimp only
  rw [if_pos hn]
  have hrules := rulesToAdd_eq hf hn
  rw [hrules] at hn ⊢
  exact noRuleTrace_iff hA hn fun r _ hmem =>
    not_mem_live hA _ _ _ (h.mem_live (clientIndex_eq_some hf).1 hmem)

theorem failingEthHdrInit_iff (hA : alloc.Grants)
    (hn : n < (s.ethIoctls tx mac).length) :
    NoHeaderTrace tx s (s.failingEthHdrInit alloc tx mac n) ↔ n < 2 := by
  rw [failingEthHdrInit, if_pos hn]
  obtain ⟨hnew, hioctls⟩ := ethIoctls_eq hn
  rw [hioctls] at hn ⊢
  obtain ⟨hsame, hadd⟩ := Client.runHdrIoctls_take alloc []
    { s.clients s.numClient with mac := mac } s.kernel hn
  exact noHeaderTrace_iff hA hsame hadd fun j hj hmem =>
    clientIndex_eq_none.mp hnew j hj (Client.mac_of_mem_books hmem).symm

theorem DistinctV6.failingClientRouteRule_iff (hA : alloc.Grants) (h : s.DistinctV6)
    (hf : s.clientIndex mac = some i) (hn : n < (s.rulesToAdd tx mac ip).length) :
    NoRuleTrace tx i s (s.failingClientRouteRule alloc tx mac ip n) ↔ n = 0 := by
  rw [Iface.failingClientRouteRule, hf]
  dsimp only
  rw [if_pos hn]
  have hrules := rulesToAdd_eq hf hn
  rw [hrules] at hn ⊢
  exact noRuleTrace_iff hA hn fun r hr => (h i).missing_not_mem hr

/-- After any calls, failed or not, a setup that fails leaves no trace exactly if it
fails at one of the first two calls for headers, or at the first rule. -/
theorem failedSetup_noTrace_iff (hA : alloc.Grants) (tx : List IpType)
    (ct : CtListener) :
    (∀ (calls : List WlanCall) (s : Iface), s = (init ct).wlanCalls alloc tx calls →
      (∀ attribs total n, n < (s.wlanIoctls tx total).length →
        (NoHeaderTrace tx s (s.failingWlanClientInitEx alloc tx attribs total n) ↔
          n < 2)) ∧
      ∀ mac ip n i, s.clientIndex mac = some i → n < (s.rulesToAdd tx mac ip).length →
        (NoRuleTrace tx i s (s.failingClientRouteRule alloc tx mac ip n) ↔ n = 0)) ∧
    ∀ (calls : List LanCall) (s : Iface), s = (init ct).lanCalls alloc tx calls →
      (∀ mac n, n < (s.ethIoctls tx mac).length →
        (NoHeaderTrace tx s (s.failingEthHdrInit alloc tx mac n) ↔ n < 2)) ∧
      ∀ mac ip n i, s.clientIndex mac = some i → n < (s.rulesToAdd tx mac ip).length →
        (NoRuleTrace tx i s (s.failingClientRouteRule alloc tx mac ip n) ↔ n = 0) := by
  constructor
  · rintro calls s rfl
    obtain ⟨left, h⟩ := (owned_iff.mp (init_owned tx ct)).wlanCalls hA calls
    exact ⟨fun attribs total n hn => h.failingWlanClientInitEx_iff hA attribs hn,
      fun mac ip n i hf hn => h.failingClientRouteRule_iff hA hf hn⟩
  · rintro calls s rfl
    have h : ((init ct).lanCalls alloc tx calls).DistinctV6 :=
      (init_distinctV6 ct).lanCalls calls
    exact ⟨fun mac n hn => failingEthHdrInit_iff hA hn,
      fun mac ip n i hf hn => h.failingClientRouteRule_iff hA hf hn⟩

end Iface

/-- A link-local address has come to the client. -/
def linkLocal : ClientCall := .ipaddr 1 0 (.v6 (0xFE80 <<< 112))

def wlanLinkLocal : Iface :=
  (Iface.init newListener).wlanCalls nextHandle [.v4, .v6]
    [.initEx [.macAddr 1] 0 4, .client linkLocal]

def lanLinkLocal : Iface :=
  (Iface.init newListener).lanCalls nextHandle [.v4, .v6]
    [.hdrInit 1 4, .client linkLocal]

theorem linkLocal_noTrace_iff :
    (Iface.NoHeaderTrace [.v4, .v6] wlanLinkLocal
      (wlanLinkLocal.failingWlanClientInitEx nextHandle [.v4, .v6] [.macAddr 2] 1 2) ↔
        2 < 2) ∧
    (Iface.NoRuleTrace [.v4, .v6] 0 wlanLinkLocal
      (wlanLinkLocal.failingClientRouteRule nextHandle [.v4, .v6] 1 .v6 1) ↔ 1 = 0) ∧
    (Iface.NoHeaderTrace [.v4, .v6] lanLinkLocal
      (lanLinkLocal.failingEthHdrInit nextHandle [.v4, .v6] 2 2) ↔ 2 < 2) ∧
    (Iface.NoRuleTrace [.v4, .v6] 0 lanLinkLocal
      (lanLinkLocal.failingClientRouteRule nextHandle [.v4, .v6] 1 .v6 1) ↔ 1 = 0) := by
  obtain ⟨hwlan, hlan⟩ :=
    Iface.failedSetup_noTrace_iff nextHandle_grants [.v4, .v6] newListener
  obtain ⟨hheader, hrule⟩ := hwlan _ wlanLinkLocal rfl
  obtain ⟨hheader', hrule'⟩ := hlan _ lanLinkLocal rfl
  have hioctls : 2 < (wlanLinkLocal.wlanIoctls [.v4, .v6] 1).length := by decide
  have hioctls' : 2 < (lanLinkLocal.ethIoctls [.v4, .v6] 2).length := by decide
  have hindex : wlanLinkLocal.clientIndex 1 = some 0 := by decide
  have hindex' : lanLinkLocal.clientIndex 1 = some 0 := by decide
  have hrules : 1 < (wlanLinkLocal.rulesToAdd [.v4, .v6] 1 .v6).length := by decide
  have hrules' : 1 < (lanLinkLocal.rulesToAdd [.v4, .v6] 1 .v6).length := by decide
  exact ⟨hheader [.macAddr 2] 1 2 hioctls, hrule 1 .v6 1 0 hindex hrules,
    hheader' 2 2 hioctls', hrule' 1 .v6 1 0 hindex' hrules'⟩

/-- A header is left although there is no client, and a rule that its client does not
name. -/
theorem linkLocal_leaves :
    ¬ Iface.NoHeaderTrace [.v4, .v6] (Iface.init newListener)
      ((Iface.init newListener).failingWlanClientInitEx nextHandle [.v4, .v6]
        [.macAddr 1] 0 2) ∧
    ¬ Iface.NoRuleTrace [.v4, .v6] 0 lanLinkLocal
      (lanLinkLocal.failingClientRouteRule nextHandle [.v4, .v6] 1 .v6 1) := by
  constructor
  · intro h
    obtain ⟨j, hj, -⟩ := h.named ((.hdr, 1), .header 1 .v4) (by decide) (by decide)
    exact absurd hj (Nat.not_lt_zero j)
  · intro h
    have hmem := h ((.rt .v6, 3), .rtRule 1 .v6 1 (.v6 (0xFE80 <<< 112)) 0) (by decide)
      (by decide)
    revert hmem
    decide

end Axon7.Clients
