import Axon7.Clients.Books
import Axon7.Clients.Effect

/-!
# No header and no rule of a WLAN client is leaked

The kernel has at all times what the records name and nothing more, and what is
deleted was there. The count for the IPv6 rules is never above that of the
addresses, so that a new address does not overwrite one that a rule is for.
-/

namespace Axon7.Clients

open Axon7.Lib
open Axon7.Tether (IpType Addr)
open Axon7.Conntrack (CtListener)

namespace Client

variable {alloc : Alloc} {tx : List IpType} {c : Client} {k : Kernel} {rest : Books}
  {ip : IpType}

/-- The flags and counts go together. -/
structure Wf (tx : List IpType) (c : Client) : Prop where
  v4 : c.routeRuleSetV4 = true → c.ipv4Set = true
  v6 : c.routeRuleSetV6 ≤ c.ipv6Set
  header : ∀ ip ∉ tx, c.headerSet ip = false

/-- An operation keeps the books, whatever else the kernel has. -/
structure Keeps (tx : List IpType) (c : Client) (k : Kernel) (ck : Client × Kernel) :
    Prop where
  wf : ck.1.Wf tx
  holds : ∀ rest, Holds k (c.books tx + rest) → Holds ck.2 (ck.1.books tx + rest)

theorem Wf.keeps (h : c.Wf tx) (k : Kernel) : c.Keeps tx k (c, k) := ⟨h, fun _ h => h⟩

theorem Keeps.trans {ck ck' : Client × Kernel} (h : c.Keeps tx k ck)
    (h' : ck.1.Keeps tx ck.2 ck') : c.Keeps tx k ck' :=
  ⟨h'.wf, fun rest hk => h'.holds rest (h.holds rest hk)⟩

theorem blank_wf (tx : List IpType) : blank.Wf tx :=
  ⟨nofun, le_rfl, fun _ _ => rfl⟩

theorem Wf.deleteRtRules (h : c.Wf tx) (ip : IpType) (k : Kernel) :
    c.Keeps tx k (c.deleteRtRules tx ip k) := by
  refine ⟨?_, fun rest => deleteRtRules_holds ip⟩
  cases ip with
  | v4 => exact ⟨nofun, h.v6, h.header⟩
  | v6 => exact ⟨h.v4, Nat.zero_le _, h.header⟩

theorem Wf.routeRule (hA : alloc.Grants) (h : c.Wf tx) (ip : IpType) (k : Kernel) :
    c.Keeps tx k (c.routeRule alloc tx ip k) := by
  refine ⟨?_, fun rest => routeRule_holds hA ip⟩
  cases ip with
  | v4 =>
    rw [Client.routeRule]
    split
    · rename_i hset
      rw [addRtRules_eq]
      exact ⟨fun _ => hset.2, h.v6, h.header⟩
    · exact h
  | v6 =>
    rw [Client.routeRule]
    split
    · dsimp only
      rw [addRtRules_eq]
      exact ⟨h.v4, le_rfl, h.header⟩
    · exact h

theorem Keeps.withPowerSave {ck : Client × Kernel} (h : c.Keeps tx k ck) (b : Bool) :
    c.Keeps tx k ({ ck.1 with powerSaveSet := b }, ck.2) :=
  ⟨⟨h.wf.v4, h.wf.v6, h.wf.header⟩, h.holds⟩

theorem Wf.ipaddr (h : c.Wf tx) {ipv6Prefix : BitVec 64} {a : Addr}
    {ck : Client × Kernel} (hck : c.ipaddr tx ipv6Prefix a k = some ck) :
    c.Keeps tx k ck := by
  -- the IPv4 address is not in use while its rules are not set
  have hv4 : ∀ {c : Client} (k : Kernel) (addr), c.Wf tx → c.routeRuleSetV4 = false →
      c.Keeps tx k ({ c with v4Addr := addr, ipv4Set := true }, k) := by
    intro c k addr h hset
    refine ⟨⟨fun _ => rfl, h.v6, h.header⟩, fun rest hk => ?_⟩
    rw [show books tx { c with v4Addr := addr, ipv4Set := true } = c.books tx from ?_]
    · exact hk
    refine books_congr (fun _ => rfl) rfl (fun _ _ => rfl) fun r hr => ?_
    obtain ⟨t, -, hon, -⟩ | ⟨t, -, n, -, rfl | rfl⟩ := mem_hdlsInUse hr
    · exact absurd (hset.symm.trans hon) (by rintro ⟨⟩)
    all_goals rfl
  cases a with
  | v4 addr =>
    rw [Client.ipaddr] at hck
    split at hck
    · cases hck
    split at hck
    · rename_i hset
      cases hck
      refine hv4 k addr h (Bool.eq_false_of_not_eq_true fun hon => ?_)
      exact absurd ((h.v4 hon).symm.trans hset) (by rintro ⟨⟩)
    split at hck <;> cases hck
    rename_i hset _
    have hset := Bool.eq_true_of_not_eq_false hset
    have hdel := h.deleteRtRules .v4 k
    refine hdel.trans ?_
    have hnew := hv4 (c.deleteRtRules tx .v4 k).2 addr hdel.wf rfl
    rw [show ({ (c.deleteRtRules tx .v4 k).1 with v4Addr := addr, ipv4Set := true } :
      Client) = { (c.deleteRtRules tx .v4 k).1 with v4Addr := addr } from ?_] at hnew
    · exact hnew
    · rw [← hset]
      rfl
  | v6 addr =>
    rw [Client.ipaddr] at hck
    split at hck
    · cases hck
    split at hck
    · cases hck
    split at hck
    · split at hck <;> cases hck
      refine ⟨⟨h.v4, h.v6.trans (Nat.le_succ _), h.header⟩, fun rest hk => ?_⟩
      rw [show books tx { c with
        v6Addr := Function.update c.v6Addr c.ipv6Set addr
        ipv6Set := c.ipv6Set + 1 } = c.books tx from ?_]
      · exact hk
      refine books_congr (fun _ => rfl) rfl (fun _ _ => rfl) fun r hr => ?_
      obtain ⟨t, -, -, rfl⟩ | ⟨t, -, n, hn, heq⟩ := mem_hdlsInUse hr
      · rfl
      · have hne : n ≠ c.ipv6Set := (hn.trans_le h.v6).ne
        obtain rfl | rfl := heq <;> simp only [rtRule, Function.update_of_ne hne]
    · cases hck

theorem Wf.sleep (h : c.Wf tx) (k : Kernel) : c.Keeps tx k (c.sleep tx k) := by
  rw [Client.sleep]
  split
  · exact h.keeps k
  · have hv4 := h.deleteRtRules .v4 k
    exact (hv4.trans (hv4.wf.deleteRtRules .v6 _)).withPowerSave true

theorem Wf.wake (hA : alloc.Grants) (h : c.Wf tx) (k : Kernel) :
    c.Keeps tx k (c.wake alloc tx k) := by
  rw [Client.wake]
  split
  · have hawake := (h.keeps k).withPowerSave false
    dsimp only
    have hv6 : ∀ {ck : Client × Kernel}, c.Keeps tx k ck → c.Keeps tx k
        (if ck.1.ipv6Set ≠ 0 then ck.1.routeRule alloc tx .v6 ck.2 else ck) := by
      intro ck hck
      split
      · exact hck.trans (hck.wf.routeRule hA .v6 _)
      · exact hck
    split
    · exact hv6 (hawake.trans (hawake.wf.routeRule hA .v4 _))
    · exact hv6 hawake
  · exact h.keeps k

theorem Wf.addAddr (hA : alloc.Grants) (h : c.Wf tx) {ipv6Prefix : BitVec 64} {a : Addr}
    (k : Kernel) : c.Keeps tx k (c.addAddr alloc tx ipv6Prefix a k) := by
  rw [Client.addAddr]
  split
  · exact h.keeps k
  · rename_i c' k' hck
    have hck := h.ipaddr hck
    split
    · exact hck
    · exact hck.trans (hck.wf.routeRule hA a.ipType _)

theorem Wf.initHeaders (hA : alloc.Grants) (h : c.Wf tx) (hk : Holds k rest) :
    (c.initHeaders alloc tx k).1.Wf tx ∧
      Holds (c.initHeaders alloc tx k).2
        ((c.initHeaders alloc tx k).1.books tx + rest) := by
  refine ⟨⟨nofun, le_rfl, fun ip hip => ?_⟩, initHeaders_holds hA hk h.header⟩
  exact (addHeader_headerSet hip).trans ((addHeader_headerSet hip).trans (h.header ip hip))

theorem Wf.make (hA : alloc.Grants) (h : c.Wf tx) (attribs : List HdrAttrib)
    (hk : Holds k rest) : (c.make alloc tx attribs k).1.Wf tx ∧
      Holds (c.make alloc tx attribs k).2
        ((c.make alloc tx attribs k).1.books tx + rest) := by
  have hmac : Wf tx { c with mac := macAttrib attribs c.mac } := ⟨h.v4, h.v6, h.header⟩
  obtain ⟨hwf, hholds⟩ := hmac.initHeaders hA hk
  exact ⟨⟨hwf.v4, hwf.v6, hwf.header⟩, hholds⟩

end Client

namespace Iface

variable {alloc : Alloc} {tx : List IpType} {s t : Iface} {mac : Mac} {i : Nat}
  {left : Books}

/-! ## On the table -/

/-- The books of all clients. -/
def books (tx : List IpType) (s : Iface) : Books :=
  ∑ i ∈ Finset.range s.numClient, (s.clients i).books tx

/-- The interface is up, and the kernel has what is on the books. Also what is
left behind the last record is in order. -/
structure Owned (tx : List IpType) (s : Iface) : Prop where
  active : s.isActive = true
  holds : Holds s.kernel (s.books tx)
  wf : ∀ i, (s.clients i).Wf tx

/-- The kernel has besides what was left in it, and no record names it. -/
structure OwnedWith (tx : List IpType) (left : Books) (s : Iface) : Prop where
  active : s.isActive = true
  holds : Holds s.kernel (s.books tx + left)
  wf : ∀ i, (s.clients i).Wf tx

theorem owned_iff : s.Owned tx ↔ s.OwnedWith tx 0 :=
  ⟨fun h => ⟨h.active, (add_zero (s.books tx)).symm ▸ h.holds, h.wf⟩,
    fun h => ⟨h.active, add_zero (s.books tx) ▸ h.holds, h.wf⟩⟩

theorem Alike.ownedWith (h : s.Alike t) (hs : s.OwnedWith tx left) :
    t.OwnedWith tx left where
  active := h.isActive.trans hs.active
  holds := by
    rw [books, h.clients, h.numClient, h.kernel]
    exact hs.holds
  wf i := by
    rw [h.clients]
    exact hs.wf i

theorem Alike.owned (h : s.Alike t) (hs : s.Owned tx) : t.Owned tx :=
  owned_iff.mpr (h.ownedWith (owned_iff.mp hs))

theorem books_split (hi : i < s.numClient) : s.books tx =
    (s.clients i).books tx +
      ∑ j ∈ (Finset.range s.numClient).erase i, (s.clients j).books tx :=
  (Finset.add_sum_erase _ _ (Finset.mem_range.mpr hi)).symm

theorem books_write (hi : i < s.numClient) (ck : Client × Kernel) :
    (s.write i ck).books tx = ck.1.books tx +
      ∑ j ∈ (Finset.range s.numClient).erase i, (s.clients j).books tx := by
  rw [books_split (s := s.write i ck) hi, write_self]
  refine congrArg _ (Finset.sum_congr rfl fun j hj => ?_)
  rw [write_of_ne (Finset.ne_of_mem_erase hj)]

theorem OwnedWith.write (h : s.OwnedWith tx left) (hi : i < s.numClient)
    {ck : Client × Kernel} (hck : (s.clients i).Keeps tx s.kernel ck) :
    (s.write i ck).OwnedWith tx left where
  active := h.active
  holds := by
    rw [books_write hi, add_assoc]
    have hholds := h.holds
    rw [books_split hi, add_assoc] at hholds
    exact hck.holds _ hholds
  wf j := by
    rcases eq_or_ne j i with rfl | hne
    · rw [write_self]
      exact hck.wf
    · rw [write_of_ne hne]
      exact h.wf j

theorem Owned.write (h : s.Owned tx) (hi : i < s.numClient) {ck : Client × Kernel}
    (hck : (s.clients i).Keeps tx s.kernel ck) : (s.write i ck).Owned tx :=
  owned_iff.mpr ((owned_iff.mp h).write hi hck)

/-! ### A client goes -/

/-- A record without rules. -/
def noRules (c : Client) : Client :=
  { c with routeRuleSetV4 := false, routeRuleSetV6 := 0 }

theorem clear_holds {c : Client} {k : Kernel} {rest : Books}
    (h : Holds k (c.books tx + rest)) :
    ∃ k', (c.deleteRtRules tx .v4 k).1.deleteRtRules tx .v6
          (c.deleteRtRules tx .v4 k).2 = (noRules c, k') ∧
      Holds k' ((noRules c).headerBooks .v4 + ((noRules c).headerBooks .v6 + rest)) := by
  have h := Client.deleteRtRules_holds .v6 (Client.deleteRtRules_holds .v4 h)
  have huse : (noRules c).hdlsInUse tx = [] := Client.hdlsInUse_eq_nil rfl rfl
  have hnone : (noRules c).books tx =
      (noRules c).headerBooks .v4 + (noRules c).headerBooks .v6 := by
    rw [Client.books, huse]
    exact add_zero _
  have h : Holds ((c.deleteRtRules tx .v4 k).1.deleteRtRules tx .v6
      (c.deleteRtRules tx .v4 k).2).2 ((noRules c).books tx + rest) := h
  rw [hnone, add_assoc] at h
  exact ⟨_, rfl, h⟩

theorem OwnedWith.closeGap (hact : s.isActive = true) (hi : i < s.numClient)
    (hwf : ∀ j, (s.clients j).Wf tx)
    (h : Holds s.kernel
      (∑ j ∈ (Finset.range s.numClient).erase i, (s.clients j).books tx + left)) :
    (s.closeGap tx i).OwnedWith tx left where
  active := hact
  holds := by
    obtain ⟨n, hn⟩ : ∃ n, s.numClient = n + 1 := ⟨s.numClient - 1, by omega⟩
    have hle : i ≤ n := by omega
    have hskip : ∀ j ∈ Finset.range n,
        ((s.closeGap tx i).clients j).books tx = (s.clients (skip i j)).books tx := by
      intro j hj
      have hlt := Finset.mem_range.mp hj
      rw [closeGap_clients, skip]
      by_cases hji : j < i
      · rw [if_neg (by omega), if_pos hji]
      · rw [if_pos (by omega), if_neg hji, Client.moveUp_books (hwf _).v6]
    have hsum : ∑ j ∈ Finset.range n, ((s.closeGap tx i).clients j).books tx =
        ∑ j ∈ (Finset.range s.numClient).erase i, (s.clients j).books tx := by
      rw [Finset.sum_congr rfl hskip]
      have hall := sum_skip (fun j => (s.clients j).books tx) hle
      rw [← hn, ← Finset.add_sum_erase _ _ (Finset.mem_range.mpr hi)] at hall
      exact (add_left_cancel hall).symm
    have hnum : (s.closeGap tx i).numClient = n := by
      rw [Iface.closeGap, hn]
      rfl
    rw [books, hnum, hsum]
    exact h
  wf j := by
    rw [closeGap_clients]
    split
    · have hnext := hwf (j + 1)
      exact ⟨hnext.v4, hnext.v6, hnext.header⟩
    · exact hwf j

theorem Alike.closeGap (h : s.Alike t) (i : Nat) :
    (s.closeGap tx i).Alike (t.closeGap tx i) where
  clients := by rw [Iface.closeGap, Iface.closeGap, h.clients, h.numClient]
  numClient := by rw [Iface.closeGap, Iface.closeGap, h.numClient]
  kernel := h.kernel
  isActive := h.isActive

theorem OwnedWith.handleClientDownEvt_alike (h : s.OwnedWith tx left)
    (hf : s.clientIndex mac = some i) :
    ∃ ck : Client × Kernel, ck.1.Wf tx ∧
      ck.1.powerSaveSet = (s.clients i).powerSaveSet ∧
      Holds ck.2
        (∑ j ∈ (Finset.range s.numClient).erase i, (s.clients j).books tx + left) ∧
      ((s.write i ck).closeGap tx i).Alike (s.handleClientDownEvt tx mac) := by
  have hi := (clientIndex_eq_some hf).1
  have hdrop := dropAddr_alike (s := s) (s.clients i)
  have hholds := h.holds
  rw [books_split hi, add_assoc] at hholds
  obtain ⟨k₁, hrules, hk₁⟩ := clear_holds hholds
  obtain ⟨k₂, hv4, hk₂⟩ := Client.deleteHeader_holds .v4 hk₁
  obtain ⟨k₃, hv6, hk₃⟩ := Client.deleteHeader_holds .v6
    (c := { noRules (s.clients i) with
      headerSet := Function.update (noRules (s.clients i)).headerSet .v4 false }) hk₂
  refine ⟨({ noRules (s.clients i) with
    ipv4Set := false
    ipv6Set := 0
    headerSet := fun _ => false }, k₃), ⟨nofun, le_rfl, fun _ _ => rfl⟩, rfl, hk₃, ?_⟩
  rw [Iface.handleClientDownEvt, hf]
  dsimp only
  rw [hdrop.kernel, hdrop.clients, hrules]
  dsimp only
  rw [hv4]
  dsimp only
  rw [hv6]
  exact (hdrop.write i _).closeGap i

theorem Owned.handleClientDownEvt_alike (h : s.Owned tx)
    (hf : s.clientIndex mac = some i) :
    ∃ ck : Client × Kernel, ck.1.Wf tx ∧
      ck.1.powerSaveSet = (s.clients i).powerSaveSet ∧
      Holds ck.2 (∑ j ∈ (Finset.range s.numClient).erase i, (s.clients j).books tx) ∧
      ((s.write i ck).closeGap tx i).Alike (s.handleClientDownEvt tx mac) := by
  obtain ⟨ck, hwf, hsave, hholds, halike⟩ :=
    (owned_iff.mp h).handleClientDownEvt_alike hf
  rw [add_zero] at hholds
  exact ⟨ck, hwf, hsave, hholds, halike⟩

theorem OwnedWith.handleClientDownEvt (h : s.OwnedWith tx left) :
    (s.handleClientDownEvt tx mac).OwnedWith tx left := by
  cases hf : s.clientIndex mac with
  | none =>
    rw [Iface.handleClientDownEvt, hf]
    exact h
  | some i =>
    obtain ⟨ck, hwf, -, hholds, halike⟩ := h.handleClientDownEvt_alike hf
    refine halike.ownedWith (OwnedWith.closeGap h.active ?_ (fun j => ?_) ?_)
    · exact (clientIndex_eq_some hf).1
    · rcases eq_or_ne j i with rfl | hne
      · rw [write_self]
        exact hwf
      · rw [write_of_ne hne]
        exact h.wf j
    · have hsum : ∀ j ∈ (Finset.range s.numClient).erase i,
          ((s.write i ck).clients j).books tx = (s.clients j).books tx := fun j hj => by
        rw [write_of_ne (Finset.ne_of_mem_erase hj)]
      have hnum : (s.write i ck).numClient = s.numClient := rfl
      rw [hnum, Finset.sum_congr rfl hsum]
      exact hholds

theorem Owned.handleClientDownEvt (h : s.Owned tx) :
    (s.handleClientDownEvt tx mac).Owned tx :=
  owned_iff.mpr (owned_iff.mp h).handleClientDownEvt

/-! ### All clients go -/

theorem foldl_cleanClient {l : List Nat} (hnd : l.Nodup) {rest : Books}
    (h : Holds s.kernel ((l.map fun i => (s.clients i).books tx).sum + rest)) :
    Holds (l.foldl (fun s i => s.cleanClient tx i) s).kernel rest := by
  induction l generalizing s with
  | nil =>
    rw [List.map_nil, List.sum_nil, zero_add] at h
    exact h
  | cons i l ih =>
    obtain ⟨hi, hnd⟩ := List.nodup_cons.mp hnd
    have hdrop := dropAddr_alike (s := s) (s.clients i)
    rw [List.map_cons, List.sum_cons, add_assoc] at h
    obtain ⟨k₁, hrules, hk₁⟩ := clear_holds h
    obtain ⟨k₂, hv4, hk₂⟩ := Client.deleteHeader_holds .v4 hk₁
    obtain ⟨k₃, hv6, hk₃⟩ := Client.deleteHeader_holds .v6 hk₂
    have hclean : s.cleanClient tx i =
        (s.dropAddr (s.clients i)).write i (noRules (s.clients i), k₃) := by
      rw [cleanClient]
      dsimp only
      rw [hdrop.kernel, hdrop.clients, hrules]
      dsimp only
      rw [hv4]
      dsimp only [Option.map_some, Option.getD_some]
      rw [hv6]
      rfl
    rw [List.foldl_cons]
    refine ih hnd ?_
    rw [hclean]
    have hsame : ∀ j ∈ l, (((s.dropAddr (s.clients i)).write i
        (noRules (s.clients i), k₃)).clients j).books tx = (s.clients j).books tx := by
      intro j hj
      have hne : j ≠ i := fun heq => hi (heq.symm ▸ hj)
      rw [write_of_ne hne, hdrop.clients]
    rw [List.map_congr_left hsame]
    exact hk₃

theorem Owned.cleanClients (h : s.Owned tx) : Holds (s.cleanClients tx).kernel 0 := by
  refine foldl_cleanClient List.nodup_range ?_
  rw [add_zero]
  have hsum : s.books tx =
      ((List.range s.numClient).map fun i => (s.clients i).books tx).sum :=
    Multiset.sum_coe _
  rw [← hsum]
  exact h.holds

/-! ### The events -/

theorem OwnedWith.handleClientResetRt (h : s.OwnedWith tx left) (ip : IpType) :
    (s.handleClientResetRt tx ip).OwnedWith tx left := by
  rw [Iface.handleClientResetRt]
  have hfold : ∀ {l : List Nat} {turn : Iface → Nat → Iface},
      (∀ {s : Iface} {i : Nat}, s.OwnedWith tx left → i < s.numClient →
        (turn s i).OwnedWith tx left ∧ (turn s i).numClient = s.numClient) →
      ∀ {s : Iface}, s.OwnedWith tx left → (∀ i ∈ l, i < s.numClient) →
        (l.foldl turn s).OwnedWith tx left := by
    intro l turn hturn
    induction l with
    | nil => exact fun h _ => h
    | cons i l ih =>
      intro s h hl
      obtain ⟨howned, hnum⟩ := hturn h (hl i List.mem_cons_self)
      exact ih howned fun j hj => hnum ▸ hl j (List.mem_cons_of_mem _ hj)
  refine hfold (fun {s i} h hi => ⟨h.write hi ?_, rfl⟩) h fun i hi => List.mem_range.mp hi
  have hdel := (h.wf i).deleteRtRules ip s.kernel
  cases ip with
  | v4 => exact ⟨⟨by rintro ⟨⟩, hdel.wf.v6, hdel.wf.header⟩, hdel.holds⟩
  | v6 => exact ⟨⟨hdel.wf.v4, le_rfl, hdel.wf.header⟩, hdel.holds⟩

theorem OwnedWith.append (h : s.OwnedWith tx left) {ck : Client × Kernel}
    (hwf : ck.1.Wf tx) (hk : Holds ck.2 (ck.1.books tx + (s.books tx + left))) :
    OwnedWith tx left { s.write s.numClient ck with numClient := s.numClient + 1 } where
  active := h.active
  holds := by
    have hsame : ∀ i ∈ Finset.range s.numClient,
        ((s.write s.numClient ck).clients i).books tx = (s.clients i).books tx :=
      fun i hi => by rw [write_of_ne (Finset.mem_range.mp hi).ne]
    show Holds ck.2 (∑ i ∈ Finset.range (s.numClient + 1),
      ((s.write s.numClient ck).clients i).books tx + left)
    rw [Finset.sum_range_succ, add_comm (Finset.sum _ _), write_self,
      Finset.sum_congr rfl hsame, add_assoc]
    exact hk
  wf i := by
    rcases eq_or_ne i s.numClient with rfl | hne
    · rw [show ({ s.write s.numClient ck with numClient := s.numClient + 1 } :
        Iface).clients s.numClient = ck.1 from write_self ck]
      exact hwf
    · rw [show ({ s.write s.numClient ck with numClient := s.numClient + 1 } :
        Iface).clients i = s.clients i from write_of_ne hne ck]
      exact h.wf i

theorem Owned.append (h : s.Owned tx) {ck : Client × Kernel} (hwf : ck.1.Wf tx)
    (hk : Holds ck.2 (ck.1.books tx + s.books tx)) :
    Owned tx { s.write s.numClient ck with numClient := s.numClient + 1 } := by
  rw [← add_zero (s.books tx)] at hk
  exact owned_iff.mpr ((owned_iff.mp h).append hwf hk)

theorem OwnedWith.handleWlanClientInitEx (hA : alloc.Grants) (h : s.OwnedWith tx left)
    {attribs : List HdrAttrib} {total : Nat} :
    (s.handleWlanClientInitEx alloc tx attribs total).OwnedWith tx left := by
  by_cases hroom : maxNumWifiClients ≤ s.numClient ∨ maxNumWifiClients ≤ total
  · rw [Iface.handleWlanClientInitEx, if_pos hroom]
    exact h
  by_cases htx : tx = []
  · rw [Iface.handleWlanClientInitEx, if_neg hroom, if_pos htx]
    exact h
  rw [handleWlanClientInitEx_eq hroom htx]
  obtain ⟨hwf, hholds⟩ := (h.wf s.numClient).make hA attribs h.holds
  exact h.append hwf hholds

theorem OwnedWith.handleWlanClientPwrsave (h : s.OwnedWith tx left) :
    (s.handleWlanClientPwrsave tx mac).OwnedWith tx left := by
  cases hf : s.clientIndex mac with
  | none =>
    rw [Iface.handleWlanClientPwrsave, hf]
    exact h
  | some i =>
    refine (handleWlanClientPwrsave_alike hf).ownedWith ?_
    exact h.write (clientIndex_eq_some hf).1 ((h.wf i).sleep _)

theorem OwnedWith.handleWlanClientRecover (hA : alloc.Grants)
    (h : s.OwnedWith tx left) {resumed : Nat → Option Nat} :
    (s.handleWlanClientRecover alloc tx mac resumed).OwnedWith tx left := by
  cases hf : s.clientIndex mac with
  | none =>
    rw [Iface.handleWlanClientRecover, hf]
    exact h
  | some i =>
    refine (handleWlanClientRecover_alike hf).ownedWith ?_
    exact h.write (clientIndex_eq_some hf).1 ((h.wf i).wake hA _)

theorem OwnedWith.handleNeighIpAddrAdd (hA : alloc.Grants) (h : s.OwnedWith tx left)
    {a : Addr} {ipv6Prefix : BitVec 64} {natIface : Option Bool}
    {resumed reply : Nat → Option Nat} :
    (s.handleNeighIpAddrAdd alloc tx mac a ipv6Prefix natIface resumed
      reply).OwnedWith tx left := by
  cases hf : s.clientIndex mac with
  | none =>
    rw [Iface.handleNeighIpAddrAdd, handleClientIpaddr, hf]
    exact h
  | some i =>
    refine (handleNeighIpAddrAdd_alike hf).ownedWith ?_
    exact h.write (clientIndex_eq_some hf).1 ((h.wf i).addAddr hA _)

/-! ## Runs -/

/-- The headers and rules in the kernel are those named by the records that
there are, and every one that was deleted was there. Once the interface is down
there are none. -/
structure NoLeak (tx : List IpType) (s : Iface) : Prop where
  installed : s.isActive = true →
    (s.kernel.live : Books) = ∑ i ∈ Finset.range s.numClient, (s.clients i).books tx
  granted : s.kernel.refused = false
  down : s.isActive = false → s.kernel.live = []

/-- The books are kept while the interface is up, and empty afterwards. -/
def Settled (tx : List IpType) (s : Iface) : Prop :=
  s.Owned tx ∨ s.isActive = false ∧ Holds s.kernel 0

theorem Settled.noLeak (h : s.Settled tx) : s.NoLeak tx := by
  obtain h | ⟨hdown, h⟩ := h
  · exact ⟨fun _ => h.holds.owns.live, h.holds.owns.granted,
      fun hdown => absurd (h.active.symm.trans hdown) nofun⟩
  · exact ⟨fun hup => absurd (hup.symm.trans hdown) nofun, h.owns.granted,
      fun _ => (Multiset.coe_eq_zero _).mp h.owns.live⟩

theorem init_owned (tx : List IpType) (ct : CtListener) : (init ct).Owned tx :=
  ⟨rfl, holds_empty, fun _ => Client.blank_wf tx⟩

theorem OwnedWith.wlanCallback (hA : alloc.Grants) (h : s.OwnedWith tx left)
    {ev : WlanEvent} (hev : ev ≠ .linkDown) :
    (s.wlanCallback alloc tx ev).OwnedWith tx left := by
  unfold Iface.wlanCallback
  rw [if_pos h.active]
  cases ev with
  | clientAdd attribs total => exact h.handleWlanClientInitEx hA
  | clientDel mac => exact h.handleClientDownEvt
  | powerSave mac => exact h.handleWlanClientPwrsave
  | recover mac resumed => exact h.handleWlanClientRecover hA
  | neighIpAddrAdd mac a ipv6Prefix natIface resumed reply =>
    exact h.handleNeighIpAddrAdd hA
  | resetRt ip => exact h.handleClientResetRt ip
  | linkDown => exact absurd rfl hev

theorem Owned.wlanCallback (hA : alloc.Grants) (h : s.Owned tx) {ev : WlanEvent}
    (hev : ev ≠ .linkDown) : (s.wlanCallback alloc tx ev).Owned tx :=
  owned_iff.mpr ((owned_iff.mp h).wlanCallback hA hev)

theorem Settled.wlanCallback (hA : alloc.Grants) (h : s.Settled tx) (ev : WlanEvent) :
    (s.wlanCallback alloc tx ev).Settled tx := by
  obtain h | ⟨hdown, h⟩ := h
  · by_cases hev : ev = .linkDown
    · unfold Iface.wlanCallback
      rw [hev, if_pos h.active]
      exact .inr ⟨rfl, h.cleanClients⟩
    · exact .inl (h.wlanCallback hA hev)
  · unfold Iface.wlanCallback
    rw [if_neg (by rw [hdown]; exact Bool.false_ne_true)]
    exact .inr ⟨hdown, h⟩

/-- In every run of events nothing leaks. -/
theorem wlanRun_noLeak (hA : alloc.Grants) (tx : List IpType) (ct : CtListener)
    (evs : List WlanEvent) : ((init ct).wlanRun alloc tx evs).NoLeak tx := by
  have hrun : ∀ {evs : List WlanEvent} {s : Iface}, s.Settled tx →
      (s.wlanRun alloc tx evs).Settled tx := by
    intro evs
    induction evs with
    | nil => exact fun h => h
    | cons ev evs ih => exact fun h => ih (h.wlanCallback hA ev)
  exact (hrun (.inl (init_owned tx ct))).noLeak

end Iface

/-- Two clients, of which one sleeps and the other goes. -/
def twoClients : List WlanEvent :=
  [.clientAdd [.macAddr 1] 0,
    .clientAdd [.macAddr 2] 1,
    .neighIpAddrAdd 1 (.v4 0xC0A80102) 0 none (fun _ => none) fun _ => none,
    .neighIpAddrAdd 2 (.v6 (0xFE80 <<< 112)) 0 none (fun _ => none) fun _ => none,
    .powerSave 1,
    .recover 1 fun _ => none,
    .clientDel 1,
    .linkDown]

theorem twoClients_noLeak :
    ((Iface.init newListener).wlanRun nextHandle [.v4, .v6] twoClients).NoLeak
      [.v4, .v6] :=
  Iface.wlanRun_noLeak nextHandle_grants [.v4, .v6] newListener twoClients

end Axon7.Clients
