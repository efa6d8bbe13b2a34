import Axon7.Clients.Client

/-!
# What a record says is installed

The books of a client are the headers and the routing rules that its record
names, by flag and by count, each with what it should be. Every operation on a
record keeps them: what it installs goes on the books, what it deletes was on
them.
-/

namespace Axon7.Clients

open Axon7.Lib
open Axon7.Tether (IpType Addr)

abbrev Books := Multiset ((Res × Nat) × Item)

/-- The kernel has what is on the books, and no handle is 0. -/
structure Holds (k : Kernel) (books : Books) : Prop where
  owns : k.Owns books
  ne_zero : ∀ e ∈ k.live, e.1.2 ≠ 0

section Kernel

variable {alloc : Alloc} {k : Kernel} {books : Books}

theorem holds_empty : Holds .empty 0 := ⟨Pool.owns_empty, fun _ h => absurd h List.not_mem_nil⟩

theorem Holds.add (h : Holds k books) (hA : alloc.Grants) (res : Res) (x : Item) :
    Holds (k.add (res, alloc k res) x) (((res, alloc k res), x) ::ₘ books) where
  owns := h.owns.add (hA.fresh k res)
  ne_zero e he := by
    obtain rfl | he := List.mem_cons.mp he
    · exact hA.ne_zero k res
    · exact h.ne_zero e he

theorem Holds.mem {e : (Res × Nat) × Item} (h : Holds k (e ::ₘ books)) :
    e.1.2 ≠ 0 := by
  refine h.ne_zero e ?_
  rw [← Multiset.mem_coe, h.owns.live]
  exact Multiset.mem_cons_self _ _

theorem Holds.del {y : Res × Nat} {x : Item} (h : Holds k ((y, x) ::ₘ books)) :
    Holds (k.del y) books where
  owns := h.owns.del
  ne_zero e he := h.ne_zero e (Pool.mem_of_mem_del he)

theorem Holds.deleteRoutingHdl {ip : IpType} {hdl : Nat} {x : Item}
    (h : Holds k (((.rt ip, hdl), x) ::ₘ books)) :
    Holds (deleteRoutingHdl ip hdl k) books := by
  rw [Clients.deleteRoutingHdl, if_neg h.mem]
  exact h.del

theorem Holds.deleteHeaderHdl {hdl : Nat} {x : Item}
    (h : Holds k (((.hdr, hdl), x) ::ₘ books)) :
    ∃ k', deleteHeaderHdl hdl k = some k' ∧ Holds k' books := by
  rw [Clients.deleteHeaderHdl, if_neg h.mem]
  exact ⟨_, rfl, h.del⟩

end Kernel

/-! ## The places of the handles -/

section Places

variable {tx : List IpType}

theorem txOf_nodup (tx : List IpType) (ip : IpType) : (txOf tx ip).Nodup :=
  List.nodup_range.filter _

theorem txOf_lt {ip : IpType} {t : Nat} (h : t ∈ txOf tx ip) : t < tx.length :=
  List.mem_range.mp (List.mem_filter.mp h).1

theorem mem_of_txOf {ip : IpType} {t : Nat} (h : t ∈ txOf tx ip) : ip ∈ tx := by
  have heq := of_decide_eq_true (List.mem_filter.mp h).2
  exact List.mem_of_getElem? heq

theorem v4Hdls_nodup (tx : List IpType) : (v4Hdls tx).Nodup :=
  (txOf_nodup tx .v4).map fun _ _ h => RtHdl.v4.inj h

theorem mem_v4Hdls {r : RtHdl} : r ∈ v4Hdls tx ↔ ∃ t ∈ txOf tx .v4, r = .v4 t := by
  rw [v4Hdls, List.mem_map]
  exact exists_congr fun t => and_congr_right fun _ => eq_comm

theorem mem_v6Hdls {nums : List Nat} {r : RtHdl} : r ∈ v6Hdls tx nums ↔
    ∃ t ∈ txOf tx .v6, ∃ n ∈ nums, r = .v6 t n ∨ r = .v6Wan t n := by
  simp [v6Hdls]

theorem v6Hdls_nodup (tx : List IpType) {nums : List Nat} (h : nums.Nodup) :
    (v6Hdls tx nums).Nodup := by
  rw [v6Hdls, List.nodup_flatMap]
  constructor
  · intro t _
    rw [List.nodup_flatMap]
    refine ⟨fun n _ => by simp, h.imp fun hne => ?_⟩
    simp [Function.onFun, List.disjoint_left, hne]
  · refine (txOf_nodup tx .v6).imp fun hne => ?_
    simp only [Function.onFun, List.disjoint_left, List.mem_flatMap, List.mem_cons,
      List.not_mem_nil, or_false, not_exists, not_and]
    rintro r ⟨n, -, rfl | rfl⟩ n' - <;> simp [hne]

theorem v6Hdls_append (tx : List IpType) (nums nums' : List Nat) :
    (v6Hdls tx (nums ++ nums')).Perm (v6Hdls tx nums ++ v6Hdls tx nums') := by
  rw [v6Hdls, v6Hdls, v6Hdls]
  refine .trans ?_ (List.flatMap_append_perm _ _ _).symm
  simp only [List.flatMap_append]
  exact .refl _

theorem range_append_range' {lo hi : Nat} (h : lo ≤ hi) :
    List.range lo ++ List.range' lo (hi - lo) = List.range hi := by
  rw [List.range_eq_range', List.range_eq_range']
  have happ := @List.range'_append_1 0 lo (hi - lo)
  rwa [Nat.zero_add, Nat.add_sub_cancel' h] at happ

end Places

namespace Client

variable {alloc : Alloc} {tx : List IpType} {c : Client} {k : Kernel} {rest : Books}
  {hdls : List RtHdl} {ip : IpType}

/-! ## The books -/

def headerBooks (ip : IpType) (c : Client) : Books :=
  if c.headerSet ip then {((.hdr, c.hdrHdl ip), .header c.mac ip)} else 0

/-- The rules whose handles are kept at the places. -/
def rtBooks (hdls : List RtHdl) (c : Client) : Books :=
  (hdls.map fun r => (((.rt r.ip, c.rtHdl r), c.rtRule r) : (Res × Nat) × Item) :)

/-- The places whose handles are in use. -/
def hdlsInUse (tx : List IpType) (c : Client) : List RtHdl :=
  (if c.routeRuleSetV4 then v4Hdls tx else []) ++
    v6Hdls tx (List.range c.routeRuleSetV6)

/-- The headers whose flag is set, the IPv4 rules of every IPv4 property if they
are set, and both IPv6 rules of every IPv6 property for the indices below their
number. -/
def books (tx : List IpType) (c : Client) : Books :=
  c.headerBooks .v4 + c.headerBooks .v6 + c.rtBooks (c.hdlsInUse tx)

theorem rtBooks_append (l l' : List RtHdl) :
    c.rtBooks (l ++ l') = c.rtBooks l + c.rtBooks l' := by
  rw [rtBooks, List.map_append, ← Multiset.coe_add]
  rfl

theorem rtBooks_perm {l l' : List RtHdl} (h : l.Perm l') : c.rtBooks l = c.rtBooks l' :=
  Quot.sound (h.map _)

theorem rtBooks_cons (r : RtHdl) : c.rtBooks (r :: hdls) =
    ((.rt r.ip, c.rtHdl r), c.rtRule r) ::ₘ c.rtBooks hdls :=
  rfl

theorem rtBooks_congr {c' : Client} (hhdl : ∀ r ∈ hdls, c'.rtHdl r = c.rtHdl r)
    (hrule : ∀ r ∈ hdls, c'.rtRule r = c.rtRule r) :
    c'.rtBooks hdls = c.rtBooks hdls := by
  rw [rtBooks, rtBooks]
  refine congrArg _ (List.map_congr_left fun r hr => ?_)
  rw [hhdl r hr, hrule r hr]

theorem books_congr {c' : Client} (hheader : ∀ ip, c'.headerBooks ip = c.headerBooks ip)
    (huse : c'.hdlsInUse tx = c.hdlsInUse tx)
    (hhdl : ∀ r ∈ c.hdlsInUse tx, c'.rtHdl r = c.rtHdl r)
    (hrule : ∀ r ∈ c.hdlsInUse tx, c'.rtRule r = c.rtRule r) :
    c'.books tx = c.books tx := by
  rw [books, books, hheader, hheader, huse, rtBooks_congr hhdl hrule]

theorem mem_hdlsInUse {r : RtHdl} (h : r ∈ c.hdlsInUse tx) :
    (∃ t < tx.length, c.routeRuleSetV4 = true ∧ r = .v4 t) ∨
      ∃ t < tx.length, ∃ n < c.routeRuleSetV6, r = .v6 t n ∨ r = .v6Wan t n := by
  rw [hdlsInUse, List.mem_append] at h
  obtain h | h := h
  · split at h
    · rename_i hset
      obtain ⟨t, ht, heq⟩ := mem_v4Hdls.mp h
      exact .inl ⟨t, txOf_lt ht, hset, heq⟩
    · cases h
  · obtain ⟨t, ht, n, hn, heq⟩ := mem_v6Hdls.mp h
    exact .inr ⟨t, txOf_lt ht, n, List.mem_range.mp hn, heq⟩

theorem hdlsInUse_eq_nil (hv4 : c.routeRuleSetV4 = false) (hv6 : c.routeRuleSetV6 = 0) :
    c.hdlsInUse tx = [] := by
  rw [hdlsInUse, hv4, hv6]
  simp [v6Hdls]

/-! ## Rules -/

/-- The places of the rules that are missing for the family, in the order they are
added. -/
def missingHdls (tx : List IpType) (ip : IpType) (c : Client) : List RtHdl :=
  match ip with
  | .v4 => if c.routeRuleSetV4 = false ∧ c.ipv4Set = true then v4Hdls tx else []
  | .v6 =>
    if c.routeRuleSetV6 < c.ipv6Set then
      v6Hdls tx (List.range' c.routeRuleSetV6 (c.ipv6Set - c.routeRuleSetV6))
    else []

theorem missingHdls_nodup (tx : List IpType) (ip : IpType) (c : Client) :
    (c.missingHdls tx ip).Nodup := by
  cases ip with
  | v4 =>
    rw [missingHdls]
    split
    exacts [v4Hdls_nodup tx, List.nodup_nil]
  | v6 =>
    rw [missingHdls]
    split
    exacts [v6Hdls_nodup tx List.nodup_range', List.nodup_nil]

theorem mem_missingHdls {r : RtHdl} (h : r ∈ c.missingHdls tx ip) :
    (∃ t, c.routeRuleSetV4 = false ∧ r = .v4 t) ∨
      ∃ t n, c.routeRuleSetV6 ≤ n ∧ n < c.ipv6Set ∧ (r = .v6 t n ∨ r = .v6Wan t n) := by
  cases ip with
  | v4 =>
    rw [missingHdls] at h
    split at h
    · rename_i hset
      obtain ⟨t, -, heq⟩ := mem_v4Hdls.mp h
      exact .inl ⟨t, hset.1, heq⟩
    · cases h
  | v6 =>
    rw [missingHdls] at h
    split at h
    · obtain ⟨t, -, n, hn, heq⟩ := mem_v6Hdls.mp h
      obtain ⟨hlo, hhi⟩ := List.mem_range'_1.mp hn
      exact .inr ⟨t, n, hlo, by omega, heq⟩
    · cases h

theorem not_mem_missingHdls {r : RtHdl} (h : r ∈ c.hdlsInUse tx) :
    r ∉ c.missingHdls tx ip := by
  intro hmiss
  obtain ⟨t, hset, rfl⟩ | ⟨t, n, hle, -, heq⟩ := mem_missingHdls hmiss
  · obtain ⟨t', -, hset', -⟩ | ⟨t', -, n', -, heq' | heq'⟩ := mem_hdlsInUse h
    · exact absurd (hset.symm.trans hset') nofun
    · cases heq'
    · cases heq'
  · obtain ⟨t', -, -, rfl⟩ | ⟨t', -, n', hn', heq'⟩ := mem_hdlsInUse h
    · obtain heq | heq := heq <;> cases heq
    · obtain rfl | rfl := heq <;> obtain heq' | heq' := heq' <;> cases heq' <;>
        exact absurd hn' (Nat.not_lt.mpr hle)

theorem addRtRules_rtHdl {r : RtHdl} (hr : r ∉ hdls) :
    (c.addRtRules alloc hdls k).1.rtHdl r = c.rtHdl r := by
  induction hdls generalizing c k with
  | nil => rfl
  | cons r' hdls ih =>
    obtain ⟨hne, hr⟩ := not_or.mp (List.mem_cons.not.mp hr)
    exact (ih hr).trans (Function.update_of_ne hne _ _)

theorem addRtRules_holds (hA : alloc.Grants) (hnd : hdls.Nodup) (h : Holds k rest) :
    Holds (c.addRtRules alloc hdls k).2
        ((c.addRtRules alloc hdls k).1.rtBooks hdls + rest) ∧
      ∀ r ∉ hdls, (c.addRtRules alloc hdls k).1.rtHdl r = c.rtHdl r := by
  refine ⟨?_, fun r hr => addRtRules_rtHdl hr⟩
  induction hdls generalizing c k rest with
  | nil =>
    rw [show rtBooks [] _ = 0 from rfl, zero_add]
    exact h
  | cons r hdls ih =>
    obtain ⟨hr, hnd⟩ := List.nodup_cons.mp hnd
    have hadd := h.add hA (.rt r.ip) (c.rtRule r)
    have hcons : c.addRtRules alloc (r :: hdls) k =
        addRtRules alloc hdls
          { c with rtHdl := Function.update c.rtHdl r (alloc k (.rt r.ip)) }
          (k.add (.rt r.ip, alloc k (.rt r.ip)) (c.rtRule r)) := rfl
    have hholds := ih hnd hadd
      (c := { c with rtHdl := Function.update c.rtHdl r (alloc k (.rt r.ip)) })
    have hhdl : (c.addRtRules alloc (r :: hdls) k).1.rtHdl r = alloc k (.rt r.ip) := by
      rw [hcons]
      exact (addRtRules_rtHdl hr).trans (Function.update_self _ _ _)
    have hrule : (c.addRtRules alloc (r :: hdls) k).1.rtRule r = c.rtRule r := by
      rw [addRtRules_eq]
      cases r <;> rfl
    rw [← hcons] at hholds
    rw [rtBooks_cons, hhdl, hrule, Multiset.cons_add, ← Multiset.add_cons]
    exact hholds

theorem deleteRtHdls_holds (h : Holds k (c.rtBooks hdls + rest)) :
    Holds (c.deleteRtHdls hdls k) rest := by
  induction hdls generalizing k with
  | nil =>
    rw [show c.rtBooks [] = 0 from rfl, zero_add] at h
    exact h
  | cons r hdls ih =>
    rw [rtBooks_cons, Multiset.cons_add] at h
    exact ih h.deleteRoutingHdl

theorem deleteRtRules_holds (ip : IpType) (h : Holds k (c.books tx + rest)) :
    Holds (c.deleteRtRules tx ip k).2 ((c.deleteRtRules tx ip k).1.books tx + rest) := by
  rw [books, hdlsInUse, rtBooks_append] at h
  cases ip with
  | v4 =>
    rw [deleteRtRules, books, hdlsInUse]
    dsimp only
    split
    · rename_i hset
      rw [if_pos hset, add_left_comm, add_assoc] at h
      exact deleteRtHdls_holds h
    · rename_i hset
      rw [if_neg hset] at h
      rw [if_neg Bool.false_ne_true, rtBooks_append]
      exact h
  | v6 =>
    rw [deleteRtRules, books, hdlsInUse]
    dsimp only
    rw [← add_assoc, add_comm _ (c.rtBooks (v6Hdls _ _)), add_assoc] at h
    have h := deleteRtHdls_holds h
    have hnone : v6Hdls tx (List.range 0) = [] := by simp [v6Hdls]
    rw [hnone, List.append_nil]
    exact h

theorem addRtRules_books (hA : alloc.Grants) (hnd : hdls.Nodup)
    (h : Holds k (c.books tx + rest)) {v4 : Bool} {v6 : Nat} {d : Client}
    (hd : d = { c with
      rtHdl := (c.addRtRules alloc hdls k).1.rtHdl
      routeRuleSetV4 := v4
      routeRuleSetV6 := v6 })
    (huse : (d.hdlsInUse tx).Perm (hdls ++ c.hdlsInUse tx))
    (hnew : ∀ r ∈ c.hdlsInUse tx, r ∉ hdls) :
    Holds (c.addRtRules alloc hdls k).2 (d.books tx + rest) := by
  obtain ⟨hadd, hkept⟩ := addRtRules_holds hA hnd h (c := c)
  have hhdl : d.rtHdl = (c.addRtRules alloc hdls k).1.rtHdl := by rw [hd]
  have hrule : ∀ r, d.rtRule r = c.rtRule r := by
    intro r
    rw [hd]
    cases r <;> rfl
  have hrule' : ∀ r, d.rtRule r = (c.addRtRules alloc hdls k).1.rtRule r := by
    intro r
    rw [hrule, addRtRules_eq]
    cases r <;> rfl
  have hnewBooks : d.rtBooks hdls = (c.addRtRules alloc hdls k).1.rtBooks hdls :=
    rtBooks_congr (fun r _ => congrFun hhdl r) fun r _ => hrule' r
  have holdBooks : d.rtBooks (c.hdlsInUse tx) = c.rtBooks (c.hdlsInUse tx) :=
    rtBooks_congr (fun r hr => (congrFun hhdl r).trans (hkept r (hnew r hr)))
      fun r _ => hrule r
  have hheader : ∀ ip, d.headerBooks ip = c.headerBooks ip := by
    intro ip
    rw [hd]
    rfl
  rw [books, hheader, hheader, rtBooks_perm huse, rtBooks_append, hnewBooks, holdBooks,
    add_left_comm, add_assoc, ← books]
  exact hadd

theorem routeRule_holds (hA : alloc.Grants) (ip : IpType)
    (h : Holds k (c.books tx + rest)) :
    Holds (c.routeRule alloc tx ip k).2
      ((c.routeRule alloc tx ip k).1.books tx + rest) := by
  have hnd := missingHdls_nodup tx ip c
  have hnew : ∀ r ∈ c.hdlsInUse tx, r ∉ c.missingHdls tx ip :=
    fun r => not_mem_missingHdls
  cases ip with
  | v4 =>
    rw [missingHdls] at hnd hnew
    rw [routeRule]
    split
    · rename_i hset
      rw [if_pos hset] at hnd hnew
      rw [addRtRules_eq]
      refine addRtRules_books hA hnd h rfl ?_ hnew
      rw [hdlsInUse, hdlsInUse, if_pos rfl, if_neg (by simp [hset.1])]
      exact .refl _
    · exact h
  | v6 =>
    rw [missingHdls] at hnd hnew
    rw [routeRule]
    split
    · rename_i hlt
      rw [if_pos hlt] at hnd hnew
      dsimp only
      rw [addRtRules_eq]
      refine addRtRules_books hA hnd h rfl ?_ hnew
      have happ := v6Hdls_append tx (List.range c.routeRuleSetV6)
        (List.range' c.routeRuleSetV6 (c.ipv6Set - c.routeRuleSetV6))
      rw [range_append_range' hlt.le] at happ
      refine (happ.append_left _).trans ?_
      rw [hdlsInUse, ← List.append_assoc]
      exact List.perm_append_comm
    · exact h

/-! ## Headers -/

theorem addHeader_holds (hA : alloc.Grants) (ip : IpType) (h : Holds k rest)
    (hno : ip ∉ tx → c.headerSet ip = false) :
    Holds (c.addHeader alloc tx ip k).2
      ((c.addHeader alloc tx ip k).1.headerBooks ip + rest) := by
  rw [addHeader]
  split
  · rw [headerBooks, if_pos (Function.update_self _ _ _), Multiset.singleton_add]
    dsimp only
    rw [Function.update_self]
    exact h.add hA .hdr _
  · rename_i hip
    rw [headerBooks, if_neg (by rw [hno hip]; exact Bool.false_ne_true), zero_add]
    exact h

theorem deleteHeader_holds (ip : IpType) (h : Holds k (c.headerBooks ip + rest)) :
    ∃ k', c.deleteHeader ip k =
        some ({ c with headerSet := Function.update c.headerSet ip false }, k') ∧
      Holds k' rest := by
  rw [deleteHeader]
  split
  · rename_i hset
    rw [headerBooks, if_pos hset, Multiset.singleton_add] at h
    obtain ⟨k', hdel, hholds⟩ := h.deleteHeaderHdl
    rw [hdel]
    exact ⟨k', rfl, hholds⟩
  · rename_i hset
    rw [headerBooks, if_neg hset, zero_add] at h
    have hoff : Function.update c.headerSet ip false = c.headerSet :=
      Function.update_eq_self_iff.mpr (Bool.eq_false_of_not_eq_true hset).symm
    rw [hoff]
    exact ⟨k, rfl, h⟩

theorem addHeader_headerSet {ip' : IpType} (hip : ip' ∉ tx) :
    (c.addHeader alloc tx ip k).1.headerSet ip' = c.headerSet ip' := by
  rw [addHeader]
  split
  · rename_i hmem
    have hne : ip' ≠ ip := fun heq => hip (heq.symm ▸ hmem)
    exact Function.update_of_ne hne _ _
  · rfl

theorem addHeader_other {ip' : IpType} (hne : ip' ≠ ip) :
    (c.addHeader alloc tx ip k).1.headerSet ip' = c.headerSet ip' ∧
      (c.addHeader alloc tx ip k).1.headerBooks ip' = c.headerBooks ip' := by
  rw [addHeader]
  split
  · have hset := Function.update_of_ne hne true c.headerSet
    have hhdl := Function.update_of_ne hne (alloc k .hdr) c.hdrHdl
    refine ⟨hset, ?_⟩
    simp only [headerBooks, hset, hhdl]
  · exact ⟨rfl, rfl⟩

theorem initHeaders_holds (hA : alloc.Grants) (h : Holds k rest)
    (hno : ∀ ip ∉ tx, c.headerSet ip = false) :
    Holds (c.initHeaders alloc tx k).2
      ((c.initHeaders alloc tx k).1.books tx + rest) := by
  have hv4 := addHeader_holds hA .v4 h (hno .v4)
  have hset : (c.addHeader alloc tx .v4 k).1.headerSet .v6 = c.headerSet .v6 :=
    (addHeader_other (nofun : IpType.v6 ≠ .v4)).1
  have hv6 := addHeader_holds hA .v6 hv4 fun hip => hset.trans (hno .v6 hip)
  have hother : (addHeader alloc tx .v6 (c.addHeader alloc tx .v4 k).1
        (c.addHeader alloc tx .v4 k).2).1.headerBooks .v4 =
      (c.addHeader alloc tx .v4 k).1.headerBooks .v4 :=
    (addHeader_other (nofun : IpType.v4 ≠ .v6)).2
  rw [← hother, add_left_comm, ← add_assoc] at hv6
  have hnone : v6Hdls tx (List.range 0) = [] := by simp [v6Hdls]
  rw [initHeaders, books, hdlsInUse]
  dsimp only
  rw [hnone, if_neg Bool.false_ne_true]
  rw [show ∀ c : Client, c.rtBooks ([] ++ []) = 0 from fun _ => rfl, add_zero]
  exact hv6

/-! ## The next record moved up -/

theorem moveUp_books {next : Client} (h : next.routeRuleSetV6 ≤ next.ipv6Set) :
    (moveUp tx next c).books tx = next.books tx := by
  refine books_congr (fun _ => rfl) rfl (fun r hr => ?_) fun r hr => ?_
  · -- what is not copied is not in use
    refine if_pos ?_
    obtain ⟨t, ht, -, rfl⟩ | ⟨t, ht, n, hn, rfl | rfl⟩ := mem_hdlsInUse hr
    exacts [ht, ⟨ht, hn⟩, ⟨ht, hn⟩]
  · obtain ⟨t, -, -, rfl⟩ | ⟨t, -, n, hn, heq⟩ := mem_hdlsInUse hr
    · rfl
    · have haddr : (moveUp tx next c).v6Addr n = next.v6Addr n := if_pos (hn.trans_le h)
      obtain rfl | rfl := heq <;> simp only [rtRule, haddr] <;> rfl

end Client

end Axon7.Clients
