import Axon7.Clients.Lan
import Axon7.Lib.CloseGap

/-!
# One IPv6 address of a LAN client

An address that is deleted is to go with its two rules over each IPv6 property, and
the others are to stay with theirs. The cursor, the counts and the addresses move
inside the loop over the properties, once for each, while the handles move for one
property only; and an address that is not there is told only by a full array. So a
deletion is right over one property, for an address that is there, or where the
loop does nothing.
-/

namespace Axon7.Clients

open Axon7.Lib
open Axon7.Tether (IpType)

namespace Client

variable {tx : List IpType} {c : Client} {addr : BitVec 128} {n t : Nat}

/-! ## The handles that are deleted -/

/-- The turn for an IPv6 property, with the handles given to `DeleteRoutingHdl` so
far; all are deleted. -/
def deleteTurn (x : Nat × Client × List Nat) (t : Nat) : Nat × Client × List Nat :=
  let (numV6, c, hdls) := x
  if c.routeRuleSetV6 = 0 then x
  else
    (max numV6 (c.ipv6Set - 1), c.closeV6Gap t numV6,
      hdls ++ [c.rtHdl (.v6 t numV6), c.rtHdl (.v6Wan t numV6)])

/-- `handle_del_ipv6_addr`: the record then, and the handles deleted. -/
def deletedV6 (tx : List IpType) (addr : BitVec 128) (c : Client) : Client × List Nat :=
  if addr = 0 then (c, [])
  else
    let numV6 := c.findV6 addr
    if numV6 = ipv6NumAddr then (c, [])
    else ((txOf tx .v6).foldl deleteTurn (numV6, c, [])).2

theorem foldl_deleteTurn (ts : List Nat) (k : Kernel) (x : Nat × Client × List Nat) :
    ts.foldl delIpv6Turn
        (x.1, x.2.1, x.2.2.foldl (fun k hdl => deleteRoutingHdl .v6 hdl k) k) =
      ((ts.foldl deleteTurn x).1, (ts.foldl deleteTurn x).2.1,
        (ts.foldl deleteTurn x).2.2.foldl (fun k hdl => deleteRoutingHdl .v6 hdl k)
          k) := by
  induction ts generalizing x with
  | nil => rfl
  | cons t ts ih =>
    obtain ⟨numV6, c, hdls⟩ := x
    rw [List.foldl_cons, List.foldl_cons, ← ih]
    congr 1
    rw [delIpv6Turn, deleteTurn]
    dsimp only
    split
    · rfl
    · rw [List.foldl_append]
      rfl

theorem delIpv6Addr_eq (tx : List IpType) (addr : BitVec 128) (c : Client) (k : Kernel) :
    c.delIpv6Addr tx addr k = ((c.deletedV6 tx addr).1,
      (c.deletedV6 tx addr).2.foldl (fun k hdl => deleteRoutingHdl .v6 hdl k) k) := by
  rw [delIpv6Addr, deletedV6]
  split
  · rfl
  · dsimp only
    split
    · rfl
    · have hturns := foldl_deleteTurn (txOf tx .v6) k (c.findV6 addr, c, [])
      rw [show (c.findV6 addr, c, k) = ((c.findV6 addr, c, ([] : List Nat)).1, _, _) from rfl]
      exact congrArg Prod.snd hturns

/-! ## What a deletion is to do -/

/-- The addresses of the client. -/
def v6Addrs (c : Client) : List (BitVec 128) := (List.range c.ipv6Set).map c.v6Addr

/-- The address at the place has gone: the others are there in order, those with
rules have their handles, the rules deleted are those of the address, and both counts
are less by one. -/
structure RemovedAt (tx : List IpType) (n : Nat) (c c' : Client) (hdls : List Nat) :
    Prop where
  addrs : c'.v6Addrs = c.v6Addrs.filter (· ≠ c.v6Addr n)
  paired : ∀ t ∈ txOf tx .v6, ∀ j < c'.ipv6Set, Iface.skip n j < c.routeRuleSetV6 →
    c'.rtHdl (.v6 t j) = c.rtHdl (.v6 t (Iface.skip n j)) ∧
      c'.rtHdl (.v6Wan t j) = c.rtHdl (.v6Wan t (Iface.skip n j))
  deleted : hdls.filter (· ≠ 0) =
    if n < c.routeRuleSetV6 then
      (txOf tx .v6).flatMap fun t => [c.rtHdl (.v6 t n), c.rtHdl (.v6Wan t n)]
    else []
  ipv6Set : c'.ipv6Set + 1 = c.ipv6Set
  routeRuleSetV6 : c'.routeRuleSetV6 + 1 = c.routeRuleSetV6

/-- Exactly the address goes, and nothing if it is not there. -/
structure DeletesExactly (tx : List IpType) (addr : BitVec 128) (c : Client) : Prop where
  stored : ∀ n < c.ipv6Set, c.v6Addr n = addr →
    RemovedAt tx n c (c.deletedV6 tx addr).1 (c.deletedV6 tx addr).2
  missing : (∀ n < c.ipv6Set, c.v6Addr n ≠ addr) → c.deletedV6 tx addr = (c, [])

/-- The rules that there are have handles. -/
def Installed (tx : List IpType) (c : Client) : Prop :=
  ∀ t ∈ txOf tx .v6, ∀ j < c.routeRuleSetV6,
    c.rtHdl (.v6 t j) ≠ 0 ∧ c.rtHdl (.v6Wan t j) ≠ 0

/-- An address that is stored once goes over one property, or with one rule that is
not its own; where it has no rules its places for handles are empty. One that is not
stored is told by a full array, or there is nothing to delete. -/
def OneToDelete (tx : List IpType) (addr : BitVec 128) (c : Client) : Prop :=
  (∃ n < c.ipv6Set, c.v6Addr n = addr ∧ c.v6Addrs.count addr = 1 ∧
      c.routeRuleSetV6 ≠ 0 ∧ ∃ t ts, txOf tx .v6 = t :: ts ∧
        (ts = [] ∨ c.routeRuleSetV6 = 1 ∧ n ≠ 0) ∧
        (n < c.routeRuleSetV6 ∨ c.rtHdl (.v6 t n) = 0 ∧ c.rtHdl (.v6Wan t n) = 0)) ∨
    (∀ n < c.ipv6Set, c.v6Addr n ≠ addr) ∧
      (c.ipv6Set = ipv6NumAddr ∨ c.routeRuleSetV6 = 0 ∨ txOf tx .v6 = [])

/-! ## The turns -/

theorem deleteTurn_of_none {hdls : List Nat} (h : c.routeRuleSetV6 = 0) (ts : List Nat) :
    ts.foldl deleteTurn (n, c, hdls) = (n, c, hdls) := by
  induction ts with
  | nil => rfl
  | cons t ts ih =>
    rw [List.foldl_cons, show deleteTurn (n, c, hdls) t = (n, c, hdls) from if_pos h]
    exact ih

theorem deleteTurn_of_some {hdls : List Nat} (h : c.routeRuleSetV6 ≠ 0) :
    deleteTurn (n, c, hdls) t = (max n (c.ipv6Set - 1), c.closeV6Gap t n,
      hdls ++ [c.rtHdl (.v6 t n), c.rtHdl (.v6Wan t n)]) :=
  if_neg h

theorem foldl_deleteTurn_counts (ts : List Nat) (x : Nat × Client × List Nat)
    (hle : x.2.1.routeRuleSetV6 ≤ x.2.1.ipv6Set) :
    (ts.foldl deleteTurn x).2.1.ipv6Set + min ts.length x.2.1.routeRuleSetV6 =
      x.2.1.ipv6Set := by
  induction ts generalizing x with
  | nil => simp
  | cons t ts ih =>
    obtain ⟨n, c, hdls⟩ := x
    by_cases hnone : c.routeRuleSetV6 = 0
    · rw [deleteTurn_of_none hnone, hnone]
      simp
    · have hnext := ih (deleteTurn (n, c, hdls) t)
      rw [List.foldl_cons]
      rw [deleteTurn_of_some hnone] at hnext ⊢
      simp only [closeV6Gap] at hnext ⊢
      simp only at hle
      have hnext := hnext (by omega)
      rw [List.length_cons]
      omega

theorem closeV6Gap_addrs (hn : n < c.ipv6Set) :
    (c.closeV6Gap t n).v6Addrs = c.v6Addrs.eraseIdx n := by
  have hlength : c.v6Addrs.length = c.ipv6Set := by simp [v6Addrs]
  refine List.ext_getElem ?_ fun j hj hj' => ?_
  · rw [List.length_eraseIdx_of_lt (by omega), hlength]
    simp [v6Addrs, closeV6Gap]
  · rw [List.length_eraseIdx_of_lt (by omega), hlength] at hj'
    simp only [List.getElem_eraseIdx, v6Addrs, closeV6Gap, List.getElem_map,
      List.getElem_range]
    by_cases hlt : j < n
    · rw [if_neg (by omega), dif_pos hlt]
    · rw [if_pos (by omega), dif_neg hlt]

theorem closeV6Gap_rtHdl {j : Nat} (hj : j < c.ipv6Set - 1) :
    (c.closeV6Gap t n).rtHdl (.v6 t j) = c.rtHdl (.v6 t (Iface.skip n j)) ∧
      (c.closeV6Gap t n).rtHdl (.v6Wan t j) = c.rtHdl (.v6Wan t (Iface.skip n j)) := by
  by_cases hlt : j < n
  · have hout : ¬ (n ≤ j ∧ j < c.ipv6Set - 1) := by omega
    simp [closeV6Gap, Iface.skip, hout, hlt]
  · have hin : n ≤ j ∧ j < c.ipv6Set - 1 := by omega
    simp [closeV6Gap, Iface.skip, hin, hlt]

theorem closeV6Gap_rtHdl_of_lt {j t' : Nat} (hj : j < n) :
    (c.closeV6Gap t n).rtHdl (.v6 t' j) = c.rtHdl (.v6 t' j) ∧
      (c.closeV6Gap t n).rtHdl (.v6Wan t' j) = c.rtHdl (.v6Wan t' j) := by
  have hout : ¬ n ≤ j := by omega
  simp [closeV6Gap, hout]

/-! ## The address is there -/

theorem v6Addrs_getElem? (hn : n < c.ipv6Set) : c.v6Addrs[n]? = some (c.v6Addr n) := by
  simp [v6Addrs, hn]

theorem findV6_spec (h : ∃ n < c.ipv6Set, c.v6Addr n = addr) :
    c.v6Addr (c.findV6 addr) = addr := by
  rw [findV6]
  cases hf : (List.range c.ipv6Set).find? fun n => c.v6Addr n = addr with
  | none =>
    obtain ⟨n, hn, haddr⟩ := h
    have hno := List.find?_eq_none.mp hf n (List.mem_range.mpr hn)
    exact absurd (decide_eq_true haddr) hno
  | some n =>
    have hfound := List.find?_some hf
    exact of_decide_eq_true hfound

theorem deletedV6_turns (haddr : addr ≠ 0) (hne : c.findV6 addr ≠ ipv6NumAddr) :
    c.deletedV6 tx addr =
      ((txOf tx .v6).foldl deleteTurn (c.findV6 addr, c, [])).2 := by
  rw [deletedV6, if_neg haddr]
  exact if_neg hne

theorem foldl_deleteTurn_one {ts : List Nat} (hr : c.routeRuleSetV6 ≠ 0)
    (h : ts = [] ∨ c.routeRuleSetV6 = 1) :
    ((t :: ts).foldl deleteTurn (n, c, [])).2 =
      (c.closeV6Gap t n, [c.rtHdl (.v6 t n), c.rtHdl (.v6Wan t n)]) := by
  rw [List.foldl_cons, deleteTurn_of_some hr, List.nil_append]
  obtain rfl | hone := h
  · rfl
  · have hnone : (c.closeV6Gap t n).routeRuleSetV6 = 0 := by
      show c.routeRuleSetV6 - 1 = 0
      omega
    rw [deleteTurn_of_none hnone]

theorem removedAt_of_turn {ts : List Nat} (ht : txOf tx .v6 = t :: ts)
    (hn : n < c.ipv6Set) (hcount : c.v6Addrs.count (c.v6Addr n) = 1)
    (hr : c.routeRuleSetV6 ≠ 0) (hinstalled : Installed tx c)
    (hone : ts = [] ∨ c.routeRuleSetV6 = 1 ∧ n ≠ 0)
    (hempty : n < c.routeRuleSetV6 ∨ c.rtHdl (.v6 t n) = 0 ∧ c.rtHdl (.v6Wan t n) = 0) :
    RemovedAt tx n c (c.closeV6Gap t n) [c.rtHdl (.v6 t n), c.rtHdl (.v6Wan t n)] where
  addrs := by
    rw [closeV6Gap_addrs hn, eraseIdx_eq_filter_ne hcount (v6Addrs_getElem? hn)]
  paired t' ht' j hj hskip := by
    rw [ht] at ht'
    obtain rfl | ⟨hr1, hn0⟩ := hone
    · rw [List.mem_singleton.mp ht']
      exact closeV6Gap_rtHdl hj
    · -- with one rule, not its own, only the first place has handles
      rw [Iface.skip] at hskip ⊢
      split at hskip
      · next hlt =>
          rw [if_pos hlt]
          exact closeV6Gap_rtHdl_of_lt hlt
      · omega
  deleted := by
    by_cases hlt : n < c.routeRuleSetV6
    · obtain rfl := hone.resolve_right fun h => by omega
      obtain ⟨hv6, hwan⟩ := hinstalled t (by rw [ht]; exact List.mem_cons_self) n hlt
      rw [if_pos hlt, ht]
      simp [hv6, hwan]
    · obtain ⟨hv6, hwan⟩ := hempty.resolve_left hlt
      rw [if_neg hlt, hv6, hwan]
      rfl
  ipv6Set := by
    show c.ipv6Set - 1 + 1 = c.ipv6Set
    omega
  routeRuleSetV6 := by
    show c.routeRuleSetV6 - 1 + 1 = c.routeRuleSetV6
    omega

theorem one_of_deleted {ts : List Nat} (hone : ts = [] ∨ c.routeRuleSetV6 = 1)
    (h : [c.rtHdl (.v6 t n), c.rtHdl (.v6Wan t n)].filter (· ≠ 0) =
      if n < c.routeRuleSetV6 then
        (t :: ts).flatMap fun t => [c.rtHdl (.v6 t n), c.rtHdl (.v6Wan t n)]
      else []) :
    (ts = [] ∨ c.routeRuleSetV6 = 1 ∧ n ≠ 0) ∧
      (n < c.routeRuleSetV6 ∨ c.rtHdl (.v6 t n) = 0 ∧ c.rtHdl (.v6Wan t n) = 0) := by
  by_cases hlt : n < c.routeRuleSetV6
  · refine ⟨.inl ?_, .inl hlt⟩
    cases ts with
    | nil => rfl
    | cons t' ts =>
      -- two handles are not those of two properties
      have hfew := List.length_filter_le (fun hdl : Nat => decide (hdl ≠ 0))
        [c.rtHdl (.v6 t n), c.rtHdl (.v6Wan t n)]
      rw [h, if_pos hlt, List.flatMap_cons, List.flatMap_cons] at hfew
      simp only [List.length_append, List.length_cons, List.length_nil] at hfew
      omega
  · rw [if_neg hlt, List.filter_eq_nil_iff] at h
    refine ⟨hone.imp_right fun hr1 => ⟨hr1, by omega⟩, .inr ⟨?_, ?_⟩⟩
    · have hv6 := h (c.rtHdl (.v6 t n)) (by simp)
      simpa using hv6
    · have hwan := h (c.rtHdl (.v6Wan t n)) (by simp)
      simpa using hwan

theorem one_of_removedAt (hr : c.routeRuleSetV6 ≤ c.ipv6Set)
    (h : RemovedAt tx n c ((txOf tx .v6).foldl deleteTurn (n, c, [])).2.1
      ((txOf tx .v6).foldl deleteTurn (n, c, [])).2.2) :
    c.v6Addrs.count (c.v6Addr n) = 1 ∧ c.routeRuleSetV6 ≠ 0 ∧
      ∃ t ts, txOf tx .v6 = t :: ts ∧ (ts = [] ∨ c.routeRuleSetV6 = 1 ∧ n ≠ 0) ∧
        (n < c.routeRuleSetV6 ∨
          c.rtHdl (.v6 t n) = 0 ∧ c.rtHdl (.v6Wan t n) = 0) := by
  obtain ⟨haddrs, -, hdeleted, hset, hrule⟩ := h
  have hcount : c.v6Addrs.count (c.v6Addr n) = 1 := by
    have hall := length_filter_ne (c.v6Addr n) c.v6Addrs
    rw [← haddrs] at hall
    simp only [v6Addrs, List.length_map, List.length_range] at hall ⊢
    omega
  have hsome : c.routeRuleSetV6 ≠ 0 := by omega
  have hcounts := foldl_deleteTurn_counts (txOf tx .v6) (n, c, []) hr
  refine ⟨hcount, hsome, ?_⟩
  cases ht : txOf tx .v6 with
  | nil =>
    rw [ht] at hset
    exact absurd hset (Nat.succ_ne_self _)
  | cons t ts =>
    rw [ht, List.length_cons] at hcounts
    rw [ht] at hset hdeleted
    have hone : ts = [] ∨ c.routeRuleSetV6 = 1 := by
      rw [← List.length_eq_zero_iff]
      dsimp only at hcounts
      omega
    rw [foldl_deleteTurn_one hsome hone] at hdeleted
    exact ⟨t, ts, rfl, one_of_deleted hone hdeleted⟩

/-! ## Every deletion -/

theorem removedAt_iff (haddr : addr ≠ 0) (hset : c.ipv6Set ≤ ipv6NumAddr)
    (hr : c.routeRuleSetV6 ≤ c.ipv6Set) (hinstalled : Installed tx c)
    (hn : n < c.ipv6Set) (hthere : c.v6Addr n = addr) :
    (∀ j < c.ipv6Set, c.v6Addr j = addr →
        RemovedAt tx j c (c.deletedV6 tx addr).1 (c.deletedV6 tx addr).2) ↔
      c.v6Addrs.count addr = 1 ∧ c.routeRuleSetV6 ≠ 0 ∧
        ∃ t ts, txOf tx .v6 = t :: ts ∧
          (ts = [] ∨ c.routeRuleSetV6 = 1 ∧ c.findV6 addr ≠ 0) ∧
          (c.findV6 addr < c.routeRuleSetV6 ∨ c.rtHdl (.v6 t (c.findV6 addr)) = 0 ∧
            c.rtHdl (.v6Wan t (c.findV6 addr)) = 0) := by
  have hlt : c.findV6 addr < c.ipv6Set := findV6_lt ⟨n, hn, hthere⟩
  have hspec : c.v6Addr (c.findV6 addr) = addr := findV6_spec ⟨n, hn, hthere⟩
  rw [deletedV6_turns haddr (by omega)]
  constructor
  · intro hall
    have hone := one_of_removedAt hr (hall _ hlt hspec)
    rwa [hspec] at hone
  · intro hone j hj hj'
    obtain ⟨hcount, hsome, t, ts, ht, hturn, hempty⟩ := hone
    have hplace : j = c.findV6 addr := by
      refine index_unique_of_count hcount ?_ ?_
      · rw [v6Addrs_getElem? hj, hj']
      · rw [v6Addrs_getElem? hlt, hspec]
    rw [hplace, ht, foldl_deleteTurn_one hsome (hturn.imp_right And.left)]
    refine removedAt_of_turn ht hlt ?_ hsome hinstalled hturn hempty
    rwa [hspec]

theorem deletedV6_missing_iff (haddr : addr ≠ 0) (hr : c.routeRuleSetV6 ≤ c.ipv6Set)
    (hmissing : ∀ n < c.ipv6Set, c.v6Addr n ≠ addr) :
    c.deletedV6 tx addr = (c, []) ↔
      c.ipv6Set = ipv6NumAddr ∨ c.routeRuleSetV6 = 0 ∨ txOf tx .v6 = [] := by
  have hend : c.findV6 addr = c.ipv6Set :=
    findV6_eq fun ⟨n, hn, hthere⟩ => hmissing n hn hthere
  by_cases hfull : c.ipv6Set = ipv6NumAddr
  · refine iff_of_true ?_ (.inl hfull)
    rw [deletedV6, if_neg haddr]
    exact if_pos (hend.trans hfull)
  · rw [deletedV6_turns haddr (by omega), or_iff_right hfull]
    constructor
    · intro hsame
      have hcounts := foldl_deleteTurn_counts (txOf tx .v6) (c.findV6 addr, c, []) hr
      rw [hsame] at hcounts
      dsimp only at hcounts
      rw [← List.length_eq_zero_iff]
      omega
    · intro hnothing
      obtain hnone | hno := hnothing
      · rw [deleteTurn_of_none hnone]
      · rw [hno]
        rfl

/-- A deletion removes exactly the address if and only if there is one to delete. -/
theorem deletesExactly_iff (haddr : addr ≠ 0) (hset : c.ipv6Set ≤ ipv6NumAddr)
    (hr : c.routeRuleSetV6 ≤ c.ipv6Set) (hinstalled : Installed tx c) :
    DeletesExactly tx addr c ↔ OneToDelete tx addr c := by
  by_cases hthere : ∃ n < c.ipv6Set, c.v6Addr n = addr
  · have hlt : c.findV6 addr < c.ipv6Set := findV6_lt hthere
    have hspec : c.v6Addr (c.findV6 addr) = addr := findV6_spec hthere
    have hremoved := removedAt_iff haddr hset hr hinstalled hlt hspec
    constructor
    · intro h
      exact .inl ⟨c.findV6 addr, hlt, hspec, hremoved.mp h.stored⟩
    · intro h
      obtain ⟨n, hn, hn', hcount, hone⟩ | ⟨hmissing, -⟩ := h
      · have hplace : n = c.findV6 addr := by
          refine index_unique_of_count hcount ?_ ?_
          · rw [v6Addrs_getElem? hn, hn']
          · rw [v6Addrs_getElem? hlt, hspec]
        rw [hplace] at hone
        refine ⟨hremoved.mpr ⟨hcount, hone⟩, fun hmissing => ?_⟩
        exact absurd hspec (hmissing _ hlt)
      · exact absurd hspec (hmissing _ hlt)
  · have hmissing : ∀ n < c.ipv6Set, c.v6Addr n ≠ addr :=
      fun n hn heq => hthere ⟨n, hn, heq⟩
    have hkept : c.deletedV6 tx addr = (c, []) ↔ _ :=
      deletedV6_missing_iff haddr hr hmissing
    constructor
    · intro h
      exact .inr ⟨hmissing, hkept.mp (h.missing hmissing)⟩
    · intro h
      obtain ⟨n, hn, hn', -⟩ | ⟨-, hnothing⟩ := h
      · exact absurd hn' (hmissing n hn)
      · refine ⟨fun n hn heq => ?_, fun _ => hkept.mpr hnothing⟩
        exact absurd heq (hmissing n hn)

/-- A client with the first of the addresses, and rules for each. -/
def withAddrs (k : Nat) : Client :=
  { blank with
    ipv6Set := k
    routeRuleSetV6 := k
    v6Addr := fun n => BitVec.ofNat 128 (n + 1)
    rtHdl := fun
      | .v4 _ => 0
      | .v6 t n => 10 * t + 2 * n + 1
      | .v6Wan t n => 10 * t + 2 * n + 2 }

theorem withAddrs_installed (tx : List IpType) (k : Nat) : Installed tx (withAddrs k) :=
  fun _ _ _ _ => ⟨Nat.succ_ne_zero _, Nat.succ_ne_zero _⟩

theorem deletesExactly_first : DeletesExactly [.v4, .v6] 1 (withAddrs 2) := by
  refine (deletesExactly_iff (by decide) (by decide) (by decide)
    (withAddrs_installed _ 2)).mpr (.inl ⟨0, by decide, by decide, by decide, by decide, ?_⟩)
  exact ⟨1, [], by decide, .inl rfl, .inl (by decide)⟩

/-- The only address goes when another is to be deleted. -/
theorem not_deletesExactly_other :
    Installed [.v6] (withAddrs 1) ∧ ¬ DeletesExactly [.v6] 2 (withAddrs 1) := by
  refine ⟨withAddrs_installed _ 1, fun h => ?_⟩
  have hkept := h.missing (by decide)
  have hset : ((withAddrs 1).deletedV6 [.v6] 2).1.ipv6Set = 1 := by rw [hkept]; rfl
  exact absurd hset (by decide)

end Client

end Axon7.Clients
