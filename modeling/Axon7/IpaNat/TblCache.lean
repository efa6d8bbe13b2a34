import Axon7.IpaNat.Sizes
import Axon7.Lib.Run

/-!
# The cache of tables

`ipa_nati_add_ipv4_tbl` fills a slot of `ipv4_nat_cache.ip4_tbl` before the steps that
can fail after the memory of the table has been allocated, and allocates the two host
arrays of the slot only where it has none. The slot is that of the number of tables,
whether or not the array has it.
-/

namespace Axon7.IpaNat

open Axon7.Lib

/-! ## From the source -/

/-- `struct ipa_nat_ip4_table_cache`. A host array is the number of elements that were
allocated for it, or NULL. -/
structure Ip4TblCache where
  valid : Bool
  publicAddr : UInt32
  natFd : Nat
  size : Nat
  tblAddrOffset : Nat
  tableName : String
  tableEntries : Nat
  expnTableEntries : Nat
  addrs : Option TblAddrs
  indexExpnTableMeta : Option Nat
  ruleIdArray : Option Nat
  curTblCnt : Nat
  curExpnTblCnt : Nat

/-- What `memset` leaves. -/
def Ip4TblCache.zero : Ip4TblCache where
  valid := false
  publicAddr := 0
  natFd := 0
  size := 0
  tblAddrOffset := 0
  tableName := ""
  tableEntries := 0
  expnTableEntries := 0
  addrs := none
  indexExpnTableMeta := none
  ruleIdArray := none
  curTblCnt := 0
  curExpnTblCnt := 0

/-- `NAT_DEV_FULL_NAME`. -/
def natDevFullName : String := "/dev/ipaNatTable"

/-- `struct ipa_nat_cache`, and the public address of the first PDN. The array of tables
has `maxIp4Tbls` slots; the ones from there on stand for what lies behind it. -/
structure IpaNatCache where
  ip4Tbl : Nat → Ip4TblCache
  ipaFd : Nat
  tableCnt : Nat
  ver : Nat
  pdnPublicIp : UInt32

/-- Static storage. -/
def IpaNatCache.new : IpaNatCache where
  ip4Tbl := fun _ => .zero
  ipaFd := 0
  tableCnt := 0
  ver := 0
  pdnPublicIp := 0

/-- What the system answers while a table is made: descriptors, the version, the offset
of the memory in the device, its address, and whether `IPA_IOC_V4_INIT_NAT` succeeds. -/
structure AddReply where
  ipaOpen : Option Nat
  ver : Option Nat
  alloc : Option Nat
  natOpen : Option Nat
  mmap : Option Nat
  init : Bool

/-- Everything succeeds. -/
def AddReply.good : AddReply where
  ipaOpen := some 3
  ver := some 4
  alloc := some 0
  natOpen := some 5
  mmap := some 4096
  init := true

/-- And while one is deleted. -/
structure DelReply where
  lock : Bool
  close : Bool
  del : Bool
  unlock : Bool

namespace IpaNatCache

/-- One slot written. -/
def setTbl (s : IpaNatCache) (index : Nat) (e : Ip4TblCache) : IpaNatCache :=
  { s with ip4Tbl := Function.update s.ip4Tbl index e }

/-- `ipa_nati_alloc_table`: the sizes and the offset of the memory. The device is opened
once. -/
def ipaNatiAllocTable (s : IpaNatCache) (numberOfEntries : UInt16) (r : AddReply) :
    Option (Alloc × Nat) × IpaNatCache :=
  match allocSizes numberOfEntries.toNat with
  | .error _ => (none, s)
  | .ok a =>
    match if s.ipaFd = 0 then r.ipaOpen else some s.ipaFd with
    | none => (none, s)
    | some fd =>
      let s := { s with ipaFd := fd }
      match r.ver with
      | none => (none, s)
      | some ver => (r.alloc.map fun offset => (a, offset), { s with ver := ver })

/-- The slot of a table as `ipa_nati_update_cache` fills it before it opens the table.
The host allocations succeed. -/
def fillTbl (e : Ip4TblCache) (a : Alloc) (offset : Nat) (publicAddr : UInt32) :
    Ip4TblCache :=
  { e with
    valid := true
    publicAddr := publicAddr
    size := a.size
    tblAddrOffset := offset
    tableEntries := a.tableEntries
    expnTableEntries := a.expnTableEntries
    indexExpnTableMeta := e.indexExpnTableMeta.or (some a.expnTableEntries)
    ruleIdArray := e.ruleIdArray.or (some (a.tableEntries + a.expnTableEntries)) }

/-- `ipa_nati_update_cache`, and whether it returns 0. -/
def ipaNatiUpdateCache (s : IpaNatCache) (a : Alloc) (offset : Nat) (publicAddr : UInt32)
    (r : AddReply) : Bool × IpaNatCache :=
  let index := s.tableCnt
  let e := fillTbl (s.ip4Tbl index) a offset publicAddr
  match r.natOpen with
  | none => (false, s.setTbl index e)
  | some fd =>
    let e := { e with tableName := natDevFullName, natFd := fd }
    match r.mmap with
    | none => (false, s.setTbl index e)
    | some addr =>
      (true, s.setTbl index
        { e with addrs := some (tblAddrs addr a.tableEntries a.expnTableEntries) })

/-- `ipa_nati_add_ipv4_tbl`: the handle. -/
def ipaNatiAddIpv4Tbl (s : IpaNatCache) (publicIpAddr : UInt32) (numberOfEntries : UInt16)
    (r : AddReply) : Option Nat × IpaNatCache :=
  match s.ipaNatiAllocTable numberOfEntries r with
  | (none, s) => (none, s)
  | (some (a, offset), s) =>
    match s.ipaNatiUpdateCache a offset publicIpAddr r with
    | (false, s) => (none, s)
    | (true, s) =>
      if r.init then
        let tableCnt := (s.tableCnt + 1) % 256
        (some tableCnt, { s with pdnPublicIp := publicIpAddr, tableCnt := tableCnt })
      else (none, s)

/-- `ipa_nat_add_ipv4_tbl`. -/
def ipaNatAddIpv4Tbl (s : IpaNatCache) (publicIpAddr : UInt32) (numberOfEntries : UInt16)
    (r : AddReply) : Option Nat × IpaNatCache :=
  if numberOfEntries = 0 then (none, s)
  else s.ipaNatiAddIpv4Tbl publicIpAddr numberOfEntries r

/-- `ipa_nati_del_ipv4_table`, and whether it returns 0. -/
def ipaNatiDelIpv4Table (s : IpaNatCache) (tblHdl : Nat) (r : DelReply) :
    Bool × IpaNatCache :=
  let index := (tblHdl + 2 ^ 32 - 1) % 256
  if (s.ip4Tbl index).valid = false then (false, s)
  else if r.lock = false then (false, s)
  else if r.close = false then (false, s)
  else if r.del = false then (false, s)
  else
    (r.unlock, { s.setTbl index .zero with tableCnt := (s.tableCnt + 255) % 256 })

/-- `ipa_nat_del_ipv4_tbl`. -/
def ipaNatDelIpv4Tbl (s : IpaNatCache) (tblHdl : Nat) (r : DelReply) :
    Bool × IpaNatCache :=
  if tblHdl = 0 ∨ tblHdl > maxIp4Tbls then (false, s) else s.ipaNatiDelIpv4Table tblHdl r

/-- The calls of the clients, with what the system answers. -/
inductive Call
  | add (publicIpAddr : UInt32) (numberOfEntries : UInt16) (r : AddReply)
  | del (tblHdl : Nat) (r : DelReply)

/-- What a call leaves. -/
def step (s : IpaNatCache) : Call → IpaNatCache
  | .add publicIpAddr numberOfEntries r =>
    (s.ipaNatAddIpv4Tbl publicIpAddr numberOfEntries r).2
  | .del tblHdl r => (s.ipaNatDelIpv4Tbl tblHdl r).2

/-- What calls leave, from the start. -/
def run (calls : List Call) : IpaNatCache := calls.foldl step new

/-! ## What a call must do -/

/-- The host arrays of a slot have room for its tables. -/
def Roomy (e : Ip4TblCache) : Prop :=
  (∃ room, e.indexExpnTableMeta = some room ∧ e.expnTableEntries ≤ room) ∧
    ∃ room, e.ruleIdArray = some room ∧ e.tableEntries + e.expnTableEntries ≤ room

/-- A failed add leaves the slots and their number alone, and one that succeeds has used
a slot that is there and left arrays with room for the tables in it. -/
def Tidy (s : IpaNatCache) : Call → Prop
  | .add publicIpAddr numberOfEntries r =>
    match s.ipaNatAddIpv4Tbl publicIpAddr numberOfEntries r with
    | (none, s') => s'.ip4Tbl = s.ip4Tbl ∧ s'.tableCnt = s.tableCnt
    | (some _, s') => s.tableCnt < maxIp4Tbls ∧ Roomy (s'.ip4Tbl s.tableCnt)
  | .del _ _ => True

/-- The memory of a table is allocated: the device is open, or can be opened, and both
requests to it succeed. -/
def Allocates (s : IpaNatCache) (numberOfEntries : UInt16) (r : AddReply) : Prop :=
  numberOfEntries ≠ 0 ∧ (s.ipaFd ≠ 0 ∨ r.ipaOpen ≠ none) ∧ r.ver ≠ none ∧ r.alloc ≠ none

/-- An add finds no table, and what comes after the allocation succeeds. -/
def Clean (s : IpaNatCache) : Call → Prop
  | .add _ numberOfEntries r => s.Allocates numberOfEntries r →
      s.tableCnt = 0 ∧ r.natOpen ≠ none ∧ r.mmap ≠ none ∧ r.init = true
  | .del _ _ => True

/-- What clean calls keep: a slot in use is the only one, and has its arrays. -/
structure Inv (s : IpaNatCache) : Prop where
  cnt : s.tableCnt ≤ 1
  free : ∀ index, s.tableCnt ≤ index → s.ip4Tbl index = .zero

theorem inv_new : new.Inv := ⟨Nat.zero_le _, fun _ _ => rfl⟩

/-! ## One call -/

variable {s : IpaNatCache}

theorem allocSizes_ok (n : UInt16) : ∃ a, allocSizes n.toNat = .ok a := by
  by_cases hle : n.toNat ≤ 40961
  · obtain ⟨k, hk, -⟩ := allocSizes_of_le hle
    exact ⟨_, hk⟩
  · obtain ⟨size, hsize⟩ := allocSizes_of_lt (Nat.lt_of_not_le hle) n.toNat_lt
    exact ⟨_, hsize⟩

theorem ipaNatiAllocTable_spec (n : UInt16) (r : AddReply) :
    (s.ipaNatiAllocTable n r).2.ip4Tbl = s.ip4Tbl ∧
      (s.ipaNatiAllocTable n r).2.tableCnt = s.tableCnt ∧
      ((s.ipaFd ≠ 0 ∨ r.ipaOpen ≠ none) ∧ r.ver ≠ none ∧ r.alloc ≠ none ↔
        (s.ipaNatiAllocTable n r).1 ≠ none) := by
  obtain ⟨a, ha⟩ := allocSizes_ok n
  rw [ipaNatiAllocTable, ha]
  cases hver : r.ver <;> cases halloc : r.alloc <;> by_cases hfd : s.ipaFd = 0 <;>
    cases hopen : r.ipaOpen <;> simp [hfd]

/-- The slot that an add fills, up to the table's name and addresses. -/
structure Filled (e e' : Ip4TblCache) : Prop where
  valid : e'.valid = true
  indexExpnTableMeta : e'.indexExpnTableMeta =
    e.indexExpnTableMeta.or (some e'.expnTableEntries)
  ruleIdArray : e'.ruleIdArray =
    e.ruleIdArray.or (some (e'.tableEntries + e'.expnTableEntries))

theorem ipaNatiUpdateCache_spec (a : Alloc) (offset : Nat) (publicAddr : UInt32)
    (r : AddReply) :
    ((s.ipaNatiUpdateCache a offset publicAddr r).1 = true ↔
        r.natOpen ≠ none ∧ r.mmap ≠ none) ∧
      ∃ e, Filled (s.ip4Tbl s.tableCnt) e ∧
        (s.ipaNatiUpdateCache a offset publicAddr r).2 = s.setTbl s.tableCnt e := by
  unfold ipaNatiUpdateCache
  cases hopen : r.natOpen with
  | none => exact ⟨by simp, _, ⟨rfl, rfl, rfl⟩, rfl⟩
  | some fd =>
    cases hmmap : r.mmap with
    | none => exact ⟨by simp, _, ⟨rfl, rfl, rfl⟩, rfl⟩
    | some addr => exact ⟨by simp, _, ⟨rfl, rfl, rfl⟩, rfl⟩

theorem ipaNatAddIpv4Tbl_cases (publicIpAddr : UInt32) (n : UInt16) (r : AddReply) :
    (¬s.Allocates n r ∧ (s.ipaNatAddIpv4Tbl publicIpAddr n r).1 = none ∧
        (s.ipaNatAddIpv4Tbl publicIpAddr n r).2.ip4Tbl = s.ip4Tbl ∧
        (s.ipaNatAddIpv4Tbl publicIpAddr n r).2.tableCnt = s.tableCnt) ∨
      (s.Allocates n r ∧ ∃ e, Filled (s.ip4Tbl s.tableCnt) e ∧
        (s.ipaNatAddIpv4Tbl publicIpAddr n r).2.ip4Tbl =
          Function.update s.ip4Tbl s.tableCnt e ∧
        if r.natOpen ≠ none ∧ r.mmap ≠ none ∧ r.init = true then
          (s.ipaNatAddIpv4Tbl publicIpAddr n r).1 = some ((s.tableCnt + 1) % 256) ∧
            (s.ipaNatAddIpv4Tbl publicIpAddr n r).2.tableCnt = (s.tableCnt + 1) % 256
        else
          (s.ipaNatAddIpv4Tbl publicIpAddr n r).1 = none ∧
            (s.ipaNatAddIpv4Tbl publicIpAddr n r).2.tableCnt = s.tableCnt) := by
  by_cases hn : n = 0
  · left
    rw [ipaNatAddIpv4Tbl, if_pos hn]
    exact ⟨fun h => h.1 hn, rfl, rfl, rfl⟩
  rw [ipaNatAddIpv4Tbl, if_neg hn, ipaNatiAddIpv4Tbl]
  obtain ⟨htbl, hcnt, hok⟩ := s.ipaNatiAllocTable_spec n r
  cases halloc : s.ipaNatiAllocTable n r with
  | mk res s₁ =>
    rw [halloc] at htbl hcnt hok
    dsimp only at htbl hcnt hok
    cases res with
    | none =>
      exact .inl ⟨fun h => absurd rfl (hok.mp h.2), rfl, htbl, hcnt⟩
    | some res =>
      obtain ⟨a, offset⟩ := res
      refine .inr ⟨⟨hn, hok.mpr nofun⟩, ?_⟩
      obtain ⟨hup, e, he, hset⟩ := s₁.ipaNatiUpdateCache_spec a offset publicIpAddr r
      rw [htbl, hcnt] at he
      refine ⟨e, he, ?_⟩
      dsimp only
      cases hupdate : s₁.ipaNatiUpdateCache a offset publicIpAddr r with
      | mk ok s₂ =>
        rw [hupdate] at hup hset
        dsimp only at hup hset
        have htbl₂ : s₂.ip4Tbl = Function.update s.ip4Tbl s.tableCnt e := by
          rw [hset, setTbl, htbl, hcnt]
        have hcnt₂ : s₂.tableCnt = s.tableCnt := by rw [hset, setTbl, hcnt]
        cases ok with
        | false =>
          have hno : ¬(r.natOpen ≠ none ∧ r.mmap ≠ none ∧ r.init = true) :=
            fun h => absurd (hup.mpr ⟨h.1, h.2.1⟩) nofun
          rw [if_neg hno]
          exact ⟨htbl₂, rfl, hcnt₂⟩
        | true =>
          have hopen := hup.mp rfl
          cases hinit : r.init with
          | false =>
            rw [if_neg fun h => absurd h.2.2 nofun]
            exact ⟨htbl₂, rfl, hcnt₂⟩
          | true =>
            rw [if_pos ⟨hopen.1, hopen.2, rfl⟩]
            dsimp only
            rw [hcnt₂]
            exact ⟨htbl₂, rfl, rfl⟩

theorem ipaNatDelIpv4Tbl_cases (tblHdl : Nat) (r : DelReply) :
    (s.ipaNatDelIpv4Tbl tblHdl r).2 = s ∨
      ((s.ip4Tbl 0).valid = true ∧
        (s.ipaNatDelIpv4Tbl tblHdl r).2 =
          { s.setTbl 0 .zero with tableCnt := (s.tableCnt + 255) % 256 }) := by
  rw [ipaNatDelIpv4Tbl]
  split
  · exact .inl rfl
  · next hhdl =>
      have hone : tblHdl = 1 := by
        unfold maxIp4Tbls at hhdl
        omega
      subst hone
      rw [ipaNatiDelIpv4Table]
      repeat' split
      all_goals first | exact .inl rfl | skip
      next hvalid _ _ _ => exact .inr ⟨eq_true_of_ne_false hvalid, rfl⟩

variable {call : Call}

theorem Inv.step (h : s.Inv) (hclean : s.Clean call) : (s.step call).Inv := by
  cases call with
  | add publicIpAddr n r =>
    show (s.ipaNatAddIpv4Tbl publicIpAddr n r).2.Inv
    obtain ⟨-, -, htbl, hcnt⟩ | ⟨halloc, e, -, htbl, hend⟩ :=
      s.ipaNatAddIpv4Tbl_cases publicIpAddr n r
    · exact ⟨hcnt ▸ h.cnt, fun index hindex => htbl ▸ h.free index (hcnt ▸ hindex)⟩
    · obtain ⟨hzero, hopen, hmmap, hinit⟩ := hclean halloc
      rw [if_pos ⟨hopen, hmmap, hinit⟩, hzero] at hend
      rw [hzero] at htbl
      refine ⟨by omega, fun index hindex => ?_⟩
      rw [htbl, Function.update_of_ne (by omega)]
      exact h.free index (by omega)
  | del tblHdl r =>
    show (s.ipaNatDelIpv4Tbl tblHdl r).2.Inv
    obtain heq | ⟨hvalid, heq⟩ := s.ipaNatDelIpv4Tbl_cases tblHdl r
    · rwa [heq]
    · have hcnt : s.tableCnt = 1 := by
        by_contra hne
        have hfree := h.free 0 (by have := h.cnt; omega)
        rw [hfree] at hvalid
        exact absurd hvalid nofun
      rw [heq]
      refine ⟨by dsimp only; omega, fun index _ => ?_⟩
      dsimp only [setTbl]
      rcases Nat.eq_zero_or_pos index with rfl | hpos
      · exact Function.update_self ..
      · rw [Function.update_of_ne (by omega)]
        exact h.free index (by omega)

theorem Inv.tidy_iff (h : s.Inv) : s.Tidy call ↔ s.Clean call := by
  cases call with
  | del => exact Iff.rfl
  | add publicIpAddr n r =>
    have hcases := s.ipaNatAddIpv4Tbl_cases publicIpAddr n r
    rw [Tidy, Clean]
    cases hadd : s.ipaNatAddIpv4Tbl publicIpAddr n r with
    | mk res s' =>
      rw [hadd] at hcases
      dsimp only at hcases ⊢
      obtain ⟨hno, rfl, htbl, hcnt⟩ | ⟨halloc, e, he, htbl, hend⟩ := hcases
      · exact iff_of_true ⟨htbl, hcnt⟩ fun halloc => absurd halloc hno
      · rw [h.free s.tableCnt le_rfl] at he
        split at hend
        · next hok =>
            obtain ⟨rfl, -⟩ := hend
            dsimp only
            rw [htbl, Function.update_self]
            have hroomy : Roomy e :=
              ⟨⟨_, he.indexExpnTableMeta, le_rfl⟩, _, he.ruleIdArray, le_rfl⟩
            constructor
            · exact fun htidy _ => ⟨Nat.lt_one_iff.mp htidy.1, hok⟩
            · exact fun hclean => ⟨Nat.lt_one_iff.mpr (hclean halloc).1, hroomy⟩
        · next hbad =>
            obtain ⟨rfl, -⟩ := hend
            dsimp only
            refine iff_of_false (fun htidy => ?_) fun hclean => hbad (hclean halloc).2
            have hslot := congrFun (htbl.symm.trans htidy.1) s.tableCnt
            rw [Function.update_self, h.free s.tableCnt le_rfl] at hslot
            have hvalid := he.valid
            rw [hslot] at hvalid
            exact absurd hvalid nofun

/-! ## Runs -/

theorem run_concat (pre : List Call) : run (pre ++ [call]) = (run pre).step call :=
  List.foldl_concat ..

/-- Each call of a run does what it must exactly if each is clean: an add finds no table,
and nothing fails after its allocation. -/
theorem run_tidy_iff (calls : List Call) :
    (∀ pre call, pre ++ [call] <+: calls → (run pre).Tidy call) ↔
      ∀ pre call, pre ++ [call] <+: calls → (run pre).Clean call := by
  refine forall_concat_iff (I := fun pre => (run pre).Inv) inv_new
    (fun pre call _ hinv htidy => ?_) fun pre call _ hinv => hinv.tidy_iff
  rw [run_concat]
  exact hinv.step (hinv.tidy_iff.mp htidy)

/-- A table cannot be mapped, and the next add is for more entries; and a second table is
made where there is one. The first call leaves a slot filled, the second arrays too small,
and the last one is in no slot. -/
theorem run_not_tidy :
    ¬(run []).Tidy (.add 1 100 { AddReply.good with mmap := none }) ∧
      ¬(run [.add 1 100 { AddReply.good with mmap := none }]).Tidy (.add 1 500 .good) ∧
      ¬(run [.add 1 100 .good]).Tidy (.add 1 100 .good) := by
  refine ⟨fun h => ?_, fun h => ?_, fun h => ?_⟩
  · have hvalid := congrArg Ip4TblCache.valid (congrFun h.1 0)
    exact absurd hvalid (by decide)
  · obtain ⟨-, ⟨room, hroom, hle⟩, -⟩ := h
    have hsome : some room = some 20 := hroom.symm.trans (by decide)
    rw [Option.some.inj hsome] at hle
    exact absurd hle (by decide)
  · exact absurd h.1 (by decide)

end IpaNatCache

end Axon7.IpaNat
