import Axon7.IpaNat.Tables

/-!
# The sizes of a table

`ipa_nati_alloc_table` makes the two table sizes of the number of entries asked
for: a power of two for the base table, by a loop of doubling and halving, and an
even number for the expansion table. All of it is done in 16 bits, where 2 to the
16 is 0: a base share above 2 to the 15 comes out as a base table of no entries,
and the mask of the hashes then has all its bits.
-/

namespace Axon7.IpaNat

/-! ## From the source -/

/-- The `for (;;)` loop of `GetNearest2Power`. -/
def nearest2Power (number : Nat) : Nat → Nat → Nat → Except Err Nat
  | 0, _, _ => .error .spin
  | fuel + 1, num, tmp =>
    if num = 1 then .ok (if number ≠ tmp then tmp * 2 % 65536 else tmp)
    else nearest2Power number fuel (num / 2) (tmp * 2 % 65536)

/-- `GetNearest2Power`. A 16-bit number is 1 after 15 turns of the loop. -/
def getNearest2Power (num : Nat) : Except Err Nat :=
  if num = 0 then .error .einval
  else if num = 1 then .ok 2
  else nearest2Power num 16 num 1

/-- `GetNearestEven`. An odd number has the next one even, so that its loop takes
one turn at most. -/
def getNearestEven (num : Nat) : Nat :=
  if num < 2 then 2 else if num % 2 ≠ 0 then (num + 1) % 65536 else num

/-- What `ipa_nati_alloc_table` hands back: `mem->size` and the sizes. -/
structure Alloc where
  size : Nat
  tableEntries : Nat
  expnTableEntries : Nat
deriving DecidableEq

/-- `IPA_NAT_BASE_TABLE_PERCENTAGE` of the entries, as a `uint16_t`. -/
def baseShare (numberOfEntries : Nat) : Nat := numberOfEntries * 4 / 5 % 65536

/-- `IPA_NAT_EXPANSION_TABLE_PERCENTAGE` of them. -/
def expansionShare (numberOfEntries : Nat) : Nat := numberOfEntries / 5 % 65536

/-- `ipa_nati_alloc_table`, up to where it opens the device. -/
def allocSizes (numberOfEntries : Nat) : Except Err Alloc :=
  let tableEntries := baseShare numberOfEntries
  let tableEntries := if tableEntries = 0 then 1 else tableEntries
  match getNearest2Power tableEntries with
  | .error e => .error e
  | .ok tableEntries =>
    let expnTableEntries := getNearestEven (expansionShare numberOfEntries)
    let totalEntries := (tableEntries + expnTableEntries) % 65536
    .ok
      { size := tableEntrySize * totalEntries + indexTableEntrySize * totalEntries
        tableEntries := tableEntries
        expnTableEntries := expnTableEntries }

/-- The four addresses that `ipa_nati_update_cache` puts in the cache. -/
structure TblAddrs where
  ipv4RulesAddr : Nat
  ipv4ExpnRulesAddr : Nat
  indexTableAddr : Nat
  indexTableExpnAddr : Nat

/-- They follow from that of the mapped memory and the sizes. -/
def tblAddrs (ipv4RulesAddr tblEntries expnTblEntries : Nat) : TblAddrs where
  ipv4RulesAddr := ipv4RulesAddr
  ipv4ExpnRulesAddr := ipv4RulesAddr + tableEntrySize * tblEntries
  indexTableAddr := ipv4RulesAddr + tableEntrySize * (tblEntries + expnTblEntries)
  indexTableExpnAddr := ipv4RulesAddr + tableEntrySize * (tblEntries + expnTblEntries) +
    indexTableEntrySize * tblEntries

/-- A piece of memory. -/
structure Region where
  start : Nat
  size : Nat

/-- The first address behind it. -/
def Region.stop (r : Region) : Nat := r.start + r.size

/-- Each address is in one of the two at most. -/
def Region.Disjoint (r r' : Region) : Prop := r.stop ≤ r'.start ∨ r'.stop ≤ r.start

/-- The four tables, as `ipa_nati_reset_tbl` clears them. -/
def tblRegions (a : TblAddrs) (tableEntries expnTableEntries : Nat) : List Region :=
  [⟨a.ipv4RulesAddr, tableEntrySize * tableEntries⟩,
    ⟨a.ipv4ExpnRulesAddr, tableEntrySize * expnTableEntries⟩,
    ⟨a.indexTableAddr, indexTableEntrySize * tableEntries⟩,
    ⟨a.indexTableExpnAddr, indexTableEntrySize * expnTableEntries⟩]

/-! ## The loop -/

theorem nearest2Power_eq {number : Nat} (hnumber : number < 2 ^ 16) :
    ∀ {fuel num turns : Nat}, num = number / 2 ^ turns → 0 < num → num < 2 ^ fuel →
      nearest2Power number fuel num (2 ^ turns) = .ok (2 ^ Nat.clog 2 number % 65536) := by
  intro fuel
  induction fuel with
  | zero =>
    intro num turns hnum hpos hlt
    omega
  | succ fuel ih =>
    intro num turns hnum hpos hlt
    have hle : 2 ^ turns * num ≤ number := hnum ▸ Nat.mul_div_le number (2 ^ turns)
    have hlt' : number < 2 ^ turns * (num + 1) := by
      rw [hnum]
      exact Nat.lt_mul_div_succ number (Nat.two_pow_pos turns)
    have hsucc : 2 ^ turns * 2 = 2 ^ (turns + 1) := (Nat.pow_succ ..).symm
    rw [nearest2Power]
    by_cases hone : num = 1
    · rw [if_pos hone]
      subst hone
      by_cases heq : number = 2 ^ turns
      · rw [if_neg (not_not.mpr heq), heq, Nat.clog_pow 2 turns (by decide),
          Nat.mod_eq_of_lt (by omega)]
      · have hclog : Nat.clog 2 number = turns + 1 := by
          apply Nat.le_antisymm
          · exact Nat.clog_le_of_le_pow (by omega)
          · exact (Nat.lt_clog_iff_pow_lt (by decide)).mpr (by omega)
        rw [if_pos heq, hclog, hsucc]
    · rw [if_neg hone]
      have htwo : 2 ^ (turns + 1) ≤ number := by
        have : 2 ^ turns * 2 ≤ 2 ^ turns * num := Nat.mul_le_mul_left _ (by omega)
        omega
      rw [hsucc, Nat.mod_eq_of_lt (by omega)]
      refine ih ?_ (by omega) (by omega)
      rw [hnum, Nat.div_div_eq_div_mul, hsucc]

theorem getNearest2Power_eq {num : Nat} (hnum : 2 ≤ num) (hlt : num < 2 ^ 16) :
    getNearest2Power num = .ok (2 ^ Nat.clog 2 num % 65536) := by
  rw [getNearest2Power, if_neg (by omega), if_neg (by omega)]
  have hstart : num = num / 2 ^ 0 := (Nat.div_one num).symm
  exact nearest2Power_eq hlt hstart (by omega) hlt

theorem getNearest2Power_of_le {num : Nat} (hpos : 0 < num) (hle : num ≤ 2 ^ 15) :
    ∃ k, getNearest2Power num = .ok (2 ^ k) ∧ 0 < k ∧ num ≤ 2 ^ k ∧
      ∀ j, 0 < j → num ≤ 2 ^ j → k ≤ j := by
  by_cases hone : num = 1
  · exact ⟨1, by rw [hone]; rfl, by omega, by omega, fun j hj _ => hj⟩
  · have hk : Nat.clog 2 num ≤ 15 := Nat.clog_le_of_le_pow hle
    have hpow : 2 ^ Nat.clog 2 num < 65536 :=
      Nat.pow_lt_pow_right (m := Nat.clog 2 num) (n := 16) (by decide) (by omega)
    refine ⟨Nat.clog 2 num, ?_, Nat.clog_pos (by decide) (by omega),
      Nat.le_pow_clog (by decide) num, fun j _ hj => Nat.clog_le_of_le_pow hj⟩
    rw [getNearest2Power_eq (by omega) (by omega), Nat.mod_eq_of_lt hpow]

theorem getNearest2Power_of_lt {num : Nat} (hlt : 2 ^ 15 < num) (hnum : num < 2 ^ 16) :
    getNearest2Power num = .ok 0 := by
  have hclog : Nat.clog 2 num = 16 := by
    apply Nat.le_antisymm
    · exact Nat.clog_le_of_le_pow hnum.le
    · exact (Nat.lt_clog_iff_pow_lt (by decide)).mpr hlt
  simpa [hclog] using getNearest2Power_eq (by omega) hnum

/-! ## A table of any number of entries -/

theorem expansion_le {n : Nat} (hn : n < 2 ^ 16) :
    2 ≤ getNearestEven (expansionShare n) ∧ getNearestEven (expansionShare n) ≤ 13108 ∧
      getNearestEven (expansionShare n) ≤ n / 5 + 2 := by
  unfold getNearestEven expansionShare
  split
  · omega
  · split <;> omega

/-- The four tables do not overlap, and the last one ends where the memory does. -/
structure Partition (rs : List Region) (start size : Nat) : Prop where
  disjoint : rs.Pairwise Region.Disjoint
  inside : ∀ r ∈ rs, start ≤ r.start ∧ r.stop ≤ start + size
  ends : rs.getLast?.map Region.stop = some (start + size)

/-- What a table must be: its base table is a power of two with room for the base share,
its entries have 16-bit numbers, its memory is that of its four tables, and each rule hashes
to an entry of the base table and one of the index table. The mask is a `uint16_t`. -/
structure Alloc.Fits (a : Alloc) (numberOfEntries : Nat) : Prop where
  pow : ∃ k, a.tableEntries = 2 ^ k
  two : 2 ≤ a.tableEntries
  share : numberOfEntries * 4 / 5 ≤ a.tableEntries
  entries : a.tableEntries + a.expnTableEntries < 2 ^ 16
  regions : ∀ addr, Partition
    (tblRegions (tblAddrs addr a.tableEntries a.expnTableEntries) a.tableEntries
      a.expnTableEntries) addr a.size
  dst : ∀ (c : Cfg) publicIp trgtIp trgtPort publicPort proto,
    let hash := dstHash c publicIp trgtIp trgtPort publicPort proto (sub16 a.tableEntries 1)
    1 ≤ hash ∧ hash ≤ a.tableEntries - 1
  src : ∀ privIp privPort trgtIp trgtPort proto,
    let hash := srcHash privIp privPort trgtIp trgtPort proto (sub16 a.tableEntries 1)
    1 ≤ hash ∧ hash ≤ a.tableEntries - 1

theorem partition_tblRegions (addr t e : Nat) :
    Partition (tblRegions (tblAddrs addr t e) t e) addr
      (tableEntrySize * (t + e) + indexTableEntrySize * (t + e)) where
  disjoint := by
    simp only [tblRegions, tblAddrs, List.pairwise_cons, List.forall_mem_cons,
      Region.Disjoint, Region.stop, tableEntrySize, indexTableEntrySize,
      List.not_mem_nil, false_implies, implies_true, and_true, List.Pairwise.nil]
    omega
  inside := by
    simp only [tblRegions, tblAddrs, List.forall_mem_cons, Region.stop, tableEntrySize,
      indexTableEntrySize, List.not_mem_nil, false_implies, implies_true, and_true]
    omega
  ends := by
    simp only [tblRegions, tblAddrs, List.getLast?_cons_cons, List.getLast?_singleton,
      Option.map_some, Region.stop, tableEntrySize, indexTableEntrySize]
    congr 1
    omega

theorem allocSizes_of_le {n : Nat} (hn : n ≤ 40961) :
    ∃ k, allocSizes n = .ok
        { size := tableEntrySize * (2 ^ k + getNearestEven (expansionShare n)) +
            indexTableEntrySize * (2 ^ k + getNearestEven (expansionShare n))
          tableEntries := 2 ^ k
          expnTableEntries := getNearestEven (expansionShare n) } ∧
      0 < k ∧ n * 4 / 5 ≤ 2 ^ k ∧ ∀ j, 0 < j → n * 4 / 5 ≤ 2 ^ j → k ≤ j := by
  have hshare : baseShare n = n * 4 / 5 := Nat.mod_eq_of_lt (by omega)
  have hposShare : 0 < if baseShare n = 0 then 1 else baseShare n := by split <;> omega
  obtain ⟨k, hk, hpos, hroom, hleast⟩ := getNearest2Power_of_le hposShare (by split <;> omega)
  have hpow : 2 ^ k ≤ 2 ^ 15 :=
    Nat.pow_le_pow_right (by decide) (hleast 15 (by decide) (by split <;> omega))
  have hexpn := expansion_le (n := n) (by omega)
  refine ⟨k, ?_, hpos, by split at hroom <;> omega, fun j hj hle => hleast j hj ?_⟩
  · rw [allocSizes]
    simp only [hk]
    rw [Nat.mod_eq_of_lt (by omega)]
  · have := Nat.two_pow_pos j
    split <;> omega

theorem allocSizes_of_lt {n : Nat} (hlt : 40961 < n) (hn : n < 2 ^ 16) :
    ∃ size, allocSizes n = .ok ⟨size, 0, getNearestEven (expansionShare n)⟩ := by
  have hshare : baseShare n = n * 4 / 5 := Nat.mod_eq_of_lt (by omega)
  have hk : getNearest2Power (if baseShare n = 0 then 1 else baseShare n) = .ok 0 :=
    getNearest2Power_of_lt (by split <;> omega) (by split <;> omega)
  simp only [allocSizes, hk]
  exact ⟨_, rfl⟩

/-- A table that is made fits what is asked of it exactly if its base share is a
power of two that 16 bits hold. -/
theorem allocSizes_fits_iff {n : Nat} (hn : n < 2 ^ 16) :
    (∃ a, allocSizes n = .ok a ∧ a.Fits n) ↔ n ≤ 40961 := by
  constructor
  · rintro ⟨a, halloc, hfits⟩
    by_contra hlt
    obtain ⟨size, hsize⟩ := allocSizes_of_lt (Nat.lt_of_not_le hlt) hn
    have htwo := hfits.two
    rw [hsize] at halloc
    rw [← Except.ok.inj halloc] at htwo
    exact absurd htwo (show ¬2 ≤ 0 by decide)
  · intro hle
    obtain ⟨k, halloc, hk, hshare, hleast⟩ := allocSizes_of_le hle
    have hlow : 2 ^ 1 ≤ 2 ^ k := Nat.pow_le_pow_right (by decide) hk
    have hhigh : 2 ^ k ≤ 2 ^ 15 :=
      Nat.pow_le_pow_right (by decide) (hleast 15 (by decide) (by omega))
    have hexpn := expansion_le hn
    have hmask : sub16 (2 ^ k) 1 = 2 ^ k - 1 := sub16_eq (by omega) (by omega)
    refine ⟨_, halloc, ⟨⟨k, rfl⟩, hlow, hshare, ?_, fun addr => partition_tblRegions ..,
      fun c _ _ _ _ _ => ?_, fun _ _ _ _ _ => ?_⟩⟩
    · show 2 ^ k + getNearestEven (expansionShare n) < 2 ^ 16
      omega
    · rw [hmask]
      exact ⟨bucketOf_pos (by omega), bucketOf_le _ _⟩
    · rw [hmask]
      exact ⟨bucketOf_pos (by omega), bucketOf_le _ _⟩

theorem allocSizes_fits_500 : ∃ a, allocSizes 500 = .ok a ∧ a.Fits 500 :=
  (allocSizes_fits_iff (by decide)).mpr (by decide)

/-- A request with a base share just above 2 to the 15. -/
theorem allocSizes_not_fits_40962 : ¬∃ a, allocSizes 40962 = .ok a ∧ a.Fits 40962 := by
  rintro ⟨a, halloc, hfits⟩
  have hsizes : allocSizes 40962 = .ok ⟨36 * 8192, 0, 8192⟩ := by decide
  have htwo := hfits.two
  rw [hsizes] at halloc
  rw [← Except.ok.inj halloc] at htwo
  exact absurd htwo (by decide)

end Axon7.IpaNat
