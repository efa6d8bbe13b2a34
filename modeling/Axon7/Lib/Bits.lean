import Mathlib

/-!
# Bits

The numbers of the bits that are set in a word, in ascending order, as a loop finds them that
looks at the lowest bit and shifts; and the word with one bit set, as C computes it by a shift
of an `int`, which is undefined when it goes beyond the width.
-/

namespace Axon7.Lib

/-- `1 << n`. What a shift by less than nothing or by the width or more gives is left open; one
by 31 gives the sign bit. -/
def shiftOne (undefined : ℤ → BitVec 32) (n : ℤ) : BitVec 32 :=
  if 0 ≤ n ∧ n < 32 then BitVec.twoPow 32 n.toNat else undefined n

theorem getLsbD_shiftOne (undefined : ℤ → BitVec 32) {n : ℕ} (hn : n < 32) (i : ℕ) :
    (shiftOne undefined n).getLsbD i = decide (n = i) := by
  rw [shiftOne, if_pos (by omega), Int.toNat_natCast, BitVec.getLsbD_twoPow]
  simp [hn]

theorem and_ne_zero_iff {w : ℕ} {x y : BitVec w} :
    x &&& y ≠ 0 ↔ ∃ i, x.getLsbD i = true ∧ y.getLsbD i = true := by
  constructor
  · intro h
    by_contra hnone
    push Not at hnone
    refine h (BitVec.eq_of_getLsbD_eq fun i _ => ?_)
    have := hnone i
    rw [BitVec.getLsbD_and]
    simp_all
  · intro h hzero
    obtain ⟨i, hx, hy⟩ := h
    have hi := congrArg (·.getLsbD i) hzero
    simp [hx, hy] at hi

theorem getLsbD_foldl_or {α : Type*} {w : ℕ} (f : α → BitVec w) (as : List α)
    (x : BitVec w) (i : ℕ) :
    (as.foldl (fun x a => x ||| f a) x).getLsbD i = true ↔
      x.getLsbD i = true ∨ ∃ a ∈ as, (f a).getLsbD i = true := by
  induction as generalizing x with
  | nil => simp
  | cons a as ih => simp [ih, or_assoc]

theorem getLsbD_signExtend_shiftOne (undefined : ℤ → BitVec 32) {n : ℕ} (hn : n < 32) (i : ℕ) :
    ((shiftOne undefined n).signExtend 64).getLsbD i =
      (decide (i < 64) && (decide (n = i) || decide (n = 31 ∧ 31 ≤ i))) := by
  have hmsb : (shiftOne undefined n).msb = decide (n = 31) := by
    rw [BitVec.msb_eq_getLsbD_last, getLsbD_shiftOne undefined hn]
  rw [BitVec.getLsbD_signExtend, hmsb]
  split
  · rw [getLsbD_shiftOne undefined hn]
    congr 1
    rw [← Bool.decide_or]
    refine decide_eq_decide.2 ?_
    omega
  · congr 1
    rw [← Bool.decide_or]
    refine decide_eq_decide.2 ?_
    omega

/-- The loop that looks at the lowest bit and shifts, from the bit number `i` on. It ends when
nothing is left. -/
def scanBits {w : ℕ} : ℕ → ℕ → BitVec w → List ℕ
  | 0, _, _ => []
  | left + 1, i, mask =>
    if mask = 0 then []
    else if mask.getLsbD 0 then i :: scanBits left (i + 1) (mask >>> 1)
    else scanBits left (i + 1) (mask >>> 1)

/-- The bits that are set, in ascending order. -/
def setBits {w : ℕ} (mask : BitVec w) : List ℕ := (List.range w).filter mask.getLsbD

section

variable {w : ℕ} {mask : BitVec w}

theorem mem_setBits {n : ℕ} : n ∈ setBits mask ↔ mask.getLsbD n = true := by
  rw [setBits, List.mem_filter, List.mem_range]
  exact ⟨And.right, fun h => ⟨BitVec.lt_of_getLsbD h, h⟩⟩

theorem sortedLT_setBits : (setBits mask).SortedLT :=
  (List.pairwise_lt_range.filter _).sortedLT

theorem scanBits_eq (left i : ℕ) (hleft : w ≤ i + left) (word : BitVec w)
    (hword : ∀ n, mask.getLsbD n = word.getLsbD (i + n)) :
    scanBits left i mask = (List.range' i left).filter word.getLsbD := by
  induction left generalizing i mask with
  | zero => rfl
  | succ left ih =>
    have hnext : scanBits left (i + 1) (mask >>> 1) =
        (List.range' (i + 1) left).filter word.getLsbD := by
      refine ih (i + 1) (by omega) fun n => ?_
      rw [BitVec.getLsbD_ushiftRight, hword]
      congr 1
      omega
    have hlowest : mask.getLsbD 0 = word.getLsbD i := by rw [hword 0, Nat.add_zero]
    rw [scanBits, List.range'_succ, List.filter_cons]
    split
    next hzero =>
      have hnone : ∀ n ≥ i, word.getLsbD n = false := by
        intro n hn
        have := hword (n - i)
        rw [hzero, Nat.add_sub_cancel' hn] at this
        exact this.symm.trans BitVec.getLsbD_zero
      rw [if_neg (by simp [hnone i le_rfl])]
      symm
      rw [List.filter_eq_nil_iff]
      intro n hn
      rw [hnone n (by have := (List.mem_range'_1.1 hn).1; omega)]
      exact Bool.false_ne_true
    next =>
      rw [hlowest, hnext]

theorem scanBits_eq_setBits : scanBits w 0 mask = setBits mask := by
  rw [scanBits_eq w 0 (by omega) mask (fun n => by rw [Nat.zero_add]), setBits,
    List.range_eq_range']

theorem scanBits_succ (left i : ℕ) (mask : BitVec w) :
    scanBits left (i + 1) mask = (scanBits left i mask).map (· + 1) := by
  induction left generalizing i mask with
  | zero => rfl
  | succ left ih =>
    rw [scanBits, scanBits, ih]
    split
    · rfl
    · split <;> rfl

theorem mem_take_of_lt_add {l : List ℕ} (hl : l.SortedLT) {a n k : ℕ} (ha : ∀ m ∈ l, a ≤ m)
    (hn : n ∈ l) (hlt : n < a + k) : n ∈ l.take k := by
  induction l generalizing a k with
  | nil => exact absurd hn List.not_mem_nil
  | cons m l ih =>
    obtain ⟨hm, hrest⟩ := List.pairwise_cons.1 hl.pairwise
    have ham : a ≤ m := ha m List.mem_cons_self
    rcases List.mem_cons.1 hn with rfl | hn
    · obtain ⟨k, rfl⟩ := Nat.exists_eq_succ_of_ne_zero (show k ≠ 0 by omega)
      exact List.mem_cons_self
    · have hmn := hm n hn
      obtain ⟨k, rfl⟩ := Nat.exists_eq_succ_of_ne_zero (show k ≠ 0 by omega)
      refine List.mem_cons_of_mem _ (ih hrest.sortedLT (a := a + 1) (fun j hj => ?_) hn (by omega))
      have := hm j hj
      omega

theorem mem_take_of_lt {l : List ℕ} (hl : l.SortedLT) {n k : ℕ} (hn : n ∈ l) (hlt : n < k) :
    n ∈ l.take k :=
  mem_take_of_lt_add hl (fun m _ => Nat.zero_le m) hn (by omega)

theorem take_eq_range' {l : List ℕ} (hl : l.SortedLT) {a n : ℕ} (ha : ∀ m ∈ l, a ≤ m)
    (h : ∀ m, a ≤ m → m < a + n → m ∈ l) : l.take n = List.range' a n := by
  induction n generalizing l a with
  | zero => rfl
  | succ n ih =>
    have hmem : a ∈ l := h a le_rfl (by omega)
    obtain _ | ⟨m, l⟩ := l
    · exact absurd hmem List.not_mem_nil
    obtain ⟨hm, hrest⟩ := List.pairwise_cons.1 hl.pairwise
    have ham : a = m := by
      rcases List.mem_cons.1 hmem with rfl | hmem
      · rfl
      · have := hm a hmem
        have := ha m List.mem_cons_self
        omega
    subst ham
    rw [List.take_succ_cons, List.range'_succ]
    congr 1
    refine ih hrest.sortedLT (fun j hj => hm j hj) fun j hj hlt => ?_
    rcases List.mem_cons.1 (h j (by omega) (by omega)) with rfl | hmem
    · omega
    · exact hmem

end

end Axon7.Lib

/-!
# One's complement sums

Words of `w` bits added with the carry out of them added back. The sum of a list
of words is what the words come to modulo `2 ^ w - 1`, and is 0 only if they all
are. These two facts tell it: the order of the words has no part in it, and words
that are replaced change the sum by the difference.
-/

namespace Axon7.Lib

variable {w : Nat}

/-- Two words added, with the carry added back. -/
def onesAdd (w a b : Nat) : Nat :=
  if 2 ^ w ≤ a + b then (a + b) % 2 ^ w + 1 else a + b

/-- The sum of the words. -/
def onesSum (w : Nat) (words : List Nat) : Nat := words.foldl (onesAdd w) 0

section Add

variable {a b : Nat}

theorem onesAdd_of_carry (ha : a < 2 ^ w) (hb : b < 2 ^ w) (h : 2 ^ w ≤ a + b) :
    onesAdd w a b = a + b - 2 ^ w + 1 := by
  have hmod : (a + b) % 2 ^ w = a + b - 2 ^ w := by
    rw [Nat.mod_eq_sub_mod h, Nat.mod_eq_of_lt (by omega)]
  rw [onesAdd, if_pos h, hmod]

theorem onesAdd_lt (ha : a < 2 ^ w) (hb : b < 2 ^ w) : onesAdd w a b < 2 ^ w := by
  by_cases h : 2 ^ w ≤ a + b
  · rw [onesAdd_of_carry ha hb h]
    omega
  · rw [onesAdd, if_neg h]
    omega

theorem onesAdd_eq_zero : onesAdd w a b = 0 ↔ a = 0 ∧ b = 0 := by
  unfold onesAdd
  split
  · next h =>
      have := Nat.two_pow_pos w
      omega
  · omega

theorem onesAdd_modEq (ha : a < 2 ^ w) (hb : b < 2 ^ w) :
    (onesAdd w a b : Int) ≡ a + b [ZMOD 2 ^ w - 1] := by
  by_cases h : 2 ^ w ≤ a + b
  · rw [onesAdd_of_carry ha hb h, Int.modEq_iff_dvd]
    refine ⟨1, ?_⟩
    push_cast [h]
    ring
  · rw [onesAdd, if_neg h, Nat.cast_add]

end Add

section Sum

variable {words : List Nat}

theorem onesSum_cons {a : Nat} (ha : a < 2 ^ w) :
    onesSum w (a :: words) = words.foldl (onesAdd w) a := by
  have hno : ¬2 ^ w ≤ 0 + a := by omega
  rw [onesSum, List.foldl_cons, onesAdd, if_neg hno, Nat.zero_add]

theorem foldl_onesAdd (h : ∀ x ∈ words, x < 2 ^ w) {a : Nat} (ha : a < 2 ^ w) :
    words.foldl (onesAdd w) a < 2 ^ w ∧
      ((words.foldl (onesAdd w) a : Nat) : Int) ≡ a + words.sum [ZMOD 2 ^ w - 1] ∧
      (words.foldl (onesAdd w) a = 0 ↔ a = 0 ∧ ∀ x ∈ words, x = 0) := by
  induction words generalizing a with
  | nil => simp [ha]
  | cons b words ih =>
    obtain ⟨hb, hwords⟩ := List.forall_mem_cons.mp h
    obtain ⟨hlt, hmod, hzero⟩ := ih hwords (onesAdd_lt ha hb)
    refine ⟨hlt, ?_, ?_⟩
    · rw [List.foldl_cons, List.sum_cons, Nat.cast_add, ← add_assoc]
      exact hmod.trans ((onesAdd_modEq ha hb).add_right _)
    · rw [List.foldl_cons, hzero, onesAdd_eq_zero, List.forall_mem_cons, and_assoc]

theorem onesSum_lt (h : ∀ x ∈ words, x < 2 ^ w) : onesSum w words < 2 ^ w :=
  (foldl_onesAdd h (Nat.two_pow_pos w)).1

theorem onesSum_modEq (h : ∀ x ∈ words, x < 2 ^ w) :
    (onesSum w words : Int) ≡ words.sum [ZMOD 2 ^ w - 1] := by
  have hmod := (foldl_onesAdd h (Nat.two_pow_pos w)).2.1
  rwa [Nat.cast_zero, zero_add] at hmod

theorem onesSum_eq_zero (h : ∀ x ∈ words, x < 2 ^ w) :
    onesSum w words = 0 ↔ ∀ x ∈ words, x = 0 := by
  rw [onesSum, (foldl_onesAdd h (Nat.two_pow_pos w)).2.2]
  exact and_iff_right rfl

end Sum

theorem eq_of_modEq {a b : Nat} (ha : a < 2 ^ w) (hb : b < 2 ^ w) (ha0 : a ≠ 0)
    (hb0 : b ≠ 0) (h : (a : Int) ≡ b [ZMOD 2 ^ w - 1]) : a = b := by
  have hpow : ((2 ^ w : Nat) : Int) = 2 ^ w := by push_cast; rfl
  have hzero : (b - a : Int) = 0 :=
    Int.eq_zero_of_abs_lt_dvd (Int.modEq_iff_dvd.mp h) (by
      rw [abs_lt, ← hpow]
      omega)
  omega

theorem onesAdd_onesSum {words words' : List Nat} {d : Nat}
    (h : ∀ x ∈ words, x < 2 ^ w) (h' : ∀ x ∈ words', x < 2 ^ w) (hd : d < 2 ^ w)
    (hdiff : (d : Int) ≡ words'.sum - words.sum [ZMOD 2 ^ w - 1])
    (hne : ∃ x ∈ words, x ≠ 0) (hne' : ∃ x ∈ words', x ≠ 0) :
    onesAdd w (onesSum w words) d = onesSum w words' := by
  have hlt := onesSum_lt h
  refine eq_of_modEq (onesAdd_lt hlt hd) (onesSum_lt h') ?_ ?_ ?_
  · rw [Ne, onesAdd_eq_zero, onesSum_eq_zero h]
    obtain ⟨x, hx, hx0⟩ := hne
    exact fun hzero => hx0 (hzero.1 x hx)
  · rw [Ne, onesSum_eq_zero h']
    obtain ⟨x, hx, hx0⟩ := hne'
    exact fun hzero => hx0 (hzero x hx)
  · calc (onesAdd w (onesSum w words) d : Int)
        ≡ onesSum w words + d [ZMOD 2 ^ w - 1] := onesAdd_modEq hlt hd
      _ ≡ words.sum + (words'.sum - words.sum) [ZMOD 2 ^ w - 1] :=
          (onesSum_modEq h).add hdiff
      _ = words'.sum := by ring
      _ ≡ onesSum w words' [ZMOD 2 ^ w - 1] := (onesSum_modEq h').symm

end Axon7.Lib
