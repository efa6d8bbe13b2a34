import Axon7.Lib.StringSearch

/-!
# The search for the TrustZone version

`bm_search` of `recovery_updater.cpp` and the two tables it makes of the pattern. The first
loop of `bm_make_delta2` compares the pattern with its end from `p` on, and takes
`p + 1` for the place where that end begins; so it can give a distance that is greater by one
than the next place where the pattern may be.
-/

namespace Axon7.Recovery

open Axon7.Lib (OccursAt IsFirst MismatchAt Agrees)

/-! ## The source -/

/-- A `size_t` that an `int` takes. -/
def toInt (x : Nat) : Int := (x : Int).bmod (2 ^ 32)

/-- `strncmp`, compared with 0: the bytes after a null byte do not count. -/
def strncmpZero : Nat → List UInt8 → List UInt8 → Bool
  | 0, _, _ => true
  | n + 1, a :: s, b :: t => a == b && (a == 0 || strncmpZero n s t)
  | _, _, _ => false

/-- The loop of `max_suffix_len`, with the turns that `i < p` leaves. -/
def suffixLoop (str : List UInt8) (strLen p : Nat) : Nat → Nat → Nat
  | 0, i => i
  | left + 1, i =>
    if str[p - i]? = str[strLen - 1 - i]? then suffixLoop str strLen p left (i + 1) else i

/-- `max_suffix_len`. -/
def maxSuffixLen (str : List UInt8) (strLen p : Nat) : Nat := suffixLoop str strLen p p 0

variable (str pat : List UInt8)

/-- `bm_make_delta1`. -/
def bmMakeDelta1 : UInt8 → Int :=
  (List.range (pat.length - 1)).foldl
    (fun delta1 i => Function.update delta1 (pat.getD i 0) (toInt (pat.length - 1 - i)))
    fun _ => toInt pat.length

/-- The test of the first loop of `bm_make_delta2`. -/
def isPrefixFrom (p : Nat) : Bool := strncmpZero (pat.length - p) (pat.drop p) pat

/-- The first loop of `bm_make_delta2`, for what is below `p`. -/
def prefixLoop : Nat → Nat → (Nat → Int) → Nat → Int
  | 0, _, delta2 => delta2
  | p + 1, lastPrefix, delta2 =>
    let lastPrefix := if isPrefixFrom pat p then p + 1 else lastPrefix
    prefixLoop p lastPrefix
      (Function.update delta2 p (toInt (lastPrefix + (pat.length - 1 - p))))

/-- A turn of the second loop of `bm_make_delta2`. -/
def suffixTurn (delta2 : Nat → Int) (p : Nat) : Nat → Int :=
  let sufLen := maxSuffixLen pat pat.length p
  if pat[p - sufLen]? ≠ pat[pat.length - 1 - sufLen]? then
    Function.update delta2 (pat.length - 1 - sufLen) (toInt (pat.length - 1 - p + sufLen))
  else delta2

/-- `bm_make_delta2`. -/
def bmMakeDelta2 : Nat → Int :=
  (List.range (pat.length - 1)).foldl (suffixTurn pat)
    (prefixLoop pat pat.length (pat.length - 1) fun _ => 0)

/-- `str[i]`, if it is in the text. -/
def byteAt (i : Int) : Option UInt8 := if 0 ≤ i then str[i.toNat]? else none

/-- The inner loop of `bm_search`, for `j + 1`. -/
def compareBack : Nat → Int → Option (Int × Nat)
  | 0, i => some (i, 0)
  | j + 1, i =>
    match byteAt str i with
    | none => none
    | some c => if some c = pat[j]? then compareBack j (i - 1) else some (i, j + 1)

/-- The outer loop of `bm_search`. There is no answer if the turns do not suffice, a byte
is read that is not in the text, or an `int` overflows. -/
def searchLoop (delta1 : UInt8 → Int) (delta2 : Nat → Int) : Nat → Int → Option (Option Nat)
  | 0, _ => none
  | fuel + 1, i =>
    if i < str.length then
      match compareBack str pat pat.length i with
      | none => none
      | some (i, 0) => some (some (i + 1).toNat)
      | some (i, j + 1) =>
        match byteAt str i with
        | none => none
        | some c =>
          let next := i + max (delta1 c) (delta2 j)
          if next < 2 ^ 31 then searchLoop delta1 delta2 fuel next else none
    else some none

/-- `bm_search`. -/
def bmSearch (fuel : Nat) : Option (Option Nat) :=
  if pat.length = 0 then some (some 0)
  else searchLoop str pat (bmMakeDelta1 pat) (bmMakeDelta2 pat) fuel (pat.length - 1)

/-- The search ends, and its answer is the first position of the pattern. -/
def Finds : Prop := ∃ fuel r, bmSearch str pat fuel = some r ∧ IsFirst str pat r

/-! ## The first table -/

variable {str pat}

theorem toInt_eq {x : Nat} (h : x < 2 ^ 31) : toInt x = x :=
  Int.bmod_eq_of_le (by omega) (by omega)

theorem bmMakeDelta1_le (hlen : pat.length < 2 ^ 31) (hpos : 0 < pat.length) (c : UInt8) :
    ∃ d : Nat, bmMakeDelta1 pat c = d ∧ d ≤ pat.length ∧
      ∀ i < pat.length - 1, pat[i]? = some c → d ≤ pat.length - 1 - i := by
  have hloop : ∀ k ≤ pat.length - 1, ∃ d : Nat,
      (List.range k).foldl
        (fun delta1 i => Function.update delta1 (pat.getD i 0) (toInt (pat.length - 1 - i)))
        (fun _ => toInt pat.length) c = d ∧ d ≤ pat.length ∧
      ∀ i < k, pat[i]? = some c → d ≤ pat.length - 1 - i := by
    intro k hk
    induction k with
    | zero =>
      rw [List.range_zero, List.foldl_nil, toInt_eq hlen]
      exact ⟨pat.length, rfl, Nat.le_refl _, by simp⟩
    | succ k ih =>
      obtain ⟨d, hd, hle, hbefore⟩ := ih (Nat.le_of_succ_le hk)
      rw [List.range_succ, List.foldl_append, List.foldl_cons, List.foldl_nil]
      have hget : pat[k]? = some (pat.getD k 0) := by
        rw [List.getD_eq_getElem?_getD, List.getElem?_eq_getElem (by omega : k < pat.length)]
        rfl
      by_cases hc : c = pat.getD k 0
      · refine ⟨pat.length - 1 - k, ?_, by omega, fun i hi _ => by omega⟩
        rw [hc, Function.update_self, toInt_eq (by omega)]
      · refine ⟨d, ?_, hle, fun i hi hic => ?_⟩
        · rw [Function.update_of_ne hc, hd]
        · rcases Nat.lt_succ_iff_lt_or_eq.mp hi with hlt | rfl
          · exact hbefore i hlt hic
          · exact absurd (Option.some.inj (hic.symm.trans hget)) hc
  exact hloop _ (Nat.le_refl _)

/-! ## The second table -/

theorem strncmpZero_of_eq {n : Nat} {s t : List UInt8}
    (h : ∀ k < n, k < s.length ∧ s[k]? = t[k]?) : strncmpZero n s t = true := by
  induction n generalizing s t with
  | zero => rw [strncmpZero]
  | succ n ih =>
    obtain ⟨hlen, hhead⟩ := h 0 (Nat.succ_pos n)
    cases s with
    | nil => exact absurd hlen (Nat.not_lt_zero 0)
    | cons a s =>
      cases t with
      | nil => cases hhead
      | cons b t =>
        obtain rfl : a = b := Option.some.inj hhead
        have hrest := ih fun k hk => by
          obtain ⟨hlen, heq⟩ := h (k + 1) (Nat.succ_lt_succ hk)
          exact ⟨Nat.lt_of_succ_lt_succ hlen, heq⟩
        simp [strncmpZero, hrest]

theorem isPrefixFrom_of_agrees {j q : Nat} (h : Agrees pat j q) (hj : j < q) :
    isPrefixFrom pat q = true := by
  refine strncmpZero_of_eq fun k hk => ⟨by rw [List.length_drop]; exact hk, ?_⟩
  have hsame := h.suffix (q + k) (by omega) (by omega) (by omega)
  rw [Nat.add_sub_cancel_left] at hsame
  rw [List.getElem?_drop]
  exact hsame.symm

/-- What `last_prefix` is after the turn for `p`. -/
def LastPrefix (pat : List UInt8) (p last : Nat) : Prop :=
  (last = pat.length - 1 ∧ ∀ r, p ≤ r → r < pat.length → isPrefixFrom pat r = false) ∨
    ∃ q, p ≤ q ∧ q < pat.length ∧ isPrefixFrom pat q = true ∧ last = q + 1 ∧
      ∀ r, p ≤ r → r < q → isPrefixFrom pat r = false

theorem LastPrefix.turn {p last : Nat} (h : LastPrefix pat (p + 1) last)
    (hp : p < pat.length) :
    LastPrefix pat p (if isPrefixFrom pat p then p + 1 else last) := by
  by_cases hpre : isPrefixFrom pat p = true
  · rw [if_pos hpre]
    exact .inr ⟨p, Nat.le_refl p, hp, hpre, rfl, fun r hr hlt => by omega⟩
  · rw [if_neg hpre]
    have hbelow : ∀ r, p ≤ r → (p + 1 ≤ r → isPrefixFrom pat r = false) →
        isPrefixFrom pat r = false := by
      intro r hr hrest
      rcases Nat.eq_or_lt_of_le hr with rfl | hlt
      · exact Bool.eq_false_iff.mpr hpre
      · exact hrest hlt
    rcases h with ⟨rfl, hnone⟩ | ⟨q, hq, hlen, hyes, rfl, hnone⟩
    · exact .inl ⟨rfl, fun r hr hlt => hbelow r hr fun hr => hnone r hr hlt⟩
    · exact .inr ⟨q, by omega, hlen, hyes, rfl,
        fun r hr hlt => hbelow r hr fun hr => hnone r hr hlt⟩

theorem prefixLoop_eq (p last : Nat) (delta2 : Nat → Int) (hp : p ≤ pat.length)
    (h : LastPrefix pat p last) (j : Nat) :
    (p ≤ j → prefixLoop pat p last delta2 j = delta2 j) ∧
      (j < p → ∃ last', LastPrefix pat j last' ∧
        prefixLoop pat p last delta2 j = toInt (last' + (pat.length - 1 - j))) := by
  induction p generalizing last delta2 with
  | zero => exact ⟨fun _ => rfl, fun hj => absurd hj (Nat.not_lt_zero j)⟩
  | succ p ih =>
    have hturn := h.turn hp
    obtain ⟨habove, hbelow⟩ := ih _ (Function.update delta2 p (toInt
      ((if isPrefixFrom pat p then p + 1 else last) + (pat.length - 1 - p))))
      (Nat.le_of_succ_le hp) hturn
    rw [prefixLoop]
    refine ⟨fun hj => ?_, fun hj => ?_⟩
    · rw [habove (by omega), Function.update_of_ne (by omega)]
    · rcases Nat.lt_succ_iff_lt_or_eq.mp hj with hlt | rfl
      · exact hbelow hlt
      · exact ⟨_, hturn, by rw [habove (Nat.le_refl j), Function.update_self]⟩

theorem suffixLoop_spec (p : Nat) (left i : Nat) (hp : i + left = p)
    (hsame : ∀ k < i, pat[p - k]? = pat[pat.length - 1 - k]?) :
    suffixLoop pat pat.length p left i ≤ p ∧
      (∀ k < suffixLoop pat pat.length p left i, pat[p - k]? = pat[pat.length - 1 - k]?) ∧
      (suffixLoop pat pat.length p left i = p ∨
        pat[p - suffixLoop pat pat.length p left i]? ≠
          pat[pat.length - 1 - suffixLoop pat pat.length p left i]?) := by
  induction left generalizing i with
  | zero =>
    rw [suffixLoop]
    exact ⟨by omega, hsame, .inl (by omega)⟩
  | succ left ih =>
    rw [suffixLoop]
    by_cases heq : pat[p - i]? = pat[pat.length - 1 - i]?
    · rw [if_pos heq]
      refine ih (i + 1) (by omega) fun k hk => ?_
      rcases Nat.lt_succ_iff_lt_or_eq.mp hk with hlt | rfl
      · exact hsame k hlt
      · exact heq
    · rw [if_neg heq]
      exact ⟨by omega, hsame, .inr heq⟩

theorem maxSuffixLen_spec (pat : List UInt8) (p : Nat) :
    maxSuffixLen pat pat.length p ≤ p ∧
      (∀ k < maxSuffixLen pat pat.length p, pat[p - k]? = pat[pat.length - 1 - k]?) ∧
      (maxSuffixLen pat pat.length p = p ∨
        pat[p - maxSuffixLen pat pat.length p]? ≠
          pat[pat.length - 1 - maxSuffixLen pat pat.length p]?) :=
  suffixLoop_spec p p 0 (Nat.zero_add p) (by simp)

theorem suffixTurn_eq {p j : Nat} (hp : p < pat.length - 1) (hj : j < pat.length)
    (hlen : 2 * pat.length ≤ 2 ^ 31) (delta2 : Nat → Int) :
    (pat.length - 1 - p ≤ j ∧ Agrees pat j (pat.length - 1 - p) ∧ suffixTurn pat delta2 p j =
        ((pat.length - 1 - p + (pat.length - 1 - j) : Nat) : Int)) ∨
      (¬ (pat.length - 1 - p ≤ j ∧ Agrees pat j (pat.length - 1 - p)) ∧
        suffixTurn pat delta2 p j = delta2 j) := by
  obtain ⟨hle, hsame, hstop⟩ := maxSuffixLen_spec pat p
  rw [suffixTurn]
  generalize maxSuffixLen pat pat.length p = sufLen at hle hsame hstop ⊢
  -- a shift that agrees with a mismatch at `j` is one whose longest suffix ends there
  have hlong : pat.length - 1 - p ≤ j → Agrees pat j (pat.length - 1 - p) →
      j = pat.length - 1 - sufLen ∧
        pat[p - sufLen]? ≠ pat[pat.length - 1 - sufLen]? := by
    intro hshift hagrees
    have hdiff : pat[p - (pat.length - 1 - j)]? ≠ pat[pat.length - 1 - (pat.length - 1 - j)]? := by
      have hne := hagrees.differs hshift
      rwa [show j - (pat.length - 1 - p) = p - (pat.length - 1 - j) by omega,
        show pat[j]? = pat[pat.length - 1 - (pat.length - 1 - j)]? by congr 1; omega] at hne
    rcases Nat.lt_trichotomy sufLen (pat.length - 1 - j) with hlt | heq | hgt
    · rcases hstop with rfl | hne
      · omega
      · have heq := hagrees.suffix (pat.length - 1 - sufLen) (by omega) (by omega) (by omega)
        rw [show pat.length - 1 - sufLen - (pat.length - 1 - p) = p - sufLen by omega] at heq
        exact absurd heq hne
    · subst heq
      exact ⟨by omega, hdiff⟩
    · exact absurd (hsame _ hgt) hdiff
  by_cases hw : pat[p - sufLen]? ≠ pat[pat.length - 1 - sufLen]?
  · rw [if_pos hw]
    by_cases hj' : j = pat.length - 1 - sufLen
    · subst hj'
      refine .inl ⟨by omega, ⟨fun l hjl hl ht => ?_, fun _ => ?_⟩, ?_⟩
      · have heq := hsame (pat.length - 1 - l) (by omega)
        rwa [show p - (pat.length - 1 - l) = l - (pat.length - 1 - p) by omega,
          show pat.length - 1 - (pat.length - 1 - l) = l by omega] at heq
      · rwa [show pat.length - 1 - sufLen - (pat.length - 1 - p) = p - sufLen by omega]
      · rw [Function.update_self, toInt_eq (by omega)]
        congr 1
        omega
    · rw [Function.update_of_ne hj']
      exact .inr ⟨fun h => hj' (hlong h.1 h.2).1, rfl⟩
  · rw [if_neg hw]
    exact .inr ⟨fun h => hw (hlong h.1 h.2).2, rfl⟩

theorem bmMakeDelta2_eq {j : Nat} (hj : j < pat.length) (hlen : 2 * pat.length ≤ 2 ^ 31) :
    ∃ d : Nat, bmMakeDelta2 pat j = ((d + (pat.length - 1 - j) : Nat) : Int) ∧
      ((0 < d ∧ d ≤ j ∧ Agrees pat j d ∧ ∀ t, 0 < t → t < d → ¬ Agrees pat j t) ∨
        ((∀ t, 0 < t → t ≤ j → ¬ Agrees pat j t) ∧ LastPrefix pat j d)) := by
  obtain ⟨last, hlast, hfirst⟩ := (prefixLoop_eq pat.length (pat.length - 1) (fun _ => 0)
    (Nat.le_refl _) (.inl ⟨rfl, fun r hr hlt => by omega⟩) j).2 hj
  have hfits : last + (pat.length - 1 - j) < 2 ^ 31 := by
    rcases hlast with ⟨rfl, -⟩ | ⟨q, -, hq, -, rfl, -⟩ <;> omega
  rw [toInt_eq hfits] at hfirst
  -- after the turns up to `k` the shifts of these turns are taken into account
  have hloop : ∀ k ≤ pat.length - 1, ∃ d : Nat,
      (List.range k).foldl (suffixTurn pat)
        (prefixLoop pat pat.length (pat.length - 1) fun _ => 0) j =
          ((d + (pat.length - 1 - j) : Nat) : Int) ∧
      ((0 < d ∧ d ≤ j ∧ Agrees pat j d ∧
          ∀ t, pat.length - 1 - k < t → t < d → ¬ Agrees pat j t) ∨
        ((∀ t, pat.length - 1 - k < t → t ≤ j → ¬ Agrees pat j t) ∧ LastPrefix pat j d)) := by
    intro k hk
    induction k with
    | zero => exact ⟨last, hfirst, .inr ⟨fun t ht htj => by omega, hlast⟩⟩
    | succ k ih =>
      obtain ⟨d, hd, hcases⟩ := ih (Nat.le_of_succ_le hk)
      rw [List.range_succ, List.foldl_append, List.foldl_cons, List.foldl_nil]
      rcases suffixTurn_eq (p := k) (by omega) hj hlen ((List.range k).foldl (suffixTurn pat)
        (prefixLoop pat pat.length (pat.length - 1) fun _ => 0)) with
        ⟨hshift, hagrees, hnew⟩ | ⟨hnot, hold⟩
      · exact ⟨_, hnew, .inl ⟨by omega, hshift, hagrees, fun t ht hlt => by omega⟩⟩
      · refine ⟨d, hold.trans hd, ?_⟩
        have hmore : ∀ t, pat.length - 1 - (k + 1) < t → t ≤ j →
            (pat.length - 1 - k < t → ¬ Agrees pat j t) → ¬ Agrees pat j t := by
          intro t ht htj hrest
          by_cases heq : t = pat.length - 1 - k
          · subst heq
            exact fun h => hnot ⟨htj, h⟩
          · exact hrest (by omega)
        rcases hcases with ⟨hpos, hdj, hagrees, hleast⟩ | ⟨hnone, hlast⟩
        · exact .inl ⟨hpos, hdj, hagrees, fun t ht hlt =>
            hmore t ht (by omega) fun ht => hleast t ht hlt⟩
        · exact .inr ⟨fun t ht htj => hmore t ht htj fun ht => hnone t ht htj, hlast⟩
  obtain ⟨d, hd, hcases⟩ := hloop _ (Nat.le_refl _)
  refine ⟨d, hd, ?_⟩
  simpa only [Nat.sub_self] using hcases

end Axon7.Recovery
