import Axon7.Recovery.BoyerMoore

/-!
# When the search finds the first occurrence

The window moves by the greater of the distances of the two tables. That of the first
leaves out nothing; that of the second leaves out one place where the pattern can be if the
next such place is the least one that `isPrefixFrom` knows of, and not that of the mismatch
itself.
-/

namespace Axon7.Recovery

open Axon7.Lib (OccursAt IsFirst MismatchAt Agrees)

variable {str pat : List UInt8}

/-- After a mismatch at `j` the pattern can be at a shift of `q`, and not before, but the second
table has the next shift. -/
structure Overshot (pat : List UInt8) (j q : Nat) : Prop where
  lt : j < q
  lt_length : q < pat.length
  agrees : Agrees pat j q
  least : ∀ t, 0 < t → t ≤ j → ¬ Agrees pat j t
  noPrefix : ∀ r, j ≤ r → r < q → isPrefixFrom pat r = false

/-! ## A turn -/

theorem byteAt_nat (i : Nat) : byteAt str i = str[i]? := by
  rw [byteAt, if_pos (Int.natCast_nonneg i), Int.toNat_natCast]

theorem compareBack_eq {s : Nat} (hin : s + pat.length ≤ str.length) (k : Nat)
    (hk : k ≤ pat.length) (h : ∀ l, k ≤ l → l < pat.length → str[s + l]? = pat[l]?) :
    (OccursAt str pat s ∧ compareBack str pat k (s + k - 1) = some ((s : Int) - 1, 0)) ∨
      ∃ j, MismatchAt str pat s j ∧
        compareBack str pat k (s + k - 1) = some ((s : Int) + j, j + 1) := by
  induction k with
  | zero =>
    refine .inl ⟨⟨hin, fun l hl => h l (Nat.zero_le l) hl⟩, ?_⟩
    rw [compareBack, show (s : Int) + (0 : Nat) - 1 = s - 1 by omega]
  | succ k ih =>
    have hplace : ((s : Int) + (k + 1 : Nat) - 1) = ((s + k : Nat) : Int) := by omega
    obtain ⟨c, hc⟩ : ∃ c, str[s + k]? = some c :=
      ⟨_, List.getElem?_eq_getElem (by omega : s + k < str.length)⟩
    rw [compareBack, hplace, byteAt_nat, hc]
    dsimp only
    by_cases heq : some c = pat[k]?
    · rw [if_pos heq, show ((s + k : Nat) : Int) - 1 = (s : Int) + k - 1 by omega]
      refine ih (Nat.le_of_succ_le hk) fun l hkl hl => ?_
      rcases Nat.eq_or_lt_of_le hkl with rfl | hlt
      · exact hc.trans heq
      · exact h l hlt hl
    · rw [if_neg heq]
      exact .inr ⟨k, ⟨hk, fun l hkl hl => h l hkl hl, fun h => heq (hc.symm.trans h)⟩,
        by rw [Int.natCast_add]⟩

/-- The outer loop with the tables of the pattern, for the window that starts at `s`. -/
def searchFrom (str pat : List UInt8) (fuel s : Nat) : Option (Option Nat) :=
  searchLoop str pat (bmMakeDelta1 pat) (bmMakeDelta2 pat) fuel ((s : Int) + pat.length - 1)

theorem searchFrom_end {fuel s : Nat} (hend : str.length < s + pat.length) :
    searchFrom str pat (fuel + 1) s = some none := by
  rw [searchFrom, searchLoop, if_neg (by omega)]

theorem searchFrom_found {fuel s : Nat} (h : OccursAt str pat s) :
    searchFrom str pat (fuel + 1) s = some (some s) := by
  have hin := h.1
  rcases compareBack_eq hin pat.length (Nat.le_refl _) (fun l hl hlt => by omega) with
    ⟨-, hback⟩ | ⟨j, hmis, -⟩
  · rw [searchFrom, searchLoop, if_pos (by omega), hback]
    dsimp only
    rw [show ((s : Int) - 1 + 1).toNat = s by omega]
  · exact absurd h hmis.not_occursAt

theorem searchFrom_mismatch (fuel : Nat) {s j : Nat} (h : MismatchAt str pat s j)
    (hin : s + pat.length ≤ str.length) (hfit : str.length + pat.length ≤ 2 ^ 31) :
    ∃ d d₁ d₂ : Nat, ∃ c, str[s + j]? = some c ∧ bmMakeDelta1 pat c = d₁ ∧
      bmMakeDelta2 pat j = ((d₂ + (pat.length - 1 - j) : Nat) : Int) ∧
      0 < d ∧ d + (pat.length - 1 - j) = max d₁ (d₂ + (pat.length - 1 - j)) ∧
      searchFrom str pat (fuel + 1) s = searchFrom str pat fuel (s + d) := by
  have hj := h.lt
  obtain ⟨c, hc⟩ : ∃ c, str[s + j]? = some c :=
    ⟨_, List.getElem?_eq_getElem (by omega : s + j < str.length)⟩
  obtain ⟨d₁, hd₁, hle₁, -⟩ := bmMakeDelta1_le (by omega) (by omega : 0 < pat.length) c
  obtain ⟨d₂, hd₂, hcases⟩ := bmMakeDelta2_eq hj (by omega)
  have hpos : 0 < d₂ := by
    rcases hcases with ⟨hpos, -⟩ | ⟨-, ⟨rfl, hnone⟩ | ⟨q, -, -, -, rfl, -⟩⟩
    · exact hpos
    · -- a pattern of one byte begins with its end
      by_contra hzero
      have hall : isPrefixFrom pat 0 = true :=
        strncmpZero_of_eq fun k hk => ⟨by rw [List.drop_zero]; omega, by rw [List.drop_zero]⟩
      rw [hnone 0 (by omega) (by omega)] at hall
      cases hall
    · exact Nat.succ_pos q
  have hle₂ : d₂ ≤ pat.length := by
    rcases hcases with ⟨-, hle, -⟩ | ⟨-, ⟨rfl, -⟩ | ⟨q, -, hq, -, rfl, -⟩⟩ <;> omega
  refine ⟨max d₁ (d₂ + (pat.length - 1 - j)) - (pat.length - 1 - j), d₁, d₂, c, hc, hd₁, hd₂,
    by omega, by omega, ?_⟩
  rcases compareBack_eq hin pat.length (Nat.le_refl _) (fun l hl hlt => by omega) with
    ⟨hoccurs, -⟩ | ⟨j', hmis, hback⟩
  · exact absurd hoccurs h.not_occursAt
  obtain rfl : j' = j := by
    rcases Nat.lt_trichotomy j' j with hlt | heq | hgt
    · exact absurd (hmis.suffix j hlt hj) h.differs
    · exact heq
    · exact absurd (h.suffix j' hgt hmis.lt) hmis.differs
  have hread : byteAt str ((s : Int) + j') = some c := by
    rw [show (s : Int) + j' = ((s + j' : Nat) : Int) by omega, byteAt_nat, hc]
  rw [searchFrom, searchLoop, if_pos (by omega), hback]
  dsimp only
  rw [hread]
  dsimp only
  rw [hd₁, hd₂, if_pos (by omega), searchFrom]
  congr 1
  omega

/-! ## The search -/

theorem searchFrom_isFirst (hpos : 0 < pat.length)
    (hfit : str.length + pat.length ≤ 2 ^ 31)
    (hgood : ∀ j q, Overshot pat j q → str.length < pat.length + q) (fuel s : Nat)
    (hfuel : 0 < fuel) (hmore : str.length < s + fuel)
    (hclear : ∀ k < s, ¬ OccursAt str pat k) :
    ∃ r, searchFrom str pat fuel s = some r ∧ IsFirst str pat r := by
  induction fuel generalizing s with
  | zero => exact absurd hfuel (Nat.lt_irrefl 0)
  | succ fuel ih =>
    by_cases hin : s + pat.length ≤ str.length
    swap
    · refine ⟨none, searchFrom_end (by omega), fun k hk => ?_⟩
      exact hclear k (by have := hk.1; omega) hk
    rcases compareBack_eq hin pat.length (Nat.le_refl _) (fun l hl hlt => by omega) with
      ⟨hoccurs, -⟩ | ⟨j, hmis, -⟩
    · exact ⟨some s, searchFrom_found hoccurs, hoccurs, hclear⟩
    have hj := hmis.lt
    obtain ⟨d, d₁, d₂, c, hc, hd₁, hd₂, hd, hmax, hturn⟩ :=
      searchFrom_mismatch fuel hmis hin hfit
    rw [hturn]
    refine ih (s + d) (by omega) (by omega) (Axon7.Lib.skip hclear hmis.not_occursAt ?_)
    intro t ht htd hoccurs
    have hagrees := hmis.agrees hoccurs
    rcases Nat.lt_or_ge t (d₁ - (pat.length - 1 - j)) with hfirst | hsecond
    · obtain ⟨d₁', hd₁', hle, hbyte⟩ := bmMakeDelta1_le (by omega) hpos c
      obtain rfl : d₁' = d₁ := by rw [hd₁] at hd₁'; omega
      rcases Nat.lt_or_ge j t with hjt | htj
      · omega
      · have hplace := hbyte (j - t) (by omega) (by rw [← hoccurs.getElem? hj htj, hc])
        omega
    · obtain ⟨d₂', hd₂', hcases⟩ := bmMakeDelta2_eq hj (by omega)
      obtain rfl : d₂' = d₂ := by rw [hd₂] at hd₂'; omega
      have htd₂ : t < d₂' := by omega
      rcases hcases with ⟨-, -, -, hleast⟩ | ⟨hnone, hlast⟩
      · exact hleast t ht htd₂ hagrees
      have hjt : j < t := Nat.lt_of_not_le fun hle => hnone t ht hle hagrees
      have hprefix := isPrefixFrom_of_agrees hagrees hjt
      rcases hlast with ⟨rfl, hno⟩ | ⟨q, hq, hqlen, -, rfl, hno⟩
      · rw [hno t (Nat.le_of_lt hjt) (by omega)] at hprefix
        cases hprefix
      rcases Nat.lt_succ_iff_lt_or_eq.mp htd₂ with hlt | rfl
      · rw [hno t (Nat.le_of_lt hjt) hlt] at hprefix
        cases hprefix
      · have hlong := hgood j t ⟨hjt, hqlen, hagrees, hnone, hno⟩
        have := hoccurs.1
        omega

theorem le_of_searchFrom (hfit : str.length + pat.length ≤ 2 ^ 31) (fuel s k : Nat)
    (h : searchFrom str pat fuel s = some (some k)) : s ≤ k := by
  induction fuel generalizing s with
  | zero => cases h
  | succ fuel ih =>
    by_cases hin : s + pat.length ≤ str.length
    swap
    · rw [searchFrom_end (by omega)] at h
      cases h
    rcases compareBack_eq hin pat.length (Nat.le_refl _) (fun l hl hlt => by omega) with
      ⟨hoccurs, -⟩ | ⟨j, hmis, -⟩
    · rw [searchFrom_found hoccurs] at h
      cases h
      exact Nat.le_refl _
    · obtain ⟨d, -, -, -, -, -, -, -, -, hturn⟩ := searchFrom_mismatch fuel hmis hin hfit
      rw [hturn] at h
      exact Nat.le_of_add_right_le (ih _ h)

theorem bmSearch_eq (hpos : 0 < pat.length) (fuel : Nat) :
    bmSearch str pat fuel = searchFrom str pat fuel 0 := by
  rw [bmSearch, if_neg (by omega), searchFrom,
    show ((0 : Nat) : Int) + pat.length - 1 = pat.length - 1 by omega]

theorem Overshot.exists_missed {j q n : Nat} (h : Overshot pat j q) (hn : pat.length + q ≤ n)
    (hfit : n + pat.length ≤ 2 ^ 31) : ∃ str, str.length = n ∧ ¬ Finds str pat := by
  have hj : j < pat.length := Nat.lt_trans h.lt h.lt_length
  have hother : some (pat[j] + 1) ≠ pat[j]? := by
    rw [List.getElem?_eq_getElem hj]
    intro heq
    have hsame : pat[j] + 1 = pat[j] := Option.some.inj heq
    simp at hsame
  obtain ⟨str, rfl, hmis, hoccurs⟩ := h.agrees.exists_text h.lt h.lt_length hn hother
  refine ⟨str, rfl, fun ⟨fuel, r, hr, hfirst⟩ => ?_⟩
  rw [bmSearch_eq (by omega)] at hr
  cases fuel with
  | zero => cases hr
  | succ fuel =>
    obtain ⟨d, d₁, d₂, -, -, -, hd₂, -, hmax, hturn⟩ :=
      searchFrom_mismatch fuel hmis (by omega) hfit
    have hlong : q < d := by
      obtain ⟨d₂', hd₂', hcases⟩ := bmMakeDelta2_eq hj (by omega)
      obtain rfl : d₂' = d₂ := by rw [hd₂] at hd₂'; omega
      have hprefix := isPrefixFrom_of_agrees h.agrees h.lt
      rcases hcases with ⟨hpos, hle, hagrees, -⟩ | ⟨-, ⟨-, hno⟩ | ⟨q', hq', hlen, hyes, rfl, hno⟩⟩
      · exact absurd hagrees (h.least _ hpos hle)
      · rw [hno q (Nat.le_of_lt h.lt) h.lt_length] at hprefix
        cases hprefix
      · rcases Nat.lt_or_ge q' q with hlt | hge
        · rw [h.noPrefix q' hq' hlt] at hyes
          cases hyes
        · omega
    rw [hturn] at hr
    cases r with
    | none => exact hfirst q hoccurs
    | some k =>
      have hk := le_of_searchFrom hfit _ _ _ hr
      exact hfirst.2 q (by omega) hoccurs

theorem finds_of_not_overshot (hpos : 0 < pat.length)
    (hfit : str.length + pat.length ≤ 2 ^ 31)
    (hgood : ∀ j q, Overshot pat j q → str.length < pat.length + q) : Finds str pat := by
  obtain ⟨r, hr, hfirst⟩ := searchFrom_isFirst hpos hfit hgood (str.length + 1) 0
    (Nat.succ_pos _) (by omega) (fun k hk => absurd hk (Nat.not_lt_zero k))
  exact ⟨_, r, by rw [bmSearch_eq hpos, hr], hfirst⟩

/-- Among the texts of a length, all are searched rightly just if no shift that the
second table leaves out fits in that length. -/
theorem bmSearch_finds_iff {n : Nat} (hpos : 0 < pat.length)
    (hfit : n + pat.length ≤ 2 ^ 31) :
    (∀ str, str.length = n → Finds str pat) ↔
      ∀ j q, Overshot pat j q → n < pat.length + q := by
  constructor
  · intro h j q hover
    by_contra hn
    obtain ⟨str, hstr, hmissed⟩ := hover.exists_missed (Nat.le_of_not_lt hn) hfit
    exact hmissed (h str hstr)
  · rintro hgood str rfl
    exact finds_of_not_overshot hpos hfit hgood

theorem bmSearch_finds_iff_aba :
    (∀ str, str.length = 5 → Finds str [0x61, 0x62, 0x61]) ↔
      ∀ j q, Overshot [0x61, 0x62, 0x61] j q → 5 < 3 + q :=
  bmSearch_finds_iff (by decide) (by decide)

/-- In `xcaba` the search for `aba` answers that there is none. -/
theorem bmSearch_misses_aba : ¬ ∀ str pat : List UInt8, 0 < pat.length →
    pat.length ≤ str.length → str.length < 2 ^ 31 → Finds str pat := by
  intro h
  obtain ⟨fuel, r, hr, hfirst⟩ := h [0x78, 0x63, 0x61, 0x62, 0x61] [0x61, 0x62, 0x61]
    (by decide) (by decide) (by decide)
  have hoccurs : OccursAt [0x78, 0x63, 0x61, 0x62, 0x61] ([0x61, 0x62, 0x61] : List UInt8) 2 :=
    ⟨by decide, by decide⟩
  have hnull : r = none := by
    match fuel with
    | 0 => cases hr
    | 1 => cases hr
    | fuel + 2 => exact (Option.some.inj hr).symm
  subst hnull
  exact hfirst 2 hoccurs

/-! ## The version string -/

/-- `TZ_VER_STR`. -/
def tzVerStr : List UInt8 := "QC_IMAGE_VERSION_STRING=".toList.map fun c => c.toNat.toUInt8

theorem not_overshot_of_head (h : ∀ q < pat.length, 0 < q → pat[q]? ≠ pat[0]?) (j q : Nat) :
    ¬ Overshot pat j q := by
  intro hover
  have hsame := hover.agrees.suffix q hover.lt hover.lt_length (Nat.le_refl q)
  rw [Nat.sub_self] at hsame
  exact h q hover.lt_length (Nat.zero_lt_of_lt hover.lt) hsame.symm

theorem finds_tzVerStr (hfit : str.length + tzVerStr.length ≤ 2 ^ 31) : Finds str tzVerStr :=
  finds_of_not_overshot (by decide) hfit fun j q hover =>
    absurd hover (not_overshot_of_head (by decide) j q)

theorem finds_tzVerStr_split : Finds (tzVerStr.take 9 ++ tzVerStr) tzVerStr :=
  finds_tzVerStr (by decide)

end Axon7.Recovery
