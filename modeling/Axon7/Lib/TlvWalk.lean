import Mathlib

/-!
# Records in memory

Records of a length, a kind and contents lie one behind the other in memory, each on a
multiple of four. A loop steps over them as long as one fits into what is left. The
length that is left is an unsigned 32-bit integer: with the last record it can wrap, and
does not if it is a multiple of four.
-/

namespace Axon7.Lib

/-- Memory, by addresses. -/
abbrev Memory := ℕ → BitVec 8

/-- A little-endian 16-bit field. -/
def Memory.u16 (m : Memory) (p : ℕ) : ℕ := (m p).toNat + 256 * (m (p + 1)).toNat

/-- A little-endian 32-bit field. -/
def Memory.u32 (m : Memory) (p : ℕ) : ℕ := m.u16 p + 65536 * m.u16 (p + 2)

/-- So many bytes from an address on. -/
def Memory.bytes (m : Memory) (p n : ℕ) : List (BitVec 8) :=
  (List.range n).map fun i => m (p + i)

theorem Memory.u16_lt (m : Memory) (p : ℕ) : m.u16 p < 65536 := by
  have hlow := (m p).isLt
  have hhigh := (m (p + 1)).isLt
  rw [u16]
  omega

def align4 (n : ℕ) : ℕ := (n + 3) / 4 * 4

/-- Unsigned 32-bit subtraction. -/
def sub32 (a b : ℕ) : ℕ := (a + 2 ^ 32 - b) % 2 ^ 32

theorem sub32_eq {a b : ℕ} (h : b ≤ a) (ha : a < 2 ^ 32) : sub32 a b = a - b := by
  rw [sub32]
  omega

theorem align4_le {n len : ℕ} (h : n ≤ len) (h4 : 4 ∣ len) : align4 n ≤ len := by
  rw [align4]
  omega

theorem le_align4 (n : ℕ) : n ≤ align4 n := by
  rw [align4]
  omega

theorem dvd_align4 (n : ℕ) : 4 ∣ align4 n := Nat.dvd_mul_left _ _

/-- A record is there and fits into the length. -/
def RecordOk (m : Memory) (p len : ℕ) : Prop := 4 ≤ len ∧ 4 ≤ m.u16 p ∧ m.u16 p ≤ len

instance (m : Memory) (p len : ℕ) : Decidable (RecordOk m p len) :=
  inferInstanceAs (Decidable (_ ∧ _))

variable {σ : Type*} (step : σ → ℕ → ℕ → σ) {m : Memory} {p len w : ℕ} {s : σ}

/-- The loop over the records. A step gets the kind of the record and where its contents
are. There is no result if the loop goes on for longer than the fuel. -/
def walkFuel (m : Memory) : ℕ → ℕ → ℕ → σ → Option σ
  | 0, _, _, _ => none
  | fuel + 1, p, len, s =>
    if RecordOk m p len then
      walkFuel m fuel (p + align4 (m.u16 p)) (sub32 len (align4 (m.u16 p)))
        (step s (m.u16 (p + 2)) (p + 4))
    else some s

/-- The loop: the length is fuel enough where it does not wrap. -/
def walk (m : Memory) (p len : ℕ) (s : σ) : Option σ := walkFuel step m (len + 1) p len s

theorem walk_stop (h : ¬ RecordOk m p len) : walk step m p len s = some s :=
  if_neg h

theorem walkFuel_eq_walk (h4 : 4 ∣ len) (hlen : len < 2 ^ 32) {fuel : ℕ}
    (hfuel : len < fuel) : walkFuel step m fuel p len s = walk step m p len s := by
  induction len using Nat.strongRecOn generalizing fuel p s with
  | ind len ih =>
    obtain ⟨fuel, rfl⟩ : ∃ f, fuel = f + 1 := ⟨fuel - 1, by omega⟩
    rw [walk, walkFuel, walkFuel]
    split
    · rename_i hok
      have hle := align4_le hok.2.2 h4
      have hpos := Nat.le_trans hok.2.1 (le_align4 (m.u16 p))
      have h4' := dvd_align4 (m.u16 p)
      rw [sub32_eq hle hlen]
      rw [ih _ (by omega) (by omega) (by omega) (by omega),
        ih _ (by omega) (by omega) (by omega) (by omega)]
    · rfl

theorem walk_next (h4 : 4 ∣ len) (hlen : len < 2 ^ 32) (hok : RecordOk m p len) :
    walk step m p len s =
      walk step m (p + align4 (m.u16 p)) (len - align4 (m.u16 p))
        (step s (m.u16 (p + 2)) (p + 4)) := by
  have hle := align4_le hok.2.2 h4
  have hpos := Nat.le_trans hok.2.1 (le_align4 (m.u16 p))
  have h4' := dvd_align4 (m.u16 p)
  rw [walk, walkFuel, if_pos hok, sub32_eq hle hlen]
  exact walkFuel_eq_walk step (by omega) (by omega) (by omega)

/-- Records of these kinds fill the place from `p` on. -/
inductive Fills (m : Memory) (K : ℕ → Prop) : ℕ → ℕ → Prop
  | nil (p : ℕ) : Fills m K p 0
  | cons {p w : ℕ} (hlen : 4 ≤ m.u16 p) (hkind : K (m.u16 (p + 2)))
      (hfit : align4 (m.u16 p) ≤ w)
      (hrest : Fills m K (p + align4 (m.u16 p)) (w - align4 (m.u16 p))) : Fills m K p w

variable {K : ℕ → Prop}

theorem Fills.dvd (h : Fills m K p w) : 4 ∣ w := by
  induction h with
  | nil p => exact Nat.dvd_zero 4
  | @cons p w hlen hkind hfit hrest ih =>
    have hsum := Nat.dvd_add ih (dvd_align4 (m.u16 p))
    rwa [Nat.sub_add_cancel hfit] at hsum

theorem Fills.walk_add (h : Fills m K p w) {extra : ℕ} (h4 : 4 ∣ extra)
    (hlt : w + extra < 2 ^ 32) (s : σ) :
    walk step m p (w + extra) s = (walk step m p w s).bind (walk step m (p + w) extra) := by
  induction h generalizing s with
  | nil p =>
    have hstop : walk step m p 0 s = some s :=
      walk_stop step fun hok => absurd hok.1 (by decide)
    rw [hstop, Nat.zero_add]
    rfl
  | @cons p w hlen hkind hfit hrest ih =>
    have hw : 4 ∣ w := (Fills.cons hlen hkind hfit hrest).dvd
    have hpos := le_align4 (m.u16 p)
    rw [walk_next step (by omega) hlt ⟨by omega, hlen, by omega⟩,
      walk_next step hw (by omega) ⟨by omega, hlen, by omega⟩,
      show w + extra - align4 (m.u16 p) = w - align4 (m.u16 p) + extra by omega,
      ih (by omega), show p + align4 (m.u16 p) + (w - align4 (m.u16 p)) = p + w by omega]

theorem Fills.walk_ignored (h : Fills m K p w) (hw : w < 2 ^ 32)
    (hstep : ∀ s k q, K k → step s k q = s) (s : σ) : walk step m p w s = some s := by
  induction h with
  | nil p => exact walk_stop step fun hok => absurd hok.1 (by decide)
  | @cons p w hlen hkind hfit hrest ih =>
    have h4 : 4 ∣ w := (Fills.cons hlen hkind hfit hrest).dvd
    have hpos := le_align4 (m.u16 p)
    rw [walk_next step h4 hw ⟨by omega, hlen, by omega⟩, hstep _ _ _ hkind]
    exact ih (by omega)

/-- The records that fill the place from `p` on: the kind of each, and where its contents
are. -/
inductive Records (m : Memory) : ℕ → ℕ → List (ℕ × ℕ) → Prop
  | nil (p : ℕ) : Records m p 0 []
  | cons {p w : ℕ} {records : List (ℕ × ℕ)} (hlen : 4 ≤ m.u16 p)
      (hfit : align4 (m.u16 p) ≤ w)
      (hrest : Records m (p + align4 (m.u16 p)) (w - align4 (m.u16 p)) records) :
      Records m p w ((m.u16 (p + 2), p + 4) :: records)

variable {records : List (ℕ × ℕ)}

theorem Records.fills (h : Records m p w records) : Fills m (fun _ => True) p w := by
  induction h with
  | nil p => exact .nil p
  | cons hlen hfit hrest ih => exact .cons hlen trivial hfit ih

theorem Records.walk_eq (h : Records m p w records) (hw : w < 2 ^ 32) (s : σ) :
    walk step m p w s = some (records.foldl (fun s r => step s r.1 r.2) s) := by
  induction h generalizing s with
  | nil p => exact walk_stop step fun hok => absurd hok.1 (by decide)
  | @cons p w records hlen hfit hrest ih =>
    have h4 : 4 ∣ w := (Records.cons hlen hfit hrest).fills.dvd
    have hpos := le_align4 (m.u16 p)
    rw [walk_next step h4 hw ⟨by omega, hlen, by omega⟩, ih (by omega)]
    rfl

end Axon7.Lib
