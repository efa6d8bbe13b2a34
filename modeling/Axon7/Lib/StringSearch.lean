import Mathlib

/-!
# Searching a text from the left, comparing from the right

A search moves a window over a text and compares the pattern with what is in the window
from its end on. After a mismatch the window may move by any distance that leaves out no
shift agreeing with what has been read.
-/

namespace Axon7.Lib

variable {α : Type}

/-- The pattern is in the text, from a position on. -/
def OccursAt (str pat : List α) (k : Nat) : Prop :=
  k + pat.length ≤ str.length ∧ ∀ l < pat.length, str[k + l]? = pat[l]?

/-- What a search is to answer: the first position, or that there is none. -/
def IsFirst (str pat : List α) : Option Nat → Prop
  | none => ∀ k, ¬ OccursAt str pat k
  | some k => OccursAt str pat k ∧ ∀ k' < k, ¬ OccursAt str pat k'

/-- Compared from its end with the window that starts at `s`, the pattern first differs
at the index `j`. -/
structure MismatchAt (str pat : List α) (s j : Nat) : Prop where
  lt : j < pat.length
  suffix : ∀ l, j < l → l < pat.length → str[s + l]? = pat[l]?
  differs : str[s + j]? ≠ pat[j]?

/-- Moved by `t` the pattern agrees with what a mismatch at `j` says about the text. -/
structure Agrees (pat : List α) (j t : Nat) : Prop where
  suffix : ∀ l, j < l → l < pat.length → t ≤ l → pat[l - t]? = pat[l]?
  differs : t ≤ j → pat[j - t]? ≠ pat[j]?

section

variable {str pat : List α} {s j t : Nat}

theorem OccursAt.getElem? (h : OccursAt str pat (s + t)) {l : Nat} (hl : l < pat.length)
    (ht : t ≤ l) : str[s + l]? = pat[l - t]? := by
  have hat := h.2 (l - t) (by omega)
  rwa [show s + t + (l - t) = s + l by omega] at hat

theorem MismatchAt.not_occursAt (h : MismatchAt str pat s j) : ¬ OccursAt str pat s :=
  fun ho => h.differs (ho.2 j h.lt)

theorem MismatchAt.agrees (h : MismatchAt str pat s j) (ho : OccursAt str pat (s + t)) :
    Agrees pat j t where
  suffix l hjl hl ht := (ho.getElem? hl ht).symm.trans (h.suffix l hjl hl)
  differs ht heq := h.differs ((ho.getElem? h.lt ht).trans heq)

theorem skip (hclear : ∀ k < s, ¬ OccursAt str pat k) (hs : ¬ OccursAt str pat s) {d : Nat}
    (hskip : ∀ t, 0 < t → t < d → ¬ OccursAt str pat (s + t)) :
    ∀ k < s + d, ¬ OccursAt str pat k := by
  intro k hk
  rcases Nat.lt_trichotomy k s with hlt | rfl | hgt
  · exact hclear k hlt
  · exact hs
  · have hno := hskip (k - s) (by omega) (by omega)
    rwa [Nat.add_sub_cancel' (Nat.le_of_lt hgt)] at hno

theorem Agrees.exists_text (h : Agrees pat j t) (hj : j < t) (ht : t < pat.length) {n : Nat}
    (hn : pat.length + t ≤ n) {c : α} (hc : some c ≠ pat[j]?) :
    ∃ str : List α, str.length = n ∧ MismatchAt str pat 0 j ∧ OccursAt str pat t := by
  have hpos : 0 < pat.length := by omega
  let text : Nat → α := fun l =>
    if l = j then c
    else if hl : l < pat.length then pat[l]
    else if hl : l - t < pat.length then pat[l - t]
    else pat[0]
  have hlength : ((List.range n).map text).length = n := by
    rw [List.length_map, List.length_range]
  have hat : ∀ l < n, ((List.range n).map text)[l]? = some (text l) := by
    intro l hl
    rw [List.getElem?_map, List.getElem?_range hl, Option.map_some]
  refine ⟨(List.range n).map text, hlength, ⟨by omega, fun l hjl hl => ?_, ?_⟩, ?_, ?_⟩
  · rw [Nat.zero_add, hat l (by omega), List.getElem?_eq_getElem hl]
    simp only [text, if_neg (Nat.ne_of_gt hjl), dif_pos hl]
  · rw [Nat.zero_add, hat j (by omega)]
    simpa only [text, ↓reduceIte] using hc
  · omega
  · intro l hl
    rw [hat (t + l) (by omega), List.getElem?_eq_getElem hl]
    have hne : t + l ≠ j := by omega
    by_cases hin : t + l < pat.length
    · have hsame := h.suffix (t + l) (by omega) hin (by omega)
      rw [Nat.add_sub_cancel_left, List.getElem?_eq_getElem hl,
        List.getElem?_eq_getElem hin] at hsame
      simpa only [text, if_neg hne, dif_pos hin] using hsame.symm
    · simp only [text, if_neg hne, dif_neg hin, Nat.add_sub_cancel_left, dif_pos hl]

end

end Axon7.Lib
