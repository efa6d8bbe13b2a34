import Mathlib

/-!
# A set kept in an array of slots

A slot is free or has an element of the set. An element goes into the first slot
that is free, and its slot is free again when it goes. An element that is not put
in while it is there is in one slot only, so that taking it out of the first takes
it out.
-/

namespace Axon7.Lib

variable {α : Type*} [DecidableEq α] {free x y : α} {l : List α}

/-- No element is in two slots. -/
def SlotSet (free : α) (l : List α) : Prop := ∀ x ≠ free, l.count x ≤ 1

theorem count_replace_add (hx : x ∈ l) (y z : α) :
    (l.replace x y).count z + (if x = z then 1 else 0) =
      l.count z + (if y = z then 1 else 0) := by
  have hle : (if x = z then 1 else 0) ≤ l.count z := by
    split
    · rename_i heq
      exact List.count_pos_iff.mpr (heq ▸ hx)
    · exact Nat.zero_le _
  rw [List.count_replace, if_pos (List.contains_iff_mem.mpr hx)]
  simp only [beq_iff_eq]
  omega

theorem mem_of_mem_replace {z : α} (h : y ∈ l.replace x z) (hne : y ≠ z) : y ∈ l := by
  by_cases hx : x ∈ l
  · have hcount := count_replace_add hx z y
    have hpos := List.count_pos_iff.mpr h
    rw [if_neg hne.symm] at hcount
    exact List.count_pos_iff.mp (by omega)
  · rw [List.replace_of_not_mem hx] at h
    exact h

namespace SlotSet

theorem replicate (free : α) (n : ℕ) : SlotSet free (List.replicate n free) := by
  intro x hx
  rw [List.count_replicate, if_neg (by simpa using hx.symm)]
  exact Nat.zero_le 1

theorem insert (h : SlotSet free l) (hx : x ∉ l) : SlotSet free (l.replace free x) := by
  by_cases hfree : free ∈ l
  · intro y hy
    have hcount := count_replace_add hfree x y
    have hle := h y hy
    rw [if_neg hy.symm] at hcount
    by_cases hxy : x = y
    · rw [← hxy] at hcount ⊢
      have hzero := List.count_eq_zero.mpr hx
      rw [if_pos rfl] at hcount
      omega
    · rw [if_neg hxy] at hcount
      omega
  · rw [List.replace_of_not_mem hfree]
    exact h

theorem mem_insert (hfree : free ∈ l) (hy : y ≠ free) :
    y ∈ l.replace free x ↔ y ∈ l ∨ y = x := by
  have hcount := count_replace_add hfree x y
  rw [if_neg hy.symm] at hcount
  rw [← List.count_pos_iff, ← List.count_pos_iff]
  by_cases hxy : x = y
  · rw [if_pos hxy] at hcount
    exact iff_of_true (by omega) (.inr hxy.symm)
  · rw [if_neg hxy, Nat.add_zero, Nat.add_zero] at hcount
    rw [hcount]
    exact ⟨.inl, fun h => h.resolve_right fun heq => hxy heq.symm⟩

theorem erase (h : SlotSet free l) (x : α) : SlotSet free (l.replace x free) := by
  by_cases hx : x ∈ l
  · intro y hy
    have hcount := count_replace_add hx free y
    have hle := h y hy
    rw [if_neg hy.symm] at hcount
    omega
  · rw [List.replace_of_not_mem hx]
    exact h

theorem mem_erase (h : SlotSet free l) (hx : x ≠ free) (hy : y ≠ free) :
    y ∈ l.replace x free ↔ y ∈ l ∧ y ≠ x := by
  by_cases hmem : x ∈ l
  · have hcount := count_replace_add hmem free y
    have hle := h x hx
    rw [if_neg hy.symm] at hcount
    rw [← List.count_pos_iff, ← List.count_pos_iff]
    by_cases hxy : x = y
    · rw [if_pos hxy] at hcount
      rw [hxy] at hle
      exact iff_of_false (by omega) fun hand => hand.2 hxy.symm
    · rw [if_neg hxy, Nat.add_zero, Nat.add_zero] at hcount
      rw [hcount]
      exact ⟨fun hpos => ⟨hpos, fun heq => hxy heq.symm⟩, And.left⟩
  · rw [List.replace_of_not_mem hmem]
    exact ⟨fun hin => ⟨hin, fun heq => hmem (heq ▸ hin)⟩, And.left⟩

theorem exists_free (h : SlotSet free l) {s : Finset α}
    (hs : ∀ x ∈ l, x ≠ free → x ∈ s) (hlt : s.card < l.length) : free ∈ l := by
  by_contra hfree
  have hne : ∀ x ∈ l, x ≠ free := fun x hx heq => hfree (heq ▸ hx)
  have hnd : l.Nodup := by
    refine List.nodup_iff_count_le_one.mpr fun x => ?_
    by_cases hx : x ∈ l
    · exact h x (hne x hx)
    · rw [List.count_eq_zero.mpr hx]
      exact Nat.zero_le 1
  have hsub : l.toFinset ⊆ s := by
    intro x hx
    have hx := List.mem_toFinset.mp hx
    exact hs x hx (hne x hx)
  have hcard := Finset.card_le_card hsub
  rw [List.toFinset_card_of_nodup hnd] at hcard
  omega

end SlotSet

end Axon7.Lib
