import Axon7.Config.LocCfg

/-!
# Spaces around a text

`loc_util_trim_space` goes over a text once. From the first character that is no space on it
moves every character to the front, and keeps the place behind the last that was no space,
where the text is to end.

If there is no such place nothing has been moved and nothing is written: a text of spaces
alone stays as it is. Of every other text what is left is what stands between the spaces.
-/

namespace Axon7.Config

open Lib

/-! ## The function -/

/-- The variables of the loop. Pointers are places in the buffer. -/
structure TrimState where
  buf : List Char
  scanPtr : Nat
  writePtr : Nat
  firstNonspace : Option Nat
  lastNonspace : Option Nat

/-- One turn of the loop, for the character at `scan_ptr`. -/
def trimTurn (s : TrimState) (c : Char) : TrimState :=
  let firstNonspace :=
    if !isSpace c ∧ s.firstNonspace = none then some s.scanPtr else s.firstNonspace
  if firstNonspace ≠ none then
    { buf := s.buf.set s.writePtr c
      scanPtr := s.scanPtr + 1
      writePtr := s.writePtr + 1
      firstNonspace
      lastNonspace := if isSpace c then s.lastNonspace else some (s.writePtr + 1) }
  else { s with scanPtr := s.scanPtr + 1, firstNonspace }

/-- The loop, with so many characters of the buffer left. -/
def trimLoop : Nat → TrimState → TrimState
  | 0, s => s
  | left + 1, s =>
    match s.buf[s.scanPtr]? with
    | some c => if c = '\x00' then s else trimLoop left (trimTurn s c)
    | none => s

/-- `loc_util_trim_space`: what is then in the buffer. -/
def locUtilTrimSpace (orgString : List Char) : List Char :=
  let s := trimLoop orgString.length ⟨orgString, 0, 0, none, none⟩
  match s.lastNonspace with
  | some place => s.buf.set place '\x00'
  | none => s.buf

/-! ## What the loop has done -/

/-- What is left of a text without the spaces at its ends. -/
def trimmed (text : List Char) : List Char := (text.dropWhile isSpace).rdropWhile isSpace

/-- The part `seen` of the buffer is behind the loop. Without its spaces in front it is at the
front of the buffer, and the rest of the buffer is as before. -/
structure Trimming (orgString seen : List Char) (s : TrimState) : Prop where
  buf : s.buf = seen.dropWhile isSpace ++ orgString.drop (seen.dropWhile isSpace).length
  scanPtr : s.scanPtr = seen.length
  writePtr : s.writePtr = (seen.dropWhile isSpace).length
  firstNonspace : s.firstNonspace = none ↔ seen.dropWhile isSpace = []
  lastNonspace : s.lastNonspace =
    if trimmed seen = [] then none else some (trimmed seen).length

variable {orgString seen rest text : List Char} {s : TrimState} {c : Char}

theorem dropWhile_concat (seen : List Char) (c : Char) :
    (seen ++ [c]).dropWhile isSpace =
      if seen.dropWhile isSpace = [] ∧ isSpace c = true then []
      else seen.dropWhile isSpace ++ [c] := by
  rw [List.dropWhile_append]
  by_cases hseen : seen.dropWhile isSpace = []
  · rw [hseen, if_pos List.isEmpty_nil]
    by_cases hc : isSpace c = true
    · rw [List.dropWhile_cons_of_pos hc, if_pos ⟨rfl, hc⟩]
      rfl
    · rw [List.dropWhile_cons_of_neg hc, if_neg fun h => hc h.2]
      rfl
  · rw [if_neg (by simpa using hseen), if_neg fun h => hseen h.1]

theorem trimmed_concat (seen : List Char) (c : Char) :
    trimmed (seen ++ [c]) =
      if isSpace c then trimmed seen else seen.dropWhile isSpace ++ [c] := by
  rw [trimmed, dropWhile_concat]
  by_cases hc : isSpace c = true
  · rw [if_pos hc]
    by_cases hseen : seen.dropWhile isSpace = []
    · rw [if_pos ⟨hseen, hc⟩, trimmed, hseen]
    · rw [if_neg fun h => hseen h.1, List.rdropWhile_concat_pos _ _ _ hc, trimmed]
  · rw [if_neg hc, if_neg fun h => hc h.2, List.rdropWhile_concat_neg _ _ _ hc]

theorem set_behind {front : List Char} (h : front.length < orgString.length) :
    (front ++ orgString.drop front.length).set front.length c =
      front ++ [c] ++ orgString.drop (front ++ [c]).length := by
  rw [List.set_append_right _ _ le_rfl, Nat.sub_self, List.drop_eq_getElem_cons h,
    List.set_cons_zero, List.length_append, List.length_singleton, List.append_assoc]
  rfl

theorem Trimming.turn (h : Trimming orgString seen s) (hc : orgString[seen.length]? = some c) :
    Trimming orgString (seen ++ [c]) (trimTurn s c) := by
  have hlt : seen.length < orgString.length := (List.getElem?_eq_some_iff.1 hc).1
  have hle : (seen.dropWhile isSpace).length ≤ seen.length :=
    (List.dropWhile_suffix isSpace).length_le
  by_cases hskip : seen.dropWhile isSpace = [] ∧ isSpace c = true
  · -- a space in front of all others
    have hturn : trimTurn s c = { s with scanPtr := s.scanPtr + 1 } := by
      simp [trimTurn, hskip.2, h.firstNonspace.2 hskip.1]
    have hdrop : (seen ++ [c]).dropWhile isSpace = seen.dropWhile isSpace := by
      rw [dropWhile_concat, if_pos hskip, hskip.1]
    rw [hturn]
    refine ⟨?_, ?_, ?_, ?_, ?_⟩
    · rw [hdrop, h.buf]
    · rw [h.scanPtr, List.length_append, List.length_singleton]
    · rw [hdrop, h.writePtr]
    · rw [hdrop, h.firstNonspace]
    · rw [trimmed_concat, if_pos hskip.2, h.lastNonspace]
  · have hdrop : (seen ++ [c]).dropWhile isSpace = seen.dropWhile isSpace ++ [c] := by
      rw [dropWhile_concat, if_neg hskip]
    have hfirst : (if !isSpace c ∧ s.firstNonspace = none then some s.scanPtr
        else s.firstNonspace) ≠ none := by
      split
      · exact nofun
      · rename_i hno
        intro hnone
        have hspace : isSpace c = true := by
          by_contra hc
          exact hno ⟨by simpa using hc, hnone⟩
        exact hskip ⟨h.firstNonspace.1 hnone, hspace⟩
    rw [trimTurn, if_pos hfirst]
    refine ⟨?_, ?_, ?_, ?_, ?_⟩
    · rw [hdrop, h.buf, h.writePtr, set_behind (by omega)]
    · rw [h.scanPtr, List.length_append, List.length_singleton]
    · rw [hdrop, h.writePtr, List.length_append, List.length_singleton]
    · rw [hdrop]
      exact iff_of_false hfirst (by simp)
    · rw [trimmed_concat]
      by_cases hc : isSpace c = true
      · rw [if_pos hc, if_pos hc, h.lastNonspace]
      · simp [hc, h.writePtr]

theorem Trimming.loop (h : Trimming orgString seen s) {left : Nat}
    (horg : orgString = seen ++ text ++ '\x00' :: rest) (htext : '\x00' ∉ text)
    (hleft : text.length < left) :
    Trimming orgString (seen ++ text) (trimLoop left s) := by
  induction left generalizing seen text s with
  | zero => exact absurd hleft (Nat.not_lt_zero _)
  | succ left ih =>
    have hmoved : (seen.dropWhile isSpace).length ≤ seen.length :=
      (List.dropWhile_suffix isSpace).length_le
    -- what the loop has still to read is where it was
    have hread : s.buf[s.scanPtr]? = orgString[seen.length]? := by
      rw [h.buf, h.scanPtr, List.getElem?_append_right hmoved, List.getElem?_drop]
      congr 1
      omega
    rw [trimLoop, hread]
    cases text with
    | nil =>
      have hend : orgString[seen.length]? = some '\x00' := by
        rw [horg, List.append_nil, List.getElem?_append_right le_rfl, Nat.sub_self]
        rfl
      rw [hend, List.append_nil]
      exact h
    | cons c text =>
      have hhere : orgString[seen.length]? = some c := by
        rw [horg, List.append_assoc, List.getElem?_append_right le_rfl, Nat.sub_self]
        rfl
      obtain ⟨hne, htext⟩ := not_or.1 (List.mem_cons.not.1 htext)
      rw [hhere]
      dsimp only
      rw [if_neg (Ne.symm hne), List.append_cons]
      refine ih (h.turn hhere) ?_ htext ?_
      · rw [horg]
        simp
      · rw [List.length_cons] at hleft
        omega

theorem trimming_start (orgString : List Char) :
    Trimming orgString [] ⟨orgString, 0, 0, none, none⟩ :=
  ⟨rfl, rfl, rfl, iff_of_true rfl rfl, rfl⟩

/-! ## What is left -/

theorem trimmed_isPrefix (text : List Char) : trimmed text <+: text.dropWhile isSpace :=
  List.rdropWhile_prefix _ _

theorem trimmed_sublist (text : List Char) : (trimmed text).Sublist text :=
  (trimmed_isPrefix text).sublist.trans (List.dropWhile_suffix isSpace).sublist

theorem trimmed_eq_nil_iff : trimmed text = [] ↔ ∀ c ∈ text, isSpace c = true := by
  rw [trimmed, List.rdropWhile_eq_nil_iff, ← List.dropWhile_eq_nil_iff,
    List.dropWhile_idempotent, List.dropWhile_eq_nil_iff]

theorem locUtilTrimSpace_eq (htext : '\x00' ∉ text) (rest : List Char) :
    ∃ behind, locUtilTrimSpace (text ++ '\x00' :: rest) = trimSpace text ++ '\x00' :: behind := by
  have hleft : text.length < (text ++ '\x00' :: rest).length := by
    rw [List.length_append, List.length_cons]
    omega
  have horg : text ++ '\x00' :: rest = [] ++ text ++ '\x00' :: rest := rfl
  have h := (trimming_start (text ++ '\x00' :: rest)).loop horg htext hleft
  rw [List.nil_append] at h
  rw [locUtilTrimSpace, h.lastNonspace, trimSpace, ← trimmed]
  by_cases hnone : trimmed text = []
  · rw [if_pos hnone, hnone, h.buf,
      List.dropWhile_eq_nil_iff.2 (trimmed_eq_nil_iff.1 hnone)]
    exact ⟨rest, rfl⟩
  · -- behind the last character that is no space the text ends
    obtain ⟨tail, htail⟩ := trimmed_isPrefix text
    have hbehind : tail ++ (text ++ '\x00' :: rest).drop (text.dropWhile isSpace).length ≠ [] := by
      have hle := (List.dropWhile_suffix isSpace (l := text)).length_le
      intro hnil
      have hdrop := List.drop_eq_nil_iff.1 (List.append_eq_nil_iff.1 hnil).2
      omega
    obtain ⟨c, behind, hcons⟩ := List.exists_cons_of_ne_nil hbehind
    rw [if_neg hnone]
    dsimp only
    rw [h.buf]
    nth_rewrite 1 [← htail]
    rw [List.append_assoc, hcons, List.set_append_right _ _ le_rfl, Nat.sub_self,
      List.set_cons_zero]
    refine ⟨behind, ?_⟩
    split
    · rename_i heq
      exact absurd heq hnone
    · rfl

theorem trimmed_trimmed (text : List Char) : trimmed (trimmed text) = trimmed text := by
  have hfront : (trimmed text).dropWhile isSpace = trimmed text := by
    obtain ⟨tail, htail⟩ := trimmed_isPrefix text
    cases htrim : trimmed text with
    | nil => rfl
    | cons c rest =>
      have hc : ¬ isSpace c = true := by
        rw [htrim] at htail
        have hidem := List.dropWhile_idempotent isSpace (l := text)
        rw [← htail, List.cons_append] at hidem
        intro hc
        rw [List.dropWhile_cons_of_pos hc] at hidem
        have hlen := (List.dropWhile_suffix isSpace (l := rest ++ tail)).length_le
        rw [hidem, List.length_cons] at hlen
        omega
      rw [List.dropWhile_cons_of_neg hc]
  rw [trimmed, hfront]
  exact List.rdropWhile_idempotent _ _

theorem trimSpace_eq (text : List Char) :
    trimSpace text = if trimmed text = [] then text else trimmed text := by
  rw [trimSpace, ← trimmed]
  split
  · rename_i hnone
    rw [if_pos hnone]
  · rename_i hsome
    rw [if_neg hsome]

theorem trimSpace_trimSpace (text : List Char) :
    trimSpace (trimSpace text) = trimSpace text := by
  rw [trimSpace_eq text]
  split
  · rename_i hnone
    rw [trimSpace_eq, if_pos hnone]
  · rename_i hsome
    rw [trimSpace_eq, trimmed_trimmed, if_neg hsome]

/-- The spaces at both ends go, and there is nothing to do a second time, exactly if the
text is empty or is not of spaces alone. -/
theorem locUtilTrimSpace_trims_iff (htext : '\x00' ∉ text) (rest : List Char) :
    (cString (locUtilTrimSpace (text ++ '\x00' :: rest)) = trimmed text ∧
      cString (locUtilTrimSpace (locUtilTrimSpace (text ++ '\x00' :: rest))) =
        cString (locUtilTrimSpace (text ++ '\x00' :: rest))) ↔
      text = [] ∨ ∃ c ∈ text, isSpace c = false := by
  have hsub : (trimSpace text).Sublist text := by
    rw [trimSpace_eq]
    split
    exacts [.refl _, trimmed_sublist text]
  have hno : '\x00' ∉ trimSpace text := fun hmem => htext (hsub.subset hmem)
  obtain ⟨behind, heq⟩ := locUtilTrimSpace_eq htext rest
  obtain ⟨behind', heq'⟩ := locUtilTrimSpace_eq hno behind
  rw [heq, heq', trimSpace_trimSpace, cString_append_null hno, cString_append_null hno,
    and_iff_left rfl, trimSpace_eq]
  constructor
  · intro h
    by_cases hnone : trimmed text = []
    · rw [if_pos hnone, hnone] at h
      exact .inl h
    · refine .inr ?_
      by_contra hall
      refine hnone (trimmed_eq_nil_iff.2 fun c hc => ?_)
      by_contra hspace
      exact hall ⟨c, hc, by simpa using hspace⟩
  · rintro (rfl | ⟨c, hc, hspace⟩)
    · rfl
    · refine if_neg fun hnone => ?_
      have hall := trimmed_eq_nil_iff.1 hnone c hc
      exact absurd (hspace.symm.trans hall) nofun

theorem locUtilTrimSpace_trims_name :
    (cString (locUtilTrimSpace [' ', 'A', ' ', 'B', ' ', '\x00']) =
        trimmed [' ', 'A', ' ', 'B', ' '] ∧
      cString (locUtilTrimSpace (locUtilTrimSpace [' ', 'A', ' ', 'B', ' ', '\x00'])) =
        cString (locUtilTrimSpace [' ', 'A', ' ', 'B', ' ', '\x00'])) ↔
      [' ', 'A', ' ', 'B', ' '] = ([] : List Char) ∨
        ∃ c ∈ [' ', 'A', ' ', 'B', ' '], isSpace c = false := by
  have htext : '\x00' ∉ [' ', 'A', ' ', 'B', ' '] := by decide
  exact locUtilTrimSpace_trims_iff htext []

/-- Two spaces stay. -/
theorem locUtilTrimSpace_spaces :
    cString (locUtilTrimSpace [' ', ' ', '\x00']) ≠ trimmed [' ', ' '] := by
  decide

end Axon7.Config
