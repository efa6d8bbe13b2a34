import Mathlib

/-!
# Text

How the C library reads a number: it passes over white space, a sign and, in base 16, a
`0x`, takes the digits that follow and stops at anything else. On a text of digits alone
the value is the number the digits write. And how it cuts a text: at separators, and into the
lines of a file.
-/

namespace Axon7.Lib

/-- `isspace`. -/
def isSpace (c : Char) : Bool :=
  c = ' ' || ('\t' ≤ c && c ≤ '\r')

/-- The value of a digit, of any base up to 36. -/
def digitValue (c : Char) : Option Nat :=
  if '0' ≤ c ∧ c ≤ '9' then some (c.toNat - '0'.toNat)
  else if 'a' ≤ c ∧ c ≤ 'z' then some (c.toNat - 'a'.toNat + 10)
  else if 'A' ≤ c ∧ c ≤ 'Z' then some (c.toNat - 'A'.toNat + 10)
  else none

/-- The value of a digit of the base. -/
def digitIn (base : Nat) (c : Char) : Option Nat :=
  (digitValue c).filter (· < base)

/-- The number read so far, and the digits at the front of the text. -/
def scanDigits (base : Nat) : Nat → List Char → Nat
  | n, [] => n
  | n, c :: text =>
    match digitIn base c with
    | some d => scanDigits base (n * base + d) text
    | none => n

/-- The sign, if there is one: whether it is a minus, and the rest. -/
def skipSign : List Char → Bool × List Char
  | '-' :: text => (true, text)
  | '+' :: text => (false, text)
  | text => (false, text)

/-- `0x` is passed over in base 16 if a digit follows. -/
def skipHex (base : Nat) : List Char → List Char
  | '0' :: x :: c :: text =>
    if base = 16 ∧ (x = 'x' ∨ x = 'X') ∧ (digitIn 16 c).isSome then c :: text
    else '0' :: x :: c :: text
  | text => text

/-- The number at the front of the text, as large as it is. -/
def scanInt (base : Nat) (text : List Char) : Int :=
  let signed := skipSign (text.dropWhile isSpace)
  let n : Int := scanDigits base 0 (skipHex base signed.2)
  if signed.1 then -n else n

/-- `LONG_MAX` of a long of `bits` bits. -/
def longMax (bits : Nat) : Int := 2 ^ (bits - 1) - 1

/-- `strtol`: a number that does not fit is the nearest that does. -/
def strtol (bits base : Nat) (text : List Char) : Int :=
  max (-longMax bits - 1) (min (longMax bits) (scanInt base text))

/-- `atoi`. What it gives for a number that is no `int` is left open. -/
def atoi (out : List Char → Int32) (text : List Char) : Int32 :=
  let n := scanInt 10 text
  if -2 ^ 31 ≤ n ∧ n < 2 ^ 31 then Int32.ofInt n else out text

/-! ## Texts of digits -/

/-- A numeral: digits of the base and nothing else. -/
def IsNumeral (base : Nat) (text : List Char) : Prop :=
  text ≠ [] ∧ ∀ c ∈ text, (digitIn base c).isSome

instance (base : Nat) (text : List Char) : Decidable (IsNumeral base text) :=
  @instDecidableAnd _ _ _ (List.decidableBAll _ _)

/-- The number a text of digits writes. -/
def numeralValue (base : Nat) (text : List Char) : Nat :=
  Nat.ofDigits base (text.filterMap (digitIn base)).reverse

variable {base : Nat} {text : List Char}

theorem numeralValue_cons {c : Char} {d : Nat} (hc : digitIn base c = some d)
    (h : ∀ c ∈ text, (digitIn base c).isSome) :
    numeralValue base (c :: text) = d * base ^ text.length + numeralValue base text := by
  have hlen : (text.filterMap (digitIn base)).length = text.length :=
    List.filterMap_length_eq_length.2 h
  rw [numeralValue, List.filterMap_cons_some hc, List.reverse_cons, Nat.ofDigits_append,
    List.length_reverse, hlen, Nat.ofDigits_singleton, numeralValue]
  ring

theorem scanDigits_eq (n : Nat) (h : ∀ c ∈ text, (digitIn base c).isSome) :
    scanDigits base n text = n * base ^ text.length + numeralValue base text := by
  induction text generalizing n with
  | nil => simp [scanDigits, numeralValue]
  | cons c text ih =>
    obtain ⟨hc, htext⟩ := List.forall_mem_cons.1 h
    obtain ⟨d, hd⟩ := Option.isSome_iff_exists.1 hc
    rw [scanDigits, hd]
    change scanDigits base (n * base + d) text = _
    rw [ih _ htext, numeralValue_cons hd htext, List.length_cons]
    ring

theorem le_of_digitIn {c : Char} (h : (digitIn base c).isSome) : '0' ≤ c := by
  obtain ⟨d, hd⟩ := Option.isSome_iff_exists.1 h
  have hvalue := (Option.filter_eq_some_iff.1 hd).1
  unfold digitValue at hvalue
  split_ifs at hvalue with hdigit hlower hupper
  · exact hdigit.1
  · exact Char.le_trans (by decide) hlower.1
  · exact Char.le_trans (by decide) hupper.1

theorem isSpace_eq_false {c : Char} (h : '0' ≤ c) : isSpace c = false := by
  have hblank : c ≠ ' ' := by
    rintro rfl
    exact absurd h (by decide)
  have hcontrol : ¬ c ≤ '\r' := fun hle =>
    absurd (Char.le_trans h hle) (by decide)
  simp [isSpace, hblank, hcontrol]

theorem skipSign_eq {c : Char} (h : '0' ≤ c) : skipSign (c :: text) = (false, c :: text) := by
  have hminus : c ≠ '-' := by
    rintro rfl
    exact absurd h (by decide)
  have hplus : c ≠ '+' := by
    rintro rfl
    exact absurd h (by decide)
  unfold skipSign
  split <;> simp_all

theorem skipHex_eq (h : ∀ c ∈ text, (digitIn base c).isSome) : skipHex base text = text := by
  unfold skipHex
  split
  · next x c rest =>
    rw [if_neg]
    intro hhex
    obtain ⟨rfl, hx, -⟩ := hhex
    have hdigit : (digitIn 16 x).isSome := h x (by simp)
    rcases hx with rfl | rfl <;> exact absurd hdigit (by decide)
  · rfl

theorem scanInt_eq (h : IsNumeral base text) : scanInt base text = numeralValue base text := by
  obtain ⟨hne, hdigits⟩ := h
  obtain ⟨c, rest, rfl⟩ := List.exists_cons_of_ne_nil hne
  have hc : '0' ≤ c := le_of_digitIn (hdigits c List.mem_cons_self)
  rw [scanInt, List.dropWhile_cons_of_neg (by simp [isSpace_eq_false hc]), skipSign_eq hc]
  simp only [Bool.false_eq_true, if_false]
  rw [skipHex_eq hdigits, scanDigits_eq 0 hdigits, Nat.zero_mul, Nat.zero_add]

theorem atoi_eq (out : List Char → Int32) (h : IsNumeral 10 text)
    (hfits : numeralValue 10 text < 2 ^ 31) : (atoi out text).toInt = numeralValue 10 text := by
  have hrange : -2 ^ 31 ≤ scanInt 10 text ∧ scanInt 10 text < 2 ^ 31 := by
    rw [scanInt_eq h]
    omega
  rw [atoi, if_pos hrange, Int32.toInt_ofInt_of_le hrange.1 hrange.2, scanInt_eq h]

theorem strtol_eq (bits : Nat) (h : IsNumeral base text) :
    strtol bits base text = min (longMax bits) (numeralValue base text) := by
  have hmax : 0 ≤ longMax bits := by
    have : (0 : Int) < 2 ^ (bits - 1) := by positivity
    rw [longMax]
    omega
  rw [strtol, scanInt_eq h]
  omega

/-! ## Separators and lines -/

/-- What a text in memory is: what stands in front of the first null character. -/
def cString (text : List Char) : List Char := text.takeWhile (· ≠ '\x00')

/-- What `strtok_r` gives, call after call. -/
def tokens (sep : Char) (text : List Char) : List (List Char) :=
  (text.splitOn sep).filter (· ≠ [])

/-- The lines of a file for a buffer of the size, with room for so many characters of the line
that has begun. -/
def linesFrom (size : Nat) : Nat → List Char → List (List Char)
  | _, [] => []
  | room, c :: file =>
    if c = '\n' ∨ room ≤ 1 then [c] :: linesFrom size (size - 1) file
    else
      match linesFrom size (room - 1) file with
      | [] => [[c]]
      | line :: lines => (c :: line) :: lines

/-- What `fgets` gives, call after call. A line ends after a newline, or where the buffer is
full. -/
def fgetsLines (size : Nat) (file : List Char) : List (List Char) :=
  linesFrom size (size - 1) file

theorem findIdx?_of_notMem {sep : Char} (h : sep ∉ text) : text.findIdx? (· == sep) = none := by
  rw [List.findIdx?_eq_none_iff]
  intro c hc
  have hne : c ≠ sep := fun heq => h (heq ▸ hc)
  simpa using hne

theorem findIdx?_append_sep {sep : Char} (h : sep ∉ text) (rest : List Char) :
    (text ++ sep :: rest).findIdx? (· == sep) = some text.length := by
  rw [List.findIdx?_append, findIdx?_of_notMem h]
  simp [List.findIdx?_cons]

theorem splitOn_fields {sep : Char} {fields : List (List Char)} (h : ∀ f ∈ fields, sep ∉ f)
    (rest : List Char) :
    (fields.flatMap (· ++ [sep]) ++ rest).splitOn sep = fields ++ rest.splitOn sep := by
  induction fields with
  | nil => rfl
  | cons f fields ih =>
    obtain ⟨hf, hfields⟩ := List.forall_mem_cons.1 h
    rw [List.flatMap_cons, List.append_assoc, List.append_assoc, List.singleton_append,
      List.splitOn_append_cons_self_of_not_mem hf, ih hfields, List.cons_append]

end Axon7.Lib

/-!
# Print

How the C library writes: a number in a field of a width, filled up with zeros, and a text at
the end of what a buffer holds already, cut off where the buffer ends.
-/

namespace Axon7.Lib

/-! ## Numbers -/

/-- The text in a field of the width, with zeros in front. -/
def zeroFilled (width : Nat) (text : List Char) : List Char :=
  List.replicate (width - text.length) '0' ++ text

/-- `%0*d`. The sign is part of the field. -/
def printInt (width : Nat) (n : Int) : List Char :=
  if n < 0 then '-' :: zeroFilled (width - 1) (Nat.toDigits 10 n.natAbs)
  else zeroFilled width (Nat.toDigits 10 n.natAbs)

/-- `%0*X`. -/
def printHex (width n : Nat) : List Char :=
  zeroFilled width ((Nat.toDigits 16 n).map Char.toUpper)

/-- `(int)`: what stands after the point is dropped. -/
def truncate (x : ℚ) : Int :=
  if 0 ≤ x then ⌊x⌋ else ⌈x⌉

/-- The nearest whole number, the even one of two as near. -/
def roundHalfEven (x : ℚ) : Int :=
  let n := ⌊x⌋
  if x - n < 1 / 2 then n else if 1 / 2 < x - n then n + 1 else if n % 2 = 0 then n else n + 1

/-- `%.1f`. -/
def printTenths (x : ℚ) : List Char :=
  let tenths := (roundHalfEven (|x| * 10)).natAbs
  (if x < 0 then ['-'] else []) ++
    Nat.toDigits 10 (tenths / 10) ++ '.' :: Nat.toDigits 10 (tenths % 10)

theorem length_zeroFilled (width : Nat) (text : List Char) :
    (zeroFilled width text).length = max width text.length := by
  simp only [zeroFilled, List.length_append, List.length_replicate]
  omega

theorem length_toDigits_le {n k : Nat} (hk : 0 < k) (h : n < 10 ^ k) :
    (Nat.toDigits 10 n).length ≤ k :=
  (Nat.length_toDigits_le_iff (by decide) hk).2 h

theorem length_printInt_le {width k : Nat} {n : Int} (hwidth : width ≤ k) (hk : 0 < k)
    (hlow : -10 ^ (k - 1) < n) (hhigh : n < 10 ^ k) : (printInt width n).length ≤ k := by
  rw [printInt]
  split
  next hneg =>
    have hk1 : 0 < k - 1 := by
      by_contra h
      have : k - 1 = 0 := by omega
      rw [this] at hlow
      omega
    have habs : n.natAbs < 10 ^ (k - 1) := by
      zify
      rw [abs_of_neg hneg]
      omega
    have := length_toDigits_le hk1 habs
    rw [List.length_cons, length_zeroFilled]
    omega
  next hpos =>
    have habs : n.natAbs < 10 ^ k := by
      zify
      rwa [abs_of_nonneg (by omega)]
    have := length_toDigits_le hk habs
    rw [length_zeroFilled]
    omega

theorem truncate_bounds {x : ℚ} {a b : Int} (ha : a ≤ 0) (hb : 0 ≤ b) (hlow : (a : ℚ) - 1 < x)
    (hhigh : x < b + 1) : a ≤ truncate x ∧ truncate x ≤ b := by
  rw [truncate]
  split
  next hpos =>
    exact ⟨ha.trans (Int.floor_nonneg.2 hpos), Int.lt_add_one_iff.1 (Int.floor_lt.2 (by simpa))⟩
  next hneg =>
    refine ⟨?_, (Int.ceil_le.2 (by simpa using (not_le.1 hneg).le)).trans hb⟩
    have : a - 1 < ⌈x⌉ := Int.lt_ceil.2 (by simpa)
    omega

theorem roundHalfEven_bounds {x : ℚ} {n : ℕ} (hx : 0 ≤ x) (hn : x < n) :
    0 ≤ roundHalfEven x ∧ roundHalfEven x ≤ n := by
  have hfloor : 0 ≤ ⌊x⌋ := Int.floor_nonneg.2 hx
  have hlt : ⌊x⌋ < n := Int.floor_lt.2 (by exact_mod_cast hn)
  rw [roundHalfEven]
  split_ifs <;> omega

theorem length_printTenths_le {x : ℚ} {k : ℕ} (hk : 0 < k) (h : |x| < 10 ^ k - 1) :
    (printTenths x).length ≤ k + 3 := by
  have hle : (roundHalfEven (|x| * 10)).natAbs ≤ (10 ^ k - 1) * 10 := by
    have hcast : (((10 ^ k - 1) * 10 : ℕ) : ℚ) = (10 ^ k - 1) * 10 := by
      rw [Nat.cast_mul, Nat.cast_sub (Nat.one_le_pow _ _ (by omega))]
      norm_num
    have := roundHalfEven_bounds (n := (10 ^ k - 1) * 10) (x := |x| * 10) (by positivity)
      (by rw [hcast]; linarith)
    omega
  have hpow : 0 < 10 ^ k := by positivity
  have hwhole := length_toDigits_le hk
    (show (roundHalfEven (|x| * 10)).natAbs / 10 < 10 ^ k by omega)
  have htenth := length_toDigits_le one_pos
    (show (roundHalfEven (|x| * 10)).natAbs % 10 < 10 ^ 1 by omega)
  have hsign : (if x < 0 then ['-'] else []).length ≤ 1 := by split <;> simp
  rw [printTenths]
  simp only [List.length_append, List.length_cons]
  omega

theorem ofDigitChars_printInt (width n : ℕ) : Nat.ofDigitChars 10 (printInt width n) 0 = n := by
  rw [printInt, if_neg (by omega), zeroFilled, Nat.ofDigitChars_append,
    Nat.ofDigitChars_replicate_zero, Nat.mul_zero, Int.natAbs_natCast,
    Nat.ofDigitChars_ten_toDigits]

theorem isDigit_of_mem_printInt {width n : ℕ} {c : Char} (hc : c ∈ printInt width n) :
    c.isDigit := by
  rw [printInt, if_neg (by omega), zeroFilled, List.mem_append] at hc
  rcases hc with hc | hc
  · rw [List.eq_of_mem_replicate hc]
    decide
  · exact Nat.isDigit_of_mem_toDigits (by omega) (by omega) hc

theorem printInt_ne_nil (width n : ℕ) : printInt width n ≠ [] := by
  rw [printInt, if_neg (by omega), zeroFilled]
  exact fun h => Nat.toDigits_ne_nil (List.append_eq_nil_iff.1 h).2

/-! ## Buffers -/

/-- `snprintf` behind the text in a buffer of the size: what has no room is cut off. -/
def snprintf (size : Nat) (sentence text : List Char) : List Char :=
  sentence ++ text.take (size - sentence.length - 1)

/-- `snprintf` with its length checked: nothing if the text was cut off. -/
def snprintf? (size : Nat) (sentence text : List Char) : Option (List Char) :=
  if size - sentence.length ≤ text.length then none else some (snprintf size sentence text)

/-- Bytes put over what stands at a place in memory. -/
def overwrite (buf : List Char) (place : Nat) (bytes : List Char) : List Char :=
  buf.take place ++ bytes ++ buf.drop (place + bytes.length)

/-- `snprintf` to a place in memory: the length of the text, and what the memory then holds.
With no size nothing is written, and else a null character too. -/
def snprintfAt (buf : List Char) (place size : Nat) (text : List Char) : Nat × List Char :=
  (text.length, if size = 0 then buf else overwrite buf place (text.take (size - 1) ++ ['\x00']))

variable {size : Nat} {sentence text : List Char}

theorem cString_append_null (htext : '\x00' ∉ text) (rest : List Char) :
    cString (text ++ '\x00' :: rest) = text := by
  have hall : ∀ c ∈ text, decide (c ≠ '\x00') = true := fun c hc =>
    decide_eq_true fun heq => htext (heq ▸ hc)
  rw [cString, List.takeWhile_append_of_pos hall, List.takeWhile_cons_of_neg (by simp),
    List.append_nil]

theorem overwrite_append (front bytes rest : List Char) :
    overwrite (front ++ rest) front.length bytes = front ++ bytes ++ rest.drop bytes.length := by
  rw [overwrite, List.take_left, List.drop_append, List.drop_eq_nil_of_le (by omega),
    List.nil_append, Nat.add_sub_cancel_left]

theorem overwrite_getElem? {buf bytes : List Char} {place i : Nat} (hplace : place ≤ buf.length)
    (hi : place + bytes.length ≤ i) : (overwrite buf place bytes)[i]? = buf[i]? := by
  have hfront : (buf.take place ++ bytes).length = place + bytes.length := by
    rw [List.length_append, List.length_take_of_le hplace]
  rw [overwrite, List.getElem?_append_right (by omega), hfront, List.getElem?_drop,
    Nat.add_sub_cancel' hi]

theorem cString_snprintfAt (hsentence : '\x00' ∉ sentence) (htext : '\x00' ∉ text)
    (rest : List Char) (size : Nat) :
    cString (snprintfAt (sentence ++ '\x00' :: rest) sentence.length size text).2 =
      snprintf (sentence.length + size) sentence text := by
  rw [snprintfAt, snprintf, Nat.add_sub_cancel_left]
  by_cases hsize : size = 0
  · rw [if_pos hsize, hsize, List.take_zero, List.append_nil, cString_append_null hsentence]
  · have hput : '\x00' ∉ sentence ++ text.take (size - 1) :=
      List.not_mem_append hsentence fun h => htext (List.mem_of_mem_take h)
    rw [if_neg hsize, overwrite_append, ← List.append_assoc, List.append_assoc,
      List.singleton_append, cString_append_null hput]

theorem snprintfAt_getElem? {buf : List Char} {place i : Nat} (hplace : place ≤ buf.length)
    (hi : place + size ≤ i) : (snprintfAt buf place size text).2[i]? = buf[i]? := by
  rw [snprintfAt]
  split
  · rfl
  · have hlen := List.length_take_le (size - 1) text
    refine overwrite_getElem? hplace ?_
    rw [List.length_append, List.length_singleton]
    omega

theorem snprintf_of_room (h : sentence.length + text.length < size) :
    snprintf size sentence text = sentence ++ text := by
  rw [snprintf, List.take_of_length_le (by omega)]

theorem snprintf?_of_room (h : sentence.length + text.length < size) :
    snprintf? size sentence text = some (sentence ++ text) := by
  rw [snprintf?, if_neg (by omega), snprintf_of_room h]

theorem length_flatMap_le {ι : Type} {text : ι → List Char} {k : ℕ} {places : List ι}
    (hk : ∀ i ∈ places, (text i).length ≤ k) :
    (places.flatMap text).length ≤ k * places.length := by
  induction places with
  | nil => simp
  | cons i places ih =>
    obtain ⟨hi, hplaces⟩ := List.forall_mem_cons.1 hk
    have := ih hplaces
    rw [List.flatMap_cons, List.length_append, List.length_cons, Nat.mul_succ]
    omega

theorem foldlM_snprintf?_of_room {ι : Type} {text : ι → List Char} {k : ℕ} (places : List ι)
    (hk : ∀ i ∈ places, (text i).length ≤ k) (h : sentence.length + k * places.length < size) :
    places.foldlM (fun sentence i => snprintf? size sentence (text i)) sentence =
      some (sentence ++ places.flatMap text) := by
  induction places generalizing sentence with
  | nil => simp
  | cons i places ih =>
    obtain ⟨hi, hplaces⟩ := List.forall_mem_cons.1 hk
    rw [List.length_cons, Nat.mul_succ] at h
    rw [List.foldlM_cons, snprintf?_of_room (by omega)]
    change places.foldlM _ (sentence ++ text i) = _
    rw [ih hplaces (by rw [List.length_append]; omega), List.flatMap_cons, List.append_assoc]

end Axon7.Lib
