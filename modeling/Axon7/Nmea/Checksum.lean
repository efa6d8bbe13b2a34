import Axon7.Nmea.Gsv

/-!
# The checksum of a sentence

`loc_nmea_put_checksum` goes over a sentence in a buffer, behind its `$`, and prints five
characters where it ends: the star, the sum in two hexadecimal digits, and the end of the line.

`snprintf` is given what the buffer has left and stops there, but the length it gives is the
one the text would have. So the length returned is that of the sentence in the buffer only
where all five characters, and the null character behind them, have had room.
-/

namespace Axon7.Nmea

open Lib

/-! ## The function -/

/-- The variables of the loop. The pointer is a place in the buffer. -/
structure ChecksumState where
  pNmea : Nat
  checksum : UInt8
  length : Nat

/-- The loop, with so many characters of the buffer left. -/
def checksumLoop (buf : List Char) : Nat → ChecksumState → ChecksumState
  | 0, s => s
  | left + 1, s =>
    match buf[s.pNmea]? with
    | some c =>
      if c = '\x00' then s
      else checksumLoop buf left {
        pNmea := s.pNmea + 1
        checksum := s.checksum ^^^ UInt8.ofNat c.toNat
        length := s.length + 1 }
    | none => s

/-- An `int` as a `size_t`. -/
def sizeT (n : Int) : Nat := (n % 2 ^ 64).toNat

/-- `loc_nmea_put_checksum`: what it returns, and what the buffer then holds. -/
def locNmeaPutChecksum (pNmea : Option (List Char)) (maxSize : Int32) :
    Int32 × Option (List Char) :=
  match pNmea with
  | none => (0, none)
  | some buf =>
    let s := checksumLoop buf buf.length ⟨1, 0, 0⟩
    let text := '*' :: printHex 2 s.checksum.toNat ++ ['\r', '\n']
    let (checksumLength, buf) :=
      snprintfAt buf s.pNmea (sizeT (maxSize.toInt - s.length - 1)) text
    (Int32.ofInt (s.length + checksumLength + 1), some buf)

/-! ## The sum -/

/-- The exclusive or of the bytes. -/
def xorOf (body : List Char) : UInt8 := body.foldl (fun sum c => sum ^^^ UInt8.ofNat c.toNat) 0

/-- An upper-case hexadecimal digit. -/
def upperHex (digit : Nat) : Char :=
  if digit < 10 then Char.ofNat ('0'.toNat + digit) else Char.ofNat ('A'.toNat + digit - 10)

/-- The sentence with its checksum: `body` is what stands behind the `$`. -/
def withChecksum (body : List Char) : List Char :=
  '$' :: body ++
    ['*', upperHex ((xorOf body).toNat / 16), upperHex ((xorOf body).toNat % 16), '\r', '\n']

variable {body rest : List Char} {maxSize : Int32}

theorem printHex_byte :
    ∀ sum < 256, printHex 2 sum = [upperHex (sum / 16), upperHex (sum % 16)] := by
  decide +kernel

theorem checksumText_eq (body : List Char) :
    '$' :: body ++ checksumText ('$' :: body) = withChecksum body := by
  rw [checksumText, withChecksum, List.drop_one, List.tail_cons, ← xorOf,
    printHex_byte _ (UInt8.toNat_lt _)]
  rfl

theorem length_withChecksum (body : List Char) :
    (withChecksum body).length = body.length + 6 := by
  simp [withChecksum]

theorem null_notMem_withChecksum (hbody : '\x00' ∉ body) : '\x00' ∉ withChecksum body := by
  have hdigit : ∀ digit < 16, upperHex digit ≠ '\x00' := by decide
  have hsum := (xorOf body).toNat_lt
  have hhigh := hdigit ((xorOf body).toNat / 16) (by omega)
  have hlow := hdigit ((xorOf body).toNat % 16) (by omega)
  simp [withChecksum, hbody, hhigh.symm, hlow.symm]

theorem checksumLoop_eq (seen : List Char) {body : List Char} (hbody : '\x00' ∉ body)
    (rest : List Char) (left : Nat) (hleft : body.length < left) (sum : UInt8) (length : Nat) :
    checksumLoop (seen ++ body ++ '\x00' :: rest) left ⟨seen.length, sum, length⟩ = {
      pNmea := seen.length + body.length
      checksum := body.foldl (fun sum c => sum ^^^ UInt8.ofNat c.toNat) sum
      length := length + body.length } := by
  induction left generalizing seen body sum length with
  | zero => exact absurd hleft (Nat.not_lt_zero _)
  | succ left ih =>
    rw [checksumLoop, List.append_assoc, List.getElem?_append_right le_rfl, Nat.sub_self]
    cases body with
    | nil => rfl
    | cons c body =>
      obtain ⟨hne, hbody⟩ := not_or.1 (List.mem_cons.not.1 hbody)
      have hstep := ih (seen ++ [c]) hbody (Nat.succ_lt_succ_iff.1 hleft)
        (sum ^^^ UInt8.ofNat c.toNat) (length + 1)
      rw [List.append_assoc, List.append_assoc, List.length_append] at hstep
      simp only [List.cons_append, List.getElem?_cons_zero, if_neg (Ne.symm hne)]
      refine hstep.trans ?_
      simp only [List.length_cons, List.length_nil, List.foldl_cons, ChecksumState.mk.injEq,
        true_and]
      omega

/-! ## What is in the buffer -/

theorem sizeT_eq {n : Int} (h : 0 ≤ n) (hlt : n < 2 ^ 64) : (sizeT n : Int) = n := by
  rw [sizeT, Int.emod_eq_of_lt h hlt, Int.toNat_of_nonneg h]

theorem locNmeaPutChecksum_eq (hbody : '\x00' ∉ body) (rest : List Char) (maxSize : Int32) :
    locNmeaPutChecksum (some ('$' :: body ++ '\x00' :: rest)) maxSize =
      (Int32.ofInt (withChecksum body).length,
        some (snprintfAt ('$' :: body ++ '\x00' :: rest) ('$' :: body).length
          (sizeT (maxSize.toInt - body.length - 1)) (checksumText ('$' :: body))).2) := by
  have hloop := checksumLoop_eq ['$'] hbody rest ('$' :: body ++ '\x00' :: rest).length
    (by simp) 0 0
  rw [List.singleton_append, List.length_singleton, Nat.zero_add, ← xorOf] at hloop
  rw [locNmeaPutChecksum, hloop, List.length_cons, Nat.add_comm 1, length_withChecksum]
  have htext : '*' :: printHex 2 (xorOf body).toNat ++ ['\r', '\n'] =
      checksumText ('$' :: body) := rfl
  have hlen : (checksumText ('$' :: body)).length = 5 := by
    have h := congrArg List.length (checksumText_eq body)
    rw [List.length_append, length_withChecksum, List.length_cons] at h
    omega
  have hint : ((body.length : Int) + (5 : Nat) + 1) = (body.length + 6 : Nat) := by omega
  dsimp only
  rw [htext, snprintfAt, hlen, hint]

theorem cString_locNmeaPutChecksum (hbody : '\x00' ∉ body) (rest : List Char)
    (hmax : (('$' :: body).length : Int) < maxSize.toInt) :
    (locNmeaPutChecksum (some ('$' :: body ++ '\x00' :: rest)) maxSize).2.map cString =
      some (putChecksum ('$' :: body) maxSize.toInt.toNat) := by
  have hlt := maxSize.toInt_lt
  have hall := null_notMem_withChecksum hbody
  rw [← checksumText_eq] at hall
  obtain ⟨hsentence, htext⟩ := not_or.1 (List.mem_append.not.1 hall)
  rw [List.length_cons] at hmax
  have hsize := sizeT_eq (n := maxSize.toInt - body.length - 1) (by omega) (by omega)
  have hplace : ('$' :: body).length + sizeT (maxSize.toInt - body.length - 1) =
      maxSize.toInt.toNat := by
    rw [List.length_cons]
    omega
  rw [locNmeaPutChecksum_eq hbody, Option.map_some, cString_snprintfAt hsentence htext, hplace,
    putChecksum]

/-! ## Exact -/

/-- What is returned, and what the buffer then holds, of a sentence put in a buffer. -/
structure Exact (body buf : List Char) (maxSize : Int32) (length : Int32) (buf' : List Char) :
    Prop where
  /-- The five characters are there if they and a null character fit. -/
  text : ((withChecksum body).length : Int) < maxSize.toInt → cString buf' = withChecksum body
  /-- The length is that of the sentence in the buffer. -/
  length : length.toInt = (cString buf').length
  /-- Nothing is written where the size ends, or behind. -/
  room : ∀ i : Nat, maxSize.toInt ≤ i → buf'[i]? = buf[i]?

/-- The length is right exactly if the whole checksum has room. -/
theorem locNmeaPutChecksum_exact_iff (hbody : '\x00' ∉ body) (rest : List Char)
    (hmax : (('$' :: body).length : Int) < maxSize.toInt) :
    (∃ length buf',
      locNmeaPutChecksum (some ('$' :: body ++ '\x00' :: rest)) maxSize = (length, some buf') ∧
        Exact body ('$' :: body ++ '\x00' :: rest) maxSize length buf') ↔
      (('$' :: body).length : Int) + 6 ≤ maxSize.toInt := by
  have hlt := maxSize.toInt_lt
  have htext := cString_locNmeaPutChecksum hbody rest hmax
  have hlen := length_withChecksum body
  have hjoin := checksumText_eq body
  rw [locNmeaPutChecksum_eq hbody, Option.map_some, Option.some_inj, putChecksum] at htext
  have hsentence : ('$' :: body).length = body.length + 1 := List.length_cons
  rw [locNmeaPutChecksum_eq hbody]
  have hsize := sizeT_eq (n := maxSize.toInt - body.length - 1) (by omega) (by omega)
  constructor
  · rintro ⟨length, buf', heq, hexact⟩
    rw [Prod.mk.injEq, Option.some_inj] at heq
    obtain ⟨rfl, rfl⟩ := heq
    have hshort := hexact.length
    by_contra hno
    -- what is in the buffer is shorter than what is returned, and than an `int` can count
    have hcut : (snprintf maxSize.toInt.toNat ('$' :: body) (checksumText ('$' :: body))).length <
        maxSize.toInt := by
      rw [snprintf, List.length_append]
      have := List.length_take_le (maxSize.toInt.toNat - ('$' :: body).length - 1)
        (checksumText ('$' :: body))
      omega
    rw [htext, hlen, Int32.toInt_ofInt] at hshort
    have hmod (n : Int) (hn : n < 2 ^ 31 + 5) (hpos : 0 ≤ n) :
        n.bmod Int32.size = n ∨ n.bmod Int32.size < 0 := by
      rw [Int.bmod_def, Int32.size]
      omega
    have := hmod (body.length + 6 : Nat) (by omega) (by omega)
    omega
  · intro hroom
    have hfits : snprintf maxSize.toInt.toNat ('$' :: body) (checksumText ('$' :: body)) =
        withChecksum body := by
      rw [snprintf_of_room, hjoin]
      rw [← List.length_append, hjoin]
      omega
    rw [hfits] at htext
    refine ⟨_, _, rfl, fun _ => htext, ?_, fun i hi => snprintfAt_getElem? ?_ ?_⟩
    · rw [htext, hlen]
      exact Int32.toInt_ofInt_of_le (by omega) (by omega)
    · rw [List.length_append]
      omega
    · omega

theorem locNmeaPutChecksum_zda :
    (∃ length buf',
      locNmeaPutChecksum (some (['$', 'G', 'P', 'Z', 'D', 'A'] ++ '\x00' ::
        ['\x00', '\x00', '\x00', '\x00', '\x00'])) 12 = (length, some buf') ∧
        Exact ['G', 'P', 'Z', 'D', 'A'] (['$', 'G', 'P', 'Z', 'D', 'A'] ++ '\x00' ::
          ['\x00', '\x00', '\x00', '\x00', '\x00']) 12 length buf') ↔
      ((['$', 'G', 'P', 'Z', 'D', 'A'].length : Nat) : Int) + 6 ≤ Int32.toInt 12 := by
  have hbody : '\x00' ∉ ['G', 'P', 'Z', 'D', 'A'] := by decide
  exact locNmeaPutChecksum_exact_iff hbody _ (by decide)

/-- In four bytes the sentence `$A` gets a star only, and the length of all is returned. -/
theorem locNmeaPutChecksum_short :
    ¬ ∃ length buf',
      locNmeaPutChecksum (some ['$', 'A', '\x00', '\x00']) 4 = (length, some buf') ∧
        Exact ['A'] ['$', 'A', '\x00', '\x00'] 4 length buf' := by
  have heval : locNmeaPutChecksum (some ['$', 'A', '\x00', '\x00']) 4 =
      (7, some ['$', 'A', '*', '\x00']) := by
    decide
  rintro ⟨length, buf', heq, hexact⟩
  rw [heval, Prod.mk.injEq, Option.some_inj] at heq
  obtain ⟨rfl, rfl⟩ := heq
  exact absurd hexact.length (by decide)

end Axon7.Nmea
