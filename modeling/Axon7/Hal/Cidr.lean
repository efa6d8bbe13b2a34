import Axon7.Lib.Text

/-!
# Prefixes

`PrefixParser` takes an address with the length of a prefix after a slash. It cuts the text
at the first slash by hand, reads the length with `atoi` and the address with `inet_pton`,
and makes the mask bit by bit, word after word.
-/

namespace Axon7.Hal

/-- `IP_FAM`, with the guess made. -/
inductive IpFam where
  | v4 | v6
deriving DecidableEq

/-- `Prefix`. -/
structure Prefix where
  fam : IpFam
  v4Addr : BitVec 32
  v4Mask : BitVec 32
  v6Addr : Fin 4 → BitVec 32
  v6Mask : Fin 4 → BitVec 32

/-- What the parser has from the C library: `inet_pton`, which leaves the bytes of the address
in network order, and what `atoi` gives for a number that is no `int`. -/
structure Libc where
  inetPton4 : List Char → Option (Fin 4 → BitVec 8)
  inetPton6 : List Char → Option (Fin 16 → BitVec 8)
  atoiOut : List Char → Int32

/-- What `c_str` shows of a string to the library: up to the first end mark. -/
def cStr (text : List Char) : List Char := text.takeWhile (· ≠ '\x00')

/-- `PrefixParser`. -/
structure PrefixParser where
  prefixes : List Prefix := []
  lastErr : String := "No Err"

/-! ## The parts of a prefix -/

/-- `guessIPFamily`. -/
def guessIPFamily (input : List Char) : IpFam :=
  if ':' ∈ input then .v6 else .v4

/-- `splitIntoAddrAndMask`: nothing before the slash is not recoverable, nothing after it is
no mask. -/
def splitIntoAddrAndMask (input : List Char) : Option (List Char × List Char) :=
  match input.findIdx? (· == '/') with
  | some pos => if 1 ≤ pos then some (input.take pos, input.drop (pos + 1)) else none
  | none => some (input, [])

/-- The longest prefix of the family. -/
def maxLen : IpFam → Nat
  | .v4 => 32
  | .v6 => 128

/-- `parseSubnetMask`. -/
def parseSubnetMask (c : Libc) (mask : List Char) (fam : IpFam) : Int :=
  if mask = [] then maxLen fam else (Lib.atoi c.atoiOut (cStr mask)).toInt

/-- `isMaskValid`, and what it says of a mask that is not. -/
def isMaskValid (mask : Int) (fam : IpFam) : Bool :=
  if mask < 0 then false
  else if mask = 0 then false
  else if fam = .v4 ∧ mask > 32 then false
  else if fam = .v6 ∧ mask > 128 then false
  else true

/-- Four bytes, the first the highest: `htonl` of what `inet_pton` left, for V4, and the
shifts of `parseV6Addr`. -/
def wordOf (a b c d : BitVec 8) : BitVec 32 :=
  a.setWidth 32 <<< 24 ||| b.setWidth 32 <<< 16 ||| c.setWidth 32 <<< 8 ||| d.setWidth 32

/-- One turn of the loop of `createMask`. -/
def maskTurn (mask : Int) (ret : BitVec 32) (i : Nat) : BitVec 32 :=
  if (i : Int) < mask then ret <<< 1 ||| 1#32 else ret <<< 1

/-- `createMask`. -/
def createMask (mask : Int) : BitVec 32 :=
  if 32 ≤ mask then ~~~0#32 else (List.range 32).foldl (maskTurn mask) 0#32

/-- `makeBlankPrefix`. -/
def makeBlankPrefix (fam : IpFam) : Prefix := ⟨fam, 0, 0, fun _ => 0, fun _ => 0⟩

/-- `parseV4Addr`. -/
def parseV4Addr (c : Libc) (addr : List Char) (out : Prefix) : Option Prefix :=
  (c.inetPton4 (cStr addr)).map fun b => { out with v4Addr := wordOf (b 0) (b 1) (b 2) (b 3) }

/-- The four words of the sixteen bytes. -/
def wordsOf (b : Fin 16 → BitVec 8) : Fin 4 → BitVec 32
  | 0 => wordOf (b 0) (b 1) (b 2) (b 3)
  | 1 => wordOf (b 4) (b 5) (b 6) (b 7)
  | 2 => wordOf (b 8) (b 9) (b 10) (b 11)
  | 3 => wordOf (b 12) (b 13) (b 14) (b 15)

/-- `parseV6Addr`. -/
def parseV6Addr (c : Libc) (addr : List Char) (out : Prefix) : Option Prefix :=
  (c.inetPton6 (cStr addr)).map fun b => { out with v6Addr := wordsOf b }

/-- The address, as its family is parsed. -/
def parseAddr (c : Libc) (fam : IpFam) (addr : List Char) (out : Prefix) : Option Prefix :=
  match fam with
  | .v4 => parseV4Addr c addr out
  | .v6 => parseV6Addr c addr out

/-- `populateV4Mask`. -/
def populateV4Mask (mask : Int) (out : Prefix) : Option Prefix :=
  if mask < 0 ∨ mask > 32 then none else some { out with v4Mask := createMask mask }

/-- What is left of the mask after a word. -/
def nextMask (mask : Int) : Int := if mask > 32 then mask - 32 else 0

/-- `populateV6Mask`. -/
def populateV6Mask (mask : Int) (out : Prefix) : Option Prefix :=
  if mask < 0 ∨ mask > 128 then none
  else some { out with v6Mask := fun i => createMask (nextMask^[i] mask) }

/-! ## Taking a prefix -/

/-- The end of `add`. A V4 prefix has its own mask filled, and then the mask of V6 too. -/
def populate (mask : Int) (fam : IpFam) (out : Prefix) : Option Prefix :=
  match fam with
  | .v4 => (populateV4Mask mask out).bind (populateV6Mask mask)
  | .v6 => populateV6Mask mask out

/-- The name the errors give the family. -/
def IpFam.name : IpFam → String
  | .v4 => "V4"
  | .v6 => "V6"

/-- `add`, for a family or for the one it guesses. -/
def PrefixParser.add (c : Libc) (s : PrefixParser) (input : List Char)
    (famHint : Option IpFam) : PrefixParser × Bool :=
  if input.length = 0 then
    ({ s with lastErr := "Failed to parse string, length = 0..." }, false)
  else
    let fam := famHint.getD (guessIPFamily input)
    match splitIntoAddrAndMask input with
    | none =>
      ({ s with lastErr := "Failed to split into Address and Mask(" ++ String.ofList input ++
          ")" }, false)
    | some (addr, subnet) =>
      let mask := parseSubnetMask c subnet fam
      if isMaskValid mask fam then
        match parseAddr c fam addr (makeBlankPrefix fam) with
        | none =>
          ({ s with lastErr := "Failed to parse " ++ fam.name ++ " Address(" ++
              String.ofList addr ++ ")" }, false)
        | some pre =>
          match populate mask fam pre with
          | none =>
            ({ s with lastErr := "Failed to populate IP" ++
                (if fam = .v4 ∧ (populateV4Mask mask pre).isNone then "v4" else "v6") ++
                " Mask(" ++ toString mask ++ ", " ++ String.ofList addr ++ ")" }, false)
          | some pre => ({ s with prefixes := s.prefixes ++ [pre] }, true)
      else ({ s with lastErr := "Invalid mask" }, false)

/-! ## Masks -/

theorem getLsbD_maskTurns (mask : Int) {k : Nat} (hk : k ≤ 32) (j : Nat) :
    ((List.range k).foldl (maskTurn mask) 0#32).getLsbD j =
      decide (j < k ∧ ((k - 1 - j : Nat) : Int) < mask) := by
  induction k generalizing j with
  | zero => simp
  | succ k ih =>
    have hold := ih (by omega)
    rw [List.range_succ, List.foldl_concat, maskTurn]
    cases j with
    | zero =>
      split
      · next hbit => simp [hbit]
      · next hbit => simp [hbit]
    | succ j =>
      have hsub : k + 1 - 1 - (j + 1) = k - 1 - j := by omega
      have hshift : (((List.range k).foldl (maskTurn mask) 0#32) <<< 1).getLsbD (j + 1) =
          decide (j < k ∧ ((k - 1 - j : Nat) : Int) < mask) := by
        rw [BitVec.getLsbD_shiftLeft, Nat.add_sub_cancel, hold]
        by_cases hj : j < k
        · simp [hj]
          omega
        · simp [hj]
      rw [hsub]
      split
      · rw [BitVec.getLsbD_or, hshift]
        simp
      · rw [hshift]
        simp

theorem getMsbD_createMask (mask : Int) {j : Nat} (hj : j < 32) :
    (createMask mask).getMsbD j = decide ((j : Int) < mask) := by
  rw [BitVec.getMsbD, createMask]
  split
  · next hfull =>
    have hin : (j : Int) < mask := by omega
    have hone : (~~~0#32).getLsbD (32 - 1 - j) = true := by
      rw [BitVec.getLsbD_not, BitVec.getLsbD_zero, decide_eq_true (by omega)]
      rfl
    rw [hone, decide_eq_true hj, decide_eq_true hin]
    rfl
  · rw [getLsbD_maskTurns mask le_rfl, decide_eq_true hj, Bool.true_and]
    have hsub : 32 - 1 - (32 - 1 - j) = j := by omega
    have hlow : 32 - 1 - j < 32 := by omega
    simp only [hsub, hlow, true_and]

theorem nextMask_iterate (n : Nat) (i : Nat) : nextMask^[i] (n : Int) = (n - 32 * i : Nat) := by
  induction i with
  | zero => simp
  | succ i ih =>
    rw [Function.iterate_succ_apply', ih, nextMask]
    split <;> omega

theorem getMsbD_v6Mask (n : Nat) (i : Nat) {j : Nat} (hj : j < 32) :
    (createMask (nextMask^[i] (n : Int))).getMsbD j = decide (32 * i + j < n) := by
  rw [nextMask_iterate, getMsbD_createMask _ hj]
  congr 1
  simp only [eq_iff_iff]
  omega

theorem wordOf_eq_append (a b c d : BitVec 8) : wordOf a b c d = a ++ b ++ c ++ d := by
  apply BitVec.eq_of_getLsbD_eq
  intro i hi
  simp only [wordOf, BitVec.getLsbD_or, BitVec.getLsbD_shiftLeft, BitVec.getLsbD_setWidth,
    BitVec.getLsbD_append]
  have hbyte : ∀ (x : BitVec 8) (k : Nat), 8 ≤ k → x.getLsbD k = false := fun x k hk =>
    BitVec.getLsbD_of_ge x k hk
  rcases Nat.lt_or_ge i 8 with h8 | h8
  · simp [h8, hi, show i < 16 by omega, show i < 24 by omega]
  rcases Nat.lt_or_ge i 16 with h16 | h16
  · simp [hi, h16, Nat.not_lt.2 h8, hbyte d i h8, show i < 24 by omega, show i - 8 < 8 by omega,
      show i - 8 < 32 by omega]
  rcases Nat.lt_or_ge i 24 with h24 | h24
  · simp [hi, h24, Nat.not_lt.2 h8, Nat.not_lt.2 h16, hbyte d i h8, hbyte c (i - 8) (by omega),
      show i - 16 < 32 by omega, show i - 8 < 32 by omega, show ¬ i - 8 < 8 by omega,
      show i - 16 < 8 by omega, show i - 8 - 8 = i - 16 by omega]
  · simp [hi, Nat.not_lt.2 h8, Nat.not_lt.2 h16, Nat.not_lt.2 h24, hbyte d i h8,
      hbyte c (i - 8) (by omega), hbyte b (i - 16) (by omega), show i - 16 < 32 by omega,
      show i - 8 < 32 by omega, show i - 24 < 32 by omega, show ¬ i - 8 < 8 by omega,
      show ¬ i - 8 - 8 < 8 by omega, show i - 8 - 8 - 8 = i - 24 by omega]

end Axon7.Hal

/-!
# What a prefix may be written as

A prefix is an address `inet_pton` knows, a slash if one likes and after it a decimal
length. Each prefix so written is taken, with its address and its mask. But `atoi` and
`c_str` take more than that: a length may have text after it, a sign or blanks before it,
and either part may go on behind an end mark. Apart from such texts what is taken is a prefix.
-/

namespace Axon7.Hal

/-- The text before the first slash. -/
def addrPart (input : List Char) : List Char := input.takeWhile (· ≠ '/')

/-- The text after the first slash. -/
def maskPart (input : List Char) : List Char := (input.dropWhile (· ≠ '/')).tail

/-- `inet_pton` has an address for the text. -/
def Libc.Knows (c : Libc) : IpFam → List Char → Prop
  | .v4, text => (c.inetPton4 text).isSome
  | .v6, text => (c.inetPton6 text).isSome

/-- The text writes a prefix of length `n`, the whole address if no length is given. -/
def IsPrefix (c : Libc) (fam : IpFam) (input addr : List Char) (n : Nat) : Prop :=
  c.Knows fam addr ∧
    ((input = addr ∨ input = addr ++ ['/']) ∧ n = maxLen fam ∨
      ∃ digits, input = addr ++ '/' :: digits ∧ Lib.IsNumeral 10 digits ∧
        Lib.numeralValue 10 digits = n ∧ 1 ≤ n ∧ n ≤ maxLen fam)

/-- The address kept is the one the library has for the text. -/
def KeepsAddr (c : Libc) (addr : List Char) (pre : Prefix) : IpFam → Prop
  | .v4 => ∃ b, c.inetPton4 addr = some b ∧ pre.v4Addr = b 0 ++ b 1 ++ b 2 ++ b 3
  | .v6 => ∃ b, c.inetPton6 addr = some b ∧
      pre.v6Addr 0 = b 0 ++ b 1 ++ b 2 ++ b 3 ∧ pre.v6Addr 1 = b 4 ++ b 5 ++ b 6 ++ b 7 ∧
      pre.v6Addr 2 = b 8 ++ b 9 ++ b 10 ++ b 11 ∧ pre.v6Addr 3 = b 12 ++ b 13 ++ b 14 ++ b 15

/-- The mask kept is `n` ones and then zeros, over all words of the family. -/
def KeepsMask (n : Nat) (pre : Prefix) : IpFam → Prop
  | .v4 => ∀ j < 32, pre.v4Mask.getMsbD j = decide (j < n)
  | .v6 => ∀ (i : Fin 4), ∀ j < 32, (pre.v6Mask i).getMsbD j = decide (32 * i + j < n)

/-- The prefix kept is the address of the text with a mask of length `n`. -/
def Stores (c : Libc) (fam : IpFam) (addr : List Char) (n : Nat) (pre : Prefix) : Prop :=
  pre.fam = fam ∧ KeepsAddr c addr pre fam ∧ KeepsMask n pre fam

/-- What `add` should do: take exactly the prefixes, each with its address and mask. -/
def TakesPrefixes (c : Libc) (s : PrefixParser) (input : List Char) (famHint : Option IpFam) :
    Prop :=
  let fam := famHint.getD (guessIPFamily input)
  ((s.add c input famHint).2 = true ↔ ∃ addr n, IsPrefix c fam input addr n) ∧
    ((s.add c input famHint).2 = true → ∃ addr n pre, IsPrefix c fam input addr n ∧
      (s.add c input famHint).1.prefixes = s.prefixes ++ [pre] ∧ Stores c fam addr n pre) ∧
    ((s.add c input famHint).2 = false → (s.add c input famHint).1.prefixes = s.prefixes)

/-- What is let through though it is no prefix: the address is known up to an end mark in it,
or the length is read by `atoi` though it is no number, or none that an `int` holds. -/
def LetThrough (c : Libc) (fam : IpFam) (input : List Char) : Prop :=
  c.Knows fam (cStr (addrPart input)) ∧
    (maskPart input = [] ∨
      1 ≤ (Lib.atoi c.atoiOut (cStr (maskPart input))).toInt ∧
        (Lib.atoi c.atoiOut (cStr (maskPart input))).toInt ≤ maxLen fam) ∧
    ('\x00' ∈ addrPart input ∨
      maskPart input ≠ [] ∧ ¬ (Lib.IsNumeral 10 (maskPart input) ∧
        Lib.numeralValue 10 (maskPart input) < 2 ^ 31))

/-! ## The parts of a text -/

theorem parts_append {addr : List Char} (h : '/' ∉ addr) (mask : List Char) :
    addrPart (addr ++ '/' :: mask) = addr ∧ maskPart (addr ++ '/' :: mask) = mask := by
  have hall : ∀ a ∈ addr, (decide (a ≠ '/')) = true := fun a ha =>
    decide_eq_true fun heq => h (heq ▸ ha)
  constructor
  · rw [addrPart, List.takeWhile_append_of_pos hall, List.takeWhile_cons_of_neg (by simp),
      List.append_nil]
  · rw [maskPart, List.dropWhile_append_of_pos hall, List.dropWhile_cons_of_neg (by simp),
      List.tail_cons]

theorem parts_of_no_slash {addr : List Char} (h : '/' ∉ addr) :
    addrPart addr = addr ∧ maskPart addr = [] := by
  have hall : ∀ a ∈ addr, (decide (a ≠ '/')) = true := fun a ha =>
    decide_eq_true fun heq => h (heq ▸ ha)
  constructor
  · exact List.takeWhile_eq_self_iff.2 hall
  · rw [maskPart, List.dropWhile_eq_nil_iff.2 hall, List.tail_nil]

theorem splitIntoAddrAndMask_eq {input : List Char} (hne : input ≠ []) :
    splitIntoAddrAndMask input =
      if addrPart input = [] then none else some (addrPart input, maskPart input) := by
  by_cases hslash : '/' ∈ input
  · obtain ⟨addr, mask, rfl, haddr⟩ := List.eq_append_cons_of_mem hslash
    obtain ⟨hA, hM⟩ := parts_append haddr mask
    rw [splitIntoAddrAndMask, Lib.findIdx?_append_sep haddr, hA, hM]
    cases addr with
    | nil => rfl
    | cons a addr => simp
  · obtain ⟨hA, hM⟩ := parts_of_no_slash hslash
    rw [splitIntoAddrAndMask, Lib.findIdx?_of_notMem hslash, hA, hM, if_neg hne]

theorem isMaskValid_iff (mask : Int) (fam : IpFam) :
    isMaskValid mask fam = true ↔ 1 ≤ mask ∧ mask ≤ maxLen fam := by
  unfold isMaskValid
  cases fam <;> simp only [maxLen] <;> split_ifs <;> simp_all <;> omega

/-! ## What is taken -/

theorem populate_spec (fam : IpFam) {n : Nat} (h : n ≤ maxLen fam) (pre : Prefix) :
    ∃ out, populate n fam pre = some out ∧ out.fam = pre.fam ∧
      out.v4Addr = pre.v4Addr ∧ out.v6Addr = pre.v6Addr ∧ KeepsMask n out fam := by
  have hv6 : ¬ ((n : Int) < 0 ∨ (n : Int) > 128) := by
    cases fam <;> simp only [maxLen] at h <;> omega
  cases fam with
  | v4 =>
    have hv4 : ¬ ((n : Int) < 0 ∨ (n : Int) > 32) := by
      simp only [maxLen] at h
      omega
    rw [populate, populateV4Mask, if_neg hv4]
    change ∃ out, populateV6Mask n _ = some out ∧ _
    rw [populateV6Mask, if_neg hv6]
    refine ⟨_, rfl, rfl, rfl, rfl, fun j hj => ?_⟩
    simpa using getMsbD_createMask n hj
  | v6 =>
    rw [populate, populateV6Mask, if_neg hv6]
    exact ⟨_, rfl, rfl, rfl, rfl, fun i j hj => getMsbD_v6Mask n i hj⟩

theorem parseAddr_spec (c : Libc) (fam : IpFam) (addr : List Char) (out : Prefix) :
    (c.Knows fam (cStr addr) ∧ ∃ pre, parseAddr c fam addr out = some pre ∧
      pre.fam = out.fam ∧ KeepsAddr c (cStr addr) pre fam) ∨
    (¬ c.Knows fam (cStr addr) ∧ parseAddr c fam addr out = none) := by
  cases fam with
  | v4 =>
    rw [parseAddr, parseV4Addr]
    cases hpton : c.inetPton4 (cStr addr) with
    | none => exact .inr ⟨by simp [Libc.Knows, hpton], rfl⟩
    | some b =>
      exact .inl ⟨by simp [Libc.Knows, hpton], _, rfl, rfl, b, hpton, wordOf_eq_append ..⟩
  | v6 =>
    rw [parseAddr, parseV6Addr]
    cases hpton : c.inetPton6 (cStr addr) with
    | none => exact .inr ⟨by simp [Libc.Knows, hpton], rfl⟩
    | some b =>
      exact .inl ⟨by simp [Libc.Knows, hpton], _, rfl, rfl, b, hpton, wordOf_eq_append ..,
        wordOf_eq_append .., wordOf_eq_append .., wordOf_eq_append ..⟩

theorem KeepsAddr.congr {c : Libc} {addr : List Char} {pre out : Prefix} {fam : IpFam}
    (h : KeepsAddr c addr pre fam) (hv4 : out.v4Addr = pre.v4Addr)
    (hv6 : out.v6Addr = pre.v6Addr) : KeepsAddr c addr out fam := by
  cases fam with
  | v4 => simpa only [KeepsAddr, hv4] using h
  | v6 => simpa only [KeepsAddr, hv6] using h

theorem PrefixParser.add_spec (c : Libc) (s : PrefixParser) (input : List Char)
    (famHint : Option IpFam) :
    let fam := famHint.getD (guessIPFamily input)
    let mask := parseSubnetMask c (maskPart input) fam
    let taken := addrPart input ≠ [] ∧ (1 ≤ mask ∧ mask ≤ maxLen fam) ∧
      c.Knows fam (cStr (addrPart input))
    (taken ∧ (s.add c input famHint).2 = true ∧
      ∃ pre, (s.add c input famHint).1.prefixes = s.prefixes ++ [pre] ∧
        Stores c fam (cStr (addrPart input)) mask.toNat pre) ∨
    (¬ taken ∧ (s.add c input famHint).2 = false ∧
      (s.add c input famHint).1.prefixes = s.prefixes) := by
  intro fam mask taken
  by_cases hne : input = []
  · subst hne
    exact .inr ⟨fun h => h.1 rfl, rfl, rfl⟩
  rw [PrefixParser.add, if_neg (by simpa using hne), splitIntoAddrAndMask_eq hne]
  by_cases haddr : addrPart input = []
  · rw [if_pos haddr]
    exact .inr ⟨fun h => h.1 haddr, rfl, rfl⟩
  rw [if_neg haddr]
  dsimp only
  by_cases hmask : isMaskValid mask fam = true
  · rw [if_pos hmask]
    have hrange := (isMaskValid_iff mask fam).1 hmask
    rcases parseAddr_spec c fam (addrPart input) (makeBlankPrefix fam) with
      ⟨hknows, pre, hpre, hfam, hkeeps⟩ | ⟨hknows, hpre⟩
    · obtain ⟨n, hn⟩ : ∃ n : Nat, mask = n := ⟨mask.toNat, by omega⟩
      obtain ⟨out, hout, hfam', hv4, hv6, hmaskOf⟩ :=
        populate_spec fam (n := n) (by omega) pre
      refine .inl ⟨⟨haddr, hrange, hknows⟩, ?_⟩
      rw [hpre]
      dsimp only
      rw [(congrArg (populate · fam pre) hn).trans hout]
      refine ⟨rfl, out, rfl, hfam'.trans hfam, hkeeps.congr hv4 hv6, ?_⟩
      rw [hn]
      exact hmaskOf
    · rw [hpre]
      exact .inr ⟨fun h => hknows h.2.2, rfl, rfl⟩
  · rw [if_neg hmask]
    exact .inr ⟨fun h => hmask ((isMaskValid_iff mask fam).2 h.2.1), rfl, rfl⟩

/-! ## Texts that are prefixes -/

theorem input_eq_parts (input : List Char) :
    input = addrPart input ++ '/' :: maskPart input ∨
      input = addrPart input ∧ maskPart input = [] := by
  by_cases hslash : '/' ∈ input
  · obtain ⟨addr, mask, rfl, haddr⟩ := List.eq_append_cons_of_mem hslash
    obtain ⟨hA, hM⟩ := parts_append haddr mask
    exact .inl (by rw [hA, hM])
  · obtain ⟨hA, hM⟩ := parts_of_no_slash hslash
    exact .inr ⟨hA.symm, hM⟩

theorem cStr_eq {text : List Char} (h : '\x00' ∉ text) : cStr text = text :=
  List.takeWhile_eq_self_iff.2 fun _ ha => decide_eq_true fun heq => h (heq ▸ ha)

theorem cStr_numeral {digits : List Char} (h : Lib.IsNumeral 10 digits) :
    cStr digits = digits :=
  cStr_eq fun hmem => absurd (h.2 _ hmem) (by decide)

theorem one_le_maxLen (fam : IpFam) : 1 ≤ maxLen fam ∧ maxLen fam < 2 ^ 31 := by
  cases fam <;> simp [maxLen]

section Plain

variable {c : Libc} {fam : IpFam} {input addr : List Char} {n : Nat}

theorem IsPrefix.parts
    (hplain : ∀ fam text, c.Knows fam text → text ≠ [] ∧ '/' ∉ text ∧ '\x00' ∉ text)
    (h : IsPrefix c fam input addr n) :
    addrPart input = addr ∧
      (maskPart input = [] ∧ n = maxLen fam ∨
        Lib.IsNumeral 10 (maskPart input) ∧ Lib.numeralValue 10 (maskPart input) = n ∧
          1 ≤ n ∧ n ≤ maxLen fam) := by
  obtain ⟨hknows, hform⟩ := h
  have hslash : '/' ∉ addr := (hplain fam addr hknows).2.1
  rcases hform with ⟨rfl | rfl, hn⟩ | ⟨digits, rfl, hdigits, hrest⟩
  · obtain ⟨hA, hM⟩ := parts_of_no_slash hslash
    exact ⟨hA, .inl ⟨hM, hn⟩⟩
  · obtain ⟨hA, hM⟩ := parts_append hslash []
    exact ⟨hA, .inl ⟨hM, hn⟩⟩
  · obtain ⟨hA, hM⟩ := parts_append hslash digits
    exact ⟨hA, .inr ⟨hM.symm ▸ hdigits, hM.symm ▸ hrest⟩⟩

theorem IsPrefix.taken
    (hplain : ∀ fam text, c.Knows fam text → text ≠ [] ∧ '/' ∉ text ∧ '\x00' ∉ text)
    (h : IsPrefix c fam input addr n) :
    addrPart input ≠ [] ∧ (1 ≤ parseSubnetMask c (maskPart input) fam ∧
      parseSubnetMask c (maskPart input) fam ≤ maxLen fam) ∧
        c.Knows fam (cStr (addrPart input)) := by
  obtain ⟨haddr, hmask⟩ := h.parts hplain
  obtain ⟨hne, -, hend⟩ := hplain fam addr h.1
  have hmax := one_le_maxLen fam
  refine ⟨haddr ▸ hne, ?_, by rw [haddr, cStr_eq hend]; exact h.1⟩
  rcases hmask with ⟨hnone, -⟩ | ⟨hdigits, hvalue, hrange⟩
  · rw [parseSubnetMask, if_pos hnone]
    omega
  · rw [parseSubnetMask, if_neg hdigits.1, cStr_numeral hdigits, Lib.atoi_eq _ hdigits (by omega),
      hvalue]
    omega

theorem isPrefix_of_taken (hthrough : ¬ LetThrough c fam input)
    (hmask : 1 ≤ parseSubnetMask c (maskPart input) fam ∧
      parseSubnetMask c (maskPart input) fam ≤ maxLen fam)
    (hknows : c.Knows fam (cStr (addrPart input))) :
    cStr (addrPart input) = addrPart input ∧
      IsPrefix c fam input (addrPart input) (parseSubnetMask c (maskPart input) fam).toNat := by
  have hread : maskPart input = [] ∨
      1 ≤ (Lib.atoi c.atoiOut (cStr (maskPart input))).toInt ∧
        (Lib.atoi c.atoiOut (cStr (maskPart input))).toInt ≤ maxLen fam := by
    by_cases hnone : maskPart input = []
    · exact .inl hnone
    · rw [parseSubnetMask, if_neg hnone] at hmask
      exact .inr hmask
  have hplainParts : '\x00' ∉ addrPart input ∧ (maskPart input = [] ∨
      Lib.IsNumeral 10 (maskPart input) ∧ Lib.numeralValue 10 (maskPart input) < 2 ^ 31) := by
    by_contra hcon
    refine hthrough ⟨hknows, hread, ?_⟩
    tauto
  obtain ⟨hend, hform⟩ := hplainParts
  rw [cStr_eq hend] at hknows
  refine ⟨cStr_eq hend, hknows, ?_⟩
  rcases hform with hnone | ⟨hdigits, hfits⟩
  · refine .inl ⟨?_, by rw [parseSubnetMask, if_pos hnone]; rfl⟩
    rcases input_eq_parts input with hslash | ⟨hwhole, -⟩
    · exact .inr (by rw [hnone] at hslash; exact hslash)
    · exact .inl hwhole
  · have hvalue : parseSubnetMask c (maskPart input) fam =
        Lib.numeralValue 10 (maskPart input) := by
      rw [parseSubnetMask, if_neg hdigits.1, cStr_numeral hdigits, Lib.atoi_eq _ hdigits hfits]
    refine .inr ⟨maskPart input, ?_, hdigits, by rw [hvalue]; rfl, by omega, by omega⟩
    rcases input_eq_parts input with hslash | ⟨-, hnone⟩
    · exact hslash
    · exact absurd hnone hdigits.1

/-- `add` takes exactly the prefixes, each with its address and its mask, unless the text is
one of those let through. -/
theorem PrefixParser.takesPrefixes_iff (c : Libc)
    (hplain : ∀ fam text, c.Knows fam text → text ≠ [] ∧ '/' ∉ text ∧ '\x00' ∉ text)
    (s : PrefixParser) (input : List Char) (famHint : Option IpFam) :
    TakesPrefixes c s input famHint ↔
      ¬ LetThrough c (famHint.getD (guessIPFamily input)) input := by
  have hspec := s.add_spec c input famHint
  dsimp only at hspec
  constructor
  · intro haccepts hspec
    obtain ⟨haccept, -, -⟩ := haccepts
    obtain ⟨hknows, hread, hodd⟩ := hspec
    have hmask : 1 ≤ parseSubnetMask c (maskPart input) (famHint.getD (guessIPFamily input)) ∧
        parseSubnetMask c (maskPart input) (famHint.getD (guessIPFamily input)) ≤
          maxLen (famHint.getD (guessIPFamily input)) := by
      have hmax := one_le_maxLen (famHint.getD (guessIPFamily input))
      by_cases hnone : maskPart input = []
      · rw [parseSubnetMask, if_pos hnone]
        omega
      · rw [parseSubnetMask, if_neg hnone]
        exact hread.resolve_left hnone
    have hne : addrPart input ≠ [] := by
      intro hnil
      rw [hnil] at hknows
      exact (hplain _ _ hknows).1 rfl
    have htaken : (s.add c input famHint).2 = true := by
      rcases hspec with ⟨-, htrue, -⟩ | ⟨hnot, -, -⟩
      · exact htrue
      · exact absurd ⟨hne, hmask, hknows⟩ hnot
    obtain ⟨addr, n, hwritten⟩ := haccept.1 htaken
    obtain ⟨haddr, hform⟩ := hwritten.parts hplain
    rcases hodd with hend | ⟨hsome, hnumeral⟩
    · exact (hplain _ _ hwritten.1).2.2 (haddr ▸ hend)
    · rcases hform with ⟨hnone, -⟩ | ⟨hdigits, hvalue, -, hle⟩
      · exact hsome hnone
      · have hmax := one_le_maxLen (famHint.getD (guessIPFamily input))
        exact hnumeral ⟨hdigits, by omega⟩
  · intro hthrough
    rcases hspec with ⟨⟨-, hmask, hknows⟩, htrue, pre, hpre, hstores⟩ | ⟨hnot, hfalse, hsame⟩
    · obtain ⟨hplainAddr, hwritten⟩ := isPrefix_of_taken hthrough hmask hknows
      rw [hplainAddr] at hstores
      exact ⟨⟨fun _ => ⟨_, _, hwritten⟩, fun _ => htrue⟩,
        fun _ => ⟨_, _, pre, hwritten, hpre, hstores⟩, fun h => absurd htrue (by simp [h])⟩
    · have hno : (s.add c input famHint).2 ≠ true := by simp [hfalse]
      refine ⟨⟨fun h => absurd h hno, ?_⟩, fun h => absurd h hno, fun _ => hsame⟩
      intro hwrites
      obtain ⟨addr, n, hwritten⟩ := hwrites
      exact absurd (hwritten.taken hplain) hnot

end Plain

/-- A library that is asked for one address alone. -/
def tenNetwork : Libc where
  inetPton4 text :=
    if text = ['1', '0', '.', '0', '.', '0', '.', '0'] then
      some fun i => if i = 0 then 10 else 0
    else none
  inetPton6 _ := none
  atoiOut _ := 0

theorem tenNetwork_plain (fam : IpFam) (text : List Char) (h : tenNetwork.Knows fam text) :
    text ≠ [] ∧ '/' ∉ text ∧ '\x00' ∉ text := by
  cases fam with
  | v4 =>
    by_cases htext : text = ['1', '0', '.', '0', '.', '0', '.', '0']
    · rw [htext]
      decide
    · simp [Libc.Knows, tenNetwork, htext] at h
  | v6 => simp [Libc.Knows, tenNetwork] at h

theorem PrefixParser.takesPrefixes_iff_of_tenNetwork :
    TakesPrefixes tenNetwork {} ['1', '0', '.', '0', '.', '0', '.', '0', '/', '8'] none ↔
      ¬ LetThrough tenNetwork .v4 ['1', '0', '.', '0', '.', '0', '.', '0', '/', '8'] :=
  PrefixParser.takesPrefixes_iff tenNetwork tenNetwork_plain {}
    ['1', '0', '.', '0', '.', '0', '.', '0', '/', '8'] none

/-- A length with letters after it is taken for the length. -/
theorem PrefixParser.takes_trailing_text :
    ¬ ∀ (c : Libc) (s : PrefixParser) (input : List Char) (famHint : Option IpFam),
      (∀ fam text, c.Knows fam text → text ≠ [] ∧ '/' ∉ text ∧ '\x00' ∉ text) →
      TakesPrefixes c s input famHint := by
  intro h
  obtain ⟨⟨htaken, -⟩, -⟩ := h tenNetwork {}
    ['1', '0', '.', '0', '.', '0', '.', '0', '/', '8', 'a', 'b', 'c'] none tenNetwork_plain
  obtain ⟨addr, n, hwritten⟩ := htaken (by decide)
  rcases (hwritten.parts tenNetwork_plain).2 with ⟨hnone, -⟩ | ⟨hdigits, -⟩
  · exact absurd hnone (by decide)
  · exact absurd hdigits (by decide +kernel)

end Axon7.Hal
