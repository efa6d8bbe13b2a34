import Axon7.Status.Parsers

/-!
# The masks of the status sentences

The masks are written in hexadecimal, one bit for a satellite, and kept in fields of 8, 32
and 64 bits without a sign. All are read as a `long`, which has one: a mask that a `long`
cannot hold is read as the largest that it can, and the satellites at the end of the
constellation are lost.
-/

namespace Axon7.Status

/-- The masks, by the field of the record that keeps them. -/
inductive MaskField where
  | epiValidity
  | xtraValidMask
  | gpsXtraValid
  | gloXtraValid
  | bdsXtraValid
  | galXtraValid
  | qzssXtraValid
  | gpsEpheValid
  | gloEpheValid
  | bdsEpheValid
  | galEpheValid
  | qzssEpheValid
  | gpsUnknownMask
  | gloUnknownMask
  | bdsUnknownMask
  | galUnknownMask
  | qzssUnknownMask
  | gpsGoodMask
  | gloGoodMask
  | bdsGoodMask
  | galGoodMask
  | qzssGoodMask
  | gpsBadMask
  | gloBadMask
  | bdsBadMask
  | galBadMask
  | qzssBadMask
  | fixInfoMask

namespace MaskField

/-- The tag of the sentence, the number of its fields with the tag, where the mask stands
in it, and the bits of the field that keeps it. -/
def layout : MaskField → List Char × Nat × Nat × Nat
  | epiValidity => (['P', 'Q', 'W', 'P', '1'], 9, 2, 8)
  | xtraValidMask => (['P', 'Q', 'W', 'P', '3'], 13, 2, 8)
  | gpsXtraValid => (['P', 'Q', 'W', 'P', '3'], 13, 8, 32)
  | gloXtraValid => (['P', 'Q', 'W', 'P', '3'], 13, 9, 32)
  | bdsXtraValid => (['P', 'Q', 'W', 'P', '3'], 13, 10, 64)
  | galXtraValid => (['P', 'Q', 'W', 'P', '3'], 13, 11, 64)
  | qzssXtraValid => (['P', 'Q', 'W', 'P', '3'], 13, 12, 8)
  | gpsEpheValid => (['P', 'Q', 'W', 'P', '4'], 7, 2, 32)
  | gloEpheValid => (['P', 'Q', 'W', 'P', '4'], 7, 3, 32)
  | bdsEpheValid => (['P', 'Q', 'W', 'P', '4'], 7, 4, 64)
  | galEpheValid => (['P', 'Q', 'W', 'P', '4'], 7, 5, 64)
  | qzssEpheValid => (['P', 'Q', 'W', 'P', '4'], 7, 6, 8)
  | gpsUnknownMask => (['P', 'Q', 'W', 'P', '5'], 17, 2, 32)
  | gloUnknownMask => (['P', 'Q', 'W', 'P', '5'], 17, 3, 32)
  | bdsUnknownMask => (['P', 'Q', 'W', 'P', '5'], 17, 4, 64)
  | galUnknownMask => (['P', 'Q', 'W', 'P', '5'], 17, 5, 64)
  | qzssUnknownMask => (['P', 'Q', 'W', 'P', '5'], 17, 6, 8)
  | gpsGoodMask => (['P', 'Q', 'W', 'P', '5'], 17, 7, 32)
  | gloGoodMask => (['P', 'Q', 'W', 'P', '5'], 17, 8, 32)
  | bdsGoodMask => (['P', 'Q', 'W', 'P', '5'], 17, 9, 64)
  | galGoodMask => (['P', 'Q', 'W', 'P', '5'], 17, 10, 64)
  | qzssGoodMask => (['P', 'Q', 'W', 'P', '5'], 17, 11, 8)
  | gpsBadMask => (['P', 'Q', 'W', 'P', '5'], 17, 12, 32)
  | gloBadMask => (['P', 'Q', 'W', 'P', '5'], 17, 13, 32)
  | bdsBadMask => (['P', 'Q', 'W', 'P', '5'], 17, 14, 64)
  | galBadMask => (['P', 'Q', 'W', 'P', '5'], 17, 15, 64)
  | qzssBadMask => (['P', 'Q', 'W', 'P', '5'], 17, 16, 8)
  | fixInfoMask => (['P', 'Q', 'W', 'P', '6'], 3, 2, 32)

/-- The tag of the sentence. -/
def tag (m : MaskField) : List Char := m.layout.1

/-- `eMax` of the sentence. -/
def size (m : MaskField) : Nat := m.layout.2.1

/-- Where the mask stands in the sentence. -/
def index (m : MaskField) : Nat := m.layout.2.2.1

/-- The bits of the field that keeps the mask. -/
def width (m : MaskField) : Nat := m.layout.2.2.2

/-- The mask that parsing the sentence leaves in the record. -/
def read (m : MaskField) (p : Platform) (blank : Blank p) (strIn : List Char) (lenIn : Nat) :
    Nat :=
  let p3 := pqwp3parser p blank.p3 strIn lenIn
  let p4 := pqwp4parser p blank.p4 strIn lenIn
  let p5 := pqwp5parser p blank.p5 strIn lenIn
  match m with
  | epiValidity => (pqwp1parser p blank.p1 strIn lenIn).epiValidity.toNat
  | xtraValidMask => p3.xtraValidMask.toNat
  | gpsXtraValid => p3.gpsXtraValid.toNat
  | gloXtraValid => p3.gloXtraValid.toNat
  | bdsXtraValid => p3.bdsXtraValid.toNat
  | galXtraValid => p3.galXtraValid.toNat
  | qzssXtraValid => p3.qzssXtraValid.toNat
  | gpsEpheValid => p4.gpsEpheValid.toNat
  | gloEpheValid => p4.gloEpheValid.toNat
  | bdsEpheValid => p4.bdsEpheValid.toNat
  | galEpheValid => p4.galEpheValid.toNat
  | qzssEpheValid => p4.qzssEpheValid.toNat
  | gpsUnknownMask => p5.gpsUnknownMask.toNat
  | gloUnknownMask => p5.gloUnknownMask.toNat
  | bdsUnknownMask => p5.bdsUnknownMask.toNat
  | galUnknownMask => p5.galUnknownMask.toNat
  | qzssUnknownMask => p5.qzssUnknownMask.toNat
  | gpsGoodMask => p5.gpsGoodMask.toNat
  | gloGoodMask => p5.gloGoodMask.toNat
  | bdsGoodMask => p5.bdsGoodMask.toNat
  | galGoodMask => p5.galGoodMask.toNat
  | qzssGoodMask => p5.qzssGoodMask.toNat
  | gpsBadMask => p5.gpsBadMask.toNat
  | gloBadMask => p5.gloBadMask.toNat
  | bdsBadMask => p5.bdsBadMask.toNat
  | galBadMask => p5.galBadMask.toNat
  | qzssBadMask => p5.qzssBadMask.toNat
  | fixInfoMask => (pqwp6parser p blank.p6 strIn lenIn).fixInfoMask.toNat

end MaskField

/-! ## What is read -/

theorem toNat_ofInt8 (x : Int) : (UInt8.ofInt x).toNat = (x % 2 ^ 8).toNat := by
  rw [UInt8.ofInt, UInt8.toNat_ofNat']
  omega

theorem toNat_ofInt32 (x : Int) : (UInt32.ofInt x).toNat = (x % 2 ^ 32).toNat := by
  rw [UInt32.ofInt, UInt32.toNat_ofNat']
  omega

theorem toNat_ofInt64 (x : Int) : (UInt64.ofInt x).toNat = (x % 2 ^ 64).toNat := by
  rw [UInt64.ofInt, UInt64.toNat_ofNat']
  omega

theorem MaskField.read_eq (m : MaskField) (p : Platform) (blank : Blank p) {strIn : List Char}
    {lenIn : Nat} (hsize : m.size ≤ (nmeaFields strIn lenIn).length) :
    m.read p blank strIn lenIn =
      (p.strtol16 (fieldAt (nmeaFields strIn lenIn) m.index) % 2 ^ m.width).toNat := by
  cases m <;>
    simp only [MaskField.size, MaskField.layout] at hsize <;>
    simp only [MaskField.read, pqwp1parser, pqwp3parser, pqwp4parser, pqwp5parser, pqwp6parser,
      if_neg (Nat.not_lt.2 hsize), toNat_ofInt8, toNat_ofInt32, toNat_ofInt64,
      MaskField.index, MaskField.width, MaskField.layout]

theorem MaskField.talker_tag (m : MaskField) : ['P', 'Q', 'W'] <+: m.tag := by
  cases m <;> decide

theorem MaskField.tag_separators (m : MaskField) : ',' ∉ m.tag ∧ '*' ∉ m.tag := by
  cases m <;> decide

theorem MaskField.index_pos (m : MaskField) : 0 < m.index := by
  cases m <;> decide

/-- A mask written in hexadecimal is read as it is if a `long` can hold it, and else it is
not. -/
theorem MaskField.read_numeral_iff (p : Platform) (blank : Blank p) (m : MaskField)
    (fields : List (List Char)) (check : List Char) (lenIn : Nat) (text : List Char)
    (hfields : ∀ f ∈ fields, ',' ∉ f ∧ '*' ∉ f) (hcheck : ',' ∉ check)
    (hmin : minSize ≤ lenIn) (hmax : lenIn ≤ maxSize) (hsize : m.size ≤ fields.length + 1)
    (htext : fields[m.index - 1]? = some text) (hhex : Lib.IsNumeral 16 text)
    (hvalue : Lib.numeralValue 16 text < 2 ^ m.width) :
    m.read p blank (sentence m.tag fields check) lenIn = Lib.numeralValue 16 text ↔
      Lib.numeralValue 16 text ≤ Lib.longMax p.longBits := by
  have hall := nmeaFields_sentence m.tag fields check lenIn m.talker_tag
    (List.forall_mem_cons.2 ⟨m.tag_separators, hfields⟩) hcheck hmin hmax
  have hfield : fieldAt (('$' :: m.tag) :: fields) m.index = text := by
    obtain ⟨i, hi⟩ : ∃ i, m.index = i + 1 := ⟨m.index - 1, by have := m.index_pos; omega⟩
    rw [hi, Nat.add_sub_cancel] at htext
    rw [fieldAt, hi, List.getD_cons_succ, List.getD_eq_getElem?_getD, htext]
    rfl
  rw [m.read_eq p blank (by rw [hall, List.length_cons]; exact hsize), hall, hfield,
    Platform.strtol16, Lib.strtol_eq _ hhex]
  have hlong : 0 ≤ Lib.longMax p.longBits := by
    have : (0 : Int) < 2 ^ (p.longBits - 1) := by positivity
    rw [Lib.longMax]
    omega
  have hwidth : (Lib.numeralValue 16 text : Int) < 2 ^ m.width := by exact_mod_cast hvalue
  rw [Int.emod_eq_of_lt (by omega) (by omega)]
  omega

/-- A platform with whole numbers for its floating point. -/
def wholePlatform (longBits : Nat) : Platform where
  longBits := longBits
  atoiOut _ := 0
  Double := Int
  Float := Int
  atof := Lib.scanInt 10
  zero := 0
  toFloat x := x
  ofInt x := x.toInt
  eqDouble a b := a == b
  eqFloat a b := a == b

/-- Memory that was cleared. -/
def clearBlank (longBits : Nat) : Blank (wholePlatform longBits) where
  p1 := ⟨0, (0 : Int), (0 : Int), (0 : Int), (0 : Int), (0 : Int), 0⟩
  p2 := ⟨(0 : Int), (0 : Int), (0 : Int), (0 : Int), (0 : Int)⟩
  p3 := ⟨0, 0, 0, 0, 0, 0, 0, 0, 0, 0, 0⟩
  p4 := ⟨0, 0, 0, 0, 0⟩
  p5 := ⟨0, 0, 0, 0, 0, 0, 0, 0, 0, 0, 0, 0, 0, 0, 0⟩
  p6 := ⟨0⟩
  p7 := ⟨fun _ => ⟨0, 0, 0⟩⟩
  s1 := ⟨0, 0⟩

theorem MaskField.read_numeral_iff_of_galileo :
    MaskField.galEpheValid.read (wholePlatform 64) (clearBlank 64)
        (sentence MaskField.galEpheValid.tag [[], ['1'], ['1'], ['1'], ['f', 'F'], ['1']] ['0'])
        20 = 255 ↔
      (255 : Int) ≤ Lib.longMax 64 :=
  MaskField.read_numeral_iff (wholePlatform 64) (clearBlank 64) .galEpheValid
    [[], ['1'], ['1'], ['1'], ['f', 'F'], ['1']] ['0'] 20 ['f', 'F'] (by decide) (by decide)
    (by decide) (by decide) (by decide) rfl (by decide +kernel) (by decide)

/-- With all satellites of Galileo up to the last bit, the mask of 64 bits loses it. -/
theorem MaskField.read_saturates :
    ¬ ∀ (p : Platform) (blank : Blank p) (m : MaskField) (fields : List (List Char))
      (check : List Char) (lenIn : Nat) (text : List Char),
      (∀ f ∈ fields, ',' ∉ f ∧ '*' ∉ f) → ',' ∉ check →
      minSize ≤ lenIn → lenIn ≤ maxSize → m.size ≤ fields.length + 1 →
      fields[m.index - 1]? = some text → Lib.IsNumeral 16 text →
      Lib.numeralValue 16 text < 2 ^ m.width →
      m.read p blank (sentence m.tag fields check) lenIn = Lib.numeralValue 16 text := by
  intro h
  have := h (wholePlatform 64) (clearBlank 64) .galEpheValid
    [[], ['0'], ['0'], ['0'], List.replicate 16 'F', ['0']] ['0'] 34 (List.replicate 16 'F')
    (by decide) (by decide) (by decide) (by decide) (by decide) rfl (by decide +kernel) (by decide)
  exact absurd this (by decide +kernel)

end Axon7.Status
