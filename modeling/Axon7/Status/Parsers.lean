import Axon7.Lib.Text

/-!
# The fields of a status sentence

A sentence is `$`, a tag, the fields with a comma before each, a star and a check field. The
tokenizer turns the star into a comma and cuts at every comma, so that the last field ends
where the star was and what follows it is left over. Joining and cutting are inverse as long
as no field has a separator in it.
-/

namespace Axon7.Status

/-- `DEBUG_NMEA_MINSIZE`. -/
def minSize : Nat := 6

/-- `DEBUG_NMEA_MAXSIZE`. -/
def maxSize : Nat := 4096

/-- What every sentence of the status begins with. -/
def talker : List Char := ['$', 'P', 'Q', 'W']

/-- `loc_nmea_is_debug`. A string is its characters up to the end mark; a length too large
for an `int` is negative there, and refused as it is here. -/
def isDebug (nmea : List Char) (length : Nat) : Bool :=
  minSize ≤ length && length ≤ maxSize && nmea.take 4 == talker

/-- The loop of the tokenizer: a field ends at the next comma, and what follows the last is
none. `str` is what has been passed of the field. -/
def cutFields (str : List Char) : List Char → List (List Char)
  | [] => []
  | c :: parser => if c = ',' then str :: cutFields [] parser else cutFields (str ++ [c]) parser

/-- `SystemStatusNmeaBase`: what is left in `mField`. -/
def nmeaFields (strIn : List Char) (lenIn : Nat) : List (List Char) :=
  if isDebug strIn lenIn then
    match strIn.findIdx? (· == '*') with
    | none => []
    | some index => cutFields [] (strIn.set index ',')
  else []

/-- A sentence: the tag, the fields and what stands after the star. -/
def sentence (tag : List Char) (fields : List (List Char)) (check : List Char) : List Char :=
  [','].intercalate (('$' :: tag) :: fields) ++ '*' :: check

/-! ## Cutting undoes joining -/

theorem cutFields_eq (str parser : List Char) :
    cutFields str parser = ((parser.splitOn ',').modifyHead (str ++ ·)).dropLast := by
  induction parser generalizing str with
  | nil => simp [cutFields]
  | cons c parser ih =>
    have hne : parser.splitOn ',' ≠ [] := List.splitOn_ne_nil _ _
    obtain ⟨head, rest, hsplit⟩ := List.exists_cons_of_ne_nil hne
    rw [cutFields, List.splitOn_cons_eq_if_modifyHead]
    by_cases hc : c = ','
    · rw [if_pos hc, if_pos (by simpa using hc), ih]
      simp [hsplit]
    · rw [if_neg hc, if_neg (by simpa using hc), ih]
      simp [hsplit]

theorem intercalate_concat {fields : List (List Char)} (last : List Char) (hne : fields ≠ []) :
    [','].intercalate (fields ++ [last]) = [','].intercalate fields ++ ',' :: last := by
  induction fields with
  | nil => exact absurd rfl hne
  | cons f fields ih =>
    cases fields with
    | nil => simp
    | cons g fields =>
      rw [List.cons_append, List.cons_append, List.intercalate_cons_cons, ← List.cons_append,
        ih (List.cons_ne_nil _ _), List.intercalate_cons_cons]
      simp

theorem notMem_intercalate {c : Char} {fields : List (List Char)} (hc : c ≠ ',')
    (hfields : ∀ f ∈ fields, c ∉ f) : c ∉ [','].intercalate fields := by
  induction fields using List.reverseRecOn with
  | nil => simp
  | append_singleton fields last ih =>
    rcases eq_or_ne fields [] with rfl | hne
    · simpa using hfields
    · rw [intercalate_concat last hne, List.mem_append, List.mem_cons]
      have hlast := hfields last (by simp)
      have hold := ih fun f hf => hfields f (by simp [hf])
      tauto

theorem cutFields_join {fields : List (List Char)} {check : List Char} (hne : fields ≠ [])
    (hfields : ∀ f ∈ fields, ',' ∉ f) (hcheck : ',' ∉ check) :
    cutFields [] ([','].intercalate fields ++ ',' :: check) = fields := by
  have hnone : ∀ f ∈ fields ++ [check], ',' ∉ f := by
    intro f hf
    rcases List.mem_append.1 hf with hf | hf
    · exact hfields f hf
    · exact List.mem_singleton.1 hf ▸ hcheck
  rw [cutFields_eq, ← intercalate_concat check hne, List.splitOn_intercalate _ hnone (by simp)]
  obtain ⟨f, rest, rfl⟩ := List.exists_cons_of_ne_nil hne
  rw [List.cons_append, List.modifyHead_cons, List.nil_append, ← List.cons_append,
    List.dropLast_concat]

theorem star_to_comma {joined : List Char} (h : '*' ∉ joined) (check : List Char) :
    (joined ++ '*' :: check).findIdx? (· == '*') = some joined.length ∧
      (joined ++ '*' :: check).set joined.length ',' = joined ++ ',' :: check :=
  ⟨Lib.findIdx?_append_sep h check, by simp⟩

theorem isDebug_sentence {tag : List Char} (htag : ['P', 'Q', 'W'] <+: tag)
    (fields : List (List Char)) (check : List Char) {lenIn : Nat}
    (hmin : minSize ≤ lenIn) (hmax : lenIn ≤ maxSize) :
    isDebug (sentence tag fields check) lenIn = true := by
  obtain ⟨rest, rfl⟩ := htag
  have htake : (sentence (['P', 'Q', 'W'] ++ rest) fields check).take 4 = talker := by
    rcases fields with _ | ⟨f, fields⟩ <;>
      simp [sentence, talker, List.intercalate_cons_cons]
  rw [isDebug, htake]
  simp [hmin, hmax]

/-- Cutting a sentence gives the tag and the fields it was joined of, if the tag is one of the
status's own and no field has a comma or a star. -/
theorem nmeaFields_sentence (tag : List Char) (fields : List (List Char)) (check : List Char)
    (lenIn : Nat) (htag : ['P', 'Q', 'W'] <+: tag)
    (hparts : ∀ f ∈ tag :: fields, ',' ∉ f ∧ '*' ∉ f) (hcheck : ',' ∉ check)
    (hmin : minSize ≤ lenIn) (hmax : lenIn ≤ maxSize) :
    nmeaFields (sentence tag fields check) lenIn = ('$' :: tag) :: fields := by
  have hjoined : ∀ f ∈ ('$' :: tag) :: fields, ',' ∉ f ∧ '*' ∉ f := by
    intro f hf
    rcases List.mem_cons.1 hf with rfl | hf
    · obtain ⟨hcomma, hstar⟩ := hparts tag List.mem_cons_self
      exact ⟨List.not_mem_cons_of_ne_of_not_mem (by decide) hcomma,
        List.not_mem_cons_of_ne_of_not_mem (by decide) hstar⟩
    · exact hparts f (List.mem_cons_of_mem _ hf)
  have hstar : '*' ∉ [','].intercalate (('$' :: tag) :: fields) :=
    notMem_intercalate (by decide) fun f hf => (hjoined f hf).2
  obtain ⟨hfind, hset⟩ := star_to_comma hstar check
  rw [nmeaFields, if_pos (isDebug_sentence htag fields check hmin hmax), sentence, hfind]
  change cutFields [] (List.set _ _ ',') = _
  rw [hset, cutFields_join (List.cons_ne_nil _ _) (fun f hf => (hjoined f hf).1) hcheck]

theorem nmeaFields_sentence_of_empty_fields :
    nmeaFields (sentence ['P', 'Q', 'W', 'P', '1'] [['1'], [], []] ['0', '0']) 14 =
      [['$', 'P', 'Q', 'W', 'P', '1'], ['1'], [], []] :=
  nmeaFields_sentence ['P', 'Q', 'W', 'P', '1'] [['1'], [], []] ['0', '0'] 14
    ⟨['P', '1'], rfl⟩ (by decide) (by decide) (by decide) (by decide)

/-- Any other talker is refused, and its sentence has no fields. -/
theorem nmeaFields_other_talker :
    ¬ ∀ (tag : List Char) (fields : List (List Char)) (check : List Char),
      (∀ f ∈ tag :: fields, ',' ∉ f ∧ '*' ∉ f) → ',' ∉ check →
      minSize ≤ (sentence tag fields check).length →
      (sentence tag fields check).length ≤ maxSize →
      nmeaFields (sentence tag fields check) (sentence tag fields check).length =
        ('$' :: tag) :: fields := by
  intro h
  have := h ['G', 'P', 'G', 'G', 'A'] [] ['0', '0'] (by decide) (by decide) (by decide) (by decide)
  exact absurd this (by decide)

end Axon7.Status

/-!
# The status sentences

One record and one parser for each kind of sentence. A parser that finds too few fields
leaves its record as it is: all zero in the first kind, which clears it before the check,
and whatever the memory held in the others, which clear it after. That is the `blank` they
take.
-/

namespace Axon7.Status

/-- What the parsers have from the platform: the width of a `long`, what `atoi` gives for a
number that is no `int`, and the floating-point types. -/
structure Platform where
  longBits : Nat
  atoiOut : List Char → Int32
  Double : Type
  Float : Type
  atof : List Char → Double
  zero : Double
  toFloat : Double → Float
  ofInt : Int32 → Float
  eqDouble : Double → Double → Bool
  eqFloat : Float → Float → Bool

/-- `atoi`. -/
def Platform.atoi (p : Platform) (text : List Char) : Int32 :=
  Lib.atoi p.atoiOut text

/-- `strtol(text, NULL, 16)`. -/
def Platform.strtol16 (p : Platform) (text : List Char) : Int :=
  Lib.strtol p.longBits 16 text

/-- `mField[i]`, where there is one. -/
def fieldAt (mField : List (List Char)) (i : Nat) : List Char := mField.getD i []

/-! ## Records -/

/-- `SystemStatusPQWM1`. -/
structure PQWM1 (p : Platform) where
  gpsWeek : UInt16
  gpsTowMs : UInt32
  timeValid : UInt8
  timeSource : UInt8
  timeUnc : Int32
  clockFreqBias : Int32
  clockFreqBiasUnc : Int32
  xoState : UInt8
  pgaGain : Int32
  gpsBpAmpI : UInt32
  gpsBpAmpQ : UInt32
  adcI : UInt32
  adcQ : UInt32
  jammerGps : UInt32
  jammerGlo : UInt32
  jammerBds : UInt32
  jammerGal : UInt32
  recErrorRecovery : UInt32
  agcGps : p.Double
  agcGlo : p.Double
  agcBds : p.Double
  agcGal : p.Double
  leapSeconds : Int32
  leapSecUnc : Int32

/-- `SystemStatusPQWP1`. -/
structure PQWP1 (p : Platform) where
  epiValidity : UInt8
  epiLat : p.Float
  epiLon : p.Float
  epiAlt : p.Float
  epiHepe : p.Float
  epiAltUnc : p.Float
  epiSrc : UInt8

/-- `SystemStatusPQWP2`. -/
structure PQWP2 (p : Platform) where
  bestLat : p.Float
  bestLon : p.Float
  bestAlt : p.Float
  bestHepe : p.Float
  bestAltUnc : p.Float

/-- `SystemStatusPQWP3`. -/
structure PQWP3 where
  xtraValidMask : UInt8
  gpsXtraAge : UInt32
  gloXtraAge : UInt32
  bdsXtraAge : UInt32
  galXtraAge : UInt32
  qzssXtraAge : UInt32
  gpsXtraValid : UInt32
  gloXtraValid : UInt32
  bdsXtraValid : UInt64
  galXtraValid : UInt64
  qzssXtraValid : UInt8
deriving DecidableEq

/-- `SystemStatusPQWP4`. -/
structure PQWP4 where
  gpsEpheValid : UInt32
  gloEpheValid : UInt32
  bdsEpheValid : UInt64
  galEpheValid : UInt64
  qzssEpheValid : UInt8
deriving DecidableEq

/-- `SystemStatusPQWP5`. -/
structure PQWP5 where
  gpsUnknownMask : UInt32
  gloUnknownMask : UInt32
  bdsUnknownMask : UInt64
  galUnknownMask : UInt64
  qzssUnknownMask : UInt8
  gpsGoodMask : UInt32
  gloGoodMask : UInt32
  bdsGoodMask : UInt64
  galGoodMask : UInt64
  qzssGoodMask : UInt8
  gpsBadMask : UInt32
  gloBadMask : UInt32
  bdsBadMask : UInt64
  galBadMask : UInt64
  qzssBadMask : UInt8
deriving DecidableEq

/-- `SystemStatusPQWP6`. -/
structure PQWP6 where
  fixInfoMask : UInt32
deriving DecidableEq

/-- `SystemStatusNav`. -/
structure Nav where
  type : Int32
  source : Int32
  ageSec : Int32
deriving DecidableEq

/-- `SV_ALL_NUM`. -/
def svAllNum : Nat := 134

/-- `SystemStatusPQWP7`. -/
structure PQWP7 where
  nav : Fin svAllNum → Nav
deriving DecidableEq

/-- `SystemStatusPQWS1`. -/
structure PQWS1 where
  fixInfoMask : UInt32
  hepeLimit : UInt32
deriving DecidableEq

/-! ## Parsers -/

section Parsers

variable (p : Platform)

/-- An `int` put into an unsigned field keeps its low bits. -/
def Platform.atoi8 (text : List Char) : UInt8 := UInt8.ofInt (p.atoi text).toInt

/-- As `atoi8`, for 32 bits. -/
def Platform.atoi32 (text : List Char) : UInt32 := UInt32.ofInt (p.atoi text).toInt

/-- What the memory holds where a parser is made. -/
structure Blank where
  p1 : PQWP1 p
  p2 : PQWP2 p
  p3 : PQWP3
  p4 : PQWP4
  p5 : PQWP5
  p6 : PQWP6
  p7 : PQWP7
  s1 : PQWS1

/-- `memset(&mM1, 0, sizeof(mM1))`. -/
def PQWM1.zero : PQWM1 p where
  gpsWeek := 0
  gpsTowMs := 0
  timeValid := 0
  timeSource := 0
  timeUnc := 0
  clockFreqBias := 0
  clockFreqBiasUnc := 0
  xoState := 0
  pgaGain := 0
  gpsBpAmpI := 0
  gpsBpAmpQ := 0
  adcI := 0
  adcQ := 0
  jammerGps := 0
  jammerGlo := 0
  jammerBds := 0
  jammerGal := 0
  recErrorRecovery := 0
  agcGps := p.zero
  agcGlo := p.zero
  agcBds := p.zero
  agcGal := p.zero
  leapSeconds := 0
  leapSecUnc := 0

/-- `SystemStatusPQWP1parser`. -/
def pqwp1parser (blank : PQWP1 p) (strIn : List Char) (lenIn : Nat) : PQWP1 p :=
  let mField := nmeaFields strIn lenIn
  if mField.length < 9 then blank
  else
    { epiValidity := UInt8.ofInt (p.strtol16 (fieldAt mField 2))
      epiLat := p.toFloat (p.atof (fieldAt mField 3))
      epiLon := p.toFloat (p.atof (fieldAt mField 4))
      epiAlt := p.toFloat (p.atof (fieldAt mField 5))
      epiHepe := p.ofInt (p.atoi (fieldAt mField 6))
      epiAltUnc := p.toFloat (p.atof (fieldAt mField 7))
      epiSrc := p.atoi8 (fieldAt mField 8) }

/-- `SystemStatusPQWP3parser`. -/
def pqwp3parser (blank : PQWP3) (strIn : List Char) (lenIn : Nat) : PQWP3 :=
  let mField := nmeaFields strIn lenIn
  if mField.length < 13 then blank
  else
    { xtraValidMask := UInt8.ofInt (p.strtol16 (fieldAt mField 2))
      gpsXtraAge := p.atoi32 (fieldAt mField 3)
      gloXtraAge := p.atoi32 (fieldAt mField 4)
      bdsXtraAge := p.atoi32 (fieldAt mField 5)
      galXtraAge := p.atoi32 (fieldAt mField 6)
      qzssXtraAge := p.atoi32 (fieldAt mField 7)
      gpsXtraValid := UInt32.ofInt (p.strtol16 (fieldAt mField 8))
      gloXtraValid := UInt32.ofInt (p.strtol16 (fieldAt mField 9))
      bdsXtraValid := UInt64.ofInt (p.strtol16 (fieldAt mField 10))
      galXtraValid := UInt64.ofInt (p.strtol16 (fieldAt mField 11))
      qzssXtraValid := UInt8.ofInt (p.strtol16 (fieldAt mField 12)) }

/-- `SystemStatusPQWP4parser`. -/
def pqwp4parser (blank : PQWP4) (strIn : List Char) (lenIn : Nat) : PQWP4 :=
  let mField := nmeaFields strIn lenIn
  if mField.length < 7 then blank
  else
    { gpsEpheValid := UInt32.ofInt (p.strtol16 (fieldAt mField 2))
      gloEpheValid := UInt32.ofInt (p.strtol16 (fieldAt mField 3))
      bdsEpheValid := UInt64.ofInt (p.strtol16 (fieldAt mField 4))
      galEpheValid := UInt64.ofInt (p.strtol16 (fieldAt mField 5))
      qzssEpheValid := UInt8.ofInt (p.strtol16 (fieldAt mField 6)) }

/-- `SystemStatusPQWP5parser`. -/
def pqwp5parser (blank : PQWP5) (strIn : List Char) (lenIn : Nat) : PQWP5 :=
  let mField := nmeaFields strIn lenIn
  if mField.length < 17 then blank
  else
    { gpsUnknownMask := UInt32.ofInt (p.strtol16 (fieldAt mField 2))
      gloUnknownMask := UInt32.ofInt (p.strtol16 (fieldAt mField 3))
      bdsUnknownMask := UInt64.ofInt (p.strtol16 (fieldAt mField 4))
      galUnknownMask := UInt64.ofInt (p.strtol16 (fieldAt mField 5))
      qzssUnknownMask := UInt8.ofInt (p.strtol16 (fieldAt mField 6))
      gpsGoodMask := UInt32.ofInt (p.strtol16 (fieldAt mField 7))
      gloGoodMask := UInt32.ofInt (p.strtol16 (fieldAt mField 8))
      bdsGoodMask := UInt64.ofInt (p.strtol16 (fieldAt mField 9))
      galGoodMask := UInt64.ofInt (p.strtol16 (fieldAt mField 10))
      qzssGoodMask := UInt8.ofInt (p.strtol16 (fieldAt mField 11))
      gpsBadMask := UInt32.ofInt (p.strtol16 (fieldAt mField 12))
      gloBadMask := UInt32.ofInt (p.strtol16 (fieldAt mField 13))
      bdsBadMask := UInt64.ofInt (p.strtol16 (fieldAt mField 14))
      galBadMask := UInt64.ofInt (p.strtol16 (fieldAt mField 15))
      qzssBadMask := UInt8.ofInt (p.strtol16 (fieldAt mField 16)) }

/-- `SystemStatusPQWP6parser`. -/
def pqwp6parser (blank : PQWP6) (strIn : List Char) (lenIn : Nat) : PQWP6 :=
  let mField := nmeaFields strIn lenIn
  if mField.length < 3 then blank
  else { fixInfoMask := UInt32.ofInt (p.strtol16 (fieldAt mField 2)) }

end Parsers

end Axon7.Status
