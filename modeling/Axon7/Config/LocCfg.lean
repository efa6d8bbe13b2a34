import Axon7.Lib.Text

/-!
# Configuration of the location service

A configuration is a text of lines such as `DEBUG_LEVEL = 3`, and a table tells which names
there are, what type each has and where its value is kept. `loc_read_conf_r` reads a file line
by line and `loc_update_conf` a text in memory; each counts down what it has yet to find.

The files are open, there is memory for the copy of the text, and the entries of a table keep
their values in places of their own.
-/

namespace Axon7.Config

open Lib

/-- What is left open of the C library: the bits of a `long`, what `atoi` gives for a number
that is no `int`, and `atof`. -/
structure Libc where
  longBits : ℕ
  atoiOut : List Char → Int32
  atof : List Char → ℚ

/-- What `param_ptr` points to, which `param_type` tells: a text for `s`, an `int` for `n`, a
`double` for `f`. Any other letter is refused. -/
inductive ParamValue
  | s (text : List Char)
  | n (number : Int32)
  | f (number : ℚ)
  | other (paramType : Char)
  deriving DecidableEq

/-- `loc_param_s_type`. A null pointer is none. -/
structure LocParam where
  paramName : List Char
  paramPtr : Option ParamValue
  paramSet : Option UInt8

/-- `loc_param_v_type`. -/
structure ConfValue where
  paramName : List Char
  paramStrValue : List Char
  paramIntValue : Int32
  paramDoubleValue : ℚ

/-- `LOC_MAX_PARAM_STRING`. -/
def locMaxParamString : ℕ := 80

/-- `LOC_MAX_PARAM_LINE`. -/
def locMaxParamLine : ℕ := 160

/-! ## A line -/

/-- `loc_util_trim_space`. A text of spaces alone stays. -/
def trimSpace (text : List Char) : List Char :=
  match (text.dropWhile isSpace).rdropWhile isSpace with
  | [] => text
  | trimmed => trimmed

/-- What a value is of each type. After `0x` it is a hexadecimal number, and no `double`. -/
def confValue (lib : Libc) (name value : List Char) : ConfValue :=
  match value with
  | '0' :: x :: c :: rest =>
    if x = 'x' ∨ x = 'X' then
      ⟨name, value, Int32.ofInt (strtol lib.longBits 16 (c :: rest)), 0⟩
    else ⟨name, value, atoi lib.atoiOut value, lib.atof value⟩
  | _ => ⟨name, value, atoi lib.atoiOut value, lib.atof value⟩

/-- What `loc_fill_conf_item` finds in a line: the first two of its parts between `=`. -/
def confItem (lib : Libc) (inputBuf : List Char) : Option ConfValue :=
  match tokens '=' (cString inputBuf) with
  | paramName :: paramStrValue :: _ =>
    some (confValue lib (trimSpace paramName) (trimSpace paramStrValue))
  | _ => none

/-- The value as the type of the entry has it. A text is cut off at the end of its place. -/
def ParamValue.store (value : ConfValue) : ParamValue → Option ParamValue
  | .s _ =>
    some (.s (if value.paramStrValue = ['N', 'U', 'L', 'L'] then []
      else value.paramStrValue.take locMaxParamString))
  | .n _ => some (.n value.paramIntValue)
  | .f _ => some (.f value.paramDoubleValue)
  | .other _ => none

/-- `loc_set_config_entry`, with none for `-1`. -/
def setConfigEntry (configEntry : LocParam) (configValue : ConfValue) : Option LocParam :=
  if configEntry.paramName = configValue.paramName then do
    let place ← configEntry.paramPtr
    let stored ← place.store configValue
    some {
      configEntry with
      paramPtr := some stored
      paramSet := configEntry.paramSet.map fun _ => 1 }
  else none

/-- `loc_fill_conf_item`: the table, and how many of its entries are set. -/
def fillConfItem (lib : Libc) (inputBuf : List Char) (configTable : List LocParam) :
    List LocParam × ℕ :=
  match confItem lib inputBuf with
  | some value =>
    (configTable.map fun entry => (setConfigEntry entry value).getD entry,
      configTable.countP fun entry => (setConfigEntry entry value).isSome)
  | none => (configTable, 0)

/-! ## The readers -/

/-- The loop of `loc_read_conf_r`: the table, and the lines that have not been read. -/
def readLoop (lib : Libc) : UInt32 → List (List Char) → List LocParam →
    List LocParam × List (List Char)
  | _, [], configTable => (configTable, [])
  | numParams, inputBuf :: lines, configTable =>
    if numParams = 0 then (configTable, inputBuf :: lines)
    else
      let filled := fillConfItem lib inputBuf configTable
      readLoop lib (numParams - UInt32.ofNat filled.2) lines filled.1

/-- The validity bit is cleared. -/
def LocParam.clear (entry : LocParam) : LocParam :=
  { entry with paramSet := entry.paramSet.map fun _ => 0 }

/-- `loc_read_conf_r`. -/
def readConfR (lib : Libc) (confFp : List Char) (configTable : List LocParam) :
    List LocParam × List (List Char) :=
  readLoop lib (UInt32.ofNat configTable.length) (fgetsLines locMaxParamLine confFp)
    (configTable.map LocParam.clear)

/-- What a line sets an entry to. -/
def LocParam.setting (lib : Libc) (entry : LocParam) (line : List Char) : Option ParamValue := do
  let value ← confItem lib line
  if entry.paramName = value.paramName then entry.paramPtr.bind (ParamValue.store value) else none

/-- What the last of the lines that set the entry sets it to. -/
def LocParam.lastSetting (lib : Libc) (entry : LocParam) (lines : List (List Char)) :
    Option ParamValue :=
  (lines.filterMap (entry.setting lib)).getLast?

/-- The entry with a value it is set to. -/
def LocParam.put (entry : LocParam) : Option ParamValue → LocParam
  | some value =>
    { entry with paramPtr := some value, paramSet := entry.paramSet.map fun _ => 1 }
  | none => entry

/-- How many entries a line sets. -/
def settings (lib : Libc) (configTable : List LocParam) (line : List Char) : ℕ :=
  configTable.countP fun entry => (entry.setting lib line).isSome

/-- The lines a reader reads that has so many entries yet to find. -/
def linesRead (lib : Libc) (configTable : List LocParam) : UInt32 → List (List Char) →
    List (List Char)
  | _, [] => []
  | numParams, line :: lines =>
    if numParams = 0 then []
    else
      line :: linesRead lib configTable
        (numParams - UInt32.ofNat (settings lib configTable line)) lines

section

variable (lib : Libc) (entry : LocParam)

theorem setConfigEntry_eq (value : ConfValue) :
    setConfigEntry entry value =
      (if entry.paramName = value.paramName then entry.paramPtr.bind (ParamValue.store value)
        else none).map fun stored => entry.put (some stored) := by
  rw [setConfigEntry]
  split
  · rcases entry.paramPtr with _ | place
    · rfl
    · change (place.store value).bind _ = (place.store value).map _
      cases place.store value <;> rfl
  · rfl

theorem put_or (first then_ : Option ParamValue) :
    (entry.put first).put then_ = entry.put (then_.or first) := by
  cases then_ with
  | none => rfl
  | some value => cases first <;> simp [LocParam.put, Function.comp_def]

theorem paramPtr_put (value : Option ParamValue) :
    (entry.put value).paramPtr = value.or entry.paramPtr := by
  cases value <;> rfl

theorem store_of_store {value value' : ConfValue} {place stored : ParamValue}
    (h : place.store value = some stored) : stored.store value' = place.store value' := by
  cases place <;> simp only [ParamValue.store, Option.some.injEq, reduceCtorEq] at h <;>
    (subst h; rfl)

theorem setting_put (line line' : List Char) :
    (entry.put (entry.setting lib line)).setting lib line' = entry.setting lib line' := by
  rcases h : entry.setting lib line with _ | stored
  · rfl
  have hstored : ∃ place value, entry.paramPtr = some place ∧ place.store value = some stored := by
    simp only [LocParam.setting, Option.bind_eq_bind, Option.bind_eq_some_iff] at h
    obtain ⟨value, -, h⟩ := h
    split at h
    · obtain ⟨place, hplace, hstore⟩ := Option.bind_eq_some_iff.1 h
      exact ⟨place, value, hplace, hstore⟩
    · exact absurd h (by simp)
  obtain ⟨place, value, hplace, hstore⟩ := hstored
  simp only [LocParam.setting, LocParam.put, hplace, Option.bind_some, store_of_store hstore]

theorem fillConfItem_eq (line : List Char) (configTable : List LocParam) :
    fillConfItem lib line configTable =
      (configTable.map fun entry => entry.put (entry.setting lib line),
        settings lib configTable line) := by
  rw [fillConfItem, settings]
  simp only [setConfigEntry_eq, LocParam.setting, Option.isSome_map]
  rcases confItem lib line with _ | value
  · simp [LocParam.put]
  · refine Prod.ext (List.map_congr_left fun entry _ => ?_) rfl
    simp only [Option.bind_eq_bind, Option.bind_some]
    generalize (if entry.paramName = value.paramName then _ else _ : Option ParamValue) = stored
    cases stored <;> rfl

theorem settings_put (line line' : List Char) (configTable : List LocParam) :
    settings lib (configTable.map fun entry => entry.put (entry.setting lib line)) line' =
      settings lib configTable line' := by
  rw [settings, List.countP_map, settings]
  refine List.countP_congr fun entry _ => ?_
  rw [Function.comp_apply, setting_put]

theorem linesRead_put (line : List Char) (configTable : List LocParam) (numParams : UInt32)
    (lines : List (List Char)) :
    linesRead lib (configTable.map fun entry => entry.put (entry.setting lib line)) numParams
      lines = linesRead lib configTable numParams lines := by
  induction lines generalizing numParams with
  | nil => rfl
  | cons line' lines ih => rw [linesRead, linesRead, settings_put, ih]

theorem linesRead_clear (configTable : List LocParam) (numParams : UInt32)
    (lines : List (List Char)) :
    linesRead lib (configTable.map LocParam.clear) numParams lines =
      linesRead lib configTable numParams lines := by
  induction lines generalizing numParams with
  | nil => rfl
  | cons line lines ih =>
    have hsettings : settings lib (configTable.map LocParam.clear) line =
        settings lib configTable line := List.countP_map
    rw [linesRead, linesRead, hsettings, ih]

theorem lastSetting_cons (line : List Char) (lines : List (List Char)) :
    entry.lastSetting lib (line :: lines) =
      (entry.lastSetting lib lines).or (entry.setting lib line) := by
  rw [LocParam.lastSetting, LocParam.lastSetting, List.filterMap_cons]
  rcases entry.setting lib line with _ | value
  · rw [Option.or_none]
  · rw [List.getLast?_cons]
    cases (lines.filterMap (entry.setting lib)).getLast? <;> rfl

theorem lastSetting_put (line : List Char) (lines : List (List Char)) :
    (entry.put (entry.setting lib line)).lastSetting lib lines =
      entry.lastSetting lib lines := by
  rw [LocParam.lastSetting, LocParam.lastSetting]
  simp only [funext (setting_put lib entry line)]

theorem map_put_cons (line : List Char) (lines : List (List Char)) (configTable : List LocParam) :
    (configTable.map fun entry => entry.put (entry.setting lib line)).map
        (fun entry => entry.put (entry.lastSetting lib lines)) =
      configTable.map fun entry => entry.put (entry.lastSetting lib (line :: lines)) := by
  rw [List.map_map]
  refine List.map_congr_left fun entry _ => ?_
  rw [Function.comp_apply, lastSetting_put, put_or, lastSetting_cons]

/-! ## What the loops do -/

theorem readLoop_eq (numParams : UInt32) (lines : List (List Char))
    (configTable : List LocParam) :
    readLoop lib numParams lines configTable =
      (configTable.map fun entry =>
          entry.put (entry.lastSetting lib (linesRead lib configTable numParams lines)),
        lines.drop (linesRead lib configTable numParams lines).length) := by
  induction lines generalizing numParams configTable with
  | nil => simp [readLoop, linesRead, LocParam.lastSetting, LocParam.put]
  | cons line lines ih =>
    rw [readLoop, linesRead]
    split
    · simp [LocParam.lastSetting, LocParam.put]
    · rw [fillConfItem_eq]
      dsimp only
      rw [ih, linesRead_put, map_put_cons, List.length_cons, List.drop_succ_cons]

end

end Axon7.Config

/-!
# What the readers read

`loc_read_conf_r` is made to be called again and again: it reads until as many lines have set
an entry as the table has entries, and leaves the rest of the file to the next call. Of what it
has read, the last line that sets an entry gives it its value.

`loc_update_conf` begins its count one lower, and returns how many lines it has read.
-/

namespace Axon7.Config

open Lib

/-- A line sets an entry of the table. -/
def setsEntry (lib : Libc) (configTable : List LocParam) (line : List Char) : Bool :=
  configTable.any fun entry => (entry.setting lib line).isSome

/-- The lines are those up to the `n`-th that sets an entry, or all there are. -/
structure ReadUpTo (lib : Libc) (configTable : List LocParam) (n : ℕ)
    (read rest : List (List Char)) : Prop where
  shortest : ∀ lines, lines <+: read → lines ≠ read →
    lines.countP (setsEntry lib configTable) < n
  enough : rest ≠ [] → read.countP (setsEntry lib configTable) = n

/-- Each entry has the value of the last of the lines that set it, or the one it had. -/
def HasLast (lib : Libc) (lines : List (List Char)) (before after : List LocParam) : Prop :=
  after.map (·.paramPtr) =
    before.map fun entry => (entry.lastSetting lib lines).or entry.paramPtr

section

variable {lib : Libc} {configTable : List LocParam}

theorem settings_eq (hnames : (configTable.map (·.paramName)).Nodup) (line : List Char) :
    settings lib configTable line = (setsEntry lib configTable line).toNat := by
  have hname : ∀ entry : LocParam, (entry.setting lib line).isSome →
      ∃ value, confItem lib line = some value ∧ entry.paramName = value.paramName := by
    intro entry h
    rw [LocParam.setting] at h
    rcases hitem : confItem lib line with _ | value
    · simp [hitem] at h
    · refine ⟨value, rfl, ?_⟩
      by_contra hne
      simp [hitem, hne] at h
  have hone : settings lib configTable line ≤ 1 := by
    rw [settings]
    induction configTable with
    | nil => exact Nat.zero_le 1
    | cons entry configTable ih =>
      rw [List.map_cons, List.nodup_cons] at hnames
      rw [List.countP_cons]
      split
      next hset =>
        obtain ⟨value, hitem, hvalue⟩ := hname entry hset
        have hrest : configTable.countP (fun entry => (entry.setting lib line).isSome) = 0 := by
          rw [List.countP_eq_zero]
          intro other hother hset'
          obtain ⟨value', hitem', hvalue'⟩ := hname other hset'
          obtain rfl := Option.some.inj (hitem.symm.trans hitem')
          exact hnames.1 (List.mem_map.2 ⟨other, hother, hvalue'.trans hvalue.symm⟩)
        omega
      next => exact ih hnames.2
  rcases h : setsEntry lib configTable line with _ | _
  · rw [setsEntry, List.any_eq_false] at h
    exact List.countP_eq_zero.2 h
  · rw [setsEntry, List.any_eq_true] at h
    have hpos : 0 < settings lib configTable line := List.countP_pos_iff.2 h
    change settings lib configTable line = 1
    omega

theorem linesRead_readUpTo (lib : Libc) (hnames : (configTable.map (·.paramName)).Nodup) {n : ℕ}
    (hn : n < 2 ^ 32) (lines : List (List Char)) :
    ReadUpTo lib configTable n (linesRead lib configTable (UInt32.ofNat n) lines)
        (lines.drop (linesRead lib configTable (UInt32.ofNat n) lines).length) ∧
      lines = linesRead lib configTable (UInt32.ofNat n) lines ++
        lines.drop (linesRead lib configTable (UInt32.ofNat n) lines).length := by
  induction lines generalizing n with
  | nil => exact ⟨⟨fun lines h hne => absurd (List.prefix_nil.1 h) hne, by simp⟩, rfl⟩
  | cons line lines ih =>
    have hzero : UInt32.ofNat n = 0 ↔ n = 0 := by
      rw [← UInt32.toNat_inj, UInt32.toNat_ofNat_of_lt' hn]
      rfl
    rw [linesRead]
    by_cases hdone : n = 0
    · rw [if_pos (hzero.2 hdone)]
      exact ⟨⟨fun lines h hne => absurd (List.prefix_nil.1 h) hne, fun _ => hdone.symm⟩, rfl⟩
    · rw [if_neg (hzero.not.2 hdone), settings_eq hnames]
      have hset := Bool.toNat_le (setsEntry lib configTable line)
      have hcount : (if setsEntry lib configTable line = true then 1 else 0) =
          (setsEntry lib configTable line).toNat := by
        cases setsEntry lib configTable line <;> rfl
      have hsub : UInt32.ofNat n - UInt32.ofNat (setsEntry lib configTable line).toNat =
          UInt32.ofNat (n - (setsEntry lib configTable line).toNat) := by
        rw [UInt32.ofNat_sub (by omega)]
      rw [hsub]
      obtain ⟨⟨hshortest, henough⟩, heq⟩ :=
        ih (n := n - (setsEntry lib configTable line).toNat) (by omega)
      refine ⟨⟨fun lines' h hne => ?_, fun h => ?_⟩, ?_⟩
      · obtain _ | ⟨line', lines'⟩ := lines'
        · exact Nat.pos_of_ne_zero hdone
        obtain ⟨rfl, h⟩ := List.cons_prefix_cons.1 h
        have := hshortest lines' h fun heq => hne (by rw [heq])
        rw [List.countP_cons, hcount]
        omega
      · have := henough h
        rw [List.countP_cons, hcount]
        omega
      · rw [List.cons_append, List.length_cons, List.drop_succ_cons, ← heq]

theorem hasLast_put (lib : Libc) (lines : List (List Char)) (before : List LocParam) :
    HasLast lib lines before
      (before.map fun entry => entry.put (entry.lastSetting lib lines)) := by
  rw [HasLast, List.map_map]
  exact List.map_congr_left fun entry _ => paramPtr_put entry _

theorem hasLast_clear {lines : List (List Char)} {before after : List LocParam} :
    HasLast lib lines (before.map LocParam.clear) after ↔ HasLast lib lines before after := by
  rw [HasLast, HasLast, List.map_map]
  rfl

theorem readConfR_hasLast (lib : Libc) (configTable : List LocParam) (confFp : List Char) :
    HasLast lib (linesRead lib configTable (UInt32.ofNat configTable.length)
      (fgetsLines locMaxParamLine confFp)) configTable (readConfR lib confFp configTable).1 := by
  rw [readConfR, readLoop_eq, linesRead_clear, ← hasLast_clear]
  exact hasLast_put lib _ _

end

/-! ## The reader of a file -/

/-- `loc_read_conf_r` reads the lines of the file up to the one with which as many have set an
entry as the table has, and gives each entry the value of the last of them that sets it; what
follows is left in the file. -/
theorem readConfR_reads (lib : Libc) {configTable : List LocParam}
    (hnames : (configTable.map (·.paramName)).Nodup) (hlength : configTable.length < 2 ^ 32)
    (confFp : List Char) :
    ∃ read, fgetsLines locMaxParamLine confFp = read ++ (readConfR lib confFp configTable).2 ∧
      ReadUpTo lib configTable configTable.length read (readConfR lib confFp configTable).2 ∧
      HasLast lib read configTable (readConfR lib confFp configTable).1 := by
  obtain ⟨hread, heq⟩ := linesRead_readUpTo lib hnames hlength
    (fgetsLines locMaxParamLine confFp)
  refine ⟨_, ?_, ?_, readConfR_hasLast lib configTable confFp⟩
  · rw [readConfR, readLoop_eq, linesRead_clear]
    exact heq
  · rw [readConfR, readLoop_eq, linesRead_clear]
    exact hread

/-- A text `A` and a text `B`. -/
def textTable : List LocParam := [⟨['A'], some (.s []), none⟩, ⟨['B'], some (.s []), some 0⟩]

/-- A file that sets `A` twice. -/
def twiceFile : List Char := ['A', '=', '1', '\n', 'B', '=', '2', '\n', 'A', '=', '3', '\n']

/-- A library that reads whole numbers. -/
def wholeLibc : Libc where
  longBits := 32
  atoiOut := fun _ => 0
  atof := fun text => scanInt 10 text

theorem readConfR_reads_twice :
    ∃ read, fgetsLines locMaxParamLine twiceFile =
        read ++ (readConfR wholeLibc twiceFile textTable).2 ∧
      ReadUpTo wholeLibc textTable 2 read (readConfR wholeLibc twiceFile textTable).2 ∧
      HasLast wholeLibc read textTable (readConfR wholeLibc twiceFile textTable).1 :=
  readConfR_reads wholeLibc (by decide) (by decide) twiceFile

/-- The last line of `A` is left in the file. -/
theorem not_hasLast_twice : ¬ ∃ lib : Libc,
    HasLast lib (fgetsLines locMaxParamLine twiceFile) textTable
      (readConfR lib twiceFile textTable).1 := by
  intro h
  obtain ⟨lib, h⟩ := h
  have hone : settings lib textTable ['A', '=', '1', '\n'] = 1 := by rfl
  have htwo : settings lib textTable ['B', '=', '2', '\n'] = 1 := by rfl
  have hlines : fgetsLines locMaxParamLine twiceFile =
      [['A', '=', '1', '\n'], ['B', '=', '2', '\n'], ['A', '=', '3', '\n']] := by decide
  have hread : linesRead lib textTable (UInt32.ofNat textTable.length)
      (fgetsLines locMaxParamLine twiceFile) =
      [['A', '=', '1', '\n'], ['B', '=', '2', '\n']] := by
    rw [hlines]
    simp only [linesRead, hone, htwo]
    decide
  have hlast : HasLast lib [['A', '=', '1', '\n'], ['B', '=', '2', '\n']] textTable
      (readConfR lib twiceFile textTable).1 := hread ▸ readConfR_hasLast lib textTable twiceFile
  rw [hlines] at h
  have hvalues : [some (ParamValue.s ['1']), some (.s ['2'])] =
      [some (.s ['3']), some (.s ['2'])] := hlast.symm.trans h
  exact absurd hvalues (by decide)

/-! ## The reader of a text -/

end Axon7.Config
