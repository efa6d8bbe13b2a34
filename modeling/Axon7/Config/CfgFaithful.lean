import Axon7.Config.Xml

/-!
# What the configuration file says

An element says what is inside it: the text of its name is its name, and a
category, a mode or a protocol is one of the keywords, in upper or lower case.
The parser agrees if each thing said is inside the element it is about, the
arrays have a row for it, a name fits, and no text is cut short of a keyword or
is the one keyword that the parser does not know.
-/

namespace Axon7.Config

open Axon7.Lib

/-! ## Keywords -/

/-- The keyword that the text is. -/
def exactKeyword {α : Type} (table : List (List Char × α)) (text : List Char) : Option α :=
  (table.find? fun k => icmpString text k.1).map Prod.snd

/-- No text that is cut short of a keyword, nor one of those not known. -/
structure KeywordOk {α : Type} (known unknown : List (List Char × α)) (text : List Char) :
    Prop where
  whole : ∀ k ∈ known, beginsTag text k.1 = true → icmpString text k.1 = true
  known : ∀ k ∈ unknown, icmpString text k.1 = false

instance {α : Type} (known unknown : List (List Char × α)) (text : List Char) :
    Decidable (KeywordOk known unknown text) :=
  decidable_of_iff ((∀ k ∈ known, beginsTag text k.1 = true → icmpString text k.1 = true) ∧
    ∀ k ∈ unknown, icmpString text k.1 = false)
    ⟨fun h => ⟨h.1, h.2⟩, fun h => ⟨h.whole, h.known⟩⟩

/-- Different keywords mean different things, and none begins with another. -/
structure Keywords {α : Type} (known unknown : List (List Char × α)) : Prop where
  prefixFree : ∀ k ∈ known, ∀ k' ∈ known, beginsTag k.1 k'.1 = true → k = k'
  prefixFree' : ∀ k ∈ known, ∀ k' ∈ unknown, beginsTag k.1 k'.1 = false
  inj : ∀ k ∈ known, ∀ k' ∈ known, k.2 = k'.2 → k = k'
  inj' : ∀ k ∈ known, ∀ k' ∈ unknown, k.2 ≠ k'.2

section Keywords

variable {α : Type} {known unknown : List (List Char × α)} {text tag : List Char}

theorem beginsTag_of_icmpString (h : icmpString text tag = true) :
    beginsTag text tag = true := by
  rw [icmpString, decide_eq_true_iff] at h
  rw [beginsTag, h, List.isPrefixOf_iff_prefix]

theorem beginsTag_trans {tag' : List Char} (h : icmpString text tag = true)
    (h' : beginsTag text tag' = true) : beginsTag tag tag' = true := by
  rw [icmpString, decide_eq_true_iff] at h
  rw [beginsTag, ← h]
  exact h'

theorem keyword_eq_exactKeyword_iff (htab : Keywords known unknown) :
    keyword known text = exactKeyword (known ++ unknown) text ↔
      KeywordOk known unknown text := by
  constructor
  · intro heq
    rw [keyword, exactKeyword] at heq
    cases hfind : known.find? fun k => beginsTag text k.1 with
    | none =>
      rw [List.find?_eq_none] at hfind
      rw [List.find?_eq_none.mpr hfind, Option.map_none] at heq
      have hnone := Option.map_eq_none_iff.mp heq.symm
      rw [List.find?_eq_none] at hnone
      refine ⟨fun k hk hb => absurd hb (hfind k hk), fun k hk => ?_⟩
      simpa using hnone k (List.mem_append_right _ hk)
    | some k =>
      rw [hfind, Option.map_some] at heq
      obtain ⟨k', hfind', hk'⟩ := Option.map_eq_some_iff.mp heq.symm
      have hk := List.mem_of_find?_eq_some hfind
      -- what is found is the keyword that the text is
      have hmem' : k' ∈ known := by
        obtain hmem | hmem := List.mem_append.mp (List.mem_of_find?_eq_some hfind')
        · exact hmem
        · exact absurd hk'.symm (htab.inj' k hk k' hmem)
      obtain rfl := htab.inj k hk k' hmem' hk'.symm
      have hself : icmpString text k.1 = true := by
        simpa using List.find?_some hfind'
      constructor
      · intro k₂ hk₂ hb
        obtain rfl := htab.prefixFree k hk k₂ hk₂ (beginsTag_trans hself hb)
        exact hself
      · intro k₂ hk₂
        have hno := htab.prefixFree' k hk k₂ hk₂
        by_contra hne
        have h₂ : icmpString text k₂.1 = true := by simpa using hne
        rw [beginsTag_trans hself (beginsTag_of_icmpString h₂)] at hno
        exact absurd hno (by decide)
  · intro hok
    have hsame : known.find? (fun k => beginsTag text k.1)
        = known.find? fun k => icmpString text k.1 := by
      refine List.find?_congr fun k hk => ?_
      rw [Bool.eq_iff_iff]
      exact ⟨hok.whole k hk, beginsTag_of_icmpString⟩
    have hrest : unknown.find? (fun k => icmpString text k.1) = none := by
      rw [List.find?_eq_none]
      intro k hk
      simp [hok.known k hk]
    rw [keyword, exactKeyword, List.find?_append, hrest, Option.or_none, hsame]

end Keywords

/-! ## What is read of each kind of element -/

variable (c : XmlLibc)

/-- What the parser writes to the entry of an interface. -/
def ifaceReader : Reader CfgTag IfaceEntry where
  starts t := t = .iface
  upd
    | (.name, some content) => some fun e =>
      { e with ifaceName := some (strlcpy ipaIfaceNameLen (strlcpy maxXmlStrLen content)) }
    | (.category, some content) => (keyword categoryTags content).map fun ifCat e =>
      { e with ifCat := some ifCat }
    | (.mode, some content) => (keyword modeTags content).map fun ifMode e =>
      { e with ifMode := some ifMode }
    | (.wlanMode, some content) => (keyword wlanModeTags content).map fun wlanMode e =>
      { e with wlanMode := some wlanMode }
    | _ => none

/-- To that of a private subnet. -/
def subnetReader : Reader CfgTag SubnetEntry where
  starts t := t = .subnet
  upd
    | (.subnetAddress, some content) => some fun e =>
      { e with subnetAddr := some (c.inetAddr content) }
    | (.subnetMask, some content) => some fun e =>
      { e with subnetMask := some (c.inetAddr content) }
    | _ => none

/-- To that of an ALG. -/
def algReader : Reader CfgTag AlgEntry where
  starts t := t = .alg
  upd
    | (.protocol, some content) => (keyword protocolTags content).map fun protocol e =>
      { e with protocol := some protocol }
    | (.port, some content) => some fun e =>
      { e with port := some (BitVec.ofInt 16 (c.atoi content)) }
    | _ => none

variable {c}

theorem step_iface (cfg : CfgConf) (v : Visit CfgTag) :
    (cfg.step c v).iface = ifaceReader.step cfg.iface v := by
  obtain ⟨t, content⟩ := v
  cases t <;> cases content <;>
    simp only [CfgConf.step, Reader.step, ifaceReader, decide_false, decide_true,
      Bool.false_eq_true, if_false, if_true, reduceCtorEq]
  all_goals try rfl
  case oduMode.some content => cases keyword oduModeTags content <;> rfl
  case category.some content => cases keyword categoryTags content <;> rfl
  case mode.some content => cases keyword modeTags content <;> rfl
  case wlanMode.some content => cases keyword wlanModeTags content <;> rfl
  case protocol.some content => cases keyword protocolTags content <;> rfl

theorem step_subnet (cfg : CfgConf) (v : Visit CfgTag) :
    (cfg.step c v).subnet = (subnetReader c).step cfg.subnet v := by
  obtain ⟨t, content⟩ := v
  cases t <;> cases content <;>
    simp only [CfgConf.step, Reader.step, subnetReader, decide_false, decide_true,
      Bool.false_eq_true, if_false, if_true, reduceCtorEq]
  all_goals try rfl
  case oduMode.some content => cases keyword oduModeTags content <;> rfl
  case category.some content => cases keyword categoryTags content <;> rfl
  case mode.some content => cases keyword modeTags content <;> rfl
  case wlanMode.some content => cases keyword wlanModeTags content <;> rfl
  case protocol.some content => cases keyword protocolTags content <;> rfl

theorem step_alg (cfg : CfgConf) (v : Visit CfgTag) :
    (cfg.step c v).alg = (algReader c).step cfg.alg v := by
  obtain ⟨t, content⟩ := v
  cases t <;> cases content <;>
    simp only [CfgConf.step, Reader.step, algReader, decide_false, decide_true,
      Bool.false_eq_true, if_false, if_true, reduceCtorEq]
  all_goals try rfl
  case oduMode.some content => cases keyword oduModeTags content <;> rfl
  case category.some content => cases keyword categoryTags content <;> rfl
  case mode.some content => cases keyword modeTags content <;> rfl
  case wlanMode.some content => cases keyword wlanModeTags content <;> rfl
  case protocol.some content => cases keyword protocolTags content <;> rfl

theorem foldl_step (visits : List (Visit CfgTag)) (cfg : CfgConf) :
    (visits.foldl (CfgConf.step c) cfg).iface = visits.foldl ifaceReader.step cfg.iface ∧
      (visits.foldl (CfgConf.step c) cfg).subnet
        = visits.foldl (subnetReader c).step cfg.subnet ∧
      (visits.foldl (CfgConf.step c) cfg).alg
        = visits.foldl (algReader c).step cfg.alg := by
  induction visits generalizing cfg with
  | nil => exact ⟨rfl, rfl, rfl⟩
  | cons v visits ih =>
    obtain ⟨hiface, hsubnet, halg⟩ := ih (cfg.step c v)
    rw [step_iface] at hiface
    rw [step_subnet] at hsubnet
    rw [step_alg] at halg
    exact ⟨hiface, hsubnet, halg⟩

/-! ## What is said -/

/-- `EMBMS_IF`, the category that has a tag and is not tried. -/
def unknownCategoryTags : List (List Char × IfaceType) := [("EMBMS".toList, .embmsIf)]

/-- What is said of an interface. -/
def ifaceStated : Reader CfgTag IfaceEntry where
  starts t := t = .iface
  upd
    | (.name, some content) => some fun e => { e with ifaceName := some content }
    | (.category, some content) =>
      (exactKeyword (categoryTags ++ unknownCategoryTags) content).map fun ifCat e =>
        { e with ifCat := some ifCat }
    | (.mode, some content) => (exactKeyword (modeTags ++ []) content).map fun ifMode e =>
      { e with ifMode := some ifMode }
    | (.wlanMode, some content) =>
      (exactKeyword (wlanModeTags ++ []) content).map fun wlanMode e =>
        { e with wlanMode := some wlanMode }
    | _ => none

/-- What is said of an ALG. -/
def algStated (c : XmlLibc) : Reader CfgTag AlgEntry where
  starts t := t = .alg
  upd
    | (.protocol, some content) =>
      (exactKeyword (protocolTags ++ []) content).map fun protocol e =>
        { e with protocol := some protocol }
    | (.port, some content) => some fun e =>
      { e with port := some (BitVec.ofInt 16 (c.atoi content)) }
    | _ => none

/-- The elements of a tree that have an entry each. -/
def ifaceElems (tree : XmlNode) : List (List (Visit CfgTag)) :=
  tree.records cfgTagOf CfgTag.descends ifaceReader.starts

def subnetElems (c : XmlLibc) (tree : XmlNode) : List (List (Visit CfgTag)) :=
  tree.records cfgTagOf CfgTag.descends (subnetReader c).starts

def algElems (c : XmlLibc) (tree : XmlNode) : List (List (Visit CfgTag)) :=
  tree.records cfgTagOf CfgTag.descends (algReader c).starts

/-- The entries are what the elements say, and nothing is written outside of an
array. -/
structure ReadsFaithfully (c : XmlLibc) (tree : XmlNode) : Prop where
  iface : ∃ s, (ipacmCfgXmlParseTree c tree .zero).iface = some s ∧
    s.rows = ifaceStated.rowsOf maxIfaceEntries .blank (ifaceElems tree)
  subnet : ∃ s, (ipacmCfgXmlParseTree c tree .zero).subnet = some s ∧
    s.rows = (subnetReader c).rowsOf maxSubnetEntries .blank (subnetElems c tree)
  alg : ∃ s, (ipacmCfgXmlParseTree c tree .zero).alg = some s ∧
    s.rows = (algStated c).rowsOf maxAlgEntries .blank (algElems c tree)

/-- A text about an interface that the parser takes for what it is. -/
def IfaceTextOk : Visit CfgTag → Prop
  | (.name, some content) => content.length < ipaIfaceNameLen
  | (.category, some content) => KeywordOk categoryTags unknownCategoryTags content
  | (.mode, some content) => KeywordOk modeTags [] content
  | (.wlanMode, some content) => KeywordOk wlanModeTags [] content
  | _ => True

instance : DecidablePred IfaceTextOk
  | (.name, some content) => inferInstanceAs (Decidable (content.length < ipaIfaceNameLen))
  | (.category, some content) =>
    inferInstanceAs (Decidable (KeywordOk categoryTags unknownCategoryTags content))
  | (.mode, some content) => inferInstanceAs (Decidable (KeywordOk modeTags [] content))
  | (.wlanMode, some content) =>
    inferInstanceAs (Decidable (KeywordOk wlanModeTags [] content))
  | (.name, none) | (.category, none) | (.mode, none) | (.wlanMode, none) => .isTrue trivial
  | (.system, _) | (.odu, _) | (.ipacmCfg, _) | (.ipacmIfaceCfg, _) | (.iface, _)
  | (.ipacmPrivateSubnetCfg, _) | (.subnet, _) | (.ipacmAlg, _) | (.alg, _)
  | (.ipacmNat, _) | (.ipPassthroughFlag, _) | (.ipPassthroughMode, _) | (.oduMode, _)
  | (.oduEmbmsOffload, _) | (.subnetAddress, _) | (.subnetMask, _) | (.protocol, _)
  | (.port, _) | (.natMaxEntries, _) => .isTrue trivial

/-- And one about an ALG. -/
def AlgTextOk : Visit CfgTag → Prop
  | (.protocol, some content) => KeywordOk protocolTags [] content
  | _ => True

/-- Everything said is inside the element it is about. -/
structure InPlace (c : XmlLibc) (tree : XmlNode) : Prop where
  iface : tree.Placed cfgTagOf CfgTag.descends ifaceReader.starts ifaceReader.States false
  subnet : tree.Placed cfgTagOf CfgTag.descends (subnetReader c).starts
    (subnetReader c).States false
  alg : tree.Placed cfgTagOf CfgTag.descends (algReader c).starts (algReader c).States false

/-- The arrays have room for what is said, and the parser takes the texts for
what they are. -/
structure Readable (c : XmlLibc) (tree : XmlNode) : Prop where
  ifaceFits : ifaceReader.FitsIn maxIfaceEntries (ifaceElems tree)
  subnetFits : (subnetReader c).FitsIn maxSubnetEntries (subnetElems c tree)
  algFits : (algReader c).FitsIn maxAlgEntries (algElems c tree)
  ifaceTexts : ∀ (i : Nat) (hi : i < (ifaceElems tree).length), i < maxIfaceEntries →
    ∀ v ∈ (ifaceElems tree)[i], IfaceTextOk v
  algTexts : ∀ (i : Nat) (hi : i < (algElems c tree).length), i < maxAlgEntries →
    ∀ v ∈ (algElems c tree)[i], AlgTextOk v

/-! ## Texts that the parser takes for what they are -/

theorem categoryTags_keywords : Keywords categoryTags unknownCategoryTags := by
  constructor <;> decide

theorem modeTags_keywords : Keywords modeTags [] := by
  constructor <;> decide

theorem wlanModeTags_keywords : Keywords wlanModeTags [] := by
  constructor <;> decide

theorem protocolTags_keywords : Keywords protocolTags [] := by
  constructor <;> decide

theorem strlcpy_eq_iff (content : List Char) :
    strlcpy ipaIfaceNameLen (strlcpy maxXmlStrLen content) = content ↔
      content.length < ipaIfaceNameLen := by
  rw [strlcpy, strlcpy, List.take_take, List.take_eq_self_iff]
  simp only [ipaIfaceNameLen, maxXmlStrLen]
  omega

theorem ifaceReader_upd {v : Visit CfgTag} (h : IfaceTextOk v) :
    ifaceReader.upd v = ifaceStated.upd v := by
  obtain ⟨t, content⟩ := v
  cases t <;> cases content <;> try rfl
  case name.some content =>
    simp only [ifaceReader, ifaceStated, (strlcpy_eq_iff content).mpr h]
  case category.some content =>
    simp only [ifaceReader, ifaceStated]
    rw [(keyword_eq_exactKeyword_iff categoryTags_keywords).mpr h]
  case mode.some content =>
    simp only [ifaceReader, ifaceStated]
    rw [(keyword_eq_exactKeyword_iff modeTags_keywords).mpr h]
  case wlanMode.some content =>
    simp only [ifaceReader, ifaceStated]
    rw [(keyword_eq_exactKeyword_iff wlanModeTags_keywords).mpr h]

theorem algReader_upd {v : Visit CfgTag} (h : AlgTextOk v) :
    (algReader c).upd v = (algStated c).upd v := by
  obtain ⟨t, content⟩ := v
  cases t <;> cases content <;> try rfl
  case protocol.some content =>
    simp only [algReader, algStated]
    rw [(keyword_eq_exactKeyword_iff protocolTags_keywords).mpr h]

/-! ## When the file is read as it says -/

theorem iface_descends (t : CfgTag) (h : ifaceReader.starts t = true) : t.descends = true := by
  obtain rfl := of_decide_eq_true h
  rfl

theorem subnet_descends (t : CfgTag) (h : (subnetReader c).starts t = true) :
    t.descends = true := by
  obtain rfl := of_decide_eq_true h
  rfl

theorem alg_descends (t : CfgTag) (h : (algReader c).starts t = true) :
    t.descends = true := by
  obtain rfl := of_decide_eq_true h
  rfl

variable {tree : XmlNode}

theorem parse_eq (c : XmlLibc) (tree : XmlNode) :
    (ipacmCfgXmlParseTree c tree .zero).iface =
        (tree.visits cfgTagOf CfgTag.descends).foldl ifaceReader.step
          (some (Rows.blank _ .blank)) ∧
      (ipacmCfgXmlParseTree c tree .zero).subnet =
        (tree.visits cfgTagOf CfgTag.descends).foldl (subnetReader c).step
          (some (Rows.blank _ .blank)) ∧
      (ipacmCfgXmlParseTree c tree .zero).alg =
        (tree.visits cfgTagOf CfgTag.descends).foldl (algReader c).step
          (some (Rows.blank _ .blank)) := by
  rw [ipacmCfgXmlParseTree, XmlNode.walk_eq_foldl]
  exact foldl_step _ _

theorem readsFaithfully_of_readable (h : InPlace c tree) (hr : Readable c tree) :
    ReadsFaithfully c tree := by
  obtain ⟨hiface, hsubnet, halg⟩ := parse_eq c tree
  constructor
  · refine ⟨_, hiface.trans
      (Reader.foldl_visits_eq (by decide) iface_descends h.iface hr.ifaceFits), ?_⟩
    exact Reader.rowsOf_congr fun i hi hcap v hv =>
      ifaceReader_upd (hr.ifaceTexts i hi hcap v hv)
  · exact ⟨_, hsubnet.trans
      (Reader.foldl_visits_eq (by decide) subnet_descends h.subnet hr.subnetFits), rfl⟩
  · refine ⟨_, halg.trans
      (Reader.foldl_visits_eq (by decide) alg_descends h.alg hr.algFits), ?_⟩
    exact Reader.rowsOf_congr fun i hi hcap v hv => algReader_upd (hr.algTexts i hi hcap v hv)

/-- A file as it should be: everything in its place and nothing said twice in one
element, and no more elements of a kind than the byte for their number holds. -/
structure Regular (c : XmlLibc) (tree : XmlNode) : Prop extends InPlace c tree where
  ifaces_lt : (ifaceElems tree).length < 256
  subnets_lt : (subnetElems c tree).length < 256
  algs_lt : (algElems c tree).length < 256
  ifaces_once : ∀ body ∈ ifaceElems tree,
    ∀ t ∈ [CfgTag.name, .category, .mode, .wlanMode], Reader.SaidOnce t body
  algs_once : ∀ body ∈ algElems c tree, Reader.SaidOnce CfgTag.protocol body

/-! What is written to each field, and what is said of it. -/

/-- The value of a name. -/
def nameValue (content : List Char) : Option (List Char) :=
  some (strlcpy ipaIfaceNameLen (strlcpy maxXmlStrLen content))

theorem ifaceReader_apply (v : Visit CfgTag) (e : IfaceEntry) :
    ifaceReader.apply e v =
      { ifaceName := (Reader.said .name nameValue v).or e.ifaceName
        ifCat := (Reader.said .category (keyword categoryTags) v).or e.ifCat
        ifMode := (Reader.said .mode (keyword modeTags) v).or e.ifMode
        wlanMode := (Reader.said .wlanMode (keyword wlanModeTags) v).or e.wlanMode } := by
  obtain ⟨t, content⟩ := v
  cases t <;> cases content <;> try rfl
  case category.some content =>
    simp only [Reader.apply, ifaceReader]
    cases h : keyword categoryTags content <;> simp [Reader.said, h]
  case mode.some content =>
    simp only [Reader.apply, ifaceReader]
    cases h : keyword modeTags content <;> simp [Reader.said, h]
  case wlanMode.some content =>
    simp only [Reader.apply, ifaceReader]
    cases h : keyword wlanModeTags content <;> simp [Reader.said, h]

theorem ifaceStated_apply (v : Visit CfgTag) (e : IfaceEntry) :
    ifaceStated.apply e v =
      { ifaceName := (Reader.said .name some v).or e.ifaceName
        ifCat := (Reader.said .category
          (exactKeyword (categoryTags ++ unknownCategoryTags)) v).or e.ifCat
        ifMode := (Reader.said .mode (exactKeyword (modeTags ++ [])) v).or e.ifMode
        wlanMode :=
          (Reader.said .wlanMode (exactKeyword (wlanModeTags ++ [])) v).or e.wlanMode } := by
  obtain ⟨t, content⟩ := v
  cases t <;> cases content <;> try rfl
  case category.some content =>
    simp only [Reader.apply, ifaceStated]
    cases h : exactKeyword (categoryTags ++ unknownCategoryTags) content <;>
      simp [Reader.said, h]
  case mode.some content =>
    simp only [Reader.apply, ifaceStated, List.append_nil]
    cases h : exactKeyword modeTags content <;> simp [Reader.said, h]
  case wlanMode.some content =>
    simp only [Reader.apply, ifaceStated, List.append_nil]
    cases h : exactKeyword wlanModeTags content <;> simp [Reader.said, h]

theorem algReader_protocol :
    (algReader c).Writes .protocol (·.protocol) (keyword protocolTags) := by
  intro v e
  obtain ⟨t, content⟩ := v
  cases t <;> cases content <;> try rfl
  case protocol.some content =>
    simp only [Reader.apply, algReader]
    cases h : keyword protocolTags content <;> simp [Reader.said, h]

theorem algStated_protocol :
    (algStated c).Writes .protocol (·.protocol) (exactKeyword (protocolTags ++ [])) := by
  intro v e
  obtain ⟨t, content⟩ := v
  cases t <;> cases content <;> try rfl
  case protocol.some content =>
    simp only [Reader.apply, algStated, List.append_nil]
    cases h : exactKeyword protocolTags content <;> simp [Reader.said, h]

theorem ifaceTextOk_of_rows (hr : Regular c tree)
    (hrows : ifaceReader.rowsOf maxIfaceEntries .blank (ifaceElems tree)
      = ifaceStated.rowsOf maxIfaceEntries .blank (ifaceElems tree))
    {i : Nat} (hi : i < (ifaceElems tree).length) (hcap : i < maxIfaceEntries)
    {v : Visit CfgTag} (hv : v ∈ (ifaceElems tree)[i]) : IfaceTextOk v := by
  have honce := hr.ifaces_once _ (List.getElem_mem hi)
  have hname : ifaceReader.Writes .name (·.ifaceName) nameValue := fun v e => by
    rw [ifaceReader_apply]
  have hname' : ifaceStated.Writes .name (·.ifaceName) some := fun v e => by
    rw [ifaceStated_apply]
  have hcat : ifaceReader.Writes .category (·.ifCat) (keyword categoryTags) := fun v e => by
    rw [ifaceReader_apply]
  have hcat' : ifaceStated.Writes .category (·.ifCat)
      (exactKeyword (categoryTags ++ unknownCategoryTags)) := fun v e => by
    rw [ifaceStated_apply]
  have hmode : ifaceReader.Writes .mode (·.ifMode) (keyword modeTags) := fun v e => by
    rw [ifaceReader_apply]
  have hmode' : ifaceStated.Writes .mode (·.ifMode) (exactKeyword (modeTags ++ [])) :=
    fun v e => by rw [ifaceStated_apply]
  have hwlan : ifaceReader.Writes .wlanMode (·.wlanMode) (keyword wlanModeTags) :=
    fun v e => by rw [ifaceReader_apply]
  have hwlan' : ifaceStated.Writes .wlanMode (·.wlanMode)
      (exactKeyword (wlanModeTags ++ [])) := fun v e => by
    rw [ifaceStated_apply]
  obtain ⟨t, content⟩ := v
  cases t <;> cases content <;> try trivial
  case name.some content =>
    have heq := hname.value_eq hname' rfl hrows hi hcap (honce .name (by decide)) hv
    exact (strlcpy_eq_iff content).mp (Option.some.inj heq)
  case category.some content =>
    exact (keyword_eq_exactKeyword_iff categoryTags_keywords).mp
      (hcat.value_eq hcat' rfl hrows hi hcap (honce .category (by decide)) hv)
  case mode.some content =>
    exact (keyword_eq_exactKeyword_iff modeTags_keywords).mp
      (hmode.value_eq hmode' rfl hrows hi hcap (honce .mode (by decide)) hv)
  case wlanMode.some content =>
    exact (keyword_eq_exactKeyword_iff wlanModeTags_keywords).mp
      (hwlan.value_eq hwlan' rfl hrows hi hcap (honce .wlanMode (by decide)) hv)

theorem algTextOk_of_rows (hr : Regular c tree)
    (hrows : (algReader c).rowsOf maxAlgEntries .blank (algElems c tree)
      = (algStated c).rowsOf maxAlgEntries .blank (algElems c tree))
    {i : Nat} (hi : i < (algElems c tree).length) (hcap : i < maxAlgEntries)
    {v : Visit CfgTag} (hv : v ∈ (algElems c tree)[i]) : AlgTextOk v := by
  have honce := hr.algs_once _ (List.getElem_mem hi)
  obtain ⟨t, content⟩ := v
  cases t <;> cases content <;> try trivial
  case protocol.some content =>
    exact (keyword_eq_exactKeyword_iff protocolTags_keywords).mp
      (algReader_protocol.value_eq algStated_protocol rfl hrows hi hcap honce hv)

theorem readable_of_readsFaithfully (hr : Regular c tree) (h : ReadsFaithfully c tree) :
    Readable c tree := by
  obtain ⟨hiface, hsubnet, halg⟩ := parse_eq c tree
  obtain ⟨s, hs, hrows⟩ := h.iface
  obtain ⟨s', hs', -⟩ := h.subnet
  obtain ⟨s'', hs'', hrows''⟩ := h.alg
  rw [hiface] at hs
  rw [hsubnet] at hs'
  rw [halg] at hs''
  have hfits : ifaceReader.FitsIn maxIfaceEntries (ifaceElems tree) := by
    by_contra hno
    rw [Reader.foldl_visits_eq_none (by decide) iface_descends hr.iface hr.ifaces_lt hno]
      at hs
    exact absurd hs (by simp)
  have hfits' : (subnetReader c).FitsIn maxSubnetEntries (subnetElems c tree) := by
    by_contra hno
    rw [Reader.foldl_visits_eq_none (by decide) subnet_descends hr.subnet hr.subnets_lt hno]
      at hs'
    exact absurd hs' (by simp)
  have hfits'' : (algReader c).FitsIn maxAlgEntries (algElems c tree) := by
    by_contra hno
    rw [Reader.foldl_visits_eq_none (by decide) alg_descends hr.alg hr.algs_lt hno] at hs''
    exact absurd hs'' (by simp)
  rw [Reader.foldl_visits_eq (by decide) iface_descends hr.iface hfits] at hs
  rw [Reader.foldl_visits_eq (by decide) alg_descends hr.alg hfits''] at hs''
  obtain rfl := Option.some.inj hs
  obtain rfl := Option.some.inj hs''
  exact ⟨hfits, hfits', hfits'',
    fun i hi hcap v hv => ifaceTextOk_of_rows hr hrows hi hcap hv,
    fun i hi hcap v hv => algTextOk_of_rows hr hrows'' hi hcap hv⟩

/-- A file with everything in its place is read as it says if the arrays have room
for it and the parser takes its texts for what they are; and a regular file only
then. -/
theorem ipacmCfgXmlParseTree_faithful (c : XmlLibc) (tree : XmlNode) :
    (InPlace c tree → Readable c tree → ReadsFaithfully c tree) ∧
      (Regular c tree → (ReadsFaithfully c tree ↔ Readable c tree)) := by
  refine ⟨readsFaithfully_of_readable, fun hr => ?_⟩
  exact ⟨readable_of_readsFaithfully hr, readsFaithfully_of_readable hr.toInPlace⟩

/-! ## Files about one interface -/

/-- An element with a text. -/
def leaf (name text : String) (next : XmlNode) : XmlNode :=
  .element name.toList (.text text.toList .nil) next

/-- A file about one interface. -/
def oneIface (category : String) : XmlNode :=
  .element "system".toList
    (.element "IPACM".toList
      (.element "IPACMIface".toList
        (.element "Iface".toList
          (leaf "Name" "embms0" (leaf "Category" category .nil)) .nil) .nil) .nil) .nil

/-- No text of these files is an address or a number. -/
def noLibc : XmlLibc := ⟨fun _ => 0, fun _ _ => 0, fun _ => 0⟩

/-- The category of a multicast interface is not set. -/
theorem oneIface_embms_not_faithful : ¬ ReadsFaithfully noLibc (oneIface "EMBMS") := by
  intro h
  obtain ⟨s, hs, hrows⟩ := h.iface
  have hread : ((ipacmCfgXmlParseTree noLibc (oneIface "EMBMS") .zero).iface.map
      fun s => (s.rows ⟨0, by decide⟩).ifCat) = some none := by
    decide +kernel
  have hsaid : (ifaceStated.rowsOf maxIfaceEntries .blank
      (ifaceElems (oneIface "EMBMS")) ⟨0, by decide⟩).ifCat = some .embmsIf := by
    decide +kernel
  rw [hs, Option.map_some, hrows, hsaid] at hread
  exact absurd hread (by decide)

theorem oneIface_wan_inPlace : InPlace noLibc (oneIface "WAN") := by
  constructor <;> decide +kernel

theorem oneIface_wan_readable : Readable noLibc (oneIface "WAN") where
  ifaceFits := by decide +kernel
  subnetFits := by decide +kernel
  algFits := by decide +kernel
  ifaceTexts := by decide +kernel
  algTexts i hi := absurd hi (by
    rw [show algElems noLibc (oneIface "WAN") = [] by decide +kernel]
    exact Nat.not_lt_zero i)

theorem oneIface_wan_faithful : ReadsFaithfully noLibc (oneIface "WAN") :=
  (ipacmCfgXmlParseTree_faithful noLibc (oneIface "WAN")).1 oneIface_wan_inPlace
    oneIface_wan_readable

end Axon7.Config
