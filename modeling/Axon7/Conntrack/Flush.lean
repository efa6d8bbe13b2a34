import Axon7.Conntrack.NatRefines

/-!
# Flushing the temporary entries

`FlushTempEntries` gives every temporary entry of a client to `AddEntry`, and clears its
place unless that fails. A dummy flush makes the public address the private one before it
knows whether the entry can be added. And a connection that could not be one is cleared
and added nowhere, as `AddEntry` ignores it and returns 0.
-/

namespace Axon7.Conntrack

/-- What a flush gives to `AddEntry`. -/
def TempEntry.toAdd (entry : TempEntry) (isDummy : Bool) : TempEntry :=
  if isDummy then
    { entry with
      privateIp := entry.publicIp
      privatePort := entry.publicPort }
  else entry

namespace NatCache

open NatTableEntry

/-- The flush as far as the place with the number given. -/
def flushUpTo (c : NatCache) (ipAddr : Ip) (isAdd isDummy : Bool)
    (reply : Nat → Option Nat) (n : Nat) : NatCache :=
  (List.range n).foldl (flushTempEntry ipAddr isAdd isDummy reply) c

/-- The flush tries to add the temporary entry in that place. -/
def Tries (c : NatCache) (ipAddr : Ip) (isAdd : Bool) (cnt : Nat) (entry : TempEntry) : Prop :=
  c.temp[cnt]? = some entry ∧ (entry.privateIp = ipAddr ∨ entry.targetIp = ipAddr) ∧
    isAdd = true ∧ entry.publicIp = c.pubIpAddr

instance (c : NatCache) (ipAddr : Ip) (isAdd : Bool) (cnt : Nat) (entry : TempEntry) :
    Decidable (c.Tries ipAddr isAdd cnt entry) :=
  inferInstanceAs (Decidable (_ ∧ _ ∧ _ ∧ _))

/-- Whether `AddEntry` returns 0 for it at its turn. -/
def flushAdds (c : NatCache) (ipAddr : Ip) (isAdd isDummy : Bool)
    (reply : Nat → Option Nat) (cnt : Nat) (entry : TempEntry) : Bool :=
  ((c.flushUpTo ipAddr isAdd isDummy reply cnt).addEntry
    (entry.toAdd isDummy).toNatTableEntry (reply cnt)).1

/-- The flush that leads to `c'` moves what can be added, and leaves alone what cannot. -/
structure FlushesRight (c : NatCache) (ipAddr : Ip) (isAdd isDummy : Bool)
    (reply : Nat → Option Nat) (c' : NatCache) : Prop where
  moved : ∀ cnt entry, c.Tries ipAddr isAdd cnt entry →
    c.flushAdds ipAddr isAdd isDummy reply cnt entry = true →
    c'.temp[cnt]? = some .empty ∧ ∃ (k : Nat) (free used : NatTableEntry),
      (c.flushUpTo ipAddr isAdd isDummy reply cnt).cache[k]? = some free ∧
        free.isFree = true ∧ c'.cache[k]? = some used ∧ used.isFree = false ∧
        used.natRule = (entry.toAdd isDummy).natRule
  kept : ∀ cnt entry, c.Tries ipAddr isAdd cnt entry →
    c.flushAdds ipAddr isAdd isDummy reply cnt entry = false → c'.temp[cnt]? = some entry
  removable : ∀ cnt entry, c.Tries ipAddr isAdd cnt entry →
    c.flushAdds ipAddr isAdd isDummy reply cnt entry = false → entry.isFree = false →
    (∀ j < cnt, ∀ e, c.temp[j]? = some e → e.key ≠ entry.key) →
    (c'.deleteTempEntry entry.toNatTableEntry).temp[cnt]? = some .empty

variable {c c' : NatCache} {ipAddr : Ip} {isAdd isDummy : Bool} {reply : Nat → Option Nat}
  {cnt k n : Nat} {entry : TempEntry} {e rule : NatTableEntry}

/-! ## What `AddEntry` does -/

theorem addEntry_cases (c : NatCache) (rule : NatTableEntry) (r : Option Nat) :
    c.addEntry rule r = (false, c) ∨
      (c.addEntry rule r = (true, c) ∧ rule.isValid = false) ∨
      ((c.addEntry rule r).1 = true ∧ rule.isValid = true ∧
        ∃ (k : Nat) (free used : NatTableEntry) (rules : NatRules),
          c.cache[k]? = some free ∧ free.isFree = true ∧ used.natRule = rule.natRule ∧
            (c.addEntry rule r).2 = c.write k used (c.curCnt + 1) rules) := by
  rw [addEntry]
  split
  · exact .inl rfl
  split
  · exact .inl rfl
  split
  · next hvalid => exact .inr (.inl ⟨rfl, hvalid⟩)
  next hvalid =>
  split
  · exact .inl rfl
  split
  · exact .inl rfl
  next k hfind =>
  obtain ⟨free, hget, hfree⟩ := getElem_of_findIdx hfind
  have hvalid := eq_true_of_ne_false hvalid
  split
  · exact .inr (.inr ⟨rfl, hvalid, k, free, rule.off, c.rules, hget, hfree, rfl, rfl⟩)
  split
  · exact .inl rfl
  · next hdl rules _ =>
    exact .inr (.inr ⟨rfl, hvalid, k, free, rule.on hdl, rules, hget, hfree, rfl, rfl⟩)

theorem isValid_of_natRule {e rule : NatTableEntry} (h : e.natRule = rule.natRule) :
    e.isValid = rule.isValid := by
  simp only [natRule, NatRule.mk.injEq] at h
  rw [isValid, isValid, h.1, h.2.1, h.2.2.1, h.2.2.2.1, h.2.2.2.2.2]

/-- Entries that are used stay, and one that comes is a connection. -/
structure Fills (c c' : NatCache) : Prop where
  used : ∀ (k : Nat) (e : NatTableEntry), c.cache[k]? = some e → e.isFree = false →
    c'.cache[k]? = some e
  come : ∀ (k : Nat) (free e : NatTableEntry), c.cache[k]? = some free →
    free.isFree = true → c'.cache[k]? = some e → e.isFree = false → e.isValid = true
  len : c'.cache.length = c.cache.length

theorem Fills.refl (c : NatCache) : Fills c c where
  used _ _ h _ := h
  come k free e hget hfree hget' hused := by
    rw [hget] at hget'
    obtain rfl := Option.some.inj hget'
    rw [hfree] at hused
    exact absurd hused.symm Bool.false_ne_true
  len := rfl

theorem Fills.congr (h : Fills c c') {c'' : NatCache} (hcache : c''.cache = c'.cache) :
    Fills c c'' := by
  constructor
  · rw [hcache]
    exact h.used
  · rw [hcache]
    exact h.come
  · rw [hcache]
    exact h.len

theorem Fills.trans (h : Fills c c') {c'' : NatCache} (h' : Fills c' c'') : Fills c c'' where
  used k e hget hused := h'.used k e (h.used k e hget hused) hused
  come k free e hget hfree hget'' hused := by
    have hk : k < c'.cache.length := by
      rw [h.len]
      exact (List.getElem?_eq_some_iff.mp hget).1
    have hmid : c'.cache[k]? = some c'.cache[k] := List.getElem?_eq_getElem hk
    cases hfree' : c'.cache[k].isFree with
    | true => exact h'.come k _ e hmid hfree' hget'' hused
    | false =>
      have hstay := h'.used k _ hmid hfree'
      rw [hget''] at hstay
      obtain rfl := Option.some.inj hstay
      exact h.come k free _ hget hfree hmid hfree'
  len := h'.len.trans h.len

theorem Fills.addEntry (h : Fills c c') (rule : NatTableEntry) (r : Option Nat) :
    Fills c (c'.addEntry rule r).2 := by
  obtain heq | ⟨heq, -⟩ | ⟨-, hvalid, k, free, used, rules, hget, hfree, hrule, heq⟩ :=
    addEntry_cases c' rule r
  · rw [heq]
    exact h
  · rw [heq]
    exact h
  · rw [heq]
    have hk : k < c'.cache.length := (List.getElem?_eq_some_iff.mp hget).1
    refine ⟨fun j e hj hused => ?_, fun j free' e hj hfree' hj' hused => ?_, ?_⟩
    · have hj' := h.used j e hj hused
      have hne : k ≠ j := by
        rintro rfl
        rw [hget] at hj'
        rw [Option.some.inj hj', hused] at hfree
        exact absurd hfree Bool.false_ne_true
      exact (List.getElem?_set_ne hne).trans hj'
    · by_cases hkj : k = j
      · subst hkj
        have hset : (c'.cache.set k used)[k]? = some used := List.getElem?_set_self hk
        obtain rfl := Option.some.inj (hset.symm.trans hj')
        rw [isValid_of_natRule hrule]
        exact hvalid
      · exact h.come j free' e hj hfree' ((List.getElem?_set_ne hkj).symm.trans hj') hused
    · exact (List.length_set ..).trans h.len

/-! ## One turn -/

theorem addEntry_temp (c : NatCache) (rule : NatTableEntry) (r : Option Nat) :
    (c.addEntry rule r).2.temp = c.temp ∧ (c.addEntry rule r).2.pubIpAddr = c.pubIpAddr := by
  obtain heq | ⟨heq, -⟩ | ⟨-, -, k, free, used, rules, -, -, -, heq⟩ := addEntry_cases c rule r
  · rw [heq]
    exact ⟨rfl, rfl⟩
  · rw [heq]
    exact ⟨rfl, rfl⟩
  · rw [heq]
    exact ⟨rfl, rfl⟩

/-- A turn edits one place, and puts into the cache what can be added. -/
structure Turns (cnt : Nat) (c c' : NatCache) : Prop where
  others : ∀ j ≠ cnt, c'.temp[j]? = c.temp[j]?
  len : c'.temp.length = c.temp.length
  pubIpAddr : c'.pubIpAddr = c.pubIpAddr

theorem Turns.set {temp : TempEntry} (htemp : c'.temp = c.temp.set cnt temp)
    (hpub : c'.pubIpAddr = c.pubIpAddr) : Turns cnt c c' where
  others j hj := by
    rw [htemp]
    exact List.getElem?_set_ne (Ne.symm hj)
  len := by
    rw [htemp]
    exact List.length_set ..
  pubIpAddr := hpub

theorem flushTempEntry_of_tries (htries : c.Tries ipAddr isAdd cnt entry) :
    flushTempEntry ipAddr isAdd isDummy reply c cnt =
      let rule := entry.toAdd isDummy
      let c' := { c with temp := c.temp.set cnt rule }
      match c'.addEntry rule.toNatTableEntry (reply cnt) with
      | (false, c') => c'
      | (true, c') => { c' with temp := c'.temp.set cnt .empty } := by
  obtain ⟨hget, hip, rfl, hpub⟩ := htries
  rw [flushTempEntry, hget]
  dsimp only
  rw [if_pos (by simpa using hip), if_pos (by simpa using hpub)]
  cases isDummy <;> rfl

theorem addEntry_setTemp (c : NatCache) (temp : List TempEntry) (rule : NatTableEntry)
    (r : Option Nat) :
    { c with temp := temp }.addEntry rule r =
      ((c.addEntry rule r).1, { (c.addEntry rule r).2 with temp := temp }) := by
  unfold addEntry
  dsimp only [isAlgPort, chkForDup, isPwrSaveIf, ipaNatAddIpv4Rule, write]
  split
  · rfl
  split
  · rfl
  split
  · rfl
  split
  · rfl
  split
  · rfl
  split
  · rfl
  split
  · rfl
  · rfl

theorem flushTempEntry_added (htries : c.Tries ipAddr isAdd cnt entry)
    (hadds : (c.addEntry (entry.toAdd isDummy).toNatTableEntry (reply cnt)).1 = true) :
    flushTempEntry ipAddr isAdd isDummy reply c cnt =
      { (c.addEntry (entry.toAdd isDummy).toNatTableEntry (reply cnt)).2 with
        temp := (c.temp.set cnt (entry.toAdd isDummy)).set cnt .empty } := by
  rw [flushTempEntry_of_tries htries]
  dsimp only
  rw [addEntry_setTemp, hadds]

theorem flushTempEntry_failed (htries : c.Tries ipAddr isAdd cnt entry)
    (hadds : (c.addEntry (entry.toAdd isDummy).toNatTableEntry (reply cnt)).1 = false) :
    flushTempEntry ipAddr isAdd isDummy reply c cnt =
      { (c.addEntry (entry.toAdd isDummy).toNatTableEntry (reply cnt)).2 with
        temp := c.temp.set cnt (entry.toAdd isDummy) } := by
  rw [flushTempEntry_of_tries htries]
  dsimp only
  rw [addEntry_setTemp, hadds]

theorem flushTempEntry_of_not_tries (h : ∀ entry, ¬ c.Tries ipAddr isAdd cnt entry) :
    flushTempEntry ipAddr isAdd isDummy reply c cnt = c ∨
      flushTempEntry ipAddr isAdd isDummy reply c cnt =
        { c with temp := c.temp.set cnt .empty } := by
  rw [flushTempEntry]
  split
  · exact .inl rfl
  next entry hget =>
  split
  · next hip =>
    refine .inr (if_neg fun hadd => h entry ⟨hget, ?_, ?_⟩)
    · simpa using hip
    · simpa using hadd
  · exact .inl rfl

theorem flushTempEntry_turns (c : NatCache) (ipAddr : Ip) (isAdd isDummy : Bool)
    (reply : Nat → Option Nat) (cnt : Nat) :
    Turns cnt c (flushTempEntry ipAddr isAdd isDummy reply c cnt) ∧
      Fills c (flushTempEntry ipAddr isAdd isDummy reply c cnt) := by
  by_cases htries : ∃ entry, c.Tries ipAddr isAdd cnt entry
  · obtain ⟨entry, htries⟩ := htries
    have hframe := addEntry_temp c (entry.toAdd isDummy).toNatTableEntry (reply cnt)
    have hfills := (Fills.refl c).addEntry (entry.toAdd isDummy).toNatTableEntry (reply cnt)
    cases hadds : (c.addEntry (entry.toAdd isDummy).toNatTableEntry (reply cnt)).1 with
    | true =>
      rw [flushTempEntry_added htries hadds]
      exact ⟨.set (List.set_set ..) hframe.2, hfills.congr rfl⟩
    | false =>
      rw [flushTempEntry_failed htries hadds]
      exact ⟨.set rfl hframe.2, hfills.congr rfl⟩
  · have hnot := not_exists.mp htries
    obtain heq | heq : flushTempEntry ipAddr isAdd isDummy reply c cnt = c ∨
        flushTempEntry ipAddr isAdd isDummy reply c cnt =
          { c with temp := c.temp.set cnt .empty } := flushTempEntry_of_not_tries hnot
    · rw [heq]
      exact ⟨⟨fun _ _ => rfl, rfl, rfl⟩, .refl c⟩
    · rw [heq]
      exact ⟨.set rfl rfl, (Fills.refl c).congr rfl⟩

/-! ## The flush -/

theorem flushUpTo_succ (c : NatCache) (ipAddr : Ip) (isAdd isDummy : Bool)
    (reply : Nat → Option Nat) (n : Nat) :
    c.flushUpTo ipAddr isAdd isDummy reply (n + 1) =
      flushTempEntry ipAddr isAdd isDummy reply
        (c.flushUpTo ipAddr isAdd isDummy reply n) n := by
  rw [flushUpTo, List.range_succ, List.foldl_concat]
  rfl

theorem flushUpTo_ahead (c : NatCache) (ipAddr : Ip) (isAdd isDummy : Bool)
    (reply : Nat → Option Nat) (n : Nat) :
    (∀ j ≥ n, (c.flushUpTo ipAddr isAdd isDummy reply n).temp[j]? = c.temp[j]?) ∧
      (c.flushUpTo ipAddr isAdd isDummy reply n).temp.length = c.temp.length ∧
      (c.flushUpTo ipAddr isAdd isDummy reply n).pubIpAddr = c.pubIpAddr := by
  induction n with
  | zero => exact ⟨fun _ _ => rfl, rfl, rfl⟩
  | succ n ih =>
    obtain ⟨hahead, hlen, hpub⟩ := ih
    obtain ⟨hturn, -⟩ := flushTempEntry_turns (c.flushUpTo ipAddr isAdd isDummy reply n)
      ipAddr isAdd isDummy reply n
    rw [flushUpTo_succ]
    refine ⟨fun j hj => ?_, hturn.len.trans hlen, hturn.pubIpAddr.trans hpub⟩
    rw [hturn.others j (by omega), hahead j (by omega)]

theorem flushUpTo_past (c : NatCache) (ipAddr : Ip) (isAdd isDummy : Bool)
    (reply : Nat → Option Nat) {m n : Nat} (hle : m ≤ n) :
    (∀ j < m, (c.flushUpTo ipAddr isAdd isDummy reply n).temp[j]? =
        (c.flushUpTo ipAddr isAdd isDummy reply m).temp[j]?) ∧
      Fills (c.flushUpTo ipAddr isAdd isDummy reply m)
        (c.flushUpTo ipAddr isAdd isDummy reply n) := by
  induction n, hle using Nat.le_induction with
  | base => exact ⟨fun _ _ => rfl, .refl _⟩
  | succ n hle ih =>
    obtain ⟨hpast, hfills⟩ := ih
    obtain ⟨hturn, hfill⟩ := flushTempEntry_turns (c.flushUpTo ipAddr isAdd isDummy reply n)
      ipAddr isAdd isDummy reply n
    rw [flushUpTo_succ]
    refine ⟨fun j hj => ?_, hfills.trans hfill⟩
    rw [hturn.others j (by omega), hpast j hj]

theorem flushTempEntries_eq (c : NatCache) (ipAddr : Ip) (isAdd isDummy : Bool)
    (reply : Nat → Option Nat) :
    c.flushTempEntries ipAddr isAdd isDummy reply =
      c.flushUpTo ipAddr isAdd isDummy reply c.temp.length := rfl

theorem tries_atTurn (c : NatCache) (ipAddr : Ip) (isAdd isDummy : Bool)
    (reply : Nat → Option Nat) (cnt : Nat) (entry : TempEntry) :
    (c.flushUpTo ipAddr isAdd isDummy reply cnt).Tries ipAddr isAdd cnt entry ↔
      c.Tries ipAddr isAdd cnt entry := by
  obtain ⟨hahead, -, hpub⟩ := c.flushUpTo_ahead ipAddr isAdd isDummy reply cnt
  rw [Tries, Tries, hahead cnt (Nat.le_refl cnt), hpub]

theorem flushTempEntries_temp (htries : c.Tries ipAddr isAdd cnt entry) (isDummy : Bool)
    (reply : Nat → Option Nat) :
    (c.flushTempEntries ipAddr isAdd isDummy reply).temp[cnt]? =
      some (if c.flushAdds ipAddr isAdd isDummy reply cnt entry then .empty
        else entry.toAdd isDummy) := by
  have hcnt : cnt < c.temp.length := (List.getElem?_eq_some_iff.mp htries.1).1
  obtain ⟨-, hlen, -⟩ := c.flushUpTo_ahead ipAddr isAdd isDummy reply cnt
  have hcnt' : cnt < (c.flushUpTo ipAddr isAdd isDummy reply cnt).temp.length := hlen ▸ hcnt
  have hturn := (c.tries_atTurn ipAddr isAdd isDummy reply cnt entry).mpr htries
  obtain ⟨hpast, -⟩ := c.flushUpTo_past ipAddr isAdd isDummy reply (Nat.succ_le_of_lt hcnt)
  rw [flushTempEntries_eq, hpast cnt (Nat.lt_succ_self cnt), flushUpTo_succ]
  cases hadds : c.flushAdds ipAddr isAdd isDummy reply cnt entry with
  | true =>
    rw [flushTempEntry_added hturn hadds, if_pos rfl]
    exact List.getElem?_set_self (by rwa [List.length_set])
  | false =>
    rw [flushTempEntry_failed hturn hadds, if_neg Bool.false_ne_true]
    exact List.getElem?_set_self hcnt'

theorem flushTempEntries_cache (htries : c.Tries ipAddr isAdd cnt entry)
    (hadds : c.flushAdds ipAddr isAdd isDummy reply cnt entry = true)
    (hvalid : (entry.toAdd isDummy).isValid = true) :
    ∃ (k : Nat) (free used : NatTableEntry),
      (c.flushUpTo ipAddr isAdd isDummy reply cnt).cache[k]? = some free ∧
        free.isFree = true ∧
        (c.flushTempEntries ipAddr isAdd isDummy reply).cache[k]? = some used ∧
        used.isFree = false ∧ used.natRule = (entry.toAdd isDummy).natRule := by
  have hcnt : cnt < c.temp.length := (List.getElem?_eq_some_iff.mp htries.1).1
  obtain ⟨-, hfills⟩ := c.flushUpTo_past ipAddr isAdd isDummy reply (Nat.succ_le_of_lt hcnt)
  obtain heq | ⟨-, hinvalid⟩ | ⟨-, -, k, free, used, rules, hget, hfree, hrule, heq⟩ :=
    addEntry_cases (c.flushUpTo ipAddr isAdd isDummy reply cnt)
      (entry.toAdd isDummy).toNatTableEntry (reply cnt)
  · rw [flushAdds, heq] at hadds
    exact absurd hadds Bool.false_ne_true
  · rw [hvalid] at hinvalid
    exact absurd hinvalid.symm Bool.false_ne_true
  · have hused : used.isFree = false :=
      isFree_of_isValid ((isValid_of_natRule hrule).trans hvalid)
    have hnext : (c.flushUpTo ipAddr isAdd isDummy reply (cnt + 1)).cache[k]? = some used := by
      have hturn := (c.tries_atTurn ipAddr isAdd isDummy reply cnt entry).mpr htries
      rw [flushUpTo_succ, flushTempEntry_added hturn hadds, heq]
      exact List.getElem?_set_self (List.getElem?_eq_some_iff.mp hget).1
    exact ⟨k, free, used, hget, hfree, hfills.used k used hnext hused, hused, hrule⟩

theorem flushTempEntries_key {j : Nat} {e : TempEntry}
    (hkept : ∀ cnt entry, c.Tries ipAddr isAdd cnt entry →
      c.flushAdds ipAddr isAdd isDummy reply cnt entry = false →
      entry.toAdd isDummy = entry)
    (hget : (c.flushTempEntries ipAddr isAdd isDummy reply).temp[j]? = some e) :
    c.temp[j]? = some e ∨ e = .empty := by
  have hj : j < c.temp.length := by
    obtain ⟨-, hlen, -⟩ := c.flushUpTo_ahead ipAddr isAdd isDummy reply c.temp.length
    exact hlen ▸ (List.getElem?_eq_some_iff.mp hget).1
  by_cases htries : ∃ entry, c.Tries ipAddr isAdd j entry
  · obtain ⟨entry, htries⟩ := htries
    rw [flushTempEntries_temp htries] at hget
    have hget := Option.some.inj hget
    cases hadds : c.flushAdds ipAddr isAdd isDummy reply j entry with
    | true =>
      rw [hadds, if_pos rfl] at hget
      exact .inr hget.symm
    | false =>
      rw [hadds, if_neg Bool.false_ne_true, hkept j entry htries hadds] at hget
      exact .inl (hget ▸ htries.1)
  · obtain ⟨hahead, hlen, -⟩ := c.flushUpTo_ahead ipAddr isAdd isDummy reply j
    obtain ⟨hpast, -⟩ := c.flushUpTo_past ipAddr isAdd isDummy reply (Nat.succ_le_of_lt hj)
    have hnot : ∀ entry,
        ¬ (c.flushUpTo ipAddr isAdd isDummy reply j).Tries ipAddr isAdd j entry :=
      fun entry h => htries ⟨entry, (c.tries_atTurn ipAddr isAdd isDummy reply j entry).mp h⟩
    rw [flushTempEntries_eq, hpast j (Nat.lt_succ_self j), flushUpTo_succ] at hget
    obtain heq | heq := flushTempEntry_of_not_tries hnot
    · rw [heq, hahead j (Nat.le_refl j)] at hget
      exact .inl hget
    · rw [heq] at hget
      have hset := List.getElem?_set_self (a := TempEntry.empty) (hlen.symm ▸ hj)
      exact .inr (Option.some.inj (hget.symm.trans hset))

/-- A flush does what it should iff every connection that `AddEntry` returns 0 for could
be one, and a dummy flush changes none that `AddEntry` fails for. -/
theorem flushTempEntries_right_iff (c : NatCache) (ipAddr : Ip) (isAdd isDummy : Bool)
    (reply : Nat → Option Nat) :
    c.FlushesRight ipAddr isAdd isDummy reply
        (c.flushTempEntries ipAddr isAdd isDummy reply) ↔
      ∀ cnt entry, c.Tries ipAddr isAdd cnt entry →
        if c.flushAdds ipAddr isAdd isDummy reply cnt entry then
          (entry.toAdd isDummy).isValid = true
        else entry.toAdd isDummy = entry := by
  constructor
  · intro h cnt entry htries
    cases hadds : c.flushAdds ipAddr isAdd isDummy reply cnt entry with
    | true =>
      rw [if_pos rfl]
      obtain ⟨-, k, free, used, hget, hfree, hget', hused, hrule⟩ :=
        h.moved cnt entry htries hadds
      have hcnt : cnt < c.temp.length := (List.getElem?_eq_some_iff.mp htries.1).1
      obtain ⟨-, hfills⟩ := c.flushUpTo_past ipAddr isAdd isDummy reply (Nat.le_of_lt hcnt)
      rw [← isValid_of_natRule hrule]
      exact hfills.come k free used hget hfree hget' hused
    | false =>
      rw [if_neg Bool.false_ne_true]
      have hkept := h.kept cnt entry htries hadds
      rw [flushTempEntries_temp htries, hadds, if_neg Bool.false_ne_true] at hkept
      exact Option.some.inj hkept
  · intro h
    have hsame : ∀ cnt entry, c.Tries ipAddr isAdd cnt entry →
        c.flushAdds ipAddr isAdd isDummy reply cnt entry = false →
        entry.toAdd isDummy = entry := by
      intro cnt entry htries hadds
      have hentry := h cnt entry htries
      rwa [hadds, if_neg Bool.false_ne_true] at hentry
    have hkept : ∀ cnt entry, c.Tries ipAddr isAdd cnt entry →
        c.flushAdds ipAddr isAdd isDummy reply cnt entry = false →
        (c.flushTempEntries ipAddr isAdd isDummy reply).temp[cnt]? = some entry := by
      intro cnt entry htries hadds
      rw [flushTempEntries_temp htries, hadds, if_neg Bool.false_ne_true,
        hsame cnt entry htries hadds]
    refine ⟨fun cnt entry htries hadds => ⟨?_, ?_⟩, hkept, ?_⟩
    · rw [flushTempEntries_temp htries, hadds, if_pos rfl]
    · have hvalid := h cnt entry htries
      rw [hadds, if_pos rfl] at hvalid
      exact flushTempEntries_cache htries hadds hvalid
    · intro cnt entry htries hadds hused hfirst
      have hget := hkept cnt entry htries hadds
      have hcnt := (List.getElem?_eq_some_iff.mp hget).1
      -- no place before has the key, so the search ends here
      have hfind : (c.flushTempEntries ipAddr isAdd isDummy reply).temp.findIdx?
          (fun temp => temp.key = entry.key) = some cnt := by
        rw [List.findIdx?_eq_some_iff_getElem]
        refine ⟨hcnt, ?_, fun j hj hkey => ?_⟩
        · rw [(List.getElem?_eq_some_iff.mp hget).2]
          exact decide_eq_true rfl
        · have hkey := of_decide_eq_true hkey
          obtain hold | hempty :=
            flushTempEntries_key hsame (List.getElem?_eq_getElem (Nat.lt_trans hj hcnt))
          · exact hfirst j hj _ hold hkey
          · rw [hempty] at hkey
            have hfree : entry.isFree = true := decide_eq_true hkey.symm
            rw [hused] at hfree
            exact absurd hfree Bool.false_ne_true
      rw [deleteTempEntry, hfind]
      exact List.getElem?_set_self hcnt

/-- A connection of a client waits to be added. -/
def waitingEntry : TempEntry where
  toNatTableEntry :=
    ⟨0xC0A80002, 5000, 0x08080808, 53, 5000, 17, false, 0⟩
  publicIp := 0x0A000001

/-- There is a table, and the connection waits. -/
def oneWaits : NatCache :=
  let c := NatCache.new 1 0 [] []
  { c with
    natTableHdl := 1
    pubIpAddr := 0x0A000001
    temp := [waitingEntry] }

/-- The driver refuses the rule of a dummy flush, and the connection waits under another
key, by which it is not deleted. -/
theorem oneWaits_not_right :
    ¬ oneWaits.FlushesRight 0xC0A80002 true true (fun _ => none)
        (oneWaits.flushTempEntries 0xC0A80002 true true fun _ => none) := by
  intro h
  have hkept := h.kept 0 waitingEntry (by decide) (by decide)
  exact absurd hkept (by decide)

end NatCache

end Axon7.Conntrack
