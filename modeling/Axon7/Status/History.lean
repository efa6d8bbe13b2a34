import Mathlib

/-!
# The report lists of SystemStatus

A report list keeps the last few items of a kind. An item equal to the one before only
renews the time at which that was reported; any other goes to the end, and the first leaves
when there are too many. What the list shows is the end of the history: the runs of equal
items, each told by its first item and the time of its last.
-/

namespace Axon7.Status

/-- `timespec`. -/
structure Timespec where
  sec : Int
  nsec : Int

/-- `SystemStatusItemBase`, and what an item adds to it. -/
structure Item (α : Type*) where
  utcTime : Timespec
  utcReported : Timespec
  data : α

/-- `SystemStatusItemBase::maxItem`. -/
def maxItem : Nat := 5

section Report

variable {α : Type*} (equals : α → α → Bool) (maxItem : Nat)

/-- `push_back`, and `erase` of the first if there are too many. -/
def pushItem (report : List (Item α)) (s : Item α) : List (Item α) :=
  let report := report ++ [s]
  if maxItem < report.length then report.tail else report

/-- `setIteminReport`. -/
def setIteminReport (report : List (Item α)) (s : Item α) : List (Item α) × Bool :=
  match report.getLast? with
  | some back =>
    if equals back.data s.data then
      (report.dropLast ++ [{ back with utcReported := s.utcReported }], false)
    else (pushItem maxItem report s, true)
  | none => (pushItem maxItem report s, true)

/-- The report list after the items. -/
def reportAfter (items : List (Item α)) : List (Item α) :=
  items.foldl (fun report s => (setIteminReport equals maxItem report s).1) []

/-- What is told of a run of equal items. -/
def told : List (Item α) → Option (Item α)
  | [] => none
  | first :: rest =>
    some { first with utcReported := (rest.getLastD first).utcReported }

/-- The runs of equal items. -/
def runs (items : List (Item α)) : List (List (Item α)) :=
  items.splitBy fun a b => equals a.data b.data

/-- The items without those equal to the one before. -/
def history (items : List (Item α)) : List (Item α) := (runs equals items).filterMap told

variable {equals maxItem} {items : List (Item α)} {x s : Item α}

theorem runs_eq_concat (equals : α → α → Bool) (h : items.getLast? = some x) :
    ∃ older first rest, runs equals items = older ++ [first :: rest] ∧
      (first :: rest).getLast? = some x := by
  have hne : items ≠ [] := by
    rintro rfl
    simp at h
  have hruns : runs equals items ≠ [] := List.splitBy_ne_nil.2 hne
  obtain ⟨older, run, hrun⟩ := List.eq_nil_or_concat (runs equals items) |>.resolve_left hruns
  have hlast : run.getLast? = some x := by
    have hmem : run ≠ [] := List.ne_nil_of_mem_splitBy (r := fun a b => equals a.data b.data)
      (l := items) (by rw [← runs, hrun]; simp)
    have hflat : items = older.flatten ++ run := by
      rw [← List.flatten_splitBy (fun a b => equals a.data b.data) items, ← runs, hrun]
      simp
    rw [hflat, List.getLast?_append_of_ne_nil _ hmem] at h
    exact h
  cases run with
  | nil => simp at hlast
  | cons first rest => exact ⟨older, first, rest, by rw [hrun]; simp, hlast⟩

theorem runs_concat_of_equals {older : List (List (Item α))} {first : Item α}
    {rest : List (Item α)} (hruns : runs equals items = older ++ [first :: rest])
    (hlast : (first :: rest).getLast? = some x) (h : equals x.data s.data) :
    runs equals (items ++ [s]) = older ++ [first :: (rest ++ [s])] := by
  obtain ⟨hflat, hnil, hchain, hseam⟩ := List.splitBy_eq_iff.1 hruns
  refine List.splitBy_eq_iff.2 ⟨by rw [hflat]; simp, by simpa using hnil, fun run hrun => ?_, ?_⟩
  · rcases List.mem_append.1 hrun with hold | hnew
    · exact hchain run (List.mem_append_left _ hold)
    · rw [List.mem_singleton.1 hnew, ← List.cons_append, List.isChain_append]
      refine ⟨hchain _ (by simp), List.isChain_singleton _, fun a ha b hb => ?_⟩
      rw [hlast] at ha
      cases ha
      cases hb
      exact h
  · rw [List.isChain_append] at hseam ⊢
    refine ⟨hseam.1, List.isChain_singleton _, fun a ha b hb => ?_⟩
    obtain ⟨hane, hbne, hab⟩ := hseam.2.2 a ha (first :: rest) rfl
    cases hb
    exact ⟨hane, List.cons_ne_nil _ _, hab⟩

theorem runs_concat_of_not_equals (h : ∀ x ∈ items.getLast?, equals x.data s.data = false) :
    runs equals (items ++ [s]) = runs equals items ++ [[s]] :=
  List.splitBy_append_cons [] h

theorem told_concat (first : Item α) (rest : List (Item α)) :
    told (first :: (rest ++ [s])) = some { first with utcReported := s.utcReported } := by
  simp [told, List.getLastD_eq_getLast?]

theorem history_getLast (hequiv : Equivalence fun a b => equals a b = true)
    (h : items.getLast? = some x) :
    ∃ back, (history equals items).getLast? = some back ∧ equals back.data x.data := by
  obtain ⟨older, first, rest, hruns, hlast⟩ := runs_eq_concat equals h
  refine ⟨{ first with utcReported := (rest.getLastD first).utcReported }, ?_, ?_⟩
  · rw [history, hruns, List.filterMap_append]
    simp [told]
  · have hchain : (first :: rest).IsChain fun a b : Item α => equals a.data b.data = true :=
      List.isChain_of_mem_splitBy (r := fun a b => equals a.data b.data) (l := items)
        (by rw [← runs, hruns]; simp)
    have : IsTrans (Item α) fun a b => equals a.data b.data = true :=
      ⟨fun _ _ _ => hequiv.trans⟩
    have hpair := List.isChain_iff_pairwise.1 hchain
    rcases List.mem_cons.1 (List.mem_of_getLast? hlast) with rfl | hx
    · exact hequiv.refl _
    · exact List.rel_of_pairwise_cons hpair hx

theorem history_concat_of_equals {back : Item α}
    (hback : (history equals items).getLast? = some back) (hx : items.getLast? = some x)
    (h : equals x.data s.data) :
    history equals (items ++ [s]) =
      (history equals items).dropLast ++ [{ back with utcReported := s.utcReported }] := by
  obtain ⟨older, first, rest, hruns, hlast⟩ := runs_eq_concat equals hx
  rw [history, runs_concat_of_equals hruns hlast h, List.filterMap_append]
  rw [history, hruns, List.filterMap_append] at hback ⊢
  have htold : back = { first with utcReported := (rest.getLastD first).utcReported } := by
    simpa [told, eq_comm] using hback
  rw [htold]
  simp only [List.filterMap_cons, List.filterMap_nil, told_concat]
  simp [told]

theorem history_concat_of_not_equals (h : ∀ x ∈ items.getLast?, equals x.data s.data = false) :
    history equals (items ++ [s]) = history equals items ++ [s] := by
  rw [history, runs_concat_of_not_equals h, List.filterMap_append]
  simp [history, told]

theorem history_concat (hequiv : Equivalence fun a b => equals a b = true)
    (items : List (Item α)) (s : Item α) :
    (∃ back, (history equals items).getLast? = some back ∧ equals back.data s.data ∧
      history equals (items ++ [s]) =
        (history equals items).dropLast ++ [{ back with utcReported := s.utcReported }]) ∨
    (∀ back ∈ (history equals items).getLast?, equals back.data s.data = false) ∧
      history equals (items ++ [s]) = history equals items ++ [s] := by
  cases hlast : items.getLast? with
  | none =>
    obtain rfl := List.getLast?_eq_none_iff.1 hlast
    exact .inr ⟨by simp [history, runs], history_concat_of_not_equals (by simp)⟩
  | some x =>
    obtain ⟨back, hback, hbx⟩ := history_getLast hequiv hlast
    by_cases hxs : equals x.data s.data
    · exact .inl ⟨back, hback, hequiv.trans hbx hxs, history_concat_of_equals hback hlast hxs⟩
    · have hxs' := Bool.eq_false_iff.2 hxs
      refine .inr ⟨fun b hb => ?_, history_concat_of_not_equals (by simpa [hlast] using hxs')⟩
      obtain rfl : back = b := Option.some.inj (hback.symm.trans hb)
      exact Bool.eq_false_iff.2 fun hbs => hxs (hequiv.trans (hequiv.symm hbx) hbs)

/-! ## What the list keeps -/

theorem pushItem_rtake (l : List (Item α)) (hmax : 1 ≤ maxItem) :
    pushItem maxItem (l.rtake maxItem) s = (l ++ [s]).rtake maxItem := by
  simp only [pushItem, List.rtake, List.length_append, List.length_drop, List.length_singleton]
  split
  · next hfull =>
    rw [List.tail_append_of_ne_nil (by rw [Ne, List.drop_eq_nil_iff]; omega), List.tail_drop,
      List.drop_append_of_le_length (by omega)]
    congr 2
    omega
  · next hroom =>
    rw [← List.drop_append_of_le_length (by omega)]
    congr 1
    omega

theorem getLast_rtake (l : List (Item α)) (hmax : 1 ≤ maxItem) :
    (l.rtake maxItem).getLast? = l.getLast? := by
  obtain ⟨n, rfl⟩ : ∃ n, maxItem = n + 1 := ⟨maxItem - 1, by omega⟩
  induction l using List.reverseRecOn with
  | nil => simp
  | append_singleton l a _ => rw [List.rtake_concat_succ]; simp

theorem dropLast_rtake (l : List (Item α)) (a : Item α) (hmax : 1 ≤ maxItem) :
    (l.rtake maxItem).dropLast ++ [a] = (l.dropLast ++ [a]).rtake maxItem := by
  obtain ⟨n, rfl⟩ : ∃ n, maxItem = n + 1 := ⟨maxItem - 1, by omega⟩
  induction l using List.reverseRecOn with
  | nil => simp [List.rtake]
  | append_singleton l b _ =>
    rw [List.rtake_concat_succ, List.dropLast_concat, List.dropLast_concat,
      List.rtake_concat_succ]

theorem reportAfter_concat :
    reportAfter equals maxItem (items ++ [s]) =
      (setIteminReport equals maxItem (reportAfter equals maxItem items) s).1 := by
  rw [reportAfter, List.foldl_concat, reportAfter]

theorem setIteminReport_of_equals {report : List (Item α)} {back : Item α}
    (hback : report.getLast? = some back) (h : equals back.data s.data) :
    setIteminReport equals maxItem report s =
      (report.dropLast ++ [{ back with utcReported := s.utcReported }], false) := by
  rw [setIteminReport, hback]
  exact if_pos h

theorem setIteminReport_of_not_equals {report : List (Item α)}
    (h : ∀ back ∈ report.getLast?, equals back.data s.data = false) :
    setIteminReport equals maxItem report s = (pushItem maxItem report s, true) := by
  rw [setIteminReport]
  split
  · next back hback => rw [h back hback]; rfl
  · rfl

theorem reportAfter_eq_rtake (hequiv : Equivalence fun a b => equals a b = true)
    (hmax : 1 ≤ maxItem) (items : List (Item α)) :
    reportAfter equals maxItem items = (history equals items).rtake maxItem := by
  induction items using List.reverseRecOn with
  | nil => simp [reportAfter, history, runs]
  | append_singleton items s ih =>
    rw [reportAfter_concat, ih]
    rcases history_concat hequiv items s with ⟨back, hback, hbs, hnew⟩ | ⟨hdiff, hnew⟩
    · rw [setIteminReport_of_equals (by rw [getLast_rtake _ hmax, hback]) hbs, hnew,
        ← dropLast_rtake _ _ hmax]
    · rw [setIteminReport_of_not_equals (by rwa [getLast_rtake _ hmax]), hnew,
        pushItem_rtake _ hmax]

theorem reportAfter_length_le (hequiv : Equivalence fun a b => equals a b = true)
    (hmax : 1 ≤ maxItem) (items : List (Item α)) :
    (reportAfter equals maxItem items).length ≤ maxItem := by
  rw [reportAfter_eq_rtake hequiv hmax, List.rtake, List.length_drop]
  omega

theorem reportAfter_getLast (hequiv : Equivalence fun a b => equals a b = true)
    (hmax : 1 ≤ maxItem) (h : items.getLast? = some x) :
    ∃ back, (reportAfter equals maxItem items).getLast? = some back ∧
      equals back.data x.data := by
  rw [reportAfter_eq_rtake hequiv hmax, getLast_rtake _ hmax]
  exact history_getLast hequiv h

theorem history_isChain (hequiv : Equivalence fun a b => equals a b = true)
    (items : List (Item α)) :
    (history equals items).IsChain fun a b => equals a.data b.data = false := by
  induction items using List.reverseRecOn with
  | nil => simp [history, runs]
  | append_singleton items s ih =>
    rcases history_concat hequiv items s with ⟨back, hback, hbs, hnew⟩ | ⟨hdiff, hnew⟩
    · rw [hnew]
      rw [← List.dropLast_append_getLast? back hback, List.isChain_append] at ih
      refine List.isChain_append.2 ⟨ih.1, List.isChain_singleton _, fun a ha b hb => ?_⟩
      cases hb
      exact ih.2.2 a ha back rfl
    · rw [hnew]
      refine List.isChain_append.2 ⟨ih, List.isChain_singleton _, fun a ha b hb => ?_⟩
      cases hb
      exact hdiff a ha

theorem setIteminReport_snd_iff (hrefl : ∀ a, equals a a) (hmax : 1 ≤ maxItem)
    (report : List (Item α)) (s : Item α) :
    (setIteminReport equals maxItem report s).2 = true ↔
      (setIteminReport equals maxItem report s).1.map Item.data ≠ report.map Item.data := by
  cases hlast : report.getLast? with
  | none =>
    obtain rfl := List.getLast?_eq_none_iff.1 hlast
    simp [setIteminReport, pushItem, Nat.not_lt.2 hmax]
  | some back =>
    have hreport := List.dropLast_append_getLast? back hlast
    by_cases h : equals back.data s.data
    · rw [setIteminReport_of_equals hlast h]
      have hshown : (report.dropLast ++ [{ back with utcReported := s.utcReported }]).map Item.data
          = (report.dropLast ++ [back]).map Item.data := by simp
      simp only [Bool.false_eq_true, hshown, hreport, ne_eq, not_true_eq_false]
    · rw [setIteminReport_of_not_equals (by simpa [hlast] using h)]
      simp only [ne_eq, true_iff]
      intro hsame
      have hlast' : (pushItem maxItem report s).getLast? = some s := by
        rw [pushItem]
        split
        · rw [List.tail_append_of_ne_nil (by rintro rfl; simp at hlast)]
          simp
        · simp
      have hdata := congrArg List.getLast? hsame
      rw [List.getLast?_map, List.getLast?_map, hlast', hlast] at hdata
      exact h (Option.some.inj hdata ▸ hrefl back.data)

/-- Of the items given, the list keeps the last changes: never more than `maxItem`, each
different from the one before it, the last the same as the last item given. The call returns
true exactly when there is a new entry, which is then the item, at the end. -/
theorem setIteminReport_keeps_history (equals : α → α → Bool)
    (hequiv : Equivalence fun a b => equals a b = true) (maxItem : Nat) (hmax : 1 ≤ maxItem)
    (items : List (Item α)) :
    let report := reportAfter equals maxItem items
    report.length ≤ maxItem ∧
    (∀ s ∈ items.getLast?, ∃ back ∈ report.getLast?, equals back.data s.data) ∧
    report.IsChain (fun a b => equals a.data b.data = false) ∧
    report <:+ history equals items ∧
    report = (history equals items).rtake maxItem ∧
    ∀ s, ((setIteminReport equals maxItem report s).2 = true ↔
        (setIteminReport equals maxItem report s).1.map Item.data ≠ report.map Item.data) ∧
      ((setIteminReport equals maxItem report s).2 = true →
        (setIteminReport equals maxItem report s).1 = (report ++ [s]).rtake maxItem) := by
  intro report
  have heq : report = (history equals items).rtake maxItem :=
    reportAfter_eq_rtake hequiv hmax items
  have hsuffix : report <:+ history equals items := heq ▸ List.drop_suffix _ _
  have hlen : report.length ≤ maxItem := reportAfter_length_le hequiv hmax items
  refine ⟨hlen, fun s hs => ?_, (history_isChain hequiv items).suffix hsuffix, hsuffix, heq,
    fun s => ⟨setIteminReport_snd_iff hequiv.refl hmax report s, fun hnew => ?_⟩⟩
  · exact reportAfter_getLast hequiv hmax hs
  · have hfit : report.rtake maxItem = report := by
      rw [List.rtake, Nat.sub_eq_zero_of_le hlen, List.drop_zero]
    rw [← pushItem_rtake report hmax, hfit]
    by_cases h : ∀ back ∈ report.getLast?, equals back.data s.data = false
    · rw [setIteminReport_of_not_equals h]
    · push Not at h
      obtain ⟨back, hback, hbs⟩ := h
      rw [setIteminReport_of_equals hback (by simpa using hbs)] at hnew
      cases hnew

theorem setIteminReport_keeps_history_of_three :
    reportAfter (fun a b : Nat => a == b) 1 [⟨⟨1, 0⟩, ⟨1, 0⟩, 7⟩, ⟨⟨2, 0⟩, ⟨2, 0⟩, 7⟩,
      ⟨⟨3, 0⟩, ⟨3, 0⟩, 8⟩] <:+ [⟨⟨1, 0⟩, ⟨2, 0⟩, 7⟩, ⟨⟨3, 0⟩, ⟨3, 0⟩, 8⟩] :=
  (setIteminReport_keeps_history (fun a b : Nat => a == b)
    ⟨fun _ => beq_self_eq_true _, fun h => beq_iff_eq.2 (beq_iff_eq.1 h).symm,
      fun h h' => beq_iff_eq.2 ((beq_iff_eq.1 h).trans (beq_iff_eq.1 h'))⟩ 1 le_rfl
    [⟨⟨1, 0⟩, ⟨1, 0⟩, 7⟩, ⟨⟨2, 0⟩, ⟨2, 0⟩, 7⟩, ⟨⟨3, 0⟩, ⟨3, 0⟩, 8⟩]).2.2.2.1

end Report

end Axon7.Status
