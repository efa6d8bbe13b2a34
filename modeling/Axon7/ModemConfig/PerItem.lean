import Axon7.ModemConfig.Adapter

/-!
# An error for each item

The errors of a message are one for each flag. Each is that of its item, but for one block: the
SUPL server with the URL that is kept leaves `err` as the item before has left it. An item that
is kept is not sent again with the same value, whatever its call returned; the GPS lock and the
C2K server are not compared with anything and are always sent.
-/

namespace Axon7.ModemConfig.Answered

open LocationApi (LocationError)

/-! ## The statement -/

/-- The outcome of the item itself: a block that does nothing has succeeded. -/
def Answer.own (api : LocApiCall → LocationError) : Answer → LocationError
  | .call made => api made
  | .set err => err
  | .leave => .success

/-- The blocks a message goes through. -/
def handled (resolve : Url → Option Word) (config : GnssConfig) : List Block :=
  (blocks resolve).filter fun block => config.flags.getLsbD block.validBit

/-- The errors are those of the items, in the order of their flags. -/
def PerItem (resolve : Url → Option Word) (api : LocApiCall → LocationError)
    (config : GnssConfig) (a : Adapter) : Prop :=
  (updateConfig resolve api config a).errs =
    (handled resolve config).map fun block => (block.act config a).2.own api

/-- The adapter after messages. -/
def run (resolve : Url → Option Word)
    (messages : List ((LocApiCall → LocationError) × GnssConfig)) (a : Adapter) : Adapter :=
  messages.foldl (fun a message => (updateConfig resolve message.1 message.2 a).adapter) a

/-- A call that failed is made again by the next message that has the item, with the same
value. -/
def Retried (resolve : Url → Option Word) (api : LocApiCall → LocationError)
    (config : GnssConfig) (a : Adapter) : Prop :=
  ∀ block ∈ handled resolve config, ∀ made, (block.act config a).2 = .call made →
    api made ≠ .success →
    ∀ messages, (∀ message ∈ messages, message.2.flags.getLsbD block.validBit = false) →
    ∀ (api' : LocApiCall → LocationError) (config' : GnssConfig),
      config'.flags.getLsbD block.validBit = true → block.same config config' →
      made ∈ (updateConfig resolve api' config'
        (run resolve messages (updateConfig resolve api config a).adapter)).calls

/-- The SUPL server is the one that is kept. -/
def UrlUnchanged (config : GnssConfig) (a : Adapter) : Prop :=
  config.assistanceServer.type = .supl ∧ a.conf.agpsConfigInject = true ∧
    ∃ host ∈ suplHost config.assistanceServer.hostName,
      sameCase a.serverUrl (serverUrlOf host config.assistanceServer.port) = true

/-- The outcome of the item in front of the assistance server. -/
def errBefore (api : LocApiCall → LocationError) (config : GnssConfig) (a : Adapter) :
    LocationError :=
  if config.flags.getLsbD 1 then
    ((procItem suplVersion .setSUPLVersion).act config a).2.own api
  else if config.flags.getLsbD 0 then (procGpsLock.act config a).2.own api
  else .success

/-- A call for an item that is kept and compared. -/
def LocApiCall.Kept : LocApiCall → Prop
  | .setGpsLock _ => False
  | .setServerIp _ _ => False
  | _ => True

/-! ## A message as a whole -/

section

variable {resolve : Url → Option Word} {api : LocApiCall → LocationError} {config : GnssConfig}

/-- `err` after each of the answers. -/
def errsFrom (api : LocApiCall → LocationError) : LocationError → List Answer →
    List LocationError
  | _, [] => []
  | err, answer :: answers => answer.after api err :: errsFrom api (answer.after api err) answers

/-- What blocks answer that are gone through. -/
def answers (config : GnssConfig) (a : Adapter) (bs : List Block) : List Answer :=
  (bs.filter fun block => config.flags.getLsbD block.validBit).map fun block =>
    (block.act config a).2

theorem answers_flagged {b : Block} (hflag : config.flags.getLsbD b.validBit = true) (a : Adapter)
    (bs : List Block) :
    answers config a (b :: bs) = (b.act config a).2 :: answers config a bs := by
  rw [answers, List.filter_cons, if_pos hflag, List.map_cons, answers]

theorem answers_unflagged {b : Block} (hflag : ¬ config.flags.getLsbD b.validBit = true)
    (a : Adapter) (bs : List Block) : answers config a (b :: bs) = answers config a bs := by
  rw [answers, List.filter_cons, if_neg hflag, answers]

theorem proc_flagged (api : LocApiCall → LocationError) {b : Block}
    (hflag : config.flags.getLsbD b.validBit = true) {p : Proc} {answer : Answer}
    (hanswer : (b.act config p.adapter).2 = answer)
    (hroom : p.errs.length < flagCount config) :
    Block.proc api config p b =
      { adapter := (b.act config p.adapter).1
        err := answer.after api p.err
        errs := p.errs ++ [answer.after api p.err]
        calls := p.calls ++ answer.made.toList } := by
  rw [Block.proc, if_pos hflag]
  dsimp only
  rw [hanswer, if_pos hroom]

theorem foldl_proc (api : LocApiCall → LocationError) {bs : List Block}
    (hbs : bs.Pairwise fun b b' => b'.Ignores b) {a : Adapter}
    (p : Proc) (hp : ∀ b ∈ bs, (b.act config p.adapter).2 = (b.act config a).2)
    (hroom : p.errs.length + (answers config a bs).length ≤ flagCount config) :
    (bs.foldl (Block.proc api config) p).errs =
        p.errs ++ errsFrom api p.err (answers config a bs) ∧
      (bs.foldl (Block.proc api config) p).calls =
        p.calls ++ (answers config a bs).filterMap Answer.made := by
  induction bs generalizing p with
  | nil => simp [answers, errsFrom]
  | cons b bs ih =>
    obtain ⟨hb, hrest⟩ := List.pairwise_cons.1 hbs
    obtain ⟨hpb, hpbs⟩ := List.forall_mem_cons.1 hp
    rw [List.foldl_cons]
    by_cases hflag : config.flags.getLsbD b.validBit = true
    · rw [answers_flagged hflag, List.length_cons] at hroom
      have hproc := proc_flagged api hflag hpb (by omega)
      obtain ⟨herrs, hcalls⟩ := ih hrest (Block.proc api config p b)
        (fun b' hb' => by
          rw [hproc]
          exact (hb b' hb' config config p.adapter).trans (hpbs b' hb'))
        (by rw [hproc, List.length_append, List.length_singleton]; omega)
      rw [herrs, hcalls, hproc, answers_flagged hflag, errsFrom, List.append_assoc,
        List.append_assoc]
      refine ⟨rfl, ?_⟩
      rw [List.filterMap_cons]
      cases (b.act config a).2.made <;> rfl
    · have hproc : Block.proc api config p b = p := if_neg hflag
      rw [answers_unflagged hflag] at hroom ⊢
      rw [hproc]
      exact ih hrest p hpbs hroom

theorem nodup_validBits (resolve : Url → Option Word) :
    ((blocks resolve).map (·.validBit)).Nodup := by
  rw [validBits]
  exact List.nodup_range

theorem blocks_pairwise (resolve : Url → Option Word) :
    (blocks resolve).Pairwise fun b b' => b'.Ignores b := by
  have hne : (blocks resolve).Pairwise fun b b' => b.validBit ≠ b'.validBit :=
    List.pairwise_map.1 (nodup_validBits resolve)
  exact hne.imp_of_mem fun hb hb' h => blocks_ignore hb' hb h.symm

theorem length_answers_le (resolve : Url → Option Word) (config : GnssConfig) (a : Adapter) :
    (answers config a (blocks resolve)).length ≤ flagCount config := by
  have hcount : (answers config a (blocks resolve)).length =
      (List.range 10).countP config.flags.getLsbD := by
    rw [answers, List.length_map, ← validBits resolve, List.countP_map,
      List.countP_eq_length_filter]
    rfl
  rw [hcount, flagCount]
  exact (List.range_sublist.2 (by omega)).countP_le

theorem updateConfig_eq (a : Adapter) :
    (updateConfig resolve api config a).errs =
        errsFrom api .success (answers config a (blocks resolve)) ∧
      (updateConfig resolve api config a).calls =
        (answers config a (blocks resolve)).filterMap Answer.made := by
  have hroom := length_answers_le resolve config a
  rw [updateConfig]
  split
  next hnone =>
    have hnil : answers config a (blocks resolve) = [] := List.length_eq_zero_iff.1 (by omega)
    rw [hnil]
    exact ⟨rfl, rfl⟩
  next =>
    obtain ⟨herrs, hcalls⟩ := foldl_proc api (blocks_pairwise resolve)
      { adapter := a } (fun _ _ => rfl) (by simpa using hroom)
    rw [herrs, hcalls]
    exact ⟨rfl, rfl⟩

theorem updateConfig_adapter (a : Adapter) : (updateConfig resolve api config a).adapter =
    (handled resolve config).foldl (fun a block => (block.act config a).1) a := by
  have hfold : ∀ (bs : List Block) (p : Proc),
      (bs.foldl (Block.proc api config) p).adapter =
        (bs.filter fun block => config.flags.getLsbD block.validBit).foldl
          (fun a block => (block.act config a).1) p.adapter := by
    intro bs
    induction bs with
    | nil => exact fun _ => rfl
    | cons b bs ih =>
      intro p
      rw [List.foldl_cons, ih, Block.proc]
      split
      next hflag => rw [List.filter_cons, if_pos hflag, List.foldl_cons]
      next hflag => rw [List.filter_cons, if_neg hflag]
  rw [updateConfig]
  split
  next hnone =>
    have hnil : answers config a (blocks resolve) = [] := by
      have := length_answers_le resolve config a
      exact List.length_eq_zero_iff.1 (by omega)
    rw [handled, List.map_eq_nil_iff.1 hnil]
    rfl
  next => exact hfold _ _

/-! ## What is left of a message -/

theorem mem_blocks_of_handled {block : Block} (h : block ∈ handled resolve config) :
    block ∈ blocks resolve ∧ config.flags.getLsbD block.validBit = true := by
  simpa [handled] using h

theorem mem_handled {block : Block} (h : block ∈ blocks resolve)
    (hflag : config.flags.getLsbD block.validBit = true) : block ∈ handled resolve config := by
  simpa [handled] using And.intro h hflag

theorem answer_foldl {block : Block} {bs : List Block} (h : ∀ b ∈ bs, block.Ignores b)
    (config' : GnssConfig) (a : Adapter) :
    (block.act config' (bs.foldl (fun a b => (b.act config a).1) a)).2 =
      (block.act config' a).2 := by
  induction bs generalizing a with
  | nil => rfl
  | cons b bs ih =>
    obtain ⟨hb, hbs⟩ := List.forall_mem_cons.1 h
    rw [List.foldl_cons, ih hbs]
    exact hb config' config a

theorem answer_updateConfig (api : LocApiCall → LocationError) {block : Block}
    (h : block ∈ handled resolve config)
    (config' : GnssConfig) (a : Adapter) :
    ∃ a' : Adapter, (block.act config a').2 = (block.act config a).2 ∧
      (block.act config' (updateConfig resolve api config a).adapter).2 =
        (block.act config' (block.act config a').1).2 := by
  obtain ⟨before, behind, hsplit⟩ := List.append_of_mem h
  have hsub : (before ++ block :: behind).Sublist (blocks resolve) := by
    rw [← hsplit]
    exact List.filter_sublist
  have hnodup := (hsub.map (·.validBit)).nodup (nodup_validBits resolve)
  rw [List.map_append, List.map_cons, List.nodup_append] at hnodup
  obtain ⟨-, hbehind, hbefore⟩ := hnodup
  have hignores : ∀ b ∈ before ++ behind, block.Ignores b := by
    intro b hb
    have hmem : b ∈ before ++ block :: behind := by
      simp only [List.mem_append, List.mem_cons] at hb ⊢
      tauto
    refine blocks_ignore (mem_blocks_of_handled h).1 (hsub.subset hmem) fun heq => ?_
    rcases List.mem_append.1 hb with hb | hb
    · exact hbefore _ (List.mem_map_of_mem hb) _ List.mem_cons_self heq.symm
    · exact (List.nodup_cons.1 hbehind).1 (heq ▸ List.mem_map_of_mem hb)
  refine ⟨before.foldl (fun a b => (b.act config a).1) a, ?_, ?_⟩
  · exact answer_foldl (fun b hb => hignores b (List.mem_append_left _ hb)) config a
  · rw [updateConfig_adapter, hsplit, List.foldl_append, List.foldl_cons]
    exact answer_foldl (fun b hb => hignores b (List.mem_append_right _ hb)) config' _

/-- The flag of the item a call is for. -/
def LocApiCall.flag : LocApiCall → ℕ
  | .setGpsLock _ => 0
  | .setSUPLVersion _ => 1
  | .setServer _ => 2
  | .setServerIp _ _ => 2
  | .setLPPConfig _ => 3
  | .setLPPeProtocolCp _ => 4
  | .setLPPeProtocolUp _ => 5
  | .setAGLONASSProtocol _ => 6

theorem itemAnswer_eq_call {V : Type} {item : Item V} {send : V → LocApiCall} {cached : Word}
    {inject : Bool} {made : LocApiCall}
    (h : itemAnswer item send config cached inject = .call made) :
    made = send (item.value config) := by
  rw [itemAnswer] at h
  split at h
  · exact (Answer.call.inj h).symm
  · exact absurd h (by simp)

theorem serverAnswer_eq_call {server : GnssConfigSetAssistanceServer} {kept : Url}
    {inject : Bool} {made : LocApiCall}
    (h : serverAnswer resolve server kept inject = .call made) :
    (∃ host ∈ suplHost server.hostName, made = .setServer (serverUrlOf host server.port)) ∨
      ∃ ip, made = .setServerIp ip server.port := by
  simp only [serverAnswer] at h
  split_ifs at h
  · split at h
    · exact absurd h (by simp)
    next host hhost =>
      split at h
      · exact absurd h (by simp)
      · exact Or.inl ⟨host, hhost, (Answer.call.inj h).symm⟩
  · split at h
    · exact absurd h (by simp)
    next ip _ => exact Or.inr ⟨ip, (Answer.call.inj h).symm⟩

theorem flag_of_call {block : Block} (h : block ∈ blocks resolve) {a : Adapter}
    {made : LocApiCall} (hmade : (block.act config a).2 = .call made) :
    block.validBit = made.flag := by
  simp only [blocks, List.mem_cons, List.not_mem_nil, or_false] at h
  rcases h with rfl | rfl | rfl | rfl | rfl | rfl | rfl | rfl | rfl | rfl
  · simp only [procGpsLock] at hmade
    split at hmade
    · rw [← Answer.call.inj hmade]
      rfl
    · exact absurd hmade (by simp)
  · rw [procItem_answer] at hmade
    rw [itemAnswer_eq_call hmade]
    rfl
  · rw [procAssistanceServer_answer] at hmade
    rcases serverAnswer_eq_call hmade with ⟨host, -, rfl⟩ | ⟨ip, rfl⟩ <;> rfl
  iterate 4
    · rw [procItem_answer] at hmade
      rw [itemAnswer_eq_call hmade]
      rfl
  · exact absurd hmade (by simp [procEmergencyPdn, procKept])
  · exact absurd hmade (by simp [procSuplEmServices, procKept])
  · exact absurd hmade (by simp [procSuplMode, procKept])

/-! ## What is kept -/

/-- What the adapter keeps of the items. -/
def keeps (a : Adapter) : GpsConf × Url × Word := (a.conf, a.serverUrl, a.powerVoteId)

theorem sameCase_self (url : Url) : sameCase url url = true := by simp [sameCase]

theorem itemAnswer_sent {V : Type} {item : Item V} {send : V → LocApiCall} {a : Adapter}
    (hcache : ∀ word conf, item.cached (item.cache word conf) = word) {made : LocApiCall}
    (h : ((procItem item send).act config a).2 = .call made) :
    ∀ made', ((procItem item send).act config ((procItem item send).act config a).1).2 ≠
      .call made' := by
  intro made'
  rw [procItem_answer] at h ⊢
  have hkept : item.cached ((procItem item send).act config a).1.conf =
      item.convert (item.value config) := by
    rw [itemAnswer] at h
    split at h
    next hsent => simp only [procItem, if_pos hsent, hcache]
    next => exact absurd h (by simp)
  rw [hkept, itemAnswer, if_neg fun hsent => hsent.1 rfl]
  simp

theorem procAssistanceServer_keeps {a : Adapter} {url : Url}
    (h : ((procAssistanceServer resolve).act config a).2 = .call (.setServer url)) :
    ((procAssistanceServer resolve).act config a).1 = { a with serverUrl := url } := by
  simp only [procAssistanceServer] at h ⊢
  generalize config.assistanceServer.type = type at h ⊢
  rcases hinject : a.conf.agpsConfigInject with _ | _
  · cases type <;> simp [hinject] at h
  cases type with
  | supl =>
    simp only [hinject, if_true] at h ⊢
    generalize suplHost config.assistanceServer.hostName = host at h ⊢
    cases host with
    | none => simp at h
    | some host =>
      by_cases hsame : sameCase a.serverUrl (serverUrlOf host config.assistanceServer.port) = true
      · simp [hsame] at h
      · simp only [if_neg hsame] at h ⊢
        rw [LocApiCall.setServer.inj (Answer.call.inj h)]
  | c2k =>
    simp only [hinject, if_true] at h
    generalize config.assistanceServer.hostName.bind resolve = ip at h
    cases ip <;> simp at h
  | other => simp at h

theorem serverAnswer_sent {server : GnssConfigSetAssistanceServer} {kept url : Url}
    {inject : Bool} (h : serverAnswer resolve server kept inject = .call (.setServer url)) :
    serverAnswer resolve server url inject = .leave := by
  simp only [serverAnswer] at h ⊢
  split_ifs at h ⊢
  · split at h
    · exact absurd h (by simp)
    next host hhost =>
      split at h
      · exact absurd h (by simp)
      · rw [← LocApiCall.setServer.inj (Answer.call.inj h), if_pos (sameCase_self _)]
  · split at h <;> exact absurd h (by simp)

theorem answer_sent {block : Block} (h : block ∈ blocks resolve) {a : Adapter}
    {made : LocApiCall} (hmade : (block.act config a).2 = .call made) (hkept : made.Kept) :
    ∀ made', (block.act config (block.act config a).1).2 ≠ .call made' := by
  simp only [blocks, List.mem_cons, List.not_mem_nil, or_false] at h
  rcases h with rfl | rfl | rfl | rfl | rfl | rfl | rfl | rfl | rfl | rfl
  · simp only [procGpsLock] at hmade
    split at hmade
    · rw [← Answer.call.inj hmade] at hkept
      exact absurd hkept id
    · exact absurd hmade (by simp)
  · exact itemAnswer_sent (fun _ _ => rfl) hmade
  · intro made' hagain
    have hanswer := hmade
    rw [procAssistanceServer_answer] at hanswer hagain
    rcases serverAnswer_eq_call hanswer with ⟨host, -, rfl⟩ | ⟨ip, rfl⟩
    · rw [procAssistanceServer_keeps hmade, serverAnswer_sent hanswer] at hagain
      exact absurd hagain (by simp)
    · exact absurd hkept id
  iterate 4
    · exact itemAnswer_sent (fun _ _ => rfl) hmade
  · exact absurd hmade (by simp [procEmergencyPdn, procKept])
  · exact absurd hmade (by simp [procSuplEmServices, procKept])
  · exact absurd hmade (by simp [procSuplMode, procKept])

/-- What no block changes. -/
def settled (a : Adapter) : Word × Bool := (a.powerVoteId, a.conf.agpsConfigInject)

theorem settled_item {V : Type} {item : Item V} {send : V → LocApiCall}
    (h : ∀ word conf, (item.cache word conf).agpsConfigInject = conf.agpsConfigInject)
    (a : Adapter) : settled ((procItem item send).act config a).1 = settled a := by
  simp only [procItem]
  split
  · simp only [settled, h]
  · rfl

theorem settled_act {block : Block} (h : block ∈ blocks resolve) (a : Adapter) :
    settled (block.act config a).1 = settled a := by
  simp only [blocks, List.mem_cons, List.not_mem_nil, or_false] at h
  rcases h with rfl | rfl | rfl | rfl | rfl | rfl | rfl | rfl | rfl | rfl
  · rfl
  · exact settled_item (fun _ _ => rfl) a
  · simp only [procAssistanceServer]
    split
    · split
      · split
        · rfl
        · split <;> rfl
      · rfl
    · split
      · split <;> rfl
      · rfl
    · rfl
  iterate 4
    · exact settled_item (fun _ _ => rfl) a
  all_goals rfl

theorem settled_updateConfig (a : Adapter) :
    settled (updateConfig resolve api config a).adapter = settled a := by
  rw [updateConfig_adapter]
  have hfold : ∀ (bs : List Block), (∀ b ∈ bs, b ∈ blocks resolve) → ∀ a,
      settled (bs.foldl (fun a b => (b.act config a).1) a) = settled a := by
    intro bs
    induction bs with
    | nil => exact fun _ _ => rfl
    | cons b bs ih =>
      intro h a
      obtain ⟨hb, hbs⟩ := List.forall_mem_cons.1 h
      rw [List.foldl_cons, ih hbs, settled_act hb]
  exact hfold _ (fun b hb => (mem_blocks_of_handled hb).1) a

theorem settled_run (messages : List ((LocApiCall → LocationError) × GnssConfig)) (a : Adapter) :
    settled (run resolve messages a) = settled a := by
  induction messages generalizing a with
  | nil => rfl
  | cons message messages ih =>
    rw [run, List.foldl_cons, ← run, ih, settled_updateConfig]

theorem serverAnswer_ip {server : GnssConfigSetAssistanceServer} {kept kept' : Url}
    {inject : Bool} {ip port : Word}
    (h : serverAnswer resolve server kept inject = .call (.setServerIp ip port)) :
    serverAnswer resolve server kept' inject = .call (.setServerIp ip port) := by
  rw [← h]
  simp only [serverAnswer] at h ⊢
  split_ifs at h ⊢
  · split at h
    · exact absurd h (by simp)
    · split at h <;> exact absurd h (by simp)
  · rfl

theorem answer_again {block : Block} (h : block ∈ blocks resolve) {a a' : Adapter}
    {config' : GnssConfig} {made : LocApiCall} (hmade : (block.act config a).2 = .call made)
    (hkept : ¬ made.Kept) (hsame : block.same config config') (hsettled : settled a' = settled a) :
    (block.act config' a').2 = .call made := by
  obtain ⟨hvote, hinject⟩ := Prod.ext_iff.1 hsettled
  simp only [blocks, List.mem_cons, List.not_mem_nil, or_false] at h
  have hitem : ∀ {V : Type} {item : Item V} {send : V → LocApiCall}, (∀ v, (send v).Kept) →
      ((procItem item send).act config a).2 ≠ .call made := by
    intro V item send hsend h
    rw [procItem_answer] at h
    rw [itemAnswer_eq_call h] at hkept
    exact hkept (hsend _)
  rcases h with rfl | rfl | rfl | rfl | rfl | rfl | rfl | rfl | rfl | rfl
  · simp only [procGpsLock] at hmade hsame ⊢
    simp only [settled] at hvote
    rw [hvote, hsame]
    exact hmade
  · exact absurd hmade (hitem fun _ => trivial)
  · rw [procAssistanceServer_answer] at hmade ⊢
    have hserver : config'.assistanceServer = config.assistanceServer := hsame
    simp only [settled] at hinject
    rw [hserver, hinject]
    rcases serverAnswer_eq_call hmade with ⟨host, -, rfl⟩ | ⟨ip, rfl⟩
    · exact absurd trivial hkept
    · exact serverAnswer_ip hmade
  iterate 4
    · exact absurd hmade (hitem fun _ => trivial)
  · exact absurd hmade (by simp [procEmergencyPdn, procKept])
  · exact absurd hmade (by simp [procSuplEmServices, procKept])
  · exact absurd hmade (by simp [procSuplMode, procKept])

theorem mem_calls_iff (a : Adapter) (made : LocApiCall) :
    made ∈ (updateConfig resolve api config a).calls ↔
      ∃ block ∈ handled resolve config, (block.act config a).2 = .call made := by
  have hmade : ∀ answer : Answer, answer.made = some made ↔ answer = .call made := by
    intro answer
    cases answer <;> simp [Answer.made]
  rw [(updateConfig_eq a).2, List.mem_filterMap]
  simp only [answers, List.mem_map, hmade]
  constructor
  · intro h
    obtain ⟨answer, ⟨block, hblock, rfl⟩, hcall⟩ := h
    exact ⟨block, hblock, hcall⟩
  · intro h
    obtain ⟨block, hblock, hcall⟩ := h
    exact ⟨_, ⟨block, hblock, rfl⟩, hcall⟩

theorem retried_iff (a : Adapter) : Retried resolve api config a ↔
    ∀ block ∈ handled resolve config, ∀ made, (block.act config a).2 = .call made →
      made.Kept → api made = .success := by
  constructor
  · intro h block hblock made hmade hkept
    by_contra hfails
    obtain ⟨hmem, hflag⟩ := mem_blocks_of_handled hblock
    -- the same message is sent again at once
    have hagain := h block hblock made hmade hfails [] (fun _ h => absurd h List.not_mem_nil)
      api config hflag (by
        simp only [blocks, List.mem_cons, List.not_mem_nil, or_false] at hmem
        rcases hmem with rfl | rfl | rfl | rfl | rfl | rfl | rfl | rfl | rfl | rfl <;> rfl)
    rw [mem_calls_iff] at hagain
    obtain ⟨block', hblock', hcall⟩ := hagain
    have hmem' := (mem_blocks_of_handled hblock').1
    have heq : block' = block := List.inj_on_of_nodup_map (nodup_validBits resolve) hmem' hmem
      ((flag_of_call hmem' hcall).trans (flag_of_call hmem hmade).symm)
    subst heq
    obtain ⟨a', hanswer, hafter⟩ := answer_updateConfig api hblock config a
    exact answer_sent hmem (hanswer.trans hmade) hkept made (hafter.symm.trans hcall)
  · intro h block hblock made hmade hfails messages _ api' config' hflag hsame
    have hmem := (mem_blocks_of_handled hblock).1
    rw [mem_calls_iff]
    refine ⟨block, mem_handled hmem hflag, answer_again hmem hmade
      (fun hkept => hfails (h block hblock made hmade hkept)) hsame ?_⟩
    rw [settled_run, settled_updateConfig]

/-! ## Whose error it is -/

/-- No block leaves `err` after one that has failed. -/
def Fresh (api : LocApiCall → LocationError) : LocationError → List Answer → Prop
  | _, [] => True
  | err, answer :: answers =>
    (answer = .leave → err = .success) ∧ Fresh api (answer.own api) answers

theorem errsFrom_eq_iff (err : LocationError) (answers : List Answer) :
    errsFrom api err answers = answers.map (Answer.own api) ↔ Fresh api err answers := by
  induction answers generalizing err with
  | nil => simp [errsFrom, Fresh]
  | cons answer answers ih =>
    rw [errsFrom, List.map_cons, List.cons_eq_cons, Fresh]
    have hown : answer.after api err = answer.own api ↔ (answer = .leave → err = .success) := by
      cases answer <;> simp [Answer.after, Answer.own]
    constructor
    · intro h
      obtain ⟨herr, hrest⟩ := h
      rw [herr, ih] at hrest
      exact ⟨hown.1 herr, hrest⟩
    · intro h
      have herr := hown.2 h.1
      rw [herr, ih]
      exact ⟨rfl, h.2⟩

theorem fresh_of_notMem {err : LocationError} {answers : List Answer} (h : .leave ∉ answers) :
    Fresh api err answers := by
  induction answers generalizing err with
  | nil => trivial
  | cons answer answers ih =>
    rw [List.mem_cons, not_or] at h
    exact ⟨fun hleave => absurd hleave.symm h.1, ih h.2⟩

theorem answers_cons (a : Adapter) (b : Block) (bs : List Block) :
    answers config a (b :: bs) =
      if config.flags.getLsbD b.validBit then (b.act config a).2 :: answers config a bs
      else answers config a bs := by
  rw [answers, List.filter_cons]
  split <;> rfl

theorem itemAnswer_ne_leave {V : Type} (item : Item V) (send : V → LocApiCall)
    (config : GnssConfig) (a : Adapter) : ((procItem item send).act config a).2 ≠ .leave := by
  rw [procItem_answer, itemAnswer]
  split <;> simp

theorem serverAnswer_eq_leave_iff (resolve : Url → Option Word) (a : Adapter) :
    ((procAssistanceServer resolve).act config a).2 = .leave ↔ UrlUnchanged config a := by
  rw [procAssistanceServer_answer, UrlUnchanged]
  generalize config.assistanceServer = server
  obtain ⟨type, hostName, port⟩ := server
  rcases hinject : a.conf.agpsConfigInject with _ | _
  · cases type <;> simp [serverAnswer]
  cases type with
  | supl =>
    cases hhost : suplHost hostName with
    | none => simp [serverAnswer, hhost]
    | some host => simp [serverAnswer, hhost]
  | c2k => cases hip : hostName.bind resolve <;> simp [serverAnswer, hip]
  | other => simp [serverAnswer]

theorem perItem_iff (a : Adapter) : PerItem resolve api config a ↔
    (config.flags.getLsbD 2 = true → UrlUnchanged config a →
      errBefore api config a = .success) := by
  have hown : (handled resolve config).map (fun block => (block.act config a).2.own api) =
      (answers config a (blocks resolve)).map (Answer.own api) := by
    rw [answers, List.map_map]
    rfl
  rw [PerItem, (updateConfig_eq a).1, hown, errsFrom_eq_iff, ← serverAnswer_eq_leave_iff resolve]
  obtain ⟨rest, hblocks, hrest⟩ : ∃ rest, blocks resolve =
      procGpsLock :: procItem suplVersion .setSUPLVersion :: procAssistanceServer resolve :: rest ∧
      .leave ∉ answers config a rest := by
    refine ⟨_, rfl, ?_⟩
    intro h
    simp only [answers, List.mem_map, List.mem_filter, List.mem_cons, List.not_mem_nil,
      or_false] at h
    obtain ⟨block, ⟨hblock, -⟩, hleave⟩ := h
    rcases hblock with rfl | rfl | rfl | rfl | rfl | rfl | rfl
    iterate 4
      · exact itemAnswer_ne_leave _ _ _ _ hleave
    · exact absurd hleave (by simp [procEmergencyPdn, procKept])
    · exact absurd hleave (by simp [procSuplEmServices, procKept])
    · exact absurd hleave (by simp [procSuplMode, procKept])
  have hsupl := itemAnswer_ne_leave suplVersion .setSUPLVersion config a
  have hfresh : ∀ err, Fresh api err (answers config a rest) := fun err => fresh_of_notMem hrest
  rw [hblocks]
  simp only [answers_cons, errBefore, show procGpsLock.validBit = 0 from rfl,
    show (procItem suplVersion .setSUPLVersion).validBit = 1 from rfl,
    show (procAssistanceServer resolve).validBit = 2 from rfl]
  generalize config.flags.getLsbD 0 = lockFlag
  generalize config.flags.getLsbD 1 = versionFlag
  generalize config.flags.getLsbD 2 = serverFlag
  cases lockFlag <;> cases versionFlag <;> cases serverFlag <;> simp [Fresh, hsupl, hfresh]

/-- The errors are those of the items and failed calls are made again, exactly if no failure
comes in front of a SUPL server that is kept already, and the calls for items that are kept and
compared succeed. -/
theorem perItem_and_retried_iff (resolve : Url → Option Word)
    (api : LocApiCall → LocationError) (config : GnssConfig) (a : Adapter) :
    (PerItem resolve api config a ∧ Retried resolve api config a) ↔
      (config.flags.getLsbD 2 = true → UrlUnchanged config a →
        errBefore api config a = .success) ∧
      ∀ block ∈ handled resolve config, ∀ made, (block.act config a).2 = .call made →
        made.Kept → api made = .success := by
  rw [perItem_iff, retried_iff]

end

/-- An adapter that keeps the SUPL server `a:7`. -/
def keptServer : Adapter where
  conf := {
    gpsLock := 0
    suplVer := 0x00010000
    lppProfile := 0
    lppeCpTechnology := 0
    lppeUpTechnology := 0
    aGlonassPosProtocolSelect := 0
    useEmergencyPdnForEmergencySupl := 0
    suplEs := 0
    suplMode := 0
    agpsConfigInject := true }
  serverUrl := ['a', ':', '7']
  powerVoteId := 0
  modem := {
    gpsLock := .none
    suplVersion := .v1_0_0
    suplServer := []
    c2kServer := none
    lppConfig := .rrlpOnLte
    lppeProtocolCp := 0
    lppeProtocolUp := 0
    aGlonassProtocol := 0 }

/-- A GPS lock and the same SUPL server. -/
def lockAndServer : GnssConfig where
  flags := 5
  gpsLock := .mo
  suplVersion := .v1_0_0
  assistanceServer := { type := .supl, hostName := some ['a'], port := 7 }
  lppProfile := .rrlpOnLte
  lppeControlPlaneMask := 0
  lppeUserPlaneMask := 0
  aGlonassPositionProtocolMask := 0
  emergencyPdnForEmergencySupl := false
  suplEmergencyServices := false
  suplModeMask := 0

/-- The lock fails. -/
def lockFails : LocApiCall → LocationError
  | .setGpsLock _ => .generalFailure
  | _ => .success

/-- The server has the error of the lock. -/
theorem server_has_error_of_lock :
    (updateConfig (fun _ => none) lockFails lockAndServer keptServer).errs =
        [.generalFailure, .generalFailure] ∧
      ¬ (PerItem (fun _ => none) lockFails lockAndServer keptServer ∧
        Retried (fun _ => none) lockFails lockAndServer keptServer) := by
  have herrs : (updateConfig (fun _ => none) lockFails lockAndServer keptServer).errs =
      [.generalFailure, .generalFailure] := by decide
  refine ⟨herrs, fun h => ?_⟩
  have hitems := h.1
  rw [PerItem, herrs] at hitems
  exact absurd hitems (by decide)

end Axon7.ModemConfig.Answered
