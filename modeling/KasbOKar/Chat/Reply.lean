import KasbOKar.Chat.Handlers

/-!
# When a batch is answered

`_generate_and_send_reply` asks the AI for a reply only if the shop is active, moderation lets the
text through, the owner's wallet is not empty and a key is set (`replyOwner`, `reply_log`).

`check_text` returns the first matching rule that the database returns, and the caller looks at this
rule alone: a `WARN` rule that comes first lets a text through that a later rule would have blocked
(`blocked_text_answered`).  `never_masked_iff` says exactly when that cannot happen.
-/

namespace KasbOKar

namespace ChatLog

/-- A request to the AI. -/
def isAi : ChatLog → Bool
  | ai _ _ => true
  | _ => false

end ChatLog

namespace ChatResult

/-- No request to the AI. -/
structure Quiet (r : ChatResult) : Prop where
  log : ∀ e ∈ r.log, e.isAi = false

theorem quiet_done (db : ChatDb) : (done db).Quiet := ⟨nofun⟩

theorem quiet_raise (db : ChatDb) (e : PyError) : (raise db e).Quiet := ⟨nofun⟩

theorem Quiet.andThen {r : ChatResult} {f : ChatDb → ChatResult} (h : r.Quiet)
    (hf : ∀ db, (f db).Quiet) : (r.andThen f).Quiet := by
  unfold ChatResult.andThen
  split
  · exact h
  · refine ⟨fun e he => ?_⟩
    rcases List.mem_append.1 he with he | he
    · exact h.log e he
    · exact (hf r.db).log e he

theorem quiet_single {db : ChatDb} {e : ChatLog} {raised : Option PyError} (he : e.isAi = false) :
    Quiet ⟨db, [e], raised⟩ := by
  refine ⟨fun e' he' => ?_⟩
  rw [List.mem_singleton.1 he']
  exact he

/-- The log of a handler that asks the AI on behalf of an owner, if of anybody, and of nobody else
afterwards. -/
def Asks (r : ChatResult) (owner : Option ℕ) (call : AiCall) : Prop :=
  ∃ rest, r.log = owner.toList.map (ChatLog.ai · call) ++ rest ∧ ∀ e ∈ rest, e.isAi = false

theorem Quiet.asks {r : ChatResult} (h : r.Quiet) (call : AiCall) : r.Asks none call :=
  ⟨r.log, rfl, h.log⟩

theorem Quiet.asks_none {r : ChatResult} (h : r.Quiet) {owner : Option ℕ} (howner : owner = none)
    {call : AiCall} : r.Asks owner call := howner ▸ h.asks call

theorem asks_andThen {db : ChatDb} {ownerId : ℕ} {call : AiCall} {f : ChatDb → ChatResult}
    (hf : (f db).Quiet) :
    (ChatResult.andThen ⟨db, [.ai ownerId call], none⟩ f).Asks (some ownerId) call :=
  ⟨(f db).log, rfl, hf.log⟩

theorem Asks.andThen {r : ChatResult} {owner : Option ℕ} {call : AiCall} {f : ChatDb → ChatResult}
    (h : r.Asks owner call) (hf : ∀ db, (f db).Quiet) : (r.andThen f).Asks owner call := by
  obtain ⟨rest, hlog, hrest⟩ := h
  unfold ChatResult.andThen
  split
  · exact ⟨rest, hlog, hrest⟩
  · refine ⟨rest ++ (f r.db).log, by rw [hlog, List.append_assoc], fun e he => ?_⟩
    rcases List.mem_append.1 he with he | he
    · exact hrest e he
    · exact (hf r.db).log e he

/-- The owner for whom the AI was asked. -/
theorem owner_of_asks {r : ChatResult} {owner : Option ℕ} {call call' : AiCall} {ownerId : ℕ}
    (h : r.Asks owner call) (hmem : .ai ownerId call' ∈ r.log) : owner = some ownerId := by
  obtain ⟨rest, hlog, hrest⟩ := h
  rw [hlog] at hmem
  rcases List.mem_append.1 hmem with hmem | hmem
  · obtain ⟨o, ho, heq⟩ := List.mem_map.1 hmem
    cases heq
    exact Option.mem_toList.1 ho
  · exact absurd (hrest _ hmem) nofun

end ChatResult

namespace ChatDb

open ChatResult

section Quiet

variable (env : ChatEnv) (db : ChatDb)

theorem quiet_sendMessage (chat : ℤ) (notice : ChatNotice) : (sendMessage env db chat notice).Quiet := by
  unfold sendMessage
  split
  · exact quiet_single rfl
  · exact quiet_raise db _

theorem quiet_sendLogged (chat : ℤ) (notice : ChatNotice) : (sendLogged env db chat notice).Quiet := by
  unfold sendLogged
  split
  · exact quiet_single rfl
  · exact quiet_done db
  · exact quiet_raise db _

theorem quiet_notifyEmpty (owner : ShopOwner) : (notifyEmpty env db owner).Quiet := by
  unfold notifyEmpty
  split_ifs
  · exact quiet_sendLogged ..
  · exact quiet_done db

theorem quiet_notifyLowBalance (owner : ShopOwner) : (notifyLowBalance env db owner).Quiet := by
  unfold notifyLowBalance
  split_ifs
  · exact quiet_sendLogged ..
  · exact quiet_done db

theorem quiet_notifyBalance (ownerId : ℕ) : (notifyBalance env db ownerId).Quiet := by
  unfold notifyBalance
  split
  · exact quiet_done db
  split_ifs
  · exact quiet_notifyEmpty ..
  · exact quiet_notifyLowBalance ..
  · exact quiet_done db

theorem quiet_charge (ownerId : ℕ) (amount : ℤ) (reason : WalletTransactionReason) :
    (charge env db ownerId amount reason).Quiet := by
  unfold charge
  split
  · exact quiet_raise db _
  · exact quiet_single rfl

theorem quiet_deductAndNotify (ownerId : ℕ) (amount : ℤ) (reason : WalletTransactionReason) :
    (deductAndNotify env db ownerId amount reason).Quiet :=
  (quiet_charge ..).andThen fun _ => quiet_notifyBalance ..

theorem quiet_refuseBatch (shopBot : ShopBot) (user : ℤ) (rule : ModerationRule) :
    (refuseBatch env db shopBot user rule).Quiet := by
  refine (quiet_sendMessage ..).andThen fun db => ?_
  split_ifs
  · split
    · exact quiet_done db
    · exact quiet_sendLogged ..
  · exact quiet_done db

theorem quiet_sendError (shopBotId : ℕ) (user : ℤ) :
    ((sendMessage env db user .aiError).andThen fun db => logError db shopBotId).Quiet :=
  (quiet_sendMessage ..).andThen fun _ => quiet_done _

theorem quiet_finishReply (shopBotId customerId ownerId : ℕ) (user : ℤ) (text : String)
    (result : AiCallResult) :
    (finishReply env db shopBotId customerId ownerId user text result).Quiet := by
  unfold finishReply
  split
  · exact quiet_raise db _
  · refine (quiet_sendMessage ..).andThen fun db => ?_
    split
    · exact quiet_raise db _
    · exact (quiet_deductAndNotify ..).andThen fun db => quiet_single rfl

end Quiet

/-! ## The gates before the AI -/

/-- `admin_settings.ai_api_key` is set. -/
def hasApiKey (db : ChatDb) : Bool := db.settings.aiApiKey.any fun key => key != ""

/-- The owner of a shop, if a reply can be paid and asked for. -/
def payingOwner (db : ChatDb) (shopBot : ShopBot) : Option ShopOwner :=
  (db.owners.find? shopBot.shopOwnerId).filter fun owner =>
    decide (0 < owner.walletBalanceToman) && db.hasApiKey

/-- The owner on whose behalf `_generate_and_send_reply` would ask the AI, moderation apart. -/
def answerable (db : ChatDb) (shopBotId : ℕ) : Option ShopOwner :=
  ((db.shops.find? shopBotId).filter ShopBot.isActive).bind db.payingOwner

/-- The first rule that matches is not one that blocks. -/
def letThrough (env : ChatEnv) (db : ChatDb) (text : String) : Bool :=
  (db.checkText env.text env.ruleScan text).all fun rule => rule.action == .WARN

/-- The owner on whose behalf `_generate_and_send_reply` asks the AI. -/
def replyOwner (env : ChatEnv) (db : ChatDb) (shopBotId : ℕ) (text : String) : Option ℕ :=
  if letThrough env db text then (db.answerable shopBotId).map ShopOwner.id else none

theorem buildAiService_of_hasApiKey {db : ChatDb} (h : db.hasApiKey = true)
    (capability : AiKeyCapability) : db.buildAiService capability = true := by
  unfold buildAiService
  rw [show db.settings.aiApiKey.any (fun key => key != "") = true from h, Bool.or_true]

/-- A name that fits its column. -/
def nameFits (name : Option String) : Bool := name.all fun s => decide (s.length ≤ 255)

theorem nameFits_none : nameFits none = true := rfl

theorem nameFits_iff (name : Option String) :
    nameFits name = true ↔ ¬ name.any (fun s => decide (255 < s.length)) = true := by
  cases name with
  | none => simp [nameFits]
  | some s => simp [nameFits]

/-- The row of a customer of a shop that exists. -/
theorem getOrCreateCustomer_isOk {db : ShopDb} {shopBotId : ℕ} (h : shopBotId ∈ db.shops.ids)
    {firstName username : Option String} (hfirst : nameFits firstName = true)
    (huser : nameFits username = true) (now : Datetime) (user : ℤ) :
    ∃ customers customer, db.getOrCreateCustomer now shopBotId user firstName username =
      .ok ({ db with customers := customers }, customer) ∧ customer ∈ customers.rows ∧
      customer.shopBotId = shopBotId ∧ customer.telegramId = user := by
  unfold ShopDb.getOrCreateCustomer
  rw [if_neg (not_or.2 ⟨(nameFits_iff _).1 hfirst, (nameFits_iff _).1 huser⟩)]
  split
  · rename_i c hc
    obtain ⟨hrow, hshop, huser⟩ := ShopDb.getCustomer_some hc
    exact ⟨_, _, rfl, Table.mem_modify_self (f := ShopDb.seenAgain now firstName username)
      (fun _ => rfl) hrow rfl, hshop, huser⟩
  · rw [if_neg (not_not.2 h)]
    exact ⟨_, _, rfl, (Table.mem_insert (Table.nextId_notMem _)).2 (Or.inr rfl), rfl, rfl⟩

theorem getOrCreateCustomer_error {db : ShopDb} {firstName username : Option String}
    (h : (nameFits firstName && nameFits username) = false) (now : Datetime) (shopBotId : ℕ)
    (user : ℤ) : db.getOrCreateCustomer now shopBotId user firstName username = .error .DataError := by
  unfold ShopDb.getOrCreateCustomer
  refine if_pos ?_
  by_contra hnot
  rw [not_or, ← nameFits_iff, ← nameFits_iff] at hnot
  rw [hnot.1, hnot.2] at h
  cases h

theorem askForReply_asks (env : ChatEnv) (db : ChatDb) (shopBot : ShopBot) (customer : Customer)
    (user : ℤ) (text : String) : (askForReply env db shopBot customer user text).Asks
      ((db.payingOwner shopBot).map ShopOwner.id) (.getReply text) := by
  unfold askForReply payingOwner
  split
  · rename_i hnone
    rw [hnone]
    exact (quiet_sendMessage ..).asks _
  rename_i owner howner
  rw [howner, Option.filter_some]
  by_cases hbalance : owner.walletBalanceToman ≤ 0
  · rw [if_pos hbalance, decide_eq_false (not_lt.2 hbalance), Bool.false_and]
    exact (quiet_sendMessage ..).asks _
  rw [if_neg hbalance, decide_eq_true (not_le.1 hbalance), Bool.true_and]
  by_cases hkey : db.hasApiKey = true
  · have hkey' : db.settings.aiApiKey.any (fun key => key != "") = true := hkey
    rw [hkey', hkey, buildAiService_of_hasApiKey hkey, Bool.not_true, if_neg Bool.false_ne_true,
      if_neg Bool.false_ne_true, if_pos rfl]
    refine asks_andThen ?_
    split
    · exact quiet_sendError ..
    · exact quiet_raise ..
    · exact quiet_finishReply ..
  · have hkey' : db.settings.aiApiKey.any (fun key => key != "") = false := Bool.not_eq_true _ ▸ hkey
    rw [hkey', if_neg hkey]
    exact (quiet_sendError ..).asks _

theorem answerBatch_asks (env : ChatEnv) (db : ChatDb) {shopBot : ShopBot}
    (hshop : shopBot.id ∈ db.shops.ids) (user : ℤ) (text : String) :
    (answerBatch env db shopBot user text).Asks ((db.payingOwner shopBot).map ShopOwner.id)
      (.getReply text) := by
  obtain ⟨customers, customer, hc, -⟩ :=
    getOrCreateCustomer_isOk hshop nameFits_none nameFits_none env.now user
  unfold answerBatch
  rw [hc]
  exact askForReply_asks env (db.withShopDb { db.toShopDb with customers := customers }) shopBot
    customer user text

/-- **When the AI is asked for a reply.** -/
theorem generateAndSendReply_asks (env : ChatEnv) (db : ChatDb) (shopBotId : ℕ) (user : ℤ)
    (text : String) : (generateAndSendReply env db shopBotId user text).Asks
      (replyOwner env db shopBotId text) (.getReply text) := by
  unfold generateAndSendReply replyOwner answerable
  cases hshop : db.shops.find? shopBotId with
  | none =>
    rw [Option.filter_none, Option.bind_none, Option.map_none, ite_self]
    exact (quiet_done db).asks _
  | some shopBot =>
    have hid : shopBot.id ∈ db.shops.ids := Table.id_mem_ids (Table.mem_of_find? hshop)
    rw [Option.filter_some]
    cases hactive : shopBot.isActive with
    | false =>
      rw [if_neg Bool.false_ne_true, Option.bind_none, Option.map_none, ite_self]
      dsimp only
      rw [hactive, Bool.not_false, if_pos rfl]
      exact (quiet_done db).asks _
    | true =>
      rw [if_pos rfl, Option.bind_some]
      unfold letThrough
      dsimp only
      rw [hactive, Bool.not_true, if_neg Bool.false_ne_true]
      cases hrule : db.checkText env.text env.ruleScan text with
      | none =>
        rw [Option.all_none, if_pos rfl]
        exact answerBatch_asks env db hid user text
      | some rule =>
        rw [Option.all_some]
        dsimp only
        by_cases hwarn : rule.action = .WARN
        · rw [if_neg (not_not.2 hwarn), if_pos (beq_iff_eq.2 hwarn)]
          exact answerBatch_asks env (db.logMatch shopBotId user rule) hid user text
        · rw [if_pos hwarn, if_neg (fun h => hwarn (beq_iff_eq.1 h))]
          exact (quiet_refuseBatch ..).asks _

/-! ## Moderation -/

/-- `BLOCK` or `REVIEW`. -/
def blocks (rule : ModerationRule) : Bool := rule.action == .BLOCK || rule.action == .REVIEW

theorem blocks_iff (rule : ModerationRule) : blocks rule = true ↔ rule.action ≠ .WARN := by
  unfold blocks
  cases rule.action <;> decide

/-- A `WARN` rule matches before all the matching rules that block. -/
def WarnFirst (T : TextOps) (text : String) (rules : List ModerationRule) : Prop :=
  ∃ before warn after, rules = before ++ warn :: after ∧ (∀ r ∈ before, r.fires T text = false) ∧
    warn.fires T text = true ∧ warn.action = .WARN ∧
    ∃ r ∈ after, r.fires T text = true ∧ blocks r = true

/-- The first match, when some rule that blocks matches. -/
theorem warnFirst_iff {T : TextOps} {text : String} {rules : List ModerationRule}
    (h : ∃ r ∈ rules, r.fires T text = true ∧ blocks r = true) :
    WarnFirst T text rules ↔
      ∀ rule, rules.find? (fun rule => rule.fires T text) = some rule → rule.action = .WARN := by
  constructor
  · rintro ⟨before, warn, after, rfl, hbefore, hfires, hwarn, -⟩ rule hrule
    have hfirst : (before ++ warn :: after).find? (fun rule => rule.fires T text) = some warn := by
      rw [List.find?_eq_some_iff_append]
      exact ⟨hfires, before, after, rfl, fun r hr => by rw [hbefore r hr]; rfl⟩
    rw [hfirst] at hrule
    cases hrule
    exact hwarn
  · intro hall
    obtain ⟨r, hr, hfires, hblocks⟩ := h
    cases hfind : rules.find? (fun rule => rule.fires T text) with
    | none => exact absurd hfires (List.find?_eq_none.1 hfind r hr)
    | some warn =>
      have hwarn := hall warn hfind
      obtain ⟨hwfires, before, after, rfl, hbefore⟩ := List.find?_eq_some_iff_append.1 hfind
      refine ⟨before, warn, after, rfl, fun q hq => by simpa using hbefore q hq, hwfires, hwarn, ?_⟩
      rcases List.mem_append.1 hr with hr | hr
      · have hnot := hbefore r hr
        rw [hfires] at hnot
        cases hnot
      · rcases List.mem_cons.1 hr with rfl | hr
        · exact absurd hwarn ((blocks_iff r).1 hblocks)
        · exact ⟨r, hr, hfires, hblocks⟩

/-- **A rule that blocks is never masked**, for a text that it matches, if and only if no `WARN` rule
that matches as well is returned before all of them, or the text would not have been answered anyway:
the shop is missing or suspended, the owner is missing or has an empty wallet, or no key is set. -/
theorem never_masked_iff (env : ChatEnv) (db : ChatDb) (shopBotId : ℕ) (user : ℤ) (text : String)
    (htext : text ≠ "") :
    ((∃ rule ∈ db.rules.rows, rule.isActive = true ∧ rule.fires env.text text = true ∧
        (rule.action = .BLOCK ∨ rule.action = .REVIEW)) →
      ∀ e ∈ (generateAndSendReply env db shopBotId user text).log, e.isAi = false) ↔
    ¬ (WarnFirst env.text text (db.getActiveRules env.ruleScan) ∧
      (db.answerable shopBotId).isSome = true) := by
  obtain ⟨rest, hlog, hrest⟩ := generateAndSendReply_asks env db shopBotId user text
  -- the rules that block, in the table and in the list that the query returns
  have hrules : (∃ rule ∈ db.rules.rows, rule.isActive = true ∧ rule.fires env.text text = true ∧
      (rule.action = .BLOCK ∨ rule.action = .REVIEW)) ↔
      ∃ rule ∈ db.getActiveRules env.ruleScan, rule.fires env.text text = true ∧
        blocks rule = true := by
    unfold getActiveRules blocks
    simp only [Table.mem_select, Bool.or_eq_true, beq_iff_eq, and_assoc]
  have hthrough : letThrough env db text = true ↔ ∀ rule,
      (db.getActiveRules env.ruleScan).find? (fun rule => rule.fires env.text text) = some rule →
        rule.action = .WARN := by
    unfold letThrough checkText
    rw [if_neg htext]
    cases (db.getActiveRules env.ruleScan).find? (fun rule => rule.fires env.text text) with
    | none => simp
    | some rule => simp
  have hquiet : (∀ e ∈ (generateAndSendReply env db shopBotId user text).log, e.isAi = false) ↔
      replyOwner env db shopBotId text = none := by
    rw [hlog]
    cases replyOwner env db shopBotId text with
    | none => exact ⟨fun _ => rfl, fun _ => hrest⟩
    | some o =>
      refine ⟨fun h => ?_, nofun⟩
      exact absurd (h (.ai o (.getReply text)) (List.mem_append_left _ List.mem_cons_self)) nofun
  rw [hrules, hquiet]
  unfold replyOwner
  constructor
  · rintro h ⟨hwarn, hanswer⟩
    obtain ⟨before, warn, after, hsplit, hbefore, hfires, hw, r, hr, hrf, hrb⟩ := hwarn
    have hblock : ∃ rule ∈ db.getActiveRules env.ruleScan, rule.fires env.text text = true ∧
        blocks rule = true :=
      ⟨r, by rw [hsplit]; exact List.mem_append_right _ (List.mem_cons_of_mem _ hr), hrf, hrb⟩
    have hnone := h hblock
    rw [if_pos (hthrough.2 ((warnFirst_iff hblock).1
      ⟨before, warn, after, hsplit, hbefore, hfires, hw, r, hr, hrf, hrb⟩)), Option.map_eq_none_iff] at hnone
    rw [hnone] at hanswer
    cases hanswer
  · intro h hblock
    split_ifs with hlet
    · rw [Option.map_eq_none_iff, ← Option.not_isSome_iff_eq_none]
      exact fun hanswer => h ⟨(warnFirst_iff hblock).2 (hthrough.1 hlet), hanswer⟩
    · rfl

/-- `str.lower` of ASCII texts, and no regular expressions. -/
def ascii : TextOps := ⟨fun s => .ofList (s.toList.map Char.toLower), fun _ _ => false⟩

/-- A shop under one rule that warns and one that blocks. -/
def moderatedShop : ChatDb :=
  { owners := ⟨[{ id := 1, telegramId := 100, walletBalanceToman := 1000 }], by decide⟩
    referrals := .empty
    shops := ⟨[{ id := 1, shopOwnerId := 1, encryptedToken := "a", botTelegramId := 501,
                 botUsername := "tea_bot", webhookSecretToken := "x" }], by decide⟩
    customers := .empty
    products := .empty
    orders := .empty
    settings := { aiApiKey := some "key" }
    charges := .empty
    transactions := .empty
    rules := ⟨[{ id := 1, pattern := "refund", action := .WARN },
               { id := 2, pattern := "weapon", action := .BLOCK }], by decide⟩
    messages := .empty
    keyPool := .empty
    auditLog := []
    botErrors := [] }

theorem never_masked_iff_reversed :
    moderatedShop.rules.rows.map ModerationRule.action = [.WARN, .BLOCK] ∧
    ∀ e ∈ (generateAndSendReply { now := 0, text := ascii, ruleScan := ⟨List.reverse, List.reverse_perm⟩ }
      moderatedShop 1 900 "a Weapon and a refund").log, e.isAi = false := by
  refine ⟨rfl, (never_masked_iff _ moderatedShop 1 900 _ (by decide)).2 ?_
    ⟨{ id := 2, pattern := "weapon", action := .BLOCK }, by decide, rfl, by decide +kernel, Or.inl rfl⟩⟩
  rintro ⟨⟨before, warn, after, hsplit, hbefore, -, hwarn, -⟩, -⟩
  cases before with
  | nil =>
    cases hsplit
    cases hwarn
  | cons r before =>
    have hblock := hbefore r List.mem_cons_self
    rw [← (List.cons.inj hsplit).1] at hblock
    revert hblock
    decide +kernel

/-- The rule that warns is returned first, and the text is passed on to the AI. -/
theorem blocked_text_answered :
    ∃ rule ∈ moderatedShop.rules.rows, rule.isActive = true ∧
      rule.fires ascii "a Weapon and a refund" = true ∧ rule.action = .BLOCK ∧
      ∃ e ∈ (generateAndSendReply { now := 0, text := ascii } moderatedShop 1 900
        "a Weapon and a refund").log, e.isAi = true :=
  ⟨{ id := 2, pattern := "weapon", action := .BLOCK }, by decide, rfl, by decide +kernel, rfl,
    .ai 1 (.getReply "a Weapon and a refund"), List.mem_cons_self, rfl⟩

end ChatDb

end KasbOKar
