import KasbOKar.Chat.Reply

/-!
# Billing and delivery

`_generate_and_send_reply` saves the turn of the conversation, sends the reply to the customer and
charges the owner, all in one session.  The reply is sent without a guard, so when Telegram refuses
it (the customer has blocked the bot, the text is too long) the session is rolled back: the AI has
been paid for, but neither the turn nor the charge is kept (`undelivered_not_billed`).
`billed_iff` says exactly when they are.
-/

namespace KasbOKar

namespace ChatDb

open ChatResult

/-! ## The owner's notices -/

/-- The notice that is due to an owner with this row. -/
def dueNotice (now : Datetime) (settings : AdminSettings) (owner : ShopOwner) : Option ChatNotice :=
  if owner.walletBalanceToman ≤ 0 then
    if claimable owner.walletEmptyNotifiedAt now emptyRenotifyHours then some .walletEmpty else none
  else if owner.walletBalanceToman < settings.walletLowBalanceWarningToman then
    if claimable owner.walletLowBalanceNotifiedAt now lowBalanceRenotifyHours then
      some (.walletLowBalance owner.walletBalanceToman)
    else none
  else none

/-- The notice, if one is due, is sent or refused by Telegram; anything else that a call may raise is
not caught. -/
def NoticeHandled (env : ChatEnv) (notice : Option ChatNotice) : Prop :=
  ∀ n e, notice = some n → env.send n = some e → e = .TelegramAPIError

/-- The notices leave the books alone. -/
structure SameBooks (db db' : ChatDb) : Prop where
  messages : db'.messages = db.messages
  customers : db'.customers = db.customers
  charges : db'.charges = db.charges
  transactions : db'.transactions = db.transactions
  balance : ∀ i, db'.walletDb.balance i = db.walletDb.balance i

theorem sameBooks_refl (db : ChatDb) : SameBooks db db := ⟨rfl, rfl, rfl, rfl, fun _ => rfl⟩

theorem sameBooks_setOwner (db : ChatDb) (ownerId : ℕ) {f : ShopOwner → ShopOwner}
    {hf : ∀ o, (f o).id = o.id} (h : ∀ o, (f o).walletBalanceToman = o.walletBalanceToman) :
    SameBooks db (db.setOwner ownerId f hf) where
  messages := rfl
  customers := rfl
  charges := rfl
  transactions := rfl
  balance i := by
    unfold WalletDb.balance walletDb setOwner
    dsimp only
    rw [Table.find?_modify]
    split_ifs
    · cases db.owners.find? i with
      | none => rfl
      | some o => exact h o
    · rfl

theorem sendLogged_db (env : ChatEnv) (db : ChatDb) (chat : ℤ) (notice : ChatNotice) :
    (sendLogged env db chat notice).db = db := by
  unfold sendLogged
  split <;> rfl

theorem sendLogged_raised (env : ChatEnv) (db : ChatDb) (chat : ℤ) (notice : ChatNotice) :
    (sendLogged env db chat notice).raised = none ↔ NoticeHandled env (some notice) := by
  unfold sendLogged NoticeHandled
  split
  · rename_i hsend
    refine ⟨fun _ n e hn he => ?_, fun _ => rfl⟩
    cases hn
    rw [hsend] at he
    cases he
  · rename_i hsend
    refine ⟨fun _ n e hn he => ?_, fun _ => rfl⟩
    cases hn
    rw [hsend] at he
    cases he
    rfl
  · rename_i e hne hsend
    refine ⟨nofun, fun h => ?_⟩
    exact absurd (h notice e rfl hsend) hne

theorem noticeHandled_none (env : ChatEnv) : NoticeHandled env none := nofun

/-- The notice that is due to an owner once the wallet is as in `w`. -/
def noticeAfter (env : ChatEnv) (settings : AdminSettings) (w : WalletDb) (ownerId : ℕ) :
    Option ChatNotice :=
  (w.owners.find? ownerId).bind (dueNotice env.now settings)

/-- **What `_deduct_and_notify` does after the deduction.** -/
theorem notifyBalance_spec (env : ChatEnv) (db : ChatDb) (ownerId : ℕ) :
    ((notifyBalance env db ownerId).raised = none ↔
      NoticeHandled env (noticeAfter env db.settings db.walletDb ownerId)) ∧
    SameBooks db (notifyBalance env db ownerId).db := by
  unfold notifyBalance noticeAfter
  cases howner : db.owners.find? ownerId with
  | none =>
    rw [show db.walletDb.owners.find? ownerId = none from howner]
    exact ⟨⟨fun _ => noticeHandled_none env, fun _ => rfl⟩, sameBooks_refl db⟩
  | some owner =>
    rw [show db.walletDb.owners.find? ownerId = some owner from howner, Option.bind_some]
    unfold dueNotice
    dsimp only
    split_ifs with hempty hclaim hlow hclaim
    · unfold notifyEmpty
      rw [if_pos hclaim]
      exact ⟨sendLogged_raised .., by rw [sendLogged_db]; exact sameBooks_setOwner _ _ fun _ => rfl⟩
    · unfold notifyEmpty
      rw [if_neg hclaim]
      exact ⟨⟨fun _ => noticeHandled_none env, fun _ => rfl⟩, sameBooks_refl db⟩
    · unfold notifyLowBalance
      rw [if_pos hclaim]
      exact ⟨sendLogged_raised .., by rw [sendLogged_db]; exact sameBooks_setOwner _ _ fun _ => rfl⟩
    · unfold notifyLowBalance
      rw [if_neg hclaim]
      exact ⟨⟨fun _ => noticeHandled_none env, fun _ => rfl⟩, sameBooks_refl db⟩
    · exact ⟨⟨fun _ => noticeHandled_none env, fun _ => rfl⟩, sameBooks_refl db⟩

/-! ## The end of a reply -/

/-- The wallet after the deduction of `estimate_chat_cost` for a reply. -/
def replyCharge (env : ChatEnv) (db : ChatDb) (ownerId : ℕ) (result : AiCallResult) :
    Except PyError WalletDb := do
  let cost ← estimateChatCost db.settings result.totalTokens
  let x ← db.walletDb.deduct env.chargeScan ownerId cost .CHAT_MESSAGE none
  return x.1

/-- The two rows of a turn. -/
def turnRows (db : ChatDb) (customerId : ℕ) (userMessage reply : String) : List ConversationMessage :=
  [{ id := db.messages.nextId, customerId := customerId, role := .user, content := userMessage },
    { id := (db.addMessage customerId .user userMessage).messages.nextId, customerId := customerId,
      role := .assistant, content := reply }]

/-- The conditions under which the end of a reply raises nothing. -/
structure Smooth (env : ChatEnv) (db : ChatDb) (ownerId : ℕ) (text : String) (result : AiCallResult)
    (w : WalletDb) : Prop where
  /-- Both texts of the turn can be stored. -/
  stored : (storable (.str text)).isSome = true ∧ (storable result.text).isSome = true
  /-- The reply is delivered. -/
  delivered : env.send (.reply result.text) = none
  /-- The charge is computed and made. -/
  charged : replyCharge env db ownerId result = .ok w
  /-- The notice to the owner, if one is due, is not lost in another way than Telegram's own. -/
  noticed : NoticeHandled env (noticeAfter env db.settings w ownerId)

theorem storable_some {value : PyJson} {s : String} (h : storable value = some s) :
    value = .str s := by
  unfold storable at h
  split at h
  · split_ifs at h
    rw [Option.some.inj h]
  · cases h

theorem saveTurn_ok {db db' : ChatDb} {customerId : ℕ} {text : String} {reply : PyJson}
    (h : db.saveTurn customerId text reply = .ok db') :
    ∃ answer, storable (.str text) = some text ∧ storable reply = some answer ∧
      db' = (db.addMessage customerId .user text).addMessage customerId .assistant answer := by
  unfold saveTurn at h
  split at h
  · rename_i message answer hmessage hanswer
    cases storable_some hmessage
    exact ⟨answer, hmessage, hanswer, (Except.ok.inj h).symm⟩
  · cases h

/-- The rows after a turn. -/
theorem messages_addTurn (db : ChatDb) (customerId : ℕ) (text reply : String) :
    ((db.addMessage customerId .user text).addMessage customerId .assistant reply).messages.rows =
      db.messages.rows ++ db.turnRows customerId text reply := by
  have huser : (db.addMessage customerId .user text).messages.rows = db.messages.rows ++
      [{ id := db.messages.nextId, customerId := customerId, role := .user, content := text }] :=
    Table.insert_rows (Table.nextId_notMem db.messages)
  have hreply := Table.insert_rows (t := (db.addMessage customerId .user text).messages)
    (r := { id := (db.addMessage customerId .user text).messages.nextId, customerId := customerId,
            role := .assistant, content := reply : ConversationMessage })
    (Table.nextId_notMem _)
  refine hreply.trans ?_
  rw [huser, List.append_assoc]
  rfl

theorem andThen_raised {r : ChatResult} {f : ChatDb → ChatResult} :
    (r.andThen f).raised = none ↔ r.raised = none ∧ (f r.db).raised = none := by
  unfold ChatResult.andThen
  cases h : r.raised with
  | none => exact ⟨fun hf => ⟨rfl, hf⟩, And.right⟩
  | some e => simp [h]

theorem andThen_db {r : ChatResult} {f : ChatDb → ChatResult} (h : r.raised = none) :
    (r.andThen f).db = (f r.db).db := by
  unfold ChatResult.andThen
  rw [h]

theorem sendMessage_raised (env : ChatEnv) (db : ChatDb) (chat : ℤ) (notice : ChatNotice) :
    (sendMessage env db chat notice).raised = none ↔ env.send notice = none := by
  unfold sendMessage
  cases env.send notice <;> simp [raise]

theorem sendMessage_db (env : ChatEnv) (db : ChatDb) (chat : ℤ) (notice : ChatNotice) :
    (sendMessage env db chat notice).db = db := by
  unfold sendMessage
  cases env.send notice <;> rfl

/-- `_deduct_and_notify`, when `deduct` returns. -/
theorem deductAndNotify_spec {env : ChatEnv} {db : ChatDb} {ownerId : ℕ} {cost : ℤ}
    {reason : WalletTransactionReason} {w : WalletDb} {ok : Bool}
    (h : db.walletDb.deduct env.chargeScan ownerId cost reason none = .ok (w, ok)) :
    ((deductAndNotify env db ownerId cost reason).raised = none ↔
      NoticeHandled env (noticeAfter env db.settings w ownerId)) ∧
    SameBooks (db.withWallet w) (deductAndNotify env db ownerId cost reason).db := by
  have hcharge : charge env db ownerId cost reason =
      ⟨db.withWallet w, [.deduct ownerId cost ok], none⟩ := by
    unfold charge
    rw [h]
  obtain ⟨hraised, hbooks⟩ := notifyBalance_spec env (db.withWallet w) ownerId
  unfold deductAndNotify
  rw [hcharge]
  exact ⟨hraised, hbooks⟩

theorem deductAndNotify_error {env : ChatEnv} {db : ChatDb} {ownerId : ℕ} {cost : ℤ}
    {reason : WalletTransactionReason} {e : PyError}
    (h : db.walletDb.deduct env.chargeScan ownerId cost reason none = .error e) :
    (deductAndNotify env db ownerId cost reason).raised = some e := by
  unfold deductAndNotify charge
  rw [h]
  rfl

theorem replyCharge_eq {env : ChatEnv} {db : ChatDb} {ownerId : ℕ} {result : AiCallResult} {cost : ℤ}
    (h : estimateChatCost db.settings result.totalTokens = .ok cost) :
    replyCharge env db ownerId result =
      (db.walletDb.deduct env.chargeScan ownerId cost .CHAT_MESSAGE none).map Prod.fst := by
  unfold replyCharge
  rw [h]
  rfl

theorem replyCharge_ok {env : ChatEnv} {db : ChatDb} {ownerId : ℕ} {result : AiCallResult}
    {w : WalletDb} (h : replyCharge env db ownerId result = .ok w) :
    ∃ cost ok, estimateChatCost db.settings result.totalTokens = .ok cost ∧
      db.walletDb.deduct env.chargeScan ownerId cost .CHAT_MESSAGE none = .ok (w, ok) := by
  cases hcost : estimateChatCost db.settings result.totalTokens with
  | error e =>
    unfold replyCharge at h
    rw [hcost] at h
    cases h
  | ok cost =>
    rw [replyCharge_eq hcost] at h
    cases hdeduct : db.walletDb.deduct env.chargeScan ownerId cost .CHAT_MESSAGE none with
    | error e =>
      rw [hdeduct] at h
      cases h
    | ok x =>
      rw [hdeduct] at h
      cases h
      exact ⟨cost, x.2, rfl, hdeduct⟩

/-- If nothing is raised at the end of a reply, then the conditions hold. -/
theorem smooth_of_finishReply {env : ChatEnv} {db : ChatDb} {shopBotId customerId ownerId : ℕ}
    {user : ℤ} {text : String} {result : AiCallResult}
    (h : (finishReply env db shopBotId customerId ownerId user text result).raised = none) :
    ∃ w, Smooth env db ownerId text result w := by
  unfold finishReply at h
  cases hsave : db.saveTurn customerId text result.text with
  | error e =>
    rw [hsave] at h
    cases h
  | ok db₁ =>
    obtain ⟨answer, htext, hanswer, hdb⟩ := saveTurn_ok hsave
    have hwallet : db₁.walletDb = db.walletDb := by rw [hdb]; rfl
    have hsettings : db₁.settings = db.settings := by rw [hdb]; rfl
    rw [hsave] at h
    dsimp only at h
    rw [andThen_raised, sendMessage_raised, sendMessage_db, hsettings] at h
    obtain ⟨hsend, h⟩ := h
    cases hcost : estimateChatCost db.settings result.totalTokens with
    | error e =>
      rw [hcost] at h
      cases h
    | ok cost =>
      rw [hcost] at h
      obtain ⟨h, -⟩ := andThen_raised.1 h
      cases hdeduct : db₁.walletDb.deduct env.chargeScan ownerId cost .CHAT_MESSAGE none with
      | error e =>
        rw [deductAndNotify_error hdeduct] at h
        cases h
      | ok x =>
        have hnotice := (deductAndNotify_spec hdeduct).1.1 h
        rw [hsettings] at hnotice
        rw [hwallet] at hdeduct
        refine ⟨x.1, ⟨by rw [htext]; rfl, by rw [hanswer]; rfl⟩, hsend, ?_, hnotice⟩
        rw [replyCharge_eq hcost, hdeduct]
        rfl

/-- **The end of a reply**: under the conditions it raises nothing, and the turn and the charge are in
the tables. -/
theorem finishReply_of_smooth {env : ChatEnv} {db : ChatDb} {ownerId : ℕ} {text : String}
    {result : AiCallResult} {w : WalletDb} (h : Smooth env db ownerId text result w)
    (shopBotId customerId : ℕ) (user : ℤ) :
    (finishReply env db shopBotId customerId ownerId user text result).raised = none ∧
    ∃ answer, storable result.text = some answer ∧
      SameBooks (((db.addMessage customerId .user text).addMessage customerId .assistant
        answer).withWallet w)
        (finishReply env db shopBotId customerId ownerId user text result).db := by
  obtain ⟨⟨htext, hreply⟩, hsend, hcharged, hnotice⟩ := h
  obtain ⟨answer, hanswer⟩ := Option.isSome_iff_exists.1 hreply
  obtain ⟨cost, ok, hcost, hdeduct⟩ := replyCharge_ok hcharged
  set db₁ := (db.addMessage customerId .user text).addMessage customerId .assistant answer with hdb₁
  have hsave : db.saveTurn customerId text result.text = .ok db₁ := by
    obtain ⟨message, hmessage⟩ := Option.isSome_iff_exists.1 htext
    cases storable_some hmessage
    unfold saveTurn
    rw [hmessage, hanswer]
  obtain ⟨hraised, hbooks⟩ := @deductAndNotify_spec _ db₁ _ _ _ _ _ hdeduct
  have hsent : (sendMessage env db₁ user (.reply result.text)).raised = none :=
    (sendMessage_raised ..).2 hsend
  have hquiet := hraised.2 hnotice
  unfold finishReply
  rw [hsave]
  dsimp only
  rw [andThen_raised, andThen_db hsent, sendMessage_db]
  rw [show estimateChatCost db₁.settings result.totalTokens = .ok cost from hcost]
  dsimp only
  rw [andThen_raised, andThen_db hquiet]
  exact ⟨⟨hsent, hquiet, rfl⟩, answer, hanswer, hbooks⟩

/-! ## A batch that is answered -/

/-- What a batch leaves alone before the AI is asked. -/
structure SameBefore (db db₁ : ChatDb) : Prop where
  messages : db₁.messages = db.messages
  wallet : db₁.walletDb = db.walletDb
  settings : db₁.settings = db.settings

theorem askForReply_eq {env : ChatEnv} {db : ChatDb} {shopBot : ShopBot} {owner : ShopOwner}
    {text : String} {result : AiCallResult} (howner : db.payingOwner shopBot = some owner)
    (hai : env.ai = .ok result) (customer : Customer) (user : ℤ) :
    askForReply env db shopBot customer user text =
      ChatResult.andThen ⟨db, [.ai owner.id (.getReply text)], none⟩ fun db =>
        finishReply env db shopBot.id customer.id owner.id user text result := by
  obtain ⟨hfind, hpays⟩ := Option.filter_eq_some_iff.1 howner
  rw [Bool.and_eq_true, decide_eq_true_eq] at hpays
  have hkey : db.settings.aiApiKey.any (fun key => key != "") = true := hpays.2
  unfold askForReply
  rw [hfind]
  dsimp only
  rw [if_neg (not_le.2 hpays.1), hkey, buildAiService_of_hasApiKey hpays.2, Bool.not_true,
    if_neg Bool.false_ne_true, if_neg Bool.false_ne_true, hai]

theorem answerBatch_eq {env : ChatEnv} {db : ChatDb} {shopBot : ShopBot} {owner : ShopOwner}
    {text : String} {result : AiCallResult} (hshop : shopBot.id ∈ db.shops.ids)
    (howner : db.payingOwner shopBot = some owner) (hai : env.ai = .ok result) (user : ℤ) :
    ∃ db₁ customer, SameBefore db db₁ ∧ customer ∈ db₁.customers.rows ∧
      customer.shopBotId = shopBot.id ∧ customer.telegramId = user ∧
      answerBatch env db shopBot user text =
        ChatResult.andThen ⟨db₁, [.ai owner.id (.getReply text)], none⟩ fun db =>
          finishReply env db shopBot.id customer.id owner.id user text result := by
  obtain ⟨customers, customer, hc, hrow, hcshop, hcuser⟩ :=
    getOrCreateCustomer_isOk hshop nameFits_none nameFits_none env.now user
  refine ⟨db.withShopDb { db.toShopDb with customers := customers }, customer, ⟨rfl, rfl, rfl⟩, hrow,
    hcshop, hcuser, ?_⟩
  unfold answerBatch
  rw [hc]
  have howner' : (db.withShopDb { db.toShopDb with customers := customers }).payingOwner shopBot =
      some owner := howner
  exact askForReply_eq howner' hai customer user

/-- **A batch for which `get_reply` returns.** -/
theorem generateAndSendReply_eq {env : ChatEnv} {db : ChatDb} {shopBotId ownerId : ℕ} {text : String}
    {result : AiCallResult} (h : replyOwner env db shopBotId text = some ownerId)
    (hai : env.ai = .ok result) (user : ℤ) :
    ∃ db₁ customer, SameBefore db db₁ ∧ customer ∈ db₁.customers.rows ∧
      customer.shopBotId = shopBotId ∧ customer.telegramId = user ∧
      generateAndSendReply env db shopBotId user text =
        ChatResult.andThen ⟨db₁, [.ai ownerId (.getReply text)], none⟩ fun db =>
          finishReply env db shopBotId customer.id ownerId user text result := by
  unfold replyOwner at h
  split_ifs at h with hthrough
  obtain ⟨owner, howner, rfl⟩ := Option.map_eq_some_iff.1 h
  obtain ⟨shopBot, hshop, hpays⟩ := Option.bind_eq_some_iff.1 howner
  obtain ⟨hfind, hactive⟩ := Option.filter_eq_some_iff.1 hshop
  obtain rfl : shopBot.id = shopBotId := Table.id_of_find? hfind
  have hid : shopBot.id ∈ db.shops.ids := Table.id_mem_ids (Table.mem_of_find? hfind)
  unfold generateAndSendReply
  rw [hfind]
  dsimp only
  rw [hactive, Bool.not_true, if_neg Bool.false_ne_true]
  unfold letThrough at hthrough
  cases hrule : db.checkText env.text env.ruleScan text with
  | none => exact answerBatch_eq hid hpays hai user
  | some rule =>
    rw [hrule, Option.all_some, beq_iff_eq] at hthrough
    dsimp only
    rw [if_neg (not_not.2 hthrough)]
    obtain ⟨db₁, customer, hsame, hrest⟩ :=
      @answerBatch_eq _ (db.logMatch shopBot.id user rule) _ _ text _ hid hpays hai user
    exact ⟨db₁, customer, ⟨hsame.messages, hsame.wallet, hsame.settings⟩, hrest⟩

/-- The turn and the charge of one reply are in the tables. -/
structure Billed (env : ChatEnv) (before after : ChatDb) (shopBotId ownerId : ℕ) (user : ℤ)
    (text : String) (result : AiCallResult) : Prop where
  /-- The turn, of the customer's row. -/
  turn : ∃ customer ∈ after.customers.rows, customer.shopBotId = shopBotId ∧
    customer.telegramId = user ∧ ∃ reply, result.text = .str reply ∧
      after.messages.rows = before.messages.rows ++ before.turnRows customer.id text reply
  /-- One deduction of `estimate_chat_cost`. -/
  charge : ∃ cost w ok, estimateChatCost before.settings result.totalTokens = .ok cost ∧
    before.walletDb.deduct env.chargeScan ownerId cost .CHAT_MESSAGE none = .ok (w, ok) ∧
    after.charges = w.charges ∧ after.transactions = w.transactions ∧
    ∀ i, after.walletDb.balance i = w.balance i

theorem turnRows_congr {db db₁ : ChatDb} (h : db₁.messages = db.messages) (customerId : ℕ)
    (text reply : String) : db₁.turnRows customerId text reply = db.turnRows customerId text reply := by
  unfold turnRows addMessage
  rw [h]

/-- The conditions before and after the lines that lead to the AI. -/
theorem SameBefore.smooth {env : ChatEnv} {db db₁ : ChatDb} (h : SameBefore db db₁) {ownerId : ℕ}
    {text : String} {result : AiCallResult} {w : WalletDb} :
    Smooth env db₁ ownerId text result w ↔ Smooth env db ownerId text result w := by
  have hcharge : replyCharge env db₁ ownerId result = replyCharge env db ownerId result := by
    unfold replyCharge
    rw [h.wallet, h.settings]
  constructor
  · rintro ⟨hstored, hsend, hcharged, hnotice⟩
    exact ⟨hstored, hsend, hcharge ▸ hcharged, h.settings ▸ hnotice⟩
  · rintro ⟨hstored, hsend, hcharged, hnotice⟩
    exact ⟨hstored, hsend, hcharge.symm ▸ hcharged, h.settings.symm ▸ hnotice⟩

/-- **Billing of a batch for which `get_reply` has returned.**  What is committed contains the turn and
the charge if and only if both texts can be stored, the charge can be made, the reply is delivered,
and the notice to the owner fails in no other way than Telegram's own. -/
theorem billed_iff (env : ChatEnv) (db : ChatDb) (shopBotId ownerId : ℕ) (user : ℤ) (text : String)
    (result : AiCallResult)
    (hasked : .ai ownerId (.getReply text) ∈ (generateAndSendReply env db shopBotId user text).log)
    (hai : env.ai = .ok result) :
    Billed env db ((generateAndSendReply env db shopBotId user text).committed db) shopBotId ownerId
      user text result ↔ ∃ w, Smooth env db ownerId text result w := by
  have howner := owner_of_asks (generateAndSendReply_asks env db shopBotId user text) hasked
  obtain ⟨db₁, customer, hsame, hrow, hcshop, hcuser, heq⟩ := generateAndSendReply_eq howner hai user
  set finish := finishReply env db₁ shopBotId customer.id ownerId user text result with hfinish
  have hraised : (generateAndSendReply env db shopBotId user text).raised = finish.raised := by
    rw [heq]
    rfl
  have hdb : (generateAndSendReply env db shopBotId user text).db = finish.db := by
    rw [heq]
    rfl
  constructor
  · intro h
    obtain ⟨_, _, _, _, _, _, hrows⟩ := h.turn
    -- a batch that is rolled back has no new messages
    have hnone : finish.raised = none := by
      by_contra hsome
      unfold committed at hrows
      rw [hraised, if_pos (Option.isSome_iff_ne_none.2 hsome)] at hrows
      exact absurd (List.self_eq_append_right.1 hrows) nofun
    obtain ⟨w, hw⟩ := smooth_of_finishReply hnone
    exact ⟨w, hsame.smooth.1 hw⟩
  · rintro ⟨w, hw⟩
    obtain ⟨cost, ok, hcost, hdeduct⟩ := replyCharge_ok hw.charged
    obtain ⟨hnone, answer, hanswer, hbooks⟩ :=
      finishReply_of_smooth (hsame.smooth.2 hw) shopBotId customer.id user
    unfold committed
    rw [hraised, hnone, hdb, if_neg (by decide)]
    refine ⟨⟨customer, ?_, hcshop, hcuser, answer, storable_some hanswer, ?_⟩, cost, w, ok, hcost,
      hdeduct, hbooks.charges, hbooks.transactions, hbooks.balance⟩
    · rw [hbooks.customers]
      exact hrow
    · rw [hbooks.messages, ← hsame.messages, ← turnRows_congr hsame.messages]
      exact messages_addTurn db₁ customer.id text answer

/-- The shop's wallet holds one charge of 1000 Toman. -/
def stockedShop : ChatDb :=
  { moderatedShop with
    charges := ⟨[{ id := 1, shopOwnerId := 1, amountToman := 1000, remainingToman := 1000,
                   expiresAt := 10 }], by decide⟩ }

/-- The reply of the AI, for 500 tokens. -/
def shortReply : AiCallResult := { text := .str "Yes", totalTokens := some 500 }

def replying (send : ChatNotice → Option PyError) : ChatEnv :=
  { now := 0, text := ascii, send := send, ai := .ok shortReply }

theorem billed_iff_delivered :
    Billed (replying fun _ => none) stockedShop
      ((generateAndSendReply (replying fun _ => none) stockedShop 1 900 "Hello").committed stockedShop)
      1 1 900 "Hello" shortReply := by
  refine (billed_iff (replying fun _ => none) stockedShop 1 1 900 "Hello" shortReply
    List.mem_cons_self rfl).2 ?_
  have hcost : estimateChatCost stockedShop.settings shortReply.totalTokens = .ok 25 := by
    decide +kernel
  obtain ⟨x, hx⟩ : ∃ x, stockedShop.walletDb.deduct .plain 1 25 .CHAT_MESSAGE none = .ok x :=
    ⟨_, rfl⟩
  refine ⟨x.1, ⟨rfl, rfl⟩, rfl, ?_, nofun⟩
  rw [replyCharge_eq hcost]
  exact congrArg (Except.map Prod.fst) hx

/-- The customer has blocked the bot: the AI has answered, and nothing is kept. -/
theorem undelivered_not_billed :
    .ai 1 (.getReply "Hello") ∈ (generateAndSendReply (replying fun _ => some .TelegramAPIError)
      stockedShop 1 900 "Hello").log ∧
    ¬ Billed (replying fun _ => some .TelegramAPIError) stockedShop
      ((generateAndSendReply (replying fun _ => some .TelegramAPIError) stockedShop 1 900
        "Hello").committed stockedShop) 1 1 900 "Hello" shortReply := by
  refine ⟨List.mem_cons_self, fun h => ?_⟩
  obtain ⟨customer, _, _, _, _, _, hrows⟩ := h.turn
  cases hrows

end ChatDb

end KasbOKar
