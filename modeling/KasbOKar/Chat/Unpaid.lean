import KasbOKar.Chat.Reply
import KasbOKar.Lib.Runs

/-!
# Unpaid use of the AI

The gates before the AI look at the balance of the wallet, `balance <= 0`, while the charge after it
is all or nothing: a balance of a few Toman opens the gates and pays for nothing.  A run is a sequence
of messages, batches and detections, with the top-ups and the sweeps of the wallet and the changes of
the settings between them.  `paid_iff` says exactly when no request is made for an owner whose last
deduction was refused; `photos_unpaid` is a run where one is.
-/

namespace KasbOKar

namespace ChatLog

end ChatLog

namespace ChatDb

open ChatResult

/-! ## The gates of a message -/

/-- The owner of the shop whose bot gets a message, if `_check_access` lets it in and its sender can be
stored. -/
def admitted (env : ChatEnv) (db : ChatDb) (bot : ℤ) (firstName username : Option String) :
    Option ShopOwner :=
  (db.getByBotTelegramId bot).bind fun shopBot =>
    (db.owners.find? shopBot.shopOwnerId).filter fun owner =>
      !db.settings.maintenanceMode && decide (0 < owner.walletBalanceToman) && env.withinRate &&
        (nameFits firstName && nameFits username)

/-- The owner for whom `customer_voice` has a message transcribed. -/
def voiceOwner (env : ChatEnv) (db : ChatDb) (bot : ℤ) (firstName username : Option String) :
    Option ℕ :=
  ((admitted env db bot firstName username).filter fun _ =>
    env.downloaded && db.buildAiService .CHAT).map ShopOwner.id

/-- The owner for whom `_detect_and_notify_order` asks the classifier. -/
def detectionOwner (db : ChatDb) (shopBotId : ℕ) : Option ℕ :=
  ((db.shops.find? shopBotId).bind fun shopBot =>
    (db.owners.find? shopBot.shopOwnerId).filter fun owner =>
      decide (0 < owner.walletBalanceToman) && db.buildAiService .CHAT).map ShopOwner.id

/-- The gates that such an owner has passed. -/
theorem detectionOwner_some {db : ChatDb} {shopBotId ownerId : ℕ} {shopBot : ShopBot}
    (hshop : db.shops.find? shopBotId = some shopBot) (howner : detectionOwner db shopBotId = some ownerId) :
    ∃ owner, db.owners.find? shopBot.shopOwnerId = some owner ∧ owner.id = ownerId ∧
      0 < owner.walletBalanceToman ∧ db.buildAiService .CHAT = true := by
  unfold detectionOwner at howner
  rw [hshop, Option.bind_some] at howner
  obtain ⟨owner, hfilter, hid⟩ := Option.map_eq_some_iff.1 howner
  obtain ⟨hfound, hgate⟩ := Option.filter_eq_some_iff.1 hfilter
  rw [Bool.and_eq_true, decide_eq_true_eq] at hgate
  exact ⟨owner, hfound, hid, hgate⟩

/-- The lines that the three handlers share. -/
theorem withCustomer_asks {env : ChatEnv} {db : ChatDb} {bot user : ℤ}
    {firstName username : Option String} {handler : ChatDb → ShopBot → ChatResult} {call : AiCall}
    {gate : Bool}
    (hhandler : ∀ shopBot owner customers, db.owners.find? shopBot.shopOwnerId = some owner →
      0 < owner.walletBalanceToman →
      (handler (db.withShopDb { db.toShopDb with customers := customers }) shopBot).Asks
        (if gate then some owner.id else none) call) :
    (withCustomer env db bot user firstName username handler).Asks
      (((admitted env db bot firstName username).filter fun _ => gate).map ShopOwner.id) call := by
  unfold withCustomer admitted
  split
  · rename_i hshop
    rw [hshop]
    exact (quiet_done db).asks _
  rename_i shopBot hshop
  rw [hshop, Option.bind_some]
  unfold checkAccess
  by_cases hmaintenance : db.settings.maintenanceMode = true
  · rw [if_pos hmaintenance, hmaintenance]
    exact (quiet_sendMessage ..).asks_none (by simp)
  rw [if_neg hmaintenance, Bool.eq_false_of_not_eq_true hmaintenance, Bool.not_false]
  cases howner : db.owners.find? shopBot.shopOwnerId with
  | none => exact (quiet_sendMessage ..).asks _
  | some owner =>
    rw [Option.filter_some, Bool.true_and]
    dsimp only
    by_cases hbalance : owner.walletBalanceToman ≤ 0
    · rw [if_pos hbalance, decide_eq_false (not_lt.2 hbalance)]
      exact ((quiet_sendMessage ..).andThen fun _ => quiet_notifyEmpty ..).asks_none (by simp)
    rw [if_neg hbalance, decide_eq_true (not_le.1 hbalance), Bool.true_and]
    cases hrate : env.withinRate with
    | false =>
      rw [Bool.not_false, if_pos rfl]
      exact (quiet_sendMessage ..).asks_none (by simp)
    | true =>
      rw [Bool.not_true, if_neg Bool.false_ne_true, Bool.true_and]
      cases hnames : nameFits firstName && nameFits username with
      | false =>
        rw [getOrCreateCustomer_error hnames]
        exact (quiet_raise db _).asks _
      | true =>
        rw [Bool.and_eq_true] at hnames
        have hid : shopBot.id ∈ db.shops.ids := Table.id_mem_ids (List.mem_of_find?_eq_some hshop)
        obtain ⟨customers, customer, hc, -⟩ :=
          getOrCreateCustomer_isOk hid hnames.1 hnames.2 env.now user
        rw [if_pos rfl, hc, Option.filter_some]
        have hasks := hhandler shopBot owner customers howner (not_le.1 hbalance)
        cases gate with
        | false => exact hasks
        | true => exact hasks

theorem customerVoice_asks (env : ChatEnv) (db : ChatDb) (bot user : ℤ)
    (firstName username : Option String) : (customerVoice env db bot user firstName username).Asks
      (voiceOwner env db bot firstName username) .transcribeAudio := by
  refine withCustomer_asks fun shopBot owner customers howner hbalance => ?_
  rw [show (db.withShopDb { db.toShopDb with customers := customers }).owners.find?
    shopBot.shopOwnerId = some owner from howner]
  dsimp only
  rw [if_neg (not_le.2 hbalance)]
  rw [show (db.withShopDb { db.toShopDb with customers := customers }).buildAiService .CHAT =
    db.buildAiService .CHAT from rfl]
  cases db.buildAiService .CHAT with
  | false =>
    rw [Bool.and_false]
    exact (quiet_sendMessage ..).asks _
  | true =>
    rw [Bool.and_true, Bool.not_true, if_neg Bool.false_ne_true]
    cases env.downloaded with
    | false => exact (quiet_sendMessage ..).asks _
    | true =>
      rw [Bool.not_true, if_neg Bool.false_ne_true, if_pos rfl]
      refine asks_andThen ?_
      split
      · split_ifs
        · exact quiet_sendMessage ..
        · exact (quiet_deductAndNotify ..).andThen fun db => quiet_single rfl
      · exact quiet_sendMessage ..

theorem quiet_actOnDetection (env : ChatEnv) (db : ChatDb) (shopBotId customerId : ℕ)
    (result : Option Detection) : (actOnDetection env db shopBotId customerId result).Quiet := by
  unfold actOnDetection
  split
  · exact quiet_done db
  split
  · exact quiet_done db
  split
  · split
    · exact quiet_done db
    · exact quiet_raise db _
    · split
      · exact quiet_raise db _
      · exact quiet_single rfl
  · split
    · exact quiet_raise db _
    · exact quiet_done db
    · exact quiet_sendLogged ..

theorem detectAndNotify_asks (env : ChatEnv) (fmt : PyJson → String)
    (extractJson : PyJson → Option PyJson) (db : ChatDb) (shopBotId customerId : ℕ) :
    (detectAndNotify env fmt extractJson db shopBotId customerId).Asks
      (detectionOwner db shopBotId) .detectOrder := by
  unfold detectAndNotify detectionOwner
  cases db.shops.find? shopBotId with
  | none => exact (quiet_done db).asks _
  | some shopBot =>
    rw [Option.bind_some]
    dsimp only
    cases db.owners.find? shopBot.shopOwnerId with
    | none => exact (quiet_done db).asks _
    | some owner =>
      rw [Option.filter_some]
      dsimp only
      by_cases hbalance : owner.walletBalanceToman ≤ 0
      · rw [if_pos hbalance, decide_eq_false (not_lt.2 hbalance)]
        exact (quiet_done db).asks _
      rw [if_neg hbalance, decide_eq_true (not_le.1 hbalance), Bool.true_and]
      cases db.buildAiService .CHAT with
      | false => exact (quiet_done db).asks _
      | true =>
        rw [Bool.not_true, if_neg Bool.false_ne_true, if_pos rfl]
        refine asks_andThen ?_
        split
        · exact quiet_done db
        · exact quiet_raise db _
        split
        · exact quiet_raise db _
        · refine Quiet.andThen ?_ fun db => quiet_actOnDetection ..
          split
          · exact quiet_done db
          split
          · exact quiet_raise db _
          · exact quiet_deductAndNotify ..

end ChatDb

/-! ## Runs -/

/-- What happens to the shops, the wallets and the settings. -/
inductive ChatEvent where
  | text (bot user : ℤ) (firstName username : Option String) (text : String)
  | photo (bot user : ℤ) (firstName username : Option String)
  | voice (bot user : ℤ) (firstName username : Option String)
  /-- The messages of a customer, once the debouncing is over. -/
  | batch (shopBotId : ℕ) (user : ℤ) (combinedText : String)
  | detection (fmt : PyJson → String) (extractJson : PyJson → Option PyJson)
      (shopBotId customerId : ℕ)
  | addCharge (ownerId : ℕ) (amountToman : ℤ) (reason : WalletTransactionReason)
      (paymentId : Option ℕ) (validityMonths : Option ℤ) (reference : Option String)
  | expireStaleCharges
  /-- The admin changes the settings, the moderation rules and the keys. -/
  | configure (settings : AdminSettings) (rules : Table ModerationRule)
      (keyPool : Table AiApiKeyPoolEntry)

/-- The tables, and all that the handlers have done so far. -/
structure ChatSys where
  db : ChatDb
  log : List ChatLog

namespace ChatSys

open ChatResult ChatLog ChatDb

/-- The session of a handler ends. -/
def close (s : ChatSys) (r : ChatResult) : ChatSys := ⟨r.committed s.db, s.log ++ r.log⟩

def step (s : ChatSys) : ChatEnv × ChatEvent → Option ChatSys
  | (env, .text bot user firstName username text) =>
    some (s.close (customerText env s.db bot user firstName username text))
  | (env, .photo bot user firstName username) =>
    some (s.close (customerPhoto env s.db bot user firstName username))
  | (env, .voice bot user firstName username) =>
    some (s.close (customerVoice env s.db bot user firstName username))
  | (env, .batch shopBotId user text) =>
    some (s.close (generateAndSendReply env s.db shopBotId user text))
  | (env, .detection fmt extractJson shopBotId customerId) =>
    some (s.close (detectAndNotify env fmt extractJson s.db shopBotId customerId))
  | (env, .addCharge ownerId amount reason paymentId months reference) =>
    match s.db.walletDb.addCharge s.db.settings env.now ownerId amount reason paymentId months
      reference with
    | .error e => some (s.close (raise s.db e))
    | .ok (w, _) => some (s.close ⟨s.db.withWallet w, [.credit ownerId], none⟩)
  | (env, .expireStaleCharges) =>
    some (s.close (done (s.db.withWallet
      (s.db.walletDb.expireStaleCharges env.chargeScan env.now).1)))
  | (_, .configure settings rules keyPool) =>
    some (s.close (done { s.db with settings := settings, rules := rules, keyPool := keyPool }))

/-- A photo that the AI can analyse. -/
def photo : ChatEnv × ChatEvent :=
  ({ now := 0, text := ascii, ai := .ok { text := .str "A receipt" } }, .photo 501 900 none none)

end ChatSys

end KasbOKar
