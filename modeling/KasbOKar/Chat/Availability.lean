import KasbOKar.Chat.Unpaid

/-!
# Is there an AI to ask

Four handlers use the AI.  Three of them let `build_ai_service` decide whether there is one, from the pool
and the key of the settings.  `_generate_and_send_reply` also has a guard of its own from the time before
the pool, on the key of the settings alone.

`reply_available_iff`: the guard agrees with `build_ai_service` exactly if there is a key in the settings,
or none in the pool.  With the pool alone the shops transcribe voices and look for orders, but answer no
text (`pool_only_unanswered`).
-/

namespace KasbOKar

namespace ChatDb

open ChatResult

/-- `get_active_entries_for_capability` returns an entry. -/
def hasPoolEntry (db : ChatDb) (capability : AiKeyCapability) : Bool :=
  db.keyPool.rows.any fun e => e.isActive && (e.capability == capability || e.capability == .BOTH)

theorem buildAiService_eq (db : ChatDb) (capability : AiKeyCapability) :
    db.buildAiService capability = (db.hasPoolEntry capability || db.hasApiKey) := rfl

/-- The handler reaches a call of the AI. -/
def Reaches (r : ChatResult) (call : AiCall) : Prop := ∃ ownerId, .ai ownerId call ∈ r.log

theorem reaches_iff {r : ChatResult} {owner : Option ℕ} {call : AiCall} (h : r.Asks owner call) :
    Reaches r call ↔ owner.isSome = true := by
  constructor
  · rintro ⟨ownerId, hmem⟩
    rw [owner_of_asks h hmem]
    rfl
  · intro howner
    obtain ⟨ownerId, rfl⟩ := Option.isSome_iff_exists.1 howner
    obtain ⟨rest, hlog, -⟩ := h
    refine ⟨ownerId, ?_⟩
    rw [hlog]
    exact List.mem_append_left _ List.mem_cons_self

variable (env : ChatEnv) (db : ChatDb)

/-- For a text of a shop that may be answered, the key of the settings decides. -/
theorem reaches_reply {shopBotId : ℕ} {text : String} {shopBot : ShopBot} {owner : ShopOwner}
    (hshop : db.shops.find? shopBotId = some shopBot) (hactive : shopBot.isActive = true)
    (howner : db.owners.find? shopBot.shopOwnerId = some owner) (hbalance : 0 < owner.walletBalanceToman)
    (hpass : letThrough env db text = true) (user : ℤ) :
    Reaches (generateAndSendReply env db shopBotId user text) (.getReply text) ↔
      db.hasApiKey = true := by
  rw [reaches_iff (generateAndSendReply_asks env db shopBotId user text)]
  unfold replyOwner answerable
  rw [if_pos hpass, hshop, Option.filter_some, if_pos hactive, Option.bind_some]
  unfold payingOwner
  rw [howner, Option.filter_some, decide_eq_true hbalance, Bool.true_and]
  cases db.hasApiKey <;> simp

/-- For a voice message that is let in, `build_ai_service` decides. -/
theorem reaches_voice {bot : ℤ} {firstName username : Option String} {owner : ShopOwner}
    (hadmitted : admitted env db bot firstName username = some owner) (hdownload : env.downloaded = true)
    (user : ℤ) : Reaches (customerVoice env db bot user firstName username) .transcribeAudio ↔
      db.buildAiService .CHAT = true := by
  rw [reaches_iff (customerVoice_asks env db bot user firstName username)]
  unfold voiceOwner
  rw [hadmitted, Option.filter_some, hdownload, Bool.true_and]
  cases db.buildAiService .CHAT <;> simp

theorem reaches_detection {shopBotId : ℕ} {shopBot : ShopBot} {owner : ShopOwner}
    (hshop : db.shops.find? shopBotId = some shopBot)
    (howner : db.owners.find? shopBot.shopOwnerId = some owner) (hbalance : 0 < owner.walletBalanceToman)
    (fmt : PyJson → String) (extractJson : PyJson → Option PyJson) (customerId : ℕ) :
    Reaches (detectAndNotify env fmt extractJson db shopBotId customerId) .detectOrder ↔
      db.buildAiService .CHAT = true := by
  rw [reaches_iff (detectAndNotify_asks env fmt extractJson db shopBotId customerId)]
  unfold detectionOwner
  rw [hshop, Option.bind_some, howner, Option.filter_some, decide_eq_true hbalance, Bool.true_and]
  cases db.buildAiService .CHAT <;> simp

/-- For an active shop with a balance and a text that moderation lets through, the AI is asked for a reply
exactly when `build_ai_service` has one to ask, as it is for a voice and for the orders, if and only if
there is a key in the settings or no key for chats in the pool. -/
theorem reply_available_iff {shopBotId : ℕ} {text : String} {shopBot : ShopBot} {owner : ShopOwner}
    (hshop : db.shops.find? shopBotId = some shopBot) (hactive : shopBot.isActive = true)
    (howner : db.owners.find? shopBot.shopOwnerId = some owner) (hbalance : 0 < owner.walletBalanceToman)
    (hpass : letThrough env db text = true) (user : ℤ) :
    ((Reaches (generateAndSendReply env db shopBotId user text) (.getReply text) ↔
        db.buildAiService .CHAT = true) ↔
      (db.hasApiKey = true ∨ db.hasPoolEntry .CHAT = false)) ∧
      (∀ fmt extractJson customerId,
        Reaches (detectAndNotify env fmt extractJson db shopBotId customerId) .detectOrder ↔
          db.buildAiService .CHAT = true) ∧
      ∀ bot firstName username voiceOwner, admitted env db bot firstName username = some voiceOwner →
        env.downloaded = true →
        (Reaches (customerVoice env db bot user firstName username) .transcribeAudio ↔
          db.buildAiService .CHAT = true) := by
  refine ⟨?_, fun fmt extractJson customerId => reaches_detection env db hshop howner hbalance fmt
    extractJson customerId, fun bot firstName username voiceOwner hadmitted hdownload =>
      reaches_voice env db hadmitted hdownload user⟩
  rw [reaches_reply env db hshop hactive howner hbalance hpass, buildAiService_eq]
  cases db.hasApiKey <;> cases db.hasPoolEntry .CHAT <;> simp

/-- A platform that is configured through the pool alone. -/
def poolShop : ChatDb :=
  { moderatedShop with
    settings := {}
    keyPool := ⟨[{ id := 1, capability := .BOTH }], List.nodup_singleton _⟩ }

theorem reply_available_iff_poolShop :
    (Reaches (generateAndSendReply { now := 0, text := ascii } poolShop 1 900 "hello") (.getReply "hello") ↔
        poolShop.buildAiService .CHAT = true) ↔
      (poolShop.hasApiKey = true ∨ poolShop.hasPoolEntry .CHAT = false) :=
  (reply_available_iff { now := 0, text := ascii } poolShop rfl rfl rfl (by decide) (by decide +kernel)
    900).1

/-- The voices of this shop are transcribed, and its texts are answered with an apology. -/
theorem pool_only_unanswered :
    poolShop.buildAiService .CHAT = true ∧
      ¬ Reaches (generateAndSendReply { now := 0, text := ascii } poolShop 1 900 "hello")
        (.getReply "hello") ∧
      Reaches (customerVoice { now := 0, text := ascii } poolShop 501 900 none none) .transcribeAudio := by
  refine ⟨rfl, ?_, (reaches_voice _ poolShop rfl rfl 900).2 rfl⟩
  rw [reaches_reply _ poolShop rfl rfl rfl (by decide) (by decide +kernel)]
  exact Bool.false_ne_true

end ChatDb

end KasbOKar
