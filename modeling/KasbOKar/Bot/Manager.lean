import KasbOKar.Models

/-!
# The registered shop bots

`ShopBotManager` of `app/services/bot_manager.py` keeps the bots that are served at the moment, each
with the secret of its webhook.  The registry is in memory only: it is filled from the active shops
when the process starts, and `shop_bots.is_active` is a second copy of it.
-/

namespace KasbOKar

/-- An entry of `_bots` and `_secrets`: the bot that the token belongs to. -/
structure RegisteredBot where
  botId : ℤ
  secret : String
  deriving DecidableEq

/-- `_bots` and `_secrets`, by the key of the shop. -/
structure ShopBotManager where
  bots : ℕ → Option RegisteredBot

namespace ShopBotManager

/-- A manager without bots. -/
def empty : ShopBotManager := ⟨fun _ => none⟩

/-- `get_bot`, with `get_secret`. -/
def getBot (m : ShopBotManager) (shopBotId : ℕ) : Option RegisteredBot := m.bots shopBotId

/-- `register`: the entry is there before `set_webhook` is called, which may raise. -/
def register (m : ShopBotManager) (shopBot : ShopBot) : ShopBotManager :=
  ⟨Function.update m.bots shopBot.id
    (some { botId := shopBot.botTelegramId, secret := shopBot.webhookSecretToken })⟩

/-- `unregister`. -/
def unregister (m : ShopBotManager) (shopBotId : ℕ) : ShopBotManager :=
  ⟨Function.update m.bots shopBotId none⟩

/-- `load_all`. -/
def loadAll (m : ShopBotManager) (shopBots : List ShopBot) : ShopBotManager :=
  shopBots.foldl register m

theorem getBot_register_of_ne (m : ShopBotManager) {shopBot : ShopBot} {i : ℕ} (h : i ≠ shopBot.id) :
    (m.register shopBot).getBot i = m.getBot i := Function.update_of_ne h _ _

@[simp] theorem getBot_unregister_self (m : ShopBotManager) (i : ℕ) :
    (m.unregister i).getBot i = none := Function.update_self _ _ _

theorem getBot_unregister_of_none (m : ShopBotManager) {i : ℕ} (h : m.getBot i = none) (j : ℕ) :
    (m.unregister j).getBot i = none := by
  by_cases hij : i = j
  · rw [hij, getBot_unregister_self]
  · exact (Function.update_of_ne hij _ _).trans h

end ShopBotManager

end KasbOKar
