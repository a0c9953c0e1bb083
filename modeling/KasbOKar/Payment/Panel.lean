import KasbOKar.Payment.Approval
import KasbOKar.Lib.Runs

/-!
# The panel's payments

The handlers of `app/bots/main_bot/handlers/panel.py` that lead from a chosen amount over a discount
code to an open payment, with the conversation data they keep, and the reviews that close payments.

A code is checked when it is typed and used up when a payment is approved, so whether an open
payment can still be approved depends on the other payments of its owner.  `no_payment_stuck` says
for which runs every open payment can be approved in every state; after `code_used_up` one cannot.
-/

namespace KasbOKar

open ReadCommitted

/-- The states of the payment dialogue. -/
inductive PaymentStates where
  | waitingTopupAmount
  | waitingDiscountCode
  | waitingReceipt
  deriving DecidableEq

/-- The keys of the conversation data that the handlers read; `none` is a missing key or `None`. -/
structure PaymentData where
  durationMonths : Option ℤ := none
  purpose : Option PaymentPurpose := none
  baseAmount : Option ℤ := none
  discountCodeId : Option ℕ := none
  finalAmount : Option ℤ := none
  deriving DecidableEq

structure Conversation where
  state : Option PaymentStates := none
  data : PaymentData := {}
  deriving DecidableEq

/-- `data[key]`. -/
def required {α : Type} : Option α → Except PyError α
  | some a => .ok a
  | none => .error .KeyError

namespace PaymentDb

/-- `_current_owner`. -/
def currentOwner (db : PaymentDb) (telegramId : ℤ) : Option ShopOwner :=
  db.wallet.owners.rows.find? fun o => o.telegramId == telegramId

/-- `owner.id`, for an owner that may be `None`. -/
def ownerId (db : PaymentDb) (telegramId : ℤ) : Except PyError ℕ :=
  match db.currentOwner telegramId with
  | some owner => .ok owner.id
  | none => .error .AttributeError

/-- `_get_discount_or_none`. -/
def getDiscountOrNone (db : PaymentDb) (discountCodeId : Option ℕ) : Option DiscountCode :=
  discountCodeId.bind db.codes.find?

/-- The end of `cb_topup_amount` and of `topup_custom_amount_received`. -/
def topupChosen (amount : ℤ) : Conversation :=
  { state := some .waitingDiscountCode
    data := { purpose := some .WALLET_TOPUP, baseAmount := some amount, finalAmount := some amount } }

/-- `payment_discount_code`; `none` when the code is refused. -/
def paymentDiscountCode (db : PaymentDb) (now : Datetime) (chat : Conversation) (telegramId : ℤ)
    (code : String) : Except PyError (Option Conversation) := do
  let owner ← db.ownerId telegramId
  match ← db.validateCode now code owner with
  | none => return none
  | some discount => do
    let baseAmount ← required chat.data.baseAmount
    let finalAmount ← applyDiscount baseAmount discount
    return some { chat with
      data := { chat.data with discountCodeId := some discount.id, finalAmount := some finalAmount } }

/-- `PaymentPurpose(data.get("purpose", PaymentPurpose.WALLET_TOPUP.value))`. -/
def purposeOf (chat : Conversation) : PaymentPurpose := chat.data.purpose.getD .WALLET_TOPUP

/-- `cb_payment_method_card`. -/
def cbPaymentMethodCard (db : PaymentDb) (now : Datetime) (chat : Conversation) (telegramId : ℤ)
    (draws : Fin 30 → Fin 90) : Except PyError (PaymentDb × Conversation) := do
  let baseAmount ← required chat.data.baseAmount
  let owner ← db.ownerId telegramId
  let (db, _) ← db.createCardToCardPayment now draws owner baseAmount
    (db.getDiscountOrNone chat.data.discountCodeId) chat.data.durationMonths (purposeOf chat)
  return (db, { chat with state := some .waitingReceipt })

/-- `cb_payment_method_zarinpal`; `authority` is the answer of `request_payment`, `none` for
`ZarinpalError`. -/
def cbPaymentMethodZarinpal (db : PaymentDb) (chat : Conversation) (telegramId : ℤ)
    (authority : Option String) : Except PyError (PaymentDb × Conversation) :=
  if !db.settings.zarinpalEnabled || db.settings.zarinpalMerchantId.getD "" == "" then .ok (db, chat)
  else do
    let _ ← required chat.data.finalAmount
    match authority with
    | none => return (db, chat)
    | some authority => do
      let baseAmount ← required chat.data.baseAmount
      let owner ← db.ownerId telegramId
      let (db, _) ← db.createZarinpalPayment owner baseAmount
        (db.getDiscountOrNone chat.data.discountCodeId) authority chat.data.durationMonths
        (purposeOf chat)
      return (db, {})

/-- `cb_payment_method_bale`; `token` is the random part of the payload, `linked` says whether
`create_invoice_link` returns. -/
def cbPaymentMethodBale (baleBotToken : String) (db : PaymentDb) (chat : Conversation)
    (telegramId : ℤ) (token : String) (linked : Bool) : Except PyError (PaymentDb × Conversation) :=
  if !db.settings.balePayEnabled || db.settings.baleProviderToken.getD "" == "" ||
      baleBotToken == "" then .ok (db, chat)
  else do
    let owner ← db.ownerId telegramId
    let invoicePayload := "payment-" ++ toString owner ++ "-" ++ token
    let _ ← required chat.data.finalAmount
    if !linked then return (db, chat)
    else do
      let baseAmount ← required chat.data.baseAmount
      let (db, _) ← db.createBalePayment owner baseAmount
        (db.getDiscountOrNone chat.data.discountCodeId) invoicePayload chat.data.durationMonths
        (purposeOf chat)
      return (db, {})

end PaymentDb

/-! ## The panel as a state machine -/

/-- The tables, and the conversations by Telegram user. -/
structure Panel where
  db : PaymentDb
  chats : ℤ → Conversation

/-- What a user does.  `delivered` says whether the handler's own messages are delivered: if not,
the session is rolled back while the conversation data stay. -/
inductive PanelEvent where
  /-- a preset amount, or the button for another amount -/
  | topupAmount (amount : Option ℤ)
  /-- the text typed as an amount, `none` if it is not a number -/
  | customAmount (amount : Option ℤ)
  | discountCode (code : String)
  | payCard (draws : Fin 30 → Fin 90) (delivered : Bool)
  | payZarinpal (authority : Option String) (delivered : Bool)
  | payBale (token : String) (linked delivered : Bool)
  /-- the conversation is cleared by another button -/
  | clear

inductive PanelAct where
  | user (telegramId : ℤ) (e : PanelEvent)
  | approve (paymentId : ℕ) (approval : Approval)
  | reject (paymentId : ℕ) (adminTelegramId : Option ℤ) (reason : Option String)

namespace Panel

def setChat (s : Panel) (telegramId : ℤ) (chat : Conversation) : Panel :=
  { s with chats := Function.update s.chats telegramId chat }

/-- The end of a payment handler under `DbSessionMiddleware`. -/
def finish (s : Panel) (telegramId : ℤ) (delivered : Bool) :
    Except PyError (PaymentDb × Conversation) → Panel
  | .error _ => s
  | .ok (db, chat) => ({ s with db := if delivered then db else s.db } : Panel).setChat telegramId chat

/-- The payment handlers; what the others return in this shape is never used. -/
def pay (baleBotToken : String) (s : Panel) (now : Datetime) (telegramId : ℤ) :
    PanelEvent → Except PyError (PaymentDb × Conversation)
  | .payCard draws _ => s.db.cbPaymentMethodCard now (s.chats telegramId) telegramId draws
  | .payZarinpal authority _ =>
    s.db.cbPaymentMethodZarinpal (s.chats telegramId) telegramId authority
  | .payBale token linked _ =>
    s.db.cbPaymentMethodBale baleBotToken (s.chats telegramId) telegramId token linked
  | _ => .ok (s.db, s.chats telegramId)

/-- One event of one user. -/
def handle (baleBotToken : String) (s : Panel) (now : Datetime) (telegramId : ℤ) (e : PanelEvent) :
    Panel :=
  let chat := s.chats telegramId
  match e with
  | .topupAmount none => s.setChat telegramId { chat with state := some .waitingTopupAmount }
  | .topupAmount (some amount) => s.setChat telegramId (PaymentDb.topupChosen amount)
  | .customAmount amount =>
    match chat.state, amount with
    | some .waitingTopupAmount, some amount =>
      if amount < 10000 then s else s.setChat telegramId (PaymentDb.topupChosen amount)
    | _, _ => s
  | .discountCode code =>
    if chat.state = some .waitingDiscountCode then
      match s.db.paymentDiscountCode now chat telegramId code with
      | .ok (some chat') => s.setChat telegramId chat'
      | _ => s
    else s
  | .payCard _ delivered => s.finish telegramId delivered (s.pay baleBotToken now telegramId e)
  | .payZarinpal _ delivered => s.finish telegramId delivered (s.pay baleBotToken now telegramId e)
  | .payBale _ _ delivered => s.finish telegramId delivered (s.pay baleBotToken now telegramId e)
  | .clear => s.setChat telegramId {}

/-- A pending payment. -/
def pending (s : Panel) (paymentId : ℕ) : Option Payment :=
  (s.db.getById paymentId).filter fun p => p.status == .PENDING

/-- One step: an event of a user, or the review of a pending payment.  An approval that raises is
rolled back. -/
def step (W : World) (baleBotToken : String) (s : Panel) (a : Datetime × PanelAct) : Option Panel :=
  match a.2 with
  | .user telegramId e => some (s.handle baleBotToken a.1 telegramId e)
  | .approve paymentId approval =>
    match s.pending paymentId with
    | none => some s
    | some payment =>
      match s.db.approve W a.1 payment approval with
      | .error _ => some s
      | .ok (db, _, _) => some { s with db := db }
  | .reject paymentId adminTelegramId reason =>
    match s.pending paymentId with
    | none => some s
    | some payment =>
      some { s with db := s.db.rejectPayment a.1 payment adminTelegramId reason }

/-! ## Runs that leave every open payment approvable -/

/-- The payments a step has opened. -/
def opened (s s' : Panel) : List Payment :=
  s'.db.payments.rows.filter fun p => decide (p.id ∉ s.db.payments.ids)

/-- The amount is positive, and the owner has not used the code yet. -/
def payable (db : PaymentDb) (p : Payment) : Bool :=
  decide (0 < p.finalAmount) && p.discountCodeId.all fun k => (db.usagesOf k p.shopOwnerId).isEmpty

/-- `q` is another pending payment of the owner of `p` with the code of `p`. -/
def rivals (p q : Payment) : Bool :=
  q.status == .PENDING && q.id != p.id && q.shopOwnerId == p.shopOwnerId &&
    p.discountCodeId.isSome && q.discountCodeId == p.discountCodeId

/-- The step opens only payable payments, and approves none that has a rival. -/
def careful (baleBotToken : String) (s : Panel) (a : Datetime × PanelAct) : Bool :=
  match a.2 with
  | .user telegramId e => (s.opened (s.handle baleBotToken a.1 telegramId e)).all (payable s.db)
  | .approve paymentId _ =>
    match s.pending paymentId with
    | some payment => !(s.db.payments.rows.any (rivals payment))
    | none => true
  | .reject _ _ _ => true

end Panel

namespace PaymentDb

/-- What is true of a payment that has just been opened. -/
structure NewPayment (db : PaymentDb) (p : Payment) : Prop where
  id : p.id = db.payments.nextId
  status : p.status = .PENDING
  owner : p.shopOwnerId ∈ db.wallet.owners.ids
  amount : Int4 p.finalAmount
  code : ∀ k, p.discountCodeId = some k → k ∈ db.codes.ids

theorem insertPayment_ok {db db' : PaymentDb} {p q : Payment}
    (h : db.insertPayment p = .ok (db', q)) :
    Int4 p.finalAmount ∧ p.shopOwnerId ∈ db.wallet.owners.ids ∧ db' = db.apply (.insertPayment p) := by
  unfold insertPayment at h
  split_ifs at h with hint howner
  cases h
  exact ⟨not_not.1 fun hno => hint (Or.inr (Or.inl hno)), howner, rfl⟩

theorem mem_codes_of_getDiscountOrNone {db : PaymentDb} {codeId : Option ℕ} {k : ℕ}
    (h : (db.getDiscountOrNone codeId).map DiscountCode.id = some k) : k ∈ db.codes.ids := by
  obtain ⟨discount, hd, rfl⟩ := Option.map_eq_some_iff.1 h
  obtain ⟨i, -, hi⟩ := Option.bind_eq_some_iff.1 hd
  exact Table.id_mem_ids (Table.mem_of_find? hi)

/-- A handler of the panel leaves the tables alone or opens one payment. -/
def Opens (db db' : PaymentDb) : Prop :=
  db' = db ∨ ∃ p, db.NewPayment p ∧ db' = db.apply (.insertPayment p)

theorem newPayment_of_insert {db db' : PaymentDb} {p q : Payment} {codeId : Option ℕ}
    (h : db.insertPayment p = .ok (db', q)) (hid : p.id = db.payments.nextId)
    (hstatus : p.status = .PENDING)
    (hcode : p.discountCodeId = (db.getDiscountOrNone codeId).map DiscountCode.id) :
    db.NewPayment p ∧ db' = db.apply (.insertPayment p) := by
  obtain ⟨hint, howner, rfl⟩ := insertPayment_ok h
  exact ⟨⟨hid, hstatus, howner, hint, fun k hk => mem_codes_of_getDiscountOrNone (hcode ▸ hk)⟩, rfl⟩

theorem opens_of_insert {db db' : PaymentDb} {p q : Payment} {codeId : Option ℕ}
    (h : db.insertPayment p = .ok (db', q)) (hid : p.id = db.payments.nextId)
    (hstatus : p.status = .PENDING)
    (hcode : p.discountCodeId = (db.getDiscountOrNone codeId).map DiscountCode.id) :
    Opens db db' := Or.inr ⟨p, newPayment_of_insert h hid hstatus hcode⟩

theorem required_ok {α : Type} {x : Option α} {a : α} (h : required x = .ok a) : x.isSome = true := by
  cases x with
  | none => cases h
  | some b => rfl

theorem ownerId_ok {db : PaymentDb} {telegramId : ℤ} {i : ℕ} (h : db.ownerId telegramId = .ok i) :
    (db.currentOwner telegramId).isSome = true := by
  unfold ownerId at h
  split at h
  · rename_i howner
    rw [howner]
    rfl
  · cases h

/-- A payment that is opened with what the conversation of an owner has collected. -/
structure OpenedFrom (db : PaymentDb) (chat : Conversation) (telegramId : ℤ) (p : Payment) : Prop
    extends NewPayment db p where
  purpose : p.purpose = purposeOf chat
  base : chat.data.baseAmount.isSome = true
  user : (db.currentOwner telegramId).isSome = true

theorem cbPaymentMethodCard_opens {db db' : PaymentDb} {now : Datetime} {chat chat' : Conversation}
    {telegramId : ℤ} {draws : Fin 30 → Fin 90}
    (h : db.cbPaymentMethodCard now chat telegramId draws = .ok (db', chat')) :
    ∃ p, OpenedFrom db chat telegramId p ∧ db' = db.apply (.insertPayment p) := by
  obtain ⟨base, hbase, h⟩ := bind_ok h
  obtain ⟨owner, howner, h⟩ := bind_ok h
  obtain ⟨⟨db₁, p⟩, h₁, h⟩ := bind_ok h
  cases h
  obtain ⟨discounted, -, h₁⟩ := bind_ok h₁
  obtain ⟨final, -, h₁⟩ := bind_ok h₁
  obtain ⟨reserved, -, h₁⟩ := bind_ok h₁
  obtain ⟨hnew, hdb⟩ := newPayment_of_insert h₁ rfl rfl rfl
  exact ⟨_, ⟨hnew, rfl, required_ok hbase, ownerId_ok howner⟩, hdb⟩

theorem cbPaymentMethodZarinpal_opens {db db' : PaymentDb} {chat chat' : Conversation}
    {telegramId : ℤ} {authority : Option String}
    (h : db.cbPaymentMethodZarinpal chat telegramId authority = .ok (db', chat')) :
    db' = db ∨ (db.settings.zarinpalEnabled = true ∧ db.settings.zarinpalMerchantId.getD "" ≠ "" ∧
      chat.data.finalAmount.isSome = true ∧ authority.isSome = true ∧
      ∃ p, OpenedFrom db chat telegramId p ∧ db' = db.apply (.insertPayment p)) := by
  unfold cbPaymentMethodZarinpal at h
  split_ifs at h with hoff
  · cases h
    exact Or.inl rfl
  · obtain ⟨final, hfinal, h⟩ := bind_ok h
    cases authority with
    | none =>
      cases h
      exact Or.inl rfl
    | some authority =>
      obtain ⟨base, hbase, h⟩ := bind_ok h
      obtain ⟨owner, howner, h⟩ := bind_ok h
      obtain ⟨⟨db₁, p⟩, h₁, h⟩ := bind_ok h
      cases h
      obtain ⟨discounted, -, h₁⟩ := bind_ok h₁
      obtain ⟨hnew, hdb⟩ := newPayment_of_insert h₁ rfl rfl rfl
      obtain ⟨henabled, hmerchant⟩ : db.settings.zarinpalEnabled = true ∧
          db.settings.zarinpalMerchantId.getD "" ≠ "" := by simpa using hoff
      exact Or.inr ⟨henabled, hmerchant, required_ok hfinal, rfl, _,
        ⟨hnew, rfl, required_ok hbase, ownerId_ok howner⟩, hdb⟩

theorem cbPaymentMethodBale_opens {baleBotToken : String} {db db' : PaymentDb}
    {chat chat' : Conversation} {telegramId : ℤ} {token : String} {linked : Bool}
    (h : db.cbPaymentMethodBale baleBotToken chat telegramId token linked = .ok (db', chat')) :
    db' = db ∨ (db.settings.balePayEnabled = true ∧ db.settings.baleProviderToken.getD "" ≠ "" ∧
      baleBotToken ≠ "" ∧ chat.data.finalAmount.isSome = true ∧ linked = true ∧
      ∃ p, OpenedFrom db chat telegramId p ∧ db' = db.apply (.insertPayment p)) := by
  unfold cbPaymentMethodBale at h
  split_ifs at h with hoff hlinked
  · cases h
    exact Or.inl rfl
  · obtain ⟨owner, -, h⟩ := bind_ok h
    obtain ⟨final, -, h⟩ := bind_ok h
    cases h
    exact Or.inl rfl
  · obtain ⟨owner, howner, h⟩ := bind_ok h
    obtain ⟨final, hfinal, h⟩ := bind_ok h
    obtain ⟨base, hbase, h⟩ := bind_ok h
    obtain ⟨⟨db₁, p⟩, h₁, h⟩ := bind_ok h
    cases h
    obtain ⟨discounted, -, h₁⟩ := bind_ok h₁
    obtain ⟨hnew, hdb⟩ := newPayment_of_insert h₁ rfl rfl rfl
    obtain ⟨⟨henabled, hprovider⟩, htoken⟩ : (db.settings.balePayEnabled = true ∧
        db.settings.baleProviderToken.getD "" ≠ "") ∧ baleBotToken ≠ "" := by simpa using hoff
    exact Or.inr ⟨henabled, hprovider, htoken, required_ok hfinal, by simpa using hlinked, _,
      ⟨hnew, rfl, required_ok hbase, ownerId_ok howner⟩, hdb⟩

end PaymentDb

namespace Panel

/-- A handler whose session is committed. -/
theorem finish_cases (s : Panel) (telegramId : ℤ) (delivered : Bool)
    (x : Except PyError (PaymentDb × Conversation)) :
    (s.finish telegramId delivered x).db = s.db ∨
      (delivered = true ∧ ∃ chat, x = .ok ((s.finish telegramId delivered x).db, chat)) := by
  cases x with
  | error e => exact Or.inl rfl
  | ok r =>
    cases delivered with
    | false => exact Or.inl rfl
    | true => exact Or.inr ⟨rfl, r.2, rfl⟩

/-- Only the three payment methods write to the tables. -/
theorem handle_cases (baleBotToken : String) (s : Panel) (now : Datetime) (telegramId : ℤ)
    (e : PanelEvent) :
    (s.handle baleBotToken now telegramId e).db = s.db ∨
    ∃ chat db, (s.handle baleBotToken now telegramId e).db = db ∧
      ((∃ draws, e = .payCard draws true ∧
          s.db.cbPaymentMethodCard now (s.chats telegramId) telegramId draws = .ok (db, chat)) ∨
        (∃ authority, e = .payZarinpal authority true ∧
          s.db.cbPaymentMethodZarinpal (s.chats telegramId) telegramId authority = .ok (db, chat)) ∨
        ∃ token linked, e = .payBale token linked true ∧
          s.db.cbPaymentMethodBale baleBotToken (s.chats telegramId) telegramId token linked =
            .ok (db, chat)) := by
  cases e with
  | topupAmount amount => cases amount <;> exact Or.inl rfl
  | customAmount amount =>
    left
    simp only [handle]
    split
    · split_ifs <;> rfl
    · rfl
  | discountCode code =>
    left
    simp only [handle]
    split_ifs
    · split <;> rfl
    · rfl
  | payCard draws delivered =>
    obtain hsame | ⟨rfl, chat, hok⟩ := finish_cases s telegramId delivered
      (s.db.cbPaymentMethodCard now (s.chats telegramId) telegramId draws)
    · exact Or.inl hsame
    · exact Or.inr ⟨chat, _, rfl, Or.inl ⟨draws, rfl, hok⟩⟩
  | payZarinpal authority delivered =>
    obtain hsame | ⟨rfl, chat, hok⟩ := finish_cases s telegramId delivered
      (s.db.cbPaymentMethodZarinpal (s.chats telegramId) telegramId authority)
    · exact Or.inl hsame
    · exact Or.inr ⟨chat, _, rfl, Or.inr (Or.inl ⟨authority, rfl, hok⟩)⟩
  | payBale token linked delivered =>
    obtain hsame | ⟨rfl, chat, hok⟩ := finish_cases s telegramId delivered
      (s.db.cbPaymentMethodBale baleBotToken (s.chats telegramId) telegramId token linked)
    · exact Or.inl hsame
    · exact Or.inr ⟨chat, _, rfl, Or.inr (Or.inr ⟨token, linked, rfl, hok⟩)⟩
  | clear => exact Or.inl rfl

/-- **What one event of a user can do** to the tables. -/
theorem handle_opens (baleBotToken : String) (s : Panel) (now : Datetime) (telegramId : ℤ)
    (e : PanelEvent) : s.db.Opens (s.handle baleBotToken now telegramId e).db := by
  obtain hsame | ⟨chat, db, hdb, ⟨draws, -, h⟩ | ⟨authority, -, h⟩ | ⟨token, linked, -, h⟩⟩ :=
    handle_cases baleBotToken s now telegramId e
  · exact Or.inl hsame
  · obtain ⟨p, hp, hopen⟩ := PaymentDb.cbPaymentMethodCard_opens h
    exact Or.inr ⟨p, hp.toNewPayment, hdb.trans hopen⟩
  · obtain hsame | ⟨-, -, -, -, p, hp, hopen⟩ := PaymentDb.cbPaymentMethodZarinpal_opens h
    · exact Or.inl (hdb.trans hsame)
    · exact Or.inr ⟨p, hp.toNewPayment, hdb.trans hopen⟩
  · obtain hsame | ⟨-, -, -, -, -, p, hp, hopen⟩ := PaymentDb.cbPaymentMethodBale_opens h
    · exact Or.inl (hdb.trans hsame)
    · exact Or.inr ⟨p, hp.toNewPayment, hdb.trans hopen⟩

end Panel

namespace PaymentDb

/-! ## The invariant of the open payments -/

/-- Every open payment can be credited and its code is unused by its owner; charges belong to
reviewed payments only. -/
structure OpenInv (db : PaymentDb) : Prop where
  owner : ∀ p ∈ db.payments.rows, p.shopOwnerId ∈ db.wallet.owners.ids
  amount : ∀ p ∈ db.payments.rows, p.status = .PENDING → 0 < p.finalAmount ∧ Int4 p.finalAmount
  code : ∀ p ∈ db.payments.rows, p.status = .PENDING → ∀ k, p.discountCodeId = some k →
    k ∈ db.codes.ids ∧ db.usagesOf k p.shopOwnerId = []
  charge : ∀ c ∈ db.wallet.charges.rows, ∀ i, c.paymentId = some i →
    ∃ p ∈ db.payments.rows, p.id = i ∧ p.status ≠ .PENDING
  referrer : ∀ r ∈ db.referrals.rows, r.referrerId ∈ db.wallet.owners.ids

/-- Opening a payable payment. -/
theorem OpenInv.open {db : PaymentDb} (h : OpenInv db) {p : Payment} (hnew : db.NewPayment p)
    (hpay : Panel.payable db p = true) : OpenInv (db.apply (.insertPayment p)) := by
  have hfresh : Keyed.id p ∉ db.payments.ids := by
    show p.id ∉ db.payments.ids
    rw [hnew.id]
    exact Table.nextId_notMem _
  have hrows : ∀ q ∈ (db.payments.insert p).rows, q ∈ db.payments.rows ∨ q = p :=
    fun q hq => (Table.mem_insert hfresh).1 hq
  unfold Panel.payable at hpay
  rw [Bool.and_eq_true, decide_eq_true_eq] at hpay
  obtain ⟨hpos, hunused⟩ := hpay
  refine ⟨fun q hq => ?_, fun q hq hs => ?_, fun q hq hs k hk => ?_, fun c hc i hi => ?_, h.referrer⟩
  · rcases hrows q hq with hq | rfl
    · exact h.owner q hq
    · exact hnew.owner
  · rcases hrows q hq with hq | rfl
    · exact h.amount q hq hs
    · exact ⟨hpos, hnew.amount⟩
  · rcases hrows q hq with hq | rfl
    · exact h.code q hq hs k hk
    · rw [hk, Option.all_some] at hunused
      exact ⟨hnew.code k hk, List.isEmpty_iff.1 hunused⟩
  · obtain ⟨q, hq, hid, hs⟩ := h.charge c hc i hi
    exact ⟨q, (Table.mem_insert hfresh).2 (Or.inl hq), hid, hs⟩

/-- Reviewing a payment without using up the code of another open one. -/
theorem OpenInv.review {db db' : PaymentDb} (h : OpenInv db) {payment : Payment} {now : Datetime}
    {r : Review} (hget : db.getById payment.id = some payment)
    (hpayments : db'.payments = (db.apply (.review payment.id now r)).payments)
    (howners : db'.wallet.owners.ids = db.wallet.owners.ids)
    (hframe : SettlementFrame payment db db')
    (hused : ∀ q ∈ db.payments.rows, q.status = .PENDING → q.id ≠ payment.id → ∀ k,
      q.discountCodeId = some k → db.usagesOf k q.shopOwnerId = [] →
        db'.usagesOf k q.shopOwnerId = []) : OpenInv db' := by
  have hrows : ∀ q ∈ db'.payments.rows, (q ∈ db.payments.rows ∧ q.id ≠ payment.id) ∨
      q = r.write now payment := by
    intro q hq
    rw [hpayments] at hq
    exact mem_payments_reviewed (Table.mem_of_find? hget) hq
  have hreviewed : (r.write now payment).status ≠ .PENDING := by
    rw [Review.write_status]
    cases r <;> simp [Review.status]
  have hkeep : ∀ q ∈ db.payments.rows, q.id ≠ payment.id → q ∈ db'.payments.rows := by
    intro q hq hne
    rw [hpayments]
    exact Table.mem_modify_of_ne (f := fun p => r.write now p) (fun p => r.write_id now p) hq hne
  have hself : r.write now payment ∈ db'.payments.rows := by
    rw [hpayments]
    exact Table.mem_modify_self (f := fun p => r.write now p) (fun p => r.write_id now p)
      (Table.mem_of_find? hget) rfl
  refine ⟨fun q hq => ?_, fun q hq hs => ?_, fun q hq hs k hk => ?_, fun c hc i hi => ?_,
    fun r' hr' => ?_⟩
  · rw [howners]
    rcases hrows q hq with ⟨hq, -⟩ | rfl
    · exact h.owner q hq
    · rw [Review.write_shopOwnerId]
      exact h.owner payment (Table.mem_of_find? hget)
  · rcases hrows q hq with ⟨hq, -⟩ | rfl
    · exact h.amount q hq hs
    · exact absurd hs hreviewed
  · rcases hrows q hq with ⟨hq, hne⟩ | rfl
    · obtain ⟨hcode, hunused⟩ := h.code q hq hs k hk
      exact ⟨by rw [hframe.codes]; exact hcode, hused q hq hs hne k hk hunused⟩
    · exact absurd hs hreviewed
  · rcases hframe.charges c hc with hc | hc | hc
    · obtain ⟨q, hq, hid, hs⟩ := h.charge c hc i hi
      by_cases hne : q.id = payment.id
      · exact ⟨_, hself, by rw [Review.write_id, ← hne, hid], hreviewed⟩
      · exact ⟨q, hkeep q hq hne, hid, hs⟩
    · rw [hi] at hc
      refine ⟨_, hself, ?_, hreviewed⟩
      rw [Review.write_id]
      exact (Option.some.inj hc).symm
    · rw [hi] at hc
      cases hc
  · obtain ⟨r₀, hr₀, he⟩ := hframe.referrers r' hr'
    rw [howners, ← he]
    exact h.referrer r₀ hr₀

end PaymentDb

namespace Panel

theorem pending_eq_some {s : Panel} {paymentId : ℕ} {payment : Payment}
    (h : s.pending paymentId = some payment) :
    s.db.getById payment.id = some payment ∧ payment.id = paymentId ∧ payment.status = .PENDING := by
  obtain ⟨hget, hstatus⟩ := Option.filter_eq_some_iff.1 h
  have hid : payment.id = paymentId := Table.id_of_find? hget
  exact ⟨by rw [hid]; exact hget, hid, by simpa using hstatus⟩

/-- An approval is done, or leaves everything as it is. -/
theorem approve_cases {W : World} {baleBotToken : String} {s s' : Panel} {now : Datetime} {paymentId : ℕ}
    {approval : Approval} (h : s.step W baleBotToken (now, .approve paymentId approval) = some s') :
    s' = s ∨ ∃ payment db effect reward, s.pending paymentId = some payment ∧
      s.db.approve W now payment approval = .ok (db, effect, reward) ∧ s' = { s with db := db } := by
  simp only [step] at h
  split at h
  · exact Or.inl (Option.some.inj h).symm
  · rename_i payment hpend
    split at h
    · exact Or.inl (Option.some.inj h).symm
    · rename_i hok
      exact Or.inr ⟨payment, _, _, _, hpend, hok, (Option.some.inj h).symm⟩

theorem reject_cases {W : World} {baleBotToken : String} {s s' : Panel} {now : Datetime} {paymentId : ℕ}
    {adminTelegramId : Option ℤ} {reason : Option String}
    (h : s.step W baleBotToken (now, .reject paymentId adminTelegramId reason) = some s') :
    s' = s ∨ ∃ payment, s.pending paymentId = some payment ∧
      s' = { s with db := s.db.rejectPayment now payment adminTelegramId reason } := by
  simp only [step] at h
  split at h
  · exact Or.inl (Option.some.inj h).symm
  · rename_i payment hpend
    exact Or.inr ⟨payment, hpend, (Option.some.inj h).symm⟩

/-- A careful step keeps every open payment approvable. -/
theorem openInv_step {W : World} {baleBotToken : String} {s s' : Panel} {a : Datetime × PanelAct}
    (h : s.db.OpenInv) (hcare : s.careful baleBotToken a = true)
    (hstep : s.step W baleBotToken a = some s') : s'.db.OpenInv := by
  obtain ⟨now, act⟩ := a
  cases act with
  | user telegramId e =>
    obtain rfl := Option.some.inj hstep
    rcases handle_opens baleBotToken s now telegramId e with hsame | ⟨p, hnew, hopen⟩
    · rw [hsame]
      exact h
    · have hfresh : p.id ∉ s.db.payments.ids := by
        rw [hnew.id]
        exact Table.nextId_notMem _
      have hmem : p ∈ s.opened (s.handle baleBotToken now telegramId e) := by
        refine List.mem_filter.2 ⟨?_, decide_eq_true hfresh⟩
        rw [hopen]
        exact (Table.mem_insert hfresh).2 (Or.inr rfl)
      rw [hopen]
      exact h.open hnew (List.all_eq_true.1 hcare p hmem)
  | approve paymentId approval =>
    obtain rfl | ⟨payment, db', effect, reward, hpend, hok, rfl⟩ := approve_cases hstep
    · exact h
    · obtain ⟨hget, -, -⟩ := pending_eq_some hpend
      refine h.review hget (PaymentDb.approve_payments hok) (PaymentDb.approve_owners hok)
        (PaymentDb.approve_frame hok) fun q hq hs hne k hk hunused => ?_
      refine (PaymentDb.approve_frame hok).usages k _ hunused fun hsame => ?_
      simp only [careful, hpend, Bool.not_eq_true', List.any_eq_false] at hcare
      refine hcare q hq ?_
      simp [rivals, hs, hne, hk, hsame.1, hsame.2]
  | reject paymentId adminTelegramId reason =>
    obtain rfl | ⟨payment, hpend, rfl⟩ := reject_cases hstep
    · exact h
    · obtain ⟨hget, -, -⟩ := pending_eq_some hpend
      exact h.review hget (r := .reject adminTelegramId reason) rfl rfl
        (.of_eq payment rfl rfl rfl rfl) fun _ _ _ _ _ _ hunused => hunused

/-- No payment yet: no usage and no charge can refer to one. -/
structure Fresh (db : PaymentDb) : Prop where
  payments : db.payments.rows = []
  usages : db.usages.rows = []
  charges : ∀ c ∈ db.wallet.charges.rows, c.paymentId = none
  referrer : ∀ r ∈ db.referrals.rows, r.referrerId ∈ db.wallet.owners.ids

theorem Fresh.openInv {db : PaymentDb} (h : Fresh db) : db.OpenInv := by
  refine ⟨fun p hp => ?_, fun p hp => ?_, fun p hp => ?_, fun c hc i hi => ?_, h.referrer⟩
  · rw [h.payments] at hp
    cases hp
  · rw [h.payments] at hp
    cases hp
  · rw [h.payments] at hp
    cases hp
  · rw [h.charges c hc] at hi
    cases hi

/-- **No payment gets stuck.** In every state reached by careful steps, the approval of every pending
top-up for which there is room returns; the payment is then approved, and exactly one charge carries
it, of its final amount. -/
theorem no_payment_stuck (W : World) (baleBotToken : String) (s s' : Panel)
    (acts : List (Datetime × PanelAct)) (hfresh : Fresh s.db)
    (hcare : Runs.Along (step W baleBotToken) (fun s a => s.careful baleBotToken a = true) s acts)
    (hrun : Runs.exec (step W baleBotToken) s acts = some s') :
    ∀ p ∈ s'.db.payments.rows, p.status = .PENDING → p.purpose = .WALLET_TOPUP →
      ∀ now approval, s'.db.Room now p approval →
        ∃ db' c reward, s'.db.approve W now p approval = .ok (db', .charge c, reward) ∧
          (db'.getById p.id).map Payment.status = some .APPROVED ∧
          (db'.wallet.charges.rows.filter fun c => c.paymentId == some p.id) = [c] ∧
          c.amountToman = p.finalAmount := by
  intro p hp hpending htopup now approval hroom
  have hinv : s'.db.OpenInv := Runs.exec_inv (I := fun s => s.db.OpenInv)
    (fun _ _ _ hI hC hs => openInv_step hI hC hs) acts s s' hfresh.openInv hcare hrun
  obtain ⟨hpos, hint⟩ := hinv.amount p hp hpending
  obtain ⟨db', effect, reward, hok⟩ := PaymentDb.approve_isOk (W := W) htopup hpos hint
    (hinv.owner p hp) (hinv.code p hp hpending) hinv.referrer hroom
  obtain ⟨c, extra, rfl, hrows, hpay, hamount, hextra⟩ := PaymentDb.approve_topup_charges htopup hok
  refine ⟨db', c, reward, hok, ?_, ?_, hamount⟩
  · have hfind : s'.db.payments.find? p.id = some p := Table.find?_of_mem hp
    unfold PaymentDb.getById
    rw [PaymentDb.approve_payments hok]
    rw [show (s'.db.apply (.review p.id now (.approve approval))).payments.find? p.id =
      some (Review.write now p (.approve approval)) from
        Table.find?_modify_self (f := fun q => Review.write now q (.approve approval))
          (fun q => Review.write_id now q _) hfind, Option.map_some, Review.write_status]
    rfl
  · -- no charge carried the payment before, and the reward's charge carries none
    have hold : (s'.db.wallet.charges.rows.filter fun c => c.paymentId == some p.id) = [] := by
      refine List.filter_eq_nil_iff.2 fun c' hc' he => ?_
      obtain ⟨q, hq, hid, hs⟩ := hinv.charge c' hc' p.id (by simpa using he)
      rw [Table.eq_of_id_eq hq hp hid] at hs
      exact hs hpending
    have hnew : (extra.filter fun c => c.paymentId == some p.id) = [] := by
      refine List.filter_eq_nil_iff.2 fun e he heq => ?_
      rw [hextra e he] at heq
      simp at heq
    rw [hrows, List.filter_append, hold, List.filter_cons_of_pos (by simp [hpay]), hnew]
    rfl

/-- A shop with a code of ten percent and no payments. -/
def codeShop : Panel where
  db :=
    { wallet := WalletDb.ofOwners WalletDb.twoOwners, payments := .empty,
      codes := ⟨[{ id := 5, code := "NOWRUZ", type := .PERCENT, valueCents := 1000 }], by decide⟩,
      usages := .empty, referrals := .empty, subscriptions := .empty, settings := {} }
  chats := fun _ => {}

theorem fresh_codeShop : Fresh codeShop.db :=
  ⟨rfl, rfl, fun _ hc => absurd hc List.not_mem_nil, fun _ hr => absurd hr List.not_mem_nil⟩

/-- The draws of the first two payments. -/
def draw₁ : Fin 90 := 0
def draw₂ : Fin 90 := 1

/-- The user chooses an amount, types the code and pays by card. -/
def openWithCode (amount : ℤ) (draw : Fin 90) : List (Datetime × PanelAct) :=
  [(0, .user 11 (.topupAmount (some amount))), (0, .user 11 (.discountCode "NOWRUZ")),
    (0, .user 11 (.payCard (fun _ => draw) true))]

/-- The payment that this opens. -/
def codePayment : Payment :=
  { id := 1, shopOwnerId := 1, purpose := .WALLET_TOPUP, baseAmount := 100000, finalAmount := 90010,
    method := .CARD_TO_CARD, discountCodeId := some 5, reservedUntil := some (minutes 60) }

theorem openWithCode_isSome : (Runs.exec (step .noMonths "") codeShop
    (openWithCode 100000 0)).isSome = true := by
  decide +kernel

theorem no_payment_stuck_one_code :
    ∃ s', Runs.exec (step .noMonths "") codeShop (openWithCode 100000 0) = some s' ∧
      codePayment ∈ s'.db.payments.rows ∧
      ∃ db' c reward, s'.db.approve .noMonths 1 codePayment (.admin 7) =
          .ok (db', .charge c, reward) ∧
        (db'.getById 1).map Payment.status = some .APPROVED ∧
        (db'.wallet.charges.rows.filter fun c => c.paymentId == some 1) = [c] ∧
        c.amountToman = 90010 := by
  set s' := (Runs.exec (step .noMonths "") codeShop (openWithCode 100000 0)).get openWithCode_isSome
  have hmem : codePayment ∈ s'.db.payments.rows := by decide +kernel
  have hcode : (s'.db.codes.find? 5).map DiscountCode.usedCount = some 0 := by decide +kernel
  have hroom : s'.db.Room 1 codePayment (.admin 7) := by
    refine ⟨rfl, ?_, by decide +kernel, fun k code hk hfind => ?_, fun r hdue => ?_⟩
    · show InDatetimeRange _
      decide +kernel
    · obtain rfl := Option.some.inj hk
      rw [hfind] at hcode
      rw [Option.some.inj hcode]
      decide
    · exact absurd hdue (by decide +kernel)
  exact ⟨s', (Option.some_get openWithCode_isSome).symm, hmem,
    no_payment_stuck .noMonths "" codeShop s' (openWithCode 100000 0) fresh_codeShop
      (by decide +kernel) (Option.some_get openWithCode_isSome).symm codePayment hmem rfl rfl 1 _ hroom⟩

/-- Two payments are opened with the same code, and the first is approved. -/
def codeTwice : List (Datetime × PanelAct) :=
  openWithCode 100000 draw₁ ++ openWithCode 200000 draw₂ ++ [(1, .approve 1 (.admin 7))]

theorem codeTwice_isSome : (Runs.exec (step .noMonths "") codeShop codeTwice).isSome = true := by
  decide +kernel

/-- The second payment violates the unique index on the usages when it is approved. -/
theorem code_used_up :
    ∃ s', Runs.exec (step .noMonths "") codeShop codeTwice = some s' ∧ Fresh codeShop.db ∧
      (s'.pending 2).map Payment.purpose = some .WALLET_TOPUP ∧
      ((s'.pending 2).map fun p => raised (s'.db.approve .noMonths 1 p (.admin 7))) =
        some (some .IntegrityError) :=
  ⟨_, (Option.some_get codeTwice_isSome).symm, fresh_codeShop, by decide +kernel, by decide +kernel⟩

end Panel

end KasbOKar
