import KasbOKar.Payment.Discount
import KasbOKar.Payment.CodeAdmin

/-!
# What a gateway is asked for

`cb_payment_method_zarinpal` and `cb_payment_method_bale` ask for the `final_amount` of the conversation,
computed when the code was typed.  The payment they create has an amount computed again, from
`base_amount` and the code that is loaded then.  `asked_is_stored` says that the two agree in every run.

* `Quoted`: the final amount of a conversation is its base amount with its code.  Every handler of the
  dialogue keeps this (`quoted_handle`), also one whose session is rolled back.
* `CodesKept`: reviews, new codes and switched codes change no price (`Priced.kept`).
* `CreatedFrom`: what a payment method makes of the conversation (`payCreation_ok`).
-/

namespace KasbOKar

/-- What is asked for before a payment is created. -/
inductive Asked where
  /-- a card payment asks nobody -/
  | nobody
  /-- `amount_toman` of `zarinpal_service.request_payment` -/
  | zarinpal (amountToman : ℤ)
  /-- `amount_rial` of `bale_service.create_invoice_link` -/
  | bale (amountRial : ℤ)
  deriving DecidableEq

def Asked.method : Asked → PaymentMethod
  | nobody => .CARD_TO_CARD
  | zarinpal _ => .ZARINPAL
  | bale _ => .BALE_PAY

/-- A payment as a handler has created it. -/
structure Creation where
  asked : Asked
  payment : Payment
  deriving DecidableEq

namespace PaymentDb

/-- `cb_payment_method_card`, with the payment it creates. -/
def cardCreation (db : PaymentDb) (now : Datetime) (chat : Conversation) (telegramId : ℤ)
    (draws : Fin 30 → Fin 90) : Except PyError (PaymentDb × Conversation × Option Creation) := do
  let baseAmount ← required chat.data.baseAmount
  let owner ← db.ownerId telegramId
  let (db, payment) ← db.createCardToCardPayment now draws owner baseAmount
    (db.getDiscountOrNone chat.data.discountCodeId) chat.data.durationMonths (purposeOf chat)
  return (db, { chat with state := some .waitingReceipt }, some ⟨.nobody, payment⟩)

/-- `cb_payment_method_zarinpal`, with the amount it requests and the payment it creates. -/
def zarinpalCreation (db : PaymentDb) (chat : Conversation) (telegramId : ℤ)
    (authority : Option String) : Except PyError (PaymentDb × Conversation × Option Creation) :=
  if !db.settings.zarinpalEnabled || db.settings.zarinpalMerchantId.getD "" == "" then
    .ok (db, chat, none)
  else do
    let amountToman ← required chat.data.finalAmount
    match authority with
    | none => return (db, chat, none)
    | some authority => do
      let baseAmount ← required chat.data.baseAmount
      let owner ← db.ownerId telegramId
      let (db, payment) ← db.createZarinpalPayment owner baseAmount
        (db.getDiscountOrNone chat.data.discountCodeId) authority chat.data.durationMonths
        (purposeOf chat)
      return (db, {}, some ⟨.zarinpal amountToman, payment⟩)

/-- `cb_payment_method_bale`, with the amount it requests and the payment it creates. -/
def baleCreation (baleBotToken : String) (db : PaymentDb) (chat : Conversation) (telegramId : ℤ)
    (token : String) (linked : Bool) : Except PyError (PaymentDb × Conversation × Option Creation) :=
  if !db.settings.balePayEnabled || db.settings.baleProviderToken.getD "" == "" ||
      baleBotToken == "" then .ok (db, chat, none)
  else do
    let owner ← db.ownerId telegramId
    let invoicePayload := "payment-" ++ toString owner ++ "-" ++ token
    let finalAmount ← required chat.data.finalAmount
    let amountRial := finalAmount * 10
    if !linked then return (db, chat, none)
    else do
      let baseAmount ← required chat.data.baseAmount
      let (db, payment) ← db.createBalePayment owner baseAmount
        (db.getDiscountOrNone chat.data.discountCodeId) invoicePayload chat.data.durationMonths
        (purposeOf chat)
      return (db, {}, some ⟨.bale amountRial, payment⟩)

end PaymentDb

/-- The outcome of a handler without the payment. -/
def forgetCreation (x : Except PyError (PaymentDb × Conversation × Option Creation)) :
    Except PyError (PaymentDb × Conversation) :=
  x.map fun r => (r.1, r.2.1)

theorem forget_bind {α : Type} (x : Except PyError α)
    (f : α → Except PyError (PaymentDb × Conversation × Option Creation)) :
    forgetCreation (x >>= f) = x >>= fun a => forgetCreation (f a) := by
  cases x <;> rfl

namespace PaymentDb

theorem forget_cardCreation (db : PaymentDb) (now : Datetime) (chat : Conversation) (telegramId : ℤ)
    (draws : Fin 30 → Fin 90) :
    forgetCreation (db.cardCreation now chat telegramId draws) =
      db.cbPaymentMethodCard now chat telegramId draws := by
  unfold cardCreation cbPaymentMethodCard
  simp only [forget_bind]
  rfl

theorem forget_zarinpalCreation (db : PaymentDb) (chat : Conversation) (telegramId : ℤ)
    (authority : Option String) :
    forgetCreation (db.zarinpalCreation chat telegramId authority) =
      db.cbPaymentMethodZarinpal chat telegramId authority := by
  unfold zarinpalCreation cbPaymentMethodZarinpal
  split_ifs
  · rfl
  · rw [forget_bind]
    refine bind_congr fun amountToman => ?_
    cases authority with
    | none => rfl
    | some authority =>
      simp only [forget_bind]
      rfl

theorem forget_baleCreation (baleBotToken : String) (db : PaymentDb) (chat : Conversation)
    (telegramId : ℤ) (token : String) (linked : Bool) :
    forgetCreation (db.baleCreation baleBotToken chat telegramId token linked) =
      db.cbPaymentMethodBale baleBotToken chat telegramId token linked := by
  unfold baleCreation cbPaymentMethodBale
  split_ifs
  · rfl
  · simp only [forget_bind]
    rfl
  · simp only [forget_bind]
    rfl

/-! ## Prices -/

/-- The amount is `base_amount`, with the discount of the code if there is one. -/
def Priced (db : PaymentDb) (baseAmount : ℤ) (codeId : Option ℕ) (amount : ℤ) : Prop :=
  (∀ k, codeId = some k → k ∈ db.codes.ids) ∧
    discountedAmount baseAmount (db.getDiscountOrNone codeId) = .ok amount

/-- No code is deleted, and none changes its type or value. -/
def CodesKept (codes codes' : Table DiscountCode) : Prop :=
  Table.Keeps (fun c => (c.type, c.valueCents)) codes codes'

theorem applyDiscount_congr {c c' : DiscountCode}
    (h : (c'.type, c'.valueCents) = (c.type, c.valueCents)) (baseAmount : ℤ) :
    applyDiscount baseAmount c' = applyDiscount baseAmount c := by
  obtain ⟨htype, hvalue⟩ := Prod.mk.inj h
  unfold applyDiscount
  rw [htype, hvalue]

theorem Priced.kept {db db' : PaymentDb} (hkept : CodesKept db.codes db'.codes) {baseAmount : ℤ}
    {codeId : Option ℕ} {amount : ℤ} (h : db.Priced baseAmount codeId amount) :
    db'.Priced baseAmount codeId amount := by
  obtain ⟨hmem, hamount⟩ := h
  refine ⟨fun k hk => Table.Keeps.ids hkept (hmem k hk), ?_⟩
  cases codeId with
  | none => exact hamount
  | some k =>
    obtain ⟨c, hc, hid⟩ := Table.mem_ids.1 (hmem k rfl)
    have hfind : db.codes.find? k = some c := Table.find?_eq_some_iff.2 ⟨hc, hid⟩
    obtain ⟨c', hfind', hsame⟩ := hkept k c hfind
    have hbefore : applyDiscount baseAmount c = .ok amount := by
      rw [show db.getDiscountOrNone (some k) = some c from hfind] at hamount
      exact hamount
    rw [show db'.getDiscountOrNone (some k) = some c' from hfind']
    exact (applyDiscount_congr hsame baseAmount).trans hbefore

/-- The payment refers to the code that was loaded. -/
theorem getDiscountOrNone_loaded (db : PaymentDb) (codeId : Option ℕ) :
    db.getDiscountOrNone ((db.getDiscountOrNone codeId).map DiscountCode.id) =
      db.getDiscountOrNone codeId := by
  cases h : db.getDiscountOrNone codeId with
  | none => rfl
  | some c =>
    obtain ⟨k, -, hk⟩ := Option.bind_eq_some_iff.1 h
    exact Table.find?_of_mem (Table.mem_of_find? hk)

/-! ## The conversation -/

/-- The final amount of the conversation is its base amount with its code. -/
def Quoted (db : PaymentDb) (chat : Conversation) : Prop :=
  ∀ amount, chat.data.finalAmount = some amount →
    ∃ baseAmount, chat.data.baseAmount = some baseAmount ∧
      db.Priced baseAmount chat.data.discountCodeId amount

theorem Quoted.kept {db db' : PaymentDb} (hkept : CodesKept db.codes db'.codes) {chat : Conversation}
    (h : db.Quoted chat) : db'.Quoted chat := by
  intro amount hamount
  obtain ⟨baseAmount, hbase, hpriced⟩ := h amount hamount
  exact ⟨baseAmount, hbase, hpriced.kept hkept⟩

/-- Only the data count. -/
theorem Quoted.of_data {db : PaymentDb} {chat chat' : Conversation} (h : db.Quoted chat)
    (hdata : chat'.data = chat.data) : db.Quoted chat' := by
  unfold Quoted
  rw [hdata]
  exact h

theorem quoted_empty (db : PaymentDb) : db.Quoted {} := fun _ h => nomatch h

theorem quoted_topupChosen (db : PaymentDb) (amount : ℤ) : db.Quoted (topupChosen amount) := by
  intro final hfinal
  obtain rfl := Option.some.inj hfinal
  exact ⟨amount, rfl, nofun, rfl⟩

theorem eq_some_of_required {α : Type} {x : Option α} {a : α} (h : required x = .ok a) : x = some a := by
  cases x with
  | none => cases h
  | some b => exact congrArg some (Except.ok.inj h)

theorem mem_codes_of_validateCode {db : PaymentDb} {now : Datetime} {rawCode : String} {ownerId : ℕ}
    {discount : DiscountCode} (h : db.validateCode now rawCode ownerId = .ok (some discount)) :
    discount ∈ db.codes.rows := by
  unfold validateCode at h
  split at h
  · cases h
  · rename_i c hc
    split_ifs at h
    · cases h
    · cases h
    · cases h
    · obtain ⟨usage, -, h⟩ := bind_ok h
      split_ifs at h
      · cases h
      · cases h
        exact List.mem_of_find?_eq_some hc

/-- A code is applied to the base amount, whatever was typed before. -/
theorem quoted_paymentDiscountCode {db : PaymentDb} {now : Datetime} {chat chat' : Conversation}
    {telegramId : ℤ} {code : String}
    (h : db.paymentDiscountCode now chat telegramId code = .ok (some chat')) : db.Quoted chat' := by
  obtain ⟨owner, -, h⟩ := bind_ok h
  obtain ⟨valid, hvalid, h⟩ := bind_ok h
  cases valid with
  | none => cases h
  | some discount =>
    obtain ⟨baseAmount, hbase, h⟩ := bind_ok h
    obtain ⟨finalAmount, hfinal, h⟩ := bind_ok h
    cases h
    have hmem := mem_codes_of_validateCode hvalid
    intro amount hamount
    obtain rfl := Option.some.inj hamount
    refine ⟨baseAmount, eq_some_of_required hbase, fun k hk => ?_, ?_⟩
    · obtain rfl := Option.some.inj hk
      exact Table.id_mem_ids hmem
    · show discountedAmount baseAmount (db.codes.find? discount.id) = .ok finalAmount
      rw [show db.codes.find? discount.id = some discount from Table.find?_of_mem hmem]
      exact hfinal

/-! ## The payment methods -/

/-- A payment made of a conversation: the amount that is asked for is the one of the conversation, the
amount of the payment is computed from the base amount. -/
structure CreatedFrom (db : PaymentDb) (chat : Conversation) (c : Creation) : Prop where
  id : c.payment.id = db.payments.nextId
  base : chat.data.baseAmount = some c.payment.baseAmount
  code : c.payment.discountCodeId =
    (db.getDiscountOrNone chat.data.discountCodeId).map DiscountCode.id
  method : c.payment.method = c.asked.method
  amount : ∃ discounted,
    discountedAmount c.payment.baseAmount (db.getDiscountOrNone chat.data.discountCodeId) =
        .ok discounted ∧
      match c.asked with
      | .nobody => discounted + 10 ≤ c.payment.finalAmount ∧ c.payment.finalAmount ≤ discounted + 99
      | .zarinpal amountToman =>
        chat.data.finalAmount = some amountToman ∧ c.payment.finalAmount = discounted
      | .bale amountRial => ∃ amount, chat.data.finalAmount = some amount ∧ amountRial = amount * 10 ∧
        c.payment.finalAmount = discounted

theorem insertPayment_eq {db db' : PaymentDb} {p q : Payment}
    (h : db.insertPayment p = .ok (db', q)) : q = p ∧ db' = db.apply (.insertPayment p) := by
  unfold insertPayment at h
  split_ifs at h
  cases h
  exact ⟨rfl, rfl⟩

theorem tryAmounts_ok {db : PaymentDb} {now : Datetime} {baseAmount amount : ℤ} {suffixes : List ℤ}
    (h : db.tryAmounts now baseAmount suffixes = .ok amount) :
    ∃ suffix ∈ suffixes, amount = baseAmount + suffix := by
  induction suffixes with
  | nil => cases h
  | cons suffix suffixes ih =>
    obtain ⟨reserved, -, h⟩ := bind_ok h
    cases reserved with
    | false =>
      cases h
      exact ⟨suffix, List.mem_cons_self, rfl⟩
    | true =>
      obtain ⟨s, hs, hamount⟩ := ih h
      exact ⟨s, List.mem_cons_of_mem _ hs, hamount⟩

theorem generateUniqueAmount_ok {db : PaymentDb} {now : Datetime} {baseAmount amount : ℤ}
    {draws : Fin 30 → Fin 90} (h : db.generateUniqueAmount now baseAmount draws = .ok amount) :
    baseAmount + 10 ≤ amount ∧ amount ≤ baseAmount + 99 := by
  obtain ⟨suffix, hsuffix, rfl⟩ := tryAmounts_ok h
  obtain ⟨i, rfl⟩ := (List.mem_ofFn' _ _).1 hsuffix
  have hlt := (draws i).isLt
  dsimp only
  omega

theorem cardCreation_ok {db db' : PaymentDb} {now : Datetime} {chat chat' : Conversation}
    {telegramId : ℤ} {draws : Fin 30 → Fin 90} {x : Option Creation}
    (h : db.cardCreation now chat telegramId draws = .ok (db', chat', x)) :
    ∃ c, x = some c ∧ db.CreatedFrom chat c ∧ db' = db.apply (.insertPayment c.payment) ∧
      chat'.data = chat.data := by
  obtain ⟨base, hbase, h⟩ := bind_ok h
  obtain ⟨owner, -, h⟩ := bind_ok h
  obtain ⟨⟨db₁, p⟩, hcreate, h⟩ := bind_ok h
  cases h
  obtain ⟨discounted, hdiscounted, hcreate⟩ := bind_ok hcreate
  obtain ⟨final, hfinal, hcreate⟩ := bind_ok hcreate
  obtain ⟨reserved, -, hcreate⟩ := bind_ok hcreate
  obtain ⟨rfl, hdb⟩ := insertPayment_eq hcreate
  exact ⟨_, rfl, ⟨rfl, eq_some_of_required hbase, rfl, rfl, discounted, hdiscounted,
    generateUniqueAmount_ok hfinal⟩, hdb, rfl⟩

theorem zarinpalCreation_ok {db db' : PaymentDb} {chat chat' : Conversation} {telegramId : ℤ}
    {authority : Option String} {x : Option Creation}
    (h : db.zarinpalCreation chat telegramId authority = .ok (db', chat', x)) :
    (x = none ∧ db' = db ∧ chat' = chat) ∨
      ∃ c, x = some c ∧ db.CreatedFrom chat c ∧ db' = db.apply (.insertPayment c.payment) ∧
        chat' = {} := by
  unfold zarinpalCreation at h
  split_ifs at h
  · cases h
    exact Or.inl ⟨rfl, rfl, rfl⟩
  · obtain ⟨amountToman, hamount, h⟩ := bind_ok h
    cases authority with
    | none =>
      cases h
      exact Or.inl ⟨rfl, rfl, rfl⟩
    | some authority =>
      obtain ⟨base, hbase, h⟩ := bind_ok h
      obtain ⟨owner, -, h⟩ := bind_ok h
      obtain ⟨⟨db₁, p⟩, hcreate, h⟩ := bind_ok h
      cases h
      obtain ⟨discounted, hdiscounted, hcreate⟩ := bind_ok hcreate
      obtain ⟨rfl, hdb⟩ := insertPayment_eq hcreate
      exact Or.inr ⟨_, rfl, ⟨rfl, eq_some_of_required hbase, rfl, rfl, discounted, hdiscounted,
        eq_some_of_required hamount, rfl⟩, hdb, rfl⟩

theorem baleCreation_ok {baleBotToken : String} {db db' : PaymentDb} {chat chat' : Conversation}
    {telegramId : ℤ} {token : String} {linked : Bool} {x : Option Creation}
    (h : db.baleCreation baleBotToken chat telegramId token linked = .ok (db', chat', x)) :
    (x = none ∧ db' = db ∧ chat' = chat) ∨
      ∃ c, x = some c ∧ db.CreatedFrom chat c ∧ db' = db.apply (.insertPayment c.payment) ∧
        chat' = {} := by
  unfold baleCreation at h
  split_ifs at h
  · cases h
    exact Or.inl ⟨rfl, rfl, rfl⟩
  · obtain ⟨owner, -, h⟩ := bind_ok h
    obtain ⟨amount, -, h⟩ := bind_ok h
    cases h
    exact Or.inl ⟨rfl, rfl, rfl⟩
  · obtain ⟨owner, -, h⟩ := bind_ok h
    obtain ⟨amount, hamount, h⟩ := bind_ok h
    obtain ⟨base, hbase, h⟩ := bind_ok h
    obtain ⟨⟨db₁, p⟩, hcreate, h⟩ := bind_ok h
    cases h
    obtain ⟨discounted, hdiscounted, hcreate⟩ := bind_ok hcreate
    obtain ⟨rfl, hdb⟩ := insertPayment_eq hcreate
    exact Or.inr ⟨_, rfl, ⟨rfl, eq_some_of_required hbase, rfl, rfl, discounted, hdiscounted,
      amount, eq_some_of_required hamount, rfl, rfl⟩, hdb, rfl⟩

end PaymentDb

namespace Panel

/-- The payment handlers, with the payments they create; the others create none. -/
def payCreation (baleBotToken : String) (s : Panel) (now : Datetime) (telegramId : ℤ) :
    PanelEvent → Except PyError (PaymentDb × Conversation × Option Creation)
  | .payCard draws _ => s.db.cardCreation now (s.chats telegramId) telegramId draws
  | .payZarinpal authority _ => s.db.zarinpalCreation (s.chats telegramId) telegramId authority
  | .payBale token linked _ =>
    s.db.baleCreation baleBotToken (s.chats telegramId) telegramId token linked
  | _ => .ok (s.db, s.chats telegramId, none)

theorem forget_payCreation (baleBotToken : String) (s : Panel) (now : Datetime) (telegramId : ℤ)
    (e : PanelEvent) :
    forgetCreation (s.payCreation baleBotToken now telegramId e) =
      s.pay baleBotToken now telegramId e := by
  cases e with
  | payCard draws delivered => exact PaymentDb.forget_cardCreation ..
  | payZarinpal authority delivered => exact PaymentDb.forget_zarinpalCreation ..
  | payBale token linked delivered => exact PaymentDb.forget_baleCreation ..
  | _ => rfl

/-- **What a payment handler does**: nothing, or it creates one payment of its conversation, whose data it
keeps or clears. -/
theorem payCreation_ok {baleBotToken : String} {s : Panel} {now : Datetime} {telegramId : ℤ}
    {e : PanelEvent} {db : PaymentDb} {chat : Conversation} {x : Option Creation}
    (h : s.payCreation baleBotToken now telegramId e = .ok (db, chat, x)) :
    (x = none ∧ db = s.db ∧ chat = s.chats telegramId) ∨
      ∃ c, x = some c ∧ s.db.CreatedFrom (s.chats telegramId) c ∧
        db = s.db.apply (.insertPayment c.payment) ∧
        (chat.data = (s.chats telegramId).data ∨ chat = {}) := by
  cases e with
  | payCard draws delivered =>
    obtain ⟨c, hx, hc, hdb, hdata⟩ := PaymentDb.cardCreation_ok h
    exact Or.inr ⟨c, hx, hc, hdb, Or.inl hdata⟩
  | payZarinpal authority delivered =>
    obtain hsame | ⟨c, hx, hc, hdb, hchat⟩ := PaymentDb.zarinpalCreation_ok h
    · exact Or.inl hsame
    · exact Or.inr ⟨c, hx, hc, hdb, Or.inr hchat⟩
  | payBale token linked delivered =>
    obtain hsame | ⟨c, hx, hc, hdb, hchat⟩ := PaymentDb.baleCreation_ok h
    · exact Or.inl hsame
    · exact Or.inr ⟨c, hx, hc, hdb, Or.inr hchat⟩
  | _ =>
    cases h
    exact Or.inl ⟨rfl, rfl, rfl⟩

/-- The payment that an event creates, also when its session is rolled back afterwards. -/
def created (baleBotToken : String) (s : Panel) (now : Datetime) (telegramId : ℤ) (e : PanelEvent) :
    Option Creation :=
  match s.payCreation baleBotToken now telegramId e with
  | .ok (_, _, x) => x
  | .error _ => none

theorem created_of_ok {baleBotToken : String} {s : Panel} {now : Datetime} {telegramId : ℤ}
    {e : PanelEvent} {db : PaymentDb} {chat : Conversation} {x : Option Creation}
    (h : s.payCreation baleBotToken now telegramId e = .ok (db, chat, x)) :
    s.created baleBotToken now telegramId e = x := by
  unfold created
  rw [h]

theorem createdFrom_of_created {baleBotToken : String} {s : Panel} {now : Datetime} {telegramId : ℤ}
    {e : PanelEvent} {c : Creation} (h : s.created baleBotToken now telegramId e = some c) :
    s.db.CreatedFrom (s.chats telegramId) c := by
  unfold created at h
  split at h
  · rename_i db chat x hok
    obtain ⟨rfl, -, -⟩ | ⟨c', rfl, hc, -, -⟩ := payCreation_ok hok
    · cases h
    · obtain rfl := Option.some.inj h
      exact hc
  · cases h

/-- The conversation of the user is quoted, and the tables have at most the created payment more. -/
structure Answers (s s' : Panel) (telegramId : ℤ) (x : Option Creation) : Prop where
  others : ∀ t, t ≠ telegramId → s'.chats t = s.chats t
  quoted : s.db.Quoted (s'.chats telegramId)
  tables : s'.db = s.db ∨ ∃ c, x = some c ∧ s'.db = s.db.apply (.insertPayment c.payment)

theorem answers_self {s : Panel} {telegramId : ℤ} (h : s.db.Quoted (s.chats telegramId))
    (x : Option Creation) : Answers s s telegramId x :=
  ⟨fun _ _ => rfl, h, Or.inl rfl⟩

theorem answers_setChat {s : Panel} {telegramId : ℤ} {chat : Conversation} (h : s.db.Quoted chat)
    (x : Option Creation) : Answers s (s.setChat telegramId chat) telegramId x := by
  refine ⟨fun t ht => Function.update_of_ne ht _ _, ?_, Or.inl rfl⟩
  rw [show (s.setChat telegramId chat).chats telegramId = chat from Function.update_self ..]
  exact h

/-- The payment methods, whether their session is committed or not. -/
theorem answers_finish {baleBotToken : String} {s : Panel} {now : Datetime} {telegramId : ℤ}
    (h : s.db.Quoted (s.chats telegramId)) (e : PanelEvent) (delivered : Bool) :
    Answers s (s.finish telegramId delivered (s.pay baleBotToken now telegramId e)) telegramId
      (s.created baleBotToken now telegramId e) := by
  rw [← forget_payCreation]
  cases hpay : s.payCreation baleBotToken now telegramId e with
  | error err => exact answers_self h _
  | ok r =>
    obtain ⟨db, chat, x⟩ := r
    rw [created_of_ok hpay]
    have hchat : s.db.Quoted chat := by
      obtain ⟨-, -, rfl⟩ | ⟨c, -, -, -, hdata | rfl⟩ := payCreation_ok hpay
      · exact h
      · exact h.of_data hdata
      · exact PaymentDb.quoted_empty _
    have hset : Answers s (s.setChat telegramId chat) telegramId x := answers_setChat hchat x
    cases delivered with
    | false => exact hset
    | true =>
      refine ⟨hset.others, hset.quoted, ?_⟩
      obtain ⟨-, hdb, -⟩ | ⟨c, hx, -, hdb, -⟩ := payCreation_ok hpay
      · exact Or.inl hdb
      · exact Or.inr ⟨c, hx, hdb⟩

/-- **Every update keeps the quotes**, whatever message its button belongs to. -/
theorem answers_handle {baleBotToken : String} {s : Panel} {now : Datetime} {telegramId : ℤ}
    (h : s.db.Quoted (s.chats telegramId)) (e : PanelEvent) :
    Answers s (s.handle baleBotToken now telegramId e) telegramId
      (s.created baleBotToken now telegramId e) := by
  cases e with
  | topupAmount amount =>
    cases amount with
    | none =>
      have hasked : s.db.Quoted { s.chats telegramId with state := some .waitingTopupAmount } :=
        h.of_data rfl
      exact answers_setChat hasked _
    | some amount => exact answers_setChat (PaymentDb.quoted_topupChosen _ amount) _
  | customAmount amount =>
    unfold handle
    dsimp only
    split
    · split_ifs
      · exact answers_self h _
      · exact answers_setChat (PaymentDb.quoted_topupChosen _ _) _
    · exact answers_self h _
  | discountCode code =>
    unfold handle
    dsimp only
    split_ifs
    · split
      · rename_i chat hok
        exact answers_setChat (PaymentDb.quoted_paymentDiscountCode hok) _
      · exact answers_self h _
    · exact answers_self h _
  | payCard draws delivered => exact answers_finish h _ delivered
  | payZarinpal authority delivered => exact answers_finish h _ delivered
  | payBale token linked delivered => exact answers_finish h _ delivered
  | clear => exact answers_setChat (PaymentDb.quoted_empty _) _

end Panel

/-! ## Runs -/

/-- The panel, and the payments that its handlers have created so far. -/
structure Checkout where
  panel : Panel
  creations : List Creation := []

inductive CheckoutEvent where
  /-- an update of a user in the payment dialogue, or the review of a payment -/
  | panel (a : PanelAct)
  /-- `cb_skip_discount` shows the payment methods -/
  | skipDiscount (telegramId : ℤ)
  /-- another dialogue sets its own state, and the data stay -/
  | otherDialogue (telegramId : ℤ)
  | createCode (code : String) (type : DiscountType) (value : ℚ) (maxUses : Option ℤ)
      (expiresAt : Option Datetime)
  | toggleCodeActive (codeId : ℕ)
  /-- an admin saves other settings -/
  | configure (settings : AdminSettings)

namespace Checkout

variable (W : World) (baleBotToken : String)

/-- The start: any tables, and no conversation yet. -/
def start (db : PaymentDb) : Checkout := { panel := { db := db, chats := fun _ => {} } }

def setDb (s : Checkout) (db : PaymentDb) : Checkout := { s with panel := { s.panel with db := db } }

/-- The payment that a step creates. -/
def creation (s : Checkout) (a : Datetime × PanelAct) : Option Creation :=
  match a.2 with
  | .user telegramId e => s.panel.created baleBotToken a.1 telegramId e
  | _ => none

/-- One event.  A code that violates a constraint is rolled back. -/
def step (s : Checkout) (e : Datetime × CheckoutEvent) : Option Checkout :=
  match e.2 with
  | .panel a => (s.panel.step W baleBotToken (e.1, a)).map fun panel =>
      { panel := panel, creations := s.creations ++ (s.creation baleBotToken (e.1, a)).toList }
  | .skipDiscount _ => some s
  | .otherDialogue telegramId =>
    some { s with panel := s.panel.setChat telegramId { s.panel.chats telegramId with state := none } }
  | .createCode code type value maxUses expiresAt =>
    match (CodeSession.begin s.panel.db.codes).createCode code type value maxUses expiresAt with
    | .error _ => some s
    | .ok (session, _) => some (s.setDb { s.panel.db with codes := session.codes })
  | .toggleCodeActive codeId =>
    some (s.setDb { s.panel.db with
      codes := ((CodeSession.begin s.panel.db.codes).toggleCodeActive codeId).codes })
  | .configure settings => some (s.setDb { s.panel.db with settings := settings })

end Checkout

/-- The columns that no review writes. -/
def SameTerms (p q : Payment) : Prop :=
  q.id = p.id ∧ q.baseAmount = p.baseAmount ∧ q.finalAmount = p.finalAmount ∧ q.method = p.method ∧
    q.discountCodeId = p.discountCodeId

theorem sameTerms_write (p : Payment) (now : Datetime) (r : Review) : SameTerms p (r.write now p) := by
  obtain ⟨x, rfl⟩ | ⟨x, rfl⟩ | ⟨x, rfl⟩ | ⟨a, x, rfl⟩ := r.write_cases <;> exact ⟨rfl, rfl, rfl, rfl, rfl⟩

theorem SameTerms.trans {p q r : Payment} (h : SameTerms p q) (h' : SameTerms q r) : SameTerms p r :=
  ⟨h'.1.trans h.1, h'.2.1.trans h.2.1, h'.2.2.1.trans h.2.2.1, h'.2.2.2.1.trans h.2.2.2.1,
    h'.2.2.2.2.trans h.2.2.2.2⟩

/-- What is asked for is what is stored: in Tomans by Zarinpal, in Rials by Bale.  A card payment is its
discounted amount with two digits that tell it apart. -/
def Creation.Agrees (db : PaymentDb) (c : Creation) : Prop :=
  c.payment.method = c.asked.method ∧
    match c.asked with
    | .nobody => ∃ discounted, db.Priced c.payment.baseAmount c.payment.discountCodeId discounted ∧
        10 ≤ c.payment.finalAmount - discounted ∧ c.payment.finalAmount - discounted ≤ 99
    | .zarinpal amountToman => amountToman = c.payment.finalAmount
    | .bale amountRial => amountRial = 10 * c.payment.finalAmount

theorem Creation.Agrees.kept {db db' : PaymentDb} (hkept : PaymentDb.CodesKept db.codes db'.codes)
    {c : Creation} (h : c.Agrees db) : c.Agrees db' := by
  obtain ⟨hmethod, hterms⟩ := h
  refine ⟨hmethod, ?_⟩
  cases hasked : c.asked with
  | nobody =>
    rw [hasked] at hterms
    obtain ⟨discounted, hpriced, hle⟩ := hterms
    exact ⟨discounted, hpriced.kept hkept, hle⟩
  | zarinpal amountToman =>
    rw [hasked] at hterms
    exact hterms
  | bale amountRial =>
    rw [hasked] at hterms
    exact hterms

/-- The amount of a quoted conversation is the amount that is computed again. -/
theorem PaymentDb.CreatedFrom.agrees {db : PaymentDb} {chat : Conversation} {c : Creation}
    (h : db.CreatedFrom chat c) (hquoted : db.Quoted chat) : c.Agrees db := by
  obtain ⟨discounted, hdiscounted, hterms⟩ := h.amount
  have hquote : ∀ amount, chat.data.finalAmount = some amount → amount = discounted := by
    intro amount hamount
    obtain ⟨baseAmount, hbase, -, hprice⟩ := hquoted amount hamount
    rw [h.base] at hbase
    obtain rfl := Option.some.inj hbase
    rw [hdiscounted] at hprice
    exact (Except.ok.inj hprice).symm
  refine ⟨h.method, ?_⟩
  cases hasked : c.asked with
  | nobody =>
    rw [hasked] at hterms
    obtain ⟨hlow, hhigh⟩ := hterms
    refine ⟨discounted, ⟨fun k hk => ?_, ?_⟩, by omega, by omega⟩
    · rw [h.code] at hk
      exact mem_codes_of_getDiscountOrNone hk
    · rw [h.code, getDiscountOrNone_loaded]
      exact hdiscounted
  | zarinpal amountToman =>
    rw [hasked] at hterms
    exact (hquote _ hterms.1).trans hterms.2.symm
  | bale amountRial =>
    rw [hasked] at hterms
    obtain ⟨amount, hamount, rfl, hfinal⟩ := hterms
    show amount * 10 = 10 * c.payment.finalAmount
    rw [hquote amount hamount, hfinal, mul_comm]

namespace Checkout

variable {W : World} {baleBotToken : String}

/-- Conversations are quoted, and every payment that is not from before was created by a handler that
asked for its amount. -/
structure Inv (before : PaymentDb) (s : Checkout) : Prop where
  quoted : ∀ t, s.panel.db.Quoted (s.panel.chats t)
  agrees : ∀ c ∈ s.creations, c.Agrees s.panel.db
  stored : ∀ p ∈ s.panel.db.payments.rows,
    p.id ∈ before.payments.ids ∨ ∃ c ∈ s.creations, SameTerms c.payment p

theorem inv_start (db : PaymentDb) : Inv db (start db) :=
  ⟨fun _ => PaymentDb.quoted_empty db, fun _ hc => absurd hc List.not_mem_nil,
    fun _ hp => Or.inl (Table.id_mem_ids hp)⟩

/-- Tables that keep the codes and the terms of the payments. -/
theorem Inv.setDb {before : PaymentDb} {s : Checkout} (h : Inv before s) {db : PaymentDb}
    (hkept : PaymentDb.CodesKept s.panel.db.codes db.codes)
    (hpayments : ∀ p ∈ db.payments.rows, ∃ q ∈ s.panel.db.payments.rows, SameTerms q p) :
    Inv before (s.setDb db) := by
  refine ⟨fun t => (h.quoted t).kept hkept, fun c hc => (h.agrees c hc).kept hkept, fun p hp => ?_⟩
  obtain ⟨q, hq, hsame⟩ := hpayments p hp
  rcases h.stored q hq with hid | ⟨c, hc, hterms⟩
  · exact Or.inl (hsame.1 ▸ hid)
  · exact Or.inr ⟨c, hc, hterms.trans hsame⟩

theorem Inv.setCodes {before : PaymentDb} {s : Checkout} (h : Inv before s) {codes : Table DiscountCode}
    (hkept : PaymentDb.CodesKept s.panel.db.codes codes) :
    Inv before (s.setDb { s.panel.db with codes := codes }) :=
  h.setDb hkept fun p hp => ⟨p, hp, rfl, rfl, rfl, rfl, rfl⟩

theorem sameTerms_of_review {db db' : PaymentDb} {payment : Payment} {now : Datetime} {r : Review}
    (hpayments : db'.payments = (db.apply (.review payment.id now r)).payments) :
    ∀ p ∈ db'.payments.rows, ∃ q ∈ db.payments.rows, SameTerms q p := by
  intro p hp
  rw [hpayments] at hp
  rcases PaymentDb.mem_payments_review hp with ⟨hp, -⟩ | ⟨q, hq, -, rfl⟩
  · exact ⟨p, hp, rfl, rfl, rfl, rfl, rfl⟩
  · exact ⟨q, hq, sameTerms_write q now r⟩

/-- An approval counts a use of its code. -/
theorem codesKept_approve {db db' : PaymentDb} {payment : Payment} {now : Datetime} {approval : Approval}
    {effect : Effect} {reward : Option PyDict}
    (h : db.approve W now payment approval = .ok (db', effect, reward)) :
    PaymentDb.CodesKept db.codes db'.codes := by
  obtain ⟨-, hcodes⟩ | ⟨k, code, -, -, hcodes⟩ := PaymentDb.approve_codes h
  · rw [hcodes]
    exact Table.Keeps.refl _
  · rw [hcodes]
    exact Table.keeps_modify (f := fun c : DiscountCode => { c with usedCount := code.usedCount + 1 }) _ _
      (fun _ => rfl) fun _ => rfl

/-- An update of a user. -/
theorem Inv.user {before : PaymentDb} {s : Checkout} (h : Inv before s) {panel : Panel} {telegramId : ℤ}
    {x : Option Creation} (ha : Panel.Answers s.panel panel telegramId x)
    (hx : ∀ c, x = some c → s.panel.db.CreatedFrom (s.panel.chats telegramId) c) :
    Inv before { panel := panel, creations := s.creations ++ x.toList } := by
  have hcodes : panel.db.codes = s.panel.db.codes := by
    obtain hdb | ⟨c, -, hdb⟩ := ha.tables <;> rw [hdb]
    rfl
  have hkept : PaymentDb.CodesKept s.panel.db.codes panel.db.codes := by
    rw [hcodes]
    exact Table.Keeps.refl _
  refine ⟨fun t => ?_, fun c hc => ?_, fun p hp => ?_⟩
  · by_cases ht : t = telegramId
    · rw [ht]
      exact ha.quoted.kept hkept
    · rw [show panel.chats t = s.panel.chats t from ha.others t ht]
      exact (h.quoted t).kept hkept
  · rcases List.mem_append.1 hc with hc | hc
    · exact (h.agrees c hc).kept hkept
    · exact ((hx c (Option.mem_toList.1 hc)).agrees (h.quoted telegramId)).kept hkept
  · have hold : p ∈ s.panel.db.payments.rows →
        p.id ∈ before.payments.ids ∨ ∃ c ∈ s.creations ++ x.toList, SameTerms c.payment p := by
      intro hp
      rcases h.stored p hp with hid | ⟨c, hc, hterms⟩
      · exact Or.inl hid
      · exact Or.inr ⟨c, List.mem_append_left _ hc, hterms⟩
    obtain hdb | ⟨c, rfl, hdb⟩ := ha.tables
    · rw [hdb] at hp
      exact hold hp
    · have hfresh : Keyed.id c.payment ∉ s.panel.db.payments.ids := by
        show c.payment.id ∉ s.panel.db.payments.ids
        rw [(hx c rfl).id]
        exact Table.nextId_notMem _
      rw [hdb] at hp
      rcases (Table.mem_insert hfresh).1 hp with hp | rfl
      · exact hold hp
      · exact Or.inr ⟨c, List.mem_append_right _ (List.mem_singleton_self c), rfl, rfl, rfl, rfl, rfl⟩

theorem Inv.review {before : PaymentDb} {s : Checkout} (h : Inv before s) {db : PaymentDb}
    {payment : Payment} {now : Datetime} {r : Review}
    (hkept : PaymentDb.CodesKept s.panel.db.codes db.codes)
    (hpayments : db.payments = (s.panel.db.apply (.review payment.id now r)).payments) :
    Inv before { panel := { s.panel with db := db }, creations := s.creations ++ [] } := by
  rw [List.append_nil]
  exact h.setDb hkept (sameTerms_of_review hpayments)

theorem Inv.step {before : PaymentDb} {s s' : Checkout} {e : Datetime × CheckoutEvent}
    (h : Inv before s) (hs : s.step W baleBotToken e = some s') : Inv before s' := by
  obtain ⟨now, event⟩ := e
  cases event with
  | panel a =>
    obtain ⟨panel, hpanel, rfl⟩ := Option.map_eq_some_iff.1 hs
    have hsame : Inv before { panel := s.panel, creations := s.creations ++ [] } := by
      rw [List.append_nil]
      exact h
    cases a with
    | user telegramId e =>
      cases hpanel
      exact h.user (Panel.answers_handle (h.quoted telegramId) e) fun c hc =>
        Panel.createdFrom_of_created hc
    | approve paymentId approval =>
      obtain rfl | ⟨payment, db, effect, reward, -, hok, rfl⟩ := Panel.approve_cases hpanel
      · exact hsame
      · exact h.review (codesKept_approve hok) (PaymentDb.approve_payments hok)
    | reject paymentId adminTelegramId reason =>
      obtain rfl | ⟨payment, -, rfl⟩ := Panel.reject_cases hpanel
      · exact hsame
      · exact h.review (Table.Keeps.refl _) rfl
  | skipDiscount telegramId =>
    cases hs
    exact h
  | otherDialogue telegramId =>
    cases hs
    refine ⟨fun t => (h.quoted t).of_data ?_, h.agrees, h.stored⟩
    unfold Panel.setChat
    dsimp only
    rw [Function.update_apply]
    split_ifs with ht
    · rw [ht]
    · rfl
  | createCode code type value maxUses expiresAt =>
    dsimp only [Checkout.step] at hs
    split at hs
    · cases hs
      exact h
    · rename_i session object hok
      cases hs
      refine h.setCodes ?_
      unfold CodeSession.createCode at hok
      split_ifs at hok
      cases hok
      exact Table.keeps_insert _ _
  | toggleCodeActive codeId =>
    cases hs
    refine h.setCodes ?_
    unfold CodeSession.toggleCodeActive
    split
    · exact Table.Keeps.refl _
    · rename_i c _
      exact Table.keeps_modify (f := fun r : DiscountCode => { r with
          isActive := !((CodeSession.begin s.panel.db.codes).object c).isActive }) _ _
        (fun _ => rfl) fun _ => rfl
  | configure settings =>
    cases hs
    exact h.setDb (Table.Keeps.refl _) fun p hp => ⟨p, hp, rfl, rfl, rfl, rfl, rfl⟩

/-- **What the gateway is asked for is what is stored.** After any updates of the users, reviews, and
changes of the codes and settings, from any tables and no conversations: every payment that a handler has
created agrees with what it has asked for, and every stored payment that is not from before is one of
these. -/
theorem asked_is_stored (W : World) (baleBotToken : String) (db : PaymentDb)
    (es : List (Datetime × CheckoutEvent)) (s : Checkout)
    (hrun : Runs.exec (step W baleBotToken) (start db) es = some s) :
    (∀ c ∈ s.creations, c.Agrees s.panel.db) ∧
      ∀ p ∈ s.panel.db.payments.rows,
        p.id ∈ db.payments.ids ∨ ∃ c ∈ s.creations, SameTerms c.payment p := by
  have h : Inv db s := Runs.exec_inv_of_step (I := Inv db) (fun s e s' hI hs => hI.step hs) es _ s
    (inv_start db) hrun
  exact ⟨h.agrees, h.stored⟩

/-- Both gateways are switched on. -/
def gateways : AdminSettings :=
  { zarinpalEnabled := true, zarinpalMerchantId := some "M", balePayEnabled := true,
    baleProviderToken := some "P" }

/-- The buttons of one message, pressed one after the other: the code is typed twice and applied once, it
is switched off, a card payment keeps the conversation, and Zarinpal clears it. -/
def oldButtons : List (Datetime × CheckoutEvent) :=
  [(0, .configure gateways), (0, .panel (.user 11 (.topupAmount (some 100000)))),
    (0, .panel (.user 11 (.discountCode "NOWRUZ"))), (0, .panel (.user 11 (.discountCode "NOWRUZ"))),
    (1, .toggleCodeActive 5), (1, .panel (.user 11 (.payCard (fun _ => Panel.draw₁) true))),
    (2, .panel (.user 11 (.payZarinpal (some "A1") true))),
    (2, .panel (.user 11 (.payBale "T1" true true))),
    (3, .panel (.user 11 (.topupAmount (some 50000)))), (3, .skipDiscount 11),
    (3, .panel (.user 11 (.payBale "T2" true true)))]

theorem oldButtons_isSome :
    (Runs.exec (step .noMonths "B") (start Panel.codeShop.db) oldButtons).isSome = true := by
  decide +kernel

theorem asked_is_stored_oldButtons :
    ∃ s, Runs.exec (step .noMonths "B") (start Panel.codeShop.db) oldButtons = some s ∧
      s.creations.map (fun c => (c.asked, c.payment.finalAmount)) =
        [(.nobody, 90010), (.zarinpal 90000, 90000), (.bale 500000, 50000)] ∧
      (∀ c ∈ s.creations, c.Agrees s.panel.db) ∧
      ∀ p ∈ s.panel.db.payments.rows, p.id ∈ Panel.codeShop.db.payments.ids ∨
        ∃ c ∈ s.creations, SameTerms c.payment p :=
  ⟨_, (Option.some_get oldButtons_isSome).symm, by decide +kernel,
    asked_is_stored .noMonths "B" Panel.codeShop.db oldButtons _ (Option.some_get oldButtons_isSome).symm⟩

end Checkout

end KasbOKar
