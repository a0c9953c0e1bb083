import KasbOKar.Lib.Table

/-!
# The data model

The rows of `app/database/models.py` that the modelled services read or write, with the columns
they use.  Instants are microseconds since the epoch, `Numeric(10, 2)` columns are integers in
hundredths.
-/

namespace KasbOKar

/-! ## Time and numbers -/

/-- An aware `datetime.datetime`, in microseconds. -/
abbrev Datetime := ℤ

/-- `datetime.timedelta(days=n)`. -/
def days (n : ℤ) : ℤ := n * 86400000000

/-- `datetime.timedelta(hours=n)`. -/
def hours (n : ℤ) : ℤ := n * 3600000000

/-- `datetime.timedelta(minutes=n)`. -/
def minutes (n : ℤ) : ℤ := n * 60000000

/-- Between `datetime.min` and `datetime.max` (the years 1 to 9999). -/
def InDatetimeRange (t : ℤ) : Prop := -62135596800000000 ≤ t ∧ t ≤ 253402300799999999

instance (t : ℤ) : Decidable (InDatetimeRange t) := inferInstanceAs (Decidable (_ ∧ _))

/-- The range of an `INTEGER` column. -/
def Int4 (x : ℤ) : Prop := -2147483648 ≤ x ∧ x ≤ 2147483647

instance (x : ℤ) : Decidable (Int4 x) := inferInstanceAs (Decidable (_ ∧ _))

/-- The nearest integer, ties to the even one (`Decimal.to_integral_value`). -/
def roundHalfEven (q : ℚ) : ℤ :=
  let f := q.floor
  let r := q - f
  if r < 1 / 2 then f
  else if 1 / 2 < r then f + 1
  else if f % 2 = 0 then f else f + 1

/-- The exponent `e` with `2 ^ e ≤ |q| < 2 ^ (e + 1)`, for `q ≠ 0`. -/
def binaryExponent (q : ℚ) : ℤ :=
  let e : ℤ := (Nat.log2 q.num.natAbs : ℤ) - (Nat.log2 q.den : ℤ)
  if (2 : ℚ) ^ e ≤ |q| then e else e - 1

/-- The nearest `float`: 53 significant bits, ties to even.  The amounts here are far from the
subnormal range. -/
def nearestFloat (q : ℚ) : ℚ :=
  if q = 0 then 0
  else
    let ulp : ℚ := (2 : ℚ) ^ (binaryExponent q - 52)
    roundHalfEven (q / ulp) * ulp

/-- `int(x)` of a `float`: towards zero. -/
def truncate (q : ℚ) : ℤ := if 0 ≤ q then q.floor else -(-q).floor

/-- The exceptions the modelled functions raise, under the names of their classes. -/
inductive PyError where
  | ValueError
  | OverflowError
  | DataError
  | IntegrityError
  | NoResultFound
  | MultipleResultsFound
  | RuntimeError
  | KeyError
  | TypeError
  | AttributeError
  | TelegramAPIError
  | AiServiceError
  | SmsServiceError
  | EmailServiceError
  deriving DecidableEq, Repr

/-- A computation that returns has returned at each of its steps. -/
theorem bind_ok {ε α β : Type} {x : Except ε α} {f : α → Except ε β} {b : β}
    (h : x >>= f = .ok b) : ∃ a, x = .ok a ∧ f a = .ok b := by
  cases x with
  | error e => cases h
  | ok a => exact ⟨a, rfl, h⟩

theorem map_ok {ε α β : Type} {x : Except ε α} {f : α → β} {b : β} (h : x.map f = .ok b) :
    ∃ a, x = .ok a ∧ f a = b := by
  cases x with
  | error e => cases h
  | ok a => exact ⟨a, rfl, Except.ok.inj h⟩

/-- What every round of a loop keeps, the loop keeps if it comes to its end. -/
theorem foldlM_keeps {ε σ α : Type} {I : σ → Prop} {f : σ → α → Except ε σ} {l : List α}
    (hround : ∀ a ∈ l, ∀ s s', I s → f s a = .ok s' → I s') {s s' : σ} (h : I s)
    (hok : l.foldlM f s = .ok s') : I s' := by
  induction l generalizing s with
  | nil =>
    cases hok
    exact h
  | cons a l ih =>
    rw [List.foldlM_cons] at hok
    obtain ⟨s₁, h₁, hok⟩ := bind_ok hok
    exact ih (fun b hb => hround b (List.mem_cons_of_mem a hb)) (hround a List.mem_cons_self s s₁ h h₁) hok

/-- The exception of a computation that raises. -/
def raised {α : Type} : Except PyError α → Option PyError
  | .error e => some e
  | .ok _ => none

/-- `scalar_one_or_none()`. -/
def scalarOneOrNone {α : Type} : List α → Except PyError (Option α)
  | [] => .ok none
  | [x] => .ok (some x)
  | _ => .error .MultipleResultsFound

theorem scalarOneOrNone_some {α : Type} {l : List α} {x : α}
    (h : scalarOneOrNone l = .ok (some x)) : l = [x] := by
  match l, h with
  | [_], h => cases h; rfl

/-- `now + timedelta`, which raises outside the years 1 to 9999. -/
def datetimeAdd (now : Datetime) (delta : ℤ) : Except PyError Datetime :=
  if InDatetimeRange (now + delta) then .ok (now + delta) else .error .OverflowError

/-! ## Enumerations -/

inductive DiscountType where
  | PERCENT
  | FIXED
  deriving DecidableEq, Repr

inductive PaymentMethod where
  | CARD_TO_CARD
  | ZARINPAL
  | BALE_PAY
  deriving DecidableEq, Repr

inductive PaymentStatus where
  | PENDING
  | APPROVED
  | REJECTED
  deriving DecidableEq, Repr

inductive PaymentPurpose where
  | SUBSCRIPTION
  | WALLET_TOPUP
  deriving DecidableEq, Repr

inductive OrderType where
  | ORDER
  | CONSULTATION
  deriving DecidableEq, Repr

inductive OrderStatus where
  | AWAITING_CUSTOMER_CONFIRMATION
  | PENDING
  | CONFIRMED
  | PROCESSING
  | SHIPPED
  | COMPLETED
  | CANCELLED
  | REJECTED
  | EXPIRED
  deriving DecidableEq, Repr

inductive WalletTransactionReason where
  | CHAT_MESSAGE
  | PHOTO_ANALYSIS
  | VOICE_TRANSCRIPTION
  | ORDER_DETECTION
  | TOPUP
  | TRIAL
  | REFERRAL_REWARD
  | ADMIN_GRANT
  | ADMIN_CORRECTION
  | EXPIRY
  deriving DecidableEq, Repr

/-! ## Wallet rows -/

structure ShopOwner where
  id : ℕ
  telegramId : ℤ
  firstName : Option String := none
  lastName : Option String := none
  phoneNumber : Option String := none
  email : Option String := none
  phoneVerified : Bool := false
  emailVerified : Bool := false
  registrationCompleted : Bool := false
  referralCode : String := ""
  referredById : Option ℕ := none
  walletBalanceToman : ℤ := 0
  walletLowBalanceNotifiedAt : Option Datetime := none
  walletEmptyNotifiedAt : Option Datetime := none
  deriving DecidableEq, Repr

structure WalletCharge where
  id : ℕ
  shopOwnerId : ℕ
  paymentId : Option ℕ := none
  amountToman : ℤ
  remainingToman : ℤ
  expiresAt : Datetime
  isExpired : Bool := false
  deriving DecidableEq, Repr

structure WalletTransaction where
  id : ℕ
  shopOwnerId : ℕ
  walletChargeId : Option ℕ
  amountToman : ℤ
  reason : WalletTransactionReason
  reference : Option String := none
  deriving DecidableEq, Repr

instance : Keyed ShopOwner := ⟨ShopOwner.id⟩
instance : Keyed WalletCharge := ⟨WalletCharge.id⟩
instance : Keyed WalletTransaction := ⟨WalletTransaction.id⟩

/-! ## Payment rows -/

structure Payment where
  id : ℕ
  shopOwnerId : ℕ
  purpose : PaymentPurpose := .SUBSCRIPTION
  durationMonths : Option ℤ := none
  baseAmount : ℤ
  finalAmount : ℤ
  method : PaymentMethod
  status : PaymentStatus := .PENDING
  discountCodeId : Option ℕ := none
  zarinpalAuthority : Option String := none
  zarinpalRefId : Option String := none
  baleInvoicePayload : Option String := none
  baleTransactionId : Option String := none
  reservedUntil : Option Datetime := none
  reviewedByAdminId : Option ℤ := none
  reviewedAt : Option Datetime := none
  rejectionReason : Option String := none
  deriving DecidableEq, Repr

structure DiscountCode where
  id : ℕ
  code : String
  type : DiscountType
  /-- `Numeric(10, 2)`, in hundredths -/
  valueCents : ℤ
  maxUses : Option ℤ := none
  usedCount : ℤ := 0
  expiresAt : Option Datetime := none
  isActive : Bool := true
  deriving DecidableEq, Repr

structure DiscountCodeUsage where
  id : ℕ
  discountCodeId : ℕ
  shopOwnerId : ℕ
  paymentId : ℕ
  deriving DecidableEq, Repr

inductive RewardStatus where
  | PENDING
  | REWARDED
  deriving DecidableEq, Repr

/-- A referral.  `referred_id` is unique and serves as the key. -/
structure Referral where
  referredId : ℕ
  referrerId : ℕ
  rewardStatus : RewardStatus := .PENDING
  rewardedAt : Option Datetime := none
  deriving DecidableEq, Repr

structure Subscription where
  id : ℕ
  shopOwnerId : ℕ
  durationMonths : ℤ
  isTrial : Bool := false
  startDate : Datetime
  endDate : Datetime
  deriving DecidableEq, Repr

instance : Keyed Payment := ⟨Payment.id⟩
instance : Keyed DiscountCode := ⟨DiscountCode.id⟩
instance : Keyed DiscountCodeUsage := ⟨DiscountCodeUsage.id⟩
instance : Keyed Referral := ⟨Referral.referredId⟩
instance : Keyed Subscription := ⟨Subscription.id⟩

/-! ## Shops, products and orders -/

inductive TenantMode where
  | SALES
  | CONSULTATION
  deriving DecidableEq, Repr

structure ShopBot where
  id : ℕ
  shopOwnerId : ℕ
  encryptedToken : String
  botTelegramId : ℤ
  botUsername : String
  webhookSecretToken : String
  tenantMode : TenantMode := .SALES
  knowledgeChannelId : Option String := none
  knowledgeChannelBot : Option String := none
  isActive : Bool := true
  disabledReason : Option String := none
  deriving DecidableEq, Repr

structure ChannelKnowledge where
  id : ℕ
  shopBotId : ℕ
  sourceChannelId : String
  text : String
  postedAt : Datetime
  deriving DecidableEq, Repr

structure Customer where
  id : ℕ
  shopBotId : ℕ
  telegramId : ℤ
  firstName : Option String := none
  username : Option String := none
  lastMessageAt : Option Datetime := none
  deriving DecidableEq, Repr

structure Product where
  id : ℕ
  shopBotId : ℕ
  name : String
  description : Option String := none
  priceToman : ℤ
  photoFileId : Option String := none
  stockQuantity : Option ℤ := none
  reservedQuantity : ℤ := 0
  isActive : Bool := true
  deriving DecidableEq, Repr

structure OrderConsultation where
  id : ℕ
  shopBotId : ℕ
  customerId : ℕ
  type : OrderType
  summary : String
  estimatedValueToman : Option ℤ := none
  productId : Option ℕ := none
  quantity : Option ℤ := none
  customerPhone : Option String := none
  customerAddress : Option String := none
  confirmed : Bool := false
  confirmedAt : Option Datetime := none
  status : OrderStatus := .PENDING
  stockReserved : Bool := false
  reservationExpiresAt : Option Datetime := none
  createdAt : Datetime
  deriving DecidableEq, Repr

/-- `order.quantity or 1`. -/
def OrderConsultation.qty (o : OrderConsultation) : ℤ :=
  match o.quantity with
  | some n => if n = 0 then 1 else n
  | none => 1

instance : Keyed ShopBot := ⟨ShopBot.id⟩
instance : Keyed ChannelKnowledge := ⟨ChannelKnowledge.id⟩
instance : Keyed Customer := ⟨Customer.id⟩
instance : Keyed Product := ⟨Product.id⟩
instance : Keyed OrderConsultation := ⟨OrderConsultation.id⟩

/-! ## Conversations and moderation -/

inductive ModerationAction where
  | WARN
  | BLOCK
  | REVIEW
  deriving DecidableEq, Repr

structure ModerationRule where
  id : ℕ
  pattern : String
  isRegex : Bool := false
  action : ModerationAction := .REVIEW
  category : Option String := none
  isActive : Bool := true
  deriving DecidableEq, Repr

inductive MessageRole where
  | user
  | assistant
  deriving DecidableEq, Repr

structure ConversationMessage where
  id : ℕ
  customerId : ℕ
  role : MessageRole
  content : String
  deriving DecidableEq, Repr

inductive AiKeyCapability where
  | CHAT
  | VISION
  | BOTH
  deriving DecidableEq, Repr

structure AiApiKeyPoolEntry where
  id : ℕ
  capability : AiKeyCapability
  isActive : Bool := true
  deriving DecidableEq, Repr

structure MandatoryChannel where
  id : ℕ
  channelId : String
  isPrimary : Bool := false
  deriving DecidableEq, Repr

/-- `otp_codes.purpose` -/
inductive OtpPurpose where
  | registrationPhone
  | registrationEmail
  deriving DecidableEq, Repr

structure OtpCode where
  id : ℕ
  shopOwnerId : ℕ
  code : String
  purpose : OtpPurpose
  expiresAt : Datetime
  consumed : Bool := false
  deriving DecidableEq, Repr

instance : Keyed MandatoryChannel := ⟨MandatoryChannel.id⟩
instance : Keyed OtpCode := ⟨OtpCode.id⟩
instance : Keyed ModerationRule := ⟨ModerationRule.id⟩
instance : Keyed ConversationMessage := ⟨ConversationMessage.id⟩
instance : Keyed AiApiKeyPoolEntry := ⟨AiApiKeyPoolEntry.id⟩

/-- The settings row. -/
structure AdminSettings where
  walletTopupValidityMonths : ℤ := 12
  /-- `referral_reward_value`, `Numeric(10, 2)`, in hundredths of a percent -/
  referralRewardValueCents : ℤ := 1000
  paymentReservationMinutes : ℤ := 60
  zarinpalEnabled : Bool := true
  zarinpalMerchantId : Option String := none
  balePayEnabled : Bool := false
  baleProviderToken : Option String := none
  orderReservationMinutes : ℤ := 60
  orderCustomerConfirmationTimeoutMinutes : ℤ := 60
  aiApiKey : Option String := none
  smsApiKey : Option String := none
  allowNewRegistrations : Bool := true
  allowWalletTopups : Bool := true
  maintenanceMode : Bool := false
  walletCostPer1kTokensToman : ℤ := 50
  walletCostPhotoAnalysisToman : ℤ := 500
  walletCostVoiceTranscriptionToman : ℤ := 300
  walletCostOrderDetectionToman : ℤ := 100
  walletLowBalanceWarningToman : ℤ := 20000
  walletTrialCreditToman : ℤ := 50000
  deriving DecidableEq, Repr

end KasbOKar
