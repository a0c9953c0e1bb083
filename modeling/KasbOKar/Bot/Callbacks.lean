import KasbOKar.Admin.Panel
import KasbOKar.Bot.Keyboards
import KasbOKar.Lib.Routes

/-!
# Inline buttons and their handlers

The `callback_data` of a button comes back as a text when it is pressed, and anybody can send any text.  The
routers of the main bot choose a handler by the text, the role of the user and the state of the dialog, and
the handler reads its arguments from the text.

`press` says that a button of the keyboards always reaches the handler that is meant for it, with the
arguments it was made with; `receive_perm` that the order in which handlers and routers are registered does
not matter; and `every_item_reached` that in a list with pages every item can be reached by pressing buttons.
-/

namespace KasbOKar

open Input Routes

/-! ## Handlers -/

/-- The handlers of `callback_query`, by the buttons they are for. -/
inductive CallbackHandler where
  | plain (action : PlainAction)
  | item (action : ItemAction)
  | choice (action : ChoiceAction)
  | paged (action : PagedAction)
  | editField
  deriving DecidableEq, Repr

inductive CallbackRouter where
  | admin
  | adminSuper
  | panel
  | products
  | start
  deriving DecidableEq, Repr

/-- The states of dialogs that a handler of a button asks for. -/
inductive CallbackState where
  | broadcastConfirmation
  | channelIsPrimary
  | pricingDiscountType
  | paymentDiscountCode
  | importConfirmation
  | elsewhere
  deriving DecidableEq, Repr

/-- What the filters see beside the text. -/
structure CallbackContext where
  isAdmin : Bool
  isSuperAdmin : Bool
  state : Option CallbackState
  deriving DecidableEq, Repr

namespace CallbackHandler

/-- `F.data == text` or `F.data.startswith(text)`. -/
def filter : CallbackHandler → Routes.Filter Char
  | plain action => .exact action.data.toList
  | item action => .startsWith (action.name ++ ":").toList
  | choice action => .startsWith (action.name ++ ":").toList
  | paged action => .startsWith action.name.toList
  | editField => .startsWith "product_edit_field:".toList

/-- The state in the decorator. -/
def state? : CallbackHandler → Option CallbackState
  | plain .broadcastConfirm => some .broadcastConfirmation
  | plain .broadcastCancel => some .broadcastConfirmation
  | plain .skipDiscount => some .paymentDiscountCode
  | plain .productBulkImportConfirm => some .importConfirmation
  | plain .productBulkImportCancel => some .importConfirmation
  | choice .channelPrimary => some .channelIsPrimary
  | choice .discountType => some .pricingDiscountType
  | _ => none

end CallbackHandler

section Registration

open CallbackHandler PlainAction ItemAction ChoiceAction PagedAction

/-- `admin.router`. -/
def adminCallbacks : List CallbackHandler :=
  [item approvePayment, item rejectPayment, plain broadcastConfirm, plain broadcastCancel,
    plain channelList, plain channelAdd, choice channelPrimary, item channelDelete,
    item channelDeleteConfirm, plain noop, paged ownersList, item ownerView, item ownerSuspend,
    item ownerUnsuspend, item ownerGift, item ownerWalletCorrection, plain modRulesList, plain modRuleAdd,
    choice modRuleAction, item modRuleView, item modRuleToggle, item modRuleDelete]

/-- `admin.super_router`. -/
def adminSuperCallbacks : List CallbackHandler :=
  [plain pricingMenu, plain pricingPlans, plain toggleZarinpal, plain toggleBalePay,
    plain recalcWalletCost, plain toggleRegistrations, plain toggleTopups, plain toggleMaintenance,
    item planToggle, plain planAdd, plain pricingDiscounts, item discountToggle, plain discountAdd,
    choice discountType, choice settingEdit, plain aiPoolList, plain aiPoolAdd, item aiPoolView,
    item aiPoolToggle, item aiPoolDelete, plain adminRoleList, plain adminRoleAdd, item adminRoleView,
    item adminRoleRevoke]

/-- `panel.router`. -/
def panelCallbacks : List CallbackHandler :=
  [choice tenantMode, choice knowledgeBot, plain walletHistory, plain topupStart, plain costCalcStart,
    choice costCalcVolume, choice topupAmount, plain skipDiscount, plain paymentMethodCard,
    plain paymentMethodZarinpal, plain paymentMethodBale, choice exportExcel, item confirmOrder,
    item rejectOrder, item advanceOrder]

/-- `products.router`. -/
def productsCallbacks : List CallbackHandler :=
  [paged productList, item productView, plain productAdd, plain productBulkImport,
    plain productBulkImportConfirm, plain productBulkImportCancel, item productDelete,
    item productDeleteConfirm, item productEdit, editField]

/-- `start.router`. -/
def startCallbacks : List CallbackHandler := [plain checkChannelsMembership, plain activateTrial]

/-- `build_main_router`. -/
def callbackHandlers : List CallbackHandler :=
  adminCallbacks ++ adminSuperCallbacks ++ panelCallbacks ++ productsCallbacks ++ startCallbacks

end Registration

namespace CallbackHandler

def router (h : CallbackHandler) : CallbackRouter :=
  if h ∈ adminCallbacks then .admin
  else if h ∈ adminSuperCallbacks then .adminSuper
  else if h ∈ panelCallbacks then .panel
  else if h ∈ productsCallbacks then .products
  else .start

/-- `IsAdmin`, `IsSuperAdmin` and the state. -/
def onDuty (c : CallbackContext) (h : CallbackHandler) : Bool :=
  (match h.router with
    | .admin => c.isAdmin
    | .adminSuper => c.isSuperAdmin
    | _ => true) &&
  h.state?.all fun s => c.state == some s

theorem mem_callbackHandlers (h : CallbackHandler) : h ∈ callbackHandlers := by
  cases h with
  | plain action => cases action <;> decide
  | item action => cases action <;> decide
  | choice action => cases action <;> decide
  | paged action => cases action <;> decide
  | editField => decide

theorem separate : Separate filter callbackHandlers := by
  unfold Separate
  decide +kernel

end CallbackHandler

/-! ## Reading the arguments -/

/-- `callback.data.split(":")[1]`, where the filter has seen a colon. -/
def secondField (data : String) : String := .ofList ((data.toList.splitOn ':').getD 1 [])

/-- `callback.data.split(":", 1)[1]`, where the filter has seen a colon. -/
def afterColon (data : String) : String := .ofList (data.toList.dropWhile (· != ':')).tail

/-- What a handler reads. -/
inductive Request where
  | plain (action : PlainAction)
  | item (action : ItemAction) (id : ℤ)
  | page (action : PagedAction) (number : ℤ)
  | choice (answer : Choice)
  /-- The field is looked up when the answer to its question comes. -/
  | editField (productId : ℤ) (field : String)
  deriving DecidableEq

namespace ChoiceAction

/-- The text that is read. -/
def text (data : String) : ChoiceAction → String
  | costCalcVolume => afterColon data
  | topupAmount => afterColon data
  | settingEdit => afterColon data
  | _ => secondField data

def volume? (text : String) : Option Volume :=
  if text = "low" then some .low
  else if text = "medium" then some .medium
  else if text = "high" then some .high
  else if text = "very_high" then some .veryHigh
  else none

/-- The value of an enumeration. -/
def moderationAction? (text : String) : Option ModerationAction :=
  if text = "warn" then some .WARN
  else if text = "block" then some .BLOCK
  else if text = "review" then some .REVIEW
  else none

/-- What the text is taken for; `none` if the handler raises or does nothing. -/
def answer (text : String) : ChoiceAction → Option Choice
  | tenantMode => some (.tenantMode (if text = "consultation" then .CONSULTATION else .SALES))
  | knowledgeBot => some (.knowledgeBot (text != "main"))
  | costCalcVolume => (volume? text).map .costCalcVolume
  | topupAmount =>
    if text = "custom" then some (.topupAmount none)
    else (int text).toOption.map fun amount => .topupAmount (some amount)
  | exportExcel => some (.exportExcel (text == "customers"))
  | discountType => some (.discountType (if text = "percent" then .PERCENT else .FIXED))
  | modRuleAction => (moderationAction? text).map .modRuleAction
  | channelPrimary => some (.channelPrimary (text == "yes"))
  | settingEdit =>
    if text = "rate_limit" then some (.settingEdit none)
    else (settingField? text).map fun field => .settingEdit (some field)

end ChoiceAction

namespace CallbackHandler

/-- The request that a handler reads; `none` if it raises. -/
def read (data : String) : CallbackHandler → Option Request
  | plain action => some (.plain action)
  | item action => (int (secondField data)).toOption.map (.item action)
  | choice action => (action.answer (action.text data)).map .choice
  | paged action =>
    some (.page action (if ':' ∈ data.toList then (int (afterColon data)).toOption.getD 0 else 0))
  | editField =>
    match data.toList.splitOn ':' with
    | [_, productId, field] =>
      (int (.ofList productId)).toOption.map fun productId => .editField productId (.ofList field)
    | _ => none

end CallbackHandler

/-- A press on a button with this text, or a text that somebody sends. -/
def receive (handlers : List CallbackHandler) (c : CallbackContext) (data : String) : Option Request :=
  (dispatch CallbackHandler.filter CallbackHandler.onDuty handlers c data.toList).bind fun h => h.read data

namespace Button

/-- The handler a button is made for. -/
def handler : Button → CallbackHandler
  | plain action => .plain action
  | item action _ => .item action
  | list action => .paged action
  | page action _ => .paged action
  | choice answer => .choice answer.action
  | editField _ _ => .editField

/-- What a press on it asks for. -/
def request : Button → Request
  | plain action => .plain action
  | item action id => .item action id
  | list action => .page action 0
  | page action number => .page action number
  | choice answer => .choice answer
  | editField productId field => .editField productId field.text

end Button

/-! ## Texts of numbers -/

theorem toList_toString (n : ℕ) : (toString n).toList = Nat.toDigits 10 n := String.toList_ofList

theorem colon_notMem_toString (n : ℕ) : ':' ∉ (toString n).toList := by
  rw [toList_toString]
  intro h
  exact absurd (DecimalText.isDigit_toDigits ':' h) (by decide)

theorem length_toDigits_le {n : ℕ} (h : n ≤ 2147483647) : (Nat.toDigits 10 n).length ≤ 10 :=
  (Nat.length_toDigits_le_iff (by decide) (by decide)).2 (by omega)

/-- `int(str(n))`. -/
theorem int_toString {n : ℕ} (h : n ≤ 2147483647) : int (toString n) = .ok n := by
  have hascii : ∀ c ∈ (toString n).toList, c.isDigit = true := by
    rw [toList_toString]
    exact DecimalText.isDigit_toDigits
  have hspace : ∀ c ∈ (toString n).toList, isSpace c = false := by
    intro c hc
    have hsep := not_isSeparator_of_ascii (hascii c hc)
    unfold isSeparator at hsep
    simp only [Bool.or_eq_false_iff] at hsep
    exact hsep.2
  have hdecimal : ∀ c ∈ (toString n).toList, DecimalText.isDecimal c = true := fun c hc =>
    DecimalText.isDecimal_of_ascii (hascii c hc)
  have hdigit : ∀ c ∈ (toString n).toList, DecimalText.isDigit c = true := fun c hc =>
    DecimalText.isDigit_of_isDecimal (hdecimal c hc)
  have hlength : (toString n).toList.length ≤ intMaxStrDigits := by
    rw [toList_toString]
    exact (length_toDigits_le h).trans (by decide)
  have hne : (toString n).toList ≠ [] := by
    rw [toList_toString]
    exact Nat.toDigits_ne_nil
  rw [int_of_digits hdigit hspace,
    (unsignedInt_of_digits hne hdigit).1 fun _ => ⟨hdecimal, hlength⟩, toList_toString,
    DecimalText.value_toDigits]

/-! ## Reading what was written -/

section RoundTrip

variable {name text : String}

theorem toList_data : (name ++ ":" ++ text).toList = name.toList ++ ':' :: text.toList := by
  rw [String.toList_append, String.toList_append, List.append_assoc]
  rfl

theorem secondField_data (hname : ':' ∉ name.toList) (htext : ':' ∉ text.toList) :
    secondField (name ++ ":" ++ text) = text := by
  unfold secondField
  rw [toList_data, List.splitOn_append_cons_self_of_not_mem hname, List.splitOn_eq_singleton htext]
  exact String.ofList_toList

theorem afterColon_data (hname : ':' ∉ name.toList) : afterColon (name ++ ":" ++ text) = text := by
  have hdrop : (name.toList ++ ':' :: text.toList).dropWhile (· != ':') = ':' :: text.toList := by
    have hne : ∀ c ∈ name.toList, (c != ':') = true := fun c hc =>
      bne_iff_ne.2 fun h => hname (h ▸ hc)
    rw [List.dropWhile_append_of_pos hne]
    rfl
  unfold afterColon
  rw [toList_data, hdrop, List.tail_cons, String.ofList_toList]

end RoundTrip

theorem ItemAction.colon_notMem_name (action : ItemAction) : ':' ∉ action.name.toList := by
  cases action <;> decide

theorem PagedAction.colon_notMem_name (action : PagedAction) : ':' ∉ action.name.toList := by
  cases action <;> decide

theorem ChoiceAction.colon_notMem_name (action : ChoiceAction) : ':' ∉ action.name.toList := by
  cases action <;> decide

theorem SettingField.colon_notMem_name (field : SettingField) : ':' ∉ field.name.toList := by
  cases field with
  | nullableText field => cases field <;> decide
  | text field => cases field <;> decide
  | int field => cases field <;> decide
  | decimal field => cases field <;> decide

/-- A key of the menu is not `rate_limit`, and it is looked up as the field it stands for. -/
theorem settingField?_name (field : SettingField) :
    field.name ≠ "rate_limit" ∧ settingField? field.name = some field := by
  cases field with
  | nullableText field => cases field <;> decide
  | text field => cases field <;> decide
  | int field => cases field <;> decide
  | decimal field => cases field <;> decide

theorem Choice.colon_notMem_text (answer : Choice) : ':' ∉ answer.text.toList := by
  cases answer with
  | tenantMode mode => cases mode <;> decide
  | knowledgeBot shop => cases shop <;> decide
  | costCalcVolume volume => cases volume <;> decide
  | topupAmount amount =>
    cases amount with
    | none => decide
    | some amount => exact colon_notMem_toString _
  | exportExcel customers => cases customers <;> decide
  | discountType type => cases type <;> decide
  | modRuleAction action => cases action <;> decide
  | channelPrimary yes => cases yes <;> decide
  | settingEdit field =>
    cases field with
    | none => decide
    | some field => exact field.colon_notMem_name

theorem ChoiceAction.text_data (answer : Choice) :
    answer.action.text (answer.action.name ++ ":" ++ answer.text) = answer.text := by
  have hname := answer.action.colon_notMem_name
  have htext := answer.colon_notMem_text
  cases answer with
  | costCalcVolume => exact afterColon_data hname
  | topupAmount => exact afterColon_data hname
  | settingEdit => exact afterColon_data hname
  | _ => exact secondField_data hname htext

/-- An answer that is written is taken for itself. -/
theorem ChoiceAction.answer_text {answer : Choice} (hissued : (Button.choice answer).Issued) :
    answer.action.answer answer.text = some answer := by
  cases answer with
  | tenantMode mode => cases mode <;> rfl
  | knowledgeBot shop => cases shop <;> rfl
  | costCalcVolume volume => cases volume <;> rfl
  | topupAmount amount =>
    cases amount with
    | none => rfl
    | some amount =>
      have hpreset : ∀ amount ∈ topupAmountPresetsToman, 0 ≤ amount ∧ amount.toNat ≤ 2147483647 := by
        decide
      obtain ⟨hnonneg, hle⟩ := hpreset amount hissued
      have hcustom : toString amount.toNat ≠ "custom" := by
        intro h
        have hdigit := DecimalText.isDigit_toDigits (n := amount.toNat) 'c'
        rw [← toList_toString, h] at hdigit
        exact absurd (hdigit (by decide)) (by decide)
      dsimp only [Choice.action, Choice.text, ChoiceAction.answer]
      rw [if_neg hcustom, int_toString hle, Int.toNat_of_nonneg hnonneg]
      rfl
  | exportExcel customers => cases customers <;> rfl
  | discountType type => cases type <;> rfl
  | modRuleAction action => cases action <;> rfl
  | channelPrimary yes => cases yes <;> rfl
  | settingEdit field =>
    cases field with
    | none => rfl
    | some field =>
      obtain ⟨hne, hfield⟩ := settingField?_name field
      dsimp only [Choice.action, Choice.text, ChoiceAction.answer]
      rw [if_neg hne, hfield]
      rfl

theorem ProductField.colon_notMem_text (field : ProductField) : ':' ∉ field.text.toList := by
  cases field <;> decide

theorem accepts_append (name text : String) :
    (Filter.startsWith name.toList).accepts (name ++ text).toList = true :=
  Filter.accepts_startsWith.2 ⟨text.toList, String.toList_append.symm⟩

/-- The handler of a button accepts its text, -/
theorem Button.accepts (b : Button) : b.handler.filter.accepts b.data.toList = true := by
  cases b with
  | plain action => exact Filter.accepts_exact.2 rfl
  | item action id =>
    dsimp only [Button.handler, Button.data, CallbackHandler.filter]
    exact accepts_append (action.name ++ ":") (toString id)
  | list action => exact Filter.accepts_startsWith.2 List.prefix_rfl
  | page action number =>
    dsimp only [Button.handler, Button.data, CallbackHandler.filter]
    rw [String.append_assoc]
    exact accepts_append action.name (":" ++ toString number)
  | choice answer =>
    dsimp only [Button.handler, Button.data, CallbackHandler.filter]
    exact accepts_append (answer.action.name ++ ":") answer.text
  | editField productId field =>
    dsimp only [Button.handler, Button.data, CallbackHandler.filter]
    rw [String.append_assoc, String.append_assoc]
    exact accepts_append "product_edit_field:" (toString productId ++ (":" ++ field.text))

/-- and reads from it what the button was made for. -/
theorem Button.read_data {b : Button} (hissued : b.Issued) : b.handler.read b.data = some b.request := by
  cases b with
  | plain action => rfl
  | item action id =>
    dsimp only [Button.handler, Button.data, CallbackHandler.read]
    rw [secondField_data action.colon_notMem_name (colon_notMem_toString id), int_toString hissued]
    rfl
  | list action =>
    dsimp only [Button.handler, Button.data, CallbackHandler.read]
    rw [if_neg action.colon_notMem_name]
    rfl
  | page action number =>
    have hcolon : ':' ∈ (action.name ++ ":" ++ toString number).toList := by
      rw [toList_data]
      exact List.mem_append_right _ List.mem_cons_self
    dsimp only [Button.handler, Button.data, CallbackHandler.read]
    rw [if_pos hcolon, afterColon_data action.colon_notMem_name, int_toString hissued]
    rfl
  | choice answer =>
    dsimp only [Button.handler, Button.data, CallbackHandler.read]
    rw [ChoiceAction.text_data, ChoiceAction.answer_text hissued]
    rfl
  | editField productId field =>
    have hsplit : ("product_edit_field:" ++ toString productId ++ ":" ++ field.text).toList.splitOn ':' =
        ["product_edit_field".toList, (toString productId).toList, field.text.toList] := by
      have hfirst : "product_edit_field:".toList = "product_edit_field".toList ++ [':'] := by decide
      rw [toList_data, String.toList_append, hfirst, List.append_assoc, List.append_assoc,
        List.singleton_append, List.splitOn_append_cons_self_of_not_mem (by decide),
        List.splitOn_append_cons_self_of_not_mem (colon_notMem_toString productId),
        List.splitOn_eq_singleton field.colon_notMem_text]
    dsimp only [Button.handler, Button.data, CallbackHandler.read]
    rw [hsplit]
    dsimp only
    rw [String.ofList_toList, String.ofList_toList, int_toString hissued]
    rfl

/-! ## The size of a text -/

/-- The bytes of a text in UTF-8. -/
def bytes (s : String) : ℕ := (s.toList.map Char.utf8Size).sum

theorem bytes_append (s t : String) : bytes (s ++ t) = bytes s + bytes t := by
  unfold bytes
  rw [String.toList_append, List.map_append, List.sum_append]

theorem utf8Size_of_isDigit {c : Char} (h : c.isDigit = true) : c.utf8Size = 1 := by
  have hle := (DecimalText.toNat_of_ascii h).2
  unfold Char.utf8Size
  exact if_pos (UInt32.le_iff_toNat_le.2 (hle.trans (by decide)))

theorem bytes_toString {n : ℕ} (h : n ≤ 2147483647) : bytes (toString n) ≤ 10 := by
  have hone : ∀ k ∈ (Nat.toDigits 10 n).map Char.utf8Size, k = 1 := by
    intro k hk
    obtain ⟨c, hc, rfl⟩ := List.mem_map.1 hk
    exact utf8Size_of_isDigit (DecimalText.isDigit_toDigits c hc)
  unfold bytes
  rw [toList_toString, List.eq_replicate_of_mem hone, List.sum_replicate, List.length_map,
    smul_eq_mul, mul_one]
  exact length_toDigits_le h

theorem ItemAction.bytes_name (action : ItemAction) : bytes action.name ≤ 29 := by
  cases action <;> decide

theorem PagedAction.bytes_name (action : PagedAction) : bytes action.name ≤ 17 := by
  cases action <;> decide

theorem SettingField.bytes_name (field : SettingField) : bytes field.name ≤ 43 := by
  cases field with
  | nullableText field => cases field <;> decide
  | text field => cases field <;> decide
  | int field => cases field <;> decide
  | decimal field => cases field <;> decide

/-- The longest texts are those of the settings. -/
theorem Choice.bytes_data {answer : Choice} (hissued : (Button.choice answer).Issued) :
    bytes answer.action.name + bytes answer.text ≤ 61 := by
  cases answer with
  | tenantMode mode => cases mode <;> decide
  | knowledgeBot shop => cases shop <;> decide
  | costCalcVolume volume => cases volume <;> decide
  | topupAmount amount =>
    cases amount with
    | none => decide
    | some amount =>
      have hpreset : ∀ amount ∈ topupAmountPresetsToman, amount.toNat ≤ 2147483647 := by decide
      have hbytes := bytes_toString (hpreset amount hissued)
      have hname : bytes ChoiceAction.topupAmount.name = 12 := by decide
      dsimp only [Choice.action, Choice.text]
      omega
  | exportExcel customers => cases customers <;> decide
  | discountType type => cases type <;> decide
  | modRuleAction action => cases action <;> decide
  | channelPrimary yes => cases yes <;> decide
  | settingEdit field =>
    have hname : bytes ChoiceAction.settingEdit.name = 18 := by decide
    cases field with
    | none => decide
    | some field =>
      have hbytes := field.bytes_name
      dsimp only [Choice.action, Choice.text]
      omega

theorem Button.bytes_data {b : Button} (hissued : b.Issued) : bytes b.data ≤ 64 := by
  have hcolon : bytes ":" = 1 := by decide
  cases b with
  | plain action => cases action <;> decide
  | item action id =>
    have hname := action.bytes_name
    have hid := bytes_toString hissued
    dsimp only [Button.data]
    rw [bytes_append, bytes_append]
    omega
  | list action => cases action <;> decide
  | page action number =>
    have hname := action.bytes_name
    have hnumber := bytes_toString hissued
    dsimp only [Button.data]
    rw [bytes_append, bytes_append]
    omega
  | choice answer =>
    have hdata := Choice.bytes_data hissued
    dsimp only [Button.data]
    rw [bytes_append, bytes_append]
    omega
  | editField productId field =>
    have hname : bytes "product_edit_field:" = 19 := by decide
    have hid := bytes_toString hissued
    have hfield : bytes field.text ≤ 11 := by cases field <;> decide
    dsimp only [Button.data]
    rw [bytes_append, bytes_append, bytes_append]
    omega

/-! ## Pressing a button -/

open CallbackHandler in
theorem receive_data {handlers : List CallbackHandler} (hperm : handlers.Perm callbackHandlers)
    {b : Button} (hissued : b.Issued) (c : CallbackContext) :
    receive handlers c b.data = if b.handler.onDuty c then some b.request else none := by
  unfold receive
  rw [dispatch_perm separate hperm, dispatch_eq separate (mem_callbackHandlers b.handler) b.accepts]
  split_ifs with hduty
  · exact Button.read_data hissued
  · rfl

/-- **A button reaches the handler it is made for**, with the arguments it was made with, and its text is
within the 64 bytes that Telegram takes. -/
theorem press {handlers : List CallbackHandler} (hperm : handlers.Perm callbackHandlers) {b : Button}
    (hissued : b.Issued) (c : CallbackContext) :
    bytes b.data ≤ 64 ∧
      receive handlers c b.data = if b.handler.onDuty c then some b.request else none :=
  ⟨Button.bytes_data hissued, receive_data hperm hissued c⟩

/-- An operator goes to the fourth page of the owners, with the routers in another order. -/
theorem press_ownersList :
    bytes (Button.page .ownersList 3).data ≤ 64 ∧
      receive callbackHandlers.reverse ⟨true, false, none⟩ (Button.page .ownersList 3).data =
        if (Button.page .ownersList 3).handler.onDuty ⟨true, false, none⟩ then
          some (Button.page .ownersList 3).request
        else none :=
  press (b := .page .ownersList 3) (List.reverse_perm _) (show 3 ≤ 2147483647 by decide) _

/-! ## Any text -/

/-- The handler that reads a request. -/
def Request.handler : Request → CallbackHandler
  | plain action => .plain action
  | item action _ => .item action
  | page action _ => .paged action
  | choice answer => .choice answer.action
  | editField _ _ => .editField

theorem ChoiceAction.action_answer {action : ChoiceAction} {text : String} {answer : Choice}
    (h : action.answer text = some answer) : answer.action = action := by
  cases action with
  | tenantMode => cases h; rfl
  | knowledgeBot => cases h; rfl
  | costCalcVolume =>
    obtain ⟨volume, -, rfl⟩ := Option.map_eq_some_iff.1 h
    rfl
  | topupAmount =>
    dsimp only [ChoiceAction.answer] at h
    split_ifs at h
    · cases h; rfl
    · obtain ⟨amount, -, rfl⟩ := Option.map_eq_some_iff.1 h
      rfl
  | exportExcel => cases h; rfl
  | discountType => cases h; rfl
  | modRuleAction =>
    obtain ⟨action, -, rfl⟩ := Option.map_eq_some_iff.1 h
    rfl
  | channelPrimary => cases h; rfl
  | settingEdit =>
    dsimp only [ChoiceAction.answer] at h
    split_ifs at h
    · cases h; rfl
    · obtain ⟨field, -, rfl⟩ := Option.map_eq_some_iff.1 h
      rfl

theorem CallbackHandler.handler_read {h : CallbackHandler} {data : String} {r : Request}
    (hr : h.read data = some r) : r.handler = h := by
  cases h with
  | plain action => cases hr; rfl
  | item action =>
    dsimp only [CallbackHandler.read] at hr
    obtain ⟨id, -, rfl⟩ := Option.map_eq_some_iff.1 hr
    rfl
  | choice action =>
    dsimp only [CallbackHandler.read] at hr
    obtain ⟨answer, hanswer, rfl⟩ := Option.map_eq_some_iff.1 hr
    exact congrArg CallbackHandler.choice (ChoiceAction.action_answer hanswer)
  | paged action =>
    dsimp only [CallbackHandler.read] at hr
    rw [← Option.some.inj hr]
    rfl
  | editField =>
    dsimp only [CallbackHandler.read] at hr
    split at hr
    · obtain ⟨productId, -, rfl⟩ := Option.map_eq_some_iff.1 hr
      rfl
    · cases hr

/-- **Whatever text is sent**, the order of the handlers does not matter, and what it is read as is a request
for which the user has the role and the state. -/
theorem receive_perm {handlers : List CallbackHandler} (hperm : handlers.Perm callbackHandlers)
    (c : CallbackContext) (data : String) :
    receive handlers c data = receive callbackHandlers c data ∧
      ∀ r, receive handlers c data = some r → r.handler.onDuty c = true := by
  refine ⟨by unfold receive; rw [dispatch_perm CallbackHandler.separate hperm], fun r hr => ?_⟩
  obtain ⟨h, hdispatch, hread⟩ := Option.bind_eq_some_iff.1 hr
  rw [CallbackHandler.handler_read hread]
  have hfound := List.find?_some hdispatch
  rw [Bool.and_eq_true] at hfound
  exact hfound.1

theorem receive_perm_forged :
    receive callbackHandlers.reverse ⟨false, false, none⟩ "admin_owner_gift:7" =
        receive callbackHandlers ⟨false, false, none⟩ "admin_owner_gift:7" ∧
      ∀ r, receive callbackHandlers.reverse ⟨false, false, none⟩ "admin_owner_gift:7" = some r →
        r.handler.onDuty ⟨false, false, none⟩ = true :=
  receive_perm (List.reverse_perm _) _ _

/-! ## Turning pages -/

section Pages

variable (c : CallbackContext) (action : PagedAction) (ids : List ℕ)

/-- One press on a button of the list that shows `page`, and the page that is shown then. -/
def Turns (page page' : ℤ) : Prop :=
  ∃ b ∈ (pagedKeyboard action ids page).flatten,
    receive callbackHandlers c b.data = some (.page action page')

/-- The button of an item is on the list that shows `page`, and leads to the item. -/
def Offers (page : ℤ) (id : ℕ) : Prop :=
  ∃ b ∈ (pagedKeyboard action ids page).flatten,
    receive callbackHandlers c b.data = some (.item action.view id)

variable {c action ids}

theorem turns_of_mem (hduty : (CallbackHandler.paged action).onDuty c = true)
    (hlength : ids.length ≤ 2147483647) {page : ℤ} {number : ℕ}
    (hrow : .page action number ∈ paginationRow (shownPage ids page) (totalPages ids) action)
    (hnumber : number < totalPages ids) : Turns c action ids page number := by
  have hissued : (Button.page action number).Issued := by
    have htotal := totalPages_le ids
    show number ≤ 2147483647
    omega
  refine ⟨.page action number, page_mem_pagedKeyboard.2 hrow, ?_⟩
  rw [receive_data (List.Perm.refl _) hissued]
  exact if_pos hduty

/-- From any page one gets to any other, a page at a time. -/
theorem exists_turns (hduty : (CallbackHandler.paged action).onDuty c = true)
    (hlength : ids.length ≤ 2147483647) {target : ℕ} (htarget : target < totalPages ids) (page : ℤ) :
    ∃ page', Relation.ReflTransGen (Turns c action ids) page page' ∧ shownPage ids page' = target := by
  obtain ⟨n, hn⟩ : ∃ n, (max target (shownPage ids page)) - min target (shownPage ids page) = n :=
    ⟨_, rfl⟩
  induction n generalizing page with
  | zero => exact ⟨page, .refl, by omega⟩
  | succ n ih =>
    have hshown := shownPage_lt ids page
    rcases lt_or_gt_of_ne (show target ≠ shownPage ids page by omega) with hlt | hgt
    · -- back
      have hturn : Turns c action ids page (shownPage ids page - 1 : ℕ) :=
        turns_of_mem hduty hlength (mem_paginationRow.2 ⟨rfl, .inl ⟨by omega, by omega, rfl⟩⟩) (by omega)
      have hnext := shownPage_of_lt (show shownPage ids page - 1 < totalPages ids by omega)
      obtain ⟨page', hpage', heq⟩ := ih _ (by rw [hnext]; omega)
      exact ⟨page', .head hturn hpage', heq⟩
    · -- forth
      have hturn : Turns c action ids page (shownPage ids page + 1 : ℕ) :=
        turns_of_mem hduty hlength (mem_paginationRow.2 ⟨rfl, .inr ⟨by omega, rfl⟩⟩) (by omega)
      have hnext := shownPage_of_lt (show shownPage ids page + 1 < totalPages ids by omega)
      obtain ⟨page', hpage', heq⟩ := ih _ (by rw [hnext]; omega)
      exact ⟨page', .head hturn hpage', heq⟩

/-- **Every item of a list can be reached**, from whichever page the user is on. -/
theorem every_item_reached (hadmin : action = .ownersList → c.isAdmin = true)
    (hlength : ids.length ≤ 2147483647) (hids : ∀ id ∈ ids, id ≤ 2147483647) (page : ℤ) :
    ∀ id ∈ ids, ∃ page', Relation.ReflTransGen (Turns c action ids) page page' ∧
      Offers c action ids page' id := by
  have hduty : (CallbackHandler.paged action).onDuty c = true ∧
      (CallbackHandler.item action.view).onDuty c = true := by
    cases action with
    | productList => exact ⟨rfl, rfl⟩
    | ownersList =>
      have h := hadmin rfl
      exact ⟨by rw [← h]; exact Bool.and_true _, by rw [← h]; exact Bool.and_true _⟩
  intro id hid
  obtain ⟨target, htarget, hmem⟩ := exists_page hid
  obtain ⟨page', hturns, rfl⟩ := exists_turns hduty.1 hlength htarget page
  refine ⟨page', hturns, .item action.view id, mem_pagedKeyboard ?_, ?_⟩
  · exact mem_pagedRows.2 (.inl ⟨id, hmem, rfl⟩)
  · have hissued : (Button.item action.view id).Issued := hids id hid
    rw [receive_data (List.Perm.refl _) hissued]
    exact if_pos hduty.2

end Pages

/-- The last one of twenty-five products, from a page that does not exist any more. -/
theorem every_item_reached_products :
    24 ∈ List.range 25 ∧ ∃ page',
      Relation.ReflTransGen (Turns ⟨false, false, none⟩ .productList (List.range 25)) 9 page' ∧
        Offers ⟨false, false, none⟩ .productList (List.range 25) page' 24 :=
  ⟨by decide, every_item_reached (fun h => by cases h) (by rw [List.length_range]; decide)
    (fun id hid => (List.mem_range.1 hid).le.trans (by decide)) 9 24 (by decide)⟩

/-! ## The buttons of the panel -/

namespace AdminPanel

/-- The button of the panel's model that a request stands for. -/
def buttonOf : Request → Option AdminButton
  | .plain .broadcastConfirm => some .broadcastConfirm
  | .plain .broadcastCancel => some .broadcastCancel
  | .plain .noop => some .display
  | .plain .channelList => some .display
  | .plain .modRulesList => some .display
  | .plain .channelAdd => some .channelAdd
  | .plain .modRuleAdd => some .modRuleAdd
  | .plain .pricingMenu => some .pricingMenu
  | .plain .pricingPlans => some .superDisplay
  | .plain .aiPoolList => some .superDisplay
  | .plain .adminRoleList => some .superDisplay
  | .plain .toggleZarinpal => some .toggleZarinpal
  | .plain .toggleBalePay => some .toggleBalePay
  | .plain .recalcWalletCost => some .recalcWalletCost
  | .plain .toggleRegistrations => some .toggleRegistrations
  | .plain .toggleTopups => some .toggleTopups
  | .plain .toggleMaintenance => some .toggleMaintenance
  | .plain .planAdd => some .planAdd
  | .plain .aiPoolAdd => some .aiPoolAdd
  | .plain .adminRoleAdd => some .adminRoleAdd
  | .item .channelDelete _ => some .display
  | .item .ownerView _ => some .display
  | .item .modRuleView _ => some .display
  | .item .aiPoolView _ => some .superDisplay
  | .item .adminRoleView _ => some .superDisplay
  | .item .channelDeleteConfirm id => some (.channelDeleteConfirm id.toNat)
  | .item .ownerSuspend id => some (.ownerSuspend id.toNat)
  | .item .ownerUnsuspend id => some (.ownerUnsuspend id.toNat)
  | .item .ownerGift id => some (.ownerGift id.toNat)
  | .item .ownerWalletCorrection id => some (.ownerWalletCorrection id.toNat)
  | .item .modRuleToggle id => some (.modRuleToggle id.toNat)
  | .item .modRuleDelete id => some (.modRuleDelete id.toNat)
  | .item .planToggle id => some (.planToggle id.toNat)
  | .item .aiPoolToggle id => some (.aiPoolToggle id.toNat)
  | .item .aiPoolDelete id => some (.aiPoolDelete id.toNat)
  | .item .adminRoleRevoke id => some (.adminRoleRevoke id.toNat)
  | .page .ownersList _ => some .display
  | .choice (.channelPrimary yes) => some (.channelPrimary yes)
  | .choice (.modRuleAction action) => some (.modRuleAction action)
  | .choice (.settingEdit field) => some (.settingEdit (Choice.settingEdit field).text)
  | _ => none

/-- The states of the panel's dialogs, as the decorators name them. -/
def callbackState : DialogState → CallbackState
  | .broadcastConfirmation => .broadcastConfirmation
  | .channelIsPrimary => .channelIsPrimary
  | _ => .elsewhere

def callbackContext (cfg : PanelConfig) (db : PanelDb) (user : ℤ) (state : Option DialogState) :
    CallbackContext where
  isAdmin := isAdmin cfg db user = .ok true
  isSuperAdmin := isSuperAdmin cfg user
  state := state.map callbackState

theorem callbackState_eq (state : Option DialogState) :
    (state.map callbackState == some .broadcastConfirmation) = decide (state = some .broadcastConfirmation) ∧
      (state.map callbackState == some .channelIsPrimary) = decide (state = some .channelIsPrimary) := by
  cases state with
  | none => exact ⟨rfl, rfl⟩
  | some state => cases state <;> exact ⟨rfl, rfl⟩

section Sides

variable {cfg : PanelConfig} {env : PanelEnv} {db : PanelDb} {user : ℤ} {state : Option DialogState}
  {b : AdminButton}

theorem isSome_handlerOf_admin {ready : Bool} (h : (buttonHandler env user state b).isSome = ready)
    (hsuper : superButtonHandler env user b = none) :
    (handlerOf cfg env db user state (.button b)).isSome =
      (decide (isAdmin cfg db user = .ok true) && ready) := by
  dsimp only [handlerOf]
  rw [hsuper, ite_self, Option.or_none]
  split_ifs with hadmin
  · rw [h, decide_eq_true hadmin, Bool.true_and]
  · rw [decide_eq_false hadmin, Bool.false_and]
    rfl

theorem isSome_handlerOf_super (h : buttonHandler env user state b = none)
    (hsuper : (superButtonHandler env user b).isSome = true) :
    (handlerOf cfg env db user state (.button b)).isSome = (isSuperAdmin cfg user && true) := by
  dsimp only [handlerOf]
  rw [h, Option.none_or, Bool.and_true]
  by_cases hsuper' : isSuperAdmin cfg user = true
  · -- a super admin is an admin
    rw [if_pos (show isAdmin cfg db user = .ok true from if_pos hsuper'), if_pos hsuper', hsuper, hsuper']
  · rw [if_neg hsuper', ite_self, Bool.eq_false_iff.2 hsuper']
    rfl

end Sides

/-- **The panel has a handler for a button exactly when the routers have one for its text.** -/
theorem isSome_handlerOf (cfg : PanelConfig) (env : PanelEnv) (db : PanelDb) (user : ℤ)
    (state : Option DialogState) {r : Request} {b : AdminButton} (hb : buttonOf r = some b) :
    (handlerOf cfg env db user state (.button b)).isSome =
      r.handler.onDuty (callbackContext cfg db user state) := by
  obtain ⟨hbroadcast, hprimary⟩ := callbackState_eq state
  have hwaiting : ∀ (waiting : DialogState) (handler : Handler Unit),
      (if state = some waiting then some handler else none).isSome = decide (state = some waiting) := by
    intro waiting handler
    split_ifs with h
    · exact (decide_eq_true h).symm
    · exact (decide_eq_false h).symm
  cases r with
  | plain action =>
    cases action with
    | broadcastConfirm =>
      cases hb
      have h := hwaiting .broadcastConfirmation (broadcastConfirmed env)
      exact (isSome_handlerOf_admin (b := .broadcastConfirm) h rfl).trans (congrArg _ hbroadcast.symm)
    | broadcastCancel =>
      cases hb
      have h := hwaiting .broadcastConfirmation (broadcastCancelled env)
      exact (isSome_handlerOf_admin (b := .broadcastCancel) h rfl).trans (congrArg _ hbroadcast.symm)
    | _ =>
      cases hb <;>
        first
        | exact isSome_handlerOf_admin rfl rfl
        | exact isSome_handlerOf_super rfl rfl
  | item action id =>
    cases action <;> cases hb <;>
      first
      | exact isSome_handlerOf_admin rfl rfl
      | exact isSome_handlerOf_super rfl rfl
  | page action number =>
    cases action with
    | productList => cases hb
    | ownersList =>
      cases hb
      exact isSome_handlerOf_admin rfl rfl
  | choice answer =>
    cases answer with
    | channelPrimary yes =>
      cases hb
      have h := hwaiting .channelIsPrimary (channelAddPrimaryChoice env yes)
      exact (isSome_handlerOf_admin (b := .channelPrimary yes) h rfl).trans (congrArg _ hprimary.symm)
    | modRuleAction action =>
      cases hb
      exact isSome_handlerOf_admin rfl rfl
    | settingEdit field =>
      cases hb
      exact isSome_handlerOf_super rfl rfl
    | _ => cases hb
  | editField productId field => cases hb

end AdminPanel

end KasbOKar
