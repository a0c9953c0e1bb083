import KasbOKar.Admin.Tables
import KasbOKar.Payment.CodeAdmin
import KasbOKar.Shop.Handlers

/-!
# The keyboards of the main bot

`app/bots/main_bot/keyboards.py`: the inline buttons, with the `callback_data` that each of them carries, and
the lists with pages.  Labels and the buttons that open a URL are left out.

`flatMap_pages` says that the pages of a list are the list, and `exists_page` that every item is on a page
that exists.
-/

namespace KasbOKar

/-! ## Buttons -/

/-- The buttons without an argument. -/
inductive PlainAction where
  | checkChannelsMembership
  | activateTrial
  | productAdd
  | productBulkImport
  | productBulkImportConfirm
  | productBulkImportCancel
  | topupStart
  | costCalcStart
  | walletHistory
  | skipDiscount
  | paymentMethodCard
  | paymentMethodZarinpal
  | paymentMethodBale
  | broadcastConfirm
  | broadcastCancel
  | noop
  | channelAdd
  | channelList
  | pricingMenu
  | pricingPlans
  | pricingDiscounts
  | planAdd
  | discountAdd
  | toggleZarinpal
  | toggleBalePay
  | recalcWalletCost
  | toggleRegistrations
  | toggleTopups
  | toggleMaintenance
  | modRuleAdd
  | modRulesList
  | aiPoolAdd
  | aiPoolList
  | adminRoleAdd
  | adminRoleList
  deriving DecidableEq, Repr

/-- The buttons for one row of a table. -/
inductive ItemAction where
  | productView
  | productEdit
  | productDelete
  | productDeleteConfirm
  | approvePayment
  | rejectPayment
  | confirmOrder
  | rejectOrder
  | advanceOrder
  | channelDelete
  | channelDeleteConfirm
  | planToggle
  | discountToggle
  | ownerView
  | ownerSuspend
  | ownerUnsuspend
  | ownerGift
  | ownerWalletCorrection
  | modRuleView
  | modRuleToggle
  | modRuleDelete
  | aiPoolView
  | aiPoolToggle
  | aiPoolDelete
  | adminRoleView
  | adminRoleRevoke
  deriving DecidableEq, Repr

/-- The lists with pages. -/
inductive PagedAction where
  | productList
  | ownersList
  deriving DecidableEq, Repr

inductive Volume where
  | low
  | medium
  | high
  | veryHigh
  deriving DecidableEq, Repr

/-- The questions that are answered with a button. -/
inductive ChoiceAction where
  | tenantMode
  | knowledgeBot
  | costCalcVolume
  | topupAmount
  | exportExcel
  | discountType
  | modRuleAction
  | channelPrimary
  | settingEdit
  deriving DecidableEq, Repr

/-- The answers. -/
inductive Choice where
  | tenantMode (mode : TenantMode)
  /-- The shop's own bot, or the main bot. -/
  | knowledgeBot (shop : Bool)
  | costCalcVolume (volume : Volume)
  /-- An amount, or `custom`. -/
  | topupAmount (amount : Option ℤ)
  /-- The customers, or the orders. -/
  | exportExcel (customers : Bool)
  | discountType (type : DiscountType)
  | modRuleAction (action : ModerationAction)
  | channelPrimary (yes : Bool)
  /-- A field, or `rate_limit`, which is two of them. -/
  | settingEdit (field : Option SettingField)
  deriving DecidableEq

def Choice.action : Choice → ChoiceAction
  | tenantMode _ => .tenantMode
  | knowledgeBot _ => .knowledgeBot
  | costCalcVolume _ => .costCalcVolume
  | topupAmount _ => .topupAmount
  | exportExcel _ => .exportExcel
  | discountType _ => .discountType
  | modRuleAction _ => .modRuleAction
  | channelPrimary _ => .channelPrimary
  | settingEdit _ => .settingEdit

inductive Button where
  | plain (action : PlainAction)
  | item (action : ItemAction) (id : ℕ)
  | list (action : PagedAction)
  | page (action : PagedAction) (number : ℕ)
  | choice (answer : Choice)
  | editField (productId : ℕ) (field : ProductField)

/-! ## `callback_data` -/

def PlainAction.data : PlainAction → String
  | checkChannelsMembership => "check_channels_membership"
  | activateTrial => "activate_trial"
  | productAdd => "product_add"
  | productBulkImport => "product_bulk_import"
  | productBulkImportConfirm => "product_bulk_import_confirm"
  | productBulkImportCancel => "product_bulk_import_cancel"
  | topupStart => "topup_start"
  | costCalcStart => "cost_calc_start"
  | walletHistory => "wallet_history"
  | skipDiscount => "skip_discount"
  | paymentMethodCard => "payment_method:card"
  | paymentMethodZarinpal => "payment_method:zarinpal"
  | paymentMethodBale => "payment_method:bale"
  | broadcastConfirm => "broadcast_confirm"
  | broadcastCancel => "broadcast_cancel"
  | noop => "noop"
  | channelAdd => "admin_channel_add"
  | channelList => "admin_channel_list"
  | pricingMenu => "admin_pricing_menu"
  | pricingPlans => "admin_pricing_plans"
  | pricingDiscounts => "admin_pricing_discounts"
  | planAdd => "admin_plan_add"
  | discountAdd => "admin_discount_add"
  | toggleZarinpal => "admin_toggle_zarinpal"
  | toggleBalePay => "admin_toggle_bale_pay"
  | recalcWalletCost => "admin_recalc_wallet_cost"
  | toggleRegistrations => "admin_toggle_registrations"
  | toggleTopups => "admin_toggle_topups"
  | toggleMaintenance => "admin_toggle_maintenance"
  | modRuleAdd => "mod_rule_add"
  | modRulesList => "mod_rules_list"
  | aiPoolAdd => "ai_pool_add"
  | aiPoolList => "ai_pool_list"
  | adminRoleAdd => "admin_role_add"
  | adminRoleList => "admin_role_list"

/-- What stands before the colon. -/
def ItemAction.name : ItemAction → String
  | productView => "product_view"
  | productEdit => "product_edit"
  | productDelete => "product_delete"
  | productDeleteConfirm => "product_delete_confirm"
  | approvePayment => "admin_approve_payment"
  | rejectPayment => "admin_reject_payment"
  | confirmOrder => "confirm_order"
  | rejectOrder => "reject_order"
  | advanceOrder => "advance_order"
  | channelDelete => "admin_channel_delete"
  | channelDeleteConfirm => "admin_channel_delete_confirm"
  | planToggle => "admin_plan_toggle"
  | discountToggle => "admin_discount_toggle"
  | ownerView => "admin_owner_view"
  | ownerSuspend => "admin_owner_suspend"
  | ownerUnsuspend => "admin_owner_unsuspend"
  | ownerGift => "admin_owner_gift"
  | ownerWalletCorrection => "admin_owner_wallet_correction"
  | modRuleView => "mod_rule_view"
  | modRuleToggle => "mod_rule_toggle"
  | modRuleDelete => "mod_rule_delete"
  | aiPoolView => "ai_pool_view"
  | aiPoolToggle => "ai_pool_toggle"
  | aiPoolDelete => "ai_pool_delete"
  | adminRoleView => "admin_role_view"
  | adminRoleRevoke => "admin_role_revoke"

/-- The `callback_prefix` of `_pagination_row`. -/
def PagedAction.name : PagedAction → String
  | productList => "product_list"
  | ownersList => "admin_owners_list"

def ChoiceAction.name : ChoiceAction → String
  | tenantMode => "set_tenant_mode"
  | knowledgeBot => "knowledge_bot"
  | costCalcVolume => "cost_calc_volume"
  | topupAmount => "topup_amount"
  | exportExcel => "export_excel"
  | discountType => "discount_type"
  | modRuleAction => "mod_rule_action"
  | channelPrimary => "admin_channel_primary"
  | settingEdit => "admin_setting_edit"

/-- The key of a field, `admin_settings_button_labels`. -/
def SettingField.name : SettingField → String
  | .nullableText field => field.name
  | .text field => field.name
  | .int field => field.name
  | .decimal field => field.name

/-- What stands behind the colon. -/
def Choice.text : Choice → String
  | tenantMode .SALES => "sales"
  | tenantMode .CONSULTATION => "consultation"
  | knowledgeBot true => "shop"
  | knowledgeBot false => "main"
  | costCalcVolume .low => "low"
  | costCalcVolume .medium => "medium"
  | costCalcVolume .high => "high"
  | costCalcVolume .veryHigh => "very_high"
  | topupAmount (some amount) => toString amount.toNat
  | topupAmount none => "custom"
  | exportExcel true => "customers"
  | exportExcel false => "orders"
  | discountType .PERCENT => "percent"
  | discountType .FIXED => "fixed"
  | modRuleAction .WARN => "warn"
  | modRuleAction .BLOCK => "block"
  | modRuleAction .REVIEW => "review"
  | channelPrimary true => "yes"
  | channelPrimary false => "no"
  | settingEdit none => "rate_limit"
  | settingEdit (some field) => field.name

def ProductField.text : ProductField → String
  | .name => "name"
  | .description => "description"
  | .price => "price"
  | .photo => "photo"
  | .stock => "stock"

/-- The `callback_data` of a button. -/
def Button.data : Button → String
  | .plain action => action.data
  | .item action id => action.name ++ ":" ++ toString id
  | .list action => action.name
  | .page action number => action.name ++ ":" ++ toString number
  | .choice answer => answer.action.name ++ ":" ++ answer.text
  | .editField productId field => "product_edit_field:" ++ toString productId ++ ":" ++ field.text

/-- `TOPUP_AMOUNT_PRESETS_TOMAN`. -/
def topupAmountPresetsToman : List ℤ := [50000, 100000, 300000, 500000]

/-- The buttons that the bot makes: ids and numbers of pages are in the range of the ids of a table. -/
def Button.Issued : Button → Prop
  | .item _ id => id ≤ 2147483647
  | .page _ number => number ≤ 2147483647
  | .choice (.topupAmount (some amount)) => amount ∈ topupAmountPresetsToman
  | .editField productId _ => productId ≤ 2147483647
  | _ => True

/-! ## Pages -/

def pageSize : ℕ := 10

section Pages

variable {α : Type}

/-- `max(1, (len(items) + PAGE_SIZE - 1) // PAGE_SIZE)`. -/
def totalPages (items : List α) : ℕ := max 1 ((items.length + pageSize - 1) / pageSize)

/-- `max(0, min(page, total_pages - 1))`. -/
def shownPage (items : List α) (page : ℤ) : ℕ := (max 0 (min page (totalPages items - 1))).toNat

def pageItems (items : List α) (page : ℕ) : List α := (items.drop (page * pageSize)).take pageSize

/-- `_paginate`: the items of the page, the page and the number of pages. -/
def paginate (items : List α) (page : ℤ) : List α × ℕ × ℕ :=
  let page := shownPage items page
  (pageItems items page, page, totalPages items)

theorem totalPages_pos (items : List α) : 0 < totalPages items :=
  lt_of_lt_of_le Nat.zero_lt_one (le_max_left _ _)

theorem shownPage_lt (items : List α) (page : ℤ) : shownPage items page < totalPages items := by
  have hpos := totalPages_pos items
  unfold shownPage
  omega

theorem shownPage_of_lt {items : List α} {page : ℕ} (h : page < totalPages items) :
    shownPage items page = page := by
  unfold shownPage
  omega

theorem length_le_totalPages (items : List α) : items.length ≤ totalPages items * pageSize := by
  have hle : (items.length + pageSize - 1) / pageSize ≤ totalPages items := le_max_right _ _
  unfold pageSize at hle ⊢
  omega

theorem totalPages_le (items : List α) : totalPages items ≤ max 1 items.length := by
  unfold totalPages pageSize
  omega

theorem flatMap_take (items : List α) (n : ℕ) :
    (List.range n).flatMap (pageItems items) = items.take (n * pageSize) := by
  induction n with
  | zero => rw [List.range_zero, Nat.zero_mul]; rfl
  | succ n ih =>
    have hpage : (List.range 1).flatMap (fun i => pageItems items (n + i)) = pageItems items n :=
      List.append_nil _
    rw [List.range_succ, List.flatMap_append, ih, Nat.succ_mul, List.take_add, List.flatMap_singleton]
    rfl

/-- **The pages of a list are the list.** -/
theorem flatMap_pages (items : List α) :
    (List.range (totalPages items)).flatMap (pageItems items) = items := by
  rw [flatMap_take, List.take_of_length_le (length_le_totalPages items)]

theorem exists_page {items : List α} {x : α} (h : x ∈ items) :
    ∃ page < totalPages items, x ∈ pageItems items page := by
  rw [← flatMap_pages items] at h
  obtain ⟨page, hpage, hx⟩ := List.mem_flatMap.1 h
  exact ⟨page, List.mem_range.1 hpage, hx⟩

end Pages

/-- `_pagination_row`. -/
def paginationRow (page totalPages : ℕ) (action : PagedAction) : List Button :=
  if totalPages ≤ 1 then []
  else
    (if 0 < page then [.page action (page - 1)] else []) ++ [.plain .noop] ++
      if page < totalPages - 1 then [.page action (page + 1)] else []

theorem mem_paginationRow {page totalPages number : ℕ} {action action' : PagedAction} :
    .page action' number ∈ paginationRow page totalPages action ↔
      action' = action ∧ ((0 < page ∧ 1 < totalPages ∧ number = page - 1) ∨
        (page + 1 < totalPages ∧ number = page + 1)) := by
  unfold paginationRow
  by_cases haction : action' = action
  · subst haction
    split_ifs <;> simp <;> omega
  · split_ifs <;> simp [haction]

/-- The rows of a list with pages: the items, and the row to turn the page. -/
def pagedRows (view : ItemAction) (action : PagedAction) (ids : List ℕ) (page : ℤ) : List (List Button) :=
  let (items, page, totalPages) := paginate ids page
  let nav := paginationRow page totalPages action
  (items.map fun id => [.item view id]) ++ if nav.isEmpty then [] else [nav]

/-- `products_list_keyboard`. -/
def productsListKeyboard (products : List ℕ) (page : ℤ) : List (List Button) :=
  pagedRows .productView .productList products page ++
    [[.plain .productAdd], [.plain .productBulkImport]]

/-- `admin_owners_list_keyboard`. -/
def adminOwnersListKeyboard (owners : List ℕ) (page : ℤ) : List (List Button) :=
  pagedRows .ownerView .ownersList owners page

/-- The two keyboards with pages. -/
def pagedKeyboard : PagedAction → List ℕ → ℤ → List (List Button)
  | .productList => productsListKeyboard
  | .ownersList => adminOwnersListKeyboard

/-- The button of an item in them. -/
def PagedAction.view : PagedAction → ItemAction
  | .productList => .productView
  | .ownersList => .ownerView

theorem mem_pagedRows {view : ItemAction} {action : PagedAction} {ids : List ℕ} {page : ℤ} {b : Button} :
    b ∈ (pagedRows view action ids page).flatten ↔
      (∃ id ∈ pageItems ids (shownPage ids page), b = .item view id) ∨
        b ∈ paginationRow (shownPage ids page) (totalPages ids) action := by
  unfold pagedRows
  dsimp only [paginate]
  rw [List.flatten_append, List.mem_append]
  refine or_congr ?_ ?_
  · simp only [List.mem_flatten, List.mem_map]
    constructor
    · rintro ⟨_, ⟨id, hid, rfl⟩, hb⟩
      exact ⟨id, hid, List.mem_singleton.1 hb⟩
    · rintro ⟨id, hid, rfl⟩
      exact ⟨_, ⟨id, hid, rfl⟩, List.mem_singleton_self _⟩
  · split_ifs with hnav
    · rw [List.isEmpty_iff.1 hnav]
      rfl
    · rw [List.flatten_singleton]

theorem mem_pagedKeyboard {action : PagedAction} {ids : List ℕ} {page : ℤ} {b : Button}
    (hb : b ∈ (pagedRows action.view action ids page).flatten) :
    b ∈ (pagedKeyboard action ids page).flatten := by
  cases action with
  | productList =>
    show b ∈ (pagedRows _ _ _ _ ++ _).flatten
    rw [List.flatten_append]
    exact List.mem_append_left _ hb
  | ownersList => exact hb

/-- The buttons of the lists that turn the page. -/
theorem page_mem_pagedKeyboard {action action' : PagedAction} {ids : List ℕ} {page : ℤ} {number : ℕ} :
    .page action' number ∈ (pagedKeyboard action ids page).flatten ↔
      .page action' number ∈ paginationRow (shownPage ids page) (totalPages ids) action := by
  have hrows : .page action' number ∈ (pagedRows action.view action ids page).flatten ↔
      .page action' number ∈ paginationRow (shownPage ids page) (totalPages ids) action := by
    rw [mem_pagedRows]
    constructor
    · rintro (⟨id, -, h⟩ | h)
      · cases h
      · exact h
    · exact Or.inr
  rw [← hrows]
  refine ⟨fun h => ?_, mem_pagedKeyboard⟩
  cases action with
  | productList =>
    change _ ∈ (pagedRows _ _ _ _ ++ _).flatten at h
    rw [List.flatten_append] at h
    exact (List.mem_append.1 h).resolve_right fun h => by simp at h
  | ownersList => exact h

end KasbOKar
