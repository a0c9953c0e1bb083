import KasbOKar.Shop.Isolation

/-!
# Refused orders

What a step can do to the status of an order (`moved_of_step`), and what follows for orders that the
customer cancelled, that were not confirmed in time, or that the owner rejected.

`confirm_order` returns early for one status only, `AWAITING_CUSTOMER_CONFIRMATION`, and for an order
that is confirmed already; an order that was cancelled or rejected is confirmed by an old button
(`refused_confirmed`).  In the runs without such a press, every order that gets as far as `CONFIRMED`
has been confirmed by its customer, and nothing happens to an order once it is refused
(`refused_final`).
-/

namespace KasbOKar

open OrderDb

namespace OrderChange

/-- The status that a change leaves. -/
def statusAfter (s : OrderStatus) : OrderChange → OrderStatus
  | status s' => s'
  | confirm _ => .CONFIRMED
  | _ => s

theorem write_status (o : OrderConsultation) (c : OrderChange) :
    (c.write o).status = c.statusAfter o.status := by
  cases c <;> rfl

end OrderChange

namespace OrderDb

/-- The status of an order. -/
def statusOf (db : OrderDb) (i : ℕ) : Option OrderStatus :=
  (db.orders.find? i).map OrderConsultation.status

section Status

variable {db db' : OrderDb} {order : OrderConsultation}

theorem statusOf_of_find? {i : ℕ} {o : OrderConsultation} (h : db.orders.find? i = some o) :
    db.statusOf i = some o.status := by
  unfold statusOf
  rw [h]
  rfl

theorem statusOf_of_mem {o : OrderConsultation} (h : o ∈ db.orders.rows) :
    db.statusOf o.id = some o.status := statusOf_of_find? (Table.find?_of_mem h)

theorem statusOf_some {i : ℕ} {s : OrderStatus} (h : db.statusOf i = some s) :
    ∃ o, db.orders.find? i = some o ∧ o.status = s := Option.map_eq_some_iff.1 h

theorem statusOf_eq (h : db'.orders = db.orders) (i : ℕ) : db'.statusOf i = db.statusOf i := by
  unfold statusOf
  rw [h]

theorem statusOf_order (db : OrderDb) (i j : ℕ) (c : OrderChange) :
    (db.apply (.order i c)).statusOf j =
      if j = i then (db.statusOf j).map fun s => c.statusAfter s else db.statusOf j := by
  unfold statusOf
  split_ifs with h
  · subst h
    cases hfind : db.orders.find? j with
    | none =>
      have hnone : (db.apply (.order j c)).orders.find? j = none := by
        rw [Table.find?_eq_none_iff] at hfind ⊢
        intro h
        refine hfind ?_
        rwa [← Table.ids_modify (i := j) (f := fun o => c.write o) fun o => c.write_id o]
      rw [hnone]
      rfl
    | some o =>
      rw [find?_changed_order c hfind]
      exact congrArg some (c.write_status o)
  · rw [find?_other_order db c h]

/-- An edit of the reservation. -/
theorem statusOf_reservation (db : OrderDb) (i j : ℕ) {c : OrderChange}
    (hc : ∀ s, c.statusAfter s = s) : (db.apply (.order i c)).statusOf j = db.statusOf j := by
  rw [statusOf_order]
  split_ifs
  · have hid : (fun s => c.statusAfter s) = id := funext hc
    rw [hid, Option.map_id, id]
  · rfl

theorem releaseReservation_status (h : db.releaseReservation order = .ok db') (i : ℕ) :
    db'.statusOf i = db.statusOf i := by
  obtain ⟨-, rfl⟩ | ⟨-, db₁, h₁, rfl⟩ := releaseReservation_ok h
  · rfl
  · rw [statusOf_reservation _ _ _ fun _ => rfl]
    exact statusOf_eq (giveBack_orders h₁) i

theorem reserveStock_status {now : Datetime} (h : db.reserveStock now order = .ok db') (i : ℕ) :
    db'.statusOf i = db.statusOf i := by
  obtain rfl | ⟨j, p, stock, expiresAt, -, -, -, -, rfl⟩ := reserveStock_ok h
  · rfl
  · rw [statusOf_reservation _ _ _ fun _ => rfl]
    rfl

/-! ## The two loops of the scheduler -/

/-- The first of the rows that a loop sets to the same status. -/
theorem set_first (i j : ℕ) (ids : List ℕ) (x : Option OrderStatus) (s : OrderStatus) :
    (if i ∈ ids then (if i = j then x.map fun _ => s else x).map fun _ => s
      else if i = j then x.map fun _ => s else x) =
      if i ∈ j :: ids then x.map fun _ => s else x := by
  by_cases hj : i = j
  · rw [if_pos hj, if_pos (List.mem_cons.2 (Or.inl hj)), Option.map_map]
    split_ifs <;> rfl
  · simp only [List.mem_cons, hj, false_or, if_false]

theorem cancelAll_status (i : ℕ) : ∀ (stale : List OrderConsultation) (db : OrderDb),
    (stale.foldl customerCancelOrder db).statusOf i =
      if i ∈ stale.map OrderConsultation.id then (db.statusOf i).map fun _ => .CANCELLED
      else db.statusOf i := by
  intro stale
  induction stale with
  | nil => intro db; rfl
  | cons o stale ih =>
    intro db
    rw [List.foldl_cons, ih, List.map_cons]
    unfold customerCancelOrder
    rw [statusOf_order]
    exact set_first i o.id _ _ _

theorem expireAll_status (i : ℕ) : ∀ {expired : List OrderConsultation} {db db' : OrderDb},
    expired.foldlM expireReservation db = .ok db' → db'.statusOf i =
      if i ∈ expired.map OrderConsultation.id then (db.statusOf i).map fun _ => .EXPIRED
      else db.statusOf i := by
  intro expired
  induction expired with
  | nil =>
    intro db db' h
    cases h
    rfl
  | cons o expired ih =>
    intro db db' h
    rw [List.foldlM_cons] at h
    obtain ⟨db₁, h₁, h⟩ := bind_ok h
    obtain ⟨db₂, h₂, h₁⟩ := bind_ok h₁
    cases h₁
    rw [ih h, List.map_cons, statusOf_order, releaseReservation_status h₂]
    exact set_first i o.id _ _ _

end Status

end OrderDb

/-! ## What a step does to an order -/

/-- A step that gives an order another status. -/
inductive Move (db : ShopDb) (d : Delivery) (o : OrderConsultation) : OrderStatus → Prop
  | customerConfirm {now : Datetime} {bot user : ℤ}
      (update : d.update = .customerConfirmOrder now bot user o.id)
      (own : some o.customerId = (db.customerOf bot user).map Customer.id)
      (before : o.status = .AWAITING_CUSTOMER_CONFIRMATION) : Move db d o .PENDING
  | cancel (before : o.status = .AWAITING_CUSTOMER_CONFIRMATION) : Move db d o .CANCELLED
  | confirm {now : Datetime} {user : ℤ} {shopBot : ShopBot}
      (update : d.update = .confirmOrder now user o.id) (admitted : d.admitted = true)
      (sent : d.sent = true) (shop : db.shopOf user = some shopBot) (own : o.shopBotId = shopBot.id)
      (before : o.status ≠ .AWAITING_CUSTOMER_CONFIRMATION) : Move db d o .CONFIRMED
  | reject (before : o.status = .PENDING) : Move db d o .REJECTED
  | advance {status : OrderStatus} (before : o.status ∈ advanceSequence)
      (after : status ∈ advanceSequence) : Move db d o status
  | expire (before : o.status = .PENDING) : Move db d o .EXPIRED

/-- What becomes of the status of the order `i` in a step. -/
inductive Moved (db : ShopDb) (d : Delivery) (i : ℕ) : Option OrderStatus → Prop
  | same : Moved db d i (db.orderDb.statusOf i)
  | created (before : db.orderDb.statusOf i = none) :
      Moved db d i (some .AWAITING_CUSTOMER_CONFIRMATION)
  | moved {o : OrderConsultation} {status : OrderStatus} (before : db.orders.find? i = some o)
      (move : Move db d o status) : Moved db d i (some status)

section Moved

variable {db : ShopDb} {d : Delivery}

/-- A handler that leaves the orders alone. -/
theorem moved_of_eq {db' : OrderDb} (h : db'.orders = db.orders) (i : ℕ) :
    Moved db d i (db'.statusOf i) := by
  rw [@statusOf_eq db.orderDb _ h]
  exact .same

/-- An operation that ends with a write to one order. -/
theorem moved_write {db₁ : OrderDb} {order : OrderConsultation} (c : OrderChange)
    (hrow : db.orders.find? order.id = some order)
    (h₁ : ∀ i, db₁.statusOf i = db.orderDb.statusOf i)
    (hmove : Move db d order (c.statusAfter order.status)) (i : ℕ) :
    Moved db d i ((db₁.apply (.order order.id c)).statusOf i) := by
  rw [statusOf_order]
  split_ifs with hi
  · subst hi
    rw [h₁, statusOf_of_find? hrow]
    exact .moved hrow hmove
  · rw [h₁]
    exact .same

theorem moved_confirm {now now' : Datetime} {user : ℤ} {shopBot : ShopBot}
    {order : OrderConsultation} {db' : OrderDb} {b : Bool}
    (hrow : db.orders.find? order.id = some order)
    (update : d.update = .confirmOrder now' user order.id) (admitted : d.admitted = true)
    (sent : d.sent = true) (shop : db.shopOf user = some shopBot)
    (own : order.shopBotId = shopBot.id)
    (h : db.orderDb.confirmOrder now order = .ok (db', b)) (i : ℕ) :
    Moved db d i (db'.statusOf i) := by
  obtain ⟨rfl, -⟩ | ⟨hbefore, -, -, db₁, h₁, rfl⟩ := confirmOrder_ok h
  · exact .same
  · exact moved_write _ hrow (statusOf_eq (takeStock_orders h₁))
      (.confirm update admitted sent shop own hbefore) i

theorem moved_reject {order : OrderConsultation} {db' : OrderDb} {b : Bool}
    (hrow : db.orders.find? order.id = some order)
    (h : db.orderDb.rejectOrder order = .ok (db', b)) (i : ℕ) : Moved db d i (db'.statusOf i) := by
  obtain rfl | ⟨hpending, db₁, h₁, rfl⟩ := rejectOrder_ok h
  · exact .same
  · exact moved_write (.status .REJECTED) hrow (releaseReservation_status h₁) (.reject hpending) i

theorem moved_advance {order : OrderConsultation} (hrow : db.orders.find? order.id = some order)
    (i : ℕ) : Moved db d i ((db.orderDb.advanceStatus order).1.statusOf i) := by
  obtain hsame | ⟨status, hafter, hbefore, hstep⟩ := advanceStatus_cases db.orderDb order
  · rw [hsame]
    exact .same
  · rw [hstep]
    exact moved_write (.status status) hrow (fun _ => rfl) (.advance hbefore hafter) i

theorem moved_customerConfirm {now now' : Datetime} {bot user : ℤ} {order : OrderConsultation}
    {db' : OrderDb} (hrow : db.orders.find? order.id = some order)
    (update : d.update = .customerConfirmOrder now' bot user order.id)
    (own : some order.customerId = (db.customerOf bot user).map Customer.id)
    (before : order.status = .AWAITING_CUSTOMER_CONFIRMATION)
    (h : db.orderDb.customerConfirmOrder now order = .ok db') (i : ℕ) :
    Moved db d i (db'.statusOf i) := by
  rw [reserveStock_status h]
  exact moved_write (.status .PENDING) hrow (fun _ => rfl) (.customerConfirm update own before) i

theorem moved_customerCancel {order : OrderConsultation}
    (hrow : db.orders.find? order.id = some order)
    (before : order.status = .AWAITING_CUSTOMER_CONFIRMATION) (i : ℕ) :
    Moved db d i ((db.orderDb.customerCancelOrder order).statusOf i) :=
  moved_write (.status .CANCELLED) hrow (fun _ => rfl) (.cancel before) i

/-- The orders of a list that a query returned. -/
theorem mem_selected {db : OrderDb} {scan : Scan OrderConsultation} {p : OrderConsultation → Bool}
    {i : ℕ} (h : i ∈ (db.orders.select scan p).map OrderConsultation.id) :
    ∃ o, db.orders.find? i = some o ∧ p o = true := by
  obtain ⟨o, ho, rfl⟩ := List.mem_map.1 h
  obtain ⟨hrow, hp⟩ := Table.mem_select.1 ho
  exact ⟨o, Table.find?_of_mem hrow, hp⟩

/-- The two loops of the scheduler: a candidate that was cancelled is not selected again. -/
theorem moved_expiry {scan scan' : Scan OrderConsultation} {cutoff now : Datetime} {db' : OrderDb}
    (h : (((db.orderDb.staleConfirmations scan cutoff).foldl customerCancelOrder
        db.orderDb).expiredReservations scan' now).foldlM expireReservation
      ((db.orderDb.staleConfirmations scan cutoff).foldl customerCancelOrder db.orderDb) = .ok db')
    (i : ℕ) : Moved db d i (db'.statusOf i) := by
  have hcancel := cancelAll_status i (db.orderDb.staleConfirmations scan cutoff) db.orderDb
  rw [expireAll_status i h]
  by_cases hstale : i ∈ (db.orderDb.staleConfirmations scan cutoff).map OrderConsultation.id
  · obtain ⟨o, ho, hp⟩ := mem_selected hstale
    rw [if_pos hstale, statusOf_of_find? ho, Option.map_some] at hcancel
    rw [Bool.and_eq_true, beq_iff_eq] at hp
    rw [if_neg, hcancel]
    · exact .moved ho (.cancel hp.1)
    · intro hexpired
      obtain ⟨o', ho', hp'⟩ := mem_selected hexpired
      rw [statusOf_of_find? ho', Option.some.injEq] at hcancel
      rw [hcancel] at hp'
      cases hp'
  · rw [if_neg hstale] at hcancel
    rw [hcancel]
    split_ifs with hexpired
    · obtain ⟨o, ho, hp⟩ := mem_selected hexpired
      rw [statusOf_of_find? ho] at hcancel
      obtain ⟨o', ho', hstatus⟩ := statusOf_some hcancel.symm
      simp only [Bool.and_eq_true, beq_iff_eq] at hp
      rw [statusOf_of_find? ho']
      exact .moved ho' (.expire (hstatus.trans hp.1.1))
    · exact .same

/-- The order that a customer's button finds. -/
theorem resolveAwaitingOrder_some {bot user : ℤ} {orderId : ℕ} {order : OrderConsultation}
    (h : db.resolveAwaitingOrder bot user orderId = some order) :
    order.id = orderId ∧ db.orders.find? order.id = some order ∧
      some order.customerId = (db.customerOf bot user).map Customer.id ∧
      order.status = .AWAITING_CUSTOMER_CONFIRMATION := by
  obtain ⟨shopBot, hshop, h⟩ := Option.bind_eq_some_iff.1 h
  obtain ⟨c, hc, h⟩ := Option.bind_eq_some_iff.1 h
  obtain ⟨hfind, hid, hcust, hstatus⟩ := getAwaiting_some h
  refine ⟨hid, hfind, ?_, hstatus⟩
  unfold ShopDb.customerOf
  rw [hshop, Option.bind_some, hc, hcust]
  rfl

/-- A session that moves an order, or is rolled back. -/
theorem moved_commit {sent : Bool} {x : Except PyError OrderDb} {i : ℕ}
    (hx : ∀ orders, sent = true → x = .ok orders → Moved db d i (orders.statusOf i)) :
    Moved db d i ((db.commit sent x).orderDb.statusOf i) := by
  unfold ShopDb.commit
  split
  · exact .same
  · rename_i orders
    split_ifs with hsent
    · exact hx orders hsent rfl
    · exact .same

/-- A handler behind the channel gate. -/
theorem moved_gate {b : Bool} {db' : ShopDb} {i : ℕ}
    (h : b = true → Moved db d i (db'.orderDb.statusOf i)) :
    Moved db d i ((if b then db' else db).orderDb.statusOf i) := by
  split_ifs with hb
  · exact h hb
  · exact .same

/-- A handler that looks for an order of the user's shop. -/
theorem moved_owner {user : ℤ} {orderId i : ℕ} {handle : OrderConsultation → ShopDb}
    (h : ∀ shopBot order, db.shopOf user = some shopBot → db.orders.find? order.id = some order →
      order.id = orderId → order.shopBotId = shopBot.id →
      Moved db d i ((handle order).orderDb.statusOf i)) :
    Moved db d i ((db.withOwnedOrder user orderId handle).orderDb.statusOf i) :=
  ShopDb.withOwnedOrder_keeps (I := fun db' => Moved db d i (db'.orderDb.statusOf i)) .same
    fun shopBot order hshop hrow hid hown =>
      h shopBot order hshop (Table.find?_of_mem hrow) hid hown

end Moved

namespace ShopDb

/-! ## Handlers that leave the orders alone -/

section Products

variable {db : ShopDb} {sent : Bool} {user : ℤ}

theorem commit_orders {x : Except PyError OrderDb}
    (hx : ∀ orders, x = .ok orders → orders.orders = db.orders) :
    (db.commit sent x).orders = db.orders :=
  commit_keeps (I := fun db' => db'.orders = db.orders) rfl hx

theorem withShop_orders {handle : ShopBot → ShopDb}
    (h : ∀ shopBot, (handle shopBot).orders = db.orders) : (db.withShop user handle).orders = db.orders :=
  withShop_keeps (I := fun db' => db'.orders = db.orders) rfl fun shopBot _ => h shopBot

theorem addProductStock_orders {data : ProductData} {stock : Option ℕ} :
    (db.addProductStock sent user data stock).orders = db.orders := by
  refine withShop_orders fun shopBot => ?_
  split
  · refine commit_orders fun orders h => ?_
    obtain ⟨x, hx, rfl⟩ := map_ok h
    obtain ⟨p, -, -, -, hp⟩ := createProduct_ok hx
    rw [hp]
    rfl
  · rfl

theorem cbProductBulkImportConfirm_orders {rows : List ImportRow} :
    (db.cbProductBulkImportConfirm sent user rows).orders = db.orders :=
  withShop_orders fun _ => commit_orders fun _ h =>
    bulkCreate_keeps (I := fun odb => odb.orders = db.orders) (fun _ _ _ h => h) rfl h

theorem cbProductDeleteConfirm_orders {productId : ℕ} :
    (db.cbProductDeleteConfirm sent user productId).orders = db.orders := by
  refine withShop_orders fun shopBot => ?_
  split
  · rfl
  · refine commit_orders fun orders h => ?_
    rw [setProduct_ok h]
    rfl

theorem editProductValue_orders {productId : Option ℕ} {field : Option ProductField}
    {value : FieldValue} : (db.editProductValue sent user productId field value).orders = db.orders := by
  refine withShop_orders fun shopBot => ?_
  split
  · refine commit_orders fun orders h => ?_
    obtain ⟨edit, -, h⟩ := bind_ok h
    obtain ⟨x, hx, rfl⟩ := map_ok h
    obtain hsame | ⟨p, -, -, hp⟩ := applyFieldEdit_ok hx
    · rw [hsame]
      rfl
    · rw [hp]
      rfl
  · rfl

theorem getOrCreateCustomer_orders {db' : ShopDb} {now : Datetime} {shopBotId : ℕ}
    {firstName username : Option String} {c : Customer}
    (h : db.getOrCreateCustomer now shopBotId user firstName username = .ok (db', c)) :
    db'.orders = db.orders := by
  unfold getOrCreateCustomer at h
  split at h
  · cases h
  split at h
  · cases h
    rfl
  · split at h
    · cases h
    cases h
    rfl

theorem customerMessage_orders {now : Datetime} {bot : ℤ} {firstName username : Option String} :
    (db.customerMessage sent now bot user firstName username).orders = db.orders := by
  unfold customerMessage
  split
  · rfl
  split
  · rfl
  · rename_i db' c h
    exact ite_keeps (I := fun db' => db'.orders = db.orders) rfl (getOrCreateCustomer_orders h)

end Products

end ShopDb

/-- **What the handlers do to an order.** -/
theorem moved_of_handle (db : ShopDb) (d : Delivery) (i : ℕ) :
    Moved db d i ((db.handle d).orderDb.statusOf i) := by
  obtain ⟨update, admitted, sent⟩ := d
  have hsame : ∀ {b : Bool} {db' : ShopDb}, db'.orders = db.orders →
      Moved db ⟨update, admitted, sent⟩ i ((if b then db' else db).orderDb.statusOf i) :=
    fun h => moved_gate fun _ => moved_of_eq h i
  cases update with
  | confirmOrder now user orderId =>
    refine moved_gate fun hadmitted => moved_owner fun shopBot order hshop hrow hid hown => ?_
    split_ifs
    · exact .same
    refine moved_commit fun orders hsent hok => ?_
    obtain ⟨x, hx, rfl⟩ := map_ok hok
    exact moved_confirm hrow (by rw [hid]) hadmitted hsent hshop hown hx i
  | rejectOrder user orderId =>
    refine moved_gate fun _ => moved_owner fun shopBot order _ hrow _ _ => moved_commit ?_
    intro orders _ hok
    obtain ⟨x, hx, rfl⟩ := map_ok hok
    exact moved_reject hrow hx i
  | advanceOrder user orderId =>
    refine moved_gate fun _ => moved_owner fun shopBot order _ hrow _ _ => moved_commit ?_
    intro orders _ hok
    cases hok
    exact moved_advance hrow i
  | addProductStock user data stock => exact hsame ShopDb.addProductStock_orders
  | productBulkImportConfirm user rows => exact hsame ShopDb.cbProductBulkImportConfirm_orders
  | productDeleteConfirm user productId => exact hsame ShopDb.cbProductDeleteConfirm_orders
  | editProductValue user productId field value => exact hsame ShopDb.editProductValue_orders
  | customerConfirmOrder now bot user orderId =>
    change Moved _ _ _ ((db.cbCustomerConfirmOrder sent now bot user orderId).orderDb.statusOf i)
    unfold ShopDb.cbCustomerConfirmOrder
    split
    · exact .same
    · rename_i order hr
      obtain ⟨hid, hrow, hown, hbefore⟩ := resolveAwaitingOrder_some hr
      exact moved_commit fun orders _ hok =>
        moved_customerConfirm hrow (by rw [hid]) hown hbefore hok i
  | customerCancelOrder bot user orderId =>
    change Moved _ _ _ ((db.cbCustomerCancelOrder sent bot user orderId).orderDb.statusOf i)
    unfold ShopDb.cbCustomerCancelOrder
    split
    · exact .same
    · rename_i order hr
      obtain ⟨-, hrow, -, hbefore⟩ := resolveAwaitingOrder_some hr
      refine moved_commit fun orders _ hok => ?_
      cases hok
      exact moved_customerCancel hrow hbefore i
  | customerMessage now bot user firstName username =>
    exact moved_of_eq ShopDb.customerMessage_orders i
  | reply now shopBotId user => exact .same
  | detectOrder now task answer => exact .same
  | orderExpiry scan scan' now now' =>
    exact ShopDb.processOrderExpiry_keeps (I := fun db' => Moved db _ i (db'.orderDb.statusOf i)) .same
      fun _ _ h => moved_expiry h i
  | registerOwner user referredByCode code => exact moved_of_eq ShopDb.registerOwner_same.orders i
  | saveToken user token bot username secret => exact hsame ShopDb.saveShopBotToken_same.orders
  | setTenantMode user mode => exact hsame ShopDb.cbSetTenantMode_same.orders
  | setActive shopBotId isActive => exact moved_of_eq rfl i

/-- A new candidate. -/
theorem moved_insert {db : ShopDb} {d : Delivery} {o : OrderConsultation} (hnew : o.id ∉ db.orders.ids)
    (hstatus : o.status = .AWAITING_CUSTOMER_CONFIRMATION) (i : ℕ) :
    Moved db d i ((db.orderDb.apply (.insertOrder o)).statusOf i) := by
  have hfind : (db.orderDb.apply (.insertOrder o)).orders = db.orders.insert o := rfl
  by_cases hi : i = o.id
  · subst hi
    have hafter : (db.orderDb.apply (.insertOrder o)).orders.find? o.id = some o :=
      Table.find?_insert_self hnew
    rw [statusOf_of_find? hafter, hstatus]
    refine .created ?_
    unfold statusOf
    rw [show db.orderDb.orders.find? o.id = none from Table.find?_eq_none_iff.2 hnew]
    rfl
  · unfold statusOf
    rw [hfind, Table.find?_insert_of_ne hi]
    exact .same

theorem moved_of_detection {fmt : PyJson → String} {db : ShopDb} {d : Delivery} {sent : Bool}
    {now : Datetime} {shopBotId customerId : ℕ} {answer : Option PyJson} (i : ℕ) :
    Moved db d i ((db.detectAndNotifyOrder fmt sent now shopBotId customerId
      answer).orderDb.statusOf i) := by
  obtain hsame | ⟨o, ho, hinsert⟩ :=
    ShopDb.detectAndNotifyOrder_cases fmt db sent now shopBotId customerId answer
  · rw [hsame]
    exact .same
  · rw [hinsert]
    have hrow := (ShopDb.candidate_some sent ho).1
    exact moved_insert (hrow.id ▸ Table.nextId_notMem _) hrow.status i

namespace Bots

variable {fmt : PyJson → String}

/-- **What a step does to an order.** -/
theorem moved_of_step {s s' : Bots} {d : Delivery} (hs : Bots.step fmt s d = some s') (i : ℕ) :
    Moved s.db d i (s'.db.orderDb.statusOf i) := by
  obtain rfl | ⟨now, shopBotId, user, c, -, hc, -⟩ | ⟨now, task, answer, t, -, -, hdb, -⟩ :=
    step_cases hs
  · exact moved_of_handle s.db d i
  · exact moved_of_eq (ShopDb.getOrCreateCustomer_orders hc) i
  · rw [hdb]
    exact moved_of_detection i

/-! ## Refused orders -/

/-- `CANCELLED`, by the customer or the timeout, or `REJECTED`. -/
def refused (s : OrderStatus) : Bool := s == .CANCELLED || s == .REJECTED

/-- A press of the owner's confirm button for a refused order of the shop. -/
def confirmsRefused (s : Bots) (d : Delivery) : Bool :=
  match d.update with
  | .confirmOrder _ user orderId => d.admitted && d.sent && (s.db.shopOf user).any fun shopBot =>
      (s.db.orderDb.getOwnedOrder orderId shopBot.id).any fun o => refused o.status
  | _ => false

/-- The orders that a step acts on. -/
def ordersOf (s : Bots) (d : Delivery) : List ℕ :=
  match d.update with
  | .confirmOrder _ _ orderId => [orderId]
  | .rejectOrder _ orderId => [orderId]
  | .advanceOrder _ orderId => [orderId]
  | .customerConfirmOrder _ _ _ orderId => [orderId]
  | .customerCancelOrder _ _ orderId => [orderId]
  | .orderExpiry scan scan' now now' =>
    match datetimeAdd now (-minutes s.db.settings.orderCustomerConfirmationTimeoutMinutes) with
    | .error _ => []
    | .ok cutoff =>
      let stale := s.db.orderDb.staleConfirmations scan cutoff
      let expired := (stale.foldl customerCancelOrder s.db.orderDb).expiredReservations scan' now'
      (stale ++ expired).map OrderConsultation.id
  | _ => []

/-- The history holds the press of the confirm button by which the customer of order `i` made it
`PENDING`. -/
def CustomerConfirmed (fmt : PyJson → String) (s₀ : Bots) (updates : List Delivery) (i : ℕ) : Prop :=
  ∃ before d after s s' o now bot user, updates = before ++ d :: after ∧
    Runs.exec (Bots.step fmt) s₀ before = some s ∧ Bots.step fmt s d = some s' ∧
    d.update = .customerConfirmOrder now bot user i ∧ s.db.orders.find? i = some o ∧
    some o.customerId = (s.db.customerOf bot user).map Customer.id ∧
    o.status = .AWAITING_CUSTOMER_CONFIRMATION ∧ s'.db.orderDb.statusOf i = some .PENDING

theorem CustomerConfirmed.snoc {s₀ : Bots} {updates : List Delivery} {i : ℕ}
    (h : CustomerConfirmed fmt s₀ updates i) (d : Delivery) :
    CustomerConfirmed fmt s₀ (updates ++ [d]) i := by
  obtain ⟨before, e, after, s, s', o, now, bot, user, rfl, h⟩ := h
  exact ⟨before, e, after ++ [d], s, s', o, now, bot, user, by rw [List.append_assoc]; rfl, h⟩

/-- The statuses of an order that its customer has not confirmed. -/
def unconfirmed (s : OrderStatus) : Bool := s == .AWAITING_CUSTOMER_CONFIRMATION || s == .CANCELLED

theorem refused_of_advance {s : OrderStatus} (h : s ∈ advanceSequence) : refused s = false := by
  revert h
  cases s <;> decide

theorem unconfirmed_of_advance {s : OrderStatus} (h : s ∈ advanceSequence) :
    unconfirmed s = false := by
  revert h
  cases s <;> decide

theorem unconfirmed_eq_false {s : OrderStatus} (h : s ≠ .AWAITING_CUSTOMER_CONFIRMATION)
    (h' : refused s = false) : unconfirmed s = false := by
  revert h h'
  cases s <;> decide

theorem confirmsRefused_of_move {s : Bots} {d : Delivery} {o : OrderConsultation} {now : Datetime}
    {user : ℤ} {shopBot : ShopBot} (hrow : s.db.orders.find? o.id = some o)
    (hupdate : d.update = .confirmOrder now user o.id) (hadmitted : d.admitted = true)
    (hsent : d.sent = true) (hshop : s.db.shopOf user = some shopBot)
    (hown : o.shopBotId = shopBot.id) (hrefused : refused o.status = true) :
    confirmsRefused s d = true := by
  have hget : s.db.orderDb.getOwnedOrder o.id shopBot.id = some o :=
    Option.filter_eq_some_iff.2 ⟨hrow, beq_iff_eq.2 hown⟩
  unfold confirmsRefused
  rw [hupdate]
  dsimp only
  rw [hadmitted, hsent, hshop, Option.any_some, hget, Option.any_some, hrefused]
  rfl

/-- An order that was confirmed by its customer, in one step. -/
theorem customerConfirmed_step {s₀ s s' : Bots} {updates : List Delivery} {d : Delivery}
    (hrun : Runs.exec (Bots.step fmt) s₀ updates = some s)
    (h : ∀ i status, s.db.orderDb.statusOf i = some status → unconfirmed status = false →
      CustomerConfirmed fmt s₀ updates i)
    (hd : confirmsRefused s d = false) (hs : Bots.step fmt s d = some s') (i : ℕ)
    (status : OrderStatus) (hi : s'.db.orderDb.statusOf i = some status)
    (hstatus : unconfirmed status = false) : CustomerConfirmed fmt s₀ (updates ++ [d]) i := by
  have hmoved := moved_of_step hs i
  rw [hi] at hmoved
  generalize hafter : some status = after at hmoved
  cases hmoved with
  | same => exact (h i status hafter.symm hstatus).snoc d
  | created =>
    cases hafter
    cases hstatus
  | @moved o st hrow hmove =>
    cases hafter
    have hid : o.id = i := Table.id_of_find? hrow
    have hold : ∀ st, o.status = st → unconfirmed st = false →
        CustomerConfirmed fmt s₀ (updates ++ [d]) i := fun st ho hst =>
      (h i st (by rw [statusOf_of_find? hrow, ho]) hst).snoc d
    cases hmove with
    | customerConfirm hupdate hown hbefore =>
      rw [hid] at hupdate
      exact ⟨updates, d, [], s, s', o, _, _, _, rfl, hrun, hs, hupdate, hrow, hown, hbefore, hi⟩
    | cancel => cases hstatus
    | confirm hupdate hadmitted hsent hshop hown hbefore =>
      have hnot : refused o.status = false := by
        by_contra hne
        rw [Bool.not_eq_false] at hne
        rw [confirmsRefused_of_move (hid ▸ hrow) hupdate hadmitted hsent hshop hown hne] at hd
        cases hd
      exact hold _ rfl (unconfirmed_eq_false hbefore hnot)
    | reject hbefore => exact hold _ hbefore rfl
    | expire hbefore => exact hold _ hbefore rfl
    | advance hbefore _ => exact hold _ rfl (unconfirmed_of_advance hbefore)

/-- A refused order stays refused. -/
theorem refused_step {s s' : Bots} {d : Delivery} {i : ℕ} {status : OrderStatus}
    (hi : s.db.orderDb.statusOf i = some status) (hrefused : refused status = true)
    (hd : confirmsRefused s d = false) (hs : Bots.step fmt s d = some s') :
    s'.db.orderDb.statusOf i = some status := by
  have hmoved := moved_of_step hs i
  generalize s'.db.orderDb.statusOf i = after at hmoved
  cases hmoved with
  | same => exact hi
  | created hbefore =>
    rw [hi] at hbefore
    cases hbefore
  | @moved o st hrow hmove =>
    rw [statusOf_of_find? hrow, Option.some.injEq] at hi
    subst hi
    have hid : o.id = i := Table.id_of_find? hrow
    cases hmove with
    | confirm hupdate hadmitted hsent hshop hown _ =>
      rw [confirmsRefused_of_move (hid ▸ hrow) hupdate hadmitted hsent hshop hown hrefused] at hd
      cases hd
    | advance hbefore _ =>
      rw [refused_of_advance hbefore] at hrefused
      cases hrefused
    | customerConfirm _ _ hbefore =>
      rw [hbefore] at hrefused
      cases hrefused
    | _ hbefore =>
      rw [hbefore] at hrefused
      cases hrefused

/-! ## Nothing happens through a refused order -/

/-- An operation that finds nothing to do. -/
theorem commit_same {db : ShopDb} {sent : Bool} {x : Except PyError OrderDb}
    (hx : ∀ orders, x = .ok orders → orders.products = db.products) :
    (db.commit sent x).products = db.products :=
  ShopDb.commit_keeps (I := fun db' => db'.products = db.products) rfl hx

/-- The customer's buttons find a candidate only. -/
theorem resolveAwaitingOrder_none {db : ShopDb} {i : ℕ} {status : OrderStatus}
    (hi : db.orderDb.statusOf i = some status) (hrefused : refused status = true) (bot user : ℤ) :
    db.resolveAwaitingOrder bot user i = none := by
  cases hr : db.resolveAwaitingOrder bot user i with
  | none => rfl
  | some order =>
    obtain ⟨hid, hrow, -, hbefore⟩ := resolveAwaitingOrder_some hr
    rw [← hid, @statusOf_of_find? db.orderDb _ _ hrow, hbefore] at hi
    cases hi
    cases hrefused

/-- The scheduler does not select a refused order. -/
theorem notMem_ordersOf_expiry {s : Bots} {i : ℕ} {status : OrderStatus}
    (hi : s.db.orderDb.statusOf i = some status) (hrefused : refused status = true)
    {scan scan' : Scan OrderConsultation} {now now' : Datetime} {admitted sent : Bool} :
    i ∉ s.ordersOf ⟨.orderExpiry scan scan' now now', admitted, sent⟩ := by
  unfold ordersOf
  dsimp only
  split
  · exact List.not_mem_nil
  rename_i cutoff _
  rw [List.map_append, List.mem_append]
  have hstale : i ∉ (s.db.orderDb.staleConfirmations scan cutoff).map OrderConsultation.id := by
    intro hstale
    obtain ⟨o, ho, hp⟩ := mem_selected hstale
    rw [statusOf_of_find? ho] at hi
    rw [Bool.and_eq_true, beq_iff_eq] at hp
    rw [hp.1] at hi
    cases hi
    cases hrefused
  rintro (h | h)
  · exact hstale h
  · obtain ⟨o, ho, hp⟩ := mem_selected h
    have hcancel := cancelAll_status i (s.db.orderDb.staleConfirmations scan cutoff) s.db.orderDb
    rw [if_neg hstale, hi, statusOf_of_find? ho] at hcancel
    simp only [Bool.and_eq_true, beq_iff_eq] at hp
    rw [hp.1.1] at hcancel
    cases hcancel
    cases hrefused

/-- A step that acts on a refused order writes no product. -/
theorem refused_products {s s' : Bots} {d : Delivery} {i : ℕ} {status : OrderStatus}
    (hi : s.db.orderDb.statusOf i = some status) (hrefused : refused status = true)
    (hd : confirmsRefused s d = false) (hs : Bots.step fmt s d = some s') (hmem : i ∈ s.ordersOf d) :
    s'.db.products = s.db.products := by
  -- the row that the owner's handlers find
  have howned : ∀ {user : ℤ} {handle : OrderConsultation → ShopDb},
      (∀ shopBot order, s.db.shopOf user = some shopBot → order ∈ s.db.orders.rows →
        order.id = i → order.shopBotId = shopBot.id → refused order.status = true →
        (handle order).products = s.db.products) →
      (s.db.withOwnedOrder user i handle).products = s.db.products := by
    intro user handle h
    refine ShopDb.withOwnedOrder_keeps (I := fun db' => db'.products = s.db.products) rfl ?_
    intro shopBot order hshop hrow hid hown
    refine h shopBot order hshop hrow hid hown ?_
    rw [← hid, @statusOf_of_mem s.db.orderDb _ hrow] at hi
    cases hi
    exact hrefused
  obtain ⟨update, admitted, sent⟩ := d
  cases update with
  | confirmOrder now user orderId =>
    obtain rfl := List.mem_singleton.1 hmem
    cases hs
    cases admitted with
    | false => rfl
    | true =>
      refine howned fun shopBot order hshop hrow hid hown href => ?_
      split_ifs
      · rfl
      cases sent with
      | false =>
        unfold ShopDb.commit
        split <;> rfl
      | true =>
        subst hid
        rw [confirmsRefused_of_move (Table.find?_of_mem hrow) rfl rfl rfl hshop hown href] at hd
        cases hd
  | rejectOrder user orderId =>
    obtain rfl := List.mem_singleton.1 hmem
    cases hs
    refine ShopDb.ite_keeps (I := fun db' => db'.products = s.db.products) rfl
      (howned fun shopBot order _ _ _ _ href => commit_same fun orders hok => ?_)
    obtain ⟨x, hx, rfl⟩ := map_ok hok
    obtain hsame | ⟨hpending, -⟩ := rejectOrder_ok hx
    · rw [hsame]
      rfl
    · rw [hpending] at href
      cases href
  | advanceOrder user orderId =>
    obtain rfl := List.mem_singleton.1 hmem
    cases hs
    refine ShopDb.ite_keeps (I := fun db' => db'.products = s.db.products) rfl
      (howned fun shopBot order _ _ _ _ href => commit_same fun orders hok => ?_)
    cases hok
    obtain hsame | ⟨_, _, hbefore, -⟩ := advanceStatus_cases s.db.orderDb order
    · rw [hsame]
      rfl
    · rw [refused_of_advance hbefore] at href
      cases href
  | customerConfirmOrder now bot user orderId =>
    obtain rfl := List.mem_singleton.1 hmem
    cases hs
    change (s.db.cbCustomerConfirmOrder sent now bot user i).products = s.db.products
    unfold ShopDb.cbCustomerConfirmOrder
    rw [resolveAwaitingOrder_none hi hrefused]
  | customerCancelOrder bot user orderId =>
    obtain rfl := List.mem_singleton.1 hmem
    cases hs
    change (s.db.cbCustomerCancelOrder sent bot user i).products = s.db.products
    unfold ShopDb.cbCustomerCancelOrder
    rw [resolveAwaitingOrder_none hi hrefused]
  | orderExpiry scan scan' now now' => exact absurd hmem (notMem_ordersOf_expiry hi hrefused)
  | _ => cases hmem

/-- **The owner cannot finalize what was refused**, in a run in which no confirm button of a refused
order is pressed: an order that has got as far as `CONFIRMED` was made `PENDING` by its customer's
confirmation, and once an order is refused, its status stays and no step that acts on it writes a
product. -/
theorem refused_final (fmt : PyJson → String) (s₀ s s' : Bots) (hs₀ : s₀.Fresh)
    (before after : List Delivery)
    (hcond : Runs.Along (Bots.step fmt) (fun s d => confirmsRefused s d = false) s₀ (before ++ after))
    (hbefore : Runs.exec (Bots.step fmt) s₀ before = some s)
    (hafter : Runs.exec (Bots.step fmt) s after = some s') (i : ℕ) (status : OrderStatus)
    (hi : s.db.orderDb.statusOf i = some status) :
    (status ∈ advanceSequence → CustomerConfirmed fmt s₀ before i) ∧
    (status = .CANCELLED ∨ status = .REJECTED → s'.db.orderDb.statusOf i = some status ∧
      ∀ d s'', confirmsRefused s' d = false → Bots.step fmt s' d = some s'' → i ∈ s'.ordersOf d →
        s''.db.products = s'.db.products) := by
  obtain ⟨hcond₁, hcond₂⟩ := Runs.along_append hcond hbefore
  refine ⟨fun hstatus => ?_, fun hstatus => ?_⟩
  · refine Runs.exec_history (I := fun updates s => ∀ i status,
      s.db.orderDb.statusOf i = some status → unconfirmed status = false →
        CustomerConfirmed fmt s₀ updates i) ?_ ?_ before s hcond₁ hbefore i status hi
      (unconfirmed_of_advance hstatus)
    · intro i status hi
      obtain ⟨o, ho, -⟩ := statusOf_some hi
      have hrow : o ∈ s₀.db.orders.rows := Table.mem_of_find? ho
      rw [hs₀.no_orders] at hrow
      cases hrow
    · intro updates s d s' hrun h hd hs
      exact customerConfirmed_step hrun h hd hs
  · have hrefused : refused status = true := by
      obtain rfl | rfl := hstatus <;> rfl
    have hlast : s'.db.orderDb.statusOf i = some status :=
      Runs.exec_inv (I := fun s => s.db.orderDb.statusOf i = some status)
        (fun s d s' hi hd hs => refused_step hi hrefused hd hs) after s s' hi hcond₂ hafter
    exact ⟨hlast, fun d s'' hd hs hmem => refused_products hlast hrefused hd hs hmem⟩

/-- A customer asks for tea and then cancels the order. -/
def teaCancelled : List Delivery :=
  [⟨.customerMessage 0 501 900 none none, true, true⟩, ⟨.reply 1 1 900, true, true⟩,
    ⟨.detectOrder 2 0 (some (.dict [("status", .str "completed"), ("type", .str "order"),
      ("summary", .str "tea"), ("product_id", .int 1), ("quantity", .int 2)])), true, true⟩,
    ⟨.customerCancelOrder 501 900 1, true, true⟩]

theorem refused_final_teaCancelled :
    ∃ s s', Runs.exec (Bots.step fun _ => "") twoShops teaCancelled = some s ∧
      Runs.exec (Bots.step fun _ => "") s [⟨.advanceOrder 100 1, true, true⟩,
        ⟨.confirmOrder 9 200 1, true, true⟩] = some s' ∧
      s.db.orderDb.statusOf 1 = some .CANCELLED ∧ s'.db.orderDb.statusOf 1 = some .CANCELLED :=
  ⟨_, _, rfl, rfl, by decide +kernel, ((refused_final _ twoShops _ _ ⟨rfl, rfl⟩ teaCancelled
    [⟨.advanceOrder 100 1, true, true⟩, ⟨.confirmOrder 9 200 1, true, true⟩] (by decide +kernel) rfl rfl
    1 .CANCELLED (by decide +kernel)).2 (Or.inl rfl)).1⟩

/-- The owner presses the confirm button of the cancelled order: it is confirmed, although the
customer never did so, and two units leave the stock. -/
theorem refused_confirmed :
    ∃ s s', Runs.exec (Bots.step fun _ => "") twoShops teaCancelled = some s ∧
      Bots.step (fun _ => "") s ⟨.confirmOrder 9 100 1, true, true⟩ = some s' ∧ twoShops.Fresh ∧
      s.db.orderDb.statusOf 1 = some .CANCELLED ∧ s'.db.orderDb.statusOf 1 = some .CONFIRMED ∧
      ¬ CustomerConfirmed (fun _ => "") twoShops
        (teaCancelled ++ [⟨.confirmOrder 9 100 1, true, true⟩]) 1 ∧
      s.db.orderDb.stockOf 1 = some 5 ∧ s'.db.orderDb.stockOf 1 = some 3 := by
  refine ⟨_, _, rfl, rfl, ⟨rfl, rfl⟩, by decide +kernel, by decide +kernel, ?_, by decide +kernel,
    by decide +kernel⟩
  rintro ⟨before, d, after, -, -, -, now, bot, user, hsplit, -, -, hd, -⟩
  have hmem : d ∈ before ++ d :: after := List.mem_append_right _ List.mem_cons_self
  rw [← hsplit] at hmem
  simp only [teaCancelled, List.cons_append, List.nil_append, List.mem_cons, List.not_mem_nil,
    or_false] at hmem
  obtain rfl | rfl | rfl | rfl | rfl := hmem <;> cases hd

end Bots

end KasbOKar
