import KasbOKar.Order.Stock

/-!
# What an operation on an order writes

The operations of the order service on one order write the row of that order and the row of its
product, and they never write the columns that say whose rows these are.  `Confined P Q` says that
two databases agree outside the orders in `P` and the products in `Q`; an operation on an order is
confined as soon as its two rows are inside (`confined_of_touches`).
-/

namespace KasbOKar

namespace OrderDb

/-- The edit writes the row of the order or of its product. -/
def touches (order : OrderConsultation) : OrderEdit → Bool
  | .order j _ => j == order.id
  | .product j _ => order.productId == some j
  | _ => false

section Touches

variable {db db' : OrderDb} {order : OrderConsultation}

theorem edited_mono {P Q : OrderEdit → Bool} (h : ∀ e, P e = true → Q e = true)
    (hed : Edited P db db') : Edited Q db db' :=
  Relation.ReflTransGen.mono (fun _ _ ⟨e, he, heq⟩ => ⟨e, h e he, heq⟩) _ _ hed

theorem edited_order (db : OrderDb) (order : OrderConsultation) (c : OrderChange) :
    Edited (touches order) db (db.apply (.order order.id c)) := edited_apply db (beq_self_eq_true _)

theorem edited_product (db : OrderDb) {i : ℕ} (hi : order.productId = some i) (c : ProductChange) :
    Edited (touches order) db (db.apply (.product i c)) :=
  edited_apply db (by rw [touches, hi, beq_self_eq_true])

theorem reserveStock_touches {now : Datetime} (h : db.reserveStock now order = .ok db') :
    Edited (touches order) db db' := by
  obtain rfl | ⟨i, p, stock, expiresAt, hi, -, -, -, rfl⟩ := reserveStock_ok h
  · exact .refl
  · exact (edited_product db hi _).trans (edited_order _ order _)

theorem releaseReservation_touches (h : db.releaseReservation order = .ok db') :
    Edited (touches order) db db' := by
  obtain ⟨-, rfl⟩ | ⟨-, db₁, h₁, rfl⟩ := releaseReservation_ok h
  · exact .refl
  refine Relation.ReflTransGen.trans ?_ (edited_order db₁ order _)
  obtain ⟨rfl, -⟩ | ⟨i, p, hi, -, rfl⟩ := giveBack_ok h₁
  · exact .refl
  · exact edited_product db hi _

theorem takeStock_touches (h : db.takeStock order = .ok db') : Edited (touches order) db db' := by
  obtain ⟨rfl, -⟩ | ⟨i, p, stock, hi, -, -, rfl⟩ := takeStock_ok h
  · exact .refl
  split_ifs
  · exact (edited_product db hi _).trans (edited_product _ hi _)
  · exact edited_product db hi _

theorem confirmOrder_touches {now : Datetime} {b : Bool}
    (h : db.confirmOrder now order = .ok (db', b)) : Edited (touches order) db db' := by
  obtain ⟨rfl, -⟩ | ⟨-, -, -, db₁, h₁, rfl⟩ := confirmOrder_ok h
  · exact .refl
  · exact (takeStock_touches h₁).trans (edited_order db₁ order _)

theorem rejectOrder_touches {b : Bool} (h : db.rejectOrder order = .ok (db', b)) :
    Edited (touches order) db db' := by
  obtain rfl | ⟨-, db₁, h₁, rfl⟩ := rejectOrder_ok h
  · exact .refl
  · exact (releaseReservation_touches h₁).trans (edited_order db₁ order _)

theorem advanceStatus_touches (db : OrderDb) (order : OrderConsultation) :
    Edited (touches order) db (db.advanceStatus order).1 := by
  obtain hsame | ⟨s, -, -, hstep⟩ := advanceStatus_cases db order
  · rw [hsame]
  · rw [hstep]
    exact edited_order db order _

theorem customerConfirmOrder_touches {now : Datetime}
    (h : db.customerConfirmOrder now order = .ok db') : Edited (touches order) db db' :=
  (edited_order db order (.status .PENDING)).trans (reserveStock_touches h)

theorem customerCancelOrder_touches (db : OrderDb) (order : OrderConsultation) :
    Edited (touches order) db (db.customerCancelOrder order) := edited_order db order _

end Touches

/-! ## Updates -/

/-- An edit of a row that is there. -/
def isUpdate (e : OrderEdit) : Bool := !e.isNew

theorem touches_isUpdate {order : OrderConsultation} (e : OrderEdit) (h : touches order e = true) :
    isUpdate e = true := by
  cases e <;> first | rfl | cases h

theorem expireReservation_touches (h : db.expireReservation order = .ok db') :
    Edited (touches order) db db' := by
  obtain ⟨db₁, h₁, h⟩ := bind_ok h
  cases h
  exact (releaseReservation_touches h₁).trans (edited_order db₁ order (.status .EXPIRED))

theorem expireAll_updates {expired : List OrderConsultation}
    (h : expired.foldlM expireReservation db = .ok db') : Edited isUpdate db db' :=
  foldlM_keeps (I := Edited isUpdate db)
    (fun _ _ _ _ hI hround => hI.trans (edited_mono touches_isUpdate (expireReservation_touches hround)))
    .refl h

theorem cancelAll_updates (stale : List OrderConsultation) (db : OrderDb) :
    Edited isUpdate db (stale.foldl customerCancelOrder db) :=
  List.foldlRecOn stale _ .refl fun db₁ hI o _ =>
    hI.trans (edited_mono touches_isUpdate (customerCancelOrder_touches db₁ o))

/-- What updates keep of the rows: whose they are. -/
structure Kept (db db' : OrderDb) : Prop where
  order : ∀ o' ∈ db'.orders.rows, ∃ o ∈ db.orders.rows, o'.id = o.id ∧ o'.shopBotId = o.shopBotId ∧
    o'.customerId = o.customerId ∧ o'.productId = o.productId
  product : ∀ p ∈ db.products.rows, ∃ p' ∈ db'.products.rows, p'.id = p.id ∧
    p'.shopBotId = p.shopBotId

theorem kept_refl (db : OrderDb) : Kept db db :=
  ⟨fun o ho => ⟨o, ho, rfl, rfl, rfl, rfl⟩, fun p hp => ⟨p, hp, rfl, rfl⟩⟩

theorem Kept.trans {db db₁ db' : OrderDb} (h : Kept db db₁) (h' : Kept db₁ db') : Kept db db' where
  order o' ho' := by
    obtain ⟨o₁, ho₁, hid₁, hshop₁, hcust₁, hprod₁⟩ := h'.order o' ho'
    obtain ⟨o, ho, hid, hshop, hcust, hprod⟩ := h.order o₁ ho₁
    exact ⟨o, ho, hid₁.trans hid, hshop₁.trans hshop, hcust₁.trans hcust, hprod₁.trans hprod⟩
  product p hp := by
    obtain ⟨p₁, hp₁, hid₁, hshop₁⟩ := h.product p hp
    obtain ⟨p', hp', hid, hshop⟩ := h'.product p₁ hp₁
    exact ⟨p', hp', hid.trans hid₁, hshop.trans hshop₁⟩

theorem kept_apply (db : OrderDb) {e : OrderEdit} (he : isUpdate e = true) : Kept db (db.apply e) := by
  cases e with
  | insertProduct p => cases he
  | insertOrder o => cases he
  | order j c =>
    refine ⟨fun o' ho' => ?_, fun p hp => ⟨p, hp, rfl, rfl⟩⟩
    rcases Table.mem_modify_cases (f := fun o => c.write o) (fun o => c.write_id o) ho' with
      ⟨ho, -⟩ | ⟨o, ho, -, rfl⟩
    · exact ⟨o', ho, rfl, rfl, rfl, rfl⟩
    · exact ⟨o, ho, c.write_id o, c.write_shopBotId o, c.write_customerId o, c.write_productId o⟩
  | product j c =>
    refine ⟨fun o ho => ⟨o, ho, rfl, rfl, rfl, rfl⟩, fun p hp => ?_⟩
    by_cases hj : p.id = j
    · exact ⟨c.write p, Table.mem_modify_self (f := fun p => c.write p) (fun p => c.write_id p) hp hj,
        c.write_id p, c.write_shopBotId p⟩
    · exact ⟨p, Table.mem_modify_of_ne (f := fun p => c.write p) (fun p => c.write_id p) hp hj,
        rfl, rfl⟩

theorem kept_insertProduct (db : OrderDb) (p : Product) : Kept db (db.apply (.insertProduct p)) :=
  ⟨fun o ho => ⟨o, ho, rfl, rfl, rfl, rfl⟩, fun q hq => ⟨q, Table.mem_insert_of_mem hq, rfl, rfl⟩⟩

theorem kept_of_updates {db db' : OrderDb} (h : Edited isUpdate db db') : Kept db db' := by
  induction h with
  | refl => exact kept_refl db
  | tail _ hstep ih =>
    obtain ⟨e, he, rfl⟩ := hstep
    exact ih.trans (kept_apply _ he)

/-! ## Confinement -/

/-- The databases agree on the orders outside `P` and the products outside `Q`. -/
structure Confined (P : OrderConsultation → Prop) (Q : Product → Prop) (db db' : OrderDb) : Prop where
  order : ∀ o, ¬ P o → (o ∈ db'.orders.rows ↔ o ∈ db.orders.rows)
  product : ∀ p, ¬ Q p → (p ∈ db'.products.rows ↔ p ∈ db.products.rows)

section Confined

variable {P : OrderConsultation → Prop} {Q : Product → Prop} {db db' : OrderDb}

theorem confined_refl (db : OrderDb) : Confined P Q db db := ⟨fun _ _ => Iff.rfl, fun _ _ => Iff.rfl⟩

theorem Confined.trans {db₁ : OrderDb} (h : Confined P Q db db₁) (h' : Confined P Q db₁ db') :
    Confined P Q db db' :=
  ⟨fun o ho => (h'.order o ho).trans (h.order o ho),
    fun p hp => (h'.product p hp).trans (h.product p hp)⟩

/-- A row that is modified, seen from outside. -/
theorem mem_modify_outside {α : Type} [Keyed α] {R : α → Prop} {t : Table α} {i : ℕ} {f : α → α}
    (hf : ∀ r, Keyed.id (f r) = Keyed.id r) (hR : ∀ r, R r → R (f r))
    (hrow : ∀ r ∈ t.rows, Keyed.id r = i → R r) {r : α} (hr : ¬ R r) :
    r ∈ (t.modify i f hf).rows ↔ r ∈ t.rows := by
  constructor
  · intro h
    rcases Table.mem_modify_cases hf h with ⟨h, -⟩ | ⟨s, hs, hi, rfl⟩
    · exact h
    · exact absurd (hR s (hrow s hs hi)) hr
  · intro h
    exact Table.mem_modify_of_ne hf h fun hi => hr (hrow r h hi)

/-- A row that is inserted, seen from outside. -/
theorem mem_insert_outside {α : Type} [Keyed α] {R : α → Prop} {t : Table α} {r s : α} (hs : R s)
    (hr : ¬ R r) : r ∈ (t.insert s).rows ↔ r ∈ t.rows := by
  by_cases hid : Keyed.id s ∈ t.ids
  · unfold Table.insert
    rw [dif_pos hid]
  · rw [Table.mem_insert hid]
    exact or_iff_left fun e => hr (e ▸ hs)

theorem confined_product (hQ : ∀ p (c : ProductChange), Q p → Q (c.write p)) {i : ℕ}
    (hrow : ∀ p ∈ db.products.rows, p.id = i → Q p) (c : ProductChange) :
    Confined P Q db (db.apply (.product i c)) :=
  ⟨fun _ _ => Iff.rfl, fun _ hp =>
    mem_modify_outside (f := fun p => c.write p) (fun p => c.write_id p) (fun p => hQ p c) hrow hp⟩

theorem confined_insertProduct {p : Product} (hp : Q p) :
    Confined P Q db (db.apply (.insertProduct p)) :=
  ⟨fun _ _ => Iff.rfl, fun _ hout => mem_insert_outside hp hout⟩

/-- **An operation on an order** whose rows are inside. -/
theorem confined_of_touches (hP : ∀ o (c : OrderChange), P o → P (c.write o))
    (hQ : ∀ p (c : ProductChange), Q p → Q (c.write p)) {order : OrderConsultation}
    (ho : ∀ o ∈ db.orders.rows, o.id = order.id → P o)
    (hp : ∀ p ∈ db.products.rows, order.productId = some p.id → Q p)
    (h : Edited (touches order) db db') : Confined P Q db db' := by
  -- the two rows stay inside while they are edited
  suffices Confined P Q db db' ∧ (∀ o ∈ db'.orders.rows, o.id = order.id → P o) ∧
      ∀ p ∈ db'.products.rows, order.productId = some p.id → Q p from this.1
  induction h with
  | refl => exact ⟨confined_refl db, ho, hp⟩
  | @tail db₁ db₂ _ hstep ih =>
    obtain ⟨e, he, rfl⟩ := hstep
    obtain ⟨hconf, ho₁, hp₁⟩ := ih
    cases e with
    | insertProduct p => cases he
    | insertOrder o => cases he
    | order j c =>
      have hj : j = order.id := beq_iff_eq.1 he
      subst hj
      refine ⟨hconf.trans ⟨fun o hout => ?_, fun _ _ => Iff.rfl⟩, fun o ho' hid => ?_, hp₁⟩
      · exact mem_modify_outside (f := fun o => c.write o) (fun o => c.write_id o)
          (fun o => hP o c) ho₁ hout
      · rcases Table.mem_modify_cases (f := fun o => c.write o) (fun o => c.write_id o) ho' with
          ⟨hr, -⟩ | ⟨r, hr, hid', rfl⟩
        · exact ho₁ o hr hid
        · exact hP r c (ho₁ r hr hid')
    | product j c =>
      have hj : order.productId = some j := beq_iff_eq.1 he
      refine ⟨hconf.trans (confined_product hQ (fun p hp' hid => ?_) c), ho₁, fun p hp' hid => ?_⟩
      · exact hp₁ p hp' (hid ▸ hj)
      · rcases Table.mem_modify_cases (f := fun p => c.write p) (fun p => c.write_id p) hp' with
          ⟨hr, -⟩ | ⟨r, hr, hid', rfl⟩
        · exact hp₁ p hr hid
        · refine hQ r c (hp₁ r hr ?_)
          rw [hid, ProductChange.write_id]

end Confined

end OrderDb

end KasbOKar
