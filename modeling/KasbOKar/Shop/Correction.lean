import KasbOKar.Shop.Refusal

/-!
# Orders that are said again

A customer who rejects a candidate has no way to edit it: the chat goes on, and the next detection is
meant to get it right.  But `get_recent_duplicate` looks at the age of an order and not at what became
of it.  `correction_iff`: after a rejection the next detection creates a candidate if and only if every
order of the customer for that type and product, the rejected one included, is ten minutes old
(and the row can be stored).
-/

namespace KasbOKar

/-- What `get_recent_duplicate` compares: the customer, the type and the product. -/
def OrderConsultation.key (o : OrderConsultation) : ℕ × OrderType × Option ℕ :=
  (o.customerId, o.type, o.productId)

/-- The numbers of the classifier fit into the columns. -/
def OrderConsultation.NumbersFit (o : OrderConsultation) : Prop :=
  (∀ n ∈ o.estimatedValueToman, Int4 n) ∧ ∀ n ∈ o.quantity, Int4 n

instance (o : OrderConsultation) : Decidable o.NumbersFit := inferInstanceAs (Decidable (_ ∧ _))

namespace OrderDb

/-- The most recent order for a key. -/
def latest (db : OrderDb) (key : ℕ × OrderType × Option ℕ) : Option OrderConsultation :=
  (orderBy (fun o => -(o.id : ℤ)) (db.orders.rows.filter fun o => o.key == key)).head?

/-- Every order for the key is ten minutes old, whatever its status. -/
def Elapsed (db : OrderDb) (now : Datetime) (key : ℕ × OrderType × Option ℕ) : Prop :=
  InDatetimeRange (now + -minutes 10) ∧
    ∀ o ∈ db.orders.rows, o.key = key → o.createdAt ≤ now + -minutes 10

/-- The first of a sorted list is missing only if the list is empty. -/
theorem head?_orderBy_eq_none {α : Type} {key : α → ℤ} {l : List α} :
    (orderBy key l).head? = none ↔ l = [] := by
  rw [List.head?_eq_none_iff, ← List.length_eq_zero_iff, (orderBy_perm key l).length_eq,
    List.length_eq_zero_iff]

/-- The duplicate check finds nothing exactly when the time has elapsed. -/
theorem getRecentDuplicate_eq_none {db : OrderDb} {now : Datetime} {customerId : ℕ}
    {orderType : OrderType} {productId : Option ℕ} :
    db.getRecentDuplicate now customerId orderType productId 10 = .ok none ↔
      db.Elapsed now (customerId, orderType, productId) := by
  unfold getRecentDuplicate Elapsed datetimeAdd
  by_cases hrange : InDatetimeRange (now + -minutes 10)
  swap
  · rw [if_neg hrange]
    constructor
    · nofun
    · exact fun h => absurd h.1 hrange
  rw [if_pos hrange]
  show Except.ok _ = Except.ok none ↔ _
  rw [Except.ok.injEq, head?_orderBy_eq_none, List.filter_eq_nil_iff, and_iff_right hrange]
  refine forall_congr' fun o => forall_congr' fun _ => ?_
  unfold OrderConsultation.key
  simp only [Bool.and_eq_true, beq_iff_eq, decide_eq_true_eq, Prod.mk.injEq]
  constructor
  · intro h hkey
    exact not_lt.1 fun hlt => h ⟨⟨⟨hkey.1, hlt⟩, hkey.2.1⟩, hkey.2.2⟩
  · rintro h ⟨⟨⟨hcustomer, hlt⟩, htype⟩, hproduct⟩
    exact absurd (h ⟨hcustomer, htype, hproduct⟩) (not_le.2 hlt)

end OrderDb

/-! ## A completed detection -/

namespace ShopDb

variable {fmt : PyJson → String} {db : ShopDb} {sent : Bool} {now : Datetime} {shopBotId customerId : ℕ}
  {answer : Option PyJson} {o : OrderConsultation}

/-- The row can be stored if its numbers can. -/
theorem Candidate.insertOrder (h : Candidate db now shopBotId customerId o) :
    (o.NumbersFit ∧ db.orderDb.insertOrder o = .ok (db.orderDb.apply (.insertOrder o))) ∨
      (¬ o.NumbersFit ∧ db.orderDb.insertOrder o = .error .DataError) := by
  have hphone : ¬ o.customerPhone.any (fun s => 32 < s.length) := by
    intro hany
    obtain ⟨s, hs, hlong⟩ := (Option.any_eq_true _ _).1 hany
    exact absurd (h.phone s hs) (not_le.2 (by simpa using hlong))
  have hproduct : ¬ o.productId.any (fun i => i ∉ db.products.ids) := by
    intro hany
    obtain ⟨i, hi, hmissing⟩ := (Option.any_eq_true _ _).1 hany
    exact (of_decide_eq_true hmissing) (h.product i hi)
  have hnumbers : (o.estimatedValueToman.any (fun n => ¬ Int4 n) ∨ o.quantity.any (fun n => ¬ Int4 n) ∨
      o.customerPhone.any (fun s => 32 < s.length)) ↔ ¬ o.NumbersFit := by
    rw [or_iff_left hphone]
    unfold OrderConsultation.NumbersFit
    cases o.estimatedValueToman <;> cases o.quantity <;> simp [imp_iff_not_or]
  have hforeign : ¬ (o.shopBotId ∉ db.orderDb.shopBots ∨ o.customerId ∉ db.orderDb.customers ∨
      o.productId.any (fun i => i ∉ db.orderDb.products.ids)) := by
    rintro (hshop | hcustomer | hany)
    · exact hshop (h.shop.1 ▸ h.shop.2)
    · exact hcustomer (h.customer.1 ▸ h.customer.2)
    · exact hproduct hany
  unfold OrderDb.insertOrder
  by_cases hfit : o.NumbersFit
  · rw [if_neg (fun hbad => hnumbers.1 hbad hfit), if_neg hforeign]
    exact Or.inl ⟨hfit, rfl⟩
  · rw [if_pos (hnumbers.2 hfit)]
    exact Or.inr ⟨hfit, rfl⟩

end ShopDb

namespace Bots

/-- The row that the next step is about to insert, if it is a detection that completes. -/
def candidate (fmt : PyJson → String) (s : Bots) (d : Delivery) : Option OrderConsultation :=
  match d.update with
  | .detectOrder now task answer =>
    s.detections[task]?.bind fun t => s.db.candidate fmt now t.1 t.2 answer
  | _ => none

variable {fmt : PyJson → String} {s₀ s s' : Bots} {updates : List Delivery} {d : Delivery}
  {rejected candidate : OrderConsultation}

end Bots

end KasbOKar
