import KasbOKar.Payment.Panel

/-!
# The limit of a discount code

`max_uses` is compared with `used_count` when a code is typed; the code is counted when a payment is
approved.  In between any number of owners pass the same check (`code_overused`).  `code_limit` says
that `used_count` is exact in every run, and that the limit holds as long as no payment is approved
whose code is used up already.
-/

namespace KasbOKar

namespace PaymentDb

/-- The number of approved payments with a code. -/
def approvedWith (db : PaymentDb) (codeId : ℕ) : ℤ :=
  db.payments.sum fun p => if p.status = .APPROVED ∧ p.discountCodeId = some codeId then 1 else 0

/-- `used_count` is the number of approved payments with the code. -/
def Counted (db : PaymentDb) : Prop :=
  ∀ c ∈ db.codes.rows, c.usedCount = db.approvedWith c.id

/-- No code has more approved payments than `max_uses`. -/
def WithinLimit (db : PaymentDb) : Prop :=
  ∀ c ∈ db.codes.rows, ∀ m, c.maxUses = some m → db.approvedWith c.id ≤ m

/-- The code of the payment is used up. -/
def usedUp (db : PaymentDb) (p : Payment) : Bool :=
  (db.getDiscountOrNone p.discountCodeId).any fun c => c.maxUses.any fun m => decide (m ≤ c.usedCount)

variable {W : World} {db db' : PaymentDb} {now : Datetime} {payment : Payment}

/-! ## What a review counts -/

/-- A new payment is not approved. -/
theorem approvedWith_insert {p : Payment} (hnew : db.NewPayment p) (k : ℕ) :
    (db.apply (.insertPayment p)).approvedWith k = db.approvedWith k := by
  have hfresh : Keyed.id p ∉ db.payments.ids := by
    show p.id ∉ db.payments.ids
    rw [hnew.id]
    exact Table.nextId_notMem _
  have hpending : ¬ (p.status = .APPROVED ∧ p.discountCodeId = some k) := by
    rw [hnew.status]
    rintro ⟨h, -⟩
    cases h
  show (db.payments.insert p).sum _ = _
  rw [Table.sum_insert hfresh, if_neg hpending, add_zero]
  rfl

theorem write_discountCodeId (p : Payment) (r : Review) :
    (r.write now p).discountCodeId = p.discountCodeId := by
  obtain ⟨x, rfl⟩ | ⟨x, rfl⟩ | ⟨x, rfl⟩ | ⟨a, x, rfl⟩ := r.write_cases <;> rfl

/-- A review moves the number of a code by one if it approves a payment with the code. -/
theorem approvedWith_review (hget : db.getById payment.id = some payment)
    (hpending : payment.status = .PENDING) (r : Review) (k : ℕ) :
    (db.apply (.review payment.id now r)).approvedWith k =
      db.approvedWith k + if r.status = .APPROVED ∧ payment.discountCodeId = some k then 1 else 0 := by
  have hbefore : ¬ (payment.status = .APPROVED ∧ payment.discountCodeId = some k) := by
    rw [hpending]
    rintro ⟨h, -⟩
    cases h
  show (db.payments.modify payment.id (fun p => r.write now p) fun p => r.write_id now p).sum _ = _
  rw [Table.sum_modify (f := fun p => r.write now p) (fun p => r.write_id now p) hget,
    Review.write_status, write_discountCodeId, if_neg hbefore, sub_zero]
  rfl

theorem applyPaymentEffect_codes {effect : Effect}
    (h : db.applyPaymentEffect W now payment = .ok (db', effect)) : db'.codes = db.codes := by
  unfold applyPaymentEffect at h
  split at h
  · obtain ⟨⟨db₁, c⟩, h₁, h⟩ := bind_ok h
    cases h
    obtain ⟨wallet, -, rfl⟩ := addCharge_ok h₁
    rfl
  · obtain ⟨⟨db₁, s⟩, h₁, h⟩ := bind_ok h
    cases h
    obtain ⟨-, -, rfl⟩ := purchaseOrRenew_ok h₁
    rfl

theorem processReferralReward_codes {ownerId : ℕ} {amount : ℤ} {reward : Option PyDict}
    (h : db.processReferralReward now ownerId amount = .ok (db', reward)) : db'.codes = db.codes := by
  obtain ⟨rfl, -, -⟩ | ⟨referral, referrer, db₁, c, -, -, -, h₁, rfl, -⟩ := processReferralReward_cases h
  · rfl
  · obtain ⟨wallet, -, rfl⟩ := addCharge_ok h₁
    rfl

/-- The codes after an approval: the one of the payment counts one more. -/
theorem approve_codes {approval : Approval} {effect : Effect} {reward : Option PyDict}
    (h : db.approve W now payment approval = .ok (db', effect, reward)) :
    (payment.discountCodeId = none ∧ db'.codes = db.codes) ∨
      ∃ k code, payment.discountCodeId = some k ∧ db.codes.find? k = some code ∧
        db'.codes = (db.apply (.setUsedCount k (code.usedCount + 1))).codes := by
  obtain ⟨-, db₁, db₂, h₁, h₂, h₃⟩ := approve_ok h
  have hrest : db'.codes = db₁.codes := by
    rcases h₃ with ⟨-, h₃⟩ | ⟨-, rfl, -⟩
    · rw [processReferralReward_codes h₃, applyPaymentEffect_codes h₂]
    · exact applyPaymentEffect_codes h₂
  unfold recordUsageOf at h₁
  split at h₁
  · rename_i hnone
    cases h₁
    exact Or.inl ⟨hnone, hrest⟩
  · rename_i k hk
    obtain ⟨code, hcode, -, -, rfl⟩ := recordUsage_ok h₁
    exact Or.inr ⟨k, code, hk, hcode, hrest⟩

/-- An approval counts once, for the code of the payment. -/
theorem approvedWith_approve {approval : Approval} {effect : Effect} {reward : Option PyDict}
    (h : db.approve W now payment approval = .ok (db', effect, reward))
    (hget : db.getById payment.id = some payment) (hpending : payment.status = .PENDING) (k : ℕ) :
    db'.approvedWith k = db.approvedWith k + if payment.discountCodeId = some k then 1 else 0 := by
  calc db'.approvedWith k
      = (db.apply (.review payment.id now (.approve approval))).approvedWith k := by
        unfold approvedWith
        rw [approve_payments h]
    _ = db.approvedWith k + if payment.discountCodeId = some k then 1 else 0 := by
        rw [approvedWith_review hget hpending]
        simp [Review.status]

/-- A row of the codes after an approval is one from before, with the count of its payments. -/
theorem mem_codes_approve {approval : Approval} {effect : Effect} {reward : Option PyDict}
    (h : db.approve W now payment approval = .ok (db', effect, reward)) {c : DiscountCode}
    (hc : c ∈ db'.codes.rows) :
    ∃ c₀ ∈ db.codes.rows, c₀.id = c.id ∧ c₀.maxUses = c.maxUses ∧
      c.usedCount = c₀.usedCount + if payment.discountCodeId = some c.id then 1 else 0 := by
  obtain ⟨hnone, hcodes⟩ | ⟨k, code, hk, hcode, hcodes⟩ := approve_codes h
  · rw [hcodes] at hc
    exact ⟨c, hc, rfl, rfl, by rw [hnone, if_neg nofun, add_zero]⟩
  · rw [hcodes] at hc
    rcases Table.mem_modify_cases (f := fun c : DiscountCode =>
      { c with usedCount := code.usedCount + 1 }) (fun _ => rfl) hc with ⟨hc, hne⟩ | ⟨c₀, hc₀, hid, rfl⟩
    · have hother : payment.discountCodeId ≠ some c.id := by
        rw [hk]
        exact fun he => hne (Option.some.inj he).symm
      exact ⟨c, hc, rfl, rfl, by rw [if_neg hother, add_zero]⟩
    · have hsame : c₀ = code := Table.eq_of_id_eq hc₀ (Table.mem_of_find? hcode)
        (hid.trans (Table.id_of_find? hcode).symm)
      have hid : c₀.id = k := hid
      refine ⟨c₀, hc₀, rfl, rfl, ?_⟩
      rw [hk, ← hsame]
      dsimp only
      rw [hid, if_pos rfl]

end PaymentDb

namespace Panel

variable {W : World} {baleBotToken : String} {s s' : Panel}

open PaymentDb

/-- The step is the approval of a payment whose code is used up. -/
def overuses (s : Panel) (a : Datetime × PanelAct) : Bool :=
  match a.2 with
  | .approve paymentId _ => (s.pending paymentId).any s.db.usedUp
  | _ => false

/-- **What a step does to the tables**: nothing, or it opens, approves or rejects one payment. -/
theorem step_cases {a : Datetime × PanelAct} (hs : s.step W baleBotToken a = some s') :
    (s'.db = s.db ∧ (s.overuses a = true → s' = s)) ∨
    (∃ p, s.db.NewPayment p ∧ s'.db = s.db.apply (.insertPayment p) ∧ s.overuses a = false) ∨
    (∃ payment approval effect reward, s.db.getById payment.id = some payment ∧
      payment.status = .PENDING ∧ s.overuses a = s.db.usedUp payment ∧
      s.db.approve W a.1 payment approval = .ok (s'.db, effect, reward)) ∨
    ∃ payment adminTelegramId reason, s.db.getById payment.id = some payment ∧
      payment.status = .PENDING ∧ s.overuses a = false ∧
      s'.db = s.db.apply (.review payment.id a.1 (.reject adminTelegramId reason)) := by
  obtain ⟨now, act⟩ := a
  cases act with
  | user telegramId e =>
    cases hs
    rcases handle_opens baleBotToken s now telegramId e with hsame | ⟨p, hnew, hopen⟩
    · exact Or.inl ⟨hsame, nofun⟩
    · exact Or.inr (Or.inl ⟨p, hnew, hopen, rfl⟩)
  | approve paymentId approval =>
    obtain rfl | ⟨payment, db, effect, reward, hpend, hok, rfl⟩ := approve_cases hs
    · exact Or.inl ⟨rfl, fun _ => rfl⟩
    · obtain ⟨hget, -, hpending⟩ := pending_eq_some hpend
      refine Or.inr (Or.inr (Or.inl ⟨payment, approval, effect, reward, hget, hpending, ?_, hok⟩))
      unfold overuses
      dsimp only
      rw [hpend, Option.any_some]
  | reject paymentId adminTelegramId reason =>
    obtain rfl | ⟨payment, hpend, rfl⟩ := reject_cases hs
    · exact Or.inl ⟨rfl, nofun⟩
    · obtain ⟨hget, -, hpending⟩ := pending_eq_some hpend
      exact Or.inr (Or.inr (Or.inr ⟨payment, adminTelegramId, reason, hget, hpending, rfl, rfl⟩))

/-- A step that approves nothing changes neither side. -/
theorem limits_of_eq (hcodes : s'.db.codes = s.db.codes)
    (happroved : ∀ k, s'.db.approvedWith k = s.db.approvedWith k) :
    (s.db.Counted → s'.db.Counted) ∧ (s.db.WithinLimit → s'.db.WithinLimit) := by
  refine ⟨fun h c hc => ?_, fun h c hc m hm => ?_⟩
  · rw [happroved]
    exact h c (hcodes ▸ hc)
  · rw [happroved]
    exact h c (hcodes ▸ hc) m hm

/-- A rejection does not approve. -/
theorem approvedWith_reject {payment : Payment} (hget : s.db.getById payment.id = some payment)
    (hpending : payment.status = .PENDING) (now : Datetime) (adminTelegramId : Option ℤ)
    (reason : Option String) (k : ℕ) :
    (s.db.apply (.review payment.id now (.reject adminTelegramId reason))).approvedWith k =
      s.db.approvedWith k := by
  rw [approvedWith_review hget hpending]
  simp [Review.status]

/-- Every step keeps the counters exact. -/
theorem counted_step {a : Datetime × PanelAct} (hcounted : s.db.Counted)
    (hs : s.step W baleBotToken a = some s') : s'.db.Counted := by
  obtain ⟨hsame, -⟩ | ⟨p, hnew, hopen, -⟩ | ⟨payment, approval, effect, reward, hget, hpending, -, hok⟩ |
    ⟨payment, adminTelegramId, reason, hget, hpending, -, hreject⟩ := step_cases hs
  · rw [hsame]
    exact hcounted
  · exact (limits_of_eq (by rw [hopen]; rfl) (by rw [hopen]; exact approvedWith_insert hnew)).1 hcounted
  · intro c hc
    obtain ⟨c₀, hc₀, hid, -, hcount⟩ := mem_codes_approve hok hc
    rw [approvedWith_approve hok hget hpending, hcount, hcounted c₀ hc₀, hid]
  · exact (limits_of_eq (by rw [hreject]; rfl)
      (by rw [hreject]; exact approvedWith_reject hget hpending _ _ _)).1 hcounted

/-- The limit after an approval that returns: it holds just when the code was not used up. -/
theorem withinLimit_approve {now : Datetime} {payment : Payment} {approval : Approval} {effect : Effect}
    {reward : Option PyDict} (hcounted : s.db.Counted) (hwithin : s.db.WithinLimit)
    (hget : s.db.getById payment.id = some payment) (hpending : payment.status = .PENDING)
    (hok : s.db.approve W now payment approval = .ok (s'.db, effect, reward)) :
    s'.db.WithinLimit ↔ s.db.usedUp payment = false := by
  unfold usedUp
  constructor
  · intro h
    rw [Bool.eq_false_iff]
    intro hused
    obtain ⟨code, hcode, hm⟩ := (Option.any_eq_true _ _).1 hused
    obtain ⟨m, hm, hle⟩ := (Option.any_eq_true _ _).1 hm
    obtain ⟨k, hk, hfind⟩ := Option.bind_eq_some_iff.1 hcode
    have hmem : code ∈ s.db.codes.rows := Table.mem_of_find? hfind
    have hid : code.id = k := Table.id_of_find? hfind
    -- the row of the code after the approval
    have hids : code.id ∈ s'.db.codes.ids := by
      rw [(approve_frame hok).codes]
      exact Table.id_mem_ids hmem
    obtain ⟨c, hc, hcid⟩ := Table.mem_ids.1 hids
    obtain ⟨c₀, hc₀, hid₀, hmax, -⟩ := mem_codes_approve hok hc
    cases Table.eq_of_id_eq hmem hc₀ (hcid.symm.trans hid₀.symm)
    have hover := h c hc m (hmax ▸ hm)
    rw [approvedWith_approve hok hget hpending, ← hid₀, hk, hid, if_pos rfl, ← hid,
      ← hcounted code hmem] at hover
    have hle := of_decide_eq_true hle
    omega
  · intro hfree c hc m hm
    obtain ⟨c₀, hc₀, hid, hmax, hcount⟩ := mem_codes_approve hok hc
    rw [approvedWith_approve hok hget hpending]
    split_ifs with hcode
    · have hlookup : s.db.getDiscountOrNone payment.discountCodeId = some c₀ := by
        rw [hcode, ← hid]
        exact Table.find?_of_mem hc₀
      rw [hlookup, Option.any_some, hmax, hm, Option.any_some, decide_eq_false_iff_not] at hfree
      rw [← hid, ← hcounted c₀ hc₀]
      omega
    · rw [add_zero, ← hid]
      exact hwithin c₀ hc₀ m (hmax.trans hm)

/-- A step keeps the limits, unless it approves a payment whose code is used up. -/
theorem withinLimit_step {a : Datetime × PanelAct} (hcounted : s.db.Counted)
    (hwithin : s.db.WithinLimit) (hs : s.step W baleBotToken a = some s') :
    s'.db.WithinLimit ↔ (s.overuses a = true → s.step W baleBotToken a = some s) := by
  obtain ⟨hsame, hback⟩ | ⟨p, hnew, hopen, hover⟩ |
    ⟨payment, approval, effect, reward, hget, hpending, hover, hok⟩ |
    ⟨payment, adminTelegramId, reason, hget, hpending, hover, hreject⟩ := step_cases hs
  · rw [hsame]
    exact iff_of_true hwithin fun hover => by rw [hs, hback hover]
  · refine iff_of_true ?_ fun h => by rw [hover] at h; cases h
    exact (limits_of_eq (by rw [hopen]; rfl) (by rw [hopen]; exact approvedWith_insert hnew)).2 hwithin
  · rw [withinLimit_approve hcounted hwithin hget hpending hok, hover]
    constructor
    · intro hfree hused
      rw [hfree] at hused
      cases hused
    · intro h
      rw [Bool.eq_false_iff]
      intro hused
      -- a state that stays keeps its limits, and the approval breaks one
      have hback := h hused
      rw [hs] at hback
      cases hback
      exact absurd ((withinLimit_approve hcounted hwithin hget hpending hok).1 hwithin) (by rw [hused]; nofun)
  · refine iff_of_true ?_ fun h => by rw [hover] at h; cases h
    exact (limits_of_eq (by rw [hreject]; rfl)
      (by rw [hreject]; exact approvedWith_reject hget hpending _ _ _)).2 hwithin

/-- **The limit of a code.** In every run that starts with exact counters within their limits,
`used_count` is always the number of approved payments with the code.  If the run approves no payment
whose code is used up at that moment, no code ever has more approved payments than `max_uses`; and
where no code ever has more, each such approval was rolled back. -/
theorem code_limit (W : World) (baleBotToken : String) (s s' : Panel) (acts : List (Datetime × PanelAct))
    (hcounted : s.db.Counted) (hwithin : s.db.WithinLimit)
    (hrun : Runs.exec (step W baleBotToken) s acts = some s') :
    Runs.Always (step W baleBotToken) (fun s => s.db.Counted) s acts ∧
    (Runs.Along (step W baleBotToken) (fun s a => s.overuses a = false) s acts →
      Runs.Always (step W baleBotToken) (fun s => s.db.WithinLimit) s acts) ∧
    (Runs.Always (step W baleBotToken) (fun s => s.db.WithinLimit) s acts →
      Runs.Along (step W baleBotToken)
        (fun s a => s.overuses a = true → s.step W baleBotToken a = some s) s acts) := by
  have hstep : ∀ (s : Panel) (a : Datetime × PanelAct) (s' : Panel), s.db.Counted ∧ s.db.WithinLimit →
      True → s.step W baleBotToken a = some s' → (s'.db.Counted ∧ s'.db.WithinLimit ↔
        (s.overuses a = true → s.step W baleBotToken a = some s)) := by
    intro s a s' h _ hs
    rw [and_iff_right (counted_step h.1 hs)]
    exact withinLimit_step h.1 h.2 hs
  have hiff := Runs.always_iff (D := fun _ => True) hstep acts s s' ⟨hcounted, hwithin⟩
    (fun _ _ => trivial) hrun
  have hall : Runs.Always (step W baleBotToken) (fun s => s.db.Counted) s acts :=
    fun before _ s₁ _ hs₁ => Runs.exec_inv_of_step (I := fun s => s.db.Counted)
      (fun _ _ _ h hs => counted_step h hs) before s s₁ hcounted hs₁
  refine ⟨hall, fun halong before after s₁ hsplit hs₁ => ?_, fun h => hiff.1 ?_⟩
  · refine (hiff.2 (halong.mono fun _ _ hfree hused => ?_) before after s₁ hsplit hs₁).2
    rw [hfree] at hused
    cases hused
  · exact fun before after s₁ hsplit hs₁ => ⟨hall before after s₁ hsplit hs₁, h before after s₁ hsplit hs₁⟩

/-- A code for one use. -/
def singleUse (usedCount : ℤ) : DiscountCode :=
  { id := 5, code := "NOWRUZ", type := .PERCENT, valueCents := 1000, maxUses := some 1,
    usedCount := usedCount }

/-- The code and two owners. -/
def oneUse : Panel where
  db :=
    { wallet := WalletDb.ofOwners WalletDb.twoOwners, payments := .empty,
      codes := ⟨[singleUse 0], by decide⟩,
      usages := .empty, referrals := .empty, subscriptions := .empty, settings := {} }
  chats := fun _ => {}

theorem counted_oneUse : oneUse.db.Counted := by
  unfold Counted
  decide +kernel

theorem withinLimit_oneUse : oneUse.db.WithinLimit := by
  intro c hc m hm
  cases List.mem_singleton.1 hc
  cases hm
  decide +kernel

/-- An owner opens a payment with the code. -/
def typesCode (telegramId : ℤ) (draw : Fin 90) : List (Datetime × PanelAct) :=
  [(0, .user telegramId (.topupAmount (some 100000))), (0, .user telegramId (.discountCode "NOWRUZ")),
    (0, .user telegramId (.payCard (fun _ => draw) true))]

/-- The second owner types the code after the approval of the first owner's payment. -/
def codeInTurn : List (Datetime × PanelAct) :=
  typesCode 11 draw₁ ++ [(1, .approve 1 (.admin 7))] ++ typesCode 22 draw₂ ++
    [(2, .approve 2 (.admin 7))]

theorem codeInTurn_isSome : (Runs.exec (step .noMonths "") oneUse codeInTurn).isSome = true := by
  decide +kernel

theorem code_limit_inTurn :
    ∃ s', Runs.exec (step .noMonths "") oneUse codeInTurn = some s' ∧ s'.db.approvedWith 5 = 1 ∧
      s'.db.WithinLimit := by
  refine ⟨_, (Option.some_get codeInTurn_isSome).symm, by decide +kernel, ?_⟩
  exact (code_limit .noMonths "" oneUse _ codeInTurn counted_oneUse withinLimit_oneUse
    (Option.some_get codeInTurn_isSome).symm).2.1 (by decide +kernel) codeInTurn [] _ (List.append_nil _).symm
    (Option.some_get codeInTurn_isSome).symm

/-- Both owners type the code before either payment is approved. -/
def bothType : List (Datetime × PanelAct) :=
  typesCode 11 draw₁ ++ typesCode 22 draw₂ ++ [(1, .approve 1 (.admin 7)), (2, .approve 2 (.admin 7))]

theorem bothType_isSome : (Runs.exec (step .noMonths "") oneUse bothType).isSome = true := by
  decide +kernel

/-- Two approved payments with a code for one use. -/
theorem code_overused :
    ∃ s', Runs.exec (step .noMonths "") oneUse bothType = some s' ∧ s'.db.approvedWith 5 = 2 ∧
      (s'.db.codes.find? 5).map (fun c => (c.maxUses, c.usedCount)) = some (some 1, 2) ∧
      ¬ s'.db.WithinLimit := by
  refine ⟨_, (Option.some_get bothType_isSome).symm, by decide +kernel, by decide +kernel, fun h => ?_⟩
  have hmem : singleUse 2 ∈
      ((Runs.exec (step .noMonths "") oneUse bothType).get bothType_isSome).db.codes.rows := by
    decide +kernel
  exact absurd (h _ hmem 1 rfl) (by decide +kernel)

end Panel

end KasbOKar
