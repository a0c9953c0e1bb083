import KasbOKar.Lib.Runs
import KasbOKar.Wallet.Optimal

/-!
# Reminders before a charge expires

`wallet_expiry_service.py`: the daily sweep, then one message for every charge that has come within 30,
7 or 1 days of its expiry.  A flag of the charge is set for each of the three once its message is sent;
one that Telegram refuses leaves it unset, and the next run tries again.

`candidates` is the choice of the threshold, `dueReminder_iff` what it comes to as long as the flags only
hold thresholds that have been reached.  Time does not go back, so they do (`Inv.reached`).
-/

namespace KasbOKar

open ReadCommitted WalletDb

/-! ## The service -/

/-- The columns `reminder_30d_sent`, `reminder_7d_sent` and `reminder_1d_sent` of a charge. -/
structure ReminderFlags where
  reminder30dSent : Bool := false
  reminder7dSent : Bool := false
  reminder1dSent : Bool := false
  deriving DecidableEq

namespace ReminderFlags

/-- The flag of a threshold. -/
def sent (f : ReminderFlags) (threshold : ℤ) : Bool :=
  if threshold = 30 then f.reminder30dSent
  else if threshold = 7 then f.reminder7dSent
  else if threshold = 1 then f.reminder1dSent
  else false

/-- `mark_reminder_sent`. -/
def mark (f : ReminderFlags) (threshold : ℤ) : ReminderFlags :=
  if threshold = 30 then { f with reminder30dSent := true }
  else if threshold = 7 then { f with reminder7dSent := true }
  else if threshold = 1 then { f with reminder1dSent := true }
  else f

/-- The list `candidates` of the loop. -/
def candidates (f : ReminderFlags) (daysLeft : ℤ) : List ℤ :=
  (if daysLeft ≤ 1 ∧ f.reminder1dSent = false then [1] else []) ++
  (if daysLeft ≤ 7 ∧ f.reminder7dSent = false ∧ f.reminder1dSent = false then [7] else []) ++
  (if daysLeft ≤ 30 ∧ f.reminder30dSent = false ∧ f.reminder7dSent = false ∧ f.reminder1dSent = false
    then [30] else [])

/-- `min(candidates)`, if there are any. -/
def dueReminder (f : ReminderFlags) (daysLeft : ℤ) : Option ℤ := (f.candidates daysLeft).min?

end ReminderFlags

/-- `(charge.expires_at - now).days`: rounded down. -/
def daysLeft (c : WalletCharge) (now : Datetime) : ℤ := (c.expiresAt - now) / days 1

/-- The `WHERE` clause of `find_charges_needing_reminder`. -/
def nearExpiry (now : Datetime) (c : WalletCharge) : Bool :=
  !c.isExpired && decide (0 < c.remainingToman) && decide (now < c.expiresAt) &&
    decide (c.expiresAt ≤ now + days 30)

/-- A message that was sent, or tried. -/
structure Reminder where
  chargeId : ℕ
  telegramId : ℤ
  threshold : ℤ
  remainingToman : ℤ
  delivered : Bool
  deriving DecidableEq

/-- The wallet tables, with the flags of the charges. -/
structure ReminderDb where
  wallet : WalletDb
  flags : ℕ → ReminderFlags

namespace ReminderDb

/-- `find_charges_needing_reminder`. -/
def findChargesNeedingReminder (db : ReminderDb) (scan : Scan WalletCharge) (now : Datetime) :
    List (WalletCharge × ℤ) :=
  (db.wallet.charges.select scan (nearExpiry now)).filterMap fun c =>
    ((db.flags c.id).dueReminder (daysLeft c now)).map fun threshold => (c, threshold)

/-- `mark_reminder_sent`. -/
def markReminderSent (db : ReminderDb) (chargeId : ℕ) (threshold : ℤ) : ReminderDb :=
  { db with flags := Function.update db.flags chargeId ((db.flags chargeId).mark threshold) }

/-- One round of the loop; `fails` are the charges for which `send_message` raises `TelegramAPIError`. -/
def remind (fails : ℕ → Bool) (x : ReminderDb × List Reminder) (due : WalletCharge × ℤ) :
    ReminderDb × List Reminder :=
  match x.1.wallet.owners.find? due.1.shopOwnerId with
  | none => x
  | some owner =>
    let message : Reminder :=
      { chargeId := due.1.id, telegramId := owner.telegramId, threshold := due.2,
        remainingToman := due.1.remainingToman, delivered := !fails due.1.id }
    if fails due.1.id then (x.1, x.2 ++ [message])
    else (x.1.markReminderSent due.1.id due.2, x.2 ++ [message])

/-- `process_wallet_expiry_and_reminders`, with its two readings of the clock: the tables afterwards and
the messages. -/
def processWalletExpiryAndReminders (db : ReminderDb) (staleScan dueScan : Scan WalletCharge)
    (now₁ now₂ : Datetime) (fails : ℕ → Bool) : ReminderDb × List Reminder :=
  let db := { db with wallet := (db.wallet.expireStaleCharges staleScan now₁).1 }
  (db.findChargesNeedingReminder dueScan now₂).foldl (remind fails) (db, [])

end ReminderDb

/-! ## The choice of the threshold -/

namespace ReminderFlags

/-- The tightest threshold that the time left has come under. -/
def Tightest (threshold daysLeft : ℤ) : Prop :=
  threshold ∈ [30, 7, 1] ∧ daysLeft ≤ threshold ∧ ∀ d ∈ [30, 7, (1 : ℤ)], daysLeft ≤ d → threshold ≤ d

theorem sent_mark (f : ReminderFlags) {threshold : ℤ} (h : threshold ∈ [30, 7, (1 : ℤ)]) (d : ℤ) :
    (f.mark threshold).sent d = true ↔ d = threshold ∨ f.sent d = true := by
  simp only [List.mem_cons, List.not_mem_nil, or_false] at h
  rcases h with rfl | rfl | rfl
  · unfold mark sent
    split_ifs <;> simp_all
  · unfold mark sent
    split_ifs <;> simp_all
  · unfold mark sent
    split_ifs <;> simp_all

theorem mem_of_sent {f : ReminderFlags} {d : ℤ} (h : f.sent d = true) : d ∈ [30, 7, (1 : ℤ)] := by
  unfold sent at h
  split_ifs at h with h30 h7 h1
  · simp [h30]
  · simp [h7]
  · simp [h1]

/-- The first of the three tests that succeeds decides. -/
theorem dueReminder_eq (f : ReminderFlags) (daysLeft : ℤ) : f.dueReminder daysLeft =
    if daysLeft ≤ 1 ∧ f.reminder1dSent = false then some 1
    else if daysLeft ≤ 7 ∧ f.reminder7dSent = false ∧ f.reminder1dSent = false then some 7
    else if daysLeft ≤ 30 ∧ f.reminder30dSent = false ∧ f.reminder7dSent = false ∧
      f.reminder1dSent = false then some 30
    else none := by
  unfold dueReminder candidates
  split_ifs <;> rfl

/-- A threshold is only chosen when it is below all that were sent. -/
theorem lt_of_dueReminder {f : ReminderFlags} {daysLeft threshold d : ℤ}
    (h : f.dueReminder daysLeft = some threshold) (hd : f.sent d = true) : threshold < d := by
  rw [dueReminder_eq] at h
  unfold sent at hd
  split_ifs at h with h1 h7 h30
  · cases h
    split_ifs at hd
    · omega
    · omega
    · rw [h1.2] at hd
      cases hd
  · cases h
    split_ifs at hd
    · omega
    · rw [h7.2.1] at hd
      cases hd
    · rw [h7.2.2] at hd
      cases hd
  · cases h
    split_ifs at hd
    · rw [h30.2.1] at hd
      cases hd
    · rw [h30.2.2.1] at hd
      cases hd
    · rw [h30.2.2.2] at hd
      cases hd

theorem le_of_dueReminder {f : ReminderFlags} {daysLeft threshold : ℤ}
    (h : f.dueReminder daysLeft = some threshold) :
    threshold ∈ [30, 7, (1 : ℤ)] ∧ daysLeft ≤ threshold := by
  rw [dueReminder_eq] at h
  split_ifs at h with h1 h7 h30
  · cases h
    exact ⟨by decide, h1.1⟩
  · cases h
    exact ⟨by decide, h7.1⟩
  · cases h
    exact ⟨by decide, h30.1⟩

theorem tightest_iff {threshold daysLeft : ℤ} : Tightest threshold daysLeft ↔
    (threshold = 1 ∧ daysLeft ≤ 1) ∨ (threshold = 7 ∧ 1 < daysLeft ∧ daysLeft ≤ 7) ∨
      (threshold = 30 ∧ 7 < daysLeft ∧ daysLeft ≤ 30) := by
  unfold Tightest
  simp only [List.mem_cons, List.not_mem_nil, or_false, forall_eq_or_imp, forall_eq]
  omega

/-- As long as only thresholds were sent that have been reached, the one that is chosen is the tightest,
unless it was sent before. -/
theorem dueReminder_iff {f : ReminderFlags} {daysLeft : ℤ}
    (hreached : ∀ d, f.sent d = true → daysLeft ≤ d) (threshold : ℤ) :
    f.dueReminder daysLeft = some threshold ↔
      Tightest threshold daysLeft ∧ f.sent threshold = false := by
  have h1 : 1 < daysLeft → f.reminder1dSent = false := fun hlt =>
    Bool.eq_false_iff.2 fun hsent => not_le.2 hlt (hreached 1 hsent)
  have h7 : 7 < daysLeft → f.reminder7dSent = false := fun hlt =>
    Bool.eq_false_iff.2 fun hsent => not_le.2 hlt (hreached 7 hsent)
  rw [dueReminder_eq, tightest_iff]
  constructor
  · intro h
    split_ifs at h with hone hseven hthirty
    · cases h
      exact ⟨.inl ⟨rfl, hone.1⟩, hone.2⟩
    · cases h
      have hlt : 1 < daysLeft := not_le.1 fun hle => hone ⟨hle, hseven.2.2⟩
      exact ⟨.inr (.inl ⟨rfl, hlt, hseven.1⟩), hseven.2.1⟩
    · cases h
      have hlt : 7 < daysLeft := not_le.1 fun hle => hseven ⟨hle, hthirty.2.2⟩
      exact ⟨.inr (.inr ⟨rfl, hlt, hthirty.1⟩), hthirty.2.1⟩
  · rintro ⟨⟨rfl, hle⟩ | ⟨rfl, hlt, hle⟩ | ⟨rfl, hlt, hle⟩, hsent⟩
    · exact if_pos ⟨hle, hsent⟩
    · rw [if_neg fun hone => not_le.2 hlt hone.1, if_pos ⟨hle, hsent, h1 hlt⟩]
    · rw [if_neg fun hone => by omega, if_neg fun hseven => not_le.2 hlt hseven.1,
        if_pos ⟨hle, hsent, h7 hlt, h1 (by omega)⟩]

end ReminderFlags

/-! ## One run -/

/-- The thresholds of the messages delivered for a charge, in order. -/
def deliveredOf (log : List Reminder) (chargeId : ℕ) : List ℤ :=
  (log.filter fun r => r.chargeId == chargeId && r.delivered).map Reminder.threshold

namespace ReminderDb

/-- The message of one round. -/
def messageOf (db : ReminderDb) (fails : ℕ → Bool) (due : WalletCharge × ℤ) : Reminder :=
  { chargeId := due.1.id,
    telegramId := ((db.wallet.owners.find? due.1.shopOwnerId).map ShopOwner.telegramId).getD 0,
    threshold := due.2, remainingToman := due.1.remainingToman, delivered := !fails due.1.id }

/-- The flags after one round. -/
def flagsAfter (fails : ℕ → Bool) (flags : ℕ → ReminderFlags) (due : WalletCharge × ℤ) :
    ℕ → ReminderFlags :=
  if fails due.1.id then flags
  else Function.update flags due.1.id ((flags due.1.id).mark due.2)

/-- The loop, when the charges have their owners. -/
theorem foldl_remind {fails : ℕ → Bool} {wallet : WalletDb} (dues : List (WalletCharge × ℤ))
    (howners : ∀ x ∈ dues, x.1.shopOwnerId ∈ wallet.owners.ids) :
    ∀ (flags flags₀ : ℕ → ReminderFlags) (log : List Reminder),
      dues.foldl (remind fails) (⟨wallet, flags⟩, log) =
        (⟨wallet, dues.foldl (flagsAfter fails) flags⟩,
          log ++ dues.map (messageOf ⟨wallet, flags₀⟩ fails)) := by
  induction dues with
  | nil => intro flags flags₀ log; rw [List.map_nil, List.append_nil]; rfl
  | cons x xs ih =>
    intro flags flags₀ log
    obtain ⟨owner, howner⟩ := Table.exists_find? (howners x List.mem_cons_self)
    have hround : remind fails (⟨wallet, flags⟩, log) x =
        (⟨wallet, flagsAfter fails flags x⟩, log ++ [messageOf ⟨wallet, flags₀⟩ fails x]) := by
      unfold remind messageOf flagsAfter
      dsimp only
      rw [howner]
      dsimp only
      split_ifs
      · rfl
      · rfl
    rw [List.foldl_cons, hround, ih fun y hy => howners y (List.mem_cons_of_mem _ hy), List.foldl_cons,
      List.map_cons, List.append_assoc]
    rfl

theorem flagsAfter_of_notMem {fails : ℕ → Bool} {i : ℕ} (dues : List (WalletCharge × ℤ))
    (h : ∀ x ∈ dues, x.1.id ≠ i) : ∀ flags : ℕ → ReminderFlags,
      dues.foldl (flagsAfter fails) flags i = flags i := by
  induction dues with
  | nil => intro flags; rfl
  | cons x xs ih =>
    intro flags
    rw [List.foldl_cons, ih fun y hy => h y (List.mem_cons_of_mem _ hy)]
    unfold flagsAfter
    split_ifs
    · rfl
    · exact Function.update_of_ne (h x List.mem_cons_self).symm _ _

/-- The flags of a charge that was due. -/
theorem flagsAfter_of_mem {fails : ℕ → Bool} {x : WalletCharge × ℤ} (dues : List (WalletCharge × ℤ))
    (hnodup : (dues.map fun y => y.1.id).Nodup) (hx : x ∈ dues) : ∀ flags : ℕ → ReminderFlags,
      dues.foldl (flagsAfter fails) flags x.1.id =
        if fails x.1.id then flags x.1.id else (flags x.1.id).mark x.2 := by
  induction dues with
  | nil => cases hx
  | cons y ys ih =>
    intro flags
    obtain ⟨hy, hys⟩ := List.nodup_cons.1 hnodup
    rw [List.foldl_cons]
    rcases List.mem_cons.1 hx with rfl | hx
    · rw [flagsAfter_of_notMem ys fun z hz hid => hy (List.mem_map.2 ⟨z, hz, hid⟩)]
      unfold flagsAfter
      split_ifs
      · rfl
      · exact Function.update_self _ _ _
    · have hne : x.1.id ≠ y.1.id := fun hid => hy (List.mem_map.2 ⟨x, hx, hid⟩)
      have hsame : flagsAfter fails flags y x.1.id = flags x.1.id := by
        unfold flagsAfter
        split_ifs
        · rfl
        · exact Function.update_of_ne hne _ _
      rw [ih hys hx, hsame]

theorem deliveredOf_messages_of_notMem {db : ReminderDb} {fails : ℕ → Bool} {i : ℕ}
    {dues : List (WalletCharge × ℤ)} (h : ∀ x ∈ dues, x.1.id ≠ i) :
    deliveredOf (dues.map (db.messageOf fails)) i = [] := by
  unfold deliveredOf
  rw [List.map_eq_nil_iff, List.filter_eq_nil_iff]
  intro r hr
  obtain ⟨x, hx, rfl⟩ := List.mem_map.1 hr
  rw [Bool.and_eq_true, beq_iff_eq]
  exact fun hc => h x hx hc.1

theorem deliveredOf_messages_of_mem {db : ReminderDb} {fails : ℕ → Bool} {x : WalletCharge × ℤ}
    {dues : List (WalletCharge × ℤ)} (hnodup : (dues.map fun y => y.1.id).Nodup) (hx : x ∈ dues) :
    deliveredOf (dues.map (db.messageOf fails)) x.1.id = if fails x.1.id then [] else [x.2] := by
  induction dues with
  | nil => cases hx
  | cons y ys ih =>
    obtain ⟨hy, hys⟩ := List.nodup_cons.1 hnodup
    rw [List.map_cons]
    rcases List.mem_cons.1 hx with rfl | hx
    · have hrest : deliveredOf (ys.map (db.messageOf fails)) x.1.id = [] :=
        deliveredOf_messages_of_notMem fun z hz hid => hy (List.mem_map.2 ⟨z, hz, hid⟩)
      unfold deliveredOf at hrest ⊢
      rw [List.filter_cons]
      cases hfails : fails x.1.id with
      | true => simpa [messageOf, hfails] using hrest
      | false => simpa [messageOf, hfails] using hrest
    · have hne : y.1.id ≠ x.1.id := fun hid => hy (List.mem_map.2 ⟨x, hx, hid.symm⟩)
      rw [← ih hys hx]
      unfold deliveredOf
      rw [List.filter_cons, if_neg (by rw [Bool.and_eq_true, beq_iff_eq]; exact fun hc => hne hc.1)]

end ReminderDb

theorem deliveredOf_append (log log' : List Reminder) (chargeId : ℕ) :
    deliveredOf (log ++ log') chargeId = deliveredOf log chargeId ++ deliveredOf log' chargeId := by
  unfold deliveredOf
  rw [List.filter_append, List.map_append]

/-! ## Who is due -/

theorem nearExpiry_iff {now : Datetime} {c : WalletCharge} : nearExpiry now c = true ↔
    c.isExpired = false ∧ 0 < c.remainingToman ∧ now < c.expiresAt ∧ c.expiresAt ≤ now + days 30 := by
  unfold nearExpiry
  simp only [Bool.and_eq_true, Bool.not_eq_true', decide_eq_true_eq]
  tauto

/-- The days that are left only become fewer. -/
theorem daysLeft_anti {c : WalletCharge} {t now : Datetime} (h : t ≤ now) :
    daysLeft c now ≤ daysLeft c t :=
  Int.ediv_le_ediv (by decide) (sub_le_sub_left h _)

/-- A charge that is still to expire is not touched by the sweep before. -/
theorem nearExpiry_swept {now₁ now₂ : Datetime} (h : now₁ ≤ now₂) {c : WalletCharge} :
    nearExpiry now₂ (swept now₁ c) = true ↔ nearExpiry now₂ c = true ∧ swept now₁ c = c := by
  unfold swept
  split_ifs with hstale
  · unfold stale at hstale
    simp only [Bool.and_eq_true, decide_eq_true_eq] at hstale
    refine iff_of_false ?_ fun hc => ?_
    · rw [nearExpiry_iff]
      rintro ⟨hexp, -⟩
      cases hexp
    · exact not_lt.2 (hstale.1.2.trans h) (nearExpiry_iff.1 hc.1).2.2.1
  · exact (and_iff_left rfl).symm

namespace ReminderDb

section Due

variable {db : ReminderDb} {staleScan dueScan : Scan WalletCharge} {now₁ now₂ : Datetime}

/-- The tables after the sweep. -/
def sweptDb (db : ReminderDb) (staleScan : Scan WalletCharge) (now₁ : Datetime) : ReminderDb :=
  { db with wallet := (db.wallet.expireStaleCharges staleScan now₁).1 }

/-- The charges that are due, as rows before the run. -/
theorem mem_due (h : Balanced db.wallet) (hle : now₁ ≤ now₂) {c : WalletCharge} {threshold : ℤ} :
    (c, threshold) ∈ (db.sweptDb staleScan now₁).findChargesNeedingReminder dueScan now₂ ↔
      c ∈ db.wallet.charges.rows ∧ nearExpiry now₂ c = true ∧
        (db.flags c.id).dueReminder (daysLeft c now₂) = some threshold := by
  have hrows : ∀ d, d ∈ (db.sweptDb staleScan now₁).wallet.charges.rows ↔
      ∃ c ∈ db.wallet.charges.rows, swept now₁ c = d := by
    intro d
    have hids : (db.wallet.expireStaleCharges staleScan now₁).1.charges.ids = db.wallet.charges.ids :=
      ids_foldl_expireCharge _ db.wallet
    show d ∈ (db.wallet.expireStaleCharges staleScan now₁).1.charges.rows ↔ _
    rw [Table.rows_eq_map hids, List.mem_map]
    refine exists_congr fun c => and_congr_right fun hc => ?_
    have hfind := find?_expireStaleCharges h staleScan now₁ hc
    show ((db.wallet.expireStaleCharges staleScan now₁).1.charges.find? c.id).getD c = d ↔ _
    rw [hfind]
    rfl
  unfold findChargesNeedingReminder
  rw [List.mem_filterMap]
  constructor
  · rintro ⟨d, hd, hdue⟩
    obtain ⟨t, ht, heq⟩ := Option.map_eq_some_iff.1 hdue
    cases heq
    obtain ⟨hrow, hnear⟩ := Table.mem_select.1 hd
    obtain ⟨d, hdrow, rfl⟩ := (hrows _).1 hrow
    obtain ⟨hnear, hsame⟩ := (nearExpiry_swept hle).1 hnear
    rw [hsame] at ht ⊢
    exact ⟨hdrow, hnear, ht⟩
  · rintro ⟨hrow, hnear, hdue⟩
    have hsame : swept now₁ c = c := by
      unfold swept
      rw [if_neg]
      unfold stale
      simp only [Bool.and_eq_true, decide_eq_true_eq]
      exact fun hstale => not_lt.2 (hstale.1.2.trans hle) (nearExpiry_iff.1 hnear).2.2.1
    refine ⟨c, Table.mem_select.2 ⟨(hrows c).2 ⟨c, hrow, hsame⟩, hnear⟩, ?_⟩
    show ((db.flags c.id).dueReminder (daysLeft c now₂)).map _ = _
    rw [hdue]
    rfl

/-- No charge is due twice in a run. -/
theorem due_nodup (db : ReminderDb) (scan : Scan WalletCharge) (now : Datetime) :
    ((db.findChargesNeedingReminder scan now).map fun x => x.1.id).Nodup := by
  have hnodup := Table.select_nodup db.wallet.charges scan (nearExpiry now)
  unfold findChargesNeedingReminder
  generalize db.wallet.charges.select scan (nearExpiry now) = charges at hnodup
  induction charges with
  | nil => exact List.nodup_nil
  | cons c cs ih =>
    obtain ⟨hc, hcs⟩ := List.nodup_cons.1 hnodup
    rw [List.filterMap_cons]
    split
    · exact ih hcs
    · rename_i x hx
      obtain ⟨t, -, rfl⟩ := Option.map_eq_some_iff.1 hx
      refine List.nodup_cons.2 ⟨fun hmem => hc ?_, ih hcs⟩
      obtain ⟨y, hy, hid⟩ := List.mem_map.1 hmem
      obtain ⟨d, hd, hy⟩ := List.mem_filterMap.1 hy
      obtain ⟨t', -, rfl⟩ := Option.map_eq_some_iff.1 hy
      exact List.mem_map.2 ⟨d, hd, hid⟩

/-- A run sends its messages to the charges that are due. -/
theorem process_eq (h : Balanced db.wallet) (fails : ℕ → Bool) :
    db.processWalletExpiryAndReminders staleScan dueScan now₁ now₂ fails =
      let dues := (db.sweptDb staleScan now₁).findChargesNeedingReminder dueScan now₂
      (⟨(db.sweptDb staleScan now₁).wallet, dues.foldl (flagsAfter fails) db.flags⟩,
        dues.map ((db.sweptDb staleScan now₁).messageOf fails)) := by
  have hswept := h.expireStaleCharges staleScan now₁
  refine (foldl_remind _ (fun x hx => ?_) db.flags db.flags []).trans ?_
  · obtain ⟨c, hc, hx⟩ := List.mem_filterMap.1 hx
    obtain ⟨t, -, rfl⟩ := Option.map_eq_some_iff.1 hx
    exact hswept.charge_owner c (Table.mem_select.1 hc).1
  · rw [List.nil_append]
    rfl

end Due

end ReminderDb

/-! ## The expiry of a charge is fixed -/

/-- The same charges, with the same expiry. -/
def KeepsExpiry (t t' : Table WalletCharge) : Prop :=
  t'.ids = t.ids ∧ ∀ c' ∈ t'.rows, ∃ c ∈ t.rows, c.id = c'.id ∧ c.expiresAt = c'.expiresAt

namespace KeepsExpiry

theorem refl (t : Table WalletCharge) : KeepsExpiry t t := ⟨rfl, fun c hc => ⟨c, hc, rfl, rfl⟩⟩

theorem trans {t t' t'' : Table WalletCharge} (h : KeepsExpiry t t') (h' : KeepsExpiry t' t'') :
    KeepsExpiry t t'' := by
  refine ⟨h'.1.trans h.1, fun c'' hc'' => ?_⟩
  obtain ⟨c', hc', hid', hexpires'⟩ := h'.2 c'' hc''
  obtain ⟨c, hc, hid, hexpires⟩ := h.2 c' hc'
  exact ⟨c, hc, hid.trans hid', hexpires.trans hexpires'⟩

theorem modify (t : Table WalletCharge) (i : ℕ) (f : WalletCharge → WalletCharge)
    (hf : ∀ c, (f c).id = c.id) (hexpires : ∀ c, (f c).expiresAt = c.expiresAt) :
    KeepsExpiry t (t.modify i f hf) := by
  refine ⟨Table.ids_modify hf, fun c' hc' => ?_⟩
  rcases Table.mem_modify_cases hf hc' with ⟨hc, -⟩ | ⟨c, hc, -, rfl⟩
  · exact ⟨c', hc, rfl, rfl⟩
  · exact ⟨c, hc, (hf c).symm, (hexpires c).symm⟩

theorem flushTakes {ownerId : ℕ} {reason : WalletTransactionReason} {reference : Option String}
    (xs : List (WalletCharge × ℤ)) : ∀ db : WalletDb,
      KeepsExpiry db.charges (WalletDb.flushTakes ownerId reason reference db xs).charges := by
  induction xs with
  | nil => exact fun db => refl _
  | cons x xs ih =>
    intro db
    refine (modify db.charges x.1.id
      (fun c => { c with remainingToman := x.1.remainingToman - x.2 }) (fun _ => rfl) fun _ => rfl).trans ?_
    exact ih _

theorem sweep {owners : Table ShopOwner} (cs : List WalletCharge) : ∀ db : WalletDb,
    KeepsExpiry db.charges (cs.foldl (expireCharge owners) db).charges := by
  induction cs with
  | nil => exact fun db => refl _
  | cons c cs ih =>
    intro db
    refine trans ?_ (ih _)
    unfold expireCharge
    split
    · exact refl _
    · exact modify db.charges c.id (fun c => { c with remainingToman := 0, isExpired := true })
        (fun _ => rfl) fun _ => rfl

/-- A call of the wallet service inserts a charge, or keeps the charges with their expiry. -/
theorem call (db : WalletDb) (now : Datetime) (op : WalletDb.Op) :
    KeepsExpiry db.charges (db.call now op).charges ∨
      ∃ c, c.id ∉ db.charges.ids ∧ (db.call now op).charges = db.charges.insert c := by
  cases op with
  | addCharge settings ownerId amount reason paymentId validityMonths reference =>
    unfold WalletDb.call
    dsimp only
    split
    · rename_i db' c hok
      obtain ⟨-, -, hid, -, -, -, -, -, rfl⟩ := addCharge_ok hok
      exact .inr ⟨c, hid ▸ Table.nextId_notMem _, rfl⟩
    · exact .inl (refl _)
  | deduct scan ownerId amount reason reference =>
    left
    unfold WalletDb.call
    dsimp only
    split
    · rename_i db' r hok
      obtain ⟨rfl, -⟩ | ⟨-, -, -, rfl⟩ := deduct_ok hok
      · exact refl _
      · exact flushTakes _ db
    · exact refl _
  | expireStaleCharges scan => exact .inl (sweep _ db)

end KeepsExpiry

/-! ## Runs -/

/-- The tables, the last reading of the daily job's clock and all messages so far. -/
structure ReminderState where
  db : ReminderDb
  clock : Option Datetime := none
  log : List Reminder := []

inductive ReminderEvent where
  /-- A call of the wallet service. -/
  | call (now : Datetime) (op : WalletDb.Op)
  /-- The daily job, with its two readings of the clock and the charges whose message fails. -/
  | process (staleScan dueScan : Scan WalletCharge) (now₁ now₂ : Datetime) (fails : ℕ → Bool)

namespace ReminderState

/-- A new row has no flag set. -/
def withDefaults (db : ReminderDb) (wallet : WalletDb) : ReminderDb :=
  { wallet := wallet, flags := fun i => if i ∈ db.wallet.charges.ids then db.flags i else {} }

/-- The clock of the daily job does not go back. -/
def step (s : ReminderState) : ReminderEvent → Option ReminderState
  | .call now op => some { s with db := withDefaults s.db (s.db.wallet.call now op) }
  | .process staleScan dueScan now₁ now₂ fails =>
    if (∀ t ∈ s.clock, t ≤ now₁) ∧ now₁ ≤ now₂ then
      let r := s.db.processWalletExpiryAndReminders staleScan dueScan now₁ now₂ fails
      some { db := r.1, clock := some now₂, log := s.log ++ r.2 }
    else none

/-- The flags hold what was delivered, and only thresholds that have been reached. -/
structure Inv (s : ReminderState) : Prop where
  balanced : Balanced s.db.wallet
  logged : ∀ i, i ∉ s.db.wallet.charges.ids → deliveredOf s.log i = []
  flags : ∀ i ∈ s.db.wallet.charges.ids, ∀ d, (s.db.flags i).sent d = true ↔ d ∈ deliveredOf s.log i
  decreasing : ∀ i, (deliveredOf s.log i).Pairwise (· > ·)
  reached : ∀ c ∈ s.db.wallet.charges.rows, ∀ d ∈ deliveredOf s.log c.id,
    ∃ t, s.clock = some t ∧ daysLeft c t ≤ d

variable {s : ReminderState}

/-- What the wallet service does in between. -/
theorem Inv.call (h : Inv s) (now : Datetime) (op : WalletDb.Op) :
    Inv { s with db := withDefaults s.db (s.db.wallet.call now op) } := by
  have hids : ∀ i ∈ s.db.wallet.charges.ids, i ∈ (s.db.wallet.call now op).charges.ids := by
    intro i hi
    rcases KeepsExpiry.call s.db.wallet now op with hkeeps | ⟨c, hc, hinsert⟩
    · exact hkeeps.1 ▸ hi
    · obtain ⟨d, hd, rfl⟩ := Table.mem_ids.1 hi
      rw [hinsert]
      exact Table.id_mem_ids (Table.mem_insert_of_mem hd)
  refine ⟨h.balanced.call now op, fun i hi => h.logged i fun hi' => hi (hids i hi'), fun i _ d => ?_,
    h.decreasing, fun c' hc' d hd => ?_⟩
  · by_cases hi : i ∈ s.db.wallet.charges.ids
    · show (if i ∈ s.db.wallet.charges.ids then s.db.flags i else {} : ReminderFlags).sent d = true ↔ _
      rw [if_pos hi]
      exact h.flags i hi d
    · show (if i ∈ s.db.wallet.charges.ids then s.db.flags i else {} : ReminderFlags).sent d = true ↔ _
      rw [if_neg hi]
      refine iff_of_false (fun hsent => ?_) fun hd => ?_
      · unfold ReminderFlags.sent at hsent
        split_ifs at hsent
      · rw [h.logged i hi] at hd
        cases hd
  · have hmem : c'.id ∈ s.db.wallet.charges.ids := by
      by_contra hnew
      rw [h.logged _ hnew] at hd
      cases hd
    rcases KeepsExpiry.call s.db.wallet now op with hkeeps | ⟨c, hc, hinsert⟩
    · obtain ⟨c, hc, hid, hexpires⟩ := hkeeps.2 c' hc'
      have hreached := h.reached c hc d (hid ▸ hd)
      unfold daysLeft at hreached ⊢
      rwa [hexpires] at hreached
    · change c' ∈ (s.db.wallet.call now op).charges.rows at hc'
      rw [hinsert] at hc'
      rcases (Table.mem_insert hc).1 hc' with hc' | rfl
      · exact h.reached c' hc' d hd
      · exact absurd hmem hc

/-- A run of the daily job. -/
theorem Inv.process (h : Inv s) {staleScan dueScan : Scan WalletCharge} {now₁ now₂ : Datetime}
    {fails : ℕ → Bool} (hclock : ∀ t ∈ s.clock, t ≤ now₁) (hle : now₁ ≤ now₂) :
    Inv { db := (s.db.processWalletExpiryAndReminders staleScan dueScan now₁ now₂ fails).1,
          clock := some now₂,
          log := s.log ++ (s.db.processWalletExpiryAndReminders staleScan dueScan now₁ now₂ fails).2 } := by
  rw [ReminderDb.process_eq h.balanced]
  dsimp only
  set dues := (s.db.sweptDb staleScan now₁).findChargesNeedingReminder dueScan now₂ with hdues
  have hnodup : (dues.map fun x => x.1.id).Nodup := ReminderDb.due_nodup _ dueScan now₂
  have hkeeps : KeepsExpiry s.db.wallet.charges (s.db.sweptDb staleScan now₁).wallet.charges :=
    KeepsExpiry.sweep _ s.db.wallet
  have hdue : ∀ x ∈ dues, x.1 ∈ s.db.wallet.charges.rows ∧
      (s.db.flags x.1.id).dueReminder (daysLeft x.1 now₂) = some x.2 := fun x hx =>
    have hrow := (ReminderDb.mem_due h.balanced hle).1 (show (x.1, x.2) ∈ _ from hx)
    ⟨hrow.1, hrow.2.2⟩
  -- what a charge that is due gets, and that the others get nothing
  have hnone : ∀ i, (∀ x ∈ dues, x.1.id ≠ i) →
      dues.foldl (ReminderDb.flagsAfter fails) s.db.flags i = s.db.flags i ∧
      deliveredOf (s.log ++ dues.map ((s.db.sweptDb staleScan now₁).messageOf fails)) i =
        deliveredOf s.log i := fun i hi => by
    rw [deliveredOf_append, ReminderDb.deliveredOf_messages_of_notMem hi, List.append_nil]
    exact ⟨ReminderDb.flagsAfter_of_notMem dues hi s.db.flags, rfl⟩
  have hsome : ∀ x ∈ dues,
      dues.foldl (ReminderDb.flagsAfter fails) s.db.flags x.1.id =
        (if fails x.1.id then s.db.flags x.1.id else (s.db.flags x.1.id).mark x.2) ∧
      deliveredOf (s.log ++ dues.map ((s.db.sweptDb staleScan now₁).messageOf fails)) x.1.id =
        deliveredOf s.log x.1.id ++ if fails x.1.id then [] else [x.2] := fun x hx => by
    rw [deliveredOf_append, ReminderDb.deliveredOf_messages_of_mem hnodup hx]
    exact ⟨ReminderDb.flagsAfter_of_mem dues hnodup hx s.db.flags, rfl⟩
  have hold : ∀ c ∈ s.db.wallet.charges.rows, ∀ d ∈ deliveredOf s.log c.id, daysLeft c now₂ ≤ d := by
    intro c hc d hd
    obtain ⟨t, ht, hreached⟩ := h.reached c hc d hd
    exact (daysLeft_anti ((hclock t ht).trans hle)).trans hreached
  refine ⟨h.balanced.expireStaleCharges staleScan now₁, fun i hi => ?_, fun i hi d => ?_, fun i => ?_,
    fun c' hc' d hd => ⟨now₂, rfl, ?_⟩⟩
  · have hi' : i ∉ s.db.wallet.charges.ids := hkeeps.1 ▸ hi
    rw [(hnone i fun x hx hid => hi' (hid ▸ Table.id_mem_ids (hdue x hx).1)).2]
    exact h.logged i hi'
  · have hi' : i ∈ s.db.wallet.charges.ids := hkeeps.1 ▸ hi
    by_cases hmem : ∃ x ∈ dues, x.1.id = i
    · obtain ⟨x, hx, rfl⟩ := hmem
      obtain ⟨hflags, hlog⟩ := hsome x hx
      dsimp only
      rw [hflags, hlog]
      split_ifs
      · rw [List.append_nil]
        exact h.flags _ hi' d
      · rw [ReminderFlags.sent_mark _ (ReminderFlags.le_of_dueReminder (hdue x hx).2).1, List.mem_append,
          List.mem_singleton, h.flags _ hi' d, or_comm]
    · obtain ⟨hflags, hlog⟩ := hnone i fun x hx hid => hmem ⟨x, hx, hid⟩
      dsimp only
      rw [hflags, hlog]
      exact h.flags i hi' d
  · by_cases hmem : ∃ x ∈ dues, x.1.id = i
    · obtain ⟨x, hx, rfl⟩ := hmem
      rw [(hsome x hx).2]
      split_ifs
      · rw [List.append_nil]
        exact h.decreasing _
      · refine List.pairwise_append.2 ⟨h.decreasing _, List.pairwise_singleton _ _, fun d hd e he => ?_⟩
        rw [List.mem_singleton.1 he]
        exact ReminderFlags.lt_of_dueReminder (hdue x hx).2
          ((h.flags _ (Table.id_mem_ids (hdue x hx).1) d).2 hd)
    · rw [(hnone i fun x hx hid => hmem ⟨x, hx, hid⟩).2]
      exact h.decreasing i
  · obtain ⟨c, hc, hid, hexpires⟩ := hkeeps.2 c' hc'
    have hdays : daysLeft c' now₂ = daysLeft c now₂ := by
      unfold daysLeft
      rw [hexpires]
    rw [hdays]
    rw [← hid] at hd
    by_cases hmem : ∃ x ∈ dues, x.1.id = c.id
    · obtain ⟨x, hx, hxid⟩ := hmem
      obtain rfl : x.1 = c := Table.eq_of_id_eq (hdue x hx).1 hc hxid
      rw [(hsome x hx).2] at hd
      rcases List.mem_append.1 hd with hd | hd
      · exact hold _ hc d hd
      · split_ifs at hd
        · cases hd
        · rw [List.mem_singleton.1 hd]
          exact (ReminderFlags.le_of_dueReminder (hdue x hx).2).2
    · rw [(hnone c.id fun x hx hxid => hmem ⟨x, hx, hxid⟩).2] at hd
      exact hold c hc d hd

theorem Inv.step {s' : ReminderState} {e : ReminderEvent} (h : Inv s) (hs : s.step e = some s') :
    Inv s' := by
  cases e with
  | call now op =>
    cases hs
    exact h.call now op
  | process staleScan dueScan now₁ now₂ fails =>
    unfold ReminderState.step at hs
    dsimp only at hs
    split_ifs at hs with hclock
    cases hs
    exact h.process hclock.1 hclock.2

/-- No charge yet. -/
def ofOwners (owners : Table ShopOwner) : ReminderState :=
  { db := { wallet := WalletDb.ofOwners owners, flags := fun _ => {} } }

theorem inv_ofOwners {owners : Table ShopOwner} (h0 : ∀ o ∈ owners.rows, o.walletBalanceToman = 0) :
    Inv (ofOwners owners) where
  balanced := balanced_ofOwners h0
  logged _ _ := rfl
  flags _ hi := absurd hi List.not_mem_nil
  decreasing _ := List.Pairwise.nil
  reached _ hc := absurd hc List.not_mem_nil

/-- **Reminders neither repeat nor go back.** From an empty wallet, after any calls of the wallet service
and any runs of the daily job with a clock that does not go back: the thresholds that were delivered for
a charge strictly decrease, and the next run sends the reminder of a charge exactly when the charge is
usable and within 30 days of its expiry, for the tightest threshold, unless this was delivered before. -/
theorem reminders_decrease (owners : Table ShopOwner)
    (h0 : ∀ o ∈ owners.rows, o.walletBalanceToman = 0) (es : List ReminderEvent) (s : ReminderState)
    (hrun : Runs.exec step (ofOwners owners) es = some s) :
    (∀ i, (deliveredOf s.log i).Pairwise (· > ·) ∧ ∀ d ∈ deliveredOf s.log i, d ∈ [30, 7, (1 : ℤ)]) ∧
    ∀ staleScan dueScan now₁ now₂ fails, (∀ t ∈ s.clock, t ≤ now₁) → now₁ ≤ now₂ →
      ∀ c ∈ s.db.wallet.charges.rows, ∀ d,
        (∃ r ∈ (s.db.processWalletExpiryAndReminders staleScan dueScan now₁ now₂ fails).2,
          r.chargeId = c.id ∧ r.threshold = d) ↔
        c.isExpired = false ∧ 0 < c.remainingToman ∧ now₂ < c.expiresAt ∧
          c.expiresAt ≤ now₂ + days 30 ∧ ReminderFlags.Tightest d (daysLeft c now₂) ∧
          d ∉ deliveredOf s.log c.id := by
  have h : Inv s := Runs.exec_inv_of_step (fun s e s' hI hs => hI.step hs) es _ s (inv_ofOwners h0) hrun
  refine ⟨fun i => ⟨h.decreasing i, fun d hd => ?_⟩,
    fun staleScan dueScan now₁ now₂ fails hclock hle c hc d => ?_⟩
  · by_cases hi : i ∈ s.db.wallet.charges.ids
    · exact ReminderFlags.mem_of_sent ((h.flags i hi d).2 hd)
    · rw [h.logged i hi] at hd
      cases hd
  · have hi := Table.id_mem_ids hc
    have hreached : ∀ d, (s.db.flags c.id).sent d = true → daysLeft c now₂ ≤ d := fun d hd => by
      obtain ⟨t, ht, hreached⟩ := h.reached c hc d ((h.flags c.id hi d).1 hd)
      exact (daysLeft_anti ((hclock t ht).trans hle)).trans hreached
    have hmem : (∃ r ∈ (s.db.processWalletExpiryAndReminders staleScan dueScan now₁ now₂ fails).2,
        r.chargeId = c.id ∧ r.threshold = d) ↔
        (c, d) ∈ (s.db.sweptDb staleScan now₁).findChargesNeedingReminder dueScan now₂ := by
      rw [ReminderDb.process_eq h.balanced]
      constructor
      · rintro ⟨r, hr, hid, rfl⟩
        obtain ⟨x, hx, rfl⟩ := List.mem_map.1 hr
        have hrow := ((ReminderDb.mem_due h.balanced hle).1 (show (x.1, x.2) ∈ _ from hx)).1
        obtain rfl : x.1 = c := Table.eq_of_id_eq hrow hc hid
        exact hx
      · exact fun hx => ⟨_, List.mem_map_of_mem hx, rfl, rfl⟩
    rw [hmem, ReminderDb.mem_due h.balanced hle, nearExpiry_iff, ReminderFlags.dueReminder_iff hreached]
    have hsent : (s.db.flags c.id).sent d = false ↔ d ∉ deliveredOf s.log c.id := by
      rw [← h.flags c.id hi d, Bool.not_eq_true]
    rw [hsent]
    tauto

/-- A charge for 30 days.  The first message fails, and a deduction comes in between. -/
def oneMonth : List ReminderEvent :=
  [.call 0 (.addCharge {} 1 100 .TOPUP none (some 1) none),
    .process .plain .plain (days 1) (days 1) fun _ => true,
    .process .plain .plain (days 2) (days 2) fun _ => false,
    .call (days 3) (.deduct .plain 1 40 .CHAT_MESSAGE none),
    .process .plain .plain (days 25) (days 25) fun _ => false,
    .process .plain .plain (days 26) (days 26) fun _ => false]

theorem reminders_decrease_oneMonth :
    (∀ o ∈ twoOwners.rows, o.walletBalanceToman = 0) ∧
    ∃ s, Runs.exec step (ofOwners twoOwners) oneMonth = some s ∧ deliveredOf s.log 1 = [30, 7] ∧
      (deliveredOf s.log 1).Pairwise (· > ·) :=
  ⟨by decide, _, rfl, by decide +kernel,
    ((reminders_decrease twoOwners (by decide) oneMonth _ rfl).1 1).1⟩

end ReminderState

end KasbOKar
