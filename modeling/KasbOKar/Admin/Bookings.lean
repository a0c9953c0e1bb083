import KasbOKar.Admin.Audit
import KasbOKar.Wallet.Deduction

/-!
# Gifts and corrections on the ledger

What admins do to the wallets of shop owners: gifts, and corrections in both directions.  Each is one row
of the audit log, and one or, for a correction that takes credit from several charges, more rows of the
ledger.  `bookings_logged`: the ledger rows of the two reasons are exactly the bookings that the log
reports, in its order, and the details of a row of the log tell its booking (`giftDetails_injective`,
`correctionDetails_injective`).
-/

namespace KasbOKar

open AdminPanel

/-! ## The ledger rows -/

namespace WalletDb

variable {db db' : WalletDb} {ownerId : ℕ} {amount : ℤ} {reason : WalletTransactionReason}
  {reference : Option String}

/-- The ledger row of `add_charge`. -/
theorem addCharge_ledger {settings : AdminSettings} {now : Datetime} {paymentId : Option ℕ}
    {validityMonths : Option ℤ} {c : WalletCharge}
    (h : db.addCharge settings now ownerId amount reason paymentId validityMonths reference =
      .ok (db', c)) :
    ∃ t : WalletTransaction, t.shopOwnerId = ownerId ∧ t.amountToman = amount ∧
      t.reference = reference ∧
        ∀ q, db'.ledgerOf q = db.ledgerOf q ++ if reason = q then [t] else [] := by
  obtain ⟨-, -, -, howner, -, hamount, -, -, rfl⟩ := addCharge_ok h
  exact ⟨chargeTransaction c reason reference db.transactions.nextId, howner, hamount, rfl,
    fun q => ledgerOf_insert (Table.nextId_notMem db.transactions) q⟩

/-- The ledger rows of a deduction: each takes something from the owner, and all together the amount. -/
theorem deduct_ledger {scan : Scan WalletCharge} (hpos : 0 < amount)
    (h : db.deduct scan ownerId amount reason reference = .ok (db', true)) :
    ∃ ts, db'.ledgerOf reason = db.ledgerOf reason ++ ts ∧
      (∀ t ∈ ts, t.shopOwnerId = ownerId ∧ t.reference = reference ∧ t.amountToman < 0) ∧
        (ts.map WalletTransaction.amountToman).sum = -amount := by
  obtain ⟨-, hfalse⟩ | ⟨-, -, hle, rfl⟩ := deduct_ok h
  · exact absurd hpos (not_lt.2 (of_decide_eq_true hfalse.symm))
  obtain ⟨htakes, -⟩ := splitDeduction_takes db scan ownerId amount
  have hsum := splitDeduction_sum (db.deductibleCharges scan ownerId) amount
  rw [splitDeduction_left _ amount hpos.le hle, add_zero] at hsum
  set xs := (splitDeduction (db.deductibleCharges scan ownerId) amount).1
  obtain ⟨ts, hrows, hts⟩ := @flushTakes_transactions ownerId reason reference xs db
  have hrow : ∀ t ∈ ts, ∃ x ∈ xs, t = takeTransaction ownerId reason reference x t.id := by
    intro t ht
    obtain ⟨i, hi, rfl⟩ := List.getElem_of_mem ht
    exact ⟨_, List.getElem_mem _, hts.get hi (hts.length_eq ▸ hi)⟩
  have hreason : ts.filter (fun t => t.reason == reason) = ts := by
    refine List.filter_eq_self.2 fun t ht => ?_
    obtain ⟨x, -, heq⟩ := hrow t ht
    rw [heq]
    exact beq_self_eq_true reason
  refine ⟨ts, ?_, fun t ht => ?_, ?_⟩
  · show (flushTakes ownerId reason reference db xs).transactions.rows.filter _ = _
    rw [hrows, List.filter_append, hreason]
    rfl
  · obtain ⟨x, hx, heq⟩ := hrow t ht
    have htake := (htakes x hx).2.2.2.1
    rw [heq]
    exact ⟨rfl, rfl, neg_neg_of_pos htake⟩
  · have hamounts : ts.map WalletTransaction.amountToman = xs.map fun x => -x.2 := by
      rw [← List.forall₂_eq_eq_eq, List.forall₂_map_left_iff, List.forall₂_map_right_iff]
      exact hts.imp fun t x h => by rw [h]; rfl
    rw [hamounts, ← hsum]
    exact List.sum_map_hom xs Prod.snd (negAddMonoidHom : ℤ →+ ℤ)

end WalletDb

namespace AdminPanel

/-! ## What the details tell -/

/-- The part before the first comma, and the one behind it. -/
theorem split_comma {l l' r r' : List Char} (hl : ',' ∉ l) (hl' : ',' ∉ l')
    (h : l ++ ',' :: r = l' ++ ',' :: r') : l = l' ∧ r = r' := by
  induction l generalizing l' with
  | nil =>
    cases l' with
    | nil => exact ⟨rfl, (List.cons.inj h).2⟩
    | cons c l' => exact absurd (List.mem_cons.2 (.inl (List.cons.inj h).1)) hl'
  | cons c l ih =>
    cases l' with
    | nil => exact absurd (List.mem_cons.2 (.inl (List.cons.inj h).1.symm)) hl
    | cons c' l' =>
      obtain ⟨rfl, htail⟩ := List.cons.inj h
      obtain ⟨rfl, hr⟩ := ih (fun hc => hl (List.mem_cons_of_mem c hc))
        (fun hc => hl' (List.mem_cons_of_mem c hc)) htail
      exact ⟨rfl, hr⟩

theorem comma_notMem_nat (n : ℕ) : ',' ∉ (toString n).toList := by
  show ',' ∉ n.repr.toList
  rw [Nat.repr_eq_ofList_toDigits, String.toList_ofList]
  intro h
  exact absurd (DecimalText.isDigit_toDigits _ h) (by decide)

theorem comma_notMem_int (z : ℤ) : ',' ∉ (toString z).toList := by
  show ',' ∉ z.repr.toList
  rw [Int.repr_eq_if]
  split_ifs
  · exact comma_notMem_nat z.toNat
  · rw [String.toList_append, List.mem_append, not_or]
    exact ⟨by decide, comma_notMem_nat (-z).toNat⟩

theorem toList_giftDetails (ownerId : ℕ) (amountToman : ℤ) : (giftDetails ownerId amountToman).toList =
    "owner_id=".toList ++ ((toString ownerId).toList ++ ',' :: (" amount_toman=".toList ++
      (toString amountToman).toList)) := by
  unfold giftDetails
  rw [String.toList_append, String.toList_append, String.toList_append, List.append_assoc,
    List.append_assoc]
  rfl

/-- The details of a gift tell the owner and the amount. -/
theorem giftDetails_injective {ownerId ownerId' : ℕ} {amountToman amountToman' : ℤ}
    (h : giftDetails ownerId amountToman = giftDetails ownerId' amountToman') :
    ownerId = ownerId' ∧ amountToman = amountToman' := by
  have hlist := congrArg String.toList h
  rw [toList_giftDetails, toList_giftDetails] at hlist
  obtain ⟨howner, hrest⟩ := split_comma (comma_notMem_nat _) (comma_notMem_nat _)
    (List.append_cancel_left hlist)
  exact ⟨Nat.repr_injective (String.toList_inj.1 howner),
    Int.repr_injective (String.toList_inj.1 (List.append_cancel_left hrest))⟩

/-- The details of a correction tell the owner, the amount and the note. -/
theorem correctionDetails_injective {ownerId ownerId' : ℕ} {amountToman amountToman' : ℤ}
    {note note' : String}
    (h : correctionDetails ownerId amountToman note = correctionDetails ownerId' amountToman' note') :
    ownerId = ownerId' ∧ amountToman = amountToman' ∧ note = note' := by
  have htext : ∀ (o : ℕ) (a : ℤ) (n : String), (correctionDetails o a n).toList =
      "owner_id=".toList ++ ((toString o).toList ++ ',' :: (" amount_toman=".toList ++
        ((toString a).toList ++ ',' :: (" note=".toList ++ n.toList)))) := by
    intro o a n
    unfold correctionDetails
    rw [String.toList_append, String.toList_append, toList_giftDetails]
    simp only [List.append_assoc, List.cons_append]
    rfl
  have hlist := congrArg String.toList h
  rw [htext, htext] at hlist
  obtain ⟨howner, hrest⟩ := split_comma (comma_notMem_nat _) (comma_notMem_nat _)
    (List.append_cancel_left hlist)
  obtain ⟨hamount, hnote⟩ := split_comma (comma_notMem_int _) (comma_notMem_int _)
    (List.append_cancel_left hrest)
  exact ⟨Nat.repr_injective (String.toList_inj.1 howner),
    Int.repr_injective (String.toList_inj.1 hamount),
    String.toList_inj.1 (List.append_cancel_left hnote)⟩

/-! ## Bookings -/

/-- A gift or, with a note, a correction, and its rows of the ledger. -/
structure Booking where
  ownerId : ℕ
  amountToman : ℤ
  note : Option String
  rows : List WalletTransaction

namespace Booking

/-- The details of its row of the log. -/
def details (b : Booking) : String :=
  match b.note with
  | none => giftDetails b.ownerId b.amountToman
  | some note => correctionDetails b.ownerId b.amountToman note

/-- The rows book the amount for the owner, each in its direction. -/
structure Balanced (b : Booking) : Prop where
  owner : ∀ t ∈ b.rows, t.shopOwnerId = b.ownerId
  note : ∀ t ∈ b.rows, t.reference = b.note
  direction : ∀ t ∈ b.rows, 0 < t.amountToman * b.amountToman
  total : (b.rows.map WalletTransaction.amountToman).sum = b.amountToman

/-- A booking in one row. -/
theorem balanced_singleton {ownerId : ℕ} {amountToman : ℤ} {note : Option String} {t : WalletTransaction}
    (hne : amountToman ≠ 0) (howner : t.shopOwnerId = ownerId) (hamount : t.amountToman = amountToman)
    (hnote : t.reference = note) :
    Balanced { ownerId := ownerId, amountToman := amountToman, note := note, rows := [t] } := by
  refine ⟨fun t' ht' => ?_, fun t' ht' => ?_, fun t' ht' => ?_, ?_⟩
  · rw [List.mem_singleton.1 ht']
    exact howner
  · rw [List.mem_singleton.1 ht']
    exact hnote
  · rw [List.mem_singleton.1 ht', hamount]
    exact mul_self_pos.2 hne
  · rw [List.map_singleton, List.sum_singleton]
    exact hamount

end Booking

/-- The rows of the log about an event. -/
def entries (db : PanelDb) (event : AuditEventType) : List AuditLogEntry :=
  db.audit.rows.filter fun e => e.eventType == event

/-- The ledger rows of a reason are the bookings that the rows of an event report. -/
def Booked (db : PanelDb) (event : AuditEventType) (reason : WalletTransactionReason) : Prop :=
  ∃ bs : List Booking, (∀ b ∈ bs, b.Balanced) ∧
    db.books.wallet.ledgerOf reason = (bs.map Booking.rows).flatten ∧
      (entries db event).map AuditLogEntry.details = bs.map fun b => some b.details

section Steps

variable {db db' : PanelDb} {event : AuditEventType} {reason : WalletTransactionReason}

theorem entries_log_self (shopBotId : Option ℕ) (actor : ℤ) (details : Option String) :
    entries (db.log event shopBotId (some actor) details) event =
      entries db event ++ [nextEntry db event shopBotId actor details] := by
  unfold entries
  rw [rows_log, List.filter_append]
  exact congrArg _ (List.filter_cons_of_pos (beq_self_eq_true event))

theorem entries_log_of_ne {event' : AuditEventType} (h : event' ≠ event) (shopBotId : Option ℕ)
    (actor : ℤ) (details : Option String) :
    entries (db.log event' shopBotId (some actor) details) event = entries db event := by
  unfold entries
  have hnone : [nextEntry db event' shopBotId actor details].filter (fun e => e.eventType == event) = [] :=
    List.filter_cons_of_neg fun heq => h (beq_iff_eq.1 heq)
  rw [rows_log, List.filter_append, hnone, List.append_nil]

/-- Neither the ledger rows nor the rows of the log change. -/
theorem Booked.of_eq (h : Booked db event reason)
    (hledger : db'.books.wallet.ledgerOf reason = db.books.wallet.ledgerOf reason)
    (hentries : entries db' event = entries db event) : Booked db' event reason := by
  unfold Booked
  rw [hledger, hentries]
  exact h

/-- One more booking, which is logged. -/
theorem Booked.snoc (h : Booked db event reason) {b : Booking} (hb : b.Balanced)
    {shopBotId : Option ℕ} {actor : ℤ} (haudit : db'.audit = db.audit)
    (hledger : db'.books.wallet.ledgerOf reason = db.books.wallet.ledgerOf reason ++ b.rows) :
    Booked (db'.log event shopBotId (some actor) (some b.details)) event reason := by
  obtain ⟨bs, hbs, hrows, hdetails⟩ := h
  refine ⟨bs ++ [b], ?_, ?_, ?_⟩
  · intro b' hb'
    rcases List.mem_append.1 hb' with hb' | hb'
    · exact hbs b' hb'
    · rw [List.mem_singleton.1 hb']
      exact hb
  · rw [List.map_append, List.flatten_append, List.map_singleton, List.flatten_singleton, ← hrows]
    exact hledger
  · have hsame : entries db' event = entries db event := by
      unfold entries
      rw [haudit]
    rw [entries_log_self, List.map_append, hsame, hdetails, List.map_append]
    rfl

/-- The two parts of the books that the log reports. -/
structure BookingsLogged (db : PanelDb) : Prop where
  gifts : Booked db .OWNER_GIFT_GRANTED .ADMIN_GRANT
  corrections : Booked db .OWNER_WALLET_CORRECTED .ADMIN_CORRECTION

/-- A step that books nothing for the two reasons, and logs neither event. -/
theorem BookingsLogged.of_eq (h : BookingsLogged db)
    (hledger : ∀ q, PaymentDb.ByPanel q → db'.books.wallet.ledgerOf q = db.books.wallet.ledgerOf q)
    (hgifts : entries db' .OWNER_GIFT_GRANTED = entries db .OWNER_GIFT_GRANTED)
    (hcorrections : entries db' .OWNER_WALLET_CORRECTED = entries db .OWNER_WALLET_CORRECTED) :
    BookingsLogged db' :=
  ⟨h.gifts.of_eq (hledger _ (.inl rfl)) hgifts, h.corrections.of_eq (hledger _ (.inr rfl)) hcorrections⟩

/-- The same, with a row about another event. -/
theorem BookingsLogged.log (h : BookingsLogged db) (hwallet : db'.books.wallet = db.books.wallet)
    (haudit : db'.audit = db.audit) (hgift : event ≠ .OWNER_GIFT_GRANTED)
    (hcorrection : event ≠ .OWNER_WALLET_CORRECTED) (shopBotId : Option ℕ) (actor : ℤ)
    (details : Option String) : BookingsLogged (db'.log event shopBotId (some actor) details) := by
  have hentries : ∀ event', entries db' event' = entries db event' := by
    intro event'
    unfold entries
    rw [haudit]
  refine h.of_eq (fun q _ => congrArg (WalletDb.ledgerOf · q) hwallet) ?_ ?_
  · rw [entries_log_of_ne hgift, hentries]
  · rw [entries_log_of_ne hcorrection, hentries]

/-- A gift is one ledger row. -/
theorem BookingsLogged.gift (h : BookingsLogged db) {now : Datetime} {ownerId : ℕ} {amountToman : ℤ}
    {books : PaymentDb} {c : WalletCharge} (hpos : 0 < amountToman)
    (hadd : db.books.addCharge now ownerId amountToman .ADMIN_GRANT none = .ok (books, c))
    (shopBotId : Option ℕ) (actor : ℤ) :
    BookingsLogged (PanelDb.log { db with books := books } .OWNER_GIFT_GRANTED shopBotId (some actor)
      (some (giftDetails ownerId amountToman))) := by
  obtain ⟨wallet, hwallet, rfl⟩ := PaymentDb.addCharge_ok hadd
  obtain ⟨t, howner, hamount, hnote, hledger⟩ := WalletDb.addCharge_ledger hwallet
  have hb := Booking.balanced_singleton hpos.ne' howner hamount hnote
  refine ⟨h.gifts.snoc hb rfl ((hledger _).trans (by rw [if_pos rfl])), ?_⟩
  refine h.corrections.of_eq ?_ (entries_log_of_ne (by decide) _ _ _)
  exact (hledger _).trans (by rw [if_neg (by decide), List.append_nil])

/-- A correction upwards is one ledger row, one downwards as many as it takes credit from charges. -/
theorem BookingsLogged.correction (h : BookingsLogged db) {env : PanelEnv} {ownerId : ℕ}
    {amountToman : ℤ} {note : String} (hne : amountToman ≠ 0)
    (happly : applyCorrection env ownerId amountToman note db = .ok (db', true)) (shopBotId : Option ℕ)
    (actor : ℤ) :
    BookingsLogged (db'.log .OWNER_WALLET_CORRECTED shopBotId (some actor)
      (some (correctionDetails ownerId amountToman note))) := by
  obtain ⟨wallet', rfl⟩ := applyCorrection_wallet happly
  have hrows : ∃ rows, wallet'.ledgerOf .ADMIN_CORRECTION =
      db.books.wallet.ledgerOf .ADMIN_CORRECTION ++ rows ∧
      (⟨ownerId, amountToman, some note, rows⟩ : Booking).Balanced ∧
      wallet'.ledgerOf .ADMIN_GRANT = db.books.wallet.ledgerOf .ADMIN_GRANT := by
    unfold applyCorrection at happly
    split_ifs at happly with hpos
    · obtain ⟨⟨wallet, c⟩, hadd, happly⟩ := bind_ok happly
      cases happly
      obtain ⟨t, howner, hamount, hreference, hledger⟩ := WalletDb.addCharge_ledger hadd
      exact ⟨[t], (hledger _).trans (by rw [if_pos rfl]),
        Booking.balanced_singleton hne howner hamount hreference,
        (hledger _).trans (by rw [if_neg (by decide), List.append_nil])⟩
    · obtain ⟨⟨wallet, applied⟩, hdeduct, happly⟩ := bind_ok happly
      cases happly
      obtain ⟨ts, hledger, hts, hsum⟩ := WalletDb.deduct_ledger (abs_pos.2 hne) hdeduct
      refine ⟨ts, hledger, ⟨fun t ht => (hts t ht).1, fun t ht => (hts t ht).2.1, fun t ht => ?_, ?_⟩,
        (WalletDb.deduct_books (by decide) hdeduct).ledger⟩
      · exact mul_pos_of_neg_of_neg (hts t ht).2.2 (lt_of_le_of_ne (not_lt.1 hpos) hne)
      · exact hsum.trans (by rw [abs_of_nonpos (not_lt.1 hpos), neg_neg])
  obtain ⟨rows, hledger, hb, hgrants⟩ := hrows
  exact ⟨h.gifts.of_eq hgrants (entries_log_of_ne (by decide) _ _ _), h.corrections.snoc hb rfl hledger⟩

theorem PanelEffect.bookings {cfg : PanelConfig} {env : PanelEnv} {user : ℤ}
    (heffect : PanelEffect cfg env user db db') (h : BookingsLogged db) : BookingsLogged db' := by
  cases heffect with
  | same => exact h
  | granted _ _ _ => exact h.log (by rfl) (by rfl) (by decide) (by decide) _ _ _
  | revoked _ _ => exact h.log (by rfl) (by rfl) (by decide) (by decide) _ _ _
  | toggled switch _ => cases switch <;> exact h.log (by rfl) (by rfl) (by decide) (by decide) _ _ _
  | assigned _ hassigned =>
    obtain ⟨-, haudit, -, hwallet⟩ := hassigned.frame
    refine h.of_eq (fun q _ => congrArg (WalletDb.ledgerOf · q) hwallet) ?_ ?_
    all_goals
      unfold entries
      rw [haudit]
  | planned _ _ => exact h.of_eq (fun _ _ => rfl) rfl rfl
  | pooled _ _ => exact h.of_eq (fun _ _ => rfl) rfl rfl
  | channelled _ => exact h.of_eq (fun _ _ => rfl) rfl rfl
  | ruled _ => exact h.of_eq (fun _ _ => rfl) rfl rfl
  | activated hevent =>
    rename_i shopBotId isActive reason event
    subst hevent
    exact h.log (by rfl) (by rfl) (by cases isActive <;> decide) (by cases isActive <;> decide) _ _ _
  | gifted hpos hadd => exact h.gift hpos hadd _ _
  | corrected _ hamount _ _ happly => exact h.correction hamount happly _ _

end Steps

end AdminPanel

namespace PanelSystem

variable {cfg : PanelConfig} {W : World}

theorem bookings_step {s s' : PanelSystem} {a : AdminAct} (hc : s.Complete)
    (h : BookingsLogged s.db) (hs : s.step cfg W a = some s') : BookingsLogged s'.db := by
  cases a with
  | update env user u =>
    cases hs
    obtain ⟨-, hdb, -⟩ := handle_spec hc env user u
    rcases hdb with hsame | ⟨heffect, -⟩
    · rw [hsame]
      exact h
    · exact heffect.bookings h
  | dialog user next =>
    cases next with
    | none =>
      cases hs
      exact h
    | some next =>
      obtain ⟨-, hs⟩ := Option.ite_none_right_eq_some.1 hs
      cases hs
      exact h
  | moderationMatch shopBotId actor details =>
    cases hs
    exact h.log (by rfl) (by rfl) (by decide) (by decide) _ _ _
  | book now committed act =>
    obtain ⟨hact, hs⟩ := Option.ite_none_right_eq_some.1 hs
    obtain ⟨books, hbook, rfl⟩ := Option.map_eq_some_iff.1 hs
    exact h.of_eq (PaymentDb.book_leaves hact hbook).ledger rfl rfl
  | shops shops =>
    cases hs
    exact h.of_eq (fun _ _ => rfl) rfl rfl
  | restart =>
    cases hs
    exact h

/-- **What admins book is what the log reports.**  From a platform without any ledger row on, the ledger
rows of the two reasons are the rows of a list of bookings, which the log reports in the same order, each
with its owner, its amount and, for a correction, its note. -/
theorem bookings_logged {books : PaymentDb} (hbooks : books.wallet.transactions.rows = [])
    {acts : List AdminAct} {s : PanelSystem}
    (hrun : Runs.exec (step cfg W) (new books) acts = some s) :
    Booked s.db .OWNER_GIFT_GRANTED .ADMIN_GRANT ∧
      Booked s.db .OWNER_WALLET_CORRECTED .ADMIN_CORRECTION := by
  have hempty : ∀ q, (new books).db.books.wallet.ledgerOf q = [] := by
    intro q
    show books.wallet.transactions.rows.filter _ = []
    rw [hbooks, List.filter_nil]
  have hnew : BookingsLogged (new books).db :=
    ⟨⟨[], nofun, hempty _, rfl⟩, ⟨[], nofun, hempty _, rfl⟩⟩
  have hfinal : s.Complete ∧ BookingsLogged s.db := by
    refine Runs.exec_inv_of_step (I := fun s => s.InOrder cfg ∧ BookingsLogged s.db) ?_ acts _ _
      ⟨inOrder_new books, hnew⟩ hrun |>.imp_left InOrder.complete
    exact fun s a s' h hs => ⟨h.1.step hs, bookings_step h.1.complete h.2 hs⟩
  exact ⟨hfinal.2.gifts, hfinal.2.corrections⟩

/-- Two gifts, a correction that takes credit from both, and one upwards. -/
def bookingDay : List AdminAct :=
  let typed (text : String) : AdminAct := .update quietEnv 1 (.message { text := some text })
  let gift : AdminAct := .update quietEnv 1 (.button (.ownerGift 1))
  let correction : AdminAct := .update quietEnv 1 (.button (.ownerWalletCorrection 1))
  [.book 0 true (.register 11 none "AAAA"), gift, typed "5000", gift, typed "3000",
    correction, typed "-6,000", typed "wrong gift", correction, typed "200", typed "bonus"]

theorem bookingDay_isSome :
    (Runs.exec (step oneAdmin .noMonths) (new .newBooks) bookingDay).isSome = true := by
  decide +kernel

theorem bookings_logged_bookingDay :
    ∃ s, Runs.exec (step oneAdmin .noMonths) (new .newBooks) bookingDay = some s ∧
      (s.db.books.wallet.ledgerOf .ADMIN_CORRECTION).map WalletTransaction.amountToman =
        [-5000, -1000, 200] ∧
      (entries s.db .OWNER_WALLET_CORRECTED).map AuditLogEntry.details =
        [some "owner_id=1, amount_toman=-6000, note=wrong gift",
          some "owner_id=1, amount_toman=200, note=bonus"] ∧
      Booked s.db .OWNER_GIFT_GRANTED .ADMIN_GRANT ∧
      Booked s.db .OWNER_WALLET_CORRECTED .ADMIN_CORRECTION := by
  refine ⟨_, (Option.some_get bookingDay_isSome).symm, by decide +kernel, by decide +kernel, ?_⟩
  exact bookings_logged rfl (Option.some_get bookingDay_isSome).symm

end PanelSystem

end KasbOKar
