import KasbOKar.Bot.Start
import KasbOKar.Lib.Transcript

/-!
# One-time codes

`app/services/otp_service.py`, for all sequences of its two functions.  A code that is found is consumed,
and a code that fits is found (`Accounted`), as long as `verify_otp` returns.  It does not always: its
`SELECT` asks for the latest code, but the answer is read with `scalar_one_or_none`, which refuses two rows,
and two codes of one owner and purpose may be the same six digits.

The argument counts the rows that a text can find.  `validUntil` is what is left of the codes of one key
since it was last verified, read off the calls alone, and `Tracks` says that these are the rows that
`verify_otp` selects, now and at any later time.
-/

namespace KasbOKar

namespace OtpService

/-! ## The service -/

/-- A row of `otp_codes`, with any purpose. -/
structure OtpRow where
  id : ℕ
  shopOwnerId : ℕ
  code : String
  purpose : String
  expiresAt : Datetime
  consumed : Bool := false
  deriving DecidableEq, Repr

instance : Keyed OtpRow := ⟨OtpRow.id⟩

/-- What `verify_otp` asks for. -/
structure OtpKey where
  shopOwnerId : ℕ
  purpose : String
  code : String
  deriving DecidableEq, Repr

def OtpRow.key (o : OtpRow) : OtpKey := ⟨o.shopOwnerId, o.purpose, o.code⟩

/-- `OTP_TTL_MINUTES`. -/
def otpTtlMinutes : ℤ := 5

/-- A text that PostgreSQL knows. -/
def hasNoZero (s : String) : Bool := !s.toList.contains (Char.ofNat 0)

/-- The parameters of the `SELECT` can be sent. -/
def Sendable (key : OtpKey) : Prop :=
  Int4 key.shopOwnerId ∧ hasNoZero key.purpose = true ∧ hasNoZero key.code = true

instance (key : OtpKey) : Decidable (Sendable key) := inferInstanceAs (Decidable (_ ∧ _))

/-- `f"{secrets.randbelow(1000000):06d}"`. -/
def codeText (draw : Fin 1000000) : String := .ofList ((Nat.toDigits 10 draw).leftpad 6 '0')

/-- `generate_otp`; `ownerExists` is what the foreign key finds. -/
def generateOtp (otps : Table OtpRow) (now : Datetime) (shopOwnerId : ℕ) (purpose : String)
    (draw : Fin 1000000) (ownerExists : Bool) : Except PyError (Table OtpRow × String) := do
  let code := codeText draw
  let expiresAt ← datetimeAdd now (minutes otpTtlMinutes)
  if ¬ Int4 shopOwnerId ∨ hasNoZero purpose = false ∨ 32 < purpose.length then .error .DataError
  else if !ownerExists then .error .IntegrityError
  else
    return (otps.insert { id := otps.nextId, shopOwnerId := shopOwnerId, code := code, purpose := purpose,
                          expiresAt := expiresAt }, code)

/-- The `WHERE` clause of `verify_otp`. -/
def otpMatches (now : Datetime) (key : OtpKey) (otp : OtpRow) : Bool :=
  otp.shopOwnerId == key.shopOwnerId && otp.purpose == key.purpose && otp.code == key.code &&
    !otp.consumed && decide (now < otp.expiresAt)

/-- `verify_otp`. -/
def verifyOtp (otps : Table OtpRow) (now : Datetime) (key : OtpKey) :
    Except PyError (Table OtpRow × Bool) :=
  if ¬ Sendable key then .error .DataError
  else do
    match ← scalarOneOrNone (orderBy (fun o => -(o.id : ℤ)) (otps.rows.filter (otpMatches now key))) with
    | none => return (otps, false)
    | some otp => return (otps.modify otp.id fun o => { o with consumed := true }, true)

/-! ## Sequences of calls -/

inductive OtpCall where
  | generate (shopOwnerId : ℕ) (purpose : String) (draw : Fin 1000000) (ownerExists : Bool)
  | verify (key : OtpKey)
  deriving DecidableEq, Repr

inductive OtpAnswer where
  | code (text : String)
  | verdict (valid : Bool)
  | raised (e : PyError)
  deriving DecidableEq, Repr

/-- A call at its time; one that raises leaves the table as it was. -/
def step (otps : Table OtpRow) (c : Datetime × OtpCall) : Table OtpRow × OtpAnswer :=
  match c.2 with
  | .generate shopOwnerId purpose draw ownerExists =>
    match generateOtp otps c.1 shopOwnerId purpose draw ownerExists with
    | .error e => (otps, .raised e)
    | .ok (otps, code) => (otps, .code code)
  | .verify key =>
    match verifyOtp otps c.1 key with
    | .error e => (otps, .raised e)
    | .ok (otps, valid) => (otps, .verdict valid)

/-- A non-decreasing clock. -/
def InOrder (calls : List (Datetime × OtpCall)) : Prop := calls.Pairwise fun c c' => c.1 ≤ c'.1

/-! ## What the calls must add up to -/

/-- A call of `generate_otp` that returned. -/
structure Generation where
  key : OtpKey
  time : Datetime
  deriving DecidableEq, Repr

/-- The generation is for this key, and less than five minutes old. -/
def Generation.Fits (g : Generation) (now : Datetime) (key : OtpKey) : Prop :=
  g.key = key ∧ now < g.time + minutes otpTtlMinutes

/-- Calls with their answers, and the generations that no verification is matched with yet: each call of
`verify_otp` that returns `True` takes one that fits, it returns `False` only where none fits, and it does
not raise. -/
inductive Accounted : List ((Datetime × OtpCall) × OtpAnswer) → List Generation → Prop
  | start : Accounted [] []
  | issued {log unmatched now shopOwnerId purpose draw ownerExists code} (h : Accounted log unmatched) :
      Accounted (log ++ [((now, .generate shopOwnerId purpose draw ownerExists), .code code)])
        (unmatched ++ [⟨⟨shopOwnerId, purpose, code⟩, now⟩])
  | refused {log unmatched now shopOwnerId purpose draw ownerExists e} (h : Accounted log unmatched) :
      Accounted (log ++ [((now, .generate shopOwnerId purpose draw ownerExists), .raised e)]) unmatched
  | granted {log before g after now key} (h : Accounted log (before ++ g :: after))
      (hfits : g.Fits now key) :
      Accounted (log ++ [((now, .verify key), .verdict true)]) (before ++ after)
  | denied {log unmatched now key} (h : Accounted log unmatched)
      (hnone : ∀ g ∈ unmatched, ¬ g.Fits now key) :
      Accounted (log ++ [((now, .verify key), .verdict false)]) unmatched

/-- No call of `verify_otp` raises. -/
def Total (log : List ((Datetime × OtpCall) × OtpAnswer)) : Prop :=
  ∀ now key e, ((now, OtpCall.verify key), OtpAnswer.raised e) ∉ log

theorem total_snoc {log : List ((Datetime × OtpCall) × OtpAnswer)} {x : (Datetime × OtpCall) × OtpAnswer} :
    Total (log ++ [x]) ↔ Total log ∧ ∀ now key e, x ≠ ((now, .verify key), .raised e) := by
  unfold Total
  simp only [List.mem_append, List.mem_singleton, not_or, forall_and, ne_comm (a := x)]

theorem Accounted.total {log : List ((Datetime × OtpCall) × OtpAnswer)} {unmatched : List Generation}
    (h : Accounted log unmatched) : Total log := by
  induction h with
  | start => exact fun _ _ _ => List.not_mem_nil
  | issued h ih => exact total_snoc.2 ⟨ih, nofun⟩
  | refused h ih => exact total_snoc.2 ⟨ih, nofun⟩
  | granted h hfits ih => exact total_snoc.2 ⟨ih, nofun⟩
  | denied h hnone ih => exact total_snoc.2 ⟨ih, nofun⟩

/-! ## What the calls leave to be found -/

/-- The call is one of `generate_otp` that returns a code, with this key. -/
def Issues (key : OtpKey) (c : Datetime × OtpCall) : Prop :=
  match c.2 with
  | .generate shopOwnerId purpose draw ownerExists =>
    InDatetimeRange (c.1 + minutes otpTtlMinutes) ∧ Int4 shopOwnerId ∧ hasNoZero purpose = true ∧
      purpose.length ≤ 32 ∧ ownerExists = true ∧ key = ⟨shopOwnerId, purpose, codeText draw⟩
  | .verify _ => False

instance (key : OtpKey) : (c : Datetime × OtpCall) → Decidable (Issues key c)
  | (_, .generate ..) => inferInstanceAs (Decidable (_ ∧ _))
  | (_, .verify _) => inferInstanceAs (Decidable False)

/-- Until when the codes with this key are valid that were generated since it was last verified. -/
def validUntil (key : OtpKey) (calls : List (Datetime × OtpCall)) : List Datetime :=
  calls.foldl (fun times c =>
    if c.2 = .verify key then []
    else if Issues key c then times ++ [c.1 + minutes otpTtlMinutes] else times) []

/-- A text of this key finds at most one of these codes, and can be sent. -/
def Unambiguous (before : List (Datetime × OtpCall)) (now : Datetime) (key : OtpKey) : Prop :=
  Sendable key ∧ ((validUntil key before).filter fun t => now < t).length ≤ 1

theorem validUntil_snoc (key : OtpKey) (calls : List (Datetime × OtpCall)) (c : Datetime × OtpCall) :
    validUntil key (calls ++ [c]) =
      if c.2 = .verify key then []
      else if Issues key c then validUntil key calls ++ [c.1 + minutes otpTtlMinutes]
      else validUntil key calls := by
  unfold validUntil
  rw [List.foldl_append]
  rfl

/-! ## What one call does -/

/-- The row that `generate_otp` adds. -/
def newOtp (otps : Table OtpRow) (now : Datetime) (key : OtpKey) : OtpRow :=
  { id := otps.nextId, shopOwnerId := key.shopOwnerId, code := key.code, purpose := key.purpose,
    expiresAt := now + minutes otpTtlMinutes }

theorem generateOtp_cases (otps : Table OtpRow) (now : Datetime) (shopOwnerId : ℕ) (purpose : String)
    (draw : Fin 1000000) (ownerExists : Bool) :
    (Issues ⟨shopOwnerId, purpose, codeText draw⟩ (now, .generate shopOwnerId purpose draw ownerExists) ∧
        generateOtp otps now shopOwnerId purpose draw ownerExists =
          .ok (otps.insert (newOtp otps now ⟨shopOwnerId, purpose, codeText draw⟩), codeText draw)) ∨
      ((∀ key, ¬ Issues key (now, .generate shopOwnerId purpose draw ownerExists)) ∧
        ∃ e, generateOtp otps now shopOwnerId purpose draw ownerExists = .error e) := by
  unfold Issues generateOtp datetimeAdd
  dsimp only
  by_cases hrange : InDatetimeRange (now + minutes otpTtlMinutes)
  · rw [if_pos hrange]
    by_cases hdata : ¬ Int4 shopOwnerId ∨ hasNoZero purpose = false ∨ 32 < purpose.length
    · refine .inr ⟨?_, .DataError, if_pos hdata⟩
      rintro key ⟨-, hint, hzero, hlength, -⟩
      obtain hdata | hdata | hdata := hdata
      · exact hdata hint
      · rw [hzero] at hdata
        cases hdata
      · omega
    · cases ownerExists with
      | true =>
        obtain ⟨hint, hzero, hlength⟩ := not_or.1 hdata |>.imp_right not_or.1
        exact .inl ⟨⟨hrange, not_not.1 hint, by simpa using hzero, not_lt.1 hlength, rfl, rfl⟩,
          if_neg hdata⟩
      | false => exact .inr ⟨fun key h => by simpa using h.2.2.2.2.1, .IntegrityError, if_neg hdata⟩
  · rw [if_neg hrange]
    exact .inr ⟨fun key h => hrange h.1, .OverflowError, rfl⟩

/-- The rows that a text of the key finds. -/
def live (otps : Table OtpRow) (now : Datetime) (key : OtpKey) : List OtpRow :=
  otps.rows.filter (otpMatches now key)

theorem otpMatches_iff {now : Datetime} {key : OtpKey} {o : OtpRow} :
    otpMatches now key o = true ↔ o.key = key ∧ o.consumed = false ∧ now < o.expiresAt := by
  obtain ⟨shopOwnerId, purpose, code⟩ := key
  unfold otpMatches OtpRow.key
  simp [and_assoc]

theorem mem_live {otps : Table OtpRow} {now : Datetime} {key : OtpKey} {o : OtpRow} :
    o ∈ live otps now key ↔ o ∈ otps.rows ∧ o.key = key ∧ o.consumed = false ∧ now < o.expiresAt := by
  unfold live
  rw [List.mem_filter, otpMatches_iff]

/-- What a text finds it would have found before. -/
theorem live_earlier {otps : Table OtpRow} {now t : Datetime} {key : OtpKey} {o : OtpRow} (hle : now ≤ t)
    (h : o ∈ live otps t key) : o ∈ live otps now key := by
  obtain ⟨hrow, hkey, hopen, hlater⟩ := mem_live.1 h
  exact mem_live.2 ⟨hrow, hkey, hopen, hle.trans_lt hlater⟩

theorem scalarOneOrNone_perm {α : Type} {l l' : List α} (h : l.Perm l') :
    scalarOneOrNone l = scalarOneOrNone l' := by
  match l, h with
  | [], h => rw [h.nil_eq]
  | [x], h => rw [List.singleton_perm.1 h]
  | x :: y :: l, h =>
    match l', h with
    | [], h => exact absurd h.length_eq (by simp)
    | [z], h => exact absurd h.length_eq (by simp)
    | z :: w :: l', h => rfl

theorem verifyOtp_cases (otps : Table OtpRow) (now : Datetime) {key : OtpKey} (hkey : Sendable key) :
    (live otps now key = [] ∧ verifyOtp otps now key = .ok (otps, false)) ∨
      (∃ otp, live otps now key = [otp] ∧ verifyOtp otps now key =
        .ok (otps.modify otp.id fun o => { o with consumed := true }, true)) ∨
      (1 < (live otps now key).length ∧ verifyOtp otps now key = .error .MultipleResultsFound) := by
  unfold verifyOtp
  rw [if_neg (not_not.2 hkey), scalarOneOrNone_perm (orderBy_perm _ _)]
  change (live otps now key = [] ∧ (scalarOneOrNone (live otps now key) >>= _) = _) ∨
    (∃ otp, live otps now key = [otp] ∧ (scalarOneOrNone (live otps now key) >>= _) = _) ∨
    (1 < (live otps now key).length ∧ (scalarOneOrNone (live otps now key) >>= _) = _)
  match live otps now key with
  | [] => exact .inl ⟨rfl, rfl⟩
  | [otp] => exact .inr (.inl ⟨otp, rfl, rfl⟩)
  | _ :: _ :: l => exact .inr (.inr ⟨by simp, rfl⟩)

/-! ## The rows and the calls -/

/-- The generation that a row is from. -/
def OtpRow.generation (o : OtpRow) : Generation := ⟨o.key, o.expiresAt - minutes otpTtlMinutes⟩

/-- The generations whose codes are not consumed. -/
def unconsumed (otps : Table OtpRow) : List Generation :=
  (otps.rows.filter fun o => !o.consumed).map OtpRow.generation

/-- From `now` on the rows that a text finds are those that the calls have left. -/
def Tracks (otps : Table OtpRow) (calls : List (Datetime × OtpCall)) (now : Datetime) : Prop :=
  ∀ key t, now ≤ t → (live otps t key).map OtpRow.expiresAt = (validUntil key calls).filter fun u => t < u

theorem Tracks.later {otps : Table OtpRow} {calls : List (Datetime × OtpCall)} {now now' : Datetime}
    (h : Tracks otps calls now) (hle : now ≤ now') : Tracks otps calls now' :=
  fun key t ht => h key t (hle.trans ht)

theorem fits_generation {o : OtpRow} {now : Datetime} {key : OtpKey} :
    o.generation.Fits now key ↔ o.key = key ∧ now < o.expiresAt := by
  unfold OtpRow.generation Generation.Fits
  rw [sub_add_cancel]

theorem unconsumed_insert (otps : Table OtpRow) (now : Datetime) (key : OtpKey) :
    unconsumed (otps.insert (newOtp otps now key)) = unconsumed otps ++ [⟨key, now⟩] := by
  unfold unconsumed
  rw [Table.insert_rows (Table.nextId_notMem otps), List.filter_append, List.map_append]
  congr 1
  show [(newOtp otps now key).generation] = _
  unfold OtpRow.generation newOtp
  rw [add_sub_cancel_right]
  rfl

theorem live_insert (otps : Table OtpRow) (now t : Datetime) (key key' : OtpKey) :
    live (otps.insert (newOtp otps now key')) t key =
      live otps t key ++
        if key' = key ∧ t < now + minutes otpTtlMinutes then [newOtp otps now key'] else [] := by
  have hmatch : otpMatches t key (newOtp otps now key') = true ↔
      key' = key ∧ t < now + minutes otpTtlMinutes := by
    rw [otpMatches_iff]
    exact and_congr_right fun _ => and_iff_right rfl
  unfold live
  rw [Table.insert_rows (Table.nextId_notMem otps), List.filter_append]
  congr 1
  split_ifs with h
  · exact List.filter_cons_of_pos (hmatch.2 h)
  · exact List.filter_cons_of_neg (mt hmatch.1 h)

/-- `otp.consumed = True`. -/
def consume (otps : Table OtpRow) (otp : OtpRow) : Table OtpRow :=
  otps.modify otp.id fun o => { o with consumed := true }

theorem consume_split {otps : Table OtpRow} {otp : OtpRow} (hmem : otp ∈ otps.rows) :
    ∃ l₁ l₂, otps.rows = l₁ ++ otp :: l₂ ∧
      (consume otps otp).rows = l₁ ++ { otp with consumed := true } :: l₂ :=
  Table.modify_split _ (Table.find?_of_mem hmem)

theorem unconsumed_consume {otps : Table OtpRow} {otp : OtpRow} (hmem : otp ∈ otps.rows)
    (hopen : otp.consumed = false) :
    ∃ before after, unconsumed otps = before ++ otp.generation :: after ∧
      unconsumed (consume otps otp) = before ++ after := by
  obtain ⟨l₁, l₂, hrows, hrows'⟩ := consume_split hmem
  refine ⟨(l₁.filter fun o => !o.consumed).map OtpRow.generation,
    (l₂.filter fun o => !o.consumed).map OtpRow.generation, ?_, ?_⟩
  · unfold unconsumed
    rw [hrows]
    simp [hopen]
  · unfold unconsumed
    rw [hrows']
    simp

/-- Only the rows of its own key see that a code is consumed. -/
theorem live_consume_of_ne {otps : Table OtpRow} {otp : OtpRow} {key : OtpKey} (hmem : otp ∈ otps.rows)
    (hkey : otp.key ≠ key) (t : Datetime) : live (consume otps otp) t key = live otps t key := by
  obtain ⟨l₁, l₂, hrows, hrows'⟩ := consume_split hmem
  have hbefore : ¬ otpMatches t key otp = true := fun h => hkey (otpMatches_iff.1 h).1
  have hafter : ¬ otpMatches t key { otp with consumed := true } = true :=
    fun h => hkey (otpMatches_iff.1 h).1
  unfold live
  rw [hrows', hrows, List.filter_append, List.filter_append, List.filter_cons_of_neg hbefore,
    List.filter_cons_of_neg hafter]

/-- The only row that a text finds is not found again. -/
theorem live_consume_self {otps : Table OtpRow} {otp : OtpRow} {now t : Datetime} {key : OtpKey}
    (hlive : live otps now key = [otp]) (hle : now ≤ t) : live (consume otps otp) t key = [] := by
  rw [List.eq_nil_iff_forall_not_mem]
  intro o ho
  obtain ⟨hrow, hkey, hopen, hlater⟩ := mem_live.1 ho
  obtain ⟨hrow, hid⟩ | ⟨o', -, -, rfl⟩ := Table.mem_modify_cases _ hrow
  · have hfound := live_earlier hle (mem_live.2 ⟨hrow, hkey, hopen, hlater⟩)
    rw [hlive, List.mem_singleton] at hfound
    exact hid (congrArg OtpRow.id hfound)
  · cases hopen

/-- What a call of `generate_otp` does. -/
theorem step_generate (otps : Table OtpRow) (now : Datetime) (shopOwnerId : ℕ) (purpose : String)
    (draw : Fin 1000000) (ownerExists : Bool) :
    let c := (now, OtpCall.generate shopOwnerId purpose draw ownerExists)
    let key : OtpKey := ⟨shopOwnerId, purpose, codeText draw⟩
    (Issues key c ∧ step otps c = (otps.insert (newOtp otps now key), .code key.code)) ∨
      ((∀ key, ¬ Issues key c) ∧ ∃ e, step otps c = (otps, .raised e)) := by
  dsimp only
  unfold step
  dsimp only
  obtain ⟨hissues, hgenerate⟩ | ⟨hissues, e, hgenerate⟩ :=
    generateOtp_cases otps now shopOwnerId purpose draw ownerExists
  · rw [hgenerate]
    exact .inl ⟨hissues, rfl⟩
  · rw [hgenerate]
    exact .inr ⟨hissues, e, rfl⟩

/-- What a call of `verify_otp` does. -/
theorem step_verify (otps : Table OtpRow) (now : Datetime) (key : OtpKey) :
    (Sendable key ∧ live otps now key = [] ∧
        step otps (now, .verify key) = (otps, .verdict false)) ∨
      (Sendable key ∧ ∃ otp, live otps now key = [otp] ∧
        step otps (now, .verify key) = (consume otps otp, .verdict true)) ∨
      (¬ (Sendable key ∧ (live otps now key).length ≤ 1) ∧
        ∃ e, step otps (now, .verify key) = (otps, .raised e)) := by
  unfold step
  dsimp only
  by_cases hkey : Sendable key
  · obtain ⟨hlive, hverify⟩ | ⟨otp, hlive, hverify⟩ | ⟨hlive, hverify⟩ := verifyOtp_cases otps now hkey
    · rw [hverify]
      exact .inl ⟨hkey, hlive, rfl⟩
    · rw [hverify]
      exact .inr (.inl ⟨hkey, otp, hlive, rfl⟩)
    · rw [hverify]
      exact .inr (.inr ⟨fun h => not_lt.2 h.2 hlive, _, rfl⟩)
  · have hverify : verifyOtp otps now key = .error .DataError := if_pos hkey
    rw [hverify]
    exact .inr (.inr ⟨fun h => hkey h.1, _, rfl⟩)

/-- A code that has been generated is to be found under its key. -/
theorem Tracks.issue {otps : Table OtpRow} {calls : List (Datetime × OtpCall)} {c : Datetime × OtpCall}
    {key : OtpKey} (h : Tracks otps calls c.1) (hissues : ∀ key', Issues key' c ↔ key' = key) :
    Tracks (otps.insert (newOtp otps c.1 key)) (calls ++ [c]) c.1 := by
  have hcall : ∀ key', c.2 ≠ .verify key' := by
    intro key' hc
    have := (hissues key).2 rfl
    unfold Issues at this
    rw [hc] at this
    exact this
  intro key' t ht
  rw [validUntil_snoc, if_neg (hcall key'), live_insert, List.map_append, h key' t ht]
  by_cases hkey : key' = key
  · subst hkey
    rw [if_pos ((hissues key').2 rfl), List.filter_append]
    congr 1
    by_cases hlater : t < c.1 + minutes otpTtlMinutes
    · rw [if_pos ⟨rfl, hlater⟩, List.filter_cons_of_pos (by simpa using hlater)]
      rfl
    · rw [if_neg fun h => hlater h.2, List.filter_cons_of_neg (by simpa using hlater)]
      rfl
  · rw [if_neg (mt (hissues key').1 hkey), if_neg fun h => hkey h.1.symm]
    exact List.append_nil _

/-- After a verification its key has no codes left. -/
theorem Tracks.verified {otps otps' : Table OtpRow} {calls : List (Datetime × OtpCall)} {now : Datetime}
    {key : OtpKey} (h : Tracks otps calls now) (hself : ∀ t, now ≤ t → live otps' t key = [])
    (hother : ∀ key' t, key ≠ key' → live otps' t key' = live otps t key') :
    Tracks otps' (calls ++ [(now, .verify key)]) now := by
  intro key' t ht
  rw [validUntil_snoc]
  by_cases hkey : key = key'
  · subst hkey
    rw [if_pos rfl, hself t ht]
    rfl
  · have hcall : OtpCall.verify key ≠ .verify key' := fun h => hkey (OtpCall.verify.inj h)
    rw [if_neg hcall, if_neg (by exact id), hother key' t hkey]
    exact h key' t ht

/-- What one call adds to the account, and to the calls. -/
theorem step_accounted {otps : Table OtpRow} {calls : List (Datetime × OtpCall)} {c : Datetime × OtpCall}
    {log : List ((Datetime × OtpCall) × OtpAnswer)} (htracks : Tracks otps calls c.1)
    (h : Accounted log (unconsumed otps))
    (hc : ∀ now key e, (c, (step otps c).2) ≠ ((now, .verify key), .raised e)) :
    Tracks (step otps c).1 (calls ++ [c]) c.1 ∧
      Accounted (log ++ [(c, (step otps c).2)]) (unconsumed (step otps c).1) := by
  obtain ⟨now, ⟨shopOwnerId, purpose, draw, ownerExists⟩ | key⟩ := c
  · obtain ⟨hissues, hstep⟩ | ⟨hissues, e, hstep⟩ :=
      step_generate otps now shopOwnerId purpose draw ownerExists
    · rw [hstep, unconsumed_insert]
      exact ⟨htracks.issue fun key' => ⟨fun h' => h'.2.2.2.2.2, fun h' => h' ▸ hissues⟩, .issued h⟩
    · rw [hstep]
      refine ⟨fun key t ht => ?_, .refused h⟩
      rw [validUntil_snoc, if_neg nofun, if_neg (hissues key)]
      exact htracks key t ht
  · obtain ⟨-, hlive, hstep⟩ | ⟨-, otp, hlive, hstep⟩ | ⟨-, e, hstep⟩ := step_verify otps now key
    · rw [hstep]
      refine ⟨htracks.verified (fun t ht => ?_) fun _ _ _ => rfl, .denied h fun g hg hfits => ?_⟩
      · rw [List.eq_nil_iff_forall_not_mem] at hlive ⊢
        exact fun o ho => hlive o (live_earlier ht ho)
      · obtain ⟨o, ho, rfl⟩ := List.mem_map.1 hg
        obtain ⟨hrow, hopen⟩ := List.mem_filter.1 ho
        obtain ⟨hkey, hlater⟩ := fits_generation.1 hfits
        have hfound : o ∈ live otps now key := mem_live.2 ⟨hrow, hkey, by simpa using hopen, hlater⟩
        rw [hlive] at hfound
        cases hfound
    · obtain ⟨hrow, hkey, hopen, hlater⟩ := mem_live.1 (hlive ▸ List.mem_singleton_self otp)
      obtain ⟨before, after, hbefore, hafter⟩ := unconsumed_consume hrow hopen
      rw [hbefore] at h
      rw [hstep, hafter]
      refine ⟨htracks.verified (fun t ht => live_consume_self hlive ht) fun key' t hne => ?_,
        .granted h (fits_generation.2 ⟨hkey, hlater⟩)⟩
      exact live_consume_of_ne hrow (hkey ▸ hne) t
    · exact absurd (by rw [hstep]) (hc now key e)

/-! ## Whole sequences -/

theorem inOrder_snoc {calls : List (Datetime × OtpCall)} {c : Datetime × OtpCall}
    (h : InOrder (calls ++ [c])) : InOrder calls ∧ ∀ c' ∈ calls, c'.1 ≤ c.1 := by
  obtain ⟨hcalls, -, hlast⟩ := List.pairwise_append.1 h
  exact ⟨hcalls, fun c' hc' => hlast c' hc' c List.mem_cons_self⟩

/-- The state and the answers of a sequence of calls, from the empty table on. -/
def tableAfter (calls : List (Datetime × OtpCall)) : Table OtpRow := Transcript.state step .empty calls

def answers (calls : List (Datetime × OtpCall)) : List ((Datetime × OtpCall) × OtpAnswer) :=
  Transcript.log step .empty calls

theorem tableAfter_snoc (calls : List (Datetime × OtpCall)) (c : Datetime × OtpCall) :
    tableAfter (calls ++ [c]) = (step (tableAfter calls) c).1 := Transcript.state_snoc calls c

theorem answers_snoc (calls : List (Datetime × OtpCall)) (c : Datetime × OtpCall) :
    answers (calls ++ [c]) = answers calls ++ [(c, (step (tableAfter calls) c).2)] :=
  Transcript.log_snoc calls c

/-- As long as `verify_otp` returns, everything is accounted for. -/
theorem accounted_of_total {calls : List (Datetime × OtpCall)} (horder : InOrder calls)
    (htotal : Total (answers calls)) {now : Datetime} (hnow : ∀ c ∈ calls, c.1 ≤ now) :
    Tracks (tableAfter calls) calls now ∧ Accounted (answers calls) (unconsumed (tableAfter calls)) := by
  induction calls using List.reverseRecOn generalizing now with
  | nil => exact ⟨fun _ _ _ => rfl, .start⟩
  | append_singleton calls c ih =>
    obtain ⟨hcalls, hlast⟩ := inOrder_snoc horder
    rw [answers_snoc] at htotal ⊢
    rw [tableAfter_snoc]
    obtain ⟨htotal, hc⟩ := total_snoc.1 htotal
    obtain ⟨htracks, haccounted⟩ := ih hcalls htotal hlast
    obtain ⟨htracks, haccounted⟩ := step_accounted htracks haccounted hc
    exact ⟨htracks.later (hnow c (List.mem_append_right _ List.mem_cons_self)), haccounted⟩

/-- A call of `verify_otp` returns if and only if its text is unambiguous. -/
theorem returns_iff {otps : Table OtpRow} {calls : List (Datetime × OtpCall)} {now : Datetime}
    {key : OtpKey} (h : Tracks otps calls now) :
    (∀ e, (step otps (now, .verify key)).2 ≠ .raised e) ↔ Unambiguous calls now key := by
  unfold Unambiguous
  rw [← h key now le_rfl, List.length_map]
  obtain ⟨hkey, hlive, hstep⟩ | ⟨hkey, otp, hlive, hstep⟩ | ⟨hambiguous, e, hstep⟩ :=
    step_verify otps now key
  · rw [hstep, hlive]
    exact iff_of_true nofun ⟨hkey, Nat.zero_le _⟩
  · rw [hstep, hlive]
    exact iff_of_true nofun ⟨hkey, le_rfl⟩
  · rw [hstep]
    exact iff_of_false (fun h => h e rfl) hambiguous

theorem total_iff {calls : List (Datetime × OtpCall)} (horder : InOrder calls) :
    Total (answers calls) ↔
      ∀ before now key after, calls = before ++ (now, .verify key) :: after →
        Unambiguous before now key := by
  induction calls using List.reverseRecOn with
  | nil =>
    refine iff_of_true (fun _ _ _ => List.not_mem_nil) fun before now key after hsplit => ?_
    cases before <;> cases hsplit
  | append_singleton calls c ih =>
    obtain ⟨hcalls, hlast⟩ := inOrder_snoc horder
    have htracks := fun htotal => (accounted_of_total hcalls htotal hlast).1
    rw [answers_snoc, total_snoc]
    constructor
    · rintro ⟨htotal, hc⟩ before now key after hsplit
      obtain rfl | ⟨after, x, rfl⟩ := List.eq_nil_or_concat' after
      · obtain ⟨rfl, hlast⟩ := List.append_inj' hsplit rfl
        obtain rfl := List.singleton_inj.1 hlast
        exact (returns_iff (htracks htotal)).1 fun e he => hc now key e (by rw [he])
      · rw [← List.cons_append, ← List.append_assoc] at hsplit
        exact (ih hcalls).1 htotal before now key after (List.append_inj' hsplit rfl).1
    · intro h
      have htotal : Total (answers calls) := by
        refine (ih hcalls).2 fun before now key after hsplit => ?_
        exact h before now key (after ++ [c]) (by rw [hsplit, List.append_assoc, List.cons_append])
      refine ⟨htotal, fun now key e hraised => ?_⟩
      obtain ⟨rfl, hanswer⟩ := Prod.mk.inj hraised
      exact (returns_iff (htracks htotal)).2 (h calls now key [] rfl) e hanswer

/-- The calls add up, whatever is drawn and asked, if and only if `verify_otp` is never called with a text
that more than one of its codes has that were generated since it was last asked and are still valid (or
that the database does not know). -/
theorem accounted_iff {calls : List (Datetime × OtpCall)} (horder : InOrder calls) :
    (∃ unmatched, Accounted (answers calls) unmatched) ↔
      ∀ before now key after, calls = before ++ (now, .verify key) :: after →
        Unambiguous before now key := by
  rw [← total_iff horder]
  constructor
  · rintro ⟨unmatched, h⟩
    exact h.total
  · intro htotal
    obtain ⟨now, hnow⟩ := (calls.map Prod.fst).toFinset.exists_le
    have hbound : ∀ c ∈ calls, c.1 ≤ now :=
      fun c hc => hnow c.1 (List.mem_toFinset.2 (List.mem_map_of_mem hc))
    exact ⟨_, (accounted_of_total horder htotal hbound).2⟩

/-- A code is asked for, used, and tried again. -/
def usedOnce : List (Datetime × OtpCall) :=
  [(0, .generate 1 "registration_phone" 4711 true), (1000000, .verify ⟨1, "registration_phone", "004711"⟩),
    (2000000, .verify ⟨1, "registration_phone", "004711"⟩)]

theorem usedOnce_accounted : ∃ unmatched, Accounted (answers usedOnce) unmatched := by
  have horder : InOrder usedOnce := by
    unfold InOrder
    decide
  have hanswers : answers usedOnce =
      usedOnce.zip [.code "004711", .verdict true, .verdict false] := by decide +kernel
  refine (accounted_iff horder).2 ((total_iff horder).1 fun now key e => ?_)
  rw [hanswers]
  simp [usedOnce]

/-- The same six digits twice within five minutes. -/
def drawnTwice : List (Datetime × OtpCall) :=
  [(0, .generate 1 "registration_phone" 4711 true), (60000000, .generate 1 "registration_phone" 4711 true),
    (120000000, .verify ⟨1, "registration_phone", "004711"⟩)]

theorem drawnTwice_not_accounted :
    (answers drawnTwice).map Prod.snd =
        [.code "004711", .code "004711", .raised .MultipleResultsFound] ∧
      ¬ ∃ unmatched, Accounted (answers drawnTwice) unmatched := by
  have hanswers : answers drawnTwice =
      drawnTwice.zip [.code "004711", .code "004711", .raised .MultipleResultsFound] := by decide +kernel
  refine ⟨by rw [hanswers]; rfl, ?_⟩
  rintro ⟨unmatched, h⟩
  refine h.total 120000000 ⟨1, "registration_phone", "004711"⟩ .MultipleResultsFound ?_
  rw [hanswers]
  simp [drawnTwice]

/-! ## The codes of the registration -/

/-- The purposes that the registration uses. -/
def purposeText : OtpPurpose → String
  | .registrationPhone => "registration_phone"
  | .registrationEmail => "registration_email"

def ofOtpCode (o : OtpCode) : OtpRow :=
  { id := o.id, shopOwnerId := o.shopOwnerId, code := o.code, purpose := purposeText o.purpose,
    expiresAt := o.expiresAt, consumed := o.consumed }

def ofTable (otps : Table OtpCode) : Table OtpRow where
  rows := otps.rows.map ofOtpCode
  nodup := by
    rw [List.map_map]
    exact otps.nodup

theorem ids_ofTable (otps : Table OtpCode) : (ofTable otps).ids = otps.ids := by
  unfold Table.ids ofTable
  rw [List.map_map]
  rfl

theorem nextId_ofTable (otps : Table OtpCode) : (ofTable otps).nextId = otps.nextId := by
  unfold Table.nextId
  rw [ids_ofTable]

theorem purposeText_beq (p q : OtpPurpose) : (purposeText p == purposeText q) = (p == q) := by
  cases p <;> cases q <;> decide

theorem insert_ofTable (otps : Table OtpCode) (o : OtpCode) :
    (ofTable otps).insert (ofOtpCode o) = ofTable (otps.insert o) := by
  have hid : Keyed.id (ofOtpCode o) ∈ (ofTable otps).ids ↔ Keyed.id o ∈ otps.ids := by
    rw [ids_ofTable]
    rfl
  unfold Table.insert
  by_cases h : Keyed.id o ∈ otps.ids
  · rw [dif_pos h, dif_pos (hid.2 h)]
  · rw [dif_neg h, dif_neg (mt hid.1 h)]
    simp [ofTable]

theorem consume_ofTable (otps : Table OtpCode) (otp : OtpCode) :
    consume (ofTable otps) (ofOtpCode otp) =
      ofTable (otps.modify otp.id fun o => { o with consumed := true }) := by
  unfold consume Table.modify ofTable
  simp only [Table.mk.injEq, List.map_map]
  refine List.map_congr_left fun o _ => ?_
  show (if o.id = otp.id then _ else _) = ofOtpCode (if o.id = otp.id then _ else _)
  split_ifs <;> rfl

variable (env : MainEnv) (db : MainDb) (ownerId : ℕ) (purpose : OtpPurpose)

/-- The dialog asks the service for its codes, -/
theorem generateOtp_main {draw : Fin 1000000} (hdraw : env.otpCode = codeText draw)
    (howner : Int4 ownerId) :
    generateOtp (ofTable db.otps) env.now ownerId (purposeText purpose) draw true =
      (db.generateOtp env ownerId purpose).map fun db => (ofTable db.otps, env.otpCode) := by
  have hpurpose : ¬ (¬ Int4 ownerId ∨ hasNoZero (purposeText purpose) = false ∨
      32 < (purposeText purpose).length) := by
    rw [not_or, not_not]
    refine ⟨howner, ?_⟩
    cases purpose <;> decide
  unfold generateOtp MainDb.generateOtp datetimeAdd otpTtlMinutes
  dsimp only
  by_cases hrange : InDatetimeRange (env.now + minutes 5)
  · rw [if_pos hrange]
    refine (if_neg hpurpose).trans ?_
    show Except.ok ((ofTable db.otps).insert _, codeText draw) =
      Except.ok (ofTable (db.otps.insert _), env.otpCode)
    rw [← insert_ofTable, ← hdraw]
    unfold ofOtpCode
    rw [nextId_ofTable]
  · rw [if_neg hrange]
    rfl

/-- and verifies them with it. -/
theorem verifyOtp_main {code : String} (hkey : Sendable ⟨ownerId, purposeText purpose, code⟩) :
    verifyOtp (ofTable db.otps) env.now ⟨ownerId, purposeText purpose, code⟩ =
      (db.verifyOtp env ownerId purpose code).map fun result => (ofTable result.1.otps, result.2) := by
  have hlive : live (ofTable db.otps) env.now ⟨ownerId, purposeText purpose, code⟩ =
      (db.otps.rows.filter (MainDb.otpMatches env ownerId purpose code)).map ofOtpCode := by
    unfold live ofTable
    rw [List.filter_map]
    congr 1
    refine List.filter_congr fun o _ => ?_
    unfold MainDb.otpMatches
    rw [← purposeText_beq]
    rfl
  unfold MainDb.verifyOtp
  obtain ⟨hnone, hverify⟩ | ⟨otp, hone, hverify⟩ | ⟨hmany, hverify⟩ :=
    verifyOtp_cases (ofTable db.otps) env.now hkey
  · rw [hlive, List.map_eq_nil_iff] at hnone
    rw [hverify, hnone]
    rfl
  · rw [hlive] at hone
    obtain ⟨row, hrow, rfl⟩ := List.map_eq_singleton_iff.1 hone
    rw [hverify, hrow]
    exact congrArg (fun otps => Except.ok (otps, true)) (consume_ofTable db.otps row)
  · rw [hlive, List.length_map] at hmany
    rw [hverify]
    match db.otps.rows.filter (MainDb.otpMatches env ownerId purpose code), hmany with
    | _ :: _ :: _, _ => rfl

end OtpService

end KasbOKar
