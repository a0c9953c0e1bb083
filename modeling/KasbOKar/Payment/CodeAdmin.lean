import KasbOKar.Models
import KasbOKar.Lib.Runs

/-!
# The list of discount codes

The admin's handlers for discount codes in `app/bots/main_bot/handlers/admin.py`, each in a database
session of its own, with `admin_discounts_list_keyboard`.

The column `discount_codes.type` is a string.  A code that a session has created keeps the member of the
enumeration that was assigned to it; a code that it has loaded holds a plain `str`, which has no
`value`.  The keyboard asks every code for it, so a list with a loaded code raises after the change was
flushed, and the change is rolled back (`second_code_lost`).  `discounts_iff` says when all goes well.
-/

namespace KasbOKar

namespace DiscountType

/-- `value`. -/
def value : DiscountType → String
  | PERCENT => "percent"
  | FIXED => "fixed"

end DiscountType

/-- The attribute `type` of a code in a session. -/
inductive TypeAttribute where
  | member (t : DiscountType)
  | text (s : String)
  deriving DecidableEq

/-- `c.type.value`. -/
def TypeAttribute.value : TypeAttribute → Except PyError String
  | member t => .ok t.value
  | text _ => .error .AttributeError

/-- A `DiscountCode` object of a session. -/
structure CodeObject where
  id : ℕ
  code : String
  type : TypeAttribute
  value : ℚ
  isActive : Bool
  deriving DecidableEq

/-- A code as it is loaded. -/
def CodeObject.ofRow (c : DiscountCode) : CodeObject :=
  { id := c.id, code := c.code, type := .text c.type.value, value := c.valueCents / 100,
    isActive := c.isActive }

/-- A session: the rows as its transaction sees them, and the objects it has in memory. -/
structure CodeSession where
  codes : Table DiscountCode
  objects : List CodeObject := []

/-- The label of a value: `float(c.value):g` with a percent sign, or `int(c.value)`. -/
inductive ValueLabel where
  | percent (value : ℚ)
  | toman (n : ℤ)
  deriving DecidableEq

/-- A row of the keyboard. -/
inductive CodesButton where
  | toggle (isActive : Bool) (code : String) (label : ValueLabel) (id : ℕ)
  | add
  | back
  deriving DecidableEq

/-- What the admin sees at the end. -/
inductive CodesScreen where
  | list (rows : List CodesButton)
  | saved (code : String) (rows : List CodesButton)
  | invalidNumber
  deriving DecidableEq

/-- The row of a code. -/
def codeButton (c : CodeObject) : Except PyError CodesButton := do
  let type ← c.type.value
  return .toggle c.isActive c.code
    (if type = "percent" then .percent c.value else .toman (truncate c.value)) c.id

/-- `admin_discounts_list_keyboard`. -/
def adminDiscountsListKeyboard (codes : List CodeObject) : Except PyError (List CodesButton) := do
  let rows ← codes.mapM codeButton
  return rows ++ [.add, .back]

/-- A value as `Numeric(10, 2)` stores it, in hundredths: halves are rounded away from zero. -/
def numericCents (value : ℚ) : ℤ :=
  if 0 ≤ value then ⌊value * 100 + 1 / 2⌋ else -⌊-value * 100 + 1 / 2⌋

namespace CodeSession

/-- A new session on the committed rows. -/
def begin (codes : Table DiscountCode) : CodeSession := { codes := codes }

/-- The object of a row: the one in memory, if there is one. -/
def object (s : CodeSession) (c : DiscountCode) : CodeObject :=
  (s.objects.find? fun o => o.id == c.id).getD (.ofRow c)

/-- `get_all_codes`. -/
def getAllCodes (s : CodeSession) : List CodeObject :=
  (orderBy (fun c => -(c.id : ℤ)) s.codes.rows).map s.object

/-- `toggle_code_active`. -/
def toggleCodeActive (s : CodeSession) (codeId : ℕ) : CodeSession :=
  match s.codes.find? codeId with
  | none => s
  | some c =>
    let object := { s.object c with isActive := !(s.object c).isActive }
    { codes := s.codes.modify codeId fun c => { c with isActive := object.isActive }
      objects := object :: s.objects }

/-- `create_code`, from `code.strip().upper()` on; the flush checks the columns and the unique index. -/
def createCode (s : CodeSession) (code : String) (type : DiscountType) (value : ℚ) (maxUses : Option ℤ)
    (expiresAt : Option Datetime) : Except PyError (CodeSession × CodeObject) :=
  if 32 < code.length ∨ 10 ^ 10 ≤ |numericCents value| ∨ ¬ (maxUses.all fun n => decide (Int4 n)) then
    .error .DataError
  else if s.codes.rows.any fun c => c.code == code then .error .IntegrityError
  else
    let id := s.codes.nextId
    let object : CodeObject :=
      { id := id, code := code, type := .member type, value := value, isActive := true }
    .ok ({ codes := s.codes.insert
             { id := id, code := code, type := type, valueCents := numericCents value, maxUses := maxUses,
               expiresAt := expiresAt }
           objects := object :: s.objects }, object)

end CodeSession

/-- The text typed as the number of uses. -/
inductive MaxUsesText where
  | unlimited
  | number (n : ℤ)
  | other
  deriving DecidableEq

/-- The data that the dialogue has collected. -/
structure CodeData where
  discountCode : String
  discountType : String
  discountValue : ℚ
  deriving DecidableEq

/-- The updates of an admin. -/
inductive CodeUpdate where
  | pricingDiscounts
  | toggle (codeId : ℕ)
  | maxUsesEntered (data : CodeData) (text : MaxUsesText)
  deriving DecidableEq

namespace CodeSession

/-- `_render_discounts_list`. -/
def renderDiscountsList (s : CodeSession) : Except PyError (CodeSession × CodesScreen) := do
  let rows ← adminDiscountsListKeyboard s.getAllCodes
  return (s, .list rows)

/-- `cb_pricing_discounts`. -/
def cbPricingDiscounts (s : CodeSession) : Except PyError (CodeSession × CodesScreen) :=
  s.renderDiscountsList

/-- `cb_discount_toggle`. -/
def cbDiscountToggle (s : CodeSession) (codeId : ℕ) : Except PyError (CodeSession × CodesScreen) :=
  (s.toggleCodeActive codeId).renderDiscountsList

/-- `discount_max_uses_entered`, once the text is read. -/
def saveCode (s : CodeSession) (data : CodeData) (maxUses : Option ℤ) :
    Except PyError (CodeSession × CodesScreen) := do
  let discountType : DiscountType := if data.discountType = "percent" then .PERCENT else .FIXED
  let (s, code) ← s.createCode data.discountCode discountType data.discountValue maxUses none
  let rows ← adminDiscountsListKeyboard s.getAllCodes
  return (s, .saved code.code rows)

/-- `discount_max_uses_entered`. -/
def discountMaxUsesEntered (s : CodeSession) (data : CodeData) :
    MaxUsesText → Except PyError (CodeSession × CodesScreen)
  | .unlimited => s.saveCode data none
  | .number n => if n ≤ 0 then .ok (s, .invalidNumber) else s.saveCode data (some n)
  | .other => .ok (s, .invalidNumber)

/-- The handler of an update. -/
def handle (s : CodeSession) : CodeUpdate → Except PyError (CodeSession × CodesScreen)
  | .pricingDiscounts => s.cbPricingDiscounts
  | .toggle codeId => s.cbDiscountToggle codeId
  | .maxUsesEntered data text => s.discountMaxUsesEntered data text

/-! ## When the list can be shown -/

/-- A computation in two parts returns if both of them do. -/
theorem bind_isOk {α β ε : Type} {x : Except ε α} {f : α → Except ε β} :
    (∃ b, (x >>= f) = .ok b) ↔ ∃ a, x = .ok a ∧ ∃ b, f a = .ok b := by
  cases x with
  | error e => exact iff_of_false (fun ⟨_, h⟩ => by cases h) fun ⟨_, h, _⟩ => by cases h
  | ok a => exact ⟨fun h => ⟨a, rfl, h⟩, fun ⟨_, ha, h⟩ => by cases ha; exact h⟩

/-- So does one whose second part always returns. -/
theorem bind_pure_isOk {α β ε : Type} {x : Except ε α} {f : α → β} :
    (∃ b, (x >>= fun a => .ok (f a)) = .ok b) ↔ ∃ a, x = .ok a := by
  rw [bind_isOk]
  exact exists_congr fun a => and_iff_left ⟨f a, rfl⟩

theorem codeButton_isOk {c : CodeObject} :
    (∃ b, codeButton c = .ok b) ↔ ∃ t, c.type = .member t := by
  refine bind_pure_isOk.trans ?_
  cases c.type with
  | member t => exact iff_of_true ⟨_, rfl⟩ ⟨t, rfl⟩
  | text s => exact iff_of_false (fun ⟨_, h⟩ => by cases h) fun ⟨_, h⟩ => by cases h

theorem mapM_isOk {α β ε : Type} {f : α → Except ε β} (l : List α) :
    (∃ bs, l.mapM f = .ok bs) ↔ ∀ a ∈ l, ∃ b, f a = .ok b := by
  induction l with
  | nil => exact iff_of_true ⟨[], rfl⟩ fun _ h => absurd h List.not_mem_nil
  | cons a l ih =>
    rw [List.forall_mem_cons, ← ih, List.mapM_cons, bind_isOk]
    constructor
    · rintro ⟨b, hb, h⟩
      exact ⟨⟨b, hb⟩, bind_pure_isOk.1 h⟩
    · rintro ⟨⟨b, hb⟩, h⟩
      exact ⟨b, hb, bind_pure_isOk.2 h⟩

/-- The keyboard takes every code to be one that the session has created. -/
theorem keyboard_isOk (s : CodeSession) :
    (∃ rows, adminDiscountsListKeyboard s.getAllCodes = .ok rows) ↔
      ∀ c ∈ s.codes.rows, ∃ t, (s.object c).type = .member t := by
  refine bind_pure_isOk.trans ?_
  rw [mapM_isOk]
  unfold getAllCodes
  rw [List.forall_mem_map]
  refine forall_congr' fun c => ?_
  rw [(orderBy_perm _ _).mem_iff, codeButton_isOk]

/-- A session that has created no code. -/
def Loaded (s : CodeSession) : Prop := ∀ o ∈ s.objects, ∃ text, o.type = .text text

theorem Loaded.object {s : CodeSession} (h : Loaded s) (c : DiscountCode) :
    ∃ text, (s.object c).type = .text text := by
  unfold CodeSession.object
  cases hfind : s.objects.find? fun o => o.id == c.id with
  | none => exact ⟨_, rfl⟩
  | some o => exact h o (List.mem_of_find?_eq_some hfind)

theorem loaded_begin (codes : Table DiscountCode) : Loaded (begin codes) :=
  fun _ ho => absurd ho List.not_mem_nil

theorem Loaded.toggleCodeActive {s : CodeSession} (h : Loaded s) (codeId : ℕ) :
    Loaded (s.toggleCodeActive codeId) := by
  unfold CodeSession.toggleCodeActive
  split
  · exact h
  · rename_i c _
    intro o ho
    rcases List.mem_cons.1 ho with rfl | ho
    · exact h.object c
    · exact h o ho

/-- It can show an empty list only. -/
theorem Loaded.render {s : CodeSession} (h : Loaded s) :
    (∃ x, s.renderDiscountsList = .ok x) ↔ s.codes.rows = [] := by
  refine bind_pure_isOk.trans ?_
  rw [keyboard_isOk, List.eq_nil_iff_forall_not_mem]
  refine forall_congr' fun c => forall_congr' fun _ => iff_of_false ?_ id
  rintro ⟨t, ht⟩
  obtain ⟨text, htext⟩ := h.object c
  rw [ht] at htext
  cases htext

/-- The switched code, in a table that is not empty because of it. -/
theorem toggleCodeActive_codes (codes : Table DiscountCode) (codeId : ℕ) :
    ((begin codes).toggleCodeActive codeId).codes.find? codeId =
        (codes.find? codeId).map (fun c => { c with isActive := !c.isActive }) ∧
      (((begin codes).toggleCodeActive codeId).codes.rows = [] ↔ codes.rows = []) := by
  unfold toggleCodeActive
  cases hfind : codes.find? codeId with
  | none =>
    rw [show (begin codes).codes.find? codeId = none from hfind]
    exact ⟨hfind, Iff.rfl⟩
  | some c =>
    rw [show (begin codes).codes.find? codeId = some c from hfind]
    refine ⟨Table.find?_modify_self (f := fun r : DiscountCode => { r with isActive := !c.isActive })
      (fun _ => rfl) hfind, ?_⟩
    exact List.map_eq_nil_iff

/-- The row and the object that `create_code` makes of valid input in a new session. -/
def newRow (codes : Table DiscountCode) (code : String) (type : DiscountType) (value : ℚ)
    (maxUses : Option ℤ) : DiscountCode :=
  { id := codes.nextId, code := code, type := type, valueCents := numericCents value, maxUses := maxUses }

def newObject (codes : Table DiscountCode) (code : String) (type : DiscountType) (value : ℚ) : CodeObject :=
  { id := codes.nextId, code := code, type := .member type, value := value, isActive := true }

/-- The session after it. -/
def afterCreate (codes : Table DiscountCode) (code : String) (type : DiscountType) (value : ℚ)
    (maxUses : Option ℤ) : CodeSession :=
  { codes := codes.insert (newRow codes code type value maxUses)
    objects := [newObject codes code type value] }

theorem createCode_begin {codes : Table DiscountCode} {code : String} {type : DiscountType} {value : ℚ}
    {maxUses : Option ℤ} (hlength : code.length ≤ 32) (hvalue : |numericCents value| < 10 ^ 10)
    (huses : maxUses.all (fun n => decide (Int4 n)) = true) (hunused : ∀ c ∈ codes.rows, c.code ≠ code) :
    (begin codes).createCode code type value maxUses none =
      .ok (afterCreate codes code type value maxUses, newObject codes code type value) := by
  unfold createCode
  rw [if_neg, if_neg]
  · rfl
  · simpa [begin] using hunused
  · rintro (h | h | h)
    · exact absurd h (not_lt.2 hlength)
    · exact absurd h (not_le.2 hvalue)
    · exact h huses

theorem mem_afterCreate {codes : Table DiscountCode} {code : String} {type : DiscountType} {value : ℚ}
    {maxUses : Option ℤ} {c : DiscountCode} :
    c ∈ (afterCreate codes code type value maxUses).codes.rows ↔
      c ∈ codes.rows ∨ c = newRow codes code type value maxUses :=
  Table.mem_insert (Table.nextId_notMem codes)

/-- The new code is the only one whose type is a member. -/
theorem object_afterCreate {codes : Table DiscountCode} {code : String} {type : DiscountType} {value : ℚ}
    {maxUses : Option ℤ} {c : DiscountCode} (hc : c ∈ codes.rows) :
    (afterCreate codes code type value maxUses).object c = .ofRow c := by
  have hne : codes.nextId ≠ c.id := by
    intro h
    exact Table.nextId_notMem codes (h ▸ Table.id_mem_ids hc)
  unfold CodeSession.object afterCreate newObject
  rw [List.find?_cons_of_neg (by simpa using hne)]
  rfl

/-- A code is saved, and the list shown, if it is the first one. -/
theorem saveCode_isOk {codes : Table DiscountCode} {data : CodeData} {maxUses : Option ℤ}
    (hlength : data.discountCode.length ≤ 32) (hvalue : |numericCents data.discountValue| < 10 ^ 10)
    (huses : maxUses.all (fun n => decide (Int4 n)) = true)
    (hunused : ∀ c ∈ codes.rows, c.code ≠ data.discountCode) :
    (∃ x, (begin codes).saveCode data maxUses = .ok x ∧
      ∃ c ∈ x.1.codes.rows, c.code = data.discountCode ∧ c.isActive = true) ↔ codes.rows = [] := by
  unfold saveCode
  set type : DiscountType := if data.discountType = "percent" then .PERCENT else .FIXED
  dsimp only
  rw [createCode_begin hlength hvalue huses hunused]
  set s := afterCreate codes data.discountCode type data.discountValue maxUses
  have hkeyboard := keyboard_isOk s
  constructor
  · rintro ⟨x, hx, -⟩
    obtain ⟨y, hy, hx⟩ := bind_ok hx
    cases hy
    obtain ⟨rows, hrows, -⟩ := bind_ok hx
    rw [List.eq_nil_iff_forall_not_mem]
    intro c hc
    obtain ⟨t, ht⟩ := hkeyboard.1 ⟨rows, hrows⟩ c (mem_afterCreate.2 (Or.inl hc))
    rw [object_afterCreate hc] at ht
    cases ht
  · intro hnil
    obtain ⟨rows, hrows⟩ := hkeyboard.2 fun c hc => by
      rcases mem_afterCreate.1 hc with hc | rfl
      · rw [hnil] at hc
        cases hc
      · exact ⟨type, by simp [s, CodeSession.object, afterCreate, newObject, newRow]⟩
    refine ⟨(s, .saved data.discountCode rows), ?_, _, mem_afterCreate.2 (Or.inr rfl), rfl, rfl⟩
    show (do let rows ← adminDiscountsListKeyboard s.getAllCodes; _) = _
    rw [hrows]
    rfl

/-! ## Runs -/

end CodeSession

namespace CodeUpdate

/-- The rows when the session has ended: what it has written, or, if it has raised, what there was. -/
def committed (codes : Table DiscountCode) : Except PyError (CodeSession × CodesScreen) → Table DiscountCode
  | .ok (s, _) => s.codes
  | .error _ => codes

/-- One update under `DbSessionMiddleware`. -/
def step (codes : Table DiscountCode) (u : CodeUpdate) : Option (Table DiscountCode) :=
  some (committed codes ((CodeSession.begin codes).handle u))

/-- The input is valid: a new code with a value that fits its column, and a number of uses. -/
def valid (codes : Table DiscountCode) : CodeUpdate → Bool
  | maxUsesEntered data text =>
    decide (data.discountCode.length ≤ 32) && decide (|numericCents data.discountValue| < 10 ^ 10) &&
      (codes.rows.all fun c => c.code != data.discountCode) &&
      match text with
      | .unlimited => true
      | .number n => decide (0 < n ∧ Int4 n)
      | .other => false
  | _ => true

/-- What the update is for. -/
def Done (codes codes' : Table DiscountCode) : CodeUpdate → Prop
  | pricingDiscounts => codes' = codes
  | toggle codeId =>
    codes'.find? codeId = (codes.find? codeId).map fun c => { c with isActive := !c.isActive }
  | maxUsesEntered data _ => ∃ c ∈ codes'.rows, c.code = data.discountCode ∧ c.isActive = true

/-- The handler returns, and what it was to do is committed. -/
def Finishes (codes : Table DiscountCode) (u : CodeUpdate) : Prop :=
  ∃ x, (CodeSession.begin codes).handle u = .ok x ∧ Done codes x.1.codes u

/-- **A handler finishes if there is no code yet.** -/
theorem finishes_iff {codes : Table DiscountCode} {u : CodeUpdate} (hvalid : valid codes u = true) :
    Finishes codes u ↔ codes.rows = [] := by
  cases u with
  | pricingDiscounts =>
    refine Iff.trans ?_ (CodeSession.loaded_begin codes).render
    constructor
    · rintro ⟨x, hx, -⟩
      exact ⟨x, hx⟩
    · rintro ⟨x, hx⟩
      obtain ⟨rows, -, hret⟩ := bind_ok hx
      cases hret
      exact ⟨_, hx, rfl⟩
  | toggle codeId =>
    obtain ⟨hfind, hrows⟩ := CodeSession.toggleCodeActive_codes codes codeId
    rw [← hrows, ← ((CodeSession.loaded_begin codes).toggleCodeActive codeId).render]
    constructor
    · rintro ⟨x, hx, -⟩
      exact ⟨x, hx⟩
    · rintro ⟨x, hx⟩
      obtain ⟨rows, -, hret⟩ := bind_ok hx
      cases hret
      exact ⟨_, hx, hfind⟩
  | maxUsesEntered data text =>
    unfold valid at hvalid
    simp only [Bool.and_eq_true, decide_eq_true_eq, List.all_eq_true, bne_iff_ne] at hvalid
    obtain ⟨⟨⟨hlength, hvalue⟩, hunused⟩, htext⟩ := hvalid
    cases text with
    | unlimited => exact CodeSession.saveCode_isOk hlength hvalue rfl hunused
    | number n =>
      obtain ⟨hpos, hint⟩ := of_decide_eq_true htext
      unfold Finishes CodeSession.handle CodeSession.discountMaxUsesEntered
      dsimp only
      rw [if_neg (not_le.2 hpos)]
      exact CodeSession.saveCode_isOk hlength hvalue (decide_eq_true hint) hunused
    | other => cases htext

/-- **The list of codes works as long as it is empty.** For every sequence of valid updates: all handlers
finish, with what they were to do committed, if and only if no code is stored when an update comes. -/
theorem discounts_iff (codes : Table DiscountCode) (us : List CodeUpdate)
    (hvalid : Runs.Along step (fun codes u => valid codes u = true) codes us) :
    Runs.Along step Finishes codes us ↔ Runs.Along step (fun codes _ => codes.rows = []) codes us := by
  rw [Runs.along_iff, Runs.along_iff]
  refine forall_congr' fun before => forall_congr' fun u => forall_congr' fun after =>
    forall_congr' fun codes' => forall_congr' fun hsplit => forall_congr' fun hrun => ?_
  exact finishes_iff (Runs.along_iff.1 hvalid before u after codes' hsplit hrun)

/-- The first code. -/
def firstCode : CodeUpdate := .maxUsesEntered ⟨"NOWRUZ", "percent", 10⟩ .unlimited

/-- The list is opened, a button of an old message is pressed, and the first code is saved. -/
def firstCodeSaved : List CodeUpdate := [.pricingDiscounts, .toggle 7, firstCode]

theorem discounts_iff_firstCode :
    Runs.Along step (fun codes u => valid codes u = true) .empty firstCodeSaved ∧
    Runs.Along step Finishes .empty firstCodeSaved := by
  have hvalid : Runs.Along step (fun codes u => valid codes u = true) .empty firstCodeSaved := by
    decide +kernel
  exact ⟨hvalid, (discounts_iff .empty firstCodeSaved hvalid).2 (by decide +kernel)⟩

/-- A second code, and the button of the first one. -/
def secondCode : List CodeUpdate :=
  [firstCode, .maxUsesEntered ⟨"YALDA", "fixed", 5000⟩ (.number 3), .toggle 1, .pricingDiscounts]

/-- The second code is not stored, the first one stays active, and the list is not shown. -/
theorem second_code_lost :
    Runs.Along step (fun codes u => valid codes u = true) .empty secondCode ∧
    ∃ codes, Runs.exec step .empty secondCode = some codes ∧
      codes.rows.map (fun c => (c.code, c.isActive)) = [("NOWRUZ", true)] ∧
      raised ((CodeSession.begin codes).handle .pricingDiscounts) = some .AttributeError ∧
      ¬ Finishes codes .pricingDiscounts := by
  refine ⟨by decide +kernel, _, rfl, by decide +kernel, by decide +kernel, ?_⟩
  rw [finishes_iff rfl]
  decide +kernel

end CodeUpdate

end KasbOKar
