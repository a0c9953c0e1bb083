import KasbOKar.Models
import Mathlib.Data.List.DropRight

/-!
# Order detection

`detect_order` of `app/services/order_detection_service.py`, from the decoded answer of the
classifier on: `data` is what `_extract_json` made of its text, and every value a JSON decoder can
return is allowed for it.  `detectOrder_productId` is the check the order tables rest on: an order
is only ever linked to a product of the list the shop was asked about.
-/

namespace KasbOKar

/-! ## Decoded JSON -/

/-- A `float`; `json.loads` also accepts `NaN` and the infinities. -/
inductive PyFloat where
  | finite (x : ℚ)
  | nan
  | inf (negative : Bool)
  deriving DecidableEq

/-- A value that `json.loads` returns. -/
inductive PyJson where
  | null
  | bool (b : Bool)
  | int (n : ℤ)
  | float (x : PyFloat)
  | str (s : String)
  | list (xs : List PyJson)
  | dict (items : List (String × PyJson))

namespace PyJson

/-- `isinstance(value, (int, float))`; a `bool` is an `int`. -/
def isNumber : PyJson → Bool
  | bool _ => true
  | int _ => true
  | float _ => true
  | _ => false

/-- `int(value)` of a number: towards zero. -/
def toInt : PyJson → Except PyError ℤ
  | bool b => .ok (if b then 1 else 0)
  | int n => .ok n
  | float (.finite x) => .ok (x.num.tdiv x.den)
  | float .nan => .error .ValueError
  | float (.inf _) => .error .OverflowError
  | _ => .error .TypeError

/-- `value <= 0` of a number; no comparison with `NaN` holds. -/
def nonpos : PyJson → Bool
  | bool b => !b
  | int n => decide (n ≤ 0)
  | float (.finite x) => decide (x ≤ 0)
  | float .nan => false
  | float (.inf negative) => negative
  | _ => false

/-- `bool(value)`. -/
def truthy : PyJson → Bool
  | null => false
  | bool b => b
  | int n => n != 0
  | float (.finite x) => x != 0
  | float _ => true
  | str s => s != ""
  | list xs => !xs.isEmpty
  | dict items => !items.isEmpty

/-- `data.get(key)`. -/
def get (items : List (String × PyJson)) (key : String) : PyJson := (items.lookup key).getD null

end PyJson

/-- `str.isspace` of one character. -/
def isSpace (c : Char) : Bool :=
  (9 ≤ c.toNat && c.toNat ≤ 13) || (28 ≤ c.toNat && c.toNat ≤ 32) || c.toNat == 0x85 ||
  c.toNat == 0xa0 || c.toNat == 0x1680 || (0x2000 ≤ c.toNat && c.toNat ≤ 0x200a) ||
  c.toNat == 0x2028 || c.toNat == 0x2029 || c.toNat == 0x202f || c.toNat == 0x205f ||
  c.toNat == 0x3000

/-- `s.strip()`. -/
def strip (s : String) : String :=
  .ofList ((s.toList.dropWhile isSpace).reverse.dropWhile isSpace).reverse

theorem strip_strip (s : String) : strip (strip s) = strip s := by
  have hfirst : ∀ l : List Char, ((l.dropWhile isSpace).rdropWhile isSpace).dropWhile isSpace =
      (l.dropWhile isSpace).rdropWhile isSpace := by
    intro l
    rw [List.dropWhile_eq_self_iff]
    intro hpos
    have hkept : (l.dropWhile isSpace).rdropWhile isSpace <+: l.dropWhile isSpace :=
      List.rdropWhile_prefix _ _
    rw [hkept.getElem hpos]
    exact List.dropWhile_get_zero_not _ _ _
  unfold strip
  rw [String.toList_ofList]
  show String.ofList
    ((((s.toList.dropWhile isSpace).rdropWhile isSpace).dropWhile isSpace).rdropWhile isSpace) = _
  rw [hfirst, List.rdropWhile_idempotent]
  rfl

/-- `s[:n]`. -/
def slice (n : ℕ) (s : String) : String := .ofList (s.toList.take n)

/-! ## The classifier's verdict -/

/-- What `detect_order` returns, by the key `status`. -/
inductive Detection where
  | unsure (clarifyingQuestion : String)
  | completed (type : OrderType) (summary : String) (estimatedValueToman : Option ℤ)
      (productId : Option ℕ) (quantity : Option ℤ) (customerPhone customerAddress : Option String)
  deriving DecidableEq

namespace Detection

/-- `str(value or "").strip()[:n]`; `fmt` is `str` of a value that is no string. -/
def text (fmt : PyJson → String) (n : ℕ) (value : PyJson) : String :=
  if !value.truthy then ""
  else
    match value with
    | .str s => slice n (strip s)
    | value => slice n (strip (fmt value))

/-- `value.strip()[:n] if isinstance(value, str) and value.strip() else None`. -/
def optionalText (n : ℕ) : PyJson → Option String
  | .str s => if strip s = "" then none else some (slice n (strip s))
  | _ => none

/-- The product that the classifier names, if it is one of the shop's. -/
def validProductId (products : List Product) (raw : PyJson) : Except PyError (Option ℕ) :=
  if raw.isNumber then do
    let n ← raw.toInt
    return (products.find? fun p => (p.id : ℤ) == n).map Product.id
  else return none

/-- The quantity: a positive number, cut to an integer. -/
def validQuantity (raw : PyJson) : Except PyError (Option ℤ) :=
  if !raw.isNumber || raw.nonpos then return none
  else some <$> raw.toInt

/-- The estimated value: any number, cut to an integer. -/
def estimatedValue (raw : PyJson) : Except PyError (Option ℤ) :=
  if raw.isNumber then some <$> raw.toInt else return none

/-- The type of the order; a shop in consultation mode has no other. -/
def orderType (isConsultation : Bool) (raw : PyJson) : OrderType :=
  if isConsultation then .CONSULTATION
  else
    match raw with
    | .str "order" => .ORDER
    | _ => .CONSULTATION

/-- The lines of `detect_order` for `status == "completed"`. -/
def completedOrder (fmt : PyJson → String) (data : List (String × PyJson)) (products : List Product)
    (isConsultation : Bool) : Except PyError (Option Detection) :=
  let summary := text fmt 2000 (PyJson.get data "summary")
  if summary = "" then return none
  else do
    let productId ← validProductId products (PyJson.get data "product_id")
    let quantity ← validQuantity (PyJson.get data "quantity")
    let estimatedValueToman ← estimatedValue (PyJson.get data "estimated_value_toman")
    return some (.completed (orderType isConsultation (PyJson.get data "type")) summary
      estimatedValueToman productId (if productId.isSome then quantity else none)
      (optionalText 32 (PyJson.get data "customer_phone"))
      (optionalText 1000 (PyJson.get data "customer_address")))

/-- `detect_order` after the call of the classifier. -/
def detectOrder (fmt : PyJson → String) (data : Option PyJson) (products : List Product)
    (isConsultation : Bool) : Except PyError (Option Detection) :=
  match data with
  | some (.dict data) =>
    match PyJson.get data "status" with
    | .str "unsure" =>
      let question := text fmt 1000 (PyJson.get data "clarifying_question")
      return if question = "" then none else some (.unsure question)
    | .str "completed" => completedOrder fmt data products isConsultation
    | _ => return none
  | _ => return none

theorem length_slice_le (n : ℕ) (s : String) : (slice n s).length ≤ n := by
  unfold slice
  rw [String.length_ofList]
  exact List.length_take_le n _

/-- The product of a number is one of the list. -/
theorem validProductId_mem {products : List Product} {raw : PyJson} {i : ℕ}
    (h : validProductId products raw = .ok (some i)) : ∃ p ∈ products, p.id = i := by
  unfold validProductId at h
  split_ifs at h
  · obtain ⟨n, -, hfind⟩ := bind_ok h
    cases hfind' : products.find? fun p => (p.id : ℤ) == n with
    | none => rw [hfind'] at hfind; cases hfind
    | some p =>
      rw [hfind'] at hfind
      cases hfind
      exact ⟨p, List.mem_of_find?_eq_some hfind', rfl⟩
  · cases h

/-- What is checked of a completed order. -/
theorem detectOrder_completed {fmt : PyJson → String} {data : Option PyJson} {products : List Product}
    {isConsultation : Bool} {type : OrderType} {summary : String} {value : Option ℤ}
    {productId : Option ℕ} {quantity : Option ℤ} {phone address : Option String}
    (h : detectOrder fmt data products isConsultation =
      .ok (some (.completed type summary value productId quantity phone address))) :
    (∃ raw, validProductId products raw = .ok productId) ∧ ∃ raw, phone = optionalText 32 raw := by
  have hcompleted : ∃ data, completedOrder fmt data products isConsultation =
      .ok (some (.completed type summary value productId quantity phone address)) := by
    unfold detectOrder at h
    split at h
    · rename_i data
      split at h
      · simp only [pure, Except.pure, Except.ok.injEq] at h
        split_ifs at h
        cases h
      · exact ⟨data, h⟩
      · cases h
    · cases h
  obtain ⟨data, h⟩ := hcompleted
  unfold completedOrder at h
  dsimp only at h
  split_ifs at h
  · cases h
  obtain ⟨productId', hproduct, h⟩ := bind_ok h
  obtain ⟨quantity', -, h⟩ := bind_ok h
  obtain ⟨value', -, h⟩ := bind_ok h
  cases h
  exact ⟨⟨_, hproduct⟩, _, rfl⟩

/-- **The classifier cannot name a foreign product.** -/
theorem detectOrder_productId {fmt : PyJson → String} {data : Option PyJson} {products : List Product}
    {isConsultation : Bool} {type : OrderType} {summary : String} {value : Option ℤ} {i : ℕ}
    {quantity : Option ℤ} {phone address : Option String}
    (h : detectOrder fmt data products isConsultation =
      .ok (some (.completed type summary value (some i) quantity phone address))) :
    ∃ p ∈ products, p.id = i := by
  obtain ⟨⟨raw, hproduct⟩, -⟩ := detectOrder_completed h
  exact validProductId_mem hproduct

/-- A phone number is cut to the length of its column. -/
theorem detectOrder_phone {fmt : PyJson → String} {data : Option PyJson} {products : List Product}
    {isConsultation : Bool} {type : OrderType} {summary : String} {value : Option ℤ}
    {productId : Option ℕ} {quantity : Option ℤ} {phone : String} {address : Option String}
    (h : detectOrder fmt data products isConsultation =
      .ok (some (.completed type summary value productId quantity (some phone) address))) :
    phone.length ≤ 32 := by
  obtain ⟨-, raw, hphone⟩ := detectOrder_completed h
  unfold optionalText at hphone
  split at hphone
  · split_ifs at hphone
    rw [Option.some.inj hphone]
    exact length_slice_le 32 _
  · cases hphone

end Detection

end KasbOKar
