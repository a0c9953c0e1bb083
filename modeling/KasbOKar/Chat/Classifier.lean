import KasbOKar.Chat.Unpaid

/-!
# The answer of the classifier

`detect_order` from the text on that the AI returns: `_extract_json` looks for an object in it, and
whatever `json.loads` makes of the text is read field by field.  `detectReply_confined` is what the
order tables may rely on when it returns.  `detectReply_iff` says for which answers it does, and with a
usable quantity: `int` refuses the numbers that are not finite, and cuts a fraction to zero.
-/

namespace KasbOKar

namespace Detection

/-! ## The text of the answer -/

/-- `s.strip(chars)`. -/
def stripChars (chars s : String) : String :=
  .ofList ((s.toList.dropWhile chars.toList.contains).reverse.dropWhile chars.toList.contains).reverse

/-- `s.removeprefix(p)`. -/
def removePrefix (p s : String) : String :=
  if p.toList.isPrefixOf s.toList then .ofList (s.toList.drop p.length) else s

/-- The answer without blanks and without the fence of a code block. -/
def cleanReply (raw : String) : String :=
  let cleaned := strip raw
  if "```".toList.isPrefixOf cleaned.toList then strip (removePrefix "json" (stripChars "`" cleaned))
  else cleaned

/-- `_JSON_OBJECT_RE.search(s)`: from the first opening brace to the last closing one. -/
def jsonObject (s : String) : Option String :=
  let found := ((s.toList.dropWhile (· != '{')).reverse.dropWhile (· != '}')).reverse
  if found.isEmpty then none else some (.ofList found)

/-- `_extract_json`; `loads` is `json.loads`, without a value where it raises `JSONDecodeError`. -/
def extractJson (loads : String → Option PyJson) (raw : String) : Option PyJson :=
  let cleaned := cleanReply raw
  match loads cleaned with
  | some data => some data
  | none => (jsonObject cleaned).bind loads

/-- `detect_order` for an answer of the AI. -/
def detectReply (fmt : PyJson → String) (loads : String → Option PyJson) (raw : String)
    (products : List Product) (isConsultation : Bool) : Except PyError (Option Detection) :=
  detectOrder fmt (extractJson loads raw) products isConsultation

/-! ## What is returned is confined -/

/-- A text that is stored: not empty, and no longer than its column. -/
def FitsText (n : ℕ) (s : String) : Prop := s ≠ "" ∧ s.length ≤ n

/-- What `detect_order` may hand on for a shop with these products. -/
def Confined (products : List Product) (isConsultation : Bool) : Option Detection → Prop
  | none => True
  | some (.unsure question) => FitsText 1000 question
  | some (.completed type summary _ productId quantity phone address) =>
    (∀ i, productId = some i → ∃ p ∈ products, p.id = i) ∧
    (productId = none → quantity = none) ∧
    FitsText 2000 summary ∧
    (∀ s, phone = some s → FitsText 32 s) ∧
    (∀ s, address = some s → FitsText 1000 s) ∧
    if isConsultation then type = .CONSULTATION else type = .ORDER ∨ type = .CONSULTATION

theorem slice_ne_empty {n : ℕ} {s : String} (hn : n ≠ 0) (hs : s ≠ "") : slice n s ≠ "" := by
  unfold slice
  intro h
  rw [← String.toList_inj, String.toList_ofList, String.toList_empty, List.take_eq_nil_iff] at h
  rcases h with h | h
  · exact hn h
  · exact hs (String.toList_inj.mp (by rw [h, String.toList_empty]))

theorem text_length_le (fmt : PyJson → String) (n : ℕ) (value : PyJson) :
    (text fmt n value).length ≤ n := by
  unfold text
  split_ifs
  · exact Nat.zero_le n
  · split
    · exact length_slice_le n _
    · exact length_slice_le n _

theorem optionalText_fits {n : ℕ} {value : PyJson} {s : String} (hn : n ≠ 0)
    (h : optionalText n value = some s) : FitsText n s := by
  unfold optionalText at h
  split at h
  · split_ifs at h with hblank
    cases h
    exact ⟨slice_ne_empty hn hblank, length_slice_le n _⟩
  · cases h

theorem orderType_confined (isConsultation : Bool) (raw : PyJson) :
    if isConsultation then orderType isConsultation raw = .CONSULTATION
    else orderType isConsultation raw = .ORDER ∨ orderType isConsultation raw = .CONSULTATION := by
  unfold orderType
  split_ifs
  · rfl
  · split
    · exact .inl rfl
    · exact .inr rfl

theorem completedOrder_confined {fmt : PyJson → String} {data : List (String × PyJson)}
    {products : List Product} {isConsultation : Bool} {result : Option Detection}
    (h : completedOrder fmt data products isConsultation = .ok result) :
    Confined products isConsultation result := by
  unfold completedOrder at h
  dsimp only at h
  split_ifs at h with hsummary
  · cases h
    exact trivial
  · obtain ⟨productId, hproduct, h⟩ := bind_ok h
    obtain ⟨quantity, -, h⟩ := bind_ok h
    obtain ⟨value, -, h⟩ := bind_ok h
    cases h
    refine ⟨?_, ?_, ⟨hsummary, text_length_le fmt 2000 _⟩, ?_, ?_, orderType_confined _ _⟩
    · rintro i rfl
      exact validProductId_mem hproduct
    · rintro rfl
      rfl
    · exact fun s hs => optionalText_fits (by decide) hs
    · exact fun s hs => optionalText_fits (by decide) hs

/-- **The answer of the classifier is confined**, whatever it is, when `detect_order` returns. -/
theorem detectReply_confined (fmt : PyJson → String) (loads : String → Option PyJson) (raw : String)
    (products : List Product) (isConsultation : Bool) (result : Option Detection)
    (h : detectReply fmt loads raw products isConsultation = .ok result) :
    Confined products isConsultation result := by
  unfold detectReply detectOrder at h
  split at h
  · split at h
    · dsimp only at h
      split_ifs at h with hquestion
      · cases h
        exact trivial
      · cases h
        exact ⟨hquestion, text_length_le fmt 1000 _⟩
    · exact completedOrder_confined h
    · cases h
      exact trivial
  · cases h
    exact trivial

/-- The product of the examples. -/
def tea : Product := { id := 1, shopBotId := 1, name := "Tea", priceToman := 100 }

/-- A JSON decoder that knows these texts. -/
def loadsOf (texts : List (String × PyJson)) (s : String) : Option PyJson := texts.lookup s

/-- An answer in a code block, with a number of another type in every field. -/
def fencedAnswer : String :=
  "```json\n\x7b\"status\": \"completed\", \"type\": \"order\", \"summary\": \" Tea \", " ++
    "\"product_id\": true, \"quantity\": 2.5, \"customer_phone\": 912\x7d\n```"

def fencedLoads : String → Option PyJson :=
  loadsOf [("\x7b\"status\": \"completed\", \"type\": \"order\", \"summary\": \" Tea \", " ++
    "\"product_id\": true, \"quantity\": 2.5, \"customer_phone\": 912\x7d",
    .dict [("status", .str "completed"), ("type", .str "order"), ("summary", .str " Tea "),
      ("product_id", .bool true), ("quantity", .float (.finite (5 / 2))),
      ("customer_phone", .int 912)])]

theorem detectReply_confined_fenced :
    Confined [tea] false
      (some (.completed .ORDER "Tea" none (some 1) (some 2) none none)) :=
  detectReply_confined (fun _ => "") fencedLoads fencedAnswer
    [tea] false _ (by decide +kernel)

/-! ## When a usable result is returned -/

/-- A number that `int` does not convert. -/
def refused : PyJson → Bool
  | .float .nan => true
  | .float (.inf _) => true
  | _ => false

/-- `0 < value < 1`. -/
def isFraction : PyJson → Bool
  | .float (.finite x) => decide (0 < x ∧ x < 1)
  | _ => false

/-- A quantity is a positive integer. -/
def PositiveQuantity : Option Detection → Prop
  | some (.completed _ _ _ _ (some quantity) _ _) => 1 ≤ quantity
  | _ => True

/-- An answer that gets as far as the fields of an order. -/
def NamesOrder (fmt : PyJson → String) (data : List (String × PyJson)) : Prop :=
  PyJson.get data "status" = .str "completed" ∧ text fmt 2000 (PyJson.get data "summary") ≠ ""

/-- The numbers of an answer are finite, up to a quantity of minus infinity, and the quantity of a
product of the shop is no fraction below one. -/
structure Usable (products : List Product) (data : List (String × PyJson)) : Prop where
  productId : refused (PyJson.get data "product_id") = false
  quantity : refused (PyJson.get data "quantity") = true →
    PyJson.get data "quantity" = .float (.inf true)
  value : refused (PyJson.get data "estimated_value_toman") = false
  fraction : isFraction (PyJson.get data "quantity") = true →
    ∀ p ∈ products, PyJson.toInt (PyJson.get data "product_id") ≠ .ok (p.id : ℤ)

/-- `int` converts the numbers that it does not refuse. -/
theorem toInt_ok_iff {raw : PyJson} (hraw : raw.isNumber = true) :
    (∃ n, raw.toInt = .ok n) ↔ refused raw = false := by
  cases raw with
  | bool b => exact iff_of_true ⟨_, rfl⟩ rfl
  | int n => exact iff_of_true ⟨_, rfl⟩ rfl
  | float x =>
    cases x with
    | finite x => exact iff_of_true ⟨_, rfl⟩ rfl
    | nan => exact iff_of_false (fun ⟨n, hn⟩ => by cases hn) (by decide)
    | inf negative => exact iff_of_false (fun ⟨n, hn⟩ => by cases hn) (by cases negative <;> decide)
  | null => cases hraw
  | str s => cases hraw
  | list xs => cases hraw
  | dict items => cases hraw

theorem isNumber_of_refused {raw : PyJson} (h : refused raw = true) : raw.isNumber = true := by
  unfold refused at h
  split at h
  · rfl
  · rfl
  · cases h

/-- A field that is converted when it is a number. -/
theorem number_ok_iff {α : Type} (raw : PyJson) (f : ℤ → α) (a : α) :
    (∃ r, (if raw.isNumber then raw.toInt >>= fun n => pure (f n) else pure a : Except PyError α) =
      .ok r) ↔ refused raw = false := by
  by_cases hraw : raw.isNumber = true
  · rw [if_pos hraw, ← toInt_ok_iff hraw]
    constructor
    · rintro ⟨r, hr⟩
      obtain ⟨n, hn, -⟩ := bind_ok hr
      exact ⟨n, hn⟩
    · rintro ⟨n, hn⟩
      rw [hn]
      exact ⟨f n, rfl⟩
  · rw [if_neg hraw]
    refine iff_of_true ⟨a, rfl⟩ ?_
    rw [← Bool.not_eq_true]
    exact fun h => hraw (isNumber_of_refused h)

theorem validProductId_ok_iff (products : List Product) (raw : PyJson) :
    (∃ i, validProductId products raw = .ok i) ↔ refused raw = false :=
  number_ok_iff raw _ none

theorem estimatedValue_ok_iff (raw : PyJson) :
    (∃ v, estimatedValue raw = .ok v) ↔ refused raw = false := by
  have hmap : estimatedValue raw =
      if raw.isNumber then raw.toInt >>= fun n => pure (some n) else pure none := by
    unfold estimatedValue
    cases raw.toInt <;> rfl
  rw [hmap]
  exact number_ok_iff raw some none

/-- The product is found for the number that `int` returns. -/
theorem validProductId_none_iff {products : List Product} {raw : PyJson} {i : Option ℕ}
    (h : validProductId products raw = .ok i) :
    i = none ↔ ∀ p ∈ products, raw.toInt ≠ .ok (p.id : ℤ) := by
  unfold validProductId at h
  split_ifs at h with hraw
  · obtain ⟨n, hn, h⟩ := bind_ok h
    cases h
    rw [Option.map_eq_none_iff, List.find?_eq_none, hn]
    refine forall₂_congr fun p _ => ?_
    rw [beq_iff_eq, ne_eq, Except.ok.injEq, eq_comm]
  · cases h
    refine iff_of_true rfl fun p _ hp => ?_
    cases raw <;> first | exact hraw rfl | cases hp

/-- `int` of a positive number that it converts is positive, but for the fractions. -/
theorem one_le_tdiv_iff {x : ℚ} (hx : 0 < x) : 1 ≤ x.num.tdiv x.den ↔ ¬ x < 1 := by
  rw [Int.tdiv_eq_ediv_of_nonneg (Rat.num_nonneg.mpr hx.le), ← Rat.floor_def', Int.le_floor, not_lt,
    Int.cast_one]

/-- A number that is not refused as a quantity is converted. -/
theorem validQuantity_of_pos {raw : PyJson} (hraw : raw.isNumber = true) (hpos : raw.nonpos = false) :
    validQuantity raw = some <$> raw.toInt := by
  unfold validQuantity
  rw [if_neg (by rw [hraw, hpos]; decide)]

theorem validQuantity_of_not_pos {raw : PyJson} (h : ¬ (raw.isNumber = true ∧ raw.nonpos = false)) :
    validQuantity raw = .ok none := by
  unfold validQuantity
  rw [if_pos]
  · rfl
  · by_cases hraw : raw.isNumber = true
    · rw [Bool.or_eq_true]
      right
      rw [← Bool.not_eq_false]
      exact fun hpos => h ⟨hraw, hpos⟩
    · rw [Bool.not_eq_true] at hraw
      rw [hraw]
      rfl

/-- Minus infinity is the only number that the comparison keeps from `int`. -/
theorem refused_nonpos {raw : PyJson} (hrefused : refused raw = true) :
    raw.nonpos = true ↔ raw = .float (.inf true) := by
  unfold refused at hrefused
  split at hrefused
  · exact iff_of_false (by decide) fun h => by cases h
  · rename_i negative
    cases negative with
    | true => exact iff_of_true rfl rfl
    | false => exact iff_of_false (by decide) fun h => by cases h
  · cases hrefused

theorem validQuantity_ok_iff (raw : PyJson) :
    (∃ q, validQuantity raw = .ok q) ↔ (refused raw = true → raw = .float (.inf true)) := by
  by_cases h : raw.isNumber = true ∧ raw.nonpos = false
  · obtain ⟨hraw, hpos⟩ := h
    rw [validQuantity_of_pos hraw hpos]
    constructor
    · rintro ⟨q, hq⟩ hrefused
      obtain ⟨n, hn, -⟩ := map_ok hq
      rw [(toInt_ok_iff hraw).1 ⟨n, hn⟩] at hrefused
      cases hrefused
    · intro hinf
      have hrefused : refused raw = false := by
        rw [← Bool.not_eq_true]
        intro hrefused
        rw [(refused_nonpos hrefused).2 (hinf hrefused)] at hpos
        cases hpos
      obtain ⟨n, hn⟩ := (toInt_ok_iff hraw).2 hrefused
      exact ⟨some n, by rw [hn]; rfl⟩
  · refine iff_of_true ⟨none, validQuantity_of_not_pos h⟩ fun hrefused => ?_
    rw [← refused_nonpos hrefused, ← Bool.not_eq_false]
    exact fun hpos => h ⟨isNumber_of_refused hrefused, hpos⟩

/-- A quantity is returned for a positive number, and is positive unless that is a fraction. -/
theorem validQuantity_pos_iff {raw : PyJson} {q : ℤ} (h : validQuantity raw = .ok (some q)) :
    1 ≤ q ↔ isFraction raw = false := by
  by_cases hraw : raw.isNumber = true ∧ raw.nonpos = false
  · obtain ⟨hraw, hpos⟩ := hraw
    rw [validQuantity_of_pos hraw hpos] at h
    obtain ⟨n, hn, hq⟩ := map_ok h
    cases hq
    cases raw with
    | bool b =>
      cases b with
      | false => cases hpos
      | true =>
        cases hn
        exact iff_of_true le_rfl rfl
    | int m =>
      cases hn
      have hm := of_decide_eq_false hpos
      exact iff_of_true (by omega) rfl
    | float x =>
      cases x with
      | finite x =>
        cases hn
        have hx : 0 < x := not_le.mp (of_decide_eq_false hpos)
        rw [one_le_tdiv_iff hx]
        unfold isFraction
        rw [decide_eq_false_iff_not]
        exact not_congr (and_iff_right hx).symm
      | nan => cases hn
      | inf negative => cases hn
    | null => cases hraw
    | str s => cases hraw
    | list xs => cases hraw
    | dict items => cases hraw
  · rw [validQuantity_of_not_pos hraw] at h
    cases h

/-- A fraction is positive, so that it is converted. -/
theorem validQuantity_of_fraction {raw : PyJson} (h : isFraction raw = true) :
    ∃ q, validQuantity raw = .ok (some q) := by
  unfold isFraction at h
  split at h
  · rename_i x
    have hpos : ¬ x ≤ 0 := not_le.mpr (of_decide_eq_true h).1
    exact ⟨_, validQuantity_of_pos rfl (decide_eq_false hpos)⟩
  · cases h

theorem completedOrder_iff {fmt : PyJson → String} {data : List (String × PyJson)}
    {products : List Product} {isConsultation : Bool} (h : NamesOrder fmt data) :
    (∃ result, completedOrder fmt data products isConsultation = .ok result ∧
      PositiveQuantity result) ↔ Usable products data := by
  unfold completedOrder
  dsimp only
  rw [if_neg h.2]
  constructor
  · rintro ⟨result, hresult, hpositive⟩
    obtain ⟨productId, hproduct, hresult⟩ := bind_ok hresult
    obtain ⟨quantity, hquantity, hresult⟩ := bind_ok hresult
    obtain ⟨value, hvalue, hresult⟩ := bind_ok hresult
    cases hresult
    refine ⟨(validProductId_ok_iff _ _).1 ⟨_, hproduct⟩, (validQuantity_ok_iff _).1 ⟨_, hquantity⟩,
      (estimatedValue_ok_iff _).1 ⟨_, hvalue⟩, fun hfraction => ?_⟩
    obtain ⟨q, hq⟩ := validQuantity_of_fraction hfraction
    obtain rfl := Except.ok.inj (hq.symm.trans hquantity)
    rw [← validProductId_none_iff hproduct]
    cases productId with
    | none => rfl
    | some i =>
      rw [(validQuantity_pos_iff hq).1 hpositive] at hfraction
      cases hfraction
  · rintro ⟨hproduct, hquantity, hvalue, hfraction⟩
    obtain ⟨productId, hproduct⟩ := (validProductId_ok_iff products _).2 hproduct
    obtain ⟨quantity, hquantity⟩ := (validQuantity_ok_iff _).2 hquantity
    obtain ⟨value, hvalue⟩ := (estimatedValue_ok_iff _).2 hvalue
    rw [hproduct, hquantity, hvalue]
    refine ⟨_, rfl, ?_⟩
    cases productId with
    | none => exact trivial
    | some i =>
      cases quantity with
      | none => exact trivial
      | some q =>
        refine (validQuantity_pos_iff hquantity).2 ?_
        rw [← Bool.not_eq_true]
        intro h
        have hnone := (validProductId_none_iff hproduct).2 (hfraction h)
        cases hnone

/-- **The classifier's answers that order detection can handle**: `detect_order` returns, and with a
positive quantity if with any, if and only if the numbers of a completed order are usable. -/
theorem detectReply_iff (fmt : PyJson → String) (loads : String → Option PyJson) (raw : String)
    (products : List Product) (isConsultation : Bool) :
    (∃ result, detectReply fmt loads raw products isConsultation = .ok result ∧
      PositiveQuantity result) ↔
    ∀ data, extractJson loads raw = some (.dict data) → NamesOrder fmt data → Usable products data := by
  unfold detectReply detectOrder
  split
  · rename_i data hdata
    rw [hdata]
    have hall : (∀ d, some (PyJson.dict data) = some (.dict d) → NamesOrder fmt d → Usable products d) ↔
        (NamesOrder fmt data → Usable products data) :=
      ⟨fun h => h data rfl, fun h d hd => by cases hd; exact h⟩
    rw [hall]
    split
    · rename_i hstatus
      refine iff_of_true ⟨_, rfl, ?_⟩ fun h => ?_
      · split_ifs
        · exact trivial
        · exact trivial
      · exact absurd (PyJson.str.inj (hstatus.symm.trans h.1)) (by decide)
    · rename_i hstatus
      by_cases hsummary : text fmt 2000 (PyJson.get data "summary") = ""
      · refine iff_of_true ⟨none, ?_, trivial⟩ fun h => absurd hsummary h.2
        unfold completedOrder
        dsimp only
        rw [if_pos hsummary]
        rfl
      · rw [completedOrder_iff ⟨hstatus, hsummary⟩]
        exact ⟨fun h _ => h, fun h => h ⟨hstatus, hsummary⟩⟩
    · rename_i hstatus
      exact iff_of_true ⟨_, rfl, trivial⟩ fun h => absurd h.1 hstatus
  · rename_i hdata
    exact iff_of_true ⟨_, rfl, trivial⟩ fun data h => absurd h (hdata data)

end Detection

namespace ChatDb

open ChatResult

/-- `_extract_json` of what the provider returns as the text. -/
def replyJson (loads : String → Option PyJson) : PyJson → Option PyJson
  | .str raw => Detection.extractJson loads raw
  | _ => none

/-- The call is charged after `detect_order` has returned, and not at all if it raises. -/
theorem detectAndNotify_reply {env : ChatEnv} (fmt : PyJson → String) (loads : String → Option PyJson)
    {db : ChatDb} {shopBot : ShopBot} {shopBotId ownerId : ℕ} (customerId : ℕ) {raw : String}
    {tokens : ℤ} (hshop : db.shops.find? shopBotId = some shopBot)
    (howner : detectionOwner db shopBotId = some ownerId)
    (hai : env.ai = .ok { text := .str raw, totalTokens := some tokens }) :
    detectAndNotify env fmt (replyJson loads) db shopBotId customerId =
      ChatResult.andThen ⟨db, [.ai ownerId .detectOrder], none⟩ fun db =>
        match Detection.detectReply fmt loads raw (db.getActiveByShopBot shopBotId)
          (shopBot.tenantMode == .CONSULTATION) with
        | .error e => raise db e
        | .ok result =>
          (match estimateOrderDetectionCost db.settings (some tokens) with
            | .error e => raise db e
            | .ok cost => deductAndNotify env db ownerId cost .ORDER_DETECTION).andThen
          fun db => actOnDetection env db shopBotId customerId result := by
  obtain ⟨owner, hfound, rfl, hbalance, hservice⟩ := detectionOwner_some hshop howner
  unfold detectAndNotify
  rw [hshop]
  dsimp only
  rw [hfound]
  dsimp only
  rw [if_neg (not_le.mpr hbalance), if_neg (by rw [hservice]; decide), hai]
  rfl

/-- An answer whose value overflows to infinity. -/
def infiniteValue : String :=
  "\x7b\"status\": \"completed\", \"summary\": \"Tea\", \"estimated_value_toman\": 1e999\x7d"

/-- An answer for half a piece. -/
def halfQuantity : String :=
  "\x7b\"status\": \"completed\", \"summary\": \"Tea\", \"product_id\": 1, \"quantity\": 0.5\x7d"

def oddLoads : String → Option PyJson :=
  Detection.loadsOf [
    (infiniteValue, .dict [("status", .str "completed"), ("summary", .str "Tea"),
      ("estimated_value_toman", .float (.inf false))]),
    (halfQuantity, .dict [("status", .str "completed"), ("summary", .str "Tea"),
      ("product_id", .int 1), ("quantity", .float (.finite (1 / 2)))])]

/-- The first answer makes `detect_order` raise, so that the call is not charged; the second one makes
an order of nothing. -/
theorem odd_answers :
    Detection.detectReply (fun _ => "") oddLoads infiniteValue [Detection.tea] false =
      .error .OverflowError ∧
    (detectAndNotify
      { now := 0, text := ascii, ai := .ok { text := .str infiniteValue, totalTokens := some 500 } }
      (fun _ => "") (replyJson oddLoads) moderatedShop 1 1).log = [.ai 1 .detectOrder] ∧
    Detection.detectReply (fun _ => "") oddLoads halfQuantity [Detection.tea] false =
      .ok (some (.completed .CONSULTATION "Tea" none (some 1) (some 0) none none)) :=
  ⟨by decide +kernel, rfl, by decide +kernel⟩

end ChatDb

end KasbOKar
