import KasbOKar.Input.Workbook
import KasbOKar.Payment.Requested
import KasbOKar.Shop.Handlers

/-!
# Numbers in their columns

Prices, stocks and amounts of money are kept in `INTEGER` columns, of 32 bits, while the texts that they are
read from may write any number.  No check of a text looks at the column: `accepted_fit_iff` says for which
texts and rows the accepted numbers are in the range, and `stored_iff` also when a later flush fails.  Up to
99 Toman are added for a payment by card, and a charge is added to the balance of its owner.  A negative
correction is not written at all: `deduct` compares it with the charges and takes it from them.
-/

namespace KasbOKar

namespace Input

open DecimalText

/-! ## The amount of a top-up -/

/-- `topup_custom_amount_received`: the amount that it puts into the FSM data. -/
def topupCustomAmountReceived (text : String) : Option ℤ :=
  match int (strip text) with
  | .ok amount => if amount < 10000 then none else some amount
  | .error _ => none

/-- A typed amount as the panel takes it. -/
theorem handle_customAmount (baleBotToken : String) (s : Panel) (now : Datetime) (telegramId : ℤ)
    (text : String) (hstate : (s.chats telegramId).state = some .waitingTopupAmount) :
    s.handle baleBotToken now telegramId (.customAmount (int (strip text)).toOption) =
      match topupCustomAmountReceived text with
      | none => s
      | some amount => s.setChat telegramId (PaymentDb.topupChosen amount) := by
  unfold Panel.handle topupCustomAmountReceived
  dsimp only
  rw [hstate]
  cases int (strip text) with
  | error e => rfl
  | ok amount =>
    show (if amount < 10000 then s else _) = _
    dsimp only
    by_cases hsmall : amount < 10000
    · rw [if_pos hsmall, if_pos hsmall]
    · rw [if_neg hsmall, if_neg hsmall]

/-- Digits, with single underscores between them. -/
inductive Literal : List Char → List Char → Prop
  | digit {c : Char} (hc : isDecimal c = true) : Literal [c] [c]
  | cons {c : Char} {l digits : List Char} (hc : isDecimal c = true) (h : Literal l digits) :
      Literal (c :: l) (c :: digits)
  | underscore {c : Char} {l digits : List Char} (hc : isDecimal c = true) (h : Literal l digits) :
      Literal (c :: '_' :: l) (c :: digits)

theorem Literal.ne_nil {l digits : List Char} (h : Literal l digits) : l ≠ [] := by
  cases h <;> exact List.cons_ne_nil _ _

theorem Literal.decimal {c : Char} {l digits : List Char} (h : Literal (c :: l) digits) :
    isDecimal c = true := by
  cases h <;> assumption

theorem literalDigits_of_literal {l digits : List Char} (h : Literal l digits) :
    literalDigits l = some digits := by
  induction h with
  | digit hc => simp [literalDigits, hc]
  | @cons c l digits hc h ih =>
    have hunderscore : ∀ l', l ≠ '_' :: l' := by
      rintro l' rfl
      exact absurd h.decimal (by decide)
    rw [literalDigits, if_pos hc, ih]
    · rfl
    · exact h.ne_nil
    · exact hunderscore
  | underscore hc h ih => simp [literalDigits, hc, ih]

theorem literal_of_literalDigits {l digits : List Char} (h : literalDigits l = some digits) :
    Literal l digits := by
  fun_induction literalDigits l generalizing digits with
  | case1 => cases h
  | case2 c hc =>
    cases h
    exact .digit hc
  | case3 c hc => cases h
  | case4 c l hc ih =>
    obtain ⟨digits, hdigits, rfl⟩ := Option.map_eq_some_iff.1 h
    exact .underscore hc (ih hdigits)
  | case5 c l hc => cases h
  | case6 c l hl hl' hc ih =>
    obtain ⟨digits, hdigits, rfl⟩ := Option.map_eq_some_iff.1 h
    exact .cons hc (ih hdigits)
  | case7 c l hl hl' hc => cases h

/-- A literal with at most one sign, of at most 4300 digits, and its number. -/
def IntText (l : List Char) (n : ℤ) : Prop :=
  ∃ digits, digits.length ≤ intMaxStrDigits ∧
    ((Literal l digits ∧ n = value digits) ∨ (∃ l', l = '+' :: l' ∧ Literal l' digits ∧ n = value digits) ∨
      ∃ l', l = '-' :: l' ∧ Literal l' digits ∧ n = -value digits)

theorem unsignedInt_ok {l : List Char} {n : ℤ} :
    unsignedInt l = .ok n ↔
      ∃ digits, digits.length ≤ intMaxStrDigits ∧ Literal l digits ∧ n = value digits := by
  unfold unsignedInt
  constructor
  · intro h
    split at h
    · cases h
    · rename_i digits hdigits
      split_ifs at h with hlong
      cases h
      exact ⟨digits, not_lt.1 hlong, literal_of_literalDigits hdigits, rfl⟩
  · rintro ⟨digits, hlength, hliteral, rfl⟩
    rw [literalDigits_of_literal hliteral]
    exact if_neg (not_lt.2 hlength)

/-- All that `int` accepts. -/
theorem int_ok {s : String} {n : ℤ} : int s = .ok n ↔ IntText (strip s).toList n := by
  have hsign : ∀ {c l digits}, isDecimal c = false → ¬ Literal (c :: l) digits := by
    intro c l digits hc h
    rw [h.decimal] at hc
    cases hc
  unfold int IntText
  split
  · rename_i l heq
    rw [heq, unsignedInt_ok]
    constructor
    · rintro ⟨digits, hlength, hliteral, rfl⟩
      exact ⟨digits, hlength, .inr (.inl ⟨l, rfl, hliteral, rfl⟩)⟩
    · rintro ⟨digits, hlength, ⟨h, -⟩ | ⟨_, h, hliteral, rfl⟩ | ⟨_, h, -⟩⟩
      · exact absurd h (hsign (by decide))
      · cases h
        exact ⟨digits, hlength, hliteral, rfl⟩
      · cases h
  · rename_i l heq
    rw [heq]
    constructor
    · intro h
      obtain ⟨m, hm, rfl⟩ := map_ok h
      obtain ⟨digits, hlength, hliteral, rfl⟩ := unsignedInt_ok.1 hm
      exact ⟨digits, hlength, .inr (.inr ⟨l, rfl, hliteral, rfl⟩)⟩
    · rintro ⟨digits, hlength, ⟨h, -⟩ | ⟨_, h, -⟩ | ⟨_, h, hliteral, rfl⟩⟩
      · exact absurd h (hsign (by decide))
      · cases h
      · cases h
        rw [unsignedInt_ok.2 ⟨digits, hlength, hliteral, rfl⟩]
        rfl
  · rename_i l hplus hminus
    rw [unsignedInt_ok]
    constructor
    · rintro ⟨digits, hlength, hliteral, rfl⟩
      exact ⟨digits, hlength, .inl ⟨hliteral, rfl⟩⟩
    · rintro ⟨digits, hlength, ⟨hliteral, rfl⟩ | ⟨l', h, -⟩ | ⟨l', h, -⟩⟩
      · exact ⟨digits, hlength, hliteral, rfl⟩
      · exact absurd h (hplus l')
      · exact absurd h (hminus l')

/-! ## What is accepted -/

/-- The number that a text writes for `parse_price_toman` and `_parse_stock`. -/
def Writes (s : String) (n : ℤ) : Prop :=
  Numeral (clean s).toList n ∧ (clean s).toList.length ≤ intMaxStrDigits

/-- The number that a text writes for `parse_signed_toman_amount`. -/
def WritesSigned (s : String) (n : ℤ) : Prop :=
  SignedNumeral (clean s).toList n ∧ (unsigned (clean s).toList).length ≤ intMaxStrDigits

theorem convertible_iff {l : List Char} (h : ∀ c ∈ l, isDecimal c = true) :
    Convertible l ↔ l.length ≤ intMaxStrDigits :=
  ⟨fun hconv => (hconv fun c hc => isDigit_of_isDecimal (h c hc)).2, fun hlength _ => ⟨h, hlength⟩⟩

theorem parsePriceToman_some {s : String} {n : ℤ} :
    parsePriceToman s = .ok (some n) ↔ Writes s n ∧ 1 ≤ n := by
  rw [(parsePriceToman_exactIf s).some_iff, and_right_comm]
  exact and_congr_left fun _ => and_congr_right fun hnum => convertible_iff hnum.decimal

theorem parseStock_some {s : String} {n : ℤ} : parseStock s = .ok (some n) ↔ Writes s n := by
  rw [(parseStock_exactIf s).some_iff, and_assoc]
  refine and_congr_right fun hnum => ?_
  rw [and_iff_right hnum.nonneg, convertible_iff hnum.decimal]

theorem SignedNumeral.decimal {l : List Char} {n : ℤ} (h : SignedNumeral l n) :
    ∀ c ∈ unsigned l, isDecimal c = true := by
  obtain h | ⟨l, rfl, h⟩ | ⟨l, rfl, h⟩ := h
  · cases l with
    | nil => exact absurd rfl h.ne_nil
    | cons c l =>
      have hc := h.decimal c List.mem_cons_self
      have hsign : ¬ (c = '+' ∨ c = '-') := by
        rintro (rfl | rfl) <;> exact absurd hc (by decide)
      rw [unsigned_cons, if_neg hsign]
      exact h.decimal
  · exact h.decimal
  · exact h.decimal

theorem parseSignedTomanAmount_some {s : String} {n : ℤ} :
    parseSignedTomanAmount s = .ok (some n) ↔ WritesSigned s n ∧ n ≠ 0 := by
  rw [(parseSignedTomanAmount_exactIf s).some_iff, and_right_comm]
  exact and_congr_left fun _ => and_congr_right fun hnum => convertible_iff hnum.decimal

theorem topupCustomAmountReceived_some {s : String} {n : ℤ} :
    topupCustomAmountReceived s = some n ↔ IntText (strip s).toList n ∧ 10000 ≤ n := by
  rw [← strip_strip, ← int_ok]
  unfold topupCustomAmountReceived
  cases int (strip s) with
  | error e => exact iff_of_false nofun nofun
  | ok amount =>
    rw [Except.ok.injEq]
    dsimp only
    by_cases hsmall : amount < 10000
    · rw [if_pos hsmall]
      refine iff_of_false nofun ?_
      rintro ⟨rfl, h⟩
      omega
    · rw [if_neg hsmall, Option.some_inj]
      constructor
      · rintro rfl
        exact ⟨rfl, not_lt.1 hsmall⟩
      · exact And.left

theorem not_writes_empty {n : ℤ} : ¬ Writes "" n := by
  rintro ⟨h, -⟩
  exact h.ne_nil (by decide)

/-- A valid row is all that `_parse_row` makes a product of. -/
theorem parseTexts_product {rowNumber : ℕ} {t : RowTexts} {p : ParsedRow} :
    parseTexts rowNumber t = .ok (some (.inr p)) ↔ ValidRow t p := by
  refine ⟨fun h => (parseTexts_ok h).2, fun h => ?_⟩
  obtain ⟨name, description, price, stock⟩ := p
  obtain ⟨rfl, hlength, rfl, hprice, -, hnone, hsome⟩ := h
  dsimp only at hlength hprice hnone hsome
  have hname : t.nameRaw ≠ "" := by
    intro h
    rw [h] at hlength
    exact absurd hlength.1 (by decide)
  have hblank : t ≠ .blank := fun h => hname (by rw [h]; rfl)
  have hwritten : t.priceRaw ≠ "" := by
    intro h
    rw [h] at hprice
    exact not_writes_empty (parsePriceToman_some.1 hprice).1
  unfold parseTexts
  rw [if_neg hblank, if_neg hname, if_neg (not_lt.2 hlength.2), if_neg hwritten, hprice]
  cases stock with
  | none => exact if_pos (hnone rfl)
  | some stock =>
    obtain ⟨hstock, hparse, -⟩ := hsome stock rfl
    refine (if_neg hstock).trans ?_
    rw [hparse]
    rfl

/-! ## The range of the columns -/

/-- The largest number in an `INTEGER` column. -/
def maxInt4 : ℤ := 2147483647

/-- All these numbers can be stored. -/
def InRange (P : ℤ → Prop) : Prop := ∀ n, P n → Int4 n

/-- None of these numbers is too large. -/
def AtMost (bound : ℤ) (P : ℤ → Prop) : Prop := ∀ n, P n → n ≤ bound

/-- The numbers of the product can be stored. -/
def ParsedRow.Fits (p : ParsedRow) : Prop :=
  Int4 p.priceToman ∧ ∀ n, p.stockQuantity = some n → Int4 n

/-- A row that is in order, but for a price or a stock that is too large. -/
def BigRow (t : RowTexts) : Prop :=
  1 ≤ t.nameRaw.length ∧ t.nameRaw.length ≤ 255 ∧ ∃ price, Writes t.priceRaw price ∧ 1 ≤ price ∧
    ((t.stockRaw = "" ∧ maxInt4 < price) ∨
      ∃ stock, Writes t.stockRaw stock ∧ (maxInt4 < price ∨ maxInt4 < stock))

theorem int4_iff_of_nonneg {n : ℤ} (h : 0 ≤ n) : Int4 n ↔ n ≤ maxInt4 := by
  unfold Int4 maxInt4
  omega

theorem Writes.nonneg {s : String} {n : ℤ} (h : Writes s n) : 0 ≤ n := h.1.nonneg

theorem not_fits_iff {t : RowTexts} : (∃ p, ValidRow t p ∧ ¬ p.Fits) ↔ BigRow t := by
  constructor
  · rintro ⟨p, h, hfits⟩
    have hprice := (parsePriceToman_some.1 h.price).1
    have hname := h.name
    refine ⟨hname ▸ h.name_length.1, hname ▸ h.name_length.2, p.priceToman, hprice, h.price_pos, ?_⟩
    cases hstock : p.stockQuantity with
    | none =>
      refine .inl ⟨h.stock_none hstock, not_le.1 fun hle => hfits ?_⟩
      refine ⟨(int4_iff_of_nonneg hprice.nonneg).2 hle, ?_⟩
      rw [hstock]
      exact nofun
    | some n =>
      obtain ⟨-, hparse, hn⟩ := h.stock_some n hstock
      refine .inr ⟨n, parseStock_some.1 hparse, ?_⟩
      by_contra hle
      obtain ⟨hle, hle'⟩ := not_or.1 hle
      refine hfits ⟨(int4_iff_of_nonneg hprice.nonneg).2 (not_lt.1 hle), ?_⟩
      rw [hstock]
      rintro _ ⟨⟩
      exact (int4_iff_of_nonneg hn).2 (not_lt.1 hle')
  · rintro ⟨hname, hlength, price, hprice, hpos, hbig⟩
    have hparsed := parsePriceToman_some.2 ⟨hprice, hpos⟩
    obtain ⟨hstock, hbig⟩ | ⟨stock, hstock, hbig⟩ := hbig
    · refine ⟨⟨t.nameRaw, if t.descRaw = "" then none else some t.descRaw, price, none⟩,
        ⟨rfl, ⟨hname, hlength⟩, rfl, hparsed, hpos, fun _ => hstock, nofun⟩, fun hfits => ?_⟩
      exact absurd ((int4_iff_of_nonneg hprice.nonneg).1 hfits.1) (not_le.2 hbig)
    · have hwritten : t.stockRaw ≠ "" := by
        intro h
        rw [h] at hstock
        exact not_writes_empty hstock
      refine ⟨⟨t.nameRaw, if t.descRaw = "" then none else some t.descRaw, price, some stock⟩,
        ⟨rfl, ⟨hname, hlength⟩, rfl, hparsed, hpos, nofun, ?_⟩, fun hfits => ?_⟩
      · rintro _ ⟨⟩
        exact ⟨hwritten, parseStock_some.2 hstock, hstock.nonneg⟩
      · obtain hbig | hbig := hbig
        · exact absurd ((int4_iff_of_nonneg hprice.nonneg).1 hfits.1) (not_le.2 hbig)
        · exact absurd ((int4_iff_of_nonneg hstock.nonneg).1 (hfits.2 stock rfl)) (not_le.2 hbig)

/-- A row of a sheet whose product cannot be stored. -/
def BigSheetRow (fmt : PyFloat → String) (row : List Cell) : Prop :=
  ∃ t, rowTexts fmt row = .ok t ∧ BigRow t

theorem parseRow_product {fmt : PyFloat → String} {row : List Cell} {rowNumber : ℕ} {p : ParsedRow} :
    parseRow fmt row rowNumber = .ok (some (.inr p)) ↔ ∃ t, rowTexts fmt row = .ok t ∧ ValidRow t p := by
  unfold parseRow
  constructor
  · intro h
    obtain ⟨t, ht, h⟩ := bind_ok h
    exact ⟨t, ht, parseTexts_product.1 h⟩
  · rintro ⟨t, ht, h⟩
    rw [ht]
    exact parseTexts_product.2 h

theorem bigSheetRow_iff {fmt : PyFloat → String} {row : List Cell} (rowNumber : ℕ) :
    BigSheetRow fmt row ↔ ∃ p, parseRow fmt row rowNumber = .ok (some (.inr p)) ∧ ¬ p.Fits := by
  unfold BigSheetRow
  constructor
  · rintro ⟨t, ht, hbig⟩
    obtain ⟨p, hp, hfits⟩ := not_fits_iff.2 hbig
    exact ⟨p, parseRow_product.2 ⟨t, ht, hp⟩, hfits⟩
  · rintro ⟨p, hp, hfits⟩
    obtain ⟨t, ht, hp⟩ := parseRow_product.1 hp
    exact ⟨t, ht, not_fits_iff.1 ⟨p, hp, hfits⟩⟩

/-- A lower bound that is checked changes nothing at the upper end. -/
theorem inRange_and_iff {P : ℤ → Prop} {low : ℤ} (hlow : 0 ≤ low) (hmax : low ≤ maxInt4) :
    InRange (fun n => P n ∧ low ≤ n) ↔ AtMost maxInt4 P := by
  unfold InRange AtMost
  constructor
  · intro h n hn
    by_cases hle : low ≤ n
    · exact (int4_iff_of_nonneg (hlow.trans hle)).1 (h n ⟨hn, hle⟩)
    · exact (not_le.1 hle).le.trans hmax
  · rintro h n ⟨hn, hle⟩
    exact (int4_iff_of_nonneg (hlow.trans hle)).2 (h n hn)

/-! ## The later flush -/

/-- The row as `bulk_create` gets it. -/
def ParsedRow.toImportRow (p : ParsedRow) : ImportRow :=
  ⟨p.name, p.description, p.priceToman, p.stockQuantity.map Int.toNat⟩

/-- What `bulk_create` may rely on. -/
def ParsedRow.Parsed (p : ParsedRow) : Prop :=
  p.name.length ≤ 255 ∧ ∀ n, p.stockQuantity = some n → 0 ≤ n

theorem createProduct_toImportRow {db : OrderDb} {shopBotId : ℕ} {p : ParsedRow}
    (hshop : shopBotId ∈ db.shopBots) (hp : p.Parsed) :
    (p.Fits ∧ ∃ product, db.createProduct shopBotId p.name p.description p.priceToman none
        p.toImportRow.stockQuantity = .ok (db.apply (.insertProduct product), product.id)) ∨
      (¬ p.Fits ∧ db.createProduct shopBotId p.name p.description p.priceToman none
        p.toImportRow.stockQuantity = .error .DataError) := by
  have hback : (p.toImportRow.stockQuantity.map fun n => (n : ℤ)) = p.stockQuantity := by
    unfold ParsedRow.toImportRow
    cases hstock : p.stockQuantity with
    | none => rfl
    | some n =>
      exact congrArg some (Int.toNat_of_nonneg (hp.2 n hstock))
  have hcheck : (255 < p.name.length ∨
      (none : Option String).any (fun s => decide (255 < s.length)) = true ∨ ¬ Int4 p.priceToman ∨
      p.stockQuantity.any (fun n => ¬ Int4 n) = true) ↔ ¬ p.Fits := by
    rw [or_iff_right (not_lt.2 hp.1), or_iff_right (by decide), Option.any_eq_true]
    unfold ParsedRow.Fits
    simp only [not_and_or, not_forall, decide_eq_true_eq, exists_prop]
  unfold OrderDb.createProduct
  dsimp only
  rw [hback]
  by_cases hfits : p.Fits
  · rw [if_neg (hcheck.not.2 (not_not.2 hfits)), if_neg (not_not.2 hshop)]
    exact .inl ⟨hfits, _, rfl⟩
  · rw [if_pos (hcheck.2 hfits)]
    exact .inr ⟨hfits, rfl⟩

/-- An import fails as a whole at the first product that does not fit. -/
theorem bulkCreate_dataError {db : OrderDb} {shopBotId : ℕ} {rows : List ParsedRow}
    (hshop : shopBotId ∈ db.shopBots) (hrows : ∀ p ∈ rows, p.Parsed) :
    db.bulkCreate shopBotId (rows.map ParsedRow.toImportRow) = .error .DataError ↔
      ∃ p ∈ rows, ¬ p.Fits := by
  unfold OrderDb.bulkCreate
  induction rows generalizing db with
  | nil => exact iff_of_false nofun nofun
  | cons p rows ih =>
    obtain ⟨hp, hrest⟩ := List.forall_mem_cons.1 hrows
    rw [List.map_cons, List.foldlM_cons]
    obtain ⟨hfits, product, hcreate⟩ | ⟨hfits, hcreate⟩ := createProduct_toImportRow hshop hp
    · have hfirst : (∃ q ∈ p :: rows, ¬ q.Fits) ↔ ∃ q ∈ rows, ¬ q.Fits := by
        rw [List.exists_mem_cons_iff, or_iff_right (not_not.2 hfits)]
      rw [hfirst, ← @ih (db.apply (.insertProduct product)) hshop hrest]
      show (Except.map Prod.fst (db.createProduct _ _ _ _ _ _) >>= _) = _ ↔ _
      dsimp only [ParsedRow.toImportRow] at hcreate ⊢
      rw [hcreate]
      rfl
    · refine iff_of_true ?_ ⟨p, List.mem_cons_self, hfits⟩
      show (Except.map Prod.fst (db.createProduct _ _ _ _ _ _) >>= _) = _
      dsimp only [ParsedRow.toImportRow] at hcreate ⊢
      rw [hcreate]
      rfl

theorem ValidRow.parsed {t : RowTexts} {p : ParsedRow} (h : ValidRow t p) : p.Parsed :=
  ⟨h.name_length.2, fun n hn => (h.stock_some n hn).2.2⟩

/-- After a preview the import fails if and only if some row writes a number that is too large. -/
theorem import_dataError {fmt : PyFloat → String} {rows : List (List Cell)} {result : ParseResult}
    {db : OrderDb} {shopBotId : ℕ} (h : parseWorkbook fmt rows = .ok result)
    (hshop : shopBotId ∈ db.shopBots) :
    db.bulkCreate shopBotId (result.validRows.map ParsedRow.toImportRow) = .error .DataError ↔
      (nonBlankRows fmt (rows.zipIdx 2)).length ≤ maxImportRows ∧ ∃ row ∈ rows, BigSheetRow fmt row := by
  obtain ⟨hlong, rfl⟩ | ⟨hshort, entries, hentries, rfl⟩ := parseRows_ok fmt h (Nat.zero_le _)
  · refine iff_of_false nofun fun h => ?_
    omega
  have hmem : ∀ p, p ∈ entries.filterMap Sum.getRight? ↔
      ∃ row ∈ nonBlankRows fmt (rows.zipIdx 2), parseRow fmt row.1 row.2 = .ok (some (.inr p)) := by
    intro p
    rw [← mem_entries_iff fmt hentries, List.mem_filterMap]
    simp
  rw [Nat.zero_add] at hshort
  rw [List.nil_append, and_iff_right hshort, bulkCreate_dataError hshop]
  · constructor
    · rintro ⟨p, hp, hfits⟩
      obtain ⟨⟨row, n⟩, hrow, hparse⟩ := (hmem p).1 hp
      exact ⟨row, List.fst_mem_of_mem_zipIdx (List.mem_filter.1 hrow).1,
        (bigSheetRow_iff n).2 ⟨p, hparse, hfits⟩⟩
    · rintro ⟨row, hrow, hbig⟩
      obtain ⟨i, hi, rfl⟩ := List.mem_iff_getElem.1 hrow
      have hnumbered : (rows[i], 2 + i) ∈ rows.zipIdx 2 :=
        List.mk_add_mem_zipIdx_iff_getElem?.2 (List.getElem?_eq_getElem hi)
      obtain ⟨p, hparse, hfits⟩ := (bigSheetRow_iff (2 + i)).1 hbig
      have hblank : NonBlank fmt rows[i] := by
        obtain ⟨-, h⟩ | ⟨h, -⟩ := parseRow_ok fmt hparse
        · cases h
        · exact h
      exact ⟨p, (hmem p).2 ⟨_, List.mem_filter.2 ⟨hnumbered, by simpa using hblank⟩, hparse⟩, hfits⟩
  · intro p hp
    obtain ⟨row, -, hparse⟩ := (hmem p).1 hp
    obtain ⟨t, -, hvalid⟩ := parseRow_product.1 hparse
    exact hvalid.parsed

section Payments

theorem roundHalfEven_nonneg {q : ℚ} (h : 0 ≤ q) : 0 ≤ roundHalfEven q := by
  have hfloor : 0 ≤ q.floor := Rat.le_floor_iff.2 (by exact_mod_cast h)
  unfold roundHalfEven
  dsimp only
  split_ifs <;> omega

theorem nearestFloat_nonneg {q : ℚ} (h : 0 ≤ q) : 0 ≤ nearestFloat q := by
  unfold nearestFloat
  split_ifs with hzero
  · exact le_rfl
  · have hulp : (0 : ℚ) ≤ 2 ^ (binaryExponent q - 52) := by positivity
    exact mul_nonneg (by exact_mod_cast roundHalfEven_nonneg (div_nonneg h hulp)) hulp

theorem truncate_nonneg {q : ℚ} (h : 0 ≤ q) : 0 ≤ truncate q := by
  unfold truncate
  rw [if_pos h]
  exact Rat.le_floor_iff.2 (by exact_mod_cast h)

/-- A discount never raises an amount. -/
theorem applyDiscount_bounds {n m : ℤ} {discount : DiscountCode} (hn : 0 ≤ n)
    (hvalue : 0 ≤ discount.valueCents) (h : applyDiscount n discount = .ok m) : 0 ≤ m ∧ m ≤ n := by
  unfold applyDiscount at h
  split at h
  · dsimp only at h
    split_ifs at h
    cases h
    have hproduct : 0 ≤ nearestFloat (nearestFloat n * nearestFloat (discount.valueCents / 100)) := by
      refine nearestFloat_nonneg (mul_nonneg (nearestFloat_nonneg (by exact_mod_cast hn)) ?_)
      refine nearestFloat_nonneg ?_
      exact div_nonneg (by exact_mod_cast hvalue) (by norm_num)
    have hoff := truncate_nonneg (nearestFloat_nonneg (div_nonneg hproduct (by norm_num : (0 : ℚ) ≤ 100)))
    omega
  · cases h
    have hoff : 0 ≤ discount.valueCents.tdiv 100 := Int.tdiv_nonneg hvalue (by norm_num)
    omega

/-- A code, if there is one, that takes nothing or something off. -/
def Reduces (discount : Option DiscountCode) : Prop := ∀ c ∈ discount, 0 ≤ c.valueCents

variable {db : PaymentDb} {ownerId : ℕ} {n : ℤ} {durationMonths : Option ℤ} {purpose : PaymentPurpose}

/-- After the discount the amount still fits. -/
theorem discounted_ne_dataError {α : Type} {discount : Option DiscountCode} {f : ℤ → Except PyError α}
    (hn : 0 ≤ n) (hdiscount : Reduces discount)
    (hf : ∀ m, 0 ≤ m → m ≤ n → f m ≠ .error .DataError) :
    (PaymentDb.discountedAmount n discount >>= f) ≠ .error .DataError := by
  cases discount with
  | none => exact hf n hn le_rfl
  | some c =>
    cases hamount : applyDiscount n c with
    | error e =>
      have he : e = .OverflowError := by
        unfold applyDiscount at hamount
        split at hamount
        · dsimp only at hamount
          split_ifs at hamount
          exact (Except.error.inj hamount).symm
        · cases hamount
      change (applyDiscount n c >>= f) ≠ _
      rw [hamount, he]
      nofun
    | ok m =>
      obtain ⟨hm, hle⟩ := applyDiscount_bounds hn (hdiscount c rfl) hamount
      change (applyDiscount n c >>= f) ≠ _
      rw [hamount]
      exact hf m hm hle

theorem insertPayment_dataError {p : Payment} : db.insertPayment p = .error .DataError ↔
    ¬ Int4 p.baseAmount ∨ ¬ Int4 p.finalAmount ∨ p.zarinpalAuthority.any (fun a => 64 < a.length) ∨
      p.baleInvoicePayload.any (fun a => 128 < a.length) := by
  unfold PaymentDb.insertPayment
  split_ifs with hcheck howner
  · exact iff_of_true rfl hcheck
  · exact iff_of_false nofun hcheck
  · exact iff_of_false nofun hcheck

theorem createZarinpalPayment_ne_dataError {discount : Option DiscountCode} {authority : String}
    (hn : 0 ≤ n) (hmax : n ≤ maxInt4) (hdiscount : Reduces discount) (hauthority : authority.length ≤ 64) :
    db.createZarinpalPayment ownerId n discount authority durationMonths purpose ≠ .error .DataError := by
  refine discounted_ne_dataError hn hdiscount fun m hm hle => ?_
  rw [ne_eq, insertPayment_dataError]
  simp [int4_iff_of_nonneg hn, int4_iff_of_nonneg hm, hmax, hle.trans hmax, hauthority]

theorem createBalePayment_ne_dataError {discount : Option DiscountCode} {invoicePayload : String}
    (hn : 0 ≤ n) (hmax : n ≤ maxInt4) (hdiscount : Reduces discount)
    (hpayload : invoicePayload.length ≤ 128) :
    db.createBalePayment ownerId n discount invoicePayload durationMonths purpose ≠ .error .DataError := by
  refine discounted_ne_dataError hn hdiscount fun m hm hle => ?_
  rw [ne_eq, insertPayment_dataError]
  simp [int4_iff_of_nonneg hn, int4_iff_of_nonneg hm, hmax, hle.trans hmax, hpayload]

/-- Looking for a free amount fails in its own ways, as long as the amounts fit. -/
theorem tryAmounts_ne_dataError {now : Datetime} {suffixes : List ℤ}
    (h : ∀ suffix ∈ suffixes, Int4 (n + suffix)) : db.tryAmounts now n suffixes ≠ .error .DataError := by
  induction suffixes with
  | nil => nofun
  | cons suffix suffixes ih =>
    obtain ⟨hfits, hrest⟩ := List.forall_mem_cons.1 h
    unfold PaymentDb.tryAmounts PaymentDb.amountCurrentlyReserved
    rw [if_neg (not_not.2 hfits)]
    unfold scalarOneOrNone
    split
    · nofun
    · exact ih hrest
    · nofun

/-- Up to 99 Toman are added to tell the payments by card apart. -/
theorem createCardToCardPayment_ne_dataError {now : Datetime} {draws : Fin 30 → Fin 90}
    {discount : Option DiscountCode} (hn : 0 ≤ n) (hmax : n + 99 ≤ maxInt4) (hdiscount : Reduces discount) :
    db.createCardToCardPayment now draws ownerId n discount durationMonths purpose ≠ .error .DataError := by
  refine discounted_ne_dataError hn hdiscount fun m hm hle => ?_
  have hfits : ∀ k, m ≤ k → k ≤ m + 99 → Int4 k := fun k hk hk' =>
    (int4_iff_of_nonneg (hm.trans hk)).2 (by omega)
  cases hamount : db.generateUniqueAmount now m draws with
  | error e =>
    have hne : db.generateUniqueAmount now m draws ≠ .error .DataError := by
      refine tryAmounts_ne_dataError fun suffix hsuffix => ?_
      obtain ⟨i, rfl⟩ := (List.mem_ofFn' _ _).1 hsuffix
      have hlt := (draws i).isLt
      exact hfits _ (by dsimp only; omega) (by dsimp only; omega)
    intro h
    exact hne (hamount.trans (congrArg Except.error (Except.error.inj h)))
  | ok amount =>
    obtain ⟨hlow, hhigh⟩ := PaymentDb.generateUniqueAmount_ok hamount
    change (datetimeAdd now _ >>= _) ≠ _
    unfold datetimeAdd
    split_ifs
    · change db.insertPayment _ ≠ _
      rw [ne_eq, insertPayment_dataError]
      simp [int4_iff_of_nonneg hn, show n ≤ maxInt4 by omega, hfits amount (by omega) hhigh]
    · nofun

/-- The largest suffix, drawn first. -/
theorem createCardToCardPayment_dataError {now : Datetime} (hn : 0 ≤ n) (hbig : maxInt4 < n + 99) :
    db.createCardToCardPayment now (fun _ => 89) ownerId n none durationMonths purpose =
      .error .DataError := by
  have hlast : ¬ Int4 (n + 99) := by
    rw [int4_iff_of_nonneg (by omega)]
    exact not_le.2 hbig
  have hreserved : db.amountCurrentlyReserved now (n + (((89 : Fin 90) : ℕ) + 10)) = .error .DataError :=
    if_pos hlast
  have hamount : db.generateUniqueAmount now n (fun _ => 89) = .error .DataError := by
    unfold PaymentDb.generateUniqueAmount
    rw [List.ofFn_succ]
    unfold PaymentDb.tryAmounts
    rw [hreserved]
    rfl
  change (db.generateUniqueAmount now n (fun _ => 89) >>= _) = _
  rw [hamount]
  rfl

/-- A payment by card fits, whatever is drawn, if its amount does after the largest suffix. -/
theorem createCardToCardPayment_fits_iff {now : Datetime} (hn : 0 ≤ n) :
    (∀ draws discount, Reduces discount →
        db.createCardToCardPayment now draws ownerId n discount durationMonths purpose ≠
          .error .DataError) ↔ n ≤ maxInt4 - 99 := by
  constructor
  · intro h
    by_contra hbig
    exact h _ none nofun (createCardToCardPayment_dataError hn (by omega))
  · intro hmax draws discount hdiscount
    exact createCardToCardPayment_ne_dataError hn (by omega) hdiscount

theorem createZarinpalPayment_fits_iff (hn : 0 ≤ n) :
    (∀ authority discount, authority.length ≤ 64 → Reduces discount →
        db.createZarinpalPayment ownerId n discount authority durationMonths purpose ≠
          .error .DataError) ↔ n ≤ maxInt4 := by
  constructor
  · intro h
    by_contra hbig
    have hfits : ¬ Int4 n := mt (int4_iff_of_nonneg hn).1 hbig
    exact h "" none (Nat.zero_le _) nofun (insertPayment_dataError.2 (.inl hfits))
  · intro hmax authority discount hauthority hdiscount
    exact createZarinpalPayment_ne_dataError hn hmax hdiscount hauthority

theorem createBalePayment_fits_iff (hn : 0 ≤ n) :
    (∀ invoicePayload discount, invoicePayload.length ≤ 128 → Reduces discount →
        db.createBalePayment ownerId n discount invoicePayload durationMonths purpose ≠
          .error .DataError) ↔ n ≤ maxInt4 := by
  constructor
  · intro h
    by_contra hbig
    have hfits : ¬ Int4 n := mt (int4_iff_of_nonneg hn).1 hbig
    exact h "" none (Nat.zero_le _) nofun (insertPayment_dataError.2 (.inl hfits))
  · intro hmax invoicePayload discount hpayload hdiscount
    exact createBalePayment_ne_dataError hn hmax hdiscount hpayload

/-- The amounts that the panel takes satisfy a bound if the texts that write them do. -/
theorem topup_iff {s : String} {bound : ℤ} {P : ℤ → Prop} (hbound : 9999 ≤ bound)
    (hP : ∀ n, 0 ≤ n → (P n ↔ n ≤ bound)) :
    (∀ n, topupCustomAmountReceived s = some n → P n) ↔ AtMost bound (IntText (strip s).toList) := by
  simp only [topupCustomAmountReceived_some]
  constructor
  · intro h n hn
    by_contra hbig
    have hlow : 10000 ≤ n := by omega
    exact hbig ((hP n (by omega)).1 (h n ⟨hn, hlow⟩))
  · rintro h n ⟨hn, hlow⟩
    exact (hP n (by omega)).2 (h n hn)

end Payments

/-- A charge is added to the balance of its owner. -/
theorem addCharge_dataError {db : WalletDb} {settings : AdminSettings} {now : Datetime} {ownerId : ℕ}
    {owner : ShopOwner} {n : ℤ} {reason : WalletTransactionReason} {paymentId : Option ℕ}
    {validityMonths : Option ℤ} {reference : Option String} (howner : db.owners.find? ownerId = some owner)
    (hn : 0 < n) (hexpires : InDatetimeRange
      (now + days (validityMonths.getD settings.walletTopupValidityMonths * 30))) :
    db.addCharge settings now ownerId n reason paymentId validityMonths reference = .error .DataError ↔
      ¬ Int4 n ∨ ¬ Int4 (owner.walletBalanceToman + n) := by
  have hmem : ownerId ∈ db.owners.ids := by
    by_contra h
    rw [Table.find?_eq_none_iff.2 h] at howner
    cases howner
  unfold WalletDb.addCharge datetimeAdd
  dsimp only
  rw [if_neg (not_le.2 hn), if_pos hexpires]
  change (db.insertCharge _ >>= _) = _ ↔ _
  unfold WalletDb.insertCharge
  by_cases hfits : Int4 n
  · rw [if_neg (not_not.2 hfits), if_neg (not_not.2 hmem), or_iff_right (not_not.2 hfits)]
    change (WalletDb.applyBalanceDelta _ ownerId n >>= _) = _ ↔ _
    have hfind : ∀ c, (db.apply (.insertCharge c)).owners.find? ownerId = some owner := fun _ => howner
    unfold WalletDb.applyBalanceDelta
    rw [hfind]
    dsimp only
    by_cases hbalance : Int4 (owner.walletBalanceToman + n)
    · rw [if_pos hbalance]
      exact iff_of_false nofun (not_not.2 hbalance)
    · rw [if_neg hbalance]
      exact iff_of_true rfl hbalance
  · rw [if_pos hfits]
    exact iff_of_true rfl (.inl hfits)

/-- The accepted numbers are in the range of their columns if and only if the texts write no larger ones. -/
theorem accepted_fit_iff (fmt : PyFloat → String) (s : String) (row : List Cell) (rowNumber : ℕ) :
    (InRange (fun n => parsePriceToman s = .ok (some n)) ↔ AtMost maxInt4 (Writes s)) ∧
      (InRange (fun n => parseStock s = .ok (some n)) ↔ AtMost maxInt4 (Writes s)) ∧
      ((∀ p, parseRow fmt row rowNumber = .ok (some (.inr p)) → p.Fits) ↔ ¬ BigSheetRow fmt row) ∧
      (InRange (fun n => topupCustomAmountReceived s = some n) ↔
        AtMost maxInt4 (IntText (strip s).toList)) ∧
      (InRange (fun n => parseSignedTomanAmount s = .ok (some n)) ↔ InRange (WritesSigned s)) := by
  simp only [parsePriceToman_some, parseStock_some, topupCustomAmountReceived_some,
    parseSignedTomanAmount_some]
  refine ⟨inRange_and_iff (by decide) (by decide), ?_, ?_, inRange_and_iff (by decide) (by decide), ?_⟩
  · exact forall_congr' fun n => forall_congr' fun hn => int4_iff_of_nonneg hn.nonneg
  · rw [bigSheetRow_iff rowNumber]
    push Not
    rfl
  · refine forall_congr' fun n => ⟨fun h hn => ?_, fun h hn => h hn.1⟩
    by_cases hzero : n = 0
    · rw [hzero]
      decide
    · exact h ⟨hn, hzero⟩

/-- Every accepted number can be stored, and no later flush fails for its range, if and only if the texts
write no number that is too large: for a payment by card less 99 Toman, for a charge together with the
balance. -/
theorem stored_iff (fmt : PyFloat → String) (s : String) (row : List Cell) (rowNumber : ℕ)
    {rows : List (List Cell)} {result : ParseResult} (hsheet : parseWorkbook fmt rows = .ok result)
    (orders : OrderDb) (shopBotId : ℕ) (hshop : shopBotId ∈ orders.shopBots)
    (payments : PaymentDb) (now : Datetime) (durationMonths : Option ℤ) (purpose : PaymentPurpose)
    (wallet : WalletDb) (settings : AdminSettings) (ownerId : ℕ) {owner : ShopOwner}
    (howner : wallet.owners.find? ownerId = some owner)
    (hexpires : InDatetimeRange (now + days (settings.walletTopupValidityMonths * 30)))
    (reason : WalletTransactionReason) (reference : Option String) :
    ((InRange (fun n => parsePriceToman s = .ok (some n)) ↔ AtMost maxInt4 (Writes s)) ∧
      (InRange (fun n => parseStock s = .ok (some n)) ↔ AtMost maxInt4 (Writes s)) ∧
      ((∀ p, parseRow fmt row rowNumber = .ok (some (.inr p)) → p.Fits) ↔ ¬ BigSheetRow fmt row) ∧
      (InRange (fun n => topupCustomAmountReceived s = some n) ↔
        AtMost maxInt4 (IntText (strip s).toList)) ∧
      (InRange (fun n => parseSignedTomanAmount s = .ok (some n)) ↔ InRange (WritesSigned s))) ∧
    (orders.bulkCreate shopBotId (result.validRows.map ParsedRow.toImportRow) = .error .DataError ↔
      (nonBlankRows fmt (rows.zipIdx 2)).length ≤ maxImportRows ∧ ∃ row ∈ rows, BigSheetRow fmt row) ∧
    ((∀ n draws discount, topupCustomAmountReceived s = some n → Reduces discount →
        payments.createCardToCardPayment now draws ownerId n discount durationMonths purpose ≠
          .error .DataError) ↔
      AtMost (maxInt4 - 99) (IntText (strip s).toList)) ∧
    ((∀ n authority discount, topupCustomAmountReceived s = some n → authority.length ≤ 64 →
        Reduces discount →
        payments.createZarinpalPayment ownerId n discount authority durationMonths purpose ≠
          .error .DataError) ↔
      AtMost maxInt4 (IntText (strip s).toList)) ∧
    ((∀ n invoicePayload discount, topupCustomAmountReceived s = some n → invoicePayload.length ≤ 128 →
        Reduces discount →
        payments.createBalePayment ownerId n discount invoicePayload durationMonths purpose ≠
          .error .DataError) ↔
      AtMost maxInt4 (IntText (strip s).toList)) ∧
    ((∀ n, parseSignedTomanAmount s = .ok (some n) → 0 < n →
        wallet.addCharge settings now ownerId n reason none none reference ≠ .error .DataError) ↔
      ∀ n, WritesSigned s n → 0 < n → Int4 n ∧ Int4 (owner.walletBalanceToman + n)) := by
  refine ⟨accepted_fit_iff fmt s row rowNumber, import_dataError hsheet hshop, ?_, ?_, ?_, ?_⟩
  · refine Iff.trans ?_ (topup_iff (by decide) fun n =>
      @createCardToCardPayment_fits_iff payments ownerId n durationMonths purpose now)
    exact ⟨fun h n hn draws discount => h n draws discount hn,
      fun h n draws discount hn => h n hn draws discount⟩
  · refine Iff.trans ?_ (topup_iff (by decide) fun n =>
      @createZarinpalPayment_fits_iff payments ownerId n durationMonths purpose)
    exact ⟨fun h n hn authority discount => h n authority discount hn,
      fun h n authority discount hn => h n hn authority discount⟩
  · refine Iff.trans ?_ (topup_iff (by decide) fun n =>
      @createBalePayment_fits_iff payments ownerId n durationMonths purpose)
    exact ⟨fun h n hn payload discount => h n payload discount hn,
      fun h n payload discount hn => h n hn payload discount⟩
  simp only [parseSignedTomanAmount_some]
  constructor
  · intro h n hn hpos
    by_contra hfits
    exact h n ⟨hn, by omega⟩ hpos ((addCharge_dataError howner hpos hexpires).2 (not_and_or.1 hfits))
  · rintro h n ⟨hn, -⟩ hpos hraised
    obtain ⟨hfits, hbalance⟩ := h n hn hpos
    obtain hbad | hbad := (addCharge_dataError howner hpos hexpires).1 hraised
    · exact hbad hfits
    · exact hbad hbalance

/-- A product for three billion Toman, in order for the preview. -/
def bigSheet : List (List Cell) := [[.str "ویلا", .none, .str "3,000,000,000", .none]]

def bigPreview : ParseResult := { validRows := [⟨"ویلا", none, 3000000000, none⟩], errors := [] }

/-- A shop without products. -/
def emptyShop : OrderDb :=
  { products := .empty, orders := .empty, shopBots := [1], customers := [], settings := {} }

/-- Two owners who have not paid anything. -/
def emptyBooks : PaymentDb :=
  { wallet := WalletDb.ofOwners WalletDb.twoOwners, payments := .empty, codes := .empty, usages := .empty,
    referrals := .empty, subscriptions := .empty, settings := {} }

/-- What the preview promises, the import does not keep. -/
theorem big_price_accepted :
    parseWorkbook (fun _ => "") bigSheet = .ok bigPreview ∧
      emptyShop.bulkCreate 1 (bigPreview.validRows.map ParsedRow.toImportRow) = .error .DataError ∧
      parsePriceToman "3,000,000,000" = .ok (some 3000000000) ∧
      topupCustomAmountReceived "3000000000" = some 3000000000 ∧
      parseSignedTomanAmount "+3000000000" = .ok (some 3000000000) ∧ ¬ Int4 3000000000 := by
  refine ⟨by decide +kernel, ?_, by decide +kernel, by decide +kernel, by decide +kernel, by decide⟩
  rfl

/-- The row of this sheet is one that is too large. -/
theorem bigSheet_stored_iff : ∃ row ∈ bigSheet, BigSheetRow (fun _ => "") row :=
  have hsheet : parseWorkbook (fun _ => "") bigSheet = .ok bigPreview := by decide +kernel
  (stored_iff (fun _ => "") "150000" [] 2 hsheet emptyShop 1 (by decide) emptyBooks 0 none .WALLET_TOPUP
    emptyBooks.wallet {} 1 rfl (by decide) .ADMIN_CORRECTION none).2.1.1 rfl |>.2

end Input

end KasbOKar
