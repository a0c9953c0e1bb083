import KasbOKar.Input.Numbers

/-!
# Imported sheets

`parse_workbook` of `app/services/excel_import_service.py`, from the rows that `iter_rows` yields on.  The
loop keeps two lists and a counter, and gives everything up at the 501st row that is not blank.
`parseRow_cases` says what one row contributes, `parseRows_ok` what the loop has gathered from any point on,
and `parseWorkbook_accounts` that every row is accounted for.
-/

namespace KasbOKar

namespace Input

/-! ## Cells -/

/-- The value of a cell. -/
inductive Cell where
  | none
  | str (s : String)
  | int (n : ℤ)
  | float (x : PyFloat)
  | bool (b : Bool)

/-- What `_parse_row` makes of a valid row. -/
structure ParsedRow where
  name : String
  description : Option String
  priceToman : ℤ
  stockQuantity : Option ℤ
  deriving DecidableEq

structure ParseResult where
  validRows : List ParsedRow
  errors : List String
  tooManyRows : Bool := false
  deriving DecidableEq

/-- `MAX_IMPORT_ROWS`. -/
def maxImportRows : ℕ := 500

-- `fmt` is `str` of a `float`
variable (fmt : PyFloat → String)

/-- `str(value)`. -/
def Cell.toStr : Cell → Except PyError String
  | .none => .ok "None"
  | .str s => .ok s
  | .int n => strInt n
  | .float x => .ok (fmt x)
  | .bool b => .ok (if b then "True" else "False")

/-- `_cell_str`. -/
def cellStr : Cell → Except PyError String
  | .none => .ok ""
  | .float (.finite x) => if x.isInt then strInt x.num else ((Cell.float (.finite x)).toStr fmt).map strip
  | value => (value.toStr fmt).map strip

/-- `cells[i]`, of one of the first four cells. -/
def cellAt (row : List Cell) (i : ℕ) : Cell := (row ++ [.none, .none, .none, .none])[i]?.getD .none

/-! ## Rows -/

/-- The texts of the first four cells. -/
structure RowTexts where
  nameRaw : String
  descRaw : String
  priceRaw : String
  stockRaw : String
  deriving DecidableEq

def RowTexts.blank : RowTexts := ⟨"", "", "", ""⟩

/-- The cells as `_parse_row` reads them. -/
def rowTexts (row : List Cell) : Except PyError RowTexts := do
  let nameRaw ← cellStr fmt (cellAt row 0)
  let descRaw ← cellStr fmt (cellAt row 1)
  let priceRaw ← cellStr fmt (cellAt row 2)
  let stockRaw ← cellStr fmt (cellAt row 3)
  return ⟨nameRaw, descRaw, priceRaw, stockRaw⟩

/-- `_parse_row` from the texts on: nothing for a blank row, else an error or a product. -/
def parseTexts (rowNumber : ℕ) (t : RowTexts) : Except PyError (Option (String ⊕ ParsedRow)) :=
  if t = .blank then .ok none
  else if t.nameRaw = "" then .ok (some (.inl s!"ردیف {rowNumber}: نامِ محصول خالیه."))
  else if 255 < t.nameRaw.length then
    .ok (some (.inl s!"ردیف {rowNumber}: نامِ محصول بیش از ۲۵۵ کاراکتره."))
  else if t.priceRaw = "" then .ok (some (.inl s!"ردیف {rowNumber} («{t.nameRaw}»): قیمت خالیه."))
  else do
    match ← parsePriceToman t.priceRaw with
    | none =>
      return some (.inl s!"ردیف {rowNumber} («{t.nameRaw}»): قیمت نامعتبره — فقط عددِ مثبت بنویس.")
    | some price =>
      let description := if t.descRaw = "" then none else some t.descRaw
      if t.stockRaw = "" then return some (.inr ⟨t.nameRaw, description, price, none⟩)
      else
        match ← parseStock t.stockRaw with
        | none => return some (.inl
            s!"ردیف {rowNumber} («{t.nameRaw}»): موجودی نامعتبره — باید عددِ صحیحِ صفر یا بزرگ‌تر باشه.")
        | some stock => return some (.inr ⟨t.nameRaw, description, price, some stock⟩)

/-- `_parse_row`. -/
def parseRow (row : List Cell) (rowNumber : ℕ) : Except PyError (Option (String ⊕ ParsedRow)) := do
  parseTexts rowNumber (← rowTexts fmt row)

/-! ## The loop -/

/-- The loop of `parse_workbook`, with what it has gathered so far. -/
def parseRows (validRows : List ParsedRow) (errors : List String) (processed : ℕ) :
    List (List Cell × ℕ) → Except PyError ParseResult
  | [] => .ok { validRows := validRows, errors := errors }
  | (row, rowNumber) :: rows => do
    match ← parseRow fmt row rowNumber with
    | none => parseRows validRows errors processed rows
    | some entry =>
      if maxImportRows < processed + 1 then return { validRows := [], errors := [], tooManyRows := true }
      else
        match entry with
        | .inl error => parseRows validRows (errors ++ [error]) (processed + 1) rows
        | .inr parsed => parseRows (validRows ++ [parsed]) errors (processed + 1) rows

/-- `parse_workbook`, of the rows below the header. -/
def parseWorkbook (rows : List (List Cell)) : Except PyError ParseResult :=
  parseRows fmt [] [] 0 (rows.zipIdx 2)

/-! ## What a row contributes -/

/-- Some of the first four cells has a text. -/
def NonBlank (row : List Cell) : Prop := ∃ i < 4, cellStr fmt (cellAt row i) ≠ .ok ""

instance (row : List Cell) : Decidable (NonBlank fmt row) := inferInstanceAs (Decidable (∃ i < 4, _))

/-- An error message that begins with the number of its row. -/
def NamesRow (rowNumber : ℕ) (error : String) : Prop :=
  ∃ rest, error = s!"ردیف {rowNumber}" ++ rest ∧ (":".toList <+: rest.toList ∨ " («".toList <+: rest.toList)

/-- A product that may be stored, with the values of its row. -/
structure ValidRow (t : RowTexts) (p : ParsedRow) : Prop where
  name : p.name = t.nameRaw
  name_length : 1 ≤ p.name.length ∧ p.name.length ≤ 255
  description : p.description = if t.descRaw = "" then none else some t.descRaw
  price : parsePriceToman t.priceRaw = .ok (some p.priceToman)
  price_pos : 1 ≤ p.priceToman
  stock_none : p.stockQuantity = none → t.stockRaw = ""
  stock_some : ∀ n, p.stockQuantity = some n →
    t.stockRaw ≠ "" ∧ parseStock t.stockRaw = .ok (some n) ∧ 0 ≤ n

/-- What may come of the texts of a row. -/
def Outcome (rowNumber : ℕ) (t : RowTexts) : Option (String ⊕ ParsedRow) → Prop
  | none => t = .blank
  | some (.inl error) => t ≠ .blank ∧ NamesRow rowNumber error
  | some (.inr p) => t ≠ .blank ∧ ValidRow t p

theorem rowTexts_ok {row : List Cell} {t : RowTexts} :
    rowTexts fmt row = .ok t ↔
      cellStr fmt (cellAt row 0) = .ok t.nameRaw ∧ cellStr fmt (cellAt row 1) = .ok t.descRaw ∧
        cellStr fmt (cellAt row 2) = .ok t.priceRaw ∧ cellStr fmt (cellAt row 3) = .ok t.stockRaw := by
  unfold rowTexts
  constructor
  · intro h
    obtain ⟨a, ha, h⟩ := bind_ok h
    obtain ⟨b, hb, h⟩ := bind_ok h
    obtain ⟨c, hc, h⟩ := bind_ok h
    obtain ⟨d, hd, h⟩ := bind_ok h
    cases h
    exact ⟨ha, hb, hc, hd⟩
  · rintro ⟨ha, hb, hc, hd⟩
    rw [ha, hb, hc, hd]
    rfl

theorem nonBlank_iff {row : List Cell} : NonBlank fmt row ↔ rowTexts fmt row ≠ .ok .blank := by
  rw [ne_eq, rowTexts_ok]
  unfold NonBlank
  simp only [Nat.exists_lt_succ_left, not_and_or]
  simp [RowTexts.blank]

/-- A message with the name of the product behind the number. -/
theorem namesRow_name (n : ℕ) (name rest : String) : NamesRow n (s!"ردیف {n} («{name}" ++ rest) := by
  refine ⟨" («" ++ (name ++ rest), ?_, .inr (by simp)⟩
  simp only [String.append_assoc]
  rfl

theorem parseTexts_ok {n : ℕ} {t : RowTexts} {result : Option (String ⊕ ParsedRow)}
    (h : parseTexts n t = .ok result) : Outcome n t result := by
  unfold parseTexts at h
  by_cases hblank : t = .blank
  · rw [if_pos hblank] at h
    cases h
    exact hblank
  by_cases hname : t.nameRaw = ""
  · rw [if_neg hblank, if_pos hname] at h
    cases h
    exact ⟨hblank, ": نامِ محصول خالیه.", rfl, .inl (by simp)⟩
  by_cases hlong : 255 < t.nameRaw.length
  · rw [if_neg hblank, if_neg hname, if_pos hlong] at h
    cases h
    exact ⟨hblank, ": نامِ محصول بیش از ۲۵۵ کاراکتره.", rfl, .inl (by simp)⟩
  by_cases hprice : t.priceRaw = ""
  · rw [if_neg hblank, if_neg hname, if_neg hlong, if_pos hprice] at h
    cases h
    exact ⟨hblank, namesRow_name n _ _⟩
  rw [if_neg hblank, if_neg hname, if_neg hlong, if_neg hprice] at h
  have hlength : 1 ≤ t.nameRaw.length := Nat.one_le_iff_ne_zero.2 (mt String.length_eq_zero_iff.1 hname)
  obtain ⟨_ | price, hparse, h⟩ := bind_ok h
  · cases h
    exact ⟨hblank, namesRow_name n _ _⟩
  have hpos := ((parsePriceToman_exactIf _).some_iff.1 hparse).1.2
  dsimp only at h
  by_cases hstock : t.stockRaw = ""
  · rw [if_pos hstock] at h
    cases h
    exact ⟨hblank, rfl, ⟨hlength, not_lt.1 hlong⟩, rfl, hparse, hpos, fun _ => hstock, nofun⟩
  · rw [if_neg hstock] at h
    obtain ⟨_ | stock, hparse', h⟩ := bind_ok h
    · cases h
      exact ⟨hblank, namesRow_name n _ _⟩
    cases h
    refine ⟨hblank, rfl, ⟨hlength, not_lt.1 hlong⟩, rfl, hparse, hpos, nofun, ?_⟩
    rintro _ ⟨⟩
    exact ⟨hstock, hparse', ((parseStock_exactIf _).some_iff.1 hparse').1.2⟩

/-! ## The whole sheet -/

/-- The rows that are not blank, with their numbers. -/
def nonBlankRows (rows : List (List Cell × ℕ)) : List (List Cell × ℕ) :=
  rows.filter fun row => NonBlank fmt row.1

/-- The entry of a row that is not blank. -/
structure Contributes (row : List Cell × ℕ) (entry : String ⊕ ParsedRow) : Prop where
  parsed : parseRow fmt row.1 row.2 = .ok (some entry)
  error : ∀ message, entry = .inl message → NamesRow row.2 message
  valid : ∀ p, entry = .inr p → ∃ t, rowTexts fmt row.1 = .ok t ∧ ValidRow t p

/-- The entries are those of the rows, and no others. -/
theorem mem_entries_iff {rows : List (List Cell × ℕ)} {entries : List (String ⊕ ParsedRow)}
    (h : List.Forall₂ (Contributes fmt) rows entries) {entry : String ⊕ ParsedRow} :
    entry ∈ entries ↔ ∃ row ∈ rows, parseRow fmt row.1 row.2 = .ok (some entry) := by
  induction h with
  | nil => simp
  | cons hentry _ ih =>
    rw [List.mem_cons, List.exists_mem_cons_iff, ih, hentry.parsed, Except.ok.injEq, Option.some_inj,
      eq_comm]

theorem parseRow_ok {row : List Cell} {n : ℕ} {result : Option (String ⊕ ParsedRow)}
    (h : parseRow fmt row n = .ok result) :
    (¬ NonBlank fmt row ∧ result = none) ∨
      (NonBlank fmt row ∧ ∃ entry, result = some entry ∧ Contributes fmt (row, n) entry) := by
  obtain ⟨t, ht, htexts⟩ := bind_ok h
  rw [nonBlank_iff, ht, ne_eq, Except.ok.injEq, not_not]
  have houtcome := parseTexts_ok htexts
  rcases result with _ | error | p
  · exact .inl ⟨houtcome, rfl⟩
  · refine .inr ⟨houtcome.1, _, rfl, h, ?_, nofun⟩
    rintro _ ⟨⟩
    exact houtcome.2
  · refine .inr ⟨houtcome.1, _, rfl, h, nofun, ?_⟩
    rintro _ ⟨⟩
    exact ⟨t, ht, houtcome.2⟩

/-- What the loop returns from any point on. -/
theorem parseRows_ok {rows : List (List Cell × ℕ)} {validRows : List ParsedRow} {errors : List String}
    {processed : ℕ} {result : ParseResult} (h : parseRows fmt validRows errors processed rows = .ok result)
    (hprocessed : processed ≤ maxImportRows) :
    (maxImportRows < processed + (nonBlankRows fmt rows).length ∧ result = ⟨[], [], true⟩) ∨
      (processed + (nonBlankRows fmt rows).length ≤ maxImportRows ∧
        ∃ entries, List.Forall₂ (Contributes fmt) (nonBlankRows fmt rows) entries ∧
          result = ⟨validRows ++ entries.filterMap Sum.getRight?,
            errors ++ entries.filterMap Sum.getLeft?, false⟩) := by
  induction rows generalizing validRows errors processed with
  | nil =>
    cases h
    exact .inr ⟨hprocessed, [], .nil, by simp⟩
  | cons row rows ih =>
    obtain ⟨row, n⟩ := row
    unfold parseRows at h
    obtain ⟨parsed, hparsed, h⟩ := bind_ok h
    obtain ⟨hblank, rfl⟩ | ⟨hrow, entry, rfl, hentry⟩ := parseRow_ok fmt hparsed
    · have hskip : nonBlankRows fmt ((row, n) :: rows) = nonBlankRows fmt rows :=
        List.filter_cons_of_neg (by simpa using hblank)
      rw [hskip]
      exact ih h hprocessed
    · have htake : nonBlankRows fmt ((row, n) :: rows) = (row, n) :: nonBlankRows fmt rows :=
        List.filter_cons_of_pos (by simpa using hrow)
      rw [htake, List.length_cons]
      dsimp only at h
      by_cases hmany : maxImportRows < processed + 1
      · rw [if_pos hmany] at h
        cases h
        exact .inl ⟨by omega, rfl⟩
      · rw [if_neg hmany] at h
        -- the entry goes to the one list or to the other
        have hnext : parseRows fmt (validRows ++ entry.getRight?.toList) (errors ++ entry.getLeft?.toList)
            (processed + 1) rows = .ok result := by
          cases entry with
          | inl error => simpa using h
          | inr p => simpa using h
        obtain ⟨hlong, hresult⟩ | ⟨hshort, entries, hentries, hresult⟩ := ih hnext (by omega)
        · exact .inl ⟨by omega, hresult⟩
        · refine .inr ⟨by omega, entry :: entries, .cons hentry hentries, ?_⟩
          rw [hresult]
          cases entry <;> simp [List.filterMap_cons]

end Input

end KasbOKar
