import Mathlib.Tactic

/-!
# Numbers as texts

The decimal digits of Unicode 15 and the numbers that they write: `value` reads a list of characters in the
decimal system, whatever script each of its digits belongs to, and `value_toDigits` is the way back for the
digits of ASCII.  Not every character with the numeric type *digit* is decimal: superscripts and circled
digits are in `isDigit` only.
-/

namespace DecimalText

/-! ## Digits -/

/-- The zeros of the scripts that have decimal digits; the nine others follow each of them. -/
def zeros : List ℕ :=
  [0x30, 0x660, 0x6f0, 0x7c0, 0x966, 0x9e6, 0xa66, 0xae6, 0xb66, 0xbe6, 0xc66, 0xce6, 0xd66, 0xde6, 0xe50,
    0xed0, 0xf20, 0x1040, 0x1090, 0x17e0, 0x1810, 0x1946, 0x19d0, 0x1a80, 0x1a90, 0x1b50, 0x1bb0, 0x1c40,
    0x1c50, 0xa620, 0xa8d0, 0xa900, 0xa9d0, 0xa9f0, 0xaa50, 0xabf0, 0xff10, 0x104a0, 0x10d30, 0x11066,
    0x110f0, 0x11136, 0x111d0, 0x112f0, 0x11450, 0x114d0, 0x11650, 0x116c0, 0x11730, 0x118e0, 0x11950,
    0x11c50, 0x11d50, 0x11da0, 0x11f50, 0x16a60, 0x16ac0, 0x16b50, 0x1d7ce, 0x1d7d8, 0x1d7e2, 0x1d7ec,
    0x1d7f6, 0x1e140, 0x1e2f0, 0x1e4f0, 0x1e950, 0x1fbf0]

/-- The other characters with the numeric type *digit*, from the first to the last of each group. -/
def otherDigits : List (ℕ × ℕ) :=
  [(0xb2, 0xb3), (0xb9, 0xb9), (0x1369, 0x1371), (0x19da, 0x19da), (0x2070, 0x2070), (0x2074, 0x2079),
    (0x2080, 0x2089), (0x2460, 0x2468), (0x2474, 0x247c), (0x2488, 0x2490), (0x24ea, 0x24ea),
    (0x24f5, 0x24fd), (0x24ff, 0x24ff), (0x2776, 0x277e), (0x2780, 0x2788), (0x278a, 0x2792),
    (0x10a40, 0x10a43), (0x10e60, 0x10e68), (0x11052, 0x1105a), (0x1f100, 0x1f10a)]

/-- The value of a decimal digit. -/
def decimal? (c : Char) : Option ℕ :=
  (zeros.find? fun start => decide (start ≤ c.toNat ∧ c.toNat ≤ start + 9)).map fun start => c.toNat - start

def isDecimal (c : Char) : Bool := (decimal? c).isSome

def isDigit (c : Char) : Bool :=
  isDecimal c || otherDigits.any fun group => decide (group.1 ≤ c.toNat ∧ c.toNat ≤ group.2)

theorem isDigit_of_isDecimal {c : Char} (h : isDecimal c = true) : isDigit c = true := by
  unfold isDigit
  rw [h, Bool.true_or]

theorem toNat_of_ascii {c : Char} (h : c.isDigit = true) : 48 ≤ c.toNat ∧ c.toNat ≤ 57 := by
  simpa [Char.isDigit, UInt32.le_iff_toNat_le] using h

/-- The digits of ASCII come first. -/
theorem decimal?_of_ascii {c : Char} (h : c.isDigit = true) : decimal? c = some (c.toNat - '0'.toNat) := by
  unfold decimal? zeros
  rw [List.find?_cons_of_pos (by simpa using toNat_of_ascii h)]
  rfl

theorem isDecimal_of_ascii {c : Char} (h : c.isDigit = true) : isDecimal c = true := by
  unfold isDecimal
  rw [decimal?_of_ascii h]
  rfl

/-! ## Numbers -/

/-- The value of a digit, and zero for another character. -/
def digitValue (c : Char) : ℕ := (decimal? c).getD 0

/-- A number from its digits. -/
def ofDigits (digits : List ℕ) : ℕ := digits.foldl (fun n d => 10 * n + d) 0

/-- The number that a list of digits writes. -/
def value (l : List Char) : ℕ := ofDigits (l.map digitValue)

theorem value_of_ascii {l : List Char} (h : ∀ c ∈ l, c.isDigit = true) :
    value l = Nat.ofDigitChars 10 l 0 := by
  unfold value ofDigits
  rw [List.foldl_map, Nat.ofDigitChars_eq_foldl]
  refine List.foldl_ext _ _ _ fun n c hc => ?_
  unfold digitValue
  rw [decimal?_of_ascii (h c hc)]
  rfl

theorem isDigit_toDigits {n : ℕ} : ∀ c ∈ Nat.toDigits 10 n, c.isDigit = true :=
  fun _ hc => Nat.isDigit_of_mem_toDigits (by decide) (by decide) hc

/-- The digits of a number write it. -/
theorem value_toDigits (n : ℕ) : value (Nat.toDigits 10 n) = n := by
  rw [value_of_ascii isDigit_toDigits, Nat.ofDigitChars_ten_toDigits]

/-- A numeral: at least one digit, and nothing else. -/
structure Numeral (l : List Char) (n : ℤ) : Prop where
  ne_nil : l ≠ []
  decimal : ∀ c ∈ l, isDecimal c = true
  value_eq : n = value l

theorem numeral_toDigits (n : ℕ) : Numeral (Nat.toDigits 10 n) n where
  ne_nil := Nat.toDigits_ne_nil
  decimal c hc := isDecimal_of_ascii (isDigit_toDigits c hc)
  value_eq := by rw [value_toDigits]

theorem Numeral.unique {l : List Char} {m n : ℤ} (hm : Numeral l m) (hn : Numeral l n) : m = n := by
  rw [hm.value_eq, hn.value_eq]

theorem Numeral.nonneg {l : List Char} {n : ℤ} (h : Numeral l n) : 0 ≤ n := by
  rw [h.value_eq]
  exact Int.natCast_nonneg _

/-! ## Groups of three -/

/-- A comma behind every third digit, if another one follows. -/
def groupReversed : List Char → List Char
  | a :: b :: c :: d :: l => a :: b :: c :: ',' :: groupReversed (d :: l)
  | l => l

/-- The digits in groups of three, counted from the last one. -/
def groupThousands (digits : List Char) : List Char := (groupReversed digits.reverse).reverse

theorem filter_groupReversed {p : Char → Bool} (hp : p ',' = false) (l : List Char) :
    (groupReversed l).filter p = l.filter p := by
  fun_induction groupReversed l with
  | case1 a b c d l ih => simp only [List.filter_cons, ih, hp, Bool.false_eq_true, if_false]
  | case2 l _ => rfl

/-- Without the commas the digits are as before. -/
theorem filter_groupThousands {p : Char → Bool} (hp : p ',' = false) (digits : List Char) :
    (groupThousands digits).filter p = digits.filter p := by
  unfold groupThousands
  rw [List.filter_reverse, filter_groupReversed hp, List.filter_reverse, List.reverse_reverse]

example : groupThousands "1234567".toList = "1,234,567".toList := by decide

end DecimalText
