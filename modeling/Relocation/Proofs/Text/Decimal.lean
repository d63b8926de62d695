import Relocation.Text.Decimal

/-!
# Numbers and the texts that denote them

A numeral is one or more ASCII digits. It denotes a number whatever its length, and as
many zeros may stand before it as one likes. An integer is denoted by a numeral with at
most one sign before it. Reading finds the integer that a text denotes, and it comes to
the same to read in 32 bits, where every step is checked and the word never leaves its
range: once it is too far from zero, more digits do not bring it back.
-/

namespace Relocation.Decimal

/-! ### Writing -/

/-- The characters of the decimal digits are those of the library. -/
theorem digitChar_eq {digit : Nat} (h : digit < 10) : digitChar digit = digit.digitChar := by
  have hall : ∀ digit < 10, digitChar digit = digit.digitChar := by decide
  exact hall digit h

/-- The digits of a number are those of the library. -/
theorem digits_eq_toDigits (n : Nat) : digits n = Nat.toDigits 10 n := by
  induction n using digits.induct with
  | case1 n hsmall =>
    rw [digits, if_pos hsmall, digitChar_eq hsmall, Nat.toDigits_of_lt_base hsmall]
  | case2 n hlarge ih =>
    have hlast : n % 10 < 10 := Nat.mod_lt n (by decide)
    have hsplit := @Nat.toDigits_eq_if 10 n (by decide)
    rw [digits, if_neg hlarge, ih, digitChar_eq hlast, hsplit, if_neg hlarge]

/-- Numbers are written as the library writes them. -/
theorem ofNat_eq_toString (n : Nat) : ofNat n = toString n := by
  rw [ofNat, digits_eq_toDigits, Nat.toString_eq_ofList_toDigits]

/-- Integers are written as the library writes them. -/
theorem ofInt_eq_toString (n : Int) : ofInt n = toString n := by
  cases n with
  | ofNat n => exact ofNat_eq_toString n
  | negSucc n =>
    rw [ofInt, ofNat, digits_eq_toDigits]
    rfl

/-! ### Reading -/

/-- One or more ASCII digits. -/
structure IsNumeral (text : List Char) : Prop where
  ne_nil : text ≠ []
  isDigit : ∀ c ∈ text, c.isDigit = true

/-- A text denotes an integer: it is a numeral for it, perhaps with a sign. -/
inductive Denotes : List Char → Int → Prop where
  | unsigned {text : List Char} (h : IsNumeral text) : Denotes text (Nat.ofDigitChars 10 text 0)
  | plus {text : List Char} (h : IsNumeral text) :
      Denotes ('+' :: text) (Nat.ofDigitChars 10 text 0)
  | minus {text : List Char} (h : IsNumeral text) :
      Denotes ('-' :: text) (-(Nat.ofDigitChars 10 text 0 : Nat))

/-- A character has a value exactly if it is a digit. -/
theorem digit?_eq (c : Char) : digit? c = if c.isDigit then some (c.toNat - 48) else none := by
  have hdigit : c.isDigit = true ↔ '0' ≤ c ∧ c ≤ '9' := by
    simp [Char.isDigit, Char.le_def]
  simp only [digit?, hdigit]

/-- A reader that goes on with nothing ends with nothing. -/
theorem foldl_none {α : Type} {step : Option α → Char → Option α} (h : ∀ c, step none c = none)
    (text : List Char) : text.foldl step none = none := by
  induction text with
  | nil => rfl
  | cons c rest ih => rw [List.foldl_cons, h, ih]

/-- Digits that are read after a number go on with it, and one character that is no digit spoils
them. -/
theorem foldl_digit? (text : List Char) (value : Nat) :
    text.foldl (fun value c => do return (← value) * 10 + (← digit? c)) (some value) =
      if text.all Char.isDigit then some (Nat.ofDigitChars 10 text value) else none := by
  induction text generalizing value with
  | nil => rfl
  | cons c rest ih =>
    rw [List.foldl_cons, digit?_eq, List.all_cons]
    cases hdigit : c.isDigit with
    | true =>
      simp only [if_true, Bool.true_and, Nat.ofDigitChars_cons, Nat.mul_comm 10]
      exact ih _
    | false =>
      simp only [Bool.false_eq_true, if_false, Bool.false_and]
      exact foldl_none (fun _ => rfl) rest

/-- A number is read from the numerals for it. -/
theorem natural?_eq_some_iff {text : List Char} {value : Nat} :
    natural? text = some value ↔ IsNumeral text ∧ Nat.ofDigitChars 10 text 0 = value := by
  rw [natural?, foldl_digit?]
  constructor
  · intro h
    split at h
    · cases h
    · next hne =>
      split at h
      · next hdigits =>
        exact ⟨⟨by simpa using hne, by simpa using hdigits⟩, Option.some.inj h⟩
      · cases h
  · rintro ⟨⟨hne, hdigits⟩, rfl⟩
    rw [if_neg (by simpa using hne), if_pos (by simpa using hdigits)]

/-- What is made of the number that is read is made of the numerals for it. -/
theorem map_natural?_eq_some_iff {text : List Char} {make : Nat → Int} {value : Int} :
    (natural? text).map make = some value ↔
      IsNumeral text ∧ make (Nat.ofDigitChars 10 text 0) = value := by
  rw [Option.map_eq_some_iff]
  constructor
  · rintro ⟨n, hn, rfl⟩
    obtain ⟨hnumeral, rfl⟩ := natural?_eq_some_iff.mp hn
    exact ⟨hnumeral, rfl⟩
  · rintro ⟨hnumeral, rfl⟩
    exact ⟨_, natural?_eq_some_iff.mpr ⟨hnumeral, rfl⟩, rfl⟩

/-- A numeral does not begin with a sign. -/
theorem IsNumeral.head_ne {text : List Char} (h : IsNumeral text) {sign : Char}
    (hsign : sign.isDigit = false) (rest : List Char) : text ≠ sign :: rest := by
  rintro rfl
  simp [h.isDigit sign] at hsign

/-- After a minus a numeral is read for the opposite. -/
theorem integer?_minus (rest : List Char) :
    integer? ('-' :: rest) = (natural? rest).map fun n : Nat => -(n : Int) := by
  rw [integer?]
  cases natural? rest <;> rfl

/-- After a plus a numeral is read. -/
theorem integer?_plus (rest : List Char) :
    integer? ('+' :: rest) = (natural? rest).map fun n : Nat => (n : Int) := by
  rw [integer?]
  cases natural? rest <;> rfl

/-- A text without a sign is read as a numeral. -/
theorem integer?_of_unsigned {text : List Char} (hminus : ∀ rest, text ≠ '-' :: rest)
    (hplus : ∀ rest, text ≠ '+' :: rest) :
    integer? text = (natural? text).map fun n : Nat => (n : Int) := by
  rw [integer?]
  · cases natural? text <;> rfl
  · exact hminus
  · exact hplus

/-- A text begins with a minus, with a plus or with no sign. -/
theorem sign_cases (text : List Char) :
    (∃ rest, text = '-' :: rest) ∨ (∃ rest, text = '+' :: rest) ∨
      ((∀ rest, text ≠ '-' :: rest) ∧ ∀ rest, text ≠ '+' :: rest) := by
  cases text with
  | nil => simp
  | cons c rest =>
    by_cases hminus : c = '-'
    · exact Or.inl ⟨rest, by rw [hminus]⟩
    · by_cases hplus : c = '+'
      · exact Or.inr (Or.inl ⟨rest, by rw [hplus]⟩)
      · exact Or.inr (Or.inr ⟨by simp [hminus], by simp [hplus]⟩)

/-- The integer that is read from a text is the one that the text denotes. -/
theorem integer?_eq_some_iff {text : List Char} {value : Int} :
    integer? text = some value ↔ Denotes text value := by
  constructor
  · intro h
    rcases sign_cases text with ⟨rest, rfl⟩ | ⟨rest, rfl⟩ | ⟨hminus, hplus⟩
    · rw [integer?_minus, map_natural?_eq_some_iff] at h
      obtain ⟨hnumeral, rfl⟩ := h
      exact .minus hnumeral
    · rw [integer?_plus, map_natural?_eq_some_iff] at h
      obtain ⟨hnumeral, rfl⟩ := h
      exact .plus hnumeral
    · rw [integer?_of_unsigned hminus hplus, map_natural?_eq_some_iff] at h
      obtain ⟨hnumeral, rfl⟩ := h
      exact .unsigned hnumeral
  · intro h
    cases h with
    | unsigned hnumeral =>
      -- A digit is no sign, so the text is not taken for one with a sign.
      rw [integer?_of_unsigned (hnumeral.head_ne rfl) (hnumeral.head_ne rfl),
        map_natural?_eq_some_iff]
      exact ⟨hnumeral, rfl⟩
    | plus hnumeral =>
      rw [integer?_plus, map_natural?_eq_some_iff]
      exact ⟨hnumeral, rfl⟩
    | minus hnumeral =>
      rw [integer?_minus, map_natural?_eq_some_iff]
      exact ⟨hnumeral, rfl⟩

/-- A text denotes at most one integer. -/
theorem Denotes.unique {text : List Char} {value other : Int} (h : Denotes text value)
    (hother : Denotes text other) : value = other :=
  Option.some.inj ((integer?_eq_some_iff.mpr h).symm.trans (integer?_eq_some_iff.mpr hother))

/-- A number is written as a numeral. -/
theorem isNumeral_digits (n : Nat) : IsNumeral (digits n) := by
  rw [digits_eq_toDigits]
  exact ⟨Nat.toDigits_ne_nil, fun c hc => Nat.isDigit_of_mem_toDigits (by decide) (by decide) hc⟩

/-- A number is denoted by the text that is written for it. -/
theorem denotes_digits (n : Nat) : Denotes (digits n) n := by
  have hvalue : Nat.ofDigitChars 10 (digits n) 0 = n := by
    rw [digits_eq_toDigits]
    exact Nat.ofDigitChars_ten_toDigits
  have hdenotes := Denotes.unsigned (isNumeral_digits n)
  rwa [hvalue] at hdenotes

/-! ### Reading in 32 bits -/

/-- An integer, if it can be held in 32 bits with a sign. -/
def int32? (value : Int) : Option Int :=
  if -2147483648 ≤ value ∧ value ≤ 2147483647 then some value else none

/-- A step of reading in 32 bits: the word is multiplied by ten and then moved away from zero by a
digit, if there is room for both. -/
def advance (sign : Int) (word : Option Int) (c : Char) : Option Int := do
  int32? ((← int32? ((← word) * 10)) + sign * (← digit? c))

/-- The integer that digits after a sign denote, read in 32 bits. -/
def digitsInt32? (sign : Int) (text : List Char) : Option Int :=
  if text.isEmpty then none else text.foldl (advance sign) (some 0)

/-- The integer that a text denotes, read in 32 bits. -/
def readInt32? : List Char → Option Int
  | '-' :: rest => digitsInt32? (-1) rest
  | '+' :: rest => digitsInt32? 1 rest
  | text => digitsInt32? 1 text

/-- A digit is added in 32 bits exactly if there is room for the exact value: a word that is too far
from zero does not come back. -/
theorem int32?_add_digit {sign : Int} (hsign : sign = 1 ∨ sign = -1) (value digit : Nat) :
    ((int32? (sign * value)).bind fun word =>
        (int32? (word * 10)).bind fun moved => int32? (moved + sign * digit)) =
      int32? (sign * (value * 10 + digit : Nat)) := by
  by_cases hword : -2147483648 ≤ sign * value ∧ sign * value ≤ 2147483647
  · by_cases hmoved : -2147483648 ≤ sign * value * 10 ∧ sign * value * 10 ≤ 2147483647
    · have hexact : sign * value * 10 + sign * digit = sign * (value * 10 + digit : Nat) := by
        rcases hsign with rfl | rfl <;> omega
      rw [int32?, if_pos hword, Option.bind_some, int32?, if_pos hmoved, Option.bind_some, hexact]
    · rw [int32?, if_pos hword, Option.bind_some, int32?, if_neg hmoved, Option.bind_none, int32?,
        if_neg (by rcases hsign with rfl | rfl <;> omega)]
  · rw [int32?, if_neg hword, Option.bind_none, int32?,
      if_neg (by rcases hsign with rfl | rfl <;> omega)]

/-- Digits that are read in 32 bits come to their exact value, if there is room for it. -/
theorem foldl_advance {sign : Int} (hsign : sign = 1 ∨ sign = -1) (text : List Char)
    (value : Nat) :
    text.foldl (advance sign) (int32? (sign * value)) =
      if text.all Char.isDigit then int32? (sign * Nat.ofDigitChars 10 text value) else none := by
  induction text generalizing value with
  | nil => rfl
  | cons c rest ih =>
    rw [List.foldl_cons, advance, digit?_eq, List.all_cons]
    cases hdigit : c.isDigit with
    | true =>
      rw [if_pos rfl, Bool.true_and, Nat.ofDigitChars_cons, Nat.mul_comm 10, ← ih]
      exact congrArg (rest.foldl (advance sign)) (int32?_add_digit hsign value _)
    | false =>
      have hnone : ((int32? (sign * value)).bind fun word =>
          (int32? (word * 10)).bind fun _ => (none : Option Int)) = none := by
        simp
      rw [Bool.false_and]
      exact (congrArg (rest.foldl (advance sign)) hnone).trans (foldl_none (fun _ => rfl) rest)

/-- The integer that digits after a sign denote is read in 32 bits exactly if there is room
for it. -/
theorem digitsInt32?_eq {sign : Int} (hsign : sign = 1 ∨ sign = -1) (text : List Char) :
    digitsInt32? sign text = (natural? text).bind fun n => int32? (sign * n) := by
  have hread := foldl_advance hsign text 0
  have hzero : int32? (sign * (0 : Nat)) = some 0 := by simp [int32?]
  rw [hzero] at hread
  rw [digitsInt32?, natural?, foldl_digit?, hread]
  split
  · rfl
  · split <;> rfl

/-- The integer that a text denotes is read in 32 bits exactly if there is room for it, however many
digits there are. -/
theorem readInt32?_eq (text : List Char) : readInt32? text = (integer? text).bind int32? := by
  rcases sign_cases text with ⟨rest, rfl⟩ | ⟨rest, rfl⟩ | ⟨hminus, hplus⟩
  · rw [readInt32?, integer?_minus, digitsInt32?_eq (Or.inr rfl)]
    cases natural? rest <;> simp
  · rw [readInt32?, integer?_plus, digitsInt32?_eq (Or.inl rfl)]
    cases natural? rest <;> simp
  · rw [readInt32?, integer?_of_unsigned hminus hplus, digitsInt32?_eq (Or.inl rfl)]
    · cases natural? text <;> simp
    · exact hminus
    · exact hplus

/-- The integer that is read in 32 bits is the one that the text denotes, if there is room. -/
theorem readInt32?_eq_some_iff {text : List Char} {value : Int} :
    readInt32? text = some value ↔
      Denotes text value ∧ -2147483648 ≤ value ∧ value ≤ 2147483647 := by
  rw [readInt32?_eq, Option.bind_eq_some_iff]
  constructor
  · rintro ⟨number, hnumber, hroom⟩
    rw [int32?] at hroom
    split at hroom
    · next hrange =>
      obtain rfl := Option.some.inj hroom
      exact ⟨integer?_eq_some_iff.mp hnumber, hrange⟩
    · cases hroom
  · rintro ⟨hdenotes, hrange⟩
    exact ⟨value, integer?_eq_some_iff.mpr hdenotes, if_pos hrange⟩

/-- Nothing is read in 32 bits from a text that denotes no integer for which there is room. -/
theorem readInt32?_eq_none_iff {text : List Char} :
    readInt32? text = none ↔
      ¬ ∃ value, Denotes text value ∧ -2147483648 ≤ value ∧ value ≤ 2147483647 := by
  rw [Option.eq_none_iff_forall_ne_some, not_exists]
  exact forall_congr' fun value => not_congr readInt32?_eq_some_iff

end Relocation.Decimal
