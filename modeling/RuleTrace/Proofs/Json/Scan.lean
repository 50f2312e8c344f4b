import RuleTrace.Json.Scan
import RuleTrace.Proofs.Text.Numeral

/-!
# `RuleTrace.Proofs.Json.Scan`: words are read as they are written

A string is read back from its compact text: each character, escaped
or not, is read as this character (`stringFrom_escapedChar`), and so are
all of them up to the closing quote. A number is read back if it is in
the range of its kind (`Number.Fits`). Its text has no end of its own,
so what comes after it must not go on with it: in a compact text that
is a comma or a closing bracket (`EndsValue`).
-/

set_option autoImplicit false

namespace RuleTrace.Json

open Text

/-! ### Strings -/

/-- The letter of an escape is read as the character it is written
for. -/
theorem unescape?_of_escapeLetter? {c l : Char} (h : escapeLetter? c = some l) :
    unescape? l = some c ∧ l ≠ 'u' := by
  unfold escapeLetter? at h
  split at h <;> cases h <;> decide

/-- A character without a letter ends neither string nor text. -/
theorem ne_of_escapeLetter?_eq_none {c : Char} (h : escapeLetter? c = none) :
    c ≠ '"' ∧ c ≠ '\\' := by
  constructor <;> rintro rfl <;> cases h

/-- The two digits that tell a control character. -/
theorem hex_of_lt : ∀ n, n < 32 → hex 4 n = ['0', '0', (n / 16).digitChar, (n % 16).digitChar] := by
  decide

/-- A hexadecimal digit is one octet. -/
theorem utf8Size_digitChar : ∀ d, d < 16 → d.digitChar.utf8Size = 1 := by
  decide

/-- A control character is read from its four digits. -/
theorem stringFrom_control {c : Char} (h : c.toNat < 0x20) (s : List Char) :
    stringFrom true .plain ('\\' :: 'u' :: hex 4 c.toNat ++ s)
      = prepend (some c) (stringFrom true .plain s) := by
  have hzero : hexDigit? '0' = some 0 := rfl
  have hhigh := hexDigit?_digitChar (c.toNat / 16) (by omega)
  have hlow := hexDigit?_digitChar (c.toNat % 16) (by omega)
  have hvalue : 16 * (c.toNat / 16) + c.toNat % 16 = c.toNat := by omega
  have hafter : afterDigits true c.toNat none = .ok (some c, .plain) := by
    -- A control character is no surrogate, so its escape is complete.
    have hlow : isLowSurrogate c.toNat = false := by
      simp only [isLowSurrogate, Bool.and_eq_false_iff, decide_eq_false_iff_not]
      omega
    have hhigh : isHighSurrogate c.toNat = false := by
      simp only [isHighSurrogate, Bool.and_eq_false_iff, decide_eq_false_iff_not]
      omega
    simp [afterDigits, hlow, hhigh, Char.ofNat_toNat]
  have hlong : endsWithinDigits
      ('0' :: '0' :: (c.toNat / 16).digitChar :: (c.toNat % 16).digitChar :: s) = false := by
    have hzero : '0'.utf8Size = 1 := rfl
    have hhigh := utf8Size_digitChar (c.toNat / 16) (by omega)
    have hlow := utf8Size_digitChar (c.toNat % 16) (by omega)
    simp [endsWithinDigits, hzero, hhigh, hlow]
  rw [hex_of_lt c.toNat h]
  simp only [List.cons_append, List.nil_append]
  -- The backslash and its letter, then one digit after the other.
  rw [stringFrom, if_neg (by decide), if_pos rfl, stringFrom, if_pos rfl, hlong]
  simp [stringFrom, hzero, hhigh, hlow, hvalue, hafter]

/-- A character is read as it is written. -/
theorem stringFrom_escapedChar (c : Char) (s : List Char) :
    stringFrom true .plain (escapedChar c ++ s) = prepend (some c) (stringFrom true .plain s) := by
  rw [escapedChar]
  cases hletter : escapeLetter? c with
  | some l =>
    obtain ⟨hunescape, hu⟩ := unescape?_of_escapeLetter? hletter
    simp [stringFrom, hu, hunescape]
  | none =>
    obtain ⟨hquote, hslash⟩ := ne_of_escapeLetter?_eq_none hletter
    -- Without a letter it is written with its digits or as it is.
    by_cases hcontrol : c.toNat < 0x20
    · simp only [hcontrol, if_true]
      exact stringFrom_control hcontrol s
    · simp only [hcontrol, if_false]
      rw [List.singleton_append, stringFrom, if_neg hquote, if_neg hslash, if_neg hcontrol]

/-- A string is read up to its closing quote. -/
theorem readString_escaped (s : String) (rest : List Char) :
    readString (s.toList.flatMap escapedChar ++ '"' :: rest) = .ok (s, rest) := by
  have hchars : ∀ cs : List Char,
      stringFrom true .plain (cs.flatMap escapedChar ++ '"' :: rest) = .ok (cs, rest) := by
    intro cs
    induction cs with
    | nil => rfl
    | cons c cs ih =>
      rw [List.flatMap_cons, List.append_assoc, stringFrom_escapedChar, ih]
      rfl
  rw [readString, hchars]
  exact congrArg (fun t => Except.ok (t, rest)) String.ofList_toList

/-! ### Numbers -/

/-- A number in the range of its kind. -/
def Number.Fits : Number → Prop
  | .natural n => n < UInt64.size
  | .negative n => 0 < n ∧ n ≤ UInt64.size / 2
  | .inexact => True

/-- What may come after a value in a compact text: nothing, or a
character that ends the value. -/
def EndsValue (rest : List Char) : Prop :=
  ∀ c ∈ rest.head?, c = ',' ∨ c = ']' ∨ c = '\x7d'

/-- The end of the text ends a value. -/
theorem endsValue_nil : EndsValue [] := by
  intro c h
  cases h

/-- So does a comma or a closing bracket. -/
theorem endsValue_cons {c : Char} (h : c = ',' ∨ c = ']' ∨ c = '\x7d') (rest : List Char) :
    EndsValue (c :: rest) := by
  rintro d ⟨⟩
  exact h

section
variable {rest : List Char} (h : EndsValue rest)
include h

/-- Digits that are written are cut off whole. -/
theorem digits1_append {ds : List Char} (hne : ds ≠ []) (hds : ∀ c ∈ ds, c.isDigit) :
    digits1 (ds ++ rest) = .ok (ds, rest) := by
  -- What follows does not begin with a digit.
  have hrest : rest.takeWhile Char.isDigit = [] ∧ rest.dropWhile Char.isDigit = rest := by
    cases rest with
    | nil => exact ⟨rfl, rfl⟩
    | cons c rest =>
      have hc : c.isDigit = false := by
        rcases h c rfl with rfl | rfl | rfl <;> rfl
      rw [List.takeWhile_cons_of_neg (by rw [hc]; decide),
        List.dropWhile_cons_of_neg (by rw [hc]; decide)]
      exact ⟨rfl, rfl⟩
  rw [digits1, List.takeWhile_append_of_pos hds, List.dropWhile_append_of_pos hds, hrest.1,
    hrest.2, List.append_nil]
  exact if_neg (by simpa using hne)

/-- The whole part of a number ends with its digits. -/
theorem wholePart_decimal (n : Nat) : wholePart (decimal n ++ rest) = .ok (decimal n, rest) := by
  rw [wholePart, digits1_append h (decimal_ne_nil n) fun _ => isDigit_of_mem_decimal]
  exact if_neg fun hzero => hzero.2 (length_decimal_of_head?_zero hzero.1)

/-- No fraction begins where a value ends. -/
theorem fractionPart_of_endsValue : fractionPart rest = .ok (none, rest) := by
  cases rest with
  | nil => rfl
  | cons c rest => rcases h c rfl with rfl | rfl | rfl <;> rfl

/-- No exponent begins where a value ends. -/
theorem exponentPart_of_endsValue : exponentPart rest = .ok (none, rest) := by
  cases rest with
  | nil => rfl
  | cons c rest => rcases h c rfl with rfl | rfl | rfl <;> rfl

/-- A natural number is cut into its parts. -/
theorem numeral_decimal (n : Nat) :
    numeral (decimal n ++ rest) = .ok (⟨false, decimal n, none, none⟩, rest) := by
  have hwhole := wholePart_decimal h n
  obtain ⟨d, ds, hds⟩ := List.exists_cons_of_ne_nil (decimal_ne_nil n)
  have hminus : d ≠ '-' := by
    rintro rfl
    exact absurd (isDigit_of_mem_decimal (hds ▸ List.mem_cons_self)) (by decide)
  rw [hds] at hwhole ⊢
  rw [List.cons_append] at hwhole ⊢
  -- The equation of `numeral` without a sign asks that there is none.
  rw [numeral]
  · simp only [hwhole, fractionPart_of_endsValue h, exponentPart_of_endsValue h]
  · intro s e
    exact hminus (List.cons.inj e).1

/-- So is a negative one. -/
theorem numeral_minus_decimal (n : Nat) :
    numeral ('-' :: decimal n ++ rest) = .ok (⟨true, decimal n, none, none⟩, rest) := by
  rw [List.cons_append, numeral]
  simp only [wholePart_decimal h, fractionPart_of_endsValue h, exponentPart_of_endsValue h]

end

/-- Digits of a number that fits 64 bits are all taken. -/
theorem accumulate_of_lt {ds : List Char} {n : Nat} (h : Nat.ofDigitChars 10 ds n < UInt64.size) :
    accumulate n ds = (Nat.ofDigitChars 10 ds n, []) := by
  -- Digits only make a number greater, so every number on the way fits too.
  have hle : ∀ (ds : List Char) (n : Nat), n ≤ Nat.ofDigitChars 10 ds n := by
    intro ds
    induction ds with
    | nil => exact fun n => Nat.le_refl n
    | cons d ds ih =>
      intro n
      have := ih (10 * n + (d.toNat - '0'.toNat))
      rw [Nat.ofDigitChars_cons]
      omega
  induction ds generalizing n with
  | nil => rfl
  | cons d ds ih =>
    rw [Nat.ofDigitChars_cons] at h ⊢
    rw [accumulate]
    exact (if_pos (Nat.lt_of_le_of_lt (hle ds _) h)).trans (ih h)

/-- The digits of a number that fits are all taken. -/
theorem accumulate_decimal {n : Nat} (h : n < UInt64.size) :
    accumulate 0 (decimal n) = (n, []) := by
  have hvalue : Nat.ofDigitChars 10 (decimal n) 0 = n := Nat.ofDigitChars_ten_toDigits
  rw [accumulate_of_lt (by rwa [hvalue]), hvalue]

/-- The number is told by the parts of its numeral. -/
theorem parts_decimal {n : Nat} (h : n < UInt64.size) (negative : Bool) :
    Numeral.parts ⟨negative, decimal n, none, none⟩ = (n, 0) := by
  simp only [Numeral.parts, accumulate_decimal h]
  rfl

/-- Without a fraction a numeral is that of a whole number. -/
theorem isWhole_decimal {n : Nat} (h : n < UInt64.size) (negative : Bool) :
    Numeral.isWhole ⟨negative, decimal n, none, none⟩ = true := by
  simp only [Numeral.isWhole, accumulate_decimal h]
  rfl

/-- A number is read as it is written. -/
theorem readNumber_render {n : Number} (hfits : n.Fits) {rest : List Char} (h : EndsValue rest) :
    readNumber (n.render ++ rest) = .ok (n, rest) := by
  cases n with
  | natural n =>
    have hlt : n < UInt64.size := hfits
    rw [Number.render, readNumber, numeral_decimal h]
    simp only [Numeral.judge, parts_decimal hlt, isWhole_decimal hlt]
    rfl
  | negative n =>
    have hlt : n < UInt64.size := Nat.lt_of_le_of_lt hfits.2 (by decide)
    -- The magnitude is in the range of the negative numbers.
    have hrange : ¬ (n = 0 ∨ UInt64.size / 2 < n) := by
      have := hfits.1
      have := hfits.2
      omega
    rw [Number.render, readNumber, numeral_minus_decimal h]
    simp only [Numeral.judge, parts_decimal hlt, isWhole_decimal hlt, if_true, if_neg hrange]
    rfl
  | inexact =>
    have hwhole : wholePart ('0' :: '.' :: '0' :: rest) = .ok (['0'], '.' :: '0' :: rest) := rfl
    have hfraction : fractionPart ('.' :: '0' :: rest) = .ok (some ['0'], rest) := by
      have hdigits := digits1_append h (List.cons_ne_nil '0' []) fun c hc => by
        rw [List.mem_singleton.mp hc]
        rfl
      rw [List.singleton_append] at hdigits
      rw [fractionPart, hdigits]
      rfl
    have hnumeral : numeral ('0' :: '.' :: '0' :: rest)
        = .ok (⟨false, ['0'], some ['0'], none⟩, rest) := by
      rw [numeral]
      · simp only [hwhole, hfraction, exponentPart_of_endsValue h]
      · intro s e
        exact absurd (List.cons.inj e).1 (by decide)
    show readNumber ('0' :: '.' :: '0' :: rest) = _
    rw [readNumber, hnumeral]
    rfl

end RuleTrace.Json
