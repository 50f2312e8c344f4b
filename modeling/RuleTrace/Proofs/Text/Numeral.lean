import RuleTrace.Text.Numeral

/-!
# `RuleTrace.Proofs.Text.Numeral`: numbers are read as they are written

Digits that are written by `decimal` are digits, and at least one; a
zero leads them only if it is alone. Read from left to right they give
the number again (`Nat.ofDigitChars`), and so does `nat?`
(`nat?_decimal`). Hexadecimal digits are read back by `natInBase?`, and
zeros in front of them make no difference (`natInBase?_hex`).
-/

set_option autoImplicit false

namespace RuleTrace.Text

/-- A number is written with a digit at least. -/
theorem decimal_ne_nil (n : Nat) : decimal n ≠ [] := Nat.toDigits_ne_nil

/-- Numbers are written in digits. -/
theorem isDigit_of_mem_decimal {n : Nat} {c : Char} (h : c ∈ decimal n) : c.isDigit :=
  Nat.isDigit_of_mem_toDigits (by decide) (by decide) h

/-- They are also when zeros fill them up. -/
theorem isDigit_of_mem_padLeft {width n : Nat} {c : Char}
    (h : c ∈ padLeft '0' width (decimal n)) : c.isDigit := by
  rcases List.mem_append.mp h with hzero | hdigit
  · rw [List.eq_of_mem_replicate hzero]
    decide
  · exact isDigit_of_mem_decimal hdigit

/-- Less than ten is written with one digit. -/
theorem decimal_of_lt {n : Nat} (h : n < 10) : decimal n = [n.digitChar] :=
  Nat.toDigits_of_lt_base h

/-- Ten or more is written with a last digit behind the others. -/
theorem decimal_of_le {n : Nat} (h : 10 ≤ n) :
    decimal n = decimal (n / 10) ++ [(n % 10).digitChar] :=
  Nat.toDigits_of_base_le (by decide) h

/-- No zero leads the digits of a positive number. -/
theorem head?_decimal_ne_zero {n : Nat} (h : 0 < n) : (decimal n).head? ≠ some '0' := by
  induction n using Nat.strongRecOn with
  | ind n ih =>
    by_cases hlt : n < 10
    · rw [decimal_of_lt hlt]
      have hdigit : ∀ d, d < 10 → 0 < d → d.digitChar ≠ '0' := by decide
      simpa using hdigit n hlt h
    · -- The first digit is that of `n / 10`, which is positive too.
      have hhead := ih (n / 10) (by omega) (by omega)
      obtain ⟨d, ds, hds⟩ := List.exists_cons_of_ne_nil (decimal_ne_nil (n / 10))
      rw [hds] at hhead
      rw [decimal_of_le (by omega), hds]
      exact hhead

/-- A zero that leads the digits stands alone. -/
theorem length_decimal_of_head?_zero {n : Nat} (h : (decimal n).head? = some '0') :
    (decimal n).length = 1 := by
  rcases Nat.eq_zero_or_pos n with rfl | hpos
  · rfl
  · exact absurd h (head?_decimal_ne_zero hpos)

/-- The value of a digit is the same in all readers. -/
theorem hexDigit?_of_isDigit {c : Char} (h : c.isDigit) : hexDigit? c = some (c.toNat - 48) :=
  if_pos h

/-- A digit stands for less than ten. -/
theorem toNat_lt_of_isDigit {c : Char} (h : c.isDigit) : c.toNat - 48 < 10 := by
  simp only [Char.isDigit, Bool.and_eq_true, decide_eq_true_eq] at h
  have h9 : c.val.toNat ≤ 57 := h.2
  show c.val.toNat - 48 < 10
  omega

/-- Digits are read from left to right. -/
theorem nat?_of_digits {s : List Char} (hne : s ≠ []) (h : ∀ c ∈ s, c.isDigit) :
    nat? s = some (Nat.ofDigitChars 10 s 0) := by
  -- For any number read so far; the digits that follow go behind it.
  have hfold : ∀ n, s.foldlM (fun acc c => (hexDigit? c).bind fun d =>
      if d < 10 then some (10 * acc + d) else none) n = some (Nat.ofDigitChars 10 s n) := by
    clear hne
    induction s with
    | nil => exact fun n => rfl
    | cons c s ih =>
      intro n
      have hc := h c List.mem_cons_self
      have hrest := ih (fun d hd => h d (List.mem_cons_of_mem c hd)) (10 * n + (c.toNat - 48))
      rw [List.foldlM_cons, hexDigit?_of_isDigit hc, Option.bind_some,
        if_pos (toNat_lt_of_isDigit hc)]
      exact hrest
  rw [nat?, natInBase?, if_neg (by simpa using hne)]
  exact hfold 0

/-- Digits that write a number, from left to right. -/
def Digits (s : List Char) (n : Nat) : Prop :=
  s ≠ [] ∧ (∀ c ∈ s, c.isDigit) ∧ Nat.ofDigitChars 10 s 0 = n

/-- A character that stands for less than ten is a digit. -/
theorem isDigit_of_hexDigit? {c : Char} {d : Nat} (h : hexDigit? c = some d) (hlt : d < 10) :
    c.isDigit := by
  unfold hexDigit? at h
  split at h
  · assumption
  · split at h
    · simp only [Option.some.injEq] at h
      omega
    · split at h
      · simp only [Option.some.injEq] at h
        omega
      · cases h

/-- Digits are all that is read. -/
theorem nat?_eq_some_iff {s : List Char} {n : Nat} : nat? s = some n ↔ Digits s n := by
  constructor
  · intro h
    have hne : s ≠ [] := by
      rintro rfl
      cases h
    have hdigits : ∀ c ∈ s, c.isDigit := by
      rw [nat?, natInBase?, if_neg (by simpa using hne)] at h
      -- For any number read so far.
      generalize 0 = acc at h
      clear hne
      induction s generalizing acc with
      | nil => exact List.forall_mem_nil _
      | cons c s ih =>
        rw [List.foldlM_cons, Option.bind_eq_bind, Option.bind_eq_some_iff] at h
        obtain ⟨next, hnext, hrest⟩ := h
        obtain ⟨d, hd, hvalue⟩ := Option.bind_eq_some_iff.mp hnext
        have hlt : d < 10 := Decidable.byContradiction fun hge => by
          rw [if_neg hge] at hvalue
          cases hvalue
        exact List.forall_mem_cons.mpr ⟨isDigit_of_hexDigit? hd hlt, ih next hrest⟩
    rw [nat?_of_digits hne hdigits] at h
    exact ⟨hne, hdigits, Option.some.inj h⟩
  · rintro ⟨hne, hdigits, rfl⟩
    exact nat?_of_digits hne hdigits

/-- A number is read as it was written. -/
theorem nat?_decimal (n : Nat) : nat? (decimal n) = some n := by
  rw [nat?_of_digits (decimal_ne_nil n) fun _ => isDigit_of_mem_decimal]
  exact congrArg some Nat.ofDigitChars_ten_toDigits

/-- Two numbers are not written alike. -/
theorem decimal_injective {m n : Nat} (h : decimal m = decimal n) : m = n := by
  have hread := nat?_decimal m
  rw [h, nat?_decimal] at hread
  exact (Option.some.inj hread).symm

/-! ### Hexadecimal digits -/

/-- Each hexadecimal digit is read as it was written. -/
theorem hexDigit?_digitChar : ∀ d, d < 16 → hexDigit? d.digitChar = some d := by
  decide

/-- A decimal digit is a hexadecimal one. -/
theorem isSome_hexDigit?_of_isDigit {c : Char} (h : c.isDigit) : (hexDigit? c).isSome := by
  rw [hexDigit?_of_isDigit h]
  rfl

/-- A number is written with a hexadecimal digit at least. -/
theorem hex_ne_nil (width n : Nat) : hex width n ≠ [] := by
  unfold hex padLeft
  simp [Nat.toDigits_ne_nil]

/-- Only digits are written, those that fill up the width among them. -/
theorem isSome_hexDigit?_of_mem_hex {width n : Nat} {c : Char} (h : c ∈ hex width n) :
    (hexDigit? c).isSome := by
  rcases List.mem_append.mp h with hfill | hdigit
  · rw [List.eq_of_mem_replicate hfill]
    rfl
  · -- A digit is the last one, or one of those of `n / 16`.
    induction n using Nat.strongRecOn with
    | ind n ih =>
      by_cases hlt : n < 16
      · rw [Nat.toDigits_of_lt_base hlt, List.mem_singleton] at hdigit
        rw [hdigit, hexDigit?_digitChar n hlt]
        rfl
      · rw [Nat.toDigits_of_base_le (by decide) (by omega)] at hdigit
        rcases List.mem_append.mp hdigit with hfront | hlast
        · exact ih (n / 16) (by omega) (List.mem_append_right _ hfront) hfront
        · rw [List.mem_singleton.mp hlast, hexDigit?_digitChar (n % 16) (by omega)]
          rfl

/-- The number read so far with one more hexadecimal digit behind it. -/
def withHexDigit? (n : Nat) (c : Char) : Option Nat :=
  (hexDigit? c).bind fun d => if d < 16 then some (16 * n + d) else none

/-- A digit that was written goes behind the number read so far. -/
theorem withHexDigit?_digitChar (n : Nat) {d : Nat} (h : d < 16) :
    withHexDigit? n d.digitChar = some (16 * n + d) := by
  rw [withHexDigit?, hexDigit?_digitChar d h, Option.bind_some, if_pos h]

/-- Zeros in front add nothing. -/
theorem foldlM_withHexDigit?_zeros (k : Nat) :
    (List.replicate k '0').foldlM withHexDigit? 0 = some 0 := by
  induction k with
  | zero => rfl
  | succ k ih => exact ih

/-- The digits of a number are read from left to right. -/
theorem foldlM_withHexDigit?_toDigits (n : Nat) :
    (Nat.toDigits 16 n).foldlM withHexDigit? 0 = some n := by
  induction n using Nat.strongRecOn with
  | ind n ih =>
    by_cases hlt : n < 16
    · rw [Nat.toDigits_of_lt_base hlt, List.foldlM_cons, withHexDigit?_digitChar 0 hlt]
      simp
    · -- The last digit goes behind those of `n / 16`.
      have hlast : 16 * (n / 16) + n % 16 = n := Nat.div_add_mod n 16
      rw [Nat.toDigits_of_base_le (by decide) (by omega), List.foldlM_append,
        ih (n / 16) (by omega)]
      show [(n % 16).digitChar].foldlM withHexDigit? (n / 16) = some n
      rw [List.foldlM_cons, withHexDigit?_digitChar _ (by omega), hlast]
      rfl

/-- Hexadecimal digits are read as the number that they write, whatever
the width. -/
theorem natInBase?_hex (width n : Nat) : natInBase? 16 (hex width n) = some n := by
  rw [natInBase?, if_neg (by simpa using hex_ne_nil width n)]
  show (hex width n).foldlM withHexDigit? 0 = some n
  rw [hex, padLeft, List.foldlM_append, foldlM_withHexDigit?_zeros]
  exact foldlM_withHexDigit?_toDigits n

/-- Two numbers are not written alike in hexadecimal digits. -/
theorem hex_injective {width m n : Nat} (h : hex width m = hex width n) : m = n := by
  have hread := natInBase?_hex width m
  rw [h, natInBase?_hex] at hread
  exact (Option.some.inj hread).symm

end RuleTrace.Text
