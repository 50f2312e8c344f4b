import RuleTrace.Json.Value
import RuleTrace.Proofs.Text.Numeral

/-!
# `RuleTrace.Proofs.Json.Printable`: compact text is one line

In the compact text of a value every control character is escaped, so
none is in the text (`printable_render`). In particular the text has no
line feed, whatever its strings hold.
-/

set_option autoImplicit false

namespace RuleTrace.Json

open Text

/-- A text without control characters. -/
def Printable (s : List Char) : Prop := ∀ c ∈ s, 0x20 ≤ c.toNat

instance (s : List Char) : Decidable (Printable s) :=
  List.decidableBAll (fun c : Char => 0x20 ≤ c.toNat) s

/-- The empty text has no control characters. -/
@[simp] theorem printable_nil : Printable [] := List.forall_mem_nil _

/-- The first character is looked at, and then the rest. -/
@[simp] theorem printable_cons (c : Char) (s : List Char) :
    Printable (c :: s) ↔ 0x20 ≤ c.toNat ∧ Printable s := List.forall_mem_cons

/-- Two texts one after the other are looked at each for itself. -/
@[simp] theorem printable_append (s t : List Char) :
    Printable (s ++ t) ↔ Printable s ∧ Printable t := List.forall_mem_append

/-- A line feed is a control character. -/
theorem Printable.newline_not_mem {s : List Char} (h : Printable s) : '\n' ∉ s := by
  intro hmem
  exact absurd (h _ hmem) (by decide)

/-! ### Words -/

/-- Digits are no control characters. -/
theorem printable_decimal (n : Nat) : Printable (decimal n) := by
  intro c hc
  have hdigit := isDigit_of_mem_decimal hc
  simp only [Char.isDigit, Bool.and_eq_true, decide_eq_true_eq] at hdigit
  have hzero : 48 ≤ c.toNat := hdigit.1
  omega

/-- A number has no control characters. -/
theorem printable_number (n : Number) : Printable n.render := by
  cases n with
  | natural n => exact printable_decimal n
  | negative n => exact (printable_cons _ _).mpr ⟨by decide, printable_decimal n⟩
  | inexact => decide

/-- A control character is escaped by a letter or by its digits. -/
theorem printable_escapedChar (c : Char) : Printable (escapedChar c) := by
  unfold escapedChar
  split
  · rename_i l hletter
    unfold escapeLetter? at hletter
    split at hletter <;> cases hletter <;> decide
  · split
    · rename_i hcontrol
      -- There are few control characters, and each is looked at.
      have hdigits : ∀ n, n < 32 → Printable ('\\' :: 'u' :: hex 4 n) := by decide
      exact hdigits c.toNat hcontrol
    · rename_i hplain
      exact (printable_cons _ _).mpr ⟨Nat.le_of_not_lt hplain, printable_nil⟩

/-- A string has none, whatever it holds. -/
theorem printable_string (s : String) : Printable (renderString s) := by
  have hchars : ∀ cs : List Char, Printable (cs.flatMap escapedChar) := by
    intro cs
    induction cs with
    | nil => exact printable_nil
    | cons c cs ih => exact (printable_append _ _).mpr ⟨printable_escapedChar c, ih⟩
  rw [renderString, printable_append, printable_cons]
  exact ⟨⟨by decide, hchars _⟩, by decide⟩

/-! ### Values -/

mutual

/-- The compact text of a value has no control characters. -/
theorem printable_render : ∀ v : Value, Printable v.render
  | .null => by decide
  | .bool true => by decide
  | .bool false => by decide
  | .number n => printable_number n
  | .string s => printable_string s
  | .array [] => by decide
  | .array (x :: xs) => by
    have hfirst := printable_render x
    have hrest := printable_renderElements xs
    rw [Value.render]
    simp [hfirst, hrest]
  | .object [] => by decide
  | .object ((k, x) :: ms) => by
    have hname := printable_string k
    have hfirst := printable_render x
    have hrest := printable_renderMembers ms
    rw [Value.render]
    simp [hname, hfirst, hrest]

/-- The elements after the first have no control characters. -/
theorem printable_renderElements : ∀ xs : List Value, Printable (renderElements xs)
  | [] => by decide
  | x :: xs => by
    have hfirst := printable_render x
    have hrest := printable_renderElements xs
    rw [renderElements]
    simp [hfirst, hrest]

/-- The members after the first have none. -/
theorem printable_renderMembers : ∀ ms : List (String × Value), Printable (renderMembers ms)
  | [] => by decide
  | (k, x) :: ms => by
    have hname := printable_string k
    have hfirst := printable_render x
    have hrest := printable_renderMembers ms
    rw [renderMembers]
    simp [hname, hfirst, hrest]

end

end RuleTrace.Json
