import RuleTrace.Record.Address
import RuleTrace.Text.Numeral

/-!
# `RuleTrace.Proofs.Text.Fields`: texts put together are taken apart again

A text that is put together from parts tells its parts if what stands
between them does not occur in them. It is cut at the first or at the
last place of a character (`cut_first`, `cut_last`), at all places
(`joinWith_injective`), or where spaces begin to fill it up
(`padRight_injective`).
-/

set_option autoImplicit false

namespace RuleTrace.Text

section
variable {α : Type} {a : α} {xs ys us vs : List α}

/-- What stands before the first place of an element, and what stands
after it, can be told. -/
theorem cut_first (hx : a ∉ xs) (hy : a ∉ ys) (h : xs ++ a :: us = ys ++ a :: vs) :
    xs = ys ∧ us = vs := by
  induction xs generalizing ys with
  | nil =>
    cases ys with
    | nil => exact ⟨rfl, (List.cons.inj h).2⟩
    | cons y ys =>
      -- The element would stand at the start of `y :: ys`.
      obtain ⟨rfl, -⟩ := List.cons.inj h
      exact absurd List.mem_cons_self hy
  | cons x xs ih =>
    cases ys with
    | nil =>
      obtain ⟨rfl, -⟩ := List.cons.inj h
      exact absurd List.mem_cons_self hx
    | cons y ys =>
      -- Both begin with the same element, which is not the one cut at.
      obtain ⟨rfl, hrest⟩ := List.cons.inj h
      obtain ⟨rfl, hafter⟩ := ih (fun hmem => hx (List.mem_cons_of_mem x hmem))
        (fun hmem => hy (List.mem_cons_of_mem x hmem)) hrest
      exact ⟨rfl, hafter⟩

/-- The same for the last place of an element. -/
theorem cut_last (hu : a ∉ us) (hv : a ∉ vs) (h : xs ++ a :: us = ys ++ a :: vs) :
    xs = ys ∧ us = vs := by
  -- Seen from the end, the last place is the first.
  have hreverse : us.reverse ++ a :: xs.reverse = vs.reverse ++ a :: ys.reverse := by
    simpa using congrArg List.reverse h
  obtain ⟨hafter, hbefore⟩ := cut_first (by simpa using hu) (by simpa using hv) hreverse
  exact ⟨List.reverse_inj.mp hbefore, List.reverse_inj.mp hafter⟩

end

/-! ### Columns -/

/-- A text without spaces is what stands before the spaces that fill it
up. -/
theorem takeWhile_padRight (width : Nat) {s : List Char} (h : ' ' ∉ s) :
    (padRight width s).takeWhile (fun c => c ≠ ' ') = s := by
  have hkept : ∀ c ∈ s, decide (c ≠ ' ') = true := by
    intro c hc
    refine decide_eq_true ?_
    rintro rfl
    exact h hc
  -- The first space is one that was filled in.
  rw [padRight, List.takeWhile_append_of_pos hkept, List.takeWhile_replicate]
  simp

/-- Texts without spaces are told in columns of one width. -/
theorem padRight_injective {width : Nat} {s t : List Char} (hs : ' ' ∉ s) (ht : ' ' ∉ t)
    (h : padRight width s = padRight width t) : s = t := by
  rw [← takeWhile_padRight width hs, h, takeWhile_padRight width ht]

/-- Nothing but spaces is filled in. -/
theorem not_mem_padRight {width : Nat} {s : List Char} {c : Char} (hspace : c ≠ ' ') (h : c ∉ s) :
    c ∉ padRight width s := by
  intro hmem
  rcases List.mem_append.mp hmem with hmem | hfill
  · exact h hmem
  · exact hspace (List.eq_of_mem_replicate hfill)

/-! ### Separators -/

section
variable {sep : Char} {ss ts : List (List Char)}

/-- Joining is what the library calls by another name. -/
theorem joinWith_eq_intercalate (sep : Char) (ss : List (List Char)) :
    joinWith sep ss = [sep].intercalate ss := by
  induction ss with
  | nil => rfl
  | cons s ss ih =>
    cases ss with
    | nil => simp [joinWith, List.intercalate]
    | cons t ts =>
      rw [List.intercalate_cons_cons, ← ih]
      simp [joinWith]

/-- Texts that are joined by a character that is in none of them can be
told. -/
theorem joinWith_injective (hss : ss ≠ []) (hts : ts ≠ []) (hs : ∀ s ∈ ss, sep ∉ s)
    (ht : ∀ t ∈ ts, sep ∉ t) (h : joinWith sep ss = joinWith sep ts) : ss = ts := by
  rw [joinWith_eq_intercalate, joinWith_eq_intercalate] at h
  -- Cutting the joined text at the separators gives the texts back.
  rw [← List.splitOn_intercalate sep hs hss, h, List.splitOn_intercalate sep ht hts]

/-- Two rows of texts joined are the joined rows with one more character
between them. -/
theorem joinWith_append (hss : ss ≠ []) (hts : ts ≠ []) :
    joinWith sep (ss ++ ts) = joinWith sep ss ++ sep :: joinWith sep ts := by
  induction ss with
  | nil => exact absurd rfl hss
  | cons s ss ih =>
    cases ss with
    | nil =>
      obtain ⟨t, ts, rfl⟩ := List.exists_cons_of_ne_nil hts
      rfl
    | cons s' ss =>
      have hrest := ih (List.cons_ne_nil s' ss)
      show s ++ sep :: joinWith sep (s' :: ss ++ ts) = _
      rw [hrest]
      simp [joinWith]

/-- Each character of joined texts is one of theirs, or joins them. -/
theorem mem_joinWith {c : Char} (h : c ∈ joinWith sep ss) : c = sep ∨ ∃ s ∈ ss, c ∈ s := by
  induction ss with
  | nil => cases h
  | cons s ss ih =>
    cases ss with
    | nil => exact .inr ⟨s, List.mem_cons_self, h⟩
    | cons t ts =>
      rcases List.mem_append.mp h with hs | hrest
      · exact .inr ⟨s, List.mem_cons_self, hs⟩
      · rcases List.mem_cons.mp hrest with rfl | hrest
        · exact .inl rfl
        · rcases ih hrest with rfl | ⟨u, hu, hc⟩
          · exact .inl rfl
          · exact .inr ⟨u, List.mem_cons_of_mem s hu, hc⟩

end

end RuleTrace.Text
