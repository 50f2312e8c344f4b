import RuleTrace.Text.Blank
import RuleTrace.Text.Split

/-!
# `RuleTrace.Proofs.Text.Split`: texts cut into parts, and trimmed

A text is cut once at its first separator (`splitOnce_append_cons`). To
cut it everywhere, what stands on the two sides of any separator can be
cut each for itself (`splitOn_append_cons`). Trimming takes white space off both ends
(`exists_eq_trim`), and it finds what stands between white space again
(`trim_append`), so more white space around a text makes no difference
(`trim_around`).
-/

set_option autoImplicit false

namespace RuleTrace.Text

/-! ### Separators -/

section
variable {sep : Char} {s before after : List Char}

/-- A text is cut at the first separator and nowhere else. -/
theorem splitOnce_append_cons (h : sep ∉ before) (after : List Char) :
    splitOnce sep (before ++ sep :: after) = some (before, after) := by
  induction before with
  | nil => simp [splitOnce]
  | cons c before ih =>
    obtain ⟨hc, hbefore⟩ := List.ne_and_not_mem_of_not_mem_cons h
    rw [List.cons_append, splitOnce, if_neg hc.symm, ih hbefore]
    rfl

/-- Without a separator there is nothing to cut. -/
theorem splitOnce_of_not_mem (h : sep ∉ s) : splitOnce sep s = none := by
  induction s with
  | nil => rfl
  | cons c s ih =>
    obtain ⟨hc, hs⟩ := List.ne_and_not_mem_of_not_mem_cons h
    rw [splitOnce, if_neg hc.symm, ih hs]
    rfl

/-- Without a separator there is one part, the text itself. -/
theorem splitOn_of_not_mem (h : sep ∉ s) : splitOn sep s = [s] := by
  induction s with
  | nil => rfl
  | cons c s ih =>
    obtain ⟨hc, hs⟩ := List.ne_and_not_mem_of_not_mem_cons h
    rw [splitOn, ih hs]
    simp [hc.symm]

/-- Even an empty text has a part. -/
theorem splitOn_ne_nil (sep : Char) (s : List Char) : splitOn sep s ≠ [] := by
  cases s with
  | nil => exact List.cons_ne_nil [] []
  | cons c s =>
    rw [splitOn]
    split
    · exact List.cons_ne_nil _ _
    · split <;> exact List.cons_ne_nil _ _

/-- What stands before a separator and what stands behind it are cut
each for itself. -/
theorem splitOn_append_cons (before after : List Char) :
    splitOn sep (before ++ sep :: after) = splitOn sep before ++ splitOn sep after := by
  obtain ⟨part, parts, hparts⟩ := List.exists_cons_of_ne_nil (splitOn_ne_nil sep after)
  induction before with
  | nil => simp [splitOn, hparts]
  | cons c before ih =>
    -- A character before the separator goes to the first part, or is a separator itself.
    obtain ⟨first, rest, hfirst⟩ := List.exists_cons_of_ne_nil (splitOn_ne_nil sep before)
    rw [hfirst] at ih
    rw [List.cons_append, splitOn, ih, splitOn, hfirst]
    by_cases hc : c = sep
    · simp [hc]
    · simp [hc]

end

/-! ### White space -/

/-- A text of white space only. -/
def Blanks (s : List Char) : Prop := ∀ c ∈ s, isBlank c = true

/-- A text with no white space at either end. -/
def Trimmed (s : List Char) : Prop :=
  (∀ c ∈ s.head?, isBlank c = false) ∧ ∀ c ∈ s.getLast?, isBlank c = false

section
variable {s before after : List Char}

/-- Nothing is white space only. -/
theorem blanks_nil : Blanks [] := List.forall_mem_nil _

/-- White space after white space is white space. -/
theorem Blanks.append (hbefore : Blanks before) (hafter : Blanks after) :
    Blanks (before ++ after) :=
  List.forall_mem_append.mpr ⟨hbefore, hafter⟩

/-- White space is dropped from the start up to the first character that is
none. -/
theorem dropWhile_append_of_blanks (hbefore : Blanks before)
    (hhead : ∀ c ∈ s.head?, isBlank c = false) :
    (before ++ s).dropWhile isBlank = s := by
  rw [List.dropWhile_append_of_pos hbefore]
  cases s with
  | nil => rfl
  | cons c s => exact List.dropWhile_cons_of_neg (by simp [hhead c rfl])

/-- White space around a trimmed text is taken off. -/
theorem trim_append (hbefore : Blanks before) (hs : Trimmed s) (hafter : Blanks after) :
    trim (before ++ s ++ after) = s := by
  rw [trim, trimStart, trimEnd]
  cases s with
  | nil =>
    -- Taking off the start takes all.
    have hblanks : Blanks (before ++ [] ++ after) := (hbefore.append blanks_nil).append hafter
    have hnone := dropWhile_append_of_blanks (s := []) hblanks (by simp)
    rw [List.append_nil] at hnone
    rw [hnone]
    rfl
  | cons c s =>
    have hfirst : ∀ d ∈ (c :: s ++ after).head?, isBlank d = false := hs.1
    have hlast : ∀ d ∈ (c :: s).reverse.head?, isBlank d = false := by
      rw [List.head?_reverse]
      exact hs.2
    rw [List.append_assoc, dropWhile_append_of_blanks hbefore hfirst, List.reverse_append,
      dropWhile_append_of_blanks (fun d hd => hafter d (List.mem_reverse.mp hd)) hlast,
      List.reverse_reverse]

/-- What is taken from the start while it is blank is white space. -/
theorem blanks_takeWhile (s : List Char) : Blanks (s.takeWhile isBlank) :=
  List.all_eq_true.mp List.all_takeWhile

/-- What is left does not begin with white space. -/
theorem isBlank_of_head?_dropWhile {c : Char} (h : c ∈ (s.dropWhile isBlank).head?) :
    isBlank c = false := by
  have hfirst := List.head?_dropWhile_not isBlank s
  rw [Option.mem_def.mp h] at hfirst
  exact hfirst

/-- A text is what trimming leaves of it, with white space around. -/
theorem exists_eq_trim (s : List Char) :
    ∃ before after, Blanks before ∧ Trimmed (trim s) ∧ Blanks after ∧
      s = before ++ trim s ++ after := by
  let rest := trimStart s
  have hstart : s = s.takeWhile isBlank ++ rest := List.takeWhile_append_dropWhile.symm
  have hend : rest = trim s ++ (rest.reverse.takeWhile isBlank).reverse := by
    show rest = (rest.reverse.dropWhile isBlank).reverse ++ _
    rw [← List.reverse_append, List.takeWhile_append_dropWhile, List.reverse_reverse]
  refine ⟨s.takeWhile isBlank, (rest.reverse.takeWhile isBlank).reverse, blanks_takeWhile s,
    ⟨fun c hc => ?_, fun c hc => ?_⟩, fun c hc => ?_, ?_⟩
  · -- What is left begins as the text did when its start was trimmed.
    have hhead : c ∈ rest.head? := by
      rw [hend, List.head?_append, Option.mem_def.mp hc]
      rfl
    exact isBlank_of_head?_dropWhile hhead
  · rw [← List.head?_reverse, trim, trimEnd, List.reverse_reverse] at hc
    exact isBlank_of_head?_dropWhile hc
  · exact blanks_takeWhile _ c (List.mem_reverse.mp hc)
  · rw [List.append_assoc, ← hend]
    exact hstart

/-- More white space around a text makes no difference. -/
theorem trim_around (hbefore : Blanks before) (s : List Char) (hafter : Blanks after) :
    trim (before ++ s ++ after) = trim s := by
  obtain ⟨front, back, hfront, hs, hback, he⟩ := exists_eq_trim s
  have htext : before ++ s ++ after = (before ++ front) ++ trim s ++ (back ++ after) := by
    conv => lhs; rw [he]
    simp only [List.append_assoc]
  rw [htext]
  exact trim_append (hbefore.append hfront) hs (hback.append hafter)

/-- White space at the start is trimmed on this side of a character that
is none. -/
theorem trimStart_append_cons {c : Char} (hc : isBlank c = false) (s t : List Char) :
    trimStart (s ++ c :: t) = trimStart s ++ c :: t := by
  have hhead : (c :: t).dropWhile isBlank = c :: t :=
    List.dropWhile_cons_of_neg (by rw [hc]; decide)
  rw [trimStart, trimStart, List.dropWhile_append, hhead]
  split
  · rename_i hempty
    rw [List.isEmpty_iff.mp hempty]
    rfl
  · rfl

/-- White space at the end is trimmed behind a character that is none. -/
theorem trimEnd_append_cons {c : Char} (hc : isBlank c = false) (s t : List Char) :
    trimEnd (s ++ c :: t) = s ++ c :: trimEnd t := by
  -- The end of a text is the start of the reversed one.
  have hstart := trimStart_append_cons hc t.reverse s.reverse
  rw [trimStart, trimStart] at hstart
  rw [trimEnd, trimEnd, List.reverse_append, List.reverse_cons, List.append_assoc,
    List.singleton_append, hstart]
  simp

/-- Around a character that is no white space the two ends are trimmed each
for itself. -/
theorem trim_append_cons {c : Char} (hc : isBlank c = false) (s t : List Char) :
    trim (s ++ c :: t) = trimStart s ++ c :: trimEnd t := by
  rw [trim, trimStart_append_cons hc, trimEnd_append_cons hc]

/-- Who trims both ends need not trim the start before. -/
theorem trim_trimStart (s : List Char) : trim (trimStart s) = trim s := by
  have hsplit : s.takeWhile isBlank ++ trimStart s ++ [] = s := by
    rw [List.append_nil]
    exact List.takeWhile_append_dropWhile
  have haround := trim_around (blanks_takeWhile s) (trimStart s) blanks_nil
  rw [hsplit] at haround
  exact haround.symm

/-- Who trims both ends need not trim the end before. -/
theorem trim_trimEnd (s : List Char) : trim (trimEnd s) = trim s := by
  have hsplit : [] ++ trimEnd s ++ (s.reverse.takeWhile isBlank).reverse = s := by
    rw [List.nil_append, trimEnd, ← List.reverse_append, List.takeWhile_append_dropWhile,
      List.reverse_reverse]
  have hblanks : Blanks (s.reverse.takeWhile isBlank).reverse := fun c hc =>
    blanks_takeWhile _ c (List.mem_reverse.mp hc)
  have haround := trim_around blanks_nil (trimEnd s) hblanks
  rw [hsplit] at haround
  exact haround.symm

/-- Nothing but white space is trimmed to nothing. -/
theorem trim_eq_nil_iff : trim s = [] ↔ Blanks s := by
  constructor
  · intro h
    obtain ⟨before, after, hbefore, -, hafter, hs⟩ := exists_eq_trim s
    rw [hs, h]
    exact (hbefore.append blanks_nil).append hafter
  · intro h
    have htrim := trim_append h (s := []) ⟨by simp, by simp⟩ blanks_nil
    rwa [List.append_nil, List.append_nil] at htrim

end

end RuleTrace.Text
