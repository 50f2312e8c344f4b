import RuleTrace.CpuList
import RuleTrace.Proofs.Text.Numeral
import RuleTrace.Proofs.Text.Split

/-!
# `RuleTrace.Proofs.CpuList`: which texts are lists, and what they count

`Lists` is the grammar: parts between commas, each of them blank, or a
number, or two numbers with a dash between them, with white space
wherever it likes. It relates a text to the ranges of processors that
the text names. `lists_iff` says that the reader finds these ranges in
exactly the texts of the grammar, so what is left is arithmetic.

The total stops at the greatest word, as it should, but the size of a
range is computed before that, and one range has a size that is no word:
the one of all words. Counting it is an accident (`partSize_eq`). The
parts are counted from left to right, so what stands behind this range
does not matter, and what stands before it must be a list
(`count_eq_overflow_iff`). All other lists are counted exactly
(`counted_but_for_all_words`).
-/

set_option autoImplicit false

namespace RuleTrace.CpuList

open Text

/-! ### The grammar -/

/-- Processors with consecutive numbers. -/
structure Range where
  first : Nat
  last : Nat
  first_le_last : first ≤ last := by decide
  last_lt : last < UInt32.size := by decide
  deriving DecidableEq

/-- The number of processors in a range. -/
def Range.size (r : Range) : Nat := r.last - r.first + 1

/-- The range of all 32-bit words. -/
def Range.allWords : Range := { first := 0, last := UInt32.size - 1 }

/-- What counting a range comes to. -/
def Range.answer (r : Range) : Answer := if r = .allWords then .overflow else .counted r.size

/-- The number of processors in all ranges together. -/
def total (rs : List Range) : Nat := rs.foldr (fun r n => r.size + n) 0

/-- A number in decimal digits, perhaps after a plus sign, with white
space around it. -/
inductive Writes (n : Nat) : List Char → Prop where
  | unsigned {before digits after : List Char} (hbefore : Blanks before) (hdigits : Digits digits n)
      (hafter : Blanks after) : Writes n (before ++ digits ++ after)
  | signed {before digits after : List Char} (hbefore : Blanks before) (hdigits : Digits digits n)
      (hafter : Blanks after) : Writes n (before ++ '+' :: digits ++ after)

/-- A part of a list, and the ranges that it names: none or one. -/
inductive Part : List Char → List Range → Prop where
  | blank {s : List Char} (h : Blanks s) : Part s []
  | single {s : List Char} {n : Nat} (h : Writes n s) (hlt : n < UInt32.size) :
      Part s [⟨n, n, Nat.le_refl n, hlt⟩]
  | range {s t : List Char} (r : Range) (hfirst : Writes r.first s) (hlast : Writes r.last t) :
      Part (s ++ '-' :: t) [r]

/-- A list, and the ranges that it names in order. -/
inductive Lists : List Char → List Range → Prop where
  | last {s : List Char} {rs : List Range} (h : Part s rs) : Lists s rs
  | more {s t : List Char} {rs rest : List Range} (h : Part s rs) (hrest : Lists t rest) :
      Lists (s ++ ',' :: t) (rs ++ rest)

/-- A beginning of a text that ends at a comma, or the whole text. -/
def Begins (s before : List Char) : Prop := before = s ∨ ∃ after, s = before ++ ',' :: after

/-! ### Reading ranges -/

/-- The range that a part without white space around it names. -/
def range? (part : List Char) : Option Range :=
  match splitOnce '-' part with
  | some (first, last) =>
    (word32? (trim first)).bind fun first =>
      (word32? (trim last)).bind fun last =>
        if h : first ≤ last ∧ last < UInt32.size then some ⟨first, last, h.1, h.2⟩ else none
  | none =>
    (word32? part).bind fun n =>
      if h : n < UInt32.size then some ⟨n, n, Nat.le_refl n, h⟩ else none

/-- What is read as a word is one. -/
theorem lt_of_word32? {s : List Char} {n : Nat} (h : word32? s = some n) : n < UInt32.size := by
  obtain ⟨-, hlt⟩ := Option.filter_eq_some_iff.mp h
  exact of_decide_eq_true hlt

/-- A range has a size that is a word, unless it is the range of all
words. -/
theorem rangeSize_eq (r : Range) : rangeSize r.first r.last = r.answer := by
  obtain ⟨first, last, hle, hlt⟩ := r
  rw [rangeSize, if_neg (Nat.not_lt_of_le hle), Range.answer]
  by_cases hall : (⟨first, last, hle, hlt⟩ : Range) = .allWords
  · rw [if_pos hall]
    cases hall
    rfl
  · -- Any other range leaves out a word at one of its ends.
    have hsize : last - first + 1 < UInt32.size := by
      by_cases hfirst : first = 0
      · have hlast : last ≠ UInt32.size - 1 := by
          rintro rfl
          exact hall (by rw [Range.allWords]; simp [hfirst])
        omega
      · omega
    rw [if_pos hsize, if_neg hall]
    rfl

/-- A part comes to what its range comes to. -/
theorem partSize_eq (part : List Char) :
    partSize part = ((range? part).map Range.answer).getD .refused := by
  rw [partSize, range?]
  cases splitOnce '-' part with
  | none =>
    cases hword : word32? part with
    | none => rfl
    | some n =>
      -- A single number is a range that begins where it ends.
      have hlt := lt_of_word32? hword
      have hone := rangeSize_eq ⟨n, n, Nat.le_refl n, hlt⟩
      rw [rangeSize, if_neg (Nat.lt_irrefl n), Nat.sub_self] at hone
      simp only [Option.isSome_some, if_true, Option.bind_some, dif_pos hlt, Option.map_some,
        Option.getD_some, ← hone]
      rfl
  | some ends =>
    obtain ⟨first, last⟩ := ends
    dsimp only
    cases word32? (trim first) with
    | none => rfl
    | some a =>
      cases hlast : word32? (trim last) with
      | none => rfl
      | some b =>
        have hlt := lt_of_word32? hlast
        by_cases hle : a ≤ b
        · simp [hle, hlt, ← rangeSize_eq]
        · simp [hle, rangeSize, Nat.lt_of_not_le hle]

/-! ### Numbers -/

/-- A digit is no white space. -/
theorem isBlank_of_isDigit {c : Char} (h : c.isDigit) : isBlank c = false := by
  simp only [Char.isDigit, Bool.and_eq_true, decide_eq_true_eq] at h
  have hlow : 48 ≤ c.toNat := h.1
  have hhigh : c.toNat ≤ 57 := h.2
  simp only [isBlank, inRanges, blankRanges, List.any_cons, List.any_nil, Bool.or_false,
    Bool.or_eq_false_iff, Bool.and_eq_false_iff, decide_eq_false_iff_not]
  omega

/-- A character that is no white space is not among white space. -/
theorem not_mem_of_blanks {c : Char} (hc : isBlank c = false) {s : List Char} (h : Blanks s) :
    c ∉ s := by
  intro hmem
  rw [h c hmem] at hc
  cases hc

/-- A character that is no digit is not among digits. -/
theorem not_mem_of_digits {c : Char} (hc : c.isDigit = false) {s : List Char} {n : Nat}
    (h : Digits s n) : c ∉ s := by
  intro hmem
  rw [h.2.1 c hmem] at hc
  cases hc

/-- Digits end in a digit. -/
theorem isBlank_getLast?_of_digits {s : List Char} {n : Nat} (h : Digits s n) {c : Char}
    (hc : c ∈ s.getLast?) : isBlank c = false :=
  isBlank_of_isDigit (h.2.1 c (List.mem_of_getLast? hc))

/-- Digits have no white space at their ends. -/
theorem trimmed_digits {s : List Char} {n : Nat} (h : Digits s n) : Trimmed s :=
  ⟨fun c hc => isBlank_of_isDigit (h.2.1 c (List.mem_of_head? hc)),
    fun _ => isBlank_getLast?_of_digits h⟩

/-- Nor have digits with a plus sign. -/
theorem trimmed_plus_digits {s : List Char} {n : Nat} (h : Digits s n) : Trimmed ('+' :: s) := by
  refine ⟨fun c hc => ?_, fun c hc => ?_⟩
  · cases hc
    rfl
  · rw [List.getLast?_cons_of_ne_nil h.1] at hc
    exact isBlank_getLast?_of_digits h hc

/-- A number is read from its digits, perhaps after a plus sign. -/
theorem word32?_eq_some_iff {s : List Char} {n : Nat} :
    word32? s = some n ↔
      n < UInt32.size ∧ (Digits s n ∨ ∃ digits, s = '+' :: digits ∧ Digits digits n) := by
  rw [word32?, Option.filter_eq_some_iff, decide_eq_true_eq, and_comm, nat?_eq_some_iff]
  refine and_congr_right fun _ => ?_
  -- A plus sign is dropped, and no number begins with two.
  unfold dropPlus
  split
  · rename_i digits
    constructor
    · intro h
      exact .inr ⟨digits, rfl, h⟩
    · rintro (h | ⟨_, e, h⟩)
      · exact absurd List.mem_cons_self (not_mem_of_digits (c := '+') rfl h)
      · cases e
        exact h
  · rename_i hplus
    constructor
    · exact .inl
    · rintro (h | ⟨digits, e, -⟩)
      · exact h
      · exact absurd e (hplus digits)

/-- A number with white space around it is what is read after
trimming. -/
theorem writes_iff {s : List Char} {n : Nat} (hlt : n < UInt32.size) :
    Writes n s ↔ word32? (trim s) = some n := by
  rw [word32?_eq_some_iff]
  constructor
  · rintro (⟨hbefore, hdigits, hafter⟩ | ⟨hbefore, hdigits, hafter⟩)
    · rw [trim_append hbefore (trimmed_digits hdigits) hafter]
      exact ⟨hlt, .inl hdigits⟩
    · rw [trim_append hbefore (trimmed_plus_digits hdigits) hafter]
      exact ⟨hlt, .inr ⟨_, rfl, hdigits⟩⟩
  · rintro ⟨-, h⟩
    obtain ⟨before, after, hbefore, -, hafter, hs⟩ := exists_eq_trim s
    rw [hs]
    rcases h with hdigits | ⟨digits, htrim, hdigits⟩
    · exact .unsigned hbefore hdigits hafter
    · rw [htrim]
      exact .signed hbefore hdigits hafter

/-- A character that is no part of a number. -/
theorem not_mem_of_writes {c : Char} (hblank : isBlank c = false) (hdigit : c.isDigit = false)
    (hplus : c ≠ '+') {s : List Char} {n : Nat} (h : Writes n s) : c ∉ s := by
  cases h with
  | unsigned hbefore hdigits hafter =>
    simp [not_mem_of_blanks hblank hbefore, not_mem_of_digits hdigit hdigits,
      not_mem_of_blanks hblank hafter]
  | signed hbefore hdigits hafter =>
    simp [not_mem_of_blanks hblank hbefore, not_mem_of_digits hdigit hdigits,
      not_mem_of_blanks hblank hafter, hplus]

/-! ### Parts -/

/-- The parts that are left of one part: none if it is blank. -/
def kept (s : List Char) : List (List Char) := [trim s].filter (!·.isEmpty)

/-- A blank part is not kept. -/
theorem kept_of_blanks {s : List Char} (h : Blanks s) : kept s = [] := by
  rw [kept, trim_eq_nil_iff.mpr h]
  rfl

/-- Any other part is kept, trimmed. -/
theorem kept_of_ne_nil {s : List Char} (h : trim s ≠ []) : kept s = [trim s] :=
  List.filter_cons_of_pos (by simpa using h)

/-- A dash cuts a part in two, white space or not. -/
theorem range?_trim_append_cons {s t : List Char} (h : '-' ∉ s) :
    range? (trim (s ++ '-' :: t))
      = (word32? (trim s)).bind fun first => (word32? (trim t)).bind fun last =>
          if h : first ≤ last ∧ last < UInt32.size then some ⟨first, last, h.1, h.2⟩ else none := by
  have hleft : '-' ∉ trimStart s := fun hmem => h ((List.dropWhile_suffix isBlank).subset hmem)
  rw [trim_append_cons rfl, range?, splitOnce_append_cons hleft]
  simp only [trim_trimStart, trim_trimEnd]

/-- A part names what is read of it after trimming. -/
theorem part_iff {s : List Char} {rs : List Range} :
    Part s rs ↔ ',' ∉ s ∧ (kept s).mapM range? = some rs := by
  constructor
  · intro h
    cases h with
    | blank h =>
      rw [kept_of_blanks h]
      exact ⟨not_mem_of_blanks rfl h, rfl⟩
    | @single _ n h hlt =>
      have hword := (writes_iff hlt).mp h
      have hdash := not_mem_of_writes (c := '-') rfl rfl (by decide) h
      have hne : trim s ≠ [] := by
        intro e
        rw [e] at hword
        cases hword
      refine ⟨not_mem_of_writes rfl rfl (by decide) h, ?_⟩
      have hrange : range? (trim s) = some ⟨n, n, Nat.le_refl n, hlt⟩ := by
        obtain ⟨before, after, -, -, -, hs⟩ := exists_eq_trim s
        -- Trimming puts no dash in.
        have htrim : '-' ∉ trim s := fun hmem => hdash (by rw [hs]; simp [hmem])
        rw [range?, splitOnce_of_not_mem htrim]
        simp [hword, hlt]
      rw [kept_of_ne_nil hne, List.mapM_cons, hrange]
      rfl
    | @range s t r hfirst hlast =>
      have hdash := not_mem_of_writes (c := '-') rfl rfl (by decide) hfirst
      have hne : trim (s ++ '-' :: t) ≠ [] := by simp [trim_append_cons (c := '-') rfl]
      have hrange : range? (trim (s ++ '-' :: t)) = some r := by
        rw [range?_trim_append_cons hdash,
          (writes_iff (Nat.lt_of_le_of_lt r.first_le_last r.last_lt)).mp hfirst,
          (writes_iff r.last_lt).mp hlast]
        exact dif_pos ⟨r.first_le_last, r.last_lt⟩
      refine ⟨?_, ?_⟩
      · simp [not_mem_of_writes (c := ',') rfl rfl (by decide) hfirst,
          not_mem_of_writes (c := ',') rfl rfl (by decide) hlast]
      · rw [kept_of_ne_nil hne, List.mapM_cons, hrange]
        rfl
  · rintro ⟨-, h⟩
    by_cases htrim : trim s = []
    · have hblanks := trim_eq_nil_iff.mp htrim
      rw [kept_of_blanks hblanks] at h
      cases h
      exact .blank hblanks
    · rw [kept_of_ne_nil htrim, List.mapM_cons] at h
      obtain ⟨r, hr, hrest⟩ := Option.bind_eq_some_iff.mp h
      cases hrest
      by_cases hdash : '-' ∈ s
      · -- Two numbers stand around the first dash.
        obtain ⟨left, right, rfl, hleft⟩ := List.eq_append_cons_of_mem hdash
        rw [range?_trim_append_cons hleft] at hr
        obtain ⟨first, hfirst, hr⟩ := Option.bind_eq_some_iff.mp hr
        obtain ⟨last, hlast, hr⟩ := Option.bind_eq_some_iff.mp hr
        split at hr
        · cases hr
          exact .range _ ((writes_iff (lt_of_word32? hfirst)).mpr hfirst)
            ((writes_iff (lt_of_word32? hlast)).mpr hlast)
        · cases hr
      · have htrimmed : '-' ∉ trim s := by
          obtain ⟨before, after, -, -, -, hs⟩ := exists_eq_trim s
          exact fun hmem => hdash (by rw [hs]; simp [hmem])
        rw [range?, splitOnce_of_not_mem htrimmed] at hr
        obtain ⟨n, hn, hr⟩ := Option.bind_eq_some_iff.mp hr
        rw [dif_pos (lt_of_word32? hn)] at hr
        cases hr
        exact .single ((writes_iff (lt_of_word32? hn)).mpr hn) (lt_of_word32? hn)

/-! ### Lists -/

/-- Without a comma there is one part, if it is kept. -/
theorem parts_of_not_mem {s : List Char} (h : ',' ∉ s) : parts s = kept s := by
  rw [parts, splitOn_of_not_mem h]
  rfl

/-- The parts on the two sides of a comma. -/
theorem parts_append_cons (s t : List Char) : parts (s ++ ',' :: t) = parts s ++ parts t := by
  rw [parts, splitOn_append_cons, List.map_append, List.filter_append]
  rfl

/-- The reader finds the ranges that the grammar says, in the texts of
the grammar and in no others. -/
theorem lists_iff {s : List Char} {rs : List Range} :
    Lists s rs ↔ (parts s).mapM range? = some rs := by
  constructor
  · intro h
    induction h with
    | last h =>
      obtain ⟨hcomma, hread⟩ := part_iff.mp h
      rw [parts_of_not_mem hcomma, hread]
    | more h hrest ih =>
      obtain ⟨hcomma, hread⟩ := part_iff.mp h
      rw [parts_append_cons, parts_of_not_mem hcomma, List.mapM_append, hread, ih]
      rfl
  · -- By induction on the length, for what follows a comma is no part of the text before it.
    intro h
    induction hlength : s.length using Nat.strongRecOn generalizing s rs with
    | ind length ih =>
      by_cases hcomma : ',' ∈ s
      · obtain ⟨before, after, rfl, hbefore⟩ := List.eq_append_cons_of_mem hcomma
        rw [parts_append_cons, parts_of_not_mem hbefore, List.mapM_append] at h
        obtain ⟨first, hfirst, h⟩ := Option.bind_eq_some_iff.mp h
        obtain ⟨rest, hrest, h⟩ := Option.bind_eq_some_iff.mp h
        cases h
        have hshorter : after.length < length := by
          rw [← hlength, List.length_append, List.length_cons]
          omega
        exact .more (part_iff.mpr ⟨hbefore, hfirst⟩) (ih _ hshorter hrest rfl)
      · rw [parts_of_not_mem hcomma] at h
        exact .last (part_iff.mpr ⟨hcomma, h⟩)

/-- A text names ranges in one way only. -/
theorem Lists.unique {s : List Char} {rs rs' : List Range} (h : Lists s rs) (h' : Lists s rs') :
    rs = rs' := by
  have hread := lists_iff.mp h
  rw [lists_iff.mp h'] at hread
  exact (Option.some.inj hread).symm

/-! ### Counting -/

/-- A range adds its size. -/
theorem total_cons (r : Range) (rs : List Range) : total (r :: rs) = r.size + total rs := rfl

/-- A range has a processor, so a list of ranges has one. -/
theorem total_eq_zero_iff {rs : List Range} : total rs = 0 ↔ rs = [] := by
  cases rs with
  | nil => simp [total]
  | cons r rs =>
    rw [total_cons, Range.size]
    simp

/-- Counts are added to a total that may have stopped already. -/
theorem addCounts_min (n m : Nat) :
    addCounts (min n (UInt32.size - 1)) m = min (n + m) (UInt32.size - 1) := by
  unfold addCounts
  omega

/-- The next part is counted, or decides for all that follow. -/
theorem countParts_cons (n : Nat) (part : List Char) (rest : List (List Char)) :
    countParts (min n (UInt32.size - 1)) (part :: rest)
      = match range? part with
        | none => .refused
        | some r =>
          if r = .allWords then .overflow else countParts (min (n + r.size) (UInt32.size - 1)) rest
    := by
  rw [countParts, partSize_eq]
  cases range? part with
  | none => rfl
  | some r =>
    dsimp only [Option.map_some, Option.getD_some]
    by_cases hall : r = .allWords
    · rw [Range.answer, if_pos hall, if_pos hall]
    · rw [Range.answer, if_neg hall, if_neg hall, ← addCounts_min]

/-- Ranges are read part by part. -/
theorem mapM_range?_cons {part : List Char} {parts : List (List Char)} {rs : List Range} :
    (part :: parts).mapM range? = some rs ↔
      ∃ r rest, range? part = some r ∧ parts.mapM range? = some rest ∧ rs = r :: rest := by
  rw [List.mapM_cons]
  constructor
  · intro h
    obtain ⟨r, hr, h⟩ := Option.bind_eq_some_iff.mp h
    obtain ⟨rest, hrest, h⟩ := Option.bind_eq_some_iff.mp h
    exact ⟨r, rest, hr, hrest, (Option.some.inj h).symm⟩
  · rintro ⟨r, rest, hr, hrest, rfl⟩
    rw [hr, hrest]
    rfl

/-- A total comes out if all parts are ranges, none of them that of all
words. -/
theorem countParts_eq_counted_iff {parts : List (List Char)} {n m : Nat} :
    countParts (min n (UInt32.size - 1)) parts = .counted m ↔
      ∃ rs, parts.mapM range? = some rs ∧ Range.allWords ∉ rs ∧ n + total rs ≠ 0 ∧
        m = min (n + total rs) (UInt32.size - 1) := by
  induction parts generalizing n with
  | nil =>
    have hsize : UInt32.size - 1 ≠ 0 := by decide
    -- Cutting the sum off at the greatest word does not make it zero.
    have hzero : min n (UInt32.size - 1) = 0 ↔ n = 0 := by omega
    rw [countParts]
    constructor
    · intro h
      split at h
      · cases h
      · rename_i hn
        exact ⟨[], rfl, List.not_mem_nil, mt hzero.mpr hn, (Answer.counted.inj h).symm⟩
    · rintro ⟨rs, hrs, -, hne, rfl⟩
      cases hrs
      exact if_neg (mt hzero.mp hne)
  | cons part rest ih =>
    simp only [countParts_cons, mapM_range?_cons]
    constructor
    · intro h
      cases hr : range? part with
      | none =>
        rw [hr] at h
        cases h
      | some r =>
        rw [hr] at h
        dsimp only at h
        -- The size of this range alone overflows, and the rest is not looked at.
        by_cases hall : r = .allWords
        · rw [if_pos hall] at h
          cases h
        · rw [if_neg hall] at h
          obtain ⟨rs, hrs, hnot, hne, hm⟩ := ih.mp h
          rw [Nat.add_assoc] at hne hm
          exact ⟨r :: rs, ⟨r, rs, rfl, hrs, rfl⟩, by simp [hnot, Ne.symm hall], hne, hm⟩
    · rintro ⟨_, ⟨r, rs, hr, hrs, rfl⟩, hnot, hne, hm⟩
      obtain ⟨hall, hnot⟩ := List.ne_and_not_mem_of_not_mem_cons hnot
      rw [total_cons, ← Nat.add_assoc] at hne hm
      rw [hr]
      dsimp only
      rw [if_neg hall.symm]
      exact ih.mpr ⟨rs, hrs, hnot, hne, hm⟩

/-- Behind ranges of which one is that of all words, nothing matters any
more. -/
theorem countParts_append_of_mem {parts : List (List Char)} {rs : List Range}
    (hrs : parts.mapM range? = some rs) (hmem : Range.allWords ∈ rs) (n : Nat)
    (rest : List (List Char)) :
    countParts (min n (UInt32.size - 1)) (parts ++ rest) = .overflow := by
  induction parts generalizing n rs with
  | nil =>
    cases hrs
    cases hmem
  | cons part parts ih =>
    obtain ⟨r, rs', hr, hrest, rfl⟩ := mapM_range?_cons.mp hrs
    rw [List.cons_append, countParts_cons, hr]
    dsimp only
    by_cases hall : r = .allWords
    · rw [if_pos hall]
    · rw [if_neg hall]
      have hmem := (List.mem_cons.mp hmem).resolve_left (Ne.symm hall)
      exact ih hrest hmem _

/-- The texts that have a count, and which. -/
theorem count_eq_counted_iff {s : List Char} {n : Nat} :
    count s = .counted n ↔
      ∃ rs, Lists s rs ∧ Range.allWords ∉ rs ∧ rs ≠ [] ∧ n = min (total rs) (UInt32.size - 1) := by
  have hcount := @countParts_eq_counted_iff (parts s) 0 n
  simp only [Nat.zero_min, Nat.zero_add, ne_eq, total_eq_zero_iff, ← lists_iff] at hcount
  exact hcount

/-- Counting comes to grief at the range of all words, if all before it
is a list. -/
theorem countParts_parts_eq_overflow {s : List Char} {n : Nat}
    (h : countParts (min n (UInt32.size - 1)) (parts s) = .overflow) :
    ∃ before rs, Begins s before ∧ Lists before rs ∧ Range.allWords ∈ rs := by
  -- By induction on the length, as for `lists_iff`: what follows a comma is shorter.
  induction hlength : s.length using Nat.strongRecOn generalizing s n with
  | ind length ih =>
    by_cases hcomma : ',' ∈ s
    · obtain ⟨first, rest, rfl, hfirst⟩ := List.eq_append_cons_of_mem hcomma
      have hshorter : rest.length < length := by
        rw [← hlength, List.length_append, List.length_cons]
        omega
      -- If the first part is a range that is counted, the overflow comes later.
      have hlater : ∀ {m : Nat} {rs : List Range}, Part first rs →
          countParts (min m (UInt32.size - 1)) (parts rest) = .overflow →
          ∃ before rs, Begins (first ++ ',' :: rest) before ∧ Lists before rs ∧
            Range.allWords ∈ rs := by
        intro m rs hpart hrest
        obtain ⟨before, rs', hbegins, hlists, hmem⟩ := ih _ hshorter hrest rfl
        refine ⟨first ++ ',' :: before, rs ++ rs', ?_, .more hpart hlists,
          List.mem_append_right _ hmem⟩
        rcases hbegins with rfl | ⟨after, rfl⟩
        · exact .inl rfl
        · exact .inr ⟨after, by simp⟩
      rw [parts_append_cons, parts_of_not_mem hfirst] at h
      by_cases htrim : trim first = []
      · have hblanks := trim_eq_nil_iff.mp htrim
        rw [kept_of_blanks hblanks] at h
        exact hlater (.blank hblanks) h
      · have hpart : ∀ r, range? (trim first) = some r → Part first [r] := by
          intro r hr
          refine part_iff.mpr ⟨hfirst, ?_⟩
          rw [kept_of_ne_nil htrim, List.mapM_cons, hr]
          rfl
        rw [kept_of_ne_nil htrim, List.singleton_append, countParts_cons] at h
        cases hr : range? (trim first) with
        | none =>
          rw [hr] at h
          cases h
        | some r =>
          rw [hr] at h
          dsimp only at h
          by_cases hall : r = .allWords
          · exact ⟨first, [r], .inr ⟨rest, rfl⟩, .last (hpart r hr), by simp [hall]⟩
          · rw [if_neg hall] at h
            exact hlater (hpart r hr) h
    · refine ⟨s, [.allWords], .inl rfl, lists_iff.mpr ?_, List.mem_singleton_self _⟩
      rw [parts_of_not_mem hcomma] at h ⊢
      by_cases htrim : trim s = []
      · rw [kept_of_blanks (trim_eq_nil_iff.mp htrim), countParts] at h
        split at h <;> cases h
      · rw [kept_of_ne_nil htrim] at h ⊢
        rw [countParts_cons] at h
        rw [List.mapM_cons]
        cases hr : range? (trim s) with
        | none =>
          rw [hr] at h
          cases h
        | some r =>
          rw [hr] at h
          dsimp only at h
          by_cases hall : r = .allWords
          · rw [hall]
            rfl
          · rw [if_neg hall, countParts] at h
            split at h <;> cases h

/-- The texts whose count is an accident: a list that names the range of
all words, with anything behind it. -/
theorem count_eq_overflow_iff {s : List Char} :
    count s = .overflow ↔
      ∃ before rs, Begins s before ∧ Lists before rs ∧ Range.allWords ∈ rs := by
  constructor
  · intro h
    have h : countParts (min 0 (UInt32.size - 1)) (parts s) = .overflow := h
    exact countParts_parts_eq_overflow h
  · rintro ⟨before, rs, hbegins, hlists, hmem⟩
    have hall := countParts_append_of_mem (lists_iff.mp hlists) hmem 0
    rcases hbegins with rfl | ⟨after, rfl⟩
    · have hwhole := hall []
      rwa [List.append_nil] at hwhole
    · rw [count, parts_append_cons]
      exact hall (parts after)

/-- The count is the number of processors that the ranges of the list
have, at most the greatest word. There is a count if and only if the
text is a list with at least one range, and counting is never an
accident. -/
def CountsExactly (s : List Char) : Prop :=
  (∀ n, count s = .counted n ↔
    ∃ rs, Lists s rs ∧ rs ≠ [] ∧ n = min (total rs) (UInt32.size - 1)) ∧
  count s ≠ .overflow

/-- Any text.

It has a count if and only if it is a list with a range, but without the
range of all words, and its count is then the number of processors of
its ranges, at most the greatest word. Counting is an accident if and
only if the text, or a beginning of it that ends at a comma, is a list
that names the range of all words. All other texts are counted exactly,
or refused where they are no lists with a range. -/
theorem counted_but_for_all_words (s : List Char) :
    (∀ n, count s = .counted n ↔
      ∃ rs, Lists s rs ∧ Range.allWords ∉ rs ∧ rs ≠ [] ∧
        n = min (total rs) (UInt32.size - 1)) ∧
    (count s = .overflow ↔
      ∃ before rs, Begins s before ∧ Lists before rs ∧ Range.allWords ∈ rs) ∧
    (CountsExactly s ↔ count s ≠ .overflow) := by
  refine ⟨fun n => count_eq_counted_iff, count_eq_overflow_iff, And.right,
    fun h => ⟨fun n => ?_, h⟩⟩
  rw [count_eq_counted_iff]
  refine exists_congr fun rs => and_congr_right fun hlists => ?_
  -- A list that names the range of all words would overflow.
  have hnot : Range.allWords ∉ rs := fun hmem =>
    h (count_eq_overflow_iff.mpr ⟨s, rs, .inl rfl, hlists, hmem⟩)
  exact and_iff_right hnot

/-- The list of one range, that of all words. It has `2 ^ 32` processors,
so it should be counted as the greatest word, and counting it is an
accident. -/
theorem all_words_overflow :
    let s := ['0', '-', '4', '2', '9', '4', '9', '6', '7', '2', '9', '5']
    Lists s [.allWords] ∧ min (total [.allWords]) (UInt32.size - 1) = 4294967295 ∧
    count s = .overflow ∧ ¬ CountsExactly s := by
  intro s
  have hlists : Lists s [.allWords] := lists_iff.mpr (by decide)
  have hcount : count s = .overflow := by decide
  exact ⟨hlists, by decide, hcount, fun hexact => hexact.2 hcount⟩

end RuleTrace.CpuList
