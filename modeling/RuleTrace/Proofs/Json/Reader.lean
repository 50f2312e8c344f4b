import RuleTrace.Json.Reader
import RuleTrace.Proofs.Json.Scan

/-!
# `RuleTrace.Proofs.Json.Reader`: values are read as they are written

`readAll_render` is the round trip: a value that is written compactly
and read again is the value. The reader has to allow for its brackets,
and its numbers have to be in range (`Value.Readable`). Everything else
is free: members keep their order and may repeat a name, texts may hold
any character.

The loops for arrays and objects are told what to do with a part, and
so are the lemmas about them. They need only know that the parts are
read back, and the induction over the depth gives just that.
-/

set_option autoImplicit false

namespace RuleTrace.Json

open Text

/-- A value in which every number is in range and at most `depth`
brackets are open inside one another. -/
def Value.Readable : Nat → Value → Prop
  | _, .null => True
  | _, .bool _ => True
  | _, .string _ => True
  | _, .number n => n.Fits
  | 0, .array _ => False
  | 0, .object _ => False
  | depth + 1, .array xs => ∀ x ∈ xs, Value.Readable depth x
  | depth + 1, .object ms => ∀ m ∈ ms, Value.Readable depth m.2

/-! ### How a value begins -/

/-- Nothing is skipped before a character that is no blank. -/
theorem skipSpace_cons {c : Char} (h : isSpace c = false) (s : List Char) :
    skipSpace (c :: s) = c :: s :=
  List.dropWhile_cons_of_neg (by rw [h]; decide)

/-- A digit is no blank. -/
theorem isSpace_of_isDigit {c : Char} (h : c.isDigit) : isSpace c = false := by
  cases hspace : isSpace c with
  | false => rfl
  | true =>
    simp only [isSpace, Bool.or_eq_true, decide_eq_true_eq] at hspace
    rcases hspace with ((rfl | rfl) | rfl) | rfl <;> cases h

/-- A number begins with a digit or a minus sign. -/
theorem Number.exists_cons_render (n : Number) :
    ∃ c s, n.render = c :: s ∧ (c = '-' ∨ c.isDigit) := by
  cases n with
  | natural n =>
    obtain ⟨d, ds, hds⟩ := List.exists_cons_of_ne_nil (decimal_ne_nil n)
    exact ⟨d, ds, hds, .inr (isDigit_of_mem_decimal (hds ▸ List.mem_cons_self))⟩
  | negative n => exact ⟨'-', decimal n, rfl, .inl rfl⟩
  | inexact => exact ⟨'0', ['.', '0'], rfl, .inr rfl⟩

/-- A value begins with a character that is no blank and no closing
bracket. -/
theorem Value.exists_cons_render (v : Value) :
    ∃ c s, v.render = c :: s ∧ isSpace c = false ∧ c ≠ ']' := by
  cases v with
  | null => exact ⟨_, _, rfl, rfl, by decide⟩
  | bool b => cases b <;> exact ⟨_, _, rfl, rfl, by decide⟩
  | string s => exact ⟨_, _, rfl, rfl, by decide⟩
  | number n =>
    obtain ⟨c, s, hs, hc⟩ := n.exists_cons_render
    refine ⟨c, s, hs, ?_, ?_⟩
    · rcases hc with rfl | hc
      · rfl
      · exact isSpace_of_isDigit hc
    · rintro rfl
      -- A number begins with a digit or a minus sign.
      rcases hc with hc | hc <;> cases hc
  | array xs => cases xs <;> exact ⟨_, _, rfl, rfl, by decide⟩
  | object ms =>
    cases ms with
    | nil => exact ⟨_, _, rfl, rfl, by decide⟩
    | cons m ms => exact ⟨_, _, rfl, rfl, by decide⟩

/-! ### Values without parts -/

/-- A number is read as a value. -/
theorem readScalar_number {n : Number} (hfits : n.Fits) {rest : List Char} (h : EndsValue rest) :
    readScalar (n.render ++ rest) = .ok (.number n, rest) := by
  have hread := readNumber_render hfits h
  obtain ⟨c, s, hs, hc⟩ := n.exists_cons_render
  -- A number is told from a string by its first character.
  have hquote : c ≠ '"' := by
    rintro rfl
    rcases hc with hc | hc <;> cases hc
  rw [hs, List.cons_append] at hread ⊢
  rw [readScalar, if_neg hquote, if_pos hc, hread]
  rfl

/-- A string is read as a value. -/
theorem readScalar_string (s : String) (rest : List Char) :
    readScalar (renderString s ++ rest) = .ok (.string s, rest) := by
  have hread := readString_escaped s rest
  rw [renderString, List.cons_append, List.cons_append, List.append_assoc, List.singleton_append,
    readScalar, if_pos rfl, hread]
  rfl

/-! ### Arrays -/

section
variable {inner : List Char → Parsed Value}

/-- What an array does with an element. -/
def addElement (inner : List Char → Parsed Value) (vs : List Value) (s : List Char) :
    Parsed (List Value) :=
  (inner s).map fun (v, rest) => (vs ++ [v], rest)

/-- After an element comes a comma or the closing bracket. -/
theorem endsValue_renderElements (xs : List Value) (rest : List Char) :
    EndsValue (renderElements xs ++ rest) := by
  cases xs with
  | nil => exact endsValue_cons (.inr (.inl rfl)) rest
  | cons x xs => exact endsValue_cons (.inl rfl) _

/-- The elements after the first are read as they are written, in one
round each. -/
theorem elementsFrom_renderElements {xs : List Value}
    (hinner : ∀ x ∈ xs, ∀ rest, EndsValue rest → inner (x.render ++ rest) = .ok (x, rest))
    {rounds : Nat} (hrounds : xs.length < rounds) (acc : List Value) (rest : List Char) :
    elementsFrom (fun _ => true) (addElement inner) rounds false acc (renderElements xs ++ rest)
      = .ok (acc ++ xs, rest) := by
  induction xs generalizing rounds acc with
  | nil =>
    obtain ⟨rounds, rfl⟩ := Nat.exists_eq_succ_of_ne_zero (Nat.ne_of_gt hrounds)
    rw [List.append_nil]
    rfl
  | cons x xs ih =>
    -- One round takes the comma and the element; `ih` has the others with this one behind `acc`.
    obtain ⟨rounds, rfl⟩ := Nat.exists_eq_succ_of_ne_zero (Nat.ne_of_gt (Nat.zero_lt_of_lt hrounds))
    have hread := hinner x List.mem_cons_self _ (endsValue_renderElements xs rest)
    have hrest := ih (fun y hy => hinner y (List.mem_cons_of_mem x hy))
      (Nat.lt_of_succ_lt_succ hrounds) (acc ++ [x])
    -- The element does not look like the end of the array.
    obtain ⟨c, s, hs, hspace, hclose⟩ := x.exists_cons_render
    rw [hs, List.cons_append] at hread
    rw [renderElements, hs, List.append_assoc, List.cons_append, elementsFrom,
      skipSpace_cons (by decide)]
    simp only [skipSpace_cons hspace, hclose, if_false, addElement, hread, List.cons_append]
    rw [List.append_assoc] at hrest
    exact hrest

/-- Each element has its comma. -/
theorem length_renderElements (xs : List Value) : xs.length < (renderElements xs).length := by
  induction xs with
  | nil => exact Nat.zero_lt_one
  | cons x xs ih =>
    rw [renderElements, List.length_append, List.length_cons, List.length_cons]
    omega

/-- All elements are read after the opening bracket. -/
theorem elements_render {x : Value} {xs : List Value}
    (hinner : ∀ y ∈ x :: xs, ∀ rest, EndsValue rest → inner (y.render ++ rest) = .ok (y, rest))
    (rest : List Char) :
    elements (fun _ => true) (addElement inner) [] (x.render ++ renderElements xs ++ rest)
      = .ok (x :: xs, rest) := by
  have hread := hinner x List.mem_cons_self _ (endsValue_renderElements xs rest)
  -- Each element has at least its comma, so the text is long enough.
  have hrounds : xs.length < (x.render ++ renderElements xs ++ rest).length := by
    have := length_renderElements xs
    rw [List.length_append, List.length_append]
    omega
  have hrest := elementsFrom_renderElements (fun y hy => hinner y (List.mem_cons_of_mem x hy))
    hrounds [x] rest
  obtain ⟨c, s, hs, hspace, hclose⟩ := x.exists_cons_render
  rw [hs, List.cons_append] at hread
  rw [hs, List.append_assoc, List.cons_append] at hrest ⊢
  rw [elements, elementsFrom]
  simp only [skipSpace_cons hspace, hclose, if_false, addElement, hread]
  exact hrest

/-! ### Objects -/

/-- What an object does with a member whose name was read. -/
def addMember (inner : List Char → Parsed Value) (ms : List (String × Value)) (k : String)
    (s : List Char) : Parsed (List (String × Value)) :=
  (afterColon inner s).map fun (v, rest) => (ms ++ [(k, v)], rest)

/-- After a member comes a comma or the closing brace. -/
theorem endsValue_renderMembers (ms : List (String × Value)) (rest : List Char) :
    EndsValue (renderMembers ms ++ rest) := by
  cases ms with
  | nil => exact endsValue_cons (.inr (.inr rfl)) rest
  | cons m ms => exact endsValue_cons (.inl rfl) _

/-- The value of a member stands behind the colon. -/
theorem afterColon_cons (s : List Char) : afterColon inner (':' :: s) = inner s := rfl

/-- The members after the first are read as they are written, in one
round each. -/
theorem membersFrom_renderMembers {ms : List (String × Value)}
    (hinner : ∀ m ∈ ms, ∀ rest, EndsValue rest → inner (m.2.render ++ rest) = .ok (m.2, rest))
    {rounds : Nat} (hrounds : ms.length < rounds) (acc : List (String × Value))
    (rest : List Char) :
    membersFrom readString (addMember inner) rounds false acc (renderMembers ms ++ rest)
      = .ok (acc ++ ms, rest) := by
  induction ms generalizing rounds acc with
  | nil =>
    obtain ⟨rounds, rfl⟩ := Nat.exists_eq_succ_of_ne_zero (Nat.ne_of_gt hrounds)
    rw [List.append_nil]
    rfl
  | cons m ms ih =>
    -- One round takes the comma, the name, the colon and the value.
    obtain ⟨k, x⟩ := m
    obtain ⟨rounds, rfl⟩ := Nat.exists_eq_succ_of_ne_zero (Nat.ne_of_gt (Nat.zero_lt_of_lt hrounds))
    have hname := readString_escaped k (':' :: (x.render ++ (renderMembers ms ++ rest)))
    have hread := hinner (k, x) List.mem_cons_self _ (endsValue_renderMembers ms rest)
    have hrest := ih (fun m hm => hinner m (List.mem_cons_of_mem _ hm))
      (Nat.lt_of_succ_lt_succ hrounds) (acc ++ [(k, x)])
    rw [List.append_assoc] at hrest
    have htext : renderMembers ((k, x) :: ms) ++ rest
        = ',' :: '"' :: (k.toList.flatMap escapedChar
          ++ '"' :: ':' :: (x.render ++ (renderMembers ms ++ rest))) := by
      simp [renderMembers, renderString]
    rw [htext, membersFrom, skipSpace_cons (by decide)]
    simp only [skipSpace_cons (show isSpace '"' = false by decide), hname, addMember,
      afterColon_cons, hread]
    exact hrest

/-- Each member has its comma. -/
theorem length_renderMembers (ms : List (String × Value)) :
    ms.length < (renderMembers ms).length := by
  induction ms with
  | nil => exact Nat.zero_lt_one
  | cons m ms ih =>
    rw [renderMembers, List.length_cons, List.length_append, List.length_append, List.length_cons,
      List.length_cons]
    omega

/-- All members are read after the opening brace. -/
theorem members_render {k : String} {x : Value} {ms : List (String × Value)}
    (hinner : ∀ m ∈ (k, x) :: ms, ∀ rest, EndsValue rest →
      inner (m.2.render ++ rest) = .ok (m.2, rest))
    (rest : List Char) :
    members readString (addMember inner) []
        (renderString k ++ ':' :: x.render ++ renderMembers ms ++ rest)
      = .ok ((k, x) :: ms, rest) := by
  have hname := readString_escaped k (':' :: (x.render ++ (renderMembers ms ++ rest)))
  have hread := hinner (k, x) List.mem_cons_self _ (endsValue_renderMembers ms rest)
  -- The opening quote comes first, as the reader wants it.
  have htext : renderString k ++ ':' :: x.render ++ renderMembers ms ++ rest
      = '"' :: (k.toList.flatMap escapedChar
        ++ '"' :: ':' :: (x.render ++ (renderMembers ms ++ rest))) := by
    simp [renderString]
  -- Each member takes a character at least, so the rounds are enough.
  have hrounds : ms.length
      < (renderString k ++ ':' :: x.render ++ renderMembers ms ++ rest).length := by
    have := length_renderMembers ms
    rw [List.length_append, List.length_append]
    omega
  have hrest := membersFrom_renderMembers (fun m hm => hinner m (List.mem_cons_of_mem _ hm))
    hrounds [(k, x)] rest
  rw [htext] at hrest ⊢
  rw [members, membersFrom]
  simp only [skipSpace_cons (show isSpace '"' = false by decide), hname, addMember,
    afterColon_cons, hread]
  exact hrest

end

/-! ### All values -/

/-- What begins with no bracket is read without regard to brackets. -/
theorem readValueWith_of_readScalar {inner : Option (List Char → Parsed Value)} {v : Value}
    {c : Char} {s rest : List Char} (hspace : isSpace c = false) (harray : c ≠ '[')
    (hobject : c ≠ '\x7b') (h : readScalar (c :: s) = .ok (v, rest)) :
    readValueWith inner (c :: s) = .ok (v, rest) := by
  rw [readValueWith, skipSpace_cons hspace]
  exact (if_neg (not_or.mpr ⟨harray, hobject⟩)).trans h

/-- A value without parts is read whatever is allowed inside
brackets. -/
theorem readValueWith_render_scalar {inner : Option (List Char → Parsed Value)} (v : Value)
    (h : v.Readable 0) {rest : List Char} (hrest : EndsValue rest) :
    readValueWith inner (v.render ++ rest) = .ok (v, rest) := by
  cases v with
  | null => exact readValueWith_of_readScalar rfl (by decide) (by decide) rfl
  | bool b =>
    cases b <;> exact readValueWith_of_readScalar rfl (by decide) (by decide) rfl
  | string s =>
    exact readValueWith_of_readScalar rfl (by decide) (by decide) (readScalar_string s rest)
  | number n =>
    have hread := readScalar_number h hrest
    obtain ⟨c, s, hs, hc⟩ := n.exists_cons_render
    rw [Value.render]
    rw [hs, List.cons_append] at hread ⊢
    refine readValueWith_of_readScalar ?_ ?_ ?_ hread
    · rcases hc with rfl | hc
      · rfl
      · exact isSpace_of_isDigit hc
    -- A number does not begin with a bracket.
    all_goals
      rintro rfl
      rcases hc with hc | hc <;> cases hc
  | array xs => exact h.elim
  | object ms => exact h.elim

/-- A value is read as it is written, with what comes after it left. -/
theorem readValue_render {depth : Nat} {v : Value} (h : v.Readable depth) {rest : List Char}
    (hrest : EndsValue rest) : readValue depth (v.render ++ rest) = .ok (v, rest) := by
  -- By induction on the depth: what is inside the brackets of `v` has one less.
  induction depth generalizing v rest with
  | zero => exact readValueWith_render_scalar v h hrest
  | succ depth ih =>
    cases v with
    | null => exact readValueWith_render_scalar .null h hrest
    | bool b => exact readValueWith_render_scalar (.bool b) h hrest
    | string s => exact readValueWith_render_scalar (.string s) h hrest
    | number n => exact readValueWith_render_scalar (.number n) h hrest
    | array xs =>
      cases xs with
      | nil => rfl
      | cons x xs =>
        have helements := elements_render (fun y hy _ => ih (h y hy)) rest
        show (elements (fun _ => true) (addElement (readValue depth)) []
          (x.render ++ renderElements xs ++ rest)).map _ = _
        rw [helements]
        rfl
    | object ms =>
      cases ms with
      | nil => rfl
      | cons m ms =>
        obtain ⟨k, x⟩ := m
        have hmembers := members_render (fun m hm _ => ih (h m hm)) rest
        show (members readString (addMember (readValue depth)) []
          (renderString k ++ ':' :: x.render ++ renderMembers ms ++ rest)).map _ = _
        rw [hmembers]
        rfl

/-- A value is read back from its compact text. -/
theorem readAll_render {depth : Nat} {v : Value} (h : v.Readable depth) :
    readAll (readValue depth) v.render = .ok v := by
  -- Nothing comes after the value, which ends it too.
  have hread := readValue_render h endsValue_nil
  rw [List.append_nil] at hread
  rw [readAll, hread]
  rfl

end RuleTrace.Json
