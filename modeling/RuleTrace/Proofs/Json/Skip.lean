import RuleTrace.Proofs.Json.Loops

/-!
# `RuleTrace.Proofs.Json.Skip`: skipping ends where reading ends

What is skipped is looked at less closely than what is read: surrogates
need no partner, numbers may be of any magnitude, and brackets may be
open inside one another as deeply as the text allows. So a value that can
be read can be skipped, and what comes after it is the same
(`skipValue_of_readValue`).

For strings this is a relation between the places of two machines
(`Place.Alike`), for arrays and objects it is two loops over one text, of
which the second one keeps nothing.
-/

set_option autoImplicit false

namespace RuleTrace.Json

/-! ### Words are taken off the front -/

/-- A word is taken off the front. -/
theorem suffix_of_literal {es s rest : List Char} (h : literal es s = .ok rest) : rest <:+ s := by
  induction es generalizing s with
  | nil =>
    cases h
    exact List.suffix_refl _
  | cons e es ih =>
    cases s with
    | nil => cases h
    | cons c s =>
      rw [literal] at h
      split at h
      · exact (ih h).trans (List.suffix_cons c s)
      · cases h

/-- What a character is put in front of was read. -/
theorem prepend_eq_ok {u : Option Char} {p : Parsed (List Char)} {cs rest : List Char}
    (h : prepend u p = .ok (cs, rest)) : ∃ ds, p = .ok (ds, rest) := by
  rcases p with e | ⟨ds, rest'⟩
  · cases h
  · cases h
    exact ⟨ds, rfl⟩

/-- A character can be put in front of what was read. -/
theorem prepend_of_ok {p : Parsed (List Char)} {rest : List Char} (u : Option Char)
    (h : ∃ ds, p = .ok (ds, rest)) : ∃ ds, prepend u p = .ok (ds, rest) := by
  obtain ⟨ds, rfl⟩ := h
  exact ⟨u.toList ++ ds, rfl⟩

/-- Where a reader is that does not care for surrogates, while a careful
one is at a place. It does not wait for the second one of a pair. -/
inductive Place.Alike : Place → Place → Prop where
  | plain : Alike .plain .plain
  | escape : Alike .escape .escape
  | digits (missing value value' : Nat) (high high' : Option Nat) :
      Alike (.digits missing value high) (.digits missing value' high')
  | backslash (high : Nat) : Alike (.backslash high) .plain
  | letter (high : Nat) : Alike (.letter high) .escape

/-- After its digits an escape is over, or its partner has to follow. -/
theorem alike_of_afterDigits {n : Nat} {high : Option Nat} {u : Option Char} {place : Place}
    (h : afterDigits true n high = .ok (u, place)) : place.Alike .plain := by
  unfold afterDigits at h
  simp only [Bool.not_true, Bool.false_eq_true, if_false] at h
  split at h
  · split at h
    · cases h
      exact .plain
    · cases h
  · split at h
    · cases h
    · split at h
      · cases h
        exact .backslash n
      · cases h
        exact .plain

/-- A string is taken off the front, and whoever is less careful takes as
much. -/
theorem stringFrom_lenient {place place' : Place} (halike : place.Alike place')
    {s cs rest : List Char} (h : stringFrom true place s = .ok (cs, rest)) :
    rest <:+ s ∧ ∃ ds, stringFrom false place' s = .ok (ds, rest) := by
  induction s generalizing place place' cs with
  | nil => cases place <;> cases h
  | cons c s ih =>
    -- The last character ends the string; each other one leaves the two at places that are alike.
    have hgo : ∀ {next next' : Place} {ds : List Char}, next.Alike next' →
        stringFrom true next s = .ok (ds, rest) →
        rest <:+ c :: s ∧ ∃ ds, stringFrom false next' s = .ok (ds, rest) := by
      intro next next' ds hnext hs
      obtain ⟨hsuffix, hlenient⟩ := ih hnext hs
      exact ⟨hsuffix.trans (List.suffix_cons c s), hlenient⟩
    cases halike with
    | plain =>
      rw [stringFrom] at h ⊢
      split at h
      · rename_i hquote
        cases h
        exact ⟨List.suffix_cons c _, [], if_pos hquote⟩
      · rename_i hquote
        rw [if_neg hquote]
        split at h
        · rename_i hslash
          rw [if_pos hslash]
          exact hgo .escape h
        · rename_i hslash
          rw [if_neg hslash]
          split at h
          · cases h
          · rename_i hcontrol
            rw [if_neg hcontrol]
            obtain ⟨ds, hds⟩ := prepend_eq_ok h
            obtain ⟨hsuffix, hlenient⟩ := hgo .plain hds
            exact ⟨hsuffix, prepend_of_ok _ hlenient⟩
    | escape =>
      rw [stringFrom] at h ⊢
      split at h
      · rename_i hu
        rw [if_pos hu]
        split at h
        · cases h
        · rename_i hends
          rw [if_neg hends]
          exact hgo (.digits ..) h
      · rename_i hu
        rw [if_neg hu]
        split at h
        · obtain ⟨ds, hds⟩ := prepend_eq_ok h
          obtain ⟨hsuffix, hlenient⟩ := hgo .plain hds
          exact ⟨hsuffix, prepend_of_ok _ hlenient⟩
        · cases h
    | digits missing value value' high high' =>
      rw [stringFrom] at h ⊢
      split at h
      · cases h
      · dsimp only at h ⊢
        split at h
        · rename_i hmissing
          rw [if_pos hmissing]
          split at h
          · cases h
          · rename_i u next hafter
            obtain ⟨ds, hds⟩ := prepend_eq_ok h
            obtain ⟨hsuffix, hlenient⟩ := hgo (alike_of_afterDigits hafter) hds
            exact ⟨hsuffix, prepend_of_ok none hlenient⟩
        · rename_i hmissing
          rw [if_neg hmissing]
          exact hgo (.digits ..) h
    | backslash high =>
      rw [stringFrom] at h
      rw [stringFrom]
      split at h
      · rename_i hslash
        rw [if_neg (by rw [hslash]; decide), if_pos hslash]
        exact hgo (.letter high) h
      · cases h
    | letter high =>
      rw [stringFrom] at h
      rw [stringFrom]
      split at h
      · rename_i hu
        rw [if_pos hu]
        split at h
        · cases h
        · rename_i hends
          rw [if_neg hends]
          exact hgo (.digits ..) h
      · cases h

/-- A string is taken off the front. -/
theorem takes_readString : Takes readString := by
  intro s x rest h
  rw [readString] at h
  rcases hs : stringFrom true .plain s with e | ⟨cs, rest'⟩
  · rw [hs] at h
    cases h
  · rw [hs] at h
    cases h
    exact (stringFrom_lenient .plain hs).1

/-- A string that is read can be skipped. -/
theorem skipString_of_readString {s rest : List Char} {x : String}
    (h : readString s = .ok (x, rest)) : skipString s = .ok rest := by
  rw [readString] at h
  rcases hs : stringFrom true .plain s with e | ⟨cs, rest'⟩
  · rw [hs] at h
    cases h
  · rw [hs] at h
    cases h
    obtain ⟨-, ds, hds⟩ := stringFrom_lenient .plain hs
    rw [skipString, hds]
    rfl

/-! ### Numbers -/

/-- Digits are taken off the front. -/
theorem takes_digits1 : Takes digits1 := by
  intro s ds rest h
  rw [digits1] at h
  split at h
  · split at h <;> cases h
  · cases h
    exact List.dropWhile_suffix _

/-- The whole part of a number is taken off the front. -/
theorem takes_wholePart : Takes wholePart := by
  intro s ds rest h
  rw [wholePart] at h
  split at h
  · cases h
  · rename_i hdigits
    split at h
    · cases h
    · cases h
      exact takes_digits1 hdigits

/-- The fraction is taken off the front, if there is one. -/
theorem takes_fractionPart : Takes fractionPart := by
  intro s ds rest h
  unfold fractionPart at h
  split at h
  · rename_i s
    rcases hdigits : digits1 s with e | ⟨fraction, rest'⟩
    · rw [hdigits] at h
      cases h
    · rw [hdigits] at h
      cases h
      exact (takes_digits1 hdigits).trans (List.suffix_cons '.' s)
  · cases h
    exact List.suffix_refl _

/-- The sign of the exponent is taken off the front, if there is one. -/
theorem exponentSign_suffix (s : List Char) : (exponentSign s).2 <:+ s := by
  unfold exponentSign
  split
  · exact List.suffix_cons _ _
  · exact List.suffix_cons _ _
  · exact List.suffix_refl _

/-- The exponent is taken off the front, if there is one. -/
theorem takes_exponentPart : Takes exponentPart := by
  intro s x rest h
  cases s with
  | nil =>
    cases h
    exact List.suffix_refl _
  | cons c s =>
    rw [exponentPart] at h
    split at h
    · dsimp only at h
      rcases hdigits : digits1 (exponentSign s).2 with e | ⟨ds, rest'⟩
      · rw [hdigits] at h
        cases h
      · rw [hdigits] at h
        cases h
        exact (takes_digits1 hdigits).trans ((exponentSign_suffix s).trans (List.suffix_cons c s))
    · cases h
      exact List.suffix_refl _

/-- A numeral is taken off the front, part after part. -/
theorem takes_numeral : Takes numeral := by
  intro s n rest h
  unfold numeral at h
  split at h
  rename_i negative t hsign
  have ht : t <:+ s := by
    split at hsign
    · cases hsign
      exact List.suffix_cons _ _
    · cases hsign
      exact List.suffix_refl _
  -- What follows the sign is cut into three pieces.
  split at h
  · cases h
  · rename_i hwhole
    split at h
    · cases h
    · rename_i hfraction
      split at h
      · cases h
      · rename_i hexponent
        cases h
        exact (takes_exponentPart hexponent).trans
          ((takes_fractionPart hfraction).trans ((takes_wholePart hwhole).trans ht))

/-- A number is taken off the front, and it can be skipped. -/
theorem skipNumber_of_readNumber {s rest : List Char} {n : Number}
    (h : readNumber s = .ok (n, rest)) : rest <:+ s ∧ skipNumber s = .ok rest := by
  rw [readNumber] at h
  rw [skipNumber]
  split at h
  · cases h
  · rename_i m rest' hnumeral
    rcases hjudge : m.judge with e | number
    · rw [hjudge] at h
      cases h
    · rw [hjudge] at h
      cases h
      exact ⟨takes_numeral hnumeral, rfl⟩

/-! ### Values -/

/-- A value without parts. -/
def Value.IsScalar : Value → Prop
  | .array _ => False
  | .object _ => False
  | _ => True

/-- A word that is read stands for its value. -/
theorem word_eq_ok {es s rest : List Char} {v w : Value}
    (h : ((literal es s).map fun rest => (w, rest)) = .ok (v, rest)) :
    literal es s = .ok rest ∧ w = v := by
  cases hliteral : literal es s with
  | error e =>
    rw [hliteral] at h
    cases h
  | ok t =>
    rw [hliteral] at h
    cases h
    exact ⟨rfl, rfl⟩

/-- A value without parts is taken off the front, and it can be
skipped. -/
theorem skipScalar_of_readScalar {s rest : List Char} {v : Value}
    (h : readScalar s = .ok (v, rest)) : rest <:+ s ∧ v.IsScalar ∧ skipScalar s = .ok rest := by
  cases s with
  | nil => cases h
  | cons c s =>
    have hread := h
    rw [readScalar] at h
    rw [skipScalar]
    split at h
    · rename_i hquote
      obtain ⟨x, hx, rfl⟩ := map_eq_ok h
      rw [if_pos hquote]
      exact ⟨(takes_readString hx).trans (List.suffix_cons c s), trivial,
        skipString_of_readString hx⟩
    · rename_i hquote
      rw [if_neg hquote]
      split at h
      · rename_i hnumber
        obtain ⟨n, hn, rfl⟩ := map_eq_ok h
        obtain ⟨hsuffix, hskip⟩ := skipNumber_of_readNumber hn
        rw [if_pos hnumber]
        exact ⟨hsuffix, trivial, hskip⟩
      · rename_i hnumber
        rw [if_neg hnumber, hread]
        -- The three words are read letter by letter.
        have hword : ∀ (es : List Char) (w : Value), w.IsScalar →
            ((literal es s).map fun rest => (w, rest)) = .ok (v, rest) →
            rest <:+ c :: s ∧ v.IsScalar ∧
              (Except.ok (v, rest) : Parsed Value).map (·.2) = .ok rest := by
          intro es w hw hes
          obtain ⟨hliteral, rfl⟩ := word_eq_ok hes
          exact ⟨(suffix_of_literal hliteral).trans (List.suffix_cons c s), hw, rfl⟩
        split at h
        · exact hword _ .null trivial h
        · split at h
          · exact hword _ (.bool true) trivial h
          · split at h
            · exact hword _ (.bool false) trivial h
            · cases h

/-- A value is read as one without parts, or after the bracket that
opens it. -/
theorem readValue_cases {depth : Nat} {s rest : List Char} {v : Value}
    (h : readValue depth s = .ok (v, rest)) :
    (∃ c t, skipSpace s = c :: t ∧ c ≠ '[' ∧ c ≠ '\x7b' ∧ readScalar (c :: t) = .ok (v, rest)) ∨
    (∃ inner t vs, depth = inner + 1 ∧ skipSpace s = '[' :: t ∧ v = .array vs ∧
      elements (fun _ => true) (addElement (readValue inner)) [] t = .ok (vs, rest)) ∨
    ∃ inner t ms, depth = inner + 1 ∧ skipSpace s = '\x7b' :: t ∧ v = .object ms ∧
      members readString (addMember (readValue inner)) [] t = .ok (ms, rest) := by
  -- How many brackets are allowed decides only whether there may be one.
  have hwith : ∃ inner, readValue depth = readValueWith inner ∧
      ∀ read, inner = some read → ∃ d, depth = d + 1 ∧ read = readValue d := by
    cases depth with
    | zero => exact ⟨none, rfl, fun read h => by cases h⟩
    | succ d => exact ⟨some (readValue d), rfl, fun read h => ⟨d, rfl, (Option.some.inj h).symm⟩⟩
  obtain ⟨inner, hinner, hdepth⟩ := hwith
  rw [hinner, readValueWith] at h
  cases hs : skipSpace s with
  | nil => simp [hs] at h
  | cons c t =>
    simp only [hs] at h
    split at h
    · cases hread : inner with
      | none =>
        rw [hread] at h
        cases h
      | some read =>
        obtain ⟨d, hd, rfl⟩ := hdepth read hread
        rw [hread] at h
        dsimp only at h
        split at h
        · rename_i harray
          obtain ⟨vs, hvs, rfl⟩ := map_eq_ok h
          exact .inr (.inl ⟨d, t, vs, hd, by rw [harray], rfl, hvs⟩)
        · rename_i hbracket harray
          obtain ⟨ms, hms, rfl⟩ := map_eq_ok h
          exact .inr (.inr ⟨d, t, ms, hd, by rw [hbracket.resolve_left harray], rfl, hms⟩)
    · rename_i hbracket
      exact .inl ⟨c, t, rfl, fun e => hbracket (.inl e), fun e => hbracket (.inr e), h⟩

/-- A value is taken off the front, with all that is inside it. -/
theorem takes_readValue (depth : Nat) : Takes (readValue depth) := by
  induction depth with
  | zero =>
    intro s v rest h
    rcases readValue_cases h with ⟨c, t, hs, -, -, hread⟩ | ⟨_, _, _, hd, -⟩ | ⟨_, _, _, hd, -⟩
    · exact (skipScalar_of_readScalar hread).1.trans (hs ▸ skipSpace_suffix s)
    · cases hd
    · cases hd
  -- What stands inside the brackets is taken off by `ih`.
  | succ depth ih =>
    intro s v rest h
    rcases readValue_cases h with
      ⟨c, t, hs, -, -, hread⟩ | ⟨d, t, vs, hd, hs, -, hread⟩ | ⟨d, t, ms, hd, hs, -, hread⟩
    · exact (skipScalar_of_readScalar hread).1.trans (hs ▸ skipSpace_suffix s)
    · cases hd
      exact (takes_elements (takes_addElement ih) _ hread).trans (suffix_of_skipSpace hs)
    · cases hd
      exact (takes_members takes_readString (takes_addMember ih) _ hread).trans
        (suffix_of_skipSpace hs)

/-- A text is read if nothing but blanks is left after the value. -/
theorem readAll_eq_ok_iff {α : Type} {read : List Char → Parsed α} {s : List Char} {x : α} :
    readAll read s = .ok x ↔ ∃ rest, read s = .ok (x, rest) ∧ (skipSpace rest).isEmpty := by
  rw [readAll]
  constructor
  · intro h
    split at h
    · cases h
    · rename_i y rest hread
      split at h
      · rename_i hend
        cases h
        exact ⟨rest, hread, hend⟩
      · cases h
  · rintro ⟨rest, hread, hend⟩
    rw [hread]
    exact if_pos hend

/-- After the first character that is no blank there is less. -/
theorem length_lt_of_skipSpace {c : Char} {s t : List Char} (h : skipSpace s = c :: t) :
    t.length < s.length := by
  have hle := (skipSpace_suffix s).length_le
  rw [h, List.length_cons] at hle
  exact hle

/-- Putting everything nowhere works always. -/
theorem foldlM_unit {α : Type} (xs : List α) :
    xs.foldlM (fun (_ : Unit) _ => some ()) () = some () := by
  induction xs with
  | nil => rfl
  | cons x xs ih => exact ih

/-- A value that is read can be skipped by whoever allows for as many
brackets as the text has characters, and skipping ends where reading
ends. -/
theorem skipValueWithin_of_readValue {depth n : Nat} {s rest : List Char} {v : Value}
    (hn : s.length ≤ n) (h : readValue depth s = .ok (v, rest)) :
    skipValueWithin n s = .ok ((), rest) := by
  -- What stands inside brackets is shorter, and so it is for all that the loops come to.
  induction n generalizing depth s v rest with
  | zero =>
    have hs : s = [] := List.eq_nil_of_length_eq_zero (Nat.eq_zero_of_le_zero hn)
    rcases readValue_cases h with ⟨c, t, hc, -⟩ | ⟨_, t, _, -, hc, -⟩ | ⟨_, t, _, -, hc, -⟩ <;>
    · rw [hs] at hc
      cases hc
  | succ n ih =>
    rw [skipValueWithin, skipValueWith]
    rcases readValue_cases h with
      ⟨c, t, hs, harray, hobject, hread⟩ | ⟨d, t, vs, rfl, hs, rfl, hread⟩ |
        ⟨d, t, ms, rfl, hs, rfl, hread⟩
    · simp [hs, harray, hobject, (skipScalar_of_readScalar hread).2.2, Except.map]
    · have hlength := length_lt_of_skipSpace hs
      have hfollow := elements_follows (fun _ => true) (fun _ => skipValueWithin n)
        (fun _ => True) (takes_readValue d)
        (fun u v w _ _ hu hv _ _ => ⟨rfl, ih (by have := hu.length_le; omega) hv, trivial⟩) hread
        trivial (foldlM_unit vs)
      simpa [hs] using hfollow
    · have hlength := length_lt_of_skipSpace hs
      have hfollow := members_follows (fun s => (skipString s).map fun rest => ((), rest))
        (fun _ _ => afterColon (skipValueWithin n)) (fun _ => ()) id takes_readString
        (takes_addMember (takes_readValue d))
        (fun u k w hk => by rw [skipString_of_readString hk]; rfl)
        (fun ms k u next w hu hread => by
          obtain ⟨v, hv, rfl⟩ := addMember_eq_ok hread
          refine ⟨[(k, v)], rfl, fun state last _ => ?_⟩
          obtain ⟨x, -, hx, hv, hother⟩ := afterColon_eq_ok hv
          rw [hother]
          exact ih (by have := hu.length_le; have := hx.length_le; omega) hv)
        hread rfl (foldlM_unit ms)
      simpa [hs] using hfollow

/-- A value that is read can be skipped, and skipping ends where reading
ends. -/
theorem skipValue_of_readValue {depth : Nat} {s rest : List Char} {v : Value}
    (h : readValue depth s = .ok (v, rest)) : skipValue s = .ok ((), rest) :=
  skipValueWithin_of_readValue (Nat.le_refl _) h

end RuleTrace.Json
