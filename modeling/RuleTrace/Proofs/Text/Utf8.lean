import RuleTrace.Text.Utf8

/-!
# `RuleTrace.Proofs.Text.Utf8`: line feeds among octets and among characters

An octet of value ten is a line feed wherever it stands. No character of
several octets is written with it (`count_encode`), and none is read from
it: it ends a character begun as an ill-formed piece and is read as a
line feed (`count_decodeLossy`). So line feeds can be counted in octets
or in characters.

For the reader the invariant is `Partial.Sound`: a character begun goes
on with octets from 0x80 on only, and whatever they are, its number will
be 128 or more.
-/

set_option autoImplicit false

namespace RuleTrace.Text.Utf8

/-! ### Writing -/

/-- The octets of a character have a line feed only if it is one. -/
theorem count_utf8EncodeChar (c : Char) :
    (String.utf8EncodeChar c).count 10 = if c = '\n' then 1 else 0 := by
  by_cases hc : c = '\n'
  · rw [hc]
    decide
  · rw [if_neg hc, List.count_eq_zero]
    -- A character of one octet is that octet, and all octets of the others are 128 or more.
    intro hmem
    have hten : c.val.toNat ≠ 10 := by
      intro hten
      exact hc (Char.ext (UInt32.toNat_inj.mp hten))
    have hoctet : ∀ n : Nat, (10 : UInt8) = UInt8.ofNat n → n % 256 = 10 := by
      intro n hn
      have hvalue := congrArg UInt8.toNat hn
      rw [UInt8.toNat_ofNat'] at hvalue
      exact hvalue.symm
    unfold String.utf8EncodeChar at hmem
    dsimp only at hmem
    split at hmem
    · have := hoctet _ (List.mem_singleton.mp hmem)
      omega
    · split at hmem
      · simp only [List.mem_cons, List.not_mem_nil, or_false] at hmem
        rcases hmem with hmem | hmem <;> have := hoctet _ hmem <;> omega
      · split at hmem
        · simp only [List.mem_cons, List.not_mem_nil, or_false] at hmem
          rcases hmem with hmem | hmem | hmem <;> have := hoctet _ hmem <;> omega
        · simp only [List.mem_cons, List.not_mem_nil, or_false] at hmem
          rcases hmem with hmem | hmem | hmem | hmem <;> have := hoctet _ hmem <;> omega

/-- What is written has the line feeds of the text. -/
theorem count_encode (cs : List Char) : (encode cs).count 10 = cs.count '\n' := by
  induction cs with
  | nil => rfl
  | cons c cs ih =>
    show (String.utf8EncodeChar c ++ encode cs).count 10 = _
    rw [List.count_append, count_utf8EncodeChar, ih, List.count_cons, Nat.add_comm]
    simp only [beq_iff_eq]

/-! ### Reading -/

/-- A character begun of which no line feed can become a part. -/
structure Partial.Sound (p : Partial) : Prop where
  first_ge : 0x80 ≤ p.next.first
  last_le : p.next.last ≤ 0xBF
  later_eq : ∀ r ∈ p.later, r = tail
  bits_ge : 2 ≤ p.bits ∨ p.later ≠ [] ∧ 2 ≤ 64 * p.bits + p.next.first.toNat % 64

/-- The conditions in a row, so that they can be decided. -/
theorem Partial.sound_iff (p : Partial) : p.Sound ↔
    0x80 ≤ p.next.first ∧ p.next.last ≤ 0xBF ∧ (∀ r ∈ p.later, r = tail) ∧
      (2 ≤ p.bits ∨ p.later ≠ [] ∧ 2 ≤ 64 * p.bits + p.next.first.toNat % 64) :=
  ⟨fun ⟨h1, h2, h3, h4⟩ => ⟨h1, h2, h3, h4⟩, fun ⟨h1, h2, h3, h4⟩ => ⟨h1, h2, h3, h4⟩⟩

instance (p : Partial) : Decidable p.Sound := decidable_of_iff _ p.sound_iff.symm

/-- What a step puts out has a line feed just for the octet of one, and
a character begun stays sound. -/
structure Steady (b : UInt8) (out : List (Option Char) × Option Partial) : Prop where
  count_eq : out.1.count (some '\n') = if b = 10 then 1 else 0
  sound : ∀ p ∈ out.2, p.Sound

/-- An octet that begins a character, or stands for itself, is read
steadily. -/
theorem steady_begin (b : UInt8) : Steady b (begin b) := by
  -- There are 256 octets, and each is looked at.
  have hall : ∀ n, n < 256 →
      (begin (UInt8.ofNat n)).1.count (some '\n') = (if UInt8.ofNat n = 10 then 1 else 0) ∧
        ∀ p ∈ (begin (UInt8.ofNat n)).2, p.Sound := by
    decide +kernel
  obtain ⟨hcount, hsound⟩ := hall b.toNat b.toNat_lt
  rw [UInt8.ofNat_toNat] at hcount hsound
  exact ⟨hcount, hsound⟩

/-- A number of 128 or more is not that of a line feed, also if it is not
that of a character. -/
theorem ofNat_ne_newline {n : Nat} (h : 128 ≤ n) : Char.ofNat n ≠ '\n' := by
  intro hn
  by_cases hvalid : n.isValidChar
  · rw [Char.ofNat, dif_pos hvalid] at hn
    have hten : n = 10 := congrArg Char.toNat hn
    omega
  · rw [Char.ofNat, dif_neg hvalid] at hn
    cases hn

/-- So is an octet that comes after others. -/
theorem steady_step {state : Option Partial} (h : ∀ p ∈ state, p.Sound) (b : UInt8) :
    Steady b (step state b) := by
  cases state with
  | none => exact steady_begin b
  | some p =>
    obtain ⟨hfirst, hlast, hlater, hbits⟩ := h p rfl
    unfold step
    dsimp only
    -- The octet goes on with the character begun, or it does not.
    split
    · rename_i hcontains
      simp only [Range.contains, Bool.and_eq_true, decide_eq_true_eq] at hcontains
      obtain ⟨hlow, hhigh⟩ := hcontains
      have hb : 128 ≤ b.toNat := Nat.le_trans hfirst hlow
      have hb' : b.toNat ≤ 191 := Nat.le_trans hhigh hlast
      have hnext : p.next.first.toNat ≤ b.toNat := hlow
      have hfirst' : 128 ≤ p.next.first.toNat := hfirst
      have hten : b ≠ 10 := by
        rintro rfl
        exact absurd hb (by decide)
      cases hrest : p.later with
      | nil =>
        -- The character is complete.
        have hlarge : 2 ≤ p.bits := by simpa [hrest] using hbits
        have hchar := ofNat_ne_newline (n := 64 * p.bits + b.toNat % 64) (by omega)
        refine ⟨?_, ?_⟩
        · simp [hchar, hten]
        · intro q hq
          cases hq
      | cons r rs =>
        -- At least one more octet follows, and any of them is allowed.
        have htail : r = tail := hlater r (by simp [hrest])
        refine ⟨by simp [hten], ?_⟩
        rintro q ⟨⟩
        refine ⟨?_, ?_, ?_, .inl ?_⟩
        · subst htail
          exact UInt8.le_refl _
        · subst htail
          exact UInt8.le_refl _
        · intro r' hr'
          exact hlater r' (by rw [hrest]; exact List.mem_cons_of_mem r hr')
        · show 2 ≤ 64 * p.bits + b.toNat % 64
          omega
    · -- The character begun ends as an ill-formed piece.
      obtain ⟨hcount, hsound⟩ := steady_begin b
      refine ⟨?_, hsound⟩
      rw [← hcount]
      exact List.count_cons_of_ne (by decide)

/-- The pieces of octets have their line feeds, whatever was begun before. -/
theorem count_piecesFrom {state : Option Partial} (h : ∀ p ∈ state, p.Sound) (bs : List UInt8) :
    (piecesFrom state bs).count (some '\n') = bs.count 10 := by
  induction bs generalizing state with
  | nil =>
    cases state with
    | none => rfl
    | some p => rfl
  -- What is begun after an octet is sound again.
  | cons b bs ih =>
    obtain ⟨hcount, hsound⟩ := steady_step h b
    rw [piecesFrom, List.count_append, hcount, ih hsound, List.count_cons, Nat.add_comm]
    simp only [beq_iff_eq]

/-- What is read has the line feeds of the octets. -/
theorem count_decodeLossy (bs : List UInt8) : (decodeLossy bs).count '\n' = bs.count 10 := by
  have hmap : ∀ ps : List (Option Char),
      (ps.map (·.getD '\ufffd')).count '\n' = ps.count (some '\n') := by
    intro ps
    induction ps with
    | nil => rfl
    | cons p ps ih =>
      rw [List.map_cons, List.count_cons, List.count_cons, ih]
      cases p with
      | none => rfl
      | some c => simp
  -- An ill-formed piece is put out as another character.
  rw [decodeLossy, hmap]
  exact count_piecesFrom (fun p hp => by cases hp) bs

end RuleTrace.Text.Utf8
