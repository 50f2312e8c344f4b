import RuleTrace.Proofs.Json.Codec

/-!
# `RuleTrace.Proofs.Json.Faithful`: what is written is read back

A codec is `Faithful` if it makes of a written value what was written,
and its two readers agree; then its compact text is read back
(`Faithful.parse_render`). The bound on the brackets goes along, since
whoever reads a value has one.

Numbers, texts, what may be absent, lists and structures are read back if
their parts are. For a structure, its members are put one after the other
into the default; `Fills` says that in the end this is the structure that
was written.
-/

set_option autoImplicit false

namespace RuleTrace.Json.Codec

variable {α β σ : Type}

/-- What is written, in at most `depth` brackets inside one another, is
made of it again. -/
structure Faithful (depth : Nat) (c : Codec α) : Prop where
  streams : c.Streams
  restores : ∀ x, c.ofValue? (c.toValue x) = some x
  readable : ∀ x, (c.toValue x).Readable depth

/-- The compact text is read as the value that was written. -/
theorem Faithful.readAll_render {depth : Nat} {c : Codec α} (h : c.Faithful depth) (x : α) :
    readAll (readValue depth) (c.render x) = .ok (c.toValue x) :=
  Json.readAll_render (h.readable x)

/-- What is written is read back. -/
theorem Faithful.parse_render {depth : Nat} {c : Codec α} (h : c.Faithful depth) (x : α) :
    c.parse (c.render x) = .ok x := by
  have hvalue := readValue_render (h.readable x) endsValue_nil
  rw [List.append_nil] at hvalue
  rw [parse, readAll, render, h.streams hvalue (h.restores x)]
  rfl

/-! ### Values without parts -/

/-- A number is as readable in any brackets. -/
theorem readable_number {n : Number} (h : n.Fits) (depth : Nat) :
    (Value.number n).Readable depth := by
  cases depth <;> exact h

/-- Words are read back when they are in the range that is read. -/
theorem faithful_natural {bound : Nat} (hbound : bound ≤ UInt64.size) {f : Nat → α} {g : α → Nat}
    (hlt : ∀ x, g x < bound) (hinv : ∀ x, f (g x) = x) (depth : Nat) :
    ((natural bound).map f g).Faithful depth where
  streams := (streams_natural bound).map f g
  restores x := by
    show (if g x < bound then some (g x) else none).map f = some x
    -- The bound is checked, and every word passes.
    rw [if_pos (hlt x), Option.map_some, hinv]
  readable x :=
    readable_number (n := .natural (g x)) (Nat.lt_of_lt_of_le (hlt x) hbound) depth

/-- Octets are read back. -/
theorem faithful_word8 (depth : Nat) : word8.Faithful depth :=
  faithful_natural (by decide) UInt8.toNat_lt (fun _ => UInt8.ofNat_toNat) depth

/-- Words of 16 bits are read back. -/
theorem faithful_word16 (depth : Nat) : word16.Faithful depth :=
  faithful_natural (by decide) UInt16.toNat_lt (fun _ => UInt16.ofNat_toNat) depth

/-- Words of 32 bits are read back. -/
theorem faithful_word32 (depth : Nat) : word32.Faithful depth :=
  faithful_natural (by decide) UInt32.toNat_lt (fun _ => UInt32.ofNat_toNat) depth

/-- Words of 64 bits are read back. -/
theorem faithful_word64 (depth : Nat) : word64.Faithful depth :=
  faithful_natural (Nat.le_refl _) UInt64.toNat_lt (fun _ => UInt64.ofNat_toNat) depth

/-- The sign is written apart from the magnitude, and both are read. -/
theorem integer_ofValue?_numberOfInt {low high z : Int} (hlow : low ≤ z) (hhigh : z < high) :
    (integer low high).ofValue? (.number (numberOfInt z)) = some z := by
  rw [numberOfInt]
  split
  · have habs : -(z.natAbs : Int) = z := by omega
    show (if low ≤ -(z.natAbs : Int) ∧ -(z.natAbs : Int) < high then some (-(z.natAbs : Int))
      else none) = some z
    rw [habs, if_pos ⟨hlow, hhigh⟩]
  · have habs : (z.natAbs : Int) = z := by omega
    show (if low ≤ (z.natAbs : Int) ∧ (z.natAbs : Int) < high then some (z.natAbs : Int)
      else none) = some z
    rw [habs, if_pos ⟨hlow, hhigh⟩]

/-- Signed words are read back. -/
theorem faithful_int32 (depth : Nat) : int32.Faithful depth where
  streams := (streams_integer _ _).map _ _
  restores x := by
    have hlow : -2147483648 ≤ x.toInt := x.le_toInt
    have hhigh : x.toInt < 2147483648 := x.toInt_lt
    have hmade := congrArg (Option.map Int32.ofInt) (integer_ofValue?_numberOfInt hlow hhigh)
    rw [Option.map_some, Int32.ofInt_toInt] at hmade
    exact hmade
  -- Negative numbers are written by their sizes, so both cases have a bound of their own.
  readable x := by
    have hlow : -2147483648 ≤ x.toInt := x.le_toInt
    have hhigh : x.toInt < 2147483648 := x.toInt_lt
    refine readable_number (n := numberOfInt x.toInt) ?_ depth
    rw [numberOfInt]
    split
    · show 0 < x.toInt.natAbs ∧ x.toInt.natAbs ≤ 9223372036854775808
      omega
    · show x.toInt.natAbs < 18446744073709551616
      omega

/-- Texts are read back. -/
theorem faithful_text (depth : Nat) : text.Faithful depth where
  streams := streams_text
  restores _ := rfl
  readable _ := by cases depth <;> exact trivial

/-! ### What may be absent -/

/-- What may be absent is read back, if null is not one of its values. -/
theorem Faithful.optional {depth : Nat} {c : Codec α} (h : c.Faithful depth)
    (hnull : ∀ x, c.toValue x ≠ .null) : (Codec.optional c).Faithful depth where
  streams := h.streams.optional
  restores x := by
    cases x with
    | none => rfl
    | some x =>
      simp only [Codec.optional]
      split
      · rename_i hv
        exact absurd hv (hnull x)
      · rw [h.restores]
        rfl
  readable x := by
    cases x with
    | none => cases depth <;> exact trivial
    | some x => exact h.readable x

/-! ### Lists -/

/-- Lists are read back, with one more bracket around them. -/
theorem Faithful.list {depth : Nat} {c : Codec α} (h : c.Faithful depth) :
    (Codec.list c).Faithful (depth + 1) where
  streams := h.streams.list
  restores xs := by
    show (xs.map c.toValue).mapM c.ofValue? = some xs
    induction xs with
    | nil => rfl
    | cons x xs ih =>
      rw [List.map_cons, List.mapM_cons, h.restores, ih]
      rfl
  readable xs := by
    intro v hv
    obtain ⟨x, -, rfl⟩ := List.mem_map.mp hv
    exact h.readable x

/-! ### Structures -/

/-- The fields have faithful codecs, and they fill `x` up to `y` if what
they write of `y` is put into it. -/
inductive Fills (depth : Nat) (y : σ) : List (StructField σ) → σ → Prop where
  | done : Fills depth y [] y
  | field {α : Type} {name : String} {c : Codec α} {get : σ → α} {set : σ → α → σ} {x : σ}
      {fields : List (StructField σ)} (hc : c.Faithful depth)
      (hrest : Fills depth y fields (set x (get y))) :
      Fills depth y (.of name c get set :: fields) x

section
variable {depth : Nat} {x y : σ} {fields : List (StructField σ)}

/-- Fields that fill a structure are read as they are made of a value. -/
theorem Fills.streams (h : Fills depth y fields x) : ∀ f ∈ fields, f.Streams := by
  induction h with
  | done => exact fun f hf => absurd hf List.not_mem_nil
  | field hc _ ih =>
    intro f hf
    rcases List.mem_cons.mp hf with rfl | hf
    · exact streams_of hc.streams _ _ _
    · exact ih f hf

/-- What the fields write is readable. -/
theorem Fills.readable (h : Fills depth y fields x) :
    ∀ m ∈ toMembers fields y, m.2.Readable depth := by
  induction h with
  | done => exact fun m hm => absurd hm List.not_mem_nil
  | field hc _ ih =>
    intro m hm
    rcases List.mem_cons.mp hm with rfl | hm
    · exact hc.readable _
    · exact ih m hm

/-- Of fields with different names each one is found. -/
theorem find?_of_nodup (hnames : (fields.map StructField.name).Nodup) :
    ∀ f ∈ fields, find? fields f.name = some f := by
  induction fields with
  | nil => exact fun f hf => absurd hf List.not_mem_nil
  | cons g fs ih =>
    obtain ⟨hnew, hnames⟩ := List.nodup_cons.mp hnames
    intro f hf
    rw [find?]
    rcases List.mem_cons.mp hf with rfl | hf
    · exact List.find?_cons_of_pos (decide_eq_true rfl)
    · have hne : g.name ≠ f.name := fun he => hnew (List.mem_map.mpr ⟨f, hf, he.symm⟩)
      rw [List.find?_cons_of_neg (by simpa using hne)]
      exact ih hnames f hf

/-- The members that are written fill the structure up. -/
theorem Fills.ofMembers? {all : List (StructField σ)} (h : Fills depth y fields x)
    (hnames : (fields.map StructField.name).Nodup)
    (hfind : ∀ f ∈ fields, find? all f.name = some f) {seen : List String}
    (hseen : ∀ f ∈ fields, f.name ∉ seen) :
    Codec.ofMembers? all x seen (toMembers fields y) = some y := by
  -- By induction on the fields: the first member is put, and its name is seen from then on.
  induction h generalizing seen with
  | done => rfl
  | field hc _ ih =>
    rename_i name c get set x fs _
    obtain ⟨hnew, hnames⟩ := List.nodup_cons.mp hnames
    have hunseen' : ∀ f ∈ fs, f.name ∉ name :: seen := by
      intro f hf hmem
      rcases List.mem_cons.mp hmem with he | hmem
      · exact hnew (List.mem_map.mpr ⟨f, hf, he⟩)
      · exact hseen f (List.mem_cons_of_mem _ hf) hmem
    have hrest := ih hnames (fun f hf => hfind f (List.mem_cons_of_mem _ hf)) hunseen'
    have hfound : find? all name = some (.of name c get set) := hfind _ List.mem_cons_self
    have hunseen : name ∉ seen := hseen _ List.mem_cons_self
    show Codec.ofMembers? all x seen ((name, c.toValue (get y)) :: toMembers fs y) = some y
    rw [Codec.ofMembers?, hfound]
    dsimp only
    rw [if_neg hunseen]
    show ((c.ofValue? (c.toValue (get y))).map (set x)).bind _ = some y
    rw [hc.restores]
    exact hrest

end

/-- A structure is read back if its fields have different names and fill
the default up to any structure. -/
theorem faithful_struct {depth : Nat} {fields : List (StructField σ)} {default : σ}
    (hfills : ∀ y, Fills depth y fields default)
    (hnames : (fields.map StructField.name).Nodup) :
    (struct fields default).Faithful (depth + 1) where
  streams := streams_struct (hfills default).streams default
  restores y := (hfills y).ofMembers? hnames (find?_of_nodup hnames) fun _ _ => List.not_mem_nil
  readable y := (hfills y).readable

end RuleTrace.Json.Codec
