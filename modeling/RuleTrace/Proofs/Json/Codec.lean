import RuleTrace.Json.Codec
import RuleTrace.Proofs.Json.Skip

/-!
# `RuleTrace.Proofs.Json.Codec`: the two readers of a type agree

A codec reads a type from the text, and it can make the same of a value
that was read before. The two go different ways: the first one skips
what it does not know and stops where the text has not what it wants,
the second one sees the text only after all of it was read.

`Codec.Streams` says that they agree as far as both can: what the second
one makes of a value, the first one reads from its text, and it ends at
the same place. It holds of every codec that is put together in the ways
that there are, by one lemma for each of them. The parts of lists and
structures are compared by running the loop that gathers values beside
the loop that reads into the state (`elements_follows`,
`members_follows`).
-/

set_option autoImplicit false

namespace RuleTrace.Json

variable {α β σ : Type}

namespace Codec

/-- What is made of a value that is read can be read straight from the
text. -/
def Streams (c : Codec α) : Prop :=
  ∀ ⦃depth s v rest x⦄, readValue depth s = .ok (v, rest) → c.ofValue? v = some x →
    c.read s = .ok (x, rest)

end Codec

/-- The same for the field of a structure. -/
def StructField.Streams (f : StructField σ) : Prop :=
  ∀ ⦃depth s v rest x y⦄, readValue depth s = .ok (v, rest) → f.ofValue? x v = some y →
    f.read x s = .ok (y, rest)

namespace Codec

/-- Blanks are skipped once. -/
theorem skipSpace_skipSpace (s : List Char) : skipSpace (skipSpace s) = skipSpace s := by
  induction s with
  | nil => rfl
  | cons c s ih =>
    cases hc : isSpace c with
    | false => rw [skipSpace_cons hc, skipSpace_cons hc]
    | true =>
      have hskip : skipSpace (c :: s) = skipSpace s := List.dropWhile_cons_of_pos hc
      rw [hskip, ih]

/-- Blanks before a value do not matter. -/
theorem readValue_skipSpace (depth : Nat) (s : List Char) :
    readValue depth (skipSpace s) = readValue depth s := by
  cases depth <;> rw [readValue, readValueWith, readValueWith, skipSpace_skipSpace]

/-! ### Values without parts -/

/-- What is read without parts is made of a value that can be read. -/
theorem readScalarAs_eq_ok {ofValue? : Value → Option α} {s rest : List Char} {x : α}
    (h : readScalarAs ofValue? s = .ok (x, rest)) :
    ∃ v, readValue 0 s = .ok (v, rest) ∧ ofValue? v = some x := by
  rw [readScalarAs] at h
  rw [readValue, readValueWith]
  cases hs : skipSpace s with
  | nil =>
    rw [hs] at h
    cases h
  | cons c t =>
    rw [hs] at h
    dsimp only at h ⊢
    by_cases hbracket : c = '[' ∨ c = '\x7b'
    · -- A bracket does not fit.
      rw [if_pos hbracket] at h
      cases h
    · rw [if_neg hbracket] at h ⊢
      cases hscalar : readScalar (c :: t) with
      | error e =>
        rw [hscalar] at h
        cases h
      | ok p =>
        obtain ⟨v, rest'⟩ := p
        rw [hscalar] at h
        dsimp only at h
        cases hvalue : ofValue? v with
        | none =>
          rw [hvalue] at h
          cases h
        | some y =>
          rw [hvalue] at h
          cases h
          exact ⟨v, rfl, hvalue⟩

/-- Types that are made of values without parts are read straight. -/
theorem streams_scalar {ofValue? : Value → Option α} {toValue : α → Value}
    (hscalar : ∀ v x, ofValue? v = some x → v.IsScalar) : (scalar ofValue? toValue).Streams := by
  intro depth s v rest x hread hvalue
  have hv := hscalar v x hvalue
  rcases readValue_cases hread with
    ⟨c, t, hs, harray, hobject, hscalar⟩ | ⟨d, t, vs, -, -, rfl, -⟩ | ⟨d, t, ms, -, -, rfl, -⟩
  · show readScalarAs ofValue? s = _
    rw [readScalarAs]
    have hvalue : ofValue? v = some x := hvalue
    simp [hs, harray, hobject, hscalar, hvalue, orMismatch]
  · exact hv.elim
  · exact hv.elim

/-- Natural numbers are read straight from the text. -/
theorem streams_natural (bound : Nat) : (natural bound).Streams := by
  refine streams_scalar fun v x h => ?_
  cases v with
  | number n => exact trivial
  | _ => cases h

/-- Integers are read straight from the text. -/
theorem streams_integer (low high : Int) : (integer low high).Streams := by
  refine streams_scalar fun v x h => ?_
  cases v with
  | number n => exact trivial
  | _ => cases h

/-- Texts are read straight from the text. -/
theorem streams_text : text.Streams := by
  refine streams_scalar fun v x h => ?_
  cases v with
  | string s => exact trivial
  | _ => cases h

/-- So is what is made of something that is. -/
theorem Streams.map {c : Codec α} (h : c.Streams) (f : α → β) (g : β → α) :
    (c.map f g).Streams := by
  intro depth s v rest y hread hvalue
  obtain ⟨x, hx, rfl⟩ := Option.map_eq_some_iff.mp hvalue
  show (c.read s).map _ = _
  rw [h hread hx]
  rfl

/-- Only null begins with its letter. -/
theorem eq_null_iff_of_readValue {depth : Nat} {s rest : List Char} {v : Value}
    (h : readValue depth s = .ok (v, rest)) : v = .null ↔ (skipSpace s).head? = some 'n' := by
  rcases readValue_cases h with
    ⟨c, t, hs, -, -, hread⟩ | ⟨d, t, vs, -, hs, rfl, -⟩ | ⟨d, t, ms, -, hs, rfl, -⟩
  · -- The first character tells strings, numbers and the three words apart.
    rw [hs, List.head?_cons, Option.some.injEq]
    rw [readScalar] at hread
    split at hread
    · rename_i hc
      obtain ⟨x, -, rfl⟩ := map_eq_ok hread
      subst hc
      exact iff_of_false (fun hv => by cases hv) (by decide)
    · split at hread
      · rename_i hc
        obtain ⟨n, -, rfl⟩ := map_eq_ok hread
        have hne : c ≠ 'n' := by
          rintro rfl
          revert hc
          decide
        simp [hne]
      · split at hread
        · rename_i hc
          exact iff_of_true (word_eq_ok hread).2.symm hc
        · rename_i hne
          have hword : v ≠ .null := by
            rintro rfl
            split at hread
            · cases (word_eq_ok hread).2
            · split at hread
              · cases (word_eq_ok hread).2
              · cases hread
          exact iff_of_false hword hne
  · simp [hs]
  · simp [hs]

/-- What may be absent is read straight if it is when present. -/
theorem Streams.optional {c : Codec α} (h : c.Streams) : (Codec.optional c).Streams := by
  intro depth s v rest y hread hvalue
  have hnull := eq_null_iff_of_readValue hread
  simp only [Codec.optional]
  -- Both readers go by the first letter.
  split
  · rename_i t hs
    have hv : v = .null := hnull.mpr (by rw [hs]; rfl)
    subst hv
    cases hvalue
    rcases readValue_cases hread with
      ⟨d, u, hu, -, -, hscalar⟩ | ⟨_, _, _, -, -, hvs, -⟩ | ⟨_, _, _, -, -, hms, -⟩
    · cases hs.symm.trans hu
      rw [(word_eq_ok hscalar).1]
      rfl
    · cases hvs
    · cases hms
  · rename_i hs
    have hv : v ≠ .null := fun hv => by
      obtain ⟨t, ht⟩ := List.head?_eq_some_iff.mp (hnull.mp hv)
      exact hs t ht
    have hsome : (c.ofValue? v).map some = some y := by
      cases v <;> first | exact hvalue | exact absurd rfl hv
    obtain ⟨x, hx, rfl⟩ := Option.map_eq_some_iff.mp hsome
    rw [h ((readValue_skipSpace depth s).trans hread) hx]
    rfl

/-! ### Lists -/

/-- What is made of all elements is made of one after the other. -/
theorem foldlM_of_mapM {f : Value → Option α} {vs : List Value} {xs : List α}
    (h : vs.mapM f = some xs) (acc : List α) :
    vs.foldlM (fun acc v => (f v).map fun x => acc ++ [x]) acc = some (acc ++ xs) := by
  induction vs generalizing acc xs with
  | nil =>
    cases h
    exact congrArg some (List.append_nil acc).symm
  | cons v vs ih =>
    rw [List.mapM_cons] at h
    obtain ⟨x, hx, h⟩ := Option.bind_eq_some_iff.mp h
    obtain ⟨ys, hys, h⟩ := Option.bind_eq_some_iff.mp h
    cases h
    have hrest := ih hys (acc ++ [x])
    rw [List.append_assoc] at hrest
    rw [List.foldlM_cons, hx]
    exact hrest

/-- Lists are read straight from the text, element by element. -/
theorem Streams.list {c : Codec α} (h : c.Streams) : (Codec.list c).Streams := by
  intro depth s v rest xs hread hvalue
  cases v with
  | array vs =>
    rcases readValue_cases hread with
      ⟨d, t, -, -, -, hscalar⟩ | ⟨d, t, us, -, hs, hus, helements⟩ | ⟨d, t, ms, -, -, hms, -⟩
    · exact (skipScalar_of_readScalar hscalar).2.1.elim
    · -- One loop gathers the elements, the other one makes something of each at once.
      cases hus
      have hfollow := elements_follows (fun _ => true)
        (fun xs s => (c.read s).map fun p => (xs ++ [p.1], p.2)) (fun _ => True)
        (takes_readValue d)
        (fun u v w xs next _ hv _ hnext => by
          obtain ⟨x, hx, rfl⟩ := Option.map_eq_some_iff.mp hnext
          refine ⟨rfl, ?_, trivial⟩
          show (c.read u).map _ = _
          rw [h hv hx]
          rfl)
        helements trivial (foldlM_of_mapM hvalue [])
      simp only [Codec.list, hs]
      exact hfollow
    · cases hms
  | _ => cases hvalue

/-! ### Structures -/

/-- Puts one member into a structure of which some fields were seen. -/
def putMember? (fields : List (StructField σ)) (state : σ × List String) (m : String × Value) :
    Option (σ × List String) :=
  match find? fields m.1 with
  | none => some state
  | some f =>
    if m.1 ∈ state.2 then none
    else (f.ofValue? state.1 m.2).map fun x => (x, m.1 :: state.2)

/-- Puts one element into the next field of a structure. -/
def putElement? (state : σ × List (StructField σ)) (v : Value) :
    Option (σ × List (StructField σ)) :=
  match state.2 with
  | [] => none
  | f :: fs => (f.ofValue? state.1 v).map fun x => (x, fs)

/-- Members are put into a structure one after the other. -/
theorem ofMembers?_eq (fields : List (StructField σ)) (x : σ) (seen : List String)
    (ms : List (String × Value)) :
    ofMembers? fields x seen ms = (ms.foldlM (putMember? fields) (x, seen)).map (·.1) := by
  induction ms generalizing x seen with
  | nil => rfl
  | cons m ms ih =>
    obtain ⟨name, v⟩ := m
    rw [ofMembers?, List.foldlM_cons, putMember?]
    cases find? fields name with
    | none => exact ih x seen
    | some f =>
      dsimp only
      split
      · rfl
      · cases f.ofValue? x v with
        | none => rfl
        | some y => exact ih y (name :: seen)

/-- Elements are put into a structure one after the other. -/
theorem ofElements?_eq (fields : List (StructField σ)) (x : σ) (vs : List Value) :
    ofElements? fields x vs = (vs.foldlM putElement? (x, fields)).map (·.1) := by
  induction vs generalizing x fields with
  | nil => cases fields <;> rfl
  | cons v vs ih =>
    cases fields with
    | nil => rfl
    | cons f fs =>
      rw [ofElements?, List.foldlM_cons, putElement?]
      dsimp only
      cases f.ofValue? x v with
      | none => rfl
      | some y => exact ih fs y

/-- A field is read straight if its type is. -/
theorem streams_of {c : Codec α} (h : c.Streams) (name : String) (get : σ → α)
    (set : σ → α → σ) : (StructField.of name c get set).Streams := by
  intro depth s v rest x y hread hvalue
  obtain ⟨a, ha, rfl⟩ := Option.map_eq_some_iff.mp hvalue
  show (c.read s).map _ = _
  rw [h hread ha]
  rfl

section
variable {fields : List (StructField σ)} (h : ∀ f ∈ fields, f.Streams)
include h

/-- A member is read as it is put once its value was read. -/
theorem readMember_of_readValue {depth : Nat} {state next : σ × List String} {name : String}
    {s rest : List Char} {v : Value} (hread : afterColon (readValue depth) s = .ok (v, rest))
    (hput : putMember? fields state (name, v) = some next) :
    readMember fields state name s = .ok (next, rest) := by
  obtain ⟨t, -, -, ht, hother⟩ := afterColon_eq_ok hread
  obtain ⟨x, seen⟩ := state
  rw [putMember?] at hput
  rw [readMember]
  cases hfind : find? fields name with
  | none =>
    -- What has an unknown name is skipped, and it can be since it was read.
    rw [hfind] at hput
    cases hput
    rw [hother, skipValue_of_readValue ht]
    rfl
  | some f =>
    rw [hfind] at hput
    dsimp only at hput ⊢
    split at hput
    · cases hput
    · rename_i hnew
      obtain ⟨y, hy, rfl⟩ := Option.map_eq_some_iff.mp hput
      rw [if_neg hnew, hother, h f (List.mem_of_find?_eq_some hfind) ht hy]
      rfl

/-- A structure is read from an object or from an array of its fields. -/
theorem streams_struct (default : σ) : (struct fields default).Streams := by
  intro depth s v rest x hread hvalue
  rcases readValue_cases hread with
    ⟨d, t, -, -, -, hscalar⟩ | ⟨d, t, vs, -, hs, rfl, helements⟩ | ⟨d, t, ms, -, hs, rfl, hmembers⟩
  · have hv := (skipScalar_of_readScalar hscalar).2.1
    cases v <;> first | exact hv.elim | cases hvalue
  · replace hvalue := (ofElements?_eq fields default vs).symm.trans hvalue
    obtain ⟨last, hput, rfl⟩ := Option.map_eq_some_iff.mp hvalue
    -- The fields that are left are among all of them.
    have hfollow := elements_follows (fun state => !state.2.isEmpty) readElement
      (fun state => ∀ f ∈ state.2, f.Streams) (takes_readValue d)
      (fun u v w state next _ hv hstate hnext => by
        obtain ⟨y, _ | ⟨f, fs⟩⟩ := state
        · cases hnext
        · obtain ⟨z, hz, rfl⟩ := Option.map_eq_some_iff.mp hnext
          refine ⟨rfl, ?_, fun g hg => hstate g (List.mem_cons_of_mem f hg)⟩
          rw [readElement, hstate f List.mem_cons_self hv hz]
          rfl)
      helements h hput
    simp only [struct, hs, hfollow]
    rfl
  · -- Members are put one at a time, whatever the names of those before.
    replace hvalue := (ofMembers?_eq fields default [] ms).symm.trans hvalue
    obtain ⟨last, hput, rfl⟩ := Option.map_eq_some_iff.mp hvalue
    have hfollow := members_follows readString (readMember fields) id id takes_readString
      (takes_addMember (takes_readValue d))
      (fun _ _ _ hk => hk)
      (fun us k u next w _ hu => by
        obtain ⟨v, hv, rfl⟩ := addMember_eq_ok hu
        refine ⟨[(k, v)], rfl, fun state last hone => ?_⟩
        exact readMember_of_readValue h hv (eq_some_of_foldlM_singleton hone))
      hmembers rfl hput
    simp only [struct, hs, hfollow]
    rfl

end

end Codec

end RuleTrace.Json
