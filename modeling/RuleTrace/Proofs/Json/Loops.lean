import RuleTrace.Proofs.Json.Reader

/-!
# `RuleTrace.Proofs.Json.Loops`: two loops over one text

Arrays and objects are read by loops that are told what to do with a
part. Where the next part begins does not depend on what is done with
it, so the rounds of a loop are described once (`elementsFrom_eq_ok_iff`,
`membersFrom_eq_ok_iff`), and two loops can be run side by side.

The first loop gathers values. The second one has a state of its own,
into which it reads each part at once. If it does with every single part
what putting the gathered value into its state would do, then it does so
with all of them, and it ends where the first loop ends
(`elements_follows`, `members_follows`).
-/

set_option autoImplicit false

namespace RuleTrace.Json

/-- The text from the next element on, if there is one. -/
def elementAt? (first : Bool) (s : List Char) : Option (List Char) :=
  match skipSpace s with
  | [] => none
  | c :: rest =>
    if c = ']' then none
    else if first then some (c :: rest)
    else if c = ',' then
      match skipSpace rest with
      | [] => none
      | c :: rest => if c = ']' then none else some (c :: rest)
    else none

/-- The text after the opening quote of the next name, if there is
one. -/
def nameAt? (first : Bool) (s : List Char) : Option (List Char) :=
  let name (s : List Char) : Option (List Char) :=
    match s with
    | '"' :: rest => some rest
    | _ => none
  match skipSpace s with
  | [] => none
  | c :: rest =>
    if first then name (c :: rest)
    else if c = ',' then name (skipSpace rest)
    else none

variable {σ τ ν κ ι : Type}

/-- One round closes the array, or reads one element and goes on. -/
theorem elementsFrom_eq_ok_iff {more : σ → Bool} {step : σ → List Char → Parsed σ} {rounds : Nat}
    {first : Bool} {acc acc' : σ} {s rest : List Char} :
    elementsFrom more step (rounds + 1) first acc s = .ok (acc', rest) ↔
      (skipSpace s = ']' :: rest ∧ acc' = acc) ∨
      ∃ t next u, elementAt? first s = some t ∧ more acc = true ∧ step acc t = .ok (next, u) ∧
        elementsFrom more step rounds false next u = .ok (acc', rest) := by
  rw [elementsFrom, elementAt?]
  cases hs : skipSpace s with
  | nil => simp
  | cons c t =>
    -- The round is told by what comes first: a bracket, a comma or an element.
    by_cases hclose : c = ']'
    · subst hclose
      simp only [if_true, Except.ok.injEq, Prod.mk.injEq, List.cons.injEq, true_and, reduceCtorEq,
        false_and, exists_false, or_false]
      rw [and_comm, @eq_comm _ acc]
    · cases hmore : more acc with
      | false => simp [hclose]
      | true =>
        cases first with
        | true =>
          rcases hstep : step acc (c :: t) with e | ⟨next, u⟩ <;> simp [hclose, hstep, and_assoc]
        | false =>
          by_cases hcomma : c = ','
          · subst hcomma
            cases ht : skipSpace t with
            | nil => simp [ht]
            | cons d v =>
              by_cases hd : d = ']'
              · simp [ht, hd]
              · rcases hstep : step acc (d :: v) with e | ⟨next, u⟩ <;>
                  simp [ht, hd, hstep, and_assoc]
          · simp [hclose, hcomma]

/-- One round closes the object, or reads one name and one member and
goes on. -/
theorem membersFrom_eq_ok_iff {key : List Char → Parsed κ} {step : σ → κ → List Char → Parsed σ}
    {rounds : Nat} {first : Bool} {acc acc' : σ} {s rest : List Char} :
    membersFrom key step (rounds + 1) first acc s = .ok (acc', rest) ↔
      (skipSpace s = '\x7d' :: rest ∧ acc' = acc) ∨
      ∃ t k u next v, nameAt? first s = some t ∧ key t = .ok (k, u) ∧ step acc k u = .ok (next, v) ∧
        membersFrom key step rounds false next v = .ok (acc', rest) := by
  rw [membersFrom, nameAt?]
  cases hs : skipSpace s with
  | nil => simp
  | cons c t =>
    by_cases hclose : c = '\x7d'
    · subst hclose
      cases first <;> simp [and_comm, eq_comm]
    · -- The first name may follow at once; any other one stands behind a comma.
      cases first with
      | true =>
        by_cases hquote : c = '"'
        · subst hquote
          rcases hkey : key t with e | ⟨k, u⟩
          · simp [hkey]
          · rcases hstep : step acc k u with e | ⟨next, v⟩ <;> simp [hkey, hstep, and_assoc]
        · simp [hclose, hquote]
      | false =>
        by_cases hcomma : c = ','
        · subst hcomma
          cases ht : skipSpace t with
          | nil => simp [ht]
          | cons d v =>
            by_cases hquote : d = '"'
            · subst hquote
              rcases hkey : key v with e | ⟨k, u⟩
              · simp [ht, hkey]
              · rcases hstep : step acc k u with e | ⟨next, w⟩ <;>
                  simp [ht, hkey, hstep, and_assoc]
            · simp [ht, hquote]
        · simp [hclose, hcomma]

/-! ### What is read is taken off the front -/

/-- A reader takes what it reads off the front of the text. -/
def Takes (read : List Char → Parsed σ) : Prop :=
  ∀ ⦃s x rest⦄, read s = .ok (x, rest) → rest <:+ s

/-- Blanks are taken off the front. -/
theorem skipSpace_suffix (s : List Char) : skipSpace s <:+ s := List.dropWhile_suffix isSpace

/-- So is a character behind them. -/
theorem suffix_of_skipSpace {c : Char} {s t : List Char} (h : skipSpace s = c :: t) : t <:+ s :=
  (List.suffix_cons c t).trans (h ▸ skipSpace_suffix s)

/-- What stands before an element is taken off the front. -/
theorem suffix_of_elementAt? {first : Bool} {s t : List Char} (h : elementAt? first s = some t) :
    t <:+ s := by
  rw [elementAt?] at h
  cases hs : skipSpace s with
  | nil => simp [hs] at h
  | cons c u =>
    simp only [hs] at h
    split at h
    · cases h
    · split at h
      · cases h
        exact hs ▸ skipSpace_suffix s
      · split at h
        · split at h
          · cases h
          · rename_i hu
            split at h
            · cases h
            · cases h
              exact (hu ▸ skipSpace_suffix u).trans (suffix_of_skipSpace hs)
        · cases h

/-- What stands before a name is taken off the front. -/
theorem suffix_of_nameAt? {first : Bool} {s t : List Char} (h : nameAt? first s = some t) :
    t <:+ s := by
  rw [nameAt?] at h
  cases hs : skipSpace s with
  | nil => simp [hs] at h
  | cons c u =>
    simp only [hs] at h
    split at h
    · split at h
      · rename_i hquote
        cases h
        exact suffix_of_skipSpace (hs.trans hquote)
      · cases h
    · split at h
      · split at h
        · rename_i hquote
          cases h
          exact (suffix_of_skipSpace hquote).trans (suffix_of_skipSpace hs)
        · cases h
      · cases h

/-- An array is taken off the front if its elements are. -/
theorem takes_elements {more : σ → Bool} {step : σ → List Char → Parsed σ}
    (hstep : ∀ acc, Takes (step acc)) (acc : σ) : Takes (elements more step acc) := by
  -- By induction on the rounds, of which each takes an element.
  have hloop : ∀ (rounds : Nat) (first : Bool) (acc : σ),
      Takes (elementsFrom more step rounds first acc) := by
    intro rounds
    induction rounds with
    | zero =>
      intro first acc s x rest h
      cases h
    | succ rounds ih =>
      intro first acc s x rest h
      rcases elementsFrom_eq_ok_iff.mp h with ⟨hclose, -⟩ | ⟨t, next, u, hat, -, hread, hgo⟩
      · exact suffix_of_skipSpace hclose
      · exact (ih _ _ hgo).trans ((hstep acc hread).trans (suffix_of_elementAt? hat))
  intro s x rest h
  exact hloop _ _ _ h

/-- An object is taken off the front if its names and values are. -/
theorem takes_members {key : List Char → Parsed κ} {step : σ → κ → List Char → Parsed σ}
    (hkey : Takes key) (hstep : ∀ acc k, Takes (step acc k)) (acc : σ) :
    Takes (members key step acc) := by
  have hloop : ∀ (rounds : Nat) (first : Bool) (acc : σ),
      Takes (membersFrom key step rounds first acc) := by
    intro rounds
    induction rounds with
    | zero =>
      intro first acc s x rest h
      cases h
    | succ rounds ih =>
      intro first acc s x rest h
      rcases membersFrom_eq_ok_iff.mp h with
        ⟨hclose, -⟩ | ⟨t, k, u, next, v, hat, hname, hread, hgo⟩
      · exact suffix_of_skipSpace hclose
      · -- The rest of the loop, the value, and the name each take some of the text.
        exact (ih _ _ hgo).trans
          ((hstep acc k hread).trans ((hkey hname).trans (suffix_of_nameAt? hat)))
  intro s x rest h
  exact hloop _ _ _ h

/-! ### Parts that are kept -/

/-- What `f` makes of a value that is read. -/
theorem map_eq_ok {f : σ → τ} {p : Parsed σ} {y : τ} {rest : List Char}
    (h : (p.map fun (x, rest) => (f x, rest)) = .ok (y, rest)) :
    ∃ x, p = .ok (x, rest) ∧ f x = y := by
  rcases p with e | ⟨x, rest'⟩
  · cases h
  · cases h
    exact ⟨x, rfl, rfl⟩

/-- A sign that was read stood behind blanks. -/
theorem eq_of_punctuation {c : Char} {s rest : List Char} (h : punctuation c s = .ok rest) :
    skipSpace s = c :: rest := by
  rw [punctuation] at h
  cases hs : skipSpace s with
  | nil =>
    rw [hs] at h
    cases h
  | cons d t =>
    rw [hs, literal] at h
    split at h
    · rename_i hc
      cases h
      rw [hc]
    · cases h

/-- After the colon the text is shorter. -/
theorem afterColon_eq_ok {α : Type} {read : List Char → Parsed α} {s rest : List Char} {x : α}
    (h : afterColon read s = .ok (x, rest)) :
    ∃ t, skipSpace s = ':' :: t ∧ t <:+ s ∧ read t = .ok (x, rest) ∧
      ∀ {β : Type} (other : List Char → Parsed β), afterColon other s = other t := by
  rw [afterColon] at h
  split at h
  · cases h
  · rename_i t hcolon
    have hs := eq_of_punctuation hcolon
    refine ⟨t, hs, suffix_of_skipSpace hs, h, fun other => ?_⟩
    rw [afterColon, hcolon]

/-- A value behind a colon is taken off the front. -/
theorem takes_afterColon {α : Type} {read : List Char → Parsed α} (h : Takes read) :
    Takes (afterColon read) := by
  intro s x rest hread
  obtain ⟨t, -, hsuffix, ht, -⟩ := afterColon_eq_ok hread
  exact (h ht).trans hsuffix

section
variable {inner : List Char → Parsed Value} {s rest : List Char}

/-- An element that is gathered was read. -/
theorem addElement_eq_ok {vs next : List Value} (h : addElement inner vs s = .ok (next, rest)) :
    ∃ v, inner s = .ok (v, rest) ∧ next = vs ++ [v] := by
  obtain ⟨v, hv, rfl⟩ := map_eq_ok (f := fun v => vs ++ [v]) h
  exact ⟨v, hv, rfl⟩

/-- So was a member. -/
theorem addMember_eq_ok {ms next : List (String × Value)} {k : String}
    (h : addMember inner ms k s = .ok (next, rest)) :
    ∃ v, afterColon inner s = .ok (v, rest) ∧ next = ms ++ [(k, v)] := by
  obtain ⟨v, hv, rfl⟩ := map_eq_ok (f := fun v => ms ++ [(k, v)]) h
  exact ⟨v, hv, rfl⟩

/-- An element is gathered off the front. -/
theorem takes_addElement (h : Takes inner) (vs : List Value) : Takes (addElement inner vs) := by
  intro s next rest hread
  obtain ⟨v, hv, -⟩ := addElement_eq_ok hread
  exact h hv

/-- A member is gathered off the front. -/
theorem takes_addMember (h : Takes inner) (ms : List (String × Value)) (k : String) :
    Takes (addMember inner ms k) := by
  intro s next rest hread
  obtain ⟨v, hv, -⟩ := addMember_eq_ok hread
  exact takes_afterColon h hv

end

/-! ### Two loops -/

/-- A single value is put at once. -/
theorem eq_some_of_foldlM_singleton {put : τ → ν → Option τ} {w : ν} {state last : τ}
    (h : [w].foldlM put state = some last) : put state w = some last := by
  rw [List.foldlM_cons] at h
  obtain ⟨middle, hmiddle, hlast⟩ := Option.bind_eq_some_iff.mp h
  cases hlast
  exact hmiddle

/-- A loop that does with every element what putting its value into the
state would do, does so with all of them. It may rely on what `holds` of
its states. -/
theorem elements_follows {inner : List Char → Parsed Value} (more : τ → Bool)
    (step : τ → List Char → Parsed τ) {put : τ → Value → Option τ} (holds : τ → Prop)
    {s : List Char} (hinner : Takes inner)
    (hstep : ∀ t v u state next, t <:+ s → inner t = .ok (v, u) → holds state →
      put state v = some next → more state = true ∧ step state t = .ok (next, u) ∧ holds next)
    {vs : List Value} {rest : List Char}
    (h : elements (fun _ => true) (addElement inner) [] s = .ok (vs, rest)) {state last : τ}
    (hstate : holds state) (hput : vs.foldlM put state = some last) :
    elements more step state s = .ok (last, rest) := by
  -- In the middle of the loop, some elements are gathered and are in the state.
  have hloop : ∀ (rounds : Nat) (first : Bool) (t : List Char) (us : List Value), t <:+ s →
      elementsFrom (fun _ => true) (addElement inner) rounds first us t = .ok (vs, rest) →
      ∃ ws, vs = us ++ ws ∧ ∀ state last, holds state → ws.foldlM put state = some last →
        elementsFrom more step rounds first state t = .ok (last, rest) := by
    intro rounds
    induction rounds with
    | zero =>
      intro first t us _ h
      cases h
    | succ rounds ih =>
      intro first t us ht h
      rcases elementsFrom_eq_ok_iff.mp h with ⟨hclose, rfl⟩ | ⟨u, next, w, hat, -, hread, hgo⟩
      · refine ⟨[], (List.append_nil vs).symm, fun state last _ hput => ?_⟩
        cases hput
        exact elementsFrom_eq_ok_iff.mpr (.inl ⟨hclose, rfl⟩)
      · have hu : u <:+ s := (suffix_of_elementAt? hat).trans ht
        obtain ⟨v, hv, rfl⟩ := addElement_eq_ok hread
        obtain ⟨ws, rfl, hrest⟩ := ih false w _ ((hinner hv).trans hu) hgo
        refine ⟨v :: ws, by simp, fun state last hstate hput => ?_⟩
        rw [List.foldlM_cons] at hput
        obtain ⟨next, hnext, hput⟩ := Option.bind_eq_some_iff.mp hput
        obtain ⟨hmore, hone, hholds⟩ := hstep u v w state next hu hv hstate hnext
        exact elementsFrom_eq_ok_iff.mpr
          (.inr ⟨u, next, w, hat, hmore, hone, hrest next last hholds hput⟩)
  obtain ⟨ws, rfl, hfollow⟩ := hloop _ _ s [] (List.suffix_refl s) h
  exact hfollow state last hstate hput

/-- The same for members. The first loop may gather any number of values
from a member, and its names may be read more closely. -/
theorem members_follows {key : List Char → Parsed κ} {step : σ → κ → List Char → Parsed σ}
    (key' : List Char → Parsed ι) (step' : τ → ι → List Char → Parsed τ) (name : κ → ι)
    (gathered : σ → List ν) {put : τ → ν → Option τ} {s : List Char}
    (hkey : Takes key) (htakes : ∀ acc k, Takes (step acc k))
    (hname : ∀ t k u, key t = .ok (k, u) → key' t = .ok (name k, u))
    (hstep : ∀ acc k t next u, t <:+ s → step acc k t = .ok (next, u) →
      ∃ ws, gathered next = gathered acc ++ ws ∧
        ∀ state last, ws.foldlM put state = some last → step' state (name k) t = .ok (last, u))
    {acc acc' : σ} {rest : List Char} (h : members key step acc s = .ok (acc', rest))
    (hnone : gathered acc = []) {state last : τ}
    (hput : (gathered acc').foldlM put state = some last) :
    members key' step' state s = .ok (last, rest) := by
  -- What was gathered before a round is in the state, and the rest will be.
  have hloop : ∀ (rounds : Nat) (first : Bool) (t : List Char) (acc : σ), t <:+ s →
      membersFrom key step rounds first acc t = .ok (acc', rest) →
      ∃ ws, gathered acc' = gathered acc ++ ws ∧ ∀ state last, ws.foldlM put state = some last →
        membersFrom key' step' rounds first state t = .ok (last, rest) := by
    intro rounds
    induction rounds with
    | zero =>
      intro first t acc _ h
      cases h
    | succ rounds ih =>
      intro first t acc ht h
      rcases membersFrom_eq_ok_iff.mp h with
        ⟨hclose, rfl⟩ | ⟨u, k, v, next, w, hat, hk, hread, hgo⟩
      · refine ⟨[], (List.append_nil _).symm, fun state last hput => ?_⟩
        cases hput
        exact membersFrom_eq_ok_iff.mpr (.inl ⟨hclose, rfl⟩)
      · have hv : v <:+ s := (hkey hk).trans ((suffix_of_nameAt? hat).trans ht)
        obtain ⟨us, hus, hone⟩ := hstep acc k v next w hv hread
        obtain ⟨ws, hws, hrest⟩ := ih false w next ((htakes acc k hread).trans hv) hgo
        refine ⟨us ++ ws, by rw [hws, hus, List.append_assoc], fun state last hput => ?_⟩
        rw [List.foldlM_append] at hput
        obtain ⟨middle, hmiddle, hput⟩ := Option.bind_eq_some_iff.mp hput
        exact membersFrom_eq_ok_iff.mpr (.inr ⟨u, name k, v, middle, w, hat, hname u k v hk,
          hone state middle hmiddle, hrest middle last hput⟩)
  obtain ⟨ws, hws, hfollow⟩ := hloop _ _ s acc (List.suffix_refl s) h
  rw [hws, hnone, List.nil_append] at hput
  exact hfollow state last hput

end RuleTrace.Json
