import RuleTrace.Proofs.Text.Fields
import RuleTrace.Proofs.Text.Numeral

/-!
# `RuleTrace.Proofs.Record.Address`: an address is told by its text

Two addresses with the same text are the same address
(`text_injective`), also when one is of the short and the other of the
long form, and whatever zeros are left out of a long one.

A text is taken apart at its dots or at its colons. Between the colons
of a long form stand the groups, or an empty text where groups were left
out. So the groups before and after the gap are told by what stands
before and after the first empty text (`withGap_injective`). The groups
in the gap are zeros, and how many they are is told by the number of all
groups (`eq_fillGap`). A long form that stands for a short address has
dots, and no other long form has; all long forms have colons, and no
short form has.
-/

set_option autoImplicit false

namespace RuleTrace.Address

open Text

/-! ### Octets and groups -/

/-- An even number of octets is told by its groups. -/
theorem groups_injective {bs cs : List UInt8} (hlength : bs.length = cs.length)
    (heven : bs.length % 2 = 0) (h : groups bs = groups cs) : bs = cs := by
  induction bs using groups.induct generalizing cs with
  | case1 a b bs ih =>
    match cs, hlength with
    | c :: d :: cs, hlength =>
      simp only [List.length_cons] at hlength heven
      obtain ⟨hfirst, hrest⟩ := List.cons.inj h
      obtain rfl := ih (by omega) (by omega) hrest
      -- Two octets are the quotient and the remainder of their group.
      have hb := b.toNat_lt
      have hd := d.toNat_lt
      have ha : a = c := UInt8.toNat_inj.mp (by omega)
      have hb : b = d := UInt8.toNat_inj.mp (by omega)
      rw [ha, hb]
  | case2 bs hshort =>
    match bs, cs, hlength with
    | [], [], _ => rfl
    | [b], _, _ => cases heven
    | a :: b :: rest, _, _ => exact absurd rfl (hshort a b rest)

/-- Two octets make a group. -/
theorem length_groups (bs : List UInt8) : (groups bs).length = bs.length / 2 := by
  induction bs using groups.induct with
  | case1 a b bs ih =>
    rw [groups, List.length_cons, List.length_cons, List.length_cons, ih]
    omega
  | case2 bs hshort =>
    match bs with
    | [] => rfl
    | [b] => simp [groups]
    | a :: b :: rest => exact absurd rfl (hshort a b rest)

/-! ### The gap -/

/-- A run of zeros is one. -/
theorem take_zeroRun (gs : List Nat) : gs.take (zeroRun gs) = List.replicate (zeroRun gs) 0 := by
  have hprefix : gs.takeWhile (· == 0) = gs.take (zeroRun gs) :=
    List.prefix_iff_eq_take.mp (List.takeWhile_prefix _)
  rw [← hprefix]
  refine List.eq_replicate_iff.mpr ⟨rfl, ?_⟩
  intro g hg
  simpa using List.all_eq_true.mp List.all_takeWhile g hg

/-- What is found to be the longest run of zeros is a run of zeros. -/
theorem take_longestZeroRun (gs : List Nat) :
    (gs.drop (longestZeroRun gs).1).take (longestZeroRun gs).2
      = List.replicate (longestZeroRun gs).2 0 := by
  unfold longestZeroRun
  -- The best run so far is one, beginning with the empty run.
  refine List.foldlRecOn
    (motive := fun best : Nat × Nat => (gs.drop best.1).take best.2 = List.replicate best.2 0)
    _ _ rfl ?_
  intro best hbest i _
  dsimp only
  split
  · exact take_zeroRun (gs.drop i)
  · exact hbest

/-- So many groups, of which only those before and after a gap are
known. -/
def fillGap (count : Nat) (before after : List Nat) : List Nat :=
  before ++ (List.replicate (count - (before.length + after.length)) 0 ++ after)

/-- The groups are known from those before and after the longest run of
zeros. -/
theorem eq_fillGap (gs : List Nat) :
    gs = fillGap gs.length (gs.take (longestZeroRun gs).1)
      (gs.drop ((longestZeroRun gs).1 + (longestZeroRun gs).2)) := by
  have hzeros := take_longestZeroRun gs
  generalize (longestZeroRun gs).1 = start at *
  generalize (longestZeroRun gs).2 = run at *
  -- The run of zeros is cut out, which leaves what stands around it.
  have hsplit : gs = gs.take start ++ (List.replicate run 0 ++ gs.drop (start + run)) := by
    rw [← hzeros, ← List.drop_drop, List.take_append_drop, List.take_append_drop]
  have hlength := congrArg List.length hsplit
  simp only [List.length_append, List.length_replicate] at hlength
  unfold fillGap
  have hrun : gs.length - ((gs.take start).length + (gs.drop (start + run)).length) = run := by
    omega
  rw [hrun]
  exact hsplit

/-! ### Between the colons -/

/-- What stands between the colons of groups that are written one after
the other: the groups, or an empty text if there is none. -/
def pieces (gs : List Nat) : List (List Char) := if gs = [] then [[]] else gs.map (hex 1)

/-- What stands between the colons when groups are left out: an empty
text is in their place. -/
def withGap (before after : List Nat) : List (List Char) := pieces before ++ [] :: pieces after

/-- Something stands there, if only an empty text. -/
theorem pieces_ne_nil (gs : List Nat) : pieces gs ≠ [] := by
  unfold pieces
  split
  · simp
  · simpa

/-- No group is written with nothing. -/
theorem nil_not_mem_map_hex (gs : List Nat) : [] ∉ gs.map (hex 1) := by
  intro hmem
  obtain ⟨g, -, hg⟩ := List.mem_map.mp hmem
  exact hex_ne_nil 1 g hg

/-- Groups are told by what stands between their colons. -/
theorem pieces_injective {gs hs : List Nat} (h : pieces gs = pieces hs) : gs = hs := by
  unfold pieces at h
  -- Without groups there is an empty text, and with them there is none.
  split at h
  · rename_i hgs
    split at h
    · rename_i hhs
      rw [hgs, hhs]
    · exact absurd (h ▸ List.mem_singleton_self []) (nil_not_mem_map_hex hs)
  · split at h
    · exact absurd (h ▸ List.mem_singleton_self []) (nil_not_mem_map_hex gs)
    · exact (List.map_inj_right fun _ _ => hex_injective).mp h

/-- Groups without a gap have no empty text, but if there are none. -/
theorem withGap_ne_pieces {before after gs : List Nat} (hgs : gs ≠ []) :
    withGap before after ≠ pieces gs := by
  intro h
  rw [pieces, if_neg hgs] at h
  exact nil_not_mem_map_hex gs (h ▸ by simp [withGap])

/-- The groups before and after the gap can be told. -/
theorem withGap_injective {before after before' after' : List Nat}
    (h : withGap before after = withGap before' after') : before = before' ∧ after = after' := by
  unfold withGap at h
  by_cases hb : before = []
  · by_cases hb' : before' = []
    · subst hb hb'
      obtain ⟨-, hrest⟩ := List.cons.inj h
      exact ⟨rfl, pieces_injective (List.cons.inj hrest).2⟩
    · -- Only without groups before the gap does the text begin with an empty one.
      obtain ⟨g, gs, rfl⟩ := List.exists_cons_of_ne_nil hb'
      subst hb
      exact absurd (List.cons.inj h).1.symm (hex_ne_nil 1 g)
  · by_cases hb' : before' = []
    · obtain ⟨g, gs, rfl⟩ := List.exists_cons_of_ne_nil hb
      subst hb'
      exact absurd (List.cons.inj h).1 (hex_ne_nil 1 g)
    · rw [pieces, if_neg hb, pieces.eq_1 before', if_neg hb'] at h
      -- The first empty text is that of the gap.
      obtain ⟨hbefore, hafter⟩ :=
        cut_first (nil_not_mem_map_hex before) (nil_not_mem_map_hex before') h
      exact ⟨(List.map_inj_right fun _ _ => hex_injective).mp hbefore, pieces_injective hafter⟩

/-- No colon stands between the colons. -/
theorem colon_not_mem_of_mem_pieces {gs : List Nat} : ∀ s ∈ pieces gs, ':' ∉ s := by
  intro s hs hcolon
  unfold pieces at hs
  split at hs
  · rw [List.mem_singleton.mp hs] at hcolon
    cases hcolon
  · obtain ⟨g, -, rfl⟩ := List.mem_map.mp hs
    exact absurd (isSome_hexDigit?_of_mem_hex hcolon) (by decide)

/-- Nor does one where groups are left out. -/
theorem colon_not_mem_of_mem_withGap {before after : List Nat} :
    ∀ s ∈ withGap before after, ':' ∉ s := by
  intro s hs
  rcases List.mem_append.mp hs with hbefore | hafter
  · exact colon_not_mem_of_mem_pieces s hbefore
  · rcases List.mem_cons.mp hafter with rfl | hafter
    · exact List.not_mem_nil
    · exact colon_not_mem_of_mem_pieces s hafter

/-- Groups are written with colons between their pieces. -/
theorem coloned_eq (gs : List Nat) : coloned gs = joinWith ':' (pieces gs) := by
  unfold coloned pieces
  split
  · rename_i hgs
    rw [hgs]
    rfl
  · rfl

/-- What stands between the colons of the text of groups. -/
def compressedPieces (gs : List Nat) : List (List Char) :=
  if 1 < (longestZeroRun gs).2 then
    withGap (gs.take (longestZeroRun gs).1)
      (gs.drop ((longestZeroRun gs).1 + (longestZeroRun gs).2))
  else pieces gs

/-- So is the text of groups of which some are left out. -/
theorem compressed_eq (gs : List Nat) : compressed gs = joinWith ':' (compressedPieces gs) := by
  unfold compressed compressedPieces
  dsimp only
  split
  · -- The empty text between the pieces makes two colons follow one another.
    have hempty : ∀ gs, joinWith ':' ([] :: pieces gs) = ':' :: coloned gs := by
      intro gs
      have hfirst : joinWith ':' ([[]] ++ pieces gs) = [] ++ ':' :: joinWith ':' (pieces gs) :=
        joinWith_append (List.cons_ne_nil _ _) (pieces_ne_nil gs)
      rw [coloned_eq]
      exact hfirst
    rw [withGap, joinWith_append (pieces_ne_nil _) (List.cons_ne_nil _ _), hempty, ← coloned_eq]
  · exact coloned_eq gs

/-- Something stands between the colons of any groups. -/
theorem compressedPieces_ne_nil (gs : List Nat) : compressedPieces gs ≠ [] := by
  unfold compressedPieces
  split
  · simp [withGap]
  · exact pieces_ne_nil gs

/-- No colon stands between the colons of any groups. -/
theorem colon_not_mem_of_mem_compressedPieces {gs : List Nat} :
    ∀ s ∈ compressedPieces gs, ':' ∉ s := by
  intro s hs
  unfold compressedPieces at hs
  split at hs
  · exact colon_not_mem_of_mem_withGap s hs
  · exact colon_not_mem_of_mem_pieces s hs

/-- As many groups with the same text are the same groups. -/
theorem compressed_injective {gs hs : List Nat} (hlength : gs.length = hs.length)
    (h : compressed gs = compressed hs) : gs = hs := by
  rw [compressed_eq, compressed_eq] at h
  have hpieces := joinWith_injective (compressedPieces_ne_nil gs) (compressedPieces_ne_nil hs)
    colon_not_mem_of_mem_compressedPieces colon_not_mem_of_mem_compressedPieces h
  -- Without groups there is nothing to leave out.
  by_cases hnil : gs = []
  · rw [hnil] at hlength ⊢
    exact (List.length_eq_zero_iff.mp hlength.symm).symm
  · have hnil' : hs ≠ [] := by
      rintro rfl
      exact hnil (List.length_eq_zero_iff.mp hlength)
    unfold compressedPieces at hpieces
    -- Either both texts leave groups out, or neither does.
    split at hpieces
    · split at hpieces
      · obtain ⟨hbefore, hafter⟩ := withGap_injective hpieces
        rw [eq_fillGap gs, eq_fillGap hs, hlength, hbefore, hafter]
      · exact absurd hpieces (withGap_ne_pieces hnil')
    · split at hpieces
      · exact absurd hpieces.symm (withGap_ne_pieces hnil)
      · exact pieces_injective hpieces

/-! ### Between the dots -/

/-- No dot stands between the dots. -/
theorem dot_not_mem_of_mem_decimals {bs : List UInt8} :
    ∀ s ∈ bs.map (fun b => decimal b.toNat), '.' ∉ s := by
  intro s hs hdot
  obtain ⟨b, -, rfl⟩ := List.mem_map.mp hs
  exact absurd (isDigit_of_mem_decimal hdot) (by decide)

/-- Octets with dots between them are told. -/
theorem dotted_injective {bs cs : List UInt8} (hbs : bs ≠ []) (hcs : cs ≠ [])
    (h : dotted bs = dotted cs) : bs = cs := by
  have hdecimals := joinWith_injective (by simpa using hbs) (by simpa using hcs)
    dot_not_mem_of_mem_decimals dot_not_mem_of_mem_decimals h
  refine (List.map_inj_right ?_).mp hdecimals
  intro b c hbc
  exact UInt8.toNat_inj.mp (decimal_injective hbc)

/-! ### The characters of an address -/

/-- Octets are written with digits and dots. -/
theorem mem_dotted {bs : List UInt8} {c : Char} (h : c ∈ dotted bs) :
    c = '.' ∨ (hexDigit? c).isSome := by
  rcases mem_joinWith h with rfl | ⟨s, hs, hc⟩
  · exact .inl rfl
  · obtain ⟨b, -, rfl⟩ := List.mem_map.mp hs
    exact .inr (isSome_hexDigit?_of_isDigit (isDigit_of_mem_decimal hc))

/-- Groups are written with digits and colons. -/
theorem mem_compressed {gs : List Nat} {c : Char} (h : c ∈ compressed gs) :
    c = ':' ∨ (hexDigit? c).isSome := by
  have hcoloned : ∀ gs : List Nat, c ∈ coloned gs → c = ':' ∨ (hexDigit? c).isSome := by
    intro gs hc
    rcases mem_joinWith hc with rfl | ⟨s, hs, hc⟩
    · exact .inl rfl
    · obtain ⟨g, -, rfl⟩ := List.mem_map.mp hs
      exact .inr (isSome_hexDigit?_of_mem_hex hc)
  unfold compressed at h
  dsimp only at h
  -- With zeros left out there are two runs of groups with two colons between them.
  split at h
  · simp only [List.mem_append, List.mem_cons] at h
    rcases h with hbefore | rfl | rfl | hafter
    · exact hcoloned _ hbefore
    · exact .inl rfl
    · exact .inl rfl
    · exact hcoloned _ hafter
  · exact hcoloned _ h

/-- An address is written with hexadecimal digits, dots and colons. -/
theorem mem_text {a : Address} {c : Char} (h : c ∈ a.text) :
    c = '.' ∨ c = ':' ∨ (hexDigit? c).isSome := by
  cases a with
  | v4 o =>
    rcases mem_dotted h with hdot | hdigit
    · exact .inl hdot
    · exact .inr (.inr hdigit)
  | v6 o =>
    rw [text] at h
    split at h
    · rcases List.mem_append.mp h with hmapped | hshort
      · have hall : "::ffff:".toList.all (fun c => c = ':' ∨ (hexDigit? c).isSome) := by decide
        exact .inr (of_decide_eq_true (List.all_eq_true.mp hall c hmapped))
      · rcases mem_dotted hshort with hdot | hdigit
        · exact .inl hdot
        · exact .inr (.inr hdigit)
    · exact .inr (mem_compressed h)

/-- No other character is in it. -/
theorem not_mem_text {c : Char} (hc : (c == '.' || c == ':' || (hexDigit? c).isSome) = false)
    (a : Address) : c ∉ a.text := by
  intro hmem
  rcases mem_text hmem with rfl | rfl | hdigit
  · cases hc
  · cases hc
  · rw [hdigit, Bool.or_true] at hc
    cases hc

/-- A short address has no colon. -/
theorem colon_not_mem_text_v4 (o : Octets 4) : ':' ∉ (v4 o).text := by
  intro h
  rcases mem_dotted h with hdot | hdigit
  · cases hdot
  · cases hdigit

/-- Eight groups have a colon, whatever is left out of them. -/
theorem colon_mem_compressed {gs : List Nat} (h : 1 < gs.length) : ':' ∈ compressed gs := by
  unfold compressed
  dsimp only
  split
  · simp
  · match gs, h with
    | g :: g' :: gs, _ => simp [coloned, joinWith]

/-- A long address has eight groups. -/
theorem length_groups_v6 (o : Octets 16) : (groups o.bytes).length = 8 := by
  rw [length_groups, o.length_bytes]

/-- A long address has a colon, in either form. -/
theorem colon_mem_text_v6 (o : Octets 16) : ':' ∈ (v6 o).text := by
  rw [text]
  split
  · exact List.mem_append_left _ (by decide)
  · exact colon_mem_compressed (by rw [length_groups_v6]; decide)

/-! ### The text of an address -/

/-- A short address is told by its text. -/
theorem text_v4_injective {o q : Octets 4} (h : (v4 o).text = (v4 q).text) : o = q := by
  have hne : ∀ o : Octets 4, o.bytes ≠ [] := by
    intro o hnil
    have hlength := o.length_bytes
    rw [hnil] at hlength
    cases hlength
  exact Octets.ext (dotted_injective (hne o) (hne q) h)

/-- A long form with dots stands for a short address. -/
theorem dot_mem_text_v6_iff (o : Octets 16) : '.' ∈ (v6 o).text ↔ isMapped o.bytes = true := by
  rw [text]
  constructor
  · intro h
    split at h
    · rename_i hmapped
      exact hmapped
    · rcases mem_compressed h with hcolon | hdigit
      · cases hcolon
      · cases hdigit
  · -- The octets of the short address are what has the dots.
    intro hmapped
    have hlength : (o.bytes.drop 12).length = 4 := by
      rw [List.length_drop, o.length_bytes]
    rw [if_pos hmapped]
    refine List.mem_append_right _ ?_
    match o.bytes.drop 12, hlength with
    | a :: b :: rest, _ => simp [dotted, joinWith]

/-- A long address is told by its text. -/
theorem text_v6_injective {o q : Octets 16} (h : (v6 o).text = (v6 q).text) : o = q := by
  -- Whether it stands for a short one is told by the dots.
  have hmapped : isMapped o.bytes = true ↔ isMapped q.bytes = true := by
    rw [← dot_mem_text_v6_iff, ← dot_mem_text_v6_iff, h]
  have hlength : o.bytes.length = q.bytes.length := by
    rw [o.length_bytes, q.length_bytes]
  refine Octets.ext ?_
  rw [text, text] at h
  by_cases ho : isMapped o.bytes
  · -- The octets in front are those of every such address.
    have hq := hmapped.mp ho
    rw [if_pos ho, if_pos hq] at h
    have hne : ∀ o : Octets 16, o.bytes.drop 12 ≠ [] := by
      intro o hnil
      have hlength := congrArg List.length hnil
      rw [List.length_drop, o.length_bytes] at hlength
      cases hlength
    have hback := dotted_injective (hne o) (hne q) (List.append_cancel_left h)
    have hfront : o.bytes.take 12 = q.bytes.take 12 :=
      (eq_of_beq ho).trans (eq_of_beq hq).symm
    rw [← List.take_append_drop 12 o.bytes, hfront, hback, List.take_append_drop]
  · rw [if_neg ho, if_neg fun hq => ho (hmapped.mpr hq)] at h
    have hgroups := compressed_injective
      (by rw [length_groups_v6, length_groups_v6]) h
    exact groups_injective hlength (by rw [o.length_bytes]) hgroups

/-- An address is told by its text. -/
theorem text_injective {a b : Address} (h : a.text = b.text) : a = b := by
  cases a with
  | v4 o =>
    cases b with
    | v4 q => rw [text_v4_injective h]
    | v6 q => exact absurd (h ▸ colon_mem_text_v6 q) (colon_not_mem_text_v4 o)
  | v6 o =>
    cases b with
    | v4 q => exact absurd (h ▸ colon_mem_text_v6 o) (colon_not_mem_text_v4 q)
    | v6 q => rw [text_v6_injective h]

/-- No address has an empty text. -/
theorem text_ne_nil (a : Address) : a.text ≠ [] := by
  cases a with
  | v4 o =>
    obtain ⟨bs, hlength⟩ := o
    match bs, hlength with
    | b :: c :: rest, _ => simp [text, dotted, joinWith]
  | v6 o => exact List.ne_nil_of_mem (colon_mem_text_v6 o)

end RuleTrace.Address
