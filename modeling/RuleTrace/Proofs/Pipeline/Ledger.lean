import RuleTrace.Proofs.Pipeline.Sampling

/-!
# `RuleTrace.Proofs.Pipeline.Ledger`: the counters account for every match

Every rule match that was counted as seen is counted once more when its
fate is known: when it is sampled out, merged, sent to the output,
flushed to it, or dropped there. What is not yet decided is stored. The
counters are words that wrap, and so is the equation.

The invariant is `Pipeline.Balanced`: the counters leave open what is
stored and a number of notifications that are in hand. A notification
comes into hand when it is counted as seen, and the records of a pass
come into hand when they leave their slot. Each counter changes what is
left open by a fixed amount (`Counter.change`), and `Balanced.bump` is
the only place where words are calculated with.

A ledger in which nothing is ever entered balances too. So it is told
apart from the ledger that every match is seen (`seen_afterAll`): the
first counter is the number of matches that came.
-/

set_option autoImplicit false

namespace RuleTrace

/-! ### What the counters leave open -/

/-- By how much one more of a counter changes what is left open. -/
def Counter.change : Counter → UInt64
  | packetsSeen => 1
  | sampledOut | merged | directEmitted | flushed | outputDropped => -1
  | filtered | aggregated | flushMiss | writeWait | readWait | lockContended => 0

namespace Counters

/-- The matches that were seen and of which the counters do not say what
became of them. -/
def outstanding (c : Counters) : UInt64 :=
  c.get .packetsSeen - c.get .sampledOut - c.get .merged - c.get .directEmitted - c.get .flushed
    - c.get .outputDropped

/-- One more of a counter changes what is left open by its own amount. -/
theorem outstanding_bump (c : Counters) (k : Counter) :
    (c.bump k).outstanding = c.outstanding + k.change := by
  cases k <;>
    simp only [outstanding, get_bump, Counter.change, reduceCtorEq, if_true, if_false] <;>
    grind

end Counters

namespace Pipeline

variable {p q : Pipeline} {n : Nat}

/-- The counters leave open what is stored and so many notifications
that are in hand, and no flushed id missed its record. -/
structure Balanced (inHand : Nat) (p : Pipeline) : Prop where
  outstanding : p.counters.outstanding = UInt64.ofNat (p.stored.length + inHand)
  missed : p.counters.get .flushMiss = 0

namespace Balanced

/-- A counter grows, and what is stored or in hand changes with it. -/
theorem bump {m : Nat} {k : Counter} (h : p.Balanced n) (hk : k ≠ .flushMiss)
    (hcounters : q.counters = p.counters.bump k)
    (hlength : UInt64.ofNat (q.stored.length + m) = UInt64.ofNat (p.stored.length + n) + k.change) :
    q.Balanced m := by
  refine ⟨?_, ?_⟩
  · rw [hcounters, Counters.outstanding_bump, h.outstanding, hlength]
  · rw [hcounters, Counters.get_bump, if_neg hk, h.missed]

/-- A counter that stands beside the ledger grows. -/
theorem aside {m : Nat} {k : Counter} (h : p.Balanced n) (hk : k ≠ .flushMiss)
    (hchange : k.change = 0) (hcounters : q.counters = p.counters.bump k)
    (hlength : q.stored.length + m = p.stored.length + n) : q.Balanced m :=
  h.bump hk hcounters (by rw [hchange, hlength, UInt64.add_zero])

/-- The fate of one notification in hand is counted. -/
theorem settle {k : Counter} (h : p.Balanced (n + 1)) (hchange : k.change = -1)
    (hcounters : q.counters = p.counters.bump k) (hlength : q.stored.length = p.stored.length) :
    q.Balanced n := by
  refine h.bump ?_ hcounters ?_
  · rintro rfl
    cases hchange
  · rw [hchange, hlength, ← Nat.add_assoc, UInt64.ofNat_add (p.stored.length + n)]
    grind

/-- Waits stand beside the ledger. -/
theorem bumps {ks : List Counter} (h : p.Balanced n) (hks : ∀ k ∈ ks, k ∈ Counter.waits) :
    (p.bumps ks).Balanced n := by
  induction ks generalizing p with
  | nil => exact h
  | cons k ks ih =>
    have hwait := hks k List.mem_cons_self
    refine ih (h.aside ?_ ?_ rfl rfl) fun j hj => hks j (List.mem_cons_of_mem _ hj)
    · rintro rfl
      exact absurd hwait (by decide)
    · revert hwait
      cases k <;> simp [Counter.waits, Counter.change]

/-! ### One notification -/

/-- A record in hand is sent to the output or dropped there. -/
theorem emitDirect (h : p.Balanced (n + 1)) (core : Nat) (r : Record) :
    (p.emitDirect core r).2.Balanced n := by
  rcases p.emitDirect_cases core r with ⟨d, -, he⟩ | he
  · rw [he]
    exact h.settle (k := .directEmitted) rfl rfl rfl
  · rw [he]
    exact h.settle (k := .outputDropped) rfl rfl rfl

/-- A record in hand is merged, stored, sent or dropped. A stored one is
left open, like one in hand. -/
theorem deliver (h : p.Balanced (n + 1)) (hsound : p.Sound) (core : Nat) (r : Record) :
    (p.deliver core r).2.Balanced n := by
  rcases deliver_cases hsound core r with
    ⟨b, old, he, -, -, -, htally⟩ | ⟨b, he, -, htally⟩ | ⟨ks, hks, he⟩
  · have hlength := htally fun _ => 1
    rw [tally_one, tally_one] at hlength
    rw [he]
    exact h.settle (k := .merged) rfl rfl (Nat.add_right_cancel hlength)
  · have hlength := htally fun _ => 1
    rw [tally_one, tally_one] at hlength
    rw [he]
    refine h.aside (k := .aggregated) (by decide) rfl rfl ?_
    show b.stored.length + n = _
    omega
  · rw [he]
    exact (h.bumps hks).emitDirect core r

/-- A notification comes and is filtered out, sampled out or delivered. -/
theorem trace (h : p.Balanced 0) (hsound : p.Sound) (core : Nat) (x : Notification)
    (now : UInt64) : (p.trace core x now).2.Balanced 0 := by
  -- Once it is counted as seen, the match is in hand.
  have hseen : p.sampled.Balanced 1 :=
    h.bump (k := .packetsSeen) (by decide) rfl (UInt64.ofNat_add ..)
  rw [trace_eq]
  split
  · exact h.aside (k := .filtered) (by decide) rfl rfl rfl
  · split
    · exact hseen.deliver hsound core _
    · exact hseen.settle (k := .sampledOut) rfl rfl rfl

/-! ### Flush passes -/

/-- The records of a pass are counted one by one. -/
theorem publishFlushed (core : Nat) (rs : List Record) (h : p.Balanced (n + rs.length)) :
    Balanced n { p with outlet := rs.foldl (Outlet.publishFlushed core) p.outlet } := by
  induction rs generalizing p with
  | nil => exact h
  | cons r rs ih =>
    rw [List.foldl_cons, Outlet.publishFlushed]
    have h : p.Balanced (n + rs.length + 1) := h
    rcases p.outlet.publish_cases core r with ⟨d, -, ho⟩ | ⟨e, -, ho⟩
    · rw [ho]
      exact ih (p := (p.withChannel d).bump .flushed) (h.settle (k := .flushed) rfl rfl rfl)
    · rw [ho]
      exact ih (p := p.bump .outputDropped) (h.settle (k := .outputDropped) rfl rfl rfl)

/-- A pass counts each record that it takes out. -/
theorem flushCore (h : p.Balanced n) (hsound : p.Sound) (core : Nat) :
    (p.flushCore core).2.Balanced n := by
  rcases flushCore_cases hsound core with ⟨ks, hks, he, -⟩ | ⟨rs, b, he, -, -, htally⟩
  · rw [he]
    exact h.bumps hks
  · -- The records leave the slot first and are in hand until they are offered.
    have hlength := htally fun _ => 1
    rw [tally_one, tally_one, tally_one] at hlength
    have htaken : Balanced (n + rs.length) { p with slots := some b } := by
      refine ⟨h.outstanding.trans (congrArg UInt64.ofNat ?_), h.missed⟩
      show p.stored.length + n = b.stored.length + (n + rs.length)
      omega
    rw [he]
    exact htaken.publishFlushed core rs

/-- Passes one after another keep the ledger balanced. -/
theorem flushAll (h : p.Balanced n) (hsound : p.Sound) (cores : List Nat) :
    (p.flushAll cores).Balanced n := by
  induction cores generalizing p with
  | nil => exact h
  | cons core cores ih => exact ih (h.flushCore hsound core) (hsound.flushCore core)

/-! ### Every operation -/

/-- Any operation keeps the ledger balanced. -/
theorem after (h : p.Balanced 0) (hsound : p.Sound) (op : Operation) :
    (p.after op).Balanced 0 := by
  rcases p.after_cases op with ⟨core, x, now, he⟩ | ⟨cores, he⟩ | ⟨s, c, -, he⟩
  · rw [he]
    exact h.trace hsound core x now
  · rw [he]
    exact h.flushAll hsound cores
  · -- Nothing is counted when settings change or a record is read.
    rw [he]
    exact ⟨h.outstanding, h.missed⟩

/-- Whatever is done, the ledger is balanced. -/
theorem afterAll (h : p.Balanced 0) (hsound : p.Sound) (ops : List Operation) :
    (p.afterAll ops).Balanced 0 := by
  induction ops generalizing p with
  | nil => exact h
  | cons op ops ih => exact ih (h.after hsound op) (hsound.after op)

end Balanced

/-- The ledger of a new pipeline is balanced. -/
theorem balanced_new (c : Config) (cores : Nat) : (new c cores).Balanced 0 := by
  have hzero := counters_new c cores
  refine ⟨?_, ?_⟩
  · rw [hzero, stored_new]
    rfl
  · rw [hzero]
    rfl

/-! ### Every match is seen -/

/-- Whether an operation brings a rule match. -/
def Operation.isMatch : Operation → Bool
  | trace _ n _ => n.eventKind = EventKind.rule.code
  | _ => false

/-- A match is counted as seen, whatever becomes of it. -/
theorem seen_trace (p : Pipeline) (core : Nat) {n : Notification} (now : UInt64)
    (h : n.eventKind = EventKind.rule.code) :
    (p.trace core n now).2.counters.get .packetsSeen = p.counters.get .packetsSeen + 1 := by
  have hseen : p.sampled.counters.get .packetsSeen = p.counters.get .packetsSeen + 1 :=
    (Counters.get_bump ..).trans (if_pos rfl)
  rw [trace_eq, if_neg (not_not_intro h), ← hseen]
  cases (p.sampler.next p.settings.rate).1 with
  | true => exact (p.sampled.unsampled_deliver core _).counter_eq _ (by decide)
  | false => exact (Counters.get_bump ..).trans (if_neg (by decide))

/-- Nothing but a match is counted as seen. -/
theorem seen_after (p : Pipeline) (op : Operation) :
    (p.after op).counters.get .packetsSeen
      = p.counters.get .packetsSeen + UInt64.ofNat op.isMatch.toNat := by
  rcases p.match_or_unsampled op with ⟨core, n, now, rfl, hkind⟩ | ⟨hframe, -, -⟩
  · have hmatch : (Operation.trace core n now).isMatch = true := decide_eq_true hkind
    rw [hmatch]
    exact p.seen_trace core now hkind
  · cases hmatch : op.isMatch with
    | false =>
      rw [hframe.counter_eq _ (by decide)]
      exact (UInt64.add_zero _).symm
    | true =>
      -- The frame allows for a match only where it does not come.
      cases op with
      | trace core n now => exact p.seen_trace core now (of_decide_eq_true hmatch)
      | _ => cases hmatch

/-- The counter of what was seen is the number of matches that came. -/
theorem seen_afterAll (p : Pipeline) (ops : List Operation) :
    (p.afterAll ops).counters.get .packetsSeen
      = p.counters.get .packetsSeen + UInt64.ofNat (ops.countP Operation.isMatch) := by
  induction ops generalizing p with
  | nil => exact (UInt64.add_zero _).symm
  | cons op ops ih =>
    have hcount : (op :: ops).countP Operation.isMatch
        = op.isMatch.toNat + ops.countP Operation.isMatch := by
      rw [List.countP_cons, Nat.add_comm]
      cases op.isMatch <;> rfl
    show ((p.after op).afterAll ops).counters.get .packetsSeen = _
    rw [ih, p.seen_after op, hcount, UInt64.ofNat_add, UInt64.add_assoc]

/-- Whatever is done with a pipeline from its start on: each rule match
that came was seen, and each that was seen was sampled out, was merged
into a stored record, was sent straight to the output, was flushed to it,
or was dropped there, or its record is still stored. No pass ever found
an id without a record. -/
theorem matches_accounted_for (c : Config) (cores : Nat) (ops : List Operation) :
    let p := (new c cores).afterAll ops
    p.counters.get .packetsSeen = UInt64.ofNat (ops.countP Operation.isMatch) ∧
    p.counters.get .packetsSeen
      = p.counters.get .sampledOut + p.counters.get .merged + p.counters.get .directEmitted
        + p.counters.get .flushed + p.counters.get .outputDropped
        + UInt64.ofNat p.stored.length ∧
    p.counters.get .flushMiss = 0 := by
  intro p
  have h : p.Balanced 0 := (balanced_new c cores).afterAll (sound_new c cores) ops
  refine ⟨?_, ?_, h.missed⟩
  · have hseen := (new c cores).seen_afterAll ops
    rwa [counters_new, show Counters.zero.get .packetsSeen = 0 by decide, UInt64.zero_add] at hseen
  · have hopen := h.outstanding
    rw [Counters.outstanding, Nat.add_zero] at hopen
    rw [← hopen]
    grind

/-- Lanes and stores with room for one record each. Of five matches one
is merged and one is flushed. Two are dropped at the lane that is full
then: one that found no place in the store, and one that was stored and
flushed. The last one, on another core, is still stored. -/
theorem matches_accounted_for_five_matches :
    let c : Config := { Config.standard with laneCapacity := 1, storeCapacity := 1 }
    let n : Notification := { (default : Notification) with eventKind := EventKind.rule.code }
    let m : Notification := { n with packet := { n.packet with identity := 7 } }
    let ops : List Operation :=
      [.trace 0 n 1, .trace 0 n 2, .flushCore 0, .trace 0 m 3, .trace 0 n 4, .drainAll,
        .trace 1 m 5]
    let p := (new c 2).afterAll ops
    p.counters.get .packetsSeen = 5 ∧ p.counters.get .merged = 1 ∧
    p.counters.get .flushed = 1 ∧ p.counters.get .outputDropped = 2 ∧ p.stored.length = 1 ∧
    p.counters.get .flushMiss = 0 := by
  intro c n m ops p
  obtain ⟨hseen, -, hmissed⟩ := matches_accounted_for c 2 ops
  have hfive : p.counters.get .packetsSeen = 5 := hseen
  have hmerged : p.counters.get .merged = 1 := by decide +kernel
  have hflushed : p.counters.get .flushed = 1 := by decide +kernel
  have hdropped : p.counters.get .outputDropped = 2 := by decide +kernel
  have hstored : p.stored.length = 1 := by decide +kernel
  exact ⟨hfive, hmerged, hflushed, hdropped, hstored, hmissed⟩

end Pipeline

end RuleTrace
