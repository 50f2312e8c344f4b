import RuleTrace.Proofs.Pipeline.Conservation
import RuleTrace.Proofs.Pipeline.Mode

/-!
# `RuleTrace.Proofs.Pipeline.Sampling`: which matches are kept

The count of a sampler is a word. It is zero at the start, and it is zero
again after as many matches as there are words, and the next match is
then treated as the first one again. `Sampler.counted k` is the sampler
after `k` matches, and `Sampler.next_counted` says in closed form which
match it keeps next: the one whose number, taken modulo the number of
words, is not one and is a multiple of the rate. Zero is a multiple of
every rate, so the match at which the count wraps is kept.

The rate may change between any two matches, and a match that comes at
rate zero is kept and not counted. So the number of a match is not its
place among all matches: `Pipeline.timesCounted` goes through a run and
counts those that come at another rate. By induction over the run it is
what the sampler has counted (`sampler_afterAll`), for nothing but a
match at such a rate touches the sampler.

`Unsampled` is the frame of all other work: neither the sampler nor the
two counters of sampling change. With it the counters tell how many
matches were kept (`kept_afterAll`).
-/

set_option autoImplicit false

namespace RuleTrace

namespace Sampler

/-- A sampler that has counted `k` matches. -/
def counted (k : Nat) : Sampler := ⟨UInt64.ofNat k⟩

/-- Whether a match is kept that comes at this rate and whose number is
`k`. -/
def Keeps (rate : UInt64) (k : Nat) : Prop :=
  k % UInt64.size ≠ 1 ∧ rate.toNat ∣ k % UInt64.size

/-- At rate zero everything is kept and nothing is counted. -/
theorem next_of_rate_eq_zero (s : Sampler) {rate : UInt64} (h : rate = 0) :
    s.next rate = (true, s) := if_pos h

/-- At any other rate each match is counted. -/
theorem next_counted {rate : UInt64} (h : rate ≠ 0) (k : Nat) :
    ((counted k).next rate).2 = counted (k + 1) ∧
      (((counted k).next rate).1 = true ↔ Keeps rate (k + 1)) := by
  have hsucc : UInt64.ofNat k + 1 = UInt64.ofNat (k + 1) := (UInt64.ofNat_add k 1).symm
  unfold next counted Keeps
  simp only [h, if_false]
  by_cases hzero : UInt64.ofNat k = 0
  · -- The count is zero at the start, and again where it has wrapped.
    have hmod : k % UInt64.size = 0 := by
      rw [← UInt64.toNat_ofNat', hzero]
      rfl
    have hone : (k + 1) % UInt64.size = 1 := by
      simp only [UInt64.size] at hmod ⊢
      omega
    simp [hzero, ← hsucc, hone]
  · have hmod : k % UInt64.size ≠ 0 := by
      intro hmod
      refine hzero (UInt64.toNat_inj.mp ?_)
      rw [UInt64.toNat_ofNat']
      exact hmod
    have hone : (k + 1) % UInt64.size ≠ 1 := by
      simp only [UInt64.size] at hmod ⊢
      omega
    have hdvd : (UInt64.ofNat (k + 1) % rate == 0) = true ↔
        rate.toNat ∣ (k + 1) % UInt64.size := by
      rw [beq_iff_eq, ← UInt64.toNat_inj, UInt64.toNat_mod, UInt64.toNat_ofNat',
        Nat.dvd_iff_mod_eq_zero]
      rfl
    simp only [hzero, if_false, hsucc]
    exact ⟨trivial, hdvd.trans ⟨fun h => ⟨hone, h⟩, And.right⟩⟩

/-- The match at which the count wraps is kept, and the one after it is
not. -/
example : (counted (UInt64.size - 1)).next 7 = (true, counted UInt64.size) ∧
    (counted UInt64.size).next 7 = (false, counted 1) := by decide

end Sampler

/-- The counters of sampling. -/
def Counter.ofSampler : List Counter := [.packetsSeen, .sampledOut]

namespace Pipeline

/-! ### What the sampler does not see -/

/-- A pipeline and one that came of it while the sampler was not
asked. -/
structure Unsampled (p q : Pipeline) : Prop where
  sampler_eq : q.sampler = p.sampler
  counter_eq : ∀ k ∈ Counter.ofSampler, q.counters.get k = p.counters.get k

namespace Unsampled

variable {p q s : Pipeline}

/-- Nothing at all leaves the sampler alone. -/
theorem refl (p : Pipeline) : Unsampled p p := ⟨rfl, fun _ _ => rfl⟩

/-- One piece of work after another leaves the sampler alone if both do. -/
theorem trans (h : Unsampled p q) (h' : Unsampled q s) : Unsampled p s where
  sampler_eq := h'.sampler_eq.trans h.sampler_eq
  counter_eq k hk := (h'.counter_eq k hk).trans (h.counter_eq k hk)

/-- Counting something else leaves the sampler alone. -/
theorem bump (p : Pipeline) {j : Counter} (hj : j ∉ Counter.ofSampler) :
    Unsampled p (p.bump j) := by
  refine ⟨rfl, fun k hk => ?_⟩
  have hne : j ≠ k := by
    rintro rfl
    exact hj hk
  exact Counters.get_add_of_ne _ _ hne

end Unsampled

/-- A record that goes straight to the output is past the sampler. -/
theorem unsampled_emitDirect (p : Pipeline) (core : Nat) (r : Record) :
    Unsampled p (p.emitDirect core r).2 := by
  have hemitted : Counter.directEmitted ∉ Counter.ofSampler := by decide
  have hdropped : Counter.outputDropped ∉ Counter.ofSampler := by decide
  rcases p.emitDirect_cases core r with ⟨d, -, he⟩ | he <;> rw [he]
  · exact ⟨rfl, (Unsampled.bump p hemitted).counter_eq⟩
  · exact .bump p hdropped

/-- What the slot answers is counted by counters of its own. -/
theorem unsampled_afterAbsorb (p : Pipeline) (core : Nat) (result : Absorbed) :
    Unsampled p (p.afterAbsorb core result).2 := by
  have hwait : Unsampled p (p.bump .writeWait) := .bump p (by decide)
  cases result with
  | merged count => exact .bump p (by decide)
  | queued => exact .bump p (by decide)
  | fallback reason r =>
    cases reason with
    | contended =>
      have hlock : Counter.lockContended ∉ Counter.ofSampler := by decide
      have hcontended := hwait.trans (.bump (p.bump .writeWait) hlock)
      exact hcontended.trans (unsampled_emitDirect _ core r)
    | noSlot => exact hwait.trans (unsampled_emitDirect _ core r)
    | storeFull => exact hwait.trans (unsampled_emitDirect _ core r)
    | queueFull => exact hwait.trans (unsampled_emitDirect _ core r)

/-- A record that is delivered is past the sampler. -/
theorem unsampled_deliver (p : Pipeline) (core : Nat) (r : Record) :
    Unsampled p (p.deliver core r).2 := by
  unfold deliver
  cases p.slots with
  | none => exact unsampled_emitDirect p core r
  | some a =>
    dsimp only
    split
    · -- The slots are neither the sampler nor counters.
      have habsorb := unsampled_afterAbsorb { p with slots := some (a.absorb core r).2 } core
        (a.absorb core r).1
      exact ⟨habsorb.sampler_eq, habsorb.counter_eq⟩
    · exact unsampled_emitDirect p core r

/-- The records of a pass are counted by counters of their own. -/
theorem unsampled_publishFlushed (p : Pipeline) (core : Nat) (rs : List Record) :
    Unsampled p { p with outlet := rs.foldl (Outlet.publishFlushed core) p.outlet } := by
  induction rs generalizing p with
  | nil => exact .refl p
  | cons r rs ih =>
    have hone : Unsampled p { p with outlet := Outlet.publishFlushed core p.outlet r } := by
      have hflushed : Counter.flushed ∉ Counter.ofSampler := by decide
      have hdropped : Counter.outputDropped ∉ Counter.ofSampler := by decide
      unfold Outlet.publishFlushed
      rcases p.outlet.publish_cases core r with ⟨d, -, ho⟩ | ⟨e, -, ho⟩ <;> rw [ho]
      · exact ⟨rfl, (Unsampled.bump p hflushed).counter_eq⟩
      · exact .bump p hdropped
    exact hone.trans (ih { p with outlet := Outlet.publishFlushed core p.outlet r })

/-- A pass does not ask the sampler. -/
theorem unsampled_flushCore (p : Pipeline) (core : Nat) : Unsampled p (p.flushCore core).2 := by
  unfold flushCore
  cases p.slots with
  | none => exact .refl p
  | some a =>
    dsimp only
    unfold Outlet.flushCore
    split
    · rename_i rs report b hdrain
      have hpublished := unsampled_publishFlushed { p with slots := some b } core rs
      refine ⟨rfl, fun k hk => ?_⟩
      -- The ids that were missed are counted last.
      have hne : Counter.flushMiss ≠ k := by
        rintro rfl
        exact absurd hk (by decide)
      exact (Counters.get_add_of_ne _ _ hne).trans (hpublished.counter_eq k hk)
    · rename_i e b hdrain
      have hlock : Counter.lockContended ∉ Counter.ofSampler := by decide
      have hread : Unsampled p (p.bump .readWait) := .bump p (by decide)
      have hwait := hread.trans (.bump (p.bump .readWait) hlock)
      exact ⟨rfl, hwait.counter_eq⟩

/-- Passes do not ask the sampler. -/
theorem unsampled_flushAll (p : Pipeline) (cores : List Nat) :
    Unsampled p (p.flushAll cores) := by
  induction cores generalizing p with
  | nil => exact .refl p
  | cons core cores ih => exact (unsampled_flushCore p core).trans (ih _)

/-! ### What becomes of a match -/

/-- A record that is delivered was neither filtered out nor sampled
out. -/
theorem outcome_deliver (p : Pipeline) (core : Nat) (r : Record) :
    (p.deliver core r).1 ≠ .filtered ∧ (p.deliver core r).1 ≠ .sampledOut := by
  have hdirect : ∀ q : Pipeline, ∀ s, (q.emitDirect core s).1 ≠ .filtered ∧
      (q.emitDirect core s).1 ≠ .sampledOut := by
    intro q s
    rcases q.outcome_emitDirect core s with he | he <;> simp [he]
  unfold deliver
  cases p.slots with
  | none => exact hdirect p r
  | some a =>
    dsimp only
    split
    · rcases (a.absorb core r).1 with _ | _ | ⟨_ | _ | _ | _, s⟩
      · simp [afterAbsorb]
      · simp [afterAbsorb]
      all_goals exact hdirect _ s
    · exact hdirect p r

/-- What becomes of a notification tells whether it was a match and
whether the sampler admitted it. -/
theorem outcome_trace (p : Pipeline) (core : Nat) (n : Notification) (now : UInt64) :
    ((p.trace core n now).1 = .filtered ↔ n.eventKind ≠ EventKind.rule.code) ∧
    ((p.trace core n now).1 = .sampledOut ↔
      n.eventKind = EventKind.rule.code ∧ p.admits n = false) := by
  rw [trace_eq]
  by_cases hkind : n.eventKind = EventKind.rule.code
  · cases hnext : (p.sampler.next p.settings.rate).1 with
    | true =>
      obtain ⟨hfiltered, hsampledOut⟩ := p.sampled.outcome_deliver core (n.toRecord now)
      simp [admits, hkind, hnext, hfiltered, hsampledOut]
    | false => simp [admits, hkind, hnext]
  · simp [hkind]

/-- Which matches are admitted after `k` were counted. -/
theorem admits_iff {p : Pipeline} {k : Nat} (h : p.sampler = .counted k) (n : Notification) :
    p.admits n = true ↔ n.eventKind = EventKind.rule.code ∧
      (p.settings.rate = 0 ∨ Sampler.Keeps p.settings.rate (k + 1)) := by
  simp only [admits, h, Bool.and_eq_true, decide_eq_true_eq]
  by_cases hrate : p.settings.rate = 0
  · simp [hrate, Sampler.next_of_rate_eq_zero]
  · simp [hrate, (Sampler.next_counted hrate k).2]

/-! ### Runs -/

/-- The pipeline with a sampler and counters in which nothing was counted
so far. -/
def withFreshProbe (p : Pipeline) : Pipeline :=
  { p with sampler := .fresh, outlet := { p.outlet with counters := .zero } }

/-- Whether an operation is a match that comes at a rate that is not
zero. -/
def isCounted (p : Pipeline) : Operation → Bool
  | .trace _ n _ => n.eventKind = EventKind.rule.code && p.settings.rate != 0
  | _ => false

/-- How many matches of a run come at a rate that is not zero. -/
def timesCounted : Pipeline → List Operation → Nat
  | _, [] => 0
  | p, op :: ops => (p.isCounted op).toNat + timesCounted (p.after op) ops

/-- The matches that were seen and not sampled out. -/
def kept (p : Pipeline) : UInt64 := p.counters.get .packetsSeen - p.counters.get .sampledOut

/-- Where the sampler is not asked, there are as many kept matches as
before. -/
theorem Unsampled.kept_eq {p q : Pipeline} (h : Unsampled p q) : q.kept = p.kept := by
  unfold kept
  rw [h.counter_eq .packetsSeen (by decide), h.counter_eq .sampledOut (by decide)]

/-- An operation is a match, or the sampler is not asked. -/
theorem match_or_unsampled (p : Pipeline) (op : Operation) :
    (∃ core n now, op = .trace core n now ∧ n.eventKind = EventKind.rule.code) ∨
    (Unsampled p (p.after op) ∧ p.isCounted op = false ∧ (p.traffic op).admitted = []) := by
  cases op with
  | trace core n now =>
    by_cases hkind : n.eventKind = EventKind.rule.code
    · exact .inl ⟨core, n, now, rfl, hkind⟩
    · -- What is no match is filtered out before the sampler is asked.
      refine .inr ⟨?_, by simp [isCounted, hkind], by simp [traffic, admits, hkind]⟩
      show Unsampled p (p.trace core n now).2
      rw [trace_eq, if_pos hkind]
      exact .bump p (by decide)
  | flushCore core => exact .inr ⟨unsampled_flushCore p core, rfl, rfl⟩
  | drainAll =>
    refine .inr ⟨?_, rfl, rfl⟩
    show Unsampled p p.drainAll.2
    rw [drainAll_eq_flushAll]
    exact unsampled_flushAll p p.passes
  | update rate interval => exact .inr ⟨⟨rfl, fun _ _ => rfl⟩, rfl, rfl⟩
  | tryReceive =>
    refine .inr ⟨?_, rfl, rfl⟩
    unfold after tryReceive?
    cases p.outlet.channel.tryReceive? <;> exact ⟨rfl, fun _ _ => rfl⟩
  | poll =>
    unfold after traffic poll
    cases p.outlet.channel.poll <;> exact .inr ⟨⟨rfl, fun _ _ => rfl⟩, rfl, rfl⟩
  | receiveAll => exact .inr ⟨⟨rfl, fun _ _ => rfl⟩, rfl, rfl⟩
  | close => exact .inr ⟨⟨rfl, fun _ _ => rfl⟩, rfl, rfl⟩

/-- A match is counted as seen and put before the sampler. What is done
with it afterwards concerns neither, unless it is sampled out. -/
theorem trace_of_match (p : Pipeline) (core : Nat) {n : Notification} (now : UInt64)
    (h : n.eventKind = EventKind.rule.code) :
    (p.trace core n now).2.sampler = (p.sampler.next p.settings.rate).2 ∧
    (p.trace core n now).2.kept
      = p.kept + if (p.sampler.next p.settings.rate).1 then 1 else 0 := by
  have hseen : p.sampled.kept = p.kept + 1 := by
    show (p.counters.bump .packetsSeen).get .packetsSeen
      - (p.counters.bump .packetsSeen).get .sampledOut = _
    simp only [Counters.get_bump, reduceCtorEq, if_true, if_false, kept]
    grind
  rw [trace_eq, if_neg (not_not_intro h)]
  cases (p.sampler.next p.settings.rate).1 with
  | true =>
    have hdeliver := p.sampled.unsampled_deliver core (n.toRecord now)
    exact ⟨hdeliver.sampler_eq, hdeliver.kept_eq.trans hseen⟩
  | false =>
    refine ⟨rfl, ?_⟩
    -- Both counters grow, so their difference stays.
    show (p.sampled.counters.bump .sampledOut).get .packetsSeen
      - (p.sampled.counters.bump .sampledOut).get .sampledOut = _
    simp only [kept] at hseen
    simp only [Counters.get_bump, reduceCtorEq, if_true, if_false, kept]
    grind

/-- Each operation moves the sampler by the matches that it counts. -/
theorem sampler_after {p : Pipeline} {k : Nat} (h : p.sampler = .counted k) (op : Operation) :
    (p.after op).sampler = .counted (k + (p.isCounted op).toNat) := by
  rcases p.match_or_unsampled op with ⟨core, n, now, rfl, hkind⟩ | ⟨hframe, hnone, -⟩
  · show (p.trace core n now).2.sampler = _
    rw [(p.trace_of_match core now hkind).1, h]
    by_cases hrate : p.settings.rate = 0
    · simp [isCounted, hkind, hrate, Sampler.next_of_rate_eq_zero]
    · have hcounts : (p.settings.rate != 0) = true := bne_iff_ne.mpr hrate
      simp [isCounted, hkind, hcounts, (Sampler.next_counted hrate k).1]
  · rw [hframe.sampler_eq, h, hnone]
    rfl

/-- The sampler has counted the matches of the run that came at a rate other
than zero. -/
theorem sampler_afterAll {p : Pipeline} {k : Nat} (h : p.sampler = .counted k)
    (ops : List Operation) : (p.afterAll ops).sampler = .counted (k + p.timesCounted ops) := by
  -- The count goes on from where the sampler stands, so the induction is over any count.
  induction ops generalizing p k with
  | nil => exact h
  | cons op ops ih =>
    have hrest := ih (sampler_after h op)
    rw [Nat.add_assoc] at hrest
    exact hrest

/-- Each operation moves the difference of the two counters by the
matches that it admits. -/
theorem kept_after (p : Pipeline) (op : Operation) :
    (p.after op).kept = p.kept + UInt64.ofNat (p.traffic op).admitted.length := by
  rcases p.match_or_unsampled op with ⟨core, n, now, rfl, hkind⟩ | ⟨hframe, -, hnone⟩
  · show (p.trace core n now).2.kept = _
    rw [(p.trace_of_match core now hkind).2]
    cases hnext : (p.sampler.next p.settings.rate).1 <;> simp [traffic, admits, hkind, hnext]
  · rw [hframe.kept_eq, hnone]
    simp

/-- The difference of the two counters is the number of the admitted
matches. -/
theorem kept_afterAll (p : Pipeline) (ops : List Operation) :
    (p.afterAll ops).kept = p.kept + UInt64.ofNat (p.trafficOf ops).admitted.length := by
  induction ops generalizing p with
  | nil => simp [afterAll, trafficOf, Traffic.empty]
  | cons op ops ih =>
    show ((p.after op).afterAll ops).kept = _
    rw [ih, kept_after, trafficOf, Traffic.append, List.length_append, UInt64.ofNat_add,
      UInt64.add_assoc]

/-- Any pipeline in which the sampler and the counters are fresh, and
anything done with it, notifications and changes of the rate among it.

With `k` for the number of matches so far that came at a rate other than
zero, the sampler has counted `k`, as far as a word can tell. What is no
match is filtered out, and neither this nor a match at rate zero moves
the sampler. A match is sampled out unless the rate is zero or its number
`k + 1`, taken modulo the number of words, is a multiple of the rate and
not one; all others are admitted. The matches that were seen, less those
that were sampled out, are those that were admitted. -/
theorem matches_sampled_by_number (p : Pipeline) (ops : List Operation) :
    let start := p.withFreshProbe
    let q := start.afterAll ops
    let k := start.timesCounted ops
    let rate := q.settings.rate
    q.sampler.count.toNat = k % UInt64.size ∧
    (∀ core n now,
      let outcome := (q.trace core n now).1
      let next := (q.trace core n now).2
      (outcome = .filtered ↔ n.eventKind ≠ EventKind.rule.code) ∧
      (outcome = .sampledOut ↔ n.eventKind = EventKind.rule.code ∧ q.admits n = false) ∧
      (q.admits n = true ↔ n.eventKind = EventKind.rule.code ∧
        (rate = 0 ∨ (k + 1) % UInt64.size ≠ 1 ∧ rate.toNat ∣ (k + 1) % UInt64.size)) ∧
      (outcome = .filtered ∨ rate = 0 → next.sampler = q.sampler)) ∧
    q.counters.get .packetsSeen - q.counters.get .sampledOut
      = UInt64.ofNat (start.trafficOf ops).admitted.length := by
  intro start q k rate
  -- A fresh sampler has counted nothing.
  have hsampler : q.sampler = .counted k := by
    have hrun := sampler_afterAll (p := start) (k := 0) rfl ops
    rwa [Nat.zero_add] at hrun
  refine ⟨?_, fun core n now => ?_, ?_⟩
  · rw [hsampler]
    exact UInt64.toNat_ofNat'
  · intro outcome next
    obtain ⟨hfiltered, hsampledOut⟩ := q.outcome_trace core n now
    refine ⟨hfiltered, hsampledOut, admits_iff hsampler n, ?_⟩
    rcases q.match_or_unsampled (.trace core n now) with ⟨_, _, _, hop, hkind⟩ | ⟨hframe, -, -⟩
    · cases hop
      rintro (hout | hrate)
      · exact absurd hkind (hfiltered.mp hout)
      · show (q.trace core n now).2.sampler = q.sampler
        rw [(q.trace_of_match core now hkind).1, Sampler.next_of_rate_eq_zero _ hrate]
    · exact fun _ => hframe.sampler_eq
  · have hrun := start.kept_afterAll ops
    have hstart : start.kept = 0 := by
      show Counters.zero.get .packetsSeen - Counters.zero.get .sampledOut = 0
      decide
    rw [hstart, UInt64.zero_add] at hrun
    exact hrun

end Pipeline

end RuleTrace
