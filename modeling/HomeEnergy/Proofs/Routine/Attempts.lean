import HomeEnergy.Proofs.Routine.Waits
import HomeEnergy.Routine.Retry

/-!
# The course of repeated attempts

An observer beside the attempts writes down each call of the operation, its answer, and each failure
that is told (`Trials`). What others do to the device, between the attempts and in their midst, is
left open: the operation may succeed and fail in any pattern. `Backoff.retry_course` says what the
observer has seen in the end, from which the number of the calls, the result and the waits between
the calls can be read off.

The attempts are counted by a number that is never bounded. A loop that counts them in 32 bits, and
gives up when its count overflows, does the same (`Backoff.counted_eq`).

## Main results

* `Backoff.counted_eq` — 32 bits are enough to count the attempts.
* `Backoff.failRow_of_endsAfter` — attempts fail one after the other, up to the last one.
* `Backoff.retry_course` — the calls, the waits between them, the result and the count.
-/

namespace HomeEnergy

open Routine (Part Wait Interference)

/-! ## The observer -/

/-- What is seen of attempts. -/
inductive TrialDeed (ε α : Type) where
  /-- The operation has been called. -/
  | called
  /-- A call has ended. -/
  | answered (answer : Except ε α)
  /-- The failure of an attempt is told, with the wait behind it if there is one. -/
  | told (attempt : Nat) (wait : Option Span) (fault : ε)

/-- Whether a call begins. -/
def TrialDeed.isCall {ε α : Type} : TrialDeed ε α → Bool
  | called => true
  | _ => false

/-- What an operation works on, and what has been seen of the attempts. -/
structure Trials (δ ε α : Type) where
  device : δ
  deeds : List (TrialDeed ε α) := []

variable {δ σ ε α : Type}

namespace Trials

/-- What the operation works on. -/
def devicePart : Part (Trials δ ε α) δ where
  get := device
  set d w := { w with device := d }

/-- Something is seen. -/
def note (w : Trials δ ε α) (d : TrialDeed ε α) : Trials δ ε α :=
  { w with deeds := w.deeds ++ [d] }

/-- Whether no call is under way. -/
def resting (w : Trials δ ε α) : Bool := !(w.deeds.getLast?.any TrialDeed.isCall)

/-- Whatever is done to the device leaves what has been seen as it is. -/
def Apart (w w' : Trials δ ε α) : Prop := w'.deeds = w.deeds

theorem interference_apart : Interference (Apart (δ := δ) (ε := ε) (α := α)) where
  refl _ := rfl
  trans h h' := h'.trans h

theorem apart_modify (f : δ → δ) (w : Trials δ ε α) : Apart w (devicePart.modify f w) := rfl

/-- Of the waits, those between two calls: what has been seen when they begin, and their spans. -/
def rests (ws : List (Wait (Trials δ ε α))) : List (List (TrialDeed ε α) × Span) :=
  (ws.filter (·.1.resting)).map fun w => (w.1.deeds, w.2)

theorem rests_append (us vs : List (Wait (Trials δ ε α))) :
    rests (us ++ vs) = rests us ++ rests vs := by
  simp only [rests, List.filter_append, List.map_append]

/-- An operation that is seen. -/
def watched (op : Routine δ (Except ε α)) : Routine (Trials δ ε α) (Except ε α) := do
  .change (·.note .called)
  let answer ← op.within devicePart
  .change (·.note (.answered answer))
  return answer

/-- A failure that is told to the device and seen. -/
def telling (tell : Nat → Option Span → ε → δ → δ) (n : Nat) (wait : Option Span) (e : ε) :
    Routine (Trials δ ε α) Unit :=
  .change fun w => (devicePart.modify (tell n wait e) w).note (.told n wait e)

/-- All waits of an operation are inside its call. -/
theorem of_watched {op : Routine δ (Except ε α)} {w w' : Trials δ ε α}
    {ws : List (Wait (Trials δ ε α))} {answer : Except ε α}
    (h : (watched op).EndsAfter Apart w ws answer w') :
    w'.deeds = w.deeds ++ [.called, .answered answer] ∧ rests ws = [] := by
  obtain ⟨_, w₁, _, _, rfl, hcalled, hrest⟩ := (Routine.endsAfter_do interference_apart).1 h
  obtain ⟨rfl, t₁, ht₁, hw₁⟩ := Routine.endsAfter_change.1 hcalled
  obtain ⟨_, w₂, us, _, rfl, hop, hend⟩ := (Routine.endsAfter_do interference_apart).1 hrest
  obtain ⟨hw₂, hus⟩ := Routine.endsAfter_within interference_apart apart_modify hop
  obtain ⟨_, w₃, _, _, rfl, hanswered, rfl, rfl, hw'⟩ :=
    (Routine.endsAfter_do interference_apart).1 hend
  obtain ⟨rfl, t₂, ht₂, hw₃⟩ := Routine.endsAfter_change.1 hanswered
  have hseen : w₁.deeds = w.deeds ++ [.called] := by rw [hw₁, note, ht₁]
  constructor
  · rw [hw', hw₃, note, ht₂, hw₂, hseen, List.append_assoc]
    rfl
  · have hcall : ∀ x ∈ us, x.1.resting = false := by
      intro x hx
      rw [resting, hus x hx, hseen, List.getLast?_append]
      rfl
    rw [List.nil_append, List.append_nil, List.append_nil, rests, List.filter_eq_nil_iff.2]
    · rfl
    · intro x hx
      simp [hcall x hx]

/-- To tell a failure takes no time. -/
theorem of_telling {tell : Nat → Option Span → ε → δ → δ} {n : Nat} {wait : Option Span} {e : ε}
    {w w' : Trials δ ε α} {ws : List (Wait (Trials δ ε α))} {u : Unit}
    (h : (telling tell n wait e).EndsAfter Apart w ws u w') :
    ws = [] ∧ w'.deeds = w.deeds ++ [.told n wait e] := by
  obtain ⟨hws, t, ht, hw'⟩ := Routine.endsAfter_change.1 h
  refine ⟨hws, ?_⟩
  rw [hw', note]
  change t.deeds ++ _ = _
  rw [ht]

end Trials

namespace Backoff

variable (p : Backoff)

/-! ## Counting in 32 bits -/

/-- The next count, as long as there is one. -/
def nextCount? (n : UInt32) : Option UInt32 :=
  if n.toNat + 1 < UInt32.size then some (n + 1) else none

theorem nextCount?_eq {n : UInt32} (h : n.toNat + 1 < UInt32.size) :
    nextCount? n = some (n + 1) ∧ (n + 1).toNat = n.toNat + 1 := by
  refine ⟨if_pos h, ?_⟩
  rw [UInt32.toNat_add]
  exact Nat.mod_eq_of_lt h

/-- The attempts as a loop with a 32-bit count `n` of those that have failed. Nothing comes of it if
the count overflows, or if so many rounds are not enough. -/
def counted (tell : Nat → Option Span → ε → Routine σ Unit) (op : Routine σ (Except ε α))
    (n : UInt32) : Nat → Routine σ (Option (Except ε α))
  | 0 => return none
  | rounds + 1 => do
    match ← op with
    | .ok a => return some (.ok a)
    | .error e =>
      match nextCount? n with
      | none => return none
      | some next =>
        if p.attempts ≤ next.toNat then
          tell n.toNat none e
          return some (.error e)
        else
          tell n.toNat (some (p.delay n.toNat)) e
          .pause (p.delay n.toNat)
          counted tell op next rounds

private theorem counted_eq_retryFrom {tell : Nat → Option Span → ε → Routine σ Unit}
    {op : Routine σ (Except ε α)} (hp : p.attempts < UInt32.size) {n : UInt32} {left rounds : Nat}
    (hleft : n.toNat + left + 1 = p.attempts) (hrounds : left < rounds) :
    p.counted tell op n rounds =
      (p.retryFrom tell op n.toNat left).bind fun r => return some r := by
  induction left generalizing n rounds with
  | zero =>
      obtain ⟨rounds, rfl⟩ : ∃ k, rounds = k + 1 := ⟨rounds - 1, by omega⟩
      have hn : n.toNat + 1 < UInt32.size := by omega
      obtain ⟨hnext, hnum⟩ := nextCount?_eq hn
      have hlast : p.attempts ≤ (n + 1).toNat := by omega
      change op.bind _ = (op.bind _).bind _
      rw [Routine.bind_assoc]
      congr 1
      funext r
      cases r with
      | ok a => rfl
      | error e =>
          simp only [hnext, if_pos hlast]
          change Routine.bind _ _ = (Routine.bind _ _).bind _
          rw [Routine.bind_assoc]
          rfl
  | succ left ih =>
      obtain ⟨rounds, rfl⟩ : ∃ k, rounds = k + 1 := ⟨rounds - 1, by omega⟩
      have hn : n.toNat + 1 < UInt32.size := by omega
      obtain ⟨hnext, hnum⟩ := nextCount?_eq hn
      have hmore : ¬ p.attempts ≤ (n + 1).toNat := by omega
      have hrest : p.counted tell op (n + 1) rounds
          = (p.retryFrom tell op (n + 1).toNat left).bind fun r => return some r :=
        ih (by omega) (by omega)
      rw [hnum] at hrest
      change op.bind _ = (op.bind _).bind _
      rw [Routine.bind_assoc]
      congr 1
      funext r
      cases r with
      | ok a => rfl
      | error e =>
          simp only [hnext, if_neg hmore, hrest]
          change Routine.bind _ _ = (Routine.bind _ _).bind _
          rw [Routine.bind_assoc]
          rfl

/-- A 32-bit count never overflows, whatever the policy: the loop does what the attempts do. -/
theorem counted_eq (tell : Nat → Option Span → ε → Routine σ Unit) (op : Routine σ (Except ε α))
    (hp : p.maxAttempts < UInt32.size) {rounds : Nat} (hrounds : p.attempts ≤ rounds) :
    p.counted tell op 0 rounds = (p.retry op tell).bind fun r => return some r := by
  have hpos := p.attempts_pos
  have hlimit : p.attempts < UInt32.size := by
    rw [attempts]
    exact Nat.max_lt.2 ⟨hp, by decide⟩
  refine p.counted_eq_retryFrom hlimit ?_ ?_
  · change 0 + (p.attempts - 1) + 1 = p.attempts
    omega
  · omega

/-! ## What is seen -/

/-- What is seen of attempt `n` with its answer. -/
def trial (n : Nat) : Except ε α → List (TrialDeed ε α)
  | .ok a => [.called, .answered (.ok a)]
  | .error e =>
    [.called, .answered (.error e),
      .told n (if n + 1 < p.attempts then some (p.delay n) else none) e]

/-- What is seen of attempts with these answers, from attempt `n` on. -/
def storyFrom : Nat → List (Except ε α) → List (TrialDeed ε α)
  | _, [] => []
  | n, answer :: answers => p.trial n answer ++ storyFrom (n + 1) answers

/-- What is seen of attempts with these answers. -/
def story (answers : List (Except ε α)) : List (TrialDeed ε α) := p.storyFrom 0 answers

/-- Each attempt is one call. -/
theorem countP_isCall_storyFrom (n : Nat) (answers : List (Except ε α)) :
    (p.storyFrom n answers).countP TrialDeed.isCall = answers.length := by
  induction answers generalizing n with
  | nil => rfl
  | cons answer answers ih =>
      have htrial : (p.trial n answer).countP TrialDeed.isCall = 1 := by
        cases answer <;> rfl
      rw [storyFrom, List.countP_append, htrial, ih, List.length_cons]
      omega

/-- A trial leaves no call under way. -/
theorem trial_resting (before : List (TrialDeed ε α)) (n : Nat) (answer : Except ε α) (d : δ) :
    (Trials.mk d (before ++ p.trial n answer)).resting = true := by
  cases answer <;> simp [trial, Trials.resting, TrialDeed.isCall]

variable {p}

/-- Failures, each followed by the next attempt, and the answer of the last one: how often the
operation has been called, what has been seen, and the waits. -/
structure FailRow (p : Backoff) (n left : Nat) (before after : List (TrialDeed ε α))
    (rests : List (List (TrialDeed ε α) × Span)) (failures : List ε) (r : Except ε α) : Prop where
  few : failures.length ≤ left
  last : ∀ e, r = .error e → failures.length = left
  seen : after = before ++ p.storyFrom n (failures.map .error ++ [r])
  waits : rests = (List.range failures.length).map fun i =>
    (before ++ p.storyFrom n ((failures.take (i + 1)).map .error), p.delay (n + i))

/-- A failure in front of all that comes behind it. -/
private theorem FailRow.cons {n left : Nat} {before after : List (TrialDeed ε α)}
    {rests : List (List (TrialDeed ε α) × Span)} {failures : List ε} {r : Except ε α} {e : ε}
    (h : FailRow p (n + 1) left (before ++ p.trial n (.error e)) after rests failures r) :
    FailRow p n (left + 1) before after ((before ++ p.trial n (.error e), p.delay n) :: rests)
      (e :: failures) r where
  few := Nat.succ_le_succ h.few
  last e' hr := congrArg (· + 1) (h.last e' hr)
  seen := by
    rw [h.seen, List.append_assoc]
    rfl
  waits := by
    rw [h.waits, List.length_cons, List.range_succ_eq_map, List.map_cons, List.map_map]
    congr 1
    apply List.map_congr_left
    intro i _
    have hi : n + 1 + i = n + (i + 1) := by omega
    simp only [Function.comp_apply, List.take_succ_cons, List.map_cons, storyFrom, hi,
      List.append_assoc]

/-- Attempts fail one after the other, up to the last one. -/
theorem failRow_of_endsAfter {op : Routine δ (Except ε α)} {tell : Nat → Option Span → ε → δ → δ}
    {n left : Nat} {w w' : Trials δ ε α} {ws : List (Wait (Trials δ ε α))} {r : Except ε α}
    (hleft : n + left + 1 = p.attempts)
    (h : (p.retryFrom (Trials.telling tell) (Trials.watched op) n left).EndsAfter
      Trials.Apart w ws r w') :
    ∃ failures, FailRow p n left w.deeds w'.deeds (Trials.rests ws) failures r := by
  have ho := Trials.interference_apart (δ := δ) (ε := ε) (α := α)
  induction left generalizing n w ws with
  | zero =>
      obtain ⟨answer, w₁, us, vs, rfl, hop, hrest⟩ := (Routine.endsAfter_do ho).1 h
      obtain ⟨hw₁, hus⟩ := Trials.of_watched hop
      refine ⟨[], Nat.le_refl _, fun _ _ => rfl, ?_, ?_⟩
      · cases answer with
        | ok a =>
            obtain ⟨-, rfl, hw'⟩ := hrest
            rw [hw', hw₁]
            rfl
        | error e =>
            obtain ⟨_, w₂, _, _, -, htell, -, rfl, hw'⟩ := (Routine.endsAfter_do ho).1 hrest
            have hnone : ¬ n + 1 < p.attempts := by omega
            rw [hw', (Trials.of_telling htell).2, hw₁]
            simp [storyFrom, trial, hnone]
      · rw [Trials.rests_append, hus]
        cases answer with
        | ok a =>
            obtain ⟨rfl, -, -⟩ := hrest
            rfl
        | error e =>
            obtain ⟨_, w₂, _, _, rfl, htell, rfl, -, -⟩ := (Routine.endsAfter_do ho).1 hrest
            rw [(Trials.of_telling htell).1]
            rfl
  | succ left ih =>
      obtain ⟨answer, w₁, us, vs, rfl, hop, hrest⟩ := (Routine.endsAfter_do ho).1 h
      obtain ⟨hw₁, hus⟩ := Trials.of_watched hop
      cases answer with
      | ok a =>
          obtain ⟨rfl, rfl, hw'⟩ := hrest
          refine ⟨[], Nat.zero_le _, ?_, ?_, ?_⟩
          · intro e he
            cases he
          · rw [hw', hw₁]
            rfl
          · rw [List.append_nil, hus]
            rfl
      | error e =>
          obtain ⟨_, w₂, _, vs, rfl, htell, hpause⟩ := (Routine.endsAfter_do ho).1 hrest
          obtain ⟨rfl, hw₂⟩ := Trials.of_telling htell
          obtain ⟨_, w₃, _, vs, rfl, hwait, hmore⟩ := (Routine.endsAfter_do ho).1 hpause
          obtain ⟨t, ht, rfl, hw₃⟩ := Routine.endsAfter_pause.1 hwait
          have hsome : n + 1 < p.attempts := by omega
          have hseen : w₂.deeds = w.deeds ++ p.trial n (.error e) := by
            rw [hw₂, hw₁]
            simp [trial, hsome]
          have hrests : Trials.rests (us ++ ([] ++ ([(t, p.delay n)] ++ vs)))
              = (w.deeds ++ p.trial n (.error e), p.delay n) :: Trials.rests vs := by
            have hdeeds : t.deeds = w.deeds ++ p.trial n (.error e) := ht.trans hseen
            have hresting : t.resting = true := by
              have := p.trial_resting w.deeds n (.error e) t.device
              rwa [← hdeeds] at this
            rw [Trials.rests_append, hus, List.nil_append, List.nil_append, Trials.rests_append,
              ← hdeeds]
            simp [Trials.rests, hresting]
          obtain ⟨failures, hfail⟩ := ih (by omega) hmore
          rw [hw₃, ht, hseen] at hfail
          rw [hrests]
          exact ⟨e :: failures, hfail.cons⟩

/-! ## Calls that answer in a pattern -/

/-- How many calls there are and what comes of them if the calls would answer in this pattern, as
long as there are calls. -/
structure Outcome (p : Backoff) (pattern : Nat → Except ε α) (calls : Nat) (r : Except ε α) :
    Prop where
  /-- There is a first success, behind `k` failures. -/
  success : ∀ k a, (∀ i < k, ∃ e, pattern i = .error e) → pattern k = .ok a →
    calls = min (k + 1) p.attempts ∧ (k < p.attempts → r = pattern k)
  /-- There is no success among as many calls as the policy allows. -/
  exhausted : (∀ i < p.attempts, ∃ e, pattern i = .error e) →
    calls = p.attempts ∧ ∃ e, r = .error e ∧ pattern (p.attempts - 1) = .error e

private theorem FailRow.outcome {before after : List (TrialDeed ε α)}
    {rests : List (List (TrialDeed ε α) × Span)} {failures : List ε} {r : Except ε α}
    (h : FailRow p 0 (p.attempts - 1) before after rests failures r)
    {pattern : Nat → Except ε α}
    (hpattern : ∀ i < failures.length + 1,
      (failures.map Except.error ++ [r])[i]? = some (pattern i)) :
    p.Outcome pattern (failures.length + 1) r := by
  have hpos := p.attempts_pos
  have hfew := h.few
  have hlast : pattern failures.length = r := by
    have := hpattern failures.length (Nat.lt_succ_self _)
    rw [List.getElem?_append_right (by simp)] at this
    simpa using this.symm
  have hfailed : ∀ i < failures.length, ∃ e, pattern i = .error e := by
    intro i hi
    have := hpattern i (by omega)
    rw [List.getElem?_append_left (by rwa [List.length_map]), List.getElem?_map,
      List.getElem?_eq_getElem hi] at this
    exact ⟨failures[i], by simpa using this.symm⟩
  have hall : ∀ e, pattern failures.length = .error e → failures.length = p.attempts - 1 := by
    intro e he
    exact h.last e (hlast.symm.trans he)
  constructor
  · intro k a hbefore hk
    rcases Nat.lt_trichotomy k failures.length with hlt | rfl | hgt
    · obtain ⟨e, he⟩ := hfailed k hlt
      rw [he] at hk
      cases hk
    · constructor
      · omega
      · intro _
        exact hlast.symm
    · obtain ⟨e, he⟩ := hbefore _ hgt
      have := hall e he
      omega
  · intro hnone
    obtain ⟨e, he⟩ := hnone failures.length (by omega)
    have := hall e he
    refine ⟨by omega, e, hlast.symm.trans he, ?_⟩
    rwa [← this]

/-- What repeated attempts come to, from a state on. -/
structure Tries (p : Backoff) (op : Routine δ (Except ε α)) (tell : Nat → Option Span → ε → δ → δ)
    (w : Trials δ ε α) : Prop where
  /-- They end. -/
  ends : ∃ ws r w',
    (p.retry (Trials.watched op) (Trials.telling tell)).EndsAfter Trials.Apart w ws r w'
  /-- The calls, their answers, and the waits between the calls. -/
  course : ∀ ws r w',
    (p.retry (Trials.watched op) (Trials.telling tell)).EndsAfter Trials.Apart w ws r w' →
    ∃ answers, w'.deeds = w.deeds ++ p.story answers ∧
      w'.deeds.countP TrialDeed.isCall = w.deeds.countP TrialDeed.isCall + answers.length ∧
      (∀ pattern : Nat → Except ε α, (∀ i < answers.length, answers[i]? = some (pattern i)) →
        p.Outcome pattern answers.length r) ∧
      Trials.rests ws = (List.range (answers.length - 1)).map fun i =>
        (w.deeds ++ p.story (answers.take (i + 1)), p.delay i)
  /-- A 32-bit count is enough, and as many rounds as there are attempts. -/
  count : ∀ rounds, p.attempts ≤ rounds →
    p.counted (Trials.telling tell) (Trials.watched op) 0 rounds
      = (p.retry (Trials.watched op) (Trials.telling tell)).bind fun r => return some r

/-- The attempts of a policy with a 32-bit limit: whatever the operation does, and whatever others
do to the device meanwhile, there are as many calls as the answers ask for and the limit allows, and
the first success or the last failure is the result. Between two calls, and nowhere else but in a
call, time passes, as long as the policy says. -/
theorem retry_course (p : Backoff) (hp : p.maxAttempts < UInt32.size)
    (op : Routine δ (Except ε α)) (tell : Nat → Option Span → ε → δ → δ) (w : Trials δ ε α) :
    p.Tries op tell w where
  ends := by
    have hend := Routine.endsAmid_alone Trials.interference_apart
      (p.retry (Trials.watched op) (Trials.telling tell)) 0 w
    obtain ⟨ws, hws⟩ := (Routine.endsAmid_iff_endsAfter Trials.interference_apart).1 hend
    exact ⟨ws, _, _, hws⟩
  course := by
    intro ws r w' h
    have hpos := p.attempts_pos
    obtain ⟨failures, hfail⟩ := failRow_of_endsAfter (by omega) h
    have hseen : w'.deeds = w.deeds ++ p.story (failures.map .error ++ [r]) := hfail.seen
    have hlength : (failures.map Except.error ++ [r]).length = failures.length + 1 := by
      rw [List.length_append, List.length_map, List.length_singleton]
    refine ⟨failures.map .error ++ [r], hseen, ?_, ?_, ?_⟩
    · rw [hseen, List.countP_append, story, p.countP_isCall_storyFrom]
    · intro pattern hpattern
      rw [hlength] at hpattern ⊢
      exact hfail.outcome hpattern
    · rw [hfail.waits, hlength, Nat.add_sub_cancel]
      apply List.map_congr_left
      intro i hi
      have hle : i + 1 ≤ (failures.map (Except.error (α := α))).length := by
        rw [List.length_map]
        exact List.mem_range.1 hi
      rw [List.take_append_of_le_length hle, List.map_take, Nat.zero_add]
      rfl
  count _ hrounds := p.counted_eq _ _ hp hrounds

/-- An operation that gives the answers of a list, one in each call. -/
def scripted : Routine (List (Except String Nat)) (Except String Nat) :=
  .changeTelling List.tail fun answers => answers.headD (.error "nothing is left")

/-- Four attempts are allowed, and the third of them succeeds. -/
theorem retry_course_scripted :
    4 < UInt32.size ∧ ∃ ws w',
      (Backoff.retry ⟨4, ⟨5⟩⟩ (Trials.watched scripted) (Trials.telling fun _ _ _ => id)).EndsAfter
        Trials.Apart ⟨[.error "busy", .error "late", .ok 7], []⟩ ws (.ok 7) w' ∧
      w'.deeds.countP TrialDeed.isCall = 3 ∧
      (Trials.rests ws).map Prod.snd = [⟨5⟩, ⟨10⟩] := by
  refine ⟨by decide, ?_⟩
  have htries := retry_course ⟨4, ⟨5⟩⟩ (by decide) scripted (fun _ _ _ => id)
    ⟨[.error "busy", .error "late", .ok 7], []⟩
  have hend := Routine.endsAmid_alone Trials.interference_apart
    (Backoff.retry ⟨4, ⟨5⟩⟩ (Trials.watched scripted) (Trials.telling fun _ _ _ => id)) 0
    ⟨[.error "busy", .error "late", .ok 7], []⟩
  obtain ⟨ws, hws⟩ := (Routine.endsAmid_iff_endsAfter Trials.interference_apart).1 hend
  obtain ⟨answers, -, hcalls, -, hrests⟩ := htries.course _ _ _ hws
  have hthree : 3 = 0 + answers.length := hcalls
  have hpauses : answers.length - 1 = 2 := by omega
  refine ⟨ws, _, hws, rfl, ?_⟩
  rw [hrests, hpauses]
  rfl

end Backoff

end HomeEnergy
