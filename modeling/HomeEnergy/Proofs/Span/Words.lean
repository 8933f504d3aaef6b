import HomeEnergy.Span

/-!
# Spans in words

A clock keeps a span in two words: the whole seconds in 64 bits, and in 32 bits the nanoseconds
beyond them. A multiple is computed word by word. The nanoseconds are multiplied in 64 bits, where
they have room; the whole seconds among them are carried over; and the seconds can overflow twice,
when they are multiplied and when the carry comes in.

## Main results

* `SpanWords.span_ofSpan`, `SpanWords.span_injective` — two words hold exactly the spans up to the
  longest one.
* `SpanWords.nanos_of_scaled?`, `SpanWords.exists_scaled?` — a multiple in words is exact, and there
  is one unless it is longer than the longest span.
* `SpanWords.span_scaled` — with the longest span in place of an overflow, that is `Span.scaled`.
-/

namespace HomeEnergy

/-- A span in two words. -/
structure SpanWords where
  seconds : UInt64
  nanos : UInt32
  nanos_lt : nanos.toNat < Span.perSecond

namespace SpanWords

/-- The span that two words tell. -/
def span (d : SpanWords) : Span := ⟨d.seconds.toNat * Span.perSecond + d.nanos.toNat⟩

/-- The words of a span, for as many seconds as there is room for. -/
def ofSpan (d : Span) : SpanWords where
  seconds := UInt64.ofNat d.seconds
  nanos := UInt32.ofNat d.subsecond
  nanos_lt := by
    have hlt : d.subsecond < Span.perSecond := Nat.mod_lt _ (by decide)
    rw [UInt32.toNat_ofNat']
    exact Nat.lt_of_le_of_lt (Nat.mod_le _ _) hlt

/-- The largest numbers that both words can hold. -/
def longest : SpanWords := ⟨0xFFFFFFFFFFFFFFFF, 999999999, by decide⟩

theorem span_longest : longest.span = Span.longest := by decide

theorem nanos_le_longest (d : SpanWords) : d.span.nanos ≤ Span.longest.nanos := by
  have hseconds := d.seconds.toNat_lt
  have hnanos := d.nanos_lt
  rw [← span_longest]
  simp only [span, longest, Span.perSecond] at hnanos ⊢
  change _ ≤ 18446744073709551615 * 1000000000 + 999999999
  omega

theorem span_ofSpan {d : Span} (h : d.nanos ≤ Span.longest.nanos) : (ofSpan d).span = d := by
  have hparts := d.seconds_subsecond
  have hsub : d.subsecond < Span.perSecond := Nat.mod_lt _ (by decide)
  have hlongest : Span.longest.nanos = 18446744073709551616 * 1000000000 - 1 := rfl
  simp only [Span.perSecond] at hparts hsub
  have hseconds : (UInt64.ofNat d.seconds).toNat = d.seconds := by
    rw [UInt64.toNat_ofNat']
    omega
  have hnanos : (UInt32.ofNat d.subsecond).toNat = d.subsecond := by
    rw [UInt32.toNat_ofNat']
    omega
  rw [span, ofSpan, hseconds, hnanos, d.seconds_subsecond]

theorem span_injective {d e : SpanWords} (h : d.span.nanos = e.span.nanos) : d = e := by
  obtain ⟨s, n, hn⟩ := d
  obtain ⟨t, m, hm⟩ := e
  simp only [span, Span.perSecond] at h hn hm
  have hseconds : s = t := UInt64.toNat_inj.1 (by omega)
  have hnanos : n = m := UInt32.toNat_inj.1 (by omega)
  subst hseconds hnanos
  rfl

/-! ## Multiples -/

/-- The word of a number, if it is not too large for one. -/
def word? (n : Nat) : Option UInt64 := if n < UInt64.size then some (UInt64.ofNat n) else none

theorem word?_eq_some_iff {n : Nat} {w : UInt64} : word? n = some w ↔ w.toNat = n := by
  unfold word?
  constructor
  · intro h
    split at h
    · next hn =>
        cases h
        exact UInt64.toNat_ofNat_of_lt' hn
    · cases h
  · rintro rfl
    rw [if_pos w.toNat_lt, UInt64.ofNat_toNat]

/-- The nanoseconds of a multiple, whole seconds included. -/
def product (d : SpanWords) (factor : UInt32) : UInt64 := d.nanos.toUInt64 * factor.toUInt64

/-- 64 bits are enough for it. -/
theorem toNat_product (d : SpanWords) (factor : UInt32) :
    (d.product factor).toNat = d.nanos.toNat * factor.toNat := by
  have hnanos := d.nanos_lt
  have hfactor := factor.toNat_lt
  have hroom : d.nanos.toNat * factor.toNat ≤ 1000000000 * 4294967296 :=
    Nat.mul_le_mul (Nat.le_of_lt hnanos) (Nat.le_of_lt hfactor)
  rw [product, UInt64.toNat_mul, UInt32.toNat_toUInt64, UInt32.toNat_toUInt64]
  omega

/-- A multiple of a span, unless its seconds overflow. -/
def scaled? (d : SpanWords) (factor : UInt32) : Option SpanWords :=
  (word? (d.seconds.toNat * factor.toNat)).bind fun whole =>
    (word? (whole.toNat + (d.product factor / 1000000000).toNat)).map fun seconds =>
      { seconds
        nanos := (d.product factor % 1000000000).toUInt32
        nanos_lt := by
          rw [UInt64.toNat_toUInt32, UInt64.toNat_mod]
          exact Nat.lt_of_le_of_lt (Nat.mod_le _ _) (Nat.mod_lt _ (by decide)) }

/-- A multiple of a span, or the longest span if there is none. -/
def scaled (d : SpanWords) (factor : UInt32) : SpanWords := (d.scaled? factor).getD longest

/-- What is carried over and what stays behind make up the product. -/
private theorem nanos_scaled (d : SpanWords) (factor : UInt32) :
    (d.seconds.toNat * factor.toNat + (d.product factor / 1000000000).toNat) * Span.perSecond
      + (d.product factor % 1000000000).toUInt32.toNat = d.span.nanos * factor.toNat := by
  have hbillion : (1000000000 : UInt64).toNat = 1000000000 := rfl
  have hspan : d.span.nanos * factor.toNat
      = d.seconds.toNat * factor.toNat * 1000000000 + d.nanos.toNat * factor.toNat := by
    rw [span, Nat.add_mul, Nat.mul_right_comm]
    rfl
  rw [hspan, UInt64.toNat_toUInt32, UInt64.toNat_mod, UInt64.toNat_div, toNat_product, hbillion,
    Span.perSecond]
  omega

/-- Whatever is computed without an overflow is exact. -/
theorem nanos_of_scaled? {d e : SpanWords} {factor : UInt32} (h : d.scaled? factor = some e) :
    e.span.nanos = d.span.nanos * factor.toNat := by
  obtain ⟨whole, hwhole, h⟩ := Option.bind_eq_some_iff.1 h
  obtain ⟨seconds, hseconds, rfl⟩ := Option.map_eq_some_iff.1 h
  rw [word?_eq_some_iff] at hwhole hseconds
  rw [← d.nanos_scaled factor, ← hwhole, ← hseconds]
  rfl

/-- Nothing overflows as long as the multiple is no longer than the longest span. -/
theorem exists_scaled? {d : SpanWords} {factor : UInt32}
    (h : d.span.nanos * factor.toNat ≤ Span.longest.nanos) : ∃ e, d.scaled? factor = some e := by
  have hnanos := d.nanos_scaled factor
  have hlongest : Span.longest.nanos = 18446744073709551616 * 1000000000 - 1 := rfl
  rw [Span.perSecond] at hnanos
  have hwhole : d.seconds.toNat * factor.toNat < UInt64.size := by
    change _ < 18446744073709551616
    omega
  have hseconds : d.seconds.toNat * factor.toNat + (d.product factor / 1000000000).toNat
      < UInt64.size := by
    change _ < 18446744073709551616
    omega
  rw [scaled?, word?, if_pos hwhole, Option.bind_some, UInt64.toNat_ofNat_of_lt' hwhole, word?,
    if_pos hseconds]
  exact ⟨_, rfl⟩

/-- The multiple in words is the multiple, cut off at the longest span. -/
theorem span_scaled (d : SpanWords) (factor : UInt32) :
    (d.scaled factor).span = d.span.scaled factor.toNat := by
  rw [scaled, Span.scaled]
  cases h : d.scaled? factor with
  | some e =>
      rw [Option.getD_some, ← nanos_of_scaled? h, Nat.min_eq_left e.nanos_le_longest]
  | none =>
      have hlong : Span.longest.nanos < d.span.nanos * factor.toNat := by
        refine Nat.lt_of_not_le fun hle => ?_
        obtain ⟨e, he⟩ := exists_scaled? hle
        rw [h] at he
        cases he
      rw [Option.getD_none, span_longest, Nat.min_eq_right (Nat.le_of_lt hlong)]

end SpanWords

end HomeEnergy
