import HomeEnergy.Device.Weather
import HomeEnergy.Proofs.Document.RoundTrip
import HomeEnergy.Proofs.Timestamp.Reading

/-!
# Weather readings written and read again

A reading becomes an entry of the cache by being written as a document in bytes. Its numbers are
doubles of any kind, and one that is infinite or undefined is written as the null, which is no
number when it is read. So an entry gives its reading back, each number as it reads again, exactly
if all numbers are finite and the year is one of those that are read.

## Main results

* `Document.fields?_map` — the fields of a map whose keys are distinct.
* `Weather.Record.again_isSome_iff` — which readings are not lost.
* `Weather.readBytes_record` — what is read from the bytes of a reading.
-/

namespace HomeEnergy

/-! ## Fields of maps -/

namespace Document

theorem againMembers_eq (members : List (String × Document)) :
    againMembers members = members.map fun m => (m.1, m.2.again) := by
  induction members with
  | nil => rfl
  | cons m rest ih => exact congrArg _ ih

theorem field?_of_mem {members : List (String × Document)} (h : (members.map (·.1)).Nodup)
    {m : String × Document} (hm : m ∈ members) : field? members m.1 = some (some m.2) := by
  have hfilter : members.filter (·.1 == m.1) = [m] := by
    induction members with
    | nil => cases hm
    | cons head rest ih =>
        obtain ⟨hhead, hrest⟩ := List.nodup_cons.1 h
        rcases List.mem_cons.1 hm with rfl | hm
        · have hnone : rest.filter (·.1 == m.1) = [] := by
            refine List.filter_eq_nil_iff.2 fun x hx heq => hhead ?_
            exact List.mem_map.2 ⟨x, hx, eq_of_beq heq⟩
          rw [List.filter_cons_of_pos (by simp), hnone]
        · have hne : ¬ (head.1 == m.1) = true := by
            intro heq
            exact hhead (List.mem_map.2 ⟨m, hm, (eq_of_beq heq).symm⟩)
          have htail : (head :: rest).filter (·.1 == m.1) = rest.filter (·.1 == m.1) :=
            List.filter_cons_of_neg hne
          rw [htail]
          exact ih hrest hm
  unfold field?
  rw [hfilter]

/-- A map gives what stands under its keys, if none stands there twice. -/
theorem fields?_map {members : List (String × Document)} (h : (members.map (·.1)).Nodup)
    (surplus : Surplus) : (map members).fields? surplus (members.map (·.1))
      = some (members.map fun m => some m.2) := by
  show (members.map (·.1)).mapM (field? members) = _
  have hall : ∀ some' : List (String × Document), (∀ m ∈ some', m ∈ members) →
      (some'.map (·.1)).mapM (field? members) = some (some'.map fun m => some m.2) := by
    intro ms hms
    induction ms with
    | nil => rfl
    | cons m rest ih =>
        rw [List.map_cons, List.mapM_cons, field?_of_mem h (hms m List.mem_cons_self),
          ih fun x hx => hms x (List.mem_cons_of_mem m hx)]
        rfl
  exact hall members fun m hm => hm

end Document

namespace Weather

/-! ## What can be read again -/

/-- What a climate becomes when it is written and read again, if it is one then. -/
def Climate.again (c : Climate) : Option Climate := do
  return {
    temperature := ← Float.again c.temperature
    humidity := ← Float.again c.humidity }

/-- What a wind becomes when it is written and read again, if it is one then. -/
def Wind.again (w : Wind) : Option Wind := do
  return {
    direction := w.direction
    gusts := ← Float.again w.gusts
    speed := ← Float.again w.speed }

/-- What a reading becomes when it is written and read again, if it is one then. -/
def Record.again (r : Record) : Option Record := do
  return {
    time := ← Timestamp.read r.time.render
    uv := ← Float.again r.uv
    barometer := ← Float.again r.barometer
    dailyRain := ← Float.again r.dailyRain
    dewPoint := ← Float.again r.dewPoint
    outdoor := ← r.outdoor.again
    indoor := ← r.indoor.again
    rain := ← Float.again r.rain
    radiation := ← Float.again r.radiation
    wind := ← r.wind.again }

/-- The numbers of a reading. -/
def Record.numbers (r : Record) : List Float :=
  [r.uv, r.barometer, r.dailyRain, r.dewPoint, r.outdoor.temperature, r.outdoor.humidity,
    r.indoor.temperature, r.indoor.humidity, r.rain, r.radiation, r.wind.gusts, r.wind.speed]

/-- A reading that can be read again: all its numbers are finite, and its year is not beyond those
that are read. -/
structure Record.Readable (r : Record) : Prop where
  finite : ∀ x ∈ r.numbers, x.isFinite = true
  year : (Date.ofDays (r.time.seconds / 86400)).year.natAbs ≤ 262142

/-- A reading as it is taken: the nanoseconds do not make up a second, and the direction of the wind
fits into 32 bits. -/
structure Record.Taken (r : Record) : Prop where
  nanos : r.time.nanos < 1000000000
  direction : -(2 ^ 31) ≤ r.wind.direction ∧ r.wind.direction < 2 ^ 31

variable {r : Record}

theorem Record.readable_iff (h : r.Taken) : r.Readable ↔
    (Timestamp.read r.time.render).isSome = true ∧
      ∀ x ∈ r.numbers, (Float.again x).isSome = true := by
  have hyear : (Timestamp.read r.time.render).isSome = true ↔
      (Date.ofDays (r.time.seconds / 86400)).year.natAbs ≤ 262142 := by
    rw [Timestamp.read_render h.nanos]
    split
    · rename_i hyear
      exact ⟨fun _ => hyear, fun _ => rfl⟩
    · rename_i hyear
      exact ⟨fun hnone => absurd hnone (by decide), fun hle => absurd hle hyear⟩
  simp only [hyear, Float.again_isSome_iff]
  exact ⟨fun hr => ⟨hr.year, hr.finite⟩, fun ⟨hyear, hfinite⟩ => ⟨hfinite, hyear⟩⟩

/-- A reading is lost as soon as one of its parts is. -/
theorem Record.again_isSome_iff (h : r.Taken) : r.again.isSome = true ↔ r.Readable := by
  rw [readable_iff h]
  simp only [numbers, List.forall_mem_cons, List.not_mem_nil, false_imp_iff, forall_const, and_true,
    again, Climate.again, Wind.again, Option.isSome_iff_exists, Option.bind_eq_bind,
    Option.bind_eq_some_iff, Option.pure_def]
  constructor
  · rintro ⟨r', time, htime, uv, huv, barometer, hbarometer, daily, hdaily, dew, hdew,
      outdoor, ⟨t, ht, u, hu, -⟩, indoor, ⟨t', ht', u', hu', -⟩, rain, hrain, radiation, hradiation,
      wind, ⟨gusts, hgusts, speed, hspeed, -⟩, -⟩
    exact ⟨⟨time, htime⟩, ⟨uv, huv⟩, ⟨barometer, hbarometer⟩, ⟨daily, hdaily⟩, ⟨dew, hdew⟩, ⟨t, ht⟩,
      ⟨u, hu⟩, ⟨t', ht'⟩, ⟨u', hu'⟩, ⟨rain, hrain⟩, ⟨radiation, hradiation⟩, ⟨gusts, hgusts⟩,
      ⟨speed, hspeed⟩⟩
  · rintro ⟨⟨time, htime⟩, ⟨uv, huv⟩, ⟨barometer, hbarometer⟩, ⟨daily, hdaily⟩, ⟨dew, hdew⟩,
      ⟨t, ht⟩, ⟨u, hu⟩, ⟨t', ht'⟩, ⟨u', hu'⟩, ⟨rain, hrain⟩, ⟨radiation, hradiation⟩,
      ⟨gusts, hgusts⟩, ⟨speed, hspeed⟩⟩
    exact ⟨_, time, htime, uv, huv, barometer, hbarometer, daily, hdaily, dew, hdew,
      _, ⟨t, ht, u, hu, rfl⟩, _, ⟨t', ht', u', hu', rfl⟩, rain, hrain, radiation, hradiation,
      _, ⟨gusts, hgusts, speed, hspeed, rfl⟩, rfl⟩

/-! ## Documents of readings -/

theorem number?_again (x : Float) :
    Document.required Document.number? (some (Document.float x).again) = Float.again x := by
  rw [Document.again]
  cases Float.again x <;> rfl

/-- The fields of a record that has been written and read again. -/
theorem fields?_again {members : List (String × Document)} (h : (members.map (·.1)).Nodup) :
    (Document.map members).again.fields? .refused (members.map (·.1))
      = some (members.map fun m => some m.2.again) := by
  have hkeys : (members.map fun m => (m.1, m.2.again)).map (·.1) = members.map (·.1) := by
    rw [List.map_map]
    rfl
  have hfields := Document.fields?_map (hkeys.symm ▸ h) .refused
  rw [hkeys, List.map_map] at hfields
  rw [Document.again, Document.againMembers_eq]
  exact hfields

theorem ofDocument_climate (c : Climate) :
    Document.required Climate.ofDocument (some c.toDocument.again) = c.again := by
  have hfields := @fields?_again [("temperature", .float c.temperature),
    ("humidity", .float c.humidity)] (show ["temperature", "humidity"].Nodup by decide)
  show Climate.ofDocument c.toDocument.again = _
  unfold Climate.ofDocument Climate.toDocument
  simp only [List.map_cons, List.map_nil] at hfields
  rw [hfields]
  simp only [Option.bind_eq_bind, Option.bind_some, number?_again]
  rfl

theorem ofDocument_wind {w : Wind} (h : -(2 ^ 31) ≤ w.direction ∧ w.direction < 2 ^ 31) :
    Document.required Wind.ofDocument (some w.toDocument.again) = w.again := by
  have hfields := @fields?_again [("direction", .int w.direction), ("gusts", .float w.gusts),
    ("speed", .float w.speed)] (show ["direction", "gusts", "speed"].Nodup by decide)
  have hdirection : Document.required (Document.integer? 32) (some (Document.int w.direction).again)
      = some w.direction :=
    if_pos ⟨h.1, Int.le_sub_one_of_lt h.2⟩
  show Wind.ofDocument w.toDocument.again = _
  unfold Wind.ofDocument Wind.toDocument
  simp only [List.map_cons, List.map_nil] at hfields
  rw [hfields]
  simp only [Option.bind_eq_bind, Option.bind_some, number?_again, hdirection]
  rfl

/-- The names of the fields of a reading. -/
def fieldNames : List String :=
  ["timestamp", "uv", "barometer", "daily_rain", "dew_point", "outdoor", "indoor", "rain",
    "solar_radiation", "wind"]

theorem nodup_fieldNames : fieldNames.Nodup := by
  decide +kernel

theorem ofDocument_record (h : r.Taken) : Record.ofDocument r.toDocument.again = r.again := by
  have hfields := @fields?_again [("timestamp", .text r.time.render), ("uv", .float r.uv),
    ("barometer", .float r.barometer), ("daily_rain", .float r.dailyRain),
    ("dew_point", .float r.dewPoint), ("outdoor", r.outdoor.toDocument),
    ("indoor", r.indoor.toDocument), ("rain", .float r.rain),
    ("solar_radiation", .float r.radiation), ("wind", r.wind.toDocument)]
    nodup_fieldNames
  have htime : Document.required Document.time? (some (Document.text r.time.render).again)
      = Timestamp.read r.time.render := by
    simp only [Document.required, Document.time?, Document.text?, Document.again, Option.bind_some]
  unfold Record.ofDocument Record.toDocument
  simp only [List.map_cons, List.map_nil] at hfields
  rw [hfields]
  simp only [Option.bind_eq_bind, Option.bind_some, number?_again, htime, ofDocument_climate,
    ofDocument_wind h.direction]
  rfl

theorem fits_toDocument (h : r.Taken) : r.toDocument.fits 2 = true := by
  have hlimit : Numeral.wordLimit = 2 ^ 64 := rfl
  have hrange := h.direction
  have hdirection : -((Numeral.wordLimit / 2 : Nat) : Int) ≤ r.wind.direction ∧
      r.wind.direction < Numeral.wordLimit := by
    rw [hlimit]
    omega
  simp only [Record.toDocument, Climate.toDocument, Wind.toDocument, Document.fits,
    Document.fitsMembers, Bool.and_true, Nat.reduceSub, Nat.reduceLT, decide_true, hdirection,
    and_self]

/-- What is read from the bytes of a reading. -/
theorem readBytes_record (h : r.Taken) :
    (Json.readBytes (Json.bytes r.toDocument)).bind Record.ofDocument = r.again := by
  rw [Json.readBytes_bytes (fits_toDocument h) (by decide), Option.bind_some, ofDocument_record h]

end Weather

end HomeEnergy
