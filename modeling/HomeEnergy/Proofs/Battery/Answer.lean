import HomeEnergy.Proofs.Battery.Values
import HomeEnergy.Proofs.Document.Normal
import HomeEnergy.Proofs.Fault.First

/-!
# What an answer comes to

A reading is made of 39 numbers, which stand at places in an answer: under a key of a section, or in
a list there. They are read in a fixed order, which is neither that of the request nor that of the
record, and the first place at fault ends the reading. Request and reading are two tables, and
nothing but their agreement makes sure that a number that is read has been asked for.

## Main results

* `Battery.read_eq` — the first place at fault decides, and the numbers make the record.
* `Battery.asked_places` — what is read is what is asked for.
* `Battery.Agree.read_eq` — nothing else makes a difference.
* `Battery.read_decided` — all of it together.
-/

namespace HomeEnergy.Battery

/-- A place in an answer: a value under a key of a section, or an item of the list there. -/
structure Place where
  part : String
  key : String
  item : Option Nat
deriving DecidableEq

namespace Place

/-- A place as messages name it. -/
def shown (p : Place) : String :=
  match p.item with
  | none => p.part ++ "." ++ p.key
  | some i => p.part ++ "." ++ p.key ++ "[" ++ toString i ++ "]"

/-- What is found at a place, unless the key is absent, the list too short or no list at all. -/
def found? (p : Place) (answer : Document) : Option Document :=
  match p.item with
  | none => answer.at? [p.part, p.key]
  | some i => (answer.at? [p.part, p.key]).bind (·.item? i)

/-- What is read at a place. -/
def held (p : Place) (answer : Document) : Document := (p.found? answer).getD .null

/-- The fault of a place: its section is absent, or its value is malformed. -/
def fault? (p : Place) (answer : Document) : Option Fault :=
  if (answer.get? p.part).isSome then
    if (decode (p.held answer)).isSome then none
    else some (.protocol device
      ("malformed value " ++ p.shown ++ ": " ++ Json.text (p.held answer)))
  else some (.missingField device p.part)

/-- The number at a place that has no fault. -/
def number (answer : Document) (p : Place) : Float := (decode (p.held answer)).getD 0.0

end Place

/-- The places of three lists, channel by channel. -/
def channelPlaces (part current voltage power : String) : List Place :=
  (List.range channels).flatMap fun i =>
    [⟨part, current, some i⟩, ⟨part, voltage, some i⟩, ⟨part, power, some i⟩]

/-- All places that are read, in the order in which they are. -/
def places : List Place :=
  [⟨"ENERGY", "GUI_BAT_DATA_POWER", none⟩, ⟨"ENERGY", "GUI_HOUSE_POW", none⟩,
    ⟨"ENERGY", "GUI_GRID_POW", none⟩, ⟨"ENERGY", "GUI_INVERTER_POWER", none⟩,
    ⟨"ENERGY", "GUI_BAT_DATA_FUEL_CHARGE", none⟩, ⟨"ENERGY", "GUI_BAT_DATA_VOLTAGE", none⟩,
    ⟨"TEMPMEASURE", "BATTERY_TEMP", none⟩, ⟨"STATISTIC", "LIVE_GRID_IMPORT", none⟩,
    ⟨"STATISTIC", "LIVE_GRID_EXPORT", none⟩, ⟨"STATISTIC", "LIVE_HOUSE_CONS", none⟩,
    ⟨"STATISTIC", "LIVE_PV_GEN", none⟩, ⟨"BMS", "TOTAL_CURRENT", none⟩,
    ⟨"PV1", "POWER_RATIO", none⟩, ⟨"PM1OBJ1", "P_TOTAL", none⟩, ⟨"PM1OBJ1", "FREQ", none⟩,
    ⟨"ENERGY", "STAT_STATE", none⟩, ⟨"ENERGY", "STAT_HOURS_OF_OPERATION", none⟩,
    ⟨"BMS", "NR_INSTALLED", none⟩, ⟨"TEMPMEASURE", "CASE_TEMP", none⟩,
    ⟨"TEMPMEASURE", "MCU_TEMP", none⟩, ⟨"FAN_SPEED", "INV_LV", none⟩] ++
  channelPlaces "PM1OBJ1" "I_AC" "U_AC" "P_AC" ++
  channelPlaces "PV1" "MPP_CUR" "MPP_VOL" "MPP_POWER"

/-- The channels with the numbers of three lists. -/
def channelsOf (x : Place → Float) (part current voltage power : String) : List Channel :=
  (List.range channels).map fun i =>
    ⟨x ⟨part, current, some i⟩, x ⟨part, voltage, some i⟩, x ⟨part, power, some i⟩⟩

/-- The record with given numbers at the places. -/
def recordOf (time : Timestamp) (x : Place → Float) : Record :=
  let power : Power := {
    house := x ⟨"ENERGY", "GUI_HOUSE_POW", none⟩
    grid := x ⟨"ENERGY", "GUI_GRID_POW", none⟩
    pv := x ⟨"ENERGY", "GUI_INVERTER_POWER", none⟩
    battery := x ⟨"ENERGY", "GUI_BAT_DATA_POWER", none⟩ }
  { time, power
    sources := EnergySources.split power.grid power.battery
    cells := {
      charge := x ⟨"ENERGY", "GUI_BAT_DATA_FUEL_CHARGE", none⟩
      power := power.battery
      voltage := x ⟨"ENERGY", "GUI_BAT_DATA_VOLTAGE", none⟩
      temperature := x ⟨"TEMPMEASURE", "BATTERY_TEMP", none⟩ }
    totals := {
      gridImport := x ⟨"STATISTIC", "LIVE_GRID_IMPORT", none⟩ * 1000.0
      gridExport := x ⟨"STATISTIC", "LIVE_GRID_EXPORT", none⟩ * 1000.0
      consumption := x ⟨"STATISTIC", "LIVE_HOUSE_CONS", none⟩ * 1000.0
      production := x ⟨"STATISTIC", "LIVE_PV_GEN", none⟩ * 1000.0
      current := x ⟨"BMS", "TOTAL_CURRENT", none⟩ }
    system := {
      pvLimit := whole (x ⟨"PV1", "POWER_RATIO", none⟩)
      acPower := x ⟨"PM1OBJ1", "P_TOTAL", none⟩
      frequency := x ⟨"PM1OBJ1", "FREQ", none⟩
      state := whole (x ⟨"ENERGY", "STAT_STATE", none⟩)
      hours := whole (x ⟨"ENERGY", "STAT_HOURS_OF_OPERATION", none⟩)
      modules := whole (x ⟨"BMS", "NR_INSTALLED", none⟩)
      caseTemperature := x ⟨"TEMPMEASURE", "CASE_TEMP", none⟩
      controlTemperature := x ⟨"TEMPMEASURE", "MCU_TEMP", none⟩
      fan := whole (x ⟨"FAN_SPEED", "INV_LV", none⟩) }
    phases := channelsOf x "PM1OBJ1" "I_AC" "U_AC" "P_AC"
    trackers := channelsOf x "PV1" "MPP_CUR" "MPP_VOL" "MPP_POWER" }

/-! ## One place -/

theorem decodeAt_eq {answer : Document} {p : Place} {place : String} (hplace : p.shown = place)
    {d : Document} (hpart : answer.get? p.part = some d) :
    decodeAt place (p.held answer) = Outcome.first [p.fault? answer] (p.number answer) := by
  subst hplace
  unfold decodeAt Place.fault? Place.number
  rw [hpart]
  cases decode (p.held answer) <;> rfl

theorem value_eq (answer : Document) (part key : String) : value answer part key =
    Outcome.first [(⟨part, key, none⟩ : Place).fault? answer]
      (Place.number answer ⟨part, key, none⟩) := by
  unfold value sectionOf
  cases hpart : answer.get? part with
  | none =>
      unfold Place.fault?
      rw [hpart]
      rfl
  | some d =>
      have hheld : Place.held ⟨part, key, none⟩ answer = (d.get? key).getD .null := by
        unfold Place.held Place.found?
        rw [Document.at?_pair, hpart]
        rfl
      rw [← decodeAt_eq (p := ⟨part, key, none⟩) rfl hpart, hheld]
      rfl

theorem valueAt_eq (answer : Document) (part key : String) (i : Nat) :
    valueAt answer part key i = Outcome.first [(⟨part, key, some i⟩ : Place).fault? answer]
      (Place.number answer ⟨part, key, some i⟩) := by
  unfold valueAt sectionOf
  cases hpart : answer.get? part with
  | none =>
      unfold Place.fault?
      rw [hpart]
      rfl
  | some d =>
      have hheld : Place.held ⟨part, key, some i⟩ answer
          = ((d.get? key).bind (·.item? i)).getD .null := by
        unfold Place.held Place.found?
        rw [Document.at?_pair, hpart]
        rfl
      rw [← decodeAt_eq (p := ⟨part, key, some i⟩) rfl hpart, hheld]
      rfl

theorem readChannels_eq (answer : Document) (part current voltage power : String) :
    readChannels answer part current voltage power =
      Outcome.first ((channelPlaces part current voltage power).map (·.fault? answer))
        (channelsOf (Place.number answer) part current voltage power) := by
  unfold readChannels channelPlaces channelsOf
  rw [List.map_flatMap]
  refine Outcome.mapM_first (fun i => ?_) _
  exact Outcome.bind_first (valueAt_eq ..) (Outcome.bind_first (valueAt_eq ..)
    (Outcome.bind_first (valueAt_eq ..) rfl))

theorem bind_value {α : Type} {answer : Document} {part key : String}
    {k : Float → Outcome α} {faults : List (Option Fault)} {a : α}
    (h : k (Place.number answer ⟨part, key, none⟩) = Outcome.first faults a) :
    (value answer part key >>= k)
      = Outcome.first ((⟨part, key, none⟩ : Place).fault? answer :: faults) a :=
  Outcome.bind_first (value_eq answer part key) h

theorem read_eq (time : Timestamp) (answer : Document) : read time answer =
    Outcome.first (places.map (·.fault? answer)) (recordOf time (Place.number answer)) := by
  unfold read
  iterate 21 refine bind_value ?_
  refine Outcome.bind_first (readChannels_eq answer "PM1OBJ1" "I_AC" "U_AC" "P_AC") ?_
  exact Outcome.bind_first (readChannels_eq answer "PV1" "MPP_CUR" "MPP_VOL" "MPP_POWER")
    (show _ = Outcome.first [] _ from rfl)

/-! ## What is asked for -/

/-- What a section is asked for. -/
def blanks (keys : List String) : Document :=
  .map (keys.map fun key => (key, Document.text ""))

/-- The request as its sections are listed. -/
def asked : Document := .map (wanted.map fun w => (w.1, blanks w.2))

theorem request_eq : request = asked.sorted := rfl

theorem get?_blanks (key : String) (keys : List String) :
    ((blanks keys).get? key).isSome = true ↔ key ∈ keys := by
  show (Document.member? key _).isSome = true ↔ _
  rw [Document.member?_isSome, List.map_map]
  simp

/-- A section is listed once, with its keys. -/
theorem get?_asked {part : String} {d : Document} :
    asked.get? part = some d ↔ ∃ w ∈ wanted, w.1 = part ∧ blanks w.2 = d := by
  have hlisted {e : Document} (he : asked.get? part = some e) :
      ∃ w ∈ wanted, w.1 = part ∧ blanks w.2 = e := by
    obtain ⟨w, hw, heq⟩ := List.mem_map.1 (Document.mem_of_member? he)
    exact ⟨w, hw, (Prod.mk.inj heq).1, (Prod.mk.inj heq).2⟩
  refine ⟨hlisted, ?_⟩
  rintro ⟨w, hw, hpart, rfl⟩
  have hunique : ∀ a ∈ wanted, ∀ b ∈ wanted, a.1 = b.1 → a = b := by decide
  have hsome : (asked.get? part).isSome = true := by
    show (Document.member? part _).isSome = true
    rw [Document.member?_isSome, List.map_map]
    exact List.mem_map.2 ⟨w, hw, hpart⟩
  obtain ⟨e, he⟩ := Option.isSome_iff_exists.1 hsome
  obtain ⟨w', hw', hpart', rfl⟩ := hlisted he
  rw [he, hunique w hw w' hw' (hpart.trans hpart'.symm)]

/-- The sections that are asked for are those of the places. -/
theorem asked_sections (part : String) : (request.get? part).isSome = true ↔
    ∃ p ∈ places, p.part = part := by
  have hread : ∀ w ∈ wanted, ∃ p ∈ places, p.part = w.1 := by decide
  have hasked : ∀ p ∈ places, ∃ w ∈ wanted, w.1 = p.part := by decide
  rw [request_eq, Document.get?_sorted, Option.isSome_map, Option.isSome_iff_exists]
  simp only [get?_asked]
  constructor
  · rintro ⟨_, w, hw, rfl, -⟩
    exact hread w hw
  · rintro ⟨p, hp, rfl⟩
    obtain ⟨w, hw, hpart⟩ := hasked p hp
    exact ⟨_, w, hw, hpart, rfl⟩

/-- The keys that are asked for are those of the places. -/
theorem asked_places (part key : String) : (request.at? [part, key]).isSome = true ↔
    ∃ p ∈ places, p.part = part ∧ p.key = key := by
  have hread : ∀ w ∈ wanted, ∀ key ∈ w.2, ∃ p ∈ places, p.part = w.1 ∧ p.key = key := by decide
  have hasked : ∀ p ∈ places, ∃ w ∈ wanted, w.1 = p.part ∧ p.key ∈ w.2 := by decide
  have hat : (request.at? [part, key]).isSome = true ↔
      ∃ d, asked.get? part = some d ∧ (d.get? key).isSome = true := by
    rw [request_eq, Document.at?_sorted, Option.isSome_map, Document.at?_pair]
    cases asked.get? part <;> simp
  rw [hat]
  simp only [get?_asked]
  constructor
  · rintro ⟨_, ⟨w, hw, rfl, rfl⟩, hkey⟩
    exact hread w hw key ((get?_blanks ..).1 hkey)
  · rintro ⟨p, hp, rfl, rfl⟩
    obtain ⟨w, hw, hpart, hkey⟩ := hasked p hp
    exact ⟨_, ⟨w, hw, hpart, rfl⟩, (get?_blanks ..).2 hkey⟩

/-! ## What an answer comes to -/

theorem fault?_eq_none_iff {p : Place} {answer : Document} : p.fault? answer = none ↔
    (answer.get? p.part).isSome = true ∧ (decode (p.held answer)).isSome = true := by
  unfold Place.fault?
  cases answer.get? p.part with
  | none => simp
  | some d => cases decode (p.held answer) <;> simp

/-- There is a record if no place is at fault. -/
theorem read_ok_iff (time : Timestamp) (answer : Document) : (∃ r, read time answer = .ok r) ↔
    (∀ part, (request.get? part).isSome = true → (answer.get? part).isSome = true) ∧
      ∀ p ∈ places, (decode (p.held answer)).isSome = true := by
  have hfaults : (∃ r, read time answer = .ok r) ↔ ∀ p ∈ places, p.fault? answer = none := by
    rw [read_eq]
    simp only [Outcome.first_eq_ok, List.forall_mem_map, exists_and_left, exists_eq', and_true]
  simp only [hfaults, fault?_eq_none_iff, asked_sections]
  constructor
  · intro h
    refine ⟨?_, fun p hp => (h p hp).2⟩
    rintro part ⟨p, hp, rfl⟩
    exact (h p hp).1
  · intro h p hp
    exact ⟨h.1 p.part ⟨p, hp, rfl⟩, h.2 p hp⟩

/-- A record is made of the numbers at the places. -/
theorem eq_recordOf {time : Timestamp} {answer : Document} {r : Record}
    (h : read time answer = .ok r) : r = recordOf time (Place.number answer) := by
  rw [read_eq, Outcome.first_eq_ok] at h
  exact h.2.symm

/-- A fault is that of the first place at fault. -/
theorem read_error_iff (time : Timestamp) (answer : Document) (f : Fault) :
    read time answer = .error f ↔ ∃ before p after, places = before ++ p :: after ∧
      p.fault? answer = some f ∧ ∀ q ∈ before, q.fault? answer = none := by
  rw [read_eq, Outcome.first_eq_error]

/-- A document that is not a text with a mark of numbers in front. -/
def Unmarked (d : Document) : Prop :=
  ∀ s, d = .text s → ∀ mark ∈ numberMarks, ¬ mark.toList <+: s.toList

theorem decode_unmarked {d : Document} (h : Unmarked d) : decode d = some 0.0 := by
  cases d with
  | text s =>
      have hmark : ∀ mark ∈ numberMarks, ∀ rest, s.toList ≠ mark.toList ++ rest :=
        fun mark hmem rest heq => h s rfl mark hmem ⟨rest, heq.symm⟩
      unfold decode
      dsimp only
      split
      · next heq => exact absurd heq (hmark singleMark (by decide) _)
      · next width digits heq =>
        refine if_neg fun hwidth => ?_
        simp only [List.mem_cons, List.not_mem_nil, or_false] at hwidth
        rcases hwidth with rfl | rfl | rfl | rfl
        · exact hmark "u1_" (by decide) digits heq
        · exact hmark "u3_" (by decide) digits heq
        · exact hmark "u6_" (by decide) digits heq
        · exact hmark "u8_" (by decide) digits heq
      · next width digits heq =>
        refine if_neg fun hwidth => ?_
        simp only [List.mem_cons, List.not_mem_nil, or_false] at hwidth
        rcases hwidth with rfl | rfl | rfl
        · exact hmark "i1_" (by decide) digits heq
        · exact hmark "i3_" (by decide) digits heq
        · exact hmark "i8_" (by decide) digits heq
      · rfl
  | _ => rfl

/-- What is absent, or is no number, counts as zero. -/
theorem decode_held {p : Place} {answer : Document}
    (h : ∀ d, p.found? answer = some d → Unmarked d) : decode (p.held answer) = some 0.0 := by
  unfold Place.held
  cases hfound : p.found? answer with
  | none => rfl
  | some d => exact decode_unmarked (h d hfound)

/-- Two answers with the same sections and the same values, as far as they are asked for. -/
structure Agree (answer answer' : Document) : Prop where
  sections : ∀ part, (request.get? part).isSome = true →
    (answer.get? part).isSome = (answer'.get? part).isSome
  values : ∀ part key, (request.at? [part, key]).isSome = true →
    answer.at? [part, key] = answer'.at? [part, key]

theorem Agree.held_eq {answer answer' : Document} (h : Agree answer answer') {p : Place}
    (hp : p ∈ places) : p.held answer = p.held answer' := by
  unfold Place.held Place.found?
  rw [h.values p.part p.key ((asked_places ..).2 ⟨p, hp, rfl, rfl⟩)]

theorem Agree.fault?_eq {answer answer' : Document} (h : Agree answer answer') {p : Place}
    (hp : p ∈ places) : p.fault? answer = p.fault? answer' := by
  unfold Place.fault?
  rw [h.held_eq hp, h.sections p.part ((asked_sections p.part).2 ⟨p, hp, rfl⟩)]

/-- A record is made of the numbers at the places that are read. -/
theorem recordOf_congr (time : Timestamp) {x y : Place → Float} (h : ∀ p ∈ places, x p = y p) :
    recordOf time x = recordOf time y := by
  have honly (z : Place → Float) :
      recordOf time z = recordOf time fun p => if p ∈ places then z p else 0.0 := rfl
  rw [honly x, honly y]
  congr 1
  funext p
  split_ifs with hp
  · exact h p hp
  · rfl

/-- What is not asked for makes no difference. -/
theorem Agree.read_eq {answer answer' : Document} (h : Agree answer answer')
    (time time' : Timestamp) :
    read time' answer' = (fun r => { r with time := time' }) <$> read time answer := by
  have hnumber : ∀ p ∈ places, Place.number answer' p = Place.number answer p := fun p hp => by
    unfold Place.number
    rw [h.held_eq hp]
  rw [Battery.read_eq, Battery.read_eq, Outcome.map_first, recordOf_congr time' hnumber,
    List.map_congr_left fun p hp => h.fault?_eq hp]
  rfl

/-- For everything that is asked for there is something that cannot be read there. -/
theorem exists_unreadable {part key : String} (h : (request.at? [part, key]).isSome = true) :
    ∃ bad, ∀ time answer, answer.at? [part, key] = some bad → ∀ r, read time answer ≠ .ok r := by
  obtain ⟨p, hp, rfl, rfl⟩ := (asked_places ..).1 h
  have hbad : ∃ bad, ∀ answer : Document, answer.at? [p.part, p.key] = some bad →
      p.held answer = .text "u1_" := by
    cases hitem : p.item with
    | none =>
        refine ⟨.text "u1_", fun answer hat => ?_⟩
        unfold Place.held Place.found?
        rw [hitem, hat]
        rfl
    | some i =>
        refine ⟨.list (List.replicate (i + 1) (.text "u1_")), fun answer hat => ?_⟩
        unfold Place.held Place.found?
        rw [hitem, hat]
        show ((List.replicate (i + 1) (Document.text "u1_"))[i]?).getD .null = _
        rw [List.getElem?_replicate, if_pos (Nat.lt_succ_self i)]
        rfl
  obtain ⟨bad, hheld⟩ := hbad
  refine ⟨bad, fun time answer hat r hr => ?_⟩
  have hdecodes := ((read_ok_iff time answer).1 ⟨r, hr⟩).2 p hp
  rw [hheld answer hat] at hdecodes
  exact absurd hdecodes (by decide)

/-- What an answer comes to. -/
theorem read_decided :
    (∀ time answer, (∃ r, read time answer = .ok r) ↔
      (∀ part, (request.get? part).isSome = true → (answer.get? part).isSome = true) ∧
        ∀ p ∈ places, (decode (p.held answer)).isSome = true) ∧
    (∀ time answer f, read time answer = .error f ↔
      ∃ before p after, places = before ++ p :: after ∧ p.fault? answer = some f ∧
        ∀ q ∈ before, q.fault? answer = none) ∧
    (∀ time answer r, read time answer = .ok r → r = recordOf time (Place.number answer)) ∧
    (∀ (p : Place) answer, (∀ d, p.found? answer = some d → Unmarked d) →
      decode (p.held answer) = some 0.0) ∧
    (∀ part key, (request.at? [part, key]).isSome = true ↔
      ∃ p ∈ places, p.part = part ∧ p.key = key) ∧
    (∀ part key, (request.at? [part, key]).isSome = true →
      ∃ bad, ∀ time answer, answer.at? [part, key] = some bad →
        ∀ r, read time answer ≠ .ok r) ∧
    (∀ answer answer', Agree answer answer' → ∀ time time',
      read time' answer' = (fun r => { r with time := time' }) <$> read time answer) :=
  ⟨read_ok_iff, read_error_iff, fun _ _ _ => eq_recordOf, fun _ _ => decode_held, asked_places,
    fun _ _ => exists_unreadable, fun _ _ h => h.read_eq⟩

/-- An answer with nothing in its sections. -/
def bareAnswer : Document := .map (wanted.map fun w => (w.1, .map []))

/-- An answer with nothing in its sections that has been asked for. -/
def strayAnswer : Document :=
  .map (("FACTORY", .null) :: wanted.map fun w => (w.1, .map [("VERSION", .text "u1_")]))

theorem agree_stray : Agree bareAnswer strayAnswer where
  sections part h := by
    obtain ⟨p, hp, rfl⟩ := (asked_sections part).1 h
    revert p
    decide +kernel
  values part key h := by
    obtain ⟨p, hp, rfl, rfl⟩ := (asked_places part key).1 h
    have hnone : ∀ p ∈ places, (bareAnswer.at? [p.part, p.key]).isNone = true ∧
        (strayAnswer.at? [p.part, p.key]).isNone = true := by decide +kernel
    obtain ⟨hbare, hstray⟩ := hnone p hp
    rw [Option.isNone_iff_eq_none.1 hbare, Option.isNone_iff_eq_none.1 hstray]

theorem read_decided_stray :
    (∃ r, read (.ofNanos 0) bareAnswer = .ok r ∧
        r = recordOf (.ofNanos 0) (Place.number bareAnswer)) ∧
      decode ((⟨"FAN_SPEED", "INV_LV", none⟩ : Place).held bareAnswer) = some 0.0 ∧
      (∃ bad, ∀ time answer, answer.at? ["PV1", "MPP_CUR"] = some bad →
        ∀ r, read time answer ≠ .ok r) ∧
      read (.ofNanos 1) strayAnswer
        = (fun r => { r with time := .ofNanos 1 }) <$> read (.ofNanos 0) bareAnswer := by
  obtain ⟨hok, -, hrecord, hunmarked, -, hunreadable, hagree⟩ := read_decided
  have hsections (part : String) (h : (request.get? part).isSome = true) :
      (bareAnswer.get? part).isSome = true := by
    obtain ⟨p, hp, rfl⟩ := (asked_sections part).1 h
    revert p
    decide +kernel
  obtain ⟨r, hr⟩ := (hok (.ofNanos 0) bareAnswer).2 ⟨hsections, by decide +kernel⟩
  refine ⟨⟨r, hr, hrecord _ _ r hr⟩, hunmarked ⟨"FAN_SPEED", "INV_LV", none⟩ bareAnswer ?_,
    hunreadable _ _ (by decide +kernel), hagree _ _ agree_stray _ _⟩
  intro d hd
  have hnone : ((⟨"FAN_SPEED", "INV_LV", none⟩ : Place).found? bareAnswer).isNone = true := by
    decide +kernel
  rw [hd] at hnone
  cases hnone

end HomeEnergy.Battery
