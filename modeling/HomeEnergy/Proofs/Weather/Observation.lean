import HomeEnergy.Proofs.Fault.First
import HomeEnergy.Proofs.Polling.Kept
import HomeEnergy.Proofs.Weather.Upload

/-!
# Uploads, accepted and rejected

Thirteen parameters are read from an upload, one after the other, and the first that is absent or
malformed decides the fault, whatever the later ones are. A receiver that rejects an upload does
nothing but count it. One that accepts an upload replaces its entry of the cache, hands the reading
to its sink and counts a success, whatever the sink makes of it.

## Main results

* `Weather.observe_eq` — the first parameter at fault decides.
* `Weather.observe_congr` — other parameters make no difference.
* `PollerWatch.ends_accept` — what an upload leaves behind, rejected or accepted.
-/

namespace HomeEnergy

open Routine (Part)

namespace Weather

/-! ## Parameters -/

/-- The value that an upload gives a parameter. -/
def given (params : Parameters) (key : String) : Option String :=
  (params.reverse.find? (·.1 == key)).map (·.2)

section

variable {α : Type} (read : List Char → Except NumberFault α) (params : Parameters) (key : String)

/-- The fault of a parameter: it is absent, or its trimmed value cannot be read. -/
def faultOf : Option Fault :=
  match given params key with
  | none => some (.missingField device key)
  | some raw =>
    match read (Text.trim raw.toList) with
    | .ok _ => none
    | .error e =>
      some (.protocol device ("invalid " ++ key ++ " " ++ Text.quoted raw ++ ": " ++ e.message))

/-- The number that a parameter gives, if it has no fault. -/
def numberGiven [Inhabited α] : α :=
  ((given params key).bind fun raw => (read (Text.trim raw.toList)).toOption).getD default

/-- A parameter is there and can be read. -/
def Sound : Prop :=
  ∃ raw x, given params key = some raw ∧ read (Text.trim raw.toList) = .ok x

theorem faultOf_eq_none_iff : faultOf read params key = none ↔ Sound read params key := by
  unfold faultOf Sound
  cases given params key with
  | none => simp
  | some raw => cases h : read (Text.trim raw.toList) <;> simp [h]

theorem numberOf_eq [Inhabited α] : numberOf read params key =
    Outcome.first [faultOf read params key] (numberGiven read params key) := by
  unfold numberOf parameter faultOf numberGiven given
  cases params.reverse.find? (·.1 == key) with
  | none => rfl
  | some found =>
      show (match read (Text.trim found.2.toList) with
        | .ok x => Except.ok x
        | .error e => _) = _
      cases h : read (Text.trim found.2.toList) <;> simp [Outcome.first, h, Except.toOption]

end

/-! ## Readings -/

/-- The parameter that is a whole number. It is read first. -/
def directionKey : String := "winddir"

/-- The parameters that are decimal numbers, in the order in which they are read. -/
def numberKeys : List String :=
  ["UV", "baromin", "dailyrainin", "dewptf", "tempf", "humidity", "indoortempf", "indoorhumidity",
    "rainin", "solarradiation", "windgustmph", "windspeedmph"]

/-- All parameters that are read, in their order. -/
def keys : List String := directionKey :: numberKeys

/-- The fault of a parameter that is read. -/
def faultAt (params : Parameters) (key : String) : Option Fault :=
  if key = directionKey then faultOf (readInteger 32) params key else faultOf readFloat params key

theorem map_faultAt (params : Parameters) : keys.map (faultAt params) =
    faultOf (readInteger 32) params directionKey :: numberKeys.map (faultOf readFloat params) := by
  have hne : ∀ key ∈ numberKeys, key ≠ directionKey := by decide
  have htail : numberKeys.map (faultAt params) = numberKeys.map (faultOf readFloat params) :=
    List.map_congr_left fun key hkey => if_neg (hne key hkey)
  unfold keys
  rw [List.map_cons, htail]
  rfl

/-- The record of given numbers. -/
def recordOf (time : Timestamp) (direction : Int) (x : String → Float) : Record where
  time
  uv := x "UV"
  barometer := millimetres (x "baromin") * hectopascals
  dailyRain := millimetres (x "dailyrainin")
  dewPoint := celsius (x "dewptf")
  outdoor := ⟨celsius (x "tempf"), x "humidity"⟩
  indoor := ⟨celsius (x "indoortempf"), x "indoorhumidity"⟩
  rain := millimetres (x "rainin")
  radiation := x "solarradiation"
  wind := ⟨direction, metresPerSecond (x "windgustmph"), metresPerSecond (x "windspeedmph")⟩

theorem bind_numberOf {α β : Type} [Inhabited α] {read : List Char → Except NumberFault α}
    {params : Parameters} {key : String} {k : α → Outcome β} {more : List (Option Fault)} {b : β}
    (h : k (numberGiven read params key) = Outcome.first more b) :
    (numberOf read params key >>= k) = Outcome.first (faultOf read params key :: more) b :=
  Outcome.bind_first (numberOf_eq read params key) h

/-- The first parameter that is at fault decides. -/
theorem observe_eq (time : Timestamp) (params : Parameters) : observe time params =
    Outcome.first (keys.map (faultAt params))
      (recordOf time (numberGiven (readInteger 32) params directionKey)
        fun key => numberGiven readFloat params key) := by
  rw [map_faultAt]
  unfold observe
  iterate 13 refine bind_numberOf ?_
  rfl

/-- There is a reading if all parameters can be read. -/
theorem observe_ok_iff (time : Timestamp) (params : Parameters) :
    (∃ r, observe time params = .ok r) ↔
      Sound (readInteger 32) params directionKey ∧
        ∀ key ∈ numberKeys, Sound readFloat params key := by
  rw [observe_eq, map_faultAt]
  simp only [Outcome.first_eq_ok, exists_and_left, exists_eq', and_true, List.forall_mem_cons,
    List.forall_mem_map, faultOf_eq_none_iff]

/-- A reading is made of the numbers of the parameters. -/
theorem eq_recordOf {time : Timestamp} {params : Parameters} {record : Record}
    (h : observe time params = .ok record) :
    record = recordOf time (numberGiven (readInteger 32) params directionKey)
      fun key => numberGiven readFloat params key := by
  rw [observe_eq, Outcome.first_eq_ok] at h
  exact h.2.symm

/-- A fault is that of the first parameter at fault. -/
theorem observe_error_iff (time : Timestamp) (params : Parameters) (f : Fault) :
    observe time params = .error f ↔ ∃ before key after, keys = before ++ key :: after ∧
      faultAt params key = some f ∧ ∀ other ∈ before, faultAt params other = none := by
  rw [observe_eq, Outcome.first_eq_error]

/-- A record is made of the numbers of the parameters that are read. -/
theorem recordOf_congr (time : Timestamp) (direction : Int) {x y : String → Float}
    (h : ∀ key ∈ numberKeys, x key = y key) :
    recordOf time direction x = recordOf time direction y := by
  have honly (z : String → Float) : recordOf time direction z =
      recordOf time direction fun key => if key ∈ numberKeys then z key else 0.0 := rfl
  rw [honly x, honly y]
  congr 1
  funext key
  split_ifs with hkey
  · exact h key hkey
  · rfl

/-- Only the parameters that are read make a difference. -/
theorem observe_congr (time : Timestamp) {params params' : Parameters}
    (h : ∀ key ∈ keys, given params key = given params' key) :
    observe time params = observe time params' := by
  obtain ⟨hdirection, hnumbers⟩ := List.forall_mem_cons.1 h
  have hfaults : keys.map (faultAt params) = keys.map (faultAt params') := by
    refine List.map_congr_left fun key hkey => ?_
    unfold faultAt faultOf
    rw [h key hkey]
  have hrecord := recordOf_congr time (numberGiven (readInteger 32) params directionKey)
    (x := fun key => numberGiven readFloat params key)
    (y := fun key => numberGiven readFloat params' key) fun key hkey => by
      unfold numberGiven
      rw [hnumbers key hkey]
  rw [observe_eq, observe_eq, hfaults, hrecord]
  unfold numberGiven
  rw [hdirection]

end Weather

namespace PollerWatch

variable {δ : Type}

/-! ## Receivers -/

/-- A receiver under watch. -/
def receiver (settings : WeatherSettings) (k : Sink δ Weather.Record)
    (bind : String → Routine (PollerWatch δ Weather.Record) (Outcome Unit))
    (listening : Part (PollerWatch δ Weather.Record) Bool) (task : Nat) :
    Receiver (PollerWatch δ Weather.Record) where
  settings
  sink := sink settings.name k
  ledger
  bind
  listening
  worker := ⟨PollerWatch.worker, fun v w => { w with worker := v }⟩
  task

/-- What a rejected upload leaves behind: the count of one failure. -/
structure Rejected (name : String) (spared : String → Prop) (f : Fault)
    (w : PollerWatch δ Weather.Record) (answer : Outcome Unit)
    (w' : PollerWatch δ Weather.Record) : Prop where
  returned : answer = .error f
  deeds : w'.deeds = w.deeds
  entries : ∀ m, m = name ∨ spared m → w'.cache.get? m = w.cache.get? m
  failures : w'.metrics.queryCount name "failure" = w.metrics.queryCount name "failure" + 1
  successes : w'.metrics.queryCount name "success" = w.metrics.queryCount name "success"

/-- What an accepted upload leaves behind: its reading in the cache and with the sink, and the count
of one success. -/
structure Accepted (name : String) (spared : String → Prop) (record : Weather.Record)
    (w : PollerWatch δ Weather.Record) (answer : Outcome Unit)
    (w' : PollerWatch δ Weather.Record) : Prop where
  returned : answer = .ok ()
  /-- The cache held the reading when the sink got it. The sink may answer what it likes. -/
  deeds : ∃ stored, w'.deeds =
    w.deeds ++ [.handed record (some (Json.bytes record.toDocument)), .answered stored]
  entry : w'.cache.get? name = some (Json.bytes record.toDocument)
  others : ∀ m, spared m → m ≠ name → w'.cache.get? m = w.cache.get? m
  failures : w'.metrics.queryCount name "failure" = w.metrics.queryCount name "failure"
  successes : w'.metrics.queryCount name "success" = w.metrics.queryCount name "success" + 1

variable {settings : WeatherSettings} {k : Sink δ Weather.Record}
  {bind : String → Routine (PollerWatch δ Weather.Record) (Outcome Unit)}
  {listening : Part (PollerWatch δ Weather.Record) Bool} {task : Nat} {spared : String → Prop}
  {params : Weather.Parameters} {w w' : PollerWatch δ Weather.Record} {answer : Outcome Unit}

theorem queryCount_counted (w : PollerWatch δ Weather.Record) (name : String) (r : QueryResult)
    (t : String) : (w.counted name r).metrics.queryCount name t
      = w.metrics.queryCount name t + if t = r.name then 1 else 0 := by
  show (w.metrics.countQuery name r).queryCount name t = _
  rw [Metrics.queryCount_countQuery]
  simp

theorem rejected_of_apart {name : String} {f : Fault}
    (h : Apart name spared (w.counted name .failure) w') :
    Rejected name spared f w (.error f) w' where
  returned := rfl
  deeds := h.deeds
  entries m hm := by
    rcases hm with rfl | hm
    · exact h.entry
    · exact h.others m hm
  failures := (h.counts "failure").trans (queryCount_counted w name .failure "failure")
  successes := (h.counts "success").trans (queryCount_counted w name .failure "success")

theorem accepted_of_apart {name : String} {record : Weather.Record} {stored : Outcome Unit}
    (h : Apart name spared (((((w.stored name (Json.bytes record.toDocument)).note
      (.handed record (some (Json.bytes record.toDocument)))).note (.answered stored))).counted name
        .success) w') :
    Accepted name spared record w (.ok ()) w' where
  returned := rfl
  deeds := by
    refine ⟨stored, h.deeds.trans ?_⟩
    show (w.deeds ++ [_]) ++ [_] = _
    rw [List.append_assoc]
    rfl
  entry := by
    refine h.entry.trans ?_
    show (w.cache.put name _).get? name = _
    rw [Cache.get?_put, if_pos rfl]
  others m hm hne := by
    refine (h.others m hm).trans ?_
    show (w.cache.put name _).get? m = _
    rw [Cache.get?_put, if_neg hne]
  failures := (h.counts "failure").trans (queryCount_counted _ name .success "failure")
  successes := (h.counts "success").trans (queryCount_counted _ name .success "success")

/-- Whether an upload is rejected or accepted is decided by what can be read from it. -/
theorem ends_accept
    (h : ((receiver settings k bind listening task).accept params).EndsAmid
      (Apart settings.name spared) w answer w') :
    ∃ ns, match Weather.observe (.ofNanos ns) params with
      | .error f => Rejected settings.name spared f w answer w'
      | .ok record => Accepted settings.name spared record w answer w' := by
  obtain ⟨kept, w₁, hkeep, h⟩ := (Routine.endsAmid_do interference_apart).1 h
  obtain ⟨time, w₂, ⟨ns, rfl, hmoment⟩, hkeep⟩ := (Routine.endsAmid_do interference_apart).1 hkeep
  refine ⟨ns, ?_⟩
  cases hread : Weather.observe (.ofNanos ns) params with
  | error f =>
      rw [hread] at hkeep
      obtain ⟨rfl, hkept⟩ := hkeep
      obtain ⟨_, w₃, hcount, rfl, hafter⟩ := (Routine.endsAmid_do interference_apart).1 h
      obtain ⟨u, hbefore, hcounted⟩ := Routine.endsAmid_change.1 hcount
      exact rejected_of_apart ((((hmoment.trans hkept).trans hbefore).counted .failure).trans
        (hcounted.trans hafter))
  | ok record =>
      rw [hread] at hkeep
      obtain ⟨_, w₃, hstore, hkept⟩ := (Routine.endsAmid_do interference_apart).1 hkeep
      obtain ⟨_, w₄, hput, rfl, hstored⟩ := (Routine.endsAmid_do interference_apart).1 hstore
      obtain ⟨rfl, hkept⟩ := hkept
      obtain ⟨u₁, hu₁, hw₄⟩ := Routine.endsAmid_change.1 hput
      -- All that others have done so far is moved behind the new entry.
      have hentered := ((hmoment.trans hu₁).stored (Json.bytes record.toDocument)).trans
        ((hw₄.trans hstored).trans hkept)
      obtain ⟨stored, w₅, hwrite, h⟩ := (Routine.endsAmid_do interference_apart).1 h
      obtain ⟨u₂, u₃, hu₂, hu₃, hw₅⟩ := ends_write hwrite
      have hheld := hentered.trans hu₂
      have hentry : u₂.cache.get? settings.name = some (Json.bytes record.toDocument) := by
        rw [hheld.entry]
        show (w.cache.put settings.name _).get? settings.name = _
        rw [Cache.get?_put, if_pos rfl]
      rw [hentry] at hu₃
      have hhanded := (hheld.note (.handed record (some (Json.bytes record.toDocument)))).trans hu₃
      have hanswered := (hhanded.note (.answered stored)).trans hw₅
      obtain ⟨_, w₆, hcount, rfl, hafter⟩ := (Routine.endsAmid_do interference_apart).1 h
      obtain ⟨u₄, hu₄, hw₆⟩ := Routine.endsAmid_change.1 hcount
      exact accepted_of_apart (((hanswered.trans hu₄).counted .success).trans (hw₆.trans hafter))

/-- What is read from an upload, and what a receiver does with it. -/
theorem upload_decided :
    (∀ time params, (∃ record, Weather.observe time params = .ok record) ↔
      Weather.Sound (readInteger 32) params Weather.directionKey ∧
        ∀ key ∈ Weather.numberKeys, Weather.Sound readFloat params key) ∧
    (∀ time params f, Weather.observe time params = .error f ↔
      ∃ before key after, Weather.keys = before ++ key :: after ∧
        Weather.faultAt params key = some f ∧
          ∀ other ∈ before, Weather.faultAt params other = none) ∧
    (∀ time params record, Weather.observe time params = .ok record → record =
      Weather.recordOf time (Weather.numberGiven (readInteger 32) params Weather.directionKey)
        fun key => Weather.numberGiven readFloat params key) ∧
    (∀ time params params',
      (∀ key ∈ Weather.keys, Weather.given params key = Weather.given params' key) →
        Weather.observe time params = Weather.observe time params') ∧
    ∀ (δ : Type) (settings : WeatherSettings) (k : Sink δ Weather.Record)
      (bind : String → Routine (PollerWatch δ Weather.Record) (Outcome Unit))
      (listening : Part (PollerWatch δ Weather.Record) Bool) (task : Nat) (spared : String → Prop)
      (params : Weather.Parameters) (w : PollerWatch δ Weather.Record),
      (∃ answer w', ((receiver settings k bind listening task).accept params).EndsAmid
        (Apart settings.name spared) w answer w') ∧
      ∀ answer w', ((receiver settings k bind listening task).accept params).EndsAmid
        (Apart settings.name spared) w answer w' →
        ∃ ns, match Weather.observe (.ofNanos ns) params with
          | .error f => Rejected settings.name spared f w answer w'
          | .ok record => Accepted settings.name spared record w answer w' :=
  ⟨Weather.observe_ok_iff, Weather.observe_error_iff, fun _ _ _ => Weather.eq_recordOf,
    fun time _ _ => Weather.observe_congr time,
    fun _ _ _ _ _ _ _ _ _ =>
      ⟨⟨_, _, Routine.endsAmid_alone interference_apart _ 0 _⟩, fun _ _ => ends_accept⟩⟩

/-- A sink that takes nothing. -/
def fullSink : Sink Unit Weather.Record :=
  ⟨pure (.ok ()), fun _ => pure (.error (.persistence "full"))⟩

/-- A receiver that has had no upload. -/
def freshReceiver : PollerWatch Unit Weather.Record where
  worker := { name := "weather" }
  device := ()

/-- What becomes of an upload to it. -/
def freshReceived (params : Weather.Parameters) :
    Outcome Unit × Nat × PollerWatch Unit Weather.Record :=
  ((receiver {} fullSink (fun _ => pure (.ok ())) ⟨fun _ => true, fun _ w => w⟩ 0).accept
    params).alone 0 freshReceiver

open ModuleWatch (sunny)

theorem upload_decided_sunny :
    (∃ ns record, record = Weather.recordOf (.ofNanos ns) 225
        (fun key => Weather.numberGiven readFloat (sunny "3.2") key) ∧
      Accepted "weather" (fun _ => True) record freshReceiver
        (freshReceived (sunny "3.2")).1 (freshReceived (sunny "3.2")).2.2) ∧
    Rejected "weather" (fun _ => True)
      (.protocol "weather" "invalid UV \"high\": invalid float literal") freshReceiver
      (freshReceived (sunny "high")).1 (freshReceived (sunny "high")).2.2 ∧
    Weather.observe (.ofNanos 0) (("softwaretype", "x") :: sunny "3.2")
      = Weather.observe (.ofNanos 0) (sunny "3.2") := by
  obtain ⟨hok, -, hrecordOf, hcongr, haccept⟩ := upload_decided
  have hends := fun params => (haccept Unit {} fullSink (fun _ => pure (.ok ()))
    ⟨fun _ => true, fun _ w => w⟩ 0 (fun _ => True) params freshReceiver).2 _ _
    (Routine.endsAmid_alone interference_apart _ 0 freshReceiver)
  refine ⟨?_, ?_, hcongr _ _ _ (by decide)⟩
  · obtain ⟨ns, hns⟩ := hends (sunny "3.2")
    have hread : (Weather.observe (.ofNanos 0) (sunny "3.2")).toOption.isSome = true := by
      decide +kernel
    have hsound : ∃ record, Weather.observe (.ofNanos 0) (sunny "3.2") = .ok record := by
      cases h : Weather.observe (.ofNanos 0) (sunny "3.2") with
      | error f =>
          rw [h] at hread
          cases hread
      | ok record => exact ⟨record, rfl⟩
    obtain ⟨record, hrecord⟩ := (hok (.ofNanos ns) _).2 ((hok (.ofNanos 0) _).1 hsound)
    rw [hrecord] at hns
    exact ⟨ns, record, hrecordOf _ _ _ hrecord, hns⟩
  · obtain ⟨ns, hns⟩ := hends (sunny "high")
    have hfault : Weather.observe (.ofNanos ns) (sunny "high")
        = .error (.protocol "weather" "invalid UV \"high\": invalid float literal") := rfl
    rw [hfault] at hns
    exact hns

end PollerWatch

end HomeEnergy
