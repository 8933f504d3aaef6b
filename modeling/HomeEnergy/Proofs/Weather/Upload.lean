import HomeEnergy.Proofs.Weather.Entry
import HomeEnergy.Proofs.Worker.Watch

/-!
# Uploads and what is made of them

A receiver answers an upload as soon as its reading is in the cache, and takes numbers in every form
in which a double can be written, words for the infinities and for the undefined number included. So
there are uploads whose entry cannot be read, and an updater that reads the entry fails before it
turns to its connection. With every other upload it goes on to write what the entry says.

## Main results

* `ModuleWatch.entry_of_accept` — the reading of an accepted upload is the entry.
* `ModuleWatch.upload_serves` — which entries can be read, and what an updater does with them.
-/

namespace HomeEnergy

open Routine (Part)

/-! ## Readings -/

section

variable {ε α β : Type} {x : Except ε α} {b : β}

theorem ok_of_bind {f : α → Except ε β} (h : (x >>= f) = .ok b) : ∃ a, x = .ok a ∧ f a = .ok b := by
  cases x with
  | error e => cases h
  | ok a => exact ⟨a, rfl, h⟩

theorem ok_of_map {f : α → β} (h : x.map f = .ok b) : ∃ a, x = .ok a ∧ f a = b := by
  cases x with
  | error e => cases h
  | ok a => exact ⟨a, rfl, Except.ok.inj h⟩

end

theorem readDigits_le {most : Nat} {beyond : NumberFault} {ds : List Char} {n k : Nat}
    (hn : n ≤ most) (h : readDigits most beyond n ds = .ok k) : k ≤ most := by
  induction ds generalizing n with
  | nil =>
      cases h
      exact hn
  | cons c rest ih =>
      simp only [readDigits] at h
      split at h
      · split at h
        · rename_i hnext
          exact ih hnext h
        · cases h
      · cases h

/-- An integer that is read fits into its bits. -/
theorem readInteger_range {bits : Nat} {text : List Char} {n : Int}
    (h : readInteger bits text = .ok n) : -(2 ^ (bits - 1)) ≤ n ∧ n < 2 ^ (bits - 1) := by
  have hpow : ((Nat.pow 2 (bits - 1) : Nat) : Int) = 2 ^ (bits - 1) := Nat.cast_pow 2 (bits - 1)
  have hpos : 0 < Nat.pow 2 (bits - 1) := Nat.two_pow_pos _
  unfold readInteger at h
  split at h
  · cases h
  · split at h
    · cases h
    · obtain ⟨_, hread, rfl⟩ := ok_of_map h
      obtain ⟨k, hk, hcast⟩ := ok_of_bind hread
      cases hcast
      have hle := readDigits_le (Nat.zero_le _) hk
      omega
    · obtain ⟨k, hk, rfl⟩ := ok_of_map h
      have hle := readDigits_le (Nat.zero_le _) hk
      show -(2 ^ (bits - 1)) ≤ (k : Int) ∧ (k : Int) < 2 ^ (bits - 1)
      omega

namespace Weather

theorem taken_of_observe {ns : Nat} {params : Parameters} {r : Record}
    (h : observe (.ofNanos ns) params = .ok r) : r.Taken := by
  unfold observe at h
  obtain ⟨direction, hdirection, h⟩ := ok_of_bind h
  iterate 12 obtain ⟨_, -, h⟩ := ok_of_bind h
  cases h
  refine ⟨Nat.mod_lt _ (by decide), ?_⟩
  unfold numberOf at hdirection
  obtain ⟨raw, -, hdirection⟩ := ok_of_bind hdirection
  split at hdirection
  · rename_i hread
    cases hdirection
    exact readInteger_range hread
  · cases hdirection

/-- The moment has nothing to do with what is read from an upload. -/
theorem observe_time (time time' : Timestamp) (params : Parameters) :
    observe time params = (fun r => { r with time }) <$> observe time' params := by
  simp [observe]

/-- What is read from the entry of a reading. -/
theorem read_entry {c : Cache} {name : String} {r : Record}
    (hentry : c.get? name = some (Json.bytes r.toDocument)) (h : r.Taken) :
    c.read name Record.ofDocument = r.again.elim (.error (.serialization "malformed record")) .ok
    := by
  unfold Cache.read
  rw [hentry]
  dsimp only
  rw [readBytes_record h]
  cases r.again <;> rfl

end Weather

namespace ModuleWatch

variable {δ : Type}

/-- What others may do around an entry of the cache: anything but replace it. -/
def SameEntry (name : String) (s t : ModuleWatch δ) : Prop :=
  t.cache.get? name = s.cache.get? name

theorem interference_sameEntry (name : String) :
    Routine.Interference (SameEntry (δ := δ) name) where
  refl _ := rfl
  trans h h' := h'.trans h

variable {settings : WeatherSettings} {k : Sink δ Weather.Record}
  {bind : String → Routine δ (Outcome Unit)} {task : Nat} {params : Weather.Parameters}
  {s s' : ModuleWatch δ}

/-- A reading that has been kept has been taken from the upload at some moment, and is the entry. -/
theorem entry_of_keep {record : Weather.Record}
    (h : ((receiver settings k bind task).keep params).EndsAmid (SameEntry settings.name) s
      (.ok record) s') :
    (∃ ns, Weather.observe (.ofNanos ns) params = .ok record) ∧
      s'.cache.get? settings.name = some (Json.bytes record.toDocument) := by
  have hinterference := interference_sameEntry (δ := δ) settings.name
  obtain ⟨time, t, hmoment, h⟩ := (Routine.endsAmid_do hinterference).1 h
  obtain ⟨ns, rfl, -⟩ := hmoment
  cases hread : Weather.observe (.ofNanos ns) params with
  | error f =>
      rw [hread] at h
      cases h.1
  | ok taken =>
      rw [hread] at h
      obtain ⟨stored, u, hstore, h⟩ := (Routine.endsAmid_do hinterference).1 h
      obtain ⟨_, v, hput, hstored⟩ := (Routine.endsAmid_do hinterference).1 hstore
      obtain ⟨w, -, hafter⟩ := Routine.endsAmid_change.1 hput
      obtain ⟨rfl, hstored⟩ := hstored
      obtain ⟨hrecord, hlast⟩ := h
      cases hrecord
      have hentry : (w.cache.put settings.name (Json.bytes record.toDocument)).get? settings.name
          = some (Json.bytes record.toDocument) := by
        rw [Cache.get?_put, if_pos rfl]
      have hrest := hinterference.trans hafter (hinterference.trans hstored hlast)
      exact ⟨⟨ns, hread⟩, hrest.trans hentry⟩

/-- The reading of an accepted upload is the entry. -/
theorem entry_of_accept
    (h : ((receiver settings k bind task).accept params).EndsAmid (SameEntry settings.name) s
      (.ok ()) s') :
    ∃ ns record, Weather.observe (.ofNanos ns) params = .ok record ∧
      s'.cache.get? settings.name = some (Json.bytes record.toDocument) := by
  have hinterference := interference_sameEntry (δ := δ) settings.name
  obtain ⟨kept, t, hkeep, h⟩ := (Routine.endsAmid_do hinterference).1 h
  cases kept with
  | error f =>
      obtain ⟨_, u, _, h⟩ := (Routine.endsAmid_do hinterference).1 h
      cases h.1
  | ok record =>
      obtain ⟨_, u, hwrite, h⟩ := (Routine.endsAmid_do hinterference).1 h
      obtain ⟨_, v, hcount, h⟩ := (Routine.endsAmid_do hinterference).1 h
      obtain ⟨⟨ns, hread⟩, hentry⟩ := entry_of_keep hkeep
      have hdevice : ∀ (f : δ → δ) (w : ModuleWatch δ),
          SameEntry settings.name w (devicePart.modify f w) := fun _ _ => rfl
      have hsink : SameEntry settings.name t u :=
        Routine.amid_of_endsAmid_within hinterference hdevice hwrite
      obtain ⟨w, hbefore, hafter⟩ := Routine.endsAmid_change.1 hcount
      have hcounted : SameEntry settings.name w v := hafter
      have hrest : SameEntry settings.name t s' :=
        hinterference.trans hsink (hinterference.trans hbefore (hinterference.trans hcounted h.2))
      exact ⟨ns, record, hread, hrest.trans hentry⟩

/-- What the entry of a reading is to those who come for it. -/
structure Serves (others : ModuleWatch δ → ModuleWatch δ → Prop) (name : String)
    (record : Weather.Record) (s : ModuleWatch δ) : Prop where
  decodes : (∃ r, s.cache.read name Weather.Record.ofDocument = .ok r) ↔ record.Readable
  /-- An updater goes on to its connection with the room temperature as it reads again. -/
  written {S : Type} {rooms : RoomSettings} {link : ModbusLink (ModuleWatch δ) S}
    {answer : Outcome Unit} {t : ModuleWatch δ} : record.Readable → rooms.source = name →
    (Heating.rooms rooms link ledger.cache).apply.EndsAmid others s answer t →
    ∃ r, record.again = some r ∧
      (link.execute fun session => Heating.writeEach link.controller session
        (Heating.roomWord r.indoor.temperature) Heating.roomRegisters).EndsAmid others s answer t
  /-- An updater fails without having turned to its connection. -/
  refused {S : Type} {rooms : RoomSettings} {link : ModbusLink (ModuleWatch δ) S}
    {answer : Outcome Unit} {t : ModuleWatch δ} : ¬ record.Readable → rooms.source = name →
    (Heating.rooms rooms link ledger.cache).apply.EndsAmid others s answer t →
    answer = .error (.serialization "malformed record") ∧ others s t

variable {others : ModuleWatch δ → ModuleWatch δ → Prop}

/-- What an updater does is decided by the entry that it looks at. -/
theorem ends_rooms (ho : Routine.Interference others) {S : Type} {rooms : RoomSettings}
    {link : ModbusLink (ModuleWatch δ) S} {answer : Outcome Unit} {t : ModuleWatch δ}
    (h : (Heating.rooms rooms link ledger.cache).apply.EndsAmid others s answer t) :
    ∃ u, others s u ∧
      match u.cache.read rooms.source Weather.Record.ofDocument with
      | .error f => answer = .error f ∧ others u t
      | .ok r => (link.execute fun session => Heating.writeEach link.controller session
          (Heating.roomWord r.indoor.temperature) Heating.roomRegisters).EndsAmid others u answer t
    := by
  obtain ⟨_, u, ⟨v, hv, rfl, hu⟩, h⟩ := (Routine.endsAmid_do ho).1 h
  refine ⟨v, hv, ?_⟩
  have hcache : (ledger.cache.get v).read rooms.source Weather.Record.ofDocument
      = v.cache.read rooms.source Weather.Record.ofDocument := rfl
  rw [hcache] at h
  cases hread : v.cache.read rooms.source Weather.Record.ofDocument with
  | error f =>
      rw [hread] at h
      obtain ⟨hanswer, ht⟩ := h
      exact ⟨hanswer.symm, ho.trans hu ht⟩
  | ok r =>
      rw [hread] at h
      exact h.before ho hu

/-- An undisturbed updater fails with the fault of its entry. -/
theorem alone_rooms {S : Type} {rooms : RoomSettings} {link : ModbusLink (ModuleWatch δ) S}
    {f : Fault} (h : s.cache.read rooms.source Weather.Record.ofDocument = .error f) (t : Nat) :
    ((Heating.rooms rooms link ledger.cache).apply.alone t s).1 = .error f := by
  obtain ⟨_, rfl, hends⟩ := ends_rooms Routine.interference_eq
    (Routine.endsAmid_alone Routine.interference_eq
      (Heating.rooms rooms link ledger.cache).apply t s)
  rw [h] at hends
  exact hends.1

/-- The entry of an accepted upload, as long as others leave it alone. -/
theorem upload_serves (ho : Routine.Interference others)
    (hentry : ∀ s t, others s t → SameEntry settings.name s t)
    (h : ((receiver settings k bind task).accept params).EndsAmid others s (.ok ()) s') :
    ∃ ns record, Weather.observe (.ofNanos ns) params = .ok record ∧
      Serves others settings.name record s' := by
  obtain ⟨ns, record, hobserve, hbytes⟩ := entry_of_accept (h.imp hentry)
  have htaken := Weather.taken_of_observe hobserve
  have hlater : ∀ u, others s' u → u.cache.read settings.name Weather.Record.ofDocument =
      record.again.elim (.error (.serialization "malformed record")) .ok := fun u hu =>
    Weather.read_entry ((hentry s' u hu).trans hbytes) htaken
  have hreadable := Weather.Record.again_isSome_iff htaken
  refine ⟨ns, record, hobserve, ?_, ?_, ?_⟩
  · rw [hlater s' (ho.refl s'), ← hreadable]
    cases record.again with
    | none =>
        constructor
        · rintro ⟨r, hr⟩
          cases hr
        · intro hsome
          cases hsome
    | some r => exact ⟨fun _ => rfl, fun _ => ⟨r, rfl⟩⟩
  · intro S rooms link answer t hr hname hends
    obtain ⟨r, hagain⟩ := Option.isSome_iff_exists.1 (hreadable.2 hr)
    obtain ⟨u, hu, hends⟩ := ends_rooms ho hends
    rw [hname, hlater u hu, hagain] at hends
    exact ⟨r, hagain, hends.before ho hu⟩
  · intro S rooms link answer t hr hname hends
    have hlost : record.again = none :=
      Option.not_isSome_iff_eq_none.1 fun hsome => hr (hreadable.1 hsome)
    obtain ⟨u, hu, hends⟩ := ends_rooms ho hends
    rw [hname, hlater u hu, hlost] at hends
    exact ⟨hends.1, ho.trans hu hends.2⟩

/-- An upload with a reading of the sun, all else being ordinary. -/
def sunny (uv : String) : Weather.Parameters :=
  [("tempf", "50"), ("humidity", "81"), ("dewptf", "32"), ("windspeedmph", "10"),
    ("windgustmph", "0"), ("winddir", "225"), ("rainin", "0.1"), ("dailyrainin", "1"),
    ("baromin", "29.92"), ("solarradiation", "112.5"), ("UV", uv), ("indoortempf", "71.6"),
    ("indoorhumidity", "44")]

/-- What becomes of such an upload to a receiver that has had none. -/
def sunnyReceived (uv : String) : Outcome Unit × Nat × ModuleWatch Unit :=
  ((receiver {} Sink.discard (fun _ => pure (.ok ())) 0).accept (sunny uv)).alone
    1714564800000000000 { worker := { name := "weather" }, device := () }

theorem upload_serves_sunny :
    (sunnyReceived "3.2").1 = .ok () ∧
      ∃ ns record, Weather.observe (.ofNanos ns) (sunny "3.2") = .ok record ∧
        Serves (SameEntry "weather") "weather" record (sunnyReceived "3.2").2.2 := by
  have haccepted : (sunnyReceived "3.2").1 = .ok () := by decide +kernel
  have hinterference := interference_sameEntry (δ := Unit) "weather"
  have hends := Routine.endsAmid_alone hinterference
    ((receiver {} Sink.discard (fun _ => pure (.ok ())) 0).accept (sunny "3.2"))
    1714564800000000000 { worker := { name := "weather" }, device := () }
  exact ⟨haccepted, upload_serves hinterference (fun _ _ h => h) (haccepted ▸ hends)⟩

/-- An undefined number is taken for the sun, and neither the entry can be read nor its updater
fulfil its task. -/
theorem upload_lost :
    (sunnyReceived "nan").1 = .ok () ∧
      (∀ r, (sunnyReceived "nan").2.2.cache.read "weather" Weather.Record.ofDocument ≠ .ok r) ∧
      ∀ (S : Type) (link : ModbusLink (ModuleWatch Unit) S) (ns : Nat),
        ((Heating.rooms {} link ledger.cache).apply.alone ns (sunnyReceived "nan").2.2).1
          = .error (.serialization "malformed record") := by
  have haccepted : (sunnyReceived "nan").1 = .ok () := by decide +kernel
  have hends := Routine.endsAmid_alone (interference_sameEntry (δ := Unit) "weather")
    ((receiver {} Sink.discard (fun _ => pure (.ok ())) 0).accept (sunny "nan"))
    1714564800000000000 { worker := { name := "weather" }, device := () }
  obtain ⟨ns, record, hobserve, hbytes⟩ :=
    @entry_of_accept Unit {} Sink.discard _ _ _ _ _ (haccepted ▸ hends)
  have hundefined : (Weather.observe (.ofNanos 0) (sunny "nan")).toOption.map (·.uv.isFinite)
      = some false := by decide +kernel
  have huv : record.uv.isFinite = false := by
    rw [Weather.observe_time _ (.ofNanos ns), hobserve] at hundefined
    exact Option.some.inj hundefined
  have htaken := Weather.taken_of_observe hobserve
  have hlost : record.again = none := by
    refine Option.not_isSome_iff_eq_none.1 fun hsome => ?_
    have hfinite := ((Weather.Record.again_isSome_iff htaken).1 hsome).finite record.uv
      List.mem_cons_self
    rw [huv] at hfinite
    cases hfinite
  have hread : (sunnyReceived "nan").2.2.cache.read "weather" Weather.Record.ofDocument
      = .error (.serialization "malformed record") := by
    have hentry := Weather.read_entry hbytes htaken
    rw [hlost] at hentry
    exact hentry
  refine ⟨haccepted, ?_, ?_⟩
  · intro r hr
    rw [hread] at hr
    cases hr
  · intro S link t
    exact @alone_rooms Unit (sunnyReceived "nan").2.2 S {} link _ hread t

end ModuleWatch

end HomeEnergy
