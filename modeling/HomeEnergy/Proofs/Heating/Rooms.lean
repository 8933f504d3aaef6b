import HomeEnergy.Proofs.Document.RoundTrip
import HomeEnergy.Proofs.Heating.Query
import HomeEnergy.Proofs.Modbus.Life

/-!
# Writing the room temperature

An update looks at the cache first. Without a reading in it nothing happens to the connection. With
a reading the word for the room temperature goes into one register after the other, in one use of
the connection, up to the first write that fails. If that is a fault of the way to the controller,
the session is lost, also to those who share the connection.

## Main results

* `Heating.Written` — the writes of one update.
* `Heating.ends_writeEach` — writing makes no other requests.
* `Heating.rooms_decided` — an update, in all cases, and what it means for the next use.
-/

namespace HomeEnergy.Heating

variable {δ S : Type} {settings : ModbusSettings} {c : Controller δ S}

/-- The register and the word of a request that writes a single word. -/
def Exchange.target? : Exchange S → Option (Nat × UInt16)
  | writeSingle _ address word _ => some (address, word)
  | connect _ | readHolding .. | readInput .. | writeMultiple .. => none

/-- The writes of a word into registers, one after the other, with what comes of them. -/
inductive Written (s : S) (word : UInt16) :
    List Nat → List (Exchange S) → Outcome Unit → Prop where
  | done : Written s word [] [] (.ok ())
  | failed {address : Nat} {rest : List Nat} {f : Fault} :
      Written s word (address :: rest) [.writeSingle s address word (.error f)] (.error f)
  | accepted {address : Nat} {rest : List Nat} {writes : List (Exchange S)} {r : Outcome Unit}
      (more : Written s word rest writes r) :
      Written s word (address :: rest) (.writeSingle s address word (.ok ()) :: writes) r

namespace Written

variable {s : S} {word : UInt16} {addresses : List Nat} {writes : List (Exchange S)}
  {r : Outcome Unit}

/-- No register is left out, and no other word is written. -/
theorem targets (h : Written s word addresses writes r) :
    writes.map Exchange.target? <+: addresses.map fun a => some (a, word) := by
  induction h with
  | done => exact List.prefix_rfl
  | failed => exact List.cons_prefix_cons.2 ⟨rfl, List.nil_prefix⟩
  | accepted _ ih => exact List.cons_prefix_cons.2 ⟨rfl, ih⟩

/-- Everything is well if and only if each register has taken the word. -/
theorem ok_iff (h : Written s word addresses writes r) :
    r = .ok () ↔ writes = addresses.map fun a => .writeSingle s a word (.ok ()) := by
  induction h with
  | done => exact ⟨fun _ => rfl, fun _ => rfl⟩
  | failed => constructor <;> intro heq <;> cases heq
  | accepted _ ih =>
      rw [ih, List.map_cons, List.cons.injEq]
      exact ⟨fun hmore => ⟨rfl, hmore⟩, fun hboth => hboth.2⟩

/-- A write that fails is the last one. -/
theorem stops (h : Written s word addresses writes r) {t : S} {address : Nat} {v : UInt16}
    {f : Fault} (hmem : .writeSingle t address v (.error f) ∈ writes) :
    writes.getLast? = some (.writeSingle t address v (.error f)) ∧ r = .error f := by
  induction h with
  | done => exact absurd hmem List.not_mem_nil
  | failed =>
      cases List.mem_singleton.1 hmem
      exact ⟨rfl, rfl⟩
  | @accepted a rest more _ _ ih =>
      rcases List.mem_cons.1 hmem with heq | hmem
      · cases heq
      · obtain ⟨hlast, hr⟩ := ih hmem
        refine ⟨?_, hr⟩
        rw [List.getLast?_cons, hlast]
        rfl

end Written

theorem ends_writeSingle {s : Numbered S} {address : Nat} {word : UInt16} {w w' : Plant δ S}
    {r : Outcome Unit}
    (h : ((link settings c).controller.writeSingle s address word).Ends w r w') :
    w'.status = w.status ∧ Bus.Made [.writeSingle s.handle address word r] w.device w'.device := by
  obtain ⟨b, hb, rfl⟩ := (Routine.ends_within ModbusWatch.devicePart_lawful).1 h
  exact ⟨rfl, Bus.made_of_recorded hb⟩

/-- The writes of an update leave the connection alone. -/
theorem ends_writeEach {s : Numbered S} {word : UInt16} {addresses : List Nat} {w w' : Plant δ S}
    {r : Outcome Unit}
    (h : (writeEach (link settings c).controller s word addresses).Ends w r w') :
    ∃ writes, Written s.handle word addresses writes r ∧ w'.status = w.status ∧
      Bus.Made writes w.device w'.device := by
  induction addresses generalizing w with
  | nil =>
      obtain ⟨rfl, rfl⟩ := h
      exact ⟨[], .done, rfl, .none _⟩
  | cons address rest ih =>
      obtain ⟨o, w₁, hwrite, hrest⟩ := Routine.ends_do.1 h
      obtain ⟨hstatus, hmade⟩ := ends_writeSingle hwrite
      cases o with
      | error f =>
          obtain ⟨rfl, rfl⟩ := hrest
          exact ⟨_, .failed, hstatus, hmade⟩
      | ok u =>
          obtain ⟨writes, hwritten, hstatus', hmade'⟩ := ih hrest
          exact ⟨_, .accepted hwritten, hstatus'.trans hstatus, hmade.append hmade'⟩

/-! ## Updates -/

/-- The ways in which an update ends that has a word to write, with the requests by which it comes
to its session and its writes. -/
inductive Writes (settings : ModbusSettings) (word : UInt16) (w : Plant δ S) :
    List (Exchange S) → List (Exchange S) → Outcome Unit → Plant δ S → Prop where
  | uninitialized (flag : w.status.initialized = false) :
      Writes settings word w [] [] (.error (.notInitialized settings.name)) w
  | unserved {before : List (Exchange S)} {f : Fault} {w' : Plant δ S}
      (flag : w.status.initialized = true)
      (approach : Approaches settings (held w) before (.error f))
      (made : Bus.Made before w.device w'.device) : Writes settings word w before [] (.error f) w'
  | served {before writes : List (Exchange S)} {s : S} {w₁ : Plant δ S} {r : Outcome Unit}
      (flag : w.status.initialized = true) (approach : Approaches settings (held w) before (.ok s))
      (written : Written s word [34304, 34305, 34306] writes r)
      (made : Bus.Made (before ++ writes) w.device w₁.device)
      (still : w₁.status.initialized = true) :
      Writes settings word w before writes r (w₁.settled r)

theorem Writes.made {word : UInt16} {w w' : Plant δ S} {before writes : List (Exchange S)}
    {r : Outcome Unit} (h : Writes settings word w before writes r w') :
    Bus.Made (before ++ writes) w.device w'.device := by
  cases h with
  | uninitialized _ => exact .none _
  | unserved _ _ made => exact (List.append_nil before).symm ▸ made
  | @served _ _ _ w₁ _ _ _ _ made _ => exact (ModbusWatch.settled_device w₁ r).symm ▸ made

theorem ends_update {word : UInt16} {w w' : Plant δ S} {r : Outcome Unit}
    (h : ((link settings c).execute fun s =>
      writeEach (link settings c).controller s word roomRegisters).Ends w r w') :
    ∃ before writes, Writes settings word w before writes r w' := by
  rcases use_of_execute h with ⟨hnot, rfl, rfl⟩ | ⟨hinit, before, huse⟩
  · exact ⟨[], [], .uninitialized hnot⟩
  · cases huse with
    | unserved approach made _ _ => exact ⟨before, [], .unserved hinit approach made⟩
    | served approach made _ flag result =>
        obtain ⟨writes, hwritten, hstatus, hmade⟩ := ends_writeEach result
        have hstill := (congrArg ModbusStatus.initialized hstatus).trans flag
        exact ⟨before, writes, .served hinit approach hwritten (made.append hmade) hstill⟩

/-- With a reading in the cache an update is a use of the connection. -/
theorem apply_of_execute {s : RoomSettings} {w w' : Plant δ S} {r : Outcome Unit}
    {weather : Weather.Record}
    (hread : w.device.cache.read s.source Weather.Record.ofDocument = .ok weather)
    (h : ((link settings c).execute fun session => writeEach (link settings c).controller session
      (roomWord weather.indoor.temperature) roomRegisters).Ends w r w') :
    (rooms s (link settings c) cachePart).apply.Ends w r w' := by
  have hcache : (cachePart.get w).read s.source Weather.Record.ofDocument = .ok weather := hread
  refine Routine.ends_do.2 ⟨w, w, ⟨rfl, rfl⟩, ?_⟩
  rw [hcache]
  exact h

/-- What an update does is decided by the entry of the cache. -/
theorem ends_apply {s : RoomSettings} {w w' : Plant δ S} {r : Outcome Unit}
    (h : (rooms s (link settings c) cachePart).apply.Ends w r w') :
    match w.device.cache.read s.source Weather.Record.ofDocument with
    | .error f => r = .error f ∧ w' = w
    | .ok weather => ∃ before writes,
        Writes settings (roomWord weather.indoor.temperature) w before writes r w' := by
  obtain ⟨_, _, ⟨rfl, rfl⟩, h⟩ := Routine.ends_do.1 h
  have hcache : (cachePart.get w).read s.source Weather.Record.ofDocument
      = w.device.cache.read s.source Weather.Record.ofDocument := rfl
  rw [hcache] at h
  cases hread : w.device.cache.read s.source Weather.Record.ofDocument with
  | error f =>
      rw [hread] at h
      obtain ⟨rfl, rfl⟩ := h
      exact ⟨rfl, rfl⟩
  | ok weather =>
      rw [hread] at h
      exact ends_update h

/-- The session has been lost, and whoever uses the connection next begins with a new one. A query
is such a use, and so is an update, unless there is no reading for it. -/
structure Severed (settings : ModbusSettings) (c : Controller δ S) (w : Plant δ S) : Prop where
  session : held w = none
  state : w.status.state = .failed
  next : NextUse settings c w Afresh
  query {name : String} {w₁ w₂ : Plant δ S} {r : Outcome Record} : w₁.status = w.status →
    (source name (link settings c)).query.Ends w₁ r w₂ →
    ∃ before reads, Afresh before ∧ Bus.Made (before ++ reads) w₁.device w₂.device
  update {s : RoomSettings} {w₁ w₂ : Plant δ S} {r : Outcome Unit} : w₁.status = w.status →
    (rooms s (link settings c) cachePart).apply.Ends w₁ r w₂ →
    w₂ = w₁ ∨ ∃ before writes, Afresh before ∧ Bus.Made (before ++ writes) w₁.device w₂.device

theorem severed_of_status {w : Plant δ S} (hinit : w.status.initialized = true)
    (hsession : w.status.session = none) (hstate : w.status.state = .failed) :
    Severed settings c w := by
  have hheld : ∀ {w₁ : Plant δ S}, w₁.status = w.status → held w₁ = none := by
    intro w₁ hstatus
    rw [held, hstatus, hsession]
    rfl
  refine ⟨hheld rfl, hstate, nextUse_afresh hinit (hheld rfl), ?_, ?_⟩
  · intro name w₁ w₂ r hstatus hends
    obtain ⟨before, reads, gained, happroach, hmade⟩ :=
      (ends_query (hstatus ▸ hinit) hends).requests
    rw [hheld hstatus] at happroach
    exact ⟨before, reads, happroach.afresh, hmade⟩
  · intro s w₁ w₂ r hstatus hends
    have happly := ends_apply hends
    cases hread : w₁.device.cache.read s.source Weather.Record.ofDocument with
    | error f =>
        rw [hread] at happly
        exact .inl happly.2
    | ok weather =>
        rw [hread] at happly
        obtain ⟨before, writes, hwrites⟩ := happly
        have hmade := hwrites.made
        cases hwrites with
        | uninitialized flag => exact .inl rfl
        | unserved _ approach _ => exact .inr ⟨_, _, (hheld hstatus ▸ approach).afresh, hmade⟩
        | served _ approach _ _ _ => exact .inr ⟨_, _, (hheld hstatus ▸ approach).afresh, hmade⟩

/-- What the writes of an update with a word for the room temperature come to. -/
structure Written.Course (settings : ModbusSettings) (c : Controller δ S) (word : UInt16)
    (writes : List (Exchange S)) (r : Outcome Unit) (w' : Plant δ S) : Prop where
  targets : writes.map Exchange.target? <+:
    [some (34304, word), some (34305, word), some (34306, word)]
  ok_iff : r = .ok () ↔ ∃ s, writes = [.writeSingle s 34304 word (.ok ()),
    .writeSingle s 34305 word (.ok ()), .writeSingle s 34306 word (.ok ())]
  stops {s : S} {address : Nat} {v : UInt16} {f : Fault} :
    .writeSingle s address v (.error f) ∈ writes →
      writes.getLast? = some (.writeSingle s address v (.error f)) ∧ r = .error f
  severed {s : S} {address : Nat} {v : UInt16} {f : Fault} :
    .writeSingle s address v (.error f) ∈ writes → f.retryable = true → Severed settings c w'

/-- What an update has done with a word for the room temperature: the requests by which it came to
its session, if it did, and its writes. -/
structure Updated (settings : ModbusSettings) (c : Controller δ S) (word : UInt16) (w : Plant δ S)
    (before writes : List (Exchange S)) (r : Outcome Unit) (w' : Plant δ S) : Prop
    extends Written.Course settings c word writes r w' where
  made : Bus.Made (before ++ writes) w.device w'.device
  uninitialized : w.status.initialized = false → before = [] ∧ writes = [] ∧ w' = w
  approach : w.status.initialized = true → ∃ gained, Approaches settings (held w) before gained ∧
    match gained with
    | .ok s => Written s word [34304, 34305, 34306] writes r
    | .error f => writes = [] ∧ r = .error f
  before_no_write : ∀ k ∈ before, k.isWrite = false

theorem course_nil {word : UInt16} {w' : Plant δ S} (f : Fault) :
    Written.Course settings c word [] (.error f) w' where
  targets := List.nil_prefix
  ok_iff := by
    constructor
    · intro hr
      cases hr
    · rintro ⟨_, hnil⟩
      cases hnil
  stops hmem := absurd hmem List.not_mem_nil
  severed hmem := absurd hmem List.not_mem_nil

theorem course_of_written {s : S} {word : UInt16} {writes : List (Exchange S)} {r : Outcome Unit}
    {w : Plant δ S} (h : Written s word [34304, 34305, 34306] writes r)
    (flag : w.status.initialized = true) :
    Written.Course settings c word writes r (w.settled r) where
  targets := h.targets
  ok_iff := by
    rw [h.ok_iff]
    constructor
    · exact fun hall => ⟨s, hall⟩
    · rintro ⟨t, rfl⟩
      -- All writes are on the one session of the update.
      cases h with
      | accepted more => cases more with
        | accepted more => cases more with
          | accepted more => rfl
  stops := h.stops
  severed {_ _ _ f} hmem hf := by
    obtain ⟨-, rfl⟩ := h.stops hmem
    have hsevers : ModbusWatch.severs (.error f : Outcome Unit) = true :=
      (ModbusWatch.severs_error f).trans hf
    refine severed_of_status ?_ ?_ ?_
    · rw [ModbusWatch.settled_initialized, flag]
    · rw [ModbusWatch.settled, if_pos hsevers]
    · rw [ModbusWatch.settled, if_pos hsevers]

theorem updated_of_writes {word : UInt16} {w w' : Plant δ S} {before writes : List (Exchange S)}
    {r : Outcome Unit} (h : Writes settings word w before writes r w') :
    Updated settings c word w before writes r w' := by
  have hmade := h.made
  cases h with
  | uninitialized flag =>
      refine ⟨course_nil _, hmade, fun _ => ⟨rfl, rfl, rfl⟩, fun hinit => ?_,
        fun _ hk => absurd hk List.not_mem_nil⟩
      rw [flag] at hinit
      cases hinit
  | unserved flag approach made =>
      refine ⟨course_nil _, hmade, fun hnot => ?_, fun _ => ⟨_, approach, rfl, rfl⟩,
        approach.no_write⟩
      rw [flag] at hnot
      cases hnot
  | served flag approach written made still =>
      refine ⟨course_of_written written still, hmade, fun hnot => ?_,
        fun _ => ⟨_, approach, written⟩, approach.no_write⟩
      rw [flag] at hnot
      cases hnot

/-- What becomes of an update. Without a reading in the cache nothing happens at all. -/
structure Applied (settings : ModbusSettings) (c : Controller δ S) (source : String)
    (w : Plant δ S) (r : Outcome Unit) (w' : Plant δ S) : Prop where
  absent : w.device.cache.get? source = none →
    r = .error (.notFound ("state for module \"" ++ source ++ "\"")) ∧ w' = w
  malformed {payload : ByteArray} : w.device.cache.get? source = some payload →
    (Json.readBytes payload).bind Weather.Record.ofDocument = none →
    r = .error (.serialization "malformed record") ∧ w' = w
  written {payload : ByteArray} {weather : Weather.Record} :
    w.device.cache.get? source = some payload →
    (Json.readBytes payload).bind Weather.Record.ofDocument = some weather →
    ∃ before writes, Updated settings c (roomWord weather.indoor.temperature) w before writes r w'

/-- An update ends, and it ends so. -/
theorem rooms_decided (s : RoomSettings) (w : Plant δ S) :
    (∃ r w', (rooms s (link settings c) cachePart).apply.Ends w r w') ∧
      ∀ r w', (rooms s (link settings c) cachePart).apply.Ends w r w' →
        Applied settings c s.source w r w' := by
  refine ⟨Routine.exists_ends _ _, fun r w' h => ?_⟩
  have happly := ends_apply h
  unfold Cache.read at happly
  constructor
  · intro habsent
    rw [habsent] at happly
    exact happly
  · intro payload hentry hmalformed
    rw [hentry] at happly
    simp only [hmalformed] at happly
    exact happly
  · intro payload weather hentry hdecodes
    rw [hentry] at happly
    simp only [hdecodes] at happly
    obtain ⟨before, writes, hwrites⟩ := happly
    exact ⟨before, writes, updated_of_writes hwrites⟩

/-- A reading of the weather, in whole numbers. -/
def mildReading : Document :=
  .map [("timestamp", .text "2024-05-01T12:00:00Z"), ("uv", .int 3), ("barometer", .int 1013),
    ("daily_rain", .int 0), ("dew_point", .int 7),
    ("outdoor", .map [("temperature", .int 12), ("humidity", .int 60)]),
    ("indoor", .map [("temperature", .int 21), ("humidity", .int 44)]), ("rain", .int 0),
    ("solar_radiation", .int 112),
    ("wind", .map [("direction", .int 225), ("gusts", .int 2), ("speed", .int 1)])]

/-- A cache with that reading. -/
theorem exists_mild : ∃ (cache : Cache) (payload : ByteArray) (weather : Weather.Record),
    cache.get? "weather" = some payload ∧
      (Json.readBytes payload).bind Weather.Record.ofDocument = some weather := by
  have hread := @Json.readBytes_bytes 3 mildReading (by decide) (by decide)
  obtain ⟨weather, hweather⟩ := Option.isSome_iff_exists.1
    (show (Weather.Record.ofDocument mildReading.again).isSome = true by decide +kernel)
  refine ⟨Cache.empty.put "weather" (Json.bytes mildReading), Json.bytes mildReading, weather,
    ?_, ?_⟩
  · rw [Cache.get?_put, if_pos rfl]
  · rw [hread, Option.bind_some, hweather]

/-- A plant with a session that is alive, and that is cut off when the second register is to be
written. -/
def hallway (cache : Cache) : Plant (List Bool) Unit where
  status := { initialized := true, session := some ⟨0, ()⟩, state := .ready }
  device := { cache, device := [true, true, false] }
  opened := 1

/-- The plant after that. -/
def hallwayCut (cache : Cache) (word : UInt16) : Plant (List Bool) Unit where
  status := { initialized := true, session := none, state := .failed }
  device := {
    cache
    device := []
    exchanges := [.readHolding () 10 2 (.ok []), .writeSingle () 34304 word (.ok ()),
      .writeSingle () 34305 word (.error (.timeout "controller"))] }
  opened := 1
  deeds := [.probed 0, .closed 0, .told .requestFailed]

theorem ends_hallway (cache : Cache) (word : UInt16) :
    ((link ModbusWatch.scriptedSettings ModbusWatch.scripted).execute fun s =>
      writeEach (link ModbusWatch.scriptedSettings ModbusWatch.scripted).controller s word
        roomRegisters).Ends (hallway cache) (.error (.timeout "controller"))
      (hallwayCut cache word) :=
  Routine.ends_alone _ 0 _

theorem rooms_decided_cut :
    ∃ cache payload weather word before writes, cache.get? "weather" = some payload ∧
      (Json.readBytes payload).bind Weather.Record.ofDocument = some weather ∧
      word = roomWord weather.indoor.temperature ∧
      (rooms {} (link ModbusWatch.scriptedSettings ModbusWatch.scripted) cachePart).apply.Ends
        (hallway cache) (.error (.timeout "controller")) (hallwayCut cache word) ∧
      Updated ModbusWatch.scriptedSettings ModbusWatch.scripted word (hallway cache) before writes
        (.error (.timeout "controller")) (hallwayCut cache word) ∧
      .writeSingle () 34305 word (.error (.timeout "controller")) ∈ writes ∧
      Severed ModbusWatch.scriptedSettings ModbusWatch.scripted (hallwayCut cache word) := by
  obtain ⟨cache, payload, weather, hentry, hdecodes⟩ := exists_mild
  have hread : cache.read "weather" Weather.Record.ofDocument = .ok weather := by
    simp only [Cache.read, hentry, hdecodes]
  have hends := apply_of_execute (s := {}) (w := hallway cache) hread (ends_hallway cache _)
  obtain ⟨before, writes, hupdated⟩ :=
    ((rooms_decided {} (hallway cache)).2 _ _ hends).written hentry hdecodes
  have hmem : .writeSingle () 34305 (roomWord weather.indoor.temperature)
      (.error (.timeout "controller")) ∈ before ++ writes :=
    hupdated.made.exchanges ▸ List.mem_of_getLast? rfl
  have hwrites := (List.mem_append.1 hmem).resolve_left fun hbefore =>
    Bool.noConfusion (hupdated.before_no_write _ hbefore)
  exact ⟨cache, payload, weather, _, before, writes, hentry, hdecodes, rfl, hends, hupdated,
    hwrites, hupdated.severed hwrites rfl⟩

end HomeEnergy.Heating
