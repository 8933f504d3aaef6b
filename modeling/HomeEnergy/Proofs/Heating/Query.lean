import HomeEnergy.Proofs.Heating.Watch
import HomeEnergy.Proofs.Modbus.Life

/-!
# Queries of the heating controller

A query reads two blocks of registers in one use, on one session, and stops at the first read that
fails. What it makes of the words is decided behind the use: longer blocks are cut, and shorter ones
are a fault of the device, not of the connection, so that the session stays.

## Main results

* `Heating.decode_eq` — a reading is made of words that are there.
* `Heating.ends_readBlocks` — the two reads.
* `Heating.query_decided` — a query, in all cases, and what it means for the next use.
-/

namespace HomeEnergy.Heating

variable {δ S α : Type} {settings : ModbusSettings} {c : Controller δ S}

/-! ## Readings -/

/-- The double of a word. -/
def plain (w : UInt16) : Float := w.toNat.toFloat

/-- The double of a word that is read as a signed number of 16 bits. -/
def balanced (w : UInt16) : Float := Float.ofInt (Int.bmod w.toNat 65536)

/-- The temperature of a word that is read as a signed number of 16 bits, in tenths. -/
def tenths (w : UInt16) : Float := balanced w / 10.0

/-- The reading in 18 words and five. -/
def recordOf (time : Timestamp) (t : Fin 18 → UInt16) (p : Fin 5 → UInt16) : Record where
  time
  storageTop := tenths (t 0)
  storageBottom := tenths (t 2)
  bufferTop := tenths (t 3)
  bufferBottom := tenths (t 8)
  hotWater := tenths (t 1)
  coldWater := tenths (t 14)
  circulation := tenths (t 10)
  flowRate := plain (t 17)
  collector := tenths (t 7)
  solarFlow := tenths (t 4)
  solarReturn := tenths (t 5)
  solarExchanger := tenths (t 6)
  solarVolumeFlow := plain (t 16)
  solarPower := (balanced (t 4) - balanced (t 5)) * plain (t 16) / 8600.0
  boiler := tenths (t 13)
  boilerPower := plain (p 3) / 1000.0
  circuit1 := tenths (t 11)
  circuit2 := tenths (t 12)
  circuit3 := tenths (t 15)

/-- The first words of a block that is long enough. -/
def firstWords {n : Nat} (words : List UInt16) (h : n ≤ words.length) : Fin n → UInt16 :=
  fun i => words[i]

theorem firstWords_map_range {n m : Nat} (f : Nat → UInt16)
    (h : n ≤ ((List.range m).map f).length) :
    firstWords ((List.range m).map f) h = fun i : Fin n => f i :=
  funext fun i => by simp [firstWords]

theorem word_eq {n : Nat} {words : List UInt16} (h : n ≤ words.length) (i : Fin n) :
    Register.word words i = firstWords words h i := by
  have hi : (i : Nat) < words.length := Nat.lt_of_lt_of_le i.isLt h
  unfold Register.word firstWords
  rw [List.getElem?_eq_getElem hi]
  rfl

theorem unsigned_eq {n : Nat} {words : List UInt16} (h : n ≤ words.length) (i : Fin n) :
    unsigned words i = plain (firstWords words h i) := by
  unfold unsigned plain
  rw [word_eq h]

theorem signed_eq {n : Nat} {words : List UInt16} (h : n ≤ words.length) (i : Fin n) :
    signed words i = balanced (firstWords words h i) := by
  unfold signed balanced
  rw [word_eq h]
  exact congrArg Float.ofInt (BitVec.toInt_eq_toNat_bmod _)

theorem celsius_eq {n : Nat} {words : List UInt16} (h : n ≤ words.length) (i : Fin n) :
    celsius words i = tenths (firstWords words h i) := by
  unfold celsius tenths
  rw [signed_eq h]

/-- The fault of blocks that are too short. -/
def shortBlocks (temperatures powers : List UInt16) : Fault :=
  .protocol "solvis" ("could not retrieve all registers (" ++ toString temperatures.length
    ++ " of " ++ toString 18 ++ ", " ++ toString powers.length ++ " of " ++ toString 5 ++ ")")

theorem lacking_of_not {m n : Nat} (h : ¬ (18 ≤ m ∧ 5 ≤ n)) : m < 18 ∨ n < 5 := by
  omega

/-- Blocks of any two lengths. No word is asked for that is not there. -/
theorem decode_eq (time : Timestamp) (temperatures powers : List UInt16) :
    decode time temperatures powers =
      if h : 18 ≤ temperatures.length ∧ 5 ≤ powers.length then
        .ok (recordOf time (firstWords temperatures h.1) (firstWords powers h.2))
      else .error (shortBlocks temperatures powers) := by
  unfold decode
  by_cases h : 18 ≤ temperatures.length ∧ 5 ≤ powers.length
  · have hlong : ¬ (temperatures.length < temperatureCount ∨ powers.length < powerCount) := by
      rw [not_or, Nat.not_lt, Nat.not_lt]
      exact h
    have ht := fun i : Fin 18 => celsius_eq h.1 i
    have hs := fun i : Fin 18 => signed_eq h.1 i
    have hu := fun i : Fin 18 => unsigned_eq h.1 i
    have hp := fun i : Fin 5 => unsigned_eq h.2 i
    rw [if_neg hlong, dif_pos h]
    unfold recordOf
    dsimp only
    rw [← ht 0, ← ht 1, ← ht 2, ← ht 3, ← ht 4, ← ht 5, ← ht 6, ← ht 7, ← ht 8, ← ht 10, ← ht 11,
      ← ht 12, ← ht 13, ← ht 14, ← ht 15, ← hs 4, ← hs 5, ← hu 16, ← hu 17, ← hp 3]
    rfl
  · have hshort : temperatures.length < temperatureCount ∨ powers.length < powerCount :=
      lacking_of_not h
    rw [if_pos hshort, dif_neg h]
    rfl

/-! ## Queries -/

/-- The two reads on a session, with what comes of them. There is no second one if the first one
fails. -/
inductive Blocks (s : S) : List (Exchange S) → Outcome (List UInt16 × List UInt16) → Prop where
  | first {f : Fault} : Blocks s [.readHolding s 33024 18 (.error f)] (.error f)
  | second {temperatures : List UInt16} {f : Fault} :
      Blocks s [.readHolding s 33024 18 (.ok temperatures), .readHolding s 33536 5 (.error f)]
        (.error f)
  | both {temperatures powers : List UInt16} :
      Blocks s [.readHolding s 33024 18 (.ok temperatures), .readHolding s 33536 5 (.ok powers)]
        (.ok (temperatures, powers))

/-- The requests of a query on its session, with what comes of them. -/
inductive Queried (s : S) (reads : List (Exchange S)) : Outcome Record → Prop where
  | failed {f : Fault} (blocks : Blocks s reads (.error f)) : Queried s reads (.error f)
  | whole {temperatures powers : List UInt16} (blocks : Blocks s reads (.ok (temperatures, powers)))
      (time : Timestamp) (ht : 18 ≤ temperatures.length) (hp : 5 ≤ powers.length) :
      Queried s reads (.ok (recordOf time (firstWords temperatures ht) (firstWords powers hp)))
  | short {temperatures powers : List UInt16} (blocks : Blocks s reads (.ok (temperatures, powers)))
      (lacking : temperatures.length < 18 ∨ powers.length < 5) :
      Queried s reads (.error (shortBlocks temperatures powers))

/-- The ways in which a query of an initialized connection ends. -/
inductive Queries (settings : ModbusSettings) (c : Controller δ S) (w : Plant δ S) :
    Outcome Record → Plant δ S → Prop where
  /-- There is no session. -/
  | unserved {before : List (Exchange S)} {f : Fault} {w' : Plant δ S}
      (approach : Approaches settings (held w) before (.error f))
      (made : Bus.Made before w.device w'.device) (lost : held w' = none)
      (next : NextUse settings c w' Afresh) : Queries settings c w (.error f) w'
  /-- A read fails on the way to the controller. -/
  | severed {before reads : List (Exchange S)} {s : S} {f : Fault} {w' : Plant δ S}
      (approach : Approaches settings (held w) before (.ok s)) (blocks : Blocks s reads (.error f))
      (transport : f.retryable = true) (made : Bus.Made (before ++ reads) w.device w'.device)
      (lost : held w' = none) (next : NextUse settings c w' Afresh) :
      Queries settings c w (.error f) w'
  /-- There is a reading, or a fault that has nothing to do with the connection. -/
  | kept {before reads : List (Exchange S)} {s : S} {r : Outcome Record} {w' : Plant δ S}
      (approach : Approaches settings (held w) before (.ok s)) (queried : Queried s reads r)
      (proper : ∀ f, r = .error f → f.retryable = false)
      (made : Bus.Made (before ++ reads) w.device w'.device) (session : held w' = some s)
      (next : NextUse settings c w' (Sparing settings s)) : Queries settings c w r w'

theorem ends_readHolding {s : Numbered S} {address count : Nat} {w w' : Plant δ S}
    {r : Outcome (List UInt16)}
    (h : ((link settings c).controller.readHolding s address count).Ends w r w') :
    w'.status = w.status ∧ Bus.Made [.readHolding s.handle address count r] w.device w'.device := by
  obtain ⟨b, hb, rfl⟩ := ModbusWatch.ends_doing h
  exact ⟨rfl, Bus.made_of_recorded hb⟩

theorem ends_readBlocks {s : Numbered S} {w w' : Plant δ S}
    {r : Outcome (List UInt16 × List UInt16)}
    (h : (readBlocks (link settings c).controller s).Ends w r w') :
    ∃ reads, Blocks s.handle reads r ∧ w'.status = w.status ∧
      Bus.Made reads w.device w'.device := by
  obtain ⟨o, w₁, hfirst, hrest⟩ := Routine.ends_do.1 h
  obtain ⟨hstatus, hmade⟩ := ends_readHolding hfirst
  cases o with
  | error f =>
      obtain ⟨rfl, rfl⟩ := hrest
      exact ⟨_, .first, hstatus, hmade⟩
  | ok temperatures =>
      obtain ⟨o, w₂, hsecond, hrest⟩ := Routine.ends_do.1 hrest
      obtain ⟨hstatus', hmade'⟩ := ends_readHolding hsecond
      have hboth := hmade.append hmade'
      cases o with
      | error f =>
          obtain ⟨rfl, rfl⟩ := hrest
          exact ⟨_, .second, hstatus'.trans hstatus, hboth⟩
      | ok powers =>
          obtain ⟨rfl, rfl⟩ := hrest
          exact ⟨_, .both, hstatus'.trans hstatus, hboth⟩

/-- What is made of both blocks. -/
theorem queried_decode {s : S} {reads : List (Exchange S)} {temperatures powers : List UInt16}
    (blocks : Blocks s reads (.ok (temperatures, powers))) (time : Timestamp) :
    Queried s reads (decode time temperatures powers) ∧
      ∀ f, decode time temperatures powers = .error f → f.retryable = false := by
  rw [decode_eq]
  by_cases h : 18 ≤ temperatures.length ∧ 5 ≤ powers.length
  · rw [dif_pos h]
    exact ⟨.whole blocks time h.1 h.2, fun f hf => by cases hf⟩
  · rw [dif_neg h]
    refine ⟨.short blocks (lacking_of_not h), fun f hf => ?_⟩
    cases hf
    rfl

theorem ends_moment {w w' : Plant δ S} {time : Timestamp} (h : moment.Ends w time w') : w = w' := by
  obtain ⟨_, _, ⟨_, -, hclock⟩, -, rfl⟩ := Routine.ends_do.1 h
  exact hclock

theorem ends_query {name : String} {w w' : Plant δ S} {r : Outcome Record}
    (hinit : w.status.initialized = true)
    (h : (source name (link settings c)).query.Ends w r w') : Queries settings c w r w' := by
  obtain ⟨o, w₁, huse, hrest⟩ := Routine.ends_do.1 h
  rcases use_of_execute huse with ⟨hnot, -⟩ | ⟨-, before, huse⟩
  · rw [hinit] at hnot
    cases hnot
  cases huse with
  | unserved approach made session flag =>
      obtain ⟨rfl, rfl⟩ := hrest
      have hlost : held w₁ = none := congrArg (Option.map Numbered.handle) session
      exact .unserved approach made hlost (nextUse_afresh flag hlost)
  | @served s w₂ w₃ _ approach made session flag result =>
      obtain ⟨reads, hblocks, hstatus, hmade⟩ := ends_readBlocks result
      have hdevice := ModbusWatch.settled_device w₃ o
      have hflag : (w₃.settled o).status.initialized = true := by
        rw [ModbusWatch.settled_initialized, hstatus, flag]
      have hheld : held w₃ = some s.handle := by
        rw [held, hstatus, session]
        rfl
      have hafter := held_settled w₃ o
      rw [hheld] at hafter
      have hall : Bus.Made (before ++ reads) w.device (w₃.settled o).device :=
        hdevice ▸ made.append hmade
      cases o with
      | error f =>
          obtain ⟨rfl, rfl⟩ := hrest
          rw [ModbusWatch.severs_error] at hafter
          cases hf : f.retryable with
          | true =>
              rw [hf] at hafter
              exact .severed approach hblocks hf hall hafter (nextUse_afresh hflag hafter)
          | false =>
              rw [hf] at hafter
              refine .kept approach (.failed hblocks) (fun g hg => ?_) hall hafter
                (nextUse_sparing hflag hafter)
              cases hg
              exact hf
      | ok blocks =>
          obtain ⟨time, w₄, hmoment, rfl, rfl⟩ := Routine.ends_do.1 hrest
          obtain rfl := ends_moment hmoment
          obtain ⟨hqueried, hproper⟩ := queried_decode hblocks time
          exact .kept approach hqueried hproper hall hafter (nextUse_sparing hflag hafter)

/-- First there are the requests by which a query comes to a session. -/
theorem Queries.requests {w w' : Plant δ S} {r : Outcome Record} (h : Queries settings c w r w') :
    ∃ before reads gained, Approaches settings (held w) before gained ∧
      Bus.Made (before ++ reads) w.device w'.device := by
  cases h with
  | @unserved before _ _ approach made _ _ =>
      exact ⟨before, [], _, approach, (List.append_nil before).symm ▸ made⟩
  | severed approach _ _ made _ _ => exact ⟨_, _, _, approach, made⟩
  | kept approach _ _ made _ _ => exact ⟨_, _, _, approach, made⟩

/-- A query of an initialized connection ends, and it ends in one of these ways. -/
theorem query_decided (name : String) {w : Plant δ S} (hinit : w.status.initialized = true) :
    (∃ r w', (source name (link settings c)).query.Ends w r w') ∧
      ∀ r w', (source name (link settings c)).query.Ends w r w' → Queries settings c w r w' :=
  ⟨Routine.exists_ends _ _, fun _ _ h => ends_query hinit h⟩

open ModbusWatch (scripted scriptedAnswer scriptedSettings)

/-- The word in a register of a controller in which each register holds its own address. -/
def ownAddress (address i : Nat) : UInt16 := UInt16.ofNat (address + i)

/-- Such a controller, which follows a script. -/
def numbered : Controller (List Bool) Unit :=
  { scripted with
    readHolding := fun _ address count =>
      scriptedAnswer ((List.range count).map (ownAddress address)) }

/-- A plant with a session, and with a script for its controller. -/
def scriptedPlant (script : List Bool) : Plant (List Bool) Unit where
  status := { initialized := true, session := some ⟨0, ()⟩, state := .ready }
  device := { cache := {}, device := script }
  opened := 1

/-- A reading tells by its values from which registers it comes, and large words are negative. Reads
that give no words at all are a fault that keeps the session, and a second read that is lost ends
it. -/
theorem query_decided_scripted :
    (∀ script, (scriptedPlant script).status.initialized = true) ∧
    (∃ record w', record = recordOf (.ofNanos 0) (fun i => ownAddress 33024 i)
          (fun i => ownAddress 33536 i) ∧
        record.storageTop = Float.ofInt (33024 - 65536) / 10.0 ∧
      (source "solvis" (link scriptedSettings numbered)).query.Ends (scriptedPlant [])
        (.ok record) w' ∧
      Queries scriptedSettings numbered (scriptedPlant []) (.ok record) w' ∧
      held w' = some ()) ∧
    (∃ f w', f = .protocol "solvis" "could not retrieve all registers (0 of 18, 0 of 5)" ∧
      (source "solvis" (link scriptedSettings scripted)).query.Ends (scriptedPlant [])
        (.error f) w' ∧
      Queries scriptedSettings scripted (scriptedPlant []) (.error f) w' ∧
      held w' = some ()) ∧
    ∃ w', (source "solvis" (link scriptedSettings numbered)).query.Ends
        (scriptedPlant [true, true, false]) (.error (.timeout "controller")) w' ∧
      Queries scriptedSettings numbered (scriptedPlant [true, true, false])
        (.error (.timeout "controller")) w' ∧
      held w' = none := by
  have hrecord : decode (.ofNanos 0) ((List.range 18).map (ownAddress 33024))
        ((List.range 5).map (ownAddress 33536))
      = .ok (recordOf (.ofNanos 0) (fun i => ownAddress 33024 i)
          (fun i => ownAddress 33536 i)) := by
    rw [decode_eq, dif_pos (by simp only [List.length_map, List.length_range]; decide),
      firstWords_map_range, firstWords_map_range]
  have hnegative : Int.bmod (ownAddress 33024 0).toNat 65536 = 33024 - 65536 := by decide
  obtain ⟨w, hwhole, hheld⟩ : ∃ w', (source "solvis" (link scriptedSettings numbered)).query.Ends
      (scriptedPlant []) (.ok (recordOf (.ofNanos 0) (fun i => ownAddress 33024 i)
        (fun i => ownAddress 33536 i))) w' ∧ held w' = some () := by
    rw [← hrecord]
    exact ⟨_, Routine.ends_alone _ 0 _, rfl⟩
  have hmute := Routine.ends_alone (source "solvis" (link scriptedSettings scripted)).query 0
    (scriptedPlant [])
  have hcut := Routine.ends_alone (source "solvis" (link scriptedSettings numbered)).query 0
    (scriptedPlant [true, true, false])
  refine ⟨fun _ => rfl, ⟨_, w, rfl, ?_, hwhole, ?_, hheld⟩, ⟨_, _, rfl, hmute, ?_, rfl⟩,
    _, hcut, ?_, rfl⟩
  · show Float.ofInt (Int.bmod (ownAddress 33024 0).toNat 65536) / 10.0 = _
    rw [hnegative]
  · exact (query_decided "solvis" rfl).2 _ _ hwhole
  · exact (query_decided "solvis" rfl).2 _ _ hmute
  · exact (query_decided "solvis" rfl).2 _ _ hcut

end HomeEnergy.Heating
