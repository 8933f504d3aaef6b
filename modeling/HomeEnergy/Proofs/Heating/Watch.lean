import HomeEnergy.Collector.Query
import HomeEnergy.Proofs.Modbus.Course

/-!
# The heating controller under watch

A poller reads from the heating controller and an updater writes to it, over one connection. The
updater takes what it writes from the cache. `Heating.Bus` is an arbitrary controller with the cache
beside it, on which every request to the controller is written down when its answer comes: attempts
to open a session, reads and writes, with their registers and words. `Heating.link` is the
connection to it, under watch itself.

## Main results

* `Heating.Approaches` — the requests by which a use comes to a session, in all cases.
* `Heating.Use` — a use as it is seen from the controller.
* `Heating.use_of_execute` — each use of an initialized connection is one.
* `Heating.nextUse_afresh`, `Heating.nextUse_sparing` — the next use, without a session and with
  one.
-/

namespace HomeEnergy.Heating

open Routine (Part)

/-- A request to the controller, with its answer. -/
inductive Exchange (S : Type) where
  /-- An attempt to open a session. -/
  | connect (answer : Outcome S)
  | readHolding (session : S) (address count : Nat) (answer : Outcome (List UInt16))
  | readInput (session : S) (address count : Nat) (answer : Outcome (List UInt16))
  | writeSingle (session : S) (address : Nat) (word : UInt16) (answer : Outcome Unit)
  | writeMultiple (session : S) (address : Nat) (words : List UInt16) (answer : Outcome Unit)

/-- The controller, the cache, and the requests to the controller so far. -/
structure Bus (δ S : Type) where
  cache : Cache
  device : δ
  exchanges : List (Exchange S) := []

variable {δ S α : Type}

namespace Exchange

/-- Whether something is to be written. -/
def isWrite : Exchange S → Bool
  | writeSingle .. | writeMultiple .. => true
  | connect _ | readHolding .. | readInput .. => false

/-- Whether a session is to be opened. -/
def isConnect : Exchange S → Bool
  | connect _ => true
  | readHolding .. | readInput .. | writeSingle .. | writeMultiple .. => false

/-- Attempts to open a session that are turned down. -/
def refusals (faults : List Fault) : List (Exchange S) := faults.map fun f => connect (.error f)

end Exchange

namespace Bus

/-- The controller. -/
def devicePart : Part (Bus δ S) δ := ⟨Bus.device, fun d b => { b with device := d }⟩

/-- The cache. -/
def cachePart : Part (Bus δ S) Cache := ⟨Bus.cache, fun c b => { b with cache := c }⟩

theorem devicePart_lawful : (devicePart : Part (Bus δ S) δ).Lawful :=
  ⟨fun _ _ => rfl, fun _ => rfl, fun _ _ _ => rfl⟩

/-- A request, written down with its answer. -/
def recorded (exchange : Outcome α → Exchange S) (p : Routine δ (Outcome α)) :
    Routine (Bus δ S) (Outcome α) := do
  let answer ← p.within devicePart
  .change fun b => { b with exchanges := b.exchanges ++ [exchange answer] }
  return answer

/-- A controller on a bus. -/
def controller (c : Controller δ S) : Controller (Bus δ S) S where
  connect := recorded .connect c.connect
  readHolding s a n := recorded (.readHolding s a n) (c.readHolding s a n)
  readInput s a n := recorded (.readInput s a n) (c.readInput s a n)
  writeSingle s a w := recorded (.writeSingle s a w) (c.writeSingle s a w)
  writeMultiple s a ws := recorded (.writeMultiple s a ws) (c.writeMultiple s a ws)

/-- These requests have been made, and the cache has been left alone. -/
structure Made (news : List (Exchange S)) (b b' : Bus δ S) : Prop where
  cache : b'.cache = b.cache
  exchanges : b'.exchanges = b.exchanges ++ news

theorem Made.none (b : Bus δ S) : Made [] b b := ⟨rfl, (List.append_nil _).symm⟩

theorem Made.append {news more : List (Exchange S)} {b b' b'' : Bus δ S} (h : Made news b b')
    (h' : Made more b' b'') : Made (news ++ more) b b'' :=
  ⟨h'.cache.trans h.cache, by rw [h'.exchanges, h.exchanges, List.append_assoc]⟩

theorem made_of_recorded {exchange : Outcome α → Exchange S} {p : Routine δ (Outcome α)}
    {b b' : Bus δ S} {r : Outcome α} (h : (recorded exchange p).Ends b r b') :
    Made [exchange r] b b' := by
  obtain ⟨answer, b₁, hp, h⟩ := Routine.ends_do.1 h
  obtain ⟨_, b₂, hnote, rfl, rfl⟩ := Routine.ends_do.1 h
  obtain rfl := Routine.ends_change.1 hnote
  obtain ⟨x, -, rfl⟩ := (Routine.ends_within devicePart_lawful).1 hp
  exact ⟨rfl, rfl⟩

end Bus

/-! ## The connection -/

/-- The connection to the controller, the controller and the cache. -/
abbrev Plant (δ S : Type) := ModbusWatch (Bus δ S) S

/-- The connection to a controller on a bus. -/
abbrev link (settings : ModbusSettings) (c : Controller δ S) :
    ModbusLink (Plant δ S) (Numbered S) :=
  ModbusWatch.link settings (Bus.controller c)

/-- The cache of a plant. -/
def cachePart : Part (Plant δ S) Cache := ModbusWatch.devicePart.inner Bus.cachePart

/-- The session that the connection holds. -/
def held (w : Plant δ S) : Option S := w.status.session.map Numbered.handle

variable {settings : ModbusSettings} {c : Controller δ S}

/-- The session that was held, if there was one, is lost; this is what it takes to find out. -/
inductive Lost (settings : ModbusSettings) : Option S → List (Exchange S) → Prop where
  | absent : Lost settings none []
  | dead {s : S} {p : LivenessProbe} {f : Fault} (probed : settings.probe = some p) :
      Lost settings (some s) [.readHolding s p.address p.count (.error f)]

/-- How a use comes to a session: the session held before, the requests, and the session gained, or
the fault of the last attempt. Without a probe a session that is held is trusted. -/
inductive Approaches (settings : ModbusSettings) :
    Option S → List (Exchange S) → Outcome S → Prop where
  | trusted {s : S} (unprobed : settings.probe = none) : Approaches settings (some s) [] (.ok s)
  | alive {s : S} {p : LivenessProbe} {words : List UInt16} (probed : settings.probe = some p) :
      Approaches settings (some s) [.readHolding s p.address p.count (.ok words)] (.ok s)
  | renewed {old : Option S} {checks : List (Exchange S)} {faults : List Fault} {s : S}
      (lost : Lost settings old checks) (few : faults.length < settings.retry.attempts) :
      Approaches settings old (checks ++ (Exchange.refusals faults ++ [.connect (.ok s)])) (.ok s)
  | refused {old : Option S} {checks : List (Exchange S)} {faults : List Fault} {f : Fault}
      (lost : Lost settings old checks) (all : faults.length = settings.retry.attempts)
      (last : faults.getLast? = some f) :
      Approaches settings old (checks ++ Exchange.refusals faults) (.error f)

/-- A use as it is seen from the controller: first there are the requests by which it comes to a
session, and then its callback has that session. Without a session there is no callback. -/
inductive Use (settings : ModbusSettings) (body : Numbered S → Routine (Plant δ S) (Outcome α))
    (w : Plant δ S) (before : List (Exchange S)) : Outcome α → Plant δ S → Prop where
  | served {s : Numbered S} {w₁ w₂ : Plant δ S} {r : Outcome α}
      (approach : Approaches settings (held w) before (.ok s.handle))
      (made : Bus.Made before w.device w₁.device)
      (session : w₁.status.session = some s) (flag : w₁.status.initialized = true)
      (result : (body s).Ends w₁ r w₂) : Use settings body w before r (w₂.settled r)
  | unserved {f : Fault} {w' : Plant δ S}
      (approach : Approaches settings (held w) before (.error f))
      (made : Bus.Made before w.device w'.device)
      (session : w'.status.session = none) (flag : w'.status.initialized = true) :
      Use settings body w before (.error f) w'

/-- A result that ends the session leaves none behind. -/
theorem held_settled (w : Plant δ S) (r : Outcome α) :
    held (w.settled r) = if ModbusWatch.severs r then none else held w := by
  unfold ModbusWatch.settled
  split <;> rfl

theorem made_of_refused {faults : List Fault} {b b' : Bus δ S}
    (h : ModbusWatch.Refused (Bus.controller c) faults b b') :
    Bus.Made (Exchange.refusals faults) b b' := by
  induction faults generalizing b with
  | nil =>
      obtain rfl := h
      exact .none b
  | cons f faults ih =>
      obtain ⟨x, hx, hrest⟩ := h
      exact (Bus.made_of_recorded hx).append (ih hrest)

/-- A check that finds no session that is alive. -/
theorem lost_of_checked {w : Plant δ S} {checks : List ModbusDeed} {b : Bus δ S}
    (h : ModbusWatch.Checked settings (Bus.controller c) w.device w.status.session false checks b) :
    ∃ news, Lost settings (held w) news ∧ Bus.Made news w.device b := by
  unfold held
  generalize w.status.session = session at h
  cases h with
  | absent => exact ⟨[], .absent, .none _⟩
  | dead probed answer => exact ⟨_, .dead probed, Bus.made_of_recorded answer⟩

theorem approach_of_readied {w w₁ : Plant δ S} {s : Numbered S}
    (h : ModbusWatch.Readied settings (Bus.controller c) w s w₁) :
    ∃ before, Approaches settings (held w) before (.ok s.handle) ∧
      Bus.Made before w.device w₁.device ∧
      w₁.status.initialized = w.status.initialized := by
  cases h with
  | @held checks b _ check session =>
      have hheld : held w = some s.handle := by rw [held, session]; rfl
      rw [hheld]
      rw [session] at check
      cases check with
      | trusted unprobed => exact ⟨[], .trusted unprobed, .none _, rfl⟩
      | alive probed answer => exact ⟨_, .alive probed, Bus.made_of_recorded answer, rfl⟩
  | renewed check refused few accepted =>
      obtain ⟨news, hlost, hmade⟩ := lost_of_checked check
      exact ⟨_, .renewed hlost few, hmade.append ((made_of_refused refused).append
        (Bus.made_of_recorded accepted)), rfl⟩

theorem approach_of_unserved {w w' : Plant δ S} {f : Fault}
    (h : ModbusWatch.Unserved settings (Bus.controller c) w f w') :
    ∃ before, Approaches settings (held w) before (.error f) ∧
      Bus.Made before w.device w'.device ∧
      w'.status.session = none ∧ w'.status.initialized = w.status.initialized := by
  cases h with
  | mk check refused all last =>
      obtain ⟨news, hlost, hmade⟩ := lost_of_checked check
      exact ⟨_, .refused hlost all last, hmade.append (made_of_refused refused), rfl, rfl⟩

/-- Each use of an initialized connection. -/
theorem use_of_execute {body : Numbered S → Routine (Plant δ S) (Outcome α)} {w w' : Plant δ S}
    {r : Outcome α} (h : ((link settings c).execute body).Ends w r w') :
    (w.status.initialized = false ∧ r = .error (.notInitialized settings.name) ∧ w' = w) ∨
    (w.status.initialized = true ∧ ∃ before, Use settings body w before r w') := by
  rcases ModbusWatch.ends_executeUnlocked (Routine.ends_locked.1 h) with
    hnot | ⟨hinit, ⟨s, w₁, w₂, hready, hbody, rfl⟩ | ⟨f, rfl, hunserved⟩⟩
  · exact .inl hnot
  · obtain ⟨before, happroach, hmade, hflag⟩ := approach_of_readied hready
    exact .inr ⟨hinit, before,
      .served happroach hmade hready.session (hflag.trans hinit) hbody⟩
  · obtain ⟨before, happroach, hmade, hnone, hflag⟩ := approach_of_unserved hunserved
    exact .inr ⟨hinit, before, .unserved happroach hmade hnone (hflag.trans hinit)⟩

/-! ## What an approach is made of -/

variable {old : Option S} {before : List (Exchange S)} {gained : Outcome S}

theorem Lost.no_write {checks : List (Exchange S)} (h : Lost settings old checks) :
    ∀ k ∈ checks, k.isWrite = false := by
  cases h with
  | absent => exact fun k hk => absurd hk List.not_mem_nil
  | dead _ => exact fun k hk => List.mem_singleton.1 hk ▸ rfl

theorem connect_of_refusals {faults : List Fault} {k : Exchange S}
    (h : k ∈ Exchange.refusals faults) : k.isConnect = true ∧ k.isWrite = false := by
  obtain ⟨f, -, rfl⟩ := List.mem_map.1 h
  exact ⟨rfl, rfl⟩

/-- Nothing is written on the way to a session. -/
theorem Approaches.no_write (h : Approaches settings old before gained) :
    ∀ k ∈ before, k.isWrite = false := by
  intro k hk
  cases h with
  | trusted _ => exact absurd hk List.not_mem_nil
  | alive _ => exact List.mem_singleton.1 hk ▸ rfl
  | renewed lost _ =>
      rcases List.mem_append.1 hk with hk | hk
      · exact lost.no_write k hk
      · rcases List.mem_append.1 hk with hk | hk
        · exact (connect_of_refusals hk).2
        · exact List.mem_singleton.1 hk ▸ rfl
  | refused lost _ _ =>
      rcases List.mem_append.1 hk with hk | hk
      · exact lost.no_write k hk
      · exact (connect_of_refusals hk).2

/-! ## The next use -/

/-- These requests open a session, or try to, before there is anything else. -/
def Afresh (before : List (Exchange S)) : Prop :=
  before ≠ [] ∧ ∀ k ∈ before, k.isConnect = true

/-- If these requests open a session or try to, then only because the probe has failed. -/
def Sparing (settings : ModbusSettings) (s : S) (before : List (Exchange S)) : Prop :=
  (∃ k ∈ before, k.isConnect = true) → ∃ p f, settings.probe = some p ∧
    before.head? = some (.readHolding s p.address p.count (.error f))

theorem Approaches.afresh (h : Approaches settings none before gained) : Afresh before := by
  cases h with
  | renewed lost _ =>
      cases lost
      rw [List.nil_append]
      refine ⟨List.append_ne_nil_of_right_ne_nil _ (List.cons_ne_nil _ _), fun k hk => ?_⟩
      rcases List.mem_append.1 hk with hk | hk
      · exact (connect_of_refusals hk).1
      · exact List.mem_singleton.1 hk ▸ rfl
  | @refused _ _ faults _ lost all _ =>
      cases lost
      refine ⟨fun hnil => ?_, fun k hk => (connect_of_refusals hk).1⟩
      have hlength := congrArg List.length hnil
      rw [List.nil_append, Exchange.refusals, List.length_map, all] at hlength
      exact Nat.ne_of_gt settings.retry.attempts_pos hlength

theorem Approaches.sparing {s : S} (h : Approaches settings (some s) before gained) :
    Sparing settings s before := by
  rintro ⟨k, hk, hconnect⟩
  cases h with
  | trusted _ => exact absurd hk List.not_mem_nil
  | alive _ =>
      obtain rfl := List.mem_singleton.1 hk
      cases hconnect
  | renewed lost _ =>
      cases lost with
      | dead probed => exact ⟨_, _, probed, rfl⟩
  | refused lost _ _ =>
      cases lost with
      | dead probed => exact ⟨_, _, probed, rfl⟩

theorem Use.approaches {body : Numbered S → Routine (Plant δ S) (Outcome α)} {w w' : Plant δ S}
    {r : Outcome α} (h : Use settings body w before r w') :
    ∃ gained, Approaches settings (held w) before gained := by
  cases h with
  | served approach _ _ _ _ => exact ⟨_, approach⟩
  | unserved approach _ _ _ => exact ⟨_, approach⟩

/-- This holds of the requests by which the next use comes to a session, whatever the use is for and
whatever has become of the controller and the cache until then. -/
def NextUse (settings : ModbusSettings) (c : Controller δ S) (w : Plant δ S)
    (P : List (Exchange S) → Prop) : Prop :=
  ∀ (β : Type) (body : Numbered S → Routine (Plant δ S) (Outcome β)) (w₁ w₂ : Plant δ S)
    (r : Outcome β), w₁.status = w.status → ((link settings c).execute body).Ends w₁ r w₂ →
    ∃ before, P before ∧ Use settings body w₁ before r w₂

variable {w : Plant δ S}

theorem nextUse_of_approaches {P : List (Exchange S) → Prop}
    (hinit : w.status.initialized = true)
    (h : ∀ before gained, Approaches settings (held w) before gained → P before) :
    NextUse settings c w P := by
  intro β body w₁ w₂ r hstatus hends
  have hheld : held w₁ = held w := congrArg (fun st => st.session.map Numbered.handle) hstatus
  rcases use_of_execute hends with ⟨hnot, -⟩ | ⟨-, before, huse⟩
  · rw [hstatus, hinit] at hnot
    cases hnot
  · obtain ⟨gained, happroach⟩ := huse.approaches
    exact ⟨before, h before gained (hheld ▸ happroach), huse⟩

/-- Without a session the next use begins with a new one. -/
theorem nextUse_afresh (hinit : w.status.initialized = true) (hnone : held w = none) :
    NextUse settings c w Afresh :=
  nextUse_of_approaches hinit fun _ _ happroach => (hnone ▸ happroach).afresh

/-- With a session the next use looks for a new one only if the probe fails. -/
theorem nextUse_sparing (hinit : w.status.initialized = true) {s : S} (hs : held w = some s) :
    NextUse settings c w (Sparing settings s) :=
  nextUse_of_approaches hinit fun _ _ happroach => (hs ▸ happroach).sparing

end HomeEnergy.Heating
