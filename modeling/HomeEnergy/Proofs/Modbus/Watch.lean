import HomeEnergy.Link.Modbus
import HomeEnergy.Proofs.Routine.Retry

/-!
# A Modbus connection under watch

What a connection does is seen from the outside as a row of deeds: it tries to open sessions, opens
them, probes them, lends them to callbacks, drops them, and tells of events. `ModbusWatch.link` is a
connection to an arbitrary controller whose every deed is written down, in order, and whose sessions
are numbered. The controller works on a device of its own and cannot reach what the connection
knows.

A session is dropped when it leaves the status of the connection. That is written down by the part
`ModbusWatch.statusPart` itself, so that no operation of the connection can drop a session unseen.

## Main results

* `ModbusWatch.ends_trial` — what one attempt to open a session does.
* `ModbusWatch.ends_tries` — what all attempts of one connecting do.
-/

namespace HomeEnergy

open Routine (Part)

/-- A session with its number. -/
structure Numbered (S : Type) where
  number : Nat
  handle : S

/-- What a connection does. -/
inductive ModbusDeed where
  /-- It begins an attempt to open a session. -/
  | trial
  /-- The attempt has opened a session. -/
  | opened (number : Nat)
  /-- It reads the registers of the probe. -/
  | probed (number : Nat)
  /-- It lends a session to a callback. -/
  | used (number : Nat)
  /-- It drops a session. -/
  | closed (number : Nat)
  | told (event : LinkEvent)
deriving DecidableEq, Repr

/-- The deeds by which something of a connection reaches a device or a caller. -/
def ModbusDeed.isContact : ModbusDeed → Bool
  | trial | probed _ | used _ => true
  | opened _ | closed _ | told _ => false

/-- A connection, a device, and what the connection has done. -/
structure ModbusWatch (δ S : Type) where
  status : ModbusStatus (Numbered S) := {}
  device : δ
  /-- How many sessions have been opened. -/
  opened : Nat := 0
  /-- In the order in which they were done. -/
  deeds : List ModbusDeed := []

variable {δ S α : Type}

/-- What happens to a session that another one, or none, takes the place of. -/
def parting : Option (Numbered S) → Option (Numbered S) → List ModbusDeed
  | none, _ => []
  | some old, none => [.closed old.number]
  | some old, some new => if old.number = new.number then [] else [.closed old.number]

@[simp] theorem parting_none_left (s : Option (Numbered S)) : parting none s = [] := by
  simp only [parting]

@[simp] theorem parting_self (s : Option (Numbered S)) : parting s s = [] := by
  cases s with
  | none => rfl
  | some a => simp [parting]

namespace ModbusWatch

/-- Write down a deed. -/
def note (d : ModbusDeed) (w : ModbusWatch δ S) : ModbusWatch δ S :=
  { w with deeds := w.deeds ++ [d] }

/-- The device. -/
def devicePart : Part (ModbusWatch δ S) δ := ⟨ModbusWatch.device, fun d w => { w with device := d }⟩

/-- What the connection knows. A session that leaves it is dropped. -/
def statusPart : Part (ModbusWatch δ S) (ModbusStatus (Numbered S)) where
  get := ModbusWatch.status
  set st w := { w with status := st, deeds := w.deeds ++ parting w.status.session st.session }

theorem devicePart_lawful : (devicePart : Part (ModbusWatch δ S) δ).Lawful :=
  ⟨fun _ _ => rfl, fun _ => rfl, fun _ _ _ => rfl⟩

/-- Something that the device does, begun with a deed. -/
def doing (d : ModbusDeed) (p : Routine δ α) : Routine (ModbusWatch δ S) α := do
  .change (note d)
  p.within devicePart

/-- Number the session that an attempt has opened. -/
def enter (handle : S) : Routine (ModbusWatch δ S) (Numbered S) :=
  .changeTelling
    (fun w => { w with opened := w.opened + 1, deeds := w.deeds ++ [.opened w.opened] })
    fun w => ⟨w.opened, handle⟩

/-- A controller under watch. The connection itself reads nothing but its probe. -/
def controller (c : Controller δ S) : Controller (ModbusWatch δ S) (Numbered S) where
  connect := do
    match ← doing .trial c.connect with
    | .ok handle => return .ok (← enter handle)
    | .error f => return .error f
  readHolding s a n := doing (.probed s.number) (c.readHolding s.handle a n)
  readInput s a n := (c.readInput s.handle a n).within devicePart
  writeSingle s a w := (c.writeSingle s.handle a w).within devicePart
  writeMultiple s a ws := (c.writeMultiple s.handle a ws).within devicePart

/-- A connection under watch. -/
def link (settings : ModbusSettings) (c : Controller δ S) :
    ModbusLink (ModbusWatch δ S) (Numbered S) where
  settings
  controller := controller c
  status := statusPart
  report e := note (.told e)

/-- A callback under watch. -/
def lend (body : S → Routine δ (Outcome α)) (s : Numbered S) :
    Routine (ModbusWatch δ S) (Outcome α) :=
  doing (.used s.number) (body s.handle)

/-! ## Steps -/

theorem ends_doing {d : ModbusDeed} {p : Routine δ α} {w w' : ModbusWatch δ S} {a : α}
    (h : (doing d p).Ends w a w') :
    ∃ x, p.Ends w.device a x ∧ w' = { w with device := x, deeds := w.deeds ++ [d] } := by
  obtain ⟨_, w₁, hnote, hp⟩ := Routine.ends_do.1 h
  obtain rfl := Routine.ends_change.1 hnote
  exact (Routine.ends_within devicePart_lawful).1 hp

/-- An attempt begins with its deed. One that succeeds opens a session with the next number. -/
theorem ends_trial {c : Controller δ S} {w w' : ModbusWatch δ S} {r : Outcome (Numbered S)}
    (h : (controller c).connect.Ends w r w') :
    (∃ f x, r = .error f ∧ c.connect.Ends w.device (.error f) x ∧
      w' = { w with device := x, deeds := w.deeds ++ [.trial] }) ∨
    (∃ handle x, r = .ok ⟨w.opened, handle⟩ ∧ c.connect.Ends w.device (.ok handle) x ∧
      w' = { w with
        device := x, opened := w.opened + 1, deeds := w.deeds ++ [.trial, .opened w.opened] }) := by
  obtain ⟨o, w₁, hdo, hrest⟩ := Routine.ends_do.1 h
  obtain ⟨x, hx, rfl⟩ := ends_doing hdo
  cases o with
  | error f =>
      obtain ⟨rfl, rfl⟩ := hrest
      exact .inl ⟨f, x, rfl, hx, rfl⟩
  | ok handle =>
      obtain ⟨s, w₂, henter, rfl, rfl⟩ := Routine.ends_do.1 hrest
      obtain ⟨rfl, rfl⟩ := Routine.ends_changeTelling.1 henter
      exact .inr ⟨handle, x, rfl, hx, by simp⟩

/-! ## Connecting -/

/-- The device turns down attempts one after the other. -/
def Refused (c : Controller δ S) : List Fault → δ → δ → Prop
  | [], d, d' => d = d'
  | f :: faults, d, d' => ∃ x, c.connect.Ends d (.error f) x ∧ Refused c faults x d'

theorem refused_concat {c : Controller δ S} {faults : List Fault} {f : Fault} {d x d' : δ}
    (h : Refused c faults d x) (hf : c.connect.Ends x (.error f) d') :
    Refused c (faults ++ [f]) d d' := by
  induction faults generalizing d with
  | nil =>
      obtain rfl := h
      exact ⟨d', hf, rfl⟩
  | cons g faults ih =>
      obtain ⟨y, hy, hrest⟩ := h
      exact ⟨y, hy, ih hrest⟩

/-- So many attempts have been turned down. -/
def turnedDown (n : Nat) (d : δ) (w : ModbusWatch δ S) : ModbusWatch δ S :=
  { w with device := d, deeds := w.deeds ++ List.replicate n .trial }

variable {settings : ModbusSettings} {c : Controller δ S}

/-- The log of a connection under watch is not looked at. -/
theorem ends_noteAttempt {n : Nat} {wait : Option Span} {f : Fault} {w w' : ModbusWatch δ S}
    {u : Unit} (h : ((link settings c).noteAttempt n wait f).Ends w u w') : w = w' := h.2

theorem ends_note {level : LogLevel} {text : String} {w w' : ModbusWatch δ S} {u : Unit}
    (h : ((link settings c).note level text).Ends w u w') : w = w' := h.2

private theorem failing_refused {p : Backoff} {n : Nat} {faults : List Fault}
    {w w' : ModbusWatch δ S}
    (h : p.Failing (link settings c).noteAttempt (controller c).connect n faults w w') :
    ∃ x, Refused c faults w.device x ∧ w' = w.turnedDown faults.length x := by
  induction faults generalizing n w with
  | nil =>
      obtain rfl := h
      exact ⟨w.device, rfl, by simp [turnedDown]⟩
  | cons f faults ih =>
      obtain ⟨w₁, w₂, htrial, htell, hrest⟩ := h
      obtain rfl := ends_noteAttempt htell
      rcases ends_trial htrial with ⟨g, x, hg, hx, rfl⟩ | ⟨handle, x, hok, _⟩
      · cases hg
        obtain ⟨y, hy, rfl⟩ := ih hrest
        exact ⟨y, ⟨x, hx, hy⟩, by simp [turnedDown, List.replicate_succ]⟩
      · cases hok

/-- The attempts of one connecting: behind fewer refusals than there are attempts a session is
opened, or all attempts are turned down. -/
theorem ends_tries {w w' : ModbusWatch δ S} {r : Outcome (Numbered S)}
    (h : (settings.retry.retry (controller c).connect (link settings c).noteAttempt).Ends w r w') :
    ∃ faults x, Refused c faults w.device x ∧
      ((faults.length < settings.retry.attempts ∧ ∃ handle x', c.connect.Ends x (.ok handle) x' ∧
          r = .ok ⟨w.opened, handle⟩ ∧ w' = { w.turnedDown faults.length x' with
            opened := w.opened + 1
            deeds := w.deeds ++ List.replicate faults.length .trial ++
              [.trial, .opened w.opened] }) ∨
        (faults.length = settings.retry.attempts ∧ ∃ f, faults.getLast? = some f ∧ r = .error f ∧
          w' = w.turnedDown faults.length x)) := by
  have hpos := settings.retry.attempts_pos
  obtain ⟨faults, mid, hfail, hend⟩ := Backoff.ends_retry h
  obtain ⟨x, hx, rfl⟩ := failing_refused hfail
  rcases hend with ⟨hle, s, rfl, hok⟩ | ⟨heq, f, w₁, rfl, herr, htell⟩
  · refine ⟨faults, x, hx, .inl ⟨by omega, ?_⟩⟩
    rcases ends_trial hok with ⟨g, y, hg, _⟩ | ⟨handle, y, hs, hy, rfl⟩
    · cases hg
    · exact ⟨handle, y, hy, hs, by simp [turnedDown]⟩
  · obtain rfl := ends_noteAttempt htell
    rcases ends_trial herr with ⟨g, y, hg, hy, rfl⟩ | ⟨handle, y, hs, _⟩
    · cases hg
      refine ⟨faults ++ [f], y, refused_concat hx hy, .inr ⟨?_, f, by simp, rfl, ?_⟩⟩
      · rw [List.length_append, List.length_singleton]
        omega
      · simp [turnedDown, List.replicate_succ']
    · cases hs

end ModbusWatch

end HomeEnergy
