import HomeEnergy.Proofs.Modbus.Watch

/-!
# The course of initialization and of a use

What one call does to a connection under watch, in all cases: which deeds it does and in which
order, what the device has answered to each of them, and what the connection knows when the call is
over.

## Main results

* `ModbusWatch.ends_connect` — replacing the session.
* `ModbusWatch.ends_init` — initialization.
* `ModbusWatch.ends_ensureLive` — looking after the session.
* `ModbusWatch.ends_executeUnlocked` — a use, whatever it is for.
* `ModbusWatch.ends_execute` — a use that reaches nothing but the device.
-/

namespace HomeEnergy.ModbusWatch

variable {δ S α : Type} {settings : ModbusSettings} {c : Controller δ S}

/-! ## Replacing the session -/

/-- Behind `n` refusals a session has been opened. -/
def renewed (w : ModbusWatch δ S) (n : Nat) (handle : S) (d : δ) : ModbusWatch δ S where
  status := { w.status with session := some ⟨w.opened, handle⟩, state := .ready }
  device := d
  opened := w.opened + 1
  deeds := w.deeds ++
    (parting w.status.session none ++ List.replicate n .trial ++ [.trial, .opened w.opened])

/-- All of `n` attempts have been turned down. -/
def deserted (w : ModbusWatch δ S) (n : Nat) (d : δ) : ModbusWatch δ S where
  status := { w.status with session := none, state := .failed }
  device := d
  opened := w.opened
  deeds := w.deeds ++ (parting w.status.session none ++ List.replicate n .trial)

/-- The ways in which connecting ends: a session behind fewer refusals than there are attempts, or
the fault of the last attempt. -/
inductive Connects (settings : ModbusSettings) (c : Controller δ S) (w : ModbusWatch δ S) :
    Outcome Unit → ModbusWatch δ S → Prop where
  | opened {faults : List Fault} {x y : δ} {handle : S} {w' : ModbusWatch δ S}
      (refused : Refused c faults w.device x) (few : faults.length < settings.retry.attempts)
      (accepted : c.connect.Ends x (.ok handle) y) (after : w' = w.renewed faults.length handle y) :
      Connects settings c w (.ok ()) w'
  | refused {faults : List Fault} {x : δ} {f : Fault} {w' : ModbusWatch δ S}
      (refused : Refused c faults w.device x) (all : faults.length = settings.retry.attempts)
      (last : faults.getLast? = some f) (after : w' = w.deserted faults.length x) :
      Connects settings c w (.error f) w'

theorem ends_update {g : ModbusStatus (Numbered S) → ModbusStatus (Numbered S)}
    {w w' : ModbusWatch δ S} {u : Unit} (h : ((link settings c).update g).Ends w u w') :
    w' = { w with
      status := g w.status
      deeds := w.deeds ++ parting w.status.session (g w.status).session } :=
  (Routine.ends_change.1 h).symm

theorem ends_tell {e : LinkEvent} {w w' : ModbusWatch δ S} {u : Unit}
    (h : ((link settings c).tell e).Ends w u w') : w' = w.note (.told e) :=
  (Routine.ends_change.1 h).symm

theorem ends_connect {w w' : ModbusWatch δ S} {r : Outcome Unit}
    (h : (link settings c).connect.Ends w r w') : Connects settings c w r w' := by
  obtain ⟨_, w₁, hdrop, htries⟩ := Routine.ends_do.1 h
  obtain rfl := ends_update hdrop
  obtain ⟨o, w₂, htries, hrest⟩ := Routine.ends_do.1 htries
  obtain ⟨faults, x, hx, hend⟩ := ends_tries htries
  rcases hend with ⟨hfew, handle, y, hy, rfl, rfl⟩ | ⟨hall, f, hlast, rfl, rfl⟩
  · obtain ⟨_, w₃, hnote, hrest⟩ := Routine.ends_do.1 hrest
    obtain rfl := ends_note hnote
    obtain ⟨_, w₄, hset, rfl, rfl⟩ := Routine.ends_do.1 hrest
    obtain rfl := ends_update hset
    exact .opened hx hfew hy (by simp [renewed, turnedDown])
  · obtain ⟨_, w₃, hnote, hrest⟩ := Routine.ends_do.1 hrest
    obtain rfl := ends_note hnote
    obtain ⟨_, w₄, hset, rfl, rfl⟩ := Routine.ends_do.1 hrest
    obtain rfl := ends_update hset
    exact .refused hx hall hlast (by simp [deserted, turnedDown])

/-! ## Initialization -/

/-- The first session, or one after another, is there. -/
def initialized (w : ModbusWatch δ S) : ModbusWatch δ S :=
  { w with
    status := { w.status with initialized := true }
    deeds := w.deeds ++ [.told .initialized] }

theorem ends_known {w w' : ModbusWatch δ S} {st : ModbusStatus (Numbered S)} :
    (link settings c).known.Ends w st w' ↔ w.status = st ∧ w = w' := by
  constructor
  · intro h
    obtain ⟨w₁, w₂, ⟨rfl, rfl⟩, rfl, rfl⟩ := Routine.ends_do.1 h
    exact ⟨rfl, rfl⟩
  · rintro ⟨rfl, rfl⟩
    exact Routine.ends_do.2 ⟨w, w, ⟨rfl, rfl⟩, rfl, rfl⟩

theorem ends_init {w w' : ModbusWatch δ S} {r : Outcome Unit}
    (h : (link settings c).init.Ends w r w') :
    (w.status.session.isSome ∧ r = .ok () ∧ w' = w) ∨
    (w.status.session = none ∧ ∃ w₁, Connects settings c w r w₁ ∧
      ((r = .ok () ∧ w' = w₁.initialized) ∨
        ((∃ f, r = .error f) ∧ w' = w₁.note (.told .initFailed)))) := by
  obtain ⟨st, w₁, hknown, hrest⟩ := Routine.ends_do.1 (Routine.ends_locked.1 h)
  obtain ⟨rfl, rfl⟩ := ends_known.1 hknown
  cases hs : w.status.session with
  | some s =>
      rw [hs] at hrest
      obtain ⟨rfl, rfl⟩ := hrest
      exact .inl ⟨rfl, rfl, rfl⟩
  | none =>
      rw [hs] at hrest
      right
      refine ⟨rfl, ?_⟩
      obtain ⟨o, w₂, hconnect, hrest⟩ := Routine.ends_do.1 hrest
      have hcon := ends_connect hconnect
      cases o with
      | ok u =>
          obtain ⟨_, w₃, hset, hrest⟩ := Routine.ends_do.1 hrest
          obtain ⟨_, w₄, htell, rfl, rfl⟩ := Routine.ends_do.1 hrest
          obtain rfl := ends_update hset
          obtain rfl := ends_tell htell
          exact ⟨w₂, hcon, .inl ⟨rfl, by simp [initialized, note]⟩⟩
      | error f =>
          obtain ⟨_, w₃, htell, rfl, rfl⟩ := Routine.ends_do.1 hrest
          obtain rfl := ends_tell htell
          exact ⟨w₂, hcon, .inr ⟨⟨f, rfl⟩, rfl⟩⟩

/-! ## Looking after the session -/

/-- What there is to learn about a session before a use: whether it is alive, which deeds that
takes, and the device behind them. Without a probe a session counts as alive. -/
inductive Checked (settings : ModbusSettings) (c : Controller δ S) (d : δ) :
    Option (Numbered S) → Bool → List ModbusDeed → δ → Prop where
  | absent : Checked settings c d none false [] d
  | trusted {s : Numbered S} (unprobed : settings.probe = none) :
      Checked settings c d (some s) true [] d
  | alive {s : Numbered S} {p : LivenessProbe} {words : List UInt16} {x : δ}
      (probed : settings.probe = some p)
      (answer : (c.readHolding s.handle p.address p.count).Ends d (.ok words) x) :
      Checked settings c d (some s) true [.probed s.number] x
  | dead {s : Numbered S} {p : LivenessProbe} {f : Fault} {x : δ}
      (probed : settings.probe = some p)
      (answer : (c.readHolding s.handle p.address p.count).Ends d (.error f) x) :
      Checked settings c d (some s) false [.probed s.number] x

/-- The check has been made. -/
def checked (w : ModbusWatch δ S) (checks : List ModbusDeed) (d : δ) : ModbusWatch δ S :=
  { w with device := d, deeds := w.deeds ++ checks }

theorem ends_isLive {s : Option (Numbered S)} {live : Bool} {w w' : ModbusWatch δ S}
    (h : ((link settings c).isLive s).Ends w live w') :
    ∃ checks x, Checked settings c w.device s live checks x ∧ w' = w.checked checks x := by
  cases s with
  | none =>
      obtain ⟨rfl, rfl⟩ := h
      exact ⟨[], w.device, .absent, by simp [checked]⟩
  | some s =>
      cases hp : settings.probe with
      | none =>
          have hlink : (link settings c).settings.probe = none := hp
          simp only [ModbusLink.isLive, hlink] at h
          obtain ⟨rfl, rfl⟩ := h
          exact ⟨[], w.device, .trusted hp, by simp [checked]⟩
      | some p =>
          have hlink : (link settings c).settings.probe = some p := hp
          simp only [ModbusLink.isLive, hlink] at h
          obtain ⟨o, w₁, hread, hrest⟩ := Routine.ends_do.1 h
          obtain ⟨x, hx, rfl⟩ := ends_doing hread
          cases o with
          | ok words =>
              obtain ⟨rfl, rfl⟩ := hrest
              exact ⟨_, x, .alive hp hx, rfl⟩
          | error f =>
              obtain ⟨_, w₂, hnote, rfl, rfl⟩ := Routine.ends_do.1 hrest
              obtain rfl := ends_note hnote
              exact ⟨_, x, .dead hp hx, rfl⟩

theorem ends_ensureLive {w w' : ModbusWatch δ S} {r : Outcome Unit}
    (h : (link settings c).ensureLive.Ends w r w') :
    ∃ live checks x, Checked settings c w.device w.status.session live checks x ∧
      ((live = true ∧ r = .ok () ∧ w' = w.checked checks x) ∨
        (live = false ∧ ∃ w₁, Connects settings c (w.checked checks x) r w₁ ∧
          ((r = .ok () ∧ w' = w₁.note (.told .reinitialized)) ∨
            ((∃ f, r = .error f) ∧ w' = w₁)))) := by
  obtain ⟨st, w₁, hknown, hrest⟩ := Routine.ends_do.1 h
  obtain ⟨rfl, rfl⟩ := ends_known.1 hknown
  obtain ⟨live, w₂, hlive, hrest⟩ := Routine.ends_do.1 hrest
  obtain ⟨checks, x, hcheck, rfl⟩ := ends_isLive hlive
  refine ⟨live, checks, x, hcheck, ?_⟩
  cases live with
  | true =>
      obtain ⟨rfl, rfl⟩ := hrest
      exact .inl ⟨rfl, rfl, rfl⟩
  | false =>
      right
      refine ⟨rfl, ?_⟩
      obtain ⟨o, w₃, hconnect, hrest⟩ := Routine.ends_do.1 hrest
      have hcon := ends_connect hconnect
      cases o with
      | ok u =>
          obtain ⟨_, w₄, htell, rfl, rfl⟩ := Routine.ends_do.1 hrest
          obtain rfl := ends_tell htell
          exact ⟨w₃, hcon, .inl ⟨rfl, rfl⟩⟩
      | error f =>
          obtain ⟨rfl, rfl⟩ := hrest
          exact ⟨w₃, hcon, .inr ⟨⟨f, rfl⟩, rfl⟩⟩

/-! ## A use -/

/-- The results that end a session: the faults of the way to the device. -/
def severs : Outcome α → Bool
  | .error (.connectionFailed _ _) | .error (.timeout _) => true
  | .error (.modbus _) | .error (.httpClient _) => true
  | _ => false

theorem severs_error (f : Fault) : severs (.error f : Outcome α) = f.retryable := by
  cases f <;> rfl

/-- What a result means for the session. -/
def aftermath (s : Numbered S) (r : Outcome α) : List ModbusDeed :=
  if severs r then [.closed s.number, .told .requestFailed] else []

/-- A session has been lent to a callback, with a result that may end it. -/
def lent (w : ModbusWatch δ S) (s : Numbered S) (r : Outcome α) (d : δ) : ModbusWatch δ S where
  status := if severs r then { w.status with session := none, state := .failed } else w.status
  device := d
  opened := w.opened
  deeds := w.deeds ++ (.used s.number :: aftermath s r)

/-- A callback of any kind has returned, with a result that may end the session. -/
def settled (w : ModbusWatch δ S) (r : Outcome α) : ModbusWatch δ S :=
  if severs r then { w with
    status := { w.status with session := none, state := .failed }
    deeds := w.deeds ++ (parting w.status.session none ++ [.told .requestFailed]) }
  else w

theorem settled_device (w : ModbusWatch δ S) (r : Outcome α) : (w.settled r).device = w.device := by
  unfold settled
  split <;> rfl

theorem settled_initialized (w : ModbusWatch δ S) (r : Outcome α) :
    (w.settled r).status.initialized = w.status.initialized := by
  unfold settled
  split <;> rfl

theorem ends_useSession {body : Numbered S → Routine (ModbusWatch δ S) (Outcome α)}
    {s : Numbered S} {w w' : ModbusWatch δ S} {r : Outcome α}
    (h : ((link settings c).useSession s body).Ends w r w') :
    ∃ w₁, (body s).Ends w r w₁ ∧ w' = w₁.settled r := by
  obtain ⟨o, w₁, hbody, hrest⟩ := Routine.ends_do.1 h
  cases o with
  | ok a =>
      obtain ⟨rfl, rfl⟩ := hrest
      exact ⟨w₁, hbody, rfl⟩
  | error f =>
      have hsev := severs_error (α := α) f
      cases hf : f.retryable with
      | false =>
          simp only [hf, Bool.false_eq_true, if_false] at hrest
          obtain ⟨rfl, rfl⟩ := hrest
          exact ⟨w₁, hbody, by simp [settled, hsev, hf]⟩
      | true =>
          simp only [hf, if_true] at hrest
          obtain ⟨_, w₂, hnote, hrest⟩ := Routine.ends_do.1 hrest
          obtain rfl := ends_note hnote
          obtain ⟨_, w₃, hset, hrest⟩ := Routine.ends_do.1 hrest
          obtain rfl := ends_update hset
          obtain ⟨_, w₄, htell, rfl, rfl⟩ := Routine.ends_do.1 hrest
          obtain rfl := ends_tell htell
          exact ⟨w₁, hbody, by simp [settled, hsev, hf, note]⟩

theorem ends_lend {body : S → Routine δ (Outcome α)} {s : Numbered S} {w w₁ : ModbusWatch δ S}
    {r : Outcome α} (hs : w.status.session = some s) (h : (lend body s).Ends w r w₁) :
    ∃ x, (body s.handle).Ends w.device r x ∧ w₁.settled r = w.lent s r x := by
  obtain ⟨x, hx, rfl⟩ := ends_doing h
  refine ⟨x, hx, ?_⟩
  cases hr : severs r with
  | true => simp [settled, lent, aftermath, hr, hs, parting]
  | false => simp [settled, lent, aftermath, hr]

/-- The ways in which a use of an initialized connection ends. The callback gets the session that
has passed the check or a new one; without a session there is no callback. -/
inductive Uses (settings : ModbusSettings) (c : Controller δ S) (body : S → Routine δ (Outcome α))
    (w : ModbusWatch δ S) : Outcome α → ModbusWatch δ S → Prop where
  | held {checks : List ModbusDeed} {x y : δ} {s : Numbered S} {r : Outcome α}
      {w' : ModbusWatch δ S}
      (check : Checked settings c w.device w.status.session true checks x)
      (session : w.status.session = some s) (result : (body s.handle).Ends x r y)
      (after : w' = (w.checked checks x).lent s r y) : Uses settings c body w r w'
  | renewed {checks : List ModbusDeed} {x z : δ} {faults : List Fault} {y y' : δ} {handle : S}
      {r : Outcome α} {w' : ModbusWatch δ S}
      (check : Checked settings c w.device w.status.session false checks x)
      (refused : Refused c faults x y) (few : faults.length < settings.retry.attempts)
      (accepted : c.connect.Ends y (.ok handle) y') (result : (body handle).Ends y' r z)
      (after : w' = (((w.checked checks x).renewed faults.length handle y').note
        (.told .reinitialized)).lent ⟨w.opened, handle⟩ r z) : Uses settings c body w r w'
  | deserted {checks : List ModbusDeed} {x y : δ} {faults : List Fault} {f : Fault}
      {w' : ModbusWatch δ S}
      (check : Checked settings c w.device w.status.session false checks x)
      (refused : Refused c faults x y) (all : faults.length = settings.retry.attempts)
      (last : faults.getLast? = some f)
      (after : w' = (w.checked checks x).deserted faults.length y) :
      Uses settings c body w (.error f) w'

/-- A session that has passed the check is there. -/
theorem Checked.held {d x : δ} {s : Option (Numbered S)} {checks : List ModbusDeed}
    (h : Checked settings c d s true checks x) : ∃ a, s = some a := by
  cases h with
  | trusted _ => exact ⟨_, rfl⟩
  | alive _ _ => exact ⟨_, rfl⟩

/-- The ways to a session for a callback: the one that is there passes the check, or a new one takes
its place. -/
inductive Readied (settings : ModbusSettings) (c : Controller δ S) (w : ModbusWatch δ S) :
    Numbered S → ModbusWatch δ S → Prop where
  | held {checks : List ModbusDeed} {x : δ} {s : Numbered S}
      (check : Checked settings c w.device w.status.session true checks x)
      (session : w.status.session = some s) : Readied settings c w s (w.checked checks x)
  | renewed {checks : List ModbusDeed} {x : δ} {faults : List Fault} {y y' : δ} {handle : S}
      (check : Checked settings c w.device w.status.session false checks x)
      (refused : Refused c faults x y) (few : faults.length < settings.retry.attempts)
      (accepted : c.connect.Ends y (.ok handle) y') :
      Readied settings c w ⟨w.opened, handle⟩
        (((w.checked checks x).renewed faults.length handle y').note (.told .reinitialized))

/-- The way to a session leads nowhere: all attempts are turned down. -/
inductive Unserved (settings : ModbusSettings) (c : Controller δ S) (w : ModbusWatch δ S) :
    Fault → ModbusWatch δ S → Prop where
  | mk {checks : List ModbusDeed} {x y : δ} {faults : List Fault} {f : Fault}
      (check : Checked settings c w.device w.status.session false checks x)
      (refused : Refused c faults x y) (all : faults.length = settings.retry.attempts)
      (last : faults.getLast? = some f) :
      Unserved settings c w f ((w.checked checks x).deserted faults.length y)

theorem Readied.session {w w₁ : ModbusWatch δ S} {s : Numbered S} (h : Readied settings c w s w₁) :
    w₁.status.session = some s := by
  cases h with
  | held _ session => exact session
  | renewed _ _ _ _ => rfl

/-- A use with a callback of any kind, which may also work on the connection itself. -/
theorem ends_executeUnlocked {body : Numbered S → Routine (ModbusWatch δ S) (Outcome α)}
    {w w' : ModbusWatch δ S} {r : Outcome α}
    (h : ((link settings c).executeUnlocked body).Ends w r w') :
    (w.status.initialized = false ∧ r = .error (.notInitialized settings.name) ∧ w' = w) ∨
    (w.status.initialized = true ∧
      ((∃ s w₁ w₂, Readied settings c w s w₁ ∧ (body s).Ends w₁ r w₂ ∧ w' = w₂.settled r) ∨
        ∃ f, r = .error f ∧ Unserved settings c w f w')) := by
  obtain ⟨st, w₁, hknown, hrest⟩ := Routine.ends_do.1 h
  obtain ⟨rfl, rfl⟩ := ends_known.1 hknown
  cases hi : w.status.initialized with
  | false =>
      rw [hi] at hrest
      obtain ⟨rfl, rfl⟩ := hrest
      exact .inl ⟨rfl, rfl, rfl⟩
  | true =>
      rw [hi] at hrest
      right
      refine ⟨rfl, ?_⟩
      obtain ⟨o, w₂, hensure, hrest⟩ := Routine.ends_do.1 hrest
      obtain ⟨live, checks, x, hcheck, hend⟩ := ends_ensureLive hensure
      rcases hend with ⟨rfl, rfl, rfl⟩ | ⟨rfl, w₃, hcon, ⟨rfl, rfl⟩ | ⟨⟨f, rfl⟩, rfl⟩⟩
      · obtain ⟨s, hs⟩ := hcheck.held
        obtain ⟨st, w₃, hknown, huse⟩ := Routine.ends_do.1 hrest
        obtain ⟨rfl, rfl⟩ := ends_known.1 hknown
        have hs' : (w.checked checks x).status.session = some s := hs
        rw [hs'] at huse
        obtain ⟨w₃, hbody, rfl⟩ := ends_useSession huse
        exact .inl ⟨s, _, w₃, .held hcheck hs, hbody, rfl⟩
      · cases hcon with
        | @opened faults y y' handle _ hrefused hfew haccepted hw₃ =>
            subst hw₃
            obtain ⟨st, w₃, hknown, huse⟩ := Routine.ends_do.1 hrest
            obtain ⟨rfl, rfl⟩ := ends_known.1 hknown
            obtain ⟨w₄, hbody, rfl⟩ := ends_useSession huse
            exact .inl ⟨_, _, w₄, .renewed hcheck hrefused hfew haccepted, hbody, rfl⟩
      · cases hcon with
        | refused hrefused hall hlast hw₃ =>
            subst hw₃
            obtain ⟨rfl, rfl⟩ := hrest
            exact .inr ⟨_, rfl, .mk hcheck hrefused hall hlast⟩

theorem ends_execute {body : S → Routine δ (Outcome α)} {w w' : ModbusWatch δ S} {r : Outcome α}
    (h : ((link settings c).execute (lend body)).Ends w r w') :
    (w.status.initialized = false ∧ r = .error (.notInitialized settings.name) ∧ w' = w) ∨
    (w.status.initialized = true ∧ Uses settings c body w r w') := by
  rcases ends_executeUnlocked (Routine.ends_locked.1 h) with
    hnot | ⟨hinit, ⟨s, w₁, w₂, hready, hbody, rfl⟩ | ⟨f, rfl, hunserved⟩⟩
  · exact .inl hnot
  · obtain ⟨y, hy, hlent⟩ := ends_lend hready.session hbody
    refine .inr ⟨hinit, ?_⟩
    rw [hlent]
    cases hready with
    | held check session => exact .held check session hy rfl
    | renewed check refused few accepted => exact .renewed check refused few accepted hy rfl
  · cases hunserved with
    | mk check refused all last => exact .inr ⟨hinit, .deserted check refused all last rfl⟩

end HomeEnergy.ModbusWatch
