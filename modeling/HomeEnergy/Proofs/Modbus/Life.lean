import HomeEnergy.Proofs.Modbus.Course

/-!
# The life of a Modbus connection

A connection lives from call to call. Between two calls time passes and the device may change in any
way; during a call the device answers what it likes. `ModbusWatch.Life` relates the calls so far to
what a connection can have become. Three things that a connection knows depend on each other
(whether there has been a session, the session, and the state), and `ModbusWatch.Sound` says how.

## Main results

* `ModbusWatch.Life.sound` — what the connection knows fits together after every row of calls.
* `ModbusWatch.status_of_life` — the status, what calls may do, and the sessions at every moment.
-/

namespace HomeEnergy

/-! ## The sessions that exist -/

/-- The sessions that exist behind a deed, if these existed before it. -/
def ModbusDeed.after (ns : List Nat) : ModbusDeed → List Nat
  | opened n => ns ++ [n]
  | closed n => ns.erase n
  | trial | probed _ | used _ | told _ => ns

/-- The sessions that exist behind a row of deeds. -/
def sessions (deeds : List ModbusDeed) : List Nat := deeds.foldl ModbusDeed.after []

@[simp] theorem sessions_concat (deeds : List ModbusDeed) (d : ModbusDeed) :
    sessions (deeds ++ [d]) = d.after (sessions deeds) := by
  simp [sessions]

/-- At no moment in a row of deeds is there more than one session, and no attempt to open one begins
while there is another. In the end there are the given sessions. -/
structure Orderly (deeds : List ModbusDeed) (ns : List Nat) : Prop where
  left : sessions deeds = ns
  atMostOne : ∀ moment, moment <+: deeds → (sessions moment).length ≤ 1
  noneAtTrial : ∀ moment, moment ++ [.trial] <+: deeds → sessions moment = []

namespace Orderly

variable {deeds : List ModbusDeed} {ns : List Nat}

theorem nil : Orderly [] [] where
  left := rfl
  atMostOne := by
    intro moment h
    rw [List.prefix_nil.1 h]
    exact Nat.zero_le 1
  noneAtTrial := by
    intro moment h
    have := List.prefix_nil.1 h
    simp at this

/-- One more deed. -/
theorem concat (h : Orderly deeds ns) {d : ModbusDeed} (htrial : d = .trial → ns = [])
    (hlen : (d.after ns).length ≤ 1) : Orderly (deeds ++ [d]) (d.after ns) := by
  refine ⟨by rw [sessions_concat, h.left], ?_, ?_⟩
  · intro moment hm
    rcases List.prefix_concat_iff.1 hm with rfl | hm
    · rw [sessions_concat, h.left]
      exact hlen
    · exact h.atMostOne moment hm
  · intro moment hm
    rcases List.prefix_concat_iff.1 hm with heq | hm
    · obtain ⟨rfl, hd⟩ := List.append_inj' heq rfl
      rw [h.left]
      exact htrial (by simpa using hd.symm)
    · exact h.noneAtTrial moment hm

theorem length_le (h : Orderly deeds ns) : ns.length ≤ 1 := by
  rw [← h.left]
  exact h.atMostOne deeds (List.prefix_refl _)

/-- A deed that is no attempt and leaves the sessions alone. -/
theorem quiet (h : Orderly deeds ns) {d : ModbusDeed} (htrial : d ≠ .trial) (hd : d.after ns = ns) :
    Orderly (deeds ++ [d]) ns := by
  have := h.concat (d := d) (fun e => absurd e htrial) (by rw [hd]; exact h.length_le)
  rwa [hd] at this

theorem told (h : Orderly deeds ns) (e : LinkEvent) : Orderly (deeds ++ [.told e]) ns :=
  h.quiet (by simp) rfl

theorem used (h : Orderly deeds ns) (n : Nat) : Orderly (deeds ++ [.used n]) ns :=
  h.quiet (by simp) rfl

theorem trials (h : Orderly deeds []) (k : Nat) :
    Orderly (deeds ++ List.replicate k .trial) [] := by
  induction k with
  | zero => simpa using h
  | succ k ih =>
      rw [List.replicate_succ', ← List.append_assoc]
      exact ih.concat (fun _ => rfl) (Nat.zero_le 1)

theorem opened (h : Orderly deeds []) (n : Nat) : Orderly (deeds ++ [.opened n]) [n] :=
  h.concat (fun e => by cases e) (Nat.le_refl 1)

theorem closed {n : Nat} (h : Orderly deeds [n]) : Orderly (deeds ++ [.closed n]) [] := by
  have := h.concat (d := .closed n) (fun e => by cases e) (by simp [ModbusDeed.after])
  simpa [ModbusDeed.after] using this

end Orderly

namespace ModbusWatch

variable {δ S α : Type} {settings : ModbusSettings} {c : Controller δ S}

/-! ## What fits together -/

/-- The number of the session that is held, if one is. -/
def held (w : ModbusWatch δ S) : List Nat := (w.status.session.map (·.number)).toList

/-- What a connection knows between two calls fits together with what it has done. -/
structure Tidy (w : ModbusWatch δ S) : Prop where
  ready_iff : w.status.state = .ready ↔ w.status.session.isSome
  settled : w.status.state ≠ .initializing
  orderly : Orderly w.deeds w.held

namespace Tidy

variable {w : ModbusWatch δ S}

theorem fresh (d : δ) : Tidy ({ device := d } : ModbusWatch δ S) :=
  ⟨by simp, by simp, .nil⟩

theorem device (h : w.Tidy) (d : δ) : Tidy { w with device := d } :=
  ⟨h.ready_iff, h.settled, h.orderly⟩

theorem told (h : w.Tidy) (e : LinkEvent) : (w.note (.told e)).Tidy :=
  ⟨h.ready_iff, h.settled, h.orderly.told e⟩

theorem initialized (h : w.Tidy) : w.initialized.Tidy :=
  ⟨h.ready_iff, h.settled, h.orderly.told _⟩

/-- The check leaves all as it was, but for the probe. -/
theorem checked (h : w.Tidy) {session : Option (Numbered S)} {d x : δ} {live : Bool}
    {checks : List ModbusDeed} (hc : Checked settings c d session live checks x) :
    (w.checked checks x).Tidy := by
  refine ⟨h.ready_iff, h.settled, ?_⟩
  show Orderly (w.deeds ++ checks) w.held
  cases hc with
  | absent => simpa using h.orderly
  | trusted _ => simpa using h.orderly
  | alive _ _ => exact h.orderly.quiet (by simp) rfl
  | dead _ _ => exact h.orderly.quiet (by simp) rfl

/-- The old session is dropped before the first attempt, so attempts begin without one. -/
theorem dropped (h : w.Tidy) : Orderly (w.deeds ++ parting w.status.session none) [] := by
  have horderly := h.orderly
  cases hs : w.status.session with
  | none => simpa [held, hs] using horderly
  | some s =>
      simp only [held, hs] at horderly
      exact horderly.closed

theorem renewed (h : w.Tidy) (n : Nat) (handle : S) (d : δ) : (w.renewed n handle d).Tidy := by
  refine ⟨by simp [ModbusWatch.renewed], by simp [ModbusWatch.renewed], ?_⟩
  have hrow := ((h.dropped.trials n).trials 1).opened w.opened
  simpa [ModbusWatch.renewed, held] using hrow

theorem deserted (h : w.Tidy) (n : Nat) (d : δ) : (w.deserted n d).Tidy := by
  refine ⟨by simp [ModbusWatch.deserted], by simp [ModbusWatch.deserted], ?_⟩
  have hrow := h.dropped.trials n
  simpa [ModbusWatch.deserted, held] using hrow

theorem lent (h : w.Tidy) {s : Numbered S} (hs : w.status.session = some s) (r : Outcome α)
    (d : δ) : (w.lent s r d).Tidy := by
  have horderly := h.orderly
  simp only [held, hs] at horderly
  have hused := horderly.used s.number
  cases hr : severs r with
  | true =>
      have hrow := hused.closed.told .requestFailed
      exact ⟨by simp [ModbusWatch.lent, hr], by simp [ModbusWatch.lent, hr], by
        simpa [ModbusWatch.lent, aftermath, held, hr] using hrow⟩
  | false =>
      refine ⟨?_, ?_, ?_⟩
      · simpa [ModbusWatch.lent, hr] using h.ready_iff
      · simpa [ModbusWatch.lent, hr] using h.settled
      · simpa [ModbusWatch.lent, aftermath, held, hr, hs] using hused

/-- However connecting ends. -/
theorem connects (h : w.Tidy) {r : Outcome Unit} {w' : ModbusWatch δ S}
    (hc : Connects settings c w r w') : w'.Tidy := by
  cases hc with
  | opened _ _ _ hw => exact hw ▸ h.renewed _ _ _
  | refused _ _ _ hw => exact hw ▸ h.deserted _ _

end Tidy

/-! ## From call to call -/

/-- A call that is over. -/
inductive Call where
  | init (result : Outcome Unit)
  | execute

/-- What a connection can have become by a row of calls. Between two calls the device may change. -/
inductive Life (settings : ModbusSettings) (c : Controller δ S) :
    List Call → ModbusWatch δ S → Prop where
  | fresh (d : δ) : Life settings c [] { device := d }
  | meanwhile {past : List Call} {w : ModbusWatch δ S} (before : Life settings c past w) (d : δ) :
      Life settings c past { w with device := d }
  | init {past : List Call} {w w' : ModbusWatch δ S} {r : Outcome Unit}
      (before : Life settings c past w) (call : (link settings c).init.Ends w r w') :
      Life settings c (past ++ [.init r]) w'
  | execute {α : Type} {body : S → Routine δ (Outcome α)} {past : List Call}
      {w w' : ModbusWatch δ S} {r : Outcome α} (before : Life settings c past w)
      (call : ((link settings c).execute (lend body)).Ends w r w') :
      Life settings c (past ++ [.execute]) w'

/-- What the connection knows fits together with the calls so far. -/
structure Sound (past : List Call) (w : ModbusWatch δ S) : Prop where
  tidy : w.Tidy
  untouched_iff : w.status.state = .uninitialized ↔ ∀ r, Call.init r ∉ past
  initialized_iff : w.status.initialized = true ↔ Call.init (.ok ()) ∈ past
  held_initialized : w.status.session.isSome → w.status.initialized = true

/-- Connecting leaves the flag alone and ends ready or failed. -/
theorem Connects.status {w w' : ModbusWatch δ S} {r : Outcome Unit}
    (h : Connects settings c w r w') :
    w'.status.initialized = w.status.initialized ∧ w'.status.state ≠ .uninitialized ∧
      (w'.status.session.isSome → r = .ok ()) := by
  cases h with
  | opened _ _ _ hw =>
      subst hw
      exact ⟨rfl, by simp [renewed], fun _ => rfl⟩
  | refused _ _ _ hw =>
      subst hw
      exact ⟨rfl, by simp [deserted], by simp [deserted]⟩

private theorem lent_status {w : ModbusWatch δ S} {s : Numbered S} {r : Outcome α} {d : δ}
    (h : w.status.state ≠ .uninitialized) :
    (w.lent s r d).status.initialized = w.status.initialized ∧
      (w.lent s r d).status.state ≠ .uninitialized := by
  cases hr : severs r with
  | true => simp [lent, hr]
  | false => simpa [lent, hr] using h

/-- A use leaves the flag alone, and a state that is not the first never becomes it again. -/
theorem Uses.status {body : S → Routine δ (Outcome α)} {w w' : ModbusWatch δ S} {r : Outcome α}
    (h : Uses settings c body w r w') (hstate : w.status.state ≠ .uninitialized) :
    w'.status.initialized = w.status.initialized ∧ w'.status.state ≠ .uninitialized := by
  cases h with
  | held _ _ _ hw =>
      subst hw
      exact lent_status hstate
  | renewed _ _ _ _ _ hw =>
      subst hw
      exact lent_status (by simp [ModbusWatch.renewed, note])
  | deserted _ _ _ _ hw =>
      subst hw
      exact ⟨rfl, by simp [ModbusWatch.deserted]⟩

/-- A use reaches the device or the caller. -/
theorem Uses.contact {body : S → Routine δ (Outcome α)} {w w' : ModbusWatch δ S} {r : Outcome α}
    (h : Uses settings c body w r w') :
    ∃ news, w'.deeds = w.deeds ++ news ∧ ∃ d ∈ news, d.isContact := by
  cases h with
  | @held checks _ _ s _ _ _ _ _ hw =>
      subst hw
      refine ⟨checks ++ .used s.number :: aftermath s r, ?_, .used s.number, by simp, rfl⟩
      simp [lent, ModbusWatch.checked]
  | @renewed checks _ _ faults _ _ handle _ _ _ _ _ _ _ hw =>
      subst hw
      refine ⟨checks ++ (parting w.status.session none ++ List.replicate faults.length .trial ++
        [.trial, .opened w.opened, .told .reinitialized] ++
        .used w.opened :: aftermath ⟨w.opened, handle⟩ r), ?_, .trial, by simp, rfl⟩
      simp [lent, note, ModbusWatch.renewed, ModbusWatch.checked]
  | @deserted checks _ _ faults _ _ _ _ hall _ hw =>
      subst hw
      have hpos := settings.retry.attempts_pos
      refine ⟨checks ++ (parting w.status.session none ++ List.replicate faults.length .trial), ?_,
        .trial, ?_, rfl⟩
      · simp [ModbusWatch.deserted, ModbusWatch.checked]
      · rw [hall]
        simp [Nat.pos_iff_ne_zero.1 hpos]

theorem Tidy.uses {body : S → Routine δ (Outcome α)} {w w' : ModbusWatch δ S} {r : Outcome α}
    (h : w.Tidy) (hu : Uses settings c body w r w') : w'.Tidy := by
  cases hu with
  | held check session _ hw => exact hw ▸ (h.checked check).lent session _ _
  | renewed check _ _ _ _ hw =>
      exact hw ▸ (((h.checked check).renewed _ _ _).told _).lent rfl _ _
  | deserted check _ _ _ hw => exact hw ▸ (h.checked check).deserted _ _

namespace Sound

variable {past : List Call} {w w' : ModbusWatch δ S}

theorem fresh (d : δ) : Sound [] ({ device := d } : ModbusWatch δ S) :=
  ⟨.fresh d, by simp, by simp, by simp⟩

theorem meanwhile (h : Sound past w) (d : δ) : Sound past { w with device := d } :=
  ⟨h.tidy.device d, h.untouched_iff, h.initialized_iff, h.held_initialized⟩

theorem init {r : Outcome Unit} (h : Sound past w) (hr : (link settings c).init.Ends w r w') :
    Sound (past ++ [.init r]) w' := by
  rcases ends_init hr with ⟨hheld, rfl, rfl⟩ | ⟨_, w₁, hcon, hend⟩
  · have hinit := h.held_initialized hheld
    have hready : w'.status.state = .ready := h.tidy.ready_iff.2 hheld
    refine ⟨h.tidy, ?_, ?_, h.held_initialized⟩
    · constructor
      · intro hstate
        rw [hready] at hstate
        cases hstate
      · intro hnone
        exact absurd (by simp) (hnone (.ok ()))
    · exact ⟨fun _ => by simp, fun _ => hinit⟩
  · obtain ⟨hflag, hstate, hheld⟩ := hcon.status
    have htidy := h.tidy.connects hcon
    have huntouched : ∀ r', ¬∀ r, Call.init r ∉ past ++ [.init r'] := by
      intro r' hnone
      exact hnone r' (by simp)
    rcases hend with ⟨rfl, rfl⟩ | ⟨⟨f, rfl⟩, rfl⟩
    · refine ⟨htidy.initialized, ?_, ?_, fun _ => rfl⟩
      · exact ⟨fun e => absurd e hstate, fun hnone => absurd hnone (huntouched _)⟩
      · exact ⟨fun _ => by simp, fun _ => rfl⟩
    · refine ⟨htidy.told _, ?_, ?_, ?_⟩
      · exact ⟨fun e => absurd e hstate, fun hnone => absurd hnone (huntouched _)⟩
      · simpa [note, hflag] using h.initialized_iff
      · intro hs
        cases hheld hs

theorem execute {body : S → Routine δ (Outcome α)} {r : Outcome α} (h : Sound past w)
    (hr : ((link settings c).execute (lend body)).Ends w r w') : Sound (past ++ [.execute]) w' := by
  rcases ends_execute hr with ⟨_, _, rfl⟩ | ⟨hinit, huses⟩
  · exact ⟨h.tidy, by simpa using h.untouched_iff, by simpa using h.initialized_iff,
      h.held_initialized⟩
  · have hpast := h.initialized_iff.1 hinit
    have hstate : w.status.state ≠ .uninitialized := by
      intro hstate
      exact h.untouched_iff.1 hstate (.ok ()) hpast
    obtain ⟨hflag, hstate'⟩ := huses.status hstate
    rw [hinit] at hflag
    refine ⟨h.tidy.uses huses, ?_, ?_, fun _ => hflag⟩
    · refine ⟨fun e => absurd e hstate', fun hnone => ?_⟩
      exact absurd (by simpa using hpast) (hnone (.ok ()))
    · exact ⟨fun _ => by simpa using hpast, fun _ => hflag⟩

end Sound

theorem Life.sound {past : List Call} {w : ModbusWatch δ S} (h : Life settings c past w) :
    Sound past w := by
  induction h with
  | fresh d => exact .fresh d
  | meanwhile _ d ih => exact ih.meanwhile d
  | init _ call ih => exact ih.init call
  | execute _ call ih => exact ih.execute call

/-- What a connection knows and does, after every row of calls: it is ready exactly while it holds a
session; it holds none before an initialization has succeeded; it is never found initializing, and
untouched only before the first initialization. A use before the first success is turned down and
changes nothing; each other use reaches the device or the caller. Initialization with a session held
does nothing at all. And at every moment there is at most one session, and none while an attempt to
open one begins. -/
theorem status_of_life {past : List Call} {w : ModbusWatch δ S} (h : Life settings c past w) :
    (w.status.state = .ready ↔ w.status.session.isSome) ∧
    (w.status.session.isSome → Call.init (.ok ()) ∈ past) ∧
    w.status.state ≠ .initializing ∧
    (w.status.state = .uninitialized ↔ ∀ r, Call.init r ∉ past) ∧
    (w.status.initialized = true ↔ Call.init (.ok ()) ∈ past) ∧
    (∀ {α : Type} (body : S → Routine δ (Outcome α)),
      (Call.init (.ok ()) ∉ past → ∀ r w', ((link settings c).execute (lend body)).Ends w r w' ↔
        r = .error (.notInitialized settings.name) ∧ w' = w) ∧
      (Call.init (.ok ()) ∈ past → ∀ r w', ((link settings c).execute (lend body)).Ends w r w' →
        ∃ news, w'.deeds = w.deeds ++ news ∧ ∃ d ∈ news, d.isContact)) ∧
    (w.status.session.isSome → ∀ r w', (link settings c).init.Ends w r w' ↔ r = .ok () ∧ w' = w) ∧
    sessions w.deeds = w.held ∧
    (∀ moment, moment <+: w.deeds → (sessions moment).length ≤ 1) ∧
    (∀ moment, moment ++ [.trial] <+: w.deeds → sessions moment = []) := by
  have hs := h.sound
  have horderly := hs.tidy.orderly
  refine ⟨hs.tidy.ready_iff, fun hheld => hs.initialized_iff.1 (hs.held_initialized hheld),
    hs.tidy.settled, hs.untouched_iff, hs.initialized_iff, ?_, ?_, horderly.left,
    horderly.atMostOne, horderly.noneAtTrial⟩
  · intro α body
    constructor
    · intro hnot r w'
      refine Routine.ends_iff_of_forall (fun r w' hrun => ?_) r w'
      rcases ends_execute hrun with ⟨_, hr, hw⟩ | ⟨hinit, _⟩
      · exact ⟨hr, hw⟩
      · exact absurd (hs.initialized_iff.1 hinit) hnot
    · intro hpast r w' hrun
      rcases ends_execute hrun with ⟨hinit, _, _⟩ | ⟨_, huses⟩
      · rw [hs.initialized_iff.2 hpast] at hinit
        cases hinit
      · exact huses.contact
  · intro hheld r w'
    refine Routine.ends_iff_of_forall (fun r w' hrun => ?_) r w'
    rcases ends_init hrun with ⟨_, hr, hw⟩ | ⟨hnone, _⟩
    · exact ⟨hr, hw⟩
    · rw [hnone] at hheld
      cases hheld

/-! ## A device with a script -/

/-- An answer of a device that follows a script: the next word of it says whether all goes well, and
behind its end all does. -/
def scriptedAnswer {β : Type} (b : β) : Routine (List Bool) (Outcome β) :=
  .changeTelling List.tail fun script =>
    if script.headD true then .ok b else .error (.timeout "controller")

/-- A controller that follows a script. -/
def scripted : Controller (List Bool) Unit where
  connect := scriptedAnswer ()
  readHolding _ _ _ := scriptedAnswer []
  readInput _ _ _ := scriptedAnswer []
  writeSingle _ _ _ := scriptedAnswer ()
  writeMultiple _ _ _ := scriptedAnswer ()

/-- Settings with a probe, and with two attempts for each connecting. -/
def scriptedSettings : ModbusSettings :=
  { name := "heating", host := "controller", probe := some ⟨10, 2⟩, retry := ⟨2, ⟨0⟩⟩ }

/-- The connection, when its first session has been lost in a use. -/
def scriptedLoss (script : List Bool) : ModbusWatch (List Bool) Unit where
  status := { initialized := true, session := none, state := .failed }
  device := script
  opened := 1
  deeds := [.trial, .opened 0, .told .initialized, .probed 0, .used 0, .closed 0,
    .told .requestFailed]

theorem life_scriptedLoss (script : List Bool) :
    Life scriptedSettings scripted [.init (.ok ()), .execute] (scriptedLoss script) := by
  let body : Unit → Routine (List Bool) (Outcome Unit) := fun _ => .done (.error (.modbus "cut"))
  let ready : ModbusWatch (List Bool) Unit :=
    { status := { initialized := true, session := some ⟨0, ()⟩, state := .ready }
      device := []
      opened := 1
      deeds := [.trial, .opened 0, .told .initialized] }
  have hinit : (link scriptedSettings scripted).init.Ends { device := [] } (.ok ()) ready :=
    Routine.ends_alone _ 0 _
  have huse : ((link scriptedSettings scripted).execute (lend body)).Ends ready
      (.error (.modbus "cut")) (scriptedLoss []) := Routine.ends_alone _ 0 _
  exact .meanwhile (.execute (.init (.fresh []) hinit) huse) script

/-- A session is lost, and the next initialization is turned down twice. -/
theorem status_of_life_refused_again :
    ∃ w : ModbusWatch (List Bool) Unit,
      Life scriptedSettings scripted
        [.init (.ok ()), .execute, .init (.error (.timeout "controller"))] w ∧
      w.status.session = none ∧ w.status.initialized = true ∧ w.status.state ≠ .initializing ∧
      (sessions w.deeds).length ≤ 1 := by
  let failed : ModbusWatch (List Bool) Unit :=
    { scriptedLoss [] with
      deeds := (scriptedLoss []).deeds ++ [.trial, .trial, .told .initFailed] }
  have hinit : (link scriptedSettings scripted).init.Ends (scriptedLoss [false, false])
      (.error (.timeout "controller")) failed := Routine.ends_alone _ 0 _
  have hlife := Life.init (life_scriptedLoss [false, false]) hinit
  obtain ⟨_, _, hover, _, hflag, _, _, _, hmost, _⟩ := status_of_life hlife
  exact ⟨failed, hlife, rfl, hflag.2 (by simp), hover, hmost _ (List.prefix_refl _)⟩

end ModbusWatch

end HomeEnergy
