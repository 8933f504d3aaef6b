import HomeEnergy.Proofs.Modbus.Life

/-!
# One use of an initialized Modbus connection

A use of a connection that has been initialized lends a session to the callback that is known to be
good: it has passed the probe in this use, or has been opened in it. Only when every attempt to open
a session is turned down is there no callback.

## Main results

* `ModbusWatch.execute_exactly` — what one use does, in all cases.
-/

namespace HomeEnergy.ModbusWatch

variable {δ S α : Type} {settings : ModbusSettings} {c : Controller δ S}

/-- The callback has been called once, with a session and a device, behind other deeds, and has had
the last word: its result is the result of the use, and decides what becomes of the session. -/
structure Served (body : S → Routine δ (Outcome α)) (s : Numbered S) (d : δ)
    (before : List ModbusDeed) (r : Outcome α) (w : ModbusWatch δ S) : Prop where
  result : (body s.handle).Ends d r w.device
  deeds : w.deeds = before ++ .used s.number ::
    if severs r then [.closed s.number, .told .requestFailed] else []
  status : w.status =
    if severs r then ⟨true, none, .failed⟩ else ⟨true, some s, .ready⟩

/-- A session that is there when its callback is called serves it. -/
theorem served_lent {body : S → Routine δ (Outcome α)} {s : Numbered S} {w : ModbusWatch δ S}
    {r : Outcome α} {y : δ} (hstatus : w.status = ⟨true, some s, .ready⟩)
    (hbody : (body s.handle).Ends w.device r y) :
    Served body s w.device w.deeds r (w.lent s r y) := by
  refine ⟨hbody, rfl, ?_⟩
  cases hr : severs r with
  | true => simp [lent, hr, hstatus]
  | false => simp [lent, hr, hstatus]

/-- What has been done when the last attempt of a connecting begins that is turned down `n` times:
the old session has been dropped, and there has been one attempt more than refusals, but never more
than the policy allows. -/
def tried (settings : ModbusSettings) (w : ModbusWatch δ S) (checks : List ModbusDeed) (n : Nat) :
    List ModbusDeed :=
  w.deeds ++ checks ++ parting w.status.session none ++
    List.replicate (min (n + 1) (max settings.retry.maxAttempts 1)) .trial

theorem tried_of_success {w : ModbusWatch δ S} {checks : List ModbusDeed} {n : Nat}
    (h : n < settings.retry.attempts) :
    w.deeds ++ checks ++ parting w.status.session none ++ List.replicate n .trial ++ [.trial] =
      tried settings w checks n := by
  have hmin : min (n + 1) (max settings.retry.maxAttempts 1) = n + 1 := by
    change n < max settings.retry.maxAttempts 1 at h
    omega
  rw [tried, hmin, List.replicate_succ', ← List.append_assoc]

theorem tried_of_failure {w : ModbusWatch δ S} {checks : List ModbusDeed} {n : Nat}
    (h : n = settings.retry.attempts) :
    w.deeds ++ checks ++ parting w.status.session none ++ List.replicate n .trial =
      tried settings w checks n := by
  have hmin : min (n + 1) (max settings.retry.maxAttempts 1) = n := by
    change n = max settings.retry.maxAttempts 1 at h
    omega
  rw [tried, hmin]

/-- With a session that passes the check, which is the probe if there is one, a use makes no attempt
to connect, and lends this session to the callback. Otherwise it drops the session and makes one
attempt more than are turned down before the first success, but no more than the policy allows. If
all are turned down it ends with the last fault, without a callback, failed and without a session;
if one succeeds the new session serves the callback. So a use serves its callback whenever the
device accepts sessions. -/
theorem execute_exactly {past : List Call} {w : ModbusWatch δ S} (hlife : Life settings c past w)
    (hinit : Call.init (.ok ()) ∈ past) (body : S → Routine δ (Outcome α)) :
    (∃ r w', ((link settings c).execute (lend body)).Ends w r w') ∧
    ∀ r w', ((link settings c).execute (lend body)).Ends w r w' →
      (∃ checks x,
        (Checked settings c w.device w.status.session true checks x ∧
          ∃ s, w.status.session = some s ∧ Served body s x (w.deeds ++ checks) r w') ∨
        (Checked settings c w.device w.status.session false checks x ∧
          ∃ faults y, Refused c faults x y ∧
            ((faults.length = max settings.retry.maxAttempts 1 ∧
                (∃ f, faults.getLast? = some f ∧ r = .error f) ∧
                w'.deeds = tried settings w checks faults.length ∧
                w'.device = y ∧ w'.status = ⟨true, none, .failed⟩) ∨
              (faults.length < max settings.retry.maxAttempts 1 ∧
                ∃ handle z, c.connect.Ends y (.ok handle) z ∧
                  Served body ⟨w.opened, handle⟩ z (tried settings w checks faults.length ++
                    [.opened w.opened, .told .reinitialized]) r w')))) ∧
      ((∀ d o d', c.connect.Ends d o d' → ∃ handle, o = .ok handle) →
        ∃ s d before, Served body s d before r w') := by
  refine ⟨Routine.exists_ends _ w, ?_⟩
  intro r w' hrun
  have hsound := hlife.sound
  have hflag : w.status.initialized = true := hsound.initialized_iff.2 hinit
  rcases ends_execute hrun with ⟨hnot, _⟩ | ⟨_, huses⟩
  · rw [hflag] at hnot
    cases hnot
  cases huses with
  | @held checks x y s _ _ check session result after =>
      have hready : w.status.state = .ready := hsound.tidy.ready_iff.2 (by rw [session]; rfl)
      have hstatus : (w.checked checks x).status = ⟨true, some s, .ready⟩ := by
        show w.status = _
        rw [← hflag, ← session, ← hready]
      have hserved : Served body s x (w.deeds ++ checks) r w' := after ▸ served_lent hstatus result
      refine ⟨⟨checks, x, .inl ⟨check, s, session, hserved⟩⟩, ?_⟩
      intro _
      exact ⟨s, x, _, hserved⟩
  | @renewed checks x z faults y y' handle _ _ check refused few accepted result after =>
      have hstatus : (((w.checked checks x).renewed faults.length handle y').note
          (.told .reinitialized)).status = ⟨true, some ⟨w.opened, handle⟩, .ready⟩ := by
        rw [← hflag]
        rfl
      have hserved := served_lent hstatus result
      have hbefore : (((w.checked checks x).renewed faults.length handle y').note
          (.told .reinitialized)).deeds = tried settings w checks faults.length ++
            [.opened w.opened, .told .reinitialized] := by
        rw [← tried_of_success few]
        simp [note, ModbusWatch.renewed, ModbusWatch.checked]
      rw [hbefore, ← after] at hserved
      refine ⟨⟨checks, x, .inr ⟨check, faults, y, refused,
        .inr ⟨few, handle, y', accepted, hserved⟩⟩⟩, ?_⟩
      intro _
      exact ⟨_, y', _, hserved⟩
  | @deserted checks x y faults f _ check refused all last after =>
      have hdeeds : w'.deeds = tried settings w checks faults.length := by
        rw [← tried_of_failure all, after]
        simp [ModbusWatch.deserted, ModbusWatch.checked]
      have hstatus : w'.status = ⟨true, none, .failed⟩ := by
        rw [after, ← hflag]
        rfl
      have hdevice : w'.device = y := by
        rw [after]
        rfl
      refine ⟨⟨checks, x, .inr ⟨check, faults, y, refused,
        .inl ⟨all, ⟨f, last, rfl⟩, hdeeds, hdevice, hstatus⟩⟩⟩, ?_⟩
      -- a device that accepts sessions turns down no attempt, and there is at least one
      intro haccepts
      cases faults with
      | nil => cases last
      | cons g faults =>
          obtain ⟨d, hd, _⟩ := refused
          obtain ⟨handle, hok⟩ := haccepts _ _ _ hd
          cases hok

/-- A session has been lost, the first of two attempts is turned down, and the second one opens a
session that serves the callback. -/
theorem execute_exactly_after_loss :
    Life scriptedSettings scripted [.init (.ok ()), .execute] (scriptedLoss [false, true]) ∧
    ∃ w : ModbusWatch (List Bool) Unit,
      ((link scriptedSettings scripted).execute
        (lend fun _ => .done (.ok 7 : Outcome Nat))).Ends (scriptedLoss [false, true]) (.ok 7) w ∧
      ∃ checks faults y z, Refused scripted faults [false, true] y ∧
        scripted.connect.Ends y (.ok ()) z ∧
        Served (fun _ => .done (.ok 7 : Outcome Nat)) ⟨1, ()⟩ z
          (tried scriptedSettings (scriptedLoss [false, true]) checks faults.length ++
            [.opened 1, .told .reinitialized]) (.ok 7) w := by
  let body : Unit → Routine (List Bool) (Outcome Nat) := fun _ => .done (.ok 7)
  let served : ModbusWatch (List Bool) Unit :=
    { status := { initialized := true, session := some ⟨1, ()⟩, state := .ready }
      device := []
      opened := 2
      deeds := (scriptedLoss []).deeds ++
        [.trial, .trial, .opened 1, .told .reinitialized, .used 1] }
  have hrun : ((link scriptedSettings scripted).execute (lend body)).Ends
      (scriptedLoss [false, true]) (.ok 7) served := Routine.ends_alone _ 0 _
  have hlife := life_scriptedLoss [false, true]
  refine ⟨hlife, served, hrun, ?_⟩
  have huse := (execute_exactly hlife (by simp) body).2 _ _ hrun
  obtain ⟨⟨checks, x, ⟨_, s, hs, _⟩ | ⟨hcheck, faults, y, hrefused, hend⟩⟩, _⟩ := huse
  · cases hs
  · cases hcheck
    rcases hend with ⟨_, ⟨f, _, hf⟩, _⟩ | ⟨_, handle, z, haccepted, hserved⟩
    · cases hf
    · exact ⟨[], faults, y, z, hrefused, haccepted, hserved⟩

end HomeEnergy.ModbusWatch
