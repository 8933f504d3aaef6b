import HomeEnergy.Proofs.Http.Course

/-!
# The life of an HTTP connection

A connection lives from call to call. Between two calls time passes and the device may change in any
way; during a call the device answers what it likes. `HttpWatch.Life` relates the calls so far to
what a connection can have become. The client and the state are set apart from each other, on every
way out of a call; `HttpWatch.Sound` says how they fit together, and that the client is there
exactly while the latest initialization was a success.

## Main results

* `HttpWatch.Life.sound` — what the connection knows fits together after every row of calls.
* `HttpWatch.calls_of_life` — the status after every row of calls, and what the next call does.
* `HttpWatch.sends_iff_latest_success` — which uses send a request at all.
-/

namespace HomeEnergy.HttpWatch

variable {δ α : Type} {settings : HttpSettings} {client : Except String Unit} {peer : Http.Peer δ}

/-! ## From call to call -/

/-- A call that is over. -/
inductive Call where
  | init (result : Outcome Unit)
  | execute

/-- What an initialization has led to. -/
def Call.init? : Call → Option (Outcome Unit)
  | init r => some r
  | execute => none

/-- What the latest initialization has led to, if there has been one. -/
def latestInit (past : List Call) : Option (Outcome Unit) := (past.filterMap Call.init?).getLast?

@[simp] theorem latestInit_nil : latestInit [] = none := by simp [latestInit]

@[simp] theorem latestInit_init (past : List Call) (r : Outcome Unit) :
    latestInit (past ++ [.init r]) = some r := by
  simp [latestInit, Call.init?]

@[simp] theorem latestInit_execute (past : List Call) :
    latestInit (past ++ [.execute]) = latestInit past := by
  simp [latestInit, Call.init?]

/-- What a connection can have become by a row of calls. Between two calls the device may change. -/
inductive Life (settings : HttpSettings) (client : Except String Unit) (peer : Http.Peer δ) :
    List Call → HttpWatch δ → Prop where
  | fresh (d : δ) : Life settings client peer [] { device := d }
  | meanwhile {past : List Call} {w : HttpWatch δ} (before : Life settings client peer past w)
      (d : δ) : Life settings client peer past { w with device := d }
  | init {past : List Call} {w w' : HttpWatch δ} {r : Outcome Unit}
      (before : Life settings client peer past w)
      (call : (link settings client peer).init.Ends w r w') :
      Life settings client peer (past ++ [.init r]) w'
  | execute {α : Type} {handler : Http.Answer → Routine δ (Outcome α)} {past : List Call}
      {w w' : HttpWatch δ} {r : Outcome α} (before : Life settings client peer past w)
      (call : ((link settings client peer).execute (hand handler)).Ends w r w') :
      Life settings client peer (past ++ [.execute]) w'

/-- What the connection knows fits together with the calls so far. -/
structure Sound (past : List Call) (w : HttpWatch δ) : Prop where
  settled : w.status.state ≠ .initializing
  held_of_ready : w.status.state = .ready → w.status.client = true
  untouched_iff : w.status.state = .uninitialized ↔ latestInit past = none
  held_iff : w.status.client = true ↔ latestInit past = some (.ok ())

/-- A connection that is ready, or has failed with a client, behind a successful initialization. -/
private theorem sound_of_held {past : List Call} {w : HttpWatch δ}
    (hlatest : latestInit past = some (.ok ())) (hheld : w.status.client = true)
    (hstate : w.status.state = .ready ∨ w.status.state = .failed) : Sound past w := by
  refine ⟨?_, fun _ => hheld, ?_, ?_⟩
  · rcases hstate with h | h <;> simp [h]
  · rcases hstate with h | h <;> simp [h, hlatest]
  · simp [hheld, hlatest]

namespace Sound

variable {past : List Call} {w w' : HttpWatch δ}

theorem fresh (d : δ) : Sound [] ({ device := d } : HttpWatch δ) := by
  refine ⟨?_, ?_, ?_, ?_⟩ <;> simp

theorem meanwhile (h : Sound past w) (d : δ) : Sound past { w with device := d } :=
  ⟨h.settled, h.held_of_ready, h.untouched_iff, h.held_iff⟩

/-- Initialization sets the client and the state together, whatever they were before. -/
theorem init {r : Outcome Unit} (hr : (link settings client peer).init.Ends w r w') :
    Sound (past ++ [.init r]) w' := by
  cases ends_init hr with
  | idle ready held => exact sound_of_held (latestInit_init _ _) held (.inl ready)
  | met _ _ _ _ after =>
      rw [after]
      exact sound_of_held (latestInit_init _ _) rfl (.inl rfl)
  | missed _ _ _ _ _ after =>
      rw [after]
      refine ⟨?_, ?_, ?_, ?_⟩ <;> simp
  | unbuilt _ _ after =>
      rw [after]
      refine ⟨?_, ?_, ?_, ?_⟩ <;> simp

/-- There is no client before the first initialization. -/
theorem bare_of_untouched (h : Sound past w) (hstate : w.status.state = .uninitialized) :
    w.status.client = false := by
  have hnone := h.untouched_iff.1 hstate
  cases hheld : w.status.client with
  | false => rfl
  | true =>
      rw [h.held_iff.1 hheld] at hnone
      cases hnone

/-- A connection with a client has been initialized, so it is ready or has failed. -/
theorem working (h : Sound past w) (hheld : w.status.client = true) :
    w.status.state = .ready ∨ w.status.state = .failed := by
  have hlatest : latestInit past = some (.ok ()) := h.held_iff.1 hheld
  cases hstate : w.status.state with
  | uninitialized =>
      have hnone := h.untouched_iff.1 hstate
      rw [hlatest] at hnone
      cases hnone
  | initializing => exact absurd hstate h.settled
  | ready => exact .inl rfl
  | failed => exact .inr rfl

/-- Making ready again never drops the client, and leaves a connection ready or failed. -/
theorem recovers (h : Sound past w) (hheld : w.status.client = true) {r : Outcome Unit}
    (hr : Recovers settings peer w r w') : Sound past w' := by
  have hlatest := h.held_iff.1 hheld
  cases hr with
  | idle _ => exact h
  | met _ _ _ after =>
      rw [after]
      exact sound_of_held hlatest hheld (.inl rfl)
  | missed failed _ _ _ after =>
      rw [after]
      exact sound_of_held hlatest hheld (.inr failed)

/-- A connection that has been made ready again knows that it is ready and has a client. -/
theorem recovered (h : Sound past w) (hheld : w.status.client = true)
    (hr : Recovers settings peer w (.ok ()) w') : w'.status = ⟨true, .ready⟩ := by
  cases hr with
  | idle working =>
      have hready : w.status.state = .ready := (h.working hheld).resolve_right working
      rw [← hheld, ← hready]
  | met _ _ _ after =>
      rw [after, ← hheld]

theorem requests {handler : Http.Answer → Routine δ (Outcome α)} {r : Outcome α}
    (h : Sound past w) (hheld : w.status.client = true)
    (hr : Requests settings peer handler w r w') : Sound past w' := by
  cases hr with
  | answered _ _ after =>
      rw [after]
      exact ⟨h.settled, h.held_of_ready, h.untouched_iff, h.held_iff⟩
  | lost _ after =>
      rw [after]
      exact sound_of_held (h.held_iff.1 hheld) hheld (.inr rfl)

theorem execute {handler : Http.Answer → Routine δ (Outcome α)} {r : Outcome α} (h : Sound past w)
    (hr : ((link settings client peer).execute (hand handler)).Ends w r w') :
    Sound (past ++ [.execute]) w' := by
  have hend : Sound past w' := by
    cases ends_execute hr with
    | turnedDown _ => exact h
    | unrecovered held recovery => exact h.recovers held recovery
    | requested held recovery request =>
        have hstatus := h.recovered held recovery
        exact (h.recovers held recovery).requests (by rw [hstatus]) request
  refine ⟨hend.settled, hend.held_of_ready, ?_, ?_⟩
  · rw [latestInit_execute]
    exact hend.untouched_iff
  · rw [latestInit_execute]
    exact hend.held_iff

end Sound

theorem Life.sound {past : List Call} {w : HttpWatch δ} (h : Life settings client peer past w) :
    Sound past w := by
  induction h with
  | fresh d => exact .fresh d
  | meanwhile _ d ih => exact ih.meanwhile d
  | init _ call _ => exact .init call
  | execute _ call ih => exact ih.execute call

/-! ## The next call -/

/-- One request for data has been sent to a device, behind other deeds. An answer of any status has
been handed to the handler once, which has had the last word; without an answer the connection has
failed and its client is held. -/
inductive Requested (settings : HttpSettings) (peer : Http.Peer δ)
    (handler : Http.Answer → Routine δ (Outcome α)) (d : δ) (before : List HttpDeed)
    (r : Outcome α) (w : HttpWatch δ) : Prop where
  | answered (a : Http.Answer) (x : δ) (answer : (peer settings.call).Ends d (.ok a) x)
      (result : (handler a).Ends x r w.device) (status : w.status = ⟨true, .ready⟩)
      (deeds : w.deeds = before ++ [.sent settings.call (.ok a), .handled a])
  | lost (loss : Http.Loss) (answer : (peer settings.call).Ends d (.error loss) w.device)
      (result : r = .error (loss.fault settings.target)) (status : w.status = ⟨true, .failed⟩)
      (deeds : w.deeds = before ++ [.sent settings.call (.error loss), .told .requestFailed])

/-- A ready connection asks for data once, and does nothing else. -/
theorem Requests.requested {handler : Http.Answer → Routine δ (Outcome α)} {w w' : HttpWatch δ}
    {r : Outcome α} (h : Requests settings peer handler w r w')
    (hstatus : w.status = ⟨true, .ready⟩) :
    Requested settings peer handler w.device w.deeds r w' := by
  cases h with
  | @answered a x y _ _ answer result after =>
      subst after
      exact .answered a x answer result hstatus rfl
  | @lost loss x _ answer after =>
      subst after
      exact .lost loss answer rfl (by simp [hstatus]) rfl

variable {past : List Call} {w w' : HttpWatch δ}

/-- Initialization of a ready connection does nothing at all. -/
private theorem init_ready (h : Sound past w) (hready : w.status.state = .ready)
    (r : Outcome Unit) (w' : HttpWatch δ) :
    (link settings client peer).init.Ends w r w' ↔ r = .ok () ∧ w' = w := by
  have hidle := And.intro hready (h.held_of_ready hready)
  refine Routine.ends_iff_of_forall (fun r w' hrun => ?_) r w'
  cases ends_init hrun with
  | idle _ _ => exact ⟨rfl, rfl⟩
  | met needed _ _ _ _ => exact absurd hidle needed
  | missed needed _ _ _ _ _ => exact absurd hidle needed
  | unbuilt needed _ _ => exact absurd hidle needed

/-- Initialization of a connection that is not ready sends one probe, if there can be a client. -/
private theorem init_unready (hstate : w.status.state ≠ .ready) (hbuilt : client = .ok ())
    {r : Outcome Unit} (hrun : (link settings client peer).init.Ends w r w') :
    ∃ reply, (peer settings.probe).Ends w.device reply w'.device ∧
      ((reply.Good ∧ r = .ok () ∧ w'.status = ⟨true, .ready⟩ ∧
          w'.deeds = w.deeds ++ [.sent settings.probe reply, .told .initialized]) ∨
        (¬reply.Good ∧ (∃ f, reply.verdict settings.probe.url = .error f ∧ r = .error f) ∧
          w'.status = ⟨false, .failed⟩ ∧
          w'.deeds = w.deeds ++ [.sent settings.probe reply, .told .initFailed])) := by
  cases ends_init hrun with
  | idle ready _ => exact absurd ready hstate
  | met _ _ answer good after =>
      subst after
      exact ⟨_, answer, .inl ⟨good, rfl, rfl, rfl⟩⟩
  | missed _ _ answer bad verdict after =>
      subst after
      exact ⟨_, answer, .inr ⟨bad, ⟨_, verdict, rfl⟩, rfl, rfl⟩⟩
  | unbuilt _ built _ =>
      rw [hbuilt] at built
      cases built

/-- If there can be no client, initialization of a connection that is not ready sends nothing. -/
private theorem init_clientless {reason : String} (hstate : w.status.state ≠ .ready)
    (hreason : client = .error reason) {r : Outcome Unit}
    (hrun : (link settings client peer).init.Ends w r w') :
    r = .error (clientless settings reason) ∧
      w' = ⟨⟨false, .failed⟩, w.device, w.deeds ++ [.told .initFailed]⟩ := by
  rw [hreason] at hrun
  cases ends_init hrun with
  | idle ready _ => exact absurd ready hstate
  | met _ built _ _ _ => cases built
  | missed _ built _ _ _ _ => cases built
  | unbuilt _ built after =>
      cases built
      exact ⟨rfl, after⟩

/-- A use without a client does nothing at all. -/
private theorem execute_bare (hbare : w.status.client = false)
    (handler : Http.Answer → Routine δ (Outcome α)) (r : Outcome α) (w' : HttpWatch δ) :
    ((link settings client peer).execute (hand handler)).Ends w r w' ↔
      r = .error (.notInitialized settings.name) ∧ w' = w := by
  refine Routine.ends_iff_of_forall (fun r w' hrun => ?_) r w'
  cases ends_execute hrun with
  | turnedDown _ => exact ⟨rfl, rfl⟩
  | unrecovered held _ =>
      rw [hbare] at held
      cases held
  | requested held _ _ =>
      rw [hbare] at held
      cases held

/-- A use of a ready connection is the request for data. -/
private theorem execute_ready (h : Sound past w) (hready : w.status.state = .ready)
    {handler : Http.Answer → Routine δ (Outcome α)} {r : Outcome α}
    (hrun : ((link settings client peer).execute (hand handler)).Ends w r w') :
    Requested settings peer handler w.device w.deeds r w' := by
  have hheld := h.held_of_ready hready
  have hworking : ¬w.status.state = .failed := by
    rw [hready]
    decide
  cases ends_execute hrun with
  | turnedDown bare =>
      rw [bare] at hheld
      cases hheld
  | unrecovered _ recovery =>
      cases recovery with
      | missed failed _ _ _ _ => exact absurd failed hworking
  | requested _ recovery request =>
      have hstatus := h.recovered hheld recovery
      cases recovery with
      | idle _ => exact request.requested hstatus
      | met failed _ _ _ => exact absurd failed hworking

/-- A use of a connection that has failed with a client is a probe, and a request behind a good
reply. -/
private theorem execute_failed (h : Sound past w) (hfailed : w.status.state = .failed)
    (hheld : w.status.client = true) {handler : Http.Answer → Routine δ (Outcome α)}
    {r : Outcome α} (hrun : ((link settings client peer).execute (hand handler)).Ends w r w') :
    ∃ reply x, (peer settings.probe).Ends w.device reply x ∧
      ((reply.Good ∧ Requested settings peer handler x
          (w.deeds ++ [.sent settings.probe reply, .told .reinitialized]) r w') ∨
        (¬reply.Good ∧ (∃ f, reply.verdict settings.probe.url = .error f ∧ r = .error f) ∧
          w' = ⟨⟨true, .failed⟩, x, w.deeds ++ [.sent settings.probe reply]⟩)) := by
  cases ends_execute hrun with
  | turnedDown bare =>
      rw [bare] at hheld
      cases hheld
  | unrecovered _ recovery =>
      cases recovery with
      | @missed reply x _ _ _ answer bad verdict after =>
          refine ⟨reply, x, answer, .inr ⟨bad, ⟨_, verdict, rfl⟩, ?_⟩⟩
          rw [after, ← hheld, ← hfailed]
          rfl
  | requested _ recovery request =>
      have hrequested := request.requested (h.recovered hheld recovery)
      cases recovery with
      | idle working => exact absurd hfailed working
      | @met reply x _ _ answer good after =>
          subst after
          exact ⟨reply, x, answer, .inl ⟨good, hrequested⟩⟩

/-- What a connection knows and does, after every row of calls. It is never found initializing; a
ready connection holds a client, an untouched one none. Initialization of a ready connection does
nothing. Otherwise it sends the probe, a `GET` for the root of the base address, and nothing else,
and ends ready with a client if the reply is good, and else failed without one. A use sends nothing
without a client. In a ready connection it sends the one request for data. In a connection that has
failed it sends a probe first, and goes on to the request if the reply is good; else it ends with
what is wrong, still failed and with its client. -/
theorem calls_of_life (h : Life settings client peer past w) :
    w.status.state ≠ .initializing ∧
    (w.status.state = .ready → w.status.client = true) ∧
    (w.status.state = .uninitialized → w.status.client = false) ∧
    (settings.probe.method = .get ∧ settings.probe.url = settings.base ++ "/" ∧
      settings.call.url = settings.target) ∧
    (∃ r w', (link settings client peer).init.Ends w r w') ∧
    (w.status.state = .ready → ∀ r w', (link settings client peer).init.Ends w r w' ↔
      r = .ok () ∧ w' = w) ∧
    (w.status.state ≠ .ready → ∀ r w', (link settings client peer).init.Ends w r w' →
      (client = .ok () → ∃ reply, (peer settings.probe).Ends w.device reply w'.device ∧
        ((reply.Good ∧ r = .ok () ∧ w'.status = ⟨true, .ready⟩ ∧
            w'.deeds = w.deeds ++ [.sent settings.probe reply, .told .initialized]) ∨
          (¬reply.Good ∧ (∃ f, reply.verdict settings.probe.url = .error f ∧ r = .error f) ∧
            w'.status = ⟨false, .failed⟩ ∧
            w'.deeds = w.deeds ++ [.sent settings.probe reply, .told .initFailed]))) ∧
      (∀ reason, client = .error reason → r = .error (clientless settings reason) ∧
        w' = ⟨⟨false, .failed⟩, w.device, w.deeds ++ [.told .initFailed]⟩)) ∧
    (∀ {α : Type} (handler : Http.Answer → Routine δ (Outcome α)),
      (∃ r w', ((link settings client peer).execute (hand handler)).Ends w r w') ∧
      (w.status.client = false → ∀ r w',
        ((link settings client peer).execute (hand handler)).Ends w r w' ↔
          r = .error (.notInitialized settings.name) ∧ w' = w) ∧
      (w.status.state = .ready → ∀ r w',
        ((link settings client peer).execute (hand handler)).Ends w r w' →
          Requested settings peer handler w.device w.deeds r w') ∧
      (w.status.state = .failed → w.status.client = true → ∀ r w',
        ((link settings client peer).execute (hand handler)).Ends w r w' →
          ∃ reply x, (peer settings.probe).Ends w.device reply x ∧
            ((reply.Good ∧ Requested settings peer handler x
                (w.deeds ++ [.sent settings.probe reply, .told .reinitialized]) r w') ∨
              (¬reply.Good ∧ (∃ f, reply.verdict settings.probe.url = .error f ∧ r = .error f) ∧
                w' = ⟨⟨true, .failed⟩, x, w.deeds ++ [.sent settings.probe reply]⟩)))) := by
  have hs := h.sound
  refine ⟨hs.settled, hs.held_of_ready, hs.bare_of_untouched, ⟨rfl, rfl, rfl⟩,
    Routine.exists_ends _ w, init_ready hs, ?_, ?_⟩
  · intro hstate r w' hrun
    constructor
    · intro hbuilt
      exact init_unready hstate hbuilt hrun
    · intro reason hreason
      exact init_clientless hstate hreason hrun
  · intro α handler
    refine ⟨Routine.exists_ends _ w, fun hbare => execute_bare hbare handler, ?_, ?_⟩
    · intro hready r w' hrun
      exact execute_ready hs hready hrun
    · intro hfailed hheld r w' hrun
      exact execute_failed hs hfailed hheld hrun

/-! ## A device with a script -/

/-- A device that follows a script, whatever it is asked. Behind its end nothing is answered. -/
def scripted : Http.Peer (List Http.Reply) := fun _ =>
  .changeTelling List.tail fun script => script.headD (.error .late)

def scriptedSettings : HttpSettings :=
  { name := "stove", baseUrl := "http://stove", path := "status" }

/-- An answer with a status. -/
def answered (status : Nat) : Http.Reply := .ok { url := "http://stove", status }

/-- A connection that has been initialized, when a request for data has been lost. -/
def scriptedLoss (script : List Http.Reply) : HttpWatch (List Http.Reply) where
  status := ⟨true, .failed⟩
  device := script
  deeds := [.sent scriptedSettings.probe (answered 200), .told .initialized,
    .sent scriptedSettings.call (.error .late), .told .requestFailed]

/-- A handler that tells the status of its answer. -/
def statusOf (a : Http.Answer) : Routine (List Http.Reply) (Outcome Nat) := .done (.ok a.status)

theorem life_scriptedLoss (script : List Http.Reply) :
    Life scriptedSettings (.ok ()) scripted [.init (.ok ()), .execute] (scriptedLoss script) := by
  let ready : HttpWatch (List Http.Reply) :=
    { status := ⟨true, .ready⟩
      device := []
      deeds := [.sent scriptedSettings.probe (answered 200), .told .initialized] }
  have hinit : (link scriptedSettings (.ok ()) scripted).init.Ends { device := [answered 200] }
      (.ok ()) ready := Routine.ends_alone _ 0 _
  have huse : ((link scriptedSettings (.ok ()) scripted).execute (hand statusOf)).Ends ready
      (.error (.timeout scriptedSettings.target)) (scriptedLoss []) := Routine.ends_alone _ 0 _
  exact .meanwhile (.execute (.init (.fresh [answered 200]) hinit) huse) script

/-- A request has been lost. The next use has a good reply to its probe and sends its request, whose
answer is handed on although it tells of no success. -/
theorem calls_of_life_after_loss :
    Life scriptedSettings (.ok ()) scripted [.init (.ok ()), .execute]
      (scriptedLoss [answered 204, answered 404]) ∧
    ∃ w : HttpWatch (List Http.Reply),
      ((link scriptedSettings (.ok ()) scripted).execute (hand statusOf)).Ends
        (scriptedLoss [answered 204, answered 404]) (.ok 404) w ∧
      ∃ reply x, reply.Good ∧ Requested scriptedSettings scripted statusOf x
        ((scriptedLoss []).deeds ++ [.sent scriptedSettings.probe reply, .told .reinitialized])
        (.ok 404) w := by
  let served : HttpWatch (List Http.Reply) :=
    { status := ⟨true, .ready⟩
      device := []
      deeds := (scriptedLoss []).deeds ++
        [.sent scriptedSettings.probe (answered 204), .told .reinitialized,
          .sent scriptedSettings.call (answered 404),
          .handled ⟨"http://stove", 404, .empty, true⟩] }
  have hrun : ((link scriptedSettings (.ok ()) scripted).execute (hand statusOf)).Ends
      (scriptedLoss [answered 204, answered 404]) (.ok 404) served := Routine.ends_alone _ 0 _
  have hlife := life_scriptedLoss [answered 204, answered 404]
  refine ⟨hlife, served, hrun, ?_⟩
  obtain ⟨_, _, _, _, _, _, _, hexecute⟩ := calls_of_life hlife
  obtain ⟨reply, x, _, ⟨hgood, hrequested⟩ | ⟨_, ⟨f, _, hf⟩, _⟩⟩ :=
    (hexecute statusOf).2.2.2 rfl rfl _ _ hrun
  · exact ⟨reply, x, hgood, hrequested⟩
  · cases hf

/-! ## Which uses send a request -/

/-- A use with a client sends a request, be it the probe. -/
private theorem sent_of_held (h : Sound past w) (hheld : w.status.client = true)
    {handler : Http.Answer → Routine δ (Outcome α)} {r : Outcome α}
    (hrun : ((link settings client peer).execute (hand handler)).Ends w r w') :
    ∃ news, w'.deeds = w.deeds ++ news ∧ ∃ call reply, HttpDeed.sent call reply ∈ news := by
  have hrequest : ∀ {d : δ} {front : List HttpDeed},
      Requested settings peer handler d (w.deeds ++ front) r w' →
      ∃ news, w'.deeds = w.deeds ++ news ∧ ∃ call reply, HttpDeed.sent call reply ∈ news := by
    intro d front hrequested
    cases hrequested with
    | answered a _ _ _ _ deeds =>
        rw [List.append_assoc] at deeds
        exact ⟨_, deeds, settings.call, .ok a, by simp⟩
    | lost loss _ _ _ deeds =>
        rw [List.append_assoc] at deeds
        exact ⟨_, deeds, settings.call, .error loss, by simp⟩
  rcases h.working hheld with hready | hfailed
  · have hrequested := execute_ready h hready hrun
    rw [← List.append_nil w.deeds] at hrequested
    exact hrequest hrequested
  · obtain ⟨reply, x, _, ⟨_, hrequested⟩ | ⟨_, _, rfl⟩⟩ := execute_failed h hfailed hheld hrun
    · exact hrequest hrequested
    · exact ⟨_, rfl, settings.probe, reply, by simp⟩

/-- A use sends a request exactly if the latest initialization was a success, whatever requests and
probes have been lost since. Otherwise it is turned down and nothing is done: an initialization that
fails takes the client away, and no use brings it back. -/
theorem sends_iff_latest_success (h : Life settings client peer past w)
    {handler : Http.Answer → Routine δ (Outcome α)} {r : Outcome α}
    (hrun : ((link settings client peer).execute (hand handler)).Ends w r w') :
    ∃ news, w'.deeds = w.deeds ++ news ∧
      ((∃ call reply, HttpDeed.sent call reply ∈ news) ↔ latestInit past = some (.ok ())) ∧
      (latestInit past ≠ some (.ok ()) → r = .error (.notInitialized settings.name) ∧ w' = w) := by
  have hs := h.sound
  cases hheld : w.status.client with
  | true =>
      obtain ⟨news, hdeeds, hsent⟩ := sent_of_held hs hheld hrun
      have hlatest := hs.held_iff.1 hheld
      exact ⟨news, hdeeds, ⟨fun _ => hlatest, fun _ => hsent⟩, fun hnot => absurd hlatest hnot⟩
  | false =>
      have hlatest : latestInit past ≠ some (.ok ()) := by
        intro hlatest
        rw [hs.held_iff.2 hlatest] at hheld
        cases hheld
      obtain ⟨hr, hw⟩ := (execute_bare hheld handler r w').1 hrun
      refine ⟨[], by rw [hw, List.append_nil], ?_, fun _ => ⟨hr, hw⟩⟩
      exact ⟨by simp, fun hok => absurd hok hlatest⟩

/-- A request has been lost, and the latest initialization was a success: the next use probes, even
though in vain. -/
theorem sends_after_loss :
    Life scriptedSettings (.ok ()) scripted [.init (.ok ()), .execute] (scriptedLoss []) ∧
    ∃ w : HttpWatch (List Http.Reply),
      ((link scriptedSettings (.ok ()) scripted).execute (hand statusOf)).Ends (scriptedLoss [])
        (.error (.timeout scriptedSettings.probe.url)) w ∧
      ∃ news, w.deeds = (scriptedLoss []).deeds ++ news ∧
        ∃ call reply, HttpDeed.sent call reply ∈ news := by
  let turnedAway : HttpWatch (List Http.Reply) :=
    (scriptedLoss []).behind [.sent scriptedSettings.probe (.error .late)] []
  have hrun : ((link scriptedSettings (.ok ()) scripted).execute (hand statusOf)).Ends
      (scriptedLoss []) (.error (.timeout scriptedSettings.probe.url)) turnedAway :=
    Routine.ends_alone _ 0 _
  have hlife := life_scriptedLoss []
  obtain ⟨news, hdeeds, hsent, _⟩ := sends_iff_latest_success hlife hrun
  exact ⟨hlife, turnedAway, hrun, news, hdeeds, hsent.2 rfl⟩

/-- A connection has been initialized, a request is lost, and the next initialization fails. Then a
use is turned down and sends nothing, although the device would answer. -/
theorem success_forgotten :
    ∃ w : HttpWatch (List Http.Reply),
      Life scriptedSettings (.ok ()) scripted [.init (.ok ()), .execute,
        .init (.error (.unexpectedStatus scriptedSettings.probe.url 500))] w ∧
      w.device = [answered 200, answered 200] ∧
      ((link scriptedSettings (.ok ()) scripted).execute (hand statusOf)).Ends w
        (.error (.notInitialized "stove")) w := by
  let dropped : HttpWatch (List Http.Reply) :=
    { status := ⟨false, .failed⟩
      device := [answered 200, answered 200]
      deeds := (scriptedLoss []).deeds ++
        [.sent scriptedSettings.probe (answered 500), .told .initFailed] }
  have hinit : (link scriptedSettings (.ok ()) scripted).init.Ends
      (scriptedLoss [answered 500, answered 200, answered 200])
      (.error (.unexpectedStatus scriptedSettings.probe.url 500)) dropped :=
    Routine.ends_alone _ 0 _
  exact ⟨dropped, .init (life_scriptedLoss _) hinit, rfl, Routine.ends_alone _ 0 _⟩

end HomeEnergy.HttpWatch
