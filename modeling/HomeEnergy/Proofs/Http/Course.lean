import HomeEnergy.Proofs.Http.Watch

/-!
# The course of initialization and of a use

What one call does to a connection under watch, in all cases: which requests it sends and in which
order, what it makes of each reply, and what the connection knows when the call is over.

## Main results

* `HttpWatch.ends_init` — initialization.
* `HttpWatch.ends_recover` — making a connection that has failed ready again.
* `HttpWatch.ends_request` — the request for data.
* `HttpWatch.ends_execute` — a use.
-/

namespace HomeEnergy.HttpWatch

variable {δ α : Type} {settings : HttpSettings} {client : Except String Unit} {peer : Http.Peer δ}
variable {w w' : HttpWatch δ}

/-! ## Initialization -/

/-- The fault of a connection whose client cannot be built. -/
def clientless (settings : HttpSettings) (reason : String) : Fault :=
  .internal (settings.name ++ ": cannot build HTTP client: " ++ reason)

/-- The ways in which initialization ends: with nothing to do, with a good reply to its probe, with
another one, or without a client to send the probe. -/
inductive Inits (settings : HttpSettings) (client : Except String Unit) (peer : Http.Peer δ)
    (w : HttpWatch δ) : Outcome Unit → HttpWatch δ → Prop where
  | idle (ready : w.status.state = .ready) (held : w.status.client = true) :
      Inits settings client peer w (.ok ()) w
  | met {reply : Http.Reply} {x : δ} {w' : HttpWatch δ}
      (needed : ¬(w.status.state = .ready ∧ w.status.client = true)) (built : client = .ok ())
      (answer : (peer settings.probe).Ends w.device reply x) (good : reply.Good)
      (after : w' = { w.behind [.sent settings.probe reply, .told .initialized] x with
        status := ⟨true, .ready⟩ }) :
      Inits settings client peer w (.ok ()) w'
  | missed {reply : Http.Reply} {x : δ} {f : Fault} {w' : HttpWatch δ}
      (needed : ¬(w.status.state = .ready ∧ w.status.client = true)) (built : client = .ok ())
      (answer : (peer settings.probe).Ends w.device reply x) (bad : ¬reply.Good)
      (verdict : reply.verdict settings.probe.url = .error f)
      (after : w' = { w.behind [.sent settings.probe reply, .told .initFailed] x with
        status := ⟨false, .failed⟩ }) :
      Inits settings client peer w (.error f) w'
  | unbuilt {reason : String} {w' : HttpWatch δ}
      (needed : ¬(w.status.state = .ready ∧ w.status.client = true))
      (built : client = .error reason)
      (after : w' = { w.behind [.told .initFailed] w.device with status := ⟨false, .failed⟩ }) :
      Inits settings client peer w (.error (clientless settings reason)) w'

/-- A verdict that is `ok` comes from a good reply. -/
private theorem good_of_verdict {url : String} {reply : Http.Reply} {r : Outcome Unit}
    (h : r = reply.verdict url) : r = .ok () ↔ reply.Good := by
  rw [h]
  exact Http.Reply.verdict_ok_iff

theorem ends_approach {r : Outcome Unit} (h : (link settings client peer).approach.Ends w r w') :
    (client = .ok () ∧ ∃ reply x, (peer settings.probe).Ends w.device reply x ∧
      r = reply.verdict settings.probe.url ∧ w' = w.behind [.sent settings.probe reply] x) ∨
    (∃ reason, client = .error reason ∧ r = .error (clientless settings reason) ∧ w' = w) := by
  cases hc : client with
  | ok u =>
      rw [hc] at h
      have hprobe := ends_probe h
      exact .inl ⟨rfl, hprobe⟩
  | error reason =>
      rw [hc] at h
      obtain ⟨rfl, rfl⟩ := h
      exact .inr ⟨reason, rfl, rfl, rfl⟩

theorem ends_init {r : Outcome Unit} (h : (link settings client peer).init.Ends w r w') :
    Inits settings client peer w r w' := by
  obtain ⟨st, w₁, hknown, hrest⟩ := Routine.ends_do.1 h
  obtain ⟨rfl, rfl⟩ := ends_known.1 hknown
  by_cases hready : w.status.state = .ready ∧ w.status.client = true
  · rw [if_pos hready] at hrest
    obtain ⟨rfl, rfl⟩ := hrest
    exact .idle hready.1 hready.2
  rw [if_neg hready] at hrest
  obtain ⟨_, w₂, hnote, hrest⟩ := Routine.ends_do.1 hrest
  obtain rfl := ends_note hnote
  obtain ⟨_, w₃, hset, hrest⟩ := Routine.ends_do.1 hrest
  obtain rfl := ends_update hset
  obtain ⟨o, w₄, happroach, hrest⟩ := Routine.ends_do.1 hrest
  cases o with
  | ok u =>
      obtain ⟨_, w₅, hset, hrest⟩ := Routine.ends_do.1 hrest
      obtain rfl := ends_update hset
      obtain ⟨_, w₆, htell, rfl, rfl⟩ := Routine.ends_do.1 hrest
      obtain rfl := ends_tell htell
      rcases ends_approach happroach with ⟨hbuilt, reply, x, hx, hv, rfl⟩ | ⟨_, _, hv, _⟩
      · exact .met hready hbuilt hx ((good_of_verdict hv).1 rfl) (by simp [behind, note])
      · cases hv
  | error f =>
      obtain ⟨_, w₅, hnote, hrest⟩ := Routine.ends_do.1 hrest
      obtain rfl := ends_note hnote
      obtain ⟨_, w₆, hset, hrest⟩ := Routine.ends_do.1 hrest
      obtain rfl := ends_update hset
      obtain ⟨_, w₇, htell, rfl, rfl⟩ := Routine.ends_do.1 hrest
      obtain rfl := ends_tell htell
      rcases ends_approach happroach with ⟨hbuilt, reply, x, hx, hv, rfl⟩ | ⟨reason, hc, hv, rfl⟩
      · have hbad : ¬reply.Good := by
          intro hgood
          cases (good_of_verdict hv).2 hgood
        exact .missed hready hbuilt hx hbad hv.symm (by simp [behind, note])
      · cases hv
        exact .unbuilt hready hc rfl

/-! ## Making ready again -/

/-- The ways in which a connection with a client is made ready: it is, or its probe has a good
reply, or another one. The client is held in any case. -/
inductive Recovers (settings : HttpSettings) (peer : Http.Peer δ) (w : HttpWatch δ) :
    Outcome Unit → HttpWatch δ → Prop where
  | idle (working : w.status.state ≠ .failed) : Recovers settings peer w (.ok ()) w
  | met {reply : Http.Reply} {x : δ} {w' : HttpWatch δ} (failed : w.status.state = .failed)
      (answer : (peer settings.probe).Ends w.device reply x) (good : reply.Good)
      (after : w' = { w.behind [.sent settings.probe reply, .told .reinitialized] x with
        status := { w.status with state := .ready } }) :
      Recovers settings peer w (.ok ()) w'
  | missed {reply : Http.Reply} {x : δ} {f : Fault} {w' : HttpWatch δ}
      (failed : w.status.state = .failed)
      (answer : (peer settings.probe).Ends w.device reply x) (bad : ¬reply.Good)
      (verdict : reply.verdict settings.probe.url = .error f)
      (after : w' = w.behind [.sent settings.probe reply] x) :
      Recovers settings peer w (.error f) w'

theorem ends_recover {r : Outcome Unit} (h : (link settings client peer).recover.Ends w r w') :
    Recovers settings peer w r w' := by
  obtain ⟨st, w₁, hknown, hrest⟩ := Routine.ends_do.1 h
  obtain ⟨rfl, rfl⟩ := ends_known.1 hknown
  by_cases hfailed : w.status.state = .failed
  · rw [if_neg (not_not_intro hfailed)] at hrest
    obtain ⟨_, w₂, hnote, hrest⟩ := Routine.ends_do.1 hrest
    obtain rfl := ends_note hnote
    obtain ⟨_, w₃, hset, hrest⟩ := Routine.ends_do.1 hrest
    obtain rfl := ends_update hset
    obtain ⟨o, w₄, hprobe, hrest⟩ := Routine.ends_do.1 hrest
    obtain ⟨reply, x, hx, hv, rfl⟩ := ends_probe hprobe
    cases o with
    | ok u =>
        obtain ⟨_, w₅, hset, hrest⟩ := Routine.ends_do.1 hrest
        obtain rfl := ends_update hset
        obtain ⟨_, w₆, htell, rfl, rfl⟩ := Routine.ends_do.1 hrest
        obtain rfl := ends_tell htell
        exact .met hfailed hx ((good_of_verdict hv).1 rfl) (by simp [behind, note])
    | error f =>
        obtain ⟨_, w₅, hset, rfl, rfl⟩ := Routine.ends_do.1 hrest
        obtain rfl := ends_update hset
        have hbad : ¬reply.Good := by
          intro hgood
          cases (good_of_verdict hv).2 hgood
        exact .missed hfailed hx hbad hv.symm (by simp [behind, ← hfailed])
  · rw [if_pos hfailed] at hrest
    obtain ⟨rfl, rfl⟩ := hrest
    exact .idle hfailed

/-! ## The request for data -/

/-- The ways in which the request for data ends: an answer, whatever its status, is handed to the
handler, which has the last word; a loss is a fault and makes the connection fail. -/
inductive Requests (settings : HttpSettings) (peer : Http.Peer δ)
    (handler : Http.Answer → Routine δ (Outcome α)) (w : HttpWatch δ) :
    Outcome α → HttpWatch δ → Prop where
  | answered {a : Http.Answer} {x y : δ} {r : Outcome α} {w' : HttpWatch δ}
      (answer : (peer settings.call).Ends w.device (.ok a) x) (result : (handler a).Ends x r y)
      (after : w' = w.behind [.sent settings.call (.ok a), .handled a] y) :
      Requests settings peer handler w r w'
  | lost {loss : Http.Loss} {x : δ} {w' : HttpWatch δ}
      (answer : (peer settings.call).Ends w.device (.error loss) x)
      (after : w' = { w.behind [.sent settings.call (.error loss), .told .requestFailed] x with
        status := { w.status with state := .failed } }) :
      Requests settings peer handler w (.error (loss.fault settings.target)) w'

theorem ends_request {handler : Http.Answer → Routine δ (Outcome α)} {r : Outcome α}
    (h : ((link settings client peer).request (hand handler)).Ends w r w') :
    Requests settings peer handler w r w' := by
  obtain ⟨reply, w₁, hsend, hrest⟩ := Routine.ends_do.1 h
  obtain ⟨x, hx, rfl⟩ := ends_send hsend
  cases reply with
  | ok a =>
      obtain ⟨y, hy, rfl⟩ := ends_hand hrest
      exact .answered hx hy (by simp [behind])
  | error loss =>
      obtain ⟨_, w₂, hnote, hrest⟩ := Routine.ends_do.1 hrest
      obtain rfl := ends_note hnote
      obtain ⟨_, w₃, hset, hrest⟩ := Routine.ends_do.1 hrest
      obtain rfl := ends_update hset
      obtain ⟨_, w₄, htell, rfl, rfl⟩ := Routine.ends_do.1 hrest
      obtain rfl := ends_tell htell
      exact .lost hx (by simp [behind, note])

/-! ## A use -/

/-- The ways in which a use ends: turned down without a client, at the probe of a connection that
has failed, or with the request. -/
inductive Uses (settings : HttpSettings) (peer : Http.Peer δ)
    (handler : Http.Answer → Routine δ (Outcome α)) (w : HttpWatch δ) :
    Outcome α → HttpWatch δ → Prop where
  | turnedDown (bare : w.status.client = false) :
      Uses settings peer handler w (.error (.notInitialized settings.name)) w
  | unrecovered {f : Fault} {w' : HttpWatch δ} (held : w.status.client = true)
      (recovery : Recovers settings peer w (.error f) w') :
      Uses settings peer handler w (.error f) w'
  | requested {w₁ w' : HttpWatch δ} {r : Outcome α} (held : w.status.client = true)
      (recovery : Recovers settings peer w (.ok ()) w₁)
      (request : Requests settings peer handler w₁ r w') : Uses settings peer handler w r w'

theorem ends_execute {handler : Http.Answer → Routine δ (Outcome α)} {r : Outcome α}
    (h : ((link settings client peer).execute (hand handler)).Ends w r w') :
    Uses settings peer handler w r w' := by
  obtain ⟨st, w₁, hknown, hrest⟩ := Routine.ends_do.1 h
  obtain ⟨rfl, rfl⟩ := ends_known.1 hknown
  cases hc : w.status.client with
  | false =>
      rw [hc] at hrest
      obtain ⟨rfl, rfl⟩ := hrest
      exact .turnedDown hc
  | true =>
      rw [hc] at hrest
      obtain ⟨o, w₂, hrecover, hrest⟩ := Routine.ends_do.1 hrest
      have hrecovers := ends_recover hrecover
      cases o with
      | error f =>
          obtain ⟨rfl, rfl⟩ := hrest
          exact .unrecovered hc hrecovers
      | ok u => exact .requested hc hrecovers (ends_request hrest)

end HomeEnergy.HttpWatch
