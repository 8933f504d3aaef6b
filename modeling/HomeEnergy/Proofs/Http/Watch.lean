import HomeEnergy.Link.Http
import HomeEnergy.Proofs.Routine.Ends

/-!
# An HTTP connection under watch

What a connection does is seen from the outside as a row of deeds: it sends requests, hands answers
to handlers, and tells of events. `HttpWatch.link` is a connection to an arbitrary peer whose every
deed is written down, in order, each request together with what became of it. The peer works on a
device of its own and cannot reach what the connection knows.

## Main results

* `HttpWatch.ends_probe` — a probe is one request, and what it says is the verdict on its reply.
* `Http.Reply.verdict_ok_iff` — the verdict is good exactly for an answer that tells of success.
-/

namespace HomeEnergy

open Routine (Part)

namespace Http

/-- What becomes of a request. -/
abbrev Reply := Except Loss Answer

/-- Whoever is at the other end: it does something with a request, and may answer it. -/
abbrev Peer (δ : Type) := Call → Routine δ Reply

/-- There is an answer, with a status from 200 to 299. -/
def Reply.Good (reply : Reply) : Prop := ∃ a, reply = .ok a ∧ 200 ≤ a.status ∧ a.status < 300

/-- Whether there is an answer that tells of success, or what is wrong. -/
def Reply.verdict (url : String) : Reply → Outcome Unit
  | .error loss => .error (loss.fault url)
  | .ok a => if a.isSuccess then .ok () else .error (.unexpectedStatus url a.status)

theorem Reply.verdict_ok_iff {url : String} {reply : Reply} :
    reply.verdict url = .ok () ↔ reply.Good := by
  cases reply with
  | error loss => simp [verdict, Good]
  | ok a =>
      by_cases h : 200 ≤ a.status ∧ a.status < 300
      · simp [verdict, Good, Answer.isSuccess, h]
      · simp [verdict, Good, Answer.isSuccess, h]

end Http

/-- What a connection does. -/
inductive HttpDeed where
  /-- It sends a request. -/
  | sent (call : Http.Call) (reply : Http.Reply)
  /-- It hands an answer to a handler. -/
  | handled (answer : Http.Answer)
  | told (event : LinkEvent)

/-- A connection, a device, and what the connection has done. -/
structure HttpWatch (δ : Type) where
  status : HttpStatus := {}
  device : δ
  /-- In the order in which they were done. -/
  deeds : List HttpDeed := []

namespace HttpWatch

variable {δ α : Type}

/-- Write down a deed. -/
def note (d : HttpDeed) (w : HttpWatch δ) : HttpWatch δ := { w with deeds := w.deeds ++ [d] }

/-- The device. -/
def devicePart : Part (HttpWatch δ) δ := ⟨HttpWatch.device, fun d w => { w with device := d }⟩

/-- What the connection knows. -/
def statusPart : Part (HttpWatch δ) HttpStatus :=
  ⟨HttpWatch.status, fun st w => { w with status := st }⟩

theorem devicePart_lawful : (devicePart : Part (HttpWatch δ) δ).Lawful :=
  ⟨fun _ _ => rfl, fun _ => rfl, fun _ _ _ => rfl⟩

/-- A request under watch. -/
def send (peer : Http.Peer δ) (call : Http.Call) : Routine (HttpWatch δ) Http.Reply := do
  let reply ← (peer call).within devicePart
  .change (note (.sent call reply))
  return reply

/-- A handler under watch. -/
def hand (handler : Http.Answer → Routine δ (Outcome α)) (a : Http.Answer) :
    Routine (HttpWatch δ) (Outcome α) := do
  .change (note (.handled a))
  (handler a).within devicePart

/-- A connection under watch. -/
def link (settings : HttpSettings) (client : Except String Unit) (peer : Http.Peer δ) :
    HttpLink (HttpWatch δ) where
  settings
  client
  send := send peer
  status := statusPart
  report e := note (.told e)

@[simp] theorem link_settings {settings : HttpSettings} {client : Except String Unit}
    {peer : Http.Peer δ} : (link settings client peer).settings = settings := by
  simp only [link]

/-- The device has become another one, and there are more deeds. -/
def behind (w : HttpWatch δ) (news : List HttpDeed) (d : δ) : HttpWatch δ :=
  { w with device := d, deeds := w.deeds ++ news }

/-! ## Steps -/

variable {settings : HttpSettings} {client : Except String Unit} {peer : Http.Peer δ}
variable {w w' : HttpWatch δ} {u : Unit}

theorem ends_send {call : Http.Call} {reply : Http.Reply} (h : (send peer call).Ends w reply w') :
    ∃ x, (peer call).Ends w.device reply x ∧ w' = w.behind [.sent call reply] x := by
  obtain ⟨reply', w₁, hpeer, hrest⟩ := Routine.ends_do.1 h
  obtain ⟨x, hx, rfl⟩ := (Routine.ends_within devicePart_lawful).1 hpeer
  obtain ⟨_, w₂, hnote, rfl, rfl⟩ := Routine.ends_do.1 hrest
  obtain rfl := Routine.ends_change.1 hnote
  exact ⟨x, hx, rfl⟩

theorem ends_hand {handler : Http.Answer → Routine δ (Outcome α)} {a : Http.Answer} {r : Outcome α}
    (h : (hand handler a).Ends w r w') :
    ∃ x, (handler a).Ends w.device r x ∧ w' = w.behind [.handled a] x := by
  obtain ⟨_, w₁, hnote, hhandler⟩ := Routine.ends_do.1 h
  obtain rfl := Routine.ends_change.1 hnote
  exact (Routine.ends_within devicePart_lawful).1 hhandler

theorem ends_update {g : HttpStatus → HttpStatus}
    (h : ((link settings client peer).update g).Ends w u w') :
    w' = { w with status := g w.status } :=
  (Routine.ends_change.1 h).symm

theorem ends_tell {e : LinkEvent} (h : ((link settings client peer).tell e).Ends w u w') :
    w' = w.note (.told e) :=
  (Routine.ends_change.1 h).symm

/-- The log of a connection under watch is not looked at. -/
theorem ends_note {level : LogLevel} {text : String}
    (h : ((link settings client peer).note level text).Ends w u w') : w = w' := h.2

theorem ends_known {st : HttpStatus} :
    (link settings client peer).known.Ends w st w' ↔ w.status = st ∧ w = w' := by
  constructor
  · intro h
    obtain ⟨w₁, w₂, ⟨rfl, rfl⟩, rfl, rfl⟩ := Routine.ends_do.1 h
    exact ⟨rfl, rfl⟩
  · rintro ⟨rfl, rfl⟩
    exact Routine.ends_do.2 ⟨w, w, ⟨rfl, rfl⟩, rfl, rfl⟩

/-! ## The probe -/

theorem ends_probe {r : Outcome Unit} (h : (link settings client peer).probe.Ends w r w') :
    ∃ reply x, (peer settings.probe).Ends w.device reply x ∧
      r = reply.verdict settings.probe.url ∧ w' = w.behind [.sent settings.probe reply] x := by
  obtain ⟨reply, w₁, hsend, hrest⟩ := Routine.ends_do.1 h
  obtain ⟨x, hx, rfl⟩ := ends_send hsend
  refine ⟨reply, x, hx, ?_⟩
  cases reply with
  | error loss =>
      obtain ⟨rfl, rfl⟩ := hrest
      exact ⟨rfl, rfl⟩
  | ok a =>
      by_cases ha : a.isSuccess
      · simp only [ha, if_true] at hrest
        obtain ⟨rfl, rfl⟩ := hrest
        exact ⟨by simp [Http.Reply.verdict, ha], rfl⟩
      · simp only [ha, Bool.false_eq_true, if_false] at hrest
        obtain ⟨rfl, rfl⟩ := hrest
        exact ⟨by simp [Http.Reply.verdict, ha], rfl⟩

end HttpWatch

end HomeEnergy
