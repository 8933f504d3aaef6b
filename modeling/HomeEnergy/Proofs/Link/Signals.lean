import HomeEnergy.Proofs.Http.Life
import HomeEnergy.Proofs.Modbus.Life
import Mathlib.Data.List.Induction

/-!
# What the events of a connection say

An observer of a connection hears events, and the callers of a connection have their callbacks
called. The two kinds of connection tell their events at different places, and some changes of what
a connection knows (a reconnecting that fails during a use, a probe that fails) are told by no
event. The events can nevertheless be relied on. A log of events and calls says whether its
connection is untouched, up or down (`LinkPhase`), and in each phase only some signals may follow.
Each call of a connection of either kind keeps to that.

## Main results

* `Heralded` — what an observer may rely on.
* `heralded_of_proper` — a log in which each signal is admitted by the phase before it is heralded.
* `signals_of_life` — the log of each connection of either kind is heralded.
-/

namespace HomeEnergy

/-- What a connection lets others know of: an event, or that it hands a session or an answer to a
callback. -/
inductive LinkSignal where
  | told (event : LinkEvent)
  | called
deriving DecidableEq, Repr

/-- Whether a signal says that the connection can be used from now on. -/
def LinkSignal.isOpening : LinkSignal → Bool
  | told .initialized | told .reinitialized => true
  | told .initFailed | told .requestFailed | called => false

theorem LinkSignal.isOpening_iff {s : LinkSignal} :
    s.isOpening = true ↔ s = .told .initialized ∨ s = .told .reinitialized := by
  cases s with
  | told e => cases e <;> simp [isOpening]
  | called => simp [isOpening]

/-- What an observer may rely on: there is a first initialization before anything is lost or comes
back; between two losses the connection has come back; and behind a loss no callback is called
before it has. -/
structure Heralded (log : List LinkSignal) : Prop where
  first : ∀ before e after, log = before ++ .told e :: after →
    e = .reinitialized ∨ e = .requestFailed → .told .initialized ∈ before
  between : ∀ before amid after,
    log = before ++ .told .requestFailed :: (amid ++ .told .requestFailed :: after) →
    .told .initialized ∈ amid ∨ .told .reinitialized ∈ amid
  silent : ∀ before amid after,
    log = before ++ .told .requestFailed :: (amid ++ .called :: after) →
    .told .initialized ∈ amid ∨ .told .reinitialized ∈ amid

/-! ## Phases -/

/-- What a log says about its connection. -/
inductive LinkPhase where
  /-- It has never been initialized. -/
  | untouched
  | up
  /-- It has been lost in a use and has not come back. -/
  | down
deriving DecidableEq, Repr

namespace LinkPhase

/-- The phase behind a signal. -/
def after : LinkPhase → LinkSignal → LinkPhase
  | _, .told .initialized | _, .told .reinitialized => up
  | _, .told .requestFailed => down
  | p, .told .initFailed | p, .called => p

/-- The phases in which there may be a signal. -/
def Admits : LinkPhase → LinkSignal → Prop
  | _, .told .initialized | _, .told .initFailed => True
  | p, .told .reinitialized => p ≠ untouched
  | p, .told .requestFailed | p, .called => p = up

/-- The phase at the end of a log. -/
def ofLog (log : List LinkSignal) : LinkPhase := log.foldl after untouched

@[simp] theorem ofLog_concat (log : List LinkSignal) (s : LinkSignal) :
    ofLog (log ++ [s]) = (ofLog log).after s := by
  simp [ofLog]

/-- A connection that is down stays so until it says otherwise. -/
theorem foldl_down {log : List LinkSignal} (h : ∀ s ∈ log, s.isOpening = false) :
    log.foldl after down = down := by
  induction log with
  | nil => rfl
  | cons s log ih =>
      have hs : down.after s = down := by
        have hclosed := h s (by simp)
        cases s with
        | called => rfl
        | told e =>
            cases e with
            | initialized => cases hclosed
            | reinitialized => cases hclosed
            | initFailed => rfl
            | requestFailed => rfl
      rw [List.foldl_cons, hs]
      exact ih fun t ht => h t (by simp [ht])

/-- A connection that has been lost and is up has come back in between. -/
theorem opening_of_up (before : List LinkSignal) {amid : List LinkSignal}
    (h : ofLog (before ++ .told .requestFailed :: amid) = up) :
    .told .initialized ∈ amid ∨ .told .reinitialized ∈ amid := by
  refine Classical.byContradiction fun hnone => ?_
  have hclosed : ∀ s ∈ amid, s.isOpening = false := by
    intro s hs
    rw [Bool.eq_false_iff, ne_eq, LinkSignal.isOpening_iff]
    rintro (rfl | rfl)
    · exact hnone (.inl hs)
    · exact hnone (.inr hs)
  have hdown : ofLog (before ++ .told .requestFailed :: amid) = down := by
    rw [ofLog, List.foldl_append, List.foldl_cons]
    exact foldl_down hclosed
  rw [hdown] at h
  cases h

end LinkPhase

/-- Each signal of a log is admitted by the phase before it. -/
def Proper (log : List LinkSignal) : Prop :=
  ∀ before s after, log = before ++ s :: after → (LinkPhase.ofLog before).Admits s

namespace Proper

variable {log : List LinkSignal} {s : LinkSignal}

theorem nil : Proper [] := by
  intro before s after h
  simp at h

theorem concat (h : Proper log) (hs : (LinkPhase.ofLog log).Admits s) : Proper (log ++ [s]) := by
  intro before t after heq
  rcases List.eq_nil_or_concat after with rfl | ⟨after', u, rfl⟩
  · obtain ⟨rfl, ht⟩ := List.append_inj' heq rfl
    cases ht
    exact hs
  · have hsplit : log ++ [s] = (before ++ t :: after') ++ [u] := by simpa using heq
    exact h before t after' (List.append_inj' hsplit rfl).1

theorem of_concat (h : Proper (log ++ [s])) : Proper log := by
  intro before t after heq
  exact h before t (after ++ [s]) (by simp [heq])

/-- A connection is not untouched only if it has told of its initialization. -/
theorem initialized_mem (h : Proper log) (hphase : LinkPhase.ofLog log ≠ .untouched) :
    .told .initialized ∈ log := by
  induction log using List.reverseRecOn with
  | nil => exact absurd rfl hphase
  | append_singleton log s ih =>
      rw [List.mem_append]
      by_cases hlog : LinkPhase.ofLog log = .untouched
      · have hs := h log s [] rfl
        rw [LinkPhase.ofLog_concat, hlog] at hphase
        rw [hlog] at hs
        cases s with
        | called => cases hs
        | told e =>
            cases e with
            | initialized => exact .inr (by simp)
            | reinitialized => exact absurd rfl hs
            | initFailed => exact absurd rfl hphase
            | requestFailed => cases hs
      · exact .inl (ih h.of_concat hlog)

end Proper

theorem heralded_of_proper {log : List LinkSignal} (h : Proper log) : Heralded log where
  first := by
    intro before e after heq he
    have hbefore : Proper before := by
      intro front s back hfront
      exact h front s (back ++ .told e :: after) (by simp [heq, hfront])
    have hadmits := h before (.told e) after heq
    refine hbefore.initialized_mem ?_
    rcases he with rfl | rfl
    · exact hadmits
    · intro huntouched
      rw [huntouched] at hadmits
      cases hadmits
  between := by
    intro before amid after heq
    refine LinkPhase.opening_of_up before ?_
    exact h _ (.told .requestFailed) after (by simp [heq])
  silent := by
    intro before amid after heq
    refine LinkPhase.opening_of_up before ?_
    exact h _ .called after (by simp [heq])

/-! ## Modbus connections -/

/-- The signal in a deed. -/
def ModbusDeed.signal? : ModbusDeed → Option LinkSignal
  | told e => some (.told e)
  | used _ => some .called
  | trial | opened _ | probed _ | closed _ => none

/-- Whether a deed opens a session. -/
def ModbusDeed.isOpened : ModbusDeed → Bool
  | opened _ => true
  | trial | probed _ | used _ | closed _ | told _ => false

namespace ModbusWatch

variable {δ S α : Type} {settings : ModbusSettings} {c : Controller δ S} {w w' : ModbusWatch δ S}

/-- The signals of a connection, in the order in which it has given them. -/
def signals (w : ModbusWatch δ S) : List LinkSignal := w.deeds.filterMap ModbusDeed.signal?

/-- How many sessions a connection has opened. -/
def openings (w : ModbusWatch δ S) : Nat := w.deeds.countP ModbusDeed.isOpened

theorem countP_isOpening (deeds : List ModbusDeed) :
    (deeds.filterMap ModbusDeed.signal?).countP LinkSignal.isOpening =
      deeds.count (.told .initialized) + deeds.count (.told .reinitialized) := by
  induction deeds with
  | nil => rfl
  | cons d deeds ih =>
      cases d with
      | told e =>
          cases e <;>
            simp [ModbusDeed.signal?, List.countP_cons, LinkSignal.isOpening, ih] <;> omega
      | used n => simpa [ModbusDeed.signal?, List.countP_cons, LinkSignal.isOpening] using ih
      | trial | opened _ | probed _ | closed _ =>
          simpa [List.filterMap_cons, ModbusDeed.signal?] using ih

/-! What the stages of a call add to both. -/

@[simp] theorem signals_told (e : LinkEvent) :
    (w.note (.told e)).signals = w.signals ++ [.told e] := by
  simp [signals, note, ModbusDeed.signal?]

@[simp] theorem openings_told (e : LinkEvent) : (w.note (.told e)).openings = w.openings := by
  simp [openings, note, ModbusDeed.isOpened]

@[simp] theorem signals_initialized : w.initialized.signals = w.signals ++ [.told .initialized] :=
  signals_told .initialized

@[simp] theorem openings_initialized : w.initialized.openings = w.openings :=
  openings_told .initialized

private theorem signals_parting (s : Option (Numbered S)) :
    (parting s none).filterMap ModbusDeed.signal? = [] := by
  cases s <;> rfl

private theorem openings_parting (s : Option (Numbered S)) :
    (parting s none).countP ModbusDeed.isOpened = 0 := by
  cases s <;> rfl

private theorem signals_trials (n : Nat) :
    (List.replicate n ModbusDeed.trial).filterMap ModbusDeed.signal? = [] :=
  List.filterMap_replicate_of_none rfl

private theorem openings_trials (n : Nat) :
    (List.replicate n ModbusDeed.trial).countP ModbusDeed.isOpened = 0 := by
  simp [List.countP_replicate, ModbusDeed.isOpened]

theorem signals_renewed (n : Nat) (handle : S) (d : δ) :
    (w.renewed n handle d).signals = w.signals := by
  simp [signals, renewed, signals_parting, signals_trials, ModbusDeed.signal?]

theorem openings_renewed (n : Nat) (handle : S) (d : δ) :
    (w.renewed n handle d).openings = w.openings + 1 := by
  simp [openings, renewed, openings_parting, openings_trials, ModbusDeed.isOpened]

theorem signals_deserted (n : Nat) (d : δ) : (w.deserted n d).signals = w.signals := by
  simp [signals, deserted, signals_parting, signals_trials]

theorem openings_deserted (n : Nat) (d : δ) : (w.deserted n d).openings = w.openings := by
  simp [openings, deserted, openings_parting, openings_trials]

theorem signals_checked {session : Option (Numbered S)} {d x : δ} {live : Bool}
    {checks : List ModbusDeed} (hc : Checked settings c d session live checks x) :
    (w.checked checks x).signals = w.signals := by
  cases hc <;> simp [signals, checked, ModbusDeed.signal?]

theorem openings_checked {session : Option (Numbered S)} {d x : δ} {live : Bool}
    {checks : List ModbusDeed} (hc : Checked settings c d session live checks x) :
    (w.checked checks x).openings = w.openings := by
  cases hc <;> simp [openings, checked, ModbusDeed.isOpened]

theorem signals_lent (s : Numbered S) (r : Outcome α) (d : δ) :
    (w.lent s r d).signals =
      w.signals ++ [.called] ++ (if severs r then [.told .requestFailed] else []) := by
  cases hr : severs r <;>
    simp [signals, lent, aftermath, hr, ModbusDeed.signal?, List.filterMap_cons]

theorem openings_lent (s : Numbered S) (r : Outcome α) (d : δ) :
    (w.lent s r d).openings = w.openings := by
  cases hr : severs r <;> simp [openings, lent, aftermath, hr, ModbusDeed.isOpened]

/-- What the signals of a connection say fits together with what it knows, and each session that
has been opened has been told of. -/
structure Voiced (w : ModbusWatch δ S) : Prop where
  proper : Proper w.signals
  touched : w.status.initialized = true → LinkPhase.ofLog w.signals ≠ .untouched
  up_of_held : w.status.session.isSome → LinkPhase.ofLog w.signals = .up
  counted : w.signals.countP LinkSignal.isOpening = w.openings

namespace Voiced

theorem fresh (d : δ) : Voiced ({ device := d } : ModbusWatch δ S) :=
  ⟨.nil, by simp, by simp, rfl⟩

theorem device (h : w.Voiced) (d : δ) : Voiced { w with device := d } :=
  ⟨h.proper, h.touched, h.up_of_held, h.counted⟩

theorem checked (h : w.Voiced) {session : Option (Numbered S)} {d x : δ} {live : Bool}
    {checks : List ModbusDeed} (hc : Checked settings c d session live checks x) :
    (w.checked checks x).Voiced := by
  have hsignals := signals_checked (w := w) hc
  have hopenings := openings_checked (w := w) hc
  exact ⟨hsignals ▸ h.proper, hsignals ▸ h.touched, hsignals ▸ h.up_of_held,
    hsignals ▸ hopenings ▸ h.counted⟩

/-- A failed connecting is silent. -/
theorem deserted (h : w.Voiced) (n : Nat) (d : δ) : (w.deserted n d).Voiced := by
  have hsignals := signals_deserted (w := w) n d
  have hopenings := openings_deserted (w := w) n d
  exact ⟨hsignals ▸ h.proper, hsignals ▸ h.touched, by simp [ModbusWatch.deserted],
    hsignals ▸ hopenings ▸ h.counted⟩

theorem initFailed (h : w.Voiced) (hnone : w.status.session = none) :
    (w.note (.told .initFailed)).Voiced := by
  refine ⟨?_, ?_, ?_, ?_⟩
  · rw [signals_told]
    exact h.proper.concat trivial
  · rw [signals_told, LinkPhase.ofLog_concat]
    exact h.touched
  · simp [note, hnone]
  · simpa [LinkSignal.isOpening] using h.counted

/-- A new session, told of by either event. -/
theorem opened (h : w.Voiced) {n : Nat} {handle : S} {d : δ} {e : LinkEvent}
    (hadmits : (LinkPhase.ofLog w.signals).Admits (.told e))
    (he : LinkSignal.isOpening (.told e) = true)
    (hsignals : w'.signals = (w.renewed n handle d).signals ++ [.told e])
    (hopenings : w'.openings = (w.renewed n handle d).openings) : w'.Voiced := by
  rw [signals_renewed] at hsignals
  rw [openings_renewed] at hopenings
  have hup : LinkPhase.ofLog w'.signals = .up := by
    rw [hsignals, LinkPhase.ofLog_concat]
    rcases LinkSignal.isOpening_iff.1 he with he | he <;> rw [he] <;> rfl
  refine ⟨hsignals ▸ h.proper.concat hadmits, fun _ => by simp [hup], fun _ => hup, ?_⟩
  rw [hsignals, hopenings, List.countP_append, h.counted, List.countP_singleton, he]
  rfl

theorem lent (h : w.Voiced) {s : Numbered S} (hs : w.status.session = some s) (r : Outcome α)
    (d : δ) : (w.lent s r d).Voiced := by
  have hup := h.up_of_held (by simp [hs])
  have hcalled : Proper (w.signals ++ [.called]) := h.proper.concat hup
  have hphase : LinkPhase.ofLog (w.signals ++ [.called]) = .up := by
    rw [LinkPhase.ofLog_concat, hup]
    rfl
  have hsignals := signals_lent (w := w) s r d
  have hopenings := openings_lent (w := w) s r d
  have hcounted := h.counted
  cases hr : severs r with
  | true =>
      rw [hr] at hsignals
      refine ⟨hsignals ▸ hcalled.concat hphase, ?_, ?_, ?_⟩
      · intro _
        rw [hsignals, if_pos rfl, LinkPhase.ofLog_concat]
        simp [LinkPhase.after]
      · simp [ModbusWatch.lent, hr]
      · rw [hsignals, hopenings]
        simpa [LinkSignal.isOpening] using hcounted
  | false =>
      rw [hr, if_neg Bool.false_ne_true, List.append_nil] at hsignals
      refine ⟨hsignals ▸ hcalled, ?_, ?_, ?_⟩
      · simp [hsignals, hphase]
      · simp [hsignals, hphase]
      · rw [hsignals, hopenings]
        simpa [LinkSignal.isOpening] using hcounted

theorem init {r : Outcome Unit} (h : w.Voiced) (hr : (link settings c).init.Ends w r w') :
    w'.Voiced := by
  rcases ends_init hr with ⟨_, _, rfl⟩ | ⟨_, w₁, hcon, hend⟩
  · exact h
  cases hcon with
  | @opened faults x y handle _ _ _ _ hw₁ =>
      subst hw₁
      rcases hend with ⟨_, rfl⟩ | ⟨⟨f, hf⟩, _⟩
      · exact h.opened (e := .initialized) trivial rfl signals_initialized openings_initialized
      · cases hf
  | refused _ _ _ hw₁ =>
      subst hw₁
      rcases hend with ⟨hok, _⟩ | ⟨_, rfl⟩
      · cases hok
      · exact (h.deserted _ _).initFailed rfl

theorem uses {body : S → Routine δ (Outcome α)} {r : Outcome α} (h : w.Voiced)
    (hinit : w.status.initialized = true) (hu : Uses settings c body w r w') : w'.Voiced := by
  cases hu with
  | held check session _ hw => exact hw ▸ (h.checked check).lent session _ _
  | @renewed checks x z faults y y' handle _ _ check _ _ _ _ hw =>
      have hchecked := h.checked check
      have hopened : (((w.checked checks x).renewed faults.length handle y').note
          (.told .reinitialized)).Voiced :=
        hchecked.opened (e := .reinitialized) (hchecked.touched hinit) rfl (signals_told _)
          (openings_told _)
      exact hw ▸ hopened.lent rfl _ _
  | deserted check _ _ _ hw => exact hw ▸ (h.checked check).deserted _ _

end Voiced

theorem Life.voiced {past : List Call} (h : Life settings c past w) : w.Voiced := by
  induction h with
  | fresh d => exact .fresh d
  | meanwhile _ d ih => exact ih.device d
  | init _ call ih => exact ih.init call
  | execute _ call ih =>
      rcases ends_execute call with ⟨_, _, rfl⟩ | ⟨hinit, huses⟩
      · exact ih
      · exact ih.uses hinit huses

end ModbusWatch

/-! ## HTTP connections -/

/-- The signal in a deed. -/
def HttpDeed.signal? : HttpDeed → Option LinkSignal
  | told e => some (.told e)
  | handled _ => some .called
  | sent _ _ => none

namespace HttpWatch

variable {δ α : Type} {settings : HttpSettings} {client : Except String Unit} {peer : Http.Peer δ}
variable {w w' : HttpWatch δ}

/-- The signals of a connection, in the order in which it has given them. -/
def signals (w : HttpWatch δ) : List LinkSignal := w.deeds.filterMap HttpDeed.signal?

theorem signals_of_deeds {news : List HttpDeed} {log : List LinkSignal}
    (h : w'.deeds = w.deeds ++ news) (hnews : news.filterMap HttpDeed.signal? = log) :
    w'.signals = w.signals ++ log := by
  rw [signals, h, List.filterMap_append, hnews]
  rfl

/-- What the signals of a connection say fits together with what it knows. -/
structure Voiced (w : HttpWatch δ) : Prop where
  proper : Proper w.signals
  touched : w.status.client = true → LinkPhase.ofLog w.signals ≠ .untouched
  up_of_ready : w.status.state = .ready → LinkPhase.ofLog w.signals = .up

namespace Voiced

theorem fresh (d : δ) : Voiced ({ device := d } : HttpWatch δ) :=
  ⟨.nil, by simp, by simp⟩

theorem device (h : w.Voiced) (d : δ) : Voiced { w with device := d } :=
  ⟨h.proper, h.touched, h.up_of_ready⟩

/-- The connection says that it can be used. -/
theorem opened (h : w.Voiced) {s : LinkSignal} (hadmits : (LinkPhase.ofLog w.signals).Admits s)
    (hs : s.isOpening = true) (hsignals : w'.signals = w.signals ++ [s]) : w'.Voiced := by
  have hup : LinkPhase.ofLog w'.signals = .up := by
    rw [hsignals, LinkPhase.ofLog_concat]
    rcases LinkSignal.isOpening_iff.1 hs with rfl | rfl <;> rfl
  exact ⟨hsignals ▸ h.proper.concat hadmits, fun _ => by simp [hup], fun _ => hup⟩

/-- An initialization that fails takes the client away, and the phase does not matter. -/
theorem initFailed (h : w.Voiced) (hstatus : w'.status = ⟨false, .failed⟩)
    (hsignals : w'.signals = w.signals ++ [.told .initFailed]) : w'.Voiced :=
  ⟨hsignals ▸ h.proper.concat trivial, by simp [hstatus], by simp [hstatus]⟩

theorem init {r : Outcome Unit} (h : w.Voiced)
    (hr : (link settings client peer).init.Ends w r w') : w'.Voiced := by
  cases ends_init hr with
  | idle _ _ => exact h
  | met _ _ _ _ after =>
      subst after
      exact h.opened (s := .told .initialized) trivial rfl (signals_of_deeds rfl rfl)
  | missed _ _ _ _ _ after =>
      subst after
      exact h.initFailed rfl (signals_of_deeds rfl rfl)
  | unbuilt _ _ after =>
      subst after
      exact h.initFailed rfl (signals_of_deeds rfl rfl)

/-- A probe that fails during a use is silent. -/
theorem recovers {r : Outcome Unit} (h : w.Voiced) (hheld : w.status.client = true)
    (hr : Recovers settings peer w r w') : w'.Voiced := by
  cases hr with
  | idle _ => exact h
  | met _ _ _ after =>
      subst after
      exact h.opened (s := .told .reinitialized) (h.touched hheld) rfl (signals_of_deeds rfl rfl)
  | @missed reply x _ _ _ _ _ _ after =>
      have hsignals : (w.behind [.sent settings.probe reply] x).signals = w.signals ++ [] :=
        signals_of_deeds rfl rfl
      rw [List.append_nil] at hsignals
      subst after
      exact ⟨hsignals ▸ h.proper, hsignals ▸ h.touched, hsignals ▸ h.up_of_ready⟩

theorem requests {handler : Http.Answer → Routine δ (Outcome α)} {r : Outcome α} (h : w.Voiced)
    (hready : w.status.state = .ready) (hr : Requests settings peer handler w r w') :
    w'.Voiced := by
  have hup := h.up_of_ready hready
  cases hr with
  | answered _ _ after =>
      have hsignals : w'.signals = w.signals ++ [.called] := by
        subst after
        exact signals_of_deeds rfl rfl
      have hphase : LinkPhase.ofLog w'.signals = .up := by
        rw [hsignals, LinkPhase.ofLog_concat, hup]
        rfl
      exact ⟨hsignals ▸ h.proper.concat hup, fun _ => by simp [hphase], fun _ => hphase⟩
  | lost _ after =>
      have hsignals : w'.signals = w.signals ++ [.told .requestFailed] := by
        subst after
        exact signals_of_deeds rfl rfl
      have hphase : LinkPhase.ofLog w'.signals = .down := by
        rw [hsignals, LinkPhase.ofLog_concat]
        rfl
      refine ⟨hsignals ▸ h.proper.concat hup, fun _ => by simp [hphase], ?_⟩
      simp [after]

end Voiced

theorem Life.voiced {past : List Call} (h : Life settings client peer past w) : w.Voiced := by
  induction h with
  | fresh d => exact .fresh d
  | meanwhile _ d ih => exact ih.device d
  | init _ call ih => exact ih.init call
  | execute before call ih =>
      cases ends_execute call with
      | turnedDown _ => exact ih
      | unrecovered held recovery => exact ih.recovers held recovery
      | requested held recovery request =>
          have hstatus := before.sound.recovered held recovery
          exact (ih.recovers held recovery).requests (by rw [hstatus]) request

end HttpWatch

/-! ## Both kinds -/

/-- The events and calls of a connection of either kind, after every row of initializations and
uses and whatever its device does: nothing is lost or comes back before the first initialization has
been told of, between two losses the connection has said that it is back, and behind a loss it calls
no callback before it has said so. The sessions that a Modbus connection has opened are as many as
the times it has said that it can be used. -/
theorem signals_of_life :
    (∀ {δ S : Type} {settings : ModbusSettings} {c : Controller δ S} {past : List ModbusWatch.Call}
        {w : ModbusWatch δ S}, ModbusWatch.Life settings c past w →
      Heralded w.signals ∧
        w.deeds.count (.told .initialized) + w.deeds.count (.told .reinitialized) = w.openings) ∧
    (∀ {δ : Type} {settings : HttpSettings} {client : Except String Unit} {peer : Http.Peer δ}
        {past : List HttpWatch.Call} {w : HttpWatch δ},
      HttpWatch.Life settings client peer past w → Heralded w.signals) := by
  constructor
  · intro δ S settings c past w h
    refine ⟨heralded_of_proper h.voiced.proper, ?_⟩
    rw [← h.voiced.counted]
    exact (ModbusWatch.countP_isOpening w.deeds).symm
  · intro δ settings client peer past w h
    exact heralded_of_proper h.voiced.proper

/-- A session is lost in a use, and so is a request. Both connections say so, and say that they are
back before the next callback is called. -/
theorem signals_of_life_after_loss :
    (∃ w : ModbusWatch (List Bool) Unit,
      ModbusWatch.Life ModbusWatch.scriptedSettings ModbusWatch.scripted
        [.init (.ok ()), .execute, .execute] w ∧
      w.signals = [.told .initialized, .called, .told .requestFailed, .told .reinitialized,
        .called] ∧ Heralded w.signals ∧
      w.deeds.count (.told .initialized) + w.deeds.count (.told .reinitialized) = w.openings ∧
      w.openings = 2) ∧
    (∃ w : HttpWatch (List Http.Reply),
      HttpWatch.Life HttpWatch.scriptedSettings (.ok ()) HttpWatch.scripted
        [.init (.ok ()), .execute, .execute] w ∧
      w.signals = [.told .initialized, .told .requestFailed, .told .reinitialized, .called] ∧
        Heralded w.signals) := by
  constructor
  · let body : Unit → Routine (List Bool) (Outcome Unit) := fun _ => .done (.ok ())
    let back : ModbusWatch (List Bool) Unit :=
      { status := { initialized := true, session := some ⟨1, ()⟩, state := .ready }
        device := []
        opened := 2
        deeds := (ModbusWatch.scriptedLoss []).deeds ++
          [.trial, .opened 1, .told .reinitialized, .used 1] }
    have huse : ((ModbusWatch.link ModbusWatch.scriptedSettings ModbusWatch.scripted).execute
        (ModbusWatch.lend body)).Ends (ModbusWatch.scriptedLoss []) (.ok ()) back :=
      Routine.ends_alone _ 0 _
    have hlife := ModbusWatch.Life.execute (ModbusWatch.life_scriptedLoss []) huse
    obtain ⟨hheralded, hcounted⟩ := signals_of_life.1 hlife
    exact ⟨back, hlife, rfl, hheralded, hcounted, rfl⟩
  · let back : HttpWatch (List Http.Reply) :=
      { status := ⟨true, .ready⟩
        device := []
        deeds := (HttpWatch.scriptedLoss []).deeds ++
          [.sent HttpWatch.scriptedSettings.probe (HttpWatch.answered 204), .told .reinitialized,
            .sent HttpWatch.scriptedSettings.call (HttpWatch.answered 404),
            .handled ⟨"http://stove", 404, .empty, true⟩] }
    have huse : ((HttpWatch.link HttpWatch.scriptedSettings (.ok ()) HttpWatch.scripted).execute
        (HttpWatch.hand HttpWatch.statusOf)).Ends
        (HttpWatch.scriptedLoss [HttpWatch.answered 204, HttpWatch.answered 404]) (.ok 404) back :=
      Routine.ends_alone _ 0 _
    have hlife := HttpWatch.Life.execute (HttpWatch.life_scriptedLoss _) huse
    exact ⟨back, hlife, rfl, signals_of_life.2 hlife⟩

end HomeEnergy
