import HomeEnergy.Proofs.StatusPage.Views
import HomeEnergy.Proofs.StatusPage.Watch

/-!
# What the status page lists

Any number of cycles and uploads run at once, step by step and in any order, and something outside
may happen between any two of their steps. A call that has made the first of its two changes, which
are the note and the entry, owes the second one, and makes it before it ends. So a module has an
entry if and only if one of its queries has been successful or one of its uploads has been accepted,
unless a call of it is under way. Each entry is the text of a document, whatever has failed, and so
the page lists all of them.

## Main results

* `CollectorWatch.Balanced.step` — what every step of every call preserves.
* `CollectorWatch.balanced_of_reach` — what holds in every course of the calls.
* `CollectorWatch.listing_decided` — the two views of a cache, and what they show in such a course.
-/

namespace HomeEnergy

namespace Cache

/-- All entries are documents. -/
def Legible (c : Cache) : Prop :=
  ∀ name payload, c.get? name = some payload → (Json.readBytes payload).isSome = true

theorem Legible.put {c : Cache} (h : c.Legible) {d : Document} (hd : d.Legible) (name : String) :
    (c.put name (Json.bytes d)).Legible := by
  intro n payload hget
  rw [get?_put] at hget
  by_cases hn : n = name
  · rw [if_pos hn] at hget
    obtain rfl := Option.some.inj hget
    exact hd
  · rw [if_neg hn] at hget
    exact h n payload hget

theorem mem_names_put {c : Cache} {name n : String} {payload : ByteArray} :
    n ∈ (c.put name payload).names ↔ n = name ∨ n ∈ c.names := Catalog.mem_insertEntry

end Cache

namespace CollectorWatch

variable {S ω : Type}
variable {w w' : CollectorWatch S ω} {name n : String} {ph ph' : Phase}

/-! ## What is done and what is due -/

/-- What a call has done for its module when it has come to a phase. -/
def Phase.Done : Phase → CollectorWatch S ω → String → Prop
  | .quiet, _, _ => True
  | .found, w, name => name ∈ w.fed
  | .stored, w, name => name ∈ w.cache.names

/-- What it still has to do. -/
def Phase.Due : Phase → CollectorWatch S ω → String → Prop
  | .quiet, _, _ => True
  | .found, w, name => name ∈ w.cache.names
  | .stored, w, name => name ∈ w.fed

/-- Nothing that is done is undone, and entries stay documents. -/
structure Grows (w w' : CollectorWatch S ω) : Prop where
  names : w.cache.names ⊆ w'.cache.names
  fed : w.fed ⊆ w'.fed
  legible : w.cache.Legible → w'.cache.Legible

theorem Grows.done (h : Grows w w') (hdone : ph.Done w name) : ph.Done w' name := by
  cases ph with
  | quiet => trivial
  | found => exact h.fed hdone
  | stored => exact h.names hdone

theorem Grows.due (h : Grows w w') (hdue : ph.Due w name) : ph.Due w' name := by
  cases ph with
  | quiet => trivial
  | found => exact h.names hdue
  | stored => exact h.fed hdue

/-- Nothing happens to the cache. -/
theorem grows_of_cache (hcache : w'.cache = w.cache) (hfed : w.fed ⊆ w'.fed) : Grows w w' where
  names := by
    rw [hcache]
    exact List.Subset.refl _
  fed := hfed
  legible hlegible := by
    rw [hcache]
    exact hlegible

namespace Same

theorem symm (h : Same w w') : Same w' w := ⟨h.cache.symm, h.fed.symm⟩

theorem grows (h : Same w w') : Grows w w' := by
  apply grows_of_cache h.cache
  rw [h.fed]
  exact List.Subset.refl _

end Same

namespace Notes

theorem mem_fed_iff (h : Notes name w w') : n ∈ w'.fed ↔ n = name ∨ n ∈ w.fed := by
  rw [h.fed, List.mem_append, List.mem_singleton]
  exact or_comm

theorem grows (h : Notes name w w') : Grows w w' := by
  apply grows_of_cache h.cache
  intro n hn
  exact h.mem_fed_iff.2 (.inr hn)

/-- A note is the only thing that is new. -/
theorem fresh (h : Notes name w w') (hn : ph.Done w' n) :
    ph.Done w n ∨ (n = name ∧ ph = .found) := by
  cases ph with
  | quiet => exact .inl trivial
  | found =>
      rcases h.mem_fed_iff.1 hn with rfl | hold
      · exact .inr ⟨rfl, rfl⟩
      · exact .inl hold
  | stored =>
      have hnames : n ∈ w'.cache.names := hn
      rw [h.cache] at hnames
      exact .inl hnames

end Notes

namespace Fills

theorem mem_names_iff (h : Fills name w w') :
    n ∈ w'.cache.names ↔ n = name ∨ n ∈ w.cache.names := by
  obtain ⟨d, -, hcache⟩ := h.cache
  rw [hcache]
  exact Cache.mem_names_put

theorem grows (h : Fills name w w') : Grows w w' where
  names n hn := h.mem_names_iff.2 (.inr hn)
  fed := by
    rw [h.fed]
    exact List.Subset.refl _
  legible hlegible := by
    obtain ⟨d, hd, hcache⟩ := h.cache
    rw [hcache]
    exact hlegible.put hd name

/-- An entry is the only thing that is new. -/
theorem fresh (h : Fills name w w') (hn : ph.Done w' n) :
    ph.Done w n ∨ (n = name ∧ ph = .stored) := by
  cases ph with
  | quiet => exact .inl trivial
  | found =>
      have hfed : n ∈ w'.fed := hn
      rw [h.fed] at hfed
      exact .inl hfed
  | stored =>
      rcases h.mem_names_iff.1 hn with rfl | hold
      · exact .inr ⟨rfl, rfl⟩
      · exact .inl hold

end Fills

namespace Shift

theorem grows (h : Shift name ph w w' ph') : Grows w w' := by
  cases h with
  | same same => exact same.grows
  | finds notes => exact notes.grows
  | puts fills => exact fills.grows
  | stores fills => exact fills.grows
  | accepts notes => exact notes.grows

/-- Who comes to a phase has done what belongs to it. -/
theorem done (h : Shift name ph w w' ph') (hdone : ph.Done w name) : ph'.Done w' name := by
  cases h with
  | same same => exact same.grows.done hdone
  | finds notes => exact notes.mem_fed_iff.2 (.inl rfl)
  | puts _ => trivial
  | stores fills => exact fills.mem_names_iff.2 (.inl rfl)
  | accepts _ => trivial

/-- Who leaves a phase has done what was due in it. -/
theorem due (h : Shift name ph w w' ph') : ph' = ph ∨ ph.Due w' name := by
  cases h with
  | same _ => exact .inl rfl
  | finds _ => exact .inr trivial
  | puts fills => exact .inr (fills.mem_names_iff.2 (.inl rfl))
  | stores _ => exact .inr trivial
  | accepts notes => exact .inr (notes.mem_fed_iff.2 (.inl rfl))

/-- What is done now and was not done before has been done by the call for its own module. Then the
call owes what is due, or it is done as well. -/
theorem fresh (h : Shift name ph w w' ph') (hdone : ph.Done w name) {owed : Phase}
    (hn : owed.Done w' n) : owed.Done w n ∨ (n = name ∧ (ph' = owed ∨ owed.Due w' name)) := by
  cases h with
  | same same => exact .inl (same.symm.grows.done hn)
  | finds notes =>
      rcases notes.fresh hn with hold | ⟨rfl, rfl⟩
      · exact .inl hold
      · exact .inr ⟨rfl, .inl rfl⟩
  | puts fills =>
      rcases fills.fresh hn with hold | ⟨rfl, rfl⟩
      · exact .inl hold
      · exact .inr ⟨rfl, .inr (fills.grows.fed hdone)⟩
  | stores fills =>
      rcases fills.fresh hn with hold | ⟨rfl, rfl⟩
      · exact .inl hold
      · exact .inr ⟨rfl, .inl rfl⟩
  | accepts notes =>
      rcases notes.fresh hn with hold | ⟨rfl, rfl⟩
      · exact .inl hold
      · exact .inr ⟨rfl, .inr (notes.grows.names hdone)⟩

end Shift

/-! ## Calls under way -/

variable {around : Surroundings (CollectorWatch S ω) S} {s : CollectorSettings}

/-- What has come is one of the calls that settings ask for. -/
abbrev Calls (around : Surroundings (CollectorWatch S ω) S) (s : CollectorSettings)
    (g : Guest (CollectorWatch S ω)) : Prop :=
  ∃ name, Call around s name g

/-- A call of a module has come to a phase. -/
structure Stands (around : Surroundings (CollectorWatch S ω) S) (s : CollectorSettings)
    (w : CollectorWatch S ω) (name : String) (ph : Phase) (g : Guest (CollectorWatch S ω)) :
    Prop where
  call : Call around s name (.of g.whole)
  goes : Goes name g.rest ph
  done : ph.Done w name

/-- Where a call has come depends on the state in what is done only. -/
theorem Stands.grown {g : Guest (CollectorWatch S ω)} (h : Stands around s w name ph g)
    (hgrows : Grows w w') : Stands around s w' name ph g :=
  ⟨h.call, h.goes, hgrows.done h.done⟩

theorem Call.of_whole {g : Guest (CollectorWatch S ω)} (h : Call around s name g) :
    Call around s name (.of g.whole) := by
  cases h with
  | inverter given task => exact .inverter given task
  | battery given task => exact .battery given task
  | stove given task => exact .stove given task
  | heating given task => exact .heating given task
  | weather given task params => exact .weather given task params

/-- A call may go on like this, in whatever phase it is. -/
def Proceeds (w w' : CollectorWatch S ω) (g : Guest (CollectorWatch S ω))
    (rest : Routine (CollectorWatch S ω) g.Result) : Prop :=
  ∀ name ph, Goes name g.rest ph → ∃ ph', Goes name rest ph' ∧ Shift name ph w w' ph'

section Proceeds

variable {g : Guest (CollectorWatch S ω)} {rest : Routine (CollectorWatch S ω) g.Result}

theorem proceeds_of_advances (h : g.rest.Advances w rest w') : Proceeds w w' g rest := by
  intro name ph hgoes
  obtain ⟨ph', hgoes', hshift | ⟨rfl, rfl⟩⟩ := h.phased hgoes
  · exact ⟨ph', hgoes', hshift⟩
  · exact ⟨ph', hgoes', .same (Same.refl _)⟩

/-- Taking the lock and giving it back changes nothing. -/
theorem proceeds_of_lock (w : CollectorWatch S ω)
    (h : g.rest = .acquire rest ∨ g.rest = .release rest) : Proceeds w w g rest := by
  intro name ph hgoes
  rcases h with hrest | hrest <;>
  · rw [hrest] at hgoes
    exact ⟨ph, hgoes, .same (Same.refl w)⟩

theorem Proceeds.stands (h : Proceeds w w' g rest) (hstands : Stands around s w name ph g) :
    ∃ ph', Shift name ph w w' ph' ∧ Stands around s w' name ph' (g.left rest) := by
  obtain ⟨ph', hgoes, hshift⟩ := h name ph hstands.goes
  exact ⟨ph', hshift, hstands.call, hgoes, hshift.done hstands.done⟩

end Proceeds

/-- The accounts are in order: all entries are documents, and what is done for a module but not yet
all that is due is owed by a call that is under way. -/
structure Balanced (around : Surroundings (CollectorWatch S ω) S) (s : CollectorSettings)
    (c : Crowd (CollectorWatch S ω)) : Prop where
  legible : c.state.cache.Legible
  stands : ∀ g ∈ c.guests, ∃ name ph, Stands around s c.state name ph g
  owed : ∀ ph name, ph.Done c.state name → ph.Due c.state name ∨
    ∃ g ∈ c.guests, Stands around s c.state name ph g

namespace Balanced

variable {c c' : Crowd (CollectorWatch S ω)}

/-- Before anything has come. -/
theorem fresh (around : Surroundings (CollectorWatch S ω) S) (s : CollectorSettings) (world : ω) :
    Balanced around s { state := { collector := Collector.start s, world } } where
  legible name payload h := by cases h
  stands g hg := by cases hg
  owed ph name h := by
    cases ph with
    | quiet => exact .inl trivial
    | found => cases h
    | stored => cases h

theorem come (haround : around.Keeps Same) (h : Balanced around s c)
    {g : Guest (CollectorWatch S ω)} (hg : Calls around s g) :
    Balanced around s { c with guests := c.guests ++ [g] } where
  legible := h.legible
  stands g' hg' := by
    rcases List.mem_append.1 hg' with hold | hnew
    · exact h.stands g' hold
    · obtain rfl := List.mem_singleton.1 hnew
      obtain ⟨name, hcall⟩ := hg
      exact ⟨name, .quiet, hcall.of_whole, hcall.goes haround, trivial⟩
  owed ph name hdone := by
    rcases h.owed ph name hdone with hdue | ⟨g', hg', hstands⟩
    · exact .inl hdue
    · exact .inr ⟨g', List.mem_append_left _ hg', hstands⟩

theorem outside (h : Balanced around s c) {w : CollectorWatch S ω} (hsame : Same c.state w) :
    Balanced around s { c with state := w } where
  legible := hsame.grows.legible h.legible
  stands g hg := by
    obtain ⟨name, ph, hstands⟩ := h.stands g hg
    exact ⟨name, ph, hstands.grown hsame.grows⟩
  owed ph name hdone := by
    rcases h.owed ph name (hsame.symm.grows.done hdone) with hdue | ⟨g, hg, hstands⟩
    · exact .inl (hsame.grows.due hdue)
    · exact .inr ⟨g, hg, hstands.grown hsame.grows⟩

/-- A call goes on. -/
theorem goOn (h : Balanced around s c) {i : Nat} {g : Guest (CollectorWatch S ω)}
    (hg : c.guests[i]? = some g) {rest : Routine (CollectorWatch S ω) g.Result}
    {w : CollectorWatch S ω} (hgoes : Proceeds c.state w g rest) :
    Balanced around s (c.goOn i g rest w) := by
  have hself : g.left rest ∈ (c.goOn i g rest w).guests := by
    apply List.mem_of_getElem?
    exact List.getElem?_set_self (List.getElem?_eq_some_iff.1 hg).1
  obtain ⟨name, ph, hstands⟩ := h.stands g (List.mem_of_getElem? hg)
  obtain ⟨ph', hshift, hnext⟩ := hgoes.stands hstands
  refine ⟨hshift.grows.legible h.legible, ?_, ?_⟩
  · intro g' hg'
    obtain ⟨j, hj⟩ := List.getElem?_of_mem hg'
    rcases Crowd.guest_cases hg hj with ⟨rfl, rfl⟩ | ⟨-, hother⟩
    · exact ⟨name, ph', hnext⟩
    · obtain ⟨n, p, hstands⟩ := h.stands g' (List.mem_of_getElem? hother)
      exact ⟨n, p, hstands.grown hshift.grows⟩
  · intro owed n hdone
    rcases hshift.fresh hstands.done hdone with hold | ⟨rfl, rfl | hdue⟩
    · rcases h.owed owed n hold with hdue | ⟨g', hg', howes⟩
      · exact .inl (hshift.grows.due hdue)
      · obtain ⟨j, hj⟩ := List.getElem?_of_mem hg'
        by_cases hji : j = i
        · -- the call that goes on has owed it, and still does or has made it good
          subst hji
          obtain rfl : g = g' := Option.some.inj (hg.symm.trans hj)
          obtain ⟨owed', hshift', howes'⟩ := hgoes.stands howes
          rcases hshift'.due with rfl | hdue
          · exact .inr ⟨_, hself, howes'⟩
          · exact .inl hdue
        · have hkept : (c.goOn i g rest w).guests[j]? = some g' := by
            rw [← hj]
            exact List.getElem?_set_ne (Ne.symm hji)
          exact .inr ⟨g', List.mem_of_getElem? hkept, howes.grown hshift.grows⟩
    · exact .inr ⟨_, hself, hnext⟩
    · exact .inl hdue

/-- Each step keeps the accounts in order, whoever takes it. -/
theorem step {others : CollectorWatch S ω → CollectorWatch S ω → Prop}
    (haround : around.Keeps Same) (hothers : ∀ w w', others w w' → Same w w')
    (h : Balanced around s c) (hstep : Crowd.Step (Calls around s) others c c') :
    Balanced around s c' := by
  cases hstep with
  | come call => exact h.come haround call
  | outside change => exact h.outside (hothers _ _ change)
  | go guest step => exact h.goOn guest (proceeds_of_advances step)
  | take guest waits free =>
      have hgone := h.goOn guest (proceeds_of_lock c.state (.inl waits))
      exact ⟨hgone.legible, hgone.stands, hgone.owed⟩
  | give guest gives =>
      have hgone := h.goOn guest (proceeds_of_lock c.state (.inr gives))
      exact ⟨hgone.legible, hgone.stands, hgone.owed⟩

/-- A module has an entry if and only if it is noted, unless a call of it is under way. -/
theorem names_iff (h : Balanced around s c) {name : String}
    (hover : ∀ g ∈ c.guests, Call around s name (.of g.whole) → ∃ r, g.rest = .done r) :
    name ∈ c.state.cache.names ↔ name ∈ c.state.fed := by
  -- a call that is over owes nothing
  have hquiet : ∀ ph, ∀ g ∈ c.guests, Stands around s c.state name ph g → ph = .quiet := by
    intro ph g hg hstands
    obtain ⟨r, hr⟩ := hover g hg hstands.call
    have hgoes := hstands.goes
    rw [hr] at hgoes
    exact hgoes
  constructor
  · intro hstored
    rcases h.owed .stored name hstored with hdue | ⟨g, hg, hstands⟩
    · exact hdue
    · cases hquiet .stored g hg hstands
  · intro hfound
    rcases h.owed .found name hfound with hdue | ⟨g, hg, hstands⟩
    · exact hdue
    · cases hquiet .found g hg hstands

end Balanced

/-- What holds of every course of cycles and uploads. -/
theorem balanced_of_reach {others : CollectorWatch S ω → CollectorWatch S ω → Prop}
    (haround : around.Keeps Same) (hothers : ∀ w w', others w w' → Same w w') {world : ω}
    {c : Crowd (CollectorWatch S ω)} (h : Crowd.Reach (Calls around s) others
      { state := { collector := Collector.start s, world } } c) : Balanced around s c := by
  induction h with
  | refl => exact .fresh around s world
  | tail _ hstep ih => exact ih.step haround hothers hstep

/-- The two views of the status page agree on every cache. And in every course of cycles and
uploads, whatever fails in them, all records are listed, and a module has one among them if and only
if it has had a successful query or an accepted upload, unless one of its calls is still under
way. -/
theorem listing_decided (around : Surroundings (CollectorWatch S ω) S) (s : CollectorSettings)
    (others : CollectorWatch S ω → CollectorWatch S ω → Prop) (world : ω) :
    (∀ c, StatusPage.Agree c) ∧
      (around.Keeps Same → (∀ w w', others w w' → Same w w') →
        ∀ c, Crowd.Reach (Calls around s) others
            { state := { collector := Collector.start s, world } } c →
          ∃ members, StatusPage.allRecords c.state.cache = .ok (.map members) ∧
            ∀ name, (∀ g ∈ c.guests, Call around s name (.of g.whole) → ∃ r, g.rest = .done r) →
              (name ∈ members.map (·.1) ↔ name ∈ c.state.fed)) := by
  refine ⟨StatusPage.agree, ?_⟩
  intro haround hothers c hreach
  have hbalanced := balanced_of_reach haround hothers hreach
  have hagree := StatusPage.agree c.state.cache
  obtain ⟨d, hd⟩ := hagree.listed.2 hbalanced.legible
  obtain ⟨members, rfl, hnames, -, -⟩ := hagree.members d hd
  refine ⟨members, hd, ?_⟩
  intro name hover
  rw [hnames]
  exact hbalanced.names_iff hover

/-! ## A cabin -/

/-- A stove, a heating controller and a weather station. -/
def cabin : CollectorSettings where
  stove := some { host := "stove", user := "admin" }
  heating := some { host := "controller" }
  weather := some {}

/-- Surroundings in which the controller answers reads over a session, no other device answers and
nothing is stored. -/
def remote : Surroundings (CollectorWatch Unit Unit) Unit where
  send _ _ := pure (.error .late)
  controller _ := {
    connect := pure (.error (.internal "nobody is there"))
    readHolding := fun _ _ count => pure (.ok (List.replicate count 200))
    readInput := fun _ _ _ => pure (.ok [])
    writeSingle := fun _ _ _ => pure (.ok ())
    writeMultiple := fun _ _ _ => pure (.ok ()) }
  bind _ := pure (.ok ())
  database := none
  report _ _ w := w

/-- Both connections have been made ready. -/
def cabinReady : CollectorWatch Unit Unit where
  collector :=
    { (Collector.start cabin : Collector Unit) with
      stove := ⟨true, .ready⟩
      heating := ⟨true, some (), .ready⟩ }
  world := ()

/-- A cycle of the stove, one of the heating controller, and two uploads have come. The second
upload has no number for the sun. -/
def cabinCrowd : Crowd (CollectorWatch Unit Unit) where
  state := cabinReady
  guests :=
    [.of (poller (Collector.stovePoller collectorPart remote
        { host := "stove", user := "admin" } 0)).cycle,
      .of (poller (Collector.heatingPoller collectorPart remote { host := "controller" } 1)).cycle,
      .of (upload (Collector.receiver collectorPart remote {} 2) (ModuleWatch.sunny "3.2")),
      .of (upload (Collector.receiver collectorPart remote {} 2) (ModuleWatch.sunny "high"))]

/-- The turns in which they go on. -/
def cabinTurns : List Nat := (List.range 80).map (· % 4)

/-- They take turns until all of them are over. -/
def cabinCourse : Crowd (CollectorWatch Unit Unit) := cabinTurns.foldl Crowd.turn cabinCrowd

/-- Whether a call is over. -/
def isOver {σ : Type} (g : Guest σ) : Bool :=
  match g.rest with
  | .done _ => true
  | _ => false

theorem exists_done_of_isOver {σ : Type} {g : Guest σ} (h : isOver g = true) :
    ∃ r, g.rest = .done r := by
  unfold isOver at h
  cases hrest : g.rest with
  | done r => exact ⟨r, rfl⟩
  | _ =>
      rw [hrest] at h
      cases h

theorem remote_keeps : remote.Keeps Same where
  send _ _ := trivial
  controller _ := ⟨trivial, fun _ _ _ => trivial, fun _ _ _ => trivial, fun _ _ _ => trivial,
    fun _ _ _ => trivial⟩
  bind _ := trivial
  database _ hdb := nomatch hdb
  report _ _ := Same.refl
  log _ := Same.refl

/-- The stove has not answered and the second upload has been rejected; the controller and the first
upload are listed. -/
theorem listing_decided_cabin :
    remote.Keeps Same ∧ (∀ g ∈ cabinCourse.guests, ∃ r, g.rest = .done r) ∧
      Crowd.Reach (Calls remote cabin) Same
        { state := { collector := Collector.start cabin, world := () } } cabinCourse ∧
      cabinCourse.state.fed = ["weather", "solvis"] ∧
      ∃ members, StatusPage.allRecords cabinCourse.state.cache = .ok (.map members) ∧
        ∀ name, name ∈ members.map (·.1) ↔ name = "weather" ∨ name = "solvis" := by
  have hall : cabinCourse.guests.all isOver = true := by decide +kernel
  have hover : ∀ g ∈ cabinCourse.guests, ∃ r, g.rest = .done r := by
    intro g hg
    exact exists_done_of_isOver (List.all_eq_true.1 hall g hg)
  have hfed : cabinCourse.state.fed = ["weather", "solvis"] := by decide +kernel
  have hready : Crowd.Reach (Calls remote cabin) Same
      { state := { collector := Collector.start cabin, world := () } } { state := cabinReady } :=
    .single (.outside ⟨rfl, rfl⟩)
  have hcame : Crowd.Reach (Calls remote cabin) Same { state := cabinReady } cabinCrowd :=
    (((Relation.ReflTransGen.refl.tail (.come ⟨_, .stove rfl 0⟩)).tail
      (.come ⟨_, .heating rfl 1⟩)).tail (.come ⟨_, .weather rfl 2 _⟩)).tail
      (.come ⟨_, .weather rfl 2 _⟩)
  have hreach := (hready.trans hcame).trans (Crowd.reach_turns cabinCrowd cabinTurns)
  obtain ⟨members, hlisted, hnames⟩ :=
    (listing_decided remote cabin Same ()).2 remote_keeps (fun _ _ h => h) cabinCourse hreach
  refine ⟨remote_keeps, hover, hreach, hfed, members, hlisted, ?_⟩
  intro name
  rw [hnames name fun g hg _ => hover g hg, hfed, List.mem_pair]

end CollectorWatch

end HomeEnergy
