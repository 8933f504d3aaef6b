import HomeEnergy.Settings.Validation

/-!
# What valid settings are

Settings are valid if each section that is there makes sense by itself and the names of all modules
are different. `CollectorSettings.Sensible` says so section by section, without rules and their
order. The checks agree with it, and what they answer otherwise is the fault of the first rule that
is broken; it always tells of invalid settings.

## Main results

* `Rule.check_eq_error_iff` — the first broken rule is reported.
* `CollectorSettings.validate_eq_ok_iff_sensible` — valid settings are the sensible ones.
* `CollectorSettings.invalid_of_validate` — what all faults of the checks have in common.
-/

namespace HomeEnergy

namespace Text

/-- A text of blanks only. -/
def Blank (s : String) : Prop := ∀ c ∈ s.toList, isBlank c = true

theorem trim_eq_nil_iff {s : List Char} : trim s = [] ↔ ∀ c ∈ s, isBlank c := by
  constructor
  · intro h c hc
    by_cases hnil : dropBlank s = []
    · exact dropBlank_eq_nil_iff.1 hnil c hc
    · -- The first character that is left at the front is not blank, and is left at the back too.
      have hback := dropBlank_eq_nil_iff.1 (List.reverse_eq_nil_iff.1 h)
      have hfirst : isBlank ((dropBlank s).head hnil) = false := by
        have := List.head_dropWhile_not isBlank hnil
        simpa only [dropBlank] using this
      rw [hback _ (List.mem_reverse.2 (List.head_mem hnil))] at hfirst
      cases hfirst
  · intro h
    rw [trim, dropBlank_eq_nil_iff.2 h]
    rfl

/-- Nothing is left of a text that is trimmed exactly if it is blank. -/
theorem trimmed_eq_empty_iff {s : String} : trimmed s = "" ↔ Blank s := by
  rw [trimmed, ← String.toList_inj, String.toList_ofList]
  exact trim_eq_nil_iff

end Text

namespace Rule

/-- The fault that is answered is that of the first rule that is broken. -/
theorem check_eq_error_iff {rules : List Rule} {f : Fault} :
    check rules = .error f ↔ ∃ before r after, rules = before ++ r :: after ∧
      (∀ q ∈ before, q.kept) ∧ r.kept = false ∧ f = r.breach := by
  induction rules with
  | nil =>
      constructor
      · intro h
        cases h
      · rintro ⟨before, r, after, heq, -⟩
        simp at heq
  | cons q rest ih =>
      by_cases hq : q.kept
      · rw [check, if_pos hq, ih]
        constructor
        · rintro ⟨before, r, after, rfl, hbefore, hr, hf⟩
          refine ⟨q :: before, r, after, rfl, ?_, hr, hf⟩
          intro p hp
          rcases List.mem_cons.1 hp with rfl | hp
          · exact hq
          · exact hbefore p hp
        · rintro ⟨before, r, after, heq, hbefore, hr, hf⟩
          cases before with
          | nil =>
              obtain ⟨rfl, -⟩ := List.cons.inj heq
              rw [hq] at hr
              cases hr
          | cons p before =>
              obtain ⟨rfl, rfl⟩ := List.cons.inj heq
              exact ⟨before, r, after, rfl, fun x hx => hbefore x (List.mem_cons_of_mem _ hx), hr,
                hf⟩
      · rw [check, if_neg hq]
        constructor
        · intro h
          obtain rfl := Except.error.inj h
          refine ⟨[], q, rest, rfl, ?_, by simpa using hq, rfl⟩
          intro p hp
          cases hp
        · rintro ⟨before, r, after, heq, hbefore, hr, rfl⟩
          cases before with
          | nil =>
              obtain ⟨rfl, -⟩ := List.cons.inj heq
              rfl
          | cons p before =>
              obtain ⟨rfl, -⟩ := List.cons.inj heq
              exact absurd (hbefore q List.mem_cons_self) hq

section Kept

variable {field value : String}

@[simp] theorem present_kept : (present field value).kept = true ↔ value ≠ "" := by
  simp [present]

@[simp] theorem address_kept : (address field value).kept = true ↔ ¬ Text.Blank value := by
  simp [address, Text.trimmed_eq_empty_iff]

@[simp] theorem someOf_kept {n : Nat} : (someOf field n).kept = true ↔ 1 ≤ n := by
  simp only [someOf, decide_eq_true_eq]
  omega

@[simp] theorem interval_kept {d : Span} : (interval field d).kept = true ↔ 0 < d.nanos := by
  simp only [interval, decide_eq_true_eq]
  omega

end Kept

/-- The fault of a rule names a field and says what is wrong with it. -/
def Tells (r : Rule) : Prop := ∃ field reason, r.breach = .invalidConfig field reason

section Tells

variable {field value : String}

theorem present_tells : (present field value).Tells := ⟨_, _, rfl⟩

theorem address_tells : (address field value).Tells := ⟨_, _, rfl⟩

theorem someOf_tells {n : Nat} : (someOf field n).Tells := ⟨_, _, rfl⟩

theorem interval_tells {d : Span} : (interval field d).Tells := ⟨_, _, rfl⟩

end Tells

end Rule

/-- The rules for names ask for names that are not empty and differ from each other and from those
before them. -/
theorem nameRules_kept {before names : List String} :
    (∀ r ∈ nameRules before names, r.kept) ↔
      (∀ n ∈ names, n ≠ "") ∧ names.Nodup ∧ ∀ n ∈ names, n ∉ before := by
  induction names generalizing before with
  | nil => simp [nameRules]
  | cons name rest ih =>
      simp only [nameRules, List.forall_mem_cons, ih, List.nodup_cons, decide_eq_true_eq]
      constructor
      · rintro ⟨hname, hnew, hnames, hdistinct, hapart⟩
        refine ⟨⟨hname, hnames⟩, ⟨?_, hdistinct⟩, hnew, ?_⟩
        · intro hmem
          exact hapart name hmem List.mem_cons_self
        · intro n hn hbefore
          exact hapart n hn (List.mem_cons_of_mem _ hbefore)
      · rintro ⟨⟨hname, hnames⟩, ⟨hfresh, hdistinct⟩, hnew, hapart⟩
        refine ⟨hname, hnew, hnames, hdistinct, ?_⟩
        intro n hn hmem
        rcases List.mem_cons.1 hmem with rfl | hbefore
        · exact hfresh hn
        · exact hapart n hn hbefore

namespace CollectorSettings

/-- Settings that make sense, section by section. -/
structure Sensible (s : CollectorSettings) : Prop where
  service : s.service.name ≠ "" ∧ s.service.listen ≠ ""
  database : ∀ d ∈ s.database, d.host ≠ "" ∧ d.database ≠ "" ∧ 1 ≤ d.maxConnections
  inverter : ∀ d ∈ s.inverter, ¬ Text.Blank d.host ∧ 0 < d.pollInterval.nanos
  battery : ∀ d ∈ s.battery, ¬ Text.Blank d.host ∧ 0 < d.pollInterval.nanos
  stove : ∀ d ∈ s.stove, ¬ Text.Blank d.host ∧ 0 < d.pollInterval.nanos ∧ d.user ≠ ""
  heating : ∀ d ∈ s.heating,
    ¬ Text.Blank d.host ∧ 0 < d.pollInterval.nanos ∧ 1 ≤ d.retry.maxAttempts
  rooms : ∀ d ∈ s.heating, ∀ r ∈ d.rooms, 0 < r.pollInterval.nanos ∧ r.source ≠ ""
  weather : ∀ d ∈ s.weather, ¬ Text.Blank d.listen
  named : ∀ n ∈ s.names, n ≠ ""
  distinct : s.names.Nodup

theorem rules_kept {s : CollectorSettings} : (∀ r ∈ s.rules, r.kept) ↔ s.Sensible := by
  simp only [rules, List.forall_mem_append, List.forall_mem_flatMap, List.forall_mem_cons,
    nameRules_kept, Rule.present_kept, Rule.address_kept, Rule.someOf_kept, Rule.interval_kept,
    Option.mem_toList, List.not_mem_nil, false_imp_iff, implies_true, not_false_eq_true, and_true]
  constructor
  · rintro ⟨⟨⟨⟨⟨⟨⟨service, database⟩, inverter⟩, battery⟩, stove⟩, heating⟩, weather⟩,
      named, distinct⟩
    exact ⟨service, database, inverter, battery, stove, fun d hd => (heating d hd).1,
      fun d hd => (heating d hd).2, weather, named, distinct⟩
  · intro h
    exact ⟨⟨⟨⟨⟨⟨⟨h.service, h.database⟩, h.inverter⟩, h.battery⟩, h.stove⟩,
      fun d hd => ⟨h.heating d hd, h.rooms d hd⟩⟩, h.weather⟩, h.named, h.distinct⟩

/-- The checks accept the settings that make sense, and no others. -/
theorem validate_eq_ok_iff_sensible {s : CollectorSettings} : s.validate = .ok () ↔ s.Sensible :=
  validate_eq_ok_iff.trans rules_kept

/-- Each rule tells of invalid settings. -/
theorem tells_of_rules {s : CollectorSettings} : ∀ r ∈ s.rules, r.Tells := by
  have hnames : ∀ before names, ∀ r ∈ nameRules before names, r.Tells := by
    intro before names
    induction names generalizing before with
    | nil => simp [nameRules]
    | cons name rest ih =>
        rw [nameRules, List.forall_mem_cons, List.forall_mem_cons]
        exact ⟨⟨_, _, rfl⟩, ⟨_, _, rfl⟩, ih (name :: before)⟩
  simp only [rules, List.forall_mem_append, List.forall_mem_flatMap, List.forall_mem_cons,
    Rule.present_tells, Rule.address_tells, Rule.someOf_tells, Rule.interval_tells, true_and,
    List.not_mem_nil, false_imp_iff, implies_true]
  exact hnames [] s.names

/-- Whatever fault the checks answer, it tells of invalid settings. -/
theorem invalid_of_validate {s : CollectorSettings} {f : Fault} (h : s.validate = .error f) :
    ∃ field reason, f = .invalidConfig field reason := by
  obtain ⟨before, r, after, hrules, -, -, rfl⟩ := Rule.check_eq_error_iff.1 h
  apply tells_of_rules r
  rw [hrules]
  exact List.mem_append_right _ List.mem_cons_self

end CollectorSettings

end HomeEnergy
