import ThresholdCheck.Proofs.Plugin.Change

/-!
# The life of a plugin

A plugin waits until a start succeeds, and runs from then on. Which operations it refuses outright
depends on that alone. The thresholds that are put in force at the start stand for the rest of the
run: ranges may be set, but no severity comes or goes, and neither its mode nor what it requires
changes.

* `Waiting`, `Running`: what a plugin refuses and shows before the start and after it;
* `attempt_fault`: an operation that fails leaves the plugin as it was;
* **`isStarted_after_iff`**: a plugin was started exactly if a start of the run succeeded;
* `enabled?_after`: until then it accepts the severities that were enabled, each as it was last;
* `after_sound`: from then on its thresholds are those;
* **`after_lifecycle`**: the life of a new plugin over any run.
-/

namespace ThresholdCheck.Plugin

open CommandLine (Word)

/-! ## 1. The two parts of a life -/

/-- The operation succeeds. -/
def Grants (p : Plugin) (op : Operation) : Prop := ∃ answer, (attempt op.perform p).1 = .ok answer

/-- The operation fails with a misuse. -/
def Refuses (p : Plugin) (op : Operation) (cause : Misuse) : Prop :=
  (attempt op.perform p).1 = .error (.misuse cause)

/-- A plugin that was not started takes no measurement and no range, makes no report, and shows
    nothing of a command line. -/
structure Waiting (p : Plugin) : Prop where
  setValue : ∀ m, p.Refuses (.setValue m) .notStarted
  setRange : ∀ severity slot bottom top inverted,
    p.Refuses (.setRange severity slot bottom top inverted) .notStarted
  finish : p.Refuses .finish .notStarted
  option : ∀ name, p.option? name = none
  arguments : p.arguments = []
  verbosity : p.verbosity = 0

/-- A plugin that was started takes no option and no severity, and is not started again. -/
structure Running (p : Plugin) : Prop where
  addOption : ∀ o, p.Refuses (.addOption o) .alreadyStarted
  enable : ∀ severity required, p.Refuses (.enable severity required) .alreadyStarted
  start : ∀ words, p.Refuses (.start words) .alreadyStarted

variable {p : Plugin}

theorem waiting_of_not_started (h : p.isStarted = false) : p.Waiting := by
  have hsession : p.session = none := Option.not_isSome_iff_eq_none.1 (Bool.eq_false_iff.1 h)
  have hnone : p.currentSession = .error (.misuse .notStarted) := by
    unfold currentSession
    rw [hsession]
  refine ⟨fun m => ?_, fun severity slot bottom top inverted => ?_, ?_, fun name => ?_, ?_, ?_⟩
  · rw [Refuses, attempt_operation, Operation.apply, Plugin.setValue, hnone]
    rfl
  · rw [Refuses, attempt_operation, Operation.apply, Plugin.setRange, hnone]
    rfl
  · rw [Refuses, attempt_operation, Operation.apply, Plugin.finish, hnone]
    rfl
  · rw [option?, hsession]
    rfl
  · rw [arguments, hsession]
    rfl
  · rw [verbosity, hsession]
    rfl

theorem running_of_started (h : p.isStarted = true) : p.Running := by
  refine ⟨fun o => ?_, fun severity required => ?_, fun words => ?_⟩
  · rw [Refuses, attempt_operation, Operation.apply, Plugin.addOption, if_pos h]
    rfl
  · unfold Refuses
    rw [attempt_operation]
    unfold Operation.apply Plugin.enable
    dsimp only
    rw [if_pos h]
    rfl
  · rw [Refuses, attempt_operation, Operation.apply, Plugin.start, if_pos h]
    rfl

theorem grants_enable (h : p.isStarted = false) (severity : Severity) (required : Bool) :
    p.Grants (.enable severity required) := by
  unfold Grants
  rw [attempt_operation]
  unfold Operation.apply Plugin.enable
  dsimp only
  rw [if_neg (Bool.eq_false_iff.1 h)]
  cases severity with
  | warning => exact ⟨_, rfl⟩
  | critical => exact ⟨_, rfl⟩

/-! ## 2. One operation -/

/-- **An operation that fails leaves the plugin as it was.** -/
theorem attempt_fault {op : Operation} {fault : Fault}
    (h : (attempt op.perform p).1 = .error fault) : (attempt op.perform p).2 = p := by
  have hcommit := attempt_operation op p
  exact commit_error (hcommit.symm.trans (Prod.ext h rfl))

/-- An operation fails and changes nothing, or succeeds and makes its change. -/
theorem attempt_cases (p : Plugin) (op : Operation) :
    (¬p.Grants op ∧ (attempt op.perform p).2 = p) ∨
    (p.Grants op ∧ Change p op (attempt op.perform p).2) := by
  unfold Grants
  rw [attempt_operation]
  cases h : op.apply p with
  | error fault =>
    refine .inl ⟨?_, rfl⟩
    intro hgrants
    obtain ⟨answer, hanswer⟩ := hgrants
    cases hanswer
  | ok result => exact .inr ⟨⟨result.1, rfl⟩, change_of_apply h⟩

theorem isStarted_attempt_iff (p : Plugin) (op : Operation) :
    (attempt op.perform p).2.isStarted = true ↔
      p.isStarted = true ∨ ∃ words, op = .start words ∧ p.Grants op := by
  rcases attempt_cases p op with ⟨hfails, hsame⟩ | ⟨hgrants, hchange⟩
  · rw [hsame]
    simp [hfails]
  · rw [hchange.isStarted_iff]
    simp [hgrants]

/-- As long as a plugin waits, it accepts what was enabled last. -/
theorem enabled?_attempt (h : p.isStarted = false) (op : Operation) (severity : Severity) :
    (attempt op.perform p).2.enabled? severity =
      (op.enables? severity).or (p.enabled? severity) := by
  rcases attempt_cases p op with ⟨hfails, hsame⟩ | ⟨-, hchange⟩
  · rw [hsame]
    cases op with
    | enable other required => exact absurd (grants_enable h other required) hfails
    | _ => rfl
  · exact hchange.enabled?_eq severity

/-! ## 3. Runs -/

/-- The plugin after a run of operations, each made whatever became of those before. -/
def after (p : Plugin) (ops : List Operation) : Plugin := afterAll (ops.map Operation.perform) p

@[simp] theorem after_nil (p : Plugin) : p.after [] = p := rfl

@[simp] theorem after_cons (p : Plugin) (op : Operation) (ops : List Operation) :
    p.after (op :: ops) = ((attempt op.perform p).2).after ops := rfl

theorem after_append (p : Plugin) (ops more : List Operation) :
    p.after (ops ++ more) = (p.after ops).after more := by
  unfold after afterAll
  rw [List.map_append, List.foldl_append]

/-- A start of the run succeeds. -/
def StartsIn (p : Plugin) (ops : List Operation) : Prop :=
  ∃ before words rest, ops = before ++ .start words :: rest ∧
    (p.after before).Grants (.start words)

theorem startsIn_cons {op : Operation} {ops : List Operation} :
    p.StartsIn (op :: ops) ↔
      (∃ words, op = .start words ∧ p.Grants op) ∨ (attempt op.perform p).2.StartsIn ops := by
  constructor
  · intro h
    obtain ⟨before, words, rest, hops, hgrants⟩ := h
    cases before with
    | nil =>
      cases hops
      exact .inl ⟨words, rfl, hgrants⟩
    | cons first before =>
      cases hops
      exact .inr ⟨before, words, rest, rfl, hgrants⟩
  · intro h
    rcases h with ⟨words, rfl, hgrants⟩ | ⟨before, words, rest, rfl, hgrants⟩
    · exact ⟨[], words, ops, rfl, hgrants⟩
    · exact ⟨op :: before, words, rest, rfl, hgrants⟩

/-- **A plugin was started exactly if it was so from the first, or a start of the run succeeded.** -/
theorem isStarted_after_iff (p : Plugin) (ops : List Operation) :
    (p.after ops).isStarted = true ↔ p.isStarted = true ∨ p.StartsIn ops := by
  induction ops generalizing p with
  | nil =>
    have hnever : ¬p.StartsIn [] := by
      intro hstarts
      obtain ⟨before, words, rest, hops, -⟩ := hstarts
      cases before with
      | nil => cases hops
      | cons first before => cases hops
    simp [hnever]
  | cons op ops ih => rw [after_cons, ih, isStarted_attempt_iff, startsIn_cons, or_assoc]

/-- What a run says of a severity that it enables, the last word counting. -/
def lastEnabled? (severity : Severity) (ops : List Operation) : Option Bool :=
  ops.findSomeRev? (Operation.enables? severity)

theorem lastEnabled?_cons (severity : Severity) (op : Operation) (ops : List Operation) :
    lastEnabled? severity (op :: ops) = (lastEnabled? severity ops).or (op.enables? severity) := by
  unfold lastEnabled?
  rw [List.findSomeRev?]
  cases ops.findSomeRev? (Operation.enables? severity) with
  | none => rfl
  | some required => rfl

/-- **A plugin that still waits accepts what the run enabled, as it was enabled last.** -/
theorem enabled?_after {ops : List Operation} (h : (p.after ops).isStarted = false)
    (severity : Severity) :
    (p.after ops).enabled? severity = (lastEnabled? severity ops).or (p.enabled? severity) := by
  induction ops generalizing p with
  | nil => rfl
  | cons op ops ih =>
    -- a plugin that waits in the end has waited all along
    have hwaits : p.isStarted = false := by
      rw [Bool.eq_false_iff] at h ⊢
      intro hstarted
      exact h ((isStarted_after_iff p (op :: ops)).2 (.inl hstarted))
    rw [after_cons, ih h, enabled?_attempt hwaits, lastEnabled?_cons, Option.or_assoc]

/-- What each change keeps, the whole run keeps. -/
theorem after_induction (inv : Plugin → Prop) (h : inv p)
    (step : ∀ q op next, inv q → Change q op next → inv next) (ops : List Operation) :
    inv (p.after ops) := by
  refine afterAll_induction h fun change hchange q hq => ?_
  obtain ⟨op, -, rfl⟩ := List.mem_map.1 hchange
  rcases attempt_cases q op with ⟨-, hsame⟩ | ⟨-, hnext⟩
  · rw [hsame]
    exact hq
  · exact step q op _ hq hnext

theorem after_mode (p : Plugin) (ops : List Operation) : (p.after ops).mode = p.mode :=
  after_induction (fun q => q.mode = p.mode) rfl (fun _ _ _ hq hchange => hchange.mode_eq.trans hq)
    ops

theorem after_sound (h : p.Sound) (ops : List Operation) : (p.after ops).Sound :=
  after_induction Sound h (fun _ _ _ hq hchange => hchange.sound hq) ops

/-- Once a plugin was started, it accepts the same severities to the end. -/
theorem enabled?_after_started (h : p.isStarted = true) (ops : List Operation)
    (severity : Severity) : (p.after ops).enabled? severity = p.enabled? severity := by
  have hstep : ∀ q op next, q.isStarted = true ∧ q.enabled? severity = p.enabled? severity →
      Change q op next →
      next.isStarted = true ∧ next.enabled? severity = p.enabled? severity := by
    intro q op next hq hchange
    obtain ⟨hstarted, henabled⟩ := hq
    have hkept : next.enabled? severity = q.enabled? severity :=
      hchange.enabled?_of_started hstarted severity
    exact ⟨hchange.isStarted_iff.2 (.inl hstarted), hkept.trans henabled⟩
  exact (after_induction _ ⟨h, rfl⟩ hstep ops).2

/-- Operations that fail leave no trace, however many there are. -/
theorem after_failures {tries : List Operation} (h : ∀ op ∈ tries, ¬p.Grants op) :
    p.after tries = p := by
  induction tries with
  | nil => rfl
  | cons op tries ih =>
    have hsame : (attempt op.perform p).2 = p := by
      rcases attempt_cases p op with ⟨-, hsame⟩ | ⟨hgrants, -⟩
      · exact hsame
      · exact absurd hgrants (h op List.mem_cons_self)
    rw [after_cons, hsame]
    exact ih fun other hother => h other (List.mem_cons_of_mem _ hother)

/-! ## 4. The life of a new plugin -/

/-- A new plugin, in a mode and with its arguments described. -/
def fresh (name about version : String) (mode : Mode) (argumentsName argumentsHelp : String) :
    Plugin :=
  { new name about version with mode, argumentsName, argumentsHelp }

/-- A start that succeeds puts in force what the plugin accepts, for the rest of the run. -/
theorem standing_after_start (hp : p.Sound) {words : List Word}
    (hgrants : p.Grants (.start words)) (rest : List Operation) :
    ∃ e, (p.after (.start words :: rest)).evaluator? = some e ∧
      ∀ severity, e.standing severity =
        (p.enabled? severity).map fun required => (required, p.mode) := by
  have hstarted : (attempt (Operation.start words).perform p).2.isStarted = true :=
    (isStarted_attempt_iff p _).2 (.inr ⟨words, rfl, hgrants⟩)
  have hends : (p.after (.start words :: rest)).isStarted = true :=
    (isStarted_after_iff _ rest).2 (.inl hstarted)
  obtain ⟨s, hs⟩ := Option.isSome_iff_exists.1 hends
  refine ⟨s.evaluator, ?_, fun severity => ?_⟩
  · rw [evaluator?, hs]
    rfl
  · have hkept : (p.after (.start words :: rest)).enabled? severity = p.enabled? severity := by
      rw [after_cons, enabled?_after_started hstarted]
      rcases attempt_cases p (.start words) with ⟨-, hsame⟩ | ⟨-, hchange⟩
      · rw [hsame]
      · rw [hchange.enabled?_eq]
        rfl
    rw [after_sound hp _ s hs severity, hkept, after_mode]

/-- **A new plugin waits until the first start that succeeds, and runs from then on. What it refuses
    depends on that alone, an operation that fails leaves no trace, and once it runs, its thresholds
    are those of the severities that were enabled before the start, each as it was enabled last.** -/
theorem after_lifecycle (name about version : String) (mode : Mode)
    (argumentsName argumentsHelp : String) (ops : List Operation) :
    let origin := fresh name about version mode argumentsName argumentsHelp
    let p := origin.after ops
    (p.isStarted = true ↔ origin.StartsIn ops) ∧
    (∀ more, p.isStarted = true → (p.after more).isStarted = true) ∧
    (p.isStarted = false → p.Waiting) ∧
    (p.isStarted = true → p.Running) ∧
    (∀ (op : Operation) (fault : Fault),
      (attempt op.perform p).1 = .error fault → (attempt op.perform p).2 = p) ∧
    (∀ tries, (∀ op ∈ tries, ¬p.Grants op) → p.after tries = p) ∧
    ∀ before words rest, ops = before ++ .start words :: rest →
      (origin.after before).Grants (.start words) →
      ∃ e, p.evaluator? = some e ∧ ∀ severity,
        (e.threshold severity).map (fun t => (t.required, t.ranges.mode)) =
          (lastEnabled? severity before).map fun required => (required, mode) := by
  intro origin p
  have hnew : ¬origin.isStarted = true := by
    intro h
    cases h
  have hsound : origin.Sound := by
    intro s hs
    cases hs
  refine ⟨?_, fun more h => ?_, waiting_of_not_started, running_of_started,
    fun op fault => attempt_fault, fun tries => after_failures,
    fun before words rest hops hgrants => ?_⟩
  · rw [isStarted_after_iff, or_iff_right hnew]
  · exact (isStarted_after_iff p more).2 (.inl h)
  · have hwaits : (origin.after before).isStarted = false := by
      rw [Bool.eq_false_iff]
      intro hstarted
      obtain ⟨answer, hanswer⟩ := hgrants
      rw [(running_of_started hstarted).start words] at hanswer
      cases hanswer
    have hp : p = (origin.after before).after (.start words :: rest) := by
      rw [← after_append, ← hops]
    obtain ⟨e, he, hstanding⟩ := standing_after_start (after_sound hsound before) hgrants rest
    rw [hp]
    refine ⟨e, he, fun severity => ?_⟩
    have hnone : origin.enabled? severity = none := by cases severity <;> rfl
    have henabled := enabled?_after hwaits severity
    rw [hnone, Option.or_none] at henabled
    have hmode : (origin.after before).mode = mode := after_mode origin before
    rw [← henabled, ← hmode]
    exact hstanding severity

theorem after_lifecycle_secondStart :
    let origin := fresh "check_test" "A test" "1.0" .simpleRange "ARGS" ""
    let start (line : List String) : Operation := .start (line.map Word.ofString)
    let before : List Operation :=
      [.enable .warning true, .enable .warning false, start ["check_test", "-w", "ten"]]
    let rest : List Operation :=
      [.enable .critical true, .setRange .warning 1 .zero .infinity true]
    (origin.after before).Grants (start ["check_test", "-w", "10"]) ∧
    ∃ e, (origin.after (before ++ start ["check_test", "-w", "10"] :: rest)).evaluator? = some e ∧
      (e.threshold .warning).map (fun t => (t.required, t.ranges.mode)) =
        some (false, .simpleRange) ∧
      e.threshold .critical = none := by
  intro origin start before rest
  have hdone : (attempt (start ["check_test", "-w", "10"]).perform (origin.after before)).1.toOption =
      some .done := by decide +kernel
  have hgrants : (origin.after before).Grants (start ["check_test", "-w", "10"]) :=
    ⟨.done, eq_ok_of_toOption hdone⟩
  obtain ⟨-, -, -, -, -, -, hthresholds⟩ :=
    after_lifecycle "check_test" "A test" "1.0" .simpleRange "ARGS" ""
      (before ++ start ["check_test", "-w", "10"] :: rest)
  obtain ⟨e, he, hstanding⟩ := hthresholds before _ rest rfl hgrants
  have hcritical := hstanding .critical
  refine ⟨hgrants, e, he, hstanding .warning, ?_⟩
  rw [← Option.map_eq_none_iff]
  exact hcritical

end ThresholdCheck.Plugin
