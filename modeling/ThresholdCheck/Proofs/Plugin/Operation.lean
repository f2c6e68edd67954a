import ThresholdCheck.Plugin.Basic
import ThresholdCheck.Proofs.Evaluator.Call

/-!
# Operations on a plugin that is changed in place

An `Operation` is one of the operations on a plugin. It is a row of checks and writes
(`Operation.perform`) and an operation on values (`Operation.apply`). In place, a measurement and a
range work on the evaluator where it stands in the session; the evaluator of a start is put together
before the plugin is written to.

* `attempt_onEvaluator`: a change of the evaluator where it stands is a change of the plugin;
* **`attempt_operation`**: so the two forms of an operation agree.
-/

namespace ThresholdCheck

open CommandLine (Word)

namespace Plugin

/-! ## 1. Operations -/

/-- An operation on a plugin. -/
inductive Operation where
  /-- adds an option -/
  | addOption (o : CustomOption)
  /-- accepts ranges for a severity -/
  | enable (severity : Severity) (required : Bool)
  /-- reads the command line -/
  | start (words : List Word)
  /-- evaluates a measurement -/
  | setValue (m : Measurement)
  /-- sets the range of an enabled severity -/
  | setRange (severity : Severity) (slot : Nat) (bottom top : Binary64) (inverted : Bool)
  /-- sets the message of the report -/
  | setMessage (message : String)
  /-- reports -/
  | finish

/-- What an operation answers. -/
inductive Answer where
  | done
  | state (status : Status)
  | report (report : Report)
deriving DecidableEq

/-- A call on the evaluator answers with a state if it measures. -/
def Answer.ofState : Option Status → Answer
  | some status => .state status
  | none => .done

/-- The plugin with a severity enabled. -/
def accepting (p : Plugin) (severity : Severity) (required : Bool) : Plugin :=
  match severity with
  | .warning => { p with warning := some required }
  | .critical => { p with critical := some required }

@[simp] theorem session_accepting (p : Plugin) (severity : Severity) (required : Bool) :
    (p.accepting severity required).session = p.session := by
  cases severity <;> rfl

/-- Ends in a fault if the plugin was started. -/
def ensureNotStarted : InPlace Plugin Unit := do
  if (← get).isStarted then throw (.misuse .alreadyStarted)

/-- A change of the evaluator where it stands. What the change leaves there stays, also where it
    fails. -/
def onEvaluator {α : Type} (change : InPlace Evaluator α) : InPlace Plugin α :=
  ExceptT.mk fun p =>
    match p.session with
    | none => (.error (.misuse .notStarted), p)
    | some s =>
      let (result, e) := attempt change s.evaluator
      (result, p.withEvaluator s e)

/-- Sets the range of an enabled severity, where the thresholds stand. -/
def setRangeInPlace (severity : Severity) (slot : Nat) (bottom top : Binary64) (inverted : Bool) :
    InPlace Evaluator Unit := do
  if ((← get).threshold severity).isNone then throw (.misuse (.notEnabled severity))
  Evaluator.editThreshold severity (.setSlot slot bottom top inverted)

namespace Operation

/-- The operation as a row of checks and writes. -/
def perform : Operation → InPlace Plugin Answer
  | addOption o => do
    ensureNotStarted
    let p ← get
    if o.name ∈ reservedNames ∨ p.options.any fun other => other.name == o.name then
      throw (.misuse (.optionTaken o.name))
    if let some flag := o.short then
      if flag ∈ reservedFlags ∨ p.options.any fun other => other.short == some flag then
        throw (.misuse (.flagTaken flag))
    modify fun p => { p with options := p.options ++ [o] }
    return .done
  | enable severity required => do
    ensureNotStarted
    modify fun p => p.accepting severity required
    return .done
  | start words => do
    ensureNotStarted
    let p ← get
    let given ← ((p.definition.parse words).mapError Fault.commandLine : Except Fault _)
    let session ← p.openSession given
    modify fun p => { p with session := some session }
    return .done
  | setValue m => do
    let status ← onEvaluator (Call.setValue m).perform
    return .ofState status
  | setRange severity slot bottom top inverted => do
    onEvaluator (setRangeInPlace severity slot bottom top inverted)
    return .done
  | setMessage message => do
    modify fun p => { p with message := some (Report.sanitize message) }
    return .done
  | finish => do
    match (← get).session with
    | none => throw (.misuse .notStarted)
    | some s => return .report (s.evaluator.report (← get).message)

/-- The operation as an operation on values. -/
def apply : Operation → Plugin → Except Fault (Answer × Plugin)
  | addOption o, p => (p.addOption o).map fun next => (.done, next)
  | enable severity required, p => (p.enable severity required).map fun next => (.done, next)
  | start words, p => (p.start words).map fun next => (.done, next)
  | setValue m, p => (p.setValue m).map fun (status, next) => (.state status, next)
  | setRange severity slot bottom top inverted, p =>
    (p.setRange severity slot bottom top inverted).map fun next => (.done, next)
  | setMessage message, p => .ok (.done, p.setMessage message)
  | finish, p => p.finish.map fun report => (.report report, p)

end Operation

/-! ## 2. The two forms agree -/

theorem attempt_ensureNotStarted (p : Plugin) :
    attempt ensureNotStarted p =
      if p.isStarted then (.error (.misuse .alreadyStarted), p) else (.ok (), p) := by
  unfold ensureNotStarted
  rw [attempt_bind, attempt_get]
  show attempt (if p.isStarted = true then throw _ else pure ()) p = _
  by_cases h : p.isStarted = true
  · rw [if_pos h, if_pos h]
    rfl
  · rw [if_neg h, if_neg h]
    rfl

/-- **A change of the evaluator that is an operation on values is one on the plugin.** -/
theorem attempt_onEvaluator {α : Type} {change : InPlace Evaluator α}
    {result : Evaluator → Except Fault (α × Evaluator)}
    (h : ∀ e, attempt change e = commit e (result e)) (p : Plugin) :
    attempt (onEvaluator change) p = commit p (p.currentSession >>= fun s =>
      (result s.evaluator).map fun (answer, e) => (answer, p.withEvaluator s e)) := by
  show onEvaluator change p = _
  unfold onEvaluator ExceptT.mk currentSession
  dsimp only
  cases hsession : p.session with
  | none => rfl
  | some s =>
    dsimp only
    rw [h]
    show _ = commit p ((result s.evaluator).map _)
    cases result s.evaluator with
    | ok next => rfl
    | error fault =>
      -- the failed change left the evaluator as it met it, so the plugin is as it was
      have hsame : p.withEvaluator s s.evaluator = p := by
        unfold withEvaluator
        rw [← hsession]
      show (Except.error fault, p.withEvaluator s s.evaluator) = (.error fault, p)
      rw [hsame]

theorem attempt_setRangeInPlace (severity : Severity) (slot : Nat) (bottom top : Binary64)
    (inverted : Bool) (e : Evaluator) :
    attempt (setRangeInPlace severity slot bottom top inverted) e = commit e
      (if (e.threshold severity).isNone then .error (.misuse (.notEnabled severity))
      else (e.changeRanges severity fun r => r.setSlot slot bottom top inverted).map
        fun next => ((), next)) := by
  unfold setRangeInPlace
  rw [attempt_bind, attempt_get]
  show attempt (do
    if (e.threshold severity).isNone then throw (.misuse (.notEnabled severity))
    Evaluator.editThreshold severity (.setSlot slot bottom top inverted)) e = _
  by_cases h : (e.threshold severity).isNone = true
  · rw [if_pos h, if_pos h, attempt_bind, attempt_throw]
    rfl
  · rw [if_neg h, if_neg h]
    exact Evaluator.attempt_editThreshold severity _ e

/-- To go through the options for a value is to look for it among their values. -/
theorem any_beq_iff {α : Type} [BEq α] [LawfulBEq α] (f : CustomOption → α) (x : α)
    (options : List CustomOption) :
    (options.any fun o => f o == x) = true ↔ x ∈ options.map f := by
  rw [List.any_eq_true, List.mem_map]
  exact exists_congr fun o => and_congr_right fun _ => beq_iff_eq

theorem attempt_addOption (o : CustomOption) (p : Plugin) :
    attempt (Operation.addOption o).perform p = commit p ((Operation.addOption o).apply p) := by
  unfold Operation.perform Operation.apply Plugin.addOption
  dsimp only
  rw [attempt_bind, attempt_ensureNotStarted]
  by_cases hstarted : p.isStarted = true
  · rw [if_pos hstarted, if_pos hstarted]
    rfl
  · rw [if_neg hstarted, if_neg hstarted]
    simp only [andThen, attempt_bind, attempt_get, any_beq_iff]
    by_cases hname : o.name ∈ reservedNames ∨ o.name ∈ p.options.map CustomOption.name
    · rw [if_pos hname, if_pos hname, attempt_bind, attempt_throw]
      rfl
    · rw [if_neg hname, if_neg hname]
      cases hshort : o.short with
      | none => rfl
      | some flag =>
        dsimp only
        by_cases hflag : flag ∈ reservedFlags ∨ some flag ∈ p.options.map CustomOption.short
        · rw [if_pos hflag, if_pos hflag, attempt_bind, attempt_throw]
          rfl
        · rw [if_neg hflag, if_neg hflag]
          rfl

theorem attempt_start (words : List Word) (p : Plugin) :
    attempt (Operation.start words).perform p = commit p ((Operation.start words).apply p) := by
  unfold Operation.perform Operation.apply Plugin.start
  dsimp only
  rw [attempt_bind, attempt_ensureNotStarted]
  by_cases hstarted : p.isStarted = true
  · rw [if_pos hstarted, if_pos hstarted]
    rfl
  · rw [if_neg hstarted, if_neg hstarted]
    show attempt (get >>= fun p => _) p = _
    rw [attempt_bind, attempt_get]
    show attempt (liftM ((p.definition.parse words).mapError Fault.commandLine) >>= _) p = _
    rw [attempt_bind, attempt_lift]
    cases (p.definition.parse words).mapError Fault.commandLine with
    | error fault => rfl
    | ok given =>
      -- the session is put together apart from the plugin, so a fault in it leaves no trace
      show attempt (liftM (p.openSession given) >>= fun session => _) p =
        commit p ((p.openSession given >>= fun session => _).map _)
      rw [attempt_bind, attempt_lift]
      cases p.openSession given with
      | error fault => rfl
      | ok session => rfl

/-- **In place, an operation is the operation on values.** -/
theorem attempt_operation (op : Operation) (p : Plugin) :
    attempt op.perform p = commit p (op.apply p) := by
  cases op with
  | addOption o => exact attempt_addOption o p
  | enable severity required =>
    unfold Operation.perform Operation.apply Plugin.enable
    dsimp only
    rw [attempt_bind, attempt_ensureNotStarted]
    by_cases hstarted : p.isStarted = true
    · rw [if_pos hstarted, if_pos hstarted]
      rfl
    · rw [if_neg hstarted, if_neg hstarted]
      cases severity with
      | warning => rfl
      | critical => rfl
  | start words => exact attempt_start words p
  | setValue m =>
    unfold Operation.perform Operation.apply Plugin.setValue
    dsimp only
    rw [attempt_bind, attempt_onEvaluator (fun e => attempt_call (.setValue m) e)]
    cases p.currentSession with
    | error fault => rfl
    | ok s =>
      show andThen _ (commit p (((s.evaluator.setValue m).map _).map _)) =
        commit p ((s.evaluator.setValue m >>= _).map _)
      cases s.evaluator.setValue m with
      | error fault => rfl
      | ok next => rfl
  | setRange severity slot bottom top inverted =>
    unfold Operation.perform Operation.apply Plugin.setRange
    dsimp only
    rw [attempt_bind, attempt_onEvaluator (attempt_setRangeInPlace severity slot bottom top inverted)]
    cases p.currentSession with
    | error fault => rfl
    | ok s =>
      show andThen _ (commit p ((if _ then _ else _ : Except Fault (Unit × Evaluator)).map _)) =
        commit p ((do
          if (s.evaluator.threshold severity).isNone then throw (.misuse (.notEnabled severity))
          let e ← s.evaluator.changeRanges severity fun r => r.setSlot slot bottom top inverted
          return p.withEvaluator s e : Except Fault Plugin).map _)
      by_cases hnone : (s.evaluator.threshold severity).isNone = true
      · rw [if_pos hnone, if_pos hnone]
        rfl
      · rw [if_neg hnone, if_neg hnone]
        cases s.evaluator.changeRanges severity fun r => r.setSlot slot bottom top inverted with
        | error fault => rfl
        | ok e => rfl
  | setMessage message => rfl
  | finish =>
    unfold Operation.perform Operation.apply Plugin.finish currentSession
    dsimp only
    rw [attempt_bind, attempt_get]
    simp only [andThen]
    cases hsession : p.session with
    | none => rfl
    | some s => rfl

end Plugin

end ThresholdCheck
