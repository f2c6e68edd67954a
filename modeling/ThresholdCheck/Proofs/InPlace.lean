import ThresholdCheck.Fault

/-!
# Changes in place

Thresholds and evaluators in use are variables, and a change of one is a row of reads, checks and
writes. Where a check fails midway, what was written before it stays written: that a change fails
without a trace is a property of its row, not of this file.

* `InPlace` is a row that may end in a fault, `attempt` makes it, with one equation for each kind
  of step;
* `commit` is what an operation on values amounts to in place;
* `afterAll` is what a variable holds after a row of changes, whatever became of each, and
  **`afterAll_induction`** is its induction principle.
-/

namespace ThresholdCheck

/-! ## 1. Rows of steps -/

/-- A change of a variable that may end in a fault; what it wrote before that stays written. -/
abbrev InPlace (σ α : Type) : Type := ExceptT Fault (StateM σ) α

section

variable {σ α β : Type}

/-- Makes a change: what it answers, and what the variable holds after it. -/
def attempt (change : InPlace σ α) (s : σ) : Except Fault α × σ := change.run.run s

/-- Goes on after a change, unless it ended in a fault. -/
def andThen (next : α → InPlace σ β) : Except Fault α × σ → Except Fault β × σ
  | (.ok answer, s) => attempt (next answer) s
  | (.error fault, s) => (.error fault, s)

theorem attempt_bind (change : InPlace σ α) (next : α → InPlace σ β) (s : σ) :
    attempt (change >>= next) s = andThen next (attempt change s) := by
  show (match change.run.run s with
    | (result, s') => (ExceptT.bindCont next result).run s') = _
  unfold andThen attempt
  rcases change.run.run s with ⟨_ | answer, s'⟩
  · rfl
  · rfl

theorem attempt_get (s : σ) : attempt (get : InPlace σ σ) s = (.ok s, s) := rfl

theorem attempt_modify (f : σ → σ) (s : σ) :
    attempt (modify f : InPlace σ PUnit) s = (.ok ⟨⟩, f s) := rfl

theorem attempt_throw (fault : Fault) (s : σ) :
    attempt (throw fault : InPlace σ α) s = (.error fault, s) := rfl

theorem attempt_lift (result : Except Fault α) (s : σ) :
    attempt (liftM result : InPlace σ α) s = (result, s) := by
  cases result with
  | error fault => rfl
  | ok answer => rfl

/-! ## 2. Operations on values -/

/-- What an operation on values amounts to in place: a new value where it succeeds. -/
def commit (s : σ) : Except Fault (α × σ) → Except Fault α × σ
  | .ok (answer, next) => (.ok answer, next)
  | .error fault => (.error fault, s)

/-- A fault leaves the variable as it was. -/
theorem commit_error {s s' : σ} {result : Except Fault (α × σ)} {fault : Fault}
    (h : commit s result = (.error fault, s')) : s' = s := by
  cases result with
  | ok next => cases h
  | error f =>
    cases h
    rfl

/-- What holds of the old value and of the new one holds after the operation. -/
theorem commit_induction {inv : σ → Prop} {s : σ} {result : Except Fault (α × σ)} (h : inv s)
    (step : ∀ answer next, result = .ok (answer, next) → inv next) :
    inv (commit s result).2 := by
  cases result with
  | ok next => exact step next.1 next.2 rfl
  | error f => exact h

/-! ## 3. Runs -/

/-- What the variable holds after a row of changes, each made whatever became of those before. -/
def afterAll (changes : List (InPlace σ α)) (s : σ) : σ :=
  changes.foldl (fun s change => (attempt change s).2) s

/-- **What each change keeps, the whole run keeps.** -/
theorem afterAll_induction {inv : σ → Prop} {changes : List (InPlace σ α)} {s : σ} (h : inv s)
    (step : ∀ change ∈ changes, ∀ s, inv s → inv (attempt change s).2) :
    inv (afterAll changes s) := by
  induction changes generalizing s with
  | nil => exact h
  | cons change changes ih =>
    exact ih (step change List.mem_cons_self s h) fun c hc =>
      step c (List.mem_cons_of_mem _ hc)

end

end ThresholdCheck
