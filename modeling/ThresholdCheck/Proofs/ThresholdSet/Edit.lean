import ThresholdCheck.Proofs.Fallible
import ThresholdCheck.Proofs.InPlace
import ThresholdCheck.ThresholdSet

/-!
# Threshold sets that are changed in place

An `Edit` is one of the two changes of a threshold set. It is a row of checks and writes
(`Edit.perform`) and an operation on values (`Edit.apply`).

* **`attempt_perform`**: the two agree, for a row writes only after its last check;
* `edited` is the set after a run of edits, `edited_induction` its induction principle.
-/

namespace ThresholdCheck.ThresholdSet

/-! ## 1. Edits -/

/-- A change of a threshold set. -/
inductive Edit where
  /-- appends the ranges of a list -/
  | append (text : String)
  /-- sets the range at a slot -/
  | setSlot (slot : Nat) (bottom top : Binary64) (inverted : Bool)

/-- The edit as an operation on values. -/
def Edit.apply : Edit → ThresholdSet → Except Fault ThresholdSet
  | append text, s => s.append text
  | setSlot slot bottom top inverted, s => s.setSlot slot bottom top inverted

/-- The edit as a row of checks and writes. -/
def Edit.perform : Edit → InPlace ThresholdSet Unit
  | append text => do
    let more ← Range.parseList (← get).mode text
    modify fun s => { s with ranges := s.ranges ++ more }
  | setSlot slot bottom top inverted => do
    if bottom.isNaN || top.isNaN then throw (.misuse (.nanBounds slot))
    let s ← get
    if slot = 0 ∨ s.size + 1 < slot then throw (.slotGap slot s.size)
    let range := Range.ofBounds s.mode bottom top inverted
    if slot = s.size + 1 then modify fun s => { s with ranges := s.ranges ++ [range] }
    else modify fun s => { s with ranges := s.ranges.set (slot - 1) range }

/-- **In place, an edit is the operation on values.** -/
theorem attempt_perform (edit : Edit) (s : ThresholdSet) :
    attempt edit.perform s = commit s ((edit.apply s).map fun next => ((), next)) := by
  cases edit with
  | append text =>
    unfold Edit.perform Edit.apply ThresholdSet.append
    simp only [attempt_bind, attempt_get, andThen, attempt_lift]
    cases Range.parseList s.mode text with
    | error fault => rfl
    | ok more => rfl
  | setSlot slot bottom top inverted =>
    unfold Edit.perform Edit.apply ThresholdSet.setSlot
    dsimp only
    -- the checks come in the same order in both forms, and each write stands behind all of them
    by_cases hnan : (bottom.isNaN || top.isNaN) = true
    · rw [if_pos hnan, if_pos hnan, attempt_bind, attempt_throw]
      rfl
    · rw [if_neg hnan, if_neg hnan]
      simp only [attempt_bind, attempt_get, andThen]
      by_cases hgap : slot = 0 ∨ s.size + 1 < slot
      · rw [if_pos hgap, if_pos hgap, attempt_bind, attempt_throw]
        rfl
      · rw [if_neg hgap, if_neg hgap]
        by_cases hlast : slot = s.size + 1
        · rw [if_pos hlast, if_pos hlast, attempt_modify]
          rfl
        · rw [if_neg hlast, if_neg hlast, attempt_modify]
          rfl

/-- An edit keeps the mode. -/
theorem mode_of_apply {edit : Edit} {s t : ThresholdSet} (h : edit.apply s = .ok t) :
    t.mode = s.mode := by
  cases edit with
  | append text =>
    obtain ⟨more, -, rfl⟩ := map_eq_ok h
    rfl
  | setSlot slot bottom top inverted =>
    unfold Edit.apply ThresholdSet.setSlot at h
    dsimp only at h
    split at h
    · cases h
    · split at h
      · cases h
      · split at h
        · cases h
          rfl
        · cases h
          rfl

/-! ## 2. Runs of edits -/

/-- The set after a run of edits, each made whatever became of those before. -/
def edited (s : ThresholdSet) (edits : List Edit) : ThresholdSet :=
  afterAll (edits.map Edit.perform) s

/-- **What each successful edit keeps, every run of edits keeps.** -/
theorem edited_induction {inv : ThresholdSet → Prop} {s : ThresholdSet} (edits : List Edit)
    (h : inv s) (step : ∀ edit s next, inv s → Edit.apply edit s = .ok next → inv next) :
    inv (s.edited edits) := by
  refine afterAll_induction h fun change hchange s hs => ?_
  obtain ⟨edit, -, rfl⟩ := List.mem_map.1 hchange
  rw [attempt_perform]
  refine commit_induction hs fun answer next hnext => ?_
  obtain ⟨t, happly, ht⟩ := map_eq_ok hnext
  cases ht
  exact step edit s _ hs happly

end ThresholdCheck.ThresholdSet
