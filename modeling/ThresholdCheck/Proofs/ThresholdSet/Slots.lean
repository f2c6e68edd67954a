import ThresholdCheck.Proofs.Range.Segments
import ThresholdCheck.Proofs.ThresholdSet.Edit

/-!
# The slots of a threshold set

The slots in use are those from 1 to the size of the set, without a gap (`isSome_get?_iff`).

* `SlotIsSet`: what a set is after a slot of it was set: one slot has the range, and all others have
  what they had;
* `setSlot_of_nan`, `setSlot_of_gap`, **`setSlot_of_free`**: the three ways in which that can end;
* **`append_eq_ok_iff`**: a list is appended segment by segment, or not at all;
* **`edited_slots`**: so after any run of edits the next one finds the slots without a gap, and
  leaves them so.
-/

namespace ThresholdCheck.ThresholdSet

variable {s t : ThresholdSet} {slot : Nat} {bottom top : Binary64}

/-! ## 1. Slots in use -/

/-- **The slots in use are those from 1 to the size.** -/
theorem isSome_get?_iff : (s.get? slot).isSome ↔ 1 ≤ slot ∧ slot ≤ s.size := by
  cases slot with
  | zero => simp
  | succ i =>
    have hsome : s.ranges[i]?.isSome ↔ i < s.ranges.length := by simp
    rw [get?_succ, hsome]
    unfold size
    omega

/-! ## 2. Setting a slot -/

/-- The set has a range of the bounds and the polarity at the slot, and is otherwise as it was. -/
structure SlotIsSet (s : ThresholdSet) (slot : Nat) (bottom top : Binary64) (inverted : Bool)
    (t : ThresholdSet) : Prop where
  mode : t.mode = s.mode
  size : t.size = max s.size slot
  here : ∃ r, t.get? slot = some r ∧ r.bottom = bottom ∧ r.top = top ∧ r.inverted = inverted
  others : ∀ other, other ≠ slot → t.get? other = s.get? other

/-- The first free slot is set by a range at the end. -/
theorem slotIsSet_append (s : ThresholdSet) (bottom top : Binary64) (inverted : Bool) :
    SlotIsSet s (s.size + 1) bottom top inverted
      { s with ranges := s.ranges ++ [Range.ofBounds s.mode bottom top inverted] } where
  mode := rfl
  size := by
    simp [size]
  here := ⟨Range.ofBounds s.mode bottom top inverted, by simp [size], rfl, rfl, rfl⟩
  others other hother := by
    cases other with
    | zero => rfl
    | succ i =>
      have hi : i ≠ s.ranges.length := fun h => hother (congrArg Nat.succ h)
      rw [get?_succ, get?_succ]
      rcases Nat.lt_or_gt_of_ne hi with hlt | hgt
      · rw [List.getElem?_append_left hlt]
      · -- neither set has a range beyond the first free slot
        have hlong : (s.ranges ++ [Range.ofBounds s.mode bottom top inverted]).length ≤ i := by
          rw [List.length_append, List.length_singleton]
          exact hgt
        rw [List.getElem?_eq_none hlong, List.getElem?_eq_none (by omega)]

/-- A slot in use is set by a range in the place of the one that it has. -/
theorem slotIsSet_replace {i : Nat} (hi : i < s.size) (bottom top : Binary64) (inverted : Bool) :
    SlotIsSet s (i + 1) bottom top inverted
      { s with ranges := s.ranges.set i (Range.ofBounds s.mode bottom top inverted) } where
  mode := rfl
  size := by
    show (s.ranges.set i _).length = max s.size (i + 1)
    rw [List.length_set]
    unfold size at *
    omega
  here := ⟨Range.ofBounds s.mode bottom top inverted, List.getElem?_set_self hi, rfl, rfl, rfl⟩
  others other hother := by
    cases other with
    | zero => rfl
    | succ j =>
      have hj : i ≠ j := fun h => hother (congrArg Nat.succ h.symm)
      exact List.getElem?_set_ne hj

theorem setSlot_of_nan (slot : Nat) (inverted : Bool)
    (hnan : bottom.isNaN = true ∨ top.isNaN = true) :
    s.setSlot slot bottom top inverted = .error (.misuse (.nanBounds slot)) := by
  unfold setSlot
  rw [if_pos (by simpa using hnan)]

theorem setSlot_of_gap (inverted : Bool) (hbottom : bottom.isNaN = false)
    (htop : top.isNaN = false) (hgap : slot = 0 ∨ s.size + 1 < slot) :
    s.setSlot slot bottom top inverted = .error (.slotGap slot s.size) := by
  unfold setSlot
  rw [if_neg (by simp [hbottom, htop]), if_pos hgap]

/-- **A slot in use, and the first one that is free, can be set.** -/
theorem setSlot_of_free (inverted : Bool) (hbottom : bottom.isNaN = false)
    (htop : top.isNaN = false) (hfirst : 1 ≤ slot) (hlast : slot ≤ s.size + 1) :
    ∃ t, s.setSlot slot bottom top inverted = .ok t ∧ SlotIsSet s slot bottom top inverted t := by
  have hnogap : ¬(slot = 0 ∨ s.size + 1 < slot) := by omega
  unfold setSlot
  rw [if_neg (by simp [hbottom, htop]), if_neg hnogap]
  by_cases hend : slot = s.size + 1
  · subst hend
    rw [if_pos rfl]
    exact ⟨_, rfl, slotIsSet_append s bottom top inverted⟩
  · obtain ⟨i, rfl⟩ : ∃ i, slot = i + 1 := ⟨slot - 1, by omega⟩
    rw [if_neg hend]
    exact ⟨_, rfl, slotIsSet_replace (by omega) bottom top inverted⟩

/-- When a slot can be set. -/
theorem exists_setSlot_iff (inverted : Bool) :
    (∃ t, s.setSlot slot bottom top inverted = .ok t) ↔
      bottom.isNaN = false ∧ top.isNaN = false ∧ 1 ≤ slot ∧ slot ≤ s.size + 1 := by
  constructor
  · intro h
    obtain ⟨t, ht⟩ := h
    have hbottom : bottom.isNaN = false := by
      by_contra hnan
      rw [setSlot_of_nan slot inverted (.inl (by simpa using hnan))] at ht
      cases ht
    have htop : top.isNaN = false := by
      by_contra hnan
      rw [setSlot_of_nan slot inverted (.inr (by simpa using hnan))] at ht
      cases ht
    have hnogap : ¬(slot = 0 ∨ s.size + 1 < slot) := by
      intro hgap
      rw [setSlot_of_gap inverted hbottom htop hgap] at ht
      cases ht
    exact ⟨hbottom, htop, by omega, by omega⟩
  · intro h
    obtain ⟨hbottom, htop, hfirst, hlast⟩ := h
    obtain ⟨t, ht, -⟩ := setSlot_of_free inverted hbottom htop hfirst hlast
    exact ⟨t, ht⟩

/-! ## 3. Appending a list -/

/-- **A list is appended segment by segment, or not at all.** -/
theorem append_eq_ok_iff {text : String} :
    s.append text = .ok t ↔
      ∃ rs, List.Forall₂ (fun segment r => Range.parse s.mode segment = .ok r)
        (Range.segments text) rs ∧ t = { s with ranges := s.ranges ++ rs } := by
  unfold append
  constructor
  · intro h
    obtain ⟨rs, hrs, rfl⟩ := map_eq_ok h
    exact ⟨rs, Range.parseList_eq_ok_iff.1 hrs, rfl⟩
  · intro h
    obtain ⟨rs, hrs, rfl⟩ := h
    rw [Range.parseList_eq_ok_iff.2 hrs]
    rfl

/-- When a list can be appended. -/
theorem exists_append_iff {text : String} :
    (∃ t, s.append text = .ok t) ↔
      ∀ segment ∈ Range.segments text, ∃ r, Range.parse s.mode segment = .ok r := by
  rw [← exists_mapM_ok_iff]
  simp only [append_eq_ok_iff, mapM_eq_ok_iff]
  constructor
  · rintro ⟨t, rs, hrs, -⟩
    exact ⟨rs, hrs⟩
  · rintro ⟨rs, hrs⟩
    exact ⟨_, rs, hrs, rfl⟩

/-! ## 4. Runs of edits -/

/-- A run of edits keeps the mode. -/
theorem mode_edited (mode : Mode) (edits : List Edit) : ((empty mode).edited edits).mode = mode :=
  @edited_induction (fun s => s.mode = mode) _ edits rfl fun _ _ _ hs hnext =>
    (mode_of_apply hnext).trans hs

/-- In place, an edit succeeds where the operation on values does, and then has its result. -/
theorem attempt_eq_ok_iff {edit : Edit} :
    (attempt edit.perform s).1 = .ok () ↔ ∃ t, edit.apply s = .ok t := by
  rw [attempt_perform]
  cases edit.apply s with
  | error fault => simp [commit, Except.map]
  | ok t => simp [commit, Except.map]

theorem attempt_of_apply {edit : Edit} (h : edit.apply s = .ok t) :
    (attempt edit.perform s).2 = t := by
  rw [attempt_perform, h]
  rfl

theorem attempt_of_fault {edit : Edit} {fault : Fault} (h : edit.apply s = .error fault) :
    (attempt edit.perform s).1 = .error fault := by
  rw [attempt_perform, h]
  rfl

/-- **After any run of edits, the slots in use are those from 1 to the size.** A slot can be set
    exactly if no bound is NaN and it is in use or the first one that is free; it has the range then,
    and all others have what they had. NaN is told before a gap. A list is appended behind them
    segment by segment if each one is a range. The mode stays, and an edit that fails changes
    nothing. -/
theorem edited_slots (mode : Mode) (edits : List Edit) :
    let s := (empty mode).edited edits
    s.mode = mode ∧
    (∀ slot, (s.get? slot).isSome ↔ 1 ≤ slot ∧ slot ≤ s.size) ∧
    (∀ slot bottom top inverted,
      let outcome := attempt (Edit.setSlot slot bottom top inverted).perform s
      (outcome.1 = .ok () ↔
        bottom.isNaN = false ∧ top.isNaN = false ∧ 1 ≤ slot ∧ slot ≤ s.size + 1) ∧
      (outcome.1 = .ok () → SlotIsSet s slot bottom top inverted outcome.2) ∧
      (bottom.isNaN = true ∨ top.isNaN = true →
        outcome.1 = .error (.misuse (.nanBounds slot))) ∧
      (bottom.isNaN = false → top.isNaN = false → slot = 0 ∨ s.size + 1 < slot →
        outcome.1 = .error (.slotGap slot s.size))) ∧
    (∀ text,
      let outcome := attempt (Edit.append text).perform s
      (outcome.1 = .ok () ↔
        ∀ segment ∈ Range.segments text, ∃ r, Range.parse mode segment = .ok r) ∧
      (outcome.1 = .ok () →
        ∃ rs, List.Forall₂ (fun segment r => Range.parse mode segment = .ok r)
          (Range.segments text) rs ∧ outcome.2 = { s with ranges := s.ranges ++ rs })) ∧
    ∀ (edit : Edit) (fault : Fault),
      (attempt edit.perform s).1 = .error fault → (attempt edit.perform s).2 = s := by
  intro s
  have hmode : s.mode = mode := mode_edited mode edits
  refine ⟨hmode, fun slot => isSome_get?_iff, fun slot bottom top inverted => ?_, fun text => ?_,
    fun edit fault h => ?_⟩
  · intro outcome
    have hwhen : outcome.1 = .ok () ↔
        bottom.isNaN = false ∧ top.isNaN = false ∧ 1 ≤ slot ∧ slot ≤ s.size + 1 :=
      attempt_eq_ok_iff.trans (exists_setSlot_iff inverted)
    refine ⟨hwhen, fun h => ?_, fun hnan => ?_, fun hbottom htop hgap => ?_⟩
    · obtain ⟨hbottom, htop, hfirst, hlast⟩ := hwhen.1 h
      obtain ⟨t, ht, hset⟩ := setSlot_of_free inverted hbottom htop hfirst hlast
      have houtcome : outcome.2 = t := attempt_of_apply ht
      rw [houtcome]
      exact hset
    · exact attempt_of_fault (setSlot_of_nan slot inverted hnan)
    · exact attempt_of_fault (setSlot_of_gap inverted hbottom htop hgap)
  · intro outcome
    rw [← hmode]
    refine ⟨attempt_eq_ok_iff.trans exists_append_iff, fun h => ?_⟩
    obtain ⟨t, ht⟩ := attempt_eq_ok_iff.1 h
    obtain ⟨rs, hrs, rfl⟩ := append_eq_ok_iff.1 ht
    exact ⟨rs, hrs, attempt_of_apply ht⟩
  · rw [attempt_perform] at h ⊢
    exact commit_error (Prod.ext h rfl)

/-- Two slots are in use: the fourth one cannot be set, the third one can, and NaN is told first. -/
theorem edited_slots_gap :
    let s := (empty .zeroFloor).edited [.append "10,@20:30", .setSlot 4 .zero .infinity false]
    s.size = 2 ∧
    (attempt (Edit.setSlot 4 .zero .infinity false).perform s).1 = .error (.slotGap 4 2) ∧
    (attempt (Edit.setSlot 0 .zero .nan true).perform s).1 = .error (.misuse (.nanBounds 0)) ∧
    SlotIsSet s 3 .infinity .zero true
      (attempt (Edit.setSlot 3 .infinity .zero true).perform s).2 := by
  intro s
  have hsize : s.size = 2 := by decide +kernel
  obtain ⟨-, -, hset, -⟩ := edited_slots .zeroFloor
    [.append "10,@20:30", .setSlot 4 .zero .infinity false]
  obtain ⟨-, -, -, hgap⟩ := hset 4 .zero .infinity false
  obtain ⟨-, -, hnan, -⟩ := hset 0 .zero .nan true
  obtain ⟨hwhen, hthird, -, -⟩ := hset 3 .infinity .zero true
  have hfourth := hgap rfl rfl (.inr (show s.size + 1 < 4 by omega))
  have hfree : 3 ≤ s.size + 1 := by omega
  refine ⟨hsize, ?_, hnan (.inr rfl), hthird (hwhen.2 ⟨rfl, rfl, by decide, hfree⟩)⟩
  rw [← hsize]
  exact hfourth

end ThresholdCheck.ThresholdSet
