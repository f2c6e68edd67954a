import ThresholdCheck.Proofs.Binary64.Rounding
import ThresholdCheck.Proofs.Fallible
import ThresholdCheck.Range.Parsing

/-!
# What the mode of a range matters for

The mode is asked for the bottom of a range without a start, and for nothing else. The bottoms that
it may give, zero and negative infinity, both lie below zero or at it. So ranges that are read in
two modes are alike: they differ in their bottoms at most, and no value from zero on tells them
apart.

* `Mode.defaultBottom_le`: no value from zero on lies below the bottom of a mode;
* `readBounds_agree`: bounds are read alike;
* **`parse_agree`**: so are ranges, and where the start is given they are the same;
* `parseList_agree`: so are lists of ranges.
-/

namespace ThresholdCheck

/-! ## 1. Bottoms -/

/-- No value from zero on lies below the bottom of a mode. -/
theorem Mode.defaultBottom_le (mode : Mode) {value : Binary64} (h : .zero ≤ value) :
    mode.defaultBottom ≤ value := by
  cases mode with
  | zeroFloor => exact h
  | simpleRange =>
    obtain ⟨least, place, hzero, hvalue, hle⟩ := Binary64.le_iff.1 h
    have hleast : least = 0 := by
      unfold Binary64.zero at hzero
      rw [Binary64.ofRank_of_le (Nat.zero_le _)] at hzero
      exact (Option.some.inj hzero).symm
    have hlowest : Binary64.negInfinity.key = some (-(Binary64.topRank : Int)) := by
      unfold Binary64.negInfinity
      rw [Binary64.ofRank_of_le (Nat.le_refl _)]
      rfl
    refine Binary64.le_iff.2 ⟨_, place, hlowest, hvalue, ?_⟩
    omega

/-- No value from zero on tells the bottoms apart, and where they were given they are the same. -/
structure AlikeBottoms (explicit : Prop) (x y : Binary64) : Prop where
  eq : explicit → x = y
  below : ∀ value, .zero ≤ value → (x ≤ value ↔ y ≤ value)

namespace AlikeBottoms

variable {explicit : Prop}

theorem refl (x : Binary64) : AlikeBottoms explicit x x := ⟨fun _ => rfl, fun _ _ => Iff.rfl⟩

theorem defaultBottom (mode mode' : Mode) (omitted : ¬explicit) :
    AlikeBottoms explicit mode.defaultBottom mode'.defaultBottom where
  eq given := absurd given omitted
  below _ h := iff_of_true (mode.defaultBottom_le h) (mode'.defaultBottom_le h)

end AlikeBottoms

namespace Range

open Text

/-- The ranges differ in their bottoms at most, and no value from zero on tells them apart. -/
structure Alike (r s : Range) : Prop where
  raw : r.raw = s.raw
  top : r.top = s.top
  inverted : r.inverted = s.inverted
  violated : ∀ value, .zero ≤ value → r.violatedBy value = s.violatedBy value

theorem Alike.of_bottoms {explicit : Prop} {x y : Binary64} (h : AlikeBottoms explicit x y)
    (top : Binary64) (inverted : Bool) (raw : String) :
    Alike ⟨x, top, inverted, raw⟩ ⟨y, top, inverted, raw⟩ where
  raw := rfl
  top := rfl
  inverted := rfl
  violated value hvalue := by
    unfold violatedBy
    rw [decide_eq_decide.2 (h.below value hvalue)]

/-! ## 2. One range -/

section

variable {explicit : Prop} (mode mode' : Mode)

theorem readStart_agree {cs : List Char} (given : explicit → cs ≠ []) :
    Agree (AlikeBottoms explicit) (readStart mode cs) (readStart mode' cs) := by
  unfold readStart
  by_cases hnil : cs = []
  · rw [if_pos hnil, if_pos hnil]
    exact .ok (.defaultBottom mode mode' fun h => given h hnil)
  · rw [if_neg hnil, if_neg hnil]
    exact Agree.refl AlikeBottoms.refl _

/-- Bounds are read alike in two modes. -/
theorem readBounds_agree {body : List Char}
    (given : explicit → ∃ start stop, cut ':' body = some (start, stop) ∧ start ≠ []) :
    Agree (fun p q => AlikeBottoms explicit p.1 q.1 ∧ p.2 = q.2)
      (readBounds mode body) (readBounds mode' body) := by
  unfold readBounds
  by_cases hnil : body = []
  · rw [if_pos hnil, if_pos hnil]
    exact .error _
  · rw [if_neg hnil, if_neg hnil]
    cases hcut : cut ':' body with
    | some parts =>
      obtain ⟨start, stop⟩ := parts
      have hstart : explicit → start ≠ [] := by
        intro h
        obtain ⟨start', stop', hparts, hne⟩ := given h
        rw [hcut] at hparts
        cases hparts
        exact hne
      refine (readStart_agree mode mode' hstart).bind fun bottom bottom' hbottom => ?_
      refine (Agree.refl (fun _ => rfl) (readEnd stop)).bind fun top top' htop => ?_
      exact .ok ⟨hbottom, htop⟩
    | none =>
      have homitted : ¬explicit := by
        intro h
        obtain ⟨start, stop, hparts, -⟩ := given h
        rw [hcut] at hparts
        cases hparts
      have hbottom := AlikeBottoms.defaultBottom mode mode' homitted
      refine (Agree.refl (fun _ => rfl) (readBound body)).bind fun top top' htop => ?_
      exact .ok ⟨hbottom, htop⟩

end

/-- The text gives the start of its range: there is something before the colon. -/
def GivesStart (text : String) : Prop :=
  ∃ start stop, cut ':' (takeInversion (trim text.toList)).2 = some (start, stop) ∧ start ≠ []

/-- **A text is read alike in two modes,** and the ranges are the same where it gives the start. -/
theorem parse_agree (mode mode' : Mode) (text : String) :
    Agree (fun r s => r.Alike s ∧ (GivesStart text → r.bottom = s.bottom))
      (parse mode text) (parse mode' text) := by
  have hbounds := readBounds_agree mode mode' fun given : GivesStart text => given
  unfold parse readTrimmed
  refine (hbounds.map fun p q h => ?_).mapError
  obtain ⟨bottom, top⟩ := p
  obtain ⟨bottom', top'⟩ := q
  obtain ⟨hbottom, rfl⟩ : AlikeBottoms (GivesStart text) bottom bottom' ∧ top = top' := h
  exact ⟨.of_bottoms hbottom top _ _, hbottom.eq⟩

/-! ## 3. Lists of ranges -/

/-- **A list is read alike in two modes.** -/
theorem parseList_agree (mode mode' : Mode) (text : String) :
    Agree (List.Forall₂ Alike) (parseList mode text) (parseList mode' text) := by
  unfold parseList
  by_cases hblank : isBlankText text.toList = true
  · rw [if_pos hblank, if_pos hblank]
    exact .error _
  · rw [if_neg hblank, if_neg hblank]
    refine Agree.mapM fun segment _ => ?_
    unfold parseSegment
    by_cases hempty : isBlankText segment.toList = true
    · rw [if_pos hempty, if_pos hempty]
      exact .error _
    · rw [if_neg hempty, if_neg hempty]
      exact (parse_agree mode mode' segment).imp fun r s h => h.1

end Range

end ThresholdCheck
