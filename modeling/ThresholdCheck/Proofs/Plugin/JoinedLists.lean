import ThresholdCheck.Proofs.Plugin.Opening
import ThresholdCheck.Proofs.ThresholdSet.Slots

/-!
# Several lists of ranges are one list

An option that gives ranges may be repeated, and each of its lists is appended behind those before.
What is read of them in the end is read of their segments, one after the other, so it does not
matter how the segments are shared out among lists: the lists may as well be joined by commas.

* `ThresholdSet.foldlM_append_eq_ok_iff`: lists that are appended in turn are read segment by
  segment;
* **`collectRanges_joined`**: so lists are collected exactly if their joined text is, and as the same
  set;
* `openEvaluator_of_joined`: so the same evaluator is opened for lists that are joined (`Joined`);
* **`start_joined`**: and a plugin starts with it.
-/

namespace ThresholdCheck

open CommandLine (Word Given)

/-! ## 1. Lists that are appended in turn -/

/-- **Lists that are appended in turn are read segment by segment, or not at all.** -/
theorem ThresholdSet.foldlM_append_eq_ok_iff {texts : List String} {s t : ThresholdSet} :
    texts.foldlM append s = .ok t ↔
      ∃ rs, (texts.flatMap Range.segments).mapM (Range.parse s.mode) = .ok rs ∧
        t = { s with ranges := s.ranges ++ rs } := by
  induction texts generalizing s with
  | nil => simp [pure, Except.pure, eq_comm]
  | cons text texts ih =>
    rw [List.foldlM_cons, List.flatMap_cons]
    constructor
    · intro h
      obtain ⟨next, hnext, h⟩ := bind_eq_ok h
      obtain ⟨front, hfront, rfl⟩ := append_eq_ok_iff.1 hnext
      obtain ⟨back, hback, rfl⟩ := ih.1 h
      refine ⟨front ++ back, mapM_append_eq_ok_iff.2 ?_, by rw [List.append_assoc]⟩
      exact ⟨front, back, mapM_eq_ok_iff.2 hfront, hback, rfl⟩
    · rintro ⟨rs, hrs, rfl⟩
      obtain ⟨front, back, hfront, hback, rfl⟩ := mapM_append_eq_ok_iff.1 hrs
      have hnext := append_eq_ok_iff.2 ⟨front, mapM_eq_ok_iff.1 hfront, rfl⟩
      rw [hnext]
      exact ih.2 ⟨back, hback, by rw [List.append_assoc]⟩

namespace Plugin

/-! ## 2. Lists that are joined -/

variable {mode : Mode} {texts texts' : List String}

/-- The lists are the same, or the second are the first ones joined by commas. -/
def Joined (texts texts' : List String) : Prop :=
  texts' = texts ∨ texts ≠ [] ∧ texts' = [",".intercalate texts]

/-- Lists that are joined have the segments that they had. -/
theorem Joined.segments_eq (h : Joined texts texts') :
    texts'.flatMap Range.segments = texts.flatMap Range.segments := by
  rcases h with rfl | ⟨hne, rfl⟩
  · rfl
  · rw [List.flatMap_singleton, Range.segments_intercalate hne]

/-- **Lists are collected exactly if they are when joined, and then as the same set.** -/
theorem collectRanges_joined (h : Joined texts texts') {s : ThresholdSet} :
    collectRanges mode texts = .ok s ↔ collectRanges mode texts' = .ok s := by
  unfold collectRanges
  rw [ThresholdSet.foldlM_append_eq_ok_iff, ThresholdSet.foldlM_append_eq_ok_iff, h.segments_eq]

/-! ## 3. The start -/

variable {given given' : Given} {e e' : Evaluator}

/-- The ranges of the first severity are put in force, and then those of the others. -/
theorem openEvaluator_cons_eq_ok_iff {first : Severity × Bool} {rest : List (Severity × Bool)} :
    openEvaluator mode given (first :: rest) e = .ok e' ↔
      ∃ ranges, collectRanges mode (given.valuesOf first.1.name) = .ok ranges ∧
        openEvaluator mode given rest (e.enable first.1 ranges first.2) = .ok e' := by
  constructor
  · exact bind_eq_ok
  · rintro ⟨ranges, hranges, h⟩
    unfold openEvaluator
    rw [hranges]
    exact h

theorem openEvaluator_of_joined
    (joined : ∀ severity : Severity, Joined (given.valuesOf severity.name)
      (given'.valuesOf severity.name)) (severities : List (Severity × Bool)) :
    openEvaluator mode given severities e = .ok e' ↔
      openEvaluator mode given' severities e = .ok e' := by
  induction severities generalizing e with
  | nil => exact Iff.rfl
  | cons first rest ih =>
    rw [openEvaluator_cons_eq_ok_iff, openEvaluator_cons_eq_ok_iff]
    exact exists_congr fun ranges => and_congr (collectRanges_joined (joined first.1)) ih

/-- Once its command line is accepted, a plugin that was not started before opens its session. -/
theorem start_of_accepted {p : Plugin} {words : List Word}
    (accepted : p.definition.parse words = .ok given) :
    p.start words =
      if p.isStarted then .error (.misuse .alreadyStarted)
      else (p.openSession given).map fun session => { p with session := some session } := by
  unfold start
  rw [accepted]
  by_cases hstarted : p.isStarted = true
  · rw [if_pos hstarted, if_pos hstarted]
    rfl
  · rw [if_neg hstarted, if_neg hstarted]
    show (p.openSession given >>= fun session => _) = _
    cases p.openSession given with
    | error fault => rfl
    | ok session => rfl

/-- It starts with the evaluator that is opened. -/
theorem exists_start_iff {p : Plugin} {words : List Word}
    (accepted : p.definition.parse words = .ok given) :
    (∃ q, p.start words = .ok q ∧ q.evaluator? = some e) ↔
      p.isStarted = false ∧ openEvaluator p.mode given p.enabled .empty = .ok e := by
  rw [start_of_accepted accepted]
  cases p.isStarted with
  | true => simp
  | false =>
    unfold openSession
    cases openEvaluator p.mode given p.enabled .empty with
    | error fault => simp [bind, Except.bind, Except.map]
    | ok opened => simp [bind, Except.bind, Except.map, pure, Except.pure, evaluator?]

/-- **Several lists of ranges are one list.** Of two texts with a comma between them, the ranges are
    read exactly if those of each are, and they are these in order; there is one more than there are
    commas. So several lists are collected exactly if their joined text is, and as the same ranges at
    the same slots; and on two command lines that are accepted and differ in lists that are joined, a
    plugin starts with the same evaluator, or on neither. -/
theorem start_joined :
    (∀ mode a b rs, Range.parseList mode (a ++ "," ++ b) = .ok rs ↔
      ∃ front back, Range.parseList mode a = .ok front ∧ Range.parseList mode b = .ok back ∧
        rs = front ++ back) ∧
    (∀ mode text rs, Range.parseList mode text = .ok rs →
      rs.length = text.toList.count ',' + 1) ∧
    (∀ mode texts, texts ≠ [] → ∀ s, collectRanges mode texts = .ok s ↔
      collectRanges mode [",".intercalate texts] = .ok s) ∧
    ∀ (p : Plugin) words words' given given', p.definition.parse words = .ok given →
      p.definition.parse words' = .ok given' →
      (∀ severity : Severity,
        Joined (given.valuesOf severity.name) (given'.valuesOf severity.name)) →
      ∀ e, (∃ q, p.start words = .ok q ∧ q.evaluator? = some e) ↔
        ∃ q, p.start words' = .ok q ∧ q.evaluator? = some e := by
  refine ⟨fun mode a b rs => Range.parseList_append_iff, fun mode text rs => ?_,
    fun mode texts hne s => ?_, fun p words words' given given' accepted accepted' joined e => ?_⟩
  · exact Range.length_of_parseList
  · exact collectRanges_joined (.inr ⟨hne, rfl⟩)
  · rw [exists_start_iff accepted, exists_start_iff accepted', openEvaluator_of_joined joined]

/-- Two lists for warning are one, with blanks at the ends of their segments. -/
theorem start_joined_repeated :
    let p := { Plugin.new "check" "" "1" with warning := some true }
    let words := ["check", "-w", "10, @5:20 ", "--warning=~:30"].map Word.ofString
    let words' := ["check", "-w10, @5:20 ,~:30"].map Word.ofString
    ∃ q q' e, p.start words = .ok q ∧ p.start words' = .ok q' ∧ q.evaluator? = some e ∧
      q'.evaluator? = some e ∧
      e.warning.map (fun t => t.ranges.ranges.map Range.raw) = some ["10", "@5:20", "~:30"] := by
  intro p words words'
  let given : Given := ⟨0, [("warning", "10, @5:20 "), ("warning", "~:30")], []⟩
  let given' : Given := ⟨0, [("warning", "10, @5:20 ,~:30")], []⟩
  have accepted : p.definition.parse words = .ok given := rfl
  have accepted' : p.definition.parse words' = .ok given' := rfl
  have joined : ∀ severity : Severity,
      Joined (given.valuesOf severity.name) (given'.valuesOf severity.name) := by
    intro severity
    cases severity with
    | warning => exact .inr ⟨by decide, rfl⟩
    | critical => exact .inl rfl
  obtain ⟨-, -, -, hstart⟩ := start_joined
  have hsame := hstart p words words' given given' accepted accepted' joined
  obtain ⟨e, hopened, hraw⟩ : ∃ e, openEvaluator p.mode given p.enabled .empty = .ok e ∧
      e.warning.map (fun t => t.ranges.ranges.map Range.raw) = some ["10", "@5:20", "~:30"] := by
    have hvalue : (openEvaluator p.mode given p.enabled .empty).toOption.map
        (fun e => e.warning.map fun t => t.ranges.ranges.map Range.raw) =
          some (some ["10", "@5:20", "~:30"]) := by decide +kernel
    obtain ⟨e, he, hraw⟩ := Option.map_eq_some_iff.1 hvalue
    exact ⟨e, eq_ok_of_toOption he, hraw⟩
  obtain ⟨q, hq, he⟩ := (exists_start_iff accepted).2 ⟨rfl, hopened⟩
  obtain ⟨q', hq', he'⟩ := (hsame e).1 ⟨q, hq, he⟩
  exact ⟨q, q', e, hq, hq', he, he', hraw⟩

end Plugin

end ThresholdCheck
