import ThresholdCheck.Proofs.Plugin.Opening
import ThresholdCheck.Proofs.Plugin.Operation

/-!
# What an operation does to a plugin

An operation that succeeds makes one of seven changes, and only in the part of the life of the
plugin that it belongs to (`Change`). The mode of a plugin and the severities it accepts are followed
through them, and so are the thresholds that stand in its session.

* **`change_of_apply`**: an operation that succeeds makes its change;
* `Change.mode_eq`, `Change.enabled?_eq`, `Change.isStarted_iff`: what a change keeps, and what not;
* `Sound`: the thresholds of a started plugin are those of the severities that it accepts;
* **`Change.sound`**: each change keeps a plugin sound.
-/

namespace ThresholdCheck

/-! ## 1. Thresholds that stand -/

namespace Evaluator

/-- What does not change of a severity while it is in force: whether each measurement needs a range,
    and the mode of the ranges. -/
def standing (e : Evaluator) (severity : Severity) : Option (Bool × Mode) :=
  (e.threshold severity).map fun t => (t.required, t.ranges.mode)

variable {e next : Evaluator}

/-- A measurement leaves the thresholds alone. -/
theorem standing_setValue {m : Measurement} {state : Status}
    (h : e.setValue m = .ok (state, next)) (severity : Severity) :
    next.standing severity = e.standing severity := by
  obtain ⟨r, -, hnext⟩ := map_eq_ok h
  cases hnext
  cases severity <;> rfl

/-- An edit changes ranges only. -/
theorem standing_changeRanges {severity : Severity} {edit : ThresholdSet.Edit}
    (h : e.changeRanges severity edit.apply = .ok next) (other : Severity) :
    next.standing other = e.standing other := by
  unfold changeRanges at h
  cases ht : e.threshold severity with
  | none =>
    rw [ht] at h
    cases h
    rfl
  | some t =>
    rw [ht] at h
    obtain ⟨ranges, hranges, rfl⟩ := map_eq_ok h
    have hmode : ranges.mode = t.ranges.mode := ThresholdSet.mode_of_apply hranges
    unfold standing
    rw [threshold_withThreshold]
    by_cases hother : other = severity
    · rw [if_pos hother, hother, ht, Option.map_some, Option.map_some, hmode]
    · rw [if_neg hother]

end Evaluator

namespace Plugin

open CommandLine (Word Given)

/-! ## 2. Changes -/

/-- What an operation that succeeds does to a plugin. -/
inductive Change (p : Plugin) : Operation → Plugin → Prop where
  | adds (o : CustomOption) (waiting : p.isStarted = false) :
      Change p (.addOption o) { p with options := p.options ++ [o] }
  | accepts (severity : Severity) (required : Bool) (waiting : p.isStarted = false) :
      Change p (.enable severity required) (p.accepting severity required)
  | starts (words : List Word) (given : Given) (s : Session) (waiting : p.isStarted = false)
      (opened : p.openSession given = .ok s) :
      Change p (.start words) { p with session := some s }
  | measures (m : Measurement) (s : Session) (state : Status) (e : Evaluator)
      (started : p.session = some s) (measured : s.evaluator.setValue m = .ok (state, e)) :
      Change p (.setValue m) (p.withEvaluator s e)
  | edits (severity : Severity) (slot : Nat) (bottom top : Binary64) (inverted : Bool) (s : Session)
      (e : Evaluator) (started : p.session = some s)
      (edited : s.evaluator.changeRanges severity
        (ThresholdSet.Edit.setSlot slot bottom top inverted).apply = .ok e) :
      Change p (.setRange severity slot bottom top inverted) (p.withEvaluator s e)
  | tells (message : String) : Change p (.setMessage message) (p.setMessage message)
  | reports (s : Session) (started : p.session = some s) : Change p .finish p

variable {p next : Plugin} {op : Operation} {answer : Answer}

theorem currentSession_eq_ok {s : Session} (h : p.currentSession = .ok s) : p.session = some s := by
  unfold currentSession at h
  cases hsession : p.session with
  | none =>
    rw [hsession] at h
    cases h
  | some s' =>
    rw [hsession] at h
    cases h
    rfl

theorem change_of_addOption {o : CustomOption} (h : p.addOption o = .ok next) :
    Change p (.addOption o) next := by
  unfold addOption at h
  split at h
  · cases h
  · rename_i hwaiting
    have waiting : p.isStarted = false := Bool.eq_false_iff.2 hwaiting
    split at h
    · cases h
    · split at h
      · cases h
        exact .adds o waiting
      · split at h
        · cases h
        · cases h
          exact .adds o waiting

theorem change_of_enable {severity : Severity} {required : Bool}
    (h : p.enable severity required = .ok next) : Change p (.enable severity required) next := by
  unfold enable at h
  split at h
  · cases h
  · rename_i hwaiting
    have waiting : p.isStarted = false := Bool.eq_false_iff.2 hwaiting
    cases severity with
    | warning =>
      cases h
      exact .accepts .warning required waiting
    | critical =>
      cases h
      exact .accepts .critical required waiting

theorem change_of_start {words : List Word} (h : p.start words = .ok next) :
    Change p (.start words) next := by
  unfold start at h
  by_cases hwaiting : p.isStarted = true
  · rw [if_pos hwaiting] at h
    cases h
  · rw [if_neg hwaiting] at h
    obtain ⟨given, -, h⟩ := bind_eq_ok h
    obtain ⟨s, hopened, h⟩ := bind_eq_ok h
    cases h
    exact .starts words given s (Bool.eq_false_iff.2 hwaiting) hopened

theorem change_of_setRange {severity : Severity} {slot : Nat} {bottom top : Binary64}
    {inverted : Bool} (h : p.setRange severity slot bottom top inverted = .ok next) :
    Change p (.setRange severity slot bottom top inverted) next := by
  obtain ⟨s, hs, h⟩ := bind_eq_ok h
  by_cases hnone : (s.evaluator.threshold severity).isNone = true
  · rw [if_pos hnone] at h
    cases h
  · rw [if_neg hnone] at h
    obtain ⟨e, hedited, h⟩ := bind_eq_ok h
    cases h
    exact .edits severity slot bottom top inverted s e (currentSession_eq_ok hs) hedited

/-- **An operation that succeeds makes its change.** -/
theorem change_of_apply (h : op.apply p = .ok (answer, next)) : Change p op next := by
  cases op with
  | addOption o =>
    obtain ⟨q, hq, heq⟩ := map_eq_ok h
    cases heq
    exact change_of_addOption hq
  | enable severity required =>
    obtain ⟨q, hq, heq⟩ := map_eq_ok h
    cases heq
    exact change_of_enable hq
  | start words =>
    obtain ⟨q, hq, heq⟩ := map_eq_ok h
    cases heq
    exact change_of_start hq
  | setValue m =>
    obtain ⟨⟨state, q⟩, hq, heq⟩ := map_eq_ok h
    cases heq
    obtain ⟨s, hs, hq⟩ := bind_eq_ok hq
    obtain ⟨⟨state', e⟩, hmeasured, hq⟩ := bind_eq_ok hq
    cases hq
    exact .measures m s state e (currentSession_eq_ok hs) hmeasured
  | setRange severity slot bottom top inverted =>
    obtain ⟨q, hq, heq⟩ := map_eq_ok h
    cases heq
    exact change_of_setRange hq
  | setMessage message =>
    cases h
    exact .tells message
  | finish =>
    obtain ⟨report, hreport, heq⟩ := map_eq_ok h
    cases heq
    obtain ⟨s, hs, -⟩ := bind_eq_ok hreport
    exact .reports s (currentSession_eq_ok hs)

/-! ## 3. What a change keeps -/

/-- What an operation says of a severity, if it enables it. -/
def Operation.enables? (severity : Severity) : Operation → Option Bool
  | .enable other required => if severity = other then some required else none
  | _ => none

namespace Change

theorem mode_eq (h : Change p op next) : next.mode = p.mode := by
  cases h with
  | accepts severity required => cases severity <;> rfl
  | _ => rfl

/-- Only `enable` changes what a plugin accepts. -/
theorem enabled?_eq (h : Change p op next) (severity : Severity) :
    next.enabled? severity = (op.enables? severity).or (p.enabled? severity) := by
  cases h with
  | accepts other required => cases other <;> cases severity <;> rfl
  | adds => cases severity <;> rfl
  | starts => cases severity <;> rfl
  | measures => cases severity <;> rfl
  | edits => cases severity <;> rfl
  | tells => cases severity <;> rfl
  | reports => cases severity <;> rfl

/-- A plugin that was started accepts what it accepted. -/
theorem enabled?_of_started (h : Change p op next) (started : p.isStarted = true)
    (severity : Severity) : next.enabled? severity = p.enabled? severity := by
  have hnothing : op.enables? severity = none := by
    cases h with
    | accepts other required waiting =>
      rw [started] at waiting
      cases waiting
    | _ => rfl
  rw [h.enabled?_eq, hnothing, Option.none_or]

/-- Only a start starts a plugin, and nothing ends its run. -/
theorem isStarted_iff (h : Change p op next) :
    next.isStarted = true ↔ p.isStarted = true ∨ ∃ words, op = .start words := by
  cases h with
  | starts words given s waiting opened => exact iff_of_true rfl (.inr ⟨words, rfl⟩)
  | measures m s state e started measured =>
    have hstarted : p.isStarted = true := by rw [isStarted, started]; rfl
    exact iff_of_true rfl (.inl hstarted)
  | edits severity slot bottom top inverted s e started edited =>
    have hstarted : p.isStarted = true := by rw [isStarted, started]; rfl
    exact iff_of_true rfl (.inl hstarted)
  | accepts severity required => simp [isStarted]
  | adds => simp [isStarted]
  | tells => simp [isStarted, setMessage]
  | reports => simp

end Change

/-! ## 4. The invariant -/

/-- The thresholds of a started plugin are those of the severities it accepts, as it accepts them. -/
def Sound (p : Plugin) : Prop :=
  ∀ s, p.session = some s → ∀ severity,
    s.evaluator.standing severity = (p.enabled? severity).map fun required => (required, p.mode)

/-- A session is opened with the thresholds of the severities that are accepted. -/
theorem standing_openSession {given : Given} {s : Session} (h : p.openSession given = .ok s)
    (severity : Severity) :
    s.evaluator.standing severity = (p.enabled? severity).map fun required => (required, p.mode) := by
  obtain ⟨e, hopened, h⟩ := bind_eq_ok h
  cases h
  show e.standing severity = _
  unfold Evaluator.standing
  rcases openEvaluator_threshold hopened severity with
    ⟨required, ranges, hmem, hranges, hthreshold⟩ | ⟨habsent, hthreshold⟩
  · rw [hthreshold, mem_enabled_iff.1 hmem, Option.map_some, Option.map_some,
      (collectRanges_readable hranges).mode_eq]
  · have hnone : p.enabled? severity = none := by
      cases henabled : p.enabled? severity with
      | none => rfl
      | some required =>
        exact absurd (List.mem_map_of_mem (mem_enabled_iff.2 henabled)) habsent
    rw [hthreshold, hnone]
    cases severity <;> rfl

theorem session_ne_some (waiting : p.isStarted = false) (s : Session) : p.session ≠ some s := by
  intro hs
  rw [isStarted, hs] at waiting
  cases waiting

/-- **Each change keeps a plugin sound.** -/
theorem Change.sound (h : Change p op next) (hp : p.Sound) : next.Sound := by
  intro s' hs' severity
  cases h with
  | adds o waiting => exact absurd hs' (session_ne_some waiting s')
  | accepts other required waiting =>
    rw [session_accepting] at hs'
    exact absurd hs' (session_ne_some waiting s')
  | starts words given s waiting opened =>
    cases hs'
    rw [standing_openSession opened severity]
    cases severity <;> rfl
  | measures m s state e started measured =>
    cases hs'
    rw [Evaluator.standing_setValue measured severity, hp s started severity]
    cases severity <;> rfl
  | edits other slot bottom top inverted s e started edited =>
    cases hs'
    rw [Evaluator.standing_changeRanges edited severity, hp s started severity]
    cases severity <;> rfl
  | tells message =>
    rw [hp s' hs' severity]
    cases severity <;> rfl
  | reports s started => exact hp s' hs' severity

end Plugin

end ThresholdCheck
