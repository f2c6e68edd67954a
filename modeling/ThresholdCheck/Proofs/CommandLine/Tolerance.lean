import ThresholdCheck.CommandLine.Parsing

/-!
# A tolerant reading agrees with a strict one

A tolerant reading knows no help and no version, lets an option go without its value, and keeps what
it has read when it has to stop. Where a strict reading is not stopped, none of this makes a
difference.

* `Step.KeptBy`: a step is kept by another one that is the same unless the first was stopped;
  **`Step.KeptBy.andThen`**: then both may be gone on with;
* `Definition.find?_tolerant`: a tolerant reading finds the options that a strict one finds, unless
  they ask for a text;
* `Context.settle_tolerant`, `Context.readWord_tolerant`: so each step of a strict reading is kept by a
  tolerant one, with one lemma for each kind of word;
* `Context.readOn`: words are read on from where those before them were read to
  (**`Context.readWords_append`**);
* **`Context.readWords_tolerant`**: what is read strictly is read tolerantly, and as the same.
-/

namespace ThresholdCheck.CommandLine

/-! ## 1. Steps that are kept -/

/-- The second step is the first one, unless that was stopped. -/
def Step.KeptBy (s t : Step) : Prop := s.2 = none → t = s

namespace Step.KeptBy

variable {s t : Step}

theorem of_eq (h : t = s) : s.KeptBy t := fun _ => h

theorem of_stopped (h : s.2 ≠ none) : s.KeptBy t := fun hnone => absurd hnone h

/-- **A step that is kept may be gone on with.** -/
theorem andThen {next next' : Progress → Step} (h : s.KeptBy t)
    (hnext : ∀ p, (next p).KeptBy (next' p)) : (s.andThen next).KeptBy (t.andThen next') := by
  obtain ⟨p, stopped⟩ := s
  cases stopped with
  | none =>
    rw [h rfl]
    exact hnext p
  | some r => exact of_stopped (Option.some_ne_none r)

end Step.KeptBy

/-- Two steps are stopped if the second one is, -/
theorem Step.stopped_andThen {s : Step} {next : Progress → Step} (h : ∀ p, (next p).2 ≠ none) :
    (s.andThen next).2 ≠ none := by
  obtain ⟨p, stopped⟩ := s
  cases stopped with
  | none => exact h p
  | some r => exact Option.some_ne_none r

/-- and if the first one is. -/
theorem Step.andThen_of_stopped {s : Step} {next : Progress → Step} (h : s.2 ≠ none) :
    (s.andThen next).2 ≠ none := by
  obtain ⟨p, stopped⟩ := s
  cases stopped with
  | none => exact absurd rfl h
  | some r => exact Option.some_ne_none r

/-! ## 2. Options that are known -/

/-- An occurrence of the option asks for a text. -/
def Opt.Asks (o : Opt) : Prop := o.behaviour = .help ∨ o.behaviour = .version

theorem Opt.Asks.takesValue {o : Opt} (h : o.Asks) : o.takesValue = false := by
  unfold Opt.takesValue
  rcases h with h | h <;> rw [h]

/-- An option that a strict reading finds is found by a tolerant one, or asks for a text. -/
theorem Definition.find?_tolerant {d : Definition} {manner : Manner} {test : Opt → Bool} {o : Opt}
    (h : (d.optionsFor manner).find? test = some o) :
    (d.optionsFor .tolerant).find? test = some o ∨ o.Asks := by
  cases manner with
  | tolerant => exact .inl h
  | strict =>
    have happend : (d.options ++ [helpOption, versionOption]).find? test = some o := h
    rw [List.find?_append, Option.or_eq_some_iff] at happend
    rcases happend with hfound | ⟨-, hfound⟩
    · exact .inl hfound
    · have hmem : o = helpOption ∨ o = versionOption := by
        simpa using List.mem_of_find?_eq_some hfound
      rcases hmem with rfl | rfl
      · exact .inr (.inl rfl)
      · exact .inr (.inr rfl)

namespace Context

variable {ctx : Context} {p : Progress}

/-- The same reading, but tolerant. -/
def tolerant (ctx : Context) : Context := { ctx with manner := .tolerant }

/-! ## 3. Words, read tolerantly -/

/-- The value of an option is taken in; only a missing one is treated in two ways. -/
theorem takeOption_tolerant (o : Opt) (value? : Option Word) (p : Progress) :
    (ctx.takeOption o value? p).KeptBy (ctx.tolerant.takeOption o value? p) := by
  have hmanner : ¬(ctx.tolerant.manner = .strict ∧ value? = none) := fun h => nomatch h.1
  by_cases hmissing : ctx.manner = .strict ∧ value? = none
  · refine .of_stopped ?_
    unfold takeOption
    rw [if_pos hmissing]
    exact Option.some_ne_none _
  · refine .of_eq ?_
    unfold takeOption
    rw [if_neg hmissing, if_neg hmanner]
    rfl

theorem takeFree_tolerant (words : List Word) (p : Progress) :
    ctx.tolerant.takeFree words p = ctx.takeFree words p := by
  induction words generalizing p with
  | nil => rfl
  | cons w ws ih =>
    unfold takeFree
    cases w.text? with
    | none => rfl
    | some text => exact ih _

theorem settle_tolerant (p : Progress) : (ctx.settle p).KeptBy (ctx.tolerant.settle p) := by
  unfold settle
  cases p.pending with
  | nothing => exact .of_eq rfl
  | awaiting o => exact takeOption_tolerant o none _
  | holding o value => exact takeOption_tolerant o (some value) _
  | free words => exact .of_eq (takeFree_tolerant words _)

theorem takeFlag_tolerant (o : Opt) (p : Progress) :
    (ctx.takeFlag o p).KeptBy (ctx.tolerant.takeFlag o p) :=
  (settle_tolerant p).andThen fun _ => .of_eq rfl

theorem takeAttached_tolerant (o : Opt) (value : Word) (p : Progress) :
    (ctx.takeAttached o value p).KeptBy (ctx.tolerant.takeAttached o value p) :=
  (settle_tolerant p).andThen (takeOption_tolerant o (some value))

theorem await_tolerant (o : Opt) (p : Progress) :
    (ctx.await o p).KeptBy (ctx.tolerant.await o p) :=
  (settle_tolerant p).andThen fun _ => .of_eq rfl

/-- An option that asks for a text stops a reading. -/
theorem takeFlag_stopped {o : Opt} (asks : o.Asks) (p : Progress) : (ctx.takeFlag o p).2 ≠ none := by
  refine Step.stopped_andThen fun q => ?_
  rcases asks with h | h
  · rw [h]
    exact Option.some_ne_none _
  · rw [h]
    exact Option.some_ne_none _

theorem readLong_tolerant (name : Word) (value? : Option Word) (p : Progress) :
    (ctx.readLong name value? p).KeptBy (ctx.tolerant.readLong name value? p) := by
  unfold readLong
  cases name.text? with
  | none => exact .of_stopped (Option.some_ne_none _)
  | some text =>
    dsimp only
    cases hfound : ctx.definition.long? ctx.manner text with
    | none => exact .of_stopped (Option.some_ne_none _)
    | some o =>
      rcases Definition.find?_tolerant hfound with htolerant | asks
      · have hlong : ctx.tolerant.definition.long? ctx.tolerant.manner text = some o := htolerant
        rw [hlong]
        dsimp only
        by_cases htakes : o.takesValue = true
        · rw [if_pos htakes, if_pos htakes]
          cases value? with
          | none => exact await_tolerant o p
          | some value => exact takeAttached_tolerant o value p
        · rw [if_neg htakes, if_neg htakes]
          cases value? with
          | none => exact takeFlag_tolerant o p
          | some value => exact .of_stopped (Option.some_ne_none _)
      · refine .of_stopped ?_
        dsimp only
        rw [asks.takesValue, if_neg Bool.false_ne_true]
        cases value? with
        | none => exact takeFlag_stopped asks p
        | some value => exact Option.some_ne_none _

theorem readShort_tolerant (flags : Word) (p : Progress) :
    (ctx.readShort flags p).KeptBy (ctx.tolerant.readShort flags p) := by
  induction flags generalizing p with
  | nil => exact .of_eq rfl
  | cons c rest ih =>
    cases c with
    | none => exact .of_stopped (Option.some_ne_none _)
    | some c =>
      unfold readShort
      cases hfound : ctx.definition.short? ctx.manner c with
      | none => exact .of_stopped (Option.some_ne_none _)
      | some o =>
        rcases Definition.find?_tolerant hfound with htolerant | asks
        · have hshort : ctx.tolerant.definition.short? ctx.tolerant.manner c = some o := htolerant
          rw [hshort]
          dsimp only
          by_cases htakes : o.takesValue = true
          · rw [if_pos htakes, if_pos htakes]
            split
            · exact await_tolerant o p
            · exact takeAttached_tolerant o _ p
            · exact takeAttached_tolerant o _ p
          · rw [if_neg htakes, if_neg htakes]
            exact (takeFlag_tolerant o p).andThen ih
        · refine .of_stopped ?_
          dsimp only
          rw [asks.takesValue, if_neg Bool.false_ne_true]
          exact Step.andThen_of_stopped (takeFlag_stopped asks p)

theorem readPlain_tolerant (w : Word) (p : Progress) :
    (ctx.readPlain w p).KeptBy (ctx.tolerant.readPlain w p) := by
  have hrow : (Step.andThen (ctx.settle p) fun p => ({ p with pending := .free [w] }, none)).KeptBy
      (Step.andThen (ctx.tolerant.settle p) fun p => ({ p with pending := .free [w] }, none)) :=
    (settle_tolerant p).andThen fun _ => .of_eq rfl
  unfold readPlain
  cases p.pending with
  | nothing => exact hrow
  | awaiting o =>
    dsimp only
    by_cases hfree : p.freeOnly = true
    · rw [if_pos hfree, if_pos hfree]
      exact hrow
    · rw [if_neg hfree, if_neg hfree]
      exact .of_eq rfl
  | holding o value => exact hrow
  | free words => exact .of_eq rfl

/-- **A word that is read strictly is read tolerantly, and as the same.** -/
theorem readWord_tolerant (w : Word) (p : Progress) :
    (ctx.readWord w p).KeptBy (ctx.tolerant.readWord w p) := by
  unfold readWord
  by_cases hfree : (p.freeOnly || p.takesAnything) = true
  · rw [if_pos hfree, if_pos hfree]
    exact readPlain_tolerant w p
  · rw [if_neg hfree, if_neg hfree]
    cases w.shape with
    | divider => exact .of_eq rfl
    | long name value? => exact readLong_tolerant name value? p
    | short flags => exact readShort_tolerant flags p
    | plain => exact readPlain_tolerant w p

/-! ## 4. Rows of words -/

/-- Reads words up to their end or to a fault; what is pending after the last one stays pending. -/
def readOn (ctx : Context) : List Word → Progress → Step
  | [], p => (p, none)
  | w :: ws, p => Step.andThen (ctx.readWord w p) (ctx.readOn ws)

/-- **Words are read on from where those before them were read to.** -/
theorem readWords_append (words more : List Word) (p : Progress) :
    ctx.readWords (words ++ more) p = Step.andThen (ctx.readOn words p) (ctx.readWords more) := by
  induction words generalizing p with
  | nil => rfl
  | cons w ws ih =>
    rw [List.cons_append, readWords, readOn]
    cases ctx.readWord w p with
    | mk q stopped =>
      cases stopped with
      | none => exact ih q
      | some r => rfl

theorem readWords_eq (words : List Word) (p : Progress) :
    ctx.readWords words p = Step.andThen (ctx.readOn words p) ctx.settle := by
  have h : ctx.readWords (words ++ []) p = Step.andThen (ctx.readOn words p) (ctx.readWords []) :=
    readWords_append words [] p
  rw [List.append_nil] at h
  exact h

theorem readOn_tolerant (words : List Word) (p : Progress) :
    (ctx.readOn words p).KeptBy (ctx.tolerant.readOn words p) := by
  induction words generalizing p with
  | nil => exact .of_eq rfl
  | cons w ws ih => exact (readWord_tolerant w p).andThen ih

/-- **What is read strictly is read tolerantly, and as the same.** -/
theorem readWords_tolerant (words : List Word) (p : Progress) :
    (ctx.readWords words p).KeptBy (ctx.tolerant.readWords words p) := by
  rw [readWords_eq, readWords_eq]
  exact (readOn_tolerant words p).andThen settle_tolerant

end Context

end ThresholdCheck.CommandLine
