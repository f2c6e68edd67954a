import ThresholdCheck.Proofs.CommandLine.Tolerance

/-!
# What is counted, and up to where

Occurrences are counted as they are met. Values are checked and taken in later, and that changes no
count, so a count tells what was met up to the end or to the fault that stopped the reading.

* `Progress.course`: the count, and whether options may follow; `Context.course_settle`: to take in
  what is pending leaves both as they were;
* `Context.freeOnly_readOn`: options follow until a word `--` is read as one;
* **`Definition.countedTolerantly_of_parse`**: on a command line that is accepted a tolerant reading
  counts what a strict one counts;
* `Definition.Undefined`: a long option that is not known; it stops a reading and is not counted
  (`Context.readWord_undefined`);
* **`Definition.countedTolerantly_undefined`**: so a tolerant reading counts what stands before it,
  and nothing behind it.
-/

namespace ThresholdCheck.CommandLine

/-! ## 1. The course of a reading -/

/-- The count, and whether only free arguments follow. -/
def Progress.course (p : Progress) : Nat × Bool := (p.count, p.freeOnly)

theorem Progress.course_noteGiven (name : String) (p : Progress) :
    (noteGiven name p).course = p.course := by
  unfold noteGiven
  split
  · rfl
  · rfl

/-- What neither of two steps changes, both leave as it was. -/
theorem Step.eq_of_andThen {α : Type} {of : Progress → α} {s : Step} {next : Progress → Step}
    {p : Progress} (h : of s.1 = of p) (hnext : ∀ q, of (next q).1 = of q) :
    of (s.andThen next).1 = of p := by
  obtain ⟨q, stopped⟩ := s
  cases stopped with
  | none => exact (hnext q).trans h
  | some r => exact h

namespace Context

variable {ctx : Context} {p : Progress}

theorem course_takeChosen (o : Opt) (choice : Choice) (value : Word) (p : Progress) :
    (ctx.takeChosen o choice value p).1.course = p.course := by
  unfold takeChosen
  cases value.text? with
  | none => rfl
  | some text =>
    dsimp only
    cases choice.convert text with
    | error reason => rfl
    | ok converted => rfl

theorem course_takeOption (o : Opt) (value? : Option Word) (p : Progress) :
    (ctx.takeOption o value? p).1.course = p.course := by
  have hnoted : (noteGiven o.name p).course = p.course := Progress.course_noteGiven o.name p
  unfold takeOption
  by_cases hmissing : ctx.manner = .strict ∧ value? = none
  · rw [if_pos hmissing]
  · rw [if_neg hmissing]
    cases o.behaviour with
    | counted => rfl
    | help => rfl
    | version => rfl
    | chosen choice =>
      dsimp only
      by_cases hgiven : o.name ∈ p.given
      · rw [if_pos hgiven]
        rfl
      · rw [if_neg hgiven]
        cases value? with
        | none => exact hnoted
        | some value => exact (course_takeChosen o choice value _).trans hnoted
    | collected =>
      cases value? with
      | none => exact hnoted
      | some value =>
        dsimp only
        cases value.text? with
        | none => exact hnoted
        | some text => exact hnoted

theorem course_takeFree (words : List Word) (p : Progress) :
    (ctx.takeFree words p).1.course = p.course := by
  induction words generalizing p with
  | nil => rfl
  | cons w ws ih =>
    unfold takeFree
    cases w.text? with
    | none => rfl
    | some text => exact ih { p with arguments := p.arguments ++ [text] }

/-- **To take in what is pending changes no count.** -/
theorem course_settle (p : Progress) : (ctx.settle p).1.course = p.course := by
  unfold settle
  cases p.pending with
  | nothing => rfl
  | awaiting o => exact course_takeOption o none { p with pending := .nothing }
  | holding o value => exact course_takeOption o (some value) { p with pending := .nothing }
  | free words => exact (course_takeFree words _).trans (Progress.course_noteGiven _ _)

theorem count_settle (p : Progress) : (ctx.settle p).1.count = p.count :=
  congrArg Prod.fst (course_settle p)

theorem course_takeFallbacks (os : List Opt) (p : Progress) :
    (ctx.takeFallbacks os p).1.course = p.course := by
  induction os generalizing p with
  | nil => rfl
  | cons o os ih =>
    unfold takeFallbacks
    split
    · split
      · exact ih p
      · exact Step.eq_of_andThen (course_takeChosen o _ _ p) ih
    · exact ih p

theorem course_demandRequired (p : Progress) : (ctx.demandRequired p).1.course = p.course := by
  unfold demandRequired
  dsimp only
  split
  · rfl
  · rfl

/-- **All that is counted is counted while words are read.** -/
theorem count_readAll (words : List Word) :
    (ctx.readAll words).1.count = (ctx.readWords words .start).1.count := by
  have hafter : ∀ q, (Step.andThen (ctx.takeFallbacks ctx.definition.options q)
      ctx.demandRequired).1.course = q.course := fun q =>
    Step.eq_of_andThen (course_takeFallbacks _ q) course_demandRequired
  exact congrArg Prod.fst (Step.eq_of_andThen (s := ctx.readWords words .start) rfl hafter)

/-! ## 2. Where options end -/

theorem freeOnly_settle (p : Progress) : (ctx.settle p).1.freeOnly = p.freeOnly :=
  congrArg Prod.snd (course_settle p)

theorem freeOnly_takeFlag (o : Opt) (p : Progress) :
    (ctx.takeFlag o p).1.freeOnly = p.freeOnly := by
  refine Step.eq_of_andThen (freeOnly_settle p) fun q => ?_
  cases o.behaviour <;> rfl

theorem freeOnly_takeAttached (o : Opt) (value : Word) (p : Progress) :
    (ctx.takeAttached o value p).1.freeOnly = p.freeOnly :=
  Step.eq_of_andThen (freeOnly_settle p) fun q =>
    congrArg Prod.snd (course_takeOption o (some value) q)

theorem freeOnly_await (o : Opt) (p : Progress) : (ctx.await o p).1.freeOnly = p.freeOnly :=
  Step.eq_of_andThen (freeOnly_settle p) fun _ => rfl

theorem freeOnly_readLong (name : Word) (value? : Option Word) (p : Progress) :
    (ctx.readLong name value? p).1.freeOnly = p.freeOnly := by
  unfold readLong
  cases name.text? with
  | none => exact freeOnly_settle p
  | some text =>
    dsimp only
    cases ctx.definition.long? ctx.manner text with
    | none => exact freeOnly_settle p
    | some o =>
      dsimp only
      by_cases htakes : o.takesValue = true
      · rw [if_pos htakes]
        cases value? with
        | none => exact freeOnly_await o p
        | some value => exact freeOnly_takeAttached o value p
      · rw [if_neg htakes]
        cases value? with
        | none => exact freeOnly_takeFlag o p
        | some value => exact freeOnly_settle p

theorem freeOnly_readShort (flags : Word) (p : Progress) :
    (ctx.readShort flags p).1.freeOnly = p.freeOnly := by
  induction flags generalizing p with
  | nil => rfl
  | cons c rest ih =>
    cases c with
    | none => exact freeOnly_settle p
    | some c =>
      unfold readShort
      cases ctx.definition.short? ctx.manner c with
      | none => exact freeOnly_settle p
      | some o =>
        dsimp only
        by_cases htakes : o.takesValue = true
        · rw [if_pos htakes]
          split
          · exact freeOnly_await o p
          · exact freeOnly_takeAttached o _ p
          · exact freeOnly_takeAttached o _ p
        · rw [if_neg htakes]
          exact Step.eq_of_andThen (freeOnly_takeFlag o p) ih

theorem freeOnly_readPlain (w : Word) (p : Progress) :
    (ctx.readPlain w p).1.freeOnly = p.freeOnly := by
  have hrow : (Step.andThen (ctx.settle p) fun p =>
      ({ p with pending := .free [w] }, none)).1.freeOnly = p.freeOnly :=
    Step.eq_of_andThen (freeOnly_settle p) fun _ => rfl
  unfold readPlain
  cases p.pending with
  | nothing => exact hrow
  | awaiting o =>
    dsimp only
    split
    · exact hrow
    · rfl
  | holding o value => exact hrow
  | free words => rfl

end Context

/-- Only the word `--` ends the options. -/
theorem Word.eq_of_shape_divider {w : Word} (h : w.shape = .divider) : w = ofString "--" := by
  unfold shape at h
  split at h
  · rfl
  · cases h
  · cases h
  · cases h
  · cases h

namespace Context

variable {ctx : Context} {p : Progress}

/-- **Options may follow any word but `--`.** -/
theorem freeOnly_readWord {w : Word} (h : w ≠ Word.ofString "--") (p : Progress) :
    (ctx.readWord w p).1.freeOnly = p.freeOnly := by
  unfold readWord
  split
  · exact freeOnly_readPlain w p
  · cases hshape : w.shape with
    | divider => exact absurd (Word.eq_of_shape_divider hshape) h
    | long name value? => exact freeOnly_readLong name value? p
    | short flags => exact freeOnly_readShort flags p
    | plain => exact freeOnly_readPlain w p

theorem freeOnly_readOn {words : List Word} (h : Word.ofString "--" ∉ words) (p : Progress) :
    (ctx.readOn words p).1.freeOnly = p.freeOnly := by
  induction words generalizing p with
  | nil => rfl
  | cons w ws ih =>
    rw [List.mem_cons, not_or] at h
    exact Step.eq_of_andThen (freeOnly_readWord (Ne.symm h.1) p) (ih h.2)

/-! ## 3. Options that are not known -/

/-- No option waits for a value after words that are read strictly to their end. -/
theorem takesAnything_of_settle (strict : ctx.manner = .strict) (h : (ctx.settle p).2 = none) :
    p.takesAnything = false := by
  unfold settle at h
  unfold Progress.takesAnything
  cases hpending : p.pending with
  | awaiting o =>
    rw [hpending] at h
    dsimp only at h
    unfold takeOption at h
    rw [if_pos ⟨strict, rfl⟩] at h
    cases h
  | nothing => rfl
  | holding o value => rfl
  | free words => rfl

end Context

/-- The word is a long option, with or without a value, by a name that is not known. -/
def Definition.Undefined (d : Definition) (w : Word) : Prop :=
  ∃ name value?, w.shape = .long name value? ∧
    ∀ text, name.text? = some text → d.long? .strict text = none

/-- What a strict reading does not know, no reading knows. -/
theorem Definition.long?_eq_none {d : Definition} {name : String}
    (h : d.long? .strict name = none) (manner : Manner) : d.long? manner name = none := by
  cases manner with
  | strict => exact h
  | tolerant =>
    unfold long? at h ⊢
    have happend : (d.options ++ [helpOption, versionOption]).find? (fun o => o.name == name) =
        none := h
    rw [List.find?_append, Option.or_eq_none_iff] at happend
    exact happend.1

theorem Definition.long?_eq_none_iff {d : Definition} {manner : Manner} {name : String} :
    d.long? manner name = none ↔ name ∉ (d.optionsFor manner).map Opt.name := by
  unfold long?
  simp only [List.find?_eq_none, List.mem_map, beq_iff_eq, not_exists, not_and]

/-- A word of two hyphens and a name has that name. -/
theorem Word.shape_long {name : String} (hne : name ≠ "") (h : '=' ∉ name.toList) :
    (ofString ("--" ++ name)).shape = .long (ofString name) none := by
  have hcut : cutAtEquals (ofString name) = (ofString name, none) := by
    unfold ofString
    generalize name.toList = cs at h
    induction cs with
    | nil => rfl
    | cons c cs ih =>
      rw [List.mem_cons, not_or] at h
      have hc : ¬c = '=' := Ne.symm h.1
      simp [cutAtEquals, hc, ih h.2]
  have hword : ofString ("--" ++ name) = some '-' :: some '-' :: ofString name := by
    unfold ofString
    rw [String.toList_append, List.map_append]
    rfl
  rw [hword]
  cases hname : ofString name with
  | nil =>
    refine absurd ?_ hne
    rw [← String.toList_eq_nil_iff]
    exact List.map_eq_nil_iff.1 hname
  | cons c rest =>
    show Shape.long (cutAtEquals (c :: rest)).1 (cutAtEquals (c :: rest)).2 = _
    rw [← hname, hcut]

/-- **A word of two hyphens and a name is not known exactly if no option has that name.** -/
theorem Definition.undefined_iff {d : Definition} (name : String) (hne : name ≠ "")
    (h : '=' ∉ name.toList) :
    d.Undefined (Word.ofString ("--" ++ name)) ↔ name ∉ (d.optionsFor .strict).map Opt.name := by
  unfold Undefined
  rw [Word.shape_long hne h, ← long?_eq_none_iff]
  constructor
  · intro hundefined
    obtain ⟨name', value?, hshape, hnone⟩ := hundefined
    cases hshape
    exact hnone name (Word.text?_ofString name)
  · intro hnone
    refine ⟨_, _, rfl, fun text htext => ?_⟩
    rw [Word.text?_ofString] at htext
    cases htext
    exact hnone

namespace Context

variable {ctx : Context} {p : Progress} {flag : Word}

/-- **Where an option may stand, one that is not known stops the reading, and nothing is counted.** -/
theorem readWord_undefined (undefined : ctx.definition.Undefined flag) (hfree : p.freeOnly = false)
    (hany : p.takesAnything = false) :
    ∃ q r, ctx.readWord flag p = (q, some r) ∧ q.count = p.count := by
  obtain ⟨name, value?, hshape, hunknown⟩ := undefined
  unfold readWord
  rw [hfree, hany, Bool.or_false, if_neg Bool.false_ne_true, hshape]
  dsimp only
  unfold readLong
  cases htext : name.text? with
  | none => exact ⟨_, _, rfl, count_settle p⟩
  | some text =>
    dsimp only
    rw [Definition.long?_eq_none (hunknown text htext) ctx.manner]
    exact ⟨_, _, rfl, count_settle p⟩

/-- So what stands behind it is not read. -/
theorem count_readWords_undefined {words : List Word} {q : Progress}
    (undefined : ctx.definition.Undefined flag) (hread : ctx.readOn words p = (q, none))
    (hfree : q.freeOnly = false) (hany : q.takesAnything = false) (rest : List Word) :
    (ctx.readWords (words ++ flag :: rest) p).1.count = q.count := by
  obtain ⟨last, r, hflag, hcount⟩ := readWord_undefined undefined hfree hany
  rw [readWords_append, hread, Step.andThen_none, readWords, hflag, Step.andThen_some]
  exact hcount

end Context

/-! ## 4. Command lines -/

namespace Definition

variable {d : Definition} {words : List Word} {given : Given}

/-- The words of an accepted command line are read to their end. -/
theorem exists_readWords_of_parse (h : d.parse words = .ok given) :
    ∃ p, Context.readWords ⟨d, .strict, calledBy d words⟩ words.tail .start = (p, none) ∧
      p.count = given.count := by
  let ctx : Context := ⟨d, .strict, calledBy d words⟩
  have hcount := ctx.count_readAll words.tail
  unfold parse at h
  cases hall : ctx.readAll words.tail with
  | mk last stopped =>
    rw [hall] at h hcount
    cases stopped with
    | some r => cases h
    | none =>
      cases h
      cases hread : ctx.readWords words.tail .start with
      | mk p stopped =>
        rw [hread] at hcount
        cases stopped with
        | none => exact ⟨p, rfl, hcount.symm⟩
        | some r =>
          unfold Context.readAll at hall
          rw [hread] at hall
          cases hall

/-- **Where a command line is accepted, a tolerant reading counts what a strict one counts.** -/
theorem countedTolerantly_of_parse (h : d.parse words = .ok given) :
    d.countedTolerantly words = given.count := by
  obtain ⟨p, hread, hcount⟩ := exists_readWords_of_parse h
  have htolerant := Context.readWords_tolerant words.tail .start (congrArg Prod.snd hread)
  rw [hread] at htolerant
  unfold countedTolerantly
  rw [Context.count_readAll, ← hcount]
  exact congrArg (fun s : Step => s.1.count) htolerant

variable {program flag : Word}

/-- Behind the words of an accepted command line no option waits for a value, and nothing that is
    counted is pending. -/
theorem exists_readOn_of_parse (h : d.parse (program :: words) = .ok given) :
    ∃ p, Context.readOn ⟨d, .strict, calledBy d (program :: words)⟩ words .start = (p, none) ∧
      p.takesAnything = false ∧ p.count = given.count := by
  let ctx : Context := ⟨d, .strict, calledBy d (program :: words)⟩
  obtain ⟨last, hread, hcount⟩ := exists_readWords_of_parse h
  have hall : Step.andThen (ctx.readOn words .start) ctx.settle = (last, none) := by
    rw [← Context.readWords_eq]
    exact hread
  cases hon : ctx.readOn words .start with
  | mk p stopped =>
    rw [hon] at hall
    cases stopped with
    | some r => cases hall
    | none =>
      rw [Step.andThen_none] at hall
      have hsettled := ctx.count_settle p
      rw [hall] at hsettled
      -- a strict reading stops where a value is missing, and this one was not stopped
      have hany := ctx.takesAnything_of_settle rfl (congrArg Prod.snd hall)
      exact ⟨p, rfl, hany, hsettled.symm.trans hcount⟩

/-- **Up to an option that is not known a tolerant reading counts what a strict one counts, and
    behind it nothing.** -/
theorem countedTolerantly_undefined (h : d.parse (program :: words) = .ok given)
    (options : Word.ofString "--" ∉ words) (undefined : d.Undefined flag) (rest : List Word) :
    d.countedTolerantly (program :: (words ++ flag :: rest)) = given.count := by
  let ctx : Context := ⟨d, .strict, calledBy d (program :: words)⟩
  obtain ⟨p, hon, hany, hcount⟩ := exists_readOn_of_parse h
  have hfree : p.freeOnly = false := by
    have hkept := ctx.freeOnly_readOn options .start
    rw [hon] at hkept
    exact hkept
  have htolerant : ctx.tolerant.readOn words .start = (p, none) :=
    (Context.readOn_tolerant words .start (congrArg Prod.snd hon)).trans hon
  -- the name that the command was called by is that of the first word, in either reading
  unfold countedTolerantly
  rw [Context.count_readAll, ← hcount]
  exact ctx.tolerant.count_readWords_undefined undefined htolerant hfree hany rest

/-- So it counts nothing if such an option comes first. -/
theorem countedTolerantly_undefined_first (undefined : d.Undefined flag) (rest : List Word) :
    d.countedTolerantly (program :: flag :: rest) = 0 := by
  let ctx : Context := ⟨d, .tolerant, calledBy d (program :: flag :: rest)⟩
  have hread : ctx.readOn [] .start = (.start, none) := rfl
  unfold countedTolerantly
  rw [Context.count_readAll]
  exact ctx.count_readWords_undefined undefined hread rfl rfl rest

end Definition

end ThresholdCheck.CommandLine
