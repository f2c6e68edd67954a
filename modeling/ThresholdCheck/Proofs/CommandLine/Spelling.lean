import ThresholdCheck.CommandLine.Parsing

/-!
# A command line may give any values and any free arguments

Each value is put into one word with the name of its option, and the free arguments follow the word
`--` (`spelled`). Then no value and no argument is taken for an option, however it begins.

* `Word.shape_attached`: a word with a value in it comes apart into name and value;
* `Context.readWord_collected`, `Context.readWord_chosen`: such a word is taken in at once
  (`Progress.Takes`);
* `Context.readWords_collected`, `Context.readWords_free`: so is a row of them, and what follows
  `--` is taken in as it stands;
* **`Definition.parse_spelled`**: so what was spelled is what was given.
-/

namespace ThresholdCheck.CommandLine

/-! ## 1. Words -/

/-- The word of an option with its value. -/
def attached (name value : String) : Word := Word.ofString ("--" ++ name ++ "=" ++ value)

/-- The command line that gives values to options, and free arguments. -/
def spelled (program : String) (values : List (String × String)) (arguments : List String) :
    List Word :=
  Word.ofString program :: (values.map (fun v => attached v.1 v.2) ++
    Word.ofString "--" :: arguments.map Word.ofString)

namespace Word

/-- A word is cut at its first `=`. -/
theorem cutAtEquals_append {name : List Char} (h : '=' ∉ name) (w : Word) :
    cutAtEquals (name.map some ++ some '=' :: w) = (name.map some, some w) := by
  induction name with
  | nil => rfl
  | cons c name ih =>
    rw [List.mem_cons, not_or] at h
    have hc : ¬c = '=' := Ne.symm h.1
    simp [cutAtEquals, hc, ih h.2]

theorem attached_eq (name value : String) :
    attached name value =
      some '-' :: some '-' :: (name.toList.map some ++ some '=' :: value.toList.map some) := by
  unfold attached ofString
  rw [String.toList_append, String.toList_append, String.toList_append, List.map_append,
    List.map_append, List.map_append, List.append_assoc, List.append_assoc]
  rfl

/-- A word with a value in it comes apart into name and value. -/
theorem shape_attached {name : String} (h : '=' ∉ name.toList) (value : String) :
    (attached name value).shape = .long (ofString name) (some (ofString value)) := by
  have hcut := cutAtEquals_append h (value.toList.map some)
  rw [attached_eq]
  generalize hrest : name.toList.map some ++ some '=' :: value.toList.map some = rest at hcut
  -- something follows the two hyphens, so the word is not the one that ends the options
  cases rest with
  | nil => simp at hrest
  | cons c rest =>
    show Shape.long (cutAtEquals (c :: rest)).1 (cutAtEquals (c :: rest)).2 = _
    rw [hcut]
    rfl

end Word

/-! ## 2. Values -/

/-- The option is the one of its long name. -/
structure Definition.Knows (d : Definition) (manner : Manner) (o : Opt) : Prop where
  name : '=' ∉ o.name.toList
  long : d.long? manner o.name = some o

namespace Progress

/-- Nothing is pending, and options may follow. -/
structure AtRest (p : Progress) : Prop where
  pending : p.pending = .nothing
  options : p.freeOnly = false

/-- What values that were taken in add to what was read. -/
structure Takes (values : List (String × String)) (p p' : Progress) : Prop where
  rest : p'.AtRest
  count : p'.count = p.count
  values : p'.values = p.values ++ values
  arguments : p'.arguments = p.arguments

theorem Takes.trans {p p' p'' : Progress} {values more : List (String × String)}
    (h : p.Takes values p') (h' : p'.Takes more p'') : p.Takes (values ++ more) p'' where
  rest := h'.rest
  count := h'.count.trans h.count
  values := by rw [h'.values, h.values, List.append_assoc]
  arguments := h'.arguments.trans h.arguments

/-- A value is put last, and its option is among those given. -/
theorem AtRest.takes {p : Progress} (h : p.AtRest) (name value : String) :
    p.Takes [(name, value)] { noteGiven name p with values := p.values ++ [(name, value)] } := by
  unfold noteGiven
  split
  · exact ⟨⟨h.pending, h.options⟩, rfl, rfl, rfl⟩
  · exact ⟨⟨h.pending, h.options⟩, rfl, rfl, rfl⟩

end Progress

theorem values_noteGiven (name : String) (p : Progress) : (noteGiven name p).values = p.values := by
  unfold noteGiven
  split <;> rfl

namespace Context

variable {ctx : Context} {o : Opt} {p : Progress}

/-- An option with its value in the same word is taken in at once. -/
theorem readWord_attached (known : ctx.definition.Knows ctx.manner o) (takes : o.takesValue = true)
    (rest : p.AtRest) (value : String) :
    ctx.readWord (attached o.name value) p = ctx.takeOption o (some (Word.ofString value)) p := by
  have hfree : (p.freeOnly || p.takesAnything) = false := by
    unfold Progress.takesAnything
    rw [rest.options, rest.pending]
    rfl
  have hsettle : ctx.settle p = (p, none) := by
    unfold settle
    rw [rest.pending]
  unfold readWord
  rw [hfree, if_neg Bool.false_ne_true, Word.shape_attached known.name]
  dsimp only
  unfold readLong
  rw [Word.text?_ofString]
  dsimp only
  rw [known.long]
  dsimp only
  rw [if_pos takes]
  unfold takeAttached
  rw [hsettle, Step.andThen_none]

/-- A collected value is taken in as it stands. -/
theorem readWord_collected (known : ctx.definition.Knows ctx.manner o)
    (collected : o.behaviour = .collected) (rest : p.AtRest) (value : String) :
    ∃ p', ctx.readWord (attached o.name value) p = (p', none) ∧ p.Takes [(o.name, value)] p' := by
  have takes : o.takesValue = true := by
    unfold Opt.takesValue
    rw [collected]
  refine ⟨_, ?_, rest.takes o.name value⟩
  rw [readWord_attached known takes rest]
  unfold takeOption
  rw [if_neg (by simp), collected]
  dsimp only
  rw [Word.text?_ofString, values_noteGiven]

/-- A chosen value is taken in if its conversion leaves it and the option was not given before. -/
theorem readWord_chosen (known : ctx.definition.Knows ctx.manner o) {choice : Choice}
    (chosen : o.behaviour = .chosen choice) (fresh : o.name ∉ p.given) (rest : p.AtRest)
    {value : String} (converts : choice.convert value = .ok value) :
    ∃ p', ctx.readWord (attached o.name value) p = (p', none) ∧ p.Takes [(o.name, value)] p' := by
  have takes : o.takesValue = true := by
    unfold Opt.takesValue
    rw [chosen]
  refine ⟨_, ?_, rest.takes o.name value⟩
  rw [readWord_attached known takes rest]
  unfold takeOption
  rw [if_neg (by simp), chosen]
  dsimp only
  rw [if_neg fresh]
  unfold takeChosen
  rw [Word.text?_ofString]
  dsimp only
  rw [converts, values_noteGiven]

/-- **Collected values are taken in one after the other.** -/
theorem readWords_collected {values : List (String × String)}
    (collected : ∀ v ∈ values, ∃ o, ctx.definition.Knows ctx.manner o ∧ o.behaviour = .collected ∧
      o.name = v.1) (rest : p.AtRest) (words : List Word) :
    ∃ p', ctx.readWords (values.map (fun v => attached v.1 v.2) ++ words) p =
        ctx.readWords words p' ∧ p.Takes values p' := by
  induction values generalizing p with
  | nil => exact ⟨p, rfl, rest, rfl, (List.append_nil _).symm, rfl⟩
  | cons v values ih =>
    obtain ⟨o, known, hcollected, hname⟩ := collected v List.mem_cons_self
    obtain ⟨next, hread, hnext⟩ := readWord_collected known hcollected rest v.2
    obtain ⟨p', hreads, hrest⟩ :=
      ih (fun w hw => collected w (List.mem_cons_of_mem _ hw)) hnext.rest
    rw [hname] at hread hnext
    refine ⟨p', ?_, hnext.trans hrest⟩
    rw [List.map_cons, List.cons_append, readWords, hread, Step.andThen_none]
    exact hreads

/-- At the start, a chosen value is taken in. -/
theorem readWords_chosen {chosen : Option (String × String)}
    (chooses : ∀ v, chosen = some v → ∃ o choice, ctx.definition.Knows ctx.manner o ∧
      o.behaviour = .chosen choice ∧ o.name = v.1 ∧ choice.convert v.2 = .ok v.2)
    (words : List Word) :
    ∃ p', ctx.readWords (chosen.toList.map (fun v => attached v.1 v.2) ++ words) .start =
        ctx.readWords words p' ∧ Progress.start.Takes chosen.toList p' := by
  have rest : Progress.start.AtRest := ⟨rfl, rfl⟩
  cases chosen with
  | none => exact ⟨.start, rfl, rest, rfl, rfl, rfl⟩
  | some v =>
    obtain ⟨o, choice, known, hchosen, hname, converts⟩ := chooses v rfl
    obtain ⟨p', hread, htakes⟩ :=
      readWord_chosen known hchosen List.not_mem_nil rest converts
    rw [hname] at hread htakes
    refine ⟨p', ?_, htakes⟩
    show ctx.readWords (attached v.1 v.2 :: words) .start = _
    rw [readWords, hread, Step.andThen_none]

/-! ## 3. Free arguments -/

theorem takeFree_texts (texts : List String) (p : Progress) :
    ctx.takeFree (texts.map Word.ofString) p =
      ({ p with arguments := p.arguments ++ texts }, none) := by
  induction texts generalizing p with
  | nil =>
    rw [List.append_nil]
    rfl
  | cons text texts ih =>
    rw [List.map_cons]
    unfold takeFree
    rw [Word.text?_ofString]
    dsimp only
    rw [ih]
    dsimp only
    rw [List.append_assoc, List.singleton_append]

/-- Words among free arguments wait with those before them. -/
theorem readWords_waiting {waiting : List Word} (hfree : p.freeOnly = true)
    (hpending : p.pending = .free waiting) (words : List Word) :
    ctx.readWords words p = ctx.settle { p with pending := .free (waiting ++ words) } := by
  induction words generalizing p waiting with
  | nil =>
    rw [List.append_nil, ← hpending]
    rfl
  | cons w words ih =>
    have hread : ctx.readWord w p = ({ p with pending := .free (waiting ++ [w]) }, none) := by
      unfold readWord readPlain
      rw [hfree, Bool.true_or, if_pos rfl, hpending]
    have hrest := @ih { p with pending := .free (waiting ++ [w]) } (waiting ++ [w]) hfree rfl
    rw [readWords, hread, Step.andThen_none, hrest, List.append_assoc, List.singleton_append]

/-- **What follows the word `--` is taken in as it stands.** -/
theorem readWords_free (rest : p.AtRest) (texts : List String) :
    ∃ p', ctx.readWords (Word.ofString "--" :: texts.map Word.ofString) p = (p', none) ∧
      p'.count = p.count ∧ p'.values = p.values ∧ p'.arguments = p.arguments ++ texts := by
  have hdivider : ctx.readWord (Word.ofString "--") p = ({ p with freeOnly := true }, none) := by
    unfold readWord Progress.takesAnything
    rw [rest.options, rest.pending]
    rfl
  rw [readWords, hdivider, Step.andThen_none]
  cases texts with
  | nil =>
    refine ⟨{ p with freeOnly := true }, ?_, rfl, rfl, (List.append_nil _).symm⟩
    show ctx.settle { p with freeOnly := true } = _
    unfold settle
    rw [rest.pending]
  | cons text texts =>
    have hfirst : ctx.readWord (Word.ofString text) { p with freeOnly := true } =
        ({ p with freeOnly := true, pending := .free [Word.ofString text] }, none) := by
      unfold readWord readPlain settle
      rw [rest.pending]
      rfl
    rw [List.map_cons, readWords, hfirst, Step.andThen_none, readWords_waiting rfl rfl]
    show ∃ p', ctx.takeFree ((text :: texts).map Word.ofString) (noteGiven _ _) = (p', none) ∧ _
    rw [takeFree_texts]
    unfold noteGiven
    split
    · exact ⟨_, rfl, rfl, rfl, rfl⟩
    · exact ⟨_, rfl, rfl, rfl, rfl⟩

/-! ## 4. Command lines -/

theorem takeFallbacks_of_none {os : List Opt} (h : ∀ o ∈ os, o.fallback? = none) (p : Progress) :
    ctx.takeFallbacks os p = (p, none) := by
  induction os with
  | nil => rfl
  | cons o os ih =>
    have hrest := ih fun o ho => h o (List.mem_cons_of_mem _ ho)
    unfold takeFallbacks
    rw [h o List.mem_cons_self]
    cases o.behaviour <;> exact hrest

theorem demandRequired_of_optional (h : ∀ o ∈ ctx.definition.options, o.isRequired = false)
    (p : Progress) : ctx.demandRequired p = (p, none) := by
  have hnone : (ctx.definition.options.filter fun o => o.isRequired && o.name ∉ p.given) = [] := by
    rw [List.filter_eq_nil_iff]
    intro o ho
    rw [h o ho, Bool.false_and]
    exact Bool.false_ne_true
  unfold demandRequired
  rw [hnone]
  rfl

end Context

/-- **What was spelled is what was given:** the value of an option that chooses one, the values of
    those that collect them, and the free arguments. -/
theorem Definition.parse_spelled {d : Definition} (program : String)
    {chosen : Option (String × String)} {collected : List (String × String)}
    (chooses : ∀ v, chosen = some v → ∃ o choice, d.Knows .strict o ∧
      o.behaviour = .chosen choice ∧ o.name = v.1 ∧ choice.convert v.2 = .ok v.2)
    (collects : ∀ v ∈ collected, ∃ o, d.Knows .strict o ∧ o.behaviour = .collected ∧ o.name = v.1)
    (optional : ∀ o ∈ d.options, o.fallback? = none ∧ o.isRequired = false)
    (arguments : List String) :
    d.parse (spelled program (chosen.toList ++ collected) arguments) =
      .ok ⟨0, chosen.toList ++ collected, arguments⟩ := by
  let words := spelled program (chosen.toList ++ collected) arguments
  let ctx : Context := ⟨d, .strict, calledBy d words⟩
  let free := Word.ofString "--" :: arguments.map Word.ofString
  have hwords : words.tail = chosen.toList.map (fun v => attached v.1 v.2) ++
      (collected.map (fun v => attached v.1 v.2) ++ free) := by
    show (chosen.toList ++ collected).map _ ++ free = _
    rw [List.map_append, List.append_assoc]
  obtain ⟨p, hchosen, htaken⟩ := ctx.readWords_chosen chooses (collected.map _ ++ free)
  obtain ⟨q, hcollected, hmore⟩ := ctx.readWords_collected collects htaken.rest free
  obtain ⟨r, hfree, hcount, hvalues, harguments⟩ := ctx.readWords_free hmore.rest arguments
  have hread : ctx.readAll words.tail = (r, none) := by
    unfold Context.readAll
    rw [hwords, hchosen, hcollected, hfree, Step.andThen_none,
      Context.takeFallbacks_of_none fun o ho => (optional o ho).1, Step.andThen_none,
      Context.demandRequired_of_optional fun o ho => (optional o ho).2]
  have hparse : d.parse words = .ok ⟨r.count, r.values, r.arguments⟩ := by
    unfold parse
    rw [hread]
  have htotal := htaken.trans hmore
  rw [hcount, hvalues, harguments, htotal.count, htotal.values, htotal.arguments] at hparse
  exact hparse

end ThresholdCheck.CommandLine
