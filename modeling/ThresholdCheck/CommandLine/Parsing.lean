import ThresholdCheck.CommandLine.Help
import ThresholdCheck.CommandLine.Rejection
import ThresholdCheck.CommandLine.Similarity
import ThresholdCheck.CommandLine.Word

/-!
# Reading a command line

The words after the program's name are read from left to right.

* `--name` and `-n` are options; short ones may be joined, and a value may follow in the same word
  (`--name=value`, `-nvalue`, `-n=value`) or be the next word. Only an option whose values are
  collected takes a next word that begins with a hyphen.
* After a word `--`, and wherever no option waits for a value, a word that is no option is a free
  argument; so is `-` alone.
* What is *pending* (an option whose value may follow, or a row of free arguments) is taken in when
  the next option begins or the words end, and only then is it checked.

`Progress` is what has been read so far. A reading stops at the first fault and tells how far it
came (`readWords`); `Definition.parse` answers with what was given, or with the rejection, and
`Definition.countedTolerantly` with the count reached, whatever stopped the reading.
-/

namespace ThresholdCheck.CommandLine

/-! ## 1. What has been read -/

/-- What waits to be taken in. -/
inductive Pending where
  /-- nothing -/
  | nothing
  /-- an option whose value may be the next word -/
  | awaiting (option : Opt)
  /-- an option with its value -/
  | holding (option : Opt) (value : Word)
  /-- a row of free arguments -/
  | free (words : List Word)

/-- What has been read so far: the names of what was given, in the order in which messages show
    them, the count of counted occurrences, the values in the order of occurrence, the free
    arguments, what is pending, and whether only free arguments follow. -/
structure Progress where
  given : List String
  count : Nat
  values : List (String × String)
  arguments : List String
  pending : Pending
  freeOnly : Bool

/-- Whether the next word is a value however it begins. -/
def Progress.takesAnything (p : Progress) : Bool :=
  match p.pending with
  | .awaiting o => o.takesHyphens
  | _ => false

/-- Before the first word. -/
def Progress.start : Progress := ⟨[], 0, [], [], .nothing, false⟩

/-- A step of reading: how far it came, and the rejection that stopped it. -/
abbrev Step := Progress × Option Rejection

/-- Goes on with a step that was not stopped. -/
def Step.andThen (s : Step) (next : Progress → Step) : Step :=
  match s with
  | (p, none) => next p
  | (p, some r) => (p, some r)

@[simp] theorem Step.andThen_none (p : Progress) (next : Progress → Step) :
    Step.andThen (p, none) next = next p := rfl

@[simp] theorem Step.andThen_some (p : Progress) (r : Rejection) (next : Progress → Step) :
    Step.andThen (p, some r) next = (p, some r) := rfl

/-- A name is put last among those given, unless it is there. -/
def noteGiven (name : String) (p : Progress) : Progress :=
  if name ∈ p.given then p else { p with given := p.given ++ [name] }

/-- The largest count of occurrences that is told apart. -/
def countLimit : Nat := 255

/-- What is read of: the command, the manner of reading, and the name the command was called by. -/
structure Context where
  definition : Definition
  manner : Manner
  program : String

namespace Context

/-- The usage line with the named options in view. -/
def usage (ctx : Context) (inView : List String) : Option String :=
  some (usageLine ctx.definition ctx.program inView)

/-! ## 2. Taking in values -/

/-- Takes in the value of an option that chooses one. -/
def takeChosen (ctx : Context) (o : Opt) (choice : Choice) (value : Word) (p : Progress) : Step :=
  match value.text? with
  | none => (p, some ⟨.undecodable, ctx.usage []⟩)
  | some text =>
    match choice.convert text with
    | .error reason => (p, some ⟨.refusedValue text o.display reason, none⟩)
    | .ok converted => ({ p with values := p.values ++ [(o.name, converted)] }, none)

/-- Takes in an occurrence of an option with or without a value. A missing value is a fault in a
    strict reading only. -/
def takeOption (ctx : Context) (o : Opt) (value? : Option Word) (p : Progress) : Step :=
  if ctx.manner = .strict ∧ value? = none then (p, some ⟨.missingValue o.display, none⟩)
  else
    match o.behaviour with
    | .chosen choice =>
      if o.name ∈ p.given then
        ({ p with given := p.given.filter (· != o.name) },
          some ⟨.repeated o.display, ctx.usage []⟩)
      else
        match value? with
        | none => (noteGiven o.name p, none)
        | some value => ctx.takeChosen o choice value (noteGiven o.name p)
    | .collected =>
      match value? with
      | none => (noteGiven o.name p, none)
      | some value =>
        match value.text? with
        | none => (noteGiven o.name p, some ⟨.undecodable, ctx.usage []⟩)
        | some text =>
          let p := noteGiven o.name p
          ({ p with values := p.values ++ [(o.name, text)] }, none)
    | .counted | .help | .version => (p, none)

/-- Takes in a row of free arguments. -/
def takeFree (ctx : Context) : List Word → Progress → Step
  | [], p => (p, none)
  | w :: ws, p =>
    match w.text? with
    | none => (p, some ⟨.undecodable, ctx.usage []⟩)
    | some text => ctx.takeFree ws { p with arguments := p.arguments ++ [text] }

/-- Takes in what is pending. -/
def settle (ctx : Context) (p : Progress) : Step :=
  let rest := { p with pending := .nothing }
  match p.pending with
  | .nothing => (p, none)
  | .awaiting o => ctx.takeOption o none rest
  | .holding o value => ctx.takeOption o (some value) rest
  | .free words => ctx.takeFree words (noteGiven Definition.argumentsId rest)

/-- One more counted occurrence; its name moves to the end of those given. -/
def countOne (o : Opt) (p : Progress) : Progress :=
  { p with
    given := p.given.filter (· != o.name) ++ [o.name]
    count := min (p.count + 1) countLimit }

/-- An occurrence of an option without a value of its own. -/
def takeFlag (ctx : Context) (o : Opt) (p : Progress) : Step :=
  Step.andThen (ctx.settle p) fun p =>
    match o.behaviour with
    | .help => (p, some ⟨.help (helpPage ctx.definition ctx.program), none⟩)
    | .version =>
      (p, some ⟨.version (ctx.definition.name ++ " " ++ ctx.definition.version ++ "\n"), none⟩)
    | .counted | .collected | .chosen _ => (countOne o p, none)

/-- An occurrence of an option with the value that stands in its word. -/
def takeAttached (ctx : Context) (o : Opt) (value : Word) (p : Progress) : Step :=
  Step.andThen (ctx.settle p) (ctx.takeOption o (some value))

/-- An occurrence of an option whose value is the next word. -/
def await (ctx : Context) (o : Opt) (p : Progress) : Step :=
  Step.andThen (ctx.settle p) fun p => ({ p with pending := .awaiting o }, none)

/-! ## 3. Options in words -/

/-- The fault of an unknown long option. What was pending is shown in the usage line if it can be
    taken in. -/
def unknownLong (ctx : Context) (name : String) (p : Progress) : Step :=
  let settled := (ctx.settle p).1
  let known := (ctx.definition.optionsFor ctx.manner).map Opt.name
  let similar := mostSimilar? name known
  let inView := match similar with
    | some s => (noteGiven s settled).given
    | none => settled.given
  (settled, some ⟨.unknown ("--" ++ name) (similar.map ("--" ++ ·)), ctx.usage inView⟩)

/-- The fault of an unknown short option. -/
def unknownShort (ctx : Context) (flags : Word) (p : Progress) : Step :=
  ((ctx.settle p).1, some ⟨.unknown ("-" ++ flags.lossy) none, ctx.usage []⟩)

/-- A long option, with the value after its first `=`. -/
def readLong (ctx : Context) (name : Word) (value? : Option Word) (p : Progress) : Step :=
  match name.text? with
  | none => ctx.unknownLong name.lossy p
  | some text =>
    match ctx.definition.long? ctx.manner text with
    | none => ctx.unknownLong text p
    | some o =>
      if o.takesValue then
        match value? with
        | some value => ctx.takeAttached o value p
        | none => ctx.await o p
      else
        match value? with
        | some value =>
          ((ctx.settle p).1,
            some ⟨.surplusValue value.lossy o.display, ctx.usage (p.given ++ [o.name])⟩)
        | none => ctx.takeFlag o p

/-- A row of short options. The first that takes a value takes the rest of the word, without a `=`
    at its head. -/
def readShort (ctx : Context) : Word → Progress → Step
  | [], p => (p, none)
  | none :: rest, p => ctx.unknownShort (none :: rest) p
  | some c :: rest, p =>
    match ctx.definition.short? ctx.manner c with
    | none => ctx.unknownShort [some c] p
    | some o =>
      if o.takesValue then
        match rest with
        | [] => ctx.await o p
        | some '=' :: value => ctx.takeAttached o value p
        | value => ctx.takeAttached o value p
      else Step.andThen (ctx.takeFlag o p) (ctx.readShort rest)

/-- A word that is no option: the value that is waited for, or a free argument. -/
def readPlain (ctx : Context) (w : Word) (p : Progress) : Step :=
  match p.pending with
  | .awaiting o =>
    if p.freeOnly then
      Step.andThen (ctx.settle p) fun p => ({ p with pending := .free [w] }, none)
    else ({ p with pending := .holding o w }, none)
  | .free words => ({ p with pending := .free (words ++ [w]) }, none)
  | _ => Step.andThen (ctx.settle p) fun p => ({ p with pending := .free [w] }, none)

/-! ## 4. Words -/

/-- Reads one word. -/
def readWord (ctx : Context) (w : Word) (p : Progress) : Step :=
  if p.freeOnly || p.takesAnything then ctx.readPlain w p
  else
    match w.shape with
    | .divider => ({ p with freeOnly := true }, none)
    | .long name value? => ctx.readLong name value? p
    | .short flags => ctx.readShort flags p
    | .plain => ctx.readPlain w p

/-- Reads words up to their end or to a fault. -/
def readWords (ctx : Context) : List Word → Progress → Step
  | [], p => ctx.settle p
  | w :: ws, p => Step.andThen (ctx.readWord w p) (ctx.readWords ws)

/-! ## 5. After the last word -/

/-- Lets the values stand in that do for options not given. -/
def takeFallbacks (ctx : Context) : List Opt → Progress → Step
  | [], p => (p, none)
  | o :: os, p =>
    match o.behaviour, o.fallback? with
    | .chosen choice, some value =>
      if o.name ∈ p.given then ctx.takeFallbacks os p
      else Step.andThen (ctx.takeChosen o choice (Word.ofString value) p) (ctx.takeFallbacks os)
    | _, _ => ctx.takeFallbacks os p

/-- Demands the required options. -/
def demandRequired (ctx : Context) (p : Progress) : Step :=
  let missing := ctx.definition.options.filter fun o => o.isRequired && o.name ∉ p.given
  if missing.isEmpty then (p, none)
  else
    (p, some ⟨.missingOptions (missing.map fun o => Text.printable o.styled),
      ctx.usage (p.given ++ missing.map Opt.name)⟩)

/-- Reads all words and makes up for what is not given. -/
def readAll (ctx : Context) (words : List Word) : Step :=
  Step.andThen (ctx.readWords words Progress.start) fun p =>
    Step.andThen (ctx.takeFallbacks ctx.definition.options p) ctx.demandRequired

end Context

/-! ## 6. Answers -/

/-- What an accepted command line gave. -/
structure Given where
  count : Nat
  values : List (String × String)
  arguments : List String
deriving DecidableEq

/-- All values of an option, in the order of occurrence. -/
def Given.valuesOf (g : Given) (name : String) : List String :=
  (g.values.filter fun v => v.1 == name).map Prod.snd

/-- The parts of a path between its slashes that name something. -/
def pathParts (path : Word) : List Word :=
  (path.splitOn (some '/')).filter fun part => part != [] && part != [some '.']

/-- The name a command was called by: the last part of its path if that is a name. -/
def calledBy (d : Definition) (words : List Word) : String :=
  match (pathParts (words.headD [])).getLast? with
  | none => d.name
  | some part => if part = [some '.', some '.'] then d.name else part.text?.getD d.name

/-- Reads a command line, of which the first word names the program. -/
def Definition.parse (d : Definition) (words : List Word) : Except Rejection Given :=
  match Context.readAll ⟨d, .strict, calledBy d words⟩ words.tail with
  | (_, some rejection) => .error rejection
  | (p, none) => .ok ⟨p.count, p.values, p.arguments⟩

/-- The counted occurrences that a tolerant reading meets before it ends or has to stop. -/
def Definition.countedTolerantly (d : Definition) (words : List Word) : Nat :=
  (Context.readAll ⟨d, .tolerant, calledBy d words⟩ words.tail).1.count

end ThresholdCheck.CommandLine
