import ThresholdCheck.Proofs.Argument.Grammar
import ThresholdCheck.Proofs.Config.Consistency

/-!
# What is declared of the name of an argument

Under a configuration, an argument is read into a plain measurement, which then takes over what is
declared of its name, and at last the unit that was given (`Argument.measured`). The steps come to
the measurement of the argument that was read.

* **`measured_eq`**: the steps first read the argument, and then the declaration completes it. So
  the configuration decides neither whether an argument is read nor with which fault it is refused
  (`measured_agree`);
* `Completed` says field by field what is taken from where, and **`measured_eq_ok_iff`** that this
  and the written form of the argument are all there is to a measurement;
* **`takesEffect_iff`**: a declaration takes effect exactly if its name is one that arguments have.
-/

namespace ThresholdCheck

/-! ## 1. Step by step -/

namespace Measurement

/-- With a least value. -/
def withMin (m : Measurement) (min : Binary64) : Measurement := { m with min := some min }

/-- With a largest value. -/
def withMax (m : Measurement) (max : Binary64) : Measurement := { m with max := some max }

/-- With a unit, in place of the one that it may have. -/
def withScale (m : Measurement) (scale : String) : Measurement := { m with scale := some scale }

/-- With the slot of the range that it is tested against. -/
def withSlot (m : Measurement) (slot : Nat) : Measurement := { m with slot }

/-- With what is declared, one after the other. A unit that was given keeps the declared one out. -/
def declared (m : Measurement) (d : Declaration) (unit : String) : Measurement :=
  let m := d.min.elim m m.withMin
  let m := d.max.elim m m.withMax
  let m := if unit = "" then d.scale.elim m fun scale => m.withScale scale.token else m
  m.withSlot d.slot

theorem declared_plain (name : String) (x : Binary64) (d : Declaration) (unit : String) :
    (plain name x).declared d unit =
      ⟨name, x, d.min, d.max, if unit = "" then d.scale.map Scale.token else none, d.slot⟩ := by
  obtain ⟨_, scale, min, max, slot⟩ := d
  unfold declared
  dsimp only
  by_cases hunit : unit = ""
  · rw [if_pos hunit, if_pos hunit]
    cases min <;> cases max <;> cases scale <;> rfl
  · rw [if_neg hunit, if_neg hunit]
    cases min <;> cases max <;> rfl

end Measurement

namespace Argument

/-- The measurement that a text stands for under a configuration. A value that is no number is told
    with its unit. -/
def measured (config : Config) (text : String) : Except Fault Measurement := do
  let some (name, value) := Text.cut '=' text.toList
    | throw (.misuse (.notAMeasurement text))
  let name := Text.trim name
  if name = [] then throw (.misuse (.namelessMeasurement text))
  let value := Text.trim value
  let (number, unit) := splitUnit value
  let unit := String.ofList unit
  let m ← (Measurement.parse (String.ofList name) (String.ofList number)).mapError fun
    | .notNumeric name _ => .notNumeric name (String.ofList value)
    | fault => fault
  let m := (config.metric? m.name).elim m fun d => m.declared d unit
  return if unit = "" then m else m.withScale unit

variable {config : Config} {text : String}

/-- A plain measurement takes over what is declared of its name, and then the unit. -/
theorem completed_plain (config : Config) (name : String) (x : Binary64) (unit : String) :
    (let m := (config.metric? name).elim (.plain name x) fun d =>
        (Measurement.plain name x).declared d unit
      if unit = "" then m else m.withScale unit) = (Argument.mk name x unit).measurement config := by
  unfold measurement scale
  dsimp only
  cases config.metric? name with
  | none =>
    by_cases hunit : unit = ""
    · rw [if_pos hunit, if_pos hunit]
      rfl
    · rw [if_neg hunit, if_neg hunit]
      rfl
  | some d =>
    dsimp only [Option.elim_some, Option.getD_some]
    rw [Measurement.declared_plain]
    by_cases hunit : unit = ""
    · rw [if_pos hunit, if_pos hunit, if_pos hunit]
    · rw [if_neg hunit, if_neg hunit, if_neg hunit]
      rfl

/-- **An argument is read first, and then completed.** -/
theorem measured_eq (config : Config) (text : String) :
    measured config text = (parse text).map fun a => a.measurement config := by
  unfold measured parse
  cases Text.cut '=' text.toList with
  | none => rfl
  | some parts =>
    obtain ⟨name, value⟩ := parts
    dsimp only
    by_cases hname : Text.trim name = []
    · rw [if_pos hname, if_pos hname]
      rfl
    · rw [if_neg hname, if_neg hname]
      unfold ofParts
      generalize String.ofList (Text.trim name) = name
      generalize splitUnit (Text.trim value) = parts
      dsimp only
      cases hread : Measurement.parse name (String.ofList parts.1) with
      | error fault =>
        rw [Measurement.parse_eq_error hread]
        rfl
      | ok m =>
        obtain ⟨x, -, -, rfl⟩ := Measurement.parse_eq_ok hread
        exact congrArg Except.ok (completed_plain config name x (String.ofList parts.2))

/-- **The configuration decides neither whether an argument is read nor with which fault it is
    refused,** and its name and value are as they were given. -/
theorem measured_agree (config other : Config) (text : String) :
    Agree (fun m m' => m.name = m'.name ∧ m.value = m'.value)
      (measured config text) (measured other text) := by
  rw [measured_eq, measured_eq]
  exact (Agree.refl (fun _ => rfl) (parse text)).map fun a a' (h : a = a') => by
    subst h
    exact ⟨rfl, rfl⟩

/-! ## 2. Field by field -/

/-- The measurement that an argument comes to: name and value are as given. The slot and the bounds
    are the declared ones, and the unit is the declared one unless another one was given. Where
    nothing is declared, there are no bounds and the slot is the first. -/
structure Completed (config : Config) (a : Argument) (m : Measurement) : Prop where
  name : m.name = a.name
  value : m.value = a.value
  declared : ∀ d, config.metric? a.name = some d →
    m.slot = d.slot ∧ m.min = d.min ∧ m.max = d.max ∧
      m.scale = if a.unit = "" then d.scale.map Scale.token else some a.unit
  undeclared : config.metric? a.name = none →
    m.slot = 1 ∧ m.min = none ∧ m.max = none ∧
      m.scale = if a.unit = "" then none else some a.unit

/-- The fields are those of one measurement. -/
theorem completed_iff {a : Argument} {m : Measurement} :
    Completed config a m ↔ m = a.measurement config := by
  unfold measurement scale
  dsimp only
  constructor
  · intro h
    obtain ⟨name, value, min, max, scale, slot⟩ := m
    obtain ⟨rfl, rfl, hdeclared, hundeclared⟩ := h
    cases hd : config.metric? a.name with
    | none =>
      obtain ⟨rfl, rfl, rfl, rfl⟩ := hundeclared hd
      rfl
    | some d =>
      obtain ⟨rfl, rfl, rfl, rfl⟩ := hdeclared d hd
      rfl
  · rintro rfl
    refine ⟨rfl, rfl, fun d hd => ?_, fun hnone => ?_⟩
    · dsimp only
      rw [hd]
      exact ⟨rfl, rfl, rfl, rfl⟩
    · dsimp only
      rw [hnone]
      exact ⟨rfl, rfl, rfl, rfl⟩

/-- **A text stands for a measurement exactly if it is written as an argument that comes to it.** -/
theorem measured_eq_ok_iff {m : Measurement} :
    measured config text = .ok m ↔ ∃ a, Written text a ∧ Completed config a m := by
  rw [measured_eq]
  constructor
  · intro h
    obtain ⟨a, hread, hm⟩ := map_eq_ok h
    exact ⟨a, parse_eq_ok_iff.1 hread, completed_iff.2 hm.symm⟩
  · rintro ⟨a, hwritten, hm⟩
    rw [parse_eq_ok_iff.2 hwritten, completed_iff.1 hm]
    rfl

/-- A name, a number and a unit stand for the measurement of their argument. -/
theorem measured_of_parts {name number unit : String} {x : Binary64} (hname : IsName name)
    (hvalue : IsValue number unit x) :
    measured config (name ++ "=" ++ number ++ unit) =
      .ok ((Argument.mk name x unit).measurement config) := by
  rw [measured_eq, parse_of_parts hname hvalue]
  rfl

/-- Of a declared name, it has what is declared, unless another unit was given. -/
theorem measured_of_declared {d : Declaration} {number unit : String} {x : Binary64}
    (hd : config.metric? d.name = some d) (hname : IsName d.name) (hvalue : IsValue number unit x) :
    measured config (d.name ++ "=" ++ number ++ unit) =
      .ok ⟨d.name, x, d.min, d.max, if unit = "" then d.scale.map Scale.token else some unit,
        d.slot⟩ := by
  rw [measured_of_parts hname hvalue]
  unfold measurement scale
  dsimp only
  rw [hd]
  rfl

/-- Of another name, it has the unit that was given, and nothing else. -/
theorem measured_of_undeclared {name number unit : String} {x : Binary64}
    (hnone : config.metric? name = none) (hname : IsName name) (hvalue : IsValue number unit x) :
    measured config (name ++ "=" ++ number ++ unit) =
      .ok ⟨name, x, none, none, if unit = "" then none else some unit, 1⟩ := by
  rw [measured_of_parts hname hvalue]
  unfold measurement scale
  dsimp only
  rw [hnone]
  rfl

/-! ## 3. Declarations that no argument picks up -/

/-- An argument picks the declaration up. -/
def TakesEffect (config : Config) (d : Declaration) : Prop :=
  ∃ text a m, parse text = .ok a ∧ measured config text = .ok m ∧ m.name = d.name ∧
    m.slot = d.slot ∧ m.min = d.min ∧ m.max = d.max ∧
    (a.unit = "" → m.scale = d.scale.map Scale.token)

theorem isName_of_measured {m : Measurement} (h : measured config text = .ok m) :
    IsName m.name := by
  obtain ⟨a, hwritten, hm⟩ := measured_eq_ok_iff.1 h
  rw [hm.name]
  exact isName_of_parse (parse_of_written hwritten)

/-- A declaration that is found takes effect exactly if arguments have its name. -/
theorem takesEffect_iff_isName {d : Declaration} (hfound : config.metric? d.name = some d) :
    TakesEffect config d ↔ IsName d.name := by
  constructor
  · rintro ⟨text, a, m, -, hm, hname, -⟩
    rw [← hname]
    exact isName_of_measured hm
  · intro hname
    have hzero : IsValue "0" "" .zero :=
      isValue_of_all (eq_ok_of_toOption (by decide +kernel)) (by decide) (by decide) rfl
    exact ⟨_, _, _, parse_of_parts hname hzero, measured_of_declared hfound hname hzero,
      rfl, rfl, rfl, rfl, fun _ => rfl⟩

/-- **A declaration takes effect exactly if its name has no `=` and no blanks around it.** A number
    with a unit or without one picks it up then. Otherwise no measurement has this name, although
    the declaration is consistent. -/
theorem takesEffect_iff {d : Declaration} (h : config.fault? = none) (hd : d ∈ config.metrics) :
    (TakesEffect config d ↔ Text.trimmed d.name = d.name ∧ '=' ∉ d.name.toList) ∧
    (TakesEffect config d → ∀ number unit x, IsValue number unit x →
      measured config (d.name ++ "=" ++ number ++ unit) =
        .ok ⟨d.name, x, d.min, d.max, if unit = "" then d.scale.map Scale.token else some unit,
          d.slot⟩) ∧
    (¬TakesEffect config d → ∀ text m, measured config text = .ok m → m.name ≠ d.name) := by
  have hfound : config.metric? d.name = some d := (Config.metric?_eq_some_iff h).2 ⟨hd, rfl⟩
  have hne : d.name ≠ "" := ((Config.fault?_eq_none_iff.1 h).1 d hd).1
  rw [takesEffect_iff_isName hfound]
  refine ⟨⟨fun hname => ?_, fun hshape => ?_⟩, fun hname => ?_, fun hdead => ?_⟩
  · exact ⟨hname.trimmed, hname.equals⟩
  · exact ⟨hne, hshape.1, hshape.2⟩
  · exact fun number unit x hvalue => measured_of_declared hfound hname hvalue
  · intro text m hm hname
    refine hdead ?_
    rw [← hname]
    exact isName_of_measured hm

/-- The unit that was given is not the declared one, and everything else is as declared. -/
theorem takesEffect_iff_disk :
    let d : Declaration := ⟨"disk", some .percent, some .zero, some (.ofDecimal false 1 2), 2⟩
    let config : Config := ⟨.zeroFloor, false, false, [d]⟩
    config.fault? = none ∧ TakesEffect config d ∧
    measured config "disk=42GB" =
      .ok ⟨"disk", .ofDecimal false 42 0, some .zero, some (.ofDecimal false 1 2), some "GB", 2⟩ := by
  intro d config
  have hfault : config.fault? = none := by decide +kernel
  have hvalue : IsValue "42" "GB" (.ofDecimal false 42 0) :=
    isValue_of_all (eq_ok_of_toOption (by decide +kernel)) (by decide) (by decide) (by decide)
  obtain ⟨hiff, hpicked, -⟩ := takesEffect_iff hfault List.mem_cons_self
  have heffect : TakesEffect config d := hiff.2 ⟨by decide, by decide⟩
  exact ⟨hfault, heffect, hpicked heffect "42" "GB" _ hvalue⟩

/-- A blank is a name for the file and none for arguments: what is declared of it is consistent, and
    no measurement picks it up. -/
theorem dead_declaration_blank :
    let text := "[[metrics]]\nname = \" \"\nslot = 2\n"
    let d : Declaration := ⟨" ", none, none, none, 2⟩
    let config : Config := ⟨.zeroFloor, false, false, [d]⟩
    Config.load (.file "nagrange.toml" (.ok text)) = .ok config ∧ d ∈ config.metrics ∧
    ∀ text m, measured config text = .ok m → m.name ≠ d.name := by
  intro text d config
  refine ⟨by decide +kernel, List.mem_cons_self, fun text m hm hname => ?_⟩
  have htrimmed : Text.trimmed d.name = d.name := by
    rw [← hname]
    exact (isName_of_measured hm).trimmed
  exact absurd htrimmed (by decide)

end Argument

end ThresholdCheck
