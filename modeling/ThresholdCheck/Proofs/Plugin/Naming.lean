import Mathlib.Data.List.Nodup
import ThresholdCheck.Proofs.Plugin.Lifecycle

/-!
# The names and flags of a command

An option is added under a name and perhaps a flag of its own. The command line of a plugin has, next
to the options that were added, those that every plugin has or may have: their names and flags are
reserved.

* `Admits`: an option may be added; **`grants_addOption_iff`**: it is, exactly then, before the start;
* `mem_options_after_iff`: the options of a plugin are those whose addition succeeded (`GrantsIn`);
* `WellNamed`: no two options share a name or a flag, and none has a reserved one. Each addition
  keeps this (`WellNamed.add`), so it holds after any run (`after_wellNamed`);
* **`distinct_definition`**: then no two entries of the command line clash, whichever severities are
  enabled;
* **`after_namespace`**: so no run leads to a clash, and only what was added is taken.
-/

namespace ThresholdCheck

/-! ## 1. The names of a command -/

namespace CommandLine.Definition

/-- The long names that a command knows, those for help and version included. -/
def longNames (d : Definition) : List String := (d.optionsFor .strict).map Opt.name

/-- The names under which a command keeps what is given: those of its options, and the one of the
    free arguments. -/
def ids (d : Definition) : List String := argumentsId :: d.longNames

/-- The short flags that a command knows, those for help and version included. -/
def flags (d : Definition) : List Char := (d.optionsFor .strict).filterMap Opt.short

/-- No two entries of a command have a name or a flag in common. -/
structure Distinct (d : Definition) : Prop where
  ids : d.ids.Nodup
  longNames : d.longNames.Nodup
  flags : d.flags.Nodup

end CommandLine.Definition

namespace Plugin

open CommandLine (Opt Definition Word helpOption versionOption)

/-! ## 2. The addition of an option -/

/-- The option may be added: neither its name nor its flag is reserved, or taken by an option that
    was added. -/
structure Admits (p : Plugin) (o : CustomOption) : Prop where
  name : o.name ∉ reservedNames
  name_ne : ∀ other ∈ p.options, other.name ≠ o.name
  flag : ∀ flag, o.short = some flag → flag ∉ reservedFlags
  flag_ne : ∀ flag, o.short = some flag → ∀ other ∈ p.options, other.short ≠ some flag

variable {p : Plugin} {o : CustomOption}

/-- **An option is added exactly before the start and if it may be.** -/
theorem addOption_eq_ok_iff {next : Plugin} :
    p.addOption o = .ok next ↔
      p.isStarted = false ∧ p.Admits o ∧ next = { p with options := p.options ++ [o] } := by
  have hname : o.name ∈ p.options.map CustomOption.name ↔
      ¬∀ other ∈ p.options, other.name ≠ o.name := by
    simp [List.mem_map]
  have hflag : ∀ flag, some flag ∈ p.options.map CustomOption.short ↔
      ¬∀ other ∈ p.options, other.short ≠ some flag := by
    simp [List.mem_map]
  unfold addOption
  by_cases hstarted : p.isStarted = true
  · rw [if_pos hstarted, hstarted]
    simp
  · rw [if_neg hstarted, Bool.eq_false_iff.2 hstarted]
    by_cases htaken : o.name ∈ reservedNames ∨ o.name ∈ p.options.map CustomOption.name
    · rw [if_pos htaken]
      refine iff_of_false (by simp) fun h => ?_
      obtain ⟨-, admits, -⟩ := h
      rcases htaken with htaken | htaken
      · exact admits.name htaken
      · exact hname.1 htaken admits.name_ne
    · rw [if_neg htaken]
      rw [not_or, hname, not_not] at htaken
      obtain ⟨hfree, hother⟩ := htaken
      cases hshort : o.short with
      | none =>
        have admits : p.Admits o :=
          ⟨hfree, hother, by simp [hshort], by simp [hshort]⟩
        simp [admits, eq_comm]
      | some flag =>
        dsimp only
        by_cases hused : flag ∈ reservedFlags ∨ some flag ∈ p.options.map CustomOption.short
        · rw [if_pos hused]
          refine iff_of_false (by simp) fun h => ?_
          obtain ⟨-, admits, -⟩ := h
          rcases hused with hused | hused
          · exact admits.flag flag hshort hused
          · exact (hflag flag).1 hused (admits.flag_ne flag hshort)
        · rw [if_neg hused]
          rw [not_or, hflag, not_not] at hused
          have admits : p.Admits o :=
            ⟨hfree, hother, by simpa [hshort] using hused.1, by simpa [hshort] using hused.2⟩
          simp [admits, eq_comm]

/-- **So its addition succeeds exactly then.** -/
theorem grants_addOption_iff :
    p.Grants (.addOption o) ↔ p.isStarted = false ∧ p.Admits o := by
  unfold Grants
  rw [attempt_operation]
  unfold Operation.apply
  dsimp only
  constructor
  · intro h
    obtain ⟨answer, hanswer⟩ := h
    cases hadd : p.addOption o with
    | error fault =>
      rw [hadd] at hanswer
      cases hanswer
    | ok next =>
      obtain ⟨hwaiting, admits, -⟩ := addOption_eq_ok_iff.1 hadd
      exact ⟨hwaiting, admits⟩
  · intro h
    obtain ⟨hwaiting, admits⟩ := h
    rw [addOption_eq_ok_iff.2 ⟨hwaiting, admits, rfl⟩]
    exact ⟨.done, rfl⟩

/-! ## 3. The options of a run -/

/-- **Only the addition of an option that may be added changes the options.** -/
theorem options_attempt (p : Plugin) (op : Operation) :
    ((attempt op.perform p).2.options = p.options ∧ ∀ o, op = .addOption o → ¬p.Grants op) ∨
    ∃ o, op = .addOption o ∧ p.Grants op ∧ p.Admits o ∧
      (attempt op.perform p).2.options = p.options ++ [o] := by
  rcases attempt_cases p op with ⟨hfails, hsame⟩ | ⟨hgrants, hchange⟩
  · rw [hsame]
    exact .inl ⟨rfl, fun _ _ => hfails⟩
  · generalize (attempt op.perform p).2 = next at hchange ⊢
    cases hchange with
    | adds o waiting => exact .inr ⟨o, rfl, hgrants, (grants_addOption_iff.1 hgrants).2, rfl⟩
    | accepts severity required =>
      refine .inl ⟨?_, by simp⟩
      cases severity <;> rfl
    | starts => exact .inl ⟨rfl, by simp⟩
    | measures => exact .inl ⟨rfl, by simp⟩
    | edits => exact .inl ⟨rfl, by simp⟩
    | tells => exact .inl ⟨rfl, by simp⟩
    | reports => exact .inl ⟨rfl, by simp⟩

/-- The operation is made in the run, and succeeds there. -/
def GrantsIn (p : Plugin) (ops : List Operation) (op : Operation) : Prop :=
  ∃ before rest, ops = before ++ op :: rest ∧ (p.after before).Grants op

theorem grantsIn_nil (p : Plugin) (op : Operation) : ¬p.GrantsIn [] op := by
  intro h
  obtain ⟨before, rest, hops, -⟩ := h
  cases before with
  | nil => cases hops
  | cons first before => cases hops

theorem grantsIn_cons {first op : Operation} {ops : List Operation} :
    p.GrantsIn (first :: ops) op ↔
      first = op ∧ p.Grants op ∨ (attempt first.perform p).2.GrantsIn ops op := by
  constructor
  · intro h
    obtain ⟨before, rest, hops, hgrants⟩ := h
    cases before with
    | nil =>
      cases hops
      exact .inl ⟨rfl, hgrants⟩
    | cons first before =>
      cases hops
      exact .inr ⟨before, rest, rfl, hgrants⟩
  · intro h
    rcases h with ⟨rfl, hgrants⟩ | ⟨before, rest, rfl, hgrants⟩
    · exact ⟨[], ops, rfl, hgrants⟩
    · exact ⟨first :: before, rest, rfl, hgrants⟩

theorem mem_options_attempt_iff (p : Plugin) (op : Operation) (o : CustomOption) :
    o ∈ (attempt op.perform p).2.options ↔
      o ∈ p.options ∨ op = .addOption o ∧ p.Grants (.addOption o) := by
  rcases options_attempt p op with ⟨hsame, hfails⟩ | ⟨added, rfl, hgrants, -, hoptions⟩
  · rw [hsame]
    refine (or_iff_left fun h => ?_).symm
    obtain ⟨rfl, hgrants⟩ := h
    exact hfails o rfl hgrants
  · rw [hoptions, List.mem_append, List.mem_singleton]
    refine or_congr_right ⟨fun heq => ?_, fun h => ?_⟩
    · subst heq
      exact ⟨rfl, hgrants⟩
    · cases h.1
      rfl

/-- **The options of a plugin are those it had and those whose addition succeeded in the run.** -/
theorem mem_options_after_iff (p : Plugin) (ops : List Operation) (o : CustomOption) :
    o ∈ (p.after ops).options ↔ o ∈ p.options ∨ p.GrantsIn ops (.addOption o) := by
  induction ops generalizing p with
  | nil => simp [grantsIn_nil]
  | cons op ops ih => rw [after_cons, ih, mem_options_attempt_iff, grantsIn_cons, or_assoc]

/-- An addition that fails leaves no trace in what comes after it. -/
theorem after_refused (h : ¬p.Grants (.addOption o)) (rest : List Operation) :
    p.after (.addOption o :: rest) = p.after rest := by
  rw [after_cons]
  rcases attempt_cases p (.addOption o) with ⟨-, hsame⟩ | ⟨hgrants, -⟩
  · rw [hsame]
  · exact absurd hgrants h

/-! ## 4. The invariant -/

/-- No two options have a name or a flag in common, and none has a reserved one. -/
structure WellNamed (options : List CustomOption) : Prop where
  names : (options.map CustomOption.name).Nodup
  flags : (options.filterMap CustomOption.short).Nodup
  name : ∀ o ∈ options, o.name ∉ reservedNames
  flag : ∀ o ∈ options, ∀ flag, o.short = some flag → flag ∉ reservedFlags

theorem wellNamed_nil : WellNamed [] := ⟨List.nodup_nil, List.nodup_nil, by simp, by simp⟩

/-- **An option that may be added keeps the names and the flags apart.** -/
theorem WellNamed.add (h : WellNamed p.options) (admits : p.Admits o) :
    WellNamed (p.options ++ [o]) := by
  refine ⟨?_, ?_, ?_, ?_⟩
  · rw [List.map_append, List.nodup_append]
    refine ⟨h.names, List.nodup_singleton _, ?_⟩
    intro name hname new hnew
    obtain ⟨other, hother, rfl⟩ := List.mem_map.1 hname
    rw [List.map_singleton, List.mem_singleton] at hnew
    rw [hnew]
    exact admits.name_ne other hother
  · rw [List.filterMap_append, List.nodup_append]
    have hsingle : ([o].filterMap CustomOption.short).Nodup := by
      cases hshort : o.short <;> simp [hshort]
    refine ⟨h.flags, hsingle, ?_⟩
    intro flag hflag new hnew heq
    subst heq
    obtain ⟨other, hother, hshort⟩ := List.mem_filterMap.1 hflag
    have hnew' : o.short = some flag := by simpa using hnew
    exact admits.flag_ne flag hnew' other hother hshort
  · rw [List.forall_mem_append, List.forall_mem_singleton]
    exact ⟨h.name, admits.name⟩
  · rw [List.forall_mem_append, List.forall_mem_singleton]
    exact ⟨h.flag, admits.flag⟩

/-- **After any run the names and the flags are apart.** -/
theorem after_wellNamed (h : WellNamed p.options) (ops : List Operation) :
    WellNamed (p.after ops).options := by
  induction ops generalizing p with
  | nil => exact h
  | cons op ops ih =>
    rw [after_cons]
    refine ih ?_
    rcases options_attempt p op with ⟨hsame, -⟩ | ⟨o, -, -, admits, hoptions⟩
    · rw [hsame]
      exact h
    · rw [hoptions]
      exact h.add admits

/-! ## 5. The command line -/

/-- The options that any plugin may have next to those that were added. -/
def builtinOptions : List Opt :=
  verboseOption :: Severity.all.map severityOption ++ [helpOption, versionOption]

/-- The options of the command line are those that were added and some of the others. -/
theorem exists_builtin (p : Plugin) :
    ∃ builtin, builtin.Sublist builtinOptions ∧
      (p.definition.optionsFor .strict).Perm (builtin ++ p.options.map CustomOption.toOpt) := by
  let severities := p.enabled.map fun s => severityOption s.1
  have hseverities : severities.Sublist (Severity.all.map severityOption) := by
    show (List.map (severityOption ∘ Prod.fst) p.enabled).Sublist _
    rw [← List.map_map]
    refine List.Sublist.map _ ?_
    unfold enabled
    cases hwarning : p.enabled? .warning <;> cases hcritical : p.enabled? .critical <;>
      simp [Severity.all, hwarning, hcritical]
  refine ⟨verboseOption :: severities ++ [helpOption, versionOption],
    (hseverities.cons_cons _).append (List.Sublist.refl _), ?_⟩
  show (verboseOption :: severities ++ p.options.map CustomOption.toOpt ++
    [helpOption, versionOption]).Perm _
  rw [List.append_assoc, List.append_assoc]
  exact List.perm_append_comm.append_left _

/-- Every name that any plugin may have next to those of added options is reserved, and so is every
    flag. -/
theorem mem_reserved {builtin : List Opt} (h : builtin.Sublist builtinOptions) {other : Opt}
    (hother : other ∈ builtin) :
    other.name ∈ reservedNames ∧ ∀ flag, other.short = some flag → flag ∈ reservedFlags := by
  have hall : other ∈ builtinOptions := h.subset hother
  simp only [builtinOptions, Severity.all, List.map_cons, List.map_nil, List.cons_append,
    List.nil_append, List.mem_cons, List.not_mem_nil, or_false] at hall
  rcases hall with rfl | rfl | rfl | rfl | rfl <;>
    exact ⟨by decide, by rintro flag ⟨⟩; decide⟩

/-- **No two entries of the command line clash.** -/
theorem distinct_definition (h : WellNamed p.options) : p.definition.Distinct := by
  obtain ⟨builtin, hbuiltin, hperm⟩ := exists_builtin p
  have hids : p.definition.ids.Nodup := by
    have hfixed : (Definition.argumentsId :: builtin.map Opt.name).Nodup := by
      refine List.Nodup.sublist ((hbuiltin.map Opt.name).cons_cons _) ?_
      decide
    have hall : (Definition.argumentsId :: builtin.map Opt.name ++
        p.options.map CustomOption.name).Nodup := by
      rw [List.nodup_append]
      refine ⟨hfixed, h.names, ?_⟩
      intro name hname added hadded heq
      subst heq
      obtain ⟨o, ho, rfl⟩ := List.mem_map.1 hadded
      refine h.name o ho ?_
      rcases List.mem_cons.1 hname with hname | hname
      · rw [hname]
        decide
      · obtain ⟨other, hother, heq⟩ := List.mem_map.1 hname
        rw [← heq]
        exact (mem_reserved hbuiltin hother).1
    refine ((hperm.map Opt.name).cons _).nodup_iff.2 ?_
    rw [List.map_append, List.map_map]
    exact hall
  have hflags : p.definition.flags.Nodup := by
    refine (hperm.filterMap Opt.short).nodup_iff.2 ?_
    rw [List.filterMap_append, List.filterMap_map, List.nodup_append]
    refine ⟨List.Nodup.sublist (hbuiltin.filterMap Opt.short) (by decide), h.flags, ?_⟩
    intro flag hflag added hadded heq
    subst heq
    obtain ⟨other, hother, hshort⟩ := List.mem_filterMap.1 hflag
    obtain ⟨o, ho, hshort'⟩ := List.mem_filterMap.1 hadded
    exact h.flag o ho flag hshort' ((mem_reserved hbuiltin hother).2 flag hshort)
  exact ⟨hids, (List.nodup_cons.1 hids).2, hflags⟩

/-! ## 6. The run of a new plugin -/

/-- **No run of operations on a new plugin leads to a clash.** Before the start an option is added
    exactly if its name and its flag are neither reserved nor those of an option that was added, and
    an addition that fails takes neither. -/
theorem after_namespace (name about version : String) (mode : Mode)
    (argumentsName argumentsHelp : String) (ops : List Operation) :
    let origin := fresh name about version mode argumentsName argumentsHelp
    let p := origin.after ops
    p.definition.Distinct ∧
    (∀ o, p.isStarted = false → (p.Grants (.addOption o) ↔
      (o.name ∉ reservedNames ∧
        ∀ other, origin.GrantsIn ops (.addOption other) → other.name ≠ o.name) ∧
      ∀ flag, o.short = some flag → flag ∉ reservedFlags ∧
        ∀ other, origin.GrantsIn ops (.addOption other) → other.short ≠ some flag)) ∧
    ∀ o, ¬p.Grants (.addOption o) → ∀ rest,
      origin.after (ops ++ .addOption o :: rest) = origin.after (ops ++ rest) := by
  intro origin p
  have hadded : ∀ other, other ∈ p.options ↔ origin.GrantsIn ops (.addOption other) := by
    intro other
    rw [mem_options_after_iff, or_iff_right]
    exact List.not_mem_nil
  refine ⟨distinct_definition (after_wellNamed wellNamed_nil ops), fun o waiting => ?_,
    fun o hrefused rest => ?_⟩
  · rw [grants_addOption_iff]
    constructor
    · intro h
      obtain ⟨-, admits⟩ := h
      refine ⟨⟨admits.name, fun other hother => admits.name_ne other ((hadded other).2 hother)⟩,
        fun flag hshort => ⟨admits.flag flag hshort, fun other hother =>
          admits.flag_ne flag hshort other ((hadded other).2 hother)⟩⟩
    · intro h
      obtain ⟨⟨hname, hnames⟩, hflags⟩ := h
      exact ⟨waiting, hname, fun other hother => hnames other ((hadded other).1 hother),
        fun flag hshort => (hflags flag hshort).1,
        fun flag hshort other hother => (hflags flag hshort).2 other ((hadded other).1 hother)⟩
  · rw [after_append, after_append]
    exact after_refused hrefused rest

/-- The flag of an option that was refused for its name is free for another one. -/
theorem after_namespace_refused :
    let origin := fresh "check_test" "A test" "1.0" .zeroFloor "ARGS" ""
    let option (name : String) (flag : Char) : CustomOption :=
      ⟨name, "", some flag, ⟨false, none, .ok⟩⟩
    let ops : List Operation := [.enable .critical true, .addOption (option "host" 'H')]
    let rest : List Operation := [.enable .warning false]
    let p := origin.after (ops ++ .addOption (option "host" 'p') :: rest)
    ¬(origin.after ops).Grants (.addOption (option "host" 'p')) ∧ p.isStarted = false ∧
    p = origin.after (ops ++ rest) ∧ p.definition.Distinct ∧
    p.Grants (.addOption (option "port" 'p')) ∧
    ¬p.Grants (.addOption (option "critical" 'C')) := by
  intro origin option ops rest p
  have hrefused : ¬(origin.after ops).Grants (.addOption (option "host" 'p')) := by
    rw [grants_addOption_iff]
    intro h
    obtain ⟨-, admits⟩ := h
    exact admits.name_ne (option "host" 'H') List.mem_cons_self rfl
  have hsame : p = origin.after (ops ++ rest) :=
    (after_namespace "check_test" "A test" "1.0" .zeroFloor "ARGS" "" ops).2.2 _ hrefused rest
  obtain ⟨hdistinct, hgrants, -⟩ :=
    after_namespace "check_test" "A test" "1.0" .zeroFloor "ARGS" ""
      (ops ++ .addOption (option "host" 'p') :: rest)
  have hwaits : p.isStarted = false := by decide +kernel
  have hadmits : (attempt (Operation.addOption (option "port" 'p')).perform p).1.toOption =
      some .done := by decide +kernel
  refine ⟨hrefused, hwaits, hsame, hdistinct, ⟨.done, eq_ok_of_toOption hadmits⟩, ?_⟩
  rw [hgrants (option "critical" 'C') hwaits]
  intro h
  exact h.1.1 (by decide)

end Plugin

end ThresholdCheck
