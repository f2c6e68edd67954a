import Mathlib.Data.List.Nodup
import ThresholdCheck.Config.Loading
import ThresholdCheck.Proofs.Binary64.Order

/-!
# Configurations that are loaded are consistent

* `Declaration.fault?_eq_none_iff`: when a declaration has no fault after others;
* **`Config.fault?_eq_none_iff`**: what it takes for a configuration to be consistent;
* `Config.consistent_of_load`: a configuration that is loaded is consistent, and each name has a
  slot that counts from 1 (`Config.slot_ne_zero`);
* `Config.consistent_iff`: bounds are out of order only where both are numbers, so that next to NaN
  any bound passes;
* **`Config.load_accepts_iff`**: a configuration is loaded exactly if it is written in the file and
  consistent, and then its bounds are in order unless one of them is NaN;
* **`Config.metric?_eq_some_iff`**: in a consistent configuration, the declaration for a name is the
  one of this name. So the order of the declarations does not matter (`Config.fault?_perm`,
  `Config.metric?_perm`).
-/

namespace ThresholdCheck

/-! ## 1. One declaration -/

theorem Declaration.fault?_eq_none_iff {d : Declaration} {earlier : List String} :
    d.fault? earlier = none ↔
      d.name ≠ "" ∧ d.name ∉ earlier ∧ d.slot ≠ 0 ∧ d.crossed? = none := by
  unfold Declaration.fault?
  by_cases hname : d.name = ""
  · simp [hname]
  · by_cases hearlier : d.name ∈ earlier
    · simp [hname, hearlier]
    · by_cases hslot : d.slot = 0
      · simp [hname, hearlier, hslot]
      · simp [hname, hearlier, hslot]

/-- Bounds are crossed only if both are given, both are numbers, and the least is above the
    largest. -/
theorem Declaration.crossed?_eq_none_iff {d : Declaration} :
    d.crossed? = none ↔
      ∀ min ∈ d.min, ∀ max ∈ d.max, min ≤ max ∨ min = .nan ∨ max = .nan := by
  unfold Declaration.crossed?
  cases d.min with
  | none => simp
  | some min =>
    cases d.max with
    | none => simp
    | some max => simp [Binary64.not_lt_iff]

namespace Config

/-! ## 2. All declarations -/

theorem faultAmong?_eq_none_iff {earlier : List String} {ds : List Declaration} :
    faultAmong? earlier ds = none ↔
      (∀ d ∈ ds, d.name ≠ "" ∧ d.name ∉ earlier ∧ d.slot ≠ 0 ∧ d.crossed? = none) ∧
      (ds.map Declaration.name).Nodup := by
  induction ds generalizing earlier with
  | nil => simp [faultAmong?]
  | cons d ds ih =>
    unfold faultAmong?
    rw [List.forall_mem_cons, List.map_cons, List.nodup_cons]
    cases hd : d.fault? earlier with
    | some fault =>
      constructor
      · intro h
        cases h
      · rintro ⟨⟨hone, -⟩, -⟩
        rw [Declaration.fault?_eq_none_iff.2 hone] at hd
        cases hd
    | none =>
      dsimp only
      rw [ih]
      constructor
      · rintro ⟨hrest, hnodup⟩
        refine ⟨⟨Declaration.fault?_eq_none_iff.1 hd, fun d' hd' => ?_⟩, fun hmem => ?_, hnodup⟩
        · obtain ⟨hname, hearlier, hothers⟩ := hrest d' hd'
          exact ⟨hname, fun h => hearlier (List.mem_cons_of_mem _ h), hothers⟩
        · obtain ⟨d', hd', hname⟩ := List.mem_map.1 hmem
          exact (hrest d' hd').2.1 (by rw [hname]; exact List.mem_cons_self)
      · rintro ⟨⟨-, hrest⟩, hfresh, hnodup⟩
        refine ⟨fun d' hd' => ?_, hnodup⟩
        obtain ⟨hname, hearlier, hothers⟩ := hrest d' hd'
        refine ⟨hname, fun h => ?_, hothers⟩
        rcases List.mem_cons.1 h with heq | h
        · exact hfresh (by rw [← heq]; exact List.mem_map_of_mem hd')
        · exact hearlier h

/-- **A configuration is consistent exactly if its names are distinct and not empty, its slots count
    from 1, and its bounds are in order.** -/
theorem fault?_eq_none_iff {c : Config} :
    c.fault? = none ↔
      (∀ d ∈ c.metrics, d.name ≠ "" ∧ d.slot ≠ 0 ∧ d.crossed? = none) ∧
      (c.metrics.map Declaration.name).Nodup := by
  unfold fault?
  rw [faultAmong?_eq_none_iff]
  simp

/-! ## 3. Loaded configurations -/

/-- A configuration that is loaded has no fault. -/
theorem consistent_of_load {source : ConfigSource} {c : Config} (h : load source = .ok c) :
    c.fault? = none := by
  cases source with
  | unset =>
    cases h
    rfl
  | file path contents =>
    cases contents with
    | error cause => cases h
    | ok text =>
      unfold load at h
      dsimp only at h
      split at h
      · cases h
      · rename_i c' _
        unfold validated at h
        split at h
        · rename_i hfault
          cases h
          exact hfault
        · cases h

/-- Under a configuration that is loaded, the slot of each name counts from 1. -/
theorem slot_ne_zero {source : ConfigSource} {c : Config} (h : load source = .ok c)
    (name : String) : ((c.metric? name).getD (Declaration.plain name)).slot ≠ 0 := by
  cases hd : c.metric? name with
  | none => exact Nat.one_ne_zero
  | some d =>
    have hmem : d ∈ c.metrics := List.mem_of_find?_eq_some hd
    exact ((fault?_eq_none_iff.1 (consistent_of_load h)).1 d hmem).2.1

/-! ## 4. What consistency says, and what it does not -/

/-- Each declaration that gives both bounds has the least value at most at the largest. -/
def Ordered (c : Config) : Prop :=
  ∀ d ∈ c.metrics, ∀ min ∈ d.min, ∀ max ∈ d.max, min ≤ max

/-- No declaration that gives both bounds has NaN for one of them. -/
def Comparable (c : Config) : Prop :=
  ∀ d ∈ c.metrics, ∀ min ∈ d.min, ∀ max ∈ d.max, min ≠ .nan ∧ max ≠ .nan

/-- Names are distinct and not empty, slots count from 1, and bounds are in order wherever they can
    be compared. -/
structure Consistent (c : Config) : Prop where
  named : ∀ d ∈ c.metrics, d.name ≠ ""
  distinct : (c.metrics.map Declaration.name).Nodup
  slots : ∀ d ∈ c.metrics, 1 ≤ d.slot
  bounds : ∀ d ∈ c.metrics, ∀ min ∈ d.min, ∀ max ∈ d.max,
    min ≤ max ∨ min = .nan ∨ max = .nan

theorem consistent_iff {c : Config} : c.Consistent ↔ c.fault? = none := by
  rw [fault?_eq_none_iff]
  constructor
  · intro h
    refine ⟨fun d hd => ⟨h.named d hd, Nat.pos_iff_ne_zero.1 (h.slots d hd), ?_⟩, h.distinct⟩
    exact Declaration.crossed?_eq_none_iff.2 (h.bounds d hd)
  · rintro ⟨hdeclared, hdistinct⟩
    refine ⟨fun d hd => (hdeclared d hd).1, hdistinct, fun d hd => ?_, fun d hd => ?_⟩
    · exact Nat.pos_iff_ne_zero.2 (hdeclared d hd).2.1
    · exact Declaration.crossed?_eq_none_iff.1 (hdeclared d hd).2.2

theorem validated_eq_ok_iff {c : Config} : c.validated = .ok c ↔ c.Consistent := by
  rw [consistent_iff]
  unfold validated
  cases c.fault? with
  | none => exact iff_of_true rfl rfl
  | some cause => exact iff_of_false (fun h => nomatch h) fun h => nomatch h

/-- Of consistent configurations, those without NaN have all bounds in order. -/
theorem Consistent.ordered_iff {c : Config} (h : c.Consistent) : c.Ordered ↔ c.Comparable := by
  constructor
  · intro hordered d hd min hmin max hmax
    exact Binary64.ne_nan_of_le (hordered d hd min hmin max hmax)
  · intro hcomparable d hd min hmin max hmax
    obtain ⟨hmin', hmax'⟩ := hcomparable d hd min hmin max hmax
    rcases h.bounds d hd min hmin max hmax with hle | hnan | hnan
    · exact hle
    · exact absurd hnan hmin'
    · exact absurd hnan hmax'

theorem load_file_eq_ok_iff {path text : String} {c : Config} :
    load (.file path (.ok text)) = .ok c ↔ ofText text = .ok c ∧ c.Consistent := by
  unfold load
  dsimp only
  cases hread : ofText text with
  | error cause => exact iff_of_false (fun h => nomatch h) fun h => nomatch h.1
  | ok written =>
    dsimp only
    rw [Except.ok.injEq]
    constructor
    · intro h
      have hc : written = c := by
        unfold validated at h
        split at h
        · exact Except.ok.inj h
        · cases h
      subst hc
      exact ⟨rfl, validated_eq_ok_iff.1 h⟩
    · rintro ⟨rfl, h⟩
      exact validated_eq_ok_iff.2 h

/-- **A configuration is loaded exactly if it is the written one and consistent,** or no file is
    named and it is the default one. Its names are distinct and not empty then, and its slots count
    from 1. Its bounds are in order, but for NaN: whoever writes it for a bound may write anything
    for the other. -/
theorem load_accepts_iff (c : Config) :
    (c.validated = .ok c ↔ c.Consistent) ∧
    (∀ source, load source = .ok c ↔
      (source = .unset ∧ c = .default) ∨
      ∃ path text, source = .file path (.ok text) ∧ ofText text = .ok c ∧ c.Consistent) ∧
    (c.Consistent → (c.Ordered ↔ c.Comparable)) := by
  refine ⟨validated_eq_ok_iff, fun source => ?_, Consistent.ordered_iff⟩
  rcases source with _ | ⟨path, cause | text⟩
  · constructor
    · intro h
      exact .inl ⟨rfl, (Except.ok.inj h).symm⟩
    · rintro (⟨-, rfl⟩ | ⟨path, text, hsource, -⟩)
      · rfl
      · cases hsource
  · refine iff_of_false (fun h => nomatch h) ?_
    rintro (⟨hsource, -⟩ | ⟨path, text, hsource, -⟩)
    · cases hsource
    · cases hsource
  · rw [load_file_eq_ok_iff]
    constructor
    · intro h
      exact .inr ⟨path, text, rfl, h⟩
    · rintro (⟨hsource, -⟩ | ⟨path, text, hsource, h⟩)
      · cases hsource
      · cases hsource
        exact h

/-- Bounds without NaN are in order. -/
theorem load_accepts_iff_bounded :
    let text := "[[metrics]]\nname = \"disk\"\nmin = 0\nmax = 100\nslot = 2\n"
    let d : Declaration := ⟨"disk", none, some .zero, some (.ofDecimal false 1 2), 2⟩
    let c : Config := ⟨.zeroFloor, false, false, [d]⟩
    load (.file "nagrange.toml" (.ok text)) = .ok c ∧ c.Consistent ∧ c.Ordered := by
  intro text d c
  have hload : load (.file "nagrange.toml" (.ok text)) = .ok c := by decide +kernel
  obtain ⟨hvalidated, -, hordered⟩ := load_accepts_iff c
  have hconsistent : c.Consistent := hvalidated.1 (by decide +kernel)
  have hcomparable : c.Comparable := by
    intro d' hd' min hmin max hmax
    rw [List.mem_singleton.1 hd'] at hmin hmax
    rw [← Option.some.inj hmin, ← Option.some.inj hmax]
    exact ⟨by decide +kernel, by decide +kernel⟩
  exact ⟨hload, hconsistent, (hordered hconsistent).2 hcomparable⟩

/-- A configuration with NaN for a bound is loaded, although NaN is at most nothing. -/
theorem load_nanBound :
    let text := "[[metrics]]\nname = \"disk\"\nmin = nan\nmax = 1\n"
    let d : Declaration := ⟨"disk", none, some .nan, some (.ofDecimal false 1 0), 1⟩
    load (.file "nagrange.toml" (.ok text)) = .ok ⟨.zeroFloor, false, false, [d]⟩ ∧
    ¬Binary64.nan ≤ .ofDecimal false 1 0 := by
  intro text d
  exact ⟨by decide +kernel, by decide +kernel⟩

/-! ## 5. The order of declarations -/

/-- **The declaration for a name is the one of this name.** -/
theorem metric?_eq_some_iff {c : Config} (h : c.fault? = none) {name : String} {d : Declaration} :
    c.metric? name = some d ↔ d ∈ c.metrics ∧ d.name = name := by
  unfold metric?
  constructor
  · intro hfound
    exact ⟨List.mem_of_find?_eq_some hfound, by simpa using List.find?_some hfound⟩
  · rintro ⟨hd, rfl⟩
    have hdistinct := (fault?_eq_none_iff.1 h).2
    cases hfound : c.metrics.find? (fun d' => d'.name == d.name) with
    | none =>
      have hnone := List.find?_eq_none.1 hfound d hd
      simp at hnone
    | some d' =>
      have hd' : d' ∈ c.metrics := List.mem_of_find?_eq_some hfound
      have hname : d'.name = d.name := by simpa using List.find?_some hfound
      rw [List.inj_on_of_nodup_map hdistinct hd' hd hname]

section

variable {c : Config} {metrics : List Declaration}

/-- Declarations in another order are consistent too. -/
theorem fault?_perm (h : c.fault? = none) (perm : metrics.Perm c.metrics) :
    ({ c with metrics } : Config).fault? = none := by
  obtain ⟨hdeclared, hdistinct⟩ := fault?_eq_none_iff.1 h
  exact fault?_eq_none_iff.2
    ⟨fun d hd => hdeclared d (perm.mem_iff.1 hd), (perm.map _).nodup_iff.2 hdistinct⟩

/-- **In any order, the declarations for a name are the same.** -/
theorem metric?_perm (h : c.fault? = none) (perm : metrics.Perm c.metrics) (name : String) :
    ({ c with metrics } : Config).metric? name = c.metric? name := by
  have hsame : ∀ d,
      ({ c with metrics } : Config).metric? name = some d ↔ c.metric? name = some d := by
    intro d
    rw [metric?_eq_some_iff (fault?_perm h perm), metric?_eq_some_iff h, perm.mem_iff]
  exact Option.ext hsame

end

end Config

end ThresholdCheck
