import Mathlib.Data.List.Forall2
import Mathlib.Data.List.Perm.Basic

/-!
# Operations that may fail: what success tells, and what a fault

A chain of operations that succeeds tells that each of its steps did; one that fails has the fault
of a step.

* `bind_eq_ok`, `map_eq_ok`, `mapError_eq_ok`, `eq_ok_of_toOption`: one step is taken off a chain;
* `foldlM_induction`: what each step of a chain keeps, the chain keeps;
* `bind_eq_error`, `foldlM_eq_error`, `mapM_eq_error`: the fault of a chain or a row is that of a
  step;
* **`mapM_eq_ok_iff`**: a row succeeds with the results of its operations, one for each. So each
  result comes from one of them (`exists_of_mapM_ok`), the row succeeds if all do
  (`exists_mapM_ok_iff`), and the results stand in the order of the row (`mapM_perm`);
* `mapM_append_eq_ok_iff`: two rows in one succeed if each of them does;
* `exists_mapM_ok`: where each operation of a row succeeds, the row does, result by result;
* `foldlM_simulation`: where each step of a chain is followed by a step of another one, the chain is
  followed by the other;
* **`Agree`**: two operations both succeed, with results that are related, or both have one fault.
  Chains and rows of such operations agree (`Agree.bind`, `Agree.foldlM`, `Agree.mapM`).
-/

namespace ThresholdCheck

section

variable {ε α β : Type}

/-! ## 1. One step -/

theorem bind_eq_ok {x : Except ε α} {next : α → Except ε β} {b : β} (h : x >>= next = .ok b) :
    ∃ a, x = .ok a ∧ next a = .ok b := by
  cases x with
  | error fault => cases h
  | ok a => exact ⟨a, rfl, h⟩

theorem map_eq_ok {x : Except ε α} {f : α → β} {b : β} (h : x.map f = .ok b) :
    ∃ a, x = .ok a ∧ f a = b := by
  cases x with
  | error fault => cases h
  | ok a =>
    cases h
    exact ⟨a, rfl, rfl⟩

theorem mapError_eq_ok {ε' : Type} {x : Except ε α} {f : ε → ε'} {a : α}
    (h : x.mapError f = .ok a) : x = .ok a := by
  cases x with
  | error fault => cases h
  | ok b =>
    cases h
    rfl

theorem eq_ok_of_toOption {x : Except ε α} {a : α} (h : x.toOption = some a) : x = .ok a := by
  cases x with
  | error fault => cases h
  | ok b =>
    cases h
    rfl

/-- A fault is one of the first step, or of what comes after it. -/
theorem bind_eq_error {x : Except ε α} {next : α → Except ε β} {fault : ε}
    (h : x >>= next = .error fault) :
    x = .error fault ∨ ∃ a, x = .ok a ∧ next a = .error fault := by
  cases x with
  | error cause =>
    cases h
    exact .inl rfl
  | ok a => exact .inr ⟨a, rfl, h⟩

/-! ## 2. Rows -/

/-- What each step of a chain keeps, the whole chain keeps. -/
theorem foldlM_induction {σ : Type} {step : σ → α → Except ε σ} {inv : σ → Prop} {as : List α}
    {s t : σ} (h : inv s) (hstep : ∀ a ∈ as, ∀ s next, inv s → step s a = .ok next → inv next)
    (hfold : as.foldlM step s = .ok t) : inv t := by
  induction as generalizing s with
  | nil =>
    cases hfold
    exact h
  | cons a as ih =>
    rw [List.foldlM_cons] at hfold
    obtain ⟨next, hnext, hrest⟩ := bind_eq_ok hfold
    have hkept : inv next := hstep a List.mem_cons_self s next h hnext
    exact ih hkept (fun b hb => hstep b (List.mem_cons_of_mem _ hb)) hrest

/-- What is true of the faults of each step is true of the fault of the chain. -/
theorem foldlM_eq_error {σ : Type} {step : σ → α → Except ε σ} {of : ε → Prop} {as : List α} {s : σ}
    {fault : ε} (hstep : ∀ a ∈ as, ∀ s fault, step s a = .error fault → of fault)
    (hfold : as.foldlM step s = .error fault) : of fault := by
  induction as generalizing s with
  | nil => cases hfold
  | cons a as ih =>
    rw [List.foldlM_cons] at hfold
    rcases bind_eq_error hfold with hfirst | ⟨next, -, hrest⟩
    · exact hstep a List.mem_cons_self s fault hfirst
    · exact ih (fun b hb => hstep b (List.mem_cons_of_mem _ hb)) hrest

variable {read : α → Except ε β}

/-- What is true of the faults of each entry is true of the fault of the row. -/
theorem mapM_eq_error {of : ε → Prop} {as : List α} {fault : ε}
    (hread : ∀ a ∈ as, ∀ fault, read a = .error fault → of fault)
    (h : as.mapM read = .error fault) : of fault := by
  induction as with
  | nil => cases h
  | cons a as ih =>
    rw [List.mapM_cons] at h
    rcases bind_eq_error h with hfirst | ⟨first, -, h⟩
    · exact hread a List.mem_cons_self fault hfirst
    · rcases bind_eq_error h with hrest | ⟨rest, -, h⟩
      · exact ih (fun b hb => hread b (List.mem_cons_of_mem _ hb)) hrest
      · cases h

/-- **A row succeeds with the results of its entries, one for each.** -/
theorem mapM_eq_ok_iff {as : List α} {bs : List β} :
    as.mapM read = .ok bs ↔ List.Forall₂ (fun a b => read a = .ok b) as bs := by
  constructor
  · intro h
    induction as generalizing bs with
    | nil =>
      cases h
      exact .nil
    | cons a as ih =>
      rw [List.mapM_cons] at h
      obtain ⟨first, ha, h⟩ := bind_eq_ok h
      obtain ⟨rest, has, h⟩ := bind_eq_ok h
      cases h
      exact .cons ha (ih has)
  · intro h
    induction h with
    | nil => rfl
    | cons ha _ ih =>
      rw [List.mapM_cons, ha, ih]
      rfl

/-- **Two rows in one succeed exactly if each of them does, and then with the results of both.** -/
theorem mapM_append_eq_ok_iff {as as' : List α} {bs : List β} :
    (as ++ as').mapM read = .ok bs ↔
      ∃ front back, as.mapM read = .ok front ∧ as'.mapM read = .ok back ∧ bs = front ++ back := by
  rw [List.mapM_append]
  constructor
  · intro h
    obtain ⟨front, hfront, h⟩ := bind_eq_ok h
    obtain ⟨back, hback, h⟩ := bind_eq_ok h
    cases h
    exact ⟨front, back, hfront, hback, rfl⟩
  · rintro ⟨front, back, hfront, hback, rfl⟩
    rw [hfront, hback]
    rfl

/-- Each result is the result of an entry. -/
theorem exists_of_mapM_ok {as : List α} {bs : List β} (h : as.mapM read = .ok bs) :
    ∀ b ∈ bs, ∃ a ∈ as, read a = .ok b := by
  have hread := mapM_eq_ok_iff.1 h
  clear h
  induction hread with
  | nil => exact fun b hb => absurd hb List.not_mem_nil
  | cons ha _ ih =>
    intro b hb
    rcases List.mem_cons.1 hb with rfl | hb
    · exact ⟨_, List.mem_cons_self, ha⟩
    · obtain ⟨a, hmem, hread⟩ := ih b hb
      exact ⟨a, List.mem_cons_of_mem _ hmem, hread⟩

/-- A row succeeds exactly if each entry does. -/
theorem exists_mapM_ok_iff {as : List α} :
    (∃ bs, as.mapM read = .ok bs) ↔ ∀ a ∈ as, ∃ b, read a = .ok b := by
  simp only [mapM_eq_ok_iff]
  induction as with
  | nil => simp
  | cons a as ih => simp [List.forall₂_cons_left_iff, ← ih]

/-- A row in another order has the same results, in that order. -/
theorem mapM_perm {as as' : List α} {bs : List β} (perm : as'.Perm as)
    (h : as.mapM read = .ok bs) : ∃ bs', as'.mapM read = .ok bs' ∧ bs'.Perm bs := by
  obtain ⟨bs', hread, hperm⟩ := List.perm_comp_forall₂ perm (mapM_eq_ok_iff.1 h)
  exact ⟨bs', mapM_eq_ok_iff.2 hread, hperm⟩

/-- What each entry reads as, up to a test against it, the list reads as, entry by entry. -/
theorem exists_mapM_ok {same : β → β → Bool} {text : β → α} {bs : List β}
    (h : ∀ b ∈ bs, ∃ b', read (text b) = .ok b' ∧ same b' b = true) :
    ∃ bs', (bs.map text).mapM read = .ok bs' ∧ bs'.isEqv bs same = true := by
  induction bs with
  | nil => exact ⟨[], rfl, rfl⟩
  | cons b bs ih =>
    obtain ⟨b', hread, hsame⟩ := h b List.mem_cons_self
    obtain ⟨bs', hreads, hsames⟩ := ih fun b hb => h b (List.mem_cons_of_mem _ hb)
    refine ⟨b' :: bs', ?_, ?_⟩
    · rw [List.map_cons, List.mapM_cons, hread, hreads]
      rfl
    · rw [List.isEqv_cons_cons, hsame, hsames]
      rfl

/-! ## 3. Two chains -/

/-- Where each step of a chain is followed by a step of another one, the whole chain is. -/
theorem foldlM_simulation {σ τ : Type} {rel : σ → τ → Prop} {step : σ → α → Except ε σ}
    {step' : τ → α → Except ε τ} {as : List α} {s s' : σ} {t : τ} (h : rel s t)
    (hstep : ∀ a ∈ as, ∀ s t next, rel s t → step s a = .ok next →
      ∃ next', step' t a = .ok next' ∧ rel next next')
    (hfold : as.foldlM step s = .ok s') : ∃ t', as.foldlM step' t = .ok t' ∧ rel s' t' := by
  induction as generalizing s t with
  | nil =>
    cases hfold
    exact ⟨t, rfl, h⟩
  | cons a as ih =>
    rw [List.foldlM_cons] at hfold
    obtain ⟨next, hnext, hrest⟩ := bind_eq_ok hfold
    obtain ⟨next', hnext', hrel⟩ := hstep a List.mem_cons_self s t next h hnext
    obtain ⟨t', hrest', ht'⟩ := ih hrel (fun b hb => hstep b (List.mem_cons_of_mem _ hb)) hrest
    refine ⟨t', ?_, ht'⟩
    rw [List.foldlM_cons, hnext']
    exact hrest'

/-! ## 4. Agreement -/

/-- Both succeed, with results that are related, or both have one fault. -/
inductive Agree {α' : Type} (rel : α → α' → Prop) : Except ε α → Except ε α' → Prop where
  | ok {a : α} {a' : α'} (h : rel a a') : Agree rel (.ok a) (.ok a')
  | error (fault : ε) : Agree rel (.error fault) (.error fault)

namespace Agree

theorem refl {rel : α → α → Prop} (h : ∀ a, rel a a) (x : Except ε α) : Agree rel x x := by
  cases x with
  | error fault => exact .error fault
  | ok a => exact .ok (h a)

theorem eq {x x' : Except ε α} (h : Agree Eq x x') : x = x' := by
  cases h with
  | error fault => rfl
  | ok h => exact congrArg Except.ok h

variable {α' β' : Type} {rel : α → α' → Prop} {x : Except ε α} {x' : Except ε α'}

theorem ok_iff (h : Agree rel x x') : (∃ a, x = .ok a) ↔ ∃ a', x' = .ok a' := by
  cases h with
  | error fault => exact iff_of_false (fun hok => nomatch hok) fun hok => nomatch hok
  | @ok a a' h => exact iff_of_true ⟨a, rfl⟩ ⟨a', rfl⟩

theorem error_iff (h : Agree rel x x') (fault : ε) : x = .error fault ↔ x' = .error fault := by
  cases h with
  | error cause => rw [Except.error.injEq, Except.error.injEq]
  | ok h => exact iff_of_false (fun herror => nomatch herror) fun herror => nomatch herror

theorem rel_of_ok {a : α} {a' : α'} (h : Agree rel (.ok a : Except ε α) (.ok a')) : rel a a' := by
  cases h with
  | ok h => exact h

theorem imp {rel' : α → α' → Prop} (himp : ∀ a a', rel a a' → rel' a a') (h : Agree rel x x') :
    Agree rel' x x' := by
  cases h with
  | error fault => exact .error fault
  | ok h => exact .ok (himp _ _ h)

theorem bind {after : β → β' → Prop} {next : α → Except ε β} {next' : α' → Except ε β'}
    (h : Agree rel x x') (hnext : ∀ a a', rel a a' → Agree after (next a) (next' a')) :
    Agree after (x >>= next) (x' >>= next') := by
  cases h with
  | error fault => exact .error fault
  | ok h => exact hnext _ _ h

theorem map {after : β → β' → Prop} {f : α → β} {f' : α' → β'} (h : Agree rel x x')
    (hf : ∀ a a', rel a a' → after (f a) (f' a')) : Agree after (x.map f) (x'.map f') := by
  cases h with
  | error fault => exact .error fault
  | ok h => exact .ok (hf _ _ h)

theorem mapError {ε' : Type} {f : ε → ε'} (h : Agree rel x x') :
    Agree rel (x.mapError f) (x'.mapError f) := by
  cases h with
  | error fault => exact .error (f fault)
  | ok h => exact .ok h

/-- **Chains agree where their steps do.** -/
theorem foldlM {σ τ : Type} {rel : σ → τ → Prop} {step : σ → α → Except ε σ}
    {step' : τ → α → Except ε τ} {as : List α} {s : σ} {t : τ} (h : rel s t)
    (hstep : ∀ a ∈ as, ∀ s t, rel s t → Agree rel (step s a) (step' t a)) :
    Agree rel (as.foldlM step s) (as.foldlM step' t) := by
  induction as generalizing s t with
  | nil => exact .ok h
  | cons a as ih =>
    rw [List.foldlM_cons, List.foldlM_cons]
    refine (hstep a List.mem_cons_self s t h).bind fun next next' hnext => ?_
    exact ih hnext fun b hb => hstep b (List.mem_cons_of_mem _ hb)

/-- **Rows agree where their entries do.** -/
theorem mapM {rel : β → β' → Prop} {read : α → Except ε β} {read' : α → Except ε β'} {as : List α}
    (h : ∀ a ∈ as, Agree rel (read a) (read' a)) :
    Agree (List.Forall₂ rel) (as.mapM read) (as.mapM read') := by
  induction as with
  | nil => exact .ok .nil
  | cons a as ih =>
    rw [List.mapM_cons, List.mapM_cons]
    refine (h a List.mem_cons_self).bind fun b b' hb => ?_
    refine (ih fun c hc => h c (List.mem_cons_of_mem _ hc)).bind fun bs bs' hbs => ?_
    exact .ok (.cons hb hbs)

end Agree

end

end ThresholdCheck
