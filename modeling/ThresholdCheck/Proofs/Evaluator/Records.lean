import Mathlib.Data.List.Nodup
import ThresholdCheck.Evaluator

/-!
# The records are a table in which the last writer wins

Records are kept under their names. `Reflects` relates them to the row of writes that they come
from: a name stands where it was written first, and its record is the one that was written last.

* `map_name_store`, `nodup_store`, `mem_store`, `find?_store`: what `store` does to the names and to
  the records; `foldl_store_of_nodup`: records of new names are put last, one after the other;
* **`Reflects.store`**: one more write is reflected by one more `store`;
* `Reflects.eq_filterMap`: so the records are a function of the writes.
-/

namespace ThresholdCheck

/-! ## 1. One write -/

theorem map_name_store (r : Record) (rs : List Record) :
    (store r rs).map Record.name =
      if r.name ∈ rs.map Record.name then rs.map Record.name
      else rs.map Record.name ++ [r.name] := by
  induction rs with
  | nil => rfl
  | cons q rs ih =>
    unfold store
    by_cases hq : q.name = r.name
    · rw [if_pos hq, if_pos (by rw [List.map_cons, hq]; exact List.mem_cons_self), List.map_cons,
        List.map_cons, hq]
    · rw [if_neg hq, List.map_cons, ih]
      by_cases hmem : r.name ∈ rs.map Record.name
      · have hcons : r.name ∈ (q :: rs).map Record.name := List.mem_cons_of_mem _ hmem
        rw [if_pos hmem, if_pos hcons, List.map_cons]
      · have hcons : r.name ∉ (q :: rs).map Record.name := by
          rw [List.map_cons, List.mem_cons, not_or]
          exact ⟨Ne.symm hq, hmem⟩
        rw [if_neg hmem, if_neg hcons, List.map_cons, List.cons_append]

/-- Distinct names stay distinct. -/
theorem nodup_store {r : Record} {rs : List Record} (distinct : (rs.map Record.name).Nodup) :
    ((store r rs).map Record.name).Nodup := by
  rw [map_name_store]
  by_cases hr : r.name ∈ rs.map Record.name
  · rw [if_pos hr]
    exact distinct
  · rw [if_neg hr, List.nodup_append]
    refine ⟨distinct, List.nodup_singleton _, fun n hn m hm heq => hr ?_⟩
    rw [← List.mem_singleton.1 hm, ← heq]
    exact hn

/-- Of the records that were there, those of other names are left. -/
theorem mem_store {r q : Record} {rs : List Record} (distinct : (rs.map Record.name).Nodup)
    (h : q ∈ store r rs) : q = r ∨ (q ∈ rs ∧ q.name ≠ r.name) := by
  induction rs with
  | nil => exact .inl (List.mem_singleton.1 h)
  | cons p rs ih =>
    rw [List.map_cons, List.nodup_cons] at distinct
    obtain ⟨hp, hrs⟩ := distinct
    unfold store at h
    split at h
    · rename_i hname
      -- the names are distinct, so no other record of the name follows
      rcases List.mem_cons.1 h with rfl | hq
      · exact .inl rfl
      · refine .inr ⟨List.mem_cons_of_mem _ hq, fun heq => hp ?_⟩
        rw [hname, ← heq]
        exact List.mem_map_of_mem hq
    · rename_i hname
      rcases List.mem_cons.1 h with rfl | hq
      · exact .inr ⟨List.mem_cons_self, hname⟩
      · rcases ih hrs hq with rfl | ⟨hmem, hne⟩
        · exact .inl rfl
        · exact .inr ⟨List.mem_cons_of_mem _ hmem, hne⟩

/-- The record that was stored is the one of its name. -/
theorem find?_store (r : Record) (rs : List Record) :
    (store r rs).find? (fun q => q.name == r.name) = some r := by
  induction rs with
  | nil => simp [store]
  | cons q rs ih =>
    unfold store
    by_cases hq : q.name = r.name
    · rw [if_pos hq]
      simp
    · rw [if_neg hq, List.find?_cons_of_neg (by simpa using hq)]
      exact ih

/-- A record of a new name is put last. -/
theorem store_of_not_mem {r : Record} {rs : List Record} (h : r.name ∉ rs.map Record.name) :
    store r rs = rs ++ [r] := by
  induction rs with
  | nil => rfl
  | cons q rs ih =>
    rw [List.map_cons, List.mem_cons, not_or] at h
    unfold store
    rw [if_neg (Ne.symm h.1), ih h.2, List.cons_append]

/-- Records of new names are put last, one after the other. -/
theorem foldl_store_of_nodup {rs more : List Record}
    (distinct : ((rs ++ more).map Record.name).Nodup) :
    more.foldl (fun stored r => store r stored) rs = rs ++ more := by
  induction more generalizing rs with
  | nil => exact (List.append_nil _).symm
  | cons r more ih =>
    have hnext : rs ++ r :: more = rs ++ [r] ++ more := by
      rw [List.append_assoc, List.singleton_append]
    have hr : r.name ∉ rs.map Record.name := by
      rw [List.map_append, List.nodup_append] at distinct
      exact fun hmem => distinct.2.2 _ hmem _ (List.mem_map_of_mem List.mem_cons_self) rfl
    rw [List.foldl_cons, store_of_not_mem hr, hnext]
    exact ih (hnext ▸ distinct)

/-! ## 2. Rows of writes -/

theorem eraseDups_concat (ns : List String) (n : String) :
    (ns ++ [n]).eraseDups = if n ∈ ns then ns.eraseDups else ns.eraseDups ++ [n] := by
  rw [List.eraseDups_append]
  unfold List.removeAll
  by_cases h : n ∈ ns
  · simp [h]
  · simp [h, List.eraseDups_cons]

section

variable {ι : Type} (name : ι → String)

/-- The last write under a name. -/
def lastWrite? (writes : List ι) (n : String) : Option ι := writes.reverse.find? fun w => name w == n

theorem lastWrite?_concat (writes : List ι) (w : ι) (n : String) :
    lastWrite? name (writes ++ [w]) n = if name w = n then some w else lastWrite? name writes n := by
  unfold lastWrite?
  rw [List.reverse_append, List.reverse_singleton, List.singleton_append, List.find?_cons]
  by_cases h : name w = n
  · rw [if_pos h, beq_iff_eq.2 h]
  · rw [if_neg h, beq_eq_false_iff_ne.2 h]

variable (writesRecord : ι → Record → Prop)

/-- The records are what a row of writes leaves: the last record of each name, in the order in
    which the names were written first. -/
structure Reflects (writes : List ι) (rs : List Record) : Prop where
  names : rs.map Record.name = (writes.map name).eraseDups
  distinct : (rs.map Record.name).Nodup
  latest : ∀ r ∈ rs, ∃ w, lastWrite? name writes r.name = some w ∧ writesRecord w r

theorem reflects_nil : Reflects name writesRecord [] [] where
  names := rfl
  distinct := List.nodup_nil
  latest := by
    intro r hr
    cases hr

variable {name writesRecord} {writes : List ι} {rs : List Record}

/-- **One more write is one more `store`.** -/
theorem Reflects.store (h : Reflects name writesRecord writes rs) {w : ι} {r : Record}
    (hname : r.name = name w) (hw : writesRecord w r) :
    Reflects name writesRecord (writes ++ [w]) (store r rs) := by
  have hmem : r.name ∈ rs.map Record.name ↔ name w ∈ writes.map name := by
    rw [h.names, List.mem_eraseDups, hname]
  -- the name is new to the records exactly if it is new to the writes
  refine ⟨?_, nodup_store h.distinct, fun q hq => ?_⟩
  · rw [map_name_store, List.map_append, List.map_singleton, eraseDups_concat, ← h.names]
    by_cases hr : r.name ∈ rs.map Record.name
    · rw [if_pos hr, if_pos (hmem.1 hr)]
    · rw [if_neg hr, if_neg (mt hmem.2 hr), hname]
  · rw [lastWrite?_concat]
    rcases mem_store h.distinct hq with rfl | ⟨hmem, hne⟩
    · rw [if_pos hname.symm]
      exact ⟨w, rfl, hw⟩
    · rw [if_neg (by rw [← hname]; exact Ne.symm hne)]
      exact h.latest q hmem

/-- **The records are a function of the writes.** -/
theorem Reflects.eq_filterMap (h : Reflects name writesRecord writes rs) {record : ι → Record}
    (hrecord : ∀ w r, writesRecord w r → r = record w) :
    rs = (writes.map name).eraseDups.filterMap fun n => (lastWrite? name writes n).map record := by
  rw [← h.names, List.filterMap_map]
  calc rs = rs.filterMap some := List.filterMap_some.symm
    _ = rs.filterMap _ := List.filterMap_congr fun r hr => by
      obtain ⟨w, hlast, hw⟩ := h.latest r hr
      rw [Function.comp_apply, hlast, Option.map_some, ← hrecord w r hw]

end

end ThresholdCheck
