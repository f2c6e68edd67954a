/-!
# Scale: the units of measure

A unit is read in letters of either case and always written as its token, byte units in capitals
and time units in small letters (`Scale.ofText?`, `Scale.token`).
-/

namespace ThresholdCheck

/-- A unit of measure that performance data may carry. -/
inductive Scale where
  | bytes
  | kilobytes
  | megabytes
  | gigabytes
  | terabytes
  | seconds
  | milliseconds
  | microseconds
  | nanoseconds
  | percent
deriving DecidableEq

namespace Scale

/-- The written form of the unit. -/
def token : Scale → String
  | bytes => "B"
  | kilobytes => "KB"
  | megabytes => "MB"
  | gigabytes => "GB"
  | terabytes => "TB"
  | seconds => "s"
  | milliseconds => "ms"
  | microseconds => "us"
  | nanoseconds => "ns"
  | percent => "%"

/-- Every unit. -/
def all : List Scale :=
  [bytes, kilobytes, megabytes, gigabytes, terabytes, seconds, milliseconds, microseconds,
    nanoseconds, percent]

theorem mem_all (s : Scale) : s ∈ all := by cases s <;> simp [all]

/-- The letters of a text with the ASCII capitals made small. -/
def folded (text : String) : List Char := text.toList.map Char.toLower

/-- The unit a text spells, in ASCII letters of either case. -/
def ofText? (text : String) : Option Scale :=
  all.find? fun s => folded s.token == folded text

/-- No two units have a spelling in common. -/
theorem folded_token_injective {s t : Scale} (h : folded s.token = folded t.token) : s = t := by
  revert h
  cases s <;> cases t <;> decide

/-- A text is read as the unit that it spells. -/
theorem ofText?_eq_some_iff {text : String} {s : Scale} :
    ofText? text = some s ↔ folded s.token = folded text := by
  constructor
  · intro h
    have := List.find?_some h
    simpa using this
  · intro h
    cases hf : ofText? text with
    | none =>
      have := List.find?_eq_none.1 hf s (mem_all s)
      simp [h] at this
    | some t =>
      have ht := List.find?_some hf
      simp only [beq_iff_eq] at ht
      rw [folded_token_injective (ht.trans h.symm)]

@[simp] theorem ofText?_token (s : Scale) : ofText? s.token = some s :=
  ofText?_eq_some_iff.2 rfl

end Scale

end ThresholdCheck
