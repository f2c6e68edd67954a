import ThresholdCheck.Binary64.Rounding

/-!
# Similar names

A misspelt option is answered with the known one that is most like it, by the Jaro measure: two
letters match if they are equal and stand near each other, and the measure is the mean of the
shares of matched letters in both names and of matched letters that come in the same order. A name
is similar above 0.7; of equally similar ones the last is suggested.

The three shares, their sum and the mean are each rounded to binary64, in this order, so that a
mean next to 0.7 falls on one side of it.
-/

namespace ThresholdCheck.CommandLine

/-! ## 1. Matching letters -/

/-- Marks the first free place of `others` from `low` to below `high` that holds `c`. The places
    are counted from `place`, and a marked one is free no more. -/
def claim (c : Char) (low high : Nat) : (place : Nat) → List (Char × Bool) →
    Option (List (Char × Bool))
  | _, [] => none
  | place, (d, taken) :: others =>
    if high ≤ place then none
    else if low ≤ place && c == d && !taken then some ((d, true) :: others)
    else (claim c low high (place + 1) others).map ((d, taken) :: ·)

/-- Matches the letters of a name from left to right; gives the matched letters and the other
    name with its marks. -/
def matchLetters (reach : Nat) : (place : Nat) → List Char → List (Char × Bool) →
    List Char × List (Char × Bool)
  | _, [], others => ([], others)
  | place, c :: cs, others =>
    match claim c (place - reach) (place + reach + 1) 0 others with
    | some others =>
      let (matched, others) := matchLetters reach (place + 1) cs others
      (c :: matched, others)
    | none => matchLetters reach (place + 1) cs others

/-! ## 2. The measure -/

/-- The rank of a quotient. -/
def quotientRank (num den : Nat) : Nat := Binary64.nearestRank (num * Binary64.twoTo 1074) den

/-- The rank of the sum of two magnitudes. -/
def sumRank (r s : Nat) : Nat := Binary64.nearestRank (Binary64.units r + Binary64.units s) 1

/-- The Jaro measure of two names, as the rank of its magnitude. -/
def similarity (a b : List Char) : Nat :=
  if a.isEmpty && b.isEmpty then quotientRank 1 1
  else
    let reach := max a.length b.length / 2 - 1
    let (matchedA, marked) := matchLetters reach 0 a (b.map fun c => (c, false))
    let matchedB := (marked.filter Prod.snd).map Prod.fst
    let count := matchedA.length
    if count = 0 then 0
    else
      let displaced := ((matchedA.zip matchedB).filter fun p => p.1 != p.2).length / 2
      let shares := sumRank (quotientRank count a.length) (quotientRank count b.length)
      let total := sumRank shares (quotientRank (count - displaced) count)
      Binary64.nearestRank (Binary64.units total) 3

/-- The known name most like the given one, if any is similar. -/
def mostSimilar? (name : String) (known : List String) : Option String :=
  let step (best : Option (String × Nat)) (candidate : String) : Option (String × Nat) :=
    let measure := similarity name.toList candidate.toList
    if measure ≤ quotientRank 7 10 then best
    else
      match best with
      | some (_, top) => if top ≤ measure then some (candidate, measure) else best
      | none => some (candidate, measure)
  (known.foldl step none).map Prod.fst

end ThresholdCheck.CommandLine
