import ThresholdCheck.Text.Signless

/-!
# Quoted text

A text is quoted so that each of its characters can be told: between double quotes, with a
backslash before a quote and a backslash, names for the common controls, and a number for every
other character that has no sign of its own (`quoted`).
-/

namespace ThresholdCheck.Text

/-- A character inside double quotes. -/
def quotedChar (c : Char) : List Char :=
  if c = '"' || c = '\\' then ['\\', c]
  else if c = '\n' then ['\\', 'n']
  else if c = '\r' then ['\\', 'r']
  else if c = '\t' then ['\\', 't']
  else if c = '\x00' then ['\\', '0']
  else if isSignless c then ['\\', 'u', '\x7b'] ++ Nat.toDigits 16 c.toNat ++ ['\x7d']
  else [c]

/-- The text between double quotes. -/
def quoted (cs : List Char) : List Char := '"' :: cs.flatMap quotedChar ++ ['"']

end ThresholdCheck.Text
