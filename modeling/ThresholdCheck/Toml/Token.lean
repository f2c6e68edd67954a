import ThresholdCheck.Toml.Fault

/-!
# TOML: tokens

A document is cut into tokens without a judgement on what they hold: punctuation, blanks, comments,
line ends, quoted strings, and *atoms*, which are all other runs of characters. A quoted string
that is not closed ends at its line, or with the document if it may have several lines. The last
token is the end of the document, which knows where the last token before it ends that is no filler
(`tokens`).
-/

namespace ThresholdCheck.Toml

open Text (byteSize)

/-- How a key or a value is written. -/
inductive Encoding where
  | bare
  | literal
  | basic
  | longLiteral
  | longBasic
deriving DecidableEq

/-- The sorts of tokens. -/
inductive Kind where
  | dot
  | equals
  | comma
  | openBracket
  | closeBracket
  | openBrace
  | closeBrace
  | blank
  | comment
  | lineEnd
  | piece (encoding : Encoding)
  /-- the end of the document, with the place where its content ends -/
  | finish (content : Nat)
deriving DecidableEq

/-- Whether tokens of this sort only keep others apart. -/
def Kind.isFiller : Kind → Bool
  | blank | comment | lineEnd => true
  | _ => false

/-- A token, with the part of the document it is. -/
structure Token where
  kind : Kind
  span : Span
  chars : List Char

/-! ## 1. Single tokens -/

/-- A text cut where a token of some kind ends. -/
structure Cut where
  kind : Kind
  chars : List Char
  rest : List Char

/-- The characters that end an atom. -/
def endsAtom (c : Char) : Bool :=
  ['.', '=', ',', '[', ']', '\x7b', '\x7d', ' ', '\t', '#', '\r', '\n'].contains c

/-- The run of characters at the head of a text. -/
def run (kind : Kind) (p : Char → Bool) (cs : List Char) : Cut :=
  ⟨kind, cs.takeWhile p, cs.dropWhile p⟩

/-- Puts characters in front of those cut off. -/
def Cut.after (c : Cut) (front : List Char) : Cut := { c with chars := front ++ c.chars }

/-- A literal string after its opening quote. -/
def cutLiteral : List Char → Cut
  | [] => ⟨.piece .literal, [], []⟩
  | '\'' :: cs => ⟨.piece .literal, ['\''], cs⟩
  | '\n' :: cs => ⟨.piece .literal, [], '\n' :: cs⟩
  | c :: cs => (cutLiteral cs).after [c]

/-- A basic string after its opening quote. -/
def cutBasic : List Char → Cut
  | [] => ⟨.piece .basic, [], []⟩
  | '"' :: cs => ⟨.piece .basic, ['"'], cs⟩
  | '\n' :: cs => ⟨.piece .basic, [], '\n' :: cs⟩
  | '\\' :: '\\' :: cs => (cutBasic cs).after ['\\', '\\']
  | '\\' :: '"' :: cs => (cutBasic cs).after ['\\', '"']
  | c :: cs => (cutBasic cs).after [c]

/-- Up to two quotes more, which belong to the string that three have closed. -/
def closingQuotes (quote : Char) (cs : List Char) : List Char × List Char :=
  match cs with
  | a :: b :: rest =>
    if a = quote then if b = quote then ([a, b], rest) else ([a], b :: rest) else ([], cs)
  | [a] => if a = quote then ([a], []) else ([], cs)
  | [] => ([], [])

/-- A literal string of several lines after its opening quotes. -/
def cutLongLiteral : List Char → Cut
  | [] => ⟨.piece .longLiteral, [], []⟩
  | '\'' :: '\'' :: '\'' :: cs =>
    let (more, rest) := closingQuotes '\'' cs
    ⟨.piece .longLiteral, ['\'', '\'', '\''] ++ more, rest⟩
  | c :: cs => (cutLongLiteral cs).after [c]

/-- A basic string of several lines after its opening quotes. -/
def cutLongBasic : List Char → Cut
  | [] => ⟨.piece .longBasic, [], []⟩
  | '"' :: '"' :: '"' :: cs =>
    let (more, rest) := closingQuotes '"' cs
    ⟨.piece .longBasic, ['"', '"', '"'] ++ more, rest⟩
  | '\\' :: '\\' :: cs => (cutLongBasic cs).after ['\\', '\\']
  | '\\' :: '"' :: cs => (cutLongBasic cs).after ['\\', '"']
  | c :: cs => (cutLongBasic cs).after [c]

/-- The first token of a text that is not empty; `c` is its first character. -/
def cutToken (c : Char) (cs : List Char) : Cut :=
  match c with
  | '.' => ⟨.dot, [c], cs⟩
  | '=' => ⟨.equals, [c], cs⟩
  | ',' => ⟨.comma, [c], cs⟩
  | '[' => ⟨.openBracket, [c], cs⟩
  | ']' => ⟨.closeBracket, [c], cs⟩
  | '\x7b' => ⟨.openBrace, [c], cs⟩
  | '\x7d' => ⟨.closeBrace, [c], cs⟩
  | ' ' | '\t' => run .blank (fun d => d = ' ' || d = '\t') (c :: cs)
  | '#' => run .comment (fun d => d != '\r' && d != '\n') (c :: cs)
  | '\n' => ⟨.lineEnd, [c], cs⟩
  | '\r' =>
    match cs with
    | '\n' :: rest => ⟨.lineEnd, ['\r', '\n'], rest⟩
    | _ => ⟨.lineEnd, [c], cs⟩
  | '\'' =>
    match cs with
    | '\'' :: '\'' :: rest => (cutLongLiteral rest).after ['\'', '\'', '\'']
    | _ => (cutLiteral cs).after [c]
  | '"' =>
    match cs with
    | '"' :: '"' :: rest => (cutLongBasic rest).after ['"', '"', '"']
    | _ => (cutBasic cs).after [c]
  | _ => (run (.piece .bare) (fun d => !endsAtom d) cs).after [c]

/-! ## 2. All tokens -/

/-- The tokens of a text that begins at a byte of the document, its content so far having ended at
    `content`. Each takes a character at least, so that `fuel` need not exceed the length of the
    text. -/
def tokensFrom : (fuel : Nat) → (content start : Nat) → List Char → List Token
  | _, content, start, [] => [⟨.finish content, ⟨start, start⟩, []⟩]
  | 0, content, start, _ => [⟨.finish content, ⟨start, start⟩, []⟩]
  | fuel + 1, content, start, c :: cs =>
    let found := cutToken c cs
    let stop := start + byteSize found.chars
    let content := if found.kind.isFiller then content else stop
    ⟨found.kind, ⟨start, stop⟩, found.chars⟩ :: tokensFrom fuel content stop found.rest

/-- The tokens of a document. A byte order mark at its head is passed over. -/
def tokens (text : List Char) : List Token :=
  match text with
  | '\uFEFF' :: cs => tokensFrom cs.length 0 3 cs
  | cs => tokensFrom cs.length 0 0 cs

end ThresholdCheck.Toml
