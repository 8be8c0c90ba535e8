import Keyboards.Text.Basic

/-! The smallest parts of TOML text: blanks, comments, line ends, strings and keys. -/

namespace Keyboards.Toml

def isBlank (c : Char) : Bool := c == ' ' || c == '\t'

def skipBlanks (cs : List Char) : List Char := cs.dropWhile isBlank

/-- Characters that strings and comments may hold as they are: no control character but the tab. -/
def isPlain (c : Char) : Bool := c == '\t' || (0x20 ≤ c.toNat && c.toNat ≠ 0x7F)

/-- What follows a line end; the end of the text ends a line too. -/
def lineEnd? : List Char → Option (List Char)
  | [] => some []
  | '\n' :: rest => some rest
  | '\r' :: '\n' :: rest => some rest
  | _ => none

/-- What follows a line on which nothing stands any more but a comment. -/
def lineRest? (cs : List Char) : Option (List Char) :=
  match skipBlanks cs with
  | '#' :: rest => lineEnd? (rest.dropWhile isPlain)
  | rest => lineEnd? rest

/-- Skips blanks, comments and line ends, as they may stand between the items of an array. -/
def skipTrivia (inComment : Bool) : List Char → List Char
  | [] => []
  | '\n' :: rest => skipTrivia false rest
  | '\r' :: '\n' :: rest => skipTrivia false rest
  | c :: rest =>
    if inComment then if isPlain c then skipTrivia true rest else c :: rest
    else if c = '#' then skipTrivia true rest
    else if isBlank c then skipTrivia false rest
    else c :: rest

/-- A character by its number, if it has one. -/
def scalar? (n : Nat) : Option Char := if n.isValidChar then some (Char.ofNat n) else none

def simpleEscape? : Char → Option Char
  | 'b' => some '\x08'
  | 't' => some '\t'
  | 'n' => some '\n'
  | 'f' => some '\x0c'
  | 'r' => some '\r'
  | '"' => some '"'
  | '\\' => some '\\'
  | _ => none

/-- Whether only blanks stand before the end of the line, with another line to follow. -/
def continues (cs : List Char) : Bool :=
  match skipBlanks cs with
  | '\n' :: _ => true
  | '\r' :: '\n' :: _ => true
  | _ => false

/-- The content of a string with escapes. Over several lines, line ends count as line feeds, and
after a backslash at the end of a line all is skipped up to the next visible character. -/
def unescape? (multiline skipping : Bool) : List Char → Option (List Char)
  | [] => some []
  | '\r' :: '\n' :: rest =>
    if !multiline then none
    else if skipping then unescape? multiline true rest
    else (unescape? multiline false rest).map ('\n' :: ·)
  | '\\' :: 'u' :: a :: b :: c :: d :: rest => do
    let x ← scalar? (← Text.hexNumber? [a, b, c, d])
    (unescape? multiline false rest).map (x :: ·)
  | '\\' :: 'U' :: a :: b :: c :: d :: e :: f :: g :: h :: rest => do
    let x ← scalar? (← Text.hexNumber? [a, b, c, d, e, f, g, h])
    (unescape? multiline false rest).map (x :: ·)
  | '\\' :: e :: rest =>
    if multiline && continues (e :: rest) then unescape? multiline true (e :: rest)
    else do
      let x ← simpleEscape? e
      (unescape? multiline false rest).map (x :: ·)
  | c :: rest =>
    if skipping && (isBlank c || c = '\n') then unescape? multiline true rest
    else if (isPlain c && c ≠ '\\') || (multiline && c = '\n') then
      (unescape? multiline false rest).map (c :: ·)
    else none

/-- What stands before the quote that ends a string with escapes, and what follows it. -/
def basicBody : List Char → Option (List Char × List Char)
  | [] => none
  | '"' :: rest => some ([], rest)
  | '\\' :: c :: rest => (basicBody rest).map fun (body, rest) => ('\\' :: c :: body, rest)
  | c :: rest => (basicBody rest).map fun (body, rest) => (c :: body, rest)

/-- Of the quotes in front of a closing triple at most two belong to the string. -/
def surplusQuotes (q : Char) : List Char → List Char × List Char
  | a :: b :: rest => if a = q then (if b = q then ([a, b], rest) else ([a], b :: rest))
    else ([], a :: b :: rest)
  | [a] => if a = q then ([a], []) else ([], [a])
  | [] => ([], [])

/-- What stands before the three quotes that end a string, and what follows them. A backslash keeps
the character behind it from counting if `escapes` is set. -/
def multilineBody (q : Char) (escapes : Bool) : List Char → Option (List Char × List Char)
  | a :: b :: c :: rest =>
    if a = q ∧ b = q ∧ c = q then some (surplusQuotes q rest)
    else if escapes && a = '\\' then
      (multilineBody q escapes (c :: rest)).map fun (body, rest) => (a :: b :: body, rest)
    else (multilineBody q escapes (b :: c :: rest)).map fun (body, rest) => (a :: body, rest)
  | _ => none

/-- The content of a string of several lines without escapes. -/
def verbatim? : List Char → Option (List Char)
  | [] => some []
  | '\r' :: '\n' :: rest => (verbatim? rest).map ('\n' :: ·)
  | c :: rest => if isPlain c || c = '\n' then (verbatim? rest).map (c :: ·) else none

/-- A line end right behind three opening quotes does not count. -/
def dropLineEnd : List Char → List Char
  | '\n' :: rest => rest
  | '\r' :: '\n' :: rest => rest
  | cs => cs

/-- A string on one line. -/
def lineString? : List Char → Option (List Char × List Char)
  | '"' :: rest => do
    let (body, rest) ← basicBody rest
    some (← unescape? false false body, rest)
  | '\'' :: rest =>
    let isBody := fun c => isPlain c && c ≠ '\''
    match rest.dropWhile isBody with
    | '\'' :: after => some (rest.takeWhile isBody, after)
    | _ => none
  | _ => none

/-- A string. -/
def string? : List Char → Option (List Char × List Char)
  | '"' :: '"' :: '"' :: rest => do
    let (body, rest) ← multilineBody '"' true (dropLineEnd rest)
    some (← unescape? true false body, rest)
  | '\'' :: '\'' :: '\'' :: rest => do
    let (body, rest) ← multilineBody '\'' false (dropLineEnd rest)
    some (← verbatim? body, rest)
  | cs => lineString? cs

def isBareKeyChar (c : Char) : Bool := c.isAlphanum || c == '_' || c == '-'

/-- A part of a key: bare, or a string on one line. -/
def keyPart? (cs : List Char) : Option (String × List Char) :=
  match cs.head? with
  | some '"' | some '\'' => (lineString? cs).map fun (s, rest) => (String.ofList s, rest)
  | _ =>
    let part := cs.takeWhile isBareKeyChar
    if part.isEmpty then none else some (String.ofList part, cs.dropWhile isBareKeyChar)

/-- The parts of a key, between dots and blanks. The first argument bounds their number. -/
def keyParts? : Nat → List Char → Option (List String × List Char)
  | 0, _ => none
  | n + 1, cs => do
    let (part, rest) ← keyPart? (skipBlanks cs)
    match skipBlanks rest with
    | '.' :: rest => (keyParts? n rest).map fun (parts, rest) => (part :: parts, rest)
    | rest => some ([part], rest)

/-- A key has fewer than eighty parts. -/
def key? (cs : List Char) : Option (List String × List Char) := keyParts? 79 cs

end Keyboards.Toml
