import ControlRelay.Decimal.Reading
import ControlRelay.Toml.Document

/-!
# Reading TOML

`Toml.parse?` reads a TOML 1.0 document.  Every reader takes the characters that are left and
gives back what it read and the characters after it, or nothing where the text is not TOML.
The `fuel` of a reader that calls itself bounds the characters it may read.
-/

namespace ControlRelay.Toml

/-- Blanks within a line. -/
def isWs (c : Char) : Bool := c = ' ' || c = '\t'

/-- What follows the blanks at the beginning. -/
def skipWs (s : List Char) : List Char := s.dropWhile isWs

/-- Characters above ASCII, which comments and texts may hold. -/
def isNonAscii (c : Char) : Bool := 0x80 ≤ c.toNat

/-- Characters that may stand in a line besides controls: the tab, printable ASCII and all
beyond ASCII. -/
def isLineChar (c : Char) : Bool :=
  c = '\t' || 0x20 ≤ c.toNat && c.toNat ≤ 0x7e || isNonAscii c

/-- Reads a line end, if one is next. -/
def newline? : List Char → Option (List Char)
  | '\n' :: s => some s
  | '\r' :: '\n' :: s => some s
  | _ => none

/-- Skips blanks and line ends. -/
def skipBlankLines : Nat → List Char → List Char
  | 0, s => s
  | fuel + 1, s =>
    let s := skipWs s
    match newline? s with
    | some rest => skipBlankLines fuel rest
    | none => s

/-- Skips a comment, if one begins here. -/
def skipComment : List Char → List Char
  | '#' :: s => s.dropWhile isLineChar
  | s => s

/-- Skips the rest of a line that holds nothing but blanks and a comment. -/
def lineEnd? (s : List Char) : Option (List Char) :=
  match skipComment (skipWs s) with
  | [] => some []
  | s => newline? s

/-- Skips blanks, comments and line ends. -/
def skipLines : Nat → List Char → List Char
  | 0, s => s
  | fuel + 1, s =>
    let s := skipComment (skipWs s)
    match newline? s with
    | some rest => skipLines fuel rest
    | none => s

/-! ## Strings -/

/-- The value of a hexadecimal digit. -/
def hexValue? (c : Char) : Option Nat :=
  let n := c.toNat
  if 0x30 ≤ n ∧ n ≤ 0x39 then some (n - 0x30)
  else if 0x61 ≤ n ∧ n ≤ 0x66 then some (n - 0x61 + 10)
  else if 0x41 ≤ n ∧ n ≤ 0x46 then some (n - 0x41 + 10)
  else none

/-- The character whose code point is written with `count` hexadecimal digits. -/
def codePoint? (count : Nat) (s : List Char) : Option (Char × List Char) := do
  let digits ← (s.take count).mapM hexValue?
  let n := digits.foldl (fun acc d => acc * 16 + d) 0
  if digits.length = count ∧ (n < 0xd800 ∨ 0xdfff < n ∧ n < 0x110000) then
    some (Char.ofNat n, s.drop count)
  else none

/-- The character that an escape stands for, read after the backslash. -/
def escape? : List Char → Option (Char × List Char)
  | 'b' :: s => some ('\x08', s)
  | 'f' :: s => some ('\x0c', s)
  | 'n' :: s => some ('\n', s)
  | 'r' :: s => some ('\r', s)
  | 't' :: s => some ('\t', s)
  | '"' :: s => some ('"', s)
  | '\\' :: s => some ('\\', s)
  | 'u' :: s => codePoint? 4 s
  | 'U' :: s => codePoint? 8 s
  | _ => none

/-- The rest of a string in quotes; `acc` holds the characters read, the last one first. -/
def basicBody? : Nat → List Char → List Char → Option (List Char × List Char)
  | 0, _, _ => none
  | _, _, [] => none
  | fuel + 1, acc, c :: s =>
    if c = '"' then some (acc.reverse, s)
    else if c = '\\' then
      match escape? s with
      | some (e, s) => basicBody? fuel (e :: acc) s
      | none => none
    else if isLineChar c then basicBody? fuel (c :: acc) s
    else none

/-- The rest of a string in apostrophes. -/
def literalBody? : List Char → List Char → Option (List Char × List Char)
  | _, [] => none
  | acc, c :: s =>
    if c = '\'' then some (acc.reverse, s)
    else if isLineChar c then literalBody? (c :: acc) s
    else none

/-- Up to five quotes at the end of a string over several lines: three end it, and those
before belong to it.  Fewer than three do not end it. -/
def closingQuotes? (q : Char) (s : List Char) : Option (Nat × List Char) :=
  let run := (s.takeWhile (· = q)).length
  if run < 3 then none
  else
    let taken := min run 5
    some (taken - 3, s.drop taken)

/-- The rest of a string over several lines; `literal` strings have no escapes. -/
def multilineBody? (q : Char) (literal : Bool) :
    Nat → List Char → List Char → Option (List Char × List Char)
  | 0, _, _ => none
  | _, _, [] => none
  | fuel + 1, acc, c :: s =>
    if c = q then
      match closingQuotes? q (c :: s) with
      | some (more, rest) => some (acc.reverse ++ List.replicate more q, rest)
      | none => multilineBody? q literal fuel (c :: acc) s
    else if c = '\\' && !literal then
      match newline? (skipWs s) with
      | some rest =>
        multilineBody? q literal fuel acc (skipBlankLines (rest.length + 1) rest)
      | none =>
        match escape? s with
        | some (e, s) => multilineBody? q literal fuel (e :: acc) s
        | none => none
    else
      match newline? (c :: s) with
      | some rest => multilineBody? q literal fuel ('\n' :: acc) rest
      | none => if isLineChar c then multilineBody? q literal fuel (c :: acc) s else none

/-- Skips the line end right after the opening quotes. -/
def afterOpening (s : List Char) : List Char := (newline? s).getD s

/-- A string of any of the four kinds. -/
def string? (s : List Char) : Option (String × List Char) :=
  let body : Option (List Char × List Char) :=
    match s with
    | '"' :: '"' :: '"' :: s => multilineBody? '"' false (s.length + 1) [] (afterOpening s)
    | '"' :: s => basicBody? (s.length + 1) [] s
    | '\'' :: '\'' :: '\'' :: s => multilineBody? '\'' true (s.length + 1) [] (afterOpening s)
    | '\'' :: s => literalBody? [] s
    | _ => none
  body.map fun (cs, rest) => (String.ofList cs, rest)

/-! ## Keys -/

/-- Characters that a key may hold without quotes. -/
def isBareKeyChar (c : Char) : Bool := c.isAlphanum || c = '_' || c = '-'

/-- One part of a key: bare, or a string on one line. -/
def keyPart? (s : List Char) : Option (String × List Char) :=
  match s with
  | '"' :: s => (basicBody? (s.length + 1) [] s).map fun (cs, rest) => (String.ofList cs, rest)
  | '\'' :: s => (literalBody? [] s).map fun (cs, rest) => (String.ofList cs, rest)
  | s =>
    match s.takeWhile isBareKeyChar with
    | [] => none
    | cs => some (String.ofList cs, s.dropWhile isBareKeyChar)

/-- The parts of a key, with blanks around each and points in between. -/
def key? : Nat → List Char → Option (List String × List Char)
  | 0, _ => none
  | fuel + 1, s =>
    match keyPart? (skipWs s) with
    | none => none
    | some (part, s) =>
      match skipWs s with
      | '.' :: s => (key? fuel s).map fun (parts, rest) => (part :: parts, rest)
      | s => some ([part], s)

/-- Keys of eighty parts and more, and values nested as deep, are refused. -/
def nestingLimit : Nat := 80

/-- A whole key: the parts before the last one, and the last. -/
def path? (s : List Char) : Option ((List String × String) × List Char) := do
  let (parts, rest) ← key? (s.length + 1) s
  let last ← parts.getLast?
  if parts.length < nestingLimit then some ((parts.dropLast, last), rest) else none

/-! ## Numbers and dates -/

/-- Decimal digits. -/
def isDec (c : Char) : Bool := c.isDigit

/-- Digits with single underscores between them; gives the digits. -/
def underscored? (isDigit : Char → Bool) : Nat → List Char → Option (List Char × List Char)
  | 0, _ => none
  | fuel + 1, s =>
    match s with
    | [] => none
    | c :: s =>
      if !isDigit c then none
      else
        match s with
        | '_' :: s => (underscored? isDigit fuel s).map fun (cs, rest) => (c :: cs, rest)
        | d :: _ =>
          if isDigit d then (underscored? isDigit fuel s).map fun (cs, rest) => (c :: cs, rest)
          else some ([c], s)
        | [] => some ([c], [])

/-- Reads decimal digits, between which underscores may stand. -/
def digits? (s : List Char) : Option (List Char × List Char) := underscored? isDec (s.length + 1) s

/-- The number that decimal digits stand for. -/
def decValue (cs : List Char) : Nat := cs.foldl (fun acc c => acc * 10 + (c.toNat - 0x30)) 0

/-- An integer in another base, after its mark. -/
def radix? (base : Nat) (s : List Char) : Option (Toml × List Char) := do
  let isDigit (c : Char) : Bool :=
    match hexValue? c with
    | some d => d < base
    | none => false
  let (cs, rest) ← underscored? isDigit (s.length + 1) s
  let n := cs.foldl (fun acc c => acc * base + (hexValue? c).getD 0) 0
  if n < 0x8000000000000000 then some (.integer n, rest) else none

/-- Two decimal digits with a value from `least` to `greatest`. -/
def twoDigits? (least greatest : Nat) : List Char → Option (Nat × List Char)
  | a :: b :: s =>
    let n := decValue [a, b]
    if isDec a && isDec b && least ≤ n && n ≤ greatest then some (n, s) else none
  | _ => none

/-- A character that has to be next. -/
def expect? (c : Char) : List Char → Option (List Char)
  | d :: s => if c = d then some s else none
  | [] => none

/-- The rest of a time of day, after its hour. -/
def afterHour? (s : List Char) : Option (List Char) := do
  let s ← expect? ':' s
  let (_, s) ← twoDigits? 0 59 s
  let s ← expect? ':' s
  let (_, s) ← twoDigits? 0 60 s
  match s with
  | '.' :: s =>
    match s.takeWhile isDec with
    | [] => none
    | _ => some (s.dropWhile isDec)
  | s => some s

/-- The distance from universal time, if one is next. -/
def offset? : List Char → Option (List Char)
  | 'Z' :: s => some s
  | 'z' :: s => some s
  | c :: s =>
    if c = '+' || c = '-' then do
      let (_, s) ← twoDigits? 0 23 s
      let s ← expect? ':' s
      let (_, s) ← twoDigits? 0 59 s
      some s
    else some (c :: s)
  | [] => some []

/-- How many days a month has. -/
def daysOfMonth (year month : Nat) : Nat :=
  if month = 2 then
    if year % 4 = 0 && (year % 100 ≠ 0 || year % 400 = 0) then 29 else 28
  else if month = 4 || month = 6 || month = 9 || month = 11 then 30
  else 31

/-- The rest of a date with its time, after the year. -/
def afterYear? (year : Nat) (s : List Char) : Option (List Char) := do
  let s ← expect? '-' s
  let (month, s) ← twoDigits? 1 12 s
  let s ← expect? '-' s
  let (_, s) ← twoDigits? 1 (daysOfMonth year month) s
  match s with
  | c :: rest =>
    if c = 'T' || c = 't' || c = ' ' then
      match twoDigits? 0 23 rest with
      | some (_, ':' :: rest) => (afterHour? (':' :: rest)).bind offset?
      | _ => some s
    else some s
  | [] => some []

/-- A date or a time, if digits of the right number and a mark say that one begins here. -/
def datetime? (s : List Char) : Option (Option (List Char)) :=
  let run := s.takeWhile isDec
  match run.length, s.drop run.length with
  | 4, '-' :: _ => some (afterYear? (decValue run) (s.drop 4))
  | 2, ':' :: _ =>
    some (if decValue run < 24 then afterHour? (s.drop 2) else none)
  | _, _ => none

/-- The exponent of a float, after its mark. -/
def exponent? (s : List Char) : Option (Int × List Char) := do
  let (negative, s) := match s with
    | '-' :: s => (true, s)
    | '+' :: s => (false, s)
    | s => (false, s)
  let (cs, rest) ← digits? s
  let n : Int := decValue cs
  some (if negative then -n else n, rest)

/-- A float; one past the largest is refused, and one below the smallest is infinite. -/
def ofDecimal? (negative : Bool) (digits : Nat) (exponent : Int) (rest : List Char) :
    Option (Toml × List Char) :=
  let x := Decimal.nearest digits exponent
  if x.isInf && !negative then none else some (.float (if negative then -x else x), rest)

/-- A number in decimal digits, after its sign. -/
def decimal? (negative : Bool) (s : List Char) : Option (Toml × List Char) := do
  let (cs, rest) ← match s with
    | '0' :: rest => some (['0'], rest)
    | s => digits? s
  match rest with
  | '.' :: rest =>
    let (fraction, rest) ← digits? rest
    let digits := decValue (cs ++ fraction)
    let shift : Int := -(fraction.length : Int)
    match rest with
    | c :: after =>
      if c = 'e' || c = 'E' then
        let (e, rest) ← exponent? after
        ofDecimal? negative digits (shift + e) rest
      else ofDecimal? negative digits shift rest
    | [] => ofDecimal? negative digits shift []
  | c :: after =>
    if c = 'e' || c = 'E' then
      let (e, rest) ← exponent? after
      ofDecimal? negative (decValue cs) e rest
    else integer (decValue cs) rest
  | [] => integer (decValue cs) []
where
  /-- An integer of 64 bits. -/
  integer (n : Nat) (rest : List Char) : Option (Toml × List Char) :=
    if negative then if n ≤ 0x8000000000000000 then some (.integer (-(n : Int)), rest) else none
    else if n < 0x8000000000000000 then some (.integer n, rest)
    else none

/-- A number after its sign, which may be infinite or not a number. -/
def signed? (negative : Bool) (s : List Char) : Option (Toml × List Char) :=
  match s with
  | 'i' :: 'n' :: 'f' :: s =>
    let infinite := Float.ofBits 0x7ff0000000000000
    some (.float (if negative then -infinite else infinite), s)
  | 'n' :: 'a' :: 'n' :: s => some (.float (Float.ofBits 0x7ff8000000000000), s)
  | s => decimal? negative s

/-- A number or a date. -/
def number? (s : List Char) : Option (Toml × List Char) :=
  match s with
  | '+' :: s => signed? false s
  | '-' :: s => signed? true s
  | '0' :: 'x' :: s => radix? 16 s
  | '0' :: 'o' :: s => radix? 8 s
  | '0' :: 'b' :: s => radix? 2 s
  | s =>
    match datetime? s with
    | some rest => rest.map (.datetime, ·)
    | none => signed? false s

/-! ## Values -/

/-- A literal name that has to be next. -/
def name? (name : List Char) (s : List Char) : Option (List Char) :=
  if name.isPrefixOf s then some (s.drop name.length) else none

mutual

/-- A value; `depth` counts the arrays and inline tables around it. -/
def value? : Nat → Nat → List Char → Option (Toml × List Char)
  | 0, _, _ => none
  | fuel + 1, depth, s =>
    match s with
    | [] => none
    | c :: rest =>
      if c = '"' || c = '\'' then (string? s).map fun (text, rest) => (.string text, rest)
      else if c = '[' then
        if depth + 1 < nestingLimit then items? fuel (depth + 1) [] rest else none
      else if c = '\x7b' then
        if depth + 1 < nestingLimit then
          match skipWs rest with
          | '\x7d' :: rest => some (.table [], rest)
          | rest => pairs? fuel (depth + 1) [] rest
        else none
      else if c = 't' then (name? "true".toList s).map (.bool true, ·)
      else if c = 'f' then (name? "false".toList s).map (.bool false, ·)
      else number? s

/-- The items of an array up to its end, the last one read first in `acc`. -/
def items? : Nat → Nat → List Toml → List Char → Option (Toml × List Char)
  | 0, _, _, _ => none
  | fuel + 1, depth, acc, s =>
    match skipLines (s.length + 1) s with
    | ']' :: rest => some (.array acc.reverse, rest)
    | s =>
      match value? fuel depth s with
      | none => none
      | some (v, s) =>
        match skipLines (s.length + 1) s with
        | ',' :: s => items? fuel depth (v :: acc) s
        | ']' :: s => some (.array (v :: acc).reverse, s)
        | _ => none

/-- The pairs of an inline table up to its end. -/
def pairs? : Nat → Nat → Tree → List Char → Option (Toml × List Char)
  | 0, _, _, _ => none
  | fuel + 1, depth, acc, s =>
    match path? s with
    | some ((path, key), '=' :: s) =>
      match value? fuel depth (skipWs s) with
      | none => none
      | some (v, s) =>
        match Tree.setKey? path key v acc with
        | none => none
        | some acc =>
          match skipWs s with
          | ',' :: s => pairs? fuel depth acc s
          | '\x7d' :: s => some ((Item.table false false acc).toToml, s)
          | _ => none
    | _ => none

end

/-! ## Documents -/

/-- One line that is not blank: a header or a key with its value. -/
def line? (d : Document) (s : List Char) : Option (Document × List Char) := do
  match s with
  | '[' :: '[' :: s =>
    let ((path, key), rest) ← path? s
    let rest ← name? [']', ']'] rest
    some (← d.openArrayTable? (path ++ [key]), ← lineEnd? rest)
  | '[' :: s =>
    let ((path, key), rest) ← path? s
    let rest ← expect? ']' rest
    some (← d.openTable? (path ++ [key]), ← lineEnd? rest)
  | s =>
    let ((path, key), rest) ← path? s
    let rest ← expect? '=' rest
    let (v, rest) ← value? (2 * rest.length + 2) 0 (skipWs rest)
    some (← d.setKey? path key v, ← lineEnd? rest)

/-- Reads the lines of a document. -/
def lines? : Nat → Document → List Char → Option Document
  | 0, _, _ => none
  | fuel + 1, d, s =>
    match skipWs s with
    | [] => some d
    | '#' :: s =>
      match lineEnd? ('#' :: s) with
      | some rest => lines? fuel d rest
      | none => none
    | c :: s =>
      match newline? (c :: s) with
      | some rest => lines? fuel d rest
      | none =>
        match line? d (c :: s) with
        | some (d, rest) => lines? fuel d rest
        | none => none

/-- Reads a TOML document, which may begin with a byte order mark. -/
def parse? (text : String) : Option Toml :=
  let s := match text.toList with
    | '\ufeff' :: s => s
    | s => s
  (lines? (s.length + 1) {} s).bind Document.finish?

end ControlRelay.Toml
