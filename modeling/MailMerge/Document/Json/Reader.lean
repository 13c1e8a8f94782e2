import MailMerge.Document.Json.Number

/-!
# Reading a JSON text

A reader takes its part off the front of the text and returns the rest. Containers
nest to 127 levels. Each function spends one unit of fuel for every step; a text of
`n` characters needs no more than `2 * n + 2`.
-/

namespace MailMerge

namespace Json

/-- The four blanks that may stand between tokens. -/
def isSpace (c : Char) : Bool := c == ' ' || c == '\n' || c == '\t' || c == '\r'

def dropSpace (cs : List Char) : List Char := cs.dropWhile isSpace

-- ---------------------------------------------------------------------------
-- Strings
-- ---------------------------------------------------------------------------

def hexValue? (c : Char) : Option Nat :=
  if '0' ≤ c ∧ c ≤ '9' then some (c.toNat - '0'.toNat)
  else if 'a' ≤ c ∧ c ≤ 'f' then some (c.toNat - 'a'.toNat + 10)
  else if 'A' ≤ c ∧ c ≤ 'F' then some (c.toNat - 'A'.toNat + 10)
  else none

/-- The number four hexadecimal digits denote. -/
def hex4? (a b c d : Char) : Option Nat := do
  let a ← hexValue? a
  let b ← hexValue? b
  let c ← hexValue? c
  let d ← hexValue? d
  some (4096 * a + 256 * b + 16 * c + d)

/-- What a backslash and one character stand for. -/
def escaped? (c : Char) : Option Char :=
  match c with
  | '"' => some '"'
  | '\\' => some '\\'
  | '/' => some '/'
  | 'b' => some '\x08'
  | 'f' => some '\x0c'
  | 'n' => some '\n'
  | 'r' => some '\r'
  | 't' => some '\t'
  | _ => none

def isHighSurrogate (n : Nat) : Bool := 0xD800 ≤ n && n < 0xDC00

def isLowSurrogate (n : Nat) : Bool := 0xDC00 ≤ n && n < 0xE000

/-- The rest of a string behind its opening quote, up to the closing one. Code points
beyond 16 bits are escaped as two surrogates, which may not stand alone. -/
def stringRest? : List Char → Option (List Char × List Char)
  | [] => none
  | '"' :: cs => some ([], cs)
  | '\\' :: 'u' :: a :: b :: c :: d :: cs =>
    match hex4? a b c d with
    | none => none
    | some n =>
      if isLowSurrogate n then none
      else if isHighSurrogate n then
        match cs with
        | '\\' :: 'u' :: e :: f :: g :: h :: cs =>
          match hex4? e f g h with
          | none => none
          | some m =>
            if isLowSurrogate m then
              (stringRest? cs).map fun r =>
                (Char.ofNat (0x10000 + (n - 0xD800) * 0x400 + (m - 0xDC00)) :: r.1, r.2)
            else none
        | _ => none
      else (stringRest? cs).map fun r => (Char.ofNat n :: r.1, r.2)
  | '\\' :: c :: cs =>
    match escaped? c with
    | none => none
    | some e => (stringRest? cs).map fun r => (e :: r.1, r.2)
  | c :: cs =>
    if c == '\\' || c.toNat < 0x20 then none
    else (stringRest? cs).map fun r => (c :: r.1, r.2)

-- ---------------------------------------------------------------------------
-- Values
-- ---------------------------------------------------------------------------

/-- A given word at the start of a text, taken off. -/
def dropWord? : List Char → List Char → Option (List Char)
  | [], cs => some cs
  | _ :: _, [] => none
  | w :: ws, c :: cs => if w == c then dropWord? ws cs else none

/-- A name with its closing quote read, then a colon. -/
def fieldName? : List Char → Option (String × List Char)
  | '"' :: cs =>
    match stringRest? cs with
    | none => none
    | some (name, cs) =>
      match dropSpace cs with
      | ':' :: cs => some (String.ofList name, cs)
      | _ => none
  | _ => none

mutual

/-- A value, blanks before it aside; `depth` more containers may be opened. -/
def value? : Nat → Nat → List Char → Option (Document × List Char)
  | 0, _, _ => none
  | fuel + 1, depth, cs =>
    match dropSpace cs with
    | [] => none
    | '"' :: cs => (stringRest? cs).map fun r => (.text (String.ofList r.1), r.2)
    | '[' :: cs =>
      if depth == 0 then none
      else
        match dropSpace cs with
        | ']' :: cs => some (.list [], cs)
        | cs => (items? fuel (depth - 1) cs).map fun r => (.list r.1, r.2)
    | '{' :: cs =>
      if depth == 0 then none
      else
        match dropSpace cs with
        | '}' :: cs => some (.record [], cs)
        | cs => (fields? fuel (depth - 1) cs).map fun r => (.record r.1, r.2)
    | 'n' :: cs => (dropWord? "ull".toList cs).map fun cs => (.null, cs)
    | 't' :: cs => (dropWord? "rue".toList cs).map fun cs => (.bool true, cs)
    | 'f' :: cs => (dropWord? "alse".toList cs).map fun cs => (.bool false, cs)
    | cs => (number? cs).map fun r => (.scalar r.1, r.2)

/-- One or more values up to the closing bracket. -/
def items? : Nat → Nat → List Char → Option (List Document × List Char)
  | 0, _, _ => none
  | fuel + 1, depth, cs =>
    match value? fuel depth cs with
    | none => none
    | some (v, cs) =>
      match dropSpace cs with
      | ']' :: cs => some ([v], cs)
      | ',' :: cs => (items? fuel depth cs).map fun r => (v :: r.1, r.2)
      | _ => none

/-- One or more named values up to the closing brace. -/
def fields? : Nat → Nat → List Char → Option (List (String × Document) × List Char)
  | 0, _, _ => none
  | fuel + 1, depth, cs =>
    match fieldName? (dropSpace cs) with
    | none => none
    | some (name, cs) =>
      match value? fuel depth cs with
      | none => none
      | some (v, cs) =>
        match dropSpace cs with
        | '}' :: cs => some ([(name, v)], cs)
        | ',' :: cs => (fields? fuel depth cs).map fun r => ((name, v) :: r.1, r.2)
        | _ => none

end

/-- Levels to which containers may nest. -/
def maxDepth : Nat := 127

/-- The document a JSON text denotes, if it is well formed. -/
def read? (s : String) : Option Document :=
  let cs := s.toList
  match value? (2 * cs.length + 2) maxDepth cs with
  | some (v, rest) => if (dropSpace rest).isEmpty then some v else none
  | none => none

end Json

end MailMerge
