import MailMerge.Predicate.Text
import Mathlib.Data.List.Basic

/-!
# The tokens of a query

The text of a predicate is read by the rules of the query language. What stands between double
quotes is a name and what stands between single quotes a literal; inside either, a quote that
is written twice is one quote of the text, and no other character means anything. Outside
quotes there are words, signs of comparison, parentheses, and question marks that stand for
values. No other character can stand there.
-/

namespace MailMerge

namespace Query

inductive Lexeme where
  | name (column : String)
  | literal (text : String)
  /-- A place for a value. -/
  | place
  | opening
  | closing
  | word (letters : String)
  | sign (chars : String)
deriving DecidableEq

inductive Quote where
  | double
  | single

def Quote.char : Quote → Char
  | .double => '"'
  | .single => '\''

/-- What a quoted text is. -/
def Quote.token (q : Quote) (read : List Char) : Lexeme :=
  match q with
  | .double => .name (String.ofList read)
  | .single => .literal (String.ofList read)

-- ---------------------------------------------------------------------------
-- Scanning
-- ---------------------------------------------------------------------------

/-- The token that is being read. -/
inductive Pending where
  | nothing
  | word (read : List Char)
  | sign (read : List Char)
  | quoted (q : Quote) (read : List Char)
  /-- A quote has been read; it ends the text unless another one follows. -/
  | ended (q : Quote) (read : List Char)

/-- The tokens read so far. -/
structure Scanner where
  done : List Lexeme
  pending : Pending

def isWordChar (c : Char) : Bool := c.isAlphanum || c == '_'

def isSignChar (c : Char) : Bool := c == '=' || c == '!' || c == '<' || c == '>'

def isBlank (c : Char) : Bool := c == ' ' || c == '\t' || c == '\n' || c == '\r'

/-- A question mark is a place, unless it is one with a number. -/
def wordToken (read : List Char) : Lexeme :=
  if read = ['?'] then .place else .word (String.ofList read)

namespace Scanner

/-- The tokens when the text ends here; a quoted text has to be ended before. -/
def finish? (s : Scanner) : Option (List Lexeme) :=
  match s.pending with
  | .nothing => some s.done
  | .word read => some (s.done ++ [wordToken read])
  | .sign read => some (s.done ++ [.sign (String.ofList read)])
  | .quoted .. => none
  | .ended q read => some (s.done ++ [q.token read])

/-- Behind complete tokens a character begins another one. -/
def start? (done : List Lexeme) (c : Char) : Option Scanner :=
  if isBlank c then some ⟨done, .nothing⟩
  else if c = '(' then some ⟨done ++ [.opening], .nothing⟩
  else if c = ')' then some ⟨done ++ [.closing], .nothing⟩
  else if c = '"' then some ⟨done, .quoted .double []⟩
  else if c = '\'' then some ⟨done, .quoted .single []⟩
  else if isSignChar c then some ⟨done, .sign [c]⟩
  else if c = '?' || isWordChar c then some ⟨done, .word [c]⟩
  else none

/-- A character belongs to the token that is being read, or it ends the token. -/
def step? (s : Scanner) (c : Char) : Option Scanner :=
  match s.pending with
  | .quoted q read =>
    some { s with pending := if c = q.char then .ended q read else .quoted q (read ++ [c]) }
  | .ended q read =>
    if c = q.char then some { s with pending := .quoted q (read ++ [c]) }
    else s.finish?.bind (start? · c)
  | .word read =>
    if isWordChar c then some { s with pending := .word (read ++ [c]) }
    else s.finish?.bind (start? · c)
  | .sign read =>
    if isSignChar c then some { s with pending := .sign (read ++ [c]) }
    else s.finish?.bind (start? · c)
  | .nothing => start? s.done c

end Scanner

/-- The tokens of a text behind others. -/
def tokensAfter? (done : List Lexeme) (cs : List Char) : Option (List Lexeme) :=
  (cs.foldlM Scanner.step? ⟨done, .nothing⟩).bind Scanner.finish?

/-- The tokens of a text. -/
def tokens? (s : String) : Option (List Lexeme) := tokensAfter? [] s.toList

-- ---------------------------------------------------------------------------
-- Texts and their tokens
-- ---------------------------------------------------------------------------

/-- A text has the given tokens, whatever tokens are before it. -/
def Reads (s : String) (ts : List Lexeme) : Prop :=
  ∀ done, tokensAfter? done s.toList = some (done ++ ts)

variable {s s' : String} {ts ts' : List Lexeme}

theorem Reads.tokens? (h : Reads s ts) : tokens? s = some ts := h []

theorem Reads.empty : Reads "" [] := fun done => congrArg some (List.append_nil done).symm

/-- A blank or a closing parenthesis goes on with no token outside quotes. -/
theorem Scanner.step?_of_finish? {s : Scanner} {c : Char} (hc : c = ' ' ∨ c = ')')
    (h : s.finish? = some ts) : s.step? c = start? ts c := by
  obtain ⟨done, pending⟩ := s
  cases pending with
  | nothing => cases h; rfl
  | word read => cases h; rcases hc with rfl | rfl <;> rfl
  | sign read => cases h; rcases hc with rfl | rfl <;> rfl
  | quoted q read => cases h
  | ended q read => cases h; rcases hc with rfl | rfl <;> cases q <;> rfl

theorem Reads.exists_scanner (h : Reads s ts) (done : List Lexeme) :
    ∃ scanner, s.toList.foldlM Scanner.step? ⟨done, .nothing⟩ = some scanner ∧
      scanner.finish? = some (done ++ ts) :=
  Option.bind_eq_some_iff.mp (h done)

/-- Two texts with a blank between them. -/
theorem Reads.blank (h : Reads s ts) (h' : Reads s' ts') :
    Reads (s ++ " " ++ s') (ts ++ ts') := by
  intro done
  obtain ⟨scanner, hscan, hfinish⟩ := h.exists_scanner done
  have hstep : " ".toList.foldlM Scanner.step? scanner = some ⟨done ++ ts, .nothing⟩ := by
    change (scanner.step? ' ').bind _ = _
    rw [Scanner.step?_of_finish? (.inl rfl) hfinish]
    rfl
  have hrest := h' (done ++ ts)
  rw [tokensAfter?, List.append_assoc] at hrest
  rw [tokensAfter?, String.toList_append, String.toList_append, List.foldlM_append,
    List.foldlM_append, hscan, Option.bind_eq_bind, Option.bind_some, hstep, Option.bind_some,
    hrest]

/-- A text between parentheses. -/
theorem Reads.enclosed (h : Reads s ts) :
    Reads ("(" ++ s ++ ")") (.opening :: (ts ++ [.closing])) := by
  intro done
  obtain ⟨scanner, hscan, hfinish⟩ := h.exists_scanner (done ++ [.opening])
  have hopening : "(".toList.foldlM Scanner.step? ⟨done, .nothing⟩
      = some ⟨done ++ [.opening], .nothing⟩ := rfl
  have hclosing : ")".toList.foldlM Scanner.step? scanner
      = some ⟨done ++ [.opening] ++ ts ++ [.closing], .nothing⟩ := by
    change (scanner.step? ')').bind _ = _
    rw [Scanner.step?_of_finish? (.inr rfl) hfinish]
    rfl
  rw [tokensAfter?, String.toList_append, String.toList_append, List.foldlM_append,
    List.foldlM_append, hopening, Option.bind_eq_bind, Option.bind_some, hscan,
    Option.bind_some, hclosing]
  simp [Scanner.finish?]

/-- What is written between double quotes, a quote of the name twice, is read as the name. -/
theorem Reads.column (n : String) : Reads (PlaceholderStyle.question.column n) [.name n] := by
  -- The induction is on what is left of the name; the scanner holds what has been read of it.
  have hname : ∀ (cs read : List Char) (done : List Lexeme),
      (cs.flatMap PlaceholderStyle.question.columnChar).foldlM Scanner.step?
          ⟨done, .quoted .double read⟩ = some ⟨done, .quoted .double (read ++ cs)⟩ := by
    intro cs
    induction cs with
    | nil =>
      intro read done
      rw [List.append_nil]
      rfl
    | cons c cs ih =>
      intro read done
      have hchar : (PlaceholderStyle.question.columnChar c).foldlM Scanner.step?
          ⟨done, .quoted .double read⟩ = some ⟨done, .quoted .double (read ++ [c])⟩ := by
        by_cases hc : c = '"'
        · subst hc
          rfl
        · simp [PlaceholderStyle.columnChar, hc, Scanner.step?, Quote.char]
      rw [List.flatMap_cons, List.foldlM_append, hchar, Option.bind_eq_bind, Option.bind_some, ih,
        List.append_assoc]
      rfl
  intro done
  rw [tokensAfter?, PlaceholderStyle.column, String.toList_ofList, List.foldlM_cons]
  change ((n.toList.flatMap _ ++ ['"']).foldlM Scanner.step? ⟨done, .quoted .double []⟩).bind _
    = _
  rw [List.foldlM_append, hname, List.nil_append]
  change some (done ++ [Lexeme.name (String.ofList n.toList)]) = _
  rw [String.ofList_toList]

end Query

end MailMerge
