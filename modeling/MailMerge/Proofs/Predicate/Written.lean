import MailMerge.Predicate.Compile
import MailMerge.Proofs.Formula.Fold
import MailMerge.Proofs.Predicate.Lexing

/-!
# Written predicates

Whatever the names of columns and the constants hold, the text of a predicate is read as the
tokens its tree suggests: keywords and signs of the compiler, parentheses that match, and, leaf
by leaf, a name wherever the leaf mentions its variable and a place for every constant.
-/

namespace MailMerge

namespace Query

-- ---------------------------------------------------------------------------
-- Tokens
-- ---------------------------------------------------------------------------

def keywords : List String := ["AND", "OR", "NOT", "LIKE", "ESCAPE", "BETWEEN", "is", "not", "null"]

def signs : List String := ["=", "!=", "<", "<=", ">", ">="]

/-- The empty text, and the character that takes the next one of a pattern as it is. -/
def literals : List String := ["", "\\"]

/-- Whether the compiler uses a token, whatever name a name holds. -/
def Lexeme.IsKnown : Lexeme → Prop
  | .word w => w ∈ keywords
  | .sign s => s ∈ signs
  | .literal s => s ∈ literals
  | .name _ | .place | .opening | .closing => True

def Lexeme.name? : Lexeme → Option String
  | .name n => some n
  | _ => none

/-- Whether a token stands for a column or a constant. -/
def Lexeme.isSite : Lexeme → Bool
  | .name _ | .place => true
  | _ => false

/-- How deep the parentheses are open behind some tokens; none may be closed that is not. -/
def depth? : Nat → List Lexeme → Option Nat
  | d, [] => some d
  | d, .opening :: ts => depth? (d + 1) ts
  | 0, .closing :: _ => none
  | d + 1, .closing :: ts => depth? d ts
  | d, _ :: ts => depth? d ts

-- ---------------------------------------------------------------------------
-- Pieces
-- ---------------------------------------------------------------------------

/-- A text that is one token of the compiler's. -/
structure Piece where
  text : String
  token : Lexeme
  reads : Reads text [token]
  isKnown : token.IsKnown

theorem Reads.keyword {w : String} (h : w ∈ keywords) : Reads w [.word w] := by
  simp only [keywords, List.mem_cons, List.not_mem_nil, or_false] at h
  rcases h with rfl | rfl | rfl | rfl | rfl | rfl | rfl | rfl | rfl <;> exact fun _ => rfl

theorem symbol_mem_signs (o : Comparator) : o.symbol ∈ signs := by
  cases o <;> decide

theorem Reads.symbol (o : Comparator) : Reads o.symbol [.sign o.symbol] := by
  cases o <;> exact fun _ => rfl

namespace Piece

def column (n : String) : Piece :=
  ⟨PlaceholderStyle.question.column n, .name n, .column n, trivial⟩

def word (w : String) (h : w ∈ keywords) : Piece := ⟨w, .word w, .keyword h, h⟩

def symbol (o : Comparator) : Piece :=
  ⟨o.symbol, .sign o.symbol, .symbol o, symbol_mem_signs o⟩

def place : Piece := ⟨PlaceholderStyle.question.placeholder, .place, fun _ => rfl, trivial⟩

def empty : Piece := ⟨"''", .literal "", fun _ => rfl, (by decide : "" ∈ literals)⟩

def backslash : Piece := ⟨"'\\'", .literal "\\", fun _ => rfl, (by decide : "\\" ∈ literals)⟩

end Piece

/-- Pieces are read one by one when blanks stand between them. -/
theorem Reads.pieces (ps : List Piece) :
    Reads (" ".intercalate (ps.map (·.text))) (ps.map (·.token)) := by
  induction ps with
  | nil => exact Reads.empty
  | cons p ps ih =>
    cases ps with
    | nil => exact p.reads
    | cons q ps =>
      rw [List.map_cons, List.map_cons, String.intercalate_cons_cons]
      exact p.reads.blank ih

end Query

open Query

/-- The pieces of a test. -/
def Test.pieces : Test → List Piece
  | .compare c o _ => [.column c, .symbol o, .place]
  | .compareEmpty c o => [.column c, .symbol o, .empty]
  | .like c negated _ =>
    .column c :: (if negated then [.word "NOT" (by decide)] else [])
      ++ [.word "LIKE" (by decide), .place, .word "ESCAPE" (by decide), .backslash]
  | .null c negated =>
    [.column c, .word "is" (by decide)] ++ (if negated then [.word "not" (by decide)] else [])
      ++ [.word "null" (by decide)]
  | .between c negated _ _ =>
    .column c :: (if negated then [.word "NOT" (by decide)] else [])
      ++ [.word "BETWEEN" (by decide), .place, .word "AND" (by decide), .place]

def Test.tokens (t : Test) : List Lexeme := t.pieces.map (·.token)

/-- The column of a test and the places of its values, in order. -/
def Test.sites : Test → List Lexeme
  | .compare c _ _ | .like c _ _ => [.name c, .place]
  | .compareEmpty c _ | .null c _ => [.name c]
  | .between c _ _ _ => [.name c, .place, .place]

namespace Test

theorem write_eq (t : Test) : t.write .question = " ".intercalate (t.pieces.map (·.text)) := by
  apply String.toList_injective
  cases t with
  | compare c o v => simp [write, pieces, Piece.column, Piece.symbol, Piece.place]
  | compareEmpty c o => simp [write, pieces, Piece.column, Piece.symbol, Piece.empty]
  | like c negated pattern =>
    cases negated <;>
      simp [write, pieces, Piece.column, Piece.word, Piece.place, Piece.backslash]
  | null c negated => cases negated <;> simp [write, pieces, Piece.column, Piece.word]
  | between c negated low high =>
    cases negated <;> simp [write, pieces, Piece.column, Piece.word, Piece.place]

theorem reads_write (t : Test) : Reads (t.write .question) t.tokens := by
  rw [t.write_eq]
  exact Reads.pieces t.pieces

theorem isKnown_of_mem_tokens (t : Test) : ∀ x ∈ t.tokens, x.IsKnown := by
  intro x hx
  obtain ⟨p, -, rfl⟩ := List.mem_map.mp hx
  exact p.isKnown

theorem filter_isSite_tokens (t : Test) : t.tokens.filter Lexeme.isSite = t.sites := by
  cases t with
  | compare c o v => rfl
  | compareEmpty c o => rfl
  | like c negated pattern => cases negated <;> rfl
  | null c negated => cases negated <;> rfl
  | between c negated low high => cases negated <;> rfl

theorem depth?_tokens (t : Test) (d : Nat) (ts : List Lexeme) :
    depth? d (t.tokens ++ ts) = depth? d ts := by
  cases t with
  | compare c o v => rfl
  | compareEmpty c o => rfl
  | like c negated pattern => cases negated <;> rfl
  | null c negated => cases negated <;> rfl
  | between c negated low high => cases negated <;> rfl

end Test

-- ---------------------------------------------------------------------------
-- Phrases
-- ---------------------------------------------------------------------------

/-- A text that writes some tests, and its tokens: tests, enclosed, negated and joined. -/
inductive Phrase : List Test → String → List Lexeme → Prop
  | empty : Phrase [] "" []
  | test (t : Test) : Phrase [t] (t.write .question) t.tokens
  | enclosed {tests : List Test} {s : String} {ts : List Lexeme} (h : Phrase tests s ts) :
    Phrase tests ("(" ++ s ++ ")") (.opening :: (ts ++ [.closing]))
  | negated {tests : List Test} {s : String} {ts : List Lexeme} (h : Phrase tests s ts) :
    Phrase tests ("NOT " ++ s) (.word "NOT" :: ts)
  | joined (kind : Conjunction) {tests tests' : List Test} {s s' : String} {ts ts' : List Lexeme}
    (h : Phrase tests s ts) (h' : Phrase tests' s' ts') :
    Phrase (tests ++ tests') (s ++ " " ++ (kind.name ++ " " ++ s')) (ts ++ .word kind.name :: ts')

theorem Conjunction.name_mem_keywords (kind : Conjunction) : kind.name ∈ keywords := by
  cases kind <;> decide

namespace Phrase

variable {tests : List Test} {s : String} {ts : List Lexeme}

theorem reads (h : Phrase tests s ts) : Reads s ts := by
  induction h with
  | empty => exact Reads.empty
  | test t => exact t.reads_write
  | enclosed _ ih => exact ih.enclosed
  | negated _ ih => exact (Reads.keyword (w := "NOT") (by decide)).blank ih
  | joined kind _ _ ih ih' => exact ih.blank ((Reads.keyword kind.name_mem_keywords).blank ih')

theorem isKnown (h : Phrase tests s ts) : ∀ t ∈ ts, t.IsKnown := by
  induction h with
  | empty => exact fun t ht => absurd ht List.not_mem_nil
  | test t => exact t.isKnown_of_mem_tokens
  | @enclosed _ _ ts _ ih =>
    intro t ht
    rcases List.mem_cons.mp ht with rfl | ht
    · exact trivial
    · rcases List.mem_append.mp ht with ht | ht
      · exact ih t ht
      · rw [List.mem_singleton.mp ht]
        exact trivial
  | negated _ ih =>
    refine List.forall_mem_cons.mpr ⟨?_, ih⟩
    exact (by decide : "NOT" ∈ keywords)
  | joined kind _ _ ih ih' =>
    intro t ht
    rcases List.mem_append.mp ht with ht | ht
    · exact ih t ht
    · rcases List.mem_cons.mp ht with rfl | ht
      · exact kind.name_mem_keywords
      · exact ih' t ht

/-- Every parenthesis a phrase opens it closes again, and it closes no other. -/
theorem depth? (h : Phrase tests s ts) :
    ∀ d rest, Query.depth? d (ts ++ rest) = Query.depth? d rest := by
  induction h with
  | empty => exact fun _ _ => rfl
  | test t => exact t.depth?_tokens
  | enclosed _ ih =>
    intro d rest
    rw [List.cons_append, Query.depth?, List.append_assoc, ih]
    rfl
  | negated _ ih =>
    intro d rest
    rw [List.cons_append, Query.depth?.eq_def]
    cases d <;> exact ih _ rest
  | joined kind _ _ ih ih' =>
    intro d rest
    rw [List.append_assoc, ih]
    cases d <;> exact ih' _ rest

theorem filter_isSite (h : Phrase tests s ts) :
    ts.filter Lexeme.isSite = tests.flatMap Test.sites := by
  induction h with
  | empty => rfl
  | test t => rw [t.filter_isSite_tokens, List.flatMap_singleton]
  | enclosed _ ih =>
    rw [List.filter_cons_of_neg (by decide), List.filter_append, ih]
    exact List.append_nil _
  | negated _ ih => exact ih
  | joined kind _ _ ih ih' =>
    rw [List.filter_append, List.filter_cons_of_neg (by simp [Lexeme.isSite]), ih, ih',
      List.flatMap_append]

/-- What is joined stands between parentheses, with the conjunction between two of them. -/
theorem writeJoined (kind : Conjunction) {testss : List (List Test)} {parts : List String}
    (h : List.Forall₂ (fun tests s => ∃ ts, Phrase tests s ts) testss parts) :
    ∃ ts, Phrase testss.flatten (Predicate.writeJoined kind parts) ts := by
  induction h with
  | nil => exact ⟨_, Phrase.empty.enclosed⟩
  | @cons tests s testss parts hs hparts ih =>
    obtain ⟨ts, hs⟩ := hs
    -- A conjunction is written only where another part follows.
    cases hparts with
    | nil =>
      rw [List.flatten_cons, List.flatten_nil, List.append_nil]
      exact ⟨_, hs.enclosed⟩
    | cons hs' hparts =>
      obtain ⟨ts', ih⟩ := ih
      refine ⟨_, cast (congrArg (Phrase _ · _) ?_) (hs.enclosed.joined kind ih)⟩
      apply String.toList_injective
      simp [Predicate.writeJoined]

end Phrase

-- ---------------------------------------------------------------------------
-- Predicates
-- ---------------------------------------------------------------------------

namespace Predicate

mutual

/-- The tests of a predicate, in order. -/
def tests : Predicate → List Test
  | .test t => [t]
  | .join _ tests => tests
  | .group _ members => testsEach members
  | .not p => tests p

def testsEach : List Predicate → List Test
  | [] => []
  | p :: ps => tests p ++ testsEach ps

end

mutual

theorem values_eq (p : Predicate) : p.values = p.tests.flatMap Test.values := by
  match p with
  | .test t => rw [values, tests, List.flatMap_singleton]
  | .join kind tests => rw [values, Predicate.tests]
  | .group kind members => rw [values, tests, valuesEach_eq members]
  | .not p => rw [values, tests, values_eq p]

theorem valuesEach_eq (ps : List Predicate) :
    valuesEach ps = (testsEach ps).flatMap Test.values := by
  match ps with
  | [] => rfl
  | p :: ps => rw [valuesEach, testsEach, List.flatMap_append, values_eq p, valuesEach_eq ps]

end

theorem testsEach_eq (ps : List Predicate) : testsEach ps = (ps.map tests).flatten := by
  induction ps with
  | nil => rfl
  | cons p ps ih => rw [testsEach, ih, List.map_cons, List.flatten_cons]

mutual

/-- The text of a predicate is a phrase of its tests. -/
theorem phrase (p : Predicate) : ∃ ts, Phrase p.tests (p.write .question) ts := by
  match p with
  | .test t => exact ⟨_, .test t⟩
  | .join kind tests =>
    have hparts : List.Forall₂ (fun tests s => ∃ ts, Phrase tests s ts) (tests.map ([·]))
        (tests.map (Test.write .question)) := by
      rw [List.forall₂_map_left_iff, List.forall₂_map_right_iff, List.forall₂_same]
      exact fun t _ => ⟨_, .test t⟩
    have h := Phrase.writeJoined kind hparts
    rwa [← List.flatMap_def, List.flatMap_singleton'] at h
  | .group kind members =>
    obtain ⟨ts, h⟩ := Phrase.writeJoined kind (phraseEach members)
    rw [tests, testsEach_eq]
    exact ⟨_, h.enclosed⟩
  | .not p =>
    obtain ⟨ts, h⟩ := phrase p
    have hsplit : (Predicate.not p).write .question
        = "(" ++ ("NOT " ++ ("(" ++ p.write .question ++ ")")) ++ ")" := by
      apply String.toList_injective
      simp [write]
    rw [hsplit]
    exact ⟨_, h.enclosed.negated.enclosed⟩

theorem phraseEach (ps : List Predicate) :
    List.Forall₂ (fun tests s => ∃ ts, Phrase tests s ts) (ps.map tests)
      (writeEach .question ps) := by
  match ps with
  | [] => exact .nil
  | p :: ps => exact .cons (phrase p) (phraseEach ps)

end

/-- The tests of a predicate that may be missing. -/
def tests? (p : Option Predicate) : List Test := (p.map tests).getD []

theorem phrase? (p : Option Predicate) :
    ∃ ts, Phrase (tests? p) (write? .question p) ts := by
  cases p with
  | none => exact ⟨_, .empty⟩
  | some p => exact p.phrase

theorem values?_eq (p : Option Predicate) : values? p = (tests? p).flatMap Test.values := by
  cases p with
  | none => rfl
  | some p => exact p.values_eq

/-- A combined predicate has the tests of its members, one member after the other. -/
theorem tests?_joinPredicates (kind : Conjunction) (negated : Bool)
    (ps : List (Option Predicate)) :
    tests? (Formula.joinPredicates kind negated ps) = ps.flatMap tests? := by
  have hmembers : ps.flatMap tests? = testsEach (ps.filterMap id) := by
    induction ps with
    | nil => rfl
    | cons p ps ih =>
      rw [List.flatMap_cons, ih]
      cases p <;> rfl
  rw [hmembers, Formula.joinPredicates, combine?]
  cases ps.filterMap id with
  | nil => rfl
  | cons p ps => cases negated <;> rfl

end Predicate

-- ---------------------------------------------------------------------------
-- Leaves
-- ---------------------------------------------------------------------------

/-- How often the text of a leaf mentions its variable. -/
def Operator.mentions : Operator → Nat
  | .isNull | .isNotNull => 1
  | o => if o.isOrdering then 1 else 2

namespace Comparison

/-- The variable of a leaf and the places of its constants, in order. -/
def sites (c : Comparison) : List Lexeme :=
  .name c.field :: List.replicate c.operator.arity .place
    ++ List.replicate (c.operator.mentions - 1) (.name c.field)

/-- The values a leaf puts in its places: what its operator compares with. -/
def parameters (c : Comparison) : Except FormulaError (List Value) :=
  match c.operator with
  | .isEmpty | .isNotEmpty | .isNull | .isNotNull => .ok []
  | .beginsWith | .notBeginsWith => return [.text (← c.likePattern false true)]
  | .contains | .notContains => return [.text (← c.likePattern true true)]
  | .endsWith | .notEndsWith => return [.text (← c.likePattern true false)]
  | .between | .notBetween => return [(← c.range).1, (← c.range).2]
  | _ => return [← c.constant]

theorem tests_of_likeTest {c : Comparison} {openStart openEnd : Bool} {q : Predicate}
    (h : c.likeTest openStart openEnd = .ok q ∨ c.notLikeTest openStart openEnd = .ok q) :
    ∃ pattern, c.likePattern openStart openEnd = .ok pattern ∧
      q.tests.flatMap Test.sites = [.name c.field, .place, .name c.field] ∧
      q.tests.flatMap Test.values = [.text pattern] := by
  rw [likeTest, notLikeTest] at h
  cases hpattern : c.likePattern openStart openEnd with
  | error e =>
    rw [hpattern] at h
    rcases h with h | h <;> cases h
  | ok pattern =>
    rw [hpattern] at h
    rcases h with h | h <;> cases h <;> exact ⟨pattern, rfl, rfl, rfl⟩

/-- The tests of a leaf are on its variable, and they hold what its operator compares with. -/
theorem tests_of_compile {columns : Option (List String)} {c : Comparison} {q : Predicate}
    (h : c.compile columns = .ok q) :
    q.tests.flatMap Test.sites = c.sites ∧ c.parameters = .ok (q.tests.flatMap Test.values) := by
  rw [compile] at h
  cases hcolumn : c.checkColumn columns with
  | error e => rw [hcolumn] at h; cases h
  | ok _ =>
    rw [hcolumn] at h
    rw [sites, parameters]
    cases hop : c.operator <;>
      simp only [hop, bind, Except.bind, orderTest, rangeTest] at h ⊢
    case isEmpty | isNotEmpty | isNull | isNotNull =>
      cases h
      exact ⟨rfl, rfl⟩
    case equal | notEqual | less | lessOrEqual | greater | greaterOrEqual =>
      cases hconstant : c.constant with
      | error e => rw [hconstant] at h; cases h
      | ok v =>
        rw [hconstant] at h
        cases h
        exact ⟨rfl, rfl⟩
    case between | notBetween =>
      cases hrange : c.range with
      | error e => rw [hrange] at h; cases h
      | ok r =>
        rw [hrange] at h
        cases h
        exact ⟨rfl, rfl⟩
    case beginsWith | contains | endsWith =>
      obtain ⟨pattern, hpattern, hsites, hvalues⟩ := tests_of_likeTest (.inl h)
      rw [hsites, hpattern, hvalues]
      exact ⟨rfl, rfl⟩
    case notBeginsWith | notContains | notEndsWith =>
      obtain ⟨pattern, hpattern, hsites, hvalues⟩ := tests_of_likeTest (.inr h)
      rw [hsites, hpattern, hvalues]
      exact ⟨rfl, rfl⟩

theorem name?_sites (c : Comparison) :
    c.sites.filterMap Lexeme.name? = List.replicate c.operator.mentions c.field := by
  rw [sites]
  cases c.operator <;> rfl

theorem count_place_sites (c : Comparison) : c.sites.count .place = c.operator.arity := by
  rw [sites]
  cases c.operator <;> rfl

end Comparison

-- ---------------------------------------------------------------------------
-- Formulas
-- ---------------------------------------------------------------------------

namespace Test

/-- Each value of a test has a place of its own. -/
theorem count_place_sites (t : Test) : t.sites.count .place = t.values.length := by
  cases t <;> rfl

theorem count_place_flatMap_sites (ts : List Test) :
    (ts.flatMap sites).count .place = (ts.flatMap values).length := by
  induction ts with
  | nil => rfl
  | cons t ts ih =>
    rw [List.flatMap_cons, List.flatMap_cons, List.count_append, List.length_append, ih,
      t.count_place_sites]

end Test

namespace Query

/-- The names among tokens are those among their sites. -/
theorem name?_filter_isSite (ts : List Lexeme) :
    (ts.filter Lexeme.isSite).filterMap Lexeme.name? = ts.filterMap Lexeme.name? := by
  rw [List.filterMap_filter]
  refine List.filterMap_congr fun t _ => ?_
  cases t <;> rfl

theorem count_place_filter_isSite (ts : List Lexeme) :
    (ts.filter Lexeme.isSite).count .place = ts.count .place :=
  List.count_filter rfl

end Query

namespace Formula

/-- The tests of a formula's predicate are those of its leaves, leaf by leaf. -/
theorem tests?_of_compile {columns : Option (List String)} {f : Formula} {p : Option Predicate}
    (h : f.compile columns = .ok p) :
    (Predicate.tests? p).flatMap Test.sites = f.leaves.flatMap Comparison.sites ∧
      ∃ vss, List.Forall₂ (fun c vs => Comparison.parameters c = .ok vs ∧
          vs.length = c.operator.arity) f.leaves vss ∧ Predicate.values? p = vss.flatten := by
  obtain ⟨qs, hqs, hgather⟩ := gather_of_fold_eq_ok Predicate.tests?_joinPredicates f h
  rw [Predicate.values?_eq, hgather]
  clear h hgather
  generalize f.leaves = cs at hqs ⊢
  induction hqs with
  | nil => exact ⟨rfl, [], .nil, rfl⟩
  | @cons c q cs qs hq _ ih =>
    obtain ⟨hsites, vss, hvss, hvalues⟩ := ih
    cases hc : c.compile columns with
    | error e => rw [hc] at hq; cases hq
    | ok q =>
      rw [hc] at hq
      cases hq
      obtain ⟨hsite, hparameters⟩ := Comparison.tests_of_compile hc
      have harity : (q.tests.flatMap Test.values).length = c.operator.arity := by
        rw [← Test.count_place_flatMap_sites, hsite, c.count_place_sites]
      refine ⟨?_, _ :: vss, .cons ⟨hparameters, harity⟩ hvss, ?_⟩
      · rw [List.flatMap_cons, List.flatMap_append, hsites, List.flatMap_cons, ← hsite]
        rfl
      · rw [List.flatMap_cons, List.flatMap_append, hvalues, List.flatten_cons]
        rfl

/-- The text of a formula's predicate holds nothing but the compiler's own tokens and, leaf by
leaf, the names of the variables and a place for every value that is passed beside it. Its
parentheses match. -/
theorem tokens?_write_compile {columns : Option (List String)} {f : Formula}
    {p : Option Predicate} (h : f.compile columns = .ok p) :
    ∃ ts, tokens? (Predicate.write? .question p) = some ts ∧
      (∀ t ∈ ts, t.IsKnown) ∧
      ts.filterMap Lexeme.name?
        = f.leaves.flatMap (fun c => List.replicate c.operator.mentions c.field) ∧
      depth? 0 ts = some 0 ∧
      ts.count .place = (Predicate.values? p).length ∧
      ts.filter Lexeme.isSite = f.leaves.flatMap Comparison.sites ∧
      ∃ vss, List.Forall₂ (fun c vs => Comparison.parameters c = .ok vs ∧
          vs.length = c.operator.arity) f.leaves vss ∧ Predicate.values? p = vss.flatten := by
  obtain ⟨ts, hphrase⟩ := Predicate.phrase? p
  obtain ⟨hleaves, hparameters⟩ := tests?_of_compile h
  have hsites : ts.filter Lexeme.isSite = f.leaves.flatMap Comparison.sites :=
    hphrase.filter_isSite.trans hleaves
  have hnames : ts.filterMap Lexeme.name?
      = f.leaves.flatMap (fun c => List.replicate c.operator.mentions c.field) := by
    rw [← name?_filter_isSite, hsites, List.filterMap_flatMap]
    simp only [Comparison.name?_sites]
  have hdepth : depth? 0 ts = some 0 := by
    have hclosed := hphrase.depth? 0 []
    rwa [List.append_nil] at hclosed
  have hplaces : ts.count .place = (Predicate.values? p).length := by
    rw [← count_place_filter_isSite, hphrase.filter_isSite, Test.count_place_flatMap_sites,
      Predicate.values?_eq]
  exact ⟨ts, hphrase.reads.tokens?, hphrase.isKnown, hnames, hdepth, hplaces, hsites, hparameters⟩

/-- Names that look like parts of a query, and a group without members. -/
def hostileFilter : Formula :=
  .group .or true
    [.leaf ⟨"x\" = ?) OR (1", .equal, .string, .single (.text "'); DROP TABLE y; --")⟩,
     .group .and true [],
     .leaf ⟨"\"\"(?", .between, .integer, .range (.int 1) (.text "2")⟩,
     .leaf ⟨"", .notContains, .string, .single (.text "5%")⟩]

def hostilePredicate : Predicate :=
  .not (.group .or
    [.join .and
      [.compare "x\" = ?) OR (1" .eq (.text "'); DROP TABLE y; --"), .null "x\" = ?) OR (1" true],
     .test (.between "\"\"(?" false (.int 1) (.int 2)),
     .join .or [.like "" true "%5\\%%", .null "" false]])

theorem tokens?_write_compile_hostile :
    hostileFilter.compile none = .ok (some hostilePredicate) ∧
    ∃ ts, tokens? (hostilePredicate.write .question) = some ts ∧
      (∀ t ∈ ts, t.IsKnown) ∧
      ts.filterMap Lexeme.name? = ["x\" = ?) OR (1", "x\" = ?) OR (1", "\"\"(?", "", ""] ∧
      depth? 0 ts = some 0 ∧
      ts.count .place = 4 ∧
      hostilePredicate.values
        = [[.text "'); DROP TABLE y; --"], [.int 1, .int 2], [.text "%5\\%%"]].flatten := by
  have h : hostileFilter.compile none = .ok (some hostilePredicate) := rfl
  obtain ⟨ts, htokens, hknown, hnames, hdepth, hplaces, -, -⟩ := tokens?_write_compile h
  exact ⟨h, ts, htokens, hknown, hnames, hdepth, hplaces, rfl⟩

end Formula

end MailMerge
