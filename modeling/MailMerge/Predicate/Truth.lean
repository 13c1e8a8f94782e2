import MailMerge.Predicate.Basic
import MailMerge.Table.Cell
import MailMerge.Table.Pattern

/-!
# The truth of a predicate

A test on a null cell has no answer, unless it is the test for null itself. An answer
that is missing may still not matter: a conjunction with a false member is false, a
disjunction with a true one is true. A row is selected when the answer is true.
-/

namespace MailMerge

/-- The answer of a test, `none` where there is none. -/
abbrev Verdict := Option Bool

namespace Verdict

def and : Verdict → Verdict → Verdict
  | some false, _ => some false
  | _, some false => some false
  | some true, some true => some true
  | _, _ => none

def or : Verdict → Verdict → Verdict
  | some true, _ => some true
  | _, some true => some true
  | some false, some false => some false
  | _, _ => none

def not (a : Verdict) : Verdict := a.map (!·)

/-- The answer of a joined list. -/
def join (kind : Conjunction) (members : List Verdict) : Verdict :=
  match kind with
  | .and => members.foldr and (some true)
  | .or => members.foldr or (some false)

end Verdict

/-- The cell a column of a row holds, with the type of the column. -/
abbrev Slot := DataType × Cell

/-- Whether a comparison accepts an order. -/
def Comparator.accepts : Comparator → Ordering → Bool
  | .eq, o => o == .eq
  | .ne, o => o != .eq
  | .lt, o => o == .lt
  | .le, o => o != .gt
  | .gt, o => o == .gt
  | .ge, o => o != .lt

namespace Slot

/-- Compares the cell with a constant, which the column converts first. -/
def compare (s : Slot) (o : Comparator) (constant : Cell) : Verdict :=
  match s.2, constant.compared s.1 with
  | .null, _ => none
  | _, .null => none
  | a, b => some (o.accepts (a.order b))

/-- Matches the text of the cell. -/
def like (s : Slot) (pattern : String) : Verdict := s.2.text?.map (Pattern.accepts pattern)

/-- Whether the cell is null. -/
def isNull (s : Slot) : Bool := s.2 == .null

end Slot

/-- The opposite of an answer where the test is a negated one. -/
def Verdict.negateIf (negated : Bool) (a : Verdict) : Verdict := if negated then a.not else a

/-- The answer of a test on the row with the given slots. -/
def Test.truth (row : String → Slot) : Test → Verdict
  | .compare c o v => (row c).compare o (.ofValue v)
  | .compareEmpty c o => (row c).compare o (.text "")
  | .like c negated pattern => Verdict.negateIf negated ((row c).like pattern)
  | .null c negated => some ((row c).isNull != negated)
  | .between c negated low high =>
    Verdict.negateIf negated
      (((row c).compare .ge (.ofValue low)).and ((row c).compare .le (.ofValue high)))

namespace Predicate

mutual

/-- The answer of a predicate on a row. -/
def truth (row : String → Slot) : Predicate → Verdict
  | .test t => t.truth row
  | .join kind tests => Verdict.join kind (tests.map (Test.truth row))
  | .group kind members => Verdict.join kind (truthEach row members)
  | .not p => (truth row p).not

def truthEach (row : String → Slot) : List Predicate → List Verdict
  | [] => []
  | p :: ps => truth row p :: truthEach row ps

end

/-- Whether a row is selected; without a predicate every row is. -/
def selects (p : Option Predicate) (row : String → Slot) : Bool :=
  match p with
  | none => true
  | some p => p.truth row == some true

end Predicate

end MailMerge
