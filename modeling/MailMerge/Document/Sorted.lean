import MailMerge.Document.Basic
import MailMerge.Value.Sorted

/-!
# Documents with sorted records
-/

namespace MailMerge

namespace Document

mutual

/-- The document with the fields of every record in the order of their names. -/
def sorted : Document → Document
  | .scalar v => .scalar v
  | .plain s => .plain s
  | .tagged tag d => .tagged tag (sorted d)
  | .list items => .list (sortedItems items)
  | .record fields => .record (Sorted.ofEntries (sortedFields fields))

def sortedItems : List Document → List Document
  | [] => []
  | d :: ds => sorted d :: sortedItems ds

def sortedFields : List (String × Document) → List (String × Document)
  | [] => []
  | f :: fs => (f.1, sorted f.2) :: sortedFields fs

end

end Document

end MailMerge
