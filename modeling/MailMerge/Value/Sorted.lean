import MailMerge.Value.Basic

/-!
# Sorted entries

Entries by name, in the order of their names and without repetition.
-/

namespace MailMerge

namespace Sorted

variable {α : Type}

/-- Puts an entry at its place, instead of one with its name. -/
def insert (e : String × α) : List (String × α) → List (String × α)
  | [] => [e]
  | f :: fs =>
    match Text.order e.1.toList f.1.toList with
    | .lt => e :: f :: fs
    | .eq => e :: fs
    | .gt => f :: insert e fs

/-- The entries in the order of their names; of several with one name the last stands. -/
def ofEntries (entries : List (String × α)) : List (String × α) :=
  entries.foldl (fun sorted e => insert e sorted) []

end Sorted

end MailMerge
