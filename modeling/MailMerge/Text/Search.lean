/-!
# Texts inside texts

Where one text stands inside another: at the start and the end by core's
`List.isPrefixOf` and `List.isSuffixOf`, and anywhere.
-/

namespace MailMerge

namespace Text

/-- Whether one text occurs inside another. -/
def occursIn (p : List Char) : List Char → Bool
  | [] => p.isEmpty
  | c :: cs => p.isPrefixOf (c :: cs) || occursIn p cs

end Text

end MailMerge
