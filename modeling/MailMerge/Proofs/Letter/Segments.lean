import MailMerge.Proofs.Letter.Names
import Mathlib.Data.List.Nodup

/-!
# Letters in a row

A letter is written from left to right as a row of characters, references and statements, and
what a search for references finds depends on that row only. Where every name of the row can be
found, the search finds each of them at its place.
-/

namespace MailMerge

open Reference

/-- The word in front of a condition's name. -/
inductive Keyword where
  | start
  | again
deriving DecidableEq

def Keyword.chars : Keyword → List Char
  | .start => ['i', 'f']
  | .again => ['e', 'l', 'i', 'f']

/-- A statement without a name. -/
inductive Bare where
  | otherwise
  | stop
deriving DecidableEq

def Bare.chars : Bare → List Char
  | .otherwise => ['e', 'l', 's', 'e']
  | .stop => ['e', 'n', 'd', 'i', 'f']

/-- A character of text, a reference or a statement. -/
inductive Segment where
  | char (c : Char)
  | reference (name : String)
  | condition (keyword : Keyword) (name : String)
  | bare (word : Bare)

theorem Keyword.chars_mem (k : Keyword) : k.chars ∈ keywords := by cases k <;> decide

theorem Bare.chars_mem (w : Bare) : w.chars ∈ bareWords := by cases w <;> decide

namespace Segment

/-- The template a segment is written as. -/
def source : Segment → List Char
  | .char c => [c]
  | .reference n => Letter.referenceSource n.toList
  | .condition k n => Letter.statementSource (k.chars ++ ' ' :: n.toList)
  | .bare w => Letter.statementSource w.chars

/-- The name of a segment, if it is in markup of one kind. -/
def nameIn? (m : Markup) : Segment → Option String
  | .reference n => if m = .variable then some n else none
  | .condition _ n => if m = .condition then some n else none
  | _ => none

def name? : Segment → Option String
  | .reference n => some n
  | .condition _ n => some n
  | _ => none

/-- A segment with its name replaced. -/
def mapName (f g : String → String) : Segment → Segment
  | .reference n => .reference (f n)
  | .condition k n => .condition k (g n)
  | s => s

/-- What a search for sites of one kind finds in a segment. -/
def pieces (m : Markup) : Segment → List Piece
  | .char c => [.char c]
  | .reference n => referencePieces m n.toList
  | .condition k n => conditionPieces m k.chars n.toList
  | .bare w => (Letter.statementSource w.chars).map .char

/-- What a segment must be like, with a text behind it, for the search to go right. -/
def Finds (m : Markup) (rest : List Char) : Segment → Prop
  | .char c => c ≠ '{'
  | .reference n => m.Finds .variable n rest
  | .condition _ n => m.Finds .condition n rest
  | .bare _ => True

theorem pieces_source_append {m : Markup} {s : Segment} {rest : List Char} (h : s.Finds m rest) :
    Reference.pieces m (s.source ++ rest) = s.pieces m ++ Reference.pieces m rest := by
  cases s with
  | char c => exact pieces_cons_of_ne_brace rest h
  | reference n => exact pieces_reference h
  | condition k n => exact pieces_condition h k.chars_mem
  | bare w => exact pieces_word w.chars_mem rest

theorem flatMap_substitute_pieces (m : Markup) (f : String → String) (s : Segment) :
    (s.pieces m).flatMap (Piece.substitute (onChars f))
      = (s.mapName (m.mapping .variable f) (m.mapping .condition f)).source := by
  cases s with
  | char c => rfl
  | reference n => exact flatMap_substitute_reference m f n
  | condition k n => exact flatMap_substitute_condition m f k.chars n
  | bare w => exact flatMap_substitute_chars _ _

end Segment

-- ---------------------------------------------------------------------------
-- Rows of segments
-- ---------------------------------------------------------------------------

/-- A template from left to right. -/
abbrev Segments := List Segment

namespace Segments

/-- The template a row is written as. -/
def source (ss : Segments) : List Char := ss.flatMap Segment.source

theorem source_cons (s : Segment) (ss : Segments) : source (s :: ss) = s.source ++ source ss := rfl

theorem source_append (ss ts : Segments) : source (ss ++ ts) = source ss ++ source ts :=
  List.flatMap_append

/-- What the segments of a row must be like for the search to go right. -/
def Finds (m : Markup) : Segments → Prop
  | [] => True
  | s :: ss => s.Finds m (source ss) ∧ Finds m ss

theorem pieces_source {m : Markup} {ss : Segments} (h : Finds m ss) :
    Reference.pieces m (source ss) = ss.flatMap (Segment.pieces m) := by
  induction ss with
  | nil => rfl
  | cons s ss ih => rw [source_cons, Segment.pieces_source_append h.1, ih h.2, List.flatMap_cons]

theorem finds_of_forall {m : Markup} {ss : Segments} (h : ∀ s ∈ ss, ∀ rest, s.Finds m rest) :
    Finds m ss := by
  induction ss with
  | nil => trivial
  | cons s ss ih =>
    exact ⟨h s List.mem_cons_self _, ih fun t ht => h t (List.mem_cons_of_mem s ht)⟩

theorem substituteMarkup_source {m : Markup} (f : String → String) {ss : Segments}
    (h : Finds m ss) :
    substituteMarkup m (onChars f) (source ss)
      = source (ss.map (Segment.mapName (m.mapping .variable f) (m.mapping .condition f))) := by
  rw [substituteMarkup, pieces_source h, List.flatMap_assoc, source, List.flatMap_map]
  exact congrArg (ss.flatMap ·) (funext (Segment.flatMap_substitute_pieces m f))

end Segments

-- ---------------------------------------------------------------------------
-- Places of names
-- ---------------------------------------------------------------------------

namespace Segment

/-- How far from the start of a segment its name stands. -/
def offset : Segment → Nat
  | .reference _ => 3
  | .condition k _ => (conditionBefore k.chars).length
  | _ => 0

theorem offset_lt (s : Segment) : s.offset < s.source.length := by
  cases s with
  | char c => exact Nat.one_pos
  | reference n => simp [offset, source, Letter.referenceSource]
  | condition k n =>
    simp only [offset, source, Letter.statementSource, conditionBefore, List.length_cons,
      List.length_append, List.length_nil]
    omega
  | bare w => exact Nat.succ_pos _

/-- The place of the name in a segment that starts at a place, if it has one that counts. -/
def placed (sel : Segment → Option String) (i : Nat) (s : Segment) : List (Nat × List Char) :=
  ((sel s).map fun n => (i + s.offset, n.toList)).toList

theorem placedNames_pieces_append {m : Markup} (s : Segment) (i : Nat) (ps : List Piece) :
    placedNames i (s.pieces m ++ ps)
      = s.placed (nameIn? m) i ++ placedNames (i + s.source.length) ps := by
  have hchars : ∀ (cs : List Char) (i : Nat),
      placedNames i (cs.map .char ++ ps) = placedNames (i + cs.length) ps := by
    intro cs
    induction cs with
    | nil => intro i; rfl
    | cons c cs ih =>
      intro i
      rw [List.map_cons, List.cons_append, placedNames, ih, List.length_cons]
      congr 1
      omega
  cases s with
  | char c => rfl
  | reference n =>
    match m with
    | .variable =>
      have hend : i + 3 + n.toList.length + 3 = i + (reference n).source.length := by
        simp only [source, Letter.referenceSource, List.length_cons, List.length_append,
          List.length_nil]
        omega
      change (i + 3, n.toList) :: placedNames (i + 3 + n.toList.length + 3) ps = _
      rw [hend]
      rfl
    | .condition => exact hchars _ i
  | condition k n =>
    match m with
    | .variable => exact hchars _ i
    | .condition =>
      have hend : i + (conditionBefore k.chars).length + n.toList.length + 3
          = i + (condition k n).source.length := by
        simp only [source, Letter.statementSource, conditionBefore, List.length_cons,
          List.length_append, List.length_nil]
        omega
      change (i + (conditionBefore k.chars).length, n.toList) ::
        placedNames (i + (conditionBefore k.chars).length + n.toList.length + 3) ps = _
      rw [hend]
      rfl
  | bare w => exact hchars _ i

end Segment

namespace Segments

/-- The places of the names that count in a row that starts at a place. -/
def placed (sel : Segment → Option String) : Nat → Segments → List (Nat × List Char)
  | _, [] => []
  | i, s :: ss => s.placed sel i ++ placed sel (i + s.source.length) ss

theorem placedNames_pieces (m : Markup) (ss : Segments) (i : Nat) :
    placedNames i (ss.flatMap (Segment.pieces m)) = placed (Segment.nameIn? m) i ss := by
  induction ss generalizing i with
  | nil => rfl
  | cons s ss ih => rw [List.flatMap_cons, s.placedNames_pieces_append, ih, placed]

/-- Names of both kinds together are all names. -/
theorem perm_placed (ss : Segments) (i : Nat) :
    (placed (Segment.nameIn? .variable) i ss ++ placed (Segment.nameIn? .condition) i ss).Perm
      (placed Segment.name? i ss) := by
  induction ss generalizing i with
  | nil => exact List.Perm.refl _
  | cons s ss ih =>
    have hrest := ih (i + s.source.length)
    cases s with
    | char c => exact hrest
    | reference n => exact hrest.cons _
    | condition k n => exact List.perm_middle.trans (hrest.cons _)
    | bare w => exact hrest

theorem le_of_mem_placed {sel : Segment → Option String} {ss : Segments} {i : Nat}
    {p : Nat × List Char} (h : p ∈ placed sel i ss) : i ≤ p.1 := by
  induction ss generalizing i with
  | nil => exact absurd h List.not_mem_nil
  | cons s ss ih =>
    rw [placed, List.mem_append] at h
    rcases h with h | h
    · obtain ⟨n, -, rfl⟩ := by simpa [Segment.placed] using h
      exact Nat.le_add_right i s.offset
    · exact Nat.le_trans (Nat.le_add_right i _) (ih h)

/-- Names stand one behind the other. -/
theorem pairwise_placed (sel : Segment → Option String) (ss : Segments) (i : Nat) :
    (placed sel i ss).Pairwise fun p q => p.1 < q.1 := by
  induction ss generalizing i with
  | nil => exact List.Pairwise.nil
  | cons s ss ih =>
    rw [placed, List.pairwise_append]
    refine ⟨?_, ih _, ?_⟩
    · rw [Segment.placed]
      cases sel s <;> simp
    · intro p hp q hq
      obtain ⟨n, -, rfl⟩ := by simpa [Segment.placed] using hp
      have hlt := s.offset_lt
      have hle := le_of_mem_placed hq
      simp only
      omega

theorem map_placed (sel : Segment → Option String) (ss : Segments) (i : Nat) :
    (placed sel i ss).map (fun p => String.ofList p.2) = ss.filterMap sel := by
  induction ss generalizing i with
  | nil => rfl
  | cons s ss ih =>
    rw [placed, List.map_append, ih, List.filterMap_cons, Segment.placed]
    cases sel s with
    | none => rfl
    | some n => simp

/-- Sorting by places brings about the one order in which these grow. -/
theorem mergeSort_eq_of_perm {ps qs : List (Nat × List Char)} (hperm : ps.Perm qs)
    (hqs : qs.Pairwise fun p q => p.1 < q.1) : (ps.mergeSort fun p q => p.1 ≤ q.1) = qs := by
  have hperm' := (List.mergeSort_perm ps fun p q => decide (p.1 ≤ q.1)).trans hperm
  have hnodup : (qs.map Prod.fst).Nodup := List.pairwise_map.mpr (hqs.imp Nat.ne_of_lt)
  have hsorted : (ps.mergeSort fun p q => p.1 ≤ q.1).Pairwise
      fun p q => decide (p.1 ≤ q.1) = true :=
    List.pairwise_mergeSort (fun p q r hpq hqr => by simp only [decide_eq_true_eq] at *; omega)
      (fun p q => by simp only [Bool.or_eq_true, decide_eq_true_eq]; omega) ps
  refine hperm'.eq_of_pairwise ?_ hsorted
    (hqs.imp fun hpq => decide_eq_true (Nat.le_of_lt hpq))
  intro p q hp hq hpq hqp
  exact List.inj_on_of_nodup_map hnodup (hperm'.subset hp) hq
    (Nat.le_antisymm (of_decide_eq_true hpq) (of_decide_eq_true hqp))

/-- In order of their places the names of both kinds are those of the row. -/
theorem names_source {ss : Segments} (h : ∀ m, Finds m ss) :
    names (String.ofList (source ss)) = (ss.filterMap Segment.name?).eraseDups := by
  have hpieces : ∀ m, placedNames 0 (Reference.pieces m (String.ofList (source ss)).toList)
      = placed (Segment.nameIn? m) 0 ss := by
    intro m
    rw [String.toList_ofList, pieces_source (h m), placedNames_pieces]
  rw [names]
  simp only [hpieces]
  rw [mergeSort_eq_of_perm (perm_placed ss 0) (pairwise_placed _ ss 0), map_placed]

end Segments

-- ---------------------------------------------------------------------------
-- Letters
-- ---------------------------------------------------------------------------

mutual

/-- A letter from left to right. -/
def Letter.segments : Letter → Segments
  | .done => []
  | .char c rest => .char c :: rest.segments
  | .reference n rest => .reference n :: rest.segments
  | .condition n yes no rest =>
    .condition .start n :: (yes.segments ++ (no.segments ++ rest.segments))

def Otherwise.segments : Otherwise → Segments
  | .nothing => [.bare .stop]
  | .always no => .bare .otherwise :: (no.segments ++ [.bare .stop])
  | .onlyIf n yes no => .condition .again n :: (yes.segments ++ no.segments)

end

mutual

theorem Letter.source_segments (l : Letter) : Segments.source l.segments = l.source := by
  match l with
  | .done => rfl
  | .char c l => rw [Letter.segments, Segments.source_cons, l.source_segments]; rfl
  | .reference n l => rw [Letter.segments, Segments.source_cons, l.source_segments]; rfl
  | .condition n yes no l =>
    rw [Letter.segments, Segments.source_cons, Segments.source_append, Segments.source_append,
      yes.source_segments, no.source_segments, l.source_segments]
    rfl

theorem Otherwise.source_segments (o : Otherwise) : Segments.source o.segments = o.source := by
  match o with
  | .nothing => rfl
  | .always no =>
    rw [Otherwise.segments, Segments.source_cons, Segments.source_append, no.source_segments]
    rfl
  | .onlyIf n yes no =>
    rw [Otherwise.segments, Segments.source_cons, Segments.source_append, yes.source_segments,
      no.source_segments]
    rfl

end

mutual

theorem Letter.segments_mapNames (f g : String → String) (l : Letter) :
    (l.mapNames f g).segments = l.segments.map (Segment.mapName f g) := by
  match l with
  | .done => rfl
  | .char c l => rw [Letter.mapNames, Letter.segments, l.segments_mapNames]; rfl
  | .reference n l => rw [Letter.mapNames, Letter.segments, l.segments_mapNames]; rfl
  | .condition n yes no l =>
    rw [Letter.mapNames, Letter.segments, yes.segments_mapNames, no.segments_mapNames,
      l.segments_mapNames]
    simp [Letter.segments, Segment.mapName]

theorem Otherwise.segments_mapNames (f g : String → String) (o : Otherwise) :
    (o.mapNames f g).segments = o.segments.map (Segment.mapName f g) := by
  match o with
  | .nothing => rfl
  | .always no =>
    rw [Otherwise.mapNames, Otherwise.segments, no.segments_mapNames]
    simp [Otherwise.segments, Segment.mapName]
  | .onlyIf n yes no =>
    rw [Otherwise.mapNames, Otherwise.segments, yes.segments_mapNames, no.segments_mapNames]
    simp [Otherwise.segments, Segment.mapName]

end

end MailMerge
