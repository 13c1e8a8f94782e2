import MailMerge.Proofs.Letter.Scanning

/-!
# The names a letter refers to

A name that the template of a letter does not refer to is the name of no reference and of no
condition of the letter.
-/

namespace MailMerge

namespace Reference

/-- A site with a given name. -/
def Piece.IsSite (n : String) (p : Piece) : Prop :=
  ∃ before after, p = .site before n.toList after

theorem mem_placedNames {n : String} {ps : List Piece} {p : Piece} (hp : p ∈ ps)
    (hsite : p.IsSite n) (i : Nat) : ∃ j, (j, n.toList) ∈ placedNames i ps := by
  induction ps generalizing i with
  | nil => exact absurd hp List.not_mem_nil
  | cons q ps ih =>
    rcases List.mem_cons.mp hp with rfl | hrest
    · obtain ⟨before, after, rfl⟩ := hsite
      exact ⟨i + before.length, List.mem_cons_self⟩
    · cases q with
      | char c => exact ih hrest (i + 1)
      | site before name after =>
        obtain ⟨j, hj⟩ := ih hrest (i + before.length + name.length + after.length)
        exact ⟨j, List.mem_cons_of_mem _ hj⟩

theorem mem_names_iff {n text : String} :
    n ∈ names text ↔ n ∈ (placedNames 0 (pieces .variable text.toList) ++
      placedNames 0 (pieces .condition text.toList)).map fun p => String.ofList p.2 := by
  rw [names, List.mem_eraseDups, List.mem_map, List.mem_map]
  simp only [List.mem_mergeSort]

/-- A text refers to the names of its sites, of both kinds. -/
theorem mem_names {n text : String} {m : Markup} {p : Piece} (hp : p ∈ pieces m text.toList)
    (hsite : p.IsSite n) : n ∈ names text := by
  obtain ⟨j, hj⟩ := mem_placedNames hp hsite 0
  have hplaced : (j, n.toList) ∈ placedNames 0 (pieces .variable text.toList) ++
      placedNames 0 (pieces .condition text.toList) := by
    match m with
    | .variable => exact List.mem_append_left _ hj
    | .condition => exact List.mem_append_right _ hj
  exact mem_names_iff.mpr (List.mem_map.mpr ⟨(j, n.toList), hplaced, String.ofList_toList⟩)

theorem isSite_of_mem_placedNames {n : String} {ps : List Piece} {i j : Nat}
    (h : (j, n.toList) ∈ placedNames i ps) : ∃ p ∈ ps, p.IsSite n := by
  induction ps generalizing i with
  | nil => exact absurd h List.not_mem_nil
  | cons q ps ih =>
    cases q with
    | char c =>
      obtain ⟨p, hp, hsite⟩ := ih h
      exact ⟨p, List.mem_cons_of_mem _ hp, hsite⟩
    | site before name after =>
      rcases List.mem_cons.mp h with heq | hrest
      · exact ⟨_, List.mem_cons_self, before, after, by rw [(Prod.mk.inj heq).2]⟩
      · obtain ⟨p, hp, hsite⟩ := ih hrest
        exact ⟨p, List.mem_cons_of_mem _ hp, hsite⟩

/-- The names of a text are those of its sites. -/
theorem mem_names_iff_isSite {n text : String} :
    n ∈ names text ↔ ∃ m, ∃ p ∈ pieces m text.toList, p.IsSite n := by
  refine ⟨fun h => ?_, fun ⟨m, p, hp, hsite⟩ => mem_names hp hsite⟩
  obtain ⟨⟨j, x⟩, hx, rfl⟩ := List.mem_map.mp (mem_names_iff.mp h)
  have hplaced : ∀ m, (j, x) ∈ placedNames 0 (pieces m text.toList) →
      ∃ p ∈ pieces m text.toList, p.IsSite (String.ofList x) := by
    intro m hm
    refine isSite_of_mem_placedNames (i := 0) (j := j) ?_
    rwa [String.toList_ofList]
  rcases List.mem_append.mp hx with hm | hm
  · exact ⟨.variable, hplaced .variable hm⟩
  · exact ⟨.condition, hplaced .condition hm⟩

theorem isSite_referencePieces (n : String) :
    ∃ p ∈ referencePieces .variable n.toList, p.IsSite n :=
  ⟨_, List.mem_singleton_self _, _, _, rfl⟩

theorem isSite_conditionPieces (keyword : List Char) (n : String) :
    ∃ p ∈ conditionPieces .condition keyword n.toList, p.IsSite n :=
  ⟨_, List.mem_singleton_self _, _, _, rfl⟩

end Reference

open Reference

variable {p q : String → Prop} {new : String}

mutual

theorem Letter.All.ne {l : Letter} (hl : l.All p q)
    (h : ∀ m, ∀ piece ∈ l.pieces m, ¬ piece.IsSite new) :
    l.All (fun n => p n ∧ n ≠ new) (fun n => q n ∧ n ≠ new) := by
  match l, hl with
  | .done, _ => exact trivial
  | .char _ l, ⟨hc, hl⟩ =>
    exact ⟨hc, Letter.All.ne hl fun m piece hp => h m piece (List.mem_cons_of_mem _ hp)⟩
  | .reference n l, ⟨hn, hl⟩ =>
    refine ⟨⟨hn, ?_⟩, Letter.All.ne hl fun m piece hp => h m piece (List.mem_append_right _ hp)⟩
    rintro rfl
    obtain ⟨piece, hp, hsite⟩ := isSite_referencePieces n
    exact h .variable piece (List.mem_append_left _ hp) hsite
  | .condition n yes no l, ⟨hn, hyes, hno, hl⟩ =>
    refine ⟨⟨hn, ?_⟩, Letter.All.ne hyes ?_, Otherwise.All.ne hno ?_, Letter.All.ne hl ?_⟩
    · rintro rfl
      obtain ⟨piece, hp, hsite⟩ := isSite_conditionPieces ['i', 'f'] n
      exact h .condition piece (List.mem_append_left _ hp) hsite
    · exact fun m piece hp =>
        h m piece (List.mem_append_right _ (List.mem_append_left _ hp))
    · exact fun m piece hp =>
        h m piece (List.mem_append_right _ (List.mem_append_right _ (List.mem_append_left _ hp)))
    · exact fun m piece hp =>
        h m piece (List.mem_append_right _ (List.mem_append_right _ (List.mem_append_right _ hp)))

theorem Otherwise.All.ne {o : Otherwise} (ho : o.All p q)
    (h : ∀ m, ∀ piece ∈ o.pieces m, ¬ piece.IsSite new) :
    o.All (fun n => p n ∧ n ≠ new) (fun n => q n ∧ n ≠ new) := by
  match o, ho with
  | .nothing, _ => exact trivial
  | .always no, hno =>
    exact Letter.All.ne (l := no) hno fun m piece hp =>
      h m piece (List.mem_append_right _ (List.mem_append_left _ hp))
  | .onlyIf n yes no, ⟨hn, hyes, hno⟩ =>
    refine ⟨⟨hn, ?_⟩, Letter.All.ne hyes ?_, Otherwise.All.ne hno ?_⟩
    · rintro rfl
      obtain ⟨piece, hp, hsite⟩ := isSite_conditionPieces ['e', 'l', 'i', 'f'] n
      exact h .condition piece (List.mem_append_left _ hp) hsite
    · exact fun m piece hp =>
        h m piece (List.mem_append_right _ (List.mem_append_left _ hp))
    · exact fun m piece hp =>
        h m piece (List.mem_append_right _ (List.mem_append_right _ hp))

end

/-- A name a template does not refer to is none of its letter. -/
theorem Letter.all_ne_of_not_mem_names {l : Letter} (hl : l.All Name.Plain Name.Plain)
    (h : new ∉ Reference.names l.text) :
    l.All (fun n => Name.Plain n ∧ n ≠ new) (fun n => Name.Plain n ∧ n ≠ new) := by
  refine Letter.All.ne hl fun m piece hp hsite => ?_
  have htext : l.text.toList = l.source := String.toList_ofList
  rw [← l.pieces_source (hl.ordinary.finds m), ← htext] at hp
  exact h (mem_names hp hsite)

end MailMerge
