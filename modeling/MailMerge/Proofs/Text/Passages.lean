import Mathlib.Data.List.Forall2

/-!
# Passages of a text

A passage is a part of a text together with its place. Texts stand in another one in order if they
are the texts of passages that each end before the next begins: they do so still when the text goes
on or has something put in front of it, and texts put behind each other keep what stands in each.
-/

namespace MailMerge

namespace Text

variable {s t u : String} {parts parts' : List String}

/-- A part of a text, with what stands before and behind it. -/
structure Passage (t : String) where
  before : String
  text : String
  after : String
  eq : before ++ text ++ after = t

namespace Passage

/-- The place of the first character. -/
def start (p : Passage t) : Nat := p.before.length

/-- The place behind the last character. -/
def stop (p : Passage t) : Nat := p.start + p.text.length

theorem stop_le (p : Passage t) : p.stop ≤ t.length := by
  have hlength := congrArg String.length p.eq
  rw [String.length_append, String.length_append] at hlength
  rw [stop, start]
  omega

/-- A text as a passage of itself. -/
def whole (t : String) : Passage t where
  before := ""
  text := t
  after := ""
  eq := by rw [String.empty_append, String.append_empty]

/-- The passage where the text goes on. -/
def followed (p : Passage t) (u : String) : Passage (t ++ u) where
  before := p.before
  text := p.text
  after := p.after ++ u
  eq := by rw [← String.append_assoc, p.eq]

/-- The passage where the text begins with something else. -/
def preceded (p : Passage t) (s : String) : Passage (s ++ t) where
  before := s ++ p.before
  text := p.text
  after := p.after
  eq := by simpa only [String.append_assoc] using congrArg (s ++ ·) p.eq

/-- A passage of a passage. -/
def within (p : Passage t) (q : Passage p.text) : Passage t where
  before := p.before ++ q.before
  text := q.text
  after := q.after ++ p.after
  eq := by
    have hq := congrArg (p.before ++ · ++ p.after) q.eq
    simpa only [String.append_assoc] using hq.trans p.eq

theorem start_preceded (p : Passage t) (s : String) :
    (p.preceded s).start = s.length + p.start := String.length_append _ _

theorem stop_preceded (p : Passage t) (s : String) :
    (p.preceded s).stop = s.length + p.stop := by
  rw [stop, start_preceded, Nat.add_assoc]
  rfl

theorem start_within (p : Passage t) (q : Passage p.text) :
    (p.within q).start = p.start + q.start := String.length_append _ _

theorem stop_within (p : Passage t) (q : Passage p.text) :
    (p.within q).stop = p.start + q.stop := by
  rw [stop, start_within, Nat.add_assoc]
  rfl

theorem stop_within_le (p : Passage t) (q : Passage p.text) : (p.within q).stop ≤ p.stop := by
  rw [stop_within]
  exact Nat.add_le_add_left q.stop_le _

theorem text_infix (p : Passage t) : p.text.toList <:+: t.toList :=
  ⟨p.before.toList, p.after.toList, by rw [← String.toList_append, ← String.toList_append, p.eq]⟩

end Passage

/-- The texts stand in another one in this order, and no two of them share a character. -/
def InOrder (parts : List String) (t : String) : Prop :=
  ∃ ps : List (Passage t), ps.map Passage.text = parts ∧ ps.Pairwise fun p q => p.stop ≤ q.start

namespace InOrder

theorem nil (t : String) : InOrder [] t := ⟨[], rfl, .nil⟩

theorem whole (t : String) : InOrder [t] t := ⟨[.whole t], rfl, List.pairwise_singleton ..⟩

/-- Texts put behind each other keep what stands in each. -/
theorem append (h : InOrder parts t) (h' : InOrder parts' u) :
    InOrder (parts ++ parts') (t ++ u) := by
  obtain ⟨ps, rfl, hps⟩ := h
  obtain ⟨qs, rfl, hqs⟩ := h'
  refine ⟨ps.map (·.followed u) ++ qs.map (·.preceded t), ?_, ?_⟩
  · rw [List.map_append, List.map_map, List.map_map]
    rfl
  · rw [List.pairwise_append, List.pairwise_map, List.pairwise_map]
    refine ⟨hps, hqs.imp fun {p q} hpq => ?_, fun x hx y hy => ?_⟩
    · rw [Passage.stop_preceded, Passage.start_preceded]
      omega
    · obtain ⟨p, -, rfl⟩ := List.mem_map.mp hx
      obtain ⟨q, -, rfl⟩ := List.mem_map.mp hy
      have hp : p.stop ≤ t.length := p.stop_le
      rw [Passage.start_preceded]
      exact Nat.le_add_right_of_le hp

theorem enclosed (h : InOrder parts t) (s u : String) : InOrder parts (s ++ t ++ u) := by
  have happend := ((nil s).append h).append (nil u)
  rwa [List.nil_append, List.append_nil] at happend

/-- What stands in texts one by one stands in them joined by a separator. -/
theorem intercalate (separator : String) {partss : List (List String)} {ts : List String}
    (h : List.Forall₂ InOrder partss ts) :
    InOrder partss.flatten (separator.intercalate ts) := by
  induction h with
  | nil => exact nil _
  | @cons parts t partss ts hfirst hrest ih =>
    cases hrest with
    | nil =>
      rw [String.intercalate_singleton, List.flatten_singleton]
      exact hfirst
    | cons _ _ =>
      rw [String.intercalate_cons_cons, List.flatten_cons]
      have hseparated := hfirst.append (nil separator)
      rw [List.append_nil] at hseparated
      exact hseparated.append ih

-- By induction on the passages: a place before all of them is before all of what is taken from them.
/-- A passage can be taken from each text. -/
theorem narrow (h : InOrder parts t)
    (hparts : List.Forall₂ (fun s s' => ∃ q : Passage s, q.text = s') parts parts') :
    InOrder parts' t := by
  obtain ⟨ps, rfl, hps⟩ := h
  rw [List.forall₂_map_left_iff] at hparts
  suffices hsuffices : ∃ qs : List (Passage t), qs.map Passage.text = parts' ∧
      (qs.Pairwise fun p q => p.stop ≤ q.start) ∧
      ∀ n, (∀ p ∈ ps, n ≤ p.start) → ∀ q ∈ qs, n ≤ q.start by
    obtain ⟨qs, hqs, hpairwise, -⟩ := hsuffices
    exact ⟨qs, hqs, hpairwise⟩
  induction hparts with
  | nil => exact ⟨[], rfl, .nil, fun _ _ _ hq => absurd hq List.not_mem_nil⟩
  | @cons p s' ps parts' hfirst _ ih =>
    obtain ⟨q, rfl⟩ := hfirst
    rw [List.pairwise_cons] at hps
    obtain ⟨qs, rfl, hpairwise, hbehind⟩ := ih hps.2
    refine ⟨p.within q :: qs, rfl, List.pairwise_cons.mpr ⟨?_, hpairwise⟩, fun n hn => ?_⟩
    · exact fun r hr => Nat.le_trans (p.stop_within_le q) (hbehind p.stop hps.1 r hr)
    · rw [List.forall_mem_cons] at hn ⊢
      rw [Passage.start_within]
      exact ⟨Nat.le_add_right_of_le hn.1, hbehind n hn.2⟩

theorem infix_of_mem (h : InOrder parts t) (hs : s ∈ parts) : s.toList <:+: t.toList := by
  obtain ⟨ps, rfl, -⟩ := h
  obtain ⟨p, -, rfl⟩ := List.mem_map.mp hs
  exact p.text_infix

end InOrder

end Text

end MailMerge
