import MailMerge.Proofs.Letter.Rendering

/-!
# What a rendered letter says

Rendering a letter of plain names as plain text is reading it by the names themselves: its
text stays, a reference prints the value of its name, and a condition picks the first text
whose name has a true value. A name that the context does not bind stands for nothing,
unless a function of the engine is called so.
-/

namespace MailMerge

/-- What is printed for a datum in a text that is no HTML. -/
def Datum.shown : Datum → String
  | .none => ""
  | d => d.display

namespace Render

/-- Options of a plain text, with the line break at its end. -/
def plainText : RenderOptions := { html := false }

theorem print_plainText (d : Datum) : d.print (mode plainText) = .ok d.shown := by
  cases d with
  | missing quiet => cases quiet <;> rfl
  | _ => rfl

theorem truth_plainText (d : Datum) : d.truth (mode plainText) = .ok d.isTrue := by
  cases d with
  | missing quiet => cases quiet <;> rfl
  | _ => rfl

theorem found_plainText (c : Context) (n : String) :
    found plainText ((c.map fun e => (Name.identifier e.1, e.2)).map
      fun e => (e.1, Datum.ofValue e.2)) n = datumOf c n := by
  apply found_eq_datumOf
  rw [lookup_ofValue, Context.get?, Context.lookup_map_names Name.identifier_injective]
  rfl

/-- A letter of plain names, rendered as plain text, is what it says of the context. -/
theorem render_plainText_letter (l : Letter) (hl : l.All Name.Plain Name.Plain)
    (hd : l.nesting + 1 < Expr.Reader.maxDepth) (c : Context) (hc : c.Distinct) :
    render plainText l.text c
      = .ok (String.ofList (l.written (fun n => (datumOf c n).shown)
          fun n => (datumOf c n).isTrue)) := by
  have hnames : c.mapNames (contextIdentifier plainText)
      = .ok (c.map fun e => (Name.identifier e.1, e.2)) :=
    Context.mapNames_eq_ok Name.identifier_injective hc
  have hbindings : bindings plainText c none
      = .ok ((c.map fun e => (Name.identifier e.1, e.2)).map
          fun e => (e.1, Datum.ofValue e.2)) := by
    rw [bindings, hnames]
    rfl
  have hended : l.ended plainText.keepTrailingNewline = l := rfl
  have hwritten := l.writtenOr_eq_ok (fun n => print_plainText (datumOf c n))
    fun n => truth_plainText (datumOf c n)
  have hrender := renderTemplate_letter plainText ((c.map fun e => (Name.identifier e.1, e.2)).map
    fun e => (e.1, Datum.ofValue e.2)) l hl
  simp only [letterWith, if_pos hd, hended, found_plainText, hwritten, Except.map] at hrender
  simp only [render, renderWith, Option.isSome_none, Bool.false_eq_true, if_false, hbindings, bind,
    Except.bind, hrender]

/-- A letter with a condition inside another, names next to each other, and names that only
identifiers make words of. -/
def greeting : Letter :=
  .ofText "Dear " <| .reference "first name" <| .reference "(title)" <|
    .condition "has paid?"
      (.condition "é à" (.ofText "thanks" .done) .nothing <| .ofText "!" .done)
      (.onlyIf "asked & told" (.reference "unknown" .done) (.always (.ofText "please" .done)))
      (.ofText " \x7d %\x7d\n" .done)

/-- A context that binds some of the names of the greeting, and an odd one. -/
def greeted : Context :=
  [("first name", .text "Ann"), ("(title)", .null), ("has paid?", .int 2), ("é à", .bool true),
   ("'", .text "x")]

theorem render_plainText_greeting :
    greeting.All Name.Plain Name.Plain ∧ greeting.nesting + 1 < Expr.Reader.maxDepth ∧
      greeted.Distinct ∧
      render plainText greeting.text greeted
        = .ok (String.ofList (greeting.written (fun n => (datumOf greeted n).shown)
            fun n => (datumOf greeted n).isTrue)) :=
  ⟨by decide +kernel, by decide, by decide,
    render_plainText_letter greeting (by decide +kernel) (by decide) greeted (by decide)⟩

/-- A condition on a function of the engine. -/
def onRange : Letter :=
  .condition "range" (.char 'A' .done) (.always (.char 'B' .done)) .done

/-- A name that the context does not bind may hold all the same. -/
theorem render_plainText_range :
    onRange.All Name.Plain Name.Plain ∧ Context.get? [] "range" = none ∧
      render plainText onRange.text [] = .ok "A" ∧
      render plainText onRange.text []
        ≠ .ok (String.ofList (onRange.written (fun _ => "") fun _ => false)) := by
  decide +kernel

end Render

end MailMerge
