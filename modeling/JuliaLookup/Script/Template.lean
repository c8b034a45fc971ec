import JuliaLookup.Text.Basic

/-!
# Templates

Fixed text with slots. Filling a template puts one text into every slot, as it is.
-/

namespace JuliaLookup

inductive Piece where
  | fixed (t : Text)
  | slot
  deriving DecidableEq

instance : Coe String Piece := ⟨fun s => .fixed s⟩

abbrev Template := List Piece

namespace Template

/-- The template with these lines, each ended by a line feed. -/
def lines (ls : List (List Piece)) : Template := ls.flatMap fun l => l ++ [.fixed "\n"]

/-- The text of one piece. -/
def fillPiece (filling : Text) : Piece → Text
  | .fixed t => t
  | .slot => filling

/-- The text with every slot filled. -/
def fill (template : Template) (filling : Text) : Text := template.flatMap (fillPiece filling)

variable {template : Template} {filling : Text}

@[simp] theorem fill_nil : fill [] filling = [] := rfl

@[simp] theorem fill_cons (p : Piece) : fill (p :: template) filling =
    fillPiece filling p ++ template.fill filling := rfl

theorem fill_append (first second : Template) :
    (first ++ second).fill filling = first.fill filling ++ second.fill filling :=
  List.flatMap_append

end Template

end JuliaLookup
