import JuliaLookup.Text.Search

/-!
# Paths of files

A path as it is kept: where it begins, and the parts that lead on from there. Doubled slashes and parts that
stay in the same directory are dropped when a path is read, so it may be printed otherwise than it was
written.
-/

namespace JuliaLookup

namespace FilePath

/-- The slash between the parts of a path. -/
def slash : CodePoint := CodePoint.ofChar '/'

/-- A part leads on: it is the name of something else than the directory it is in. -/
def IsPart (t : Text) : Prop := t ≠ [] ∧ t ≠ "." ∧ slash ∉ t

instance decidableIsPart : DecidablePred IsPart := fun t =>
  inferInstanceAs (Decidable (t ≠ [] ∧ t ≠ "." ∧ slash ∉ t))

/-- Where a path begins: in the working directory, at the root, or at what two slashes stand for. -/
inductive Root where
  | working
  | single
  | double
  deriving DecidableEq

namespace Root

/-- What a path of this text begins with. More than two slashes count as one. -/
def of (t : Text) : Root :=
  match (t.takeWhile (· = slash)).length with
  | 0 => working
  | 2 => double
  | _ => single

def text : Root → Text
  | working => []
  | single => [slash]
  | double => [slash, slash]

end Root

end FilePath

@[ext]
structure FilePath where
  root : FilePath.Root
  parts : List Text
  isPart : ∀ part ∈ parts, FilePath.IsPart part
  deriving DecidableEq

namespace FilePath

/-- Reads a path. -/
def of (t : Text) : FilePath where
  root := .of t
  parts := (Text.pieces slash t).filter (decide <| IsPart ·)
  isPart _ h := of_decide_eq_true (List.mem_filter.mp h).2

/-- The text of a path. A path without any part that begins in the working directory is that directory. -/
def print (p : FilePath) : Text :=
  let t := p.root.text ++ Text.join [slash] p.parts
  if t.isEmpty then "." else t

/-- The path that leads on from a directory. One that begins at a root leads there from everywhere. -/
def append (dir path : FilePath) : FilePath :=
  if path.root = .working then
    { root := dir.root
      parts := dir.parts ++ path.parts
      isPart := List.forall_mem_append.mpr ⟨dir.isPart, path.isPart⟩ }
  else path

/-- Leads on from a directory by a path that is still to be read. -/
def enter (dir : FilePath) (t : Text) : FilePath := dir.append (.of t)

/-! ### Homes -/

/-- The text without slashes at its end. -/
def dropSlashes (t : Text) : Text := (t.reverse.dropWhile (· == slash)).reverse

/-- What a home directory and the path after it come to. -/
def below (home rest : Text) : Text :=
  match dropSlashes home ++ rest with
  | [] => [slash]
  | path => path

end FilePath

end JuliaLookup
