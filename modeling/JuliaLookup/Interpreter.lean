import JuliaLookup.FilePath

/-!
# The interpreter

Which Julia program to run: the one that is configured, else the one on the search path, else the one in
the first directory where it is usually installed.
-/

namespace JuliaLookup

/-- What stands under a path. -/
inductive File where
  | absent
  | executable
  | plain
  | directory
  /-- It cannot be told what is there: a directory above may not be searched, or the path is too long. -/
  | hidden (kind message : Text)
  deriving DecidableEq, Repr

/-- Where Julia is usually installed, in a home and elsewhere. Without a home, that is with one that is still
written with `~`, the program does not start. -/
def usualDirs (home : Text) : List FilePath :=
  let home := FilePath.of (FilePath.below home [])
  [(home.enter ".juliaup").enter "bin", (home.enter ".local").enter "bin",
    .of "/usr/local/bin", .of "/opt/homebrew/bin"]

/-- What the look-up of a program depends on. -/
structure Machine where
  /-- The home of whoever runs the program. -/
  home : Text
  /-- The home of a named user. -/
  homeOf : Text → Option Text := fun _ => none
  /-- The program of a name on the search path. -/
  onPath : Text → Option Text
  installDirs : List FilePath := usualDirs home
  file : Text → File

/-- Why the home of a named user cannot be looked up. -/
inductive UserFault where
  /-- From a place on, a number of surrogates cannot be written as bytes. -/
  | unwritable (first : CodePoint) (place count : Nat)
  | holdsNull
  deriving DecidableEq

namespace UserFault

def message : UserFault → Text
  | unwritable first place count =>
    "'utf-8' codec can't encode " ++
      (if count = 1 then
        ("character '\\u" : Text) ++ Text.hex 4 first.val ++ "' in position " ++ Text.ofNat place
      else
        ("characters in position " : Text) ++ Text.ofNat place ++ "-" ++ Text.ofNat (place + count - 1)) ++
      ": surrogates not allowed"
  | holdsNull => "embedded null byte"

end UserFault

/-- Why no interpreter can be located. -/
inductive LocateFault where
  | user (why : UserFault)
  /-- What is under a path cannot be told. -/
  | file (kind message : Text)
  deriving DecidableEq

def LocateFault.message : LocateFault → Text
  | user why => why.message
  | file _ message => message

namespace Machine

open FilePath (slash below)

/-- Whether a code point stands for one byte that is no character by itself. -/
def isLoneByte (c : CodePoint) : Bool := 0xDC80 ≤ c.val && c.val ≤ 0xDCFF

/-- Why the home of a user with this name cannot be looked up, if it cannot. -/
def userFault? (name : Text) : Option UserFault :=
  let before := name.takeWhile fun c => !c.isSurrogate || isLoneByte c
  let rest := name.dropWhile fun c => !c.isSurrogate || isLoneByte c
  match rest with
  | c :: _ =>
    some (.unwritable c before.length (rest.takeWhile CodePoint.isSurrogate).length)
  | [] => if (0 : CodePoint) ∈ name then some .holdsNull else none

/-- The path with a leading `~` read as the home directory, and a leading `~name` as the home of that user.
Where no such user is known, `~name` stays. -/
def expand (m : Machine) (path : Text) : Except UserFault Text :=
  match path with
  | [] => .ok []
  | c :: rest =>
    if c ≠ CodePoint.ofChar '~' then .ok path
    else
      let name := rest.takeWhile (· ≠ slash)
      let rest := rest.dropWhile (· ≠ slash)
      if name.isEmpty then .ok (below m.home rest)
      else match userFault? name with
        | some fault => .error fault
        | none => .ok (((m.homeOf name).map (below · rest)).getD path)

/-- The program of a name on the search path, unless its path is empty. -/
def find? (m : Machine) (name : Text) : Option Text := (m.onPath name).filter (!·.isEmpty)

end Machine

namespace Interpreter

/-- The name that Julia goes by when nothing else is known. -/
def defaultName : Text := "julia"

/-- Where Julia would be in a directory. -/
def candidate (dir : FilePath) : FilePath := dir.enter defaultName

/-- The interpreter in the first of some directories that has one. What cannot be told ends the search. -/
def searchIn (m : Machine) : List FilePath → Except LocateFault Text
  | [] => .ok defaultName
  | dir :: rest =>
    let path := (candidate dir).print
    match m.file path with
    | .executable => .ok path
    | .hidden kind message => .error (.file kind message)
    | .absent | .plain | .directory => searchIn m rest

/-- The interpreter of a machine when none is configured. -/
def search (m : Machine) : Except LocateFault Text :=
  match m.find? defaultName with
  | some found => .ok found
  | none => searchIn m m.installDirs

/-- The interpreter of a machine that a configured name or path means. A bare name is looked up on the
search path. -/
def resolve (m : Machine) (given : Text) : Except LocateFault Text :=
  match m.expand given with
  | .ok path => .ok (if FilePath.slash ∈ path then path else (m.find? path).getD path)
  | .error why => .error (.user why)

/-- The interpreter of a machine. -/
def locate (m : Machine) (configured : Option Text) : Except LocateFault Text :=
  match configured.filter (!·.isEmpty) with
  | some given => resolve m given
  | none => search m

end Interpreter

end JuliaLookup
