import Mathlib.Data.List.TakeWhile
import JuliaLookup.Interpreter
import JuliaLookup.Proofs.Interpreter.FilePaths

/-!
# Which interpreter is taken

Without a configured name the first usable candidate is taken: the program on the search path, then the
directories in their order, then the bare name. A directory is passed over if it can be told that Julia
cannot be used there; a file of which nothing can be told ends the search. A configured name is expanded, and
looked up only if it is bare. Main statement: `locate_takes_first_usable`.
-/

namespace JuliaLookup

/-! ### Files -/

namespace File

/-- Whether a regular file is there. -/
def isRegular : File → Bool
  | absent => false
  | executable => true
  | plain => true
  | directory => false
  | hidden .. => false

/-- Whether what is there may be executed, as a directory may in its own way. -/
def isRunnable : File → Bool
  | absent => false
  | executable => true
  | plain => false
  | directory => true
  | hidden .. => false

/-- Whether it can be told what is there. -/
def isTold : File → Bool
  | absent => true
  | executable => true
  | plain => true
  | directory => true
  | hidden .. => false

theorem eq_executable_iff {f : File} : f = executable ↔ f.isRegular = true ∧ f.isRunnable = true := by
  cases f <;> simp [isRegular, isRunnable]

end File

/-! ### Expanding -/

namespace Machine

open FilePath (slash below below_ne_nil)

variable {m other : Machine} {given path name rest hit : Text}

/-- The mark of a home directory. -/
def tilde : CodePoint := CodePoint.ofChar '~'

/-- What may stand after a name in a path: nothing, or a slash and more. -/
def IsAfter (rest : Text) : Prop := rest = [] ∨ ∃ more, rest = slash :: more

/-- A path that leads to the home of a user by name. -/
def NamesUser (given name : Text) : Prop :=
  name ≠ [] ∧ slash ∉ name ∧ ∃ rest, IsAfter rest ∧ given = tilde :: (name ++ rest)

/-- A path that leads to a named user whose home cannot even be asked for: the name holds a null, or a
surrogate that stands for no byte. -/
def NamesNobody (given : Text) : Prop :=
  ∃ name, NamesUser given name ∧ ∃ c ∈ name, c = 0 ∨ (c.isSurrogate = true ∧ isLoneByte c = false)

theorem takeWhile_of_isAfter (hname : slash ∉ name) (hrest : IsAfter rest) :
    (name ++ rest).takeWhile (· ≠ slash) = name := by
  have hall : ∀ c ∈ name, decide (c ≠ slash) = true := by
    intro c hc
    simpa using fun h : c = slash => hname (h ▸ hc)
  rw [List.takeWhile_append_of_pos hall]
  rcases hrest with rfl | ⟨more, rfl⟩
  · simp
  · simp

theorem dropWhile_of_isAfter (hname : slash ∉ name) (hrest : IsAfter rest) :
    (name ++ rest).dropWhile (· ≠ slash) = rest := by
  have htake := takeWhile_of_isAfter hname hrest
  have hsplit : (name ++ rest).takeWhile (· ≠ slash) ++ (name ++ rest).dropWhile (· ≠ slash) =
      name ++ rest := List.takeWhile_append_dropWhile
  rw [htake] at hsplit
  exact List.append_cancel_left hsplit

/-- Every text falls into a name and what may stand after one. -/
theorem exists_name_append (t : Text) : ∃ name rest, t = name ++ rest ∧ slash ∉ name ∧ IsAfter rest := by
  refine ⟨t.takeWhile (· ≠ slash), t.dropWhile (· ≠ slash), ?_, ?_, ?_⟩
  · exact List.takeWhile_append_dropWhile.symm
  · intro hmem
    have hne := List.mem_takeWhile_imp hmem
    simp at hne
  · cases hrest : t.dropWhile (· ≠ slash) with
    | nil => exact .inl rfl
    | cons c more =>
      have hc := List.head?_dropWhile_not (· ≠ slash) t
      rw [hrest] at hc
      have hslash : c = slash := by simpa using hc
      exact .inr ⟨more, by rw [hslash]⟩

/-- A path begins with no mark of a home, or with one that is the user's own, or with one that is another
user's. -/
theorem head?_ne_or_home_or_user (given : Text) : given.head? ≠ some tilde ∨
    (∃ rest, IsAfter rest ∧ given = tilde :: rest) ∨ ∃ name, NamesUser given name := by
  cases given with
  | nil => exact .inl (by simp)
  | cons c t =>
    by_cases hc : c = tilde
    · obtain ⟨name, rest, rfl, hname, hrest⟩ := exists_name_append t
      by_cases hne : name = []
      · exact .inr (.inl ⟨rest, hrest, by rw [hc, hne, List.nil_append]⟩)
      · exact .inr (.inr ⟨name, hne, hname, rest, hrest, by rw [hc]⟩)
    · exact .inl (by simpa using hc)

/-- A path without the mark of a home stays as it is. -/
theorem expand_of_head?_ne (h : given.head? ≠ some tilde) : m.expand given = .ok given := by
  cases given with
  | nil => rfl
  | cons c rest =>
    have hc : c ≠ CodePoint.ofChar '~' := by simpa [tilde] using h
    simp [expand, hc]

/-- A mark with no name behind it is the home. -/
theorem expand_home (hrest : IsAfter rest) : m.expand (tilde :: rest) = .ok (below m.home rest) := by
  have htake : rest.takeWhile (· ≠ slash) = [] := takeWhile_of_isAfter List.not_mem_nil hrest
  have hdrop : rest.dropWhile (· ≠ slash) = rest := dropWhile_of_isAfter List.not_mem_nil hrest
  simp only [expand, tilde, ne_eq, not_true_eq_false, if_false]
  rw [htake, hdrop, if_pos List.isEmpty_nil]

theorem expand_of_userFault (hne : name ≠ []) (hname : slash ∉ name) (hrest : IsAfter rest)
    {fault : UserFault} (h : userFault? name = some fault) :
    m.expand (tilde :: (name ++ rest)) = .error fault := by
  have hnamed : ¬ name.isEmpty = true := by simpa using hne
  simp only [expand, tilde, ne_eq, not_true_eq_false, if_false]
  rw [takeWhile_of_isAfter hname hrest, if_neg hnamed]
  simp only [h]

/-- A name behind the mark is the home of that user, if one is known. -/
theorem expand_user (hne : name ≠ []) (hname : slash ∉ name) (hrest : IsAfter rest)
    (h : userFault? name = none) : m.expand (tilde :: (name ++ rest)) =
      .ok (((m.homeOf name).map (below · rest)).getD (tilde :: (name ++ rest))) := by
  have hnamed : ¬ name.isEmpty = true := by simpa using hne
  simp only [expand, tilde, ne_eq, not_true_eq_false, if_false]
  rw [takeWhile_of_isAfter hname hrest, dropWhile_of_isAfter hname hrest, if_neg hnamed]
  simp only [h]

/-- Nothing but the home that a path leads to matters to what the path expands to. -/
theorem expand_congr (hhome : other.home = m.home)
    (huser : ∀ name, NamesUser given name → other.homeOf name = m.homeOf name) :
    other.expand given = m.expand given := by
  rcases head?_ne_or_home_or_user given with hhead | ⟨rest, hrest, rfl⟩ | ⟨name, hnamed⟩
  · rw [expand_of_head?_ne hhead, expand_of_head?_ne hhead]
  · rw [expand_home hrest, expand_home hrest, hhome]
  · have hsame := huser name hnamed
    obtain ⟨hne, hname, rest, hrest, rfl⟩ := hnamed
    cases hfault : userFault? name with
    | some fault =>
      rw [expand_of_userFault hne hname hrest hfault, expand_of_userFault hne hname hrest hfault]
    | none => rw [expand_user hne hname hrest hfault, expand_user hne hname hrest hfault, hsame]

theorem ne_nil_of_expand (hgiven : given ≠ []) (h : m.expand given = .ok path) : path ≠ [] := by
  rcases head?_ne_or_home_or_user given with hhead | ⟨rest, hrest, rfl⟩ | ⟨name, hnamed⟩
  · rw [expand_of_head?_ne hhead] at h
    obtain rfl := Except.ok.inj h
    exact hgiven
  · rw [expand_home hrest] at h
    obtain rfl := Except.ok.inj h
    exact below_ne_nil m.home rest
  · obtain ⟨hne, hname, rest, hrest, rfl⟩ := hnamed
    cases hfault : userFault? name with
    | some fault =>
      rw [expand_of_userFault hne hname hrest hfault] at h
      cases h
    | none =>
      rw [expand_user hne hname hrest hfault] at h
      obtain rfl := Except.ok.inj h
      cases m.homeOf name with
      | none => simp
      | some home => exact below_ne_nil home rest

theorem exists_of_userFault?_eq_some {fault : UserFault} (h : userFault? name = some fault) :
    ∃ c ∈ name, c = 0 ∨ (c.isSurrogate = true ∧ isLoneByte c = false) := by
  unfold userFault? at h
  dsimp only at h
  split at h
  · next c more hrest =>
    have hc := List.head?_dropWhile_not (fun c : CodePoint => !c.isSurrogate || isLoneByte c) name
    rw [hrest] at hc
    refine ⟨c, ?_, .inr (by simpa using hc)⟩
    exact (List.dropWhile_sublist _).subset (hrest ▸ List.mem_cons_self)
  · split_ifs at h with hzero
    exact ⟨0, hzero, .inl rfl⟩

theorem userFault?_ne_none {c : CodePoint} (hc : c ∈ name)
    (h : c = 0 ∨ (c.isSurrogate = true ∧ isLoneByte c = false)) : userFault? name ≠ none := by
  unfold userFault?
  dsimp only
  split
  · nofun
  · next hrest =>
    rcases h with rfl | ⟨hsurrogate, hlone⟩
    · rw [if_pos hc]
      nofun
    · -- nothing is left of a name that is written as bytes throughout
      have hall := List.dropWhile_eq_nil_iff.mp hrest c hc
      simp [hsurrogate, hlone] at hall

/-- Expanding fails for the sake of a user's name, and only so. -/
theorem exists_expand_eq_ok_iff : (∃ path, m.expand given = .ok path) ↔ ¬ NamesNobody given := by
  constructor
  · rintro ⟨path, hexpand⟩ ⟨name, ⟨hne, hname, rest, hrest, rfl⟩, c, hc, hbad⟩
    obtain ⟨fault, hfault⟩ := Option.ne_none_iff_exists'.mp (userFault?_ne_none hc hbad)
    rw [expand_of_userFault hne hname hrest hfault] at hexpand
    cases hexpand
  · intro h
    rcases head?_ne_or_home_or_user given with hhead | ⟨rest, hrest, rfl⟩ | ⟨name, hnamed⟩
    · exact ⟨given, expand_of_head?_ne hhead⟩
    · exact ⟨_, expand_home hrest⟩
    · cases hfault : userFault? name with
      | some fault => exact absurd ⟨name, hnamed, exists_of_userFault?_eq_some hfault⟩ h
      | none =>
        obtain ⟨hne, hname, rest, hrest, rfl⟩ := hnamed
        exact ⟨_, expand_user hne hname hrest hfault⟩

/-! ### The search path -/

theorem find?_eq_some_iff : m.find? name = some hit ↔ m.onPath name = some hit ∧ hit ≠ [] := by
  simp [find?, Option.filter_eq_some_iff]

/-- An empty hit counts as none. -/
theorem find?_eq_none_iff : m.find? name = none ↔ ∀ hit, m.onPath name = some hit → hit = [] := by
  simp [find?, Option.filter_eq_none_iff]

end Machine

/-! ### Searching -/

namespace Interpreter

open Machine
open FilePath (slash)

variable {m other : Machine} {dir : FilePath} {dirs before after : List FilePath} {given path hit : Text}
  {configured : Option Text}

/-- A directory in which Julia can be used. -/
def IsUsable (m : Machine) (dir : FilePath) : Prop :=
  (m.file (candidate dir).print).isRegular = true ∧ (m.file (candidate dir).print).isRunnable = true

/-- A directory of which it can be told that Julia cannot be used there. -/
def IsPassed (m : Machine) (dir : FilePath) : Prop :=
  (m.file (candidate dir).print).isTold = true ∧ ¬ IsUsable m dir

theorem isUsable_iff : IsUsable m dir ↔ m.file (candidate dir).print = .executable :=
  File.eq_executable_iff.symm

/-- All usual directories lead somewhere from where they begin. -/
theorem parts_ne_nil_of_usual {home : Text} (h : dir ∈ usualDirs home) : dir.parts ≠ [] := by
  have hentered (above : FilePath) : (above.enter "bin").parts ≠ [] := by
    rw [FilePath.parts_enter (by decide)]
    simp
  simp only [usualDirs, List.mem_cons, List.not_mem_nil, or_false] at h
  rcases h with rfl | rfl | rfl | rfl
  · exact hentered _
  · exact hentered _
  · decide
  · decide

theorem searchIn_of_isUsable (h : IsUsable m dir) :
    searchIn m (dir :: after) = .ok (candidate dir).print := by
  rw [searchIn, isUsable_iff.mp h]

theorem searchIn_of_isPassed (h : IsPassed m dir) : searchIn m (dir :: after) = searchIn m after := by
  obtain ⟨htold, hunusable⟩ := h
  rw [isUsable_iff] at hunusable
  rw [searchIn]
  cases hfile : m.file (candidate dir).print with
  | absent => rfl
  | plain => rfl
  | directory => rfl
  | executable => exact absurd hfile hunusable
  | hidden kind message =>
    rw [hfile] at htold
    cases htold

/-- A file of which nothing can be told ends the search. -/
theorem searchIn_of_hidden {kind message : Text} (h : m.file (candidate dir).print = .hidden kind message) :
    searchIn m (dir :: after) = .error (.file kind message) := by
  rw [searchIn, h]

/-- The search goes on behind the directories that are passed over. -/
theorem searchIn_append (h : ∀ dir ∈ before, IsPassed m dir) :
    searchIn m (before ++ after) = searchIn m after := by
  induction before with
  | nil => rfl
  | cons dir before ih =>
    obtain ⟨hdir, hbefore⟩ := List.forall_mem_cons.mp h
    rw [List.cons_append, searchIn_of_isPassed hdir, ih hbefore]

theorem ne_nil_of_searchIn (h : searchIn m dirs = .ok path) : path ≠ [] := by
  induction dirs with
  | nil =>
    obtain rfl := Except.ok.inj h
    decide
  | cons dir dirs ih =>
    rw [searchIn] at h
    split at h
    · obtain rfl := Except.ok.inj h
      exact FilePath.print_ne_nil _
    · cases h
    all_goals exact ih h

theorem search_of_onPath (h : m.find? defaultName = some hit) : search m = .ok hit := by
  rw [search, h]

theorem search_of_notOnPath (h : m.find? defaultName = none) : search m = searchIn m m.installDirs := by
  rw [search, h]

theorem ne_nil_of_search (h : search m = .ok path) : path ≠ [] := by
  cases hfind : m.find? defaultName with
  | some hit =>
    rw [search_of_onPath hfind] at h
    obtain rfl := Except.ok.inj h
    exact (find?_eq_some_iff.mp hfind).2
  | none =>
    rw [search_of_notOnPath hfind] at h
    exact ne_nil_of_searchIn h

/-! ### Locating -/

theorem locate_of_unset (h : configured = none ∨ configured = some []) : locate m configured = search m := by
  rcases h with rfl | rfl
  · rfl
  · rfl

theorem locate_some (h : given ≠ []) : locate m (some given) = resolve m given := by
  simp [locate, Option.filter_some, h]

theorem resolve_of_expand (h : m.expand given = .ok path) :
    resolve m given = .ok (if slash ∈ path then path else (m.find? path).getD path) := by
  rw [resolve, h]

theorem resolve_of_userFault {why : UserFault} (h : m.expand given = .error why) :
    resolve m given = .error (.user why) := by
  rw [resolve, h]

/-- A configured name is resolved alike wherever it expands alike and, if what it expands to is bare, is
looked up alike. -/
theorem resolve_congr (hexpand : other.expand given = m.expand given)
    (hpath : ∀ path, m.expand given = .ok path → slash ∉ path → other.onPath path = m.onPath path) :
    resolve other given = resolve m given := by
  cases hm : m.expand given with
  | error why => rw [resolve_of_userFault hm, resolve_of_userFault (hexpand.trans hm)]
  | ok path =>
    rw [resolve_of_expand hm, resolve_of_expand (hexpand.trans hm)]
    by_cases hslash : slash ∈ path
    · simp [hslash]
    · simp [hslash, find?, hpath path hm hslash]

/-- A configured name is resolved if it can be expanded. -/
theorem exists_resolve_eq_ok_iff : (∃ path, resolve m given = .ok path) ↔ ¬ NamesNobody given := by
  rw [← exists_expand_eq_ok_iff (m := m)]
  cases hexpand : m.expand given with
  | error why => simp [resolve_of_userFault hexpand]
  | ok path => simp [resolve_of_expand hexpand]

theorem ne_nil_of_resolve (hgiven : given ≠ []) (h : resolve m given = .ok path) : path ≠ [] := by
  cases hexpand : m.expand given with
  | error why =>
    rw [resolve_of_userFault hexpand] at h
    cases h
  | ok expanded =>
    rw [resolve_of_expand hexpand] at h
    obtain rfl := Except.ok.inj h
    have hne := ne_nil_of_expand hgiven hexpand
    split_ifs with hslash
    · exact hne
    · cases hfind : m.find? expanded with
      | none => exact hne
      | some hit => exact (find?_eq_some_iff.mp hfind).2

theorem ne_nil_of_locate (h : locate m configured = .ok path) : path ≠ [] := by
  by_cases hunset : configured = none ∨ configured = some []
  · rw [locate_of_unset hunset] at h
    exact ne_nil_of_search h
  · cases configured with
    | none => simp at hunset
    | some given =>
      have hgiven : given ≠ [] := by simpa using hunset
      rw [locate_some hgiven] at h
      exact ne_nil_of_resolve hgiven h

/-- Without a configured name, the program on the search path is taken, else the one in the first directory
that holds a regular and executable file of its name, if the directories before are passed over, else the
bare name, if all are. A directory is printed before a slash and the name, as every usual one is, but a root
has its slash already, and the working directory is not mentioned. A configured name comes down to itself,
the home that it leads to, and the look-up of what it expands to; with a slash in it that is not looked up at
all. Something is taken for it unless it leads to a user who cannot be asked for. What is taken is never
empty. -/
theorem locate_takes_first_usable (m : Machine) :
    (∀ configured, configured = none ∨ configured = some [] →
      (∀ hit, m.onPath "julia" = some hit → hit ≠ [] → locate m configured = .ok hit) ∧
      ((∀ hit, m.onPath "julia" = some hit → hit = []) →
        (∀ before dir after, m.installDirs = before ++ dir :: after → (∀ d ∈ before, IsPassed m d) →
          IsUsable m dir → locate m configured = .ok (candidate dir).print) ∧
        ((∀ dir ∈ m.installDirs, IsPassed m dir) → locate m configured = .ok "julia"))) ∧
    (∀ dir : FilePath,
      (dir.print = "." → (candidate dir).print = "julia") ∧
      (dir.print.getLast? = some slash → (candidate dir).print = dir.print ++ "julia") ∧
      (dir.print ≠ "." → dir.print.getLast? ≠ some slash →
        (candidate dir).print = dir.print ++ "/julia") ∧
      ∀ home, dir ∈ usualDirs home → (candidate dir).print = dir.print ++ "/julia") ∧
    (∀ given, given ≠ [] →
      (∀ other : Machine, other.home = m.home →
        (∀ name, NamesUser given name → other.homeOf name = m.homeOf name) →
        (∀ path, m.expand given = .ok path → slash ∉ path → other.onPath path = m.onPath path) →
        locate other (some given) = locate m (some given)) ∧
      (∀ path, m.expand given = .ok path → slash ∈ path → locate m (some given) = .ok path) ∧
      (∀ path, m.expand given = .ok path → slash ∉ path →
        locate m (some given) = .ok ((m.find? path).getD path)) ∧
      ((∃ path, locate m (some given) = .ok path) ↔ ¬ NamesNobody given)) ∧
    (∀ configured path, locate m configured = .ok path → path ≠ []) := by
  have hname : FilePath.IsPart defaultName := by decide
  refine ⟨fun configured hunset => ⟨?_, fun hnone => ⟨?_, ?_⟩⟩, fun dir => ⟨?_, ?_, ?_, ?_⟩,
    fun given hgiven => ⟨?_, ?_, ?_, ?_⟩, fun _ _ h => ne_nil_of_locate h⟩
  · intro hit hpath hne
    rw [locate_of_unset hunset, search_of_onPath (find?_eq_some_iff.mpr ⟨hpath, hne⟩)]
  · intro before dir after hdirs hbefore hdir
    rw [locate_of_unset hunset, search_of_notOnPath (find?_eq_none_iff.mpr hnone), hdirs,
      searchIn_append hbefore, searchIn_of_isUsable hdir]
  · intro hdirs
    rw [locate_of_unset hunset, search_of_notOnPath (find?_eq_none_iff.mpr hnone),
      ← List.append_nil m.installDirs, searchIn_append hdirs]
    rfl
  · exact FilePath.print_enter_of_working hname
  · exact FilePath.print_enter_of_slash hname
  · exact FilePath.print_enter_of_other hname
  · exact fun home hdir => FilePath.print_enter_of_parts_ne_nil hname (parts_ne_nil_of_usual hdir)
  · intro other hhome huser hpath
    rw [locate_some hgiven, locate_some hgiven]
    exact resolve_congr (expand_congr hhome huser) hpath
  · intro path hexpand hslash
    rw [locate_some hgiven, resolve_of_expand hexpand, if_pos hslash]
  · intro path hexpand hslash
    rw [locate_some hgiven, resolve_of_expand hexpand, if_neg hslash]
  · rw [locate_some hgiven]
    exact exists_resolve_eq_ok_iff

/-- Of the usual directories the first one holds nothing, and the second one holds Julia. -/
theorem locate_takes_second_directory :
    let m : Machine :=
      { home := "/root/"
        onPath := fun _ => none
        file := fun path => if path = "/root/.local/bin/julia" then .executable else .absent }
    locate m none = .ok "/root/.local/bin/julia" ∧ locate m (some "~/bin/julia") = .ok "/root/bin/julia" := by
  intro m
  obtain ⟨hunset, -, hset, -⟩ := locate_takes_first_usable m
  obtain ⟨hfirst, -⟩ := (hunset none (.inl rfl)).2 nofun
  have hbefore : ∀ d ∈ [FilePath.of "/root/.juliaup/bin"], IsPassed m d := by
    intro d hd
    obtain rfl := List.mem_singleton.mp hd
    rw [IsPassed, isUsable_iff]
    decide
  have hdir : IsUsable m (.of "/root/.local/bin") := isUsable_iff.mpr (by decide)
  have hslash : slash ∈ ("/root/bin/julia" : Text) := by decide
  constructor
  · rw [hfirst _ (.of "/root/.local/bin") [.of "/usr/local/bin", .of "/opt/homebrew/bin"] rfl hbefore hdir]
    rfl
  · exact (hset "~/bin/julia" (by decide)).2.1 "/root/bin/julia" rfl hslash

/-- A root is not printed with a second slash. Users have homes of their own. A file of which nothing can be
told ends the search, and a user who cannot be asked for ends it as well. -/
theorem locate_beyond_home_and_lookup :
    let m : Machine :=
      { home := "/root"
        onPath := fun _ => none
        installDirs := [.of "/"]
        file := fun path =>
          if path = "/julia" then .executable else .hidden "PermissionError" "[Errno 13] Permission denied" }
    (IsUsable m (.of "/") ∧ locate m none = .ok "/julia" ∧
      locate m none ≠ .ok ((FilePath.of "/").print ++ "/julia")) ∧
    (locate m (some "~julia/bin/julia") = .ok "~julia/bin/julia" ∧
      locate { m with homeOf := fun _ => some "/home" } (some "~julia/bin/julia") = .ok "/home/bin/julia") ∧
    locate { m with installDirs := [.of "/root"] } none =
      .error (.file "PermissionError" "[Errno 13] Permission denied") ∧
    locate m (some "~\x00") = .error (.user .holdsNull) := by
  intro m
  have hroot : locate m none = .ok "/julia" := rfl
  refine ⟨⟨isUsable_iff.mpr (by decide), hroot, ?_⟩, ⟨rfl, rfl⟩, ?_, rfl⟩
  · rw [hroot]
    intro h
    exact absurd (Except.ok.inj h) (by decide)
  · rw [locate_of_unset (.inl rfl), search_of_notOnPath rfl]
    exact searchIn_of_hidden rfl

end Interpreter

end JuliaLookup
