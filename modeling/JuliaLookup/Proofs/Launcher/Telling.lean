import JuliaLookup.Proofs.Launcher.Course
import JuliaLookup.Proofs.Text.Decoding

/-!
# What a run tells

A run that comes to a text comes to one that can be shown as it is: there is something in it, nothing blank
around it, and no surrogate. A run that fails says something about the failure. Either way it has tried a
process for the script, and at most one more.
-/

namespace JuliaLookup

/-- There is something in the text, nothing blank around it, and no surrogate. -/
structure Text.IsPresentable (t : Text) : Prop where
  ne_nil : t ≠ []
  strip_eq : t.strip = t
  no_surrogate : ∀ c ∈ t, c.isSurrogate = false

/-- What bytes decode to can be shown without the blanks around it, unless it is all blank. -/
theorem Text.isPresentable_strip_decode {bytes : List UInt8} (h : (Utf8.decode bytes).strip ≠ []) :
    (Utf8.decode bytes).strip.IsPresentable where
  ne_nil := h
  strip_eq := strip_strip (Utf8.decode bytes)
  no_surrogate c hc := by
    have hmem : c ∈ Utf8.decode bytes := mem_of_mem_trim hc
    exact Utf8.isSurrogate_of_mem_decode hmem

namespace Failure

variable {f : Failure}

/-- What a failure renders to begins with its message. -/
theorem render_ne_nil (h : f.message ≠ []) : f.render ≠ [] := by
  unfold render
  split
  · exact h
  · split
    · exact h
    · rw [List.append_assoc]
      exact List.append_ne_nil_of_left_ne_nil h _

theorem message_ofStderr_ne_nil (package project diagnostics : Option Text) (stderr : Text) :
    (ofStderr package project diagnostics stderr).message ≠ [] := by
  -- the paragraph break below the title is always there
  have hbody (title : Text) : title ++ paragraph ++ stderr.strip ≠ [] := by
    have hbreak : paragraph ≠ [] := by decide
    simp [hbreak]
  unfold ofStderr
  dsimp only
  split
  · rw [List.append_assoc]
    exact List.append_ne_nil_of_left_ne_nil (hbody _) _
  · exact hbody _

end Failure

namespace Launcher

variable {l : Launcher} {script : Text} {package : Option Text} {e : Ending} {f : Failure}
  {stdout stderr text : Text} {a : Attempt}

/-- Only a process that was started prints, and what it prints is decoded. -/
theorem exists_child_of_printed (h : l.ending a = .printed stdout stderr) :
    ∃ c, a = .started c ∧ stdout = Utf8.decode c.stdout ∧ stderr = Utf8.decode c.stderr := by
  cases a with
  | refused why text => cases h
  | started c =>
    rw [ending] at h
    split at h
    · cases h
    · split at h
      · cases h
        exact ⟨c, rfl, rfl, rfl⟩
      · cases h
      · cases h
      · cases h

/-- Whatever goes wrong with a process, the failure says so. -/
theorem message_ne_nil_of_meaning (h : l.meaning e = .failed f) : f.message ≠ [] := by
  cases e with
  | printed stdout stderr => cases h
  | cancelled => cases h
  | unwaited => cases h
  | raised kind message => cases h
  | ranOut =>
    rw [meaning, timedOut] at h
    split at h
    · cases h
    · split at h
      · obtain rfl := Outcome.failed.inj h
        rw [List.append_assoc]
        exact List.append_ne_nil_of_left_ne_nil (by decide) _
      · cases h
  | refused why text =>
    have hcases : f = l.notFound ∨ f = notStarted text := by
      cases why <;> cases h
      all_goals simp
    rcases hcases with rfl | rfl
    · exact List.append_ne_nil_of_left_ne_nil (by decide) _
    · exact List.append_ne_nil_of_left_ne_nil (by decide) _

namespace Course

variable {first second : Attempt} {outcome : Outcome Text} {spawns : List Spawn}

theorem isPresentable_of_done (h : Course l script package first second (.done text) spawns) :
    text.IsPresentable := by
  obtain ⟨stdout, stderr, hprinted, -, hout, rfl⟩ := h.done_iff.mp rfl
  obtain ⟨c, -, rfl, -⟩ := exists_child_of_printed hprinted
  exact Text.isPresentable_strip_decode hout

theorem message_ne_nil (h : Course l script package first second (.failed f) spawns) :
    f.message ≠ [] := by
  generalize hfailed : Outcome.failed f = outcome at h
  cases h with
  | result => cases hfailed
  | cancelled => cases hfailed
  | crashed => cases hfailed
  | silence =>
    obtain rfl := Outcome.failed.inj hfailed
    show noResult.message ≠ []
    decide
  | failed means =>
    obtain rfl := Outcome.failed.inj hfailed
    exact message_ne_nil_of_meaning means
  | complaint printed heard =>
    obtain ⟨description, rfl⟩ := eq_ofStderr_of_complain hfailed.symm
    exact Failure.message_ofStderr_ne_nil _ _ _ _

theorem length_spawns (h : Course l script package first second outcome spawns) :
    spawns.length = 1 ∨ spawns.length = 2 := by
  obtain ⟨htwo, hone⟩ := h.spawns_eq
  by_cases hcomplains : (l.ending first).Complains
  · rw [htwo hcomplains]
    exact .inr rfl
  · rw [hone hcomplains]
    exact .inl rfl

end Course

/-! ### Runs for calls -/

variable {attempts : List Attempt} {s : Script}

theorem isPresentable_of_runner (h : (l.runner attempts s).outcome = .done text) :
    text.IsPresentable := by
  have hcourse := course_run l s.text s.package attempts
  rw [show ((l.run s.text s.package).perform attempts).outcome = .done text from h] at hcourse
  exact hcourse.isPresentable_of_done

theorem message_ne_nil_of_runner (h : (l.runner attempts s).outcome = .failed f) :
    f.message ≠ [] := by
  have hcourse := course_run l s.text s.package attempts
  rw [show ((l.run s.text s.package).perform attempts).outcome = .failed f from h] at hcourse
  exact hcourse.message_ne_nil

theorem length_spawns_runner (l : Launcher) (attempts : List Attempt) (s : Script) :
    (l.runner attempts s).spawns.length = 1 ∨ (l.runner attempts s).spawns.length = 2 :=
  (course_run l s.text s.package attempts).length_spawns

end Launcher

end JuliaLookup
