import JuliaLookup.Proofs.Launcher.Course
import JuliaLookup.Proofs.Text.Encoding

/-!
# What is read of a process

Whatever bytes a process prints, they are read, and what is read has no surrogates in it. A text that was
printed is read as it is, whatever bytes come after it, so a run gives back the text that its process
printed, without the blanks around it. Main statement: `run_reads_text`.
-/

namespace JuliaLookup.Launcher

variable {l : Launcher} {c : Child} {script s : Text} {package : Option Text}

theorem ending_of_completes (hwait : l.cannotWait = false) (hcompletes : l.waits c = .completes) :
    l.ending (.started c) = .printed (Utf8.decode c.stdout) (Utf8.decode c.stderr) := by
  rw [ending, hwait, if_neg Bool.false_ne_true, hcompletes]

/-- Work goes on with what was read of the process that it waited for. -/
theorem outcome_execute_of_completes {α : Type} {n : Nat} (hwait : l.cannotWait = false)
    (hcompletes : l.waits c = .completes) (next : Outcome (Text × Text) → Work α n)
    (rest : List Attempt) :
    ((l.execute script next).perform (.started c :: rest)).outcome =
      ((next (.done (Utf8.decode c.stdout, Utf8.decode c.stderr))).perform rest).outcome := by
  rw [perform_execute]
  show ((next (l.meaning (l.ending (.started c)))).perform rest).outcome = _
  rw [ending_of_completes hwait hcompletes, meaning]

theorem outcome_run_of_encode (hwait : l.cannotWait = false) (hcompletes : l.waits c = .completes)
    (hs : ∀ x ∈ s, x.isSurrogate = false) (hstdout : c.stdout = Utf8.encode s)
    (hquiet : (Utf8.decode c.stderr).strip = []) (htold : s.strip ≠ []) (rest : List Attempt) :
    ((l.run script package).perform (.started c :: rest)).outcome = .done s.strip := by
  have hread : Utf8.decode c.stdout = s := by rw [hstdout, Utf8.decode_encode hs]
  have hprinted : l.ending (.started c) = .printed s (Utf8.decode c.stderr) := by
    rw [ending_of_completes hwait hcompletes, hread]
  have hcourse := course_run l script package (.started c :: rest)
  exact hcourse.done_iff.mpr ⟨s, _, hprinted, hquiet, htold, rfl⟩

/-- Whatever bytes a process prints before its time is up, work goes on with what they are read as, and no
surrogate is in it. A text without surrogates is read back from its bytes, and what follows these is read
as if it stood alone. So a run comes to just what its process printed, without the blanks around it, if that
is a text, there is something in it, and the error output is blank. -/
theorem run_reads_text (l : Launcher) :
    (∀ bytes : List UInt8, ∀ x ∈ Utf8.decode bytes, x.isSurrogate = false) ∧
      (∀ (c : Child) {α : Type} {n : Nat} (script : Text) (next : Outcome (Text × Text) → Work α n)
        (rest : List Attempt), l.cannotWait = false → l.waits c = .completes →
        ((l.execute script next).perform (.started c :: rest)).outcome =
          ((next (.done (Utf8.decode c.stdout, Utf8.decode c.stderr))).perform rest).outcome) ∧
      (∀ (s : Text) (bytes : List UInt8), (∀ x ∈ s, x.isSurrogate = false) →
        Utf8.decode (Utf8.encode s ++ bytes) = s ++ Utf8.decode bytes) ∧
      ∀ (c : Child) (s script : Text) (package : Option Text) (rest : List Attempt),
        l.cannotWait = false → l.waits c = .completes → (∀ x ∈ s, x.isSurrogate = false) →
        c.stdout = Utf8.encode s → (Utf8.decode c.stderr).strip = [] → s.strip ≠ [] →
        ((l.run script package).perform (.started c :: rest)).outcome = .done s.strip := by
  refine ⟨?_, ?_, ?_, ?_⟩
  · exact fun bytes x hx => Utf8.isSurrogate_of_mem_decode hx
  · intro c α n script next rest hwait hcompletes
    exact outcome_execute_of_completes hwait hcompletes next rest
  · exact fun s bytes hs => Utf8.decode_encode_append hs bytes
  · intro c s script package rest hwait hcompletes hs hstdout hquiet htold
    exact outcome_run_of_encode hwait hcompletes hs hstdout hquiet htold rest

/-- A process prints letters of one to four bytes between blanks, and a line feed as error output. -/
theorem run_reads_text_of_padded :
    let c : Child := { stdout := Utf8.encode " aλ∀𝔸\n", stderr := [0x0A] }
    ((({} : Launcher).run [] none).perform [.started c]).outcome = .done "aλ∀𝔸" := by
  intro c
  obtain ⟨-, -, -, hrun⟩ := run_reads_text {}
  have hs : ∀ x ∈ (" aλ∀𝔸\n" : Text), x.isSurrogate = false := by
    have hany : (" aλ∀𝔸\n" : Text).any CodePoint.isSurrogate = false := rfl
    simpa only [Bool.not_eq_true] using List.any_eq_false.mp hany
  have hstrip : (" aλ∀𝔸\n" : Text).strip = "aλ∀𝔸" := by decide
  rw [← hstrip]
  have hquiet : (Utf8.decode c.stderr).strip = [] := by decide
  exact hrun c " aλ∀𝔸\n" [] none [] (by decide) (by decide) hs rfl hquiet (by decide)

end JuliaLookup.Launcher
