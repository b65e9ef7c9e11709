import Jitter.Proofs.Files
import Jitter.Proofs.ProgramOutput

/-! What the program writes to the file that is named for the plots: the scripts of all its runs, or nothing
when it is quiet. -/

namespace Jitter.Program

open CommandLine (Arguments)
open ReportBuffer (standardCapacity)
open Session (told drawn reported)

variable {ω : Type} [Host ω] {a : Arguments} {args : List String} {w : ω}

theorem Measured.of_ok {o : Output} {v : ω} (ended : measure a w = .ok o v) :
    a.complaint = none ∧ ∃ ms, Measured a w ms := by
  simp only [measure] at ended
  cases accepted : a.complaint with
  | some text =>
      rw [accepted] at ended
      cases ended
  | none =>
      rw [accepted] at ended
      rcases bind_eq_ok.mp ended with ⟨_, w', prepared, ended⟩
      simp only [session] at ended
      cases made : Meter.new w' a.bucketWidth with
      | error e =>
          rw [made] at ended
          cases ended
      | ok fresh =>
          cases ran : Session.run a (.start fresh) with
          | error f s =>
              rw [made] at ended
              simp [ran] at ended
          | ok _ s =>
              rcases bind_eq_ok.mp ran with ⟨_, t, begun, looped⟩
              rcases Action.within_eq_ok.mp begun with ⟨m, calibrated, rfl⟩
              obtain ⟨ms, all, rounds⟩ := Session.loops_rounds looped
              exact ⟨rfl, ms, .intro prepared made calibrated rounds all⟩

theorem execute_of_saved {o : Output} {v v' : ω} (parsed : CommandLine.parse args = .ok a)
    (ended : measure a w = .ok o v) (saved : o.save v = .ok () v') :
    execute args w = (⟨0, o.text, ""⟩, v') := by
  simp only [execute, perform_of_ok parsed ended, saved, Output.outcome]
  cases o.plot with
  | none => rfl
  | some plot => rfl

theorem twoRuns_end {verbose : Int} (brief : verbose ≤ 0) (ranged : (twoRuns verbose).InRange) :
    ∃ o v, measure (twoRuns verbose) plainHost = .ok o v ∧ v.files = plainHost.files := by
  obtain ⟨text, script, told, drawn, short, small⟩ := twoRuns_texts brief
  obtain ⟨texts, scripts, reports, told', drawn', -, -, room⟩ :=
    measure_outcome rfl ranged (twoRuns_measured verbose (some "plot") false)
  obtain rfl : [text, text] = texts := Except.ok.inj (told.symm.trans told')
  obtain rfl : [script, script] = scripts := Except.ok.inj (drawn.symm.trans drawn')
  have fits : ¬Excessive (twoRuns verbose) [text, text] [script, script] := by
    rintro (⟨-, large⟩ | ⟨-, large⟩)
    · rw [short] at large
      exact absurd large (by decide)
    · rw [small] at large
      exact absurd large (by decide)
  obtain ⟨v, ended⟩ := room fits
  have kept := measure_keeps SimulatedHost.files_spared (twoRuns verbose) plainHost
  rw [ended] at kept
  exact ⟨_, v, ended, kept⟩

theorem plot_written {h : SimulatedHost} (untouched : h.files = plainHost.files) (script : String) :
    ∃ h' : SimulatedHost, Host.write "plot" script h = .ok () h' ∧
      h'.files.read "plot" = some script := by
  have located : plainHost.files.locate "plot" = .ok (["plot"], none) := by decide +kernel
  have written : h.files.write "plot" script = .ok ⟨[(["plot"], .regular script)], []⟩ := by
    rw [untouched, FileTree.write, located]
    rfl
  refine ⟨{ h with files := ⟨[(["plot"], .regular script)], []⟩ }, ?_, ?_⟩
  · simp only [Host.write, SimulatedHost.write, written]
  · refine FileTree.read_write written fun place refusal device => ?_
    rw [untouched, located] at device
    cases device

theorem output_of_ok {o : Output} {v : ω} (ranged : a.InRange) (ended : measure a w = .ok o v) :
    ∃ ms texts scripts reports, Measured a w ms ∧ ms.mapM (drawn a) = .ok scripts ∧
      ms.mapM (reported a) = .ok reports ∧
      o = if a.verbose < 0 then ⟨"", none⟩
        else ⟨shown a texts reports, a.gnuplot.map (·, String.join scripts)⟩ := by
  obtain ⟨accepted, ms, measured⟩ := Measured.of_ok ended
  obtain ⟨texts, scripts, reports, -, drawn, reported, full, room⟩ :=
    measure_outcome accepted ranged measured
  have fits : ¬Excessive a texts scripts := by
    intro large
    obtain ⟨needed, v', -, broke⟩ := full large
    rw [ended] at broke
    cases broke
  obtain ⟨v', put⟩ := room fits
  rw [ended] at put
  exact ⟨ms, texts, scripts, reports, measured, drawn, reported, (EStateM.Result.ok.inj put).1⟩

theorem execute_of_quiet {o : Output} {v : ω} (parsed : CommandLine.parse args = .ok a)
    (ended : measure a w = .ok o v) (quiet : a.verbose < 0) : execute args w = (⟨0, "", ""⟩, v) := by
  obtain ⟨_, _, _, _, -, -, -, silent⟩ := output_of_ok (CommandLine.parse_inRange parsed) ended
  rw [if_pos quiet] at silent
  have nothing : o.save v = .ok () v := by
    rw [silent]
    rfl
  have ran := execute_of_saved parsed ended nothing
  rwa [silent] at ran

/-- The scripts of all runs are written to the file that is named, in text and in JSON mode alike, but a
quiet program writes no file. -/
theorem scripts_written_unless_quiet (args : List String) (a : Arguments) (file : String) (w v : ω)
    (o : Output) (parsed : CommandLine.parse args = .ok a) (named : a.gnuplot = some file)
    (ended : measure a w = .ok o v) :
    ∃ ms scripts, Measured a w ms ∧ ms.length = a.loops ∧ ms.mapM (drawn a) = .ok scripts ∧
      (0 ≤ a.verbose → ∀ v', Host.write file (String.join scripts) v = .ok () v' →
        execute args w = (⟨0, o.text, ""⟩, v')) ∧
      (a.verbose < 0 → execute args w = (⟨0, "", ""⟩, v) ∧
        ∀ (γ : Type) (view : ω → γ), Host.Spares view → view v = view w) := by
  obtain ⟨ms, texts, scripts, reports, measured, drawn, -, shown⟩ :=
    output_of_ok (CommandLine.parse_inRange parsed) ended
  refine ⟨ms, scripts, measured, measured.length_eq, drawn, ?_, ?_⟩
  · intro loud v' written
    rw [if_neg (Int.not_lt.mpr loud)] at shown
    refine execute_of_saved parsed ended ?_
    simp only [Output.save, shown, named]
    exact written
  · intro quiet
    refine ⟨execute_of_quiet parsed ended quiet, fun γ view spared => ?_⟩
    have kept := measure_keeps spared a w
    rwa [ended] at kept

theorem two_runs_drawn :
    CommandLine.parse (twoRunsAsked "0") = .ok (twoRuns 0) ∧
      ∃ o v, measure (twoRuns 0) plainHost = .ok o v ∧
        ∃ ms scripts, Measured (twoRuns 0) plainHost ms ∧ ms.length = 2 ∧
          ms.mapM (drawn (twoRuns 0)) = .ok scripts ∧
          (execute (twoRunsAsked "0") plainHost).2.files.read "plot" = some (String.join scripts) := by
  have parsed : CommandLine.parse (twoRunsAsked "0") = .ok (twoRuns 0) := by cbv
  obtain ⟨o, v, ended, untouched⟩ := twoRuns_end (Int.le_refl 0) (CommandLine.parse_inRange parsed)
  obtain ⟨ms, scripts, measured, all, drawn, loud, -⟩ :=
    scripts_written_unless_quiet (twoRunsAsked "0") (twoRuns 0) "plot" plainHost v o parsed rfl ended
  obtain ⟨v', written, read⟩ := plot_written untouched (String.join scripts)
  refine ⟨parsed, o, v, ended, ms, scripts, measured, all, drawn, ?_⟩
  rw [loud (Int.le_refl 0) v' written]
  exact read

/-- Nothing fails in a quiet program, and the file that it names could be written, but is not. -/
theorem quiet_runs_not_drawn :
    CommandLine.parse (twoRunsAsked "-1") = .ok (twoRuns (-1)) ∧
      (twoRuns (-1)).complaint = none ∧ (twoRuns (-1)).gnuplot = some "plot" ∧
      ∃ o v, measure (twoRuns (-1)) plainHost = .ok o v ∧
        (∀ script, ∃ v' : SimulatedHost, Host.write "plot" script v = .ok () v') ∧
        (execute (twoRunsAsked "-1") plainHost).1.exit = 0 ∧
        (execute (twoRunsAsked "-1") plainHost).2.files.read "plot" = none := by
  have parsed : CommandLine.parse (twoRunsAsked "-1") = .ok (twoRuns (-1)) := by cbv
  obtain ⟨o, v, ended, untouched⟩ := twoRuns_end (by decide) (CommandLine.parse_inRange parsed)
  have ran := execute_of_quiet parsed ended (by decide)
  refine ⟨parsed, rfl, rfl, o, v, ended, fun script => ?_, ?_, ?_⟩
  · obtain ⟨v', written, -⟩ := plot_written untouched script
    exact ⟨v', written⟩
  · rw [ran]
  · rw [ran, untouched]
    decide +kernel

end Jitter.Program
