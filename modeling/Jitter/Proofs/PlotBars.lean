import Jitter.Proofs.ListedBuckets
import Jitter.Proofs.PlotScripts
import Jitter.Proofs.ProgramOutput

/-! The bars of a plot: they are those of one run, whichever loop it is made in, and none of them is higher
than the range that is drawn. -/

namespace Jitter

/-- What a plot shows of a histogram of `buckets` buckets with `samples` samples in all. -/
structure Plot.Shows (p : Plot) (h : Histogram) (buckets samples : Nat) : Prop where
  top_eq : p.top = max samples 1
  ascending : p.points.Pairwise fun a b => a.1 < b.1
  inside : ∀ bar ∈ p.points, bar.1 < buckets
  between : ∀ bar ∈ p.points, 1 ≤ bar.2 ∧ bar.2 ≤ p.top
  sum_eq : (p.points.map Prod.snd).sum + h.overflow = samples

theorem Histogram.Describes.plot {h : Histogram} {width count : Nat} {samples : Multiset Nat}
    (d : h.Describes width count samples) (word : width < word64)
    (sampled : ∀ x ∈ samples, (x : Int) ≤ Signed.greatest) (title : String) :
    ∃ p, Plot.ofHistogram h title samples.card = .ok p ∧ p.Shows h count samples.card := by
  have edges : ∀ i, h.buckets.getD i 0 ≠ 0 → (i + 1) * h.width < word64 := by
    intro i some
    rw [d.width_eq]
    exact d.edge_lt word sampled (d.inside some) some
  have listed := nonemptyBuckets_of_edges edges
  have lists := d.lists listed
  refine ⟨_, except_bind_eq_ok.mpr ⟨_, listed, rfl⟩, rfl, ?_, ?_, ?_, ?_⟩
  · exact List.pairwise_map.mpr lists.ascending
  · intro bar member
    rcases List.mem_map.mp member with ⟨b, place, rfl⟩
    exact d.inside ((lists.listed_iff b.index).mp ⟨b, place, rfl⟩)
  · intro bar member
    rcases List.mem_map.mp member with ⟨b, place, rfl⟩
    have all : b.count ≤ samples.card := by
      rw [lists.count_eq b place]
      exact Multiset.countP_le_card _ _
    rcases List.mem_map.mp place with ⟨i, hit, rfl⟩
    have some : 0 < (h.range i).count := Nat.pos_of_ne_zero (mem_places.mp hit)
    exact ⟨some, Nat.le_trans all (Nat.le_max_left _ _)⟩
  · rw [List.map_map, ← d.samples_eq, ← lists.sum_eq]
    rfl

namespace Program.Session

open CommandLine (Arguments)

variable {ω : Type} {a : Arguments} {m : Meter ω} {s s' : Session ω} {plot : Plot} {k : Nat}

theorem HoldsOneRun.plotted_shows (holds : HoldsOneRun a m) (ranged : a.InRange) :
    ∃ plot, plotted a m = .ok plot ∧ plot.Shows m.histogram a.buckets a.samples := by
  obtain ⟨xs, counted, small, described⟩ := holds.describes ranged
  obtain ⟨plot, drawn, shows⟩ := described.plot ranged.bucketWidth small (a.title m.calibration)
  rw [counted] at drawn shows
  exact ⟨plot, drawn, shows⟩

theorem plots_of_draw (asked : a.gnuplot.isSome) (plotted : plotted a s.meter = .ok plot)
    (drawn : draw a s = .ok () s') : s'.plots.text = s.plots.text ++ String.join plot.script := by
  simp only [draw, if_pos asked] at drawn
  rw [run_get_bind, Action.checked_bind_of_ok plotted, plot.pieces_values] at drawn
  rcases Action.within_eq_ok.mp drawn with ⟨b, written, rfl⟩
  rw [ReportBuffer.eq_extended_of_appendAll written, ReportBuffer.extended, Plot.joined_script]

variable [Clock ω]

theorem width_of_loops (ranged : a.InRange) (width : s.meter.histogram.width = a.bucketWidth)
    (looped : repeatedly (loop a) k s = .ok () s') : s'.meter.histogram.width = a.bucketWidth := by
  induction k generalizing s with
  | zero =>
      cases looped
      exact width
  | succ k ih =>
      rcases bind_eq_ok.mp looped with ⟨_, t, now, later⟩
      obtain ⟨_, -, -, described⟩ := (round_holds (loop_round now) width).describes ranged
      exact ih described.width_eq later

end Program.Session

namespace Program

open CommandLine (Arguments)
open Session

/-- Whichever loop a run is made in, its plot shows that run alone, and all bars that are drawn end
between the limits of the range that is set for them. -/
theorem bars_within_range {ω : Type} [Host ω] {a : Arguments} {w : ω} {fresh m : Meter ω}
    {s : Session ω} {k : Nat} (ranged : a.InRange)
    (made : Meter.new w a.bucketWidth = .ok fresh)
    (before : (do onMeter (calibrate a); repeatedly (loop a) k) (.start fresh) = .ok () s)
    (ran : Session.round a s.meter = .ok () m) :
    ∃ plot, plotted a m = .ok plot ∧ plot.Shows m.histogram a.buckets a.samples ∧
      s!"set yrange [0.9:{plot.top}]\n" ∈ plot.script ∧
      (∀ bar ∈ plot.points, (0.9 : ℚ) ≤ bar.2 ∧ (bar.2 : ℚ) ≤ plot.top) ∧
      ∀ t t', t.meter = m → a.gnuplot.isSome → draw a t = .ok () t' →
        t'.plots.text = t.plots.text ++ String.join plot.script := by
  rcases bind_eq_ok.mp before with ⟨_, t, begun, looped⟩
  rcases Action.within_eq_ok.mp begun with ⟨m₁, calibrated, rfl⟩
  have blank : m₁.histogram = fresh.histogram := calibrate_histogram calibrated
  have width : m₁.histogram.width = a.bucketWidth := blank ▸ width_of_new made
  have wide := width_of_loops ranged width looped
  obtain ⟨plot, drawn, shows⟩ := (round_holds ran wide).plotted_shows ranged
  refine ⟨plot, drawn, shows, by simp [Plot.script], ?_, ?_⟩
  · intro bar member
    obtain ⟨some, most⟩ := shows.between bar member
    have least : (1 : ℚ) ≤ bar.2 := by exact_mod_cast some
    exact ⟨by linarith, by exact_mod_cast most⟩
  · rintro t t' rfl asked ended
    exact plots_of_draw asked drawn ended

theorem second_run_within_range :
    ∃ (s : Session SimulatedHost) (plot : Plot),
      (do onMeter (calibrate (twoRuns 0)); repeatedly (loop (twoRuns 0)) 1) (.start freshMeter) =
        .ok () s ∧
      Session.round (twoRuns 0) s.meter = .ok () (meterAfter 2) ∧
      plotted (twoRuns 0) (meterAfter 2) = .ok plot ∧ plot.Shows (meterAfter 2).histogram 3 1 ∧
      ∀ bar ∈ plot.points, (0.9 : ℚ) ≤ bar.2 ∧ (bar.2 : ℚ) ≤ plot.top := by
  have parsed : CommandLine.parse (twoRunsAsked "0") = .ok (twoRuns 0) := by cbv
  obtain ⟨s, looped, reached⟩ :
      ∃ s, loop (twoRuns 0) (.start calibratedMeter) = .ok () s ∧ s.meter = meterAfter 1 := by
    have ended : EStateM.run' (loop (twoRuns 0)) (.start calibratedMeter) = some () := by decide +kernel
    cases looped : loop (twoRuns 0) (.start calibratedMeter) with
    | ok _ s =>
        have first := (loop_round looped).symm.trans twoRuns_first
        injection first with _ reached
        exact ⟨s, rfl, reached⟩
    | error e s =>
        rw [EStateM.run', EStateM.run, looped] at ended
        cases ended
  have before : (do onMeter (calibrate (twoRuns 0)); repeatedly (loop (twoRuns 0)) 1)
      (.start freshMeter) = .ok () s :=
    bind_eq_ok.mpr ⟨_, _, Action.within_of_ok twoRuns_calibrated, bind_eq_ok.mpr ⟨_, _, looped, rfl⟩⟩
  have ran : Session.round (twoRuns 0) s.meter = .ok () (meterAfter 2) := reached ▸ twoRuns_second
  obtain ⟨plot, drawn, shows, -, within, -⟩ :=
    bars_within_range (CommandLine.parse_inRange parsed) rfl before ran
  exact ⟨s, plot, before, ran, drawn, shows, within⟩

end Program

end Jitter
