import Jitter.Calibration.Basic
import Jitter.CommandLine.Integer
import Jitter.CommandLine.Item
import Jitter.Meter.Plan

/-! What the command line asks for. -/

namespace Jitter.CommandLine

structure Arguments where
  busySpins : Nat
  cpu : Int
  description : String
  fifoPriority : Int
  gnuplot : Option String
  buckets : Nat
  bucketWidth : Nat
  loops : Nat
  samples : Nat
  pause : Int
  timebase : Timebase
  warmup : Nat
  passes : Nat
  verbose : Int
  json : Bool
  debug : Bool
  deriving DecidableEq, Repr

inductive ValueError where
  | empty
  | invalid (message : String)
  deriving DecidableEq, Repr

namespace Arguments

def standard : Arguments :=
  { busySpins := 100, cpu := 5, description := "Jitter null test", fifoPriority := -1
    gnuplot := none, buckets := 800, bucketWidth := 10, loops := 3, samples := 1000000
    pause := RunPlan.standardPause, timebase := .cycleCounter, warmup := 500, passes := 10
    verbose := 0, json := false, debug := false }

abbrev Value := Except ValueError

def number {α : Type} (r : Except IntegerError α) : Value α :=
  r.mapError fun e => .invalid e.message

def natural64 (s : String) : Value Nat := number (natural word64 s.toList)

def between (least greatest : Int) (s : String) : Value Int := do
  let n ← number (integer s.toList)
  if least ≤ n ∧ n ≤ greatest then pure n
  else throw (.invalid s!"{n} is not in {least}..={greatest}")

def natural32 (s : String) : Value Nat := do
  pure (← between 0 (word32 - 1) s).toNat

def integer32 (s : String) : Value Int := between Signed.least32 Signed.greatest32 s

def integer64 (s : String) : Value Int := number (integer s.toList)

def path (s : String) : Value String := if s.isEmpty then throw .empty else pure s

def timebaseOf (s : String) : Value Timebase :=
  (Timebase.parse s).mapError fun e => .invalid e.message

def set (a : Arguments) (s : String) : Item → Value Arguments
  | .busySpins => do pure { a with busySpins := ← natural64 s }
  | .cpu => do pure { a with cpu := ← integer32 s }
  | .description => pure { a with description := s }
  | .fifoPriority => do pure { a with fifoPriority := ← integer32 s }
  | .gnuplot => do pure { a with gnuplot := some (← path s) }
  | .buckets => do pure { a with buckets := ← natural64 s }
  | .bucketWidth => do pure { a with bucketWidth := ← natural64 s }
  | .loops => do pure { a with loops := ← natural32 s }
  | .samples => do pure { a with samples := ← natural64 s }
  | .pause => do pure { a with pause := ← integer64 s }
  | .timebase => do pure { a with timebase := ← timebaseOf s }
  | .warmup => do pure { a with warmup := ← natural64 s }
  | .passes => do pure { a with passes := ← natural32 s }
  | .verbose => do pure { a with verbose := ← integer32 s }
  | .json => pure { a with json := true }
  | .debug => pure { a with debug := true }
  | .help | .version => pure a

def atLeastOne (option : String) : String :=
  "Invalid value for --" ++ option ++ ": 0 (must be >= 1)"

/-- The first number that may not be zero. -/
def complaint (a : Arguments) : Option String :=
  if a.buckets = 0 then some (atLeastOne "buckets")
  else if a.bucketWidth = 0 then some (atLeastOne "bucket-width")
  else if a.loops = 0 then some (atLeastOne "loops")
  else if a.passes = 0 then some (atLeastOne "calibration-passes")
  else none

def runPlan (a : Arguments) : RunPlan := ⟨a.warmup, a.samples, a.pause, a.timebase⟩

def title (a : Arguments) (c : Calibration) : String :=
  a.description ++ s!": busy_spins={a.busySpins}, cpu={a.cpu}, fifo_priority={a.fifoPriority}, " ++
    s!"buckets={a.buckets}, num_samples={a.samples},\n pause={a.pause} " ++
    s!"timebase={a.timebase.name}, warmup={a.warmup}, gettime_cost={c.readCost},\n " ++
    s!"cycle_read_cost={c.cycleReadCost}, cycles_per_sec={c.hz}, loop_1000_cost={c.loopCost}"

def inspected (a : Arguments) : String :=
  let gnuplot :=
    match a.gnuplot with
    | some file => "Some(" ++ Text.quoted file ++ ")"
    | none => "None"
  s!"Cli \x7b busy_spins: {a.busySpins}, cpu: {a.cpu}, descr: " ++ Text.quoted a.description ++
    s!", fifo_priority: {a.fifoPriority}, gnuplot_file: {gnuplot}, buckets: {a.buckets}, " ++
    s!"bucket_width_ns: {a.bucketWidth}, loops: {a.loops}, num_samples: {a.samples}, " ++
    s!"pause_ns: {a.pause}, timebase: {a.timebase.label}, warmup: {a.warmup}, " ++
    s!"calibration_passes: {a.passes}, verbose: {a.verbose}, json: {a.json}, debug: {a.debug} \x7d"

end Arguments

end Jitter.CommandLine
