import Jitter.CommandLine.Parser
import Jitter.Host.Basic
import Jitter.Meter.Run
import Jitter.Report.Format
import Jitter.Report.Text

/-! The program: runs as the command line asks for, and what comes of them. -/

namespace Jitter.Program

open CommandLine (Arguments Stop)

inductive Trouble where
  | rejected (text : String)
  | failed (error : Error)
  /-- Something that was tried first failed. -/
  | during (attempt : String) (error : Error)
  | unwritten (file : String) (cause : IoError)
  | broken (fault : Fault)
  deriving DecidableEq, Repr

namespace Trouble

def ofFailure : Failure → Trouble
  | .error e => failed e
  | .fault f => broken f

def chain : Trouble → List String
  | rejected text => [text]
  | failed e => e.message :: e.source.toList
  | during attempt e => attempt :: e.message :: e.source.toList
  | unwritten file cause => ["failed to write gnuplot file " ++ file, cause.message]
  | broken f => [f.message]

/-- Causes are numbered when there are more than one. -/
def causes : List String → String
  | [] => ""
  | [cause] => "\n\nCaused by:\n    " ++ cause
  | many => "\n\nCaused by:" ++
    String.join (many.zipIdx.map fun (cause, i) =>
      "\n" ++ String.ofList (Decimal.padLeft 5 ' ' (Nat.toDigits 10 i)) ++ ": " ++ cause)

def text (t : Trouble) : String :=
  match t.chain with
  | [] => ""
  | message :: rest => "Error: " ++ message ++ causes rest ++ "\n"

def exitCode : Trouble → Nat
  | broken _ => 101
  | _ => 1

end Trouble

structure Output where
  text : String
  plot : Option (String × String)
  deriving DecidableEq, Repr

structure Outcome where
  exit : Nat
  stdout : String
  stderr : String
  deriving DecidableEq, Repr

def Trouble.outcome (t : Trouble) : Outcome := ⟨t.exitCode, "", t.text⟩

/-- The text is printed before the file is written. -/
def Output.outcome (o : Output) (written : Except IoError Unit) : Outcome :=
  match o.plot, written with
  | some (file, _), .error cause => { (Trouble.unwritten file cause).outcome with stdout := o.text }
  | _, _ => ⟨0, o.text, ""⟩

def stopOutcome (s : Stop) : Outcome :=
  match s.exitCode with
  | 0 => ⟨0, s.complaint, ""⟩
  | code => ⟨code, "", s.complaint⟩

structure Session (ω : Type) where
  meter : Meter ω
  results : ReportBuffer
  plots : ReportBuffer
  reports : List Report
  deriving DecidableEq, Repr

namespace Session

variable {ω : Type}

def start (meter : Meter ω) : Session ω := ⟨meter, .new, .new, []⟩

def onMeter {α : Type} (act : Action (Meter ω) α) : Action (Session ω) α :=
  act.within meter fun s meter => { s with meter }

def onResults (pieces : Pieces) : Action (Session ω) Unit :=
  (ReportBuffer.appendAll pieces).within results fun s results => { s with results }

def onPlots (pieces : Pieces) : Action (Session ω) Unit :=
  (ReportBuffer.appendAll pieces).within plots fun s plots => { s with plots }

def lines (a : Arguments) (m : Meter ω) : Pieces :=
  pure (.plain (a.title m.calibration ++ "\n")) :: m.histogram.reportPieces a.verbose

def reported (a : Arguments) (m : Meter ω) : Except Failure Report :=
  Report.new (a.title m.calibration) a.runPlan m.calibration m.histogram a.verbose

def plotted (a : Arguments) (m : Meter ω) : Checked Plot :=
  Plot.ofHistogram m.histogram (a.title m.calibration) a.samples

def report (a : Arguments) : Action (Session ω) Unit := do
  let m := (← get).meter
  if a.json then
    let report ← reported a m
    modify fun s => { s with reports := s.reports ++ [report] }
  else
    onResults (lines a m)

def draw (a : Arguments) : Action (Session ω) Unit := do
  if a.gnuplot.isSome then
    onPlots (← plotted a (← get).meter).pieces

variable [Clock ω]

def round (a : Arguments) : Action (Meter ω) Unit := do
  Meter.initHistogram a.buckets
  let _ ← Meter.run a.runPlan (Clock.idle a.busySpins)

def loop (a : Arguments) : Action (Session ω) Unit := do
  onMeter (round a)
  report a
  draw a

def calibrate (a : Arguments) : Action (Meter ω) Unit :=
  Meter.calibratePasses { CalibrationPlan.standard with passes := a.passes }

def run (a : Arguments) : Action (Session ω) Unit := do
  onMeter (calibrate a)
  repeatedly (loop a) a.loops

end Session

/-- Nothing is shown, and no file is written, by a quiet program. -/
def output {ω : Type} (a : Arguments) (s : Session ω) : Output :=
  if a.verbose < 0 then ⟨"", none⟩
  else
    { text := if a.json then Report.format.list.pretty s.reports ++ "\n" else s.results.text
      plot := a.gnuplot.map fun file => (file, s.plots.text) }

variable {ω : Type} [Host ω]

def attempt (what : String) (act : EStateM IoError ω Unit) : EStateM Trouble ω Unit := fun w =>
  match act w with
  | .ok a w => .ok a w
  | .error e w => .error (.during what (.io e)) w

/-- A negative number leaves the processor or the schedule alone. -/
def prepare (a : Arguments) : EStateM Trouble ω Unit := do
  if 0 ≤ a.cpu then
    attempt s!"failed to pin to CPU {a.cpu}" (Host.pin a.cpu.toNat)
  if 0 ≤ a.fifoPriority then
    attempt s!"failed to set SCHED_FIFO priority {a.fifoPriority}" (Host.setFifo a.fifoPriority)

def session (a : Arguments) : EStateM Trouble ω Output := fun w =>
  match Meter.new w a.bucketWidth with
  | .error e => .error (.failed e) w
  | .ok meter =>
    match Session.run a (.start meter) with
    | .ok _ s => .ok (output a s) s.meter.clock
    | .error f s => .error (.ofFailure f) s.meter.clock

def measure (a : Arguments) : EStateM Trouble ω Output := do
  if let some text := a.complaint then throw (.rejected text)
  prepare a
  session a

def perform (args : List String) : EStateM Outcome ω Output := fun w =>
  match CommandLine.parse args with
  | .error stop => .error (stopOutcome stop) w
  | .ok a =>
    match measure a w with
    | .ok output w => .ok output w
    | .error trouble w => .error trouble.outcome w

def Output.save (o : Output) : EStateM IoError ω Unit :=
  match o.plot with
  | none => pure ()
  | some (file, script) => Host.write file script

def execute (args : List String) (w : ω) : Outcome × ω :=
  match perform args w with
  | .error outcome w => (outcome, w)
  | .ok output w =>
    match output.save w with
    | .ok _ w => (output.outcome (.ok ()), w)
    | .error cause w => (output.outcome (.error cause), w)

end Jitter.Program
