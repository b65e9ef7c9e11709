/-! The options of the command line. -/

namespace Jitter.CommandLine

inductive Item where
  | busySpins
  | cpu
  | description
  | fifoPriority
  | gnuplot
  | buckets
  | bucketWidth
  | loops
  | samples
  | pause
  | timebase
  | warmup
  | passes
  | verbose
  | json
  | debug
  | help
  | version
  deriving DecidableEq, Repr

structure Declaration where
  short : Option Char
  long : String
  /-- The name of the value, if one is taken. -/
  value : Option String
  standard : Option String
  /-- The next argument is the value, whatever it begins with. -/
  greedy : Bool
  help : String
  deriving DecidableEq, Repr

namespace Item

def all : List Item :=
  [busySpins, cpu, description, fifoPriority, gnuplot, buckets, bucketWidth, loops, samples, pause,
    timebase, warmup, passes, verbose, json, debug, help, version]

def declaration : Item → Declaration
  | busySpins => ⟨some 'B', "busy-spins", some "N", some "100", false,
      "Iterations of the empty loop timed as one sample"⟩
  | cpu => ⟨some 'c', "cpu", some "CPU", some "5", true, "CPU to pin the process to (-1 to not pin)"⟩
  | description => ⟨some 'd', "descr", some "DESCR", some "\"Jitter null test\"", false,
      "Description included in each run's title"⟩
  | fifoPriority => ⟨some 'f', "fifo-priority", some "PRIO", some "-1", true,
      "SCHED_FIFO priority (-1 to leave the scheduler alone)"⟩
  | gnuplot => ⟨some 'g', "gnuplot", some "FILE", none, false,
      "Write a gnuplot script with one histogram plot per run to this file"⟩
  | buckets => ⟨some 'b', "buckets", some "N", some "800", false, "Number of histogram buckets"⟩
  | bucketWidth => ⟨none, "bucket-width", some "NS", some "10", false,
      "Histogram bucket width in nanoseconds"⟩
  | loops => ⟨some 'l', "loops", some "LOOPS", some "3", false, "Number of test runs"⟩
  | samples => ⟨some 'n', "num-samples", some "N", some "1000000", false, "Samples per run"⟩
  | pause => ⟨some 'p', "pause", some "NS", some "898", true,
      "Pause after each sample in ns (negative: yielding sleep of |pause|/1000 us)"⟩
  | timebase => ⟨some 't', "timebase", some "TIMEBASE", some "rdtsc", false,
      "Timestamp source: rdtsc (1) or clock (2)"⟩
  | warmup => ⟨some 'w', "warmup", some "N", some "500", false,
      "Samples taken before accumulating results"⟩
  | passes => ⟨none, "calibration-passes", some "N", some "10", false,
      "Calibration passes before the first run"⟩
  | verbose => ⟨some 'v', "verbose", some "VERBOSE", some "0", true,
      "-1 quiet, 0 normal, 1+ per-bucket details"⟩
  | json => ⟨none, "json", none, none, false, "Print a JSON report instead of text"⟩
  | debug => ⟨none, "debug", none, none, false, "Enable debug tracing output to stderr"⟩
  | help => ⟨some 'h', "help", none, none, false, "Print help"⟩
  | version => ⟨some 'V', "version", none, none, false, "Print version"⟩

def takesValue (i : Item) : Bool := i.declaration.value.isSome

def greedy (i : Item) : Bool := i.declaration.greedy

def ofLong? (s : String) : Option Item := all.find? (·.declaration.long = s)

def ofShort? (c : Char) : Option Item := all.find? (·.declaration.short = some c)

def name (i : Item) : String :=
  let d := i.declaration
  match d.value with
  | some value => "--" ++ d.long ++ " <" ++ value ++ ">"
  | none => "--" ++ d.long

end Item

def programName : String := "jitterscope"

def versionText : String := programName ++ " 0.3.1\n"

def helpColumn (i : Item) : String :=
  match i.declaration.short with
  | some c => "  -" ++ String.singleton c ++ ", " ++ i.name
  | none => "      " ++ i.name

def helpWidth : Nat := (Item.all.map fun i => (helpColumn i).length).foldl max 0

def helpLine (i : Item) : String :=
  let column := helpColumn i
  let blanks := String.ofList (List.replicate (helpWidth - column.length + 2) ' ')
  let standard :=
    match i.declaration.standard with
    | some text => " [default: " ++ text ++ "]"
    | none => ""
  column ++ blanks ++ i.declaration.help ++ standard ++ "\n"

def helpText : String :=
  "Measure nanosecond-scale timing jitter of a null busy loop\n\nUsage: " ++ programName ++
    " [OPTIONS]\n\nOptions:\n" ++ String.join (Item.all.map helpLine)

end Jitter.CommandLine
