import Jitter.Histogram.Buckets
import Jitter.Report.Buffer

/-! A histogram as a gnuplot script. -/

namespace Jitter

structure Plot where
  title : String
  width : Nat
  /-- Where the y axis ends. -/
  top : Nat
  /-- The places and counts of the buckets that are not empty. -/
  points : List (Nat × Nat)
  deriving DecidableEq, Repr

namespace Plot

def ofHistogram (h : Histogram) (title : String) (top : Nat) : Checked Plot := do
  let buckets ← h.nonemptyBuckets
  pure { title, width := h.width, top := max top 1, points := buckets.map fun b => (b.index, b.count) }

def substitute (c : Char) (text s : List Char) : List Char :=
  s.flatMap fun d => if d = c then text else [d]

/-- Backslashes first, as the other two bring in more of them. -/
def escapeTitle (s : List Char) : List Char :=
  substitute '\n' ['\\', 'n'] (substitute '"' ['\\', '"'] (substitute '\\' ['\\', '\\'] s))

def script (p : Plot) : List String :=
  [ "set title \"" ++ String.ofList (escapeTitle p.title.toList) ++ "\"\n",
    "set xlabel \"latency (ns)\"\n",
    "set ylabel \"samples\"\n",
    "set logscale y\n",
    s!"set yrange [0.9:{p.top}]\n",
    "set style fill solid\n",
    s!"plot '-' using ($1*{p.width}):2 with boxes notitle\n" ] ++
  p.points.map (fun (index, count) => s!"{index} {count}\n") ++ ["e\n"]

def pieces (p : Plot) : Pieces := p.script.map fun s => pure (.plain s)

end Plot

end Jitter
