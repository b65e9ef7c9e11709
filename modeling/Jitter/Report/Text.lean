import Jitter.Decimal.Places
import Jitter.Histogram.Buckets
import Jitter.Histogram.Percentile
import Jitter.Report.Buffer

/-! The text report of a histogram. -/

namespace Jitter.Histogram

def Summary.text (s : Summary) : String :=
  s!"Minimum={s.least}, Maximum={s.greatest}, Average={s.average}, Overflows={s.overflow}\n"

def percentText (p : Float) : String := Decimal.column 6 3 p

def percentilePieceOf : Percentile → Piece
  | .below p bound => .plain (percentText p ++ s!"% are below {bound} ns\n")
  | .overflow p limit =>
    ⟨"Warning, histogram overflow for " ++ percentText p ++ s!"% (too many samples >= {limit})\n",
      some .percentileLost⟩

def bucketPiece (b : Bucket) : Piece := .plain s!"bucket {b.low}..{b.high}: {b.count}\n"

def summaryPieces (h : Histogram) : Pieces := [pure (.plain h.summary.text)]

def percentilePieces (h : Histogram) (p : Float) : Pieces := [percentilePieceOf <$> h.percentile p]

def detailPieces (h : Histogram) : Pieces :=
  h.bucketStream.map fun (b : Checked Bucket) => do pure (bucketPiece (← b))

def reportPieces (h : Histogram) (verbose : Int) : Pieces :=
  (if 0 < verbose then h.detailPieces else []) ++ h.summaryPieces ++
    standardPercentiles.flatMap h.percentilePieces

end Jitter.Histogram
