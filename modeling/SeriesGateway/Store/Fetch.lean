import SeriesGateway.Jobs
import SeriesGateway.Store.Link

namespace SeriesGateway

/-- Whatever a chart can poll for samples. -/
class SampleSource (m : Type → Type) (α : Type) where
  label : α → String
  fetch : α → Window → ExceptT Failure m Series

variable {m : Type → Type} [Monad m] [StoreLink m]

namespace Metric

def fetch (metric : Metric) (w : Window) : ExceptT Failure m Series :=
  performPrepared (Ask.series metric w)

/-- Fetches over a window given by three numbers, and hands the outcome to `callback` once. -/
def poll (metric : Metric) (start stop step : Int64) (callback : Except Failure Series → m Unit) :
    m Unit :=
  match makeWindow start stop step with
  | .ok w => do callback (← (metric.fetch w).run)
  | .error f => callback (.error f)

/-- Fetches all metrics side by side; the outcomes stand in the order of the metrics. -/
def fetchAll [SideBySide m] (metrics : List Metric) (w : Window) :
    m (List (Except Failure Series)) :=
  SideBySide.all (metrics.map fun metric => (metric.fetch w).run)

end Metric

instance : SampleSource m Metric where
  label := Metric.label
  fetch := Metric.fetch

end SeriesGateway
