import SeriesGateway.Store.Exchange

namespace SeriesGateway

/-- How many requests took how long. -/
structure Histogram where
  count : Nat := 0
  /-- The sum of all durations. -/
  nanoseconds : Nat := 0
  /-- How many requests took no longer than each of the bounds. -/
  within : List Nat := []
  deriving DecidableEq, Repr

namespace Histogram

/-- Bounds in milliseconds, with their texts in seconds. -/
def bounds : List (Nat × String) :=
  [(10, "0.01"), (50, "0.05"), (100, "0.1"), (500, "0.5"), (1000, "1"), (2000, "2"), (5000, "5")]

def observe (h : Histogram) (elapsed : Nat) : Histogram where
  count := h.count + 1
  nanoseconds := h.nanoseconds + elapsed
  within := bounds.zipIdx.map fun (bound, i) =>
    h.within.getD i 0 + if elapsed ≤ bound.1 * 1000000 then 1 else 0

/-- A number of nanoseconds in seconds. -/
def secondsText (nanos : Nat) : String :=
  let fraction := (Nat.toDigits 10 (1000000000 + nanos % 1000000000)).tail
  let shown := (fraction.reverse.dropWhile (· == '0')).reverse
  let whole := toString (nanos / 1000000000)
  if shown.isEmpty then whole else whole ++ "." ++ .ofList shown

end Histogram

/-- Counters of requests by operation, and of samples and answers that were missing. -/
structure Counters where
  requests : Operation → Nat := fun _ => 0
  failures : Operation → Nat := fun _ => 0
  durations : Operation → Histogram := fun _ => {}
  missing : Nat := 0
  empty : Nat := 0

namespace Counters

def update {α : Type} (values : Operation → α) (op : Operation) (f : α → α) : Operation → α :=
  fun other => if other = op then f (values other) else values other

/-- Counts a request that took `elapsed` nanoseconds, and what was read for it. -/
def record {α : Type} (c : Counters) (op : Operation) (r : Reading α) (elapsed : Nat) :
    Counters where
  requests := update c.requests op (· + 1)
  failures := update c.failures op (· + if r.failed then 1 else 0)
  durations := update c.durations op (·.observe elapsed)
  missing := c.missing + r.missing
  empty := c.empty + r.empty

/-- How many requests were timed. -/
def timed (c : Counters) (op : Operation) : Nat :=
  (c.durations op).count

end Counters

/-- A family of figures on the page of counters. -/
structure Family where
  name : String
  help : String
  kind : String
  lines : Counters → List String

namespace Family

/-- A figure with the labels that tell it from others of its name. -/
def line (name : String) (labels : List (String × String)) (value : String) : String :=
  let shown := labels.map fun (label, text) => label ++ "=\"" ++ text ++ "\""
  if shown.isEmpty then name ++ " " ++ value
  else name ++ "\x7b" ++ ",".intercalate shown ++ "\x7d " ++ value

def operationLabel (op : Operation) : String × String :=
  ("operation", op.label)

/-- The figures of the operations that were counted at all. -/
def perOperation (count : Counters → Operation → Nat)
    (lines : Counters → Operation → List String) (c : Counters) : List String :=
  (Operation.all.filter fun op => count c op != 0).flatMap (lines c)

def counted (name : String) (count : Counters → Operation → Nat) : Counters → List String :=
  perOperation count fun c op => [line name [operationLabel op] (toString (count c op))]

def histogramLines (name : String) (c : Counters) (op : Operation) : List String :=
  let h := c.durations op
  let bucket := fun bound count =>
    line (name ++ "_bucket") [operationLabel op, ("le", bound)] (toString count)
  (Histogram.bounds.zip h.within).map (fun (bound, count) => bucket bound.2 count) ++
    [bucket "+Inf" h.count,
      line (name ++ "_sum") [operationLabel op] (Histogram.secondsText h.nanoseconds),
      line (name ++ "_count") [operationLabel op] (toString h.count)]

/-- The families in the order of their names. -/
def all : List Family :=
  [{ name := "seriesly_empty_responses_total"
     help := "Queries answered with an empty body"
     kind := "counter"
     lines := fun c => [line "seriesly_empty_responses_total" [] (toString c.empty)] },
   { name := "seriesly_missing_samples_total"
     help := "Samples filled with NaN because the store had no entry"
     kind := "counter"
     lines := fun c => [line "seriesly_missing_samples_total" [] (toString c.missing)] },
   { name := "seriesly_request_duration_seconds"
     help := "Seriesly request duration in seconds"
     kind := "histogram"
     lines := perOperation Counters.timed (histogramLines "seriesly_request_duration_seconds") },
   { name := "seriesly_request_failures_total"
     help := "Total number of failed seriesly requests"
     kind := "counter"
     lines := counted "seriesly_request_failures_total" Counters.failures },
   { name := "seriesly_requests_total"
     help := "Total number of requests issued to the seriesly store"
     kind := "counter"
     lines := counted "seriesly_requests_total" Counters.requests }]

/-- What a family is, in two lines. -/
def headLines (f : Family) : List String :=
  [s!"# HELP {f.name} {f.help}", s!"# TYPE {f.name} {f.kind}"]

/-- A family with its figures; one without figures is not shown. -/
def shownLines (f : Family) (c : Counters) : List String :=
  let lines := f.lines c
  if lines.isEmpty then [] else f.headLines ++ lines

end Family

namespace Counters

/-- The lines that say what all the counters are. -/
def legend : List String :=
  Family.all.flatMap Family.headLines

/-- The page of all counters. -/
def page (c : Counters) : String :=
  .join ((Family.all.flatMap fun f => f.shownLines c).map (· ++ "\n"))

end Counters

end SeriesGateway
