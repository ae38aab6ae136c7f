import SeriesGateway.Failure

namespace SeriesGateway

/-- An answer over HTTP. Scripts of every origin may read it. -/
structure Answer where
  status : Nat
  contentType : Option String := none
  body : String := ""
  deriving DecidableEq, Repr

namespace Answer

/-- The origins whose scripts may read answers. -/
def allowedOrigin : String := "*"

/-- An answer without body. -/
def bare (status : Nat) : Answer where
  status := status

def plain (status : Nat) (body : String) : Answer where
  status := status
  contentType := some "text/plain; charset=utf-8"
  body := body

def json (status : Nat) (text : List Char) : Answer where
  status := status
  contentType := some "application/json"
  body := .ofList text

def ofFailure (f : Failure) : Answer :=
  json f.answerStatus f.answerBody.text

/-- The answer to one who wants to know about a body only. -/
def withoutBody (a : Answer) : Answer :=
  { a with body := "" }

end Answer

/-- A series with the window that it was read over. -/
structure SeriesAnswer where
  label : String
  start : Int64
  stop : Int64
  step : Int64
  values : Series

namespace SeriesAnswer

/-- A missing sample is null. -/
def sampleText (x : Binary64) : List Char :=
  if x.isNan then Json.Value.null.text else Json.realText x

def text (a : SeriesAnswer) : List Char :=
  Json.objectText
    [("label", Json.quoted a.label), ("start", Numeral.intText a.start.toInt),
      ("stop", Numeral.intText a.stop.toInt), ("step", Numeral.intText a.step.toInt),
      ("values", Json.bracketed '[' ']' (a.values.map sampleText))]

def render (a : SeriesAnswer) : String :=
  .ofList a.text

end SeriesAnswer

end SeriesGateway
