import SeriesGateway.Json.Printer
import SeriesGateway.Series
import SeriesGateway.Timestamp.Reader

namespace SeriesGateway

/-- The reason that goes with a status code. -/
def statusReason? : Nat → Option String
  | 100 => some "Continue"
  | 101 => some "Switching Protocols"
  | 102 => some "Processing"
  | 200 => some "OK"
  | 201 => some "Created"
  | 202 => some "Accepted"
  | 203 => some "Non Authoritative Information"
  | 204 => some "No Content"
  | 205 => some "Reset Content"
  | 206 => some "Partial Content"
  | 207 => some "Multi-Status"
  | 208 => some "Already Reported"
  | 226 => some "IM Used"
  | 300 => some "Multiple Choices"
  | 301 => some "Moved Permanently"
  | 302 => some "Found"
  | 303 => some "See Other"
  | 304 => some "Not Modified"
  | 305 => some "Use Proxy"
  | 307 => some "Temporary Redirect"
  | 308 => some "Permanent Redirect"
  | 400 => some "Bad Request"
  | 401 => some "Unauthorized"
  | 402 => some "Payment Required"
  | 403 => some "Forbidden"
  | 404 => some "Not Found"
  | 405 => some "Method Not Allowed"
  | 406 => some "Not Acceptable"
  | 407 => some "Proxy Authentication Required"
  | 408 => some "Request Timeout"
  | 409 => some "Conflict"
  | 410 => some "Gone"
  | 411 => some "Length Required"
  | 412 => some "Precondition Failed"
  | 413 => some "Payload Too Large"
  | 414 => some "URI Too Long"
  | 415 => some "Unsupported Media Type"
  | 416 => some "Range Not Satisfiable"
  | 417 => some "Expectation Failed"
  | 418 => some "I'm a teapot"
  | 421 => some "Misdirected Request"
  | 422 => some "Unprocessable Entity"
  | 423 => some "Locked"
  | 424 => some "Failed Dependency"
  | 426 => some "Upgrade Required"
  | 428 => some "Precondition Required"
  | 429 => some "Too Many Requests"
  | 431 => some "Request Header Fields Too Large"
  | 451 => some "Unavailable For Legal Reasons"
  | 500 => some "Internal Server Error"
  | 501 => some "Not Implemented"
  | 502 => some "Bad Gateway"
  | 503 => some "Service Unavailable"
  | 504 => some "Gateway Timeout"
  | 505 => some "HTTP Version Not Supported"
  | 506 => some "Variant Also Negotiates"
  | 507 => some "Insufficient Storage"
  | 508 => some "Loop Detected"
  | 510 => some "Not Extended"
  | 511 => some "Network Authentication Required"
  | _ => none

/-- A status code with its reason. -/
def statusText (code : Nat) : String :=
  s!"{code} " ++ (statusReason? code).getD "<unknown status code>"

/-- Why an operation has no result. -/
inductive Failure where
  | invalidUrl (detail : String)
  /-- No answer, or one that breaks off. -/
  | transport (detail : String)
  /-- An answer with another status than success. -/
  | status (code : Nat)
  /-- An answer that cannot be read. -/
  | unreadable (detail : String)
  | noData (url : String)
  | invalidWindow (detail : String)
  | invalidQuery (detail : String)
  | timestamp (detail : String)
  | storage (detail : String)
  | internal (detail : String)
  deriving DecidableEq, Repr

namespace Failure

def message : Failure → String
  | .invalidUrl detail => "Invalid URL: " ++ detail
  | .transport detail => "Transport error: " ++ detail
  | .status code => "HTTP error: " ++ statusText code
  | .unreadable detail => "Serialization error: " ++ detail
  | .noData url => "No data returned from " ++ url
  | .invalidWindow detail => "Invalid window: " ++ detail
  | .invalidQuery detail => "Invalid query: " ++ detail
  | .timestamp detail => "Unparseable timestamp: " ++ detail
  | .storage detail => "I/O error: " ++ detail
  | .internal detail => "Internal error: " ++ detail

/-- The status that answers a request which failed: whose fault it is. -/
def answerStatus : Failure → Nat
  | .invalidUrl _ | .invalidWindow _ | .invalidQuery _ | .timestamp _ => 400
  | .noData _ => 404
  | .transport _ | .status _ | .unreadable _ => 502
  | .storage _ | .internal _ => 500

/-- The body that answers a request which failed. -/
def answerBody (f : Failure) : Json.Value :=
  .object [("error", .string f.message)]

def ofWindow (fault : Window.Fault) : Failure :=
  .invalidWindow fault.message

end Failure

/-- The instant of a text, in whatever form. -/
def readInstant (input : String) : Except Failure Instant :=
  (Timestamp.read input).mapError .timestamp

/-- The instant of a text in the canonical form. -/
def readCanonical (input : String) : Except Failure Instant :=
  (Timestamp.Canonical.read input.toList).mapError fun fault => .timestamp (fault.message input)

def makeWindow (start stop step : Int64) : Except Failure Window :=
  (Window.make start stop step).mapError .ofWindow

/-- The value of a body, if it carries data. -/
def readSeriesBody (body : List Char) : Except Failure (Option Json.Value) :=
  (Series.readBody body).mapError fun () => .unreadable "the body is no JSON text"

end SeriesGateway
