import Provision.Text.Utf8

/-!
Requests and answers of the hypertext protocol, as the program sees them: a request is its headers
that matter, an answer is a head and a body that comes in pieces and ends in one of three ways.
-/

set_option autoImplicit false

namespace Provision.Http

structure Request where
  method : String
  url : String
  accept : Option String
  authorization : Option String
  userAgent : Option String
  deriving DecidableEq, Repr

inductive Ending where
  | complete
  /-- The connection is closed before the body is complete. -/
  | cut
  /-- No more comes, and the connection stays open. -/
  | silence
  deriving DecidableEq, Repr

structure Body where
  pieces : List ByteArray
  ending : Ending
  deriving DecidableEq

def Body.bytes (b : Body) : ByteArray := b.pieces.foldl (· ++ ·) ByteArray.empty

/-- What the client gets for a request. The body is the one that the client gives: it is empty where the status allows
none (101, 204, 304), whatever is sent. A head that only announces another one (100, 102, 103) is no answer. -/
inductive Answer where
  | closed
  | silence
  | head (status : Nat) (location : Option String) (body : Body)
  deriving DecidableEq

/-- The standard phrase of a status; unknown ones have none. -/
def reason : Nat → String
  | 100 => "Continue"
  | 101 => "Switching Protocols"
  | 102 => "Processing"
  | 103 => "Early Hints"
  | 200 => "OK"
  | 201 => "Created"
  | 202 => "Accepted"
  | 203 => "Non Authoritative Information"
  | 204 => "No Content"
  | 205 => "Reset Content"
  | 206 => "Partial Content"
  | 207 => "Multi-Status"
  | 208 => "Already Reported"
  | 226 => "IM Used"
  | 300 => "Multiple Choices"
  | 301 => "Moved Permanently"
  | 302 => "Found"
  | 303 => "See Other"
  | 304 => "Not Modified"
  | 305 => "Use Proxy"
  | 307 => "Temporary Redirect"
  | 308 => "Permanent Redirect"
  | 400 => "Bad Request"
  | 401 => "Unauthorized"
  | 402 => "Payment Required"
  | 403 => "Forbidden"
  | 404 => "Not Found"
  | 405 => "Method Not Allowed"
  | 406 => "Not Acceptable"
  | 407 => "Proxy Authentication Required"
  | 408 => "Request Timeout"
  | 409 => "Conflict"
  | 410 => "Gone"
  | 411 => "Length Required"
  | 412 => "Precondition Failed"
  | 413 => "Payload Too Large"
  | 414 => "URI Too Long"
  | 415 => "Unsupported Media Type"
  | 416 => "Range Not Satisfiable"
  | 417 => "Expectation Failed"
  | 418 => "I'm a teapot"
  | 421 => "Misdirected Request"
  | 422 => "Unprocessable Entity"
  | 423 => "Locked"
  | 424 => "Failed Dependency"
  | 425 => "Too Early"
  | 426 => "Upgrade Required"
  | 428 => "Precondition Required"
  | 429 => "Too Many Requests"
  | 431 => "Request Header Fields Too Large"
  | 451 => "Unavailable For Legal Reasons"
  | 500 => "Internal Server Error"
  | 501 => "Not Implemented"
  | 502 => "Bad Gateway"
  | 503 => "Service Unavailable"
  | 504 => "Gateway Timeout"
  | 505 => "HTTP Version Not Supported"
  | 506 => "Variant Also Negotiates"
  | 507 => "Insufficient Storage"
  | 508 => "Loop Detected"
  | 510 => "Not Extended"
  | 511 => "Network Authentication Required"
  | _ => ""

inductive Failure where
  /-- No request could be made; with the address where it is known, and the cause. -/
  | unbuilt (url : Option String) (cause : String)
  /-- The connection ended, or the time was up, before the head of an answer came. -/
  | unsent (url : String) (causes : List String)
  /-- The body was not complete, or not what was wanted. -/
  | undecoded (causes : List String)
  | status (code : Nat) (url : String)
  | redirects (url : String)
  /-- Nothing comes and no timer runs. -/
  | unending (url : String)
  deriving DecidableEq, Repr

namespace Failure

def forUrl (url : String) : String := " for url (" ++ url ++ ")"

def message : Failure → String
  | .unbuilt none _ => "builder error"
  | .unbuilt (some url) _ => "builder error" ++ forUrl url
  | .unsent url _ => "error sending request" ++ forUrl url
  | .undecoded _ => "error decoding response body"
  | .status code url =>
    "HTTP status " ++ (if code < 500 then "client" else "server") ++ " error ("
      ++ toString code ++ " " ++ reason code ++ ")" ++ forUrl url
  | .redirects url => "error following redirect" ++ forUrl url
  | .unending url => "no answer" ++ forUrl url

def causes : Failure → List String
  | .unbuilt _ cause => [cause]
  | .unsent _ causes => causes
  | .undecoded causes => causes
  | .redirects _ => ["too many redirects"]
  | _ => []

def isDecode : Failure → Bool
  | .undecoded _ => true
  | _ => false

end Failure

end Provision.Http
