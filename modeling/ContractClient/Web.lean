import ContractClient.Entries
import ContractClient.Web.Address

/-!
# The web

Documents may be fetched from the web.  What the web answers is part of what a
run starts from, so it is a value: a function from addresses to responses.  A
table of answers gives such a web.  There an address is settled before it is
looked up, and one that is not in the table refuses the connection.  A message
shows an address as it is settled.
-/

namespace ContractClient

/-- What an address answers. -/
inductive WebAnswer where
  /-- A status and a text. -/
  | document (status : Int) (text : String)
  /-- No connection, for some reason. -/
  | failure (reason : String)
  deriving DecidableEq, Repr

/-- Why a document is not delivered. -/
inductive WebFault where
  /-- There is no connection. -/
  | noConnection (reason : String)
  /-- The status is not one of success. -/
  | badStatus (status : Int) (address : String)
  /-- The text is no address. -/
  | badAddress
  deriving DecidableEq, Repr

/-- The usual phrase for a status. -/
def statusPhrase (status : Int) : String :=
  match status with
  | 100 => "Continue"
  | 101 => "Switching Protocols"
  | 102 => "Processing"
  | 103 => "Early Hints"
  | 300 => "Multiple Choices"
  | 301 => "Moved Permanently"
  | 302 => "Found"
  | 303 => "See Other"
  | 304 => "Not Modified"
  | 305 => "Use Proxy"
  | 307 => "Temporary Redirect"
  | 308 => "Permanent Redirect"
  | 400 => "Bad Request"
  | 401 => "Unauthorized"
  | 402 => "Payment Required"
  | 403 => "Forbidden"
  | 404 => "Not Found"
  | 405 => "Method Not Allowed"
  | 406 => "Not Acceptable"
  | 407 => "Proxy Authentication Required"
  | 408 => "Request Timeout"
  | 409 => "Conflict"
  | 410 => "Gone"
  | 411 => "Length Required"
  | 412 => "Precondition Failed"
  | 413 => "Request Entity Too Large"
  | 414 => "Request-URI Too Long"
  | 415 => "Unsupported Media Type"
  | 416 => "Requested Range Not Satisfiable"
  | 417 => "Expectation Failed"
  | 418 => "I'm a teapot"
  | 421 => "Misdirected Request"
  | 422 => "Unprocessable Entity"
  | 423 => "Locked"
  | 424 => "Failed Dependency"
  | 425 => "Too Early"
  | 426 => "Upgrade Required"
  | 428 => "Precondition Required"
  | 429 => "Too Many Requests"
  | 431 => "Request Header Fields Too Large"
  | 451 => "Unavailable For Legal Reasons"
  | 500 => "Internal Server Error"
  | 501 => "Not Implemented"
  | 502 => "Bad Gateway"
  | 503 => "Service Unavailable"
  | 504 => "Gateway Timeout"
  | 505 => "HTTP Version Not Supported"
  | 506 => "Variant Also Negotiates"
  | 507 => "Insufficient Storage"
  | 508 => "Loop Detected"
  | 510 => "Not Extended"
  | 511 => "Network Authentication Required"
  | _ => ""

/-- What kind of answer a status stands for. -/
def statusClass (status : Int) : String :=
  match status.fdiv 100 with
  | 1 => "Informational response"
  | 3 => "Redirect response"
  | 4 => "Client error"
  | 5 => "Server error"
  | _ => "Invalid status code"

/-- The text of a fault. -/
def WebFault.message : WebFault → String
  | noConnection reason => reason
  | badStatus status address =>
    let number := toString status
    statusClass status ++ " '" ++ number ++ " " ++ statusPhrase status ++ "' for url '" ++
      address ++ "'\nFor more information check: " ++
      "https://developer.mozilla.org/en-US/docs/Web/HTTP/Status/" ++ number
  | badAddress => "Invalid URL"

/-- What an address sends back. -/
structure WebResponse where
  /-- The address, settled. -/
  address : String
  /-- The status. -/
  status : Int
  /-- The text. -/
  text : String
  deriving DecidableEq, Repr

/-- The web. -/
structure Web where
  /-- What comes of asking at an address. -/
  ask : String → Except WebFault WebResponse

namespace Web

/-- The web in which the addresses of a table answer. -/
def ofTable (table : Entries WebAnswer) : Web where
  ask address :=
    match settle? address, table.get? address with
    | none, _ => .error .badAddress
    | some settled, some (.document status text) => .ok { address := settled, status, text }
    | some _, some (.failure reason) => .error (.noConnection reason)
    | some _, none => .error (.noConnection "connection refused")

/-- The text at an address. -/
def get (web : Web) (address : String) : Except WebFault String := do
  let response ← web.ask address
  if response.status.fdiv 100 = 2 then return response.text
  else throw (.badStatus response.status response.address)

end Web

end ContractClient
