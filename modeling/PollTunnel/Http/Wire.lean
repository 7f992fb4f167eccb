import PollTunnel.Calendar
import PollTunnel.Http.Message
import PollTunnel.Number.Decimal
import PollTunnel.Text.Blank

/-!
# Messages on a connection

On a connection a message is a first line, a line for each header field, an empty line and a body.
How long the body is follows from the fields (`Wire.Framing`).

A reader is given the bytes that have arrived so far and makes one of three things of them
(`Wire.Progress`): a message with what is left behind it, nothing yet, or no message at all.

* `Wire.readRequest` — a request.  Where its body is longer than the reader wants, the body is cut
  off there and nothing is left behind it.
* `Wire.readHead`, `Wire.readBody` — the two parts of a response.
* `Wire.writeRequest`, `Wire.writeResponse` — the bytes of a message.
-/

set_option autoImplicit false

namespace PollTunnel
namespace Wire

/-- What the bytes at hand come to. -/
inductive Progress (α : Type) where
  /-- More has to arrive first. -/
  | more
  /-- They are no message. -/
  | malformed
  | done (value : α) (rest : Bytes)
  deriving DecidableEq

namespace Progress

variable {α β : Type}

/-- Change the value. -/
def map (f : α → β) : Progress α → Progress β
  | .more => .more
  | .malformed => .malformed
  | .done value rest => .done (f value) rest

/-- Go on with what is left. -/
def andThen (p : Progress α) (next : α → Bytes → Progress β) : Progress β :=
  match p with
  | .more => .more
  | .malformed => .malformed
  | .done value rest => next value rest

/-- A value that is there, or no message. -/
def ofOption (rest : Bytes) : Option α → Progress α
  | some value => .done value rest
  | none => .malformed

end Progress

/-! ## Heads -/

/-- The most bytes of a line. -/
def maxLine : Nat := 64 * 1024

/-- The most lines of a head. -/
def maxLines : Nat := 256

/-- The first line without its end, and what is behind it. -/
def line? : Bytes → Option (Bytes × Bytes)
  | [] => none
  | 10 :: rest => some ([], rest)
  | 13 :: 10 :: rest => some ([], rest)
  | b :: rest => (line? rest).map fun (line, rest) => (b :: line, rest)

/-- The first line, once it is whole. -/
def line (bytes : Bytes) : Progress Bytes :=
  match line? (bytes.take maxLine) with
  | some (line, rest) => .done line (rest ++ bytes.drop maxLine)
  | none => if maxLine ≤ bytes.length then .malformed else .more

/-- The lines up to an empty one, at most so many. -/
def linesTo : Nat → Bytes → Progress (List Bytes)
  | 0, _ => .malformed
  | limit + 1, bytes =>
    (line bytes).andThen fun line rest =>
      if line = [] then .done [] rest else (linesTo limit rest).map (line :: ·)

/-- Text in octets, if all of them are plain. -/
def text? (bytes : Bytes) : Option String := (plainText? bytes).map String.ofList

/-- Spaces and tabs around a value are not part of it. -/
def isPadding (b : UInt8) : Bool := b == 32 || b == 9

/-- A value without the padding around it. -/
def trim (bytes : Bytes) : Bytes :=
  ((bytes.dropWhile isPadding).reverse.dropWhile isPadding).reverse

/-- The header field of a line. -/
def field? (line : Bytes) : Option (HeaderName × Bytes) := do
  let name ← HeaderName.ofString? (← text? (line.takeWhile (· != 58)))
  guard (line.contains 58)
  let value := trim ((line.dropWhile (· != 58)).drop 1)
  guard (Headers.isValue value)
  return (name, value)

/-- The words of a first line. -/
def words? (line : Bytes) : Option (List String) := (text? line).map (·.splitOn " ")

/-- A version of the protocol that is understood. -/
def isVersion (word : String) : Bool := word == "HTTP/1.1" || word == "HTTP/1.0"

/-! ## Bodies -/

/-- How the length of a body is told. -/
inductive Framing where
  | length (n : Nat)
  /-- In chunks that tell their own lengths. -/
  | chunked
  /-- By the end of the connection. -/
  | untilEnd
  deriving DecidableEq, Repr

/-- How the fields tell the length of a body; `silent` if they do not. -/
def framing? (headers : Headers) (silent : Framing) : Option Framing :=
  match headers.first? .transferEncoding, headers.first? .contentLength with
  | some coding, _ =>
    if (text? (trim coding)).map String.toLower = some "chunked" then some .chunked else none
  | none, some length => do
    return .length (← Decimal.natural? (← plainText? length))
  | none, none => some silent

/-- The value of hexadecimal digits. -/
def hexadecimal? (digits : List Char) : Option Nat := do
  guard (digits ≠ [])
  digits.foldlM (fun n c => do return 16 * n + (← Bytes.hexValue? c)) 0

/-- The length of a chunk, from the line before it. -/
def chunkLength? (line : Bytes) : Option Nat := do
  let text ← plainText? line
  hexadecimal? (Text.trimBy (fun c => c == ' ' || c == '\t') (text.takeWhile (· ≠ ';')))

/-- A body in chunks; `fuel` bounds their number.  It is cut off above the limit. -/
def chunks (limit : Nat) : Nat → Bytes → Progress Bytes
  | 0, _ => .malformed
  | fuel + 1, bytes =>
    (line bytes).andThen fun size rest =>
      match chunkLength? size with
      | none => .malformed
      | some 0 => (linesTo maxLines rest).map fun _ => []
      | some n =>
        if limit < n then
          if limit < rest.length then .done (rest.take (limit + 1)) [] else .more
        else if rest.length < n + 2 then .more
        else
          match line? (rest.drop n) with
          | some ([], behind) =>
            (chunks (limit - n) fuel behind).map (rest.take n ++ ·)
          | _ => .malformed

/-- A body, where the connection may have ended.  It is cut off above the limit. -/
def readBody (limit : Nat) (framing : Framing) (ended : Bool) (bytes : Bytes) : Progress Bytes :=
  let progress : Progress Bytes := match framing with
    | .length n =>
      if limit < n then .done (bytes.take (limit + 1)) []
      else if n ≤ bytes.length then .done (bytes.take n) (bytes.drop n)
      else .more
    | .chunked => chunks limit (bytes.length + 1) bytes
    | .untilEnd =>
      if limit < bytes.length then .done (bytes.take (limit + 1)) []
      else if ended then .done bytes []
      else .more
  match progress, ended with
  | .more, true => .malformed
  | progress, _ => progress

/-! ## Requests -/

/-- The length that is told fits into a limit. -/
def Framing.fits (limit : Nat) : Framing → Bool
  | .length n => n ≤ limit
  | .chunked | .untilEnd => true

/-- A request as it was read. -/
structure Incoming where
  request : Request
  /-- More requests may follow on the connection. -/
  keepAlive : Bool
  deriving DecidableEq

/-- Whether a connection is kept, by the version and the field that speaks of it. -/
def keepsAlive (version : String) (headers : Headers) : Bool :=
  match ((headers.first? .connection).bind text?).map String.toLower with
  | some "close" => false
  | some "keep-alive" => true
  | _ => version == "HTTP/1.1"

/-- Read a request; a body above the limit is cut off. -/
def readRequest (limit : Nat) (bytes : Bytes) : Progress Incoming :=
  (linesTo maxLines bytes).andThen fun lines rest =>
    match lines with
    | [] => .malformed
    | first :: fields =>
      match words? first, fields.mapM field? with
      | some [method, path, version], some headers =>
        match isVersion version, framing? headers (.length 0) with
        | true, some framing =>
          (readBody limit framing false rest).map fun body =>
            { request := { method, path, headers, body }
              keepAlive := keepsAlive version headers && framing.fits limit && body.length ≤ limit }
        | _, _ => .malformed
      | _, _ => .malformed

/-- The bytes of header fields and the empty line behind them. -/
def writeFields (headers : Headers) : Bytes :=
  (headers.flatMap fun (name, value) =>
    Bytes.ofString (name.text ++ ": ") ++ value ++ [13, 10]) ++ [13, 10]

/-- The fields with the length of a body, if they do not tell it. -/
def withLength (headers : Headers) (body : Bytes) : Headers :=
  if (headers.first? .contentLength).isSome then headers
  else headers.append .contentLength (Bytes.ofString (toString body.length))

/-- The bytes of a request for a host, on a connection for this request alone. -/
def writeRequest (host : String) (r : Request) : Bytes :=
  let headers := (withLength r.headers r.body).append .host (Bytes.ofString host)
  let headers := headers.append .connection (Bytes.ofString "close")
  Bytes.ofString (r.method ++ " " ++ r.path ++ " HTTP/1.1\r\n") ++ writeFields headers ++ r.body

/-! ## Responses -/

/-- The head of a response. -/
structure Head where
  status : Status
  headers : Headers
  framing : Framing
  deriving DecidableEq

/-- A status as it stands in a first line. -/
def status? (word : String) : Option Status := do
  guard (word.length = 3)
  Decimal.natural? word.toList

/-- Statuses whose responses have no body. -/
def isBare (status : Status) : Bool := status == Status.noContent || status == 304

/-- Read the head of a response. -/
def readHead (bytes : Bytes) : Progress Head :=
  (linesTo maxLines bytes).andThen fun lines rest =>
    match lines with
    | [] => .malformed
    | first :: fields =>
      match words? first, fields.mapM field? with
      | some (version :: code :: _), some headers =>
        Progress.ofOption rest do
          guard (isVersion version)
          let status ← status? code
          let framing ← framing? headers .untilEnd
          return { status, headers, framing := if isBare status then .length 0 else framing }
      | _, _ => .malformed

/-- What a status means, in a word or two. -/
def reason (status : Status) : String :=
  let reasons : List (Status × String) :=
    [(Status.ok, "OK"), (Status.noContent, "No Content"), (Status.badRequest, "Bad Request"),
      (Status.unauthorized, "Unauthorized"), (Status.forbidden, "Forbidden"),
      (Status.notFound, "Not Found"), (Status.methodNotAllowed, "Method Not Allowed"),
      (Status.gone, "Gone"), (Status.payloadTooLarge, "Payload Too Large"),
      (Status.tooManyRequests, "Too Many Requests"),
      (Status.internalError, "Internal Server Error")]
  (reasons.lookup status).getD ""

/-- The field that dates a response, at a number of seconds behind the beginning of 1970. -/
def date (seconds : Nat) : Bytes :=
  let days := seconds / TimeOfDay.daySeconds
  let day := Day.ofCount days
  Bytes.ofString (Day.weekdayName days ++ ", " ++ TimeOfDay.padded 2 day.day ++ " " ++ day.monthName ++
    " " ++ TimeOfDay.padded 4 day.year ++ " " ++ (TimeOfDay.ofSeconds seconds).text ++ " GMT")

/-- A response with its date. -/
def dated (seconds : Nat) (r : Response) : Response :=
  { r with headers := r.headers.append .date (date seconds) }

/-- The bytes of a response. -/
def writeResponse (keepAlive : Bool) (r : Response) : Bytes :=
  let headers := if isBare r.status then r.headers else withLength r.headers r.body
  let headers :=
    if keepAlive then headers
    else headers.append .connection (Bytes.ofString "close")
  Bytes.ofString ("HTTP/1.1 " ++ toString r.status ++ " " ++ reason r.status ++ "\r\n") ++
    writeFields headers ++ r.body

end Wire
end PollTunnel
