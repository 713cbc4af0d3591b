import WikiGateway.Http.Message

/-!
# Bodies of requests

A body arrives in chunks and is kept as a whole, up to a limit.

* `readBody`: the whole body, or why there is none.
-/

namespace WikiGateway

/-- A piece of a body on its way. -/
inductive BodyChunk
  | data (bytes : List UInt8)
  /-- The connection failed, for some reason. -/
  | failure (reason : String)
deriving DecidableEq, Repr, Inhabited

/-- Why a body is not read. -/
inductive BodyError
  /-- It is longer than the limit. -/
  | tooLong
  /-- The connection failed, for some reason. -/
  | interrupted (reason : String)
deriving DecidableEq, Repr, Inhabited

namespace BodyError

/-- The status that tells the client. -/
def status : BodyError → Nat
  | tooLong => 413
  | interrupted _ => 400

/-- The text of the error. -/
def message : BodyError → String
  | tooLong => "Failed to buffer the request body: length limit exceeded"
  | interrupted reason => "Failed to buffer the request body: " ++ reason

end BodyError

/-- The longest body, in bytes. -/
def maxBody : Nat := 2 * 1024 * 1024

/-- The pieces of a body that together have at most `limit` bytes. -/
def readChunks (limit : Nat) : List BodyChunk → Except BodyError (List (List UInt8))
  | [] => .ok []
  | .failure reason :: _ => .error (.interrupted reason)
  | .data bytes :: rest =>
    if limit < bytes.length then .error .tooLong
    else (readChunks (limit - bytes.length) rest).map (bytes :: ·)

/-- The body of its pieces. -/
def readBody (chunks : List BodyChunk) : Except BodyError (List UInt8) :=
  (readChunks maxBody chunks).map List.flatten

end WikiGateway
