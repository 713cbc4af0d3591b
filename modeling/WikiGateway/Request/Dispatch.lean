import WikiGateway.Request.Description
import WikiGateway.Text.Printable

/-!
# Dispatch of requests

A handler answers the requests of an entry point; a dispatcher knows the handler of each.

* `Dispatcher.register`, `Dispatcher.handler?`: the last registration of a name counts.
* `Dispatcher.dispatch`: the handler of the request's entry point runs, or the entry point is unknown.
* `describeHandler`: answers with the description of the request.
* `Dispatcher.ofSite`: that handler for every entry point of a site.
-/

namespace WikiGateway

/-- Answers a request. What a handler wrote before it failed stays written. -/
abbrev Handler := Request → Request × Option RequestError

/-- The handlers of entry points, the last registered first. -/
structure Dispatcher where
  handlers : List (String × Handler) := []

/-- Why a request is not answered. -/
inductive DispatchError
  /-- The entry point has no handler. -/
  | unknownEntryPoint (name : String)
  /-- The handler failed. -/
  | request (e : RequestError)
deriving DecidableEq, Repr, Inhabited

/-- The text of the error. -/
def DispatchError.message : DispatchError → String
  | unknownEntryPoint name => "no handler registered for entry point '" ++ name ++ "'"
  | request e => e.message

namespace Dispatcher

/-- The handler of an entry point. -/
def handler? (d : Dispatcher) (name : String) : Option Handler := (d.handlers.find? (·.1 == name)).map Prod.snd

/-- Whether an entry point has a handler. -/
def contains (d : Dispatcher) (name : String) : Bool := (d.handler? name).isSome

/-- Registers a handler for an entry point. -/
def register (d : Dispatcher) (name : String) (handler : Handler) : Dispatcher := ⟨(name, handler) :: d.handlers⟩

/-- Registers a handler for several entry points. -/
def registerAll (d : Dispatcher) (names : List String) (handler : Handler) : Dispatcher :=
  names.foldl (fun d name => d.register name handler) d

/-- The names of entry points with a handler, ascending and each once. -/
def names (d : Dispatcher) : List String :=
  (d.handlers.map Prod.fst).eraseDups.mergeSort fun a b => !(b < a)

/-- The dispatcher as a text for logs. -/
def summary (d : Dispatcher) : String :=
  "Dispatcher \x7b entry_points: [" ++ String.intercalate ", " (d.names.map Text.quotePrintable) ++ "] \x7d"

/-- Runs the handler of the request's entry point. -/
def dispatch (d : Dispatcher) (r : Request) : Request × Option DispatchError :=
  match d.handler? r.entryName with
  | none => (r, some (.unknownEntryPoint r.entryName))
  | some handler =>
    let (r, failed) := handler r
    (r, failed.map .request)

end Dispatcher

/-! ## The handler that describes -/

/-- Whether a request leads to no page: its path is bad, its entry point is the default one, and no field is the
title. -/
def Request.isNotFound (r : Request) : Bool :=
  r.badPath.isSome && r.entryName == r.site.entryPoints.default && !r.fields.hasText "title"

/-- Whether pages of any origin may read the answer. -/
def Request.isCrossOrigin (r : Request) : Bool :=
  r.entryName == "rest" && r.site.config.rest.allowCrossOrigin

/-- The response with a description as its body. -/
def Request.writeDescription (r : Request) (d : Description) : Response :=
  let response := if r.isNotFound then r.response.setStatus 404 else r.response
  let response := response.header "Content-Type: application/json; charset=utf-8" true none
  let response :=
    if r.isCrossOrigin then response.header "Access-Control-Allow-Origin: *" true none else response
  response.write (Text.encode d.toJson.pretty)

/-- Answers with the description of the request. -/
def describeHandler : Handler := fun r =>
  match r.describe with
  | .error e => (r, some e)
  | .ok d => ({ r with response := r.writeDescription d }, none)

/-- The dispatcher that describes the requests of every entry point of a site. -/
def Dispatcher.ofSite (site : Site) : Dispatcher :=
  (Dispatcher.registerAll {} (site.entryPoints.entries.map (·.name)) describeHandler).register
    site.entryPoints.default describeHandler

end WikiGateway
