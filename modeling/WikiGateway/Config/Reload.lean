import WikiGateway.Config.Site

/-!
# Reloading of settings

While a site is live its file may change. On a signal the file is read again; if its text differs from the one in
force and compiles, the new site takes the place of the old one.

* `Reloader.start`: the text of the file at the start counts as in force.
* `Reloader.reload`: one attempt.
* `Reloader.settle`: one attempt for a burst of signals.
-/

namespace WikiGateway

/-- What an attempt to reload came to. -/
inductive ReloadOutcome
  /-- The text is the one in force. -/
  | unchanged
  /-- A new site is live. -/
  | applied
  /-- The old site stays. -/
  | rejected
deriving DecidableEq, Repr, Inhabited

/-- The live site and the text in force. -/
structure Reloader where
  /-- The text in force, if the file could be read. -/
  text : Option String
  live : Site
  /-- The number of sites that took the place of another. -/
  generation : Nat

namespace Reloader

/-- The state at the start, with the file as it is then. -/
def start (file : Option (List UInt8)) (site : Site) : Reloader := ⟨file.bind Text.decode?, site, 0⟩

/-- Reads the file again. -/
def reload [MultiByteDecoders] (r : Reloader) (file : Option (List UInt8)) : Reloader × ReloadOutcome :=
  match Site.readText file with
  | .error _ => (r, .rejected)
  | .ok text =>
    if r.text = some text then (r, .unchanged)
    else
      match Site.ofText text with
      | .ok site => (⟨some text, site, r.generation + 1⟩, .applied)
      | .error _ => (r, .rejected)

/-- Reads the file again once if there were signals. -/
def settle [MultiByteDecoders] (r : Reloader) (file : Option (List UInt8)) (signals : Nat) : Reloader :=
  if signals = 0 then r else (r.reload file).1

end Reloader

end WikiGateway
