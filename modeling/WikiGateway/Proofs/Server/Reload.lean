import WikiGateway.Proofs.Config.Reload
import WikiGateway.Proofs.Server.Answer

/-!
# A service after its settings have changed

A service makes its dispatcher from its first site, and keeps it while other sites take the place of this one
(`Service.KeepsHandlers`, `keepsHandlers_reload`, `keepsHandlers_run`). So an entry point that the first site has not is
unknown to the dispatcher, whatever the live site says about it.

* `Dispatcher.dispatch_congr`, `answer_congr`: of the dispatcher, the handler of the request's entry point alone counts.
* `answer_of_unknown`: what is said about an entry point without a handler.
* `Service.AnswersAsAtStart`, `Service.answers_run`: the entry points that are unknown after any attempts to reload, and
  the answers for the others.
* `Service.answers_run_new_default`: a default entry point that gets another name is unknown.
-/

namespace WikiGateway

/-! ## Two dispatchers -/

theorem Dispatcher.dispatch_congr {d d' : Dispatcher} {r : Request}
    (h : d.handler? r.entryName = d'.handler? r.entryName) : d.dispatch r = d'.dispatch r := by
  rw [dispatch, h]
  rfl

section
variable {live : Site} {i : Incoming} {body : List UInt8} {https : Bool} {freshId : String}

/-- Dispatchers with the same handler for the entry point of a request that is not refused give the same answer. -/
theorem answer_congr {d d' : Dispatcher} (h : ¬ live.Refuses (i.transport body https) → ∀ url,
    requestUrl? (i.transport body https) = some url →
      d.handler? (live.entryOf url).name = d'.handler? (live.entryOf url).name) :
    answer live d (i.transport body https) freshId = answer live d' (i.transport body https) freshId := by
  unfold answer
  dsimp only
  cases hurl : requestUrl? (i.transport body https) with
  | none => rw [interpolateTitle_receive_of_no_url hurl]
  | some url =>
    obtain ⟨routed, hinterpolate, hrouted, hclient⟩ := routed_receive_of_url live freshId hurl
    cases hip : live.clientOf (i.transport body https) with
    | error e => simp only [hinterpolate, hclient, hip, Except.mapError]
    | ok ip =>
      have hname : routed.entryName = (live.entryOf url).name := hrouted.entryName_eq
      have hhandler : d.handler? routed.entryName = d'.handler? routed.entryName :=
        hname ▸ h (Site.not_refuses hurl hip) url hurl
      simp only [hinterpolate, Dispatcher.dispatch_congr hhandler]

/-- The answer for an entry point without a handler names it. -/
theorem answer_of_unknown {first : Site} {url : String} (hnot : ¬ live.Refuses (i.transport body https))
    (hurl : requestUrl? (i.transport body https) = some url)
    (hunknown : (live.entryOf url).name ∉ first.entryPoints.names) :
    answer live (.ofSite first) (i.transport body https) freshId =
      rejection (Request.receive live (i.transport body https) (.sent {}) freshId).id 404
        (DispatchError.unknownEntryPoint (live.entryOf url).name).message := by
  have h := @answered_answer live i body https freshId first
  generalize answer live (.ofSite first) (i.transport body https) freshId = message at h ⊢
  cases h with
  | noUrl hnone => exact absurd (.inl hnone) hnot
  | noClient _ hip => exact absurd (.inr ⟨_, hip⟩) hnot
  | unknown hother _ _ =>
    rw [hurl] at hother
    cases hother
    rfl
  | described hother _ hmem _ _ _ _ _ =>
    rw [hurl] at hother
    cases hother
    exact absurd hmem hunknown

end

/-! ## The service -/

namespace Service

/-- The service after attempts to reload, with the file as it is at each of them. -/
def run [MultiByteDecoders] (s : Service) (files : List (Option (List UInt8))) : Service := files.foldl reload s

/-- A service has the handlers of its first site, and is still live with that one if none took its place. -/
structure KeepsHandlers (first : Site) (s : Service) : Prop where
  dispatcher : s.dispatcher = .ofSite first
  live : s.reloader.generation = 0 → s.reloader.live = first

variable {first : Site} {s : Service}

theorem keepsHandlers_start (file : Option (List UInt8)) (first : Site) : KeepsHandlers first (start file first) :=
  ⟨rfl, fun _ => rfl⟩

/-- An attempt to reload changes the live site at most. -/
theorem keepsHandlers_reload [MultiByteDecoders] (h : KeepsHandlers first s) (file : Option (List UInt8)) :
    KeepsHandlers first (s.reload file) := by
  refine ⟨h.dispatcher, ?_⟩
  have hstep := Reloader.reload_step s.reloader file
  show (s.reloader.reload file).1.generation = 0 → (s.reloader.reload file).1.live = first
  generalize s.reloader.reload file = result at hstep ⊢
  cases hstep with
  | unreadable => exact h.live
  | same => exact h.live
  | compiled => exact fun hzero => absurd hzero (Nat.succ_ne_zero _)
  | broken => exact h.live

theorem keepsHandlers_run [MultiByteDecoders] (h : KeepsHandlers first s) (files : List (Option (List UInt8))) :
    KeepsHandlers first (s.run files) := by
  induction files generalizing s with
  | nil => exact h
  | cons file files ih => exact ih (keepsHandlers_reload h file)

/-- What a service answers, as told by its first site and the live one. -/
structure AnswersAsAtStart (first : Site) (s : Service) : Prop where
  /-- The entry points of the first site have a handler, and no others. -/
  contains_iff : ∀ name, s.dispatcher.contains name = true ↔ name ∈ first.entryPoints.names
  /-- A request is told that its entry point is unknown if it is not refused and the entry point that the live site
  finds is none of the first site's. -/
  unknown_iff : ∀ (i : Incoming) (body : List UInt8) (freshId : String),
    let live := s.reloader.live
    let t := i.transport body live.config.server.https
    (∃ name, (answer live s.dispatcher t freshId).body = Text.encode (DispatchError.unknownEntryPoint name).message) ↔
      ¬ live.Refuses t ∧ ∃ url, requestUrl? t = some url ∧ (live.entryOf url).name ∉ first.entryPoints.names
  /-- The answer to such a request. -/
  unknown : ∀ (i : Incoming) (body : List UInt8) (freshId url : String),
    let live := s.reloader.live
    let t := i.transport body live.config.server.https
    ¬ live.Refuses t → requestUrl? t = some url → (live.entryOf url).name ∉ first.entryPoints.names →
      answer live s.dispatcher t freshId = rejection (Request.receive live t (.sent {}) freshId).id 404
        (DispatchError.unknownEntryPoint (live.entryOf url).name).message
  /-- Any other request is answered as if the dispatcher were that of the live site. -/
  known : ∀ (i : Incoming) (body : List UInt8) (freshId : String),
    let live := s.reloader.live
    let t := i.transport body live.config.server.https
    (¬ live.Refuses t → ∀ url, requestUrl? t = some url → (live.entryOf url).name ∈ first.entryPoints.names) →
      answer live s.dispatcher t freshId = answer live (.ofSite live) t freshId
  /-- No entry point is unknown as long as the first site is live. -/
  unreplaced : s.reloader.generation = 0 → ∀ path,
    s.dispatcher.contains (s.reloader.live.entryPoints.detect path).name = true

/-- **The handlers of a service are those of its first site.** Whatever its settings become and however often they are
read again, exactly the entry points of the first site are answered, and a request for any other one is told that its
entry point is unknown. -/
theorem answers_run [MultiByteDecoders] (file : Option (List UInt8)) (first : Site)
    (files : List (Option (List UInt8))) : AnswersAsAtStart first ((start file first).run files) := by
  have h := keepsHandlers_run (keepsHandlers_start file first) files
  generalize (start file first).run files = s at h
  have hcontains : ∀ name, s.dispatcher.contains name = true ↔ name ∈ first.entryPoints.names := by
    intro name
    rw [h.dispatcher, Dispatcher.contains, Dispatcher.handler?_ofSite]
    split <;> simp_all
  constructor
  case contains_iff => exact hcontains
  case unknown_iff =>
    intro i body freshId
    dsimp only
    rw [h.dispatcher]
    exact (answered_answer first).unknown_iff
  case unknown =>
    intro i body freshId url
    dsimp only
    rw [h.dispatcher]
    exact answer_of_unknown
  case known =>
    intro i body freshId
    dsimp only
    intro hmem
    rw [h.dispatcher]
    refine answer_congr fun hnot url hurl => ?_
    have hown : (s.reloader.live.entryOf url).name ∈ s.reloader.live.entryPoints.names :=
      s.reloader.live.entryPoints.name_detect_mem _
    rw [Dispatcher.handler?_ofSite, Dispatcher.handler?_ofSite, if_pos (hmem hnot url hurl)]
    exact (if_pos hown).symm
  case unreplaced =>
    intro hzero path
    rw [hcontains, h.live hzero]
    exact first.entryPoints.name_detect_mem path

/-- A file that compiles takes the place of the first site. -/
theorem live_run_singleton [MultiByteDecoders] {file : Option (List UInt8)} {text : String} {live : Site}
    (hother : file.bind Text.decode? ≠ some text) (hlive : Site.ofText text = .ok live) :
    ((start file first).run [some (Text.encode text)]).reloader.live = live := by
  have hread : Site.readText (some (Text.encode text)) = .ok text := by
    rw [Site.readText, Option.bind_some, Text.decode?_encode]
  have hforce : (Reloader.start file first).text ≠ some text := hother
  show ((Reloader.start file first).reload (some (Text.encode text))).1.live = live
  simp only [Reloader.reload, hread, hforce, if_false, hlive]

/-- The text of the settings at the start, and one that gives the default entry point another name: a request for the
root of the host is told that this entry point is unknown, which the dispatcher of the live site would answer. -/
theorem answers_run_new_default :
    let old := "request.legacy_encoding = \"\""
    let new := "entry_points = []\ndefault_entry_point = \"main\"\nrequest.legacy_encoding = \"\""
    ∃ first live : Site, Site.load (some (Text.encode old)) = .ok first ∧ Site.ofText new = .ok live ∧
      let s := (start (some (Text.encode old)) first).run [some (Text.encode new)]
      let t := (Incoming.mk "GET" (.parse "/") (.v4 0xC6336414#32) []).transport [] live.config.server.https
      s.reloader.live = live ∧ live.entryPoints.detect "/" = ⟨"main", "/"⟩ ∧ s.dispatcher.contains "main" = false ∧
      (answer live s.dispatcher t "r1").status = 404 ∧
      (answer live s.dispatcher t "r1").body = Text.encode "no handler registered for entry point 'main'" ∧
      (answer live (.ofSite live) t "r1").status = 200 := by
  intro old new
  have hchecked : ((Site.load (some (Text.encode old))).toOption.any fun first =>
      (Site.ofText new).toOption.any fun live =>
        let t := (Incoming.mk "GET" (.parse "/") (.v4 0xC6336414#32) []).transport [] live.config.server.https
        live.entryPoints.detect "/" = ⟨"main", "/"⟩ ∧ (Dispatcher.ofSite first).contains "main" = false ∧
        (answer live (.ofSite first) t "r1").status = 404 ∧
        (answer live (.ofSite first) t "r1").body = Text.encode "no handler registered for entry point 'main'" ∧
        (answer live (.ofSite live) t "r1").status = 200) = true := by
    decide +kernel
  have hother : (some (Text.encode old)).bind Text.decode? ≠ some new := by decide +kernel
  cases hfirst : Site.load (some (Text.encode old)) with
  | error e => rw [hfirst] at hchecked; cases hchecked
  | ok first =>
    cases hlive : Site.ofText new with
    | error e => rw [hfirst, hlive] at hchecked; cases hchecked
    | ok live =>
      rw [hfirst, hlive] at hchecked
      exact ⟨first, live, rfl, rfl, live_run_singleton hother hlive, of_decide_eq_true hchecked⟩

end Service

end WikiGateway
