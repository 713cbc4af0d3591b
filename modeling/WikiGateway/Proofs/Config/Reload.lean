import Mathlib.Data.List.Induction
import WikiGateway.Config.Reload

/-!
# A live site and its file

While a site is live its file changes and is read again in any order (`ReloadEvent`, `WatchedSite.run`). What the
attempts came to is kept beside the reloader (`ReloadAttempt`), and says all about it: the live site is that of the
text applied last, the text in force is that text, and the generation counts the attempts that were applied.

* `ReloadStep`, `Reloader.reload_step`: the four ways in which an attempt ends.
* `WatchedSite.Tracks`, `tracks_step`, `tracks_run`: the reloader is told by the attempts, from one event to the next.
* `WatchedSite.Follows`: what this says about the site, the next attempt and the attempts after it.
* `WatchedSite.run_follows`: so it is after any events.
-/

namespace WikiGateway

/-! ## One attempt -/

/-- How an attempt to reload ends: with the reloader after it, and what it came to. -/
inductive ReloadStep [MultiByteDecoders] (r : Reloader) (file : Option (List UInt8)) : Reloader × ReloadOutcome → Prop
  | unreadable {e : ConfigError} : Site.readText file = .error e → ReloadStep r file (r, .rejected)
  | same {text : String} : Site.readText file = .ok text → r.text = some text → ReloadStep r file (r, .unchanged)
  | compiled {text : String} {site : Site} : Site.readText file = .ok text → r.text ≠ some text →
      Site.ofText text = .ok site → ReloadStep r file (⟨some text, site, r.generation + 1⟩, .applied)
  | broken {text : String} {e : ConfigError} : Site.readText file = .ok text → r.text ≠ some text →
      Site.ofText text = .error e → ReloadStep r file (r, .rejected)

namespace Reloader

variable [MultiByteDecoders] {r : Reloader} {file : Option (List UInt8)}

theorem reload_step (r : Reloader) (file : Option (List UInt8)) : ReloadStep r file (r.reload file) := by
  unfold reload
  split
  next e hread => exact .unreadable hread
  next text hread =>
    split
    next hsame => exact .same hread hsame
    next hother =>
      split
      next site hsite => exact .compiled hread hother hsite
      next e hbroken => exact .broken hread hother hbroken

/-- Only an attempt that is applied changes anything. -/
theorem reload_fst_of_ne_applied (h : (r.reload file).2 ≠ .applied) : (r.reload file).1 = r := by
  have hstep := reload_step r file
  generalize r.reload file = result at h hstep ⊢
  cases hstep with
  | unreadable => rfl
  | same => rfl
  | compiled => exact absurd rfl h
  | broken => rfl

/-- What an attempt comes to is decided by the file and the text in force. -/
theorem reload_snd_iff (r : Reloader) (file : Option (List UInt8)) :
    ((r.reload file).2 = .unchanged ↔ ∃ text, Site.readText file = .ok text ∧ r.text = some text) ∧
    ((r.reload file).2 = .applied ↔
      ∃ text, Site.readText file = .ok text ∧ r.text ≠ some text ∧ ∃ site, Site.ofText text = .ok site) ∧
    ((r.reload file).2 = .rejected ↔ (∀ text, Site.readText file ≠ .ok text) ∨
      ∃ text, Site.readText file = .ok text ∧ r.text ≠ some text ∧ ∃ e, Site.ofText text = .error e) := by
  have hstep := reload_step r file
  generalize r.reload file = result at hstep ⊢
  cases hstep with
  | unreadable hread => simp [hread]
  | same hread hsame => simp [hread, hsame]
  | compiled hread hother hsite => simp [hread, hother, hsite]
  | broken hread hother hbroken => simp [hread, hother, hbroken]

/-- The text in force is not applied again. -/
theorem reload_of_same {text : String} (hread : Site.readText file = .ok text) (hsame : r.text = some text) :
    r.reload file = (r, .unchanged) := by
  have houtcome := (reload_snd_iff r file).1.mpr ⟨text, hread, hsame⟩
  refine Prod.ext (reload_fst_of_ne_applied ?_) houtcome
  rw [houtcome]
  exact ReloadOutcome.noConfusion

/-- After an attempt that is applied, the text of the file is the one in force. -/
theorem text_reload_of_applied (h : (r.reload file).2 = .applied) :
    ∃ text, Site.readText file = .ok text ∧ (r.reload file).1.text = some text := by
  have hstep := reload_step r file
  generalize r.reload file = result at h hstep ⊢
  cases hstep with
  | compiled hread _ _ => exact ⟨_, hread, rfl⟩
  | _ => cases h

end Reloader

/-! ## Events -/

/-- What happens while a site is live. -/
inductive ReloadEvent
  /-- The file has other bytes from now on, or cannot be read. -/
  | change (file : Option (List UInt8))
  /-- The file is read again. -/
  | reload

/-- An attempt to reload: the text that it found, if any, and what it came to. -/
structure ReloadAttempt where
  text : Option String
  outcome : ReloadOutcome
deriving DecidableEq

/-- The text of the last attempt that was applied. -/
def lastApplied? (attempts : List ReloadAttempt) : Option String :=
  ((attempts.filter (·.outcome = .applied)).getLast?).bind ReloadAttempt.text

/-- A live site, its file, and all attempts so far. -/
structure WatchedSite where
  file : Option (List UInt8)
  reloader : Reloader
  attempts : List ReloadAttempt

namespace WatchedSite

/-- A site that has just been started. -/
def start (file : Option (List UInt8)) (site : Site) : WatchedSite := ⟨file, .start file site, []⟩

/-- One event. -/
def step [MultiByteDecoders] (w : WatchedSite) : ReloadEvent → WatchedSite
  | .change file => { w with file := file }
  | .reload =>
    let (after, outcome) := w.reloader.reload w.file
    { w with reloader := after, attempts := w.attempts ++ [⟨(Site.readText w.file).toOption, outcome⟩] }

/-- The events one after the other. -/
def run [MultiByteDecoders] (w : WatchedSite) (events : List ReloadEvent) : WatchedSite := events.foldl step w

/-! ## The reloader is told by the attempts -/

/-- The text in force, as told by the file at the start and the attempts. -/
def inForce? (first : Option (List UInt8)) (w : WatchedSite) : Option String :=
  (lastApplied? w.attempts).or (Site.readText first).toOption

/-- The reloader is what the file and the site at the start and the attempts since then say. -/
structure Tracks [MultiByteDecoders] (first : Option (List UInt8)) (site : Site) (w : WatchedSite) : Prop where
  live : match lastApplied? w.attempts with
    | none => w.reloader.live = site
    | some text => Site.ofText text = .ok w.reloader.live
  text : w.reloader.text = w.inForce? first
  generation : w.reloader.generation = w.attempts.countP (·.outcome = .applied)

variable {first : Option (List UInt8)} {site : Site} {w : WatchedSite}

/-- Only an attempt that is applied has a part in the text applied last. -/
theorem lastApplied?_concat (attempts : List ReloadAttempt) (attempt : ReloadAttempt) :
    lastApplied? (attempts ++ [attempt]) =
      if attempt.outcome = .applied then attempt.text else lastApplied? attempts := by
  unfold lastApplied?
  by_cases h : attempt.outcome = .applied <;> simp [h]

theorem tracks_start [MultiByteDecoders] (first : Option (List UInt8)) (site : Site) :
    Tracks first site (start first site) := by
  refine ⟨rfl, ?_, rfl⟩
  show first.bind Text.decode? = (Site.readText first).toOption
  unfold Site.readText
  cases first.bind Text.decode? <;> rfl

/-- An attempt that changes nothing and is not applied. -/
theorem Tracks.concat [MultiByteDecoders] (h : Tracks first site w) {attempt : ReloadAttempt}
    (houtcome : attempt.outcome ≠ .applied) : Tracks first site { w with attempts := w.attempts ++ [attempt] } := by
  obtain ⟨hlive, htext, hgeneration⟩ := h
  have hlast : lastApplied? (w.attempts ++ [attempt]) = lastApplied? w.attempts := by
    rw [lastApplied?_concat, if_neg houtcome]
  refine ⟨?_, ?_, ?_⟩
  · dsimp only
    rw [hlast]
    exact hlive
  · show w.reloader.text = (lastApplied? (w.attempts ++ [attempt])).or _
    rw [hlast]
    exact htext
  · show w.reloader.generation = (w.attempts ++ [attempt]).countP _
    rw [List.countP_append, List.countP_singleton, if_neg (by simpa using houtcome)]
    exact hgeneration

/-- One event. -/
theorem tracks_step [MultiByteDecoders] (h : Tracks first site w) (event : ReloadEvent) :
    Tracks first site (w.step event) := by
  cases event with
  | change file => exact ⟨h.live, h.text, h.generation⟩
  | reload =>
    show Tracks first site { w with
      reloader := (w.reloader.reload w.file).1
      attempts := w.attempts ++ [⟨(Site.readText w.file).toOption, (w.reloader.reload w.file).2⟩] }
    have hstep := Reloader.reload_step w.reloader w.file
    generalize w.reloader.reload w.file = result at hstep ⊢
    cases hstep with
    | unreadable => exact h.concat ReloadOutcome.noConfusion
    | same => exact h.concat ReloadOutcome.noConfusion
    | broken => exact h.concat ReloadOutcome.noConfusion
    | @compiled text site' hread hother hsite =>
      have hlast : lastApplied? (w.attempts ++ [⟨(Site.readText w.file).toOption, .applied⟩]) = some text := by
        rw [lastApplied?_concat, if_pos rfl, hread]
        rfl
      refine ⟨?_, ?_, ?_⟩
      · dsimp only
        rw [hlast]
        exact hsite
      · show some text = (lastApplied? (w.attempts ++ [_])).or _
        rw [hlast, Option.some_or]
      · show w.reloader.generation + 1 = (w.attempts ++ [_]).countP _
        rw [List.countP_append, ← h.generation]
        rfl

/-- A run of events. -/
theorem tracks_run [MultiByteDecoders] (h : Tracks first site w) (events : List ReloadEvent) :
    Tracks first site (w.run events) := by
  induction events using List.reverseRecOn with
  | nil => exact h
  | append_singleton events event ih =>
    rw [run, List.foldl_append]
    exact tracks_step ih event

/-! ## What the site and the next attempts are -/

/-- What is known of a live site at any time. -/
structure Follows [MultiByteDecoders] (first : Option (List UInt8)) (site : Site) (w : WatchedSite) : Prop where
  /-- The live site is compiled from the text applied last, and is the first one if none was. -/
  live : match lastApplied? w.attempts with
    | none => w.reloader.live = site
    | some text => (SiteConfig.parse text).bind Site.compile = .ok w.reloader.live
  /-- If a text is in force, the live site is compiled from it. -/
  inForce : ∀ text, w.inForce? first = some text →
    (SiteConfig.parse text).bind Site.compile = .ok w.reloader.live
  /-- The generation counts the attempts that were applied. -/
  generation : w.reloader.generation = w.attempts.countP (·.outcome = .applied)
  unchanged_iff : (w.reloader.reload w.file).2 = .unchanged ↔
    ∃ text, Site.readText w.file = .ok text ∧ w.inForce? first = some text
  applied_iff : (w.reloader.reload w.file).2 = .applied ↔
    ∃ text, Site.readText w.file = .ok text ∧ w.inForce? first ≠ some text ∧
      ∃ new, (SiteConfig.parse text).bind Site.compile = .ok new
  rejected_iff : (w.reloader.reload w.file).2 = .rejected ↔
    (∀ text, Site.readText w.file ≠ .ok text) ∨
    ∃ text, Site.readText w.file = .ok text ∧ w.inForce? first ≠ some text ∧
      ∃ e, (SiteConfig.parse text).bind Site.compile = .error e
  /-- Any other attempt leaves the live site, the text in force and the generation as they are. -/
  untouched : (w.reloader.reload w.file).2 ≠ .applied → (w.step .reload).reloader = w.reloader
  /-- A file that is rejected, and then the text in force again: nothing has changed. -/
  restored : ∀ bad old text, (w.reloader.reload bad).2 = .rejected →
    Site.readText old = .ok text → w.inForce? first = some text →
      let after := w.run [.change bad, .reload, .change old, .reload]
      after.reloader = w.reloader ∧ after.attempts =
        w.attempts ++ [⟨(Site.readText bad).toOption, .rejected⟩, ⟨some text, .unchanged⟩]
  /-- Once applied, a file that stays as it is has nothing new. -/
  again : (w.reloader.reload w.file).2 = .applied →
    let after := w.step .reload
    after.reloader.reload after.file = (after.reloader, .unchanged)

/-- The text in force is that of the live site, if it was so at the start. -/
theorem Tracks.ofText_inForce [MultiByteDecoders] (h : Tracks first site w)
    (hstart : ∀ text, Site.readText first = .ok text → Site.ofText text = .ok site) {text : String}
    (htext : w.inForce? first = some text) : Site.ofText text = .ok w.reloader.live := by
  have hlive := h.live
  rw [inForce?] at htext
  cases hlast : lastApplied? w.attempts with
  | none =>
    rw [hlast] at hlive htext
    rw [show w.reloader.live = site from hlive]
    cases hread : Site.readText first with
    | error e => rw [hread] at htext; cases htext
    | ok first =>
      rw [hread] at htext
      cases htext
      exact hstart _ hread
  | some last =>
    rw [hlast] at hlive htext
    cases htext
    exact hlive

/-- The text in force comes back after a file that is rejected. -/
theorem Tracks.restored [MultiByteDecoders] (h : Tracks first site w) {bad old : Option (List UInt8)} {text : String}
    (hbad : (w.reloader.reload bad).2 = .rejected) (hread : Site.readText old = .ok text)
    (htext : w.inForce? first = some text) :
    w.run [.change bad, .reload, .change old, .reload] =
      ⟨old, w.reloader, w.attempts ++ [⟨(Site.readText bad).toOption, .rejected⟩, ⟨some text, .unchanged⟩]⟩ := by
  have hreloader : w.reloader.reload bad = (w.reloader, .rejected) := by
    refine Prod.ext (Reloader.reload_fst_of_ne_applied ?_) hbad
    rw [hbad]
    exact ReloadOutcome.noConfusion
  have hback : w.reloader.reload old = (w.reloader, .unchanged) := Reloader.reload_of_same hread (h.text.trans htext)
  simp only [run, List.foldl_cons, List.foldl_nil, step, hreloader, hback, hread, List.append_assoc]
  rfl

/-- **A live site follows its file.** Start with a live site and a file that cannot be read or holds the text of the
site. Whatever the file becomes and whenever it is read again, the live site is that of the text applied last, the
generation counts how often that was, each attempt is decided by the file and the text in force, and none that is not
applied changes anything. -/
theorem run_follows [MultiByteDecoders] (first : Option (List UInt8)) (site : Site)
    (hstart : ∀ text, Site.readText first = .ok text → (SiteConfig.parse text).bind Site.compile = .ok site)
    (events : List ReloadEvent) : Follows first site ((start first site).run events) := by
  have h := tracks_run (tracks_start first site) events
  generalize (start first site).run events = w at h
  have houtcome := Reloader.reload_snd_iff w.reloader w.file
  rw [h.text] at houtcome
  constructor
  case live => exact h.live
  case inForce => exact fun text => h.ofText_inForce hstart
  case generation => exact h.generation
  case unchanged_iff => exact houtcome.1
  case applied_iff => exact houtcome.2.1
  case rejected_iff => exact houtcome.2.2
  case untouched => exact Reloader.reload_fst_of_ne_applied
  case restored =>
    intro bad old text hbad hread hforce
    rw [h.restored hbad hread hforce]
    exact ⟨rfl, rfl⟩
  case again =>
    intro happlied
    obtain ⟨text, hread, hafter⟩ := Reloader.text_reload_of_applied happlied
    exact Reloader.reload_of_same hread hafter

/-- A site of settings with one entry, a file that does not end its text, and the settings again. -/
theorem run_follows_restored :
    Site.readText (some (Text.encode "request.legacy_encoding = \"\"")) = .ok "request.legacy_encoding = \"\"" ∧
    ∃ site, (SiteConfig.parse "request.legacy_encoding = \"\"").bind Site.compile = .ok site ∧
      Follows (some (Text.encode "request.legacy_encoding = \"\"")) site
        ((start (some (Text.encode "request.legacy_encoding = \"\"")) site).run
          [.change (some (Text.encode "request.legacy_encoding = \"")), .reload,
            .change (some (Text.encode "request.legacy_encoding = \"\"")), .reload]) := by
  have hread : Site.readText (some (Text.encode "request.legacy_encoding = \"\"")) =
      .ok "request.legacy_encoding = \"\"" := by
    decide +kernel
  have hcompiles : ((SiteConfig.parse "request.legacy_encoding = \"\"").bind Site.compile).isOk = true := by
    decide +kernel
  refine ⟨hread, ?_⟩
  cases hsite : (SiteConfig.parse "request.legacy_encoding = \"\"").bind Site.compile with
  | error e => rw [hsite] at hcompiles; cases hcompiles
  | ok site =>
    refine ⟨site, rfl, run_follows _ site (fun text htext => ?_) _⟩
    rw [hread] at htext
    cases htext
    exact hsite

end WatchedSite

end WikiGateway
