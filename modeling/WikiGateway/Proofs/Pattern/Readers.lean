import Mathlib.Data.List.Infix
import WikiGateway.Pattern.Parser
import WikiGateway.Proofs.Text.Runs
import WikiGateway.Proofs.Text.Trim

/-!
# Readers of patterns

Most readers find the end of what they read by themselves, so that it is read alike whatever follows (`Delimits`).
Blanks and comments are skipped up to the next character (`skip_cons`).

* `Delimits.cut`, `Delimits.extend`: text at the end that is not read may be left out or added.
* `delimits_mark`: a reader up to a mark.
* `Delimits.after_skip`: blanks in front of what is read.
* `takeRun_cons`, `Delimits.after_number`: runs and numbers, with blanks inside.
* `skip_append`: blanks in front of a closing bracket.
-/

namespace WikiGateway.Pattern

variable {α β : Type} {flags : Flags} {cs rest : List Char}

/-! ## Readers that find their end -/

/-- What is read is read alike whatever follows it. -/
def Delimits (read : List Char → Option (α × List Char)) : Prop :=
  ∀ cs x rest, read cs = some (x, rest) → ∃ taken, cs = taken ++ rest ∧ ∀ after, read (taken ++ after) = some (x, after)

namespace Delimits

variable {read : List Char → Option (α × List Char)} {x : α}

theorem suffix (h : Delimits read) (hread : read cs = some (x, rest)) : rest <:+ cs := by
  obtain ⟨taken, rfl, -⟩ := h cs x rest hread
  exact List.suffix_append taken rest

/-- Text at the end that is not read may be left out, -/
theorem cut (h : Delimits read) {tail : List Char} (hread : read (cs ++ tail) = some (x, rest ++ tail)) :
    read cs = some (x, rest) := by
  obtain ⟨taken, heq, htaken⟩ := h _ x _ hread
  rw [← List.append_assoc] at heq
  rw [List.append_cancel_right heq]
  exact htaken rest

/-- and added. -/
theorem extend (h : Delimits read) (hread : read cs = some (x, rest)) (tail : List Char) :
    read (cs ++ tail) = some (x, rest ++ tail) := by
  obtain ⟨taken, rfl, htaken⟩ := h cs x rest hread
  rw [List.append_assoc]
  exact htaken _

/-- The first character is read, if nothing is read of no text. -/
theorem of_cons (h : Delimits read) (hnil : read [] = none) {c : Char} {more : List Char}
    (hread : read (c :: more) = some (x, rest)) :
    ∃ taken, more = taken ++ rest ∧ ∀ after, read (c :: (taken ++ after)) = some (x, after) := by
  obtain ⟨taken, heq, htaken⟩ := h _ _ _ hread
  cases taken with
  | nil =>
    have hnone := htaken []
    rw [List.nil_append, hnil] at hnone
    cases hnone
  | cons c' taken =>
    obtain ⟨rfl, rfl⟩ := List.cons.inj heq
    exact ⟨taken, rfl, htaken⟩

theorem congr (h : Delimits read) {read' : List Char → Option (α × List Char)} (heq : ∀ cs, read' cs = read cs) :
    Delimits read' := funext heq ▸ h

theorem map (h : Delimits read) (f : α → β) : Delimits fun cs => (read cs).map fun (x, rest) => (f x, rest) := by
  intro cs y rest hread
  obtain ⟨⟨x, _⟩, hx, heq⟩ := Option.map_eq_some_iff.mp hread
  cases heq
  obtain ⟨taken, rfl, htaken⟩ := h _ _ _ hx
  refine ⟨taken, rfl, fun after => ?_⟩
  simp only [htaken, Option.map_some]

/-- What is read may have to be something that has a value. -/
theorem bind (h : Delimits read) (value? : α → Option β) :
    Delimits fun cs => (read cs).bind fun (x, rest) => (value? x).map fun y => (y, rest) := by
  intro cs y rest hread
  obtain ⟨⟨x, _⟩, hx, hvalue⟩ := Option.bind_eq_some_iff.mp hread
  obtain ⟨_, hy, heq⟩ := Option.map_eq_some_iff.mp hvalue
  cases heq
  obtain ⟨taken, rfl, htaken⟩ := h _ _ _ hx
  refine ⟨taken, rfl, fun after => ?_⟩
  simp only [htaken, Option.bind_some, hy, Option.map_some]

/-- Two readers make one if a character in front decides between them. -/
theorem of_head {first other : List Char → Option (α × List Char)} (hfirst : Delimits first) (hother : Delimits other)
    (hnil : other [] = none) (mark : Char) : Delimits fun cs =>
      match cs with
      | [] => none
      | c :: rest => if c = mark then first rest else other (c :: rest) := by
  intro cs x rest hx
  cases cs with
  | nil => cases hx
  | cons c cs =>
    by_cases hc : c = mark
    · simp only [if_pos hc] at hx
      obtain ⟨taken, rfl, htaken⟩ := hfirst _ _ _ hx
      exact ⟨c :: taken, rfl, fun after => by simp only [List.cons_append, if_pos hc, htaken]⟩
    · simp only [if_neg hc] at hx
      obtain ⟨taken, rfl, htaken⟩ := hother.of_cons hnil hx
      exact ⟨c :: taken, rfl, fun after => by simp only [List.cons_append, if_neg hc, htaken]⟩

/-- A character of a class may stand in front of what is read. -/
theorem behind (h : Delimits read) (p : Char → Bool) (f : Char → α → β) : Delimits fun cs =>
    match cs with
    | [] => none
    | c :: rest => if p c then (read rest).map fun (x, rest) => (f c x, rest) else none := by
  intro cs y rest hread
  cases cs with
  | nil => cases hread
  | cons c cs =>
    by_cases hc : p c = true
    · simp only [if_pos hc] at hread
      obtain ⟨taken, rfl, htaken⟩ := h.map (f c) _ _ _ hread
      exact ⟨c :: taken, rfl, fun after => by simp only [List.cons_append, if_pos hc, htaken]⟩
    · simp only [if_neg hc] at hread
      cases hread

theorem fails : Delimits fun _ => (none : Option (α × List Char)) := fun _ _ _ h => nomatch h

end Delimits

/-- A run ends at a character that is not of it, whatever follows. -/
theorem dropWhile_cons {p : Char → Bool} {c : Char} (h : cs.dropWhile p = c :: rest) : ∃ run, cs = run ++ c :: rest ∧
    ∀ after, (run ++ c :: after).takeWhile p = run ∧ (run ++ c :: after).dropWhile p = c :: after := by
  have hc : p c = false := head?_dropWhile_eq_false (p := p) c (by rw [h]; rfl)
  have hsplit := (List.takeWhile_append_dropWhile (p := p) (l := cs)).symm
  rw [h] at hsplit
  exact ⟨cs.takeWhile p, hsplit, fun after =>
    takeWhile_append_of_head? (fun _ => List.mem_takeWhile_imp) (by simpa using hc)⟩

/-- A run up to a mark, and what follows it. -/
theorem takeWhile_mark {c : Char} {run : List Char} (hrun : c ∉ run) (after : List Char) :
    (run ++ c :: after).takeWhile (· != c) = run ∧ (run ++ c :: after).dropWhile (· != c) = c :: after :=
  takeWhile_append_of_head? (fun _ hx => bne_iff_ne.mpr (ne_of_mem_of_not_mem hx hrun)) (by simp)

/-- A run up to a mark is delimited by it. -/
theorem delimits_mark (mark : Char) (value? : List Char → Option α) : Delimits fun cs =>
    match cs.dropWhile (· != mark) with
    | [] => none
    | _ :: rest => (value? (cs.takeWhile (· != mark))).map fun x => (x, rest) := by
  intro cs x rest hread
  by_cases hmark : mark ∈ cs
  · obtain ⟨run, after, rfl, hrun⟩ := List.eq_append_cons_of_mem hmark
    simp only [takeWhile_mark hrun] at hread
    obtain ⟨_, hvalue, heq⟩ := Option.map_eq_some_iff.mp hread
    cases heq
    refine ⟨run ++ [mark], by simp, fun after => ?_⟩
    simp only [List.append_assoc, List.singleton_append, takeWhile_mark hrun, hvalue, Option.map_some]
  · have hall : ∀ c ∈ cs, (c != mark) = true := fun c hc => bne_iff_ne.mpr (ne_of_mem_of_not_mem hc hmark)
    simp only [List.dropWhile_eq_nil_iff.mpr hall] at hread
    cases hread

/-! ## Blanks -/

/-- What follows a comment is shorter. -/
theorem length_afterComment (h : cs.dropWhile Text.isSpace = '#' :: rest) :
    ((rest.dropWhile (· != '\n')).drop 1).length < cs.length := by
  have hline : ((rest.dropWhile (· != '\n')).drop 1).length ≤ rest.length :=
    ((List.drop_suffix 1 _).trans (List.dropWhile_suffix _)).length_le
  have hcomment := (h ▸ List.dropWhile_suffix (l := cs) Text.isSpace : '#' :: rest <:+ cs).length_le
  simp only [List.length_cons] at hcomment
  omega

/-- Steps in excess change nothing. -/
theorem skipBlanks_eq_skipBlanks {fuel fuel' : Nat} (h : cs.length < fuel) (h' : cs.length < fuel') :
    skipBlanks fuel flags cs = skipBlanks fuel' flags cs := by
  induction fuel generalizing cs fuel' with
  | zero => exact absurd h (Nat.not_lt_zero _)
  | succ fuel ih =>
    cases fuel' with
    | zero => exact absurd h' (Nat.not_lt_zero _)
    | succ fuel' =>
      rw [skipBlanks, skipBlanks]
      split
      · rfl
      · split
        next hcomment =>
          have hlt := length_afterComment hcomment
          exact ih (by omega) (by omega)
        next => rfl

theorem skip_of_not_verbose (hv : flags.verbose = false) (cs : List Char) : skip flags cs = cs := by
  rw [skip, skipBlanks, hv, Bool.not_false, if_pos rfl]

theorem skip_of_comment (hv : flags.verbose = true) (h : cs.dropWhile Text.isSpace = '#' :: rest) :
    skip flags cs = skip flags ((rest.dropWhile (· != '\n')).drop 1) := by
  rw [skip, skipBlanks, hv, h]
  exact skipBlanks_eq_skipBlanks (length_afterComment h) (Nat.lt_succ_self _)

theorem skip_of_no_comment (hv : flags.verbose = true) (h : ∀ rest, cs.dropWhile Text.isSpace ≠ '#' :: rest) :
    skip flags cs = cs.dropWhile Text.isSpace := by
  rw [skip, skipBlanks, hv]
  simp only [Bool.not_true, Bool.false_eq_true, if_false]

theorem skip_nil (flags : Flags) : skip flags [] = [] := by
  cases hv : flags.verbose with
  | false => exact skip_of_not_verbose hv []
  | true => exact skip_of_no_comment hv (by simp)

/-- Nothing is skipped in front of a character that is no blank and starts no comment. -/
theorem skip_visible {c : Char} (hspace : Text.isSpace c = false) (hhash : c ≠ '#') :
    skip flags (c :: cs) = c :: cs := by
  have hdrop : (c :: cs).dropWhile Text.isSpace = c :: cs := List.dropWhile_cons_of_neg (by simp [hspace])
  cases hv : flags.verbose with
  | false => exact skip_of_not_verbose hv _
  | true => rw [skip_of_no_comment hv (by simp [hdrop, hhash]), hdrop]

/-- A comment is skipped up to the end of its line. -/
theorem skip_comment (hv : flags.verbose = true) {spaces line : List Char}
    (hspaces : ∀ c ∈ spaces, Text.isSpace c = true) (hline : '\n' ∉ line) (more : List Char) :
    skip flags (spaces ++ '#' :: (line ++ '\n' :: more)) = skip flags more := by
  have hhash : ∀ x ∈ ('#' :: (line ++ '\n' :: more)).head?, Text.isSpace x = false := fun x hx => by
    cases hx
    decide
  rw [skip_of_comment hv (takeWhile_append_of_head? hspaces hhash).2, (takeWhile_mark hline more).2, List.drop_one,
    List.tail_cons]

/-- What is skipped in front of a character is skipped in front of it whatever follows, and skipped alone. -/
theorem skip_cons {c : Char} (h : skip flags cs = c :: rest) : ∃ blanks, cs = blanks ++ c :: rest ∧
    skip flags blanks = [] ∧ ∀ after, skip flags (blanks ++ c :: after) = c :: after := by
  cases hv : flags.verbose with
  | false =>
    rw [skip_of_not_verbose hv] at h
    exact ⟨[], h, skip_nil flags, fun after => skip_of_not_verbose hv _⟩
  | true =>
    induction hn : cs.length using Nat.strong_induction_on generalizing cs with
    | h n ih =>
      have hspaces : ∀ c ∈ cs.takeWhile Text.isSpace, Text.isSpace c = true := fun _ => List.mem_takeWhile_imp
      have hsplit := (List.takeWhile_append_dropWhile (p := Text.isSpace) (l := cs)).symm
      by_cases hcomment : ∃ rest, cs.dropWhile Text.isSpace = '#' :: rest
      · obtain ⟨text, hcomment⟩ := hcomment
        have hlt := length_afterComment hcomment
        rw [skip_of_comment hv hcomment] at h
        by_cases hline : '\n' ∈ text
        · obtain ⟨line, more, rfl, hmem⟩ := List.eq_append_cons_of_mem hline
          rw [(takeWhile_mark hmem more).2, List.drop_one, List.tail_cons] at h hlt
          obtain ⟨blanks, rfl, hblanks, hafter⟩ := ih more.length (hn ▸ hlt) h rfl
          rw [hcomment] at hsplit
          refine ⟨cs.takeWhile Text.isSpace ++ '#' :: (line ++ '\n' :: blanks), ?_, ?_, fun after => ?_⟩
          · simpa using hsplit
          · rw [skip_comment hv hspaces hmem, hblanks]
          · have hskip := skip_comment hv hspaces hmem (blanks ++ c :: after)
            rw [hafter] at hskip
            simpa using hskip
        · -- a comment up to the end leaves no character
          have hall : ∀ c ∈ text, (c != '\n') = true := fun c hc => bne_iff_ne.mpr (ne_of_mem_of_not_mem hc hline)
          rw [List.dropWhile_eq_nil_iff.mpr hall, List.drop_nil, skip_nil] at h
          cases h
      · have hno := not_exists.mp hcomment
        rw [skip_of_no_comment hv hno] at h
        rw [h] at hsplit hno
        have hspace : Text.isSpace c = false := head?_dropWhile_eq_false (p := Text.isSpace) c (by rw [h]; rfl)
        have hhash : c ≠ '#' := fun hc => hno rest (hc ▸ rfl)
        have hdrop : ∀ {text : List Char}, (∀ x ∈ text.head?, Text.isSpace x = false) →
            (cs.takeWhile Text.isSpace ++ text).dropWhile Text.isSpace = text := fun htext =>
          (takeWhile_append_of_head? hspaces htext).2
        refine ⟨cs.takeWhile Text.isSpace, hsplit, ?_, fun after => ?_⟩
        · have hnil := List.dropWhile_eq_nil_iff.mpr hspaces
          rw [skip_of_no_comment hv (by simp [hnil]), hnil]
        · have hback := @hdrop (c :: after) (by simp [hspace])
          rw [skip_of_no_comment hv (by simp [hback, hhash]), hback]

theorem skip_suffix (flags : Flags) (cs : List Char) : skip flags cs <:+ cs := by
  cases hskip : skip flags cs with
  | nil => exact List.nil_suffix
  | cons c rest =>
    obtain ⟨blanks, rfl, -⟩ := skip_cons hskip
    exact List.suffix_append blanks _

/-- A reader may skip blanks before it starts. -/
theorem Delimits.after_skip {read : List Char → Option (α × List Char)} (h : Delimits read) (hnil : read [] = none)
    (flags : Flags) : Delimits fun cs => read (skip flags cs) := by
  intro cs x rest hread
  cases hskip : skip flags cs with
  | nil =>
    simp only [hskip, hnil] at hread
    cases hread
  | cons c more =>
    simp only [hskip] at hread
    obtain ⟨blanks, rfl, -, hblanks⟩ := skip_cons hskip
    obtain ⟨taken, rfl, htaken⟩ := h.of_cons hnil hread
    refine ⟨blanks ++ c :: taken, by simp, fun after => ?_⟩
    simp only [List.append_assoc, List.cons_append, hblanks, htaken]

/-! ## Runs -/

/-- The first character does not hang on what follows another one. -/
theorem exists_cons_of_append {c d : Char} {run more : List Char} (h : c :: more = run ++ d :: rest)
    (after : List Char) : ∃ more', run ++ d :: after = c :: more' := by
  cases run with
  | nil =>
    obtain ⟨rfl, -⟩ := List.cons.inj h
    exact ⟨after, rfl⟩
  | cons c' run =>
    obtain ⟨rfl, -⟩ := List.cons.inj h
    exact ⟨run ++ d :: after, rfl⟩

/-- A run ends in front of a character, whatever follows. -/
theorem takeRun_cons {p : Char → Bool} {c : Char} {run : List Char} (h : takeRun flags p cs = (run, c :: rest)) :
    ∃ taken, cs = taken ++ c :: rest ∧ ∀ after, takeRun flags p (taken ++ c :: after) = (run, c :: after) := by
  fun_induction takeRun flags p cs generalizing run with
  | case1 => cases h
  | case2 c₀ more hc₀ run' rest' hmore ih =>
    cases h
    obtain ⟨taken, hsplit, htaken⟩ := ih hmore
    cases hskip : skip flags more with
    | nil => simp [hskip] at hsplit
    | cons c₁ text =>
      obtain ⟨blanks, rfl, -, hblanks⟩ := skip_cons hskip
      rw [hskip] at hsplit
      refine ⟨c₀ :: (blanks ++ taken), by simp [hsplit], fun after => ?_⟩
      obtain ⟨text', htext⟩ := exists_cons_of_append hsplit after
      have hnext := hblanks text'
      rw [← htext] at hnext
      rw [List.cons_append, List.append_assoc, takeRun, if_pos hc₀, hnext, htaken]
  | case3 c₀ more hc₀ =>
    cases h
    exact ⟨[], rfl, fun after => by rw [List.nil_append, takeRun, if_neg hc₀]⟩

/-- A run up to a brace is delimited by it. -/
theorem delimits_runToBrace? (flags : Flags) (p : Char → Bool) : Delimits (runToBrace? flags p) := by
  intro cs run rest hread
  unfold runToBrace? at hread
  split at hread
  next hrun =>
    cases hread
    obtain ⟨taken, rfl, htaken⟩ := takeRun_cons hrun
    exact ⟨taken ++ ['\x7d'], by simp, fun after => by simp [runToBrace?, htaken]⟩
  next => cases hread

theorem runToBrace?_nil (flags : Flags) (p : Char → Bool) : runToBrace? flags p [] = none := by
  rw [runToBrace?, takeRun]

theorem delimits_takeBraced? (flags : Flags) (p : Char → Bool) : Delimits (takeBraced? flags p) :=
  (delimits_runToBrace? flags p).after_skip (runToBrace?_nil flags p) flags

/-! ## Escapes -/

theorem delimits_takeHexDigits? (flags : Flags) (count : Nat) : Delimits (takeHexDigits? flags count) := by
  induction count with
  | zero =>
    intro cs digits rest hread
    cases hread
    exact ⟨[], rfl, fun _ => rfl⟩
  | succ count ih =>
    have hdigit := ih.behind Text.isHexDigit List.cons
    exact (hdigit.after_skip rfl flags).congr fun cs => rfl

theorem delimits_hexDigits? (flags : Flags) {count : Nat} (hcount : 0 < count) : Delimits (hexDigits? flags count) := by
  have hnil : takeHexDigits? flags count [] = none := by
    obtain ⟨count, rfl⟩ := Nat.exists_eq_add_of_lt hcount
    rw [Nat.zero_add, takeHexDigits?, skip_nil]
  have hbraced := delimits_takeBraced? flags Text.isHexDigit
  refine ((hbraced.of_head (delimits_takeHexDigits? flags count) hnil '\x7b').after_skip rfl flags).congr fun cs => ?_
  rw [hexDigits?]
  cases skip flags cs with
  | nil => exact hnil
  | cons c more =>
    by_cases hc : c = '\x7b'
    · subst hc
      rfl
    · simp only [if_neg hc]
      split
      next heq => exact absurd (List.cons.inj heq).1 hc
      next => rfl

theorem delimits_hexEscape? (flags : Flags) {count : Nat} (hcount : 0 < count) : Delimits (hexEscape? flags count) :=
  (delimits_hexDigits? flags hcount).bind hexChar?

/-- A single character. -/
theorem delimits_head (value? : Char → Option α) : Delimits fun cs =>
    match cs with
    | [] => none
    | c :: rest => (value? c).map fun x => (x, rest) := by
  intro cs x rest hread
  cases cs with
  | nil => cases hread
  | cons c cs =>
    obtain ⟨_, hvalue, heq⟩ := Option.map_eq_some_iff.mp hread
    cases heq
    exact ⟨[c], rfl, fun after => by simp [hvalue]⟩

theorem delimits_propertyName? (flags : Flags) : Delimits (propertyName? flags) := by
  have hbraced := delimits_takeBraced? flags (· != '\x7d')
  have hletter := delimits_head fun c => if c = '\\' then none else some [c]
  refine (Delimits.after_skip (.of_head hbraced hletter rfl '\x7b') rfl flags).congr fun cs => ?_
  unfold propertyName?
  generalize skip flags cs = text
  split
  next => rfl
  next => rfl
  next c rest hbrace hslash =>
    dsimp only
    rw [if_neg hbrace, if_neg hslash, Option.map_some]
  next => rfl

theorem delimits_propertyEscape? (flags : Flags) (isNegated : Bool) : Delimits (propertyEscape? flags isNegated) := by
  unfold propertyEscape?
  split
  · exact .fails
  · exact (delimits_propertyName? flags).bind (propertySet? flags isNegated)

theorem delimits_namedBoundary? (flags : Flags) : Delimits (namedBoundary? flags) :=
  (delimits_runToBrace? flags isBoundaryChar).bind (boundary? flags)

/-- A boundary of which no name begins. -/
theorem boundaryEscape?_unnamed (h : cs.head? ≠ some '\x7b') :
    boundaryEscape? flags cs = some (.wordBoundary (wordSet flags) true, cs) := by
  unfold boundaryEscape?
  split
  next => simp at h
  next => rfl

/-- A boundary in front of a brace. -/
theorem boundaryEscape?_brace {c : Char} {text : List Char} (h : skip flags cs = c :: text) :
    boundaryEscape? flags ('\x7b' :: cs) =
      if isBoundaryChar c then namedBoundary? flags (c :: text)
      else some (.wordBoundary (wordSet flags) true, '\x7b' :: cs) := by
  rw [boundaryEscape?, h]

theorem delimits_asciiClassName? (flags : Flags) (isNegated : Bool) : Delimits (asciiClassName? flags isNegated) := by
  intro cs x rest hread
  unfold asciiClassName? at hread ⊢
  split at hread
  next after hdrop =>
    obtain ⟨s, hclass, heq⟩ := Option.map_eq_some_iff.mp hread
    cases heq
    have hsplit := (List.takeWhile_append_dropWhile (p := (· != ':')) (l := cs)).symm
    have hrun : ':' ∉ cs.takeWhile (· != ':') := fun hmem => by simpa using List.mem_takeWhile_imp hmem
    rw [hdrop] at hsplit
    refine ⟨cs.takeWhile (· != ':') ++ [':', ']'], by simpa using hsplit, fun after => ?_⟩
    simp only [List.append_assoc, List.cons_append, List.nil_append, takeWhile_mark hrun, hclass, Option.map_some]
  next => cases hread

theorem delimits_takeAsciiClass? (flags : Flags) : Delimits (takeAsciiClass? flags) := by
  have hname := (delimits_asciiClassName? flags true).of_head (delimits_asciiClassName? flags false) rfl '^'
  refine (hname.of_head .fails rfl ':').congr fun cs => ?_
  unfold takeAsciiClass?
  split
  next => rfl
  next rest hnegated =>
    cases rest with
    | nil => rfl
    | cons c rest =>
      have hc : c ≠ '^' := fun hc => hnegated rest (hc ▸ rfl)
      dsimp only
      rw [if_pos rfl, if_neg hc]
  next hcolon =>
    cases cs with
    | nil => rfl
    | cons c rest =>
      have hc : c ≠ ':' := fun hc => hcolon rest (hc ▸ rfl)
      dsimp only
      rw [if_neg hc]

theorem delimits_groupName? : Delimits groupName? := by
  refine (delimits_mark '>' fun name => match name with
    | [] => none
    | first :: more =>
      if isNameChar true first && more.all (isNameChar false) then some (String.ofList name) else none).congr
    fun cs => ?_
  unfold groupName?
  cases hdrop : cs.dropWhile (· != '>') with
  | nil => cases cs.takeWhile (· != '>') <;> rfl
  | cons mark rest =>
    cases cs.takeWhile (· != '>') with
    | nil => rfl
    | cons first more =>
      dsimp only
      split <;> rfl

/-- The letters of flags end at a colon or a bracket, which is not read. -/
theorem takeFlags?_cases {flags' : Flags} {value : Bool} {seen : List Char}
    (h : takeFlags? flags value seen cs = some (flags', rest)) : ∃ taken mark more, rest = mark :: more ∧
      (mark = ':' ∨ mark = ')') ∧ cs = taken ++ mark :: more ∧
      ∀ after, takeFlags? flags value seen (taken ++ mark :: after) = some (flags', mark :: after) := by
  induction cs generalizing flags value seen with
  | nil => cases h
  | cons c cs ih =>
    by_cases hcolon : c = ':'
    · subst hcolon
      rw [takeFlags?] at h
      split at h
      · cases h
      next hhyphen =>
        cases h
        exact ⟨[], ':', cs, rfl, .inl rfl, rfl, fun after => by rw [List.nil_append, takeFlags?, if_neg hhyphen]⟩
    by_cases hclose : c = ')'
    · subst hclose
      rw [takeFlags?] at h
      split at h
      · cases h
      next hhyphen =>
        cases h
        exact ⟨[], ')', cs, rfl, .inr rfl, rfl, fun after => by rw [List.nil_append, takeFlags?, if_neg hhyphen]⟩
    -- any other character is a letter or the hyphen, and reading goes on behind it
    have hstep : ∀ text, takeFlags? flags value seen (c :: text) =
        if seen.contains c then none
        else if c = '-' then takeFlags? flags false (c :: seen) text
        else (flags.update? c value).bind fun flags => takeFlags? flags value (c :: seen) text := fun text => by
      rw [takeFlags?]
      · cases flags.update? c value <;> rfl
      all_goals assumption
    rw [hstep] at h
    have hback : ∀ {f v s}, takeFlags? f v s cs = some (flags', rest) →
        (∀ text, takeFlags? flags value seen (c :: text) = takeFlags? f v s text) →
        ∃ taken mark more, rest = mark :: more ∧ (mark = ':' ∨ mark = ')') ∧ c :: cs = taken ++ mark :: more ∧
          ∀ after, takeFlags? flags value seen (taken ++ mark :: after) = some (flags', mark :: after) := by
      intro f v s hrest hread
      obtain ⟨taken, mark, more, rfl, hmark, rfl, htaken⟩ := ih hrest
      exact ⟨c :: taken, mark, more, rfl, hmark, rfl, fun after => (hread _).trans (htaken after)⟩
    split at h
    · cases h
    next hseen =>
      split at h
      next hhyphen =>
        exact hback h fun text => by rw [hstep, if_neg hseen, if_pos hhyphen]
      next hhyphen =>
        obtain ⟨_, hupdate, h⟩ := Option.bind_eq_some_iff.mp h
        exact hback h fun text => by rw [hstep, if_neg hseen, if_neg hhyphen, hupdate, Option.bind_some]

/-- The letters of flags that a group starts with, or a setting of flags. -/
def flagGroup? (flags : Flags) (cs : List Char) : Option (Opening × List Char) :=
  match takeFlags? flags true [] cs with
  | some (flags, ':' :: rest) => some (.group flags none, rest)
  | some (flags, _ :: rest) => some (.setting flags, rest)
  | _ => none

theorem delimits_flagGroup? (flags : Flags) : Delimits (flagGroup? flags) := by
  intro cs o rest hread
  unfold flagGroup? at hread ⊢
  split at hread
  next hflags =>
    cases hread
    obtain ⟨taken, mark, more, heq, -, rfl, htaken⟩ := takeFlags?_cases hflags
    obtain ⟨rfl, rfl⟩ := List.cons.inj heq
    exact ⟨taken ++ [':'], by simp, fun after => by simp [htaken]⟩
  next hcolon hflags =>
    cases hread
    obtain ⟨taken, mark, more, heq, hmark, rfl, htaken⟩ := takeFlags?_cases hflags
    obtain ⟨rfl, rfl⟩ := List.cons.inj heq
    obtain rfl := hmark.resolve_left hcolon
    exact ⟨taken ++ [')'], by simp, fun after => by simp [htaken]⟩
  next => cases hread

/-- What stands behind an opening bracket and blanks. -/
def openingText? (flags : Flags) (cs : List Char) : Option (Opening × List Char) :=
  let named (rest : List Char) :=
    (groupName? rest).map fun (name, rest) => (Opening.group flags (some name), rest)
  match cs with
  | '?' :: '=' :: _ => none
  | '?' :: '!' :: _ => none
  | '?' :: '<' :: '=' :: _ => none
  | '?' :: '<' :: '!' :: _ => none
  | '?' :: 'P' :: '<' :: rest => named rest
  | '?' :: '<' :: rest => named rest
  | '?' :: ')' :: _ => none
  | '?' :: rest => flagGroup? flags rest
  | rest => some (.group flags none, rest)

theorem opening?_eq (flags : Flags) (cs : List Char) : opening? flags cs = openingText? flags (skip flags cs) := rfl

/-- A group with a name, which does not start with an equals sign or an exclamation mark. -/
theorem openingText?_angle (flags : Flags) (cs : List Char) : openingText? flags ('?' :: '<' :: cs) =
    match cs with
    | [] => none
    | c :: rest => if c = '=' then none else match c :: rest with
      | [] => none
      | c :: rest => if c = '!' then none else
        (groupName? (c :: rest)).map fun (name, rest) => (Opening.group flags (some name), rest) := by
  cases cs with
  | nil => rfl
  | cons c cs =>
    by_cases heq : c = '='
    · subst heq
      rfl
    by_cases hne : c = '!'
    · subst hne
      rfl
    rw [openingText?]
    · simp only [heq, hne, if_false]
    · simp [heq]
    · simp [hne]

/-- A group with a name or with flags. -/
theorem delimits_openingText? (flags : Flags) : Delimits fun cs => openingText? flags ('?' :: cs) := by
  have hnamed := delimits_groupName?.map fun name => Opening.group flags (some name)
  have hangle := Delimits.of_head .fails (.of_head .fails hnamed rfl '!') rfl '='
  have hP := Delimits.of_head hnamed .fails rfl '<'
  have hflags := Delimits.of_head .fails (.of_head hP (delimits_flagGroup? flags) rfl 'P') rfl ')'
  refine (Delimits.of_head .fails (.of_head .fails (.of_head hangle hflags rfl '<') rfl '!') rfl '=').congr fun cs => ?_
  cases cs with
  | nil => rfl
  | cons c cs =>
    dsimp only
    split
    next hc => rw [hc]; rfl
    split
    next hc => rw [hc]; rfl
    split
    next hc => rw [hc, openingText?_angle]
    split
    next hc => rw [hc]; rfl
    split
    next hc =>
      rw [hc]
      cases cs with
      | nil => rfl
      | cons d cs =>
        by_cases hd : d = '<'
        · subst hd
          rfl
        · -- the letter is no flag
          have hnone : flagGroup? flags ('P' :: d :: cs) = none := rfl
          rw [openingText?]
          · simp only [hnone, if_neg hd]
          all_goals simp [hd]
    next heq hne hangle hclose hP =>
      rw [openingText?]
      all_goals simp_all

/-! ## Repetitions -/

/-- A number ends in front of a character, whatever follows. -/
theorem takeNumber?_cons {n : Nat} {c : Char} (h : takeNumber? flags cs = some (n, c :: rest)) :
    ∃ taken, cs = taken ++ c :: rest ∧ ∀ after, takeNumber? flags (taken ++ c :: after) = some (n, c :: after) := by
  unfold takeNumber? at h ⊢
  rcases hrun : takeRun flags Char.isDigit (cs.dropWhile Text.isSpace) with ⟨digits, text⟩
  simp only [hrun] at h
  split at h
  · cases h
  next hdigits =>
    obtain ⟨rfl, hbehind⟩ := Prod.mk.inj (Option.some.inj h)
    obtain ⟨back, rfl, hspaces⟩ := dropWhile_cons hbehind
    have hback := List.append_ne_nil_of_right_ne_nil back (List.cons_ne_nil c rest)
    obtain ⟨c₂, more₂, hback⟩ := List.exists_cons_of_ne_nil hback
    rw [hback] at hrun
    obtain ⟨number, hsplit, hnumber⟩ := takeRun_cons hrun
    have hfirst := List.append_ne_nil_of_right_ne_nil number (List.cons_ne_nil c₂ more₂)
    obtain ⟨c₁, more₁, hfirst⟩ := List.exists_cons_of_ne_nil hfirst
    rw [hfirst] at hsplit
    obtain ⟨front, rfl, hfront⟩ := dropWhile_cons hsplit
    refine ⟨front ++ (number ++ back), by rw [← hfirst, ← hback]; simp, fun after => ?_⟩
    obtain ⟨more₂', hmore₂⟩ := exists_cons_of_append hback.symm after
    obtain ⟨more₁', hmore₁⟩ := exists_cons_of_append hfirst.symm more₂'
    have htext : front ++ (number ++ back) ++ c :: after = front ++ c₁ :: more₁' := by
      rw [← hmore₁, ← hmore₂]
      simp
    have hdrop : (front ++ (number ++ back) ++ c :: after).dropWhile Text.isSpace = number ++ c₂ :: more₂' := by
      rw [htext, (hfront _).2, hmore₁]
    simp only [hdrop, hnumber, if_neg hdigits]
    rw [← hmore₂, (hspaces _).2]

/-- A reader may start with a number. -/
theorem Delimits.after_number {next : Nat → List Char → Option (α × List Char)} (h : ∀ n, Delimits (next n))
    (hnil : ∀ n, next n [] = none) (flags : Flags) :
    Delimits fun cs => (takeNumber? flags cs).bind fun (n, rest) => next n rest := by
  intro cs x rest hread
  obtain ⟨⟨n, more⟩, hnumber, hnext⟩ := Option.bind_eq_some_iff.mp hread
  cases more with
  | nil =>
    simp only [hnil] at hnext
    cases hnext
  | cons c more =>
    obtain ⟨number, rfl, hafter⟩ := takeNumber?_cons hnumber
    obtain ⟨taken, rfl, htaken⟩ := (h n).of_cons (hnil n) hnext
    refine ⟨number ++ c :: taken, by simp, fun after => ?_⟩
    simp only [List.append_assoc, List.cons_append, hafter, Option.bind_some, htaken]

theorem takeNumber?_nil (flags : Flags) : takeNumber? flags [] = none := by
  simp [takeNumber?, takeRun]

theorem delimits_closeBounds? (min : Nat) (max : Option Nat) : Delimits (closeBounds? min max) := by
  refine (delimits_head fun c => if c = '\x7d' then some (min, max) else none).congr fun cs => ?_
  unfold closeBounds?
  split
  next => rfl
  next hbrace =>
    cases cs with
    | nil => rfl
    | cons c rest =>
      have hc : c ≠ '\x7d' := fun hc => hbrace rest (hc ▸ rfl)
      dsimp only
      rw [if_neg hc, Option.map_none]

theorem delimits_upperBound? (flags : Flags) (min : Nat) : Delimits (upperBound? flags min) := by
  have hopen : Delimits fun cs => some ((min, (none : Option Nat)), cs) := fun cs x rest h => by
    cases h
    exact ⟨[], rfl, fun _ => rfl⟩
  have hclosed (max : Nat) : Delimits fun cs => if max < min then none else closeBounds? min (some max) cs := by
    split
    · exact .fails
    · exact delimits_closeBounds? min (some max)
  have hnumber := Delimits.after_number hclosed (fun max => by split <;> rfl) flags
  have hnil := takeNumber?_nil flags
  refine ((hopen.of_head hnumber (by rw [hnil]; rfl) '\x7d').after_skip rfl flags).congr fun cs => ?_
  unfold upperBound?
  generalize skip flags cs = text
  split
  next => rfl
  next hbrace =>
    cases text with
    | nil => rw [hnil]; rfl
    | cons c rest =>
      have hc : c ≠ '\x7d' := fun hc => hbrace rest (hc ▸ rfl)
      dsimp only
      rw [if_neg hc]

theorem delimits_takeBounds? (flags : Flags) : Delimits (takeBounds? flags) := by
  have hbehind (min : Nat) := (delimits_upperBound? flags min).of_head (delimits_closeBounds? min (some min)) rfl ','
  refine ((Delimits.after_number hbehind (fun _ => rfl) flags).after_skip ?_ flags).congr fun cs => ?_
  · rw [takeNumber?_nil]
    rfl
  · unfold takeBounds?
    congr 1
    funext ⟨min, rest⟩
    dsimp only
    split
    next => rfl
    next hcomma =>
      cases rest with
      | nil => rfl
      | cons c rest =>
        have hc : c ≠ ',' := fun hc => hcomma rest (hc ▸ rfl)
        dsimp only
        rw [if_neg hc]

/-! ## Before a closing bracket -/

variable {tail : List Char}

/-- If blanks in front of a bracket are skipped up to it or less far, the bracket changes nothing. -/
theorem skip_append (h : ')' :: tail <:+ skip flags (cs ++ ')' :: tail)) :
    skip flags (cs ++ ')' :: tail) = skip flags cs ++ ')' :: tail := by
  obtain ⟨before, hbefore⟩ := h
  cases before with
  | nil =>
    obtain ⟨blanks, hsplit, hblanks, -⟩ := skip_cons hbefore.symm
    rw [← hbefore, List.append_cancel_right hsplit, hblanks]
  | cons c before =>
    obtain ⟨blanks, hsplit, -, hafter⟩ := skip_cons hbefore.symm
    have hcs : cs = blanks ++ c :: before := by
      refine List.append_cancel_right (hsplit.trans ?_)
      simp
    rw [← hbefore, hcs, hafter]

end WikiGateway.Pattern
