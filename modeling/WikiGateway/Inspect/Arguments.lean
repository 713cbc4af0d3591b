import WikiGateway.Text.Split

/-!
# Arguments of a command line

Arguments are options with a value, the request for help, and operands. The value of an option is attached to it or is
the next argument, which must not look like an option then. Two dashes end the options.

* `takeItem?`: the first item of arguments; `length_lt_of_takeItem?` says that it uses up arguments.
* `readItems?`: the items of arguments, up to the request for help.
-/

namespace WikiGateway.Inspect

/-- An option with a value. -/
structure ValueOption where
  word : String
  letter : Option Char := none
deriving DecidableEq, Repr, Inhabited

/-- What arguments say. -/
inductive Item
  /-- The request for help. -/
  | help
  /-- The end of the options. -/
  | separator
  /-- An option, by its word, and its value. -/
  | option (word value : String)
  /-- An argument that is no option. -/
  | operand (text : String)
deriving DecidableEq, Repr, Inhabited

/-- Whether an argument looks like an option; a dash alone does not. -/
def looksLikeOption (arg : String) : Bool :=
  match arg.toList with
  | '-' :: _ :: _ => true
  | _ => false

/-- An option with its value, which is the first of the other arguments if none is attached. -/
def takeValue? (option : ValueOption) (attached : Option (List Char)) (rest : List String) :
    Option (Item × List String) :=
  match attached, rest with
  | some value, _ => some (.option option.word (String.ofList value), rest)
  | none, value :: rest => if looksLikeOption value then none else some (.option option.word value, rest)
  | none, [] => none

/-- The item of an option by its word, behind whose equals sign a value is attached. -/
def takeWord? (options : List ValueOption) (text : List Char) (rest : List String) : Option (Item × List String) :=
  let (word, attached) := match Text.cut? (· == '=') text with
    | some (word, value) => (String.ofList word, some value)
    | none => (String.ofList text, none)
  if word = "help" then if attached.isSome then none else some (.help, rest)
  else (options.find? (·.word == word)).bind fun option => takeValue? option attached rest

/-- The item of an option by its letter, to which a value is attached with an equals sign or without. -/
def takeLetter? (options : List ValueOption) (letter : Char) (text : List Char) (rest : List String) :
    Option (Item × List String) :=
  if letter = 'h' then some (.help, rest)
  else
    let attached := match text with
      | [] => none
      | '=' :: value => some value
      | value => some value
    (options.find? (·.letter == some letter)).bind fun option => takeValue? option attached rest

/-- The first item of arguments and the arguments after it; none for an unknown option or one without its value. -/
def takeItem? (options : List ValueOption) : List String → Option (Item × List String)
  | [] => none
  | arg :: rest =>
    match arg.toList with
    | ['-', '-'] => some (.separator, rest)
    | '-' :: '-' :: text => takeWord? options text rest
    | '-' :: letter :: text => takeLetter? options letter text rest
    | _ => some (.operand arg, rest)

/-! ## An item uses up arguments -/

/-- A value takes nothing, or the first argument. -/
theorem length_le_of_takeValue? {option : ValueOption} {attached : Option (List Char)} {rest more : List String}
    {item : Item} (h : takeValue? option attached rest = some (item, more)) : more.length ≤ rest.length := by
  unfold takeValue? at h
  split at h
  · simp only [Option.some.injEq, Prod.mk.injEq] at h
    simp [h.2]
  · split at h
    · simp at h
    · simp only [Option.some.injEq, Prod.mk.injEq] at h
      simp [h.2]
  · simp at h

/-- An option by its word takes no argument that was not there. -/
theorem length_le_of_takeWord? {options : List ValueOption} {text : List Char} {rest more : List String} {item : Item}
    (h : takeWord? options text rest = some (item, more)) : more.length ≤ rest.length := by
  unfold takeWord? at h
  generalize (match Text.cut? (· == '=') text with
    | some (word, value) => (String.ofList word, some value)
    | none => (String.ofList text, none)) = parts at h
  obtain ⟨word, attached⟩ := parts
  simp only at h
  split at h
  · split at h
    · simp at h
    · simp only [Option.some.injEq, Prod.mk.injEq] at h
      simp [h.2]
  · obtain ⟨option, _, h⟩ := Option.bind_eq_some_iff.1 h
    exact length_le_of_takeValue? h

/-- An option by its letter takes no argument that was not there. -/
theorem length_le_of_takeLetter? {options : List ValueOption} {letter : Char} {text : List Char}
    {rest more : List String} {item : Item} (h : takeLetter? options letter text rest = some (item, more)) :
    more.length ≤ rest.length := by
  unfold takeLetter? at h
  split at h
  · simp only [Option.some.injEq, Prod.mk.injEq] at h
    simp [h.2]
  · obtain ⟨option, _, h⟩ := Option.bind_eq_some_iff.1 h
    exact length_le_of_takeValue? h

/-- An item uses up at least one argument. -/
theorem length_lt_of_takeItem? {options : List ValueOption} {args more : List String} {item : Item}
    (h : takeItem? options args = some (item, more)) : more.length < args.length := by
  unfold takeItem? at h
  split at h
  · simp at h
  · simp only [List.length_cons, Nat.lt_succ_iff]
    split at h
    · simp only [Option.some.injEq, Prod.mk.injEq] at h
      simp [h.2]
    · exact length_le_of_takeWord? h
    · exact length_le_of_takeLetter? h
    · simp only [Option.some.injEq, Prod.mk.injEq] at h
      simp [h.2]

/-! ## All items -/

/-- The items of arguments. Nothing is read after the request for help, and all after two dashes is an operand. -/
def readItems? (options : List ValueOption) (args : List String) : Option (List Item) :=
  if args.isEmpty then some []
  else
    match _h : takeItem? options args with
    | none => none
    | some (.help, _) => some [.help]
    | some (.separator, rest) => some (rest.map .operand)
    | some (item, rest) => (readItems? options rest).map (item :: ·)
termination_by args.length
decreasing_by exact length_lt_of_takeItem? _h

end WikiGateway.Inspect
