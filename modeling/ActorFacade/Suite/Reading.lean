import ActorFacade.Suite.Basic
import ActorFacade.Text.Blank
import ActorFacade.Value.Circular
import ActorFacade.Value.Display

/-! # Reading suites

A suite is read from a mapping, which may lie within itself.  Modules are listed as texts or as
mappings with one entry, whose key is the name and whose value holds the options.  Names lose the
blanks around them; of modules with the same name the first counts.
-/

namespace ActorFacade.Suite

open Integer (LimitError)

open Inspectable (value atom? items? entries? entriesInFull)

variable {α : Type} [Inspectable α]

/-- Why a mapping describes no suite. -/
inductive ReadError where
  | notMapping
  | noClassName
  | noModuleList
  | modulesNotList
  /-- The options of the module with this name are no mapping. -/
  | optionsNotMapping (name : Text)
  /-- An entry, as shown, is neither a name nor a name with options. -/
  | unsupportedEntry (entry : Text)
  | emptyName
  /-- An integer has too many digits to be written. -/
  | limit (e : LimitError)
deriving DecidableEq, Repr

/-- The wording of an error. -/
def ReadError.message : ReadError → Text
  | .notMapping => "Actor settings must be a mapping"
  | .noClassName => "Actor settings require a class name ('actor' or 'class_name')"
  | .noModuleList => "Actor settings require a module list ('modules.enabled')"
  | .modulesNotList => "'modules' must be a list of module names"
  | .optionsNotMapping name => "Configuration for module '" ++ name ++ "' must be a mapping"
  | .unsupportedEntry entry => "Unsupported module entry: " ++ entry
  | .emptyName => "Module names must not be empty"
  | .limit e => e.message

/-- A text, or the error of an integer in it. -/
def readable (t : Except LimitError Text) : Except ReadError Text := t.mapError .limit

/-! ## Modules -/

/-- A module with its options. -/
abbrev Module := Text × Entries

/-- The options behind the name of a module: nothing counts as no options. -/
def readOptions (name : Value) (options : α) : Except ReadError Entries :=
  match atom? options, entries? options with
  | some .null, _ => .ok []
  | _, some es => .ok (entriesInFull es)
  | _, none => do throw (.optionsNotMapping (← readable name.display))

/-- A name without the blanks around it, which must not be all. -/
def readName (name : Text) : Except ReadError Text :=
  if name.trim.isEmpty then .error .emptyName else .ok name.trim

/-- Reads one entry of a list of modules. -/
def readEntry (entry : α) : Except ReadError Module :=
  match Inspectable.text? entry, entries? entry with
  | some name, _ => (readName name).map (·, [])
  | none, some [(name, options)] => do
    let options ← readOptions name options
    return (← readName (← readable name.display), options)
  | _, _ => do throw (.unsupportedEntry (← readable (value entry).shown))

/-- Adds a module unless there is one of its name. -/
def addModule (modules : List Module) (m : Module) : List Module :=
  if m.1 ∈ modules.map (·.1) then modules else modules ++ [m]

/-- Reads a list of modules. -/
def readModules (entries : List α) : Except ReadError (List Module) := do
  return (← entries.mapM readEntry).foldl addModule []

/-- The modules that have options. -/
def withOptions (modules : List Module) : List Module := modules.filter fun m ↦ !m.2.isEmpty

/-! ## The mapping as a whole -/

/-- The text of a value that stands for a name: a text or a number. -/
def nameText? (v : Option α) : Except ReadError (Option Text) :=
  match v.bind atom? with
  | some a =>
    match a with
    | .text _ | .textMember _ | .int _ | .intMember _ | .double _ | .doubleMember _ =>
      (readable (Value.display (.atom a))).map some
    | _ => .ok none
  | none => .ok none

/-- The name of the class: `class_name`, or `actor` where that gives none. -/
def readClassName (es : List (Value × α)) : Except ReadError Text := do
  match ← nameText? (Inspectable.get? es "class_name") with
  | some (c :: name) => return c :: name
  | _ =>
    match ← nameText? (Inspectable.get? es "actor") with
    | some (c :: name) => return c :: name
    | _ => throw .noClassName

/-- The list of modules: `modules`, or `enabled` within it. -/
def readModuleList (es : List (Value × α)) : Except ReadError (List α) :=
  let given := Inspectable.get? es "modules"
  let given := match given.bind entries? with
    | some inner => Inspectable.get? inner "enabled"
    | none => given
  match given with
  | none => .error .noModuleList
  | some v => match atom? v, items? v with
    | some .null, _ => .error .noModuleList
    | _, some xs => .ok xs
    | _, none => .error .modulesNotList

/-- Reads a suite. -/
def ofValue (v : α) (path : Option Text := none) : Except ReadError Suite := do
  match entries? v with
  | none => throw .notMapping
  | some es =>
    let className ← readClassName es
    let modules ← readModules (← readModuleList es)
    let space ← nameText? (Inspectable.get? es "namespace")
    return {
      className := .text className
      modules := .list (modules.map fun m ↦ .text m.1)
      space := .text (space.getD [])
      options := .dict ((withOptions modules).map fun m ↦ (.text m.1, .dict m.2))
      path }

/-- A class name that was read is not empty. -/
theorem readClassName_ne_nil {es : List (Value × α)} {name : Text}
    (h : readClassName es = .ok name) :
    name ≠ [] := by
  unfold readClassName at h
  simp only [bind, Except.bind] at h
  split at h
  · cases h
  · split at h
    · simp only [pure, Except.pure, Except.ok.injEq] at h
      simp [← h]
    · split at h
      · cases h
      · split at h
        · simp only [pure, Except.pure, Except.ok.injEq] at h
          simp [← h]
        · cases h

end ActorFacade.Suite
