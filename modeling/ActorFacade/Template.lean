import ActorFacade.Text.Basic

/-! # Templates

A template is a text with placeholders, names between double braces, and values for some of them.
`fill` replaces the placeholders of one name after the other, in the order in which the names were
placed, so a value is searched for the placeholders of later names.
-/

namespace ActorFacade

/-- A text with values for some of its placeholders. -/
structure Template where
  /-- The text. -/
  text : Text
  /-- Names and their values, in the order of their first placement. -/
  values : List (Text × Text) := []
deriving DecidableEq, Repr

namespace Template

/-- The placeholder of a name. -/
def placeholder (name : Text) : Text := "\x7b\x7b" ++ name ++ "\x7d\x7d"

/-- Sets the value of a name, which keeps its place if it has one. -/
def setValue (name value : Text) : List (Text × Text) → List (Text × Text)
  | [] => [(name, value)]
  | (n, v) :: rest => if n = name then (n, value) :: rest else (n, v) :: setValue name value rest

/-- A template with a value for one more name. -/
def place (t : Template) (name value : Text) : Template :=
  { t with values := setValue name value t.values }

/-- The text with its placeholders replaced; those without a value stay. -/
def fill (t : Template) : Text :=
  t.values.foldl (fun text nv ↦ text.replaceAll (placeholder nv.1) nv.2) t.text

/-- A template filled with the values of a list, in this order. -/
def fillWith (text : Text) (values : List (Text × Text)) : Text :=
  (values.foldl (fun t nv ↦ t.place nv.1 nv.2) (⟨text, []⟩ : Template)).fill

theorem keys_setValue (name value : Text) (values : List (Text × Text)) :
    (setValue name value values).map (·.1) =
      if name ∈ values.map (·.1) then values.map (·.1) else values.map (·.1) ++ [name] := by
  induction values with
  | nil => simp [setValue]
  | cons nv rest ih =>
    obtain ⟨n, v⟩ := nv
    by_cases h : n = name
    · simp [setValue, h]
    · have h' : name ≠ n := fun e ↦ h e.symm
      simp only [setValue, h, if_false, List.map_cons, ih, List.mem_cons, h', false_or]
      split <;> simp

end Template

end ActorFacade
