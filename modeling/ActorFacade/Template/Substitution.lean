import ActorFacade.Template

/-! # Substitution

Filling a template replaces the placeholders of one name after the other.  Substitution replaces all
of them at once, so that values are never searched.  `Segment`s are the parts of a well-formed
template.
-/

namespace ActorFacade.Template

/-! ## Substitution in a text -/

/-- The first name with a value whose placeholder a text begins with, and the value. -/
def leading? (values : List (Text × Text)) (t : Text) : Option (Text × Text) :=
  values.find? fun nv ↦ (placeholder nv.1).isPrefixOf t

/-- Substitution with `skip` code points of a placeholder still to be passed over. -/
def substituteFrom (values : List (Text × Text)) : Nat → Text → Text
  | _, [] => []
  | skip + 1, _ :: t => substituteFrom values skip t
  | 0, c :: t =>
    match leading? values (c :: t) with
    | some (name, value) => value ++ substituteFrom values ((placeholder name).length - 1) t
    | none => c :: substituteFrom values 0 t

/-- The text with all placeholders of names with values replaced at once. -/
def substitute (values : List (Text × Text)) (t : Text) : Text := substituteFrom values 0 t

/-! ## Segments -/

/-- A part of a template. -/
inductive Segment where
  | text (t : Text)
  | placeholder (name : Text)
deriving DecidableEq, Repr

/-- A text without braces. -/
def IsBraceFree (t : Text) : Prop := 0x7B ∉ t ∧ 0x7D ∉ t

namespace Segment

/-- A segment as it is written. -/
def source : Segment → Text
  | .text t => t
  | .placeholder name => Template.placeholder name

/-- A segment with its value in its place, if it has one. -/
def filled (values : List (Text × Text)) : Segment → Text
  | .text t => t
  | .placeholder name =>
    ((values.find? fun nv ↦ nv.1 == name).map (·.2)).getD (Template.placeholder name)

end Segment

/-- Whether a text can stand between placeholders: it never holds two opening braces, and none at
its end in front of a placeholder. -/
def IsSoundText (isBeforePlaceholder : Bool) (t : Text) : Prop :=
  Text.occursIn "\x7b\x7b" t = false ∧ (isBeforePlaceholder → t.getLast? ≠ some 0x7B)

/-- Segments that alternate between texts and placeholders and are sound. -/
def AreSound : List Segment → Prop
  | [] => True
  | [.text t] => IsSoundText false t
  | .text t :: .placeholder name :: rest => IsSoundText true t ∧ IsBraceFree name ∧ AreSound rest
  | _ => False

/-- The text of segments. -/
def sourceOf (segments : List Segment) : Text := segments.flatMap Segment.source

/-- The text of segments with their values in their places. -/
def filledOf (values : List (Text × Text)) (segments : List Segment) : Text :=
  segments.flatMap (Segment.filled values)

@[simp] theorem substitute_nil (values : List (Text × Text)) : substitute values [] = [] := rfl

end ActorFacade.Template
