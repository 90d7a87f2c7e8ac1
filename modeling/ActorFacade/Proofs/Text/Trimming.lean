import ActorFacade.Text.Blank
import Mathlib.Data.List.DropRight

/-! # Trimming

What is left of a text without the blanks at its ends is a part of it.  Trailing blanks of a whole
are those of its last part, unless that part has nothing else (`trimRight_append`).
-/

namespace ActorFacade.Text

variable {t : Text}

theorem trimRight_subset (t : Text) : t.trimRight ⊆ t := (List.rdropWhile_prefix isBlank t).subset

theorem trim_subset (t : Text) : t.trim ⊆ t :=
  List.Subset.trans (trimRight_subset _) (List.dropWhile_suffix isBlank).subset

theorem trimRight_eq_nil_iff : t.trimRight = [] ↔ t.isAllBlank = true := by
  rw [isAllBlank, List.all_eq_true]
  exact List.rdropWhile_eq_nil_iff

theorem trimRight_append (s t : Text) :
    trimRight (s ++ t) = if t.isAllBlank then trimRight s else s ++ trimRight t := by
  have hempty : (t.reverse.dropWhile isBlank).isEmpty = t.isAllBlank := by
    rw [Bool.eq_iff_iff, ← trimRight_eq_nil_iff, List.isEmpty_iff]
    exact List.reverse_eq_nil_iff.symm
  rw [trimRight, dropRightWhile, List.reverse_append, List.dropWhile_append, hempty]
  split
  case isTrue => rfl
  case isFalse =>
    rw [List.reverse_append, List.reverse_reverse]
    rfl

/-- A text that begins with a code point that is not blank has no leading blanks. -/
theorem trimLeft_cons {c : CodePoint} (hc : isBlank c = false) (t : Text) :
    trimLeft (c :: t) = c :: t := by
  rw [trimLeft, List.dropWhile_cons, hc, if_neg Bool.false_ne_true]

/-! ## Both ends -/

/-- A trimmed text does not begin with a blank. -/
theorem head?_trim {c : CodePoint} (h : t.trim.head? = some c) : isBlank c = false := by
  obtain ⟨rest, hrest⟩ : t.trim <+: t.trimLeft := List.rdropWhile_prefix isBlank t.trimLeft
  refine head?_trimLeft t c ?_
  rw [← hrest, List.head?_append, h, Option.some_or]

/-- A trimmed text does not end with a blank. -/
theorem getLast?_trim {c : CodePoint} (h : t.trim.getLast? = some c) : isBlank c = false :=
  getLast?_trimRight t.trimLeft c h

@[simp] theorem trim_trim (t : Text) : t.trim.trim = t.trim := by
  have hleft : t.trim.trimLeft = t.trim := by
    cases htrim : t.trim with
    | nil => rfl
    | cons c rest => exact trimLeft_cons (head?_trim (by rw [htrim, List.head?_cons])) rest
  have hright : t.trim.trimRight = t.trim := List.rdropWhile_idempotent isBlank t.trimLeft
  rw [trim, hleft, hright]

end ActorFacade.Text
