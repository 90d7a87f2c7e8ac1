import ActorFacade.Proofs.Actor.Text
import ActorFacade.Proofs.Text.Lines

/-! # The end of a comment block

Documentation that holds the end mark of comments may end the comment block of its method early.
Plain documentation keeps every mark.  From documentation that is a comment the marks are deleted
once, which can bring the halves of another one together; of those that are left, one that begins
its line loses its star with the star of the line (`occursIn_endMark_ofText_iff`).
-/

namespace ActorFacade

namespace Docblock

open Text (trimmedLines occursIn)

/-- What ends a comment. -/
def endMark : Text := "*/"

theorem endMark_ne_nil : endMark ≠ [] := by decide

theorem isBlank_of_mem_endMark : ∀ c ∈ endMark, Text.isBlank c = false := by decide

theorem notMem_endMark_of_mem_separator : ∀ c ∈ separator, c ∉ endMark := by decide

/-! ## Blocks and their lines -/

theorem endMark_infix_starred_iff {line : Text} :
    endMark <:+: starred line ↔ endMark <:+: line := by
  unfold starred
  split
  case isTrue hblank =>
    have hnot := Text.not_infix_of_isAllBlank endMark_ne_nil isBlank_of_mem_endMark hblank
    exact iff_of_false (by decide) hnot
  case isFalse =>
    -- A mark does not begin with the star of the line, which a space follows.
    show endMark <:+: [0x2A] ++ 0x20 :: line ↔ _
    rw [Text.infix_append_cons_iff (by decide)]
    exact or_iff_right (by decide)

theorem infix_dropWhile_isAllBlank (lines : List Text) :
    (∃ line ∈ lines.dropWhile (·.isAllBlank), endMark <:+: line) ↔
      ∃ line ∈ lines, endMark <:+: line := by
  induction lines with
  | nil => rfl
  | cons line lines ih =>
    rw [List.dropWhile_cons]
    split
    case isTrue hblank =>
      have hnot := Text.not_infix_of_isAllBlank endMark_ne_nil isBlank_of_mem_endMark hblank
      rw [ih, List.exists_mem_cons_iff, or_iff_right hnot]
    case isFalse => rfl

theorem exists_mem_dropBlankEnds_iff (lines : List Text) :
    (∃ line ∈ dropBlankEnds lines, endMark <:+: line) ↔ ∃ line ∈ lines, endMark <:+: line := by
  have hreverse : ∀ lines : List Text, (∃ line ∈ lines.reverse, endMark <:+: line) ↔
      ∃ line ∈ lines, endMark <:+: line := by simp
  rw [dropBlankEnds, hreverse, infix_dropWhile_isAllBlank, hreverse, infix_dropWhile_isAllBlank]

theorem endMark_infix_ofText_iff {raw : Text} :
    endMark <:+: ofText raw ↔ ∃ line ∈ contents raw, endMark <:+: line := by
  unfold ofText
  split
  case h_1 hcontents =>
    rw [hcontents]
    simpa using show ¬endMark <:+: Text.ofString "*" by decide
  case h_2 =>
    rw [Text.infix_join_iff endMark_ne_nil notMem_endMark_of_mem_separator (by decide)]
    simp [endMark_infix_starred_iff]

/-! ## Lines of documentation -/

/-- The part of a trimmed line that a mark is kept in: a mark at the beginning of a line of a
comment loses its star. -/
def kept (comment : Bool) (line : Text) : Text := if comment then line.drop 1 else line

theorem endMark_infix_cons_iff {c : CodePoint} (hc : c ≠ 0x2A) {t : Text} :
    endMark <:+: c :: t ↔ endMark <:+: t := by
  rw [List.infix_cons_iff]
  refine or_iff_right fun hprefix ↦ hc ?_
  exact (List.cons_prefix_cons.1 hprefix).1.symm

theorem endMark_infix_content_iff {comment : Bool} {line : Text} :
    endMark <:+: content comment line ↔ endMark <:+: kept comment line.trim := by
  have htrim : endMark <:+: line.trimRight ↔ endMark <:+: line.trim :=
    (Text.infix_dropRightWhile_iff endMark_ne_nil isBlank_of_mem_endMark).trans
      (Text.infix_trim_iff endMark_ne_nil isBlank_of_mem_endMark).symm
  cases comment with
  | false => exact htrim
  | true =>
    unfold content kept
    split
    case h_1 rest _ hline =>
      rw [hline]
      exact (endMark_infix_cons_iff (by decide)).symm
    case h_2 rest _ _ hline =>
      rw [hline]
      rfl
    case h_3 hstar =>
      rw [htrim]
      cases hline : line.trim with
      | nil => rfl
      | cons c rest =>
        refine endMark_infix_cons_iff ?_
        rintro rfl
        exact hstar rest rfl hline

/-- Documentation whose block holds an end mark. -/
def KeepsEndMark (raw : Text) : Prop :=
  if isComment raw then
    ∃ line ∈ (dropDelimiters raw).lines, occursIn endMark (line.trim.drop 1) = true
  else occursIn endMark raw = true

instance (raw : Text) : Decidable (KeepsEndMark raw) := by
  unfold KeepsEndMark
  infer_instance

/-- The block of documentation holds an end mark if and only if the documentation keeps one. -/
theorem occursIn_endMark_ofText_iff {raw : Text} :
    occursIn endMark (ofText raw) = true ↔ KeepsEndMark raw := by
  have hcontents : ∀ body : Text, (∃ line ∈ dropBlankEnds (body.dedent.lines.map
      (content (isComment raw))), endMark <:+: line) ↔
      ∃ line ∈ trimmedLines body, endMark <:+: kept (isComment raw) line := by
    intro body
    have hempty : ¬endMark <:+: kept (isComment raw) [] := by
      cases isComment raw <;> exact endMark_ne_nil ∘ List.infix_nil.1
    rw [exists_mem_dropBlankEnds_iff, ← Text.trimmedLines_dedent,
      Text.exists_mem_trimmedLines_iff hempty]
    simp [endMark_infix_content_iff]
  rw [Text.occursIn_iff, endMark_infix_ofText_iff, contents, hcontents, KeepsEndMark]
  cases hcomment : isComment raw with
  | true =>
    simp only [if_true, Text.occursIn_iff]
    exact Text.exists_mem_trimmedLines_iff (P := fun line ↦ endMark <:+: line.drop 1) (by decide)
  | false =>
    simp only [Bool.false_eq_true, if_false, Text.occursIn_iff]
    exact Text.infix_trimmedLines_iff endMark_ne_nil isBlank_of_mem_endMark

/-- A comment whose deletions make a mark, and a plain mark. -/
theorem occursIn_endMark_ofText :
    isComment "/** a **// b */" = true ∧
      occursIn endMark (ofText "/** a **// b */") = true ∧
      isComment "a */ b" = false ∧ occursIn endMark (ofText "a */ b") = true := by
  decide +kernel

theorem endMark_infix_conditional_iff {block : Text} :
    endMark <:+: conditional block ↔ endMark <:+: block := by
  rw [conditional, List.append_assoc, Text.infix_append_append_iff endMark_ne_nil
    notMem_endMark_of_mem_separator (by decide)]
  exact or_iff_left (by decide)

end Docblock

/-! ## Methods -/

namespace ActorMethod

open Docblock (endMark)

variable (m : ActorMethod)

/-- The name of the type as it stands in the text of a method. -/
def shownType : Text :=
  Template.fill ⟨m.declaringType, [("method", m.operation), ("action", m.action),
    ("step", m.role.name), ("params", m.params), ("doc", m.doc)]⟩

/-- The operation as it stands in the text of a method. -/
def shownOperation : Text :=
  Template.fill ⟨m.operation,
    [("action", m.action), ("step", m.role.name), ("params", m.params), ("doc", m.doc)]⟩

/-- The reference to the operation. -/
def reference : Text := "* @see \\" ++ m.shownType ++ "::" ++ m.shownOperation ++ "()"

/-- The comment block of a method without its marks. -/
def block : Text :=
  Docblock.separator ++ Text.join Docblock.separator
    ["* [!] Method is generated. Documentation taken from corresponding module.", "*", m.doc,
      m.reference] ++ Docblock.separator

/-- The comment block stands at the beginning of the text of a method, up to the end mark of the
template. -/
theorem exists_text_eq : ∃ rest,
    m.text = "\n    /**" ++ m.block ++ endMark ++ "\n    public function " ++ rest := by
  have hplaceable : Template.IsPlaceable (m.placements.map (·.1)) ActorText.methodSegments :=
    ActorText.isPlaceable_method
  rw [text_eq_substitute, ← ActorText.sourceOf_methodSegments,
    Template.substitute_sourceOf hplaceable.braceFree_settled hplaceable.sound]
  let f := Template.Segment.filled (Template.settled m.placements)
  have htext : ∀ t, f (.text t) = t := fun _ ↦ rfl
  have hdoc : f (.placeholder "doc") = m.doc := rfl
  have htype : f (.placeholder "module") = m.shownType := rfl
  have hoperation : f (.placeholder "method") = m.shownOperation := rfl
  refine ⟨(ActorText.methodSegments.drop 7).flatMap f, ?_⟩
  show ActorText.methodSegments.flatMap f = _
  rw [block, reference, ← hdoc, ← htype, ← hoperation]
  simp only [ActorText.methodSegments, List.drop, List.flatMap_cons, List.flatMap_nil,
    htext, List.append_assoc, List.append_nil, Text.join_cons]
  rfl

/-- A mark in the comment block is in the documentation or in the reference. -/
theorem endMark_infix_block_iff :
    endMark <:+: m.block ↔ endMark <:+: m.doc ∨ endMark <:+: m.reference := by
  have hsep := Docblock.notMem_endMark_of_mem_separator
  have hne : Docblock.separator ≠ [] := by decide
  have hlines : endMark <:+: m.block ↔ ∃ line ∈ [Text.ofString
      "* [!] Method is generated. Documentation taken from corresponding module.", "*", m.doc,
      m.reference], endMark <:+: line := by
    rw [block, List.append_assoc, Text.infix_append_iff_of_notMem Docblock.endMark_ne_nil hsep,
      ← List.append_nil Docblock.separator,
      Text.infix_append_append_iff Docblock.endMark_ne_nil hsep hne,
      List.append_nil, Text.infix_join_iff Docblock.endMark_ne_nil hsep hne]
    exact or_iff_left (by decide)
  simp only [hlines, List.exists_mem_cons_iff, List.not_mem_nil, false_and, exists_false, or_false]
  rw [or_iff_right (by decide +kernel), or_iff_right (by decide)]

/-- The comment block of a method stands at the beginning of its text, up to the end mark of the
template.  This is the first end mark unless the reference to the operation or the documentation
itself holds one. -/
theorem occursIn_endMark_block_iff {ρ : Type} (metadata : MethodMetadata ρ) (module params : Text)
    (v : Variant) :
    (∃ rest, (ofVariant metadata module params v).text =
      "\n    /**" ++ (ofVariant metadata module params v).block ++ endMark ++
        "\n    public function " ++ rest) ∧
    (Text.occursIn endMark (ofVariant metadata module params v).block = true ↔
      Docblock.KeepsEndMark metadata.doc ∨
        Text.occursIn endMark (ofVariant metadata module params v).reference = true) ∧
    (Text.occursIn endMark (Docblock.ofText metadata.doc) = true ↔
      Docblock.KeepsEndMark metadata.doc) := by
  have hdoc : endMark <:+: (ofVariant metadata module params v).doc ↔
      endMark <:+: Docblock.ofText metadata.doc := by
    show endMark <:+: (if v.isConditional then _ else _) ↔ _
    split
    case isTrue => exact Docblock.endMark_infix_conditional_iff
    case isFalse => rfl
  refine ⟨exists_text_eq _, ?_, Docblock.occursIn_endMark_ofText_iff⟩
  rw [← Docblock.occursIn_endMark_ofText_iff, Text.occursIn_iff, Text.occursIn_iff,
    Text.occursIn_iff, endMark_infix_block_iff, hdoc]

end ActorMethod

end ActorFacade
