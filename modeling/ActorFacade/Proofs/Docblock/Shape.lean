import ActorFacade.Proofs.Docblock
import ActorFacade.Proofs.Text.Trimming

/-! # The lines of a comment block

Every line of a comment block is a lone star, or has a text behind its star that is not blank, ends
with no blank and has no line break (`IsBlockLine`); the first and the last line have one, unless
there is nothing but a lone star (`ofText_cases`).  As no break is left within a line, the lines of
the documentation are lines of the method in which it stands, whatever the raw documentation has for
line ends (`lines_text_of_doc`).
-/

namespace ActorFacade

namespace Docblock

open Text (IsLine)

/-! ## Lines of a block -/

/-- A text without line breaks that ends with no blank. -/
structure IsContent (t : Text) : Prop where
  isLine : IsLine t
  not_blank_end : ∀ c, t.getLast? = some c → Text.isBlank c = false

/-- A line of a comment block without a text. -/
def loneStar : Text := "*"

/-- A line of a comment block: a lone star, or a star and a text that is not blank. -/
inductive IsBlockLine : Text → Prop where
  | star : IsBlockLine loneStar
  | starred {t : Text} (ht : IsContent t) (hblank : t.isAllBlank = false) : IsBlockLine ("* " ++ t)

theorem isBlockLine_starred {t : Text} (ht : IsContent t) : IsBlockLine (starred t) := by
  unfold starred
  split
  case isTrue => exact .star
  case isFalse hblank => exact .starred ht (Bool.eq_false_iff.2 hblank)

/-- Only blank lines become lone stars. -/
theorem starred_ne_loneStar {t : Text} (h : t.isAllBlank = false) : starred t ≠ loneStar := by
  rw [starred, if_neg (Bool.eq_false_iff.1 h)]
  exact fun he ↦ nomatch (List.cons.inj he).2

theorem IsBlockLine.isLine {line : Text} (h : IsBlockLine line) : IsLine line := by
  cases h with
  | star => decide
  | starred ht =>
    refine List.forall_mem_append.2 ⟨?_, ht.isLine⟩
    decide

theorem isBlockLine_conditionalNote : IsBlockLine conditionalNote := by
  have hnote : conditionalNote =
      "* " ++ Text.ofString "Conditional Assertion: Test won't be stopped on fail" := by
    decide +kernel
  rw [hnote]
  refine .starred ⟨?_, ?_⟩ ?_
  · decide +kernel
  · decide +kernel
  · decide +kernel

/-! ## Contents -/

/-- The content of a line is a part of it without trailing blanks. -/
theorem content_cases (comment : Bool) (line : Text) :
    content comment line <:+ line.trim ∨ content comment line = line.trimRight := by
  unfold content
  split
  case h_1 rest _ hline =>
    rw [hline]
    exact .inl ((List.suffix_cons _ _).trans (List.suffix_cons _ _))
  case h_2 rest _ _ hline =>
    rw [hline]
    exact .inl (List.suffix_cons _ _)
  case h_3 => exact .inr rfl

theorem content_subset (comment : Bool) (line : Text) : content comment line ⊆ line := by
  rcases content_cases comment line with hsuffix | htrim
  · exact List.Subset.trans hsuffix.subset (Text.trim_subset line)
  · rw [htrim]
    exact Text.trimRight_subset line

theorem isContent_content (comment : Bool) {line : Text} (h : IsLine line) :
    IsContent (content comment line) where
  isLine c hc := h c (content_subset comment line hc)
  not_blank_end c hlast := by
    rcases content_cases comment line with ⟨front, hfront⟩ | htrim
    · refine Text.getLast?_trimRight line.trimLeft c ?_
      rw [← Text.trim, ← hfront, List.getLast?_append, hlast]
      rfl
    · rw [htrim] at hlast
      exact Text.getLast?_trimRight line c hlast

/-! ## Ends -/

variable {lines : List Text}

theorem dropBlankEnds_subset (lines : List Text) : dropBlankEnds lines ⊆ lines :=
  List.Subset.trans (List.rdropWhile_prefix _ _).subset (List.dropWhile_suffix _).subset

theorem head?_dropBlankEnds {line : Text} (h : (dropBlankEnds lines).head? = some line) :
    line.isAllBlank = false := by
  obtain ⟨rest, hrest⟩ := List.rdropWhile_prefix (·.isAllBlank) (lines.dropWhile (·.isAllBlank))
  have hhead : (lines.dropWhile (·.isAllBlank)).head? = some line := by
    rw [← hrest, List.head?_append]
    exact Option.or_eq_some_iff.2 (.inl h)
  have hnot := List.head?_dropWhile_not (fun line : Text ↦ line.isAllBlank) lines
  rw [hhead] at hnot
  simpa using hnot

theorem getLast?_dropBlankEnds {line : Text} (h : (dropBlankEnds lines).getLast? = some line) :
    line.isAllBlank = false := by
  have hnot := List.head?_dropWhile_not (fun line : Text ↦ line.isAllBlank)
    (lines.dropWhile (·.isAllBlank)).reverse
  rw [dropBlankEnds, List.getLast?_reverse] at h
  rw [h] at hnot
  simpa using hnot

theorem isContent_of_mem_contents {raw line : Text} (h : line ∈ contents raw) : IsContent line := by
  obtain ⟨line, hline, rfl⟩ := List.mem_map.1 (dropBlankEnds_subset _ h)
  exact isContent_content _ (Text.isLine_of_mem_lines hline)

/-! ## Blocks -/

/-- Documentation becomes a lone star, or lines of a block of which the first and the last are no
lone stars. -/
theorem ofText_cases (raw : Text) :
    ofText raw = loneStar ∨ ∃ ls, ls ≠ [] ∧ ofText raw = Text.join separator ls ∧
      (∀ l ∈ ls, IsBlockLine l) ∧ ls.head? ≠ some loneStar ∧ ls.getLast? ≠ some loneStar := by
  unfold ofText
  split
  case h_1 => exact .inl rfl
  case h_2 hne =>
    refine .inr ⟨(contents raw).map starred, mt List.map_eq_nil_iff.1 hne, rfl, ?_, ?_, ?_⟩
    · intro l hl
      obtain ⟨line, hline, rfl⟩ := List.mem_map.1 hl
      exact isBlockLine_starred (isContent_of_mem_contents hline)
    · rw [List.head?_map, ne_eq, Option.map_eq_some_iff]
      rintro ⟨line, hline, hstar⟩
      exact starred_ne_loneStar (head?_dropBlankEnds hline) hstar
    · rw [List.getLast?_map, ne_eq, Option.map_eq_some_iff]
      rintro ⟨line, hline, hstar⟩
      exact starred_ne_loneStar (getLast?_dropBlankEnds hline) hstar

/-- Any documentation becomes lines of a block. -/
theorem exists_ofText_eq (raw : Text) :
    ∃ ls, ls ≠ [] ∧ ofText raw = Text.join separator ls ∧ ∀ l ∈ ls, IsBlockLine l := by
  rcases ofText_cases raw with hstar | ⟨ls, hne, hjoin, hls, -⟩
  · refine ⟨[loneStar], List.cons_ne_nil _ _, ?_, List.forall_mem_singleton.2 .star⟩
    rw [hstar, Text.join_singleton]
  · exact ⟨ls, hne, hjoin, hls⟩

/-- The note of a conditional variant is one more line. -/
theorem conditional_join {ls : List Text} (hne : ls ≠ []) :
    conditional (Text.join separator ls) = Text.join separator (ls ++ [conditionalNote]) :=
  (Text.join_concat hne _).symm

/-- The indentation of the lines of a block within a class. -/
def indent : Text := "     "

theorem separator_eq : separator = Text.newline ++ indent := by decide

theorem separator_append_join {ls : List Text} (hne : ls ≠ []) :
    separator ++ Text.join separator ls =
      (ls.map (indent ++ ·)).flatMap (Text.newline ++ ·) := by
  obtain ⟨l, ls, rfl⟩ := List.exists_cons_of_ne_nil hne
  have hline : ∀ l, separator ++ l = Text.newline ++ (indent ++ l) := by
    intro l
    rw [separator_eq, List.append_assoc]
  rw [Text.join_cons, ← List.append_assoc, List.flatMap_map, List.flatMap_cons, hline]
  simp only [hline]

end Docblock

/-! ## Methods -/

namespace ActorMethod

open Docblock (indent loneStar separator)

/-- What the comment block of a method begins with. -/
def notice : Text := "* [!] Method is generated. Documentation taken from corresponding module."

/-- The lines of a method in front of its documentation. -/
def heading : List Text := ["", "    /**", indent ++ notice, indent ++ loneStar]

/-- The lines of the documentation stand between those in front of it and the reference. -/
theorem exists_text_eq_of_doc {m : ActorMethod} {ls : List Text} (hne : ls ≠ [])
    (hdoc : m.doc = Text.join separator ls) : ∃ rest,
      m.text = Text.join Text.newline (heading ++ ls.map (indent ++ ·)) ++ Text.newline ++
        (indent ++ m.reference ++ rest) := by
  obtain ⟨rest, htext⟩ := exists_text_eq m
  have hempty : Text.ofString "" = [] := rfl
  have hopening : Text.ofString "\n    /**" = Text.newline ++ Text.ofString "    /**" := by decide
  refine ⟨separator ++ Docblock.endMark ++ "\n    public function " ++ rest, ?_⟩
  rw [htext, block, hdoc, heading, List.cons_append, Text.join_cons, hempty, hopening]
  simp only [Text.join_cons, List.flatMap_append, List.flatMap_cons, List.flatMap_nil,
    ← Docblock.separator_append_join hne]
  simp only [Docblock.separator_eq, notice, loneStar, List.append_assoc, List.nil_append]

theorem isLine_of_mem_heading : ∀ line ∈ heading, Text.IsLine line := by decide +kernel

/-- The lines of the documentation are lines of the method, behind the notice and in front of the
reference. -/
theorem lines_text_of_doc {m : ActorMethod} {ls : List Text} (hne : ls ≠ [])
    (hdoc : m.doc = Text.join separator ls) (hls : ∀ l ∈ ls, Docblock.IsBlockLine l) : ∃ rest,
      m.text.lines =
        heading ++ ls.map (indent ++ ·) ++ Text.lines (indent ++ m.reference ++ rest) := by
  obtain ⟨rest, htext⟩ := exists_text_eq_of_doc hne hdoc
  have hfront : heading ++ ls.map (indent ++ ·) ≠ [] := List.cons_ne_nil _ _
  refine ⟨rest, ?_⟩
  rw [htext, Text.lines_join_append hfront]
  refine List.forall_mem_append.2 ⟨isLine_of_mem_heading, ?_⟩
  intro line hline
  obtain ⟨l, hl, rfl⟩ := List.mem_map.1 hline
  have hindent : Text.IsLine indent := by decide
  exact List.forall_mem_append.2 ⟨hindent, (hls l hl).isLine⟩

/-- The documentation of every variant of an operation has the lines of a block. -/
theorem exists_doc_ofVariant {ρ : Type} (metadata : MethodMetadata ρ) (module params : Text)
    (v : Variant) : ∃ ls, ls ≠ [] ∧ (ofVariant metadata module params v).doc =
      Text.join separator ls ∧ ∀ l ∈ ls, Docblock.IsBlockLine l := by
  obtain ⟨ls, hne, hjoin, hls⟩ := Docblock.exists_ofText_eq metadata.doc
  by_cases hconditional : v.isConditional = true
  · refine ⟨ls ++ [Docblock.conditionalNote], ?_, ?_, ?_⟩
    · exact List.append_ne_nil_of_left_ne_nil hne _
    · rw [← Docblock.conditional_join hne, ← hjoin]
      exact if_pos hconditional
    · exact List.forall_mem_append.2
        ⟨hls, List.forall_mem_singleton.2 Docblock.isBlockLine_conditionalNote⟩
  · exact ⟨ls, hne, (if_neg hconditional).trans hjoin, hls⟩

/-- Whatever documentation has for line ends, it becomes a lone star, or lines of a block of which
the first and the last have a text; and in the text of a method the lines of its documentation are
lines that begin with a star. -/
theorem lines_of_ofText {ρ : Type} (raw : Text) :
    (Docblock.ofText raw = loneStar ∨ ∃ ls, ls ≠ [] ∧
      Docblock.ofText raw = Text.join separator ls ∧ (∀ l ∈ ls, Docblock.IsBlockLine l) ∧
      ls.head? ≠ some loneStar ∧ ls.getLast? ≠ some loneStar) ∧
    ∀ (metadata : MethodMetadata ρ) (module params : Text) (v : Variant), ∃ ls rest,
      (ofVariant metadata module params v).doc = Text.join separator ls ∧
      (∀ l ∈ ls, Docblock.IsBlockLine l) ∧
      (ofVariant metadata module params v).text.lines =
        heading ++ ls.map (indent ++ ·) ++
          Text.lines (indent ++ (ofVariant metadata module params v).reference ++ rest) := by
  refine ⟨Docblock.ofText_cases raw, fun metadata module params v ↦ ?_⟩
  obtain ⟨ls, hne, hdoc, hls⟩ := exists_doc_ofVariant metadata module params v
  obtain ⟨rest, hlines⟩ := lines_text_of_doc hne hdoc hls
  exact ⟨ls, rest, hdoc, hls, hlines⟩

end ActorMethod

end ActorFacade
