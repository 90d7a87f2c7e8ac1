import ActorFacade.Proofs.Docblock.Shape

/-! # Documentation as a comment

The same lines can be given as plain documentation or as a comment.  A comment loses its delimiters
and its stars, plain documentation loses its margin, and both lose trailing blanks and the blank
lines at either end.  What is left is the same (`ofText_asComment`), unless the lines hold a
delimiter or have a margin of their own: a margin behind the stars of a comment is kept.
-/

namespace ActorFacade.Docblock

open Text (IsLine newline isTabOrSpace trimRight)

variable {ls : List Text} {l : Text}

/-! ## Blank ends -/

theorem dropBlankEnds_cons (hl : l.isAllBlank = true) (ls : List Text) :
    dropBlankEnds (l :: ls) = dropBlankEnds ls := by
  rw [dropBlankEnds, List.dropWhile_cons, if_pos hl]
  rfl

theorem dropBlankEnds_concat (hl : l.isAllBlank = true) (ls : List Text) :
    dropBlankEnds (ls ++ [l]) = dropBlankEnds ls := by
  unfold dropBlankEnds
  rw [List.dropWhile_append]
  split
  case isTrue hall =>
    rw [List.isEmpty_iff.1 hall, List.dropWhile_cons, if_pos hl]
    rfl
  case isFalse => rw [List.reverse_concat, List.dropWhile_cons, if_pos hl]

theorem dropBlankEnds_append {blanks : List Text} (h : ∀ l ∈ blanks, l.isAllBlank = true)
    (ls : List Text) : dropBlankEnds (ls ++ blanks) = dropBlankEnds ls := by
  induction blanks generalizing ls with
  | nil => rw [List.append_nil]
  | cons l blanks ih =>
    obtain ⟨hl, hblanks⟩ := List.forall_mem_cons.1 h
    rw [List.append_cons, ih hblanks, dropBlankEnds_concat hl]

/-! ## Plain documentation -/

/-- A line of a text without its margin; tabs and spaces only are no content. -/
def unindented (depth : Nat) (line : Text) : Text :=
  if line.all isTabOrSpace then [] else line.drop depth

theorem unindented_subset (depth : Nat) (line : Text) : unindented depth line ⊆ line := by
  unfold unindented
  split
  case isTrue => exact List.nil_subset _
  case isFalse => exact List.drop_subset _ _

theorem isAllBlank_of_all_isTabOrSpace (h : l.all isTabOrSpace = true) :
    l.isAllBlank = true := by
  refine List.all_eq_true.2 fun c hc ↦ ?_
  have hspace := List.all_eq_true.1 h c hc
  grind [isTabOrSpace, Text.isBlank]

/-- The lines of a text lose their margin, and what is tabs and spaces only. -/
theorem dedent_join (hls : ∀ l ∈ ls, IsLine l) :
    (Text.join newline ls).dedent =
      Text.join newline (ls.map (unindented (Text.margin ls).length)) := by
  cases ls with
  | nil => rfl
  | cons l ls =>
    rw [Text.dedent, newline, Text.pieces_join (List.cons_ne_nil _ _)]
    · rfl
    intro line hline hmem
    exact Bool.false_ne_true ((hls line hline _ hmem).symm.trans (by decide))

theorem contents_of_not_isComment {raw : Text} (h : isComment raw = false) :
    contents raw = dropBlankEnds (raw.dedent.lines.map trimRight) := by
  rw [contents, h]
  rfl

/-- A line that is blank, or is not indented, shows the same without a margin. -/
theorem trimRight_unindented {depth : Nat} (h : l.isAllBlank = true ∨ depth = 0) :
    trimRight (unindented depth l) = trimRight l := by
  by_cases hblank : l.isAllBlank = true
  · have hkept : (unindented depth l).isAllBlank = true :=
      List.all_eq_true.2 fun c hc ↦ List.all_eq_true.1 hblank c (unindented_subset depth l hc)
    rw [Text.trimRight_eq_nil_iff.2 hblank, Text.trimRight_eq_nil_iff.2 hkept]
  · rw [unindented, if_neg (mt isAllBlank_of_all_isTabOrSpace hblank), h.resolve_left hblank,
      List.drop_zero]

/-- Joined lines, as plain documentation, have the contents that the lines have. -/
theorem contents_join (hplain : isComment (Text.join newline ls) = false)
    (hls : ∀ l ∈ ls, IsLine l)
    (hmargin : ∀ l ∈ ls, l.isAllBlank = true ∨ (Text.margin ls).length = 0) :
    contents (Text.join newline ls) = dropBlankEnds (ls.map trimRight) := by
  let kept := ls.map (unindented (Text.margin ls).length)
  have hkept : ∀ l ∈ kept, IsLine l := by
    intro l hl
    obtain ⟨line, hline, rfl⟩ := List.mem_map.1 hl
    exact fun c hc ↦ hls line hline c (unindented_subset _ line hc)
  have htrim : kept.map trimRight = ls.map trimRight := by
    rw [List.map_map]
    exact List.map_congr_left fun l hl ↦ trimRight_unindented (hmargin l hl)
  -- An empty line at the end of the text is none of its lines, and would be dropped.
  obtain ⟨last, hlast, hempty⟩ := Text.exists_lines_join hkept
  have hblank : ∀ l ∈ last.map trimRight, l.isAllBlank = true := by
    intro l hl
    obtain ⟨line, hline, rfl⟩ := List.mem_map.1 hl
    rw [hempty line hline]
    rfl
  rw [contents_of_not_isComment hplain, dedent_join hls]
  calc dropBlankEnds ((Text.join newline kept).lines.map trimRight)
    _ = dropBlankEnds (((Text.join newline kept).lines ++ last).map trimRight) := by
      rw [List.map_append, dropBlankEnds_append hblank]
    _ = dropBlankEnds (ls.map trimRight) := by rw [← hlast, htrim]

/-! ## Comments -/

/-- What stands in front of the lines of a comment. -/
def lead : Text := "     * "

/-- Lines as a comment. -/
def asComment (ls : List Text) : Text :=
  "/**\n" ++ ls.flatMap (fun l ↦ lead ++ l ++ newline) ++ "     */"

/-- What begins a comment. -/
def startMark : Text := "/**"

/-- A comment is its first mark and joined lines. -/
theorem asComment_eq (ls : List Text) :
    asComment ls = startMark ++
      (Text.join newline ([] :: ls.map (lead ++ ·)) ++ (newline ++ (indent ++ endMark))) := by
  have hstart : Text.ofString "/**\n" = startMark ++ newline := by decide
  have hend : Text.ofString "     */" = indent ++ endMark := by decide
  have hlines := Text.append_flatMap newline (ls.map (lead ++ ·))
  rw [List.flatMap_map] at hlines
  rw [asComment, hstart, hend, Text.join_cons, List.nil_append, List.append_assoc,
    List.append_assoc, ← List.append_assoc newline, hlines, List.append_assoc]

theorem isComment_asComment (ls : List Text) : isComment (asComment ls) = true := by
  have hstart : ∀ t, Text.trimLeft (startMark ++ t) = startMark ++ t :=
    fun t ↦ Text.trimLeft_cons (by decide) _
  rw [isComment, asComment_eq, hstart]
  exact List.isPrefixOf_iff_prefix.2 (List.prefix_append _ _)

/-- A mark without blanks does not occur in the lines of a comment. -/
theorem not_infix_of_lines {mark : Text} (hne : mark ≠ []) (hspace : 0x20 ∉ mark)
    (hnewline : 0x0A ∉ mark) (hlead : ¬mark <:+: Text.ofString "     *")
    (hls : ∀ l ∈ ls, Text.occursIn mark l = false) :
    ¬mark <:+: Text.join newline ([] :: ls.map (lead ++ ·)) := by
  have hsep : ∀ c ∈ newline, c ∉ mark := List.forall_mem_singleton.2 hnewline
  rw [Text.infix_join_iff hne hsep (List.cons_ne_nil _ _)]
  rintro ⟨t, ht, hmark⟩
  rcases List.mem_cons.1 ht with rfl | ht
  · exact hne (List.infix_nil.1 hmark)
  · obtain ⟨l, hl, rfl⟩ := List.mem_map.1 ht
    have hsplit : lead ++ l = Text.ofString "     *" ++ 0x20 :: l := rfl
    rw [hsplit, Text.infix_append_cons_iff hspace] at hmark
    exact hmark.elim hlead (Text.occursIn_eq_false_iff.1 (hls l hl))

/-- The lines of a comment without its delimiters. -/
theorem dropDelimiters_asComment
    (hls : ∀ l ∈ ls, Text.occursIn startMark l = false ∧ Text.occursIn endMark l = false) :
    dropDelimiters (asComment ls) =
      Text.join newline ([] :: ls.map (lead ++ ·) ++ [indent]) := by
  let body := Text.join newline ([] :: ls.map (lead ++ ·))
  have hstart : ¬startMark <:+: body ++ (newline ++ (indent ++ endMark)) := by
    rw [Text.infix_append_append_iff (by decide) (by decide) (by decide), not_or]
    refine ⟨not_infix_of_lines (by decide) (by decide) (by decide) ?_ fun l hl ↦ (hls l hl).1, ?_⟩
    · exact Text.occursIn_eq_false_iff.1 (by decide)
    · exact Text.occursIn_eq_false_iff.1 (by decide)
  have hend : ¬endMark <:+: body := by
    refine not_infix_of_lines (by decide) (by decide) (by decide) ?_ fun l hl ↦ (hls l hl).2
    exact Text.occursIn_eq_false_iff.1 (by decide)
  have hopened : (asComment ls).replaceAll startMark [] =
      body ++ (newline ++ (indent ++ endMark)) := by
    rw [asComment_eq, Text.replaceAll_of_prefix (by decide), List.nil_append,
      Text.replaceAll_eq_self hstart]
  have hclosed : Text.replaceAll (newline ++ (indent ++ endMark)) endMark [] =
      newline ++ indent := by
    decide
  have hhead : ∀ c, (newline ++ (indent ++ endMark)).head? = some c → c ∉ endMark := by decide
  calc dropDelimiters (asComment ls)
    _ = (body ++ (newline ++ (indent ++ endMark))).replaceAll endMark [] :=
      congrArg (·.replaceAll endMark []) hopened
    _ = body ++ (newline ++ indent) := by
      rw [Text.replaceAll_append (by decide) hhead, Text.replaceAll_eq_self hend, hclosed]
    _ = Text.join newline ([] :: ls.map (lead ++ ·) ++ [indent]) := by
      rw [Text.join_concat (List.cons_ne_nil _ _), List.append_assoc]

/-- Lines behind a star and a space lose them, and their trailing blanks. -/
theorem content_starred (l : Text) : content true ("* " ++ l) = trimRight l := by
  have htrim : Text.trim ("* " ++ l) = trimRight ("* " ++ l) :=
    congrArg trimRight (Text.trimLeft_cons (by decide) _)
  unfold content
  rw [htrim, Text.trimRight_append]
  by_cases hblank : l.isAllBlank = true
  · rw [if_pos hblank, Text.trimRight_eq_nil_iff.2 hblank]
    rfl
  · rw [if_neg hblank]
    rfl

/-- The lines of a comment share the indentation in front of their stars. -/
theorem margin_lead (hne : ls ≠ []) :
    Text.margin ([] :: ls.map (lead ++ ·) ++ [indent]) = indent := by
  obtain ⟨l, ls, rfl⟩ := List.exists_cons_of_ne_nil hne
  refine Text.margin_eq_of_forall ?_ ⟨lead ++ l, by simp, rfl⟩
  intro line hline hother
  rcases List.mem_append.1 hline with hline | hline
  · rcases List.mem_cons.1 hline with rfl | hline
    · cases hother
    · obtain ⟨l, -, rfl⟩ := List.mem_map.1 hline
      rfl
  · rw [List.mem_singleton.1 hline] at hother
    exact absurd hother (by decide)

/-- The lines of a comment lose their indentation and keep their stars. -/
theorem map_unindented_lead (ls : List Text) :
    ([] :: ls.map (lead ++ ·) ++ [indent]).map
        (unindented (Text.margin ([] :: ls.map (lead ++ ·) ++ [indent])).length) =
      [] :: ls.map (Text.ofString "* " ++ ·) ++ [[]] := by
  by_cases hne : ls = []
  · rw [hne]
    rfl
  · rw [margin_lead hne, List.map_append, List.map_cons, List.map_map]
    rfl

theorem contents_asComment (hls : ∀ l ∈ ls, IsLine l)
    (hmarks : ∀ l ∈ ls, Text.occursIn startMark l = false ∧ Text.occursIn endMark l = false) :
    contents (asComment ls) = dropBlankEnds (ls.map trimRight) := by
  have hnil : IsLine [] := List.forall_mem_nil _
  have hlines : ∀ front : Text, IsLine front → ∀ line ∈ [] :: ls.map (front ++ ·), IsLine line := by
    intro front hfront
    refine List.forall_mem_cons.2 ⟨hnil, fun line hline ↦ ?_⟩
    obtain ⟨l, hl, rfl⟩ := List.mem_map.1 hline
    exact List.forall_mem_append.2 ⟨hfront, hls l hl⟩
  have hindented : ∀ line ∈ [] :: ls.map (lead ++ ·) ++ [indent], IsLine line :=
    List.forall_mem_append.2 ⟨hlines lead (by decide), by decide⟩
  -- The mark at the end has left an empty line, which does not count.
  have hdedent : (dropDelimiters (asComment ls)).dedent.lines =
      [] :: ls.map (Text.ofString "* " ++ ·) := by
    rw [dropDelimiters_asComment hmarks, dedent_join hindented, map_unindented_lead,
      Text.join_concat (List.cons_ne_nil _ _),
      Text.lines_join_append (List.cons_ne_nil _ _) (hlines "* " (by decide))]
    exact List.append_nil _
  have hcontents : ([] :: ls.map (Text.ofString "* " ++ ·)).map (content true) =
      [] :: ls.map trimRight := by
    rw [List.map_cons, List.map_map]
    exact congrArg ([] :: ·) (List.map_congr_left fun l _ ↦ content_starred l)
  rw [contents, isComment_asComment]
  simp only [if_true]
  rw [hdedent, hcontents, dropBlankEnds_cons rfl]

/-- Lines without delimiters are no comment. -/
theorem isComment_join (hls : ∀ l ∈ ls, Text.occursIn startMark l = false) :
    isComment (Text.join newline ls) = false := by
  rw [Bool.eq_false_iff]
  intro hcomment
  have hprefix : startMark <+: Text.trimLeft (Text.join newline ls) :=
    List.isPrefixOf_iff_prefix.1 hcomment
  have hinfix : startMark <:+: Text.join newline ls :=
    hprefix.isInfix.trans (List.dropWhile_suffix _).isInfix
  rw [Text.infix_join_iff (by decide) (by decide) (by decide)] at hinfix
  obtain ⟨l, hl, hmark⟩ := hinfix
  exact Text.occursIn_eq_false_iff.1 (hls l hl) hmark

/-- A line that is not indented leaves the others their indentation. -/
theorem margin_eq_nil (hl : l ∈ ls) (hblank : l.isAllBlank = false)
    (hhead : ∀ c, l.head? = some c → isTabOrSpace c = false) : Text.margin ls = [] := by
  have hother : l.all isTabOrSpace = false := by
    rw [Bool.eq_false_iff]
    intro hall
    rw [isAllBlank_of_all_isTabOrSpace hall] at hblank
    cases hblank
  have hprefix := Text.margin_prefix hl hother
  cases l with
  | nil => cases hblank
  | cons c l =>
    rw [List.takeWhile_cons, hhead c rfl] at hprefix
    exact List.prefix_nil.1 hprefix

/-- Lines that hold no delimiter and share no indentation, or are all blank, make the same block as
a comment and as plain documentation.  They are its contents, without trailing blanks and without
blank lines at either end. -/
theorem ofText_asComment (hls : ∀ l ∈ ls, IsLine l ∧ Text.occursIn startMark l = false ∧
      Text.occursIn endMark l = false)
    (hmargin : (∀ l ∈ ls, l.isAllBlank = true) ∨
      ∃ l ∈ ls, l.isAllBlank = false ∧ ∀ c, l.head? = some c → isTabOrSpace c = false) :
    ofText (asComment ls) = ofText (Text.join newline ls) ∧
      contents (Text.join newline ls) = dropBlankEnds (ls.map trimRight) := by
  have hlines : ∀ l ∈ ls, IsLine l := fun l hl ↦ (hls l hl).1
  have hplain := isComment_join fun l hl ↦ (hls l hl).2.1
  have hflat : ∀ l ∈ ls, l.isAllBlank = true ∨ (Text.margin ls).length = 0 := by
    intro l hl
    rcases hmargin with hblank | ⟨first, hfirst, hblank, hhead⟩
    · exact .inl (hblank l hl)
    · exact .inr (congrArg List.length (margin_eq_nil hfirst hblank hhead))
  have hcomment := contents_asComment hlines fun l hl ↦ (hls l hl).2
  have hjoin := contents_join hplain hlines hflat
  refine ⟨?_, hjoin⟩
  rw [ofText, ofText, hcomment, hjoin]

/-- Lines with a star and an indentation of their own, and a separator at the end. -/
def openingLines : List Text := ["Opens a page.", "", "* by name  ", "\t- or by place", [0x1F]]

/-- The blank line at the end is dropped, and all else is kept in either form. -/
theorem ofText_asComment_openingLines :
    (∀ l ∈ openingLines, IsLine l ∧ Text.occursIn startMark l = false ∧
      Text.occursIn endMark l = false) ∧
    (∃ l ∈ openingLines, l.isAllBlank = false ∧
      ∀ c, l.head? = some c → isTabOrSpace c = false) ∧
    (ofText (asComment openingLines) = ofText (Text.join newline openingLines) ∧
      contents (Text.join newline openingLines) =
        dropBlankEnds (openingLines.map trimRight)) ∧
    ofText (asComment openingLines) =
      "* Opens a page.\n     *\n     * * by name\n     * \t- or by place" := by
  have hls : ∀ l ∈ openingLines, IsLine l ∧ Text.occursIn startMark l = false ∧
      Text.occursIn endMark l = false := by
    decide
  have hfirst : ∃ l ∈ openingLines, l.isAllBlank = false ∧
      ∀ c, l.head? = some c → isTabOrSpace c = false := by
    refine ⟨"Opens a page.", List.mem_cons_self, by decide, ?_⟩
    rintro c ⟨⟩
    rfl
  exact ⟨hls, hfirst, ofText_asComment hls (.inr hfirst), by decide +kernel⟩

end ActorFacade.Docblock
