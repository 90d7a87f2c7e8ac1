import ActorFacade.Proofs.Text.Occurrence
import ActorFacade.Text.Lines

/-! # Lines without the blanks around them

Every text is a row of texts without line breaks with single breaks between them (`lineInduction`),
so what holds of its trimmed lines is shown line by line.  Taking off the margin of a text changes
no trimmed line (`trimmedLines_dedent`).
-/

namespace ActorFacade.Text

/-! ## Pieces -/

theorem join_pieces (sep : CodePoint) (t : Text) : join [sep] (pieces sep t) = t := by
  induction t with
  | nil => rfl
  | cons c t ih =>
    obtain ⟨piece, rest, hpieces⟩ := List.exists_cons_of_ne_nil (pieces_ne_nil sep t)
    rw [hpieces, join_cons] at ih
    rw [pieces, hpieces]
    split
    case isTrue hc =>
      rw [join_cons, List.flatMap_cons, List.nil_append, List.append_assoc, ih, hc,
        List.singleton_append]
    case isFalse => rw [join_cons, List.cons_append, ih]

/-- A separator ends the piece in front of it. -/
theorem pieces_append {sep : CodePoint} {piece : Text} (h : sep ∉ piece) (t : Text) :
    pieces sep (piece ++ sep :: t) = piece :: pieces sep t := by
  induction piece with
  | nil => rw [List.nil_append, pieces, if_pos rfl]
  | cons c piece ih =>
    rw [List.mem_cons, not_or] at h
    rw [List.cons_append, pieces, if_neg (Ne.symm h.1), ih h.2]

theorem pieces_eq_singleton {sep : CodePoint} {t : Text} (h : sep ∉ t) : pieces sep t = [t] := by
  induction t with
  | nil => rfl
  | cons c t ih =>
    rw [List.mem_cons, not_or] at h
    rw [pieces, if_neg (Ne.symm h.1), ih h.2]

/-- Joined texts without the separator are the pieces of the whole. -/
theorem pieces_join {sep : CodePoint} {ts : List Text} (hne : ts ≠ []) (h : ∀ t ∈ ts, sep ∉ t) :
    pieces sep (join [sep] ts) = ts := by
  induction ts with
  | nil => exact absurd rfl hne
  | cons t ts ih =>
    obtain ⟨ht, hts⟩ := List.forall_mem_cons.1 h
    cases ts with
    | nil => rw [join_singleton, pieces_eq_singleton ht]
    | cons u us =>
      rw [join_cons_cons, List.append_assoc, List.singleton_append, pieces_append ht,
        ih (List.cons_ne_nil _ _) hts]

/-! ## Lines -/

/-- A text without line breaks. -/
def IsLine (t : Text) : Prop := ∀ c ∈ t, isLineBreak c = false

instance (t : Text) : Decidable (IsLine t) := List.decidableBAll _ t

/-- A text is a line, or a line in front of a break and a text. -/
@[elab_as_elim]
theorem lineInduction {motive : Text → Prop} (last : ∀ line, IsLine line → motive line)
    (line : ∀ line c rest, IsLine line → isLineBreak c = true → motive rest →
      motive (line ++ c :: rest))
    (t : Text) : motive t := by
  induction hlength : t.length using Nat.strong_induction_on generalizing t with
  | _ n ih =>
    have hsplit : t.takeWhile (!isLineBreak ·) ++ t.dropWhile (!isLineBreak ·) = t :=
      List.takeWhile_append_dropWhile
    have hline : IsLine (t.takeWhile (!isLineBreak ·)) := by
      intro c hc
      simpa using List.all_eq_true.1 List.all_takeWhile c hc
    have hhead := List.head?_dropWhile_not (!isLineBreak ·) t
    cases hrest : t.dropWhile (!isLineBreak ·) with
    | nil =>
      rw [hrest, List.append_nil] at hsplit
      rw [← hsplit]
      exact last _ hline
    | cons c rest =>
      rw [hrest] at hsplit hhead
      have hshort : rest.length < n := by
        rw [← hlength, ← hsplit, List.length_append, List.length_cons]
        omega
      rw [← hsplit]
      exact line _ c rest hline (by simpa using hhead) (ih _ hshort rest rfl)

theorem lines_cons {c : CodePoint} (hc : isLineBreak c = false) (t : Text) :
    lines (c :: t) = match lines t with
      | [] => [[c]]
      | line :: rest => (c :: line) :: rest := by
  have hreturn : ∀ u, c = 0x0D → t = 0x0A :: u → False := by
    rintro _ rfl -
    exact absurd hc (by decide)
  exact (lines.eq_3 _ _ hreturn).trans (if_neg (by simp [hc]))

theorem lines_eq_singleton {line : Text} (h : IsLine line) (hne : line ≠ []) :
    lines line = [line] := by
  induction line with
  | nil => exact absurd rfl hne
  | cons c line ih =>
    obtain ⟨hc, hline⟩ := List.forall_mem_cons.1 h
    rw [lines_cons hc]
    cases line with
    | nil => rfl
    | cons d line => rw [ih hline (List.cons_ne_nil _ _)]

/-- A break ends a line; a line feed behind a carriage return does not end another one. -/
theorem exists_lines_append {line : Text} (h : IsLine line) {c : CodePoint}
    (hc : isLineBreak c = true) (t : Text) :
    ∃ rest, lines (line ++ c :: t) = line :: rest ∧ (lines t = rest ∨ lines t = [] :: rest) := by
  induction line with
  | nil =>
    by_cases hfeed : c = 0x0D ∧ ∃ u, t = 0x0A :: u
    · obtain ⟨rfl, u, rfl⟩ := hfeed
      refine ⟨lines u, rfl, .inr ?_⟩
      rw [lines.eq_3 _ _ (fun _ he ↦ absurd he (by decide)), if_pos (by decide)]
    · refine ⟨lines t, ?_, .inl rfl⟩
      rw [List.nil_append, lines.eq_3 _ _ (fun u hreturn hu ↦ hfeed ⟨hreturn, u, hu⟩), if_pos hc]
  | cons d line ih =>
    obtain ⟨hd, hline⟩ := List.forall_mem_cons.1 h
    obtain ⟨rest, hlines, hrest⟩ := ih hline
    refine ⟨rest, ?_, hrest⟩
    rw [List.cons_append, lines_cons hd, hlines]

/-- Each line is without breaks. -/
theorem isLine_of_mem_lines {line t : Text} (h : line ∈ t.lines) : IsLine line := by
  induction t using lineInduction with
  | last last hlast =>
    cases last with
    | nil => cases h
    | cons c last =>
      rw [lines_eq_singleton hlast (List.cons_ne_nil _ _), List.mem_singleton] at h
      exact h ▸ hlast
  | line first c rest hfirst hc ih =>
    obtain ⟨others, hlines, hothers⟩ := exists_lines_append hfirst hc rest
    rw [hlines, List.mem_cons] at h
    rcases h with rfl | h
    · exact hfirst
    · rcases hothers with hothers | hothers
      · exact ih (hothers ▸ h)
      · exact ih (hothers ▸ List.mem_cons_of_mem _ h)

theorem lines_append_newline {line : Text} (h : IsLine line) (t : Text) :
    lines (line ++ newline ++ t) = line :: lines t := by
  rw [List.append_assoc, newline, List.singleton_append]
  induction line with
  | nil =>
    rw [List.nil_append, lines.eq_3 _ _ (fun _ he ↦ absurd he (by decide)), if_pos (by decide)]
  | cons d line ih =>
    obtain ⟨hd, hline⟩ := List.forall_mem_cons.1 h
    rw [List.cons_append, lines_cons hd, ih hline]

/-- Joined lines in front of another text are the lines that come first. -/
theorem lines_join_append {ts : List Text} (hne : ts ≠ []) (h : ∀ t ∈ ts, IsLine t) (t : Text) :
    lines (join newline ts ++ newline ++ t) = ts ++ lines t := by
  induction ts with
  | nil => exact absurd rfl hne
  | cons line ts ih =>
    obtain ⟨hline, hts⟩ := List.forall_mem_cons.1 h
    cases ts with
    | nil => rw [join_singleton, lines_append_newline hline, List.singleton_append]
    | cons u us =>
      rw [join_cons_cons, List.append_assoc, List.append_assoc, lines_append_newline hline,
        ← List.append_assoc, ih (List.cons_ne_nil _ _) hts, ← List.cons_append]

/-- Joined lines are the lines of the whole, but for an empty one at the end. -/
theorem exists_lines_join {ts : List Text} (h : ∀ t ∈ ts, IsLine t) :
    ∃ last, ts = lines (join newline ts) ++ last ∧ ∀ t ∈ last, t = [] := by
  induction ts with
  | nil => exact ⟨[], rfl, List.forall_mem_nil _⟩
  | cons line ts ih =>
    obtain ⟨hline, hts⟩ := List.forall_mem_cons.1 h
    cases ts with
    | nil =>
      rw [join_singleton]
      by_cases hempty : line = []
      · exact ⟨[line], by rw [hempty]; rfl, by simp [hempty]⟩
      · exact ⟨[], by rw [lines_eq_singleton hline hempty, List.append_nil], List.forall_mem_nil _⟩
    | cons u us =>
      obtain ⟨last, hlines, hlast⟩ := ih hts
      refine ⟨last, ?_, hlast⟩
      rw [join_cons_cons, lines_append_newline hline, List.cons_append, ← hlines]

/-! ## Trimmed lines -/

/-- The lines that are not blank, without the blanks at their ends. -/
def trimmedLines (t : Text) : List Text := (t.lines.map trim).filter fun line ↦ !line.isEmpty

@[simp] theorem trimmedLines_nil : trimmedLines [] = [] := rfl

/-- What holds of no empty line holds of some line if and only if it holds of a trimmed one. -/
theorem exists_mem_trimmedLines_iff {P : Text → Prop} (hP : ¬P []) {t : Text} :
    (∃ line ∈ trimmedLines t, P line) ↔ ∃ line ∈ t.lines, P line.trim := by
  constructor
  · rintro ⟨_, hmem, h⟩
    obtain ⟨line, hline, rfl⟩ := List.mem_map.1 (List.mem_of_mem_filter hmem)
    exact ⟨line, hline, h⟩
  · rintro ⟨line, hline, h⟩
    refine ⟨line.trim, List.mem_filter.2 ⟨List.mem_map_of_mem hline, ?_⟩, h⟩
    cases htrim : line.trim with
    | nil => exact absurd (htrim ▸ h) hP
    | cons => rfl

theorem trimmedLines_of_isLine {line : Text} (h : IsLine line) :
    trimmedLines line = [line.trim].filter fun line ↦ !line.isEmpty := by
  cases line with
  | nil => rfl
  | cons c line =>
    rw [trimmedLines, lines_eq_singleton h (List.cons_ne_nil _ _)]
    rfl

theorem trimmedLines_line_append {line : Text} (h : IsLine line) {c : CodePoint}
    (hc : isLineBreak c = true) (t : Text) :
    trimmedLines (line ++ c :: t) = trimmedLines line ++ trimmedLines t := by
  obtain ⟨rest, hlines, hrest⟩ := exists_lines_append h hc t
  rw [trimmedLines_of_isLine h, trimmedLines, hlines, List.map_cons, ← List.singleton_append,
    List.filter_append]
  rcases hrest with hrest | hrest
  · rw [trimmedLines, hrest]
  · rw [trimmedLines, hrest]
    rfl

theorem trimmedLines_append {c : CodePoint} (hc : isLineBreak c = true) (s t : Text) :
    trimmedLines (s ++ c :: t) = trimmedLines s ++ trimmedLines t := by
  induction s using lineInduction with
  | last line h => exact trimmedLines_line_append h hc t
  | line line d rest h hd ih =>
    rw [List.append_assoc, List.cons_append, trimmedLines_line_append h hd, ih,
      trimmedLines_line_append h hd, List.append_assoc]

theorem trimmedLines_join (ts : List Text) :
    trimmedLines (join newline ts) = ts.flatMap trimmedLines := by
  induction ts with
  | nil => rfl
  | cons t ts ih =>
    cases ts with
    | nil => simp [join]
    | cons u us =>
      rw [join_cons_cons, List.append_assoc, newline, List.singleton_append,
        trimmedLines_append (by decide), ← newline, ih, List.flatMap_cons (x := t)]

/-- A text without blanks occurs in a trimmed line if and only if it occurs at all. -/
theorem infix_trimmedLines_iff {part : Text} (hpart : part ≠ [])
    (hblank : ∀ c ∈ part, isBlank c = false) {t : Text} :
    (∃ line ∈ trimmedLines t, part <:+: line) ↔ part <:+: t := by
  have hbreak : ∀ c, isLineBreak c = true → c ∉ part := by
    intro c hc hmem
    have := hblank c hmem
    grind [isBlank, isLineBreak]
  have hline : ∀ line, IsLine line →
      ((∃ l ∈ trimmedLines line, part <:+: l) ↔ part <:+: line) := by
    intro line h
    rw [exists_mem_trimmedLines_iff (by simpa using hpart)]
    cases line with
    | nil => simpa [lines] using hpart
    | cons c line =>
      rw [lines_eq_singleton h (List.cons_ne_nil _ _)]
      simpa using infix_trim_iff hpart hblank
  induction t using lineInduction with
  | last line h => exact hline line h
  | line line c rest h hc ih =>
    simp only [trimmedLines_line_append h hc, List.mem_append, or_and_right, exists_or,
      hline line h, ih, infix_append_cons_iff (hbreak c hc)]

/-! ## Margins -/

theorem trimmedLines_cons_of_tabOrSpace {c : CodePoint} (hc : isTabOrSpace c = true) (t : Text) :
    trimmedLines (c :: t) = trimmedLines t := by
  have hbreak : isLineBreak c = false := by grind [isTabOrSpace, isLineBreak]
  have hblank : isBlank c = true := by grind [isTabOrSpace, isBlank]
  have hline : ∀ line, IsLine line → IsLine (c :: line) ∧
      trimmedLines (c :: line) = trimmedLines line := by
    intro line h
    have hcons : IsLine (c :: line) := List.forall_mem_cons.2 ⟨hbreak, h⟩
    have htrim : trim (c :: line) = trim line := by
      rw [trim, trimLeft, List.dropWhile_cons, if_pos hblank]
      rfl
    exact ⟨hcons, by rw [trimmedLines_of_isLine hcons, htrim, trimmedLines_of_isLine h]⟩
  induction t using lineInduction with
  | last line h => exact (hline line h).2
  | line line d rest h hd _ =>
    rw [← List.cons_append, trimmedLines_line_append (hline line h).1 hd, (hline line h).2,
      trimmedLines_line_append h hd]

/-- Tabs and spaces in front do not show. -/
theorem trimmedLines_append_of_tabOrSpace {lead : Text} (h : lead.all isTabOrSpace = true)
    (t : Text) : trimmedLines (lead ++ t) = trimmedLines t := by
  induction lead with
  | nil => rfl
  | cons c lead ih =>
    rw [List.all_cons, Bool.and_eq_true] at h
    rw [List.cons_append, trimmedLines_cons_of_tabOrSpace h.1, ih h.2]

theorem isPrefix_commonStart (s t : Text) : commonStart s t <+: s ∧ commonStart s t <+: t := by
  induction s generalizing t with
  | nil => exact ⟨List.nil_prefix, List.nil_prefix⟩
  | cons a s ih =>
    cases t with
    | nil => exact ⟨List.nil_prefix, List.nil_prefix⟩
    | cons b t =>
      rw [commonStart]
      split
      case isTrue hab =>
        subst hab
        exact ⟨List.cons_prefix_cons.2 ⟨rfl, (ih t).1⟩, List.cons_prefix_cons.2 ⟨rfl, (ih t).2⟩⟩
      case isFalse => exact ⟨List.nil_prefix, List.nil_prefix⟩

theorem isPrefix_foldl_commonStart {first t : Text} {rest : List Text} (h : t ∈ first :: rest) :
    rest.foldl commonStart first <+: t := by
  induction rest generalizing first t with
  | nil =>
    rw [List.mem_singleton] at h
    rw [h]
    exact List.prefix_rfl
  | cons u rest ih =>
    rw [List.foldl_cons]
    have hstart := ih (t := commonStart first u) List.mem_cons_self
    rcases List.mem_cons.1 h with rfl | h
    · exact hstart.trans (isPrefix_commonStart _ _).1
    · rcases List.mem_cons.1 h with rfl | h
      · exact hstart.trans (isPrefix_commonStart _ _).2
      · exact ih (List.mem_cons_of_mem _ h)

/-- Every line with other content than tabs and spaces begins with the margin. -/
theorem margin_prefix {ls : List Text} {l : Text} (hl : l ∈ ls) (h : l.all isTabOrSpace = false) :
    margin ls <+: l.takeWhile isTabOrSpace := by
  have hmem : l.takeWhile isTabOrSpace ∈
      (ls.filter fun l ↦ !l.all isTabOrSpace).map (·.takeWhile isTabOrSpace) :=
    List.mem_map_of_mem (List.mem_filter.2 ⟨hl, by simp [h]⟩)
  unfold margin
  split
  case h_1 => exact List.nil_prefix
  case h_2 first rest hlines => exact isPrefix_foldl_commonStart (hlines ▸ hmem)

theorem commonStart_self (t : Text) : commonStart t t = t := by
  induction t with
  | nil => rfl
  | cons c t ih => rw [commonStart, if_pos rfl, ih]

/-- Lines that are all indented alike have their indentation as the margin. -/
theorem margin_eq_of_forall {ls : List Text} {m : Text}
    (h : ∀ l ∈ ls, l.all isTabOrSpace = false → l.takeWhile isTabOrSpace = m)
    (hsome : ∃ l ∈ ls, l.all isTabOrSpace = false) : margin ls = m := by
  let starts := (ls.filter fun l ↦ !l.all isTabOrSpace).map (·.takeWhile isTabOrSpace)
  have hstarts : ∀ t ∈ starts, t = m := by
    intro t ht
    obtain ⟨l, hl, rfl⟩ := List.mem_map.1 ht
    obtain ⟨hl, hother⟩ := List.mem_filter.1 hl
    exact h l hl (by simpa using hother)
  obtain ⟨l, hl, hother⟩ := hsome
  have hmem : l.takeWhile isTabOrSpace ∈ starts :=
    List.mem_map_of_mem (List.mem_filter.2 ⟨hl, by rw [hother]; rfl⟩)
  have hfold : ∀ ts : List Text, (∀ t ∈ ts, t = m) → ts.foldl commonStart m = m := by
    intro ts hts
    induction ts with
    | nil => rfl
    | cons t ts ih =>
      obtain ⟨rfl, hts⟩ := List.forall_mem_cons.1 hts
      rw [List.foldl_cons, commonStart_self, ih hts]
  unfold margin
  split
  case h_1 hnil => exact absurd hnil (List.ne_nil_of_mem hmem)
  case h_2 first rest hcons =>
    have hcons : starts = first :: rest := hcons
    rw [hcons] at hstarts
    obtain ⟨rfl, hrest⟩ := List.forall_mem_cons.1 hstarts
    exact hfold rest hrest

/-- Taking off the margin changes no trimmed line. -/
theorem trimmedLines_dedent (t : Text) : trimmedLines t.dedent = trimmedLines t := by
  have hpieces : trimmedLines t = (pieces 0x0A t).flatMap trimmedLines := by
    rw [← trimmedLines_join, newline, join_pieces]
  rw [dedent, trimmedLines_join, hpieces, List.flatMap_map]
  refine List.flatMap_congr fun l hl ↦ ?_
  split
  case isTrue h =>
    have hblank := trimmedLines_append_of_tabOrSpace h []
    rw [List.append_nil] at hblank
    rw [hblank]
  case isFalse h =>
    have hmargin := margin_prefix hl (by simpa using h)
    have hprefix := hmargin.trans (List.takeWhile_prefix _)
    have htabs : (margin (pieces 0x0A t)).all isTabOrSpace = true := by
      refine List.all_eq_true.2 fun c hc ↦ ?_
      exact List.all_eq_true.1 List.all_takeWhile c (hmargin.subset hc)
    obtain ⟨rest, rfl⟩ := hprefix
    rw [List.drop_left, trimmedLines_append_of_tabOrSpace htabs]

end ActorFacade.Text
