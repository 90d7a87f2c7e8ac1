import ActorFacade.Fingerprint
import ActorFacade.Proofs.Digest.Sha256
import ActorFacade.Proofs.Literal.Strings
import ActorFacade.Proofs.Text.Join
import ActorFacade.Proofs.Text.Utf8

/-! # What is digested

The written forms of strings, and those of lists of what is written so, are prefix-free: one of them
never begins with another (`IsPrefixFree`).  They are also printable, so the lines of the table and
of the names of the modules are the last two of what is digested, whatever the version holds
(`of_encode_payload`).
-/

namespace ActorFacade

/-- No valid thing is written as the beginning of another one. -/
def IsPrefixFree {α : Type} (valid : α → Prop) (written : α → Text) : Prop :=
  ∀ a b s t, valid a → valid b → written a ++ s = written b ++ t → a = b ∧ s = t

namespace Text

/-- A text holds nothing but printable characters of ASCII. -/
def IsGraphic (t : Text) : Prop := ∀ c ∈ t, 0x20 ≤ c ∧ c < 0x80

instance (t : Text) : Decidable t.IsGraphic := List.decidableBAll _ t

theorem IsGraphic.isScalar {t : Text} (h : t.IsGraphic) : t.IsScalar :=
  Utf8.isScalar_of_ascii fun c hc ↦ (h c hc).2

/-- Such a text is written as one byte for each character. -/
theorem IsGraphic.encodeFrom {t : Text} (h : t.IsGraphic) (pos : Nat) :
    Utf8.encodeFrom pos t = .ok (t.map Nat.toUInt8) :=
  Utf8.encodeFrom_of_ascii (fun c hc ↦ (h c hc).2) pos

/-- None of its bytes is a line feed. -/
theorem IsGraphic.lineFeed_notMem {t : Text} (h : t.IsGraphic) :
    (0x0A : UInt8) ∉ t.map Nat.toUInt8 := by
  intro hmem
  obtain ⟨c, hc, hbyte⟩ := List.mem_map.1 hmem
  obtain ⟨hlow, hhigh⟩ := h c hc
  have hvalue := congrArg UInt8.toNat hbyte
  rw [Utf8.toNat_toUInt8 (Nat.lt_trans hhigh (by decide))] at hvalue
  exact absurd (hvalue ▸ hlow) (by decide)

end Text

namespace Escaped

theorem isPrefixFree_write : IsPrefixFree Text.IsScalar write := by
  intro a b s t ha hb h
  have hstring : ∀ {t : Text}, t.IsScalar → Literal.IsString (write t) t :=
    fun ht ↦ Literal.isString_write (Literal.isJoined_of_isScalar ht)
  obtain ⟨u, hu, hread⟩ := Literal.readTail_of_isString (hstring ha)
  obtain ⟨w, hw, hread'⟩ := Literal.readTail_of_isString (hstring hb)
  rw [hu, hw] at h
  have hboth := (hread s).symm.trans ((congrArg readTail (List.cons.inj h).2).trans (hread' t))
  exact Prod.mk.inj (Except.ok.inj hboth)

theorem isGraphic_unit (n : Nat) : (unit n).IsGraphic := by
  intro c hc
  rw [unit, List.mem_cons, List.mem_cons] at hc
  rcases hc with rfl | rfl | hc
  · decide
  · decide
  · obtain ⟨hlow, hhigh⟩ := Text.mem_hexDigits_bounds hc
    exact ⟨Nat.le_trans (by decide) hlow, Nat.lt_of_le_of_lt hhigh (by decide)⟩

theorem isGraphic_writeCodePoint (c : CodePoint) : (writeCodePoint c).IsGraphic := by
  unfold writeCodePoint
  iterate 7
    split
    case isTrue => decide
  split
  case isTrue hplain =>
    intro d hd
    rw [List.mem_singleton] at hd
    grind
  split
  case isTrue => exact isGraphic_unit c
  case isFalse => exact List.forall_mem_append.2 ⟨isGraphic_unit _, isGraphic_unit _⟩

theorem isGraphic_write (t : Text) : (write t).IsGraphic := by
  intro c hc
  rw [write, List.mem_append, List.mem_cons, List.mem_singleton, List.mem_flatMap] at hc
  rcases hc with (rfl | ⟨d, -, hd⟩) | rfl
  · decide
  · exact isGraphic_writeCodePoint d c hd
  · decide

end Escaped

namespace Fingerprint

/-! ## Lists -/

section Lists

variable {α : Type} {valid : α → Prop} {written : α → Text}

/-- Items behind commas are read off up to the closing bracket. -/
theorem eq_of_flatMap_append (h : IsPrefixFree valid written) {xs ys : List α} {s t : Text}
    (hxs : ∀ x ∈ xs, valid x) (hys : ∀ y ∈ ys, valid y)
    (heq : (xs.map written).flatMap (Text.ofString "," ++ ·) ++ 0x5D :: s =
      (ys.map written).flatMap (Text.ofString "," ++ ·) ++ 0x5D :: t) : xs = ys ∧ s = t := by
  have hcomma : Text.ofString "," = [0x2C] := rfl
  induction xs generalizing ys with
  | nil =>
    cases ys with
    | nil => exact ⟨rfl, (List.cons.inj heq).2⟩
    | cons y ys => exact absurd (List.cons.inj heq).1 (by decide)
  | cons x xs ih =>
    cases ys with
    | nil => exact absurd (List.cons.inj heq).1 (by decide)
    | cons y ys =>
      rw [List.forall_mem_cons] at hxs hys
      simp only [List.map_cons, List.flatMap_cons, List.append_assoc, hcomma, List.cons_append,
        List.cons.injEq, true_and] at heq
      obtain ⟨rfl, hrest⟩ := h x y _ _ hxs.1 hys.1 heq
      obtain ⟨rfl, rfl⟩ := ih hxs.2 hys.2 hrest
      exact ⟨rfl, rfl⟩

/-- Lists of items that do not begin like the end of a list are prefix-free when the items are. -/
theorem isPrefixFree_compactList (h : IsPrefixFree valid written)
    (hhead : ∀ x, ∃ c t, written x = c :: t ∧ c ≠ 0x5D) :
    IsPrefixFree (fun xs : List α ↦ ∀ x ∈ xs, valid x) (fun xs ↦ compactList (xs.map written)) := by
  intro xs ys s t hxs hys heq
  simp only [compactList, List.cons_append, List.cons.injEq, true_and, List.append_assoc] at heq
  cases xs with
  | nil =>
    cases ys with
    | nil => exact ⟨rfl, (List.cons.inj heq).2⟩
    | cons y ys =>
      obtain ⟨c, u, hc, hne⟩ := hhead y
      rw [List.map_cons, Text.join_cons, hc] at heq
      exact absurd (List.cons.inj heq).1.symm hne
  | cons x xs =>
    cases ys with
    | nil =>
      obtain ⟨c, u, hc, hne⟩ := hhead x
      rw [List.map_cons, Text.join_cons, hc] at heq
      exact absurd (List.cons.inj heq).1 hne
    | cons y ys =>
      rw [List.forall_mem_cons] at hxs hys
      rw [List.map_cons, List.map_cons, Text.join_cons, Text.join_cons, List.append_assoc,
        List.append_assoc] at heq
      obtain ⟨rfl, hrest⟩ := h x y _ _ hxs.1 hys.1 heq
      obtain ⟨rfl, rfl⟩ := eq_of_flatMap_append h hxs.2 hys.2 hrest
      exact ⟨rfl, rfl⟩

theorem isGraphic_compactList {ts : List Text} (h : ∀ t ∈ ts, t.IsGraphic) :
    (compactList ts).IsGraphic := by
  intro c hc
  rw [compactList, List.mem_append, List.mem_cons, List.mem_singleton] at hc
  rcases hc with (rfl | hc) | rfl
  · decide
  · cases ts with
    | nil => cases hc
    | cons t ts =>
      rw [List.forall_mem_cons] at h
      rw [Text.join_cons, List.mem_append, List.mem_flatMap] at hc
      rcases hc with hc | ⟨u, hu, hc⟩
      · exact h.1 c hc
      · rcases List.mem_append.1 hc with hc | hc
        · rw [List.mem_singleton.1 hc]
          decide
        · exact h.2 u hu c hc
  · decide

end Lists

/-! ## Payloads -/

/-- Both texts of a row are scalar. -/
def IsScalarRow (row : Text × Text) : Prop := row.1.IsScalar ∧ row.2.IsScalar

theorem head_write (t : Text) : ∃ c u, Escaped.write t = c :: u ∧ c ≠ 0x5D :=
  ⟨_, _, rfl, by decide⟩

theorem isPrefixFree_row : IsPrefixFree IsScalarRow row := by
  rintro ⟨a, b⟩ ⟨c, d⟩ s t ⟨ha, hb⟩ ⟨hc, hd⟩ h
  obtain ⟨hlist, rfl⟩ := isPrefixFree_compactList Escaped.isPrefixFree_write head_write
    [a, b] [c, d] s t (by simp [ha, hb]) (by simp [hc, hd]) h
  cases hlist
  exact ⟨rfl, rfl⟩

theorem isGraphic_row (entry : Text × Text) : (row entry).IsGraphic := by
  refine isGraphic_compactList ?_
  intro t ht
  rcases List.mem_pair.1 ht with rfl | rfl <;> exact Escaped.isGraphic_write _

/-- The line of a table. -/
def tableLine (actions : List (Text × Text)) : Text := compactList (actions.map row)

/-- The line of the names of some modules. -/
def modulesLine (modules : List Text) : Text := compactList (modules.map Escaped.write)

theorem isGraphic_tableLine (actions : List (Text × Text)) : (tableLine actions).IsGraphic := by
  refine isGraphic_compactList ?_
  rw [List.forall_mem_map]
  exact fun entry _ ↦ isGraphic_row entry

theorem isGraphic_modulesLine (modules : List Text) : (modulesLine modules).IsGraphic := by
  refine isGraphic_compactList ?_
  rw [List.forall_mem_map]
  exact fun name _ ↦ Escaped.isGraphic_write name

theorem tableLine_inj {actions actions' : List (Text × Text)}
    (h : ∀ e ∈ actions, IsScalarRow e) (h' : ∀ e ∈ actions', IsScalarRow e)
    (hline : tableLine actions = tableLine actions') : actions = actions' :=
  (isPrefixFree_compactList isPrefixFree_row (fun _ ↦ ⟨_, _, rfl, by decide⟩) _ _ [] [] h h'
    (congrArg (· ++ []) hline)).1

theorem modulesLine_inj {modules modules' : List Text} (h : ∀ m ∈ modules, m.IsScalar)
    (h' : ∀ m ∈ modules', m.IsScalar) (hline : modulesLine modules = modulesLine modules') :
    modules = modules' :=
  (isPrefixFree_compactList Escaped.isPrefixFree_write head_write _ _ [] [] h h'
    (congrArg (· ++ []) hline)).1

/-- The bytes of a payload are those of the version and of two lines without line feeds. -/
theorem bytes_of_encode_payload {version : Text} {actions : List (Text × Text)}
    {modules : List Text} {bytes : List UInt8}
    (h : Utf8.encode (payload version actions modules) = .ok bytes) :
    ∃ lead, Utf8.encode version = .ok lead ∧
      bytes = lead ++ 0x0A :: (tableLine actions).map Nat.toUInt8 ++
        0x0A :: (modulesLine modules).map Nat.toUInt8 := by
  have hfeed : ∀ pos, Utf8.encodeFrom pos Text.newline = .ok [0x0A] := fun _ ↦ rfl
  obtain ⟨_, _, h₁, hmodules, rfl⟩ := Utf8.encodeFrom_append_eq_ok_iff.1 h
  obtain ⟨_, _, h₂, hsecond, rfl⟩ := Utf8.encodeFrom_append_eq_ok_iff.1 h₁
  obtain ⟨_, _, h₃, htable, rfl⟩ := Utf8.encodeFrom_append_eq_ok_iff.1 h₂
  obtain ⟨lead, _, hlead, hfirst, rfl⟩ := Utf8.encodeFrom_append_eq_ok_iff.1 h₃
  cases hmodules.symm.trans ((isGraphic_modulesLine modules).encodeFrom _)
  cases hsecond.symm.trans (hfeed _)
  cases htable.symm.trans ((isGraphic_tableLine actions).encodeFrom _)
  cases hfirst.symm.trans (hfeed _)
  exact ⟨lead, hlead, by simp only [List.append_assoc, List.cons_append, List.nil_append]⟩

/-- The end of a list behind its last separator is determined by the list. -/
theorem eq_of_append_cons {α : Type} {x : α} {s s' t t' : List α} (ht : x ∉ t) (ht' : x ∉ t')
    (h : s ++ x :: t = s' ++ x :: t') : s = s' ∧ t = t' := by
  rcases List.append_eq_append_iff.1 h with ⟨mid, rfl, hmid⟩ | ⟨mid, rfl, hmid⟩
  · cases mid with
    | nil => exact ⟨(List.append_nil s).symm, (List.cons.inj hmid).2⟩
    | cons y mid => exact absurd ((List.cons.inj hmid).2 ▸ by simp) ht
  · cases mid with
    | nil => exact ⟨List.append_nil s', (List.cons.inj hmid).2.symm⟩
    | cons y mid => exact absurd ((List.cons.inj hmid).2 ▸ by simp) ht'

/-- What is digested determines the bytes of the version, the line of the table and the line of the
names of the modules: line feeds of the version stand before the last two. -/
theorem of_encode_payload {version version' : Text} {actions actions' : List (Text × Text)}
    {modules modules' : List Text} {bytes : List UInt8}
    (h : Utf8.encode (payload version actions modules) = .ok bytes)
    (h' : Utf8.encode (payload version' actions' modules') = .ok bytes) :
    Utf8.encode version = Utf8.encode version' ∧ tableLine actions = tableLine actions' ∧
      modulesLine modules = modulesLine modules' := by
  obtain ⟨lead, hlead, rfl⟩ := bytes_of_encode_payload h
  obtain ⟨lead', hlead', hbytes⟩ := bytes_of_encode_payload h'
  obtain ⟨hbytes, hmodules⟩ := eq_of_append_cons (isGraphic_modulesLine _).lineFeed_notMem
    (isGraphic_modulesLine _).lineFeed_notMem hbytes
  obtain ⟨rfl, htable⟩ := eq_of_append_cons (isGraphic_tableLine _).lineFeed_notMem
    (isGraphic_tableLine _).lineFeed_notMem hbytes
  have hline : ∀ {s t : Text}, s.IsGraphic → t.IsGraphic →
      s.map Nat.toUInt8 = t.map Nat.toUInt8 → s = t := by
    intro s t hs ht hsame
    exact Utf8.encodeFrom_inj hs.isScalar ht.isScalar (hs.encodeFrom 0) (hsame ▸ ht.encodeFrom 0)
  exact ⟨hlead.trans hlead'.symm, hline (isGraphic_tableLine _) (isGraphic_tableLine _) htable,
    hline (isGraphic_modulesLine _) (isGraphic_modulesLine _) hmodules⟩

/-- The table and the names of the modules that a fingerprint is made of are scalar. -/
def AreScalar (actions : List (Text × Text)) (modules : List Text) : Prop :=
  (∀ e ∈ actions, IsScalarRow e) ∧ ∀ m ∈ modules, m.IsScalar

/-- The digests of two texts are the same only if their bytes are. -/
def AreToldApart (s t : Text) : Prop :=
  ∀ bytes bytes', Utf8.encode s = .ok bytes → Utf8.encode t = .ok bytes' →
    Sha256.hexDigest bytes = Sha256.hexDigest bytes' → bytes = bytes'

section Digests

variable {version version' hash hash' : Text} {actions actions' : List (Text × Text)}
  {modules modules' : List Text}

/-- Without a collision a fingerprint determines the lines that it is made of. -/
theorem lines_of_compute
    (htold : AreToldApart (payload version actions modules) (payload version' actions' modules'))
    (hhash : compute version actions modules = .ok hash)
    (hhash' : compute version' actions' modules' = .ok hash) :
    Utf8.encode version = Utf8.encode version' ∧ tableLine actions = tableLine actions' ∧
      modulesLine modules = modulesLine modules' := by
  obtain ⟨bytes, hbytes, hdigest⟩ := map_eq_ok_iff.1 hhash
  obtain ⟨bytes', hbytes', hdigest'⟩ := map_eq_ok_iff.1 hhash'
  have hsame := htold bytes bytes' hbytes hbytes' (hdigest.trans hdigest'.symm)
  exact of_encode_payload hbytes (hsame ▸ hbytes')

/-- Without a collision a fingerprint determines the table and the names of the modules. -/
theorem of_compute (h : AreScalar actions modules) (h' : AreScalar actions' modules')
    (htold : AreToldApart (payload version actions modules) (payload version actions' modules'))
    (hhash : compute version actions modules = .ok hash)
    (hhash' : compute version actions' modules' = .ok hash) :
    actions = actions' ∧ modules = modules' := by
  obtain ⟨-, htable, hmodules⟩ := lines_of_compute htold hhash hhash'
  exact ⟨tableLine_inj h.1 h'.1 htable, modulesLine_inj h.2 h'.2 hmodules⟩

/-- What has a fingerprint has a version that can be encoded. -/
theorem exists_encode_of_compute (h : compute version actions modules = .ok hash) :
    ∃ lead, Utf8.encode version = .ok lead := by
  obtain ⟨bytes, hbytes, -⟩ := map_eq_ok_iff.1 h
  obtain ⟨lead, hlead, -⟩ := bytes_of_encode_payload hbytes
  exact ⟨lead, hlead⟩

/-- Two fingerprints are the same exactly if the versions, the tables with their orders and the
names of the modules are, unless the digest has a collision. -/
theorem eq_iff_of_compute (hversion : ∀ c ∈ version, c < 0x110000)
    (hversion' : ∀ c ∈ version', c < 0x110000) (h : AreScalar actions modules)
    (h' : AreScalar actions' modules')
    (htold : AreToldApart (payload version actions modules) (payload version' actions' modules'))
    (hhash : compute version actions modules = .ok hash)
    (hhash' : compute version' actions' modules' = .ok hash') :
    hash = hash' ↔ version = version' ∧ actions = actions' ∧ modules = modules' := by
  constructor
  · rintro rfl
    obtain ⟨hlead, htable, hmodules⟩ := lines_of_compute htold hhash hhash'
    obtain ⟨lead, hencode⟩ := exists_encode_of_compute hhash
    have hencode' : Utf8.encode version' = .ok lead := hlead.symm.trans hencode
    have hsame : version = version' :=
      Utf8.encodeFrom_inj (Utf8.isScalar_of_encodeFrom hencode hversion)
        (Utf8.isScalar_of_encodeFrom hencode' hversion') hencode hencode'
    exact ⟨hsame, tableLine_inj h.1 h'.1 htable, modulesLine_inj h.2 h'.2 hmodules⟩
  · rintro ⟨rfl, rfl, rfl⟩
    exact Except.ok.inj (hhash.symm.trans hhash')

/-- What has different fingerprints is told apart. -/
theorem areToldApart_of_compute_ne
    (h : compute version actions modules ≠ compute version' actions' modules') :
    AreToldApart (payload version actions modules) (payload version' actions' modules') := by
  intro bytes bytes' hbytes hbytes' hdigest
  refine absurd ?_ h
  rw [compute, compute, hbytes, hbytes']
  exact congrArg Except.ok hdigest

end Digests

theorem areToldApart_self (t : Text) : AreToldApart t t :=
  fun _ _ h h' _ ↦ Except.ok.inj (h.symm.trans h')

end Fingerprint

end ActorFacade
