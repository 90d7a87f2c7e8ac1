import ActorFacade.Proofs.Files.Disk

/-! # Paths from the root

On a disk without links double dots can be resolved by name: where a path leads to a place, the path
from the root has the names of this place (`absolute_of_locate`), and it leads there as well
(`locate_ofRoot`), unless it is too long.
-/

namespace ActorFacade

/-! ## Names with bytes -/

namespace Path

/-- A text can be held by paths. -/
def HasBytes (t : Text) : Prop := ∃ bytes, bytesOf t = .ok bytes

theorem exists_encodeFrom_iff {t : Text} (pos : Nat) :
    (∃ bytes, encodeFrom pos t = .ok bytes) ↔
      ∀ c ∈ t, (strayByte? c).isSome = true ∨ Text.isSurrogate c = false := by
  induction t generalizing pos with
  | nil => simp [encodeFrom]
  | cons c t ih =>
    rw [List.forall_mem_cons, ← ih (pos + 1), encodeFrom]
    cases strayByte? c with
    | some b => simp [map_eq_ok_iff]
    | none => cases hsurrogate : Text.isSurrogate c <;> simp [map_eq_ok_iff]

theorem hasBytes_iff {t : Text} : HasBytes t ↔
    ∀ c ∈ t, ((strayByte? c).isSome = true ∨ Text.isSurrogate c = false) ∧ c ≠ 0 := by
  unfold HasBytes
  simp only [bytesOf_eq_ok_iff, exists_and_right, exists_encodeFrom_iff, List.contains_iff_mem]
  constructor
  · rintro ⟨hbytes, hzero⟩ c hc
    exact ⟨hbytes c hc, fun he ↦ hzero (he ▸ hc)⟩
  · intro h
    exact ⟨fun c hc ↦ (h c hc).1, fun hzero ↦ (h 0 hzero).2 rfl⟩

theorem hasBytes_append_iff {s t : Text} : HasBytes (s ++ t) ↔ HasBytes s ∧ HasBytes t := by
  simp only [hasBytes_iff, List.forall_mem_append]

theorem hasBytes_join_iff {parts : List Text} :
    HasBytes (Text.join "/" parts) ↔ ∀ part ∈ parts, HasBytes part := by
  have hslash : HasBytes "/" := ⟨_, rfl⟩
  have hrest : ∀ parts : List Text, HasBytes (parts.flatMap (Text.ofString "/" ++ ·)) ↔
      ∀ part ∈ parts, HasBytes part := by
    intro parts
    induction parts with
    | nil => exact ⟨fun _ ↦ List.forall_mem_nil _, fun _ ↦ ⟨[], rfl⟩⟩
    | cons part parts ih =>
      rw [List.flatMap_cons, hasBytes_append_iff, hasBytes_append_iff, ih, List.forall_mem_cons,
        and_iff_right hslash]
  cases parts with
  | nil => exact hrest []
  | cons part parts =>
    rw [Text.join_cons, hasBytes_append_iff, hrest, List.forall_mem_cons]

/-- A path can be held if and only if its names can. -/
theorem hasBytes_text_iff {p : Path} : HasBytes p.text ↔ ∀ part ∈ p.parts, HasBytes part := by
  unfold text
  split
  case isTrue h =>
    obtain ⟨-, hnil⟩ := (Bool.and_eq_true _ _).mp h
    rw [List.isEmpty_iff.1 hnil]
    exact ⟨fun _ ↦ List.forall_mem_nil _, fun _ ↦ ⟨_, rfl⟩⟩
  case isFalse =>
    have hslashes : HasBytes (List.replicate p.slashes 0x2F) := by
      rw [hasBytes_iff]
      intro c hc
      rw [List.eq_of_mem_replicate hc]
      decide
    rw [hasBytes_append_iff, and_iff_right hslashes, hasBytes_join_iff]

theorem hasBytes_of_refusal? {p : Path} (h : p.refusal? = none) :
    ∀ part ∈ p.parts, HasBytes part := by
  obtain ⟨bytes, hbytes, -⟩ := refusal?_eq_none_iff.1 h
  exact hasBytes_text_iff.1 ⟨bytes, hbytes⟩

theorem failsOnly_bytesOf (t : Text) : FailsOnly (· ≠ .notFound) (bytesOf t) := by
  refine FailsOnly.bind (.mapError fun _ _ ↦ nofun) fun bytes _ ↦ ?_
  split
  · exact .error nofun
  · exact .ok _

/-- No path is refused as one that leads to nothing. -/
theorem refusal?_ne_notFound (p : Path) : p.refusal? ≠ some .notFound := by
  unfold refusal?
  cases hbytes : bytesOf p.text with
  | error e => simpa using failsOnly_bytesOf _ e hbytes
  | ok bytes => by_cases hlong : lengthBound ≤ bytes.length <;> simp [hlong]

/-- A path whose names can be held can be resolved. -/
theorem resolveError?_eq_none {isAbsolute : Bool} {kept parts : List Text}
    (hkept : ∀ part ∈ kept, HasBytes part) (hparts : ∀ part ∈ parts, HasBytes part) :
    resolveError? isAbsolute kept parts = none := by
  induction parts generalizing kept with
  | nil => rfl
  | cons part parts ih =>
    obtain ⟨hpart, hparts⟩ := List.forall_mem_cons.1 hparts
    rw [resolveError?]
    split
    case isTrue hup =>
      refine ih ?_ hparts
      have hclimb : climb isAbsolute kept ⊆ kept ++ [part] := by
        rw [hup]
        unfold climb
        split
        · split
          · exact List.subset_append_left _ _
          · exact List.Subset.refl _
        · exact List.Subset.trans (List.dropLast_subset _) (List.subset_append_left _ _)
      intro name hname
      rcases List.mem_append.1 (hclimb hname) with hname | hname
      · exact hkept name hname
      · rwa [List.mem_singleton.1 hname]
    case isFalse =>
      have hkept : ∀ name ∈ kept ++ [part], HasBytes name :=
        List.forall_mem_append.2 ⟨hkept, List.forall_mem_singleton.2 hpart⟩
      let p : Path := ⟨if isAbsolute then 1 else 0, kept ++ [part]⟩
      obtain ⟨bytes, hbytes⟩ : HasBytes p.text := hasBytes_text_iff.2 hkept
      simp only [hbytes, p]
      exact ih hkept hparts

/-! ## Double dots -/

/-- Names behind others, with double dots resolved by name. -/
def collapseFrom (kept parts : List Text) : List Text :=
  parts.foldl (fun kept part ↦ if part = up then kept.dropLast else kept ++ [part]) kept

theorem collapse_append (parts rest : List Text) :
    collapse (parts ++ rest) = collapseFrom (collapse parts) rest := List.foldl_append

theorem collapseFrom_of_notMem {kept parts : List Text} (h : up ∉ parts) :
    collapseFrom kept parts = kept ++ parts := by
  induction parts generalizing kept with
  | nil => exact (List.append_nil kept).symm
  | cons part parts ih =>
    obtain ⟨hpart, hparts⟩ := not_or.1 (mt List.mem_cons.2 h)
    have hcons : collapseFrom kept (part :: parts) = collapseFrom (kept ++ [part]) parts := by
      show collapseFrom (if part = up then _ else _) parts = _
      rw [if_neg (Ne.symm hpart)]
    rw [hcons, ih hparts, List.append_assoc, List.singleton_append]

end Path

/-! ## Walks -/

namespace Disk

variable {disk : Disk} {here place : Location} {parts : List Text} {p : Path}

/-- A name leads on to a node of this name, if there is one. -/
structure IsName (name : Text) : Prop where
  ne_up : name ≠ Path.up
  notLong : ¬Path.isLongName name = true

/-- The working directory has a path from the root: its names are such that paths lead on through
them. -/
def HasWorkingPath (disk : Disk) : Prop := ∀ name ∈ disk.workingDirectory, IsName name

/-- Walking resolves double dots. -/
theorem collapseFrom_of_walk (h : disk.walk here parts = .ok place) :
    Path.collapseFrom here parts = place := by
  induction parts generalizing here with
  | nil => exact Except.ok.inj h
  | cons part parts ih =>
    show Path.collapseFrom (if part = Path.up then _ else _) parts = _
    rcases walk_cons_eq_ok_iff.1 h with ⟨rfl, h⟩ | ⟨hup, -, ⟨-, h⟩ | ⟨-, rfl, rfl⟩⟩
    · rw [if_pos rfl]
      exact ih h
    · rw [if_neg hup]
      exact ih h
    · rw [if_neg hup]
      rfl

/-- A walk leads through names only. -/
theorem isName_of_walk (h : disk.walk here parts = .ok place) (hhere : ∀ name ∈ here, IsName name) :
    ∀ name ∈ place, IsName name := by
  induction parts generalizing here with
  | nil =>
    cases h
    exact hhere
  | cons part parts ih =>
    have hnext (hup : part ≠ Path.up) (hlong : ¬Path.isLongName part = true) :
        ∀ name ∈ here ++ [part], IsName name :=
      List.forall_mem_append.2 ⟨hhere, List.forall_mem_singleton.2 ⟨hup, hlong⟩⟩
    rcases walk_cons_eq_ok_iff.1 h with ⟨rfl, h⟩ | ⟨hup, hlong, ⟨-, h⟩ | ⟨-, rfl, rfl⟩⟩
    · exact ih h fun name hname ↦ hhere name (List.dropLast_subset _ hname)
    · exact ih h (hnext hup hlong)
    · exact hnext hup hlong

/-- A directory stands in directories only. -/
theorem IsTree.isDirectory_of_append (h : disk.IsTree) {rest : Location}
    (hplace : disk.node? (place ++ rest) = some .directory) :
    disk.node? place = some .directory := by
  induction rest using List.reverseRecOn with
  | nil => rwa [List.append_nil] at hplace
  | append_singleton rest name ih =>
    have hparent := h.parent _ _ hplace
    rw [← List.append_assoc, List.dropLast_concat] at hparent
    exact ih hparent

/-- Names lead on to a place that stands in a directory. -/
theorem IsTree.walk_of_isName (h : disk.IsTree) (hnames : ∀ name ∈ parts, IsName name)
    (hplace : disk.node? (here ++ parts).dropLast = some .directory) :
    disk.walk here parts = .ok (here ++ parts) := by
  induction parts generalizing here with
  | nil => rw [List.append_nil, walk]
  | cons part parts ih =>
    obtain ⟨⟨hup, hlong⟩, hparts⟩ := List.forall_mem_cons.1 hnames
    refine walk_cons_eq_ok_iff.2 (.inr ⟨hup, hlong, ?_⟩)
    rw [List.append_cons here part parts] at hplace ⊢
    by_cases hdirectory : disk.node? (here ++ [part]) = some .directory
    · exact .inl ⟨hdirectory, ih hparts hplace⟩
    · refine .inr ⟨hdirectory, ?_⟩
      rcases List.eq_nil_or_concat parts with rfl | ⟨rest, name, rfl⟩
      · exact ⟨rfl, (List.append_nil _).symm⟩
      · rw [List.concat_eq_append, ← List.append_assoc, List.dropLast_concat] at hplace
        exact absurd (h.isDirectory_of_append hplace) hdirectory

/-! ## Paths -/

/-- The path of a place from the root. -/
def ofRoot (place : Location) : Path := ⟨1, place⟩

theorem isName_startOf (hworking : disk.HasWorkingPath) (p : Path) :
    ∀ name ∈ disk.startOf p, IsName name := by
  unfold startOf
  split
  · exact List.forall_mem_nil _
  · exact hworking

theorem absolute_eq (hworking : disk.HasWorkingPath) (p : Path) :
    disk.absolute p = ofRoot (Path.collapseFrom (disk.startOf p) p.parts) := by
  have hstart : Path.collapse (disk.startOf p) = disk.startOf p :=
    Path.collapseFrom_of_notMem fun hmem ↦ (isName_startOf hworking p _ hmem).ne_up rfl
  have hparts : (disk.workingPath.append p).parts = disk.startOf p ++ p.parts := by
    unfold Path.append startOf
    cases p.isAbsolute <;> rfl
  rw [absolute, hparts, Path.collapse_append, hstart]
  rfl

/-- The path from the root has the names of the place that a path leads to. -/
theorem absolute_of_locate (hworking : disk.HasWorkingPath) (hp : disk.locate p = .ok place) :
    disk.absolute p = ofRoot place := by
  rw [absolute_eq hworking, collapseFrom_of_walk (locate_eq_ok_iff.1 hp).2]

/-- Names behind a path are added to the path from the root. -/
theorem absolute_append (hworking : disk.HasWorkingPath) (hp : disk.locate p = .ok place)
    {rest : List Text} (hrest : Path.up ∉ rest) :
    disk.absolute (p.append ⟨0, rest⟩) = ofRoot (place ++ rest) := by
  have hstart : disk.startOf (p.append ⟨0, rest⟩) = disk.startOf p := rfl
  have hparts : Path.collapseFrom (disk.startOf p) (p.append ⟨0, rest⟩).parts =
      Path.collapseFrom (Path.collapseFrom (disk.startOf p) p.parts) rest := List.foldl_append
  rw [absolute_eq hworking, hstart, hparts, collapseFrom_of_walk (locate_eq_ok_iff.1 hp).2,
    Path.collapseFrom_of_notMem hrest]

/-- A path without double dots has its names behind the directory where it starts. -/
theorem absolute_of_notMem (hworking : disk.HasWorkingPath) (hup : Path.up ∉ p.parts) :
    disk.absolute p = ofRoot (disk.startOf p ++ p.parts) := by
  rw [absolute_eq hworking, Path.collapseFrom_of_notMem hup]

/-- A place in a directory is where the path with its names leads. -/
theorem IsTree.locate_ofRoot (h : disk.IsTree) (hnames : ∀ name ∈ place, IsName name)
    (hplace : disk.node? place.dropLast = some .directory)
    (hshort : (ofRoot place).refusal? = none) : disk.locate (ofRoot place) = .ok place := by
  have hwalk : disk.walk [] place = .ok ([] ++ place) := h.walk_of_isName hnames hplace
  exact locate_eq_ok_iff.2 ⟨hshort, hwalk⟩

/-- Names that lead to a directory can be left out in front of a walk from there. -/
theorem IsTree.walk_through (h : disk.IsTree) {rest : List Text}
    (hnames : ∀ name ∈ parts, IsName name)
    (hplace : disk.node? (here ++ parts) = some .directory) :
    disk.walk here (parts ++ rest) = disk.walk (here ++ parts) rest := by
  induction parts generalizing here with
  | nil => rw [List.append_nil, List.nil_append]
  | cons part parts ih =>
    obtain ⟨⟨hup, hlong⟩, hparts⟩ := List.forall_mem_cons.1 hnames
    rw [List.append_cons here part parts] at hplace ⊢
    rw [List.cons_append, walk, if_neg hup, if_neg hlong, ← ih hparts hplace]
    simp only [h.isDirectory_of_append hplace]

/-! ## What paths lead to -/

theorem status_of_locate (hp : disk.locate p = .ok place) :
    disk.status p = .ok (disk.node? place) := by
  rw [status, hp]

theorem status_of_notFound (hp : disk.locate p = .error .notFound) : disk.status p = .ok none := by
  rw [status, hp]

theorem locate_eq_notFound_iff : disk.locate p = .error .notFound ↔
    p.refusal? = none ∧ disk.walk (disk.startOf p) p.parts = .error .notFound := by
  have hne := Path.refusal?_ne_notFound p
  unfold locate startOf
  cases hrefusal : p.refusal? with
  | none => simp
  | some e =>
    rw [hrefusal] at hne
    simpa using hne

/-- A path without double dots that leads to nothing, because a directory is missing, does so from
the root as well. -/
theorem IsTree.locate_ofRoot_of_notFound (h : disk.IsTree) (hworking : disk.HasWorkingPath)
    (hp : disk.locate p = .error .notFound)
    (hshort : (ofRoot (disk.startOf p ++ p.parts)).refusal? = none) :
    disk.locate (ofRoot (disk.startOf p ++ p.parts)) = .error .notFound := by
  refine locate_eq_notFound_iff.2 ⟨hshort, ?_⟩
  show disk.walk [] (disk.startOf p ++ p.parts) = _
  rw [h.walk_through (isName_startOf hworking p) (h.node?_startOf p)]
  exact (locate_eq_notFound_iff.1 hp).2

/-- A path whose names can be held is resolved to one from the root. -/
theorem resolve_eq_ok (h : ∀ part ∈ p.parts, Path.HasBytes part) :
    disk.resolve p = .ok (disk.absolute p) := by
  rw [resolve, Path.resolveError?_eq_none (List.forall_mem_nil _) h]

end Disk

end ActorFacade
