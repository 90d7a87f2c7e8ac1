import ActorFacade.Files.Disk
import ActorFacade.Proofs.Except
import ActorFacade.Proofs.Files.Path

/-! # Disks that are trees

On a disk whose nodes all stand in directories a path only leads on through directories
(`walk_append`).  Writing a file and making directories keep such a disk a tree, and making
directories changes no file.
-/

namespace ActorFacade

namespace Disk

variable {disk : Disk} {place : Location} {n : FileNode}

/-! ## Nodes -/

@[simp] theorem node?_nil (disk : Disk) : disk.node? [] = some .directory := rfl

theorem find?_set (nodes : List (Location × FileNode)) (place q : Location) (n : FileNode) :
    (nodes.map fun m ↦ if m.1 = place then (place, n) else m).find? (fun m ↦ m.1 == q) =
      if q = place then (nodes.find? fun m ↦ m.1 == q).map fun _ ↦ (place, n)
      else nodes.find? fun m ↦ m.1 == q := by
  induction nodes with
  | nil => simp
  | cons m nodes ih =>
    rw [List.map_cons, List.find?_cons, List.find?_cons, ih]
    by_cases hm : m.1 = place
    · by_cases hq : q = place
      · simp [hm, hq]
      · have hne : (place == q) = false := beq_false_of_ne (Ne.symm hq)
        simp [hm, hq, hne]
    · by_cases hq : q = place
      · have hne : (m.1 == place) = false := beq_false_of_ne hm
        simp [hm, hq, hne]
      · simp [hm, hq]

/-- What was put at a place is there. -/
theorem node?_set_self (hplace : place ≠ []) : (disk.set place n).node? place = some n := by
  rw [node?, if_neg hplace, set]
  split
  case isTrue h =>
    rw [find?_set, if_pos rfl]
    obtain ⟨m, hm, hkey⟩ := List.any_eq_true.1 h
    cases hfind : disk.nodes.find? fun m ↦ m.1 == place with
    | some _ => rfl
    | none => exact absurd hkey (List.find?_eq_none.1 hfind m hm)
  case isFalse h =>
    have hnone : (disk.nodes.find? fun m ↦ m.1 == place) = none := by
      rw [List.find?_eq_none]
      exact fun m hm hkey ↦ h (List.any_eq_true.2 ⟨m, hm, hkey⟩)
    simp [List.find?_append, hnone]

/-- Everything else stays. -/
theorem node?_set_of_ne {q : Location} (hq : q ≠ place) :
    (disk.set place n).node? q = disk.node? q := by
  unfold node?
  split
  case isTrue => rfl
  case isFalse =>
    rw [set]
    split
    case isTrue => rw [find?_set, if_neg hq]
    case isFalse =>
      have hne : ¬place = q := Ne.symm hq
      simp [List.find?_append, hne]

@[simp] theorem workingDirectory_set (disk : Disk) (place : Location) (n : FileNode) :
    (disk.set place n).workingDirectory = disk.workingDirectory := by
  unfold set
  split <;> rfl

/-! ## Trees -/

/-- Every node stands in a directory, and so does what relative paths start from. -/
structure IsTree (disk : Disk) : Prop where
  parent : ∀ place n, disk.node? place = some n → disk.node? place.dropLast = some .directory
  working : disk.node? disk.workingDirectory = some .directory

/-- A node may be put into a directory where no directory is. -/
theorem IsTree.set (h : disk.IsTree) (hnode : disk.node? place ≠ some .directory)
    (hparent : disk.node? place.dropLast = some .directory) (n : FileNode) :
    (disk.set place n).IsTree := by
  have hplace : place ≠ [] := fun he ↦ hnode (he ▸ node?_nil disk)
  have hdirectory : ∀ q, disk.node? q = some .directory →
      (disk.set place n).node? q = some .directory := by
    intro q hq
    have hne : q ≠ place := fun he ↦ hnode (he ▸ hq)
    rw [node?_set_of_ne hne, hq]
  refine ⟨?_, ?_⟩
  · intro q m hq
    by_cases hne : q = place
    · exact hdirectory _ (hne ▸ hparent)
    · rw [node?_set_of_ne hne] at hq
      exact hdirectory _ (h.parent q m hq)
  · rw [workingDirectory_set]
    exact hdirectory _ h.working

/-- A disk without files is a tree. -/
theorem isTree_empty : ({} : Disk).IsTree := by
  refine ⟨?_, rfl⟩
  intro place n hnode
  by_cases hplace : place = []
  · rw [hplace]
    rfl
  · rw [node?, if_neg hplace] at hnode
    cases hnode

/-! ## Walks -/

/-- A walk goes up, or on through a directory, or it ends at a place without one. -/
theorem walk_cons_eq_ok_iff {here q : Location} {part : Text} {parts : List Text} :
    disk.walk here (part :: parts) = .ok q ↔
      (part = Path.up ∧ disk.walk here.dropLast parts = .ok q) ∨
      (part ≠ Path.up ∧ ¬Path.isLongName part = true ∧
        ((disk.node? (here ++ [part]) = some .directory ∧
            disk.walk (here ++ [part]) parts = .ok q) ∨
          (disk.node? (here ++ [part]) ≠ some .directory ∧ parts = [] ∧ here ++ [part] = q))) := by
  rw [walk]
  by_cases hup : part = Path.up
  · simp [hup]
  · by_cases hlong : Path.isLongName part = true
    · simp [hup, hlong]
    · rw [if_neg hup, if_neg hlong]
      cases hnode : disk.node? (here ++ [part]) with
      | none => cases parts <;> simp [hup, hlong, hnode]
      | some n =>
        cases n with
        | file => cases parts <;> simp [hup, hlong, hnode]
        | directory => simp [hup, hlong, hnode]

/-- A walk leads on through directories only. -/
theorem walk_append (h : disk.IsTree) {here : Location} (hhere : disk.node? here = some .directory)
    {parts rest : List Text} (hrest : rest ≠ [])
    (hwalk : disk.walk here (parts ++ rest) = .ok place) :
    ∃ mid, disk.walk here parts = .ok mid ∧ disk.node? mid = some .directory := by
  induction parts generalizing here with
  | nil => exact ⟨here, rfl, hhere⟩
  | cons part parts ih =>
    rw [List.cons_append, walk_cons_eq_ok_iff] at hwalk
    simp only [walk_cons_eq_ok_iff]
    rcases hwalk with ⟨hup, hwalk⟩ | ⟨hup, hlong, ⟨hnode, hwalk⟩ | ⟨_, hnil, _⟩⟩
    · obtain ⟨mid, hmid, hdirectory⟩ := ih (h.parent here _ hhere) hwalk
      exact ⟨mid, .inl ⟨hup, hmid⟩, hdirectory⟩
    · obtain ⟨mid, hmid, hdirectory⟩ := ih hnode hwalk
      exact ⟨mid, .inr ⟨hup, hlong, .inl ⟨hnode, hmid⟩⟩, hdirectory⟩
    · exact absurd (List.append_eq_nil_iff.1 hnil).2 hrest

/-- What a walk leads to stands in a directory. -/
theorem node?_dropLast_of_walk (h : disk.IsTree) {here : Location}
    (hhere : disk.node? here = some .directory) {parts : List Text}
    (hwalk : disk.walk here parts = .ok place) : disk.node? place.dropLast = some .directory := by
  induction parts generalizing here with
  | nil =>
    cases hwalk
    exact h.parent _ _ hhere
  | cons part parts ih =>
    rw [walk_cons_eq_ok_iff] at hwalk
    rcases hwalk with ⟨_, hwalk⟩ | ⟨_, _, ⟨hnode, hwalk⟩ | ⟨_, _, rfl⟩⟩
    · exact ih (h.parent here _ hhere) hwalk
    · exact ih hnode hwalk
    · rw [List.dropLast_concat, hhere]

/-- A walk leads to the same place when a file is put where no directory is. -/
theorem walk_set {q here : Location} (hnode : disk.node? place ≠ some .directory)
    {bytes : List UInt8} {parts : List Text} (hwalk : disk.walk here parts = .ok q) :
    (disk.set place (.file bytes)).walk here parts = .ok q := by
  have hplace : place ≠ [] := fun he ↦ hnode (he ▸ node?_nil disk)
  induction parts generalizing here with
  | nil => exact hwalk
  | cons part parts ih =>
    rw [walk_cons_eq_ok_iff] at hwalk ⊢
    rcases hwalk with ⟨hup, hwalk⟩ | ⟨hup, hlong, ⟨hdirectory, hwalk⟩ | ⟨hnot, hnil, hq⟩⟩
    · exact .inl ⟨hup, ih hwalk⟩
    · have hne : here ++ [part] ≠ place := fun he ↦ hnode (he ▸ hdirectory)
      exact .inr ⟨hup, hlong, .inl ⟨by rw [node?_set_of_ne hne, hdirectory], ih hwalk⟩⟩
    · refine .inr ⟨hup, hlong, .inr ⟨?_, hnil, hq⟩⟩
      by_cases hne : here ++ [part] = place
      · rw [hne, node?_set_self hplace]
        simp
      · rwa [node?_set_of_ne hne]

/-! ## Paths -/

/-- Where the walk of a path starts. -/
def startOf (disk : Disk) (p : Path) : Location :=
  if p.isAbsolute then [] else disk.workingDirectory

theorem IsTree.node?_startOf (h : disk.IsTree) (p : Path) :
    disk.node? (disk.startOf p) = some .directory := by
  unfold startOf
  split
  · exact node?_nil disk
  · exact h.working

theorem locate_eq_ok_iff {p : Path} :
    disk.locate p = .ok place ↔
      p.refusal? = none ∧ disk.walk (disk.startOf p) p.parts = .ok place := by
  unfold locate startOf
  cases p.refusal? <;> simp

/-- What a path leads to stands in a directory. -/
theorem IsTree.node?_dropLast (h : disk.IsTree) {p : Path} (hp : disk.locate p = .ok place) :
    disk.node? place.dropLast = some .directory :=
  node?_dropLast_of_walk h (h.node?_startOf p) (locate_eq_ok_iff.1 hp).2

/-- A path leads to the same place when a file is put where no directory is. -/
theorem locate_set {p : Path} {q : Location} (hnode : disk.node? place ≠ some .directory)
    {bytes : List UInt8} (hp : disk.locate p = .ok q) :
    (disk.set place (.file bytes)).locate p = .ok q := by
  rw [locate_eq_ok_iff] at hp ⊢
  refine ⟨hp.1, ?_⟩
  have hstart : (disk.set place (.file bytes)).startOf p = disk.startOf p := by
    simp [startOf]
  rw [hstart]
  exact walk_set hnode hp.2

theorem isDirectory_eq_true_iff {p : Path} :
    disk.isDirectory p = .ok true ↔
      ∃ place, disk.locate p = .ok place ∧ disk.node? place = some .directory := by
  unfold isDirectory status
  cases disk.locate p with
  | error e => cases e <;> simp [bind, Except.bind, pure, Except.pure]
  | ok place => simp [bind, Except.bind, pure, Except.pure]

/-- A path leads on only through a directory. -/
theorem IsTree.isDirectory_of_locate (h : disk.IsTree) {slashes : Nat} {parts rest : List Text}
    (hrest : rest ≠ []) (hp : disk.locate ⟨slashes, parts ++ rest⟩ = .ok place) :
    disk.isDirectory ⟨slashes, parts⟩ = .ok true := by
  rw [locate_eq_ok_iff] at hp
  obtain ⟨mid, hmid, hdirectory⟩ := walk_append h (h.node?_startOf _) hrest hp.2
  exact isDirectory_eq_true_iff.2
    ⟨mid, locate_eq_ok_iff.2 ⟨Path.refusal?_of_append hp.1, hmid⟩, hdirectory⟩

/-! ## Reading and writing -/

theorem read_eq_ok_iff {p : Path} {bytes : List UInt8} :
    disk.read p = .ok bytes ↔
      ∃ place, disk.locate p = .ok place ∧ disk.node? place = some (.file bytes) := by
  unfold read
  cases disk.locate p with
  | error e => simp [bind, Except.bind]
  | ok place =>
    cases hnode : disk.node? place with
    | none => simp [bind, Except.bind, hnode]
    | some n => cases n <;> simp [bind, Except.bind, pure, Except.pure, hnode]

theorem write_eq_ok_iff {p : Path} {bytes : List UInt8} {disk' : Disk} :
    disk.write p bytes = .ok disk' ↔
      ∃ place, disk.locate p = .ok place ∧ disk.node? place ≠ some .directory ∧
        disk' = disk.set place (.file bytes) := by
  unfold write
  cases disk.locate p with
  | error e => simp [bind, Except.bind]
  | ok place =>
    cases hnode : disk.node? place with
    | none => simp [bind, Except.bind, pure, Except.pure, hnode, eq_comm]
    | some n => cases n <;> simp [bind, Except.bind, pure, Except.pure, hnode, eq_comm]

/-- What was written is read. -/
theorem read_of_write {p : Path} {bytes : List UInt8} {disk' : Disk}
    (h : disk.write p bytes = .ok disk') : disk'.read p = .ok bytes := by
  obtain ⟨place, hplace, hnode, rfl⟩ := write_eq_ok_iff.1 h
  refine read_eq_ok_iff.2 ⟨place, locate_set hnode hplace, node?_set_self ?_⟩
  exact fun he ↦ hnode (he ▸ node?_nil disk)

/-- What is read can be written. -/
theorem exists_write_of_read {p : Path} {old : List UInt8} (h : disk.read p = .ok old)
    (bytes : List UInt8) : ∃ disk', disk.write p bytes = .ok disk' := by
  obtain ⟨place, hplace, hnode⟩ := read_eq_ok_iff.1 h
  exact ⟨_, write_eq_ok_iff.2 ⟨place, hplace, by simp [hnode], rfl⟩⟩

theorem IsTree.write (h : disk.IsTree) {p : Path} {bytes : List UInt8} {disk' : Disk}
    (hwrite : disk.write p bytes = .ok disk') : disk'.IsTree := by
  obtain ⟨place, hplace, hnode, rfl⟩ := write_eq_ok_iff.1 hwrite
  exact h.set hnode (h.node?_dropLast hplace) _

/-! ## Making directories -/

theorem IsTree.makeDirectory (h : disk.IsTree) {p : Path} {disk' : Disk}
    (hmake : disk.makeDirectory p = .ok disk') : disk'.IsTree := by
  unfold Disk.makeDirectory at hmake
  obtain ⟨place, hplace, hmake⟩ := bind_eq_ok_iff.1 hmake
  cases hnode : disk.node? place with
  | some n =>
    simp only [hnode] at hmake
    cases hmake
  | none =>
    simp only [hnode] at hmake
    cases hmake
    exact h.set (by simp [hnode]) (h.node?_dropLast hplace) _

/-- A directory that cannot be made is not there. -/
theorem ensureDirectory_cases {p : Path} {disk' : Disk} {result : Except PathError Unit}
    (h : disk.ensureDirectory p = (disk', result)) :
    (disk.makeDirectory p = .ok disk' ∧ result = .ok ()) ∨ (disk' = disk ∧ result = .ok ()) ∨
      (disk' = disk ∧ (∃ e, result = .error e) ∧ disk.isDirectory p ≠ .ok true) := by
  unfold ensureDirectory at h
  split at h
  case h_1 =>
    cases h
    exact .inl ⟨by assumption, rfl⟩
  case h_2 =>
    cases h
    exact .inr (.inl ⟨rfl, rfl⟩)
  case h_3 hne =>
    cases h
    exact .inr (.inr ⟨rfl, ⟨_, rfl⟩, hne⟩)

theorem IsTree.ensureDirectory (h : disk.IsTree) {p : Path} {disk' : Disk}
    {result : Except PathError Unit} (hensure : disk.ensureDirectory p = (disk', result)) :
    disk'.IsTree ∧ ((∃ e, result = .error e) → disk'.isDirectory p ≠ .ok true) := by
  rcases ensureDirectory_cases hensure with ⟨hmake, rfl⟩ | ⟨rfl, rfl⟩ | ⟨rfl, _, hne⟩
  · exact ⟨h.makeDirectory hmake, fun ⟨_, he⟩ ↦ nomatch he⟩
  · exact ⟨h, fun ⟨_, he⟩ ↦ nomatch he⟩
  · exact ⟨h, fun _ ↦ hne⟩

/-- A disk stays a tree when directories are made, and one that cannot be made is not there. -/
theorem IsTree.makeDirectoriesFrom (h : disk.IsTree) {slashes : Nat} {parts : List Text}
    {disk' : Disk} {result : Except PathError Unit}
    (hmake : disk.makeDirectoriesFrom slashes parts = (disk', result)) :
    disk'.IsTree ∧
      ((∃ e, result = .error e) → disk'.isDirectory ⟨slashes, parts.reverse⟩ ≠ .ok true) := by
  induction parts generalizing disk disk' result with
  | nil => exact h.ensureDirectory hmake
  | cons part outer ih =>
    rw [Disk.makeDirectoriesFrom] at hmake
    split at hmake
    case h_1 =>
      split at hmake
      case h_1 disk₁ houter =>
        obtain ⟨htree, -⟩ := ih h houter
        exact htree.ensureDirectory hmake
      case h_2 hfailed =>
        obtain ⟨htree, hdirectory⟩ := ih h hmake
        refine ⟨htree, ?_⟩
        intro herror hdeep
        obtain ⟨place, hplace, _⟩ := isDirectory_eq_true_iff.1 hdeep
        rw [List.reverse_cons] at hplace
        exact hdirectory herror (htree.isDirectory_of_locate (by simp) hplace)
    case h_2 => exact h.ensureDirectory hmake

/-- A directory that is there need not be made. -/
theorem makeDirectories_of_isDirectory {p : Path} (h : disk.isDirectory p = .ok true) :
    disk.makeDirectories p = (disk, .ok ()) := by
  obtain ⟨place, hplace, hnode⟩ := isDirectory_eq_true_iff.1 h
  have hmake : disk.makeDirectory p = .error .exists := by
    rw [makeDirectory, hplace]
    simp only [bind, Except.bind, hnode]
    rfl
  have hensure : disk.ensureDirectory p = (disk, .ok ()) := by
    rw [ensureDirectory, hmake, h]
  obtain ⟨slashes, parts⟩ := p
  rw [makeDirectories]
  rcases hparts : parts.reverse with _ | ⟨part, outer⟩
  · obtain rfl := List.reverse_eq_nil_iff.1 hparts
    exact hensure
  · rw [makeDirectoriesFrom, ← hparts, List.reverse_reverse, hmake]
    exact hensure

/-! ## The working directory

Nothing that is written moves it. -/

theorem workingDirectory_of_write {p : Path} {bytes : List UInt8} {disk' : Disk}
    (h : disk.write p bytes = .ok disk') : disk'.workingDirectory = disk.workingDirectory := by
  obtain ⟨place, -, -, rfl⟩ := write_eq_ok_iff.1 h
  exact workingDirectory_set _ _ _

theorem workingDirectory_of_makeDirectory {p : Path} {disk' : Disk}
    (h : disk.makeDirectory p = .ok disk') : disk'.workingDirectory = disk.workingDirectory := by
  obtain ⟨place, -, h⟩ := bind_eq_ok_iff.1 h
  split at h
  case h_1 => cases h
  case h_2 =>
    cases h
    exact workingDirectory_set _ _ _

theorem workingDirectory_ensureDirectory (disk : Disk) (p : Path) :
    (disk.ensureDirectory p).1.workingDirectory = disk.workingDirectory := by
  rcases hensure : disk.ensureDirectory p with ⟨disk', result⟩
  rcases ensureDirectory_cases hensure with ⟨hmake, -⟩ | ⟨rfl, -⟩ | ⟨rfl, -⟩
  · exact workingDirectory_of_makeDirectory hmake
  · rfl
  · rfl

theorem workingDirectory_makeDirectoriesFrom (disk : Disk) (slashes : Nat) (parts : List Text) :
    (disk.makeDirectoriesFrom slashes parts).1.workingDirectory = disk.workingDirectory := by
  induction parts with
  | nil => exact workingDirectory_ensureDirectory _ _
  | cons part outer ih =>
    rw [Disk.makeDirectoriesFrom]
    split
    case h_1 =>
      split
      case h_1 houter =>
        rw [houter] at ih
        rw [workingDirectory_ensureDirectory]
        exact ih
      case h_2 => exact ih
    case h_2 => exact workingDirectory_ensureDirectory _ _

end Disk

end ActorFacade
