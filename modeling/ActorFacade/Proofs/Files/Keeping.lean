import ActorFacade.Proofs.Files.Disk

/-! # Files that stay

Making directories changes no file, whether it succeeds or not (`keepsFiles_makeDirectories`).
Writing a file changes this file only (`fileAt?_set`).
-/

namespace ActorFacade.Disk

variable {disk disk' : Disk} {place : Location}

/-- The bytes of the file at a location. -/
def fileAt? (disk : Disk) (place : Location) : Option (List UInt8) :=
  match disk.node? place with
  | some (.file bytes) => some bytes
  | some .directory | none => none

/-- Every file of a disk, and no other one, is on another disk with the same bytes. -/
def KeepsFiles (disk disk' : Disk) : Prop := ∀ place, disk'.fileAt? place = disk.fileAt? place

namespace KeepsFiles

theorem refl (disk : Disk) : disk.KeepsFiles disk := fun _ ↦ rfl

theorem trans {disk'' : Disk} (h : disk.KeepsFiles disk') (h' : disk'.KeepsFiles disk'') :
    disk.KeepsFiles disk'' :=
  fun place ↦ (h' place).trans (h place)

end KeepsFiles

/-! ## Making directories -/

/-- A directory where nothing was changes no file. -/
theorem keepsFiles_set_directory (hnode : disk.node? place = none) :
    disk.KeepsFiles (disk.set place .directory) := by
  have hplace : place ≠ [] := by
    rintro rfl
    cases hnode
  intro q
  by_cases hq : q = place
  · rw [hq, fileAt?, fileAt?, node?_set_self hplace, hnode]
  · rw [fileAt?, fileAt?, node?_set_of_ne hq]

theorem keepsFiles_of_makeDirectory {p : Path} (h : disk.makeDirectory p = .ok disk') :
    disk.KeepsFiles disk' := by
  obtain ⟨place, -, h⟩ := bind_eq_ok_iff.1 h
  split at h
  case h_1 => cases h
  case h_2 hnode =>
    cases h
    exact keepsFiles_set_directory hnode

theorem keepsFiles_ensureDirectory (disk : Disk) (p : Path) :
    disk.KeepsFiles (disk.ensureDirectory p).1 := by
  rcases hensure : disk.ensureDirectory p with ⟨disk', result⟩
  rcases ensureDirectory_cases hensure with ⟨hmake, -⟩ | ⟨rfl, -⟩ | ⟨rfl, -⟩
  · exact keepsFiles_of_makeDirectory hmake
  · exact .refl _
  · exact .refl _

theorem keepsFiles_makeDirectoriesFrom (disk : Disk) (slashes : Nat) (parts : List Text) :
    disk.KeepsFiles (disk.makeDirectoriesFrom slashes parts).1 := by
  induction parts with
  | nil => exact keepsFiles_ensureDirectory _ _
  | cons part outer ih =>
    rw [makeDirectoriesFrom]
    split
    case h_1 =>
      split
      case h_1 houter =>
        rw [houter] at ih
        exact ih.trans (keepsFiles_ensureDirectory _ _)
      case h_2 => exact ih
    case h_2 => exact keepsFiles_ensureDirectory _ _

/-- Making directories changes no file, however far it gets. -/
theorem keepsFiles_makeDirectories (disk : Disk) (p : Path) :
    disk.KeepsFiles (disk.makeDirectories p).1 :=
  keepsFiles_makeDirectoriesFrom disk p.slashes p.parts.reverse

/-! ## Writing -/

/-- Only one file changes when a file is put where no directory is. -/
theorem fileAt?_set (hnode : disk.node? place ≠ some .directory) (bytes : List UInt8)
    (q : Location) :
    (disk.set place (.file bytes)).fileAt? q =
      if q = place then some bytes else disk.fileAt? q := by
  have hplace : place ≠ [] := fun he ↦ hnode (he ▸ node?_nil disk)
  by_cases hq : q = place
  · rw [if_pos hq, hq, fileAt?, node?_set_self hplace]
  · rw [if_neg hq, fileAt?, fileAt?, node?_set_of_ne hq]

end ActorFacade.Disk
