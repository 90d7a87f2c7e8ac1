import ActorFacade.Proofs.Files.Keeping
import ActorFacade.Proofs.Files.Resolving

/-! # Adding to files

A path from the root leads to the place of its names (`eq_of_locate_absolute`).  Adding bytes to the
file there makes it longer and leaves the others as they are (`HasFile.append`).
-/

namespace ActorFacade

namespace Path

/-- Resolving double dots leaves none. -/
theorem up_notMem_collapse (parts : List Text) : up ∉ collapse parts := by
  induction parts using List.reverseRecOn with
  | nil => exact List.not_mem_nil
  | append_singleton parts part ih =>
    rw [collapse_append]
    show up ∉ if part = up then (collapse parts).dropLast else collapse parts ++ [part]
    split
    case isTrue => exact fun h ↦ ih (List.dropLast_subset _ h)
    case isFalse hne => simp [ih, Ne.symm hne]

end Path

namespace Disk

variable {disk disk' : Disk} {p : Path} {place : Location} {bytes : List UInt8}

/-- Where relative paths start decides what is meant by a path. -/
theorem absolute_congr (h : disk'.workingDirectory = disk.workingDirectory) (p : Path) :
    disk'.absolute p = disk.absolute p := by
  rw [absolute, absolute, workingPath, workingPath, h]

theorem eq_of_locate_absolute (h : disk.locate (disk.absolute p) = .ok place) :
    place = (disk.absolute p).parts := by
  have hwalk : disk.walk [] (disk.absolute p).parts = .ok place := (locate_eq_ok_iff.1 h).2
  rw [← collapseFrom_of_walk hwalk, Path.collapseFrom_of_notMem, List.nil_append]
  exact Path.up_notMem_collapse _

theorem node?_of_fileAt? (h : disk.fileAt? place = some bytes) :
    disk.node? place = some (.file bytes) := by
  unfold fileAt? at h
  split at h
  case h_1 hnode =>
    cases h
    exact hnode
  case h_2 => cases h
  case h_3 => cases h

theorem append_eq_ok_iff :
    disk.append p bytes = .ok disk' ↔ ∃ place, disk.locate p = .ok place ∧
      disk.node? place ≠ some .directory ∧
        disk' = disk.set place (.file ((disk.fileAt? place).getD [] ++ bytes)) := by
  unfold append fileAt?
  cases disk.locate p with
  | error e => simp [bind, Except.bind]
  | ok place =>
    cases hnode : disk.node? place with
    | none => simp [bind, Except.bind, pure, Except.pure, hnode, eq_comm]
    | some n => cases n <;> simp [bind, Except.bind, pure, Except.pure, hnode, eq_comm]

/-- A path leads to a file at the place of its names. -/
structure HasFile (disk : Disk) (p : Path) : Prop where
  locate : disk.locate p = .ok p.parts
  file : (disk.fileAt? p.parts).isSome = true

/-- Adding bytes to what a path leads to makes a file of it, and changes nothing else. -/
theorem hasFile_of_append (hplace : disk.locate p = .ok p.parts)
    (h : disk.append p bytes = .ok disk') :
    disk'.HasFile p ∧ disk'.workingDirectory = disk.workingDirectory ∧
      ∀ q, disk'.fileAt? q = if q = p.parts then some ((disk.fileAt? q).getD [] ++ bytes)
        else disk.fileAt? q := by
  obtain ⟨place, hlocate, hnode, rfl⟩ := append_eq_ok_iff.1 h
  cases hplace.symm.trans hlocate
  refine ⟨⟨locate_set hnode hplace, ?_⟩, workingDirectory_set _ _ _, fun q ↦ ?_⟩
  · rw [fileAt?_set hnode, if_pos rfl]
    rfl
  · rw [fileAt?_set hnode]
    split
    case isTrue hq => rw [hq]
    case isFalse => rfl

/-- What a disk becomes when files that are there get more bytes, each its own. -/
structure Gains (disk disk' : Disk) (gain : Location → List UInt8) : Prop where
  working : disk'.workingDirectory = disk.workingDirectory
  locate : ∀ p place, disk.locate p = .ok place → disk'.locate p = .ok place
  files : ∀ place, disk'.fileAt? place = (disk.fileAt? place).map (· ++ gain place)

theorem Gains.refl {gain : Location → List UInt8} (h : ∀ place, gain place = []) :
    disk.Gains disk gain where
  working := rfl
  locate _ _ := id
  files place := by simp only [h, List.append_nil, Option.map_id']

theorem HasFile.of_gains {gain : Location → List UInt8} (h : disk.HasFile p)
    (hgains : disk.Gains disk' gain) : disk'.HasFile p where
  locate := hgains.locate p _ h.locate
  file := by rw [hgains.files, Option.isSome_map, h.file]

/-- Bytes can be added to a file. -/
theorem HasFile.append (h : disk.HasFile p) (bytes : List UInt8) :
    ∃ disk', disk.append p bytes = .ok disk' ∧
      disk.Gains disk' fun place ↦ if place = p.parts then bytes else [] := by
  obtain ⟨old, hold⟩ := Option.isSome_iff_exists.1 h.file
  have hnode : disk.node? p.parts ≠ some .directory := by
    rw [node?_of_fileAt? hold]
    exact nofun
  refine ⟨_, append_eq_ok_iff.2 ⟨p.parts, h.locate, hnode, rfl⟩, workingDirectory_set _ _ _,
    fun _ _ ↦ locate_set hnode, fun place ↦ ?_⟩
  rw [fileAt?_set hnode, hold]
  by_cases hplace : place = p.parts
  · rw [if_pos hplace, if_pos hplace, hplace, hold]
    rfl
  · simp only [if_neg hplace, List.append_nil, Option.map_id']

end Disk

end ActorFacade
