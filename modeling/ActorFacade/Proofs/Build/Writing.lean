import ActorFacade.Build
import ActorFacade.Proofs.Files.Disk

/-! # Writing texts to files

Whatever becomes of writing a text, a file that is there afterwards holds the whole text or nothing
(`writeText_spec`): where no directory can be made or no file written, there is no file to read.
-/

namespace ActorFacade

namespace Disk

variable {disk : Disk}

/-- A file stands in a directory. -/
theorem IsTree.isDirectory_parent (h : disk.IsTree) {p : Path} {bytes : List UInt8}
    (hread : disk.read p = .ok bytes) : disk.isDirectory p.parent = .ok true := by
  obtain ⟨place, hplace, hnode⟩ := read_eq_ok_iff.1 hread
  obtain ⟨slashes, parts⟩ := p
  rcases List.eq_nil_or_concat parts with rfl | ⟨outer, name, rfl⟩
  · cases (locate_eq_ok_iff.1 hplace).2
    rw [h.node?_startOf] at hnode
    cases hnode
  · rw [List.concat_eq_append] at hplace
    show disk.isDirectory ⟨slashes, (outer.concat name).dropLast⟩ = _
    rw [List.concat_eq_append, List.dropLast_concat]
    exact h.isDirectory_of_locate (List.cons_ne_nil _ _) hplace

/-- A file that cannot be written is not there. -/
theorem read_ne_ok_of_write {p : Path} {bytes : List UInt8} {e : FileError}
    (h : disk.write p bytes = .error e) (old : List UInt8) : disk.read p ≠ .ok old := by
  intro hread
  obtain ⟨_, hwritten⟩ := exists_write_of_read hread bytes
  rw [hwritten] at h
  cases h

end Disk

namespace Build

variable {disk disk' : Disk} {p : Path} {text : Text} {result : Except Fault Unit}

/-- A text that was written can be read. -/
theorem read_of_writeText (hwrite : writeText disk p text = (disk', .ok ())) :
    ∃ bytes, Utf8.encode text = .ok bytes ∧ disk'.read p = .ok bytes := by
  unfold writeText at hwrite
  split at hwrite
  case h_1 => cases hwrite
  case h_2 =>
    split at hwrite
    case h_1 bytes hbytes =>
      split at hwrite
      case h_1 hwritten =>
        cases hwrite
        exact ⟨bytes, hbytes, Disk.read_of_write hwritten⟩
      case h_2 => cases hwrite
    case h_2 => split at hwrite <;> cases hwrite

/-- A file that is there after a text was written, or was to be, holds the text or nothing; after a
success it holds the text. -/
theorem writeText_spec (h : disk.IsTree) (hwrite : writeText disk p text = (disk', result)) :
    disk'.IsTree ∧
      (∀ bytes, disk'.read p = .ok bytes → Utf8.encode text = .ok bytes ∨ bytes = []) ∧
      (result = .ok () → ∃ bytes, Utf8.encode text = .ok bytes ∧ disk'.read p = .ok bytes) := by
  have hok : result = .ok () → ∃ bytes, Utf8.encode text = .ok bytes ∧ disk'.read p = .ok bytes :=
    fun hok ↦ read_of_writeText (hok ▸ hwrite)
  unfold writeText at hwrite
  split at hwrite
  case h_1 disk₁ e hmake =>
    cases hwrite
    obtain ⟨htree, hdirectory⟩ := h.makeDirectoriesFrom hmake
    refine ⟨htree, ?_, hok⟩
    intro bytes hread
    rw [List.reverse_reverse] at hdirectory
    exact absurd (htree.isDirectory_parent hread) (hdirectory ⟨e, rfl⟩)
  case h_2 disk₁ hmake =>
    obtain ⟨htree, -⟩ := h.makeDirectoriesFrom hmake
    split at hwrite
    case h_1 bytes hbytes =>
      split at hwrite
      case h_1 hwritten =>
        cases hwrite
        refine ⟨htree.write hwritten, ?_, hok⟩
        intro bytes' hread
        rw [Disk.read_of_write hwritten] at hread
        cases hread
        exact .inl hbytes
      case h_2 hfailed =>
        cases hwrite
        refine ⟨htree, ?_, hok⟩
        exact fun old hread ↦ absurd hread (Disk.read_ne_ok_of_write hfailed old)
    case h_2 =>
      split at hwrite
      case h_1 hwritten =>
        cases hwrite
        refine ⟨htree.write hwritten, ?_, hok⟩
        intro bytes hread
        rw [Disk.read_of_write hwritten] at hread
        exact .inr (Except.ok.inj hread).symm
      case h_2 hfailed =>
        cases hwrite
        refine ⟨htree, ?_, hok⟩
        exact fun old hread ↦ absurd hread (Disk.read_ne_ok_of_write hfailed old)

theorem workingDirectory_writeText (disk : Disk) (p : Path) (text : Text) :
    (writeText disk p text).1.workingDirectory = disk.workingDirectory := by
  have hdirectories := Disk.workingDirectory_makeDirectoriesFrom disk p.parent.slashes
    p.parent.parts.reverse
  unfold writeText Disk.makeDirectories
  split
  case h_1 hmake =>
    rw [hmake] at hdirectories
    exact hdirectories
  case h_2 hmake =>
    rw [hmake] at hdirectories
    split
    all_goals
      split
      case h_1 hwritten => exact (Disk.workingDirectory_of_write hwritten).trans hdirectories
      case h_2 => exact hdirectories

end Build

end ActorFacade
