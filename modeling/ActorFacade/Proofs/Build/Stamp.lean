import ActorFacade.Build
import ActorFacade.Proofs.Actor.Text
import ActorFacade.Proofs.Digest.Sha256
import ActorFacade.Proofs.Text.Utf8

/-! # Stamps read back

The fingerprint of an actor is a row of hexadecimal digits: nothing is replaced in it when the actor
is rendered, and it stands alone on the first line behind the mark.  So the stamp of the bytes of a
rendered actor is its fingerprint, if it can be read (`stampOfBytes_of_text`), and it can if the
actor consists of code points (`stampOfBytes_text`): a first part of its bytes that ends within a
code point is text nevertheless.
-/

namespace ActorFacade

namespace Text

theorem trim_eq_self {t : Text} (h : ∀ c ∈ t, isBlank c = false) : trim t = t := by
  have hdrop : ∀ s : Text, (∀ c ∈ s, isBlank c = false) → s.dropWhile isBlank = s := by
    intro s hs
    cases s with
    | nil => rfl
    | cons c s =>
      rw [List.dropWhile_cons, if_neg]
      simp [hs c List.mem_cons_self]
  rw [trim, trimLeft, hdrop t h, trimRight, dropRightWhile, hdrop, List.reverse_reverse]
  exact fun c hc ↦ h c (List.mem_reverse.1 hc)

end Text

open Sha256 (hexDigest)

/-! ## Fingerprints -/

theorem isBlank_of_mem_hexDigest {message : List UInt8} {c : CodePoint}
    (h : c ∈ hexDigest message) : Text.isBlank c = false := by
  have hbounds := Sha256.mem_hexDigest_bounds h
  grind [Text.isBlank]

theorem Actor.exists_of_stamp {o : Options} {suite : Suite} {table : ActionTable} {hash : Text}
    (h : stamp o suite table = .ok hash) :
    ∃ bytes, Utf8.encode (Fingerprint.payload o.version table suite.moduleNames) = .ok bytes ∧
      hexDigest bytes = hash :=
  map_eq_ok_iff.1 (mapError_eq_ok_iff.1 h)

/-- An actor begins with its stamp. -/
theorem Actor.Parts.text_prefix {p : Parts} {message : List UInt8}
    (h : p.hash = hexDigest message) :
    ∃ rest, p.text Template.settled = ActorText.stampMark ++ p.hash ++ 0x0A :: rest := by
  have hplaceable : Template.IsPlaceable ((p.values Template.settled).map (·.1))
      ActorText.actorSegments := ActorText.isPlaceable_actor
  have hbrace : (0x7B : CodePoint) ∉ p.hash := by
    intro hmem
    have hbounds := Sha256.mem_hexDigest_bounds (h ▸ hmem)
    exact absurd hbounds.2 (by decide)
  let f := Template.Segment.filled (Template.settled (p.values Template.settled))
  have htext : ∀ t, f (.text t) = t := fun _ ↦ rfl
  have hhash : f (.placeholder "hash") = p.hash := by
    refine Template.fill_eq_self ?_
    exact fun _ _ ↦ Text.occursIn_cons_eq_false hbrace
  rw [Parts.text, ← ActorText.sourceOf_actorSegments,
    Template.substitute_sourceOf hplaceable.braceFree_settled hplaceable.sound]
  obtain ⟨lead, hlead⟩ :
      ∃ lead, Text.ofString "\n\n// Generated by actorgen from the configured modules.\n" =
        0x0A :: lead := List.head?_eq_some_iff.1 (by decide +kernel)
  refine ⟨lead ++ (Text.ofString ("// Manual edits are overwritten on the next build.\n" ++
    "// @codingStandardsIgnoreFile\n\n") ++ (ActorText.actorSegments.drop 3).flatMap f), ?_⟩
  show ActorText.actorSegments.flatMap f = _
  rw [← hhash, ← List.cons_append, ← hlead]
  simp only [ActorText.actorSegments, List.drop, List.flatMap_cons, htext, List.append_assoc]
  rfl

/-! ## Reading -/

namespace Build

theorem stampOf?_stamp (message : List UInt8) :
    stampOf? (ActorText.stampMark ++ hexDigest message) = some (hexDigest message) := by
  have hmark : Text.startsWith (ActorText.stampMark ++ hexDigest message) ActorText.stampMark =
      true := List.isPrefixOf_iff_prefix.2 (List.prefix_append _ _)
  have hne : (hexDigest message).isEmpty = false := by
    have hlength := Sha256.length_hexDigest message
    cases hdigest : hexDigest message with
    | nil => simp [hdigest] at hlength
    | cons => rfl
  rw [stampOf?, if_pos hmark, List.drop_left,
    Text.trim_eq_self fun c hc ↦ isBlank_of_mem_hexDigest hc]
  simp only [hne, Bool.false_eq_true, if_false]

/-- The stamp of a file that begins with a stamp is this one, if the part that is read with it is
text. -/
theorem exists_stampOfBytes_append {message bytes : List UInt8} {rest : Text}
    (h : Utf8.encode (ActorText.stampMark ++ hexDigest message ++ 0x0A :: rest) = .ok bytes) :
    ∃ pos tail start count, Utf8.encodeFrom pos rest = .ok tail ∧
      stampOfBytes bytes =
        (Utf8.decodeFrom start 0 (tail.take count)).map fun _ ↦ some (hexDigest message) := by
  have hascii : ∀ c ∈ ActorText.stampMark ++ hexDigest message,
      c < 0x80 ∧ c ≠ 0x0D ∧ c ≠ 0x0A := by
    rw [List.forall_mem_append]
    refine ⟨by decide, fun c hc ↦ ?_⟩
    have hbounds := Sha256.mem_hexDigest_bounds hc
    unfold CodePoint at *
    omega
  have hline : ∀ c ∈ ActorText.stampMark ++ hexDigest message ++ [0x0A], c < 0x80 := by
    rw [List.forall_mem_append]
    exact ⟨fun c hc ↦ (hascii c hc).1, by decide⟩
  have hlead := Utf8.encodeFrom_of_ascii hline 0
  rw [← List.singleton_append, ← List.append_assoc] at h
  obtain ⟨lead, tail, hlead', htail, rfl⟩ := Utf8.encodeFrom_append_eq_ok_iff.1 h
  cases hlead.symm.trans hlead'
  have hlength : ((ActorText.stampMark ++ hexDigest message ++ [0x0A]).map Nat.toUInt8).length ≤
      Utf8.chunkSize := by
    rw [List.length_map, List.length_append, List.length_append, Sha256.length_hexDigest]
    decide
  let lead := (ActorText.stampMark ++ hexDigest message ++ [0x0A]).map Nat.toUInt8
  refine ⟨_, tail, lead.length, Utf8.chunkSize - lead.length, htail, ?_⟩
  rw [stampOfBytes, Utf8.firstLine_append (Utf8.isScalar_of_ascii fun c hc ↦ (hascii c hc).1)
    ⟨fun hc ↦ (hascii _ hc).2.1 rfl, fun hc ↦ (hascii _ hc).2.2 rfl⟩ hlead hlength]
  cases Utf8.decodeFrom lead.length 0 (tail.take (Utf8.chunkSize - lead.length)) with
  | error e => rfl
  | ok r => exact congrArg Except.ok (stampOf?_stamp message)

theorem stampOfBytes_nil : stampOfBytes [] = .ok none := by
  have hline : Utf8.firstLine [] = .ok [] := by
    rw [Utf8.firstLine, Utf8.firstLineFrom]
    rfl
  rw [stampOfBytes, hline]
  rfl

/-- The stamp of a rendered actor is its fingerprint. -/
theorem stampOfBytes_of_text {p : Actor.Parts} {o : Actor.Options} {suite : Suite}
    {table : ActionTable} {bytes : List UInt8} (hhash : Actor.stamp o suite table = .ok p.hash)
    (hbytes : Utf8.encode (p.text Template.settled) = .ok bytes) {stamp : Option Text}
    (hstamp : stampOfBytes bytes = .ok stamp) : stamp = some p.hash := by
  obtain ⟨message, -, hmessage⟩ := Actor.exists_of_stamp hhash
  obtain ⟨rest, htext⟩ := p.text_prefix hmessage.symm
  rw [htext, ← hmessage] at hbytes
  obtain ⟨_, _, _, _, -, hread⟩ := exists_stampOfBytes_append hbytes
  rw [hread] at hstamp
  obtain ⟨_, -, rfl⟩ := map_eq_ok_iff.1 hstamp
  rw [hmessage]

/-- A rendered actor that consists of code points has a stamp. -/
theorem stampOfBytes_text {p : Actor.Parts} {o : Actor.Options} {suite : Suite}
    {table : ActionTable} {bytes : List UInt8} (hhash : Actor.stamp o suite table = .ok p.hash)
    (hbytes : Utf8.encode (p.text Template.settled) = .ok bytes)
    (hpoints : ∀ c ∈ p.text Template.settled, c < 0x110000) :
    stampOfBytes bytes = .ok (some p.hash) := by
  obtain ⟨message, -, hmessage⟩ := Actor.exists_of_stamp hhash
  obtain ⟨rest, htext⟩ := p.text_prefix hmessage.symm
  rw [htext, ← hmessage] at hbytes
  obtain ⟨_, tail, start, count, htail, hread⟩ := exists_stampOfBytes_append hbytes
  have hscalar : Text.IsScalar rest := by
    refine Utf8.isScalar_of_encodeFrom htail fun c hc ↦ hpoints c ?_
    rw [htext]
    exact List.mem_append_right _ (List.mem_cons_of_mem _ hc)
  obtain ⟨r, hdecode⟩ := Utf8.exists_decodeFrom_take hscalar htail start count
  rw [hread, hdecode, ← hmessage]
  rfl

/-- A file that makes a build have nothing to do carries the fingerprint. -/
theorem exists_of_isUpToDate {disk : Disk} {p : Path} {force : Bool} {hash : Text}
    (h : isUpToDate disk p force hash = .ok true) :
    ∃ bytes, disk.read p = .ok bytes ∧ stampOfBytes bytes = .ok (some hash) := by
  unfold isUpToDate at h
  split at h
  case isTrue => cases h
  case isFalse =>
    obtain ⟨stamp, hstamp, hhash⟩ := map_eq_ok_iff.1 h
    cases eq_of_beq hhash
    unfold readStamp at hstamp
    split at hstamp
    case h_1 => cases hstamp
    case h_2 => cases hstamp
    case h_3 bytes hbytes => exact ⟨bytes, hbytes, mapError_eq_ok_iff.1 hstamp⟩

end Build

end ActorFacade
