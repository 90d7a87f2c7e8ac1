import ActorFacade.Actor.Generator
import ActorFacade.Proofs.Actor.Production
import ActorFacade.Proofs.Build.Stamp
import ActorFacade.Proofs.Fingerprint

/-! # What a stamp identifies

The first line of a rendered actor carries the fingerprint of its table, and a fingerprint is that
of one version, one table and one list of modules, unless the digest has a collision.  So actors
with one stamp have the same methods, but for signatures and documentation, whatever else they are
made of.
-/

namespace ActorFacade

namespace Text

/-- The first line of a text, without its end. -/
def firstLine (t : Text) : Text := t.takeWhile (· != 0x0A)

theorem firstLine_append {line : Text} (h : (0x0A : CodePoint) ∉ line) (rest : Text) :
    firstLine (line ++ 0x0A :: rest) = line := by
  have hline : ∀ c ∈ line, (c != 0x0A) = true := by
    intro c hc
    rw [bne_iff_ne]
    rintro rfl
    exact h hc
  rw [firstLine, List.takeWhile_append_of_pos hline]
  simp

end Text

namespace Actor

/-- The stamp of a text, if its first line carries one. -/
def stampOfText (t : Text) : Option Text := Build.stampOf? t.firstLine

/-- An actor is stamped with the fingerprint of its table. -/
theorem IsMadeOf.stampOfText {o : Options} {suite : Suite} {table : ActionTable} {p : Parts}
    {rendered : Rendered} (h : IsMadeOf o suite table p rendered) :
    stampOfText rendered.text = some p.hash := by
  obtain ⟨message, -, hmessage⟩ := exists_of_stamp h.hash
  obtain ⟨rest, htext⟩ := p.text_prefix hmessage.symm
  have hline : (0x0A : CodePoint) ∉ ActorText.stampMark ++ Sha256.hexDigest message := by
    rw [List.mem_append]
    rintro (hmark | hdigest)
    · exact absurd hmark (by decide)
    · exact absurd (Sha256.mem_hexDigest_bounds hdigest).1 (by decide)
  rw [Actor.stampOfText, ← h.text, htext, ← hmessage, Text.firstLine_append hline,
    Build.stampOf?_stamp]

open Fingerprint (compute payload AreScalar AreToldApart IsScalarRow)

/-- A fingerprint identifies the version, the table with its order and the names of the modules that
it is made of.  Actors with one stamp, of whatever generators, stand for one table and have the same
methods in the same order, but for signatures and documentation. -/
theorem eq_of_stampOfText :
    (∀ {version version' hash hash' : Text} {actions actions' : ActionTable}
      {modules modules' : List Text}, (∀ c ∈ version, c < 0x110000) →
      (∀ c ∈ version', c < 0x110000) → AreScalar actions modules → AreScalar actions' modules' →
      AreToldApart (payload version actions modules) (payload version' actions' modules') →
      compute version actions modules = .ok hash → compute version' actions' modules' = .ok hash' →
        (hash = hash' ↔ version = version' ∧ actions = actions' ∧ modules = modules')) ∧
    ∀ {g g' : Generator} {rendered rendered' : Rendered}, g.produce.result = .ok rendered →
      g'.produce.result = .ok rendered' →
      ∃ table table' hash hash', (g.registry.actionTable g.suite).result = .ok table ∧
        (g'.registry.actionTable g'.suite).result = .ok table' ∧
        compute g.options.version table g.suite.moduleNames = .ok hash ∧
        compute g'.options.version table' g'.suite.moduleNames = .ok hash' ∧
        stampOfText rendered.text = some hash ∧ stampOfText rendered'.text = some hash' ∧
        ((∀ row ∈ table, IsScalarRow row) → (∀ row ∈ table', IsScalarRow row) →
          AreToldApart (payload g.options.version table g.suite.moduleNames)
            (payload g'.options.version table' g'.suite.moduleNames) →
          stampOfText rendered.text = stampOfText rendered'.text →
            table = table' ∧
              rendered.methods.map ActorMethod.key = rendered'.methods.map ActorMethod.key) := by
  refine ⟨fun hversion hversion' h h' htold hhash hhash' ↦
    Fingerprint.eq_iff_of_compute hversion hversion' h h' htold hhash hhash', ?_⟩
  intro g g' rendered rendered' hproduce hproduce'
  obtain ⟨table, p, htable, hmade⟩ := exists_of_produce hproduce
  obtain ⟨table', p', htable', hmade'⟩ := exists_of_produce hproduce'
  have hhash := mapError_eq_ok_iff.1 hmade.hash
  have hhash' := mapError_eq_ok_iff.1 hmade'.hash
  refine ⟨table, table', p.hash, p'.hash, htable, htable', hhash, hhash', hmade.stampOfText,
    hmade'.stampOfText, ?_⟩
  intro hscalar hscalar' htold hstamp
  rw [hmade.stampOfText, hmade'.stampOfText, Option.some.injEq] at hstamp
  obtain ⟨-, hline, -⟩ := Fingerprint.lines_of_compute htold hhash (hstamp ▸ hhash')
  obtain rfl := Fingerprint.tableLine_inj hscalar hscalar' hline
  refine ⟨rfl, ?_⟩
  rw [← hmade.methods, ← hmade'.methods, hmade.keys, hmade'.keys]

/-- A class with two operations. -/
def classOfTwo : ClassEntry where
  ref := .declared "m" "T"
  attributes := ["seeIt", "login"].map fun name ↦
    (Text.ofString name, .function { qualified := "T." ++ Text.ofString name, formals := [] })
  bases := [.object]
  lineage := [.declared "m" "T", .object]
  abstractNames := []
  layouts := [.declared "m" "T", .object]

/-- A generator of an actor of a given name with an object of this class for a module. -/
def generatorOf (name : Text) : Generator where
  suite := suiteOfModule name
  registry :=
    { providers := [("M", .instance classOfTwo.ref)]
      useEntryPoints := false
      environment := { hierarchy := ⟨[classOfTwo]⟩ } }

/-- Its table. -/
def tableOfTwo : ActionTable := [("seeIt", "M"), ("login", "M")]

/-- The fingerprints differ where a line of the version could be that of a table, and actors of
different names have one stamp and the same methods. -/
theorem eq_of_stampOfText_renamed :
    (∃ hash hash', compute "1\n[]" [] ["M"] = .ok hash ∧ compute "1" [] ["M"] = .ok hash' ∧
      hash ≠ hash') ∧
    ∃ rendered rendered', (generatorOf "First").produce.result = .ok rendered ∧
      (generatorOf "Second").produce.result = .ok rendered' ∧
      stampOfText rendered.text = stampOfText rendered'.text ∧
      rendered.methods.map ActorMethod.key = rendered'.methods.map ActorMethod.key := by
  obtain ⟨hiff, hmethods⟩ := eq_of_stampOfText
  constructor
  · have hne : compute "1\n[]" [] ["M"] ≠ compute "1" [] ["M"] := by decide +kernel
    have hscalar : AreScalar [] ["M"] := ⟨List.forall_mem_nil _, by decide⟩
    obtain ⟨hash, hhash⟩ : ∃ hash, compute "1\n[]" [] ["M"] = .ok hash := ⟨_, rfl⟩
    obtain ⟨hash', hhash'⟩ : ∃ hash, compute "1" [] ["M"] = .ok hash := ⟨_, rfl⟩
    refine ⟨hash, hash', hhash, hhash', ?_⟩
    rw [ne_eq, hiff (by decide) (by decide) hscalar hscalar
      (Fingerprint.areToldApart_of_compute_ne hne) hhash hhash']
    decide
  · have hevaluated : ∀ name ∈ [Text.ofString "First", "Second"],
        ((generatorOf name).registry.actionTable (generatorOf name).suite).result.toOption =
            some tableOfTwo ∧
          (generatorOf name).produce.result.toOption.isSome = true := by
      decide +kernel
    obtain ⟨htable, hsome⟩ := hevaluated "First" (by decide)
    obtain ⟨htable', hsome'⟩ := hevaluated "Second" (by decide)
    obtain ⟨rendered, hrendered⟩ := toOption_isSome_iff.1 hsome
    obtain ⟨rendered', hrendered'⟩ := toOption_isSome_iff.1 hsome'
    obtain ⟨table, table', hash, hash', h, h', hhash, hhash', hstamp, hstamp', hkeys⟩ :=
      hmethods hrendered hrendered'
    cases h.symm.trans (toOption_eq_some_iff.1 htable)
    cases h'.symm.trans (toOption_eq_some_iff.1 htable')
    have hsame : stampOfText rendered.text = stampOfText rendered'.text := by
      rw [hstamp, hstamp', Except.ok.inj (hhash.symm.trans hhash')]
    have hscalar : ∀ row ∈ tableOfTwo, IsScalarRow row := by
      simp only [tableOfTwo, List.forall_mem_cons, IsScalarRow]
      exact ⟨by decide, by decide, List.forall_mem_nil _⟩
    exact ⟨rendered, rendered', hrendered, hrendered', hsame,
      (hkeys hscalar hscalar (Fingerprint.areToldApart_self _) hsame).2⟩

end Actor

end ActorFacade
