import ActorFacade.Proofs.Actor.Collection
import ActorFacade.Proofs.Template.Filling
import ActorFacade.Proofs.Text.Join

/-! # The text of a rendered actor

The three templates of an actor are walled, so its text is that of substitution at once, of values
that are settled within their own template (`text_of_produceWith`).  Method bodies are placed last
and stand in the text as they are.
-/

namespace ActorFacade

open Template (Segment settled AreFinal substitute filledOf)

/-! ## Templates as segments -/

namespace ActorText

/-- The segments of the class. -/
def actorSegments : List Segment :=
  [.text stampMark, .placeholder "hash",
    .text ("\n\n// Generated by actorgen from the configured modules.\n" ++
      "// Manual edits are overwritten on the next build.\n// @codingStandardsIgnoreFile\n\n"),
    .placeholder "namespace", .text "\n", .placeholder "use",
    .text "\n\n/**\n * Inherited Methods\n", .placeholder "inherited_methods",
    .text "\n *\n * @SuppressWarnings(PHPMD)\n*/\nclass ", .placeholder "actor",
    .text " extends \\Actorgen\\Actor\n\x7b\n   ", .placeholder "methods", .text "\n\x7d\n"]

/-- The line with the name and the parameters of a method, without the blanks before it. -/
def head (action params : Text) : Text :=
  "public function " ++ action ++ "(" ++ params ++ ") \x7b"

/-- This line between line ends. -/
def headLine (action params : Text) : Text := "\n    " ++ head action params ++ "\n"

/-- The segments of a method. -/
def methodSegments : List Segment :=
  [.text ("\n    /**\n     * [!] Method is generated. Documentation taken from corresponding " ++
      "module.\n     *\n     "), .placeholder "doc",
    .text "\n     * @see \\", .placeholder "module", .text "::", .placeholder "method",
    .text (Text.ofString "()\n     */" ++ Text.ofString "\n    " ++ "public function "),
    .placeholder "action", .text "(",
    .placeholder "params",
    .text (Text.ofString ") \x7b" ++ Text.ofString "\n" ++
      "        return $this->scenario->runStep(new \\Actorgen\\Step\\"),
    .placeholder "step", .text "('", .placeholder "method", .text "', func_get_args()));\n    \x7d"]

/-- The segments of the line about an inherited method. -/
def inheritedSegments : List Segment :=
  [.text " * @method void ", .placeholder "method", .text "(", .placeholder "params", .text ")"]

theorem sourceOf_actorSegments : Template.sourceOf actorSegments = actor := by decide +kernel

theorem sourceOf_methodSegments : Template.sourceOf methodSegments = method := by decide +kernel

theorem sourceOf_inheritedSegments : Template.sourceOf inheritedSegments = inheritedMethod := by
  decide +kernel

/-- The names that are placed in the class. -/
def actorNames : List Text :=
  ["hash", "namespace", "use", "actor", "inherited_methods", "methods"]

/-- The names that are placed in a method. -/
def methodNames : List Text := ["module", "method", "action", "step", "params", "doc"]

/-- The names that are placed in the line about an inherited method. -/
def inheritedNames : List Text := ["method", "params"]

theorem isPlaceable_actor : Template.IsPlaceable actorNames actorSegments where
  sound := by decide +kernel
  walled := by decide +kernel
  braceFree := by decide
  nodup := by decide

theorem isPlaceable_method : Template.IsPlaceable methodNames methodSegments where
  sound := by decide +kernel
  walled := by decide +kernel
  braceFree := by decide
  nodup := by decide

theorem isPlaceable_inherited : Template.IsPlaceable inheritedNames inheritedSegments where
  sound := by decide +kernel
  walled := by decide +kernel
  braceFree := by decide
  nodup := by decide

end ActorText

/-! ## Methods -/

namespace ActorMethod

/-- The text of a method is that of substitution at once, of settled values. -/
theorem text_eq_substitute (m : ActorMethod) :
    m.text = substitute (settled m.placements) ActorText.method := by
  rw [text, ← ActorText.sourceOf_methodSegments]
  exact Template.fillWith_eq_substitute ActorText.isPlaceable_method

/-- The name of a method as it stands in the text. -/
def shownAction (m : ActorMethod) : Text :=
  Template.fill ⟨m.action, [("step", m.role.name), ("params", m.params), ("doc", m.doc)]⟩

/-- The parameters of a method as they stand in the text. -/
def shownParams (m : ActorMethod) : Text :=
  Text.replaceAll m.params (Template.placeholder "doc") m.doc

theorem shownAction_eq {m : ActorMethod}
    (h : ∀ name ∈ ["step", "params", "doc"].map Text.ofString,
      Text.occursIn (Template.placeholder name) m.action = false) : m.shownAction = m.action := by
  refine Template.fill_eq_self ?_
  intro nv hnv
  exact h nv.1 (List.mem_map_of_mem (f := Prod.fst) hnv)

theorem shownParams_eq {m : ActorMethod}
    (h : Text.occursIn (Template.placeholder "doc") m.params = false) : m.shownParams = m.params :=
  Text.replaceAll_eq_self (Text.occursIn_eq_false_iff.1 h)

/-- The line with the name and the parameters of a method is in its text. -/
theorem headLine_infix_text (m : ActorMethod) :
    ActorText.headLine m.shownAction m.shownParams <:+: m.text := by
  have hplaceable : Template.IsPlaceable (m.placements.map (·.1)) ActorText.methodSegments :=
    ActorText.isPlaceable_method
  rw [text_eq_substitute, ← ActorText.sourceOf_methodSegments,
    Template.substitute_sourceOf hplaceable.braceFree_settled hplaceable.sound]
  let f := Segment.filled (settled m.placements)
  have htext : ∀ t, f (.text t) = t := fun _ ↦ rfl
  have haction : f (.placeholder "action") = m.shownAction := rfl
  have hparams : f (.placeholder "params") = m.shownParams := rfl
  refine ⟨(ActorText.methodSegments.take 6).flatMap f ++ Text.ofString "()\n     */",
    Text.ofString "        return $this->scenario->runStep(new \\Actorgen\\Step\\" ++
      (ActorText.methodSegments.drop 11).flatMap f, ?_⟩
  rw [ActorText.headLine, ActorText.head, ← haction, ← hparams]
  show _ = ActorText.methodSegments.flatMap f
  simp only [ActorText.methodSegments, List.take, List.drop, List.flatMap_cons, List.flatMap_nil,
    htext, List.append_assoc, List.append_nil]

end ActorMethod

/-! ## Inherited methods -/

namespace Inherited

/-- The values of an inherited method in its template. -/
def placements (m : Text × Text) : List (Text × Text) := [("method", m.1), ("params", m.2)]

/-- The name of a method of a base with its parameters. -/
def signature (base : TypeDeclaration) (m : MethodDeclaration) :
    Except Signature.Failure (Text × Text) := do
  return (m.name, ← Signature.ofParameters m.parameters base.name)

/-- The names of the listed methods of a base with their parameters. -/
def signatures (base : TypeDeclaration) : Except Signature.Failure (List (Text × Text)) :=
  (listed base).mapM (signature base)

/-- The line about an inherited method is that of substitution at once, of settled values. -/
theorem lines_eq_ok {base : TypeDeclaration} {t : Text} (h : lines base = .ok t) :
    ∃ inherited, signatures base = .ok inherited ∧ t = Text.join Text.newline
      (inherited.map fun m ↦ substitute (settled (placements m)) ActorText.inheritedMethod) := by
  obtain ⟨ts, hts, h⟩ := bind_eq_ok_iff.1 h
  cases h
  have hline : ∀ m : Text × Text, Template.fillWith ActorText.inheritedMethod (placements m) =
      substitute (settled (placements m)) ActorText.inheritedMethod := by
    intro m
    rw [← ActorText.sourceOf_inheritedSegments]
    exact Template.fillWith_eq_substitute ActorText.isPlaceable_inherited
  have hmap : line base = fun m ↦ do
      return Template.fillWith ActorText.inheritedMethod (placements (← signature base m)) := by
    funext m
    unfold line signature
    cases Signature.ofParameters m.parameters base.name <;> rfl
  rw [hmap] at hts
  obtain ⟨inherited, hinherited, rfl⟩ := mapM_eq_ok_of_map hts
  refine ⟨inherited, hinherited, ?_⟩
  rw [List.map_congr_left fun m _ ↦ hline m]

end Inherited

/-! ## Actors -/

namespace Actor

/-- What the text of an actor is made of. -/
structure Parts where
  /-- The fingerprint. -/
  hash : Text
  /-- The namespace. -/
  space : Text
  /-- The lines that name the types of the providers. -/
  uses : List Text
  /-- The name of the class. -/
  name : Text
  /-- The inherited methods with their parameters. -/
  inherited : List (Text × Text)
  /-- The methods. -/
  methods : List ActorMethod

namespace Parts

variable (adjust : List (Text × Text) → List (Text × Text)) (p : Parts)

/-- The values of the class, of which the last ones are texts of templates themselves. -/
def values : List (Text × Text) :=
  placements p.hash (spaceLine p.space) (Text.join Text.newline p.uses) p.name
    (Text.join Text.newline (p.inherited.map fun m ↦
      substitute (adjust (Inherited.placements m)) ActorText.inheritedMethod))
    (Text.join Text.newline (p.methods.map fun m ↦
      substitute (adjust m.placements) ActorText.method))

/-- The text in which all placeholders of a template are replaced at once; the values of each
template are adjusted before. -/
def text : Text := substitute (adjust (p.values adjust)) ActorText.actor

/-- No value has a placeholder of a name that is placed behind it in the same template. -/
def IsFinal : Prop :=
  AreFinal (p.values id) ∧ (∀ m ∈ p.inherited, AreFinal (Inherited.placements m)) ∧
    ∀ m ∈ p.methods, AreFinal m.placements

variable {p}

/-- Parts without such placeholders make up the text of plain substitution. -/
theorem IsFinal.text_settled (h : p.IsFinal) : p.text settled = p.text id := by
  obtain ⟨hvalues, hinherited, hmethods⟩ := h
  have hequal : p.values settled = p.values id := by
    unfold values
    congr 2
    · refine List.map_congr_left fun m hm ↦ ?_
      rw [Template.settled_eq_self (hinherited m hm), id]
    · refine List.map_congr_left fun m hm ↦ ?_
      rw [Template.settled_eq_self (hmethods m hm), id]
  rw [text, text, hequal, Template.settled_eq_self hvalues, id]

/-- The text of a method stands in the text of the actor as it is. -/
theorem text_infix {m : ActorMethod} (hm : m ∈ p.methods) : m.text <:+: p.text settled := by
  have hplaceable : Template.IsPlaceable ((p.values settled).map (·.1)) ActorText.actorSegments :=
    ActorText.isPlaceable_actor
  have hmem : Segment.placeholder "methods" ∈ ActorText.actorSegments := by
    simp [ActorText.actorSegments]
  have hbodies : Text.join Text.newline (p.methods.map ActorMethod.text) =
      Segment.filled (settled (p.values settled)) (.placeholder "methods") := by
    rw [funext ActorMethod.text_eq_substitute]
    rfl
  rw [text, ← ActorText.sourceOf_actorSegments,
    Template.substitute_sourceOf hplaceable.braceFree_settled hplaceable.sound]
  refine List.IsInfix.trans ?_ (Template.filled_infix_filledOf _ hmem)
  rw [← hbodies]
  exact Text.infix_join (List.mem_map_of_mem hm)

end Parts

variable {ρ : Type} {s : Source ρ} {o : Options} {suite : Suite}

/-- The parts of a text that is rendered. -/
theorem exists_parts_of_render {modules : ResolvedModules} {table : ActionTable}
    {methods : List ActorMethod} {t : Text} (h : render s o suite modules table methods = .ok t) :
    ∃ p : Parts, stamp o suite table = .ok p.hash ∧ suite.qualifiedSpace = .ok p.space ∧
      modules.mapM (fun m ↦ useLine s m.2) = .ok p.uses ∧ className suite = .ok p.name ∧
      Inherited.signatures o.base = .ok p.inherited ∧ p.methods = methods ∧
      t = p.text settled := by
  obtain ⟨uses, huses, h⟩ := bind_eq_ok_iff.1 h
  obtain ⟨space, hspace, h⟩ := bind_eq_ok_iff.1 h
  obtain ⟨hash, hhash, h⟩ := bind_eq_ok_iff.1 h
  obtain ⟨name, hname, h⟩ := bind_eq_ok_iff.1 h
  obtain ⟨block, hblock, h⟩ := bind_eq_ok_iff.1 h
  cases h
  obtain ⟨inherited, hinherited, rfl⟩ := Inherited.lines_eq_ok (mapError_eq_ok_iff.1 hblock)
  refine ⟨⟨hash, space, uses, name, inherited, methods⟩, hhash, mapError_eq_ok_iff.1 hspace, huses,
    hname, hinherited, rfl, ?_⟩
  rw [← ActorText.sourceOf_actorSegments, Template.fillWith_eq_substitute (by
    exact ActorText.isPlaceable_actor), funext ActorMethod.text_eq_substitute,
    ActorText.sourceOf_actorSegments]
  rfl

/-- The text of a rendered actor is that in which all placeholders of a template are replaced at
once by settled values.  Where no value has a placeholder of a name behind it, it is the text in
which they are replaced by the values as they are.  The line with the name and the parameters of a
method is there, with the same exception. -/
theorem text_of_produceWith {r : Registry} {rendered : Rendered}
    (h : (produceWith s r o suite).result = .ok rendered) :
    ∃ modules table, ∃ p : Parts, (survey r s suite).result = .ok (modules, table) ∧
      stamp o suite table = .ok p.hash ∧ suite.qualifiedSpace = .ok p.space ∧
      modules.mapM (fun m ↦ useLine s m.2) = .ok p.uses ∧ className suite = .ok p.name ∧
      Inherited.signatures o.base = .ok p.inherited ∧ p.methods = rendered.methods ∧
      rendered.text = p.text settled ∧ (p.IsFinal → rendered.text = p.text id) ∧
      ∀ m ∈ rendered.methods,
        Text.occursIn (ActorText.headLine m.shownAction m.shownParams) rendered.text = true ∧
        ((∀ name ∈ ["step", "params", "doc"].map Text.ofString,
            Text.occursIn (Template.placeholder name) m.action = false) →
          Text.occursIn (Template.placeholder "doc") m.params = false →
            Text.occursIn (ActorText.headLine m.action m.params) rendered.text = true) := by
  obtain ⟨modules, table, hsurvey, -, hrender⟩ := exists_of_produceWith h
  obtain ⟨p, hhash, hspace, huses, hname, hinherited, hmethods, htext⟩ :=
    exists_parts_of_render hrender
  refine ⟨modules, table, p, hsurvey, hhash, hspace, huses, hname, hinherited, hmethods, htext,
    ?_, ?_⟩
  · intro hfinal
    rw [htext, hfinal.text_settled]
  · intro m hm
    have hline : Text.occursIn (ActorText.headLine m.shownAction m.shownParams) rendered.text =
        true := by
      rw [Text.occursIn_iff, htext]
      exact m.headLine_infix_text.trans (Parts.text_infix (hmethods ▸ hm))
    refine ⟨hline, ?_⟩
    intro haction hparams
    rwa [ActorMethod.shownAction_eq haction, ActorMethod.shownParams_eq hparams] at hline

/-- A source with an operation that has a placeholder as a default. -/
def sourceOfPlaceholder : Source Unit :=
  sourceOfType "T" ["login"]
    [{ name := "a", optional := true, default := .text (Template.placeholder "doc") }] "D"

/-- A registry with one module. -/
def registryOfModule : Registry :=
  { providers := [("M", .handle "T" .null .null)], useEntryPoints := false }

/-- A suite with one module. -/
def suiteOfModule (name : Text) : Suite :=
  { className := .text name, modules := .list [.text "M"] }

/-- The method of this operation is shown with its documentation in place of the default, and
nowhere with the default itself. -/
theorem exists_of_placeholder :
    ∃ rendered, (produceWith sourceOfPlaceholder registryOfModule {} (suiteOfModule "A")).result =
        .ok rendered ∧
      ∃ m ∈ rendered.methods, m.shownAction = Text.ofString "login" ∧
        m.shownParams = Text.ofString "$a = \"* D\"" ∧
        Text.occursIn (ActorText.head m.action m.params) rendered.text = false := by
  have hmethods : ((produceWith sourceOfPlaceholder registryOfModule {}
      (suiteOfModule "A")).result.toOption.map fun rendered ↦ rendered.methods.map fun m ↦
        (m.shownAction, m.shownParams,
          Text.occursIn (ActorText.head m.action m.params) rendered.text)) =
      some [(Text.ofString "login", Text.ofString "$a = \"* D\"", false)] := by decide +kernel
  cases h : (produceWith sourceOfPlaceholder registryOfModule {} (suiteOfModule "A")).result with
  | error e =>
    rw [h] at hmethods
    cases hmethods
  | ok rendered =>
    rw [h] at hmethods
    obtain ⟨m, hm, hshown⟩ := List.mem_map.1
      ((Option.some.inj hmethods).symm ▸ List.mem_singleton_self _)
    obtain ⟨haction, hshown⟩ := Prod.mk.inj hshown
    obtain ⟨hparams, hfalse⟩ := Prod.mk.inj hshown
    exact ⟨rendered, rfl, m, hm, haction, hparams, hfalse⟩

/-- The documentation takes the place of the default. -/
theorem text_of_produceWith_replaced :
    ∃ rendered, (produceWith sourceOfPlaceholder registryOfModule {} (suiteOfModule "A")).result =
        .ok rendered ∧
      Text.occursIn (ActorText.headLine "login" "$a = \"* D\"") rendered.text = true := by
  obtain ⟨rendered, h, m, hm, haction, hparams, -⟩ := exists_of_placeholder
  obtain ⟨_, _, _, -, -, -, -, -, -, -, -, -, hlines⟩ := text_of_produceWith h
  refine ⟨rendered, h, ?_⟩
  rw [← haction, ← hparams]
  exact (hlines m hm).1

/-- The line with the default as it is in the record of the method is not in the text, which is not
that of plain substitution. -/
theorem text_of_produceWith_not_verbatim :
    ∃ rendered, (produceWith sourceOfPlaceholder registryOfModule {} (suiteOfModule "A")).result =
        .ok rendered ∧
      ∃ m ∈ rendered.methods, Text.occursIn (ActorText.head m.action m.params) rendered.text =
        false := by
  obtain ⟨rendered, h, m, hm, -, -, hfalse⟩ := exists_of_placeholder
  exact ⟨rendered, h, m, hm, hfalse⟩

end Actor

end ActorFacade
