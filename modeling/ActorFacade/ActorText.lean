import ActorFacade.Template

/-! # The text of an actor

The three templates that an actor is made of: the class with its stamp on the first line, a method
that forwards its call, and a line about an inherited method.
-/

namespace ActorFacade.ActorText

open Template (placeholder)

/-- What the first line of an actor begins with; the fingerprint follows. -/
def stampMark : Text := "<?php //[STAMP] "

/-- The class. -/
def actor : Text :=
  Text.join Text.newline
    [stampMark ++ placeholder "hash",
     "",
     "// Generated by actorgen from the configured modules.",
     "// Manual edits are overwritten on the next build.",
     "// @codingStandardsIgnoreFile",
     "",
     placeholder "namespace",
     placeholder "use",
     "",
     "/**",
     " * Inherited Methods",
     placeholder "inherited_methods",
     " *",
     " * @SuppressWarnings(PHPMD)",
     "*/",
     "class " ++ placeholder "actor" ++ " extends \\Actorgen\\Actor",
     "\x7b",
     "   " ++ placeholder "methods",
     "\x7d",
     ""]

/-- A method. -/
def method : Text :=
  Text.join Text.newline
    ["",
     "    /**",
     "     * [!] Method is generated. Documentation taken from corresponding module.",
     "     *",
     "     " ++ placeholder "doc",
     "     * @see \\" ++ placeholder "module" ++ "::" ++ placeholder "method" ++ "()",
     "     */",
     "    public function " ++ placeholder "action" ++ "(" ++ placeholder "params" ++ ") \x7b",
     "        return $this->scenario->runStep(new \\Actorgen\\Step\\" ++ placeholder "step" ++
       "('" ++ placeholder "method" ++ "', func_get_args()));",
     "    \x7d"]

/-- The line about an inherited method. -/
def inheritedMethod : Text :=
  " * @method void " ++ placeholder "method" ++ "(" ++ placeholder "params" ++ ")"

end ActorFacade.ActorText
