import ActorFacade.CommandLine.Run

/-! # Places

A disk need not be known as a whole to run the program: `places` lists the locations that matter for
a request.  Where the actor goes is known only when its suite is, so the places of a disk that lacks
the suite are a part of those of one that has it.  `changes` says what the program has done to a
disk.
-/

namespace ActorFacade.CommandLine

/-- The paths that a request names or implies. -/
def pathsOf (read : DocumentReader) (disk : Disk) (r : Request) : List Path :=
  let given := Path.ofText r.path
  let suite := (disk.expandHome given).toList
  let target := match Suite.load read disk given with
    | .ok s => (Build.defaultPath disk s).toOption.toList
    | .error _ => []
  suite ++ suite.map (·.append Suite.fileName) ++ target ++ (givenPath r.output).toList ++
    (givenPath r.logFile).toList

/-- The locations that a path leads through. -/
def placesOn (disk : Disk) (p : Path) : List Location :=
  (List.range (p.parts.length + 1)).map fun n ↦
    (disk.absolute { p with parts := p.parts.take n }).parts

/-- The locations that matter for a request. -/
def places (read : DocumentReader) (disk : Disk) (r : Request) : List Location :=
  ((pathsOf read disk r).flatMap fun p ↦ placesOn disk (disk.workingPath.append p)).eraseDups

/-- The nodes of a disk that are not in an older one. -/
def changes (old new : Disk) : List (Location × FileNode) :=
  new.nodes.filter fun n ↦ old.node? n.1 != some n.2

end ActorFacade.CommandLine
