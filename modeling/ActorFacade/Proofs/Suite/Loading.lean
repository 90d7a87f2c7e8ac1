import ActorFacade.CommandLine.Run
import ActorFacade.Proofs.Files.Resolving
import ActorFacade.Proofs.Suite.Listing
import ActorFacade.Proofs.Value.Circular

/-! # Loading suites from files

A path to the file of a suite or to its directory is resolved to the file, which is read, decoded
and made into a suite.  What goes wrong on the way is a matter of configuration, except for bytes
that are no text (`load_of_names`).  Of what reads the document of the file it is assumed that it
gives it a value or finds it malformed, and that the value can be shown.
-/

namespace ActorFacade

open CommandLine (Concern)

open Disk (ofRoot)

open Inspectable (atom? entries? items? get? KeepsShort)

namespace DocumentReader

/-- A reader gives a document a value, or it finds it malformed. -/
def Reads (read : DocumentReader) (t : Text) : Prop :=
  ∀ fault, read t = .error fault → ∃ words, fault = .malformed words

/-- In the value that a reader gives a document no integer has too many digits. -/
def ReadsShort (read : DocumentReader) (t : Text) : Prop := ∀ c, read t = .ok c → c.IsShort

end DocumentReader

namespace Suite

variable {read : DocumentReader}

/-! ## Reading values -/

/-- A failure is a matter of configuration. -/
def IsOfConfiguration (e : LoadError) : Prop := Concern.ofLoad e = .configuration

/-- What is stored under a text has the properties of all values in the entries. -/
theorem of_get? {α : Type} {P : α → Prop} {es : List (Value × α)} (h : ∀ e ∈ es, P e.2)
    (name : Text) : ∀ x ∈ get? es name, P x := by
  intro x hx
  obtain ⟨e, he, rfl⟩ := Option.map_eq_some_iff.1 hx
  exact h e (List.mem_of_find?_eq_some he)

section Reading

variable {α : Type} [Inspectable α] {P : α → Prop}

/-- Short atoms have a text if they stand for a name. -/
theorem exists_nameText? (hP : KeepsShort P) {v : Option α} (h : ∀ x ∈ v, P x) :
    ∃ t, nameText? v = .ok t := by
  unfold nameText?
  split
  case h_1 a ha =>
    obtain ⟨x, hx, ha⟩ := Option.bind_eq_some_iff.1 ha
    obtain ⟨t, ht⟩ := (hP.atom (h x hx) ha).exists_display
    split
    case h_7 => exact ⟨none, rfl⟩
    all_goals
      rw [ht]
      exact ⟨some t, rfl⟩
  case h_2 => exact ⟨none, rfl⟩

theorem failsOnly_readClassName (hP : KeepsShort P) {es : List (Value × α)}
    (h : ∀ e ∈ es, P e.2) : FailsOnly (IsOfConfiguration ∘ .suite) (readClassName es) := by
  obtain ⟨given, hgiven⟩ := exists_nameText? hP (of_get? h "class_name")
  obtain ⟨actor, hactor⟩ := exists_nameText? hP (of_get? h "actor")
  unfold readClassName
  rw [hgiven, hactor]
  rcases given with _ | _ | ⟨c, name⟩
  case some.cons => exact .ok _
  all_goals
    rcases actor with _ | _ | ⟨c, name⟩
    case some.cons => exact .ok _
    all_goals exact .error rfl

/-- What is given as the list of modules. -/
def moduleList? (es : List (Value × α)) : Option α :=
  match (get? es "modules").bind entries? with
  | some inner => get? inner "enabled"
  | none => get? es "modules"

theorem readModuleList_eq (es : List (Value × α)) : readModuleList es =
    match moduleList? es with
    | none => .error .noModuleList
    | some v => match atom? v, items? v with
      | some .null, _ => .error .noModuleList
      | _, some xs => .ok xs
      | _, none => .error .modulesNotList := rfl

theorem failsOnly_readModuleList (es : List (Value × α)) :
    FailsOnly (IsOfConfiguration ∘ .suite) (readModuleList es) := by
  rw [readModuleList_eq]
  split
  case h_1 => exact .error rfl
  case h_2 =>
    split
    case h_1 => exact .error rfl
    case h_2 => exact .ok _
    case h_3 => exact .error rfl

theorem of_moduleList? (hP : KeepsShort P) {es : List (Value × α)} (h : ∀ e ∈ es, P e.2) :
    ∀ x ∈ moduleList? es, P x := by
  have hgiven := of_get? h "modules"
  unfold moduleList?
  split
  case h_1 inner hinner =>
    obtain ⟨given, hmem, hinner⟩ := Option.bind_eq_some_iff.1 hinner
    exact of_get? (fun e he ↦ (hP.entries (hgiven given hmem) hinner e he).2) "enabled"
  case h_2 => exact hgiven

theorem of_readModuleList (hP : KeepsShort P) {es : List (Value × α)} (h : ∀ e ∈ es, P e.2)
    {xs : List α} (hxs : readModuleList es = .ok xs) : ∀ x ∈ xs, P x := by
  rw [readModuleList_eq] at hxs
  split at hxs
  case h_1 => cases hxs
  case h_2 v hv =>
    split at hxs
    case h_1 => cases hxs
    case h_2 hitems _ =>
      cases hxs
      exact hP.items (of_moduleList? hP h v hv) hitems
    case h_3 => cases hxs

theorem failsOnly_readModules (hP : KeepsShort P) {xs : List α} (h : ∀ x ∈ xs, P x) :
    FailsOnly (IsOfConfiguration ∘ .suite) (readModules xs) := by
  intro e he
  obtain ⟨before, entry, after, rfl, hrefusal, -⟩ := readModules_eq_error_iff.1 he
  have hentry : P entry := h entry (List.mem_append_right _ List.mem_cons_self)
  have hnot {v : Value} (hv : v.IsShort) (hlong : ∃ n ∈ v.integers, Integer.isTooLong n = true) :
      False := by
    obtain ⟨n, hn, hlong⟩ := hlong
    rw [hv n hn] at hlong
    cases hlong
  refine (concern_of_refusal hrefusal).2 ?_
  rintro rfl
  cases hrefusal with
  | longEntry _ hlong => exact hnot (hP.value hentry) hlong
  | longName hpair hlong =>
    exact hnot (hP.entries hentry hpair.2 _ (List.mem_singleton_self _)).1 hlong

theorem failsOnly_ofValue (hP : KeepsShort P) {v : α} (h : P v) (path : Option Text) :
    FailsOnly (IsOfConfiguration ∘ .suite) (ofValue v path) := by
  unfold ofValue
  split
  case h_1 => exact .error rfl
  case h_2 es hes =>
    have hparts : ∀ e ∈ es, P e.2 := fun e he ↦ (hP.entries h hes e he).2
    obtain ⟨space, hspace⟩ := exists_nameText? hP (of_get? hparts "namespace")
    refine (failsOnly_readClassName hP hparts).bind fun name _ ↦ ?_
    refine (failsOnly_readModuleList es).bind fun xs hxs ↦ ?_
    refine (failsOnly_readModules hP (of_readModuleList hP hparts hxs)).bind fun modules _ ↦ ?_
    rw [hspace]
    exact .ok _

end Reading

/-! ## What is read -/

/-- A suite has a name for its class, and different names for its modules, none of them empty. -/
structure IsProper (s : Suite) : Prop where
  className : ∃ name : Text, s.className = .text name ∧ name ≠ []
  modules : ∃ names : List Text, s.modules = .list (names.map .text) ∧ names.Nodup ∧
    ∀ name ∈ names, name ≠ []

theorem isProper_of_ofValue {α : Type} [Inspectable α] {v : α} {path : Option Text} {s : Suite}
    (h : ofValue v path = .ok s) : s.IsProper ∧ s.path = path := by
  unfold ofValue at h
  split at h
  case h_1 => cases h
  case h_2 es _ =>
    obtain ⟨className, hname, h⟩ := bind_eq_ok_iff.1 h
    obtain ⟨xs, -, h⟩ := bind_eq_ok_iff.1 h
    obtain ⟨modules, hmodules, h⟩ := bind_eq_ok_iff.1 h
    obtain ⟨space, -, h⟩ := bind_eq_ok_iff.1 h
    cases h
    obtain ⟨given, hgiven, rfl⟩ := readModules_eq_ok_iff.1 hmodules
    refine ⟨⟨⟨className, rfl, readClassName_ne_nil hname⟩, ?_⟩, rfl⟩
    refine ⟨(given.foldl addModule []).map (·.1), ?_, (areFirsts_foldl_addModule given).nodup, ?_⟩
    · rw [List.map_map]
      rfl
    intro name hmem
    obtain ⟨m, hm, rfl⟩ := List.mem_map.1 hmem
    exact ((mapM_readEntry_eq_ok_iff.1 hgiven).trimmed m
      (List.mem_of_find?_eq_some (mem_foldl_addModule_iff.1 hm))).1

/-! ## Reading files -/

section Files

variable {disk : Disk} {p : Path} {bytes : List UInt8} {text : Text}

theorem readText_of_read (hread : disk.read p = .ok bytes) :
    readText disk p = ((Utf8.decode bytes).mapError .decode).map Text.unifyNewlines := by
  rw [readText, hread]
  show ((Utf8.decode bytes).mapError _ >>= _) = _
  cases Utf8.decode bytes <;> rfl

theorem isShort_ofAtom_null : (Circular.ofAtom .null).IsShort where
  part := List.forall_mem_singleton.2 (Value.isShort_of_eq_nil rfl)
  containers := by simp [Circular.ofAtom]

theorem isShort_empty : Circular.empty.IsShort where
  part := List.forall_mem_nil _
  containers := by simp [Circular.empty, Circular.IsShortContainer, Container.atoms]

/-- Making the value of a document fails as a matter of configuration, and the value is short. -/
theorem valueOf_spec (name : Text) {t : Text} (hreads : read.Reads t) (hshort : read.ReadsShort t) :
    FailsOnly IsOfConfiguration (valueOf read name t) ∧
      ∀ c, valueOf read name t = .ok c → c.IsShort := by
  unfold valueOf
  split
  case isTrue =>
    refine ⟨.ok _, ?_⟩
    intro c hc
    cases hc
    exact isShort_ofAtom_null
  case isFalse =>
    cases hread : read t with
    | ok c =>
      refine ⟨.ok c, ?_⟩
      intro c' hc
      cases hc
      exact hshort c hread
    | error fault =>
      obtain ⟨words, rfl⟩ := hreads fault hread
      exact ⟨.error rfl, nofun⟩

/-- So it is with the mapping in a file. -/
theorem readMapping_spec (htext : readText disk p = .ok text) (hreads : read.Reads text)
    (hshort : read.ReadsShort text) :
    FailsOnly IsOfConfiguration (readMapping read disk p) ∧
      ∀ c, readMapping read disk p = .ok c → c.IsShort := by
  obtain ⟨hfails, hvalue⟩ := valueOf_spec p.name hreads hshort
  rw [readMapping, htext]
  refine ⟨hfails.bind fun c _ ↦ ?_, ?_⟩
  · split
    case h_1 => exact .ok _
    case h_2 => exact .ok _
    case h_3 => exact .error rfl
  · intro c h
    obtain ⟨_, htext, h⟩ := bind_eq_ok_iff.1 h
    cases htext
    obtain ⟨c', hc, h⟩ := bind_eq_ok_iff.1 h
    split at h
    case h_1 =>
      cases h
      exact isShort_empty
    case h_2 =>
      cases h
      exact hvalue c hc
    case h_3 => cases h

end Files

/-! ## Finding files -/

/-- A path names the file at some location: it leads there, or to the directory where the file has
its usual name, or it would lead there if there were more directories. -/
inductive Names (disk : Disk) (p : Path) : Location → Prop
  | file {q : Path} {place : Location} (hq : disk.expandHome p = some q)
    (hplace : disk.locate q = .ok place) (hnode : disk.node? place ≠ some .directory) :
    Names disk p place
  | directory {q : Path} {place : Location} (hq : disk.expandHome p = some q)
    (hplace : disk.locate q = .ok place) (hnode : disk.node? place = some .directory) :
    Names disk p (place ++ fileName.parts)
  | missing {q : Path} (hq : disk.expandHome p = some q) (hup : Path.up ∉ q.parts)
    (hplace : disk.locate q = .error .notFound) : Names disk p (disk.startOf q ++ q.parts)

section Finding

variable {disk : Disk} {p : Path} {file : Location} {bytes : List UInt8}

theorem locate_of_resolve {q : Path} {isDirectory : Bool} (hq : disk.expandHome p = some q)
    (hdirectory : disk.isDirectory q = .ok isDirectory)
    (hparts : ∀ part ∈ q.parts, Path.HasBytes part) :
    locate disk p = .ok (disk.absolute (if isDirectory then q.append fileName else q)) := by
  have hfile : ∀ part ∈ (q.append fileName).parts, Path.HasBytes part :=
    List.forall_mem_append.2 ⟨hparts, List.forall_mem_singleton.2 ⟨_, rfl⟩⟩
  rw [locate, hq]
  simp only [hdirectory]
  cases isDirectory with
  | true => exact congrArg (onPath _) (Disk.resolve_eq_ok hfile)
  | false => exact congrArg (onPath _) (Disk.resolve_eq_ok hparts)

/-- What a path names is found. -/
theorem locate_of_names (hworking : disk.HasWorkingPath) (h : Names disk p file) :
    locate disk p = .ok (ofRoot file) := by
  cases h with
  | @file q _ hq hplace hnode =>
    have hdirectory : disk.isDirectory q = .ok false := by
      rw [Disk.isDirectory, Disk.status_of_locate hplace]
      exact congrArg Except.ok (beq_eq_false_iff_ne.2 hnode)
    have hparts := Path.hasBytes_of_refusal? (Disk.locate_eq_ok_iff.1 hplace).1
    rw [locate_of_resolve hq hdirectory hparts]
    exact congrArg Except.ok (Disk.absolute_of_locate hworking hplace)
  | @directory q place hq hplace hnode =>
    have hdirectory : disk.isDirectory q = .ok true :=
      Disk.isDirectory_eq_true_iff.2 ⟨place, hplace, hnode⟩
    have hparts := Path.hasBytes_of_refusal? (Disk.locate_eq_ok_iff.1 hplace).1
    rw [locate_of_resolve hq hdirectory hparts]
    exact congrArg Except.ok (Disk.absolute_append hworking hplace (by decide))
  | @missing q hq hup hplace =>
    have hdirectory : disk.isDirectory q = .ok false := by
      rw [Disk.isDirectory, Disk.status_of_notFound hplace]
      rfl
    have hparts := Path.hasBytes_of_refusal? (Disk.locate_eq_notFound_iff.1 hplace).1
    rw [locate_of_resolve hq hdirectory hparts]
    exact congrArg Except.ok (Disk.absolute_of_notMem hworking hup)

/-- The path from the root of what a path names leads there too, or to nothing. -/
theorem locate_ofRoot_of_names (htree : disk.IsTree) (hworking : disk.HasWorkingPath)
    (h : Names disk p file) (hshort : (ofRoot file).refusal? = none) :
    disk.locate (ofRoot file) = .ok file ∨ disk.locate (ofRoot file) = .error .notFound := by
  have hnames {q : Path} {place : Location} (hplace : disk.locate q = .ok place) :
      ∀ name ∈ place, Disk.IsName name :=
    Disk.isName_of_walk (Disk.locate_eq_ok_iff.1 hplace).2 (Disk.isName_startOf hworking q)
  cases h with
  | file hq hplace hnode =>
    exact .inl (htree.locate_ofRoot (hnames hplace) (htree.node?_dropLast hplace) hshort)
  | @directory q place hq hplace hnode =>
    have hname : ∀ name ∈ fileName.parts, Disk.IsName name :=
      List.forall_mem_singleton.2 ⟨by decide, by decide⟩
    have hparent : disk.node? (place ++ fileName.parts).dropLast = some .directory := by
      rw [← hnode]
      exact congrArg disk.node? (List.dropLast_concat)
    have hfile := List.forall_mem_append.2 ⟨hnames hplace, hname⟩
    exact .inl (htree.locate_ofRoot hfile hparent hshort)
  | missing hq hup hplace =>
    exact .inr (htree.locate_ofRoot_of_notFound hworking hplace hshort)

/-- What a path names is missing if it cannot be read and is no directory. -/
theorem hasPath_of_names (htree : disk.IsTree) (hworking : disk.HasWorkingPath)
    (h : Names disk p file) (hnode : disk.node? file ≠ some .directory)
    (hshort : (ofRoot file).refusal? = none)
    (hread : ∀ bytes, disk.read (ofRoot file) ≠ .ok bytes) :
    disk.hasPath (ofRoot file) = .ok false := by
  rw [Disk.hasPath]
  rcases locate_ofRoot_of_names htree hworking h hshort with hplace | hplace
  · rw [Disk.status_of_locate hplace]
    rcases hfound : disk.node? file with _ | _ | _
    · rfl
    · exact absurd (Disk.read_eq_ok_iff.2 ⟨file, hplace, hfound⟩) (hread _)
    · exact absurd hfound hnode
  · rw [Disk.status_of_notFound hplace]
    rfl

end Finding

/-! ## Loading -/

section Loading

variable {disk : Disk} {p file : Path} {bytes : List UInt8}

theorem load_of_read (hfile : locate disk p = .ok file) (hread : disk.read file = .ok bytes) :
    load read disk p =
      (readMapping read disk file >>= fun c ↦ (ofValue c file.text).mapError .suite) := by
  obtain ⟨place, hplace, hnode⟩ := Disk.read_eq_ok_iff.1 hread
  have hpath : disk.hasPath file = .ok true := by
    rw [Disk.hasPath, Disk.status_of_locate hplace, hnode]
    rfl
  rw [load, hfile]
  show (onPath file (disk.hasPath file) >>= _) = _
  rw [hpath]
  rfl

theorem load_of_missing (hfile : locate disk p = .ok file) (hpath : disk.hasPath file = .ok false) :
    load read disk p = .error (.missing file) := by
  rw [load, hfile]
  show (onPath file (disk.hasPath file) >>= _) = _
  rw [hpath]
  rfl

theorem load_of_undecodable (hfile : locate disk p = .ok file) (hread : disk.read file = .ok bytes)
    {cause : Utf8.DecodeError} (hdecode : Utf8.decode bytes = .error cause) :
    load read disk p = .error (.decode cause) := by
  rw [load_of_read hfile hread, readMapping, readText_of_read hread, hdecode]
  rfl

/-- Loading text fails as a matter of configuration. -/
theorem failsOnly_load (hfile : locate disk p = .ok file) (hread : disk.read file = .ok bytes)
    {text : Text} (htext : readText disk file = .ok text) (hreads : read.Reads text)
    (hshort : read.ReadsShort text) : FailsOnly IsOfConfiguration (load read disk p) := by
  obtain ⟨hfails, hvalue⟩ := readMapping_spec htext hreads hshort
  rw [load_of_read hfile hread]
  refine hfails.bind fun c hc ↦ ?_
  exact .mapError (failsOnly_ofValue Circular.keepsShort (hvalue c hc) file.text)

theorem isProper_of_load (hfile : locate disk p = .ok file) {s : Suite}
    (h : load read disk p = .ok s) : s.IsProper ∧ s.path = some file.text := by
  rw [load, hfile] at h
  obtain ⟨_, hpath, h⟩ := bind_eq_ok_iff.1 h
  cases hpath
  obtain ⟨found, -, h⟩ := bind_eq_ok_iff.1 h
  split at h
  case isTrue => cases h
  case isFalse =>
    obtain ⟨c, -, h⟩ := bind_eq_ok_iff.1 h
    exact isProper_of_ofValue (mapError_eq_ok_iff.1 h)

end Loading

end Suite

namespace CommandLine

/-- The program says what is wrong with a suite that it cannot load, and ends with the status one,
if this is a matter of configuration. -/
theorem run_of_load_error {tools : Tools} {disk disk' : Disk} {environment : Environment}
    {time : Text} {args : List Text} {r : Request} {reporting : Reporting} {e : Suite.LoadError}
    (hargs : readArguments args = .request r)
    (hready : Reporting.configure disk r.reporting = (disk', reporting, .ok ()))
    (hload : Suite.load tools.read disk' (Path.ofText r.path) = .error e)
    (he : Suite.IsOfConfiguration e) :
    (run tools disk environment time args).ending.code = 1 ∧
      (run tools disk environment time args).errors =
        "actorgen build failed: " ++ e.message ++ Text.newline := by
  have hcomplaint : (Fault.load e).complaint? =
      some ("actorgen build failed: " ++ e.message ++ Text.newline) := by
    have hconcern : (Fault.load e).concern = .configuration := he
    rw [Fault.complaint?, hconcern]
    rfl
  have hending : (run tools disk environment time args).ending =
      .failed (.load e) ("actorgen build failed: " ++ e.message ++ Text.newline) := by
    rw [run, hargs]
    simp only [perform, hready, build, hload]
    show endingOf _ (.error (.load e)) = _
    rw [endingOf, hcomplaint]
  have hconsole : (run tools disk environment time args).console = [] := by
    rw [run, hargs]
    simp only [perform, hready, build, hload]
    rfl
  rw [Outcome.errors, hending, hconsole]
  exact ⟨rfl, rfl⟩

end CommandLine

namespace Suite

/-- A path that names the file of a suite, or the directory where the file is or would be, loads a
suite with a name for its class and different names for its modules, none of them empty, or it fails
as a matter of configuration, with one exception: the bytes of the file are no text.  In a matter of
configuration the program says what is wrong and ends with the status one.  This is so for all
readers of documents that give the text of the file a value that can be shown or find it malformed.
The path of the file from the root is one that the system takes, as its names alone do not decide
how long it is. -/
theorem load_of_names {read : DocumentReader} {disk : Disk} {p : Path} {file : Location}
    (htree : disk.IsTree) (hworking : disk.HasWorkingPath) (hnames : Names disk p file)
    (hnode : disk.node? file ≠ some .directory) (hpath : (ofRoot file).refusal? = none)
    (hreads : ∀ text, readText disk (ofRoot file) = .ok text → read.Reads text)
    (hshort : ∀ text, readText disk (ofRoot file) = .ok text → read.ReadsShort text) :
    (∀ s, load read disk p = .ok s → s.IsProper ∧ s.path = some (ofRoot file).text) ∧
    (∀ e, load read disk p = .error e →
      Concern.ofLoad e = .configuration ∨ ∃ cause, e = .decode cause) ∧
    (∀ cause, load read disk p = .error (.decode cause) ↔
      ∃ bytes, disk.read (ofRoot file) = .ok bytes ∧ Utf8.decode bytes = .error cause) ∧
    ((∀ bytes, disk.read (ofRoot file) ≠ .ok bytes) →
      load read disk p = .error (.missing (ofRoot file))) ∧
    ∀ (notice : Record → Notice) (disk₀ : Disk) (environment : Environment) (time : Text)
      (args : List Text) (r : CommandLine.Request) (reporting : Reporting) (e : LoadError),
      CommandLine.readArguments args = .request r → Path.ofText r.path = p →
      Reporting.configure disk₀ r.reporting = (disk, reporting, .ok ()) →
      load read disk p = .error e → Concern.ofLoad e = .configuration →
      (CommandLine.run ⟨read, notice⟩ disk₀ environment time args).ending.code = 1 ∧
        (CommandLine.run ⟨read, notice⟩ disk₀ environment time args).errors =
          "actorgen build failed: " ++ e.message ++ Text.newline := by
  have hfile := locate_of_names hworking hnames
  have hmissing (hread : ∀ bytes, disk.read (ofRoot file) ≠ .ok bytes) :
      load read disk p = .error (.missing (ofRoot file)) :=
    load_of_missing hfile (hasPath_of_names htree hworking hnames hnode hpath hread)
  -- what else can go wrong is decided by whether the file is there and is text
  have hcases : FailsOnly IsOfConfiguration (load read disk p) ∨ ∃ bytes cause,
      disk.read (ofRoot file) = .ok bytes ∧ Utf8.decode bytes = .error cause := by
    by_cases hread : ∃ bytes, disk.read (ofRoot file) = .ok bytes
    · obtain ⟨bytes, hread⟩ := hread
      cases hdecode : Utf8.decode bytes with
      | error cause => exact .inr ⟨bytes, cause, hread, hdecode⟩
      | ok text =>
        have htext : readText disk (ofRoot file) = .ok text.unifyNewlines := by
          rw [readText_of_read hread, hdecode]
          rfl
        exact .inl (failsOnly_load hfile hread htext (hreads _ htext) (hshort _ htext))
    · rw [hmissing (not_exists.1 hread)]
      exact .inl (.error rfl)
  refine ⟨fun s ↦ isProper_of_load hfile, ?_, ?_, hmissing, ?_⟩
  · intro e he
    rcases hcases with hfails | ⟨bytes, cause, hread, hdecode⟩
    · exact .inl (hfails e he)
    · exact .inr ⟨cause, Except.error.inj (he.symm.trans (load_of_undecodable hfile hread hdecode))⟩
  · intro cause
    constructor
    · intro h
      rcases hcases with hfails | ⟨bytes, cause', hread, hdecode⟩
      · cases hfails _ h
      · cases h.symm.trans (load_of_undecodable hfile hread hdecode)
        exact ⟨bytes, hread, hdecode⟩
    · rintro ⟨bytes, hread, hdecode⟩
      exact load_of_undecodable hfile hread hdecode
  · rintro notice disk₀ environment time args r reporting e hargs rfl hready hload he
    exact CommandLine.run_of_load_error hargs hready hload he

/-- A disk with some bytes in the file of a suite. -/
def diskOf (bytes : List UInt8) : Disk := ({} : Disk).set fileName.parts (.file bytes)

theorem isTree_diskOf (bytes : List UInt8) : (diskOf bytes).IsTree :=
  Disk.isTree_empty.set (by decide) rfl _

theorem hasWorkingPath_diskOf (bytes : List UInt8) : (diskOf bytes).HasWorkingPath :=
  List.forall_mem_nil _

/-- The working directory names the file in it. -/
theorem names_diskOf (bytes : List UInt8) :
    Names (diskOf bytes) (Path.ofText ".") fileName.parts := by
  show Names (diskOf bytes) (Path.ofText ".") ([] ++ fileName.parts)
  exact .directory rfl rfl rfl

/-- A document with a name and a module. -/
def smallDocument : Text := "actor: A\nmodules: [M]\n"

/-- Its value. -/
def smallValue : Circular where
  containers := #[.dict [(.text "actor", .atom (.text "A")), (.text "modules", .container 1)],
    .list [.atom (.text "M")]]
  part := .container 0

/-- What reads this document and finds all others malformed. -/
def readSmall : DocumentReader := fun t ↦
  if t = smallDocument then .ok smallValue else .error (.malformed "")

theorem reads_readSmall (t : Text) : readSmall.Reads t := by
  intro fault h
  unfold readSmall at h
  split at h
  · cases h
  · cases h
    exact ⟨_, rfl⟩

theorem readsShort_readSmall (t : Text) : readSmall.ReadsShort t := by
  intro c h
  have hatoms : ∀ k ∈ smallValue.containers.toList, ∀ a ∈ k.atoms,
      (Value.atom a).integers = [] := by decide +kernel
  unfold readSmall at h
  split at h
  · cases h
    refine ⟨List.forall_mem_nil _, fun k hk a ha ↦ ?_⟩
    exact Value.isShort_of_eq_nil (hatoms k (Array.mem_toList_iff.2 hk) a ha)
  · cases h

/-- It is loaded from the working directory. -/
theorem load_of_names_small :
    ∃ s, load readSmall (diskOf (smallDocument.map Nat.toUInt8)) (Path.ofText ".") = .ok s ∧
      s.IsProper ∧ s.className = .text "A" := by
  let disk := diskOf (smallDocument.map Nat.toUInt8)
  obtain ⟨hproper, -⟩ := load_of_names (isTree_diskOf _) (hasWorkingPath_diskOf _)
    (names_diskOf _) nofun (by decide +kernel) (fun text _ ↦ reads_readSmall text)
    fun text _ ↦ readsShort_readSmall text
  have hname : (load readSmall disk (Path.ofText ".")).toOption.map (·.className) =
      some (.text "A") := by
    decide +kernel
  obtain ⟨s, hload, hname⟩ := Option.map_eq_some_iff.1 hname
  exact ⟨s, toOption_eq_some_iff.1 hload, (hproper s (toOption_eq_some_iff.1 hload)).1, hname⟩

/-- A byte that is no text is no matter of configuration, whatever reads documents. -/
theorem load_of_undecodable_file :
    (diskOf [0xFF]).IsTree ∧ Names (diskOf [0xFF]) (Path.ofText ".") fileName.parts ∧
      (diskOf [0xFF]).read (ofRoot fileName.parts) = .ok [0xFF] ∧
      ∀ read, ∃ e, load read (diskOf [0xFF]) (Path.ofText ".") = .error e ∧
        Concern.ofLoad e ≠ .configuration := by
  refine ⟨isTree_diskOf _, names_diskOf _, rfl, fun read ↦ ?_⟩
  refine ⟨.decode ⟨0xFF, 0, 1, .invalidStart⟩, ?_, nofun⟩
  exact load_of_undecodable (locate_of_names (hasWorkingPath_diskOf _) (names_diskOf _)) rfl rfl

end Suite

end ActorFacade
