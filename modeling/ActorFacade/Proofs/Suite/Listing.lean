import ActorFacade.CommandLine.Complaint
import ActorFacade.Proofs.FirstPlaces
import ActorFacade.Proofs.Text.Trimming
import ActorFacade.Proofs.Value.Display
import ActorFacade.Suite.Reading
import Mathlib.Algebra.Group.Int.Defs

/-! # Lists of modules

What a list of modules is read as has a normal form: the trimmed names in the order of their first
places, each once and with what its first entry says, and the list of these is read as itself.  A
list is refused for its first entry that is of no use, be its name new or not
(`readModules_normal`).
-/

namespace ActorFacade.Suite

open Inspectable (text? atom? entries? entriesInFull)

variable {α : Type} [Inspectable α]

/-! ## What entries say -/

/-- An entry is a mapping with one key. -/
def IsPair (entry : α) (key : Value) (given : α) : Prop :=
  text? entry = none ∧ entries? entry = some [(key, given)]

/-- An entry is neither a text nor a mapping with one key. -/
def IsStray (entry : α) : Prop :=
  text? entry = none ∧ ∀ key given, entries? entry ≠ some [(key, given)]

/-- An entry says a name, with the blanks around it, and some options. -/
inductive Says (entry : α) (name : Text) : Entries → Prop
  | text (h : text? entry = some name) : Says entry name []
  | bare {key : Value} {given : α} (h : IsPair entry key given)
    (hgiven : atom? given = some .null) (hname : key.display = .ok name) : Says entry name []
  | options {key : Value} {given : α} {es : List (Value × α)} (h : IsPair entry key given)
    (hgiven : atom? given ≠ some .null) (hes : entries? given = some es)
    (hname : key.display = .ok name) : Says entry name (entriesInFull es)

/-- An entry is of no use, for some reason. -/
inductive Refusal (entry : α) : ReadError → Prop
  | stray {shown : Text} (h : IsStray entry)
    (hshown : (Inspectable.value entry).shown = .ok shown) :
    Refusal entry (.unsupportedEntry shown)
  | options {key : Value} {given : α} {name : Text} (h : IsPair entry key given)
    (hgiven : atom? given ≠ some .null) (hes : entries? given = none)
    (hname : key.display = .ok name) : Refusal entry (.optionsNotMapping name)
  | blank {name : Text} {options : Entries} (h : Says entry name options) (hname : name.trim = []) :
    Refusal entry .emptyName
  /-- The message cannot show the entry. -/
  | longEntry (h : IsStray entry)
    (hlong : ∃ n ∈ (Inspectable.value entry).integers, Integer.isTooLong n = true) :
    Refusal entry (.limit .write)
  /-- The name cannot be written. -/
  | longName {key : Value} {given : α} (h : IsPair entry key given)
    (hlong : ∃ n ∈ key.integers, Integer.isTooLong n = true) : Refusal entry (.limit .write)

section

variable {entry : α} {key : Value} {given : α}

theorem readEntry_of_pair (h : IsPair entry key given) : readEntry entry = (do
    let options ← readOptions key given
    return (← readName (← readable key.display), options)) := by
  simp only [readEntry, h.1, h.2]

theorem readEntry_of_stray (h : IsStray entry) : readEntry entry = (do
    throw (.unsupportedEntry (← readable (Inspectable.value entry).shown))) := by
  unfold readEntry
  split
  case h_1 name htext => cases h.1.symm.trans htext
  case h_2 key given htext hentries => exact absurd hentries (h.2 key given)
  case h_3 => rfl

theorem readOptions_of_null (hgiven : atom? given = some .null) (key : Value) :
    readOptions key given = .ok [] := by
  unfold readOptions
  rw [hgiven]

theorem readOptions_of_ne_null (hgiven : atom? given ≠ some .null) (key : Value) :
    readOptions key given = match entries? given with
      | some es => .ok (entriesInFull es)
      | none => (do throw (.optionsNotMapping (← readable key.display))) := by
  unfold readOptions
  split
  case h_1 hnull => exact absurd hnull hgiven
  case h_2 hes _ => rw [hes]
  case h_3 hes _ => rw [hes]

theorem readName_of_ne_nil {name : Text} (h : name.trim ≠ []) : readName name = .ok name.trim :=
  if_neg (by simpa using h)

/-- An entry that says a name is read as this name without the blanks around it. -/
theorem readEntry_of_said {name : Text} {options : Entries} (h : Says entry name options) :
    readEntry entry = (readName name).map (·, options) := by
  cases h with
  | text htext => simp only [readEntry, htext]
  | bare hpair hgiven hname =>
    rw [readEntry_of_pair hpair, readOptions_of_null hgiven, hname]
    rfl
  | options hpair hgiven hes hname =>
    rw [readEntry_of_pair hpair, readOptions_of_ne_null hgiven, hes, hname]
    rfl

theorem readEntry_of_refusal {e : ReadError} (h : Refusal entry e) :
    readEntry entry = .error e := by
  cases h with
  | stray hstray hshown =>
    rw [readEntry_of_stray hstray, hshown]
    rfl
  | options hpair hgiven hes hname =>
    rw [readEntry_of_pair hpair, readOptions_of_ne_null hgiven, hes, hname]
    rfl
  | blank hsaid hname =>
    rw [readEntry_of_said hsaid, readName, hname]
    rfl
  | longEntry hstray hlong =>
    rw [readEntry_of_stray hstray, Value.shown_eq_error_iff.2 ⟨hlong, rfl⟩]
    rfl
  | @longName key given hpair hlong =>
    have hname := Value.display_eq_error_iff.2 ⟨hlong, rfl⟩
    rw [readEntry_of_pair hpair, hname]
    -- without the name neither the options nor a complaint about them make a difference
    by_cases hnull : atom? given = some .null
    · rw [readOptions_of_null hnull]
      rfl
    rw [readOptions_of_ne_null hnull, hname]
    cases entries? given <;> rfl

/-- An entry says a name that is not blank, or it is of no use. -/
theorem says_or_refusal (entry : α) :
    (∃ name options, Says entry name options ∧ name.trim ≠ []) ∨ ∃ e, Refusal entry e := by
  have hsaid {name : Text} {options : Entries} (h : Says entry name options) :
      (∃ name options, Says entry name options ∧ name.trim ≠ []) ∨ ∃ e, Refusal entry e := by
    by_cases hname : name.trim = []
    · exact .inr ⟨_, .blank h hname⟩
    · exact .inl ⟨name, options, h, hname⟩
  cases htext : text? entry with
  | some name => exact hsaid (.text htext)
  | none =>
    by_cases hpair : ∃ key given, IsPair entry key given
    · obtain ⟨key, given, hpair⟩ := hpair
      cases hname : key.display with
      | error e =>
        exact .inr ⟨_, .longName hpair (Value.display_eq_error_iff.1 hname).1⟩
      | ok name =>
        by_cases hnull : atom? given = some .null
        · exact hsaid (.bare hpair hnull hname)
        · cases hes : entries? given with
          | some es => exact hsaid (.options hpair hnull hes hname)
          | none => exact .inr ⟨_, .options hpair hnull hes hname⟩
    · have hstray : IsStray entry := ⟨htext, fun key given h ↦ hpair ⟨key, given, htext, h⟩⟩
      cases hshown : (Inspectable.value entry).shown with
      | ok shown => exact .inr ⟨_, .stray hstray hshown⟩
      | error e =>
        exact .inr ⟨_, .longEntry hstray (Value.shown_eq_error_iff.1 hshown).1⟩

theorem readEntry_eq_error_iff {e : ReadError} :
    readEntry entry = .error e ↔ Refusal entry e := by
  refine ⟨?_, readEntry_of_refusal⟩
  intro h
  obtain ⟨name, options, hsaid, hname⟩ | ⟨e', hrefusal⟩ := says_or_refusal entry
  · rw [readEntry_of_said hsaid, readName_of_ne_nil hname] at h
    cases h
  · cases h.symm.trans (readEntry_of_refusal hrefusal)
    exact hrefusal

theorem readEntry_eq_ok_iff {m : Module} :
    readEntry entry = .ok m ↔ m.1 ≠ [] ∧ ∃ name, Says entry name m.2 ∧ m.1 = name.trim := by
  constructor
  · intro h
    obtain ⟨name, options, hsaid, hname⟩ | ⟨e, hrefusal⟩ := says_or_refusal entry
    · rw [readEntry_of_said hsaid, readName_of_ne_nil hname] at h
      cases h
      exact ⟨hname, name, hsaid, rfl⟩
    · cases h.symm.trans (readEntry_of_refusal hrefusal)
  · obtain ⟨_, options⟩ := m
    rintro ⟨hname, name, hsaid, rfl⟩
    rw [readEntry_of_said hsaid, readName_of_ne_nil hname]
    rfl

theorem exists_readEntry_iff : (∃ m, readEntry entry = .ok m) ↔
    ∃ name options, Says entry name options ∧ name.trim ≠ [] := by
  constructor
  · rintro ⟨m, hm⟩
    obtain ⟨hne, name, hsaid, hname⟩ := readEntry_eq_ok_iff.1 hm
    exact ⟨name, m.2, hsaid, hname ▸ hne⟩
  · rintro ⟨name, options, hsaid, hne⟩
    exact ⟨(name.trim, options), readEntry_eq_ok_iff.2 ⟨hne, name, hsaid, rfl⟩⟩

end

/-! ## The first module of each name -/

theorem addModule_of_mem {modules : List Module} {m : Module} (h : m.1 ∈ modules.map (·.1)) :
    addModule modules m = modules := if_pos h

theorem addModule_of_notMem {modules : List Module} {m : Module} (h : m.1 ∉ modules.map (·.1)) :
    addModule modules m = modules ++ [m] := if_neg h

/-- Modules that are added one by one have each name once, in the order of first places. -/
theorem map_fst_foldl_addModule (given : List Module) :
    (given.foldl addModule []).map (·.1) = (given.map (·.1)).eraseDups := by
  induction given using List.reverseRecOn with
  | nil => rfl
  | append_singleton given m ih =>
    rw [List.foldl_concat, List.map_append, List.map_singleton, eraseDups_concat]
    by_cases hm : m.1 ∈ given.map (·.1)
    · have hkept : m.1 ∈ (given.foldl addModule []).map (·.1) := by rwa [ih, List.mem_eraseDups]
      rw [if_pos hm, addModule_of_mem hkept, ih]
    · have hnew : m.1 ∉ (given.foldl addModule []).map (·.1) := by rwa [ih, List.mem_eraseDups]
      rw [if_neg hm, addModule_of_notMem hnew, List.map_append, ih, List.map_singleton]

theorem areFirsts_foldl_addModule (given : List Module) :
    AreFirsts ((given.foldl addModule []).map (·.1)) (given.map (·.1)) := by
  rw [map_fst_foldl_addModule]
  exact areFirsts_eraseDups _

theorem find?_foldl_addModule (given : List Module) (name : Text) :
    (given.foldl addModule []).find? (·.1 == name) = given.find? (·.1 == name) := by
  induction given using List.reverseRecOn with
  | nil => rfl
  | append_singleton given m ih =>
    rw [List.foldl_concat, List.find?_append]
    by_cases hm : m.1 ∈ (given.foldl addModule []).map (·.1)
    · rw [addModule_of_mem hm, ih]
      cases hfind : given.find? (·.1 == name) with
      | some first => rw [Option.some_or]
      | none =>
        have hne : ¬(m.1 == name) = true := by
          intro heq
          obtain ⟨n, hn, hname⟩ := List.mem_map.1 hm
          exact List.find?_eq_none.1 (ih.trans hfind) n hn (hname ▸ heq)
        rw [List.find?_singleton, if_neg hne, Option.none_or]
    · rw [addModule_of_notMem hm, List.find?_append, ih]

/-- Of the modules of one name the first is kept. -/
theorem mem_foldl_addModule_iff {given : List Module} {m : Module} :
    m ∈ given.foldl addModule [] ↔ given.find? (·.1 == m.1) = some m := by
  rw [← find?_foldl_addModule, find?_fst_eq_some_iff (areFirsts_foldl_addModule given).nodup,
    and_iff_left rfl]

/-- Modules with different names are kept as they are. -/
theorem foldl_addModule_of_nodup {modules : List Module} (h : (modules.map (·.1)).Nodup) :
    modules.foldl addModule [] = modules := by
  induction modules using List.reverseRecOn with
  | nil => rfl
  | append_singleton modules m ih =>
    rw [List.map_append, List.nodup_append] at h
    obtain ⟨hmodules, -, hdisjoint⟩ := h
    have hnew : m.1 ∉ modules.map (·.1) :=
      fun hmem ↦ hdisjoint _ hmem _ (List.mem_singleton_self _) rfl
    rw [List.foldl_concat, ih hmodules, addModule_of_notMem hnew]

theorem mem_withOptions_iff {modules : List Module} {m : Module} :
    m ∈ withOptions modules ↔ m ∈ modules ∧ m.2 ≠ [] := by
  rw [withOptions, List.mem_filter, Bool.not_eq_true', List.isEmpty_eq_false_iff]

/-! ## Lists of entries -/

theorem readModules_eq_ok_iff {entries : List α} {modules : List Module} :
    readModules entries = .ok modules ↔
      ∃ given, entries.mapM readEntry = .ok given ∧ given.foldl addModule [] = modules := by
  rw [readModules, bind_eq_ok_iff]
  exact exists_congr fun given ↦ and_congr_right fun _ ↦
    ⟨Except.ok.inj, congrArg _⟩

/-- Some modules are what the entries of a list say one by one, the names trimmed. -/
def AreSaid (entries : List α) (given : List Module) : Prop :=
  List.Forall₂ (fun entry m ↦ m.1 ≠ [] ∧ ∃ name, Says entry name m.2 ∧ m.1 = name.trim) entries
    given

theorem mapM_readEntry_eq_ok_iff {entries : List α} {given : List Module} :
    entries.mapM readEntry = .ok given ↔ AreSaid entries given := by
  rw [mapM_eq_ok_iff]
  simp only [readEntry_eq_ok_iff, AreSaid]

/-- Names that entries say are trimmed and not empty. -/
theorem AreSaid.trimmed {entries : List α} {given : List Module} (h : AreSaid entries given) :
    ∀ m ∈ given, m.1 ≠ [] ∧ ∃ name : Text, m.1 = name.trim := by
  induction h with
  | nil => exact List.forall_mem_nil _
  | cons hm _ ih =>
    obtain ⟨hne, name, -, hname⟩ := hm
    exact List.forall_mem_cons.2 ⟨⟨hne, name, hname⟩, ih⟩

/-- A list of modules is refused for its first entry that is of no use. -/
theorem readModules_eq_error_iff {entries : List α} {e : ReadError} :
    readModules entries = .error e ↔ ∃ before entry after, entries = before ++ entry :: after ∧
      Refusal entry e ∧ ∀ x ∈ before, ∃ name options, Says x name options ∧ name.trim ≠ [] := by
  have hloop : failure? (readModules entries) = failure? (entries.mapM readEntry) :=
    failure?_bind_ok _ _
  rw [← failure?_eq_some_iff, hloop, failure?_eq_some_iff, mapM_eq_error_iff]
  simp only [readEntry_eq_error_iff, exists_readEntry_iff]

/-! ## Reading again -/

/-- An entry for a module: its name with its options, or with nothing if it has none. -/
def entryFor (m : Module) : Value :=
  .dict [(.text m.1, if m.2.isEmpty then .null else .dict m.2)]

theorem says_of_entryFor (m : Module) : Says (entryFor m) m.1 m.2 := by
  obtain ⟨name, options⟩ := m
  cases options with
  | nil => exact .bare ⟨rfl, rfl⟩ rfl rfl
  | cons e es =>
    have hsaid : Says (entryFor (name, e :: es)) name (entriesInFull (e :: es)) :=
      .options ⟨rfl, rfl⟩ nofun rfl rfl
    have hsame : entriesInFull (e :: es) = e :: es := List.map_id _
    rwa [hsame] at hsaid

/-- Modules with different trimmed names are read from entries for them. -/
theorem readModules_map_entryFor {modules : List Module} (hnodup : (modules.map (·.1)).Nodup)
    (hnames : ∀ m ∈ modules, m.1 ≠ [] ∧ m.1.trim = m.1) :
    readModules (modules.map entryFor) = .ok modules := by
  have hread : modules.mapM (fun m ↦ readEntry (entryFor m)) = .ok (modules.map id) := by
    refine mapM_eq_ok_map fun m hm ↦ ?_
    obtain ⟨hne, htrim⟩ := hnames m hm
    exact readEntry_eq_ok_iff.2 ⟨hne, m.1, says_of_entryFor m, htrim.symm⟩
  have hloop : (modules.map entryFor).mapM readEntry = .ok modules := by
    rw [List.mapM_map]
    exact hread.trans (congrArg _ (List.map_id _))
  exact readModules_eq_ok_iff.2 ⟨modules, hloop, foldl_addModule_of_nodup hnodup⟩

/-! ## The normal form -/

theorem concern_of_refusal {entry : α} {e : ReadError} (h : Refusal entry e) :
    CommandLine.Concern.ofLoad (.suite e) = .configuration ↔ e ≠ .limit .write := by
  cases h with
  | stray | options | blank => exact ⟨fun _ ↦ nofun, fun _ ↦ rfl⟩
  | longEntry | longName => exact ⟨nofun, fun h ↦ absurd rfl h⟩

/-- A list of modules is refused for its first entry that is of no use, which is a matter of
configuration unless an integer with too many digits keeps the entry or its name from being shown.
Otherwise it is read as the trimmed names in the order of their first places, none of them empty,
each with what its first entry says; the modules with options are those whose first entry has some.
The list with an entry for each of these modules is read as the same ones. -/
theorem readModules_normal (entries : List α) :
    (∀ e, readModules entries = .error e ↔ ∃ before entry after,
      entries = before ++ entry :: after ∧ Refusal entry e ∧
        ∀ x ∈ before, ∃ name options, Says x name options ∧ name.trim ≠ []) ∧
    (∀ e, readModules entries = .error e →
      (CommandLine.Concern.ofLoad (.suite e) = .configuration ↔ e ≠ .limit .write)) ∧
    ∀ modules, readModules entries = .ok modules → ∃ given, AreSaid entries given ∧
      AreFirsts (modules.map (·.1)) (given.map (·.1)) ∧
      (∀ m, m ∈ modules ↔ given.find? (·.1 == m.1) = some m) ∧
      (∀ m ∈ modules, m.1 ≠ [] ∧ (∀ c, m.1.head? = some c → Text.isBlank c = false) ∧
        ∀ c, m.1.getLast? = some c → Text.isBlank c = false) ∧
      (withOptions modules).Sublist modules ∧
      (∀ m, m ∈ withOptions modules ↔ given.find? (·.1 == m.1) = some m ∧ m.2 ≠ []) ∧
      readModules (modules.map entryFor) = .ok modules := by
  refine ⟨fun e ↦ readModules_eq_error_iff, ?_, ?_⟩
  · intro e h
    obtain ⟨before, entry, after, -, hrefusal, -⟩ := readModules_eq_error_iff.1 h
    exact concern_of_refusal hrefusal
  intro modules h
  obtain ⟨given, hgiven, rfl⟩ := readModules_eq_ok_iff.1 h
  have hsaid := mapM_readEntry_eq_ok_iff.1 hgiven
  have hfirsts := areFirsts_foldl_addModule given
  have htrimmed : ∀ m ∈ given.foldl addModule [], m.1 ≠ [] ∧ ∃ name : Text, m.1 = name.trim := by
    intro m hm
    exact hsaid.trimmed m (List.mem_of_find?_eq_some (mem_foldl_addModule_iff.1 hm))
  refine ⟨given, hsaid, hfirsts, fun m ↦ mem_foldl_addModule_iff, ?_, List.filter_sublist, ?_, ?_⟩
  · intro m hm
    obtain ⟨hne, name, hname⟩ := htrimmed m hm
    rw [hname] at hne ⊢
    exact ⟨hne, fun c ↦ Text.head?_trim, fun c ↦ Text.getLast?_trim⟩
  · intro m
    rw [mem_withOptions_iff, mem_foldl_addModule_iff]
  · refine readModules_map_entryFor hfirsts.nodup fun m hm ↦ ?_
    obtain ⟨hne, name, hname⟩ := htrimmed m hm
    exact ⟨hne, by rw [hname, Text.trim_trim]⟩

/-- Names that differ in blanks only, or in being a text or a number, are one name. -/
theorem readModules_normal_repeated :
    let entries : List Value := [.text " a ", .dict [(.text "a", .dict [(.text "k", .int 1)])],
      .dict [(.text "b\n", .dict [(.text "k", .int 2)])], .dict [(.int 3, .null)], .text "3"]
    let modules : List Module := [("a", []), ("b", [(.text "k", .int 2)]), ("3", [])]
    readModules entries = .ok modules ∧ readModules (modules.map entryFor) = .ok modules := by
  intro entries modules
  have h : readModules entries = .ok modules := by decide +kernel
  obtain ⟨given, -, -, -, -, -, -, hagain⟩ := (readModules_normal entries).2.2 modules h
  exact ⟨h, hagain⟩

/-- An integer in place of a module is no matter of configuration if it has too many digits. -/
theorem readModules_of_long_entry :
    let entries : List Value := [.int (10 ^ 4300)]
    (∃ entry ∈ entries, IsStray entry) ∧ ∃ e, readModules entries = .error e ∧
      CommandLine.Concern.ofLoad (.suite e) ≠ .configuration := by
  intro entries
  have hlong : Integer.isTooLong (10 ^ 4300) = true := by decide +kernel
  have hstray : IsStray (Value.int (10 ^ 4300)) := ⟨rfl, nofun⟩
  have hinteger : (10 ^ 4300 : Int) ∈ (Value.int (10 ^ 4300)).integers := by
    rw [Value.integers]
    exact List.mem_singleton_self _
  refine ⟨⟨_, List.mem_singleton_self _, hstray⟩, .limit .write, ?_, nofun⟩
  exact readModules_eq_error_iff.2
    ⟨[], _, [], rfl, .longEntry hstray ⟨_, hinteger, hlong⟩, List.forall_mem_nil _⟩

end ActorFacade.Suite
