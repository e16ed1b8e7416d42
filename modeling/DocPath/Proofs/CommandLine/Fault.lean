import Mathlib.Data.List.Forall2
import DocPath.CommandLine.Run
import DocPath.Proofs.Path.Walking

/-!
# Values and faults of invocations

What an invocation evaluates to, and what can be wrong with it, is said here from what there is to read, apart
from the order in which a run goes about it. Several things may be wrong at once. They are ranked, so that one of
them is the first, and for each there is a report. What a run does with a value or a fault is said of what is
seen of it: the status, the text on standard output and the lines of the report.
-/

namespace DocPath.CommandLine

/-! ## What there is to read -/

/-- What comes of the configuration. A file that is asked for has to be readable and well-formed; without one
the user's own settings count, whatever state their file is in. -/
inductive World.Configured (world : World) (invocation : Invocation) : Except ConfigError Config → Prop where
  | unreadable {path : String} (hfile : invocation.config = some path)
    (htext : (world.file path).text? = none) : Configured world invocation (.error (.unreadable path))
  | malformed {path text : String} (hfile : invocation.config = some path)
    (htext : (world.file path).text? = some text) (hconfig : Config.parse? text = none) :
    Configured world invocation (.error (.malformed path))
  | named {path text : String} {config : Config} (hfile : invocation.config = some path)
    (htext : (world.file path).text? = some text) (hconfig : Config.parse? text = some config) :
    Configured world invocation (.ok config)
  | own {config : Config} (hfile : invocation.config = none)
    (hconfig : Config.load (world.file (Config.pathIn world.home)) = config) :
    Configured world invocation (.ok config)

/-- What comes of the document, in a file or on standard input. -/
inductive World.Loaded (world : World) (invocation : Invocation) (symbolize : Bool) :
    Except LoadError Value → Prop where
  | file {path : String} {result : Except LoadError Value} (hfile : invocation.file = some path)
    (hresult : Document.loadFile symbolize path (world.file path) = result) :
    Loaded world invocation symbolize result
  | input {result : Except LoadError Value} (hfile : invocation.file = none)
    (hresult : Document.loadInput symbolize world.input = result) : Loaded world invocation symbolize result

/-- The document of an invocation, loaded as the configuration says. -/
def World.Loads (world : World) (invocation : Invocation) (document : Value) : Prop :=
  ∃ config, world.Configured invocation (.ok config) ∧
    world.Loaded invocation config.symbolizeColonStrings (.ok document)

/-- What a path comes to on a root value taken alone. There is no running value at first if the root is nil. -/
inductive Gives (path : Path) : Value → Except Path.ApplyError (Option Value) → Prop where
  | absent {outcome : Except Path.ApplyError (Option Value)}
    (hwalk : Path.Walk noHosts 0 none path.segments outcome) : Gives path .nil outcome
  | present {root : Value} {outcome : Except Path.ApplyError (Option Value)} (hroot : root ≠ .nil)
    (hwalk : Path.Walk noHosts 0 (some root) path.segments outcome) : Gives path root outcome

/-! ## Values -/

/-- What an invocation evaluates to: the outcome on the document, or the array of the outcomes on each of its
elements alone, with nil for absence. -/
inductive Evaluates (world : World) (invocation : Invocation) : Value → Prop where
  | whole {path : Path} {document : Value} {outcome : Option Value}
    (heach : invocation.each = false) (hpath : Path.parse invocation.expression = .ok path)
    (hloads : world.Loads invocation document) (houtcome : Gives path document (.ok outcome)) :
    Evaluates world invocation (outcome.getD .nil)
  | each {path : Path} {items : List Value} {outcomes : List (Option Value)}
    (heach : invocation.each = true) (hpath : Path.parse invocation.expression = .ok path)
    (hloads : world.Loads invocation (.array items))
    (houtcomes : List.Forall₂ (fun item outcome => Gives path item (.ok outcome)) items outcomes) :
    Evaluates world invocation (.array (outcomes.map (Option.getD · .nil)))

/-- The outcome of a run that prints a value: its document in the format, followed by a line feed, and nothing
else. YAML brings its own line feed. -/
inductive Outcome.Prints (value : Value) : OutputFormat → Outcome → Prop where
  | yaml : Prints value .yaml ⟨0, value.toNode.render, []⟩
  | json : Prints value .json ⟨0, value.toJson.render ++ "\n", []⟩

/-! ## Faults -/

/-- What is wrong with an invocation. Several things may be wrong at once. -/
inductive Fault (world : World) (invocation : Invocation) : Failure → Prop where
  /-- The configuration file that was asked for cannot be read or is malformed. -/
  | config {error : ConfigError} (hconfig : world.Configured invocation (.error error)) :
    Fault world invocation (.config error)
  /-- The expression is invalid, whatever there is to read. -/
  | expression {error : Path.ParseError} (hpath : Path.parse invocation.expression = .error error) :
    Fault world invocation (.expression invocation.expression error)
  /-- The document cannot be loaded. -/
  | document {config : Config} {error : LoadError} (hconfig : world.Configured invocation (.ok config))
    (hdocument : world.Loaded invocation config.symbolizeColonStrings (.error error)) :
    Fault world invocation (.document error)
  /-- Elements are wanted of a document that is no array. -/
  | notAnArray {document : Value} (heach : invocation.each = true)
    (hloads : world.Loads invocation document) (harray : ∀ items, document ≠ .array items) :
    Fault world invocation (.notAnArray document.className)
  /-- The expression fails on the document. -/
  | evaluation {path : Path} {document : Value} {error : Path.ApplyError}
    (heach : invocation.each = false) (hpath : Path.parse invocation.expression = .ok path)
    (hloads : world.Loads invocation document) (herror : Gives path document (.error error)) :
    Fault world invocation (.evaluation error)
  /-- The expression fails on an element taken alone. -/
  | element {path : Path} {items : List Value} {index : Nat} {item : Value} {error : Path.ApplyError}
    (heach : invocation.each = true) (hpath : Path.parse invocation.expression = .ok path)
    (hloads : world.Loads invocation (.array items)) (hitem : items[index]? = some item)
    (herror : Gives path item (.error error)) :
    Fault world invocation (.element index error)

/-- The order in which failures are met. -/
def Failure.rank : Failure → Nat
  | .config _ => 0
  | .expression _ _ => 1
  | .document _ => 2
  | .notAnArray _ => 3
  | .evaluation _ => 4
  | .element index _ => 4 + index

/-- The first of all that is wrong. -/
def FirstFault (world : World) (invocation : Invocation) (failure : Failure) : Prop :=
  Fault world invocation failure ∧
    ∀ other, Fault world invocation other → failure.rank ≤ other.rank

/-- The lines that report a failure: what failed, and below it the error that was behind it, if there is one.
Behind the first line of a file or an input that cannot be used, the system has more to say. -/
inductive Failure.Lines : Failure → List String → Prop where
  | unreadableConfig (path : String) (more : List String) :
    Lines (.config (.unreadable path)) (("Error: Failed to read config file " ++ path) :: more)
  | malformedConfig (path : String) (more : List String) :
    Lines (.config (.malformed path)) (("Error: Failed to parse config file " ++ path) :: more)
  | expression (text : String) (error : Path.ParseError) :
    Lines (.expression text error)
      ["Error: Invalid path expression \x60" ++ text ++ "\x60", "", "Caused by:", "    " ++ error.message]
  | unreadableFile (path : String) (more : List String) :
    Lines (.document (.unreadableFile path)) (("Error: Failed to read file " ++ path) :: more)
  | missingArchive (more : List String) :
    Lines (.document .missingArchive) ("Error: Failed to open gzipped file" :: more)
  | corruptArchive (more : List String) :
    Lines (.document .corruptArchive)
      ("Error: Failed to decompress gzipped file - file may be corrupted" :: more)
  | corruptInput (more : List String) :
    Lines (.document .corruptInput) ("Error: Failed to decompress gzipped stdin" :: more)
  | inputNotText (more : List String) :
    Lines (.document .inputNotText) ("Error: Invalid UTF-8 in stdin" :: more)
  | fileDocument (number : Nat) (more : List String) :
    Lines (.document (.fileText (.document number)))
      (("Error: Failed to parse document " ++ toString number) :: more)
  | fileLine (number : Nat) (more : List String) :
    Lines (.document (.fileText (.line number))) (("Error: Invalid JSON on line " ++ toString number) :: more)
  | inputText (error : TextError) (more : List String) :
    Lines (.document (.inputText error)) ("Error: Failed to parse document from stdin" :: more)
  | notAnArray (className : String) :
    Lines (.notAnArray className) ["Error: --each needs a top-level array, got " ++ className]
  | evaluation (error : Path.ApplyError) :
    Lines (.evaluation error) ["Error: " ++ error.message, "", "Caused by:", "    " ++ error.reason.message]
  | element (index : Nat) (error : Path.ApplyError) :
    Lines (.element index error)
      ["Error: Failed on element " ++ toString index, "", "Caused by:", "    0: " ++ error.message,
        "    1: " ++ error.reason.message]

/-- The outcome of a run that reports a failure: it prints nothing. -/
def Outcome.Reports (failure : Failure) (outcome : Outcome) : Prop :=
  outcome.status = 1 ∧ outcome.output = "" ∧ failure.Lines outcome.report

variable {world : World} {invocation : Invocation}

/-! ## One thing comes of each part -/

/-- What comes of the configuration is what a run makes of it. -/
theorem World.configured_iff {result : Except ConfigError Config} :
    world.Configured invocation result ↔ world.config invocation = result := by
  rw [World.config]
  constructor
  · rintro (⟨hfile, htext⟩ | ⟨hfile, htext, hconfig⟩ | ⟨hfile, htext, hconfig⟩ | ⟨hfile, hconfig⟩)
    · simp only [hfile, Config.loadFrom, htext]
    · simp only [hfile, Config.loadFrom, htext, hconfig]
    · simp only [hfile, Config.loadFrom, htext, hconfig]
    · simp only [hfile, hconfig]
  · rintro rfl
    cases hfile : invocation.config with
    | none => exact .own hfile rfl
    | some path =>
        cases htext : (world.file path).text? with
        | none =>
            simp only [Config.loadFrom, htext]
            exact .unreadable hfile htext
        | some text =>
            cases hconfig : Config.parse? text with
            | none =>
                simp only [Config.loadFrom, htext, hconfig]
                exact .malformed hfile htext hconfig
            | some config =>
                simp only [Config.loadFrom, htext, hconfig]
                exact .named hfile htext hconfig

theorem World.loaded_iff {symbolize : Bool} {result : Except LoadError Value} :
    world.Loaded invocation symbolize result ↔ world.document symbolize invocation = result := by
  rw [World.document]
  constructor
  · rintro (⟨hfile, hresult⟩ | ⟨hfile, hresult⟩)
    · simp only [hfile, hresult]
    · simp only [hfile, hresult]
  · rintro rfl
    cases hfile : invocation.file with
    | none => exact .input hfile rfl
    | some path => exact .file hfile rfl

theorem World.Configured.unique {result other : Except ConfigError Config}
    (hresult : world.Configured invocation result) (hother : world.Configured invocation other) :
    result = other :=
  (World.configured_iff.mp hresult).symm.trans (World.configured_iff.mp hother)

theorem World.Loaded.unique {symbolize : Bool} {result other : Except LoadError Value}
    (hresult : world.Loaded invocation symbolize result)
    (hother : world.Loaded invocation symbolize other) : result = other :=
  (World.loaded_iff.mp hresult).symm.trans (World.loaded_iff.mp hother)

/-- Something comes of the document, be it that there is none. -/
theorem World.exists_loaded (world : World) (invocation : Invocation) (symbolize : Bool) :
    ∃ result, world.Loaded invocation symbolize result :=
  ⟨_, World.loaded_iff.mpr rfl⟩

theorem World.Loads.unique {document other : Value} (hloads : world.Loads invocation document)
    (hother : world.Loads invocation other) : document = other := by
  obtain ⟨config, hconfig, hdocument⟩ := hloads
  obtain ⟨config', hconfig', hdocument'⟩ := hother
  obtain rfl := Except.ok.inj (hconfig.unique hconfig')
  exact Except.ok.inj (hdocument.unique hdocument')

/-- Where there are no host objects, they answer alike at all times. -/
theorem steady_noHosts : noHosts.Steady where
  send _ _ _ := rfl
  index _ _ _ := rfl
  hasPresence _ _ := rfl
  hasKey _ _ _ := rfl

/-- What a path gives on a value is the result of applying it there. -/
theorem gives_iff {path : Path} {root : Value} {outcome : Except Path.ApplyError (Option Value)} :
    Gives path root outcome ↔ (path.apply noHosts root []).result = outcome := by
  rw [← Path.walk_iff steady_noHosts []]
  rcases root.toOption_cases with ⟨rfl, hnone⟩ | ⟨hroot, hsome⟩
  · rw [hnone]
    exact ⟨fun | .absent hwalk => hwalk | .present hroot _ => absurd rfl hroot, .absent⟩
  · rw [hsome]
    exact ⟨fun | .absent _ => absurd rfl hroot | .present _ hwalk => hwalk, .present hroot⟩

/-- A path comes to something on every value. -/
theorem exists_gives (path : Path) (root : Value) : ∃ outcome, Gives path root outcome :=
  ⟨_, gives_iff.mpr rfl⟩

theorem Gives.unique {path : Path} {root : Value} {outcome other : Except Path.ApplyError (Option Value)}
    (houtcome : Gives path root outcome) (hother : Gives path root other) : outcome = other :=
  (gives_iff.mp houtcome).symm.trans (gives_iff.mp hother)

/-! ## Which faults there can be -/

/-- At each place of the order there is one fault at most. -/
theorem Fault.eq_of_rank_eq {failure other : Failure} (hfault : Fault world invocation failure)
    (hother : Fault world invocation other) (hrank : failure.rank = other.rank) : failure = other := by
  cases hfault with
  | config hconfig =>
      cases hother with
      | config hconfig' => rw [Except.error.inj (hconfig.unique hconfig')]
      | _ => simp [Failure.rank] at hrank <;> omega
  | expression hpath =>
      cases hother with
      | expression hpath' => rw [Except.error.inj (hpath.symm.trans hpath')]
      | _ => simp [Failure.rank] at hrank <;> omega
  | document hconfig hdocument =>
      cases hother with
      | document hconfig' hdocument' =>
          obtain rfl := Except.ok.inj (hconfig.unique hconfig')
          rw [Except.error.inj (hdocument.unique hdocument')]
      | _ => simp [Failure.rank] at hrank <;> omega
  | notAnArray heach hloads harray =>
      cases hother with
      | notAnArray heach' hloads' harray' => rw [hloads.unique hloads']
      | _ => simp [Failure.rank] at hrank <;> omega
  | evaluation heach hpath hloads herror =>
      cases hother with
      | evaluation heach' hpath' hloads' herror' =>
          obtain rfl := Except.ok.inj (hpath.symm.trans hpath')
          obtain rfl := hloads.unique hloads'
          rw [Except.error.inj (herror.unique herror')]
      | element heach' => simp [heach] at heach'
      | _ => simp [Failure.rank] at hrank
  | element heach hpath hloads hitem herror =>
      cases hother with
      | element heach' hpath' hloads' hitem' herror' =>
          obtain rfl := Except.ok.inj (hpath.symm.trans hpath')
          obtain rfl := Value.array.inj (hloads.unique hloads')
          obtain rfl := Nat.add_left_cancel hrank
          obtain rfl := Option.some.inj (hitem.symm.trans hitem')
          rw [Except.error.inj (herror.unique herror')]
      | evaluation heach' => simp [heach] at heach'
      | _ => simp [Failure.rank] at hrank <;> omega

/-- Of all that is wrong at most one thing is first. -/
theorem FirstFault.unique {failure other : Failure} (hfirst : FirstFault world invocation failure)
    (hother : FirstFault world invocation other) : failure = other :=
  hfirst.1.eq_of_rank_eq hother.1 (Nat.le_antisymm (hfirst.2 other hother.1) (hother.2 failure hfirst.1))

/-- With a path and a document only the evaluation can be at fault. -/
theorem Fault.cases_of_loads {path : Path} {document : Value} {failure : Failure}
    (hpath : Path.parse invocation.expression = .ok path) (hloads : world.Loads invocation document)
    (hfault : Fault world invocation failure) :
    (invocation.each = true ∧ (∀ items, document ≠ .array items) ∧
      failure = .notAnArray document.className) ∨
    (invocation.each = false ∧
      ∃ error, Gives path document (.error error) ∧ failure = .evaluation error) ∨
    (invocation.each = true ∧ ∃ items index item error, document = .array items ∧
      items[index]? = some item ∧ Gives path item (.error error) ∧
      failure = .element index error) := by
  cases hfault with
  | config hconfig =>
      obtain ⟨config, hconfig', -⟩ := hloads
      cases hconfig.unique hconfig'
  | expression hpath' => cases hpath.symm.trans hpath'
  | document hconfig hdocument =>
      obtain ⟨config, hconfig', hdocument'⟩ := hloads
      obtain rfl := Except.ok.inj (hconfig.unique hconfig')
      cases hdocument.unique hdocument'
  | notAnArray heach hloads' harray =>
      obtain rfl := hloads.unique hloads'
      exact Or.inl ⟨heach, harray, rfl⟩
  | evaluation heach hpath' hloads' herror =>
      obtain rfl := hloads.unique hloads'
      obtain rfl := Except.ok.inj (hpath.symm.trans hpath')
      exact Or.inr (Or.inl ⟨heach, _, herror, rfl⟩)
  | element heach hpath' hloads' hitem herror =>
      obtain rfl := Except.ok.inj (hpath.symm.trans hpath')
      exact Or.inr (Or.inr ⟨heach, _, _, _, _, hloads.unique hloads', hitem, herror, rfl⟩)

/-- With a path and an array only elements can be at fault. -/
theorem Fault.element_of_loads {path : Path} {items : List Value} {failure : Failure}
    (heach : invocation.each = true) (hpath : Path.parse invocation.expression = .ok path)
    (hloads : world.Loads invocation (.array items)) (hfault : Fault world invocation failure) :
    ∃ index item error, items[index]? = some item ∧ Gives path item (.error error) ∧
      failure = .element index error := by
  rcases hfault.cases_of_loads hpath hloads with
    ⟨-, harray, -⟩ | ⟨heach', -⟩ | ⟨-, items', index, item, error, harray, hitem⟩
  · exact absurd rfl (harray items)
  · simp [heach] at heach'
  · obtain rfl := Value.array.inj harray
    exact ⟨index, item, error, hitem⟩

/-- An element that fails when all before it succeed is the first fault. -/
theorem firstFault_element {path : Path} {items : List Value} {index : Nat} {item : Value}
    {error : Path.ApplyError} (heach : invocation.each = true)
    (hpath : Path.parse invocation.expression = .ok path)
    (hloads : world.Loads invocation (.array items)) (hitem : items[index]? = some item)
    (herror : Gives path item (.error error))
    (hbefore : ∀ i earlier, i < index → items[i]? = some earlier →
      ∃ outcome, Gives path earlier (.ok outcome)) :
    FirstFault world invocation (.element index error) := by
  refine ⟨.element heach hpath hloads hitem herror, fun other hother => ?_⟩
  obtain ⟨i, earlier, error', hearlier, herror', rfl⟩ := hother.element_of_loads heach hpath hloads
  refine Nat.add_le_add_left (Nat.le_of_not_lt fun hlt => ?_) 4
  obtain ⟨outcome, houtcome⟩ := hbefore i earlier hlt hearlier
  cases houtcome.unique herror'

/-- With a path and an array nothing is wrong exactly if the path succeeds on every element alone. -/
theorem no_fault_iff_of_array {path : Path} {items : List Value} (heach : invocation.each = true)
    (hpath : Path.parse invocation.expression = .ok path)
    (hloads : world.Loads invocation (.array items)) :
    (∀ failure, ¬ Fault world invocation failure) ↔
      ∀ item ∈ items, ∃ outcome, Gives path item (.ok outcome) := by
  constructor
  · intro hfaults item hmem
    obtain ⟨index, hitem⟩ := List.mem_iff_getElem?.mp hmem
    obtain ⟨error | outcome, houtcome⟩ := exists_gives path item
    · exact absurd (.element heach hpath hloads hitem houtcome) (hfaults _)
    · exact ⟨outcome, houtcome⟩
  · intro hall failure hfault
    obtain ⟨index, item, error, hitem, herror, -⟩ := hfault.element_of_loads heach hpath hloads
    obtain ⟨outcome, houtcome⟩ := hall item (List.mem_of_getElem? hitem)
    cases houtcome.unique herror

theorem exists_outcome_of_forall₂ {path : Path} {items : List Value} {outcomes : List (Option Value)}
    (houtcomes : List.Forall₂ (fun item outcome => Gives path item (.ok outcome)) items outcomes) :
    ∀ item ∈ items, ∃ outcome, Gives path item (.ok outcome) := by
  have hboth : List.Forall₂ (fun item outcome =>
      (∃ outcome, Gives path item (.ok outcome)) ∧ Gives path item (.ok outcome))
      items outcomes :=
    houtcomes.imp fun _ outcome h => ⟨⟨outcome, h⟩, h⟩
  exact ((List.forall₂_and_left _ _).mp hboth).1

end DocPath.CommandLine
