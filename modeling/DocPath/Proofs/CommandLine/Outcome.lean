import DocPath.Proofs.Cache.Transparency
import DocPath.Proofs.CommandLine.Fault

/-!
# Outcomes of runs

A run that evaluates an expression prints one value and succeeds, or prints nothing and reports a failure: of all
that is wrong the first, in a fixed order. With `--each` it succeeds when the expression succeeds on every
element alone.
-/

namespace DocPath.CommandLine

variable {world : World} {invocation : Invocation}

/-! ## Stages of a run -/

/-- The cache of a run is new, so it does not show. -/
theorem accessor_newCache (config : Config) (expression : String) :
    ((newCache config).accessor noHosts expression).1 =
      (Path.parse expression).map fun path => path.apply noHosts :=
  (Cache.agrees_empty Path.parse _).accessor noHosts expression

/-- The result on a root value is what the path gives there, with nil for absence. -/
theorem resultOn_of_gives {path : Path} {root : Value} {outcome : Except Path.ApplyError (Option Value)}
    (houtcome : Gives path root outcome) :
    resultOn (path.apply noHosts) root = outcome.map (Option.getD · .nil) := by
  rw [resultOn, gives_iff.mp houtcome]
  rfl

/-- The elements are taken in order up to the first on which the path fails. -/
theorem resultsFrom_cases (path : Path) (index : Nat) (items : List Value) :
    (∃ outcomes,
      List.Forall₂ (fun item outcome => Gives path item (.ok outcome)) items outcomes ∧
      resultsFrom (path.apply noHosts) index items = .ok (outcomes.map (Option.getD · .nil))) ∨
    ∃ front item back error, items = front ++ item :: back ∧
      (∀ earlier ∈ front, ∃ outcome, Gives path earlier (.ok outcome)) ∧
      Gives path item (.error error) ∧
      resultsFrom (path.apply noHosts) index items = .error (.element (index + front.length) error) := by
  induction items generalizing index with
  | nil => exact Or.inl ⟨[], .nil, rfl⟩
  | cons item rest ih =>
      -- The rest has indices of its own: the hypothesis counts from one further.
      obtain ⟨error | outcome, houtcome⟩ := exists_gives path item
      · rw [resultsFrom, resultOn_of_gives houtcome]
        exact Or.inr ⟨[], item, rest, error, rfl, by simp, houtcome, rfl⟩
      · rw [resultsFrom, resultOn_of_gives houtcome]
        rcases ih (index + 1) with ⟨outcomes, houtcomes, hrest⟩ |
          ⟨front, failing, back, error, rfl, hfront, herror, hrest⟩
        · refine Or.inl ⟨outcome :: outcomes, .cons houtcome houtcomes, ?_⟩
          simp [Except.map, hrest]
        · refine Or.inr ⟨item :: front, failing, back, error, rfl, ?_, herror, ?_⟩
          · exact List.forall_mem_cons.mpr ⟨⟨outcome, houtcome⟩, hfront⟩
          · simp [Except.map, hrest, Nat.add_assoc, Nat.add_comm 1]

/-- An expression that is no path ends an evaluation before the document is read. -/
theorem evaluate_of_parse_error {config : Config} {error : Path.ParseError}
    (hpath : Path.parse invocation.expression = .error error) :
    world.evaluate config invocation = .error (.expression invocation.expression error) := by
  rw [World.evaluate, accessor_newCache, hpath]
  rfl

theorem evaluate_of_document_error {config : Config} {path : Path} {error : LoadError}
    (hpath : Path.parse invocation.expression = .ok path)
    (hdocument : world.Loaded invocation config.symbolizeColonStrings (.error error)) :
    world.evaluate config invocation = .error (.document error) := by
  rw [World.evaluate, accessor_newCache, hpath, World.loaded_iff.mp hdocument]
  rfl

/-- Behind the document only the expression is left. -/
theorem evaluate_of_document {config : Config} {path : Path} {document : Value}
    (hpath : Path.parse invocation.expression = .ok path)
    (hdocument : world.Loaded invocation config.symbolizeColonStrings (.ok document)) :
    world.evaluate config invocation = resultOf invocation.each (path.apply noHosts) document := by
  rw [World.evaluate, accessor_newCache, hpath, World.loaded_iff.mp hdocument]
  rfl

theorem resultOf_false (accessor : Accessor) (document : Value) :
    resultOf false accessor document = (resultOn accessor document).mapError .evaluation := by
  simp [resultOf]

theorem resultOf_true_array (accessor : Accessor) (items : List Value) :
    resultOf true accessor (.array items) = (resultsFrom accessor 0 items).map .array := rfl

theorem resultOf_true_of_not_array (accessor : Accessor) {document : Value}
    (harray : ∀ items, document ≠ .array items) :
    resultOf true accessor document = .error (.notAnArray document.className) := by
  cases document with
  | array items => exact absurd rfl (harray items)
  | _ => rfl

/-! ## Evaluations -/

/-- A value without a fault, or the first fault. -/
def Settles (world : World) (invocation : Invocation) : Except Failure Value → Prop
  | .ok value => Evaluates world invocation value ∧ ∀ failure, ¬ Fault world invocation failure
  | .error failure => FirstFault world invocation failure

/-- On a document as a whole nothing but the evaluation can be at fault. -/
theorem settles_of_whole {path : Path} {document : Value} (heach : invocation.each = false)
    (hpath : Path.parse invocation.expression = .ok path) (hloads : world.Loads invocation document) :
    Settles world invocation (resultOf false (path.apply noHosts) document) := by
  have hfaults : ∀ failure, Fault world invocation failure →
      ∃ error, Gives path document (.error error) ∧ failure = .evaluation error := by
    intro failure hfault
    rcases hfault.cases_of_loads hpath hloads with ⟨heach', -⟩ | ⟨-, herror⟩ | ⟨heach', -⟩
    · simp [heach] at heach'
    · exact herror
    · simp [heach] at heach'
  obtain ⟨error | outcome, houtcome⟩ := exists_gives path document
  · rw [resultOf_false, resultOn_of_gives houtcome]
    refine ⟨.evaluation heach hpath hloads houtcome, fun other hother => ?_⟩
    obtain ⟨error', -, rfl⟩ := hfaults other hother
    exact Nat.le_refl _
  · rw [resultOf_false, resultOn_of_gives houtcome]
    refine ⟨.whole heach hpath hloads houtcome, fun failure hfault => ?_⟩
    obtain ⟨error, herror, -⟩ := hfaults failure hfault
    cases houtcome.unique herror

/-- The element on which the loop over an array stops is the first fault. -/
theorem settles_of_array {path : Path} {items : List Value} (heach : invocation.each = true)
    (hpath : Path.parse invocation.expression = .ok path)
    (hloads : world.Loads invocation (.array items)) :
    Settles world invocation (resultOf true (path.apply noHosts) (.array items)) := by
  rw [resultOf_true_array]
  rcases resultsFrom_cases path 0 items with ⟨outcomes, houtcomes, hresults⟩ |
    ⟨front, item, back, error, rfl, hfront, herror, hresults⟩
  · rw [hresults]
    refine ⟨.each heach hpath hloads houtcomes, ?_⟩
    exact (no_fault_iff_of_array heach hpath hloads).mpr (exists_outcome_of_forall₂ houtcomes)
  · rw [hresults, Nat.zero_add]
    refine firstFault_element heach hpath hloads (by simp) herror fun i earlier hlt hearlier => ?_
    rw [List.getElem?_append_left hlt] at hearlier
    exact hfront earlier (List.mem_of_getElem? hearlier)

/-- A document that is no array is at fault before the expression can be. -/
theorem settles_of_not_array {path : Path} {document : Value} (heach : invocation.each = true)
    (hpath : Path.parse invocation.expression = .ok path) (hloads : world.Loads invocation document)
    (harray : ∀ items, document ≠ .array items) :
    Settles world invocation (resultOf true (path.apply noHosts) document) := by
  rw [resultOf_true_of_not_array _ harray]
  refine ⟨.notAnArray heach hloads harray, fun other hother => ?_⟩
  rcases hother.cases_of_loads hpath hloads with
    ⟨-, -, rfl⟩ | ⟨heach', -⟩ | ⟨-, items, index, item, error, rfl, -⟩
  · exact Nat.le_refl _
  · simp [heach] at heach'
  · exact absurd rfl (harray items)

/-- Whatever the configuration, the expression and the document, an evaluation comes to a value if nothing is
wrong and otherwise to the first thing that is. -/
theorem settles_evaluate {config : Config} (hconfig : world.Configured invocation (.ok config)) :
    Settles world invocation (world.evaluate config invocation) := by
  -- The cases follow the order of the failures: each stage is reached only when those before it succeed, which
  -- leaves no fault of a lower rank.
  cases hpath : Path.parse invocation.expression with
  | error error =>
      rw [evaluate_of_parse_error hpath]
      refine ⟨.expression hpath, fun other hother => ?_⟩
      cases hother with
      | config hconfig' => cases hconfig.unique hconfig'
      | _ => simp [Failure.rank] <;> omega
  | ok path =>
      obtain ⟨error | document, hdocument⟩ := world.exists_loaded invocation config.symbolizeColonStrings
      · rw [evaluate_of_document_error hpath hdocument]
        refine ⟨.document hconfig hdocument, fun other hother => ?_⟩
        cases hother with
        | config hconfig' => cases hconfig.unique hconfig'
        | expression hpath' => cases hpath.symm.trans hpath'
        | _ => simp [Failure.rank] <;> omega
      · have hloads : world.Loads invocation document := ⟨config, hconfig, hdocument⟩
        rw [evaluate_of_document hpath hdocument]
        cases heach : invocation.each with
        | false => exact settles_of_whole heach hpath hloads
        | true =>
            by_cases harray : ∃ items, document = .array items
            · obtain ⟨items, rfl⟩ := harray
              exact settles_of_array heach hpath hloads
            · exact settles_of_not_array heach hpath hloads (not_exists.mp harray)

/-! ## What is seen of a run -/

/-- What is printed of a value, in either format. -/
theorem prints_printed (format : OutputFormat) (value : Value) :
    Outcome.Prints value format ⟨0, printed format value, []⟩ := by
  cases format with
  | yaml => exact .yaml
  | json => exact .json

theorem Outcome.Prints.status {value : Value} {format : OutputFormat} {outcome : Outcome}
    (hprints : outcome.Prints value format) : outcome.status = 0 := by
  cases hprints with
  | yaml => rfl
  | json => rfl

/-- The lines of a report are those of the failure, of whatever kind it is. -/
theorem Failure.lines_report (failure : Failure) : failure.Lines failure.report := by
  cases failure with
  | config error =>
      cases error with
      | unreadable path => exact .unreadableConfig path []
      | malformed path => exact .malformedConfig path []
  | expression text error => exact .expression text error
  | document error =>
      cases error with
      | fileText error =>
          cases error with
          | document number => exact .fileDocument number []
          | line number => exact .fileLine number []
      | unreadableFile path => exact .unreadableFile path []
      | missingArchive => exact .missingArchive []
      | corruptArchive => exact .corruptArchive []
      | corruptInput => exact .corruptInput []
      | inputNotText => exact .inputNotText []
      | inputText error => exact .inputText error []
  | notAnArray className => exact .notAnArray className
  | evaluation error => exact .evaluation error
  | element index error =>
      -- The number of a cause is put together with its blanks before the cause follows.
      have hzero : "    " ++ toString 0 ++ ": " = "    0: " := by decide
      have hone : "    " ++ toString 1 ++ ": " = "    1: " := by decide
      have hreport : (Failure.element index error).report =
          ["Error: " ++ ("Failed on element " ++ toString index), "", "Caused by:",
            "    " ++ toString 0 ++ ": " ++ error.message, "    " ++ toString 1 ++ ": " ++ error.reason.message] := rfl
      rw [hreport, hzero, hone, ← String.append_assoc]
      exact .element index error

theorem reports_report (failure : Failure) : Outcome.Reports failure ⟨1, "", failure.report⟩ :=
  ⟨rfl, rfl, failure.lines_report⟩

/-- The report of a failure on an element is fixed to the letter. -/
theorem Outcome.Reports.eq_of_element {index : Nat} {error : Path.ApplyError} {outcome : Outcome}
    (hreports : outcome.Reports (.element index error)) :
    outcome = ⟨1, "", ["Error: Failed on element " ++ toString index, "", "Caused by:",
      "    0: " ++ error.message, "    1: " ++ error.reason.message]⟩ := by
  obtain ⟨status, output, report⟩ := outcome
  obtain ⟨rfl, rfl, hlines⟩ := hreports
  cases hlines
  rfl

/-! ## Whole runs -/

/-- A run prints a value and nothing is wrong, or it reports the first thing that is. -/
theorem run_cases (htokens : invocation.tokens = false) :
    (∃ config value, world.Configured invocation (.ok config) ∧ Evaluates world invocation value ∧
      (∀ failure, ¬ Fault world invocation failure) ∧
      (invocation.run world).Prints value (invocation.format.getD config.outputFormat)) ∨
    ∃ failure, FirstFault world invocation failure ∧ (invocation.run world).Reports failure := by
  unfold Invocation.run
  cases hconfig : world.config invocation with
  | error error =>
      have hfault := Fault.config (World.configured_iff.mpr hconfig)
      exact Or.inr ⟨_, ⟨hfault, fun _ _ => Nat.zero_le _⟩, reports_report _⟩
  | ok config =>
      have hconfigured := World.configured_iff.mpr hconfig
      have hsettles := settles_evaluate hconfigured
      simp only [htokens]
      cases hvalue : world.evaluate config invocation with
      | error failure =>
          rw [hvalue] at hsettles
          exact Or.inr ⟨failure, hsettles, reports_report failure⟩
      | ok value =>
          rw [hvalue] at hsettles
          exact Or.inl ⟨config, value, hconfigured, hsettles.1, hsettles.2, prints_printed _ value⟩

/-- With `--each` the value is the array of what the path gives on the elements, in order. -/
theorem Evaluates.eq_of_array {path : Path} {items : List Value} {outcomes : List (Option Value)}
    {value : Value} (heach : invocation.each = true)
    (hpath : Path.parse invocation.expression = .ok path)
    (hloads : world.Loads invocation (.array items))
    (houtcomes : List.Forall₂ (fun item outcome => Gives path item (.ok outcome)) items outcomes)
    (hvalue : Evaluates world invocation value) : value = .array (outcomes.map (Option.getD · .nil)) := by
  cases hvalue with
  | whole heach' => simp [heach] at heach'
  | each heach' hpath' hloads' houtcomes' =>
      obtain rfl := Except.ok.inj (hpath.symm.trans hpath')
      obtain rfl := Value.array.inj (hloads.unique hloads')
      have hunique := List.right_unique_forall₂'
        (fun _ _ _ h h' => Except.ok.inj (h.unique h')) houtcomes houtcomes'
      rw [hunique]

/-- A run that evaluates is all or nothing. It succeeds and prints, in the format chosen, the one value that
the invocation evaluates to, or it prints nothing, fails and reports the first of all that is wrong. It
succeeds exactly when nothing is wrong. On each element of an array it succeeds exactly when the expression
succeeds on every element alone, and prints the array of their outcomes; otherwise it reports the first
element that fails, with the error that this element alone gives. -/
theorem run_all_or_nothing {world : World} {arguments : List String} {invocation : Invocation}
    (harguments : Invocation.ofArguments? arguments = some invocation)
    (htokens : invocation.tokens = false) :
    ((∃ config value, world.Configured invocation (.ok config) ∧ Evaluates world invocation value ∧
        (run world arguments).Prints value (invocation.format.getD config.outputFormat)) ∨
      ∃ failure, FirstFault world invocation failure ∧ (run world arguments).Reports failure) ∧
    ((run world arguments).status = 0 ↔ ∀ failure, ¬ Fault world invocation failure) ∧
    (∀ failure, FirstFault world invocation failure → (run world arguments).Reports failure) ∧
    (invocation.each = true → ∀ path items, Path.parse invocation.expression = .ok path →
      world.Loads invocation (.array items) →
      ((run world arguments).status = 0 ↔
        ∀ item ∈ items, ∃ outcome, Gives path item (.ok outcome)) ∧
      (∀ outcomes,
        List.Forall₂ (fun item outcome => Gives path item (.ok outcome)) items outcomes →
        ∃ config, world.Configured invocation (.ok config) ∧
          (run world arguments).Prints (.array (outcomes.map (Option.getD · .nil)))
            (invocation.format.getD config.outputFormat)) ∧
      ∀ (index : Nat) item error, items[index]? = some item → Gives path item (.error error) →
        (∀ (i : Nat) earlier, i < index → items[i]? = some earlier →
          ∃ outcome, Gives path earlier (.ok outcome)) →
        run world arguments = ⟨1, "", ["Error: Failed on element " ++ toString index, "", "Caused by:",
          "    0: " ++ error.message, "    1: " ++ error.reason.message]⟩) := by
  have hrun : run world arguments = invocation.run world := by rw [run, harguments]
  rw [hrun]
  have hcases := @run_cases world invocation htokens
  have hstatus : (invocation.run world).status = 0 ↔ ∀ failure, ¬ Fault world invocation failure := by
    rcases hcases with ⟨config, value, -, -, hfaults, hprints⟩ | ⟨failure, hfirst, hreports⟩
    · simp [hprints.status, hfaults]
    · rw [hreports.1]
      exact ⟨fun h => absurd h (by decide), fun hfaults => absurd hfirst.1 (hfaults failure)⟩
  have hreport : ∀ failure, FirstFault world invocation failure → (invocation.run world).Reports failure := by
    intro failure hfailure
    rcases hcases with ⟨config, value, -, -, hfaults, -⟩ | ⟨other, hother, hreports⟩
    · exact absurd hfailure.1 (hfaults failure)
    · rwa [hfailure.unique hother]
  refine ⟨?_, hstatus, hreport, fun heach path items hpath hloads => ⟨?_, ?_, ?_⟩⟩
  · rcases hcases with ⟨config, value, hconfig, hvalue, -, hprints⟩ | hfailed
    · exact Or.inl ⟨config, value, hconfig, hvalue, hprints⟩
    · exact Or.inr hfailed
  · rw [hstatus, no_fault_iff_of_array heach hpath hloads]
  · intro outcomes houtcomes
    have hfaults := (no_fault_iff_of_array heach hpath hloads).mpr (exists_outcome_of_forall₂ houtcomes)
    rcases hcases with ⟨config, value, hconfig, hvalue, -, hprints⟩ | ⟨failure, hfirst, -⟩
    · exact ⟨config, hconfig, hvalue.eq_of_array heach hpath hloads houtcomes ▸ hprints⟩
    · exact absurd hfirst.1 (hfaults failure)
  · intro index item error hitem herror hbefore
    exact (hreport _ (firstFault_element heach hpath hloads hitem herror hbefore)).eq_of_element

/-- Two instances on `[{},[]]`. A hash can be asked for a key and has none, an array cannot: so the run names the
second element and prints nothing for the first. Both have a class: so the run prints what it finds. -/
theorem run_all_or_nothing_of_late_element :
    let world : World := ⟨fun _ => .missing, ⟨#[91, 123, 125, 44, 91, 93, 93]⟩, "/home"⟩
    let items : List Value := [.hash [], .array []]
    let failing : Invocation := ⟨"[a]", none, true, none, false, none⟩
    let printing : Invocation := ⟨".class", none, true, some .json, false, none⟩
    (Invocation.ofArguments? ["-e", "[a]"] = some failing ∧ failing.tokens = false ∧
      world.Loads failing (.array items) ∧
      run world ["-e", "[a]"] = ⟨1, "", ["Error: Failed on element 1", "", "Caused by:",
        "    0: cannot apply \x60[a]\x60 (segment 0): no implicit conversion of String into Integer",
        "    1: no implicit conversion of String into Integer"]⟩) ∧
    Invocation.ofArguments? ["-e", "-f", "json", ".class"] = some printing ∧ printing.tokens = false ∧
      world.Loads printing (.array items) ∧
      run world ["-e", "-f", "json", ".class"] = ⟨0, "[\n  \"Hash\",\n  \"Array\"\n]\n", []⟩ := by
  intro world items failing printing
  -- The document is read in stages, since only texts and tokens can be compared by deciding.
  have htext : Document.inputText world.input = .ok "[\x7b\x7d,[]]" := by decide +kernel
  have htokens : Yaml.Token.ofText "[\x7b\x7d,[]]".toList = [.flowSequenceStart, .flowMappingStart, .flowMappingEnd,
      .flowEntry, .flowSequenceStart, .flowSequenceEnd, .flowSequenceEnd, .streamEnd] := by decide +kernel
  have hnode : Yaml.documents "[\x7b\x7d,[]]".toList = [.ok (.seq [.map [], .seq []])] := by
    rw [Yaml.documents, htokens]
    rfl
  have hdocument : Document.load true "[\x7b\x7d,[]]" = .ok (.array items) := by
    rw [Document.load, hnode]
    rfl
  have hinput : Document.loadInput true world.input = .ok (.array items) := by
    rw [Document.loadInput, htext]
    exact congrArg (Except.mapError LoadError.inputText) hdocument
  have hloads : world.Loads failing (.array items) := ⟨.default, .own rfl rfl, .input rfl hinput⟩
  have hloads' : world.Loads printing (.array items) := ⟨.default, .own rfl rfl, .input rfl hinput⟩
  have hfailing : Invocation.ofArguments? ["-e", "[a]"] = some failing := by decide +kernel
  have hprinting : Invocation.ofArguments? ["-e", "-f", "json", ".class"] = some printing := by decide +kernel
  refine ⟨⟨hfailing, rfl, hloads, ?_⟩, hprinting, rfl, hloads', ?_⟩
  · have hpath : Path.parse "[a]" = .ok ⟨[⟨.genericKey "a", false⟩]⟩ := by decide +kernel
    refine ((run_all_or_nothing hfailing rfl).2.2.2 rfl _ _ hpath hloads).2.2 1 (.array [])
      ⟨⟨.genericKey "a", false⟩, 0, implicitConversion "String" "Integer"⟩ rfl (gives_iff.mpr rfl) ?_
    intro i earlier hlt hearlier
    obtain rfl : i = 0 := by omega
    obtain rfl : Value.hash [] = earlier := Option.some.inj hearlier
    exact ⟨none, gives_iff.mpr rfl⟩
  · have hpath : Path.parse ".class" = .ok ⟨[⟨.method "class", false⟩]⟩ := by decide +kernel
    have hclasses := ((run_all_or_nothing hprinting rfl).2.2.2 rfl _ _ hpath hloads').2.1
      [some (.str "Hash"), some (.str "Array")]
      (.cons (gives_iff.mpr rfl) (.cons (gives_iff.mpr rfl) .nil))
    obtain ⟨config, -, hprints⟩ := hclasses
    generalize run world ["-e", "-f", "json", ".class"] = outcome at hprints ⊢
    cases hprints
    rfl

end DocPath.CommandLine
