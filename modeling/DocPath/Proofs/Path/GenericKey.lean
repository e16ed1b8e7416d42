import DocPath.Proofs.Path.Composition

/-!
# Generic keys beside plain keys

A generic key is tried as a string and then as a symbol. On data it comes to what the string key comes to,
unless that is absence; then it comes to what the symbol key comes to, except that a string key which is there
with nil ends the search. A host object that can tell which keys it has is asked that first and looked up once
at most; any other is looked up a second time only when the string gave nil. Two host objects that answer from
one table, one of each kind, differ only in what they make of a string key that is listed with nil.
-/

namespace DocPath

/-- Whether a value is a hash in which a string key has the value nil. -/
def Value.storesNil (text : String) : Value → Bool
  | .hash entries => (Entries.get? (.str text) entries).any Value.isNil
  | _ => false

/-- What a host object answers to a generic key, and the calls that this takes. The last lookup decides; an
object that can tell which keys it has is not looked up for a key that it does not have. -/
def Hosts.genericAnswer (hosts : Hosts) (earlier : List HostCall) (object : HostObject) (text : String) :
    Traced ReceiverError (Option Value) :=
  if hosts.hasPresence earlier object then
    if hosts.hasKey earlier object (.str text) then
      let asked := [.hasKey object (.str text)]
      ⟨asked ++ [.index object (.str text)],
        (hosts.index (earlier ++ asked) object (.str text)).map Value.toOption⟩
    else
      let asked := [.hasKey object (.str text), .hasKey object (.symbol text)]
      if hosts.hasKey (earlier ++ [.hasKey object (.str text)]) object (.symbol text) then
        ⟨asked ++ [.index object (.symbol text)],
          (hosts.index (earlier ++ asked) object (.symbol text)).map Value.toOption⟩
      else ⟨asked, .ok none⟩
  else
    let looked := [.index object (.str text)]
    match hosts.index earlier object (.str text) with
    | .ok .nil =>
      ⟨looked ++ [.index object (.symbol text)],
        (hosts.index (earlier ++ looked) object (.symbol text)).map Value.toOption⟩
    | answer => ⟨looked, answer.map Value.toOption⟩

/-- A host object that answers lookups from a table of outcomes: a key that is not listed gives nil. -/
def Hosts.Serves (hosts : Hosts) (object : HostObject)
    (table : List (Key × Except ReceiverError Value)) : Prop :=
  ∀ earlier key, hosts.index earlier object key = (Entries.get? key table).getD (.ok .nil)

/-- A host object that can tell which keys it has: those that a table lists. -/
structure Hosts.TellsKeys (hosts : Hosts) (object : HostObject)
    (table : List (Key × Except ReceiverError Value)) : Prop where
  hasPresence : ∀ earlier, hosts.hasPresence earlier object = true
  hasKey : ∀ earlier key, hosts.hasKey earlier object key = Entries.contains key table

namespace Path

variable (hosts : Hosts)

/-! ## The two ways of a generic lookup -/

/-- A receiver that can tell which keys it has is asked for them first. -/
theorem genericLookup_of_presence {value : Value} {earlier : List HostCall}
    (hpresence : value.hasPresence hosts earlier = true) (text : String) :
    genericLookup hosts value text earlier =
      (do
        if ← value.hasKey hosts (.str text) then value.index hosts (.str text)
        else if ← value.hasKey hosts (.symbol text) then value.index hosts (.symbol text)
        else pure .nil : Consult ReceiverError Value) earlier := by
  rw [genericLookup, Consult.earlierCalls_bind_apply, if_pos hpresence]

/-- Any other is asked for the string, and for the symbol if that gives nil. -/
theorem genericLookup_of_no_presence {value : Value} {earlier : List HostCall}
    (hpresence : value.hasPresence hosts earlier = false) (text : String) :
    genericLookup hosts value text earlier =
      (do
        match ← value.index hosts (.str text) with
        | .nil => value.index hosts (.symbol text)
        | found => pure found : Consult ReceiverError Value) earlier := by
  rw [genericLookup, Consult.earlierCalls_bind_apply]
  exact congrFun (if_neg (by simp [hpresence])) earlier

/-! ## Data -/

/-- A string key that is in a hash decides, whatever its value. -/
theorem genericLookup_hash (entries : List (Key × Value)) (text : String) (earlier : List HostCall) :
    genericLookup hosts (.hash entries) text earlier =
      ⟨[], .ok (((Entries.get? (.str text) entries).or (Entries.get? (.symbol text) entries)).getD .nil)⟩ := by
  rw [genericLookup_of_presence hosts rfl]
  cases hstring : Entries.get? (.str text) entries with
  | some found =>
      simp [Value.hasKey, Value.index, Entries.contains, hstring, Value.ofOption, Consult.pure_apply]
  | none =>
      cases hsymbol : Entries.get? (.symbol text) entries with
      | some found =>
          simp [Value.hasKey, Value.index, Entries.contains, hstring, hsymbol, Value.ofOption,
            Consult.pure_apply]
      | none => simp [Value.hasKey, Entries.contains, hstring, hsymbol, Consult.pure_apply]

section

variable {value : Value} (hdata : ∀ object, value ≠ .host object)

include hdata

/-- No host object is needed for a key of data. -/
theorem exists_index_eq_ofExcept (key : Key) : ∃ result, value.index hosts key = .ofExcept result := by
  cases value with
  | host object => exact absurd rfl (hdata object)
  | array items => cases key <;> exact ⟨_, rfl⟩
  | int n => cases key <;> exact ⟨_, rfl⟩
  | _ => exact ⟨_, rfl⟩

/-- Data other than hashes is looked up again when the string gave nil. -/
theorem genericLookup_of_not_hash (hhash : ∀ entries, value ≠ .hash entries) (text : String)
    (earlier : List HostCall) :
    genericLookup hosts value text earlier =
      match (value.index hosts (.str text) earlier).result with
      | .ok .nil => value.index hosts (.symbol text) earlier
      | answer => ⟨[], answer⟩ := by
  have hpresence : value.hasPresence hosts earlier = false := by
    cases value with
    | host object => exact absurd rfl (hdata object)
    | hash entries => exact absurd rfl (hhash entries)
    | _ => rfl
  obtain ⟨string, hstring⟩ := exists_index_eq_ofExcept hosts hdata (.str text)
  rw [genericLookup_of_no_presence hosts hpresence, hstring, Consult.bind_apply]
  cases string with
  | error e => rfl
  | ok found => cases found <;> simp [Consult.ofExcept, Consult.pure_apply]

/-- The generic key on data, told from the string key and the symbol key. -/
theorem genericKey_apply_of_data (text : String) (earlier : List HostCall) :
    (Step.genericKey text).apply hosts value earlier =
      match ((Step.stringKey text).apply hosts value earlier).result with
      | .ok none =>
        if value.storesNil text then ⟨[], .ok none⟩ else (Step.symbolKey text).apply hosts value earlier
      | answer => ⟨[], answer⟩ := by
  simp only [Step.apply_eq, Step.lookup]
  by_cases hhash : ∃ entries, value = .hash entries
  · obtain ⟨entries, rfl⟩ := hhash
    rw [genericLookup_hash]
    cases hstring : Entries.get? (.str text) entries with
    | none =>
        simp [Value.index, Value.storesNil, hstring, Consult.pure_apply, Except.map, Value.ofOption,
          Value.toOption]
    | some found =>
        cases found <;>
          simp [Value.index, Value.storesNil, hstring, Consult.pure_apply, Except.map, Value.ofOption,
            Value.toOption, Value.isNil]
  · have hnil : value.storesNil text = false := by
      cases value with
      | hash entries => exact absurd ⟨entries, rfl⟩ hhash
      | _ => rfl
    obtain ⟨string, hstring⟩ := exists_index_eq_ofExcept hosts hdata (.str text)
    rw [genericLookup_of_not_hash hosts hdata (fun entries heq => hhash ⟨entries, heq⟩), hstring, hnil]
    cases string with
    | error e => rfl
    | ok found => cases found <;> rfl

end

/-! ## Host objects -/

theorem genericKey_apply_host (object : HostObject) (text : String) (earlier : List HostCall) :
    (Step.genericKey text).apply hosts (.host object) earlier =
      hosts.genericAnswer earlier object text := by
  rw [Step.apply_eq, Step.lookup, Hosts.genericAnswer]
  cases hpresence : hosts.hasPresence earlier object with
  | true =>
      have htells : (Value.host object).hasPresence hosts earlier = true := hpresence
      rw [genericLookup_of_presence hosts htells, if_pos rfl]
      cases hstring : hosts.hasKey earlier object (.str text) with
      | true => simp [Consult.bind_apply, Value.hasKey, Value.index, Consult.call, hstring]
      | false =>
          cases hsymbol : hosts.hasKey (earlier ++ [.hasKey object (.str text)]) object (.symbol text) with
          | true => simp [Consult.bind_apply, Value.hasKey, Value.index, Consult.call, hstring, hsymbol]
          | false =>
              simp [Consult.bind_apply, Value.hasKey, Consult.call, Consult.pure_apply, Except.map,
                Value.toOption, hstring, hsymbol]
  | false =>
      have htells : (Value.host object).hasPresence hosts earlier = false := hpresence
      rw [genericLookup_of_no_presence hosts htells, if_neg Bool.false_ne_true, Consult.bind_apply]
      simp only [Value.index, Consult.call]
      rcases hosts.index earlier object (.str text) with e | found
      · rfl
      · cases found <;> rfl

section

variable {hosts} {object : HostObject} {table : List (Key × Except ReceiverError Value)}

/-- An object that can tell which keys a table lists answers the first of the two that is listed. -/
theorem genericAnswer_result_of_tellsKeys (hserves : hosts.Serves object table)
    (htells : hosts.TellsKeys object table) (text : String) (earlier : List HostCall) :
    (hosts.genericAnswer earlier object text).result =
      (((Entries.get? (.str text) table).or (Entries.get? (.symbol text) table)).getD (.ok .nil)).map
        Value.toOption := by
  simp only [Hosts.genericAnswer, htells.hasPresence, htells.hasKey, hserves earlier,
    hserves (earlier ++ _), Entries.contains, if_true]
  cases Entries.get? (.str text) table with
  | some answer => rfl
  | none => cases Entries.get? (.symbol text) table <;> rfl

/-- Any other object goes on to the symbol also when the string is listed with nil. -/
theorem genericAnswer_result_of_no_presence (hserves : hosts.Serves object table)
    {earlier : List HostCall} (hpresence : hosts.hasPresence earlier object = false) (text : String) :
    (hosts.genericAnswer earlier object text).result =
      match Entries.get? (.str text) table with
      | none | some (.ok .nil) => ((Entries.get? (.symbol text) table).getD (.ok .nil)).map Value.toOption
      | some answer => answer.map Value.toOption := by
  simp only [Hosts.genericAnswer, hpresence, hserves earlier, hserves (earlier ++ _), if_neg Bool.false_ne_true]
  generalize Entries.get? (.str text) table = listed
  rcases listed with _ | e | found
  · rfl
  · rfl
  · cases found <;> rfl

end

/-- The generic key beside the plain ones. On data a string key that comes to a value or fails decides; if it
comes to absence the symbol key decides, but for a hash that has the string key with nil. A host object that
can tell which keys it has is looked up for the first of the two that it has and not at all if it has neither;
any other is looked up for the string and, if that gave nil, for the symbol. From one table both kinds of
objects answer the same unless the string is listed with nil: then only the second kind gets to the symbol. -/
theorem genericKey_beside_plain_keys (text : String) (earlier : List HostCall) :
    (∀ value : Value, (∀ object, value ≠ .host object) →
      (Step.genericKey text).apply hosts value earlier =
        match ((Step.stringKey text).apply hosts value earlier).result with
        | .ok none =>
          if value.storesNil text then ⟨[], .ok none⟩
          else (Step.symbolKey text).apply hosts value earlier
        | answer => ⟨[], answer⟩) ∧
    (∀ object : HostObject, (Step.genericKey text).apply hosts (.host object) earlier =
      hosts.genericAnswer earlier object text) ∧
    ∀ (hosts' : Hosts) (earlier' : List HostCall) (object other : HostObject)
      (table : List (Key × Except ReceiverError Value)),
      hosts.Serves object table → hosts.TellsKeys object table →
      hosts'.Serves other table → hosts'.hasPresence earlier' other = false →
      let answer := ((Step.genericKey text).apply hosts (.host object) earlier).result
      let answer' := ((Step.genericKey text).apply hosts' (.host other) earlier').result
      (Entries.get? (.str text) table ≠ some (.ok .nil) → answer = answer') ∧
      (Entries.get? (.str text) table = some (.ok .nil) → answer = .ok none ∧
        answer' = ((Entries.get? (.symbol text) table).getD (.ok .nil)).map Value.toOption) := by
  refine ⟨fun value hdata => genericKey_apply_of_data hosts hdata text earlier,
    fun object => genericKey_apply_host hosts object text earlier, ?_⟩
  intro hosts' earlier' object other table hserves htells hserves' hpresence
  rw [genericKey_apply_host, genericKey_apply_host,
    genericAnswer_result_of_tellsKeys hserves htells,
    genericAnswer_result_of_no_presence hserves' hpresence]
  generalize Entries.get? (.str text) table = listed
  constructor
  · intro hlisted
    rcases listed with _ | e | found
    · rfl
    · rfl
    · cases found with
      | nil => exact absurd rfl hlisted
      | _ => rfl
  · rintro rfl
    exact ⟨rfl, rfl⟩

/-- A string key listed beside its symbol, one listed with nil, and a symbol alone. -/
theorem genericKey_beside_plain_keys_of_table :
    let table : List (Key × Except ReceiverError Value) :=
      [(.symbol "port", .ok (.int 80)), (.str "name", .ok .nil), (.symbol "name", .ok (.bool true))]
    let hosts : Hosts :=
      ⟨fun _ _ _ => .ok .nil, fun _ _ key => (Entries.get? key table).getD (.ok .nil),
        fun _ object => object.identity == 0, fun _ _ key => Entries.contains key table⟩
    let object : HostObject := ⟨0, "Record"⟩
    let other : HostObject := ⟨1, "Registry"⟩
    let value : Value := .hash [(.str "name", .nil), (.symbol "name", .int 7), (.symbol "port", .int 80)]
    (∀ object, value ≠ .host object) ∧ hosts.Serves object table ∧ hosts.TellsKeys object table ∧
      hosts.Serves other table ∧ hosts.hasPresence [] other = false ∧
      (Step.genericKey "name").apply hosts value [] = ⟨[], .ok none⟩ ∧
      (Step.genericKey "port").apply hosts value [] = (Step.symbolKey "port").apply hosts value [] ∧
      ((Step.genericKey "port").apply hosts (.host object) []).result =
        ((Step.genericKey "port").apply hosts (.host other) []).result ∧
      ((Step.genericKey "name").apply hosts (.host object) []).result = .ok none ∧
      ((Step.genericKey "name").apply hosts (.host other) []).result = .ok (some (.bool true)) := by
  intro table hosts object other value
  have hdata : ∀ object, value ≠ .host object := nofun
  have hserves : hosts.Serves object table := fun _ _ => rfl
  have htells : hosts.TellsKeys object table := ⟨fun _ => rfl, fun _ _ => rfl⟩
  have hserves' : hosts.Serves other table := fun _ _ => rfl
  obtain ⟨hname, -, hsame⟩ := genericKey_beside_plain_keys hosts "name" []
  obtain ⟨hport, -, hsame'⟩ := genericKey_beside_plain_keys hosts "port" []
  have hlisted := (hsame hosts [] object other table hserves htells hserves' rfl).2 rfl
  exact ⟨hdata, hserves, htells, hserves', rfl, hname value hdata, hport value hdata,
    (hsame' hosts [] object other table hserves htells hserves' rfl).1 nofun, hlisted.1, hlisted.2⟩

end Path

end DocPath
