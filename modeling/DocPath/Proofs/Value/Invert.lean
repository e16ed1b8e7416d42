import Mathlib.Data.Prod.Basic
import DocPath.Proofs.Entries
import DocPath.Proofs.Value.Depth
import DocPath.Proofs.Value.Dispatch

/-!
# Inverted hashes

A hash of which all values could be keys is a list of pairs of keys, and inverting it is making a dictionary of the
pairs the other way round. Values that occur more than once leave their last key at the place of their first. So
inverting twice drops all pairs but these, and the hash comes back exactly if no value occurs more than once.
-/

namespace DocPath

/-! ## Pairs of keys -/

/-- The dictionary of pairs of keys, each the other way round. -/
def inversePairs (pairs : List (Key × Key)) : List (Key × Key) := Entries.ofList (pairs.map Prod.swap)

/-- The keys of the inverse are the values, each at the place of its first occurrence. -/
theorem fst_inversePairs (pairs : List (Key × Key)) :
    (inversePairs pairs).map Prod.fst = firsts (· == ·) (pairs.map Prod.snd) := by
  rw [inversePairs, Entries.keys_ofList, List.map_map]
  rfl

/-- Of all keys with one value the last is the value of the inverse. -/
theorem mem_inversePairs_iff {pairs : List (Key × Key)} {value key : Key} :
    (value, key) ∈ inversePairs pairs ↔ IsLastBy Prod.snd pairs (key, value) := by
  rw [inversePairs, Entries.mem_ofList_iff, isLastBy_map]
  constructor
  · rintro ⟨⟨_, _⟩, hlast, heq⟩
    cases heq
    exact hlast
  · exact fun hlast => ⟨(key, value), hlast, rfl⟩

/-- A key is the last one of one value only. -/
theorem nodup_snd_inversePairs {pairs : List (Key × Key)} (hdistinct : (pairs.map Prod.fst).Nodup) :
    ((inversePairs pairs).map Prod.snd).Nodup := by
  apply List.Nodup.map_on _ (Entries.nodup_keys_ofList (pairs.map Prod.swap)).of_map
  rintro ⟨value, key⟩ hpair ⟨value', key'⟩ hpair' heq
  obtain rfl : key = key' := heq
  have hmem := (mem_inversePairs_iff.mp hpair).mem
  have hmem' := (mem_inversePairs_iff.mp hpair').mem
  have hsame := List.inj_on_of_nodup_map hdistinct hmem hmem' rfl
  rw [(Prod.mk.inj hsame).2]

/-- Inverting twice turns the pairs of the first inverse round again, without loss. -/
theorem inversePairs_inversePairs {pairs : List (Key × Key)} (hdistinct : (pairs.map Prod.fst).Nodup) :
    inversePairs (inversePairs pairs) = (inversePairs pairs).map Prod.swap := by
  apply Entries.ofList_eq_self_of_nodup
  rw [List.map_map]
  exact nodup_snd_inversePairs hdistinct

/-- The inverse has all pairs turned round if no value is repeated. -/
theorem map_swap_inversePairs_eq_iff {pairs : List (Key × Key)} :
    (inversePairs pairs).map Prod.swap = pairs ↔ (pairs.map Prod.snd).Nodup := by
  constructor
  · intro heq
    rw [← heq, List.map_map]
    exact Entries.nodup_keys_ofList _
  · intro hnodup
    have hswapped : inversePairs pairs = pairs.map Prod.swap :=
      Entries.ofList_eq_self_of_nodup (by rwa [List.map_map])
    rw [hswapped, List.map_map, Prod.swap_swap_eq, List.map_id]

namespace Value

/-! ## Values that are keys -/

/-- Strings, symbols and integers. -/
def IsKey : Value → Prop
  | .str _ | .symbol _ | .int _ => True
  | _ => False

theorem ofValue?_toValue (key : Key) : Key.ofValue? key.toValue = some key := by
  cases key <;> rfl

theorem toValue_injective : Function.Injective Key.toValue := by
  intro key other heq
  have hsame := congrArg Key.ofValue? heq
  rwa [ofValue?_toValue, ofValue?_toValue, Option.some.injEq] at hsame

theorem IsKey.exists_toValue_eq {value : Value} (hvalue : value.IsKey) : ∃ key : Key, value = key.toValue := by
  cases value with
  | str text => exact ⟨.str text, rfl⟩
  | symbol name => exact ⟨.symbol name, rfl⟩
  | int n => exact ⟨.int n, rfl⟩
  | _ => cases hvalue

theorem isKey_toValue (key : Key) : key.toValue.IsKey := by
  cases key <;> trivial

theorem ofValue?_eq_none {value : Value} (hvalue : ¬ value.IsKey) : Key.ofValue? value = none := by
  cases value with
  | str | symbol | int => exact absurd trivial hvalue
  | _ => rfl

/-- The entries of a hash of which the values are keys. -/
def ofPairs (pairs : List (Key × Key)) : List (Key × Value) := pairs.map (Prod.map id Key.toValue)

theorem ofPairs_injective : Function.Injective ofPairs :=
  List.map_injective_iff.mpr (Function.injective_id.prodMap toValue_injective)

theorem exists_ofPairs_eq {entries : List (Key × Value)} (hkeys : ∀ entry ∈ entries, entry.2.IsKey) :
    ∃ pairs, entries = ofPairs pairs := by
  induction entries with
  | nil => exact ⟨[], rfl⟩
  | cons entry rest ih =>
      obtain ⟨hentry, hrest⟩ := List.forall_mem_cons.mp hkeys
      obtain ⟨value, hvalue⟩ := hentry.exists_toValue_eq
      obtain ⟨pairs, rfl⟩ := ih hrest
      exact ⟨(entry.1, value) :: pairs, congrArg (· :: _) (Prod.ext rfl hvalue)⟩

/-! ## Inverting -/

/-- Entries with keys as values are all taken before the rest is looked at. -/
theorem invertInto_ofPairs_append (inverted pairs : List (Key × Key)) (rest : List (Key × Value)) :
    invertInto (ofPairs inverted) (ofPairs pairs ++ rest) =
      invertInto (ofPairs (Entries.insertAll inverted (pairs.map Prod.swap))) rest := by
  induction pairs generalizing inverted with
  | nil => rfl
  | cons pair pairs ih =>
      have hinsert : Entries.insert pair.2 pair.1.toValue (ofPairs inverted) =
          ofPairs (Entries.insert pair.2 pair.1 inverted) :=
        (Entries.map_insert (f := id) Key.toValue (fun _ _ => rfl) pair.1).symm
      have hstep : invertInto (ofPairs inverted) (ofPairs (pair :: pairs) ++ rest) =
          invertInto (Entries.insert pair.2 pair.1.toValue (ofPairs inverted)) (ofPairs pairs ++ rest) := by
        simp [ofPairs, invertInto, ofValue?_toValue]
      rw [hstep, hinsert, ih]
      rfl

theorem invert_ofPairs (pairs : List (Key × Key)) : invert (ofPairs pairs) = .ok (ofPairs (inversePairs pairs)) := by
  have hrest := invertInto_ofPairs_append [] pairs []
  rwa [List.append_nil] at hrest

/-- The first value that cannot be a key ends the inversion, and its class is named. -/
theorem invert_of_not_isKey {before after : List (Key × Value)} {key : Key} {value : Value}
    (hbefore : ∀ entry ∈ before, entry.2.IsKey) (hvalue : ¬ value.IsKey) :
    invert (before ++ (key, value) :: after) = .error (.type (value.className ++ " cannot be used as a key")) := by
  obtain ⟨pairs, rfl⟩ := exists_ofPairs_eq hbefore
  refine (invertInto_ofPairs_append [] pairs _).trans ?_
  rw [invertInto, ofValue?_eq_none hvalue]

/-- All values can be keys, or there is a first that cannot. -/
theorem isKey_or_split (entries : List (Key × Value)) :
    (∀ entry ∈ entries, entry.2.IsKey) ∨ ∃ before key value after, entries = before ++ (key, value) :: after ∧
      (∀ entry ∈ before, entry.2.IsKey) ∧ ¬ value.IsKey := by
  induction entries with
  | nil => exact .inl (List.forall_mem_nil _)
  | cons entry rest ih =>
      by_cases hentry : entry.2.IsKey
      · rcases ih with hrest | ⟨before, key, value, after, rfl, hbefore, hvalue⟩
        · exact .inl (List.forall_mem_cons.mpr ⟨hentry, hrest⟩)
        · exact .inr ⟨entry :: before, key, value, after, rfl, List.forall_mem_cons.mpr ⟨hentry, hbefore⟩, hvalue⟩
      · exact .inr ⟨[], entry.1, entry.2, rest, rfl, List.forall_mem_nil _, hentry⟩

/-- Whatever has an inverse consists of pairs of keys, and the inverse is theirs. -/
theorem invert_eq_ok_iff {entries inverted : List (Key × Value)} :
    invert entries = .ok inverted ↔
      ∃ pairs, entries = ofPairs pairs ∧ inverted = ofPairs (inversePairs pairs) := by
  constructor
  · intro hok
    rcases isKey_or_split entries with hkeys | ⟨before, key, value, after, rfl, hbefore, hvalue⟩
    · obtain ⟨pairs, rfl⟩ := exists_ofPairs_eq hkeys
      rw [invert_ofPairs, Except.ok.injEq] at hok
      exact ⟨pairs, rfl, hok.symm⟩
    · cases (invert_of_not_isKey hbefore hvalue).symm.trans hok
  · rintro ⟨pairs, rfl, rfl⟩
    exact invert_ofPairs pairs

/-- There is an inverse exactly if all values can be keys. -/
theorem invert_isOk_iff (entries : List (Key × Value)) :
    (∃ inverted, invert entries = .ok inverted) ↔ ∀ entry ∈ entries, entry.2.IsKey := by
  constructor
  · rintro ⟨inverted, hok⟩
    obtain ⟨pairs, rfl, -⟩ := invert_eq_ok_iff.mp hok
    exact List.forall_mem_map.mpr fun pair _ => isKey_toValue pair.2
  · intro hkeys
    obtain ⟨pairs, rfl⟩ := exists_ofPairs_eq hkeys
    exact ⟨_, invert_ofPairs pairs⟩

/-- Every error of an inversion is about the first value that cannot be a key. -/
theorem invert_eq_error_iff (entries : List (Key × Value)) (e : ReceiverError) :
    invert entries = .error e ↔ ∃ before key value after, entries = before ++ (key, value) :: after ∧
      (∀ entry ∈ before, entry.2.IsKey) ∧ ¬ value.IsKey ∧
      e = .type (value.className ++ " cannot be used as a key") := by
  constructor
  · intro herror
    rcases isKey_or_split entries with hkeys | ⟨before, key, value, after, rfl, hbefore, hvalue⟩
    · obtain ⟨inverted, hok⟩ := (invert_isOk_iff entries).mpr hkeys
      cases hok.symm.trans herror
    · rw [invert_of_not_isKey hbefore hvalue, Except.error.injEq] at herror
      exact ⟨before, key, value, after, rfl, hbefore, hvalue, herror.symm⟩
  · rintro ⟨before, key, value, after, rfl, hbefore, hvalue, rfl⟩
    exact invert_of_not_isKey hbefore hvalue

theorem map_hash_eq_ok_iff {found : Except ReceiverError (List (Key × Value))} {result : Value} :
    found.map hash = .ok result ↔ ∃ entries, found = .ok entries ∧ result = hash entries := by
  cases found <;> simp [Except.map, eq_comm]

theorem map_hash_eq_error_iff {found : Except ReceiverError (List (Key × Value))} {e : ReceiverError} :
    found.map hash = .error e ↔ found = .error e := by
  cases found <;> simp [Except.map]

theorem result_send_invert (hosts : Hosts) (entries : List (Key × Value)) (earlier : List HostCall) :
    ((hash entries).send hosts "invert" earlier).result = (invert entries).map hash := by
  have hmethod : ownMethod (hash entries) "invert" = ((invert entries).map hash).map some := by
    change (invert entries).map (some ∘ hash) = _
    cases invert entries <;> rfl
  rw [send_of_ownMethod hosts (by simp) hmethod]

/-- A hash is inverted exactly if all its values are strings, symbols or integers; otherwise the error names the
class of the first one that is not. The inverted hash has each value once, at the place of its first occurrence and
with its last key. Inverted again, these are the entries of the hash in that order, and they are all of them exactly
if the values are distinct. -/
theorem send_invert (hosts : Hosts) {entries : List (Key × Value)} (hdistinct : (hash entries).DistinctKeys)
    (earlier : List HostCall) :
    let answer (value : Value) := (value.send hosts "invert" earlier).result
    ((∃ result, answer (hash entries) = .ok result) ↔ ∀ entry ∈ entries, entry.2.IsKey) ∧
    (∀ e, answer (hash entries) = .error e ↔
      ∃ before key value after, entries = before ++ (key, value) :: after ∧
        (∀ entry ∈ before, entry.2.IsKey) ∧ ¬ value.IsKey ∧
        e = .type (value.className ++ " cannot be used as a key")) ∧
    ∀ result, answer (hash entries) = .ok result →
      ∃ (values : List Key) (lastKeys : List (Key × Key)),
        entries.map Prod.snd = values.map Key.toValue ∧
        lastKeys.map Prod.fst = firsts (· == ·) values ∧
        (∀ value key, (value, key) ∈ lastKeys → IsLastBy Prod.snd entries (key, value.toValue)) ∧
        result = hash (lastKeys.map fun (value, key) => (value, key.toValue)) ∧
        answer result = .ok (hash (lastKeys.map fun (value, key) => (key, value.toValue))) ∧
        (answer result = .ok (hash entries) ↔ (entries.map Prod.snd).Nodup) := by
  intro answer
  have hok : ∀ entries result, answer (hash entries) = .ok result ↔
      ∃ inverted, invert entries = .ok inverted ∧ result = hash inverted := by
    intro entries result
    rw [← map_hash_eq_ok_iff, ← result_send_invert]
  refine ⟨?_, fun e => ?_, fun result hresult => ?_⟩
  · rw [← invert_isOk_iff]
    simp only [hok]
    exact ⟨fun ⟨_, inverted, h, _⟩ => ⟨inverted, h⟩, fun ⟨inverted, h⟩ => ⟨_, inverted, h, rfl⟩⟩
  · rw [← invert_eq_error_iff, ← map_hash_eq_error_iff, ← result_send_invert]
  · obtain ⟨_, hinverted, rfl⟩ := (hok entries result).mp hresult
    obtain ⟨pairs, rfl, rfl⟩ := invert_eq_ok_iff.mp hinverted
    have hpairs : (pairs.map Prod.fst).Nodup := by
      simpa [DistinctKeys, ofPairs, Function.comp_def] using hdistinct
    have htwice : answer (hash (ofPairs (inversePairs pairs))) =
        .ok (hash (ofPairs ((inversePairs pairs).map Prod.swap))) :=
      (hok _ _).mpr ⟨_, by rw [invert_ofPairs, inversePairs_inversePairs hpairs], rfl⟩
    have hvalues : (ofPairs pairs).map Prod.snd = (pairs.map Prod.snd).map Key.toValue := by
      simp [ofPairs]
    refine ⟨pairs.map Prod.snd, inversePairs pairs, hvalues, fst_inversePairs pairs, ?_, rfl, ?_, ?_⟩
    · intro value key hmem
      refine isLastBy_map.mpr ⟨(key, value), ?_, rfl⟩
      exact (isLastBy_comp toValue_injective).mpr (mem_inversePairs_iff.mp hmem)
    · rw [htwice, ofPairs, List.map_map]
      rfl
    · rw [htwice, Except.ok.injEq, hash.injEq, ofPairs_injective.eq_iff, map_swap_inversePairs_eq_iff, hvalues,
        List.nodup_map_iff toValue_injective]

/-- A value that occurs twice keeps its place and takes the last key, and the hash does not come back. -/
theorem send_invert_of_repeated :
    let hosts : Hosts := ⟨fun _ _ _ => .ok .nil, fun _ _ _ => .ok .nil, fun _ _ => false, fun _ _ _ => false⟩
    let answer (value : Value) := (value.send hosts "invert" []).result
    let entries : List (Key × Value) := [(.symbol "a", .int 1), (.str "b", .symbol "x"), (.int 7, .int 1)]
    let inverted := hash [(.int 1, .int 7), (.symbol "x", .str "b")]
    (hash entries).DistinctKeys ∧ (∀ entry ∈ entries, entry.2.IsKey) ∧
      answer (hash entries) = .ok inverted ∧ (∃ result, answer inverted = .ok result) ∧
      answer inverted ≠ .ok (hash entries) := by
  intro hosts answer entries inverted
  have hdistinct : (hash entries).DistinctKeys := by simp [entries, DistinctKeys]
  have hkeys : ∀ entry ∈ entries, entry.2.IsKey := by simp [entries, IsKey]
  have hinverted : answer (hash entries) = .ok inverted := rfl
  obtain ⟨-, -, hresult⟩ := send_invert hosts hdistinct []
  obtain ⟨values, lastKeys, -, -, -, -, htwice, hback⟩ := hresult inverted hinverted
  exact ⟨hdistinct, hkeys, hinverted, ⟨_, htwice⟩, fun heq => absurd (hback.mp heq) (by simp [entries])⟩

end Value

end DocPath
