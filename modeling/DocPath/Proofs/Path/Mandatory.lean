import DocPath.Proofs.Path.Composition

/-!
# What mandatory flags can change

Two paths of the same steps, whose flags differ, behave alike as long as no segment whose flags differ is
reached without a running value. Absence need not last, since a mandatory segment may bring a value back, so
the two evaluations are followed side by side, one segment after the other.

In a path without mandatory segments absence does last. So flags only matter where the path without them
ends in absence.
-/

namespace DocPath

/-- Two pieces of work in a row do the same if the first ones do and the second ones do after them. -/
theorem Consult.bind_apply_congr {ε α β : Type} {first first' : Consult ε α}
    {next next' : α → Consult ε β} {earlier : List HostCall}
    (hfirst : first earlier = first' earlier)
    (hnext : ∀ calls a, first earlier = ⟨calls, .ok a⟩ →
      next a (earlier ++ calls) = next' a (earlier ++ calls)) :
    (first >>= next) earlier = (first' >>= next') earlier := by
  rw [bind_apply, bind_apply, ← hfirst]
  rcases hresult : first earlier with ⟨calls, e | a⟩
  · rfl
  · dsimp only
    rw [hnext calls a hresult]

theorem Consult.eq_ok_of_mapError {ε ε' α : Type} {f : ε → ε'} {work : Consult ε α}
    {earlier calls : List HostCall} {a : α} (hok : work.mapError f earlier = ⟨calls, .ok a⟩) :
    work earlier = ⟨calls, .ok a⟩ := by
  rw [mapError] at hok
  rcases hwork : work earlier with ⟨made, e | b⟩
  · simp [hwork, Except.mapError] at hok
  · simpa [hwork, Except.mapError] using hok

namespace Path

variable (hosts : Hosts)

/-- Where and why a path could not be applied. -/
def ApplyError.fault (e : ApplyError) : Nat × ReceiverError := (e.position, e.reason)

/-- A segment without its flag. -/
def Segment.optional (segment : Segment) : Segment := { segment with mandatory := false }

/-! ## Paths that differ in their flags -/

theorem Segment.applyAt_fault {segment segment' : Segment} (hstep : segment.step = segment'.step)
    (position : Nat) (value : Value) :
    (segment.applyAt hosts position value).mapError ApplyError.fault =
      (segment'.applyAt hosts position value).mapError ApplyError.fault := by
  rw [Segment.applyAt, Segment.applyAt, Consult.mapError_mapError, Consult.mapError_mapError, hstep]
  rfl

/-- One segment does the same with another flag when there is a running value. -/
theorem Segment.advance_fault {segment segment' : Segment} (hstep : segment.step = segment'.step)
    {running : Option Value}
    (hflag : segment.mandatory ≠ segment'.mandatory → running ≠ none) (position : Nat) :
    (segment.advance hosts position running).mapError ApplyError.fault =
      (segment'.advance hosts position running).mapError ApplyError.fault := by
  cases running with
  | some value => exact Segment.applyAt_fault hosts hstep position value
  | none =>
      have hsame : segment.mandatory = segment'.mandatory :=
        Decidable.byContradiction fun hdiffer => hflag hdiffer rfl
      rw [Segment.advance, Segment.advance, hsame]
      split
      next => exact Segment.applyAt_fault hosts hstep position .nil
      next => rfl

/-- Along the segments the flags do not show if each that differs is reached with a running value. -/
theorem evaluateFrom_fault {segments segments' : List Segment} {running : Option Value}
    {position : Nat} {earlier : List HostCall}
    (hsteps : segments.map Segment.step = segments'.map Segment.step)
    (hpresent : ∀ i,
      (segments.map Segment.mandatory)[i]? ≠ (segments'.map Segment.mandatory)[i]? →
      (evaluateFrom hosts position running (segments.take i) earlier).result ≠ .ok none) :
    (evaluateFrom hosts position running segments).mapError ApplyError.fault earlier =
      (evaluateFrom hosts position running segments').mapError ApplyError.fault earlier := by
  induction segments generalizing segments' running position earlier with
  | nil =>
      obtain rfl : segments' = [] := by simpa using hsteps.symm
      rfl
  | cons segment rest ih =>
      cases segments' with
      | nil => simp at hsteps
      | cons segment' rest' =>
          obtain ⟨hstep, hrest⟩ := List.cons.inj hsteps
          have hflag : segment.mandatory ≠ segment'.mandatory → running ≠ none := by
            rintro hdiffer rfl
            exact hpresent 0 (by simpa using hdiffer) rfl
          have hadvance := Segment.advance_fault hosts hstep hflag position
          rw [evaluateFrom, evaluateFrom, Consult.mapError_bind, Consult.mapError_bind]
          refine Consult.bind_apply_congr (congrFun hadvance earlier) ?_
          intro calls next hnext
          have hreached := Consult.eq_ok_of_mapError hnext
          apply ih hrest
          intro i hdiffer
          -- What the rest reaches from here, the whole reaches one segment later.
          have hlater := hpresent (i + 1) (by simpa using hdiffer)
          rwa [List.take_succ_cons, evaluateFrom, Consult.bind_apply_of_ok hreached] at hlater

/-! ## Paths without flags -/

theorem Segment.mandatory_of_mem_optional (segments : List Segment) :
    ∀ segment ∈ segments.map Segment.optional, segment.mandatory = false := by
  intro segment hmem
  obtain ⟨original, -, rfl⟩ := List.mem_map.mp hmem
  rfl

/-- Without mandatory segments absence lasts. -/
theorem evaluateFrom_none_of_optional {segments : List Segment}
    (hoptional : ∀ segment ∈ segments, segment.mandatory = false) (position : Nat) :
    evaluateFrom hosts position none segments = pure none := by
  induction segments generalizing position with
  | nil => rfl
  | cons segment rest ih =>
      have hskip : segment.advance hosts position none = pure none := by
        rw [Segment.advance, hoptional segment List.mem_cons_self]
        rfl
      rw [evaluateFrom, hskip, pure_bind]
      exact ih (fun segment hmem => hoptional segment (List.mem_cons_of_mem _ hmem)) (position + 1)

/-- Absence lasts where no segment is mandatory. -/
theorem evaluate_eq_none_of_take {segments : List Segment}
    (hoptional : ∀ segment ∈ segments, segment.mandatory = false) {root : Value}
    {earlier : List HostCall} {i : Nat}
    (habsent : (evaluate hosts (segments.take i) root earlier).result = .ok none) :
    (evaluate hosts segments root earlier).result = .ok none := by
  have hrest : ∀ segment ∈ segments.drop i, segment.mandatory = false := fun segment hmem =>
    hoptional segment (List.mem_of_mem_drop hmem)
  rcases hreached : evaluate hosts (segments.take i) root earlier with ⟨calls, result⟩
  rw [hreached] at habsent
  obtain rfl : result = .ok none := habsent
  have hwhole : evaluate hosts segments root = evaluate hosts (segments.take i) root >>= fun reached =>
      evaluateFrom hosts (0 + (segments.take i).length) reached (segments.drop i) := by
    have happend := evaluateFrom_append hosts 0 root.toOption (segments.take i) (segments.drop i)
    rwa [List.take_append_drop] at happend
  rw [hwhole, Consult.bind_apply_of_ok hreached, evaluateFrom_none_of_optional hosts hrest]
  rfl

/-- Where the path without flags does not end in absence, flags make no difference. -/
theorem evaluate_fault_of_optional {segments : List Segment} {root : Value}
    {earlier : List HostCall}
    (hpresent : (evaluate hosts (segments.map Segment.optional) root earlier).result ≠ .ok none) :
    (evaluate hosts (segments.map Segment.optional) root).mapError ApplyError.fault earlier =
      (evaluate hosts segments root).mapError ApplyError.fault earlier := by
  refine evaluateFrom_fault hosts ?_ ?_
  · rw [List.map_map]
    rfl
  · intro i _ habsent
    exact hpresent (evaluate_eq_none_of_take hosts (Segment.mandatory_of_mem_optional segments) habsent)

/-- Flags make no difference, neither to the outcome nor to the calls of host objects, unless a segment whose
flags differ is reached without a running value, which is what the segments before it come to. So the value
and the error of a path without mandatory segments are those of the path with any flags, and from nil such a
path only comes to absence. -/
theorem evaluate_eq_of_flags (segments : List Segment) (root : Value) (earlier : List HostCall) :
    let optional := segments.map Segment.optional
    (∀ segments' : List Segment, segments.map Segment.step = segments'.map Segment.step →
      (∀ i, (segments.map Segment.mandatory)[i]? ≠ (segments'.map Segment.mandatory)[i]? →
        (evaluate hosts (segments.take i) root earlier).result ≠ .ok none) →
      (evaluate hosts segments root).mapError ApplyError.fault earlier =
        (evaluate hosts segments' root).mapError ApplyError.fault earlier) ∧
    (∀ value, (evaluate hosts optional root earlier).result = .ok (some value) →
      (evaluate hosts segments root earlier).result = .ok (some value)) ∧
    (∀ e, (evaluate hosts optional root earlier).result = .error e →
      ∃ e', (evaluate hosts segments root earlier).result = .error e' ∧
        e'.position = e.position ∧ e'.reason = e.reason) ∧
    evaluate hosts optional .nil earlier = ⟨[], .ok none⟩ ∧
    ((evaluate hosts segments root).mapError ApplyError.fault earlier ≠
        (evaluate hosts optional root).mapError ApplyError.fault earlier →
      (evaluate hosts optional root earlier).result = .ok none) := by
  intro optional
  have hresult : (evaluate hosts optional root earlier).result ≠ .ok none →
      (evaluate hosts optional root earlier).result.mapError ApplyError.fault =
        (evaluate hosts segments root earlier).result.mapError ApplyError.fault := fun hpresent =>
    congrArg Traced.result (evaluate_fault_of_optional hosts hpresent)
  refine ⟨?_, ?_, ?_, ?_, ?_⟩
  · intro segments' hsteps hpresent
    exact evaluateFrom_fault hosts hsteps hpresent
  · intro value hvalue
    have hsame := hresult (by simp [hvalue])
    rw [hvalue] at hsame
    cases hflags : (evaluate hosts segments root earlier).result with
    | error e => simp [hflags, Except.mapError] at hsame
    | ok outcome => simpa [hflags, Except.mapError] using hsame.symm
  · intro e herror
    have hsame := hresult (by simp [herror])
    rw [herror] at hsame
    cases hflags : (evaluate hosts segments root earlier).result with
    | error e' =>
        simp only [hflags, Except.mapError, Except.error.injEq] at hsame
        obtain ⟨hposition, hreason⟩ := Prod.mk.inj hsame
        exact ⟨e', rfl, hposition.symm, hreason.symm⟩
    | ok outcome => simp [hflags, Except.mapError] at hsame
  · have hnone := evaluateFrom_none_of_optional hosts (Segment.mandatory_of_mem_optional segments) 0
    exact congrFun hnone earlier
  · intro hdiffer
    exact Classical.byContradiction fun hpresent =>
      hdiffer (evaluate_fault_of_optional hosts hpresent).symm

/-- An instance: `.!to_s` brings back a value after `[:a]` has come to absence, and behind it `.length` and
`.!length` are the same, while a path without flags stays absent. -/
theorem evaluate_eq_of_flags_behind_mandatory :
    let hosts : Hosts :=
      ⟨fun _ _ _ => .ok .nil, fun _ _ _ => .ok .nil, fun _ _ => false, fun _ _ _ => false⟩
    let root : Value := .hash [(.symbol "a", .nil)]
    let segments : List Segment :=
      [⟨.symbolKey "a", false⟩, ⟨.method "to_s", true⟩, ⟨.method "length", false⟩]
    let segments' : List Segment :=
      [⟨.symbolKey "a", false⟩, ⟨.method "to_s", true⟩, ⟨.method "length", true⟩]
    (evaluate hosts (segments.take 1) root []).result = .ok none ∧
      (evaluate hosts (segments.take 2) root []).result = .ok (some (.str "")) ∧
      (evaluate hosts segments root).mapError ApplyError.fault [] =
        (evaluate hosts segments' root).mapError ApplyError.fault [] ∧
      (evaluate hosts (segments.map Segment.optional) root []).result = .ok none := by
  intro hosts root segments segments'
  refine ⟨rfl, rfl, ?_, ?_⟩
  · apply (evaluate_eq_of_flags hosts segments root []).1 segments' rfl
    intro i hdiffer
    match i with
    | 0 => exact absurd rfl hdiffer
    | 1 => exact absurd rfl hdiffer
    | 2 => nofun
    | i + 3 => exact absurd rfl hdiffer
  · apply (evaluate_eq_of_flags hosts segments root []).2.2.2.2
    intro hsame
    cases hsame

end Path

end DocPath
