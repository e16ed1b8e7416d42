import DocPath.Proofs.Path.Composition

/-!
# Walks along paths

Where host objects answer whatever they are asked the same way every time, or where there are none, it does not
matter to the result of work which calls came before it. An evaluation is then a walk: each segment starts from
what the one before it has found, and is looked up there as if nothing had been asked yet.
-/

namespace DocPath

namespace Path

/-- A walk along segments, of which the first has the given place, from a running value to an outcome. -/
inductive Walk (hosts : Hosts) :
    Nat → Option Value → List Segment → Except ApplyError (Option Value) → Prop where
  | arrived (position : Nat) (running : Option Value) : Walk hosts position running [] (.ok running)
  /-- Without a running value an optional segment is passed over. A mandatory one starts from nil. -/
  | skipped {position : Nat} {segment : Segment} {rest : List Segment}
    {outcome : Except ApplyError (Option Value)} (hflag : segment.mandatory = false)
    (hrest : Walk hosts (position + 1) none rest outcome) :
    Walk hosts position none (segment :: rest) outcome
  /-- Where nil is found there is no running value from here on. -/
  | lost {position : Nat} {running : Option Value} {segment : Segment} {rest : List Segment}
    {outcome : Except ApplyError (Option Value)} (htaken : running = none → segment.mandatory = true)
    (hlookup : (segment.step.lookup hosts (running.getD .nil) []).result = .ok .nil)
    (hrest : Walk hosts (position + 1) none rest outcome) :
    Walk hosts position running (segment :: rest) outcome
  /-- What else is found is the next running value. -/
  | found {position : Nat} {running : Option Value} {segment : Segment} {rest : List Segment}
    {outcome : Except ApplyError (Option Value)} {value : Value}
    (htaken : running = none → segment.mandatory = true)
    (hlookup : (segment.step.lookup hosts (running.getD .nil) []).result = .ok value)
    (hvalue : value ≠ .nil) (hrest : Walk hosts (position + 1) (some value) rest outcome) :
    Walk hosts position running (segment :: rest) outcome
  /-- A segment that fails ends the walk with its place and its reason. -/
  | failed {position : Nat} {running : Option Value} {segment : Segment} {rest : List Segment}
    {reason : ReceiverError} (htaken : running = none → segment.mandatory = true)
    (hlookup : (segment.step.lookup hosts (running.getD .nil) []).result = .error reason) :
    Walk hosts position running (segment :: rest) (.error ⟨segment, position, reason⟩)

end Path

/-- Answers in which the calls made so far do not show. -/
structure Hosts.Steady (hosts : Hosts) : Prop where
  send : ∀ earlier object method, hosts.send earlier object method = hosts.send [] object method
  index : ∀ earlier object key, hosts.index earlier object key = hosts.index [] object key
  hasPresence : ∀ earlier object, hosts.hasPresence earlier object = hosts.hasPresence [] object
  hasKey : ∀ earlier object key, hosts.hasKey earlier object key = hosts.hasKey [] object key

/-- As an outcome nil is absent, and any other value is itself. -/
theorem Value.toOption_cases (value : Value) :
    value = .nil ∧ value.toOption = none ∨ value ≠ .nil ∧ value.toOption = some value := by
  cases value with
  | nil => exact .inl ⟨rfl, rfl⟩
  | _ => exact .inr ⟨nofun, rfl⟩

/-! ## Steady work -/

namespace Consult

variable {ε α β : Type}

/-- Work whose result does not depend on the calls made before it. -/
def Steady (work : Consult ε α) : Prop := ∀ earlier, (work earlier).result = (work []).result

theorem steady_ofExcept (result : Except ε α) : (ofExcept result).Steady := fun _ => rfl

theorem steady_pure (a : α) : (pure a : Consult ε α).Steady := fun _ => rfl

theorem steady_call {question : HostCall} {answer : List HostCall → Except ε α}
    (hanswer : ∀ earlier, answer earlier = answer []) : (call question answer).Steady := hanswer

/-- The result of two pieces of work in a row, the second one steady. -/
theorem Steady.result_bind {first : Consult ε α} {next : α → Consult ε β} (hnext : ∀ a, (next a).Steady)
    (earlier : List HostCall) :
    ((first >>= next) earlier).result =
      match (first earlier).result with
      | .error e => .error e
      | .ok a => (next a []).result := by
  rw [bind_apply]
  rcases first earlier with ⟨calls, e | a⟩
  · rfl
  · exact hnext a (earlier ++ calls)

theorem Steady.bind {first : Consult ε α} {next : α → Consult ε β} (hfirst : first.Steady)
    (hnext : ∀ a, (next a).Steady) : (first >>= next).Steady := by
  intro earlier
  rw [Steady.result_bind hnext, Steady.result_bind hnext, hfirst earlier]

end Consult

variable {hosts : Hosts} (hsteady : hosts.Steady)

include hsteady

namespace Value

/-- What a method answers does not depend on what has been asked. -/
theorem steady_send (value : Value) (method : String) : (value.send hosts method).Steady := by
  cases value with
  | host object =>
      refine Consult.steady_call fun earlier => ?_
      rw [hsteady.send]
  | _ => exact Consult.steady_ofExcept _

theorem steady_index (value : Value) (key : Key) : (value.index hosts key).Steady := by
  cases value with
  | host object => exact Consult.steady_call fun earlier => hsteady.index earlier object key
  | array items | int n => cases key <;> exact fun _ => rfl
  | _ => exact fun _ => rfl

theorem hasPresence_eq (value : Value) (earlier : List HostCall) :
    value.hasPresence hosts earlier = value.hasPresence hosts [] := by
  cases value with
  | host object => exact hsteady.hasPresence earlier object
  | _ => rfl

theorem steady_hasKey (value : Value) (key : Key) : (value.hasKey hosts key).Steady := by
  cases value with
  | host object =>
      refine Consult.steady_call fun earlier => ?_
      rw [hsteady.hasKey]
  | _ => exact fun _ => rfl

end Value

namespace Path

/-- A generic key consults its receiver up to three times, and the calls in between do not show either. -/
theorem steady_genericLookup (value : Value) (text : String) : (genericLookup hosts value text).Steady := by
  have hpresent : ∀ key, (value.hasKey hosts key).Steady := value.steady_hasKey hsteady
  have hfound : ∀ key, (value.index hosts key).Steady := value.steady_index hsteady
  intro earlier
  rw [genericLookup, Consult.earlierCalls_bind_apply, Consult.earlierCalls_bind_apply,
    value.hasPresence_eq hsteady]
  revert earlier
  cases value.hasPresence hosts [] with
  | true =>
      refine Consult.Steady.bind (hpresent _) fun found => ?_
      cases found with
      | true => exact hfound _
      | false =>
          refine Consult.Steady.bind (hpresent _) fun found => ?_
          cases found with
          | true => exact hfound _
          | false => exact Consult.steady_pure _
  | false =>
      refine Consult.Steady.bind (hfound _) fun found => ?_
      cases found with
      | nil => exact hfound _
      | _ => exact Consult.steady_pure _

/-- Whatever a step looks up, the calls before it do not show in what it finds. -/
theorem Step.steady_lookup (value : Value) (step : Step) : (step.lookup hosts value).Steady := by
  cases step with
  | method name => exact value.steady_send hsteady name
  | symbolKey name => exact value.steady_index hsteady _
  | stringKey text => exact value.steady_index hsteady _
  | arrayIndex index =>
      rw [Step.lookup]
      split
      · exact value.steady_index hsteady _
      · exact Consult.steady_pure _
  | genericKey text => exact steady_genericLookup hsteady value text

/-! ## Evaluations as walks -/

/-- A segment that is taken finds what its step looks up, or fails as that does. -/
theorem Segment.result_advance {segment : Segment} {running : Option Value}
    (htaken : running = none → segment.mandatory = true) (position : Nat) (earlier : List HostCall) :
    (segment.advance hosts position running earlier).result =
      ((segment.step.lookup hosts (running.getD .nil) []).result.map Value.toOption).mapError
        fun reason => ⟨segment, position, reason⟩ := by
  have happlyAt : segment.advance hosts position running = segment.applyAt hosts position (running.getD .nil) := by
    cases running with
    | some value => rfl
    | none => rw [Segment.advance, if_pos (htaken rfl), Option.getD_none]
  rw [happlyAt, Segment.applyAt, Consult.mapError, Step.apply_eq, Step.steady_lookup hsteady _ segment.step]

omit hsteady in
/-- An optional segment is passed over without a running value. -/
theorem Segment.advance_of_optional {segment : Segment} (hflag : segment.mandatory = false) (position : Nat) :
    segment.advance hosts position none = pure none := by
  rw [Segment.advance, hflag]
  rfl

omit hsteady in
/-- A segment is taken, or there is no running value and it is passed over. -/
theorem Segment.taken_or_skipped (segment : Segment) (running : Option Value) :
    (running = none → segment.mandatory = true) ∨ running = none ∧ segment.mandatory = false := by
  cases running with
  | some value => exact .inl nofun
  | none =>
      cases hflag : segment.mandatory with
      | true => exact .inl fun _ => rfl
      | false => exact .inr ⟨rfl, rfl⟩

theorem Segment.steady_advance (position : Nat) (segment : Segment) (running : Option Value) :
    (segment.advance hosts position running).Steady := by
  rcases segment.taken_or_skipped running with htaken | ⟨rfl, hflag⟩
  · intro earlier
    rw [Segment.result_advance hsteady htaken, Segment.result_advance hsteady htaken]
  · rw [Segment.advance_of_optional hflag]
    exact Consult.steady_pure none

theorem steady_evaluateFrom (position : Nat) (running : Option Value) (segments : List Segment) :
    (evaluateFrom hosts position running segments).Steady := by
  induction segments generalizing position running with
  | nil => exact Consult.steady_pure running
  | cons segment rest ih =>
      rw [evaluateFrom]
      exact (segment.steady_advance hsteady position running).bind fun next => ih (position + 1) next

/-- Evaluation is a walk, whatever has been asked before. -/
theorem walk_evaluateFrom (position : Nat) (running : Option Value) (segments : List Segment)
    (earlier : List HostCall) :
    Walk hosts position running segments (evaluateFrom hosts position running segments earlier).result := by
  induction segments generalizing position running earlier with
  | nil => exact .arrived position running
  | cons segment rest ih =>
      rw [evaluateFrom, Consult.Steady.result_bind fun next => steady_evaluateFrom hsteady (position + 1) next rest]
      rcases segment.taken_or_skipped running with htaken | ⟨rfl, hflag⟩
      · rw [Segment.result_advance hsteady htaken]
        cases hlookup : (segment.step.lookup hosts (running.getD .nil) []).result with
        | ok value =>
            rcases value.toOption_cases with ⟨rfl, hnone⟩ | ⟨hvalue, hsome⟩
            · simp only [Except.map, Except.mapError, hnone]
              exact .lost htaken hlookup (ih _ _ _)
            · simp only [Except.map, Except.mapError, hsome]
              exact .found htaken hlookup hvalue (ih _ _ _)
        | error reason => exact .failed htaken hlookup
      · rw [Segment.advance_of_optional hflag]
        exact .skipped hflag (ih _ _ _)

omit hsteady in
/-- There is one walk at most from each running value. -/
theorem Walk.unique {position : Nat} {running : Option Value} {segments : List Segment}
    {outcome other : Except ApplyError (Option Value)} (hwalk : Walk hosts position running segments outcome)
    (hother : Walk hosts position running segments other) : outcome = other := by
  induction hwalk with
  | arrived =>
      cases hother
      rfl
  | skipped hflag hrest ih =>
      cases hother with
      | skipped _ hrest' => exact ih hrest'
      | lost htaken | found htaken | failed htaken => simp [hflag] at htaken
  | lost htaken hlookup hrest ih =>
      cases hother with
      | skipped hflag => simp [hflag] at htaken
      | lost _ _ hrest' => exact ih hrest'
      | found _ hlookup' hvalue => exact absurd (Except.ok.inj (hlookup'.symm.trans hlookup)) hvalue
      | failed _ hlookup' => cases hlookup.symm.trans hlookup'
  | found htaken hlookup hvalue hrest ih =>
      cases hother with
      | skipped hflag => simp [hflag] at htaken
      | lost _ hlookup' => exact absurd (Except.ok.inj (hlookup.symm.trans hlookup')) hvalue
      | found _ hlookup' _ hrest' =>
          obtain rfl := Except.ok.inj (hlookup.symm.trans hlookup')
          exact ih hrest'
      | failed _ hlookup' => cases hlookup.symm.trans hlookup'
  | failed htaken hlookup =>
      cases hother with
      | skipped hflag => simp [hflag] at htaken
      | lost _ hlookup' | found _ hlookup' => cases hlookup.symm.trans hlookup'
      | failed _ hlookup' => rw [Except.error.inj (hlookup.symm.trans hlookup')]

/-- An outcome is that of an evaluation if a walk along the path ends in it. -/
theorem walk_iff {root : Value} {path : Path} {outcome : Except ApplyError (Option Value)}
    (earlier : List HostCall) :
    Walk hosts 0 root.toOption path.segments outcome ↔ (path.apply hosts root earlier).result = outcome := by
  have hwalk := walk_evaluateFrom hsteady 0 root.toOption path.segments earlier
  constructor
  · exact fun hother => hwalk.unique hother
  · rintro rfl
    exact hwalk

end Path

end DocPath
