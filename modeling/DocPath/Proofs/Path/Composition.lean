import DocPath.Path.Evaluate
import DocPath.Proofs.Value.Consult

/-!
# Evaluating paths one after the other

Evaluating the segments of one path and then those of another is evaluating all of them at once. The second
path starts from nil when the first one ends in absence, which makes no difference, because the running value
is never a nil that is present.
-/

namespace DocPath

/-- An outcome whose value is not nil: nil is absence. -/
def IsOutcome (outcome : Option Value) : Prop := outcome ≠ some .nil

theorem Value.isOutcome_toOption (value : Value) : IsOutcome value.toOption := by
  cases value <;> simp [IsOutcome, Value.toOption]

/-- An outcome comes back from the value that it is taken as. -/
theorem Value.toOption_ofOption {outcome : Option Value} (houtcome : IsOutcome outcome) :
    (Value.ofOption outcome).toOption = outcome := by
  cases outcome with
  | none => rfl
  | some value =>
      cases value with
      | nil => exact absurd rfl houtcome
      | _ => rfl

namespace Path

variable (hosts : Hosts)

/-- The same error at a segment that stands `offset` places further on. -/
def ApplyError.shift (offset : Nat) (e : ApplyError) : ApplyError :=
  { e with position := e.position + offset }

/-- A step comes to what its lookup gives, with absence for nil, and calls what its lookup calls. -/
theorem Step.apply_eq (value : Value) (step : Step) (earlier : List HostCall) :
    step.apply hosts value earlier =
      ⟨(step.lookup hosts value earlier).calls,
        (step.lookup hosts value earlier).result.map Value.toOption⟩ := by
  rw [Step.apply, Consult.bind_apply]
  rcases step.lookup hosts value earlier with ⟨calls, e | found⟩
  · rfl
  · simp [Consult.pure_apply, Except.map]

/-! ## Outcomes are never a nil that is present -/

/-- A step takes nil for absence, so it finds no nil. -/
theorem Step.isOutcome_of_apply {value : Value} {step : Step} {earlier : List HostCall}
    {outcome : Option Value} (happly : (step.apply hosts value earlier).result = .ok outcome) :
    IsOutcome outcome := by
  rw [Step.apply, Consult.bind_apply] at happly
  rcases hlookup : step.lookup hosts value earlier with ⟨calls, e | found⟩
  · simp [hlookup] at happly
  · simp only [hlookup, Consult.pure_apply, Except.ok.injEq] at happly
    rw [← happly]
    exact found.isOutcome_toOption

theorem Segment.isOutcome_of_applyAt {position : Nat} {segment : Segment} {value : Value}
    {earlier : List HostCall} {outcome : Option Value}
    (happly : (segment.applyAt hosts position value earlier).result = .ok outcome) :
    IsOutcome outcome := by
  rw [Segment.applyAt, Consult.mapError] at happly
  cases hstep : (segment.step.apply hosts value earlier).result with
  | error e => simp [hstep, Except.mapError] at happly
  | ok found =>
      simp only [hstep, Except.mapError, Except.ok.injEq] at happly
      exact happly ▸ Step.isOutcome_of_apply hosts hstep

/-- One segment takes an outcome to an outcome. -/
theorem Segment.isOutcome_of_advance {position : Nat} {segment : Segment} {running : Option Value}
    {earlier : List HostCall} {outcome : Option Value}
    (hadvance : (segment.advance hosts position running earlier).result = .ok outcome) :
    IsOutcome outcome := by
  cases running with
  | some value => exact segment.isOutcome_of_applyAt hosts hadvance
  | none =>
      rw [Segment.advance] at hadvance
      split at hadvance
      next => exact segment.isOutcome_of_applyAt hosts hadvance
      next =>
        obtain rfl := Except.ok.inj hadvance
        simp [IsOutcome]

/-- The segments of a path never come to a present nil either. -/
theorem isOutcome_of_evaluateFrom {position : Nat} {running : Option Value} {segments : List Segment}
    {earlier : List HostCall} {outcome : Option Value} (hrunning : IsOutcome running)
    (hevaluate : (evaluateFrom hosts position running segments earlier).result = .ok outcome) :
    IsOutcome outcome := by
  induction segments generalizing position running earlier with
  | nil =>
      obtain rfl := Except.ok.inj hevaluate
      exact hrunning
  | cons segment rest ih =>
      rw [evaluateFrom, Consult.bind_apply] at hevaluate
      rcases hadvance : segment.advance hosts position running earlier with ⟨calls, e | next⟩
      · simp [hadvance] at hevaluate
      · simp only [hadvance] at hevaluate
        have hnext : IsOutcome next :=
          segment.isOutcome_of_advance hosts (congrArg Traced.result hadvance)
        exact ih hnext hevaluate

theorem isOutcome_of_evaluate {segments : List Segment} {root : Value} {earlier : List HostCall}
    {outcome : Option Value} (hevaluate : (evaluate hosts segments root earlier).result = .ok outcome) :
    IsOutcome outcome :=
  isOutcome_of_evaluateFrom hosts root.isOutcome_toOption hevaluate

/-! ## The place of a segment only shows in errors -/

/-- Further on in a path a segment does the same, and only counts its place from there. -/
theorem Segment.advance_shift (position offset : Nat) (segment : Segment) (running : Option Value) :
    segment.advance hosts (position + offset) running =
      (segment.advance hosts position running).mapError (ApplyError.shift offset) := by
  have happly : ∀ value, segment.applyAt hosts (position + offset) value =
      (segment.applyAt hosts position value).mapError (ApplyError.shift offset) := by
    intro value
    rw [Segment.applyAt, Segment.applyAt, Consult.mapError_mapError]
    rfl
  cases running with
  | some value => exact happly value
  | none =>
      rw [Segment.advance, Segment.advance]
      split
      next => exact happly .nil
      next => rfl

theorem evaluateFrom_shift (position offset : Nat) (running : Option Value) (segments : List Segment) :
    evaluateFrom hosts (position + offset) running segments =
      (evaluateFrom hosts position running segments).mapError (ApplyError.shift offset) := by
  induction segments generalizing position running with
  | nil => rfl
  | cons segment rest ih =>
      rw [evaluateFrom, evaluateFrom, Consult.mapError_bind, segment.advance_shift]
      congr 1
      funext next
      rw [Nat.add_right_comm, ih]

/-! ## Composition -/

/-- To go along two lists of segments is to go along the first, and on from where it leads. -/
theorem evaluateFrom_append (position : Nat) (running : Option Value) (segments more : List Segment) :
    evaluateFrom hosts position running (segments ++ more) =
      evaluateFrom hosts position running segments >>= fun reached =>
        evaluateFrom hosts (position + segments.length) reached more := by
  induction segments generalizing position running with
  | nil => simp [evaluateFrom]
  | cons segment rest ih =>
      rw [List.cons_append, evaluateFrom, evaluateFrom, bind_assoc, List.length_cons]
      congr 1
      funext next
      rw [ih, Nat.add_right_comm, Nat.add_assoc]

/-- Evaluation composes. Segments in front that fail decide the outcome, and nothing further is called.
Otherwise the outcome is that of the segments behind on the value reached, nil for absence, started after the
calls made so far; an error keeps its segment and reason and counts its place from the front. No outcome is a
nil that is present. -/
theorem evaluate_append (segments more : List Segment) (root : Value) (earlier : List HostCall) :
    evaluate hosts (segments ++ more) root earlier =
      (match evaluate hosts segments root earlier with
      | ⟨calls, .error e⟩ => ⟨calls, .error e⟩
      | ⟨calls, .ok outcome⟩ =>
        let behind := evaluate hosts more (.ofOption outcome) (earlier ++ calls)
        ⟨calls ++ behind.calls, behind.result.mapError (ApplyError.shift segments.length)⟩) ∧
    (evaluate hosts segments root earlier).result ≠ .ok (some .nil) := by
  refine ⟨?_, fun hnil => isOutcome_of_evaluate hosts hnil rfl⟩
  have happend : evaluate hosts (segments ++ more) root =
      evaluate hosts segments root >>= fun reached =>
        evaluateFrom hosts (0 + segments.length) reached more :=
    evaluateFrom_append hosts 0 root.toOption segments more
  rw [happend, Consult.bind_apply]
  rcases hevaluate : evaluate hosts segments root earlier with ⟨calls, e | outcome⟩
  · rfl
  · have houtcome : IsOutcome outcome :=
      isOutcome_of_evaluate hosts (congrArg Traced.result hevaluate)
    dsimp only
    rw [evaluateFrom_shift, evaluate, Value.toOption_ofOption houtcome]
    rfl

end Path

end DocPath
