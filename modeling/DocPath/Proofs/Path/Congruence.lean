import DocPath.Path.Evaluate
import DocPath.Proofs.Value.Lookup

/-!
# Paths of lookups respect equality

A path without method calls comes to equal values from equal roots, or to absence from both, or to the same
error. What is shown of one lookup holds of each step, and what holds of each step holds of a path, whatever
relation between the running values is kept.
-/

namespace DocPath.Path

open DocPath.Value (LookupRelation)

/-- The steps that look a key up. -/
def Step.IsKeyed : Step → Prop
  | .method _ => False
  | .symbolKey _ | .stringKey _ | .arrayIndex _ | .genericKey _ => True

variable (hosts : Hosts)

section

variable {r : Value → Value → Prop} (hr : LookupRelation r)

include hr

/-- Generic keys are looked up alike in values that are related. -/
theorem genericLookup_agree {a b : Value} (hab : r a b) (text : String) :
    Consult.Agree r (genericLookup hosts a text) (genericLookup hosts b text) := by
  refine (Consult.agree_refl Consult.earlierCalls).bind ?_
  rintro earlier _ rfl
  rw [hr.hasPresence_eq hosts hab]
  split
  · -- Both have the same keys, so both are looked up once, with the same key, or not at all.
    rw [hr.hasKey_eq hosts hab, hr.hasKey_eq hosts hab]
    refine (Consult.agree_refl _).bind ?_
    rintro hasText _ rfl
    split
    · exact hr.index_agree hosts hab (.str text)
    · refine (Consult.agree_refl _).bind ?_
      rintro hasSymbol _ rfl
      split
      · exact hr.index_agree hosts hab (.symbol text)
      · exact Consult.agree_pure (hr.atom trivial)
  · refine (hr.index_agree hosts hab (.str text)).bind ?_
    intro found found' hfound
    cases hr.alike hfound with
    | atom hatom =>
        cases found with
        | nil => exact hr.index_agree hosts hab (.symbol text)
        | _ => exact Consult.agree_pure hfound
    | _ => exact Consult.agree_pure hfound

theorem Step.apply_agree {step : Step} (hkeyed : step.IsKeyed) {a b : Value} (hab : r a b) :
    Consult.Agree (Option.Rel r) (step.apply hosts a) (step.apply hosts b) := by
  have hlookup : Consult.Agree r (step.lookup hosts a) (step.lookup hosts b) := by
    cases step with
    | method name => cases hkeyed
    | symbolKey name => exact hr.index_agree hosts hab (.symbol name)
    | stringKey text => exact hr.index_agree hosts hab (.str text)
    | arrayIndex index =>
        rw [Step.lookup, Step.lookup]
        split
        · exact hr.index_agree hosts hab _
        · exact Consult.agree_pure (hr.atom trivial)
    | genericKey text => exact genericLookup_agree hosts hr hab text
  refine hlookup.bind ?_
  intro found found' hfound
  exact Consult.agree_pure (hr.toOption hfound)

/-- One segment takes related running values to related ones. -/
theorem Segment.advance_agree {segment : Segment} (hkeyed : segment.step.IsKeyed) (position : Nat)
    {running running' : Option Value} (hrunning : Option.Rel r running running') :
    Consult.Agree (Option.Rel r) (segment.advance hosts position running)
      (segment.advance hosts position running') := by
  cases hrunning with
  | some hab => exact (Step.apply_agree hosts hr hkeyed hab).mapError _
  | none =>
      have hnil : r .nil .nil := hr.atom trivial
      rw [Segment.advance]
      split
      · exact (Step.apply_agree hosts hr hkeyed hnil).mapError _
      · exact Consult.agree_pure .none

/-- A path of keys leads from related running values to related ones. -/
theorem evaluateFrom_agree {segments : List Segment}
    (hkeyed : ∀ segment ∈ segments, segment.step.IsKeyed) (position : Nat)
    {running running' : Option Value} (hrunning : Option.Rel r running running') :
    Consult.Agree (Option.Rel r) (evaluateFrom hosts position running segments)
      (evaluateFrom hosts position running' segments) := by
  induction segments generalizing position running running' with
  | nil => exact Consult.agree_pure hrunning
  | cons segment rest ih =>
      obtain ⟨hsegment, hrest⟩ := List.forall_mem_cons.mp hkeyed
      refine (Segment.advance_agree hosts hr hsegment position hrunning).bind ?_
      intro next next' hnext
      exact ih hrest (position + 1) hnext

/-- Along a path of keys related values lead to related ones, with the same calls. -/
theorem evaluate_agree {segments : List Segment}
    (hkeyed : ∀ segment ∈ segments, segment.step.IsKeyed) {a b : Value} (hab : r a b) :
    Consult.Agree (Option.Rel r) (evaluate hosts segments a) (evaluate hosts segments b) :=
  evaluateFrom_agree hosts hr hkeyed 0 (hr.toOption hab)

end

/-- A root without host objects and any that it equals: a path of lookups comes to equal values from both, or
to absence from both, or to the same error. From a root that has the entries of its hashes in another order
it comes to the same but for that order, even if floats in it are not numbers. -/
theorem evaluate_congr {segments : List Segment}
    (hkeyed : ∀ segment ∈ segments, segment.step.IsKeyed) {a : Value}
    (ha : a.Everywhere Value.IsData) (earlier : List HostCall) :
    (∀ b : Value, Value.equal a b = true →
      Traced.Agree (Option.Rel fun x y => Value.equal x y = true)
        (evaluate hosts segments a earlier) (evaluate hosts segments b earlier)) ∧
    ∀ b : Value, Value.Reordered a b →
      Traced.Agree (Option.Rel Value.Reordered)
        (evaluate hosts segments a earlier) (evaluate hosts segments b earlier) := by
  constructor
  · intro b hequal
    have hagree := evaluate_agree hosts Value.lookupRelation_equal hkeyed ⟨ha, hequal⟩ earlier
    exact hagree.imp fun _ _ => rel_imp fun _ _ hab => hab.2
  · intro b hreordered
    have hagree := evaluate_agree hosts Value.lookupRelation_reordered hkeyed ⟨ha, hreordered⟩ earlier
    exact hagree.imp fun _ _ => rel_imp fun _ _ hab => hab.2

/-- An instance: the two zeros, below a hash in two orders. -/
theorem evaluate_congr_of_zeros :
    let hosts : Hosts :=
      ⟨fun _ _ _ => .ok .nil, fun _ _ _ => .ok .nil, fun _ _ => false, fun _ _ _ => false⟩
    let inner (zero : Binary64) : Value := .hash [(.symbol "k", .array [.int 1, .float zero])]
    let a : Value := .hash [(.str "x", inner (.signed true .zero)), (.symbol "y", .nil)]
    let b : Value := .hash [(.symbol "y", .nil), (.str "x", inner .positiveZero)]
    let segments : List Segment :=
      [⟨.genericKey "x", false⟩, ⟨.symbolKey "k", true⟩, ⟨.arrayIndex 1, false⟩]
    (∀ segment ∈ segments, segment.step.IsKeyed) ∧ a.Everywhere Value.IsData ∧
      Value.equal a b = true ∧
      (evaluate hosts segments a []).result = .ok (some (.float (.signed true .zero))) ∧
      Traced.Agree (Option.Rel fun x y => Value.equal x y = true)
        (evaluate hosts segments a []) (evaluate hosts segments b []) := by
  intro hosts inner a b segments
  have hkeyed : ∀ segment ∈ segments, segment.step.IsKeyed := by simp [segments, Step.IsKeyed]
  have ha : a.Everywhere Value.IsData := by simp [a, inner, Value.IsData, Value.DistinctKeys]
  have hab : Value.equal a b = true := by decide
  exact ⟨hkeyed, ha, hab, rfl, (evaluate_congr hosts hkeyed ha []).1 b hab⟩

end DocPath.Path
