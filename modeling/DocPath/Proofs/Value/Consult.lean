import Mathlib.Control.Basic
import DocPath.Value.Host

/-!
# Laws of work that may consult host objects

Such work is a monad, in which the calls of a whole are those of its parts in order. A change of the error
goes through to the parts, since it has no influence on what is called.
-/

namespace DocPath.Consult

variable {ε ε' ε'' α β : Type}

/-- Work is what it does after each list of earlier calls. -/
theorem ext {first second : Consult ε α} (heq : ∀ earlier, first earlier = second earlier) :
    first = second := funext heq

theorem pure_apply (a : α) (earlier : List HostCall) :
    (pure a : Consult ε α) earlier = ⟨[], .ok a⟩ := rfl

/-- Two pieces of work in a row: the second starts after the calls of the first. -/
theorem bind_apply (first : Consult ε α) (next : α → Consult ε β) (earlier : List HostCall) :
    (first >>= next) earlier =
      match first earlier with
      | ⟨calls, .error e⟩ => ⟨calls, .error e⟩
      | ⟨calls, .ok a⟩ =>
        ⟨calls ++ (next a (earlier ++ calls)).calls, (next a (earlier ++ calls)).result⟩ := rfl

theorem bind_apply_of_error {first : Consult ε α} {earlier calls : List HostCall} {e : ε}
    (hfirst : first earlier = ⟨calls, .error e⟩) (next : α → Consult ε β) :
    (first >>= next) earlier = ⟨calls, .error e⟩ := by
  rw [bind_apply, hfirst]

theorem bind_apply_of_ok {first : Consult ε α} {earlier calls : List HostCall} {a : α}
    (hfirst : first earlier = ⟨calls, .ok a⟩) (next : α → Consult ε β) :
    (first >>= next) earlier =
      ⟨calls ++ (next a (earlier ++ calls)).calls, (next a (earlier ++ calls)).result⟩ := by
  rw [bind_apply, hfirst]

/-- To ask what has been called is no call. -/
theorem earlierCalls_bind_apply (next : List HostCall → Consult ε α) (earlier : List HostCall) :
    (earlierCalls >>= next) earlier = next earlier earlier := by
  simp [bind_apply, earlierCalls]

instance : LawfulMonad (Consult ε) := by
  refine LawfulMonad.mk' _ ?_ ?_ ?_
  · intro α work
    apply ext
    intro earlier
    change (work >>= pure) earlier = work earlier
    rcases hwork : work earlier with ⟨calls, e | a⟩
    · rw [bind_apply_of_error hwork]
    · simp [bind_apply_of_ok hwork, pure_apply]
  · intro α β a next
    apply ext
    intro earlier
    simp [bind_apply, pure_apply]
  · intro α β γ first second third
    apply ext
    intro earlier
    rcases hfirst : first earlier with ⟨calls, e | a⟩
    · rw [bind_apply_of_error (bind_apply_of_error hfirst second), bind_apply_of_error hfirst]
    · rcases hsecond : second a (earlier ++ calls) with ⟨more, e | b⟩
      · have hboth : (first >>= second) earlier = ⟨calls ++ more, .error e⟩ := by
          rw [bind_apply_of_ok hfirst, hsecond]
        rw [bind_apply_of_error hboth, bind_apply_of_ok hfirst, bind_apply_of_error hsecond]
      · have hboth : (first >>= second) earlier = ⟨calls ++ more, .ok b⟩ := by
          rw [bind_apply_of_ok hfirst, hsecond]
        rw [bind_apply_of_ok hboth, bind_apply_of_ok hfirst, bind_apply_of_ok hsecond]
        simp only [List.append_assoc]

/-! ## Changing the error -/

/-- To change the error of a whole is to change it in both parts. -/
theorem mapError_bind (f : ε → ε') (first : Consult ε α) (next : α → Consult ε β) :
    (first >>= next).mapError f = first.mapError f >>= fun a => (next a).mapError f := by
  apply ext
  intro earlier
  rcases hfirst : first earlier with ⟨calls, e | a⟩
  · simp [mapError, bind_apply, hfirst, Except.mapError]
  · simp [mapError, bind_apply, hfirst, Except.mapError]

theorem mapError_mapError (f : ε → ε') (g : ε' → ε'') (work : Consult ε α) :
    (work.mapError f).mapError g = work.mapError (g ∘ f) := by
  apply ext
  intro earlier
  rcases hwork : work earlier with ⟨calls, e | a⟩
  · simp [mapError, hwork, Except.mapError]
  · simp [mapError, hwork, Except.mapError]

end DocPath.Consult

/-! ## Work that agrees -/

namespace DocPath

/-- The same calls, and then the same error or results in relation. -/
inductive Traced.Agree {ε α β : Type} (r : α → β → Prop) : Traced ε α → Traced ε β → Prop where
  | error (calls : List HostCall) (e : ε) : Agree r ⟨calls, .error e⟩ ⟨calls, .error e⟩
  | ok (calls : List HostCall) {a : α} {b : β} (related : r a b) :
    Agree r ⟨calls, .ok a⟩ ⟨calls, .ok b⟩

theorem Traced.Agree.imp {ε α β : Type} {r s : α → β → Prop} (himp : ∀ a b, r a b → s a b)
    {first : Traced ε α} {second : Traced ε β} (hagree : Agree r first second) :
    Agree s first second := by
  cases hagree with
  | error calls e => exact .error calls e
  | ok calls hab => exact .ok calls (himp _ _ hab)

namespace Consult

variable {ε ε' α β γ δ : Type} {r : α → β → Prop} {s : γ → δ → Prop}

/-- Work that agrees after whatever has been called before. -/
def Agree (r : α → β → Prop) (first : Consult ε α) (second : Consult ε β) : Prop :=
  ∀ earlier, Traced.Agree r (first earlier) (second earlier)

theorem agree_pure {a : α} {b : β} (hab : r a b) : Agree (ε := ε) r (pure a) (pure b) :=
  fun _ => .ok [] hab

theorem agree_refl (work : Consult ε α) : Agree Eq work work := by
  intro earlier
  rcases work earlier with ⟨calls, e | a⟩
  · exact .error calls e
  · exact .ok calls rfl

theorem agree_ofExcept {r : α → α → Prop} {result : Except ε α}
    (hresult : ∀ a, result = .ok a → r a a) : Agree r (ofExcept result) (ofExcept result) := by
  intro earlier
  cases result with
  | error e => exact .error [] e
  | ok a => exact .ok [] (hresult a rfl)

/-- Work in a row agrees if the parts do, the later ones for all related results of the earlier. -/
theorem Agree.bind {first : Consult ε α} {second : Consult ε β} {next : α → Consult ε γ}
    {next' : β → Consult ε δ} (hfirst : Agree r first second)
    (hnext : ∀ a b, r a b → Agree s (next a) (next' b)) :
    Agree s (first >>= next) (second >>= next') := by
  intro earlier
  rw [bind_apply, bind_apply]
  have hdone := hfirst earlier
  generalize first earlier = done, second earlier = done' at hdone ⊢
  cases hdone with
  | error calls e => exact .error calls e
  | ok calls hab =>
      dsimp only
      have hlater := hnext _ _ hab (earlier ++ calls)
      generalize next _ _ = later, next' _ _ = later' at hlater ⊢
      cases hlater with
      | error more e => exact .error (calls ++ more) e
      | ok more hcd => exact .ok (calls ++ more) hcd

theorem Agree.mapError {first : Consult ε α} {second : Consult ε β} (hagree : Agree r first second)
    (f : ε → ε') : Agree r (first.mapError f) (second.mapError f) := by
  intro earlier
  rw [Consult.mapError, Consult.mapError]
  have hdone := hagree earlier
  generalize first earlier = done, second earlier = done' at hdone ⊢
  cases hdone with
  | error calls e => exact .error calls (f e)
  | ok calls hab => exact .ok calls hab

end Consult

end DocPath
