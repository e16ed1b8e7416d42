import DocPath.Cache.Basic
import DocPath.Proofs.Entries

/-!
# The phases of a lookup

What each phase of a lookup does to the entries, and how `resolve` is put together from the phases. Nothing
else about a cache is looked at here: its size and its counters are a matter of their own.
-/

namespace DocPath.Cache

variable {ε : Type}

/-! ## The first phase -/

/-- The first phase answers with the entry of the expression, if there is one. -/
theorem look_fst (expression : String) (cache : Cache) :
    (cache.look expression).1 = Entries.get? expression cache.entries := by
  rw [look]
  cases Entries.get? expression cache.entries <;> rfl

theorem entries_look (expression : String) (cache : Cache) :
    (cache.look expression).2.entries = cache.entries := by
  rw [look]
  cases Entries.get? expression cache.entries <;> rfl

/-! ## The second phase -/

/-- What is still there after making room was there before. -/
theorem get?_makeRoom {cache : Cache} {expression : String} {object : PathObject}
    (hget : Entries.get? expression cache.makeRoom.entries = some object) :
    Entries.get? expression cache.entries = some object := by
  rw [makeRoom] at hget
  split at hget
  next => simp [note, Entries.get?] at hget
  next => exact hget

/-- An entry after storing an object is the new one or was there before. -/
theorem get?_store {cache : Cache} {expression other : String} {stored object : PathObject}
    (hget : Entries.get? other (cache.store expression stored).entries = some object) :
    (other = expression ∧ object = stored) ∨ Entries.get? other cache.entries = some object := by
  rw [store] at hget
  split at hget
  next => exact Or.inr hget
  next =>
    by_cases hother : other = expression
    · subst other
      rw [Entries.get?_insert_self] at hget
      exact Or.inl ⟨rfl, (Option.some.inj hget).symm⟩
    · rw [Entries.get?_insert_of_ne hother] at hget
      exact Or.inr (get?_makeRoom hget)

/-- The answer to a lookup that missed is what its compilation came to, as an object. -/
theorem map_path_finish (expression : String) (outcome : Except ε Path) (cache : Cache) :
    (cache.finish expression outcome).1.map PathObject.path = outcome := by
  cases outcome <;> rfl

/-- An entry after a compilation holds the compiled path or was there before. -/
theorem get?_finish {cache : Cache} {expression other : String} {outcome : Except ε Path}
    {object : PathObject}
    (hget : Entries.get? other (cache.finish expression outcome).2.entries = some object) :
    (other = expression ∧ outcome = .ok object.path) ∨
      Entries.get? other cache.entries = some object := by
  cases outcome with
  | error e => exact Or.inr hget
  | ok path =>
      rcases get?_store hget with ⟨hother, hobject⟩ | hbefore
      · have hpath : object.path = path := congrArg PathObject.path hobject
        exact Or.inl ⟨hother, congrArg Except.ok hpath.symm⟩
      · exact Or.inr hbefore

/-! ## The phases together -/

variable {compile : String → Cache → Except ε Path × Cache} {expression : String}
  {cache looked : Cache}

/-- After a hit there is nothing to compile. -/
theorem resolve_of_look_some {object : PathObject}
    (hlook : cache.look expression = (some object, looked)) :
    cache.resolve compile expression = (.ok object, looked) := by
  rw [resolve, hlook]

/-- After a miss the compilation comes between the two phases, and may itself use the cache. -/
theorem resolve_of_look_none (hlook : cache.look expression = (none, looked)) :
    cache.resolve compile expression =
      (compile expression looked).2.finish expression (compile expression looked).1 := by
  rw [resolve, hlook]

/-- Compiling path expressions is a lookup with any type that takes in their errors. -/
theorem resolve_parse (ofError : Path.ParseError → ε) (expression : String) (cache : Cache) :
    cache.resolve (fun e cache => ((Path.parse e).mapError ofError, cache)) expression =
      ((cache.compileCached expression).1.mapError ofError, (cache.compileCached expression).2) := by
  rcases hlook : cache.look expression with ⟨_ | object, looked⟩
  · rw [compileCached, resolve_of_look_none hlook, resolve_of_look_none hlook]
    cases Path.parse expression <;> rfl
  · rw [compileCached, resolve_of_look_some hlook, resolve_of_look_some hlook]
    rfl

end DocPath.Cache
