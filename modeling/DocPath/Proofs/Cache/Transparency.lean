import DocPath.Proofs.Cache.Session

/-!
# A cache does not show in results

When every compilation of an expression comes to what a function `f` gives for it, every lookup answers with
what `f` gives, whatever was looked up, stored or dropped before and whatever the cache has room for. The
entries may change at any time between the two phases of a lookup, but each of them holds a path that `f`
gives for its expression, and no move breaks this.
-/

namespace DocPath.Cache

variable {ε : Type}

/-- Every entry holds the path that `f` gives for its expression. -/
def Agrees (f : String → Except ε Path) (cache : Cache) : Prop :=
  ∀ expression object, Entries.get? expression cache.entries = some object →
    f expression = .ok object.path

/-- Every compilation comes to what `f` gives for its expression. -/
def Faithful (f : String → Except ε Path) (moves : List (Move ε)) : Prop :=
  ∀ expression outcome result, Move.compiled expression outcome result ∈ moves →
    outcome = f expression

variable {f : String → Except ε Path}

theorem agrees_empty (f : String → Except ε Path) (maxSize : Nat) : Agrees f (empty maxSize) := by
  intro expression object hget
  simp [empty, Entries.get?] at hget

theorem agrees_clear (f : String → Except ε Path) (cache : Cache) : Agrees f cache.clear := by
  intro expression object hget
  simp [clear, Entries.get?] at hget

theorem Agrees.look {cache : Cache} (hagrees : Agrees f cache) (expression : String) :
    Agrees f (cache.look expression).2 := by
  intro other object hget
  rw [entries_look] at hget
  exact hagrees other object hget

/-- What is found in a cache that agrees is what the function gives. -/
theorem Agrees.eq_ok_of_look {cache looked : Cache} (hagrees : Agrees f cache) {expression : String}
    {object : PathObject} (hlook : cache.look expression = (some object, looked)) :
    f expression = .ok object.path := by
  apply hagrees expression object
  rw [← look_fst, hlook]

/-- A compilation may come to its end after anything else has been done to the cache. -/
theorem Agrees.finish {cache : Cache} (hagrees : Agrees f cache) (expression : String) :
    Agrees f (cache.finish expression (f expression)).2 := by
  intro other object hget
  rcases get?_finish hget with ⟨hother, houtcome⟩ | hbefore
  · rw [hother]
    exact houtcome
  · exact hagrees other object hbefore

/-! ## Moves and runs -/

theorem Faithful.head {move : Move ε} {moves : List (Move ε)}
    (hfaithful : Faithful f (move :: moves)) : Faithful f [move] := by
  intro expression outcome result hmem
  exact hfaithful expression outcome result
    (List.mem_cons.mpr (Or.inl (List.mem_singleton.mp hmem)))

theorem Faithful.tail {move : Move ε} {moves : List (Move ε)}
    (hfaithful : Faithful f (move :: moves)) : Faithful f moves := by
  intro expression outcome result hmem
  exact hfaithful expression outcome result (List.mem_cons_of_mem move hmem)

/-- No move breaks the agreement of the entries. -/
theorem Step.agrees {session next : Session} {move : Move ε} (step : Step session move next)
    (hfaithful : Faithful f [move]) (hagrees : Agrees f session.cache) :
    Agrees f next.cache := by
  cases step with
  | @hit cache looked compiling expression object hlook =>
      have hlooked := hagrees.look expression
      rwa [hlook] at hlooked
  | @miss cache looked compiling expression hlook =>
      have hlooked := hagrees.look expression
      rwa [hlook] at hlooked
  | @compiled cache compiling expression hcompiling outcome =>
      have houtcome := hfaithful expression outcome _ List.mem_cons_self
      rw [houtcome]
      exact hagrees.finish expression
  | asked => exact hagrees
  | cleared cache => exact agrees_clear f cache

/-- A move that brings a lookup to an end answers with what `f` gives. -/
theorem Step.map_path_answer {session next : Session} {move : Move ε}
    (step : Step session move next) (hfaithful : Faithful f [move])
    (hagrees : Agrees f session.cache) {expression : String} {result : Except ε PathObject}
    (hanswer : move.answer? = some (expression, result)) :
    result.map PathObject.path = f expression := by
  cases step with
  | hit hlook =>
      obtain ⟨rfl, rfl⟩ := Prod.mk.inj (Option.some.inj hanswer)
      exact (hagrees.eq_ok_of_look hlook).symm
  | @compiled cache compiling expression hcompiling outcome =>
      have houtcome := hfaithful expression outcome _ List.mem_cons_self
      obtain ⟨rfl, rfl⟩ := Prod.mk.inj (Option.some.inj hanswer)
      rw [map_path_finish]
      exact houtcome
  | miss | asked | cleared => simp [Move.answer?] at hanswer

/-- A cache that agrees still does after any run in which compilations come to what the function gives. -/
theorem Run.agrees {session final : Session} {moves : List (Move ε)}
    (run : Run session moves final) (hfaithful : Faithful f moves)
    (hagrees : Agrees f session.cache) : Agrees f final.cache := by
  induction run with
  | nil => exact hagrees
  | cons step _ ih => exact ih hfaithful.tail (step.agrees hfaithful.head hagrees)

/-- So every lookup of a run answers with what `f` gives. -/
theorem Run.map_path_answers {session final : Session} {moves : List (Move ε)}
    (run : Run session moves final) (hfaithful : Faithful f moves)
    (hagrees : Agrees f session.cache) {move : Move ε} (hmove : move ∈ moves)
    {expression : String} {result : Except ε PathObject}
    (hanswer : move.answer? = some (expression, result)) :
    result.map PathObject.path = f expression := by
  induction run with
  | nil => cases hmove
  | cons step _ ih =>
      -- The entries agree before every move of the run, so each move answers as `f` does.
      rcases List.mem_cons.mp hmove with rfl | hlater
      · exact step.map_path_answer hfaithful.head hagrees hanswer
      · exact ih hfaithful.tail (step.agrees hfaithful.head hagrees) hlater

/-! ## Calls -/

/-- A lookup of an agreeing cache answers with what `f` gives, whatever its compilation does to the cache. -/
theorem Agrees.map_path_resolve {cache : Cache} (hagrees : Agrees f cache)
    {compile : String → Cache → Except ε Path × Cache} {expression : String}
    (hcompile : (compile expression (cache.look expression).2).1 = f expression) :
    (cache.resolve compile expression).1.map PathObject.path = f expression := by
  rcases hlook : cache.look expression with ⟨_ | object, looked⟩
  · rw [hlook] at hcompile
    rw [resolve_of_look_none hlook, map_path_finish]
    exact hcompile
  · rw [resolve_of_look_some hlook]
    exact (hagrees.eq_ok_of_look hlook).symm

theorem Agrees.map_path_compileCached {cache : Cache} (hagrees : Agrees Path.parse cache)
    (expression : String) :
    (cache.compileCached expression).1.map PathObject.path = Path.parse expression :=
  hagrees.map_path_resolve rfl

/-- The accessor for an expression applies its path, if it has one. -/
theorem Agrees.accessor {cache : Cache} (hagrees : Agrees Path.parse cache) (hosts : Hosts)
    (expression : String) :
    (cache.accessor hosts expression).1 =
      (Path.parse expression).map fun path => path.apply hosts := by
  rw [← hagrees.map_path_compileCached expression, Cache.accessor]
  rcases cache.compileCached expression with ⟨_ | object, after⟩
  · rfl
  · rfl

/-- Compiling a path expression is calls that are true to the parser, with whatever type its errors are
taken into. -/
theorem exists_calls_compileCached (ofError : Path.ParseError → ε) (expression : String)
    (cache : Cache) :
    ∃ moves : List (Move ε), Calls cache moves (cache.compileCached expression).2 ∧
      Faithful (fun e => (Path.parse e).mapError ofError) moves := by
  let compile : String → Cache → Except ε Path × Cache := fun e cache =>
    ((Path.parse e).mapError ofError, cache)
  have hfinal : (cache.resolve compile expression).2 = (cache.compileCached expression).2 := by
    rw [resolve_parse]
  rw [← hfinal]
  rcases hlook : cache.look expression with ⟨_ | object, looked⟩
  · refine ⟨_, .miss compile hlook (.nil looked) (.nil _), ?_⟩
    intro other outcome result hmem
    simp only [List.nil_append, List.mem_cons, List.not_mem_nil, reduceCtorEq, false_or, or_false,
      Move.compiled.injEq] at hmem
    obtain ⟨rfl, rfl, -⟩ := hmem
    rfl
  · refine ⟨_, .hit compile hlook (.nil _), ?_⟩
    intro other outcome result hmem
    simp at hmem

/-- The lookups of all calls on a new cache answer with what `f` gives, those that compilations make
included, and so does the lookup that comes next. When `f` is the compilation of path expressions, then the
cached paths and the accessors are those that there would be without a cache. -/
theorem calls_transparent :
    (∀ {ε : Type} (f : String → Except ε Path) (maxSize : Nat) (moves : List (Move ε))
        (cache : Cache), Calls (empty maxSize) moves cache → Faithful f moves →
      (∀ move ∈ moves, ∀ expression result, move.answer? = some (expression, result) →
        result.map PathObject.path = f expression) ∧
      ∀ (compile : String → Cache → Except ε Path × Cache) (expression : String),
        (compile expression (cache.look expression).2).1 = f expression →
        (cache.resolve compile expression).1.map PathObject.path = f expression) ∧
    (∀ (maxSize : Nat) (moves : List (Move Path.ParseError)) (cache : Cache),
        Calls (empty maxSize) moves cache → Faithful Path.parse moves →
      ∀ expression : String,
        (cache.compileCached expression).1.map PathObject.path = Path.parse expression ∧
        ∀ hosts : Hosts, (cache.accessor hosts expression).1 =
          (Path.parse expression).map fun path => path.apply hosts) := by
  refine ⟨?_, ?_⟩
  · intro ε f maxSize moves cache hcalls hfaithful
    have hrun := hcalls.run []
    have hfresh := agrees_empty f maxSize
    refine ⟨?_, ?_⟩
    · intro move hmove expression result hanswer
      exact hrun.map_path_answers hfaithful hfresh hmove hanswer
    · intro compile expression hcompile
      exact (hrun.agrees hfaithful hfresh).map_path_resolve hcompile
  · intro maxSize moves cache hcalls hfaithful expression
    have hagrees := (hcalls.run []).agrees hfaithful (agrees_empty Path.parse maxSize)
    refine ⟨hagrees.map_path_compileCached expression, ?_⟩
    intro hosts
    exact hagrees.accessor hosts expression

/-- An instance: the compilation of `.a` compiles `.a` through the cache itself, so that two lookups are under
way at once and the later insertion meets the entry of the earlier one. -/
theorem calls_transparent_of_nested :
    let compile : String → Cache → Except Path.ParseError Path × Cache := fun e cache =>
      (Path.parse e, (cache.compileCached e).2)
    let after := ((empty 1).resolve compile ".a").2
    after.misses = 2 ∧ (after.compileCached ".a").1.map PathObject.path = Path.parse ".a" := by
  intro compile after
  have hinner : Calls ((empty 1).look ".a").2 _ (compile ".a" ((empty 1).look ".a").2).2 :=
    .miss (fun e cache => (Path.parse e, cache)) rfl (.nil _) (.nil _)
  have hcalls : Calls (empty 1) _ after := .miss compile rfl hinner (.nil after)
  refine ⟨?_, (calls_transparent.2 1 _ after hcalls ?_ ".a").1⟩
  · have hmisses : ∀ outcome : Except Path.ParseError Path,
        let looked := (((empty 1).look ".a").2.look ".a").2
        ((looked.finish ".a" outcome).2.finish ".a" outcome).2.misses = 2 := by
      intro outcome
      cases outcome <;> rfl
    exact hmisses (Path.parse ".a")
  · intro expression outcome result hmem
    simp only [List.nil_append, List.cons_append, List.mem_cons, List.not_mem_nil, reduceCtorEq,
      false_or, or_false, Move.compiled.injEq] at hmem
    rcases hmem with ⟨rfl, rfl, -⟩ | ⟨rfl, rfl, -⟩
    · rfl
    · rfl

end DocPath.Cache
