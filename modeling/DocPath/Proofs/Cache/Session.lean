import DocPath.Cache.Request
import DocPath.Proofs.Cache.Phases

/-!
# Runs of a cache in use

While a compilation runs its lookup stands between its phases, and other uses of the cache may come in
between: uses by the compilation itself, to any depth, or by others at the same time. So a run is a list of
moves, of which a lookup that misses makes two, and every state between the phases of a lookup is a state of
the run.

Calls that come one after the other, with compilations that make calls themselves, are one kind of run. Other
runs have compilations that come to their ends in any order.
-/

namespace DocPath.Cache

variable {ε : Type}

/-- One move of a cache in use. -/
inductive Move (ε : Type) where
  /-- A lookup finds an entry. -/
  | hit (expression : String) (object : PathObject)
  /-- A lookup finds no entry and starts a compilation. -/
  | miss (expression : String)
  /-- A compilation comes to an outcome, with which its lookup comes to a result. -/
  | compiled (expression : String) (outcome : Except ε Path) (result : Except ε PathObject)
  /-- The cache is asked whether an expression has an entry. -/
  | asked (expression : String) (answer : Bool)
  /-- All entries are dropped. -/
  | cleared

/-- The expression and the result of the lookup that a move brings to an end. -/
def Move.answer? : Move ε → Option (String × Except ε PathObject)
  | .hit expression object => some (expression, .ok object)
  | .compiled expression _ result => some (expression, result)
  | .miss _ | .asked _ _ | .cleared => none

/-- A cache in use. -/
structure Session where
  cache : Cache
  /-- The expressions whose compilations are running. -/
  compiling : List String

/-- A new cache before its first use. -/
def Session.fresh (maxSize : Nat) : Session := ⟨Cache.empty maxSize, []⟩

/-- What a move makes of a cache in use. Whichever compilation is running may come to its end next, with
whatever outcome. -/
inductive Step : Session → Move ε → Session → Prop
  | hit {cache looked : Cache} {compiling : List String} {expression : String} {object : PathObject}
      (hlook : cache.look expression = (some object, looked)) :
      Step ⟨cache, compiling⟩ (.hit expression object) ⟨looked, compiling⟩
  | miss {cache looked : Cache} {compiling : List String} {expression : String}
      (hlook : cache.look expression = (none, looked)) :
      Step ⟨cache, compiling⟩ (.miss expression) ⟨looked, expression :: compiling⟩
  | compiled {cache : Cache} {compiling : List String} {expression : String}
      (hcompiling : expression ∈ compiling) (outcome : Except ε Path) :
      Step ⟨cache, compiling⟩
        (.compiled expression outcome (cache.finish expression outcome).1)
        ⟨(cache.finish expression outcome).2, compiling.erase expression⟩
  | asked (session : Session) (expression : String) :
      Step session (.asked expression (session.cache.contains expression)) session
  | cleared (cache : Cache) (compiling : List String) :
      Step ⟨cache, compiling⟩ .cleared ⟨cache.clear, compiling⟩

/-- Moves one after the other. -/
inductive Run : Session → List (Move ε) → Session → Prop
  | nil (session : Session) : Run session [] session
  | cons {session next final : Session} {move : Move ε} {moves : List (Move ε)}
      (step : Step session move next) (rest : Run next moves final) :
      Run session (move :: moves) final

theorem Run.append {session middle final : Session} {moves more : List (Move ε)}
    (first : Run session moves middle) (second : Run middle more final) :
    Run session (moves ++ more) final := by
  induction first with
  | nil => exact second
  | cons step _ ih => exact .cons step (ih second)

/-- Calls that come one after the other take one cache to another by the moves of a list. A lookup may have
any function for its compilation, as long as what that does to the cache it does by calls; `compileCached` and
`accessor` are lookups with the parser for it. -/
inductive Calls : Cache → List (Move ε) → Cache → Prop
  | nil (cache : Cache) : Calls cache [] cache
  /-- A lookup of an expression with an entry: its compilation is not called. -/
  | hit {cache looked final : Cache} {expression : String} {object : PathObject}
      {moves : List (Move ε)} (compile : String → Cache → Except ε Path × Cache)
      (hlook : cache.look expression = (some object, looked))
      (rest : Calls (cache.resolve compile expression).2 moves final) :
      Calls cache (.hit expression object :: moves) final
  /-- A lookup of an expression without an entry, whose compilation makes the calls `nested`. -/
  | miss {cache looked final : Cache} {expression : String} {inner moves : List (Move ε)}
      (compile : String → Cache → Except ε Path × Cache)
      (hlook : cache.look expression = (none, looked))
      (nested : Calls looked inner (compile expression looked).2)
      (rest : Calls (cache.resolve compile expression).2 moves final) :
      Calls cache
        (.miss expression :: (inner ++
          .compiled expression (compile expression looked).1
            (cache.resolve compile expression).1 :: moves))
        final
  | asked {cache final : Cache} {moves : List (Move ε)} (expression : String)
      (rest : Calls cache moves final) :
      Calls cache (.asked expression (cache.contains expression) :: moves) final
  | cleared {cache final : Cache} {moves : List (Move ε)} (rest : Calls cache.clear moves final) :
      Calls cache (.cleared :: moves) final

/-- Calls are a run that leaves the compilations around them running. -/
theorem Calls.run {cache final : Cache} {moves : List (Move ε)} (calls : Calls cache moves final)
    (compiling : List String) : Run ⟨cache, compiling⟩ moves ⟨final, compiling⟩ := by
  induction calls generalizing compiling with
  | nil cache => exact .nil _
  | hit compile hlook _ ih =>
      rw [resolve_of_look_some hlook] at ih
      exact .cons (.hit hlook) (ih compiling)
  | @miss cache looked final expression inner moves compile hlook _ _ ihnested ih =>
      rw [resolve_of_look_none hlook] at ih ⊢
      -- While the nested calls run, this compilation is the latest of those that are running.
      have hinner := ihnested (expression :: compiling)
      have hrunning : expression ∈ expression :: compiling := List.mem_cons_self
      have hcompiled := @Step.compiled ε (compile expression looked).2 _ _ hrunning
        (compile expression looked).1
      rw [List.erase_cons_head] at hcompiled
      exact .cons (.miss hlook) (hinner.append (.cons hcompiled (ih compiling)))
  | asked expression _ ih => exact .cons (.asked _ expression) (ih compiling)
  | cleared _ ih => exact .cons (.cleared _ compiling) (ih compiling)

theorem Calls.append {cache middle final : Cache} {moves more : List (Move ε)}
    (first : Calls cache moves middle) (second : Calls middle more final) :
    Calls cache (moves ++ more) final := by
  induction first with
  | nil => exact second
  | hit compile hlook _ ih => exact .hit compile hlook (ih second)
  | miss compile hlook nested _ _ ih =>
      rw [List.cons_append, List.append_assoc, List.cons_append]
      exact .miss compile hlook nested (ih second)
  | asked expression _ ih => exact .asked expression (ih second)
  | cleared _ ih => exact .cleared (ih second)

/-! ## Requests are calls -/

mutual

theorem Request.exists_calls_run (request : Request ε) (cache : Cache) :
    ∃ moves : List (Move ε), Calls cache moves (request.run cache).2 := by
  cases request with
  | resolve expression during outcome =>
      let compile : String → Cache → Except ε Path × Cache := fun _ cache =>
        (outcome, Request.runAll during cache)
      have hrun : ((Request.resolve expression during outcome).run cache).2 =
          (cache.resolve compile expression).2 := by rw [Request.run]
      rw [hrun]
      rcases hlook : cache.look expression with ⟨_ | object, looked⟩
      · obtain ⟨inner, hinner⟩ := Request.exists_calls_runAll during looked
        exact ⟨_, .miss compile hlook hinner (.nil _)⟩
      · exact ⟨_, .hit compile hlook (.nil _)⟩
  | contains expression =>
      rw [Request.run]
      exact ⟨_, .asked expression (.nil _)⟩
  | clear =>
      rw [Request.run]
      exact ⟨_, .cleared (.nil _)⟩

/-- Whatever requests are made of a cache, they are calls. -/
theorem Request.exists_calls_runAll (requests : List (Request ε)) (cache : Cache) :
    ∃ moves : List (Move ε), Calls cache moves (Request.runAll requests cache) := by
  cases requests with
  | nil =>
      rw [Request.runAll]
      exact ⟨[], .nil cache⟩
  | cons request rest =>
      rw [Request.runAll]
      obtain ⟨moves, hmoves⟩ := Request.exists_calls_run request cache
      obtain ⟨more, hmore⟩ := Request.exists_calls_runAll rest (request.run cache).2
      exact ⟨_, hmoves.append hmore⟩

end

end DocPath.Cache
