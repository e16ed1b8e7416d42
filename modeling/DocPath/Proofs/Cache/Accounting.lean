import DocPath.Proofs.Cache.Session
import DocPath.Word

/-!
# Size and counters of a cache in use

What the size and the counters of a cache say about its use. A table holds at most one entry more than its
maximum. Hits and misses together are the lookups that were started, and misses are the compilations that were
called. An insertion pays for the entry it adds, and a clearing because of too many entries drops exactly as
many as were paid for since the one before; so clearings and entries together are bounded by the insertions.

All this holds between any two moves of a run, also while compilations are running. The counters are natural
numbers here. None of them exceeds the number of lookups, so 64 bits hold them as long as they hold that
number.
-/

namespace DocPath.Cache

variable {ε : Type}

/-- Whether a move starts a lookup. -/
def Move.isLookup : Move ε → Bool
  | .hit _ _ | .miss _ => true
  | .compiled _ _ _ | .asked _ _ | .cleared => false

/-- Whether a move calls a compilation. -/
def Move.isMiss : Move ε → Bool
  | .miss _ => true
  | .hit _ _ | .compiled _ _ _ | .asked _ _ | .cleared => false

/-- Whether a compilation comes to its end with a move. -/
def Move.isCompiled : Move ε → Bool
  | .compiled _ _ _ => true
  | .hit _ _ | .miss _ | .asked _ _ | .cleared => false

/-- What a lookup that missed was for and the object it returns, if a move brings it to a successful end. -/
def Move.success? : Move ε → Option (String × PathObject)
  | .compiled expression _ (.ok object) => some (expression, object)
  | .compiled _ _ (.error _) | .hit _ _ | .miss _ | .asked _ _ | .cleared => none

theorem Move.isCompiled_of_success {move : Move ε} (hsuccess : move.success?.isSome) :
    move.isCompiled := by
  cases move <;> simp_all [Move.success?, Move.isCompiled]

/-! ## What the phases of a lookup count -/

variable {cache looked : Cache} {expression : String}

theorem look_eq_some {object : PathObject} (hlook : cache.look expression = (some object, looked)) :
    Entries.get? expression cache.entries = some object ∧
      looked = { cache with hits := cache.hits + 1 }.note (.hit expression) := by
  rw [look] at hlook
  split at hlook
  next found hget =>
    obtain ⟨hobject, rfl⟩ := Prod.mk.inj hlook
    exact ⟨hget.trans hobject, rfl⟩
  next => simp at hlook

theorem look_eq_none (hlook : cache.look expression = (none, looked)) :
    Entries.get? expression cache.entries = none ∧
      looked = { cache with misses := cache.misses + 1 }.note (.miss expression) := by
  rw [look] at hlook
  split at hlook
  next => simp at hlook
  next hget =>
    obtain ⟨-, rfl⟩ := Prod.mk.inj hlook
    exact ⟨hget, rfl⟩

theorem makeRoom_frame (cache : Cache) :
    cache.makeRoom.maxSize = cache.maxSize ∧ cache.makeRoom.hits = cache.hits ∧
      cache.makeRoom.misses = cache.misses ∧ cache.makeRoom.issued = cache.issued := by
  rw [makeRoom]
  split <;> exact ⟨rfl, rfl, rfl, rfl⟩

/-- Storing leaves the size and the other counters as they are. -/
theorem store_frame (expression : String) (object : PathObject) (cache : Cache) :
    let next := cache.store expression object
    next.maxSize = cache.maxSize ∧ next.hits = cache.hits ∧ next.misses = cache.misses ∧
      next.issued = cache.issued := by
  rw [store]
  split
  next => exact ⟨rfl, rfl, rfl, rfl⟩
  next => exact cache.makeRoom_frame

/-- The end of a compilation counts neither as a hit nor as a miss. -/
theorem finish_frame (expression : String) (outcome : Except ε Path) (cache : Cache) :
    let next := (cache.finish expression outcome).2
    next.maxSize = cache.maxSize ∧ next.hits = cache.hits ∧ next.misses = cache.misses := by
  cases outcome with
  | error e => exact ⟨rfl, rfl, rfl⟩
  | ok path =>
      obtain ⟨hmax, hhits, hmisses, -⟩ :=
        (cache.issue path).2.store_frame expression (cache.issue path).1
      exact ⟨hmax, hhits, hmisses⟩

/-- A new object is stored in one of three ways: not at all, into a table that has room, or alone, into the
table that it cleared. -/
theorem finish_ok_cases (expression : String) (path : Path) (cache : Cache) :
    let next := (cache.finish (ε := ε) expression (.ok path)).2
    let object : PathObject := ⟨cache.issued, path⟩
    (cache.maxSize = 0 ∧ next.entries = cache.entries ∧ next.clears = cache.clears) ∨
      (0 < cache.maxSize ∧ cache.size ≤ cache.maxSize ∧
        next.entries = Entries.insert expression object cache.entries ∧ next.clears = cache.clears) ∨
      (0 < cache.maxSize ∧ cache.maxSize < cache.size ∧
        next.entries = [(expression, object)] ∧ next.clears = cache.clears + 1) := by
  by_cases hmax : cache.maxSize = 0
  · simp [finish, issue, store, hmax]
  · have hpos : 0 < cache.maxSize := Nat.pos_of_ne_zero hmax
    by_cases hroom : cache.maxSize < cache.size
    · have hsize : cache.maxSize < cache.entries.length := hroom
      refine Or.inr (Or.inr ⟨hpos, hroom, ?_⟩)
      simp [finish, issue, store, makeRoom, size, note, Entries.insert, hmax, hsize]
    · have hsize : ¬cache.maxSize < cache.entries.length := hroom
      refine Or.inr (Or.inl ⟨hpos, Nat.le_of_not_lt hroom, ?_⟩)
      simp [finish, issue, store, makeRoom, size, hmax, hsize]

/-! ## The size of a table -/

/-- The size and the clearings of a cache that has stored at most `stored` objects. -/
structure Bounded (maxSize stored : Nat) (cache : Cache) : Prop where
  maxSize_eq : cache.maxSize = maxSize
  size_le : cache.size ≤ maxSize + 1
  /-- A cache with no room is never used. -/
  unused : maxSize = 0 → cache.size = 0 ∧ cache.hits = 0 ∧ cache.clears = 0
  /-- Every entry, and every entry dropped by a clearing, was stored once. -/
  paid : (maxSize + 1) * cache.clears + cache.size ≤ stored

variable {maxSize stored : Nat}

theorem bounded_empty (maxSize : Nat) : Bounded maxSize 0 (empty maxSize) := by
  constructor <;> simp [empty, size]

/-- A table that is emptied on request counts as no clearing, and stays within its bounds. -/
theorem Bounded.clear (hbounded : Bounded maxSize stored cache) :
    Bounded maxSize stored cache.clear := by
  obtain ⟨hmax, -, hunused, hpaid⟩ := hbounded
  refine ⟨hmax, Nat.zero_le _, fun hzero => ⟨rfl, (hunused hzero).2⟩, ?_⟩
  exact Nat.le_trans (Nat.add_le_add_left (Nat.zero_le _) _) hpaid

theorem Bounded.hit (hbounded : Bounded maxSize stored cache) {object : PathObject}
    (hlook : cache.look expression = (some object, looked)) : Bounded maxSize stored looked := by
  obtain ⟨hget, rfl⟩ := look_eq_some hlook
  obtain ⟨hmax, hsize, hunused, hpaid⟩ := hbounded
  refine ⟨hmax, hsize, fun hzero => ?_, hpaid⟩
  have hnone : cache.entries = [] := List.eq_nil_of_length_eq_zero (hunused hzero).1
  rw [hnone] at hget
  cases hget

theorem Bounded.miss (hbounded : Bounded maxSize stored cache)
    (hlook : cache.look expression = (none, looked)) : Bounded maxSize stored looked := by
  obtain ⟨-, rfl⟩ := look_eq_none hlook
  exact ⟨hbounded.maxSize_eq, hbounded.size_le, hbounded.unused, hbounded.paid⟩

/-- An insertion pays for one entry. -/
theorem Bounded.finish_ok (hbounded : Bounded maxSize stored cache) (expression : String)
    (path : Path) : Bounded maxSize (stored + 1) (cache.finish (ε := ε) expression (.ok path)).2 := by
  obtain ⟨hmax, hsize, hunused, hpaid⟩ := hbounded
  obtain ⟨hmaxNext, hhits, -⟩ := finish_frame (ε := ε) expression (.ok path) cache
  rcases finish_ok_cases (ε := ε) expression path cache with
    ⟨-, hentries, hclears⟩ | ⟨hpos, hroom, hentries, hclears⟩ | ⟨hpos, hfull, hentries, hclears⟩
  · refine ⟨hmaxNext.trans hmax, ?_, ?_, ?_⟩
    · rwa [size, hentries]
    · rwa [size, hentries, hclears, hhits]
    · rw [size, hentries, hclears]
      exact Nat.le_succ_of_le hpaid
  · have hlength := Entries.length_insert_le expression ⟨cache.issued, path⟩ cache.entries
    rw [size] at hroom hpaid
    refine ⟨hmaxNext.trans hmax, ?_, by omega, ?_⟩
    · rw [size, hentries]
      omega
    · rw [size, hentries, hclears]
      omega
  · -- The table that is cleared was one entry too large, and all of them had been paid for.
    have hexact : cache.size = maxSize + 1 := by omega
    refine ⟨hmaxNext.trans hmax, ?_, by omega, ?_⟩
    · rw [size, hentries]
      exact Nat.le_add_left 1 maxSize
    · rw [size, hentries, hclears, Nat.mul_add, Nat.mul_one, List.length_singleton]
      omega

/-! ## Moves and runs -/

/-- The lookups that missed and came to a successful end, with the objects they returned, in order. -/
def successes (moves : List (Move ε)) : List (String × PathObject) := moves.filterMap Move.success?

@[simp] theorem successes_append (moves more : List (Move ε)) :
    successes (moves ++ more) = successes moves ++ successes more := List.filterMap_append

@[simp] theorem successes_singleton (move : Move ε) :
    successes [move] = move.success?.toList := by
  cases hsuccess : move.success? <;> simp [successes, hsuccess]

/-- What the size and the counters of a cache come to after moves that started on a new one. -/
structure Accounted (maxSize : Nat) (moves : List (Move ε)) (session : Session) : Prop extends
    Bounded maxSize (successes moves).length session.cache where
  lookups : session.cache.hits + session.cache.misses = moves.countP Move.isLookup
  misses_eq : session.cache.misses = moves.countP Move.isMiss
  /-- Every compilation that was called has come to its end or is running. -/
  compilations : moves.countP Move.isMiss = moves.countP Move.isCompiled + session.compiling.length

theorem accounted_fresh (maxSize : Nat) :
    Accounted maxSize ([] : List (Move ε)) (Session.fresh maxSize) :=
  ⟨bounded_empty maxSize, rfl, rfl, rfl⟩

/-- The counters keep up with each move. -/
theorem Step.accounted {session next : Session} {move : Move ε} {moves : List (Move ε)}
    (step : Step session move next) (haccounted : Accounted maxSize moves session) :
    Accounted maxSize (moves ++ [move]) next := by
  obtain ⟨hbounded, hlookups, hmisses, hcompilations⟩ := haccounted
  cases step with
  | hit hlook =>
      have hnext := hbounded.hit hlook
      obtain ⟨-, rfl⟩ := look_eq_some hlook
      simp only [note] at hnext hlookups hmisses hcompilations ⊢
      constructor
      · simpa [Move.success?] using hnext
      all_goals simp [Move.isLookup, Move.isMiss, Move.isCompiled]; omega
  | miss hlook =>
      have hnext := hbounded.miss hlook
      obtain ⟨-, rfl⟩ := look_eq_none hlook
      simp only [note] at hnext hlookups hmisses hcompilations ⊢
      constructor
      · simpa [Move.success?] using hnext
      all_goals simp [Move.isLookup, Move.isMiss, Move.isCompiled]; omega
  | @compiled cache compiling expression hcompiling outcome =>
      -- One compilation less is running and one more has ended, whatever its outcome.
      obtain ⟨-, hhits, hmissesNext⟩ := finish_frame expression outcome cache
      have hrunning := List.length_pos_of_mem hcompiling
      have herase := List.length_erase_of_mem hcompiling
      dsimp only at hbounded hlookups hmisses hcompilations hhits hmissesNext
      constructor
      · cases outcome with
        | error e => simpa [Move.success?, finish] using hbounded
        | ok path => simpa [Move.success?, finish] using hbounded.finish_ok (ε := ε) expression path
      all_goals simp [Move.isLookup, Move.isMiss, Move.isCompiled]; omega
  | asked expression =>
      constructor
      · simpa [Move.success?] using hbounded
      all_goals simpa [Move.isLookup, Move.isMiss, Move.isCompiled]
  | cleared cache compiling =>
      constructor
      · simpa [Move.success?] using hbounded.clear
      all_goals simpa [Move.isLookup, Move.isMiss, Move.isCompiled, clear]

theorem Run.accounted {session final : Session} {before moves : List (Move ε)}
    (run : Run session moves final) (haccounted : Accounted maxSize before session) :
    Accounted maxSize (before ++ moves) final := by
  induction run generalizing before with
  | nil => rwa [List.append_nil]
  | @cons session next final move moves step _ ih =>
      rw [List.append_cons]
      exact ih (step.accounted haccounted)

theorem Run.exists_middle {session final : Session} {moves more : List (Move ε)}
    (run : Run session (moves ++ more) final) :
    ∃ middle, Run session moves middle ∧ Run middle more final := by
  induction moves generalizing session with
  | nil => exact ⟨session, .nil session, run⟩
  | cons move moves ih =>
      cases run with
      | cons step rest =>
          obtain ⟨middle, first, second⟩ := ih rest
          exact ⟨middle, .cons step first, second⟩

/-- Every counter is at most the number of lookups. -/
theorem Accounted.counters_le {moves : List (Move ε)} {session : Session}
    (haccounted : Accounted maxSize moves session) :
    session.cache.hits ≤ moves.countP Move.isLookup ∧
      session.cache.misses ≤ moves.countP Move.isLookup ∧
      session.cache.clears ≤ moves.countP Move.isLookup := by
  have hsuccesses : (successes moves).length ≤ moves.countP Move.isCompiled := by
    rw [successes, List.length_filterMap_eq_countP]
    exact List.countP_mono_left fun move _ => Move.isCompiled_of_success
  have hclears : session.cache.clears ≤ (maxSize + 1) * session.cache.clears :=
    Nat.le_mul_of_pos_left _ (Nat.succ_pos _)
  have hpaid := haccounted.paid
  have hlookups := haccounted.lookups
  have hmisses := haccounted.misses_eq
  have hcompilations := haccounted.compilations
  omega

/-- A clearing because of too many entries drops one entry more than the maximum, and the entry stored behind
it is then the only one. -/
theorem Step.overflow {session next : Session} {move : Move ε} {stored : Nat}
    (step : Step session move next) (hbounded : Bounded maxSize stored session.cache)
    (hclears : next.cache.clears ≠ session.cache.clears) :
    next.cache.clears = session.cache.clears + 1 ∧ session.cache.size = maxSize + 1 ∧
      ∃ entry, move.success? = some entry ∧ next.cache.entries = [entry] := by
  cases step with
  | hit hlook =>
      obtain ⟨-, rfl⟩ := look_eq_some hlook
      exact absurd rfl hclears
  | miss hlook =>
      obtain ⟨-, rfl⟩ := look_eq_none hlook
      exact absurd rfl hclears
  | @compiled cache compiling expression hcompiling outcome =>
      cases outcome with
      | error e => exact absurd rfl hclears
      | ok path =>
          rcases finish_ok_cases (ε := ε) expression path cache with
            ⟨-, -, hsame⟩ | ⟨-, -, -, hsame⟩ | ⟨-, hfull, hentries, hnext⟩
          · exact absurd hsame hclears
          · exact absurd hsame hclears
          · have hmax : cache.maxSize = maxSize := hbounded.maxSize_eq
            have hsize : cache.size ≤ maxSize + 1 := hbounded.size_le
            have hexact : cache.size = maxSize + 1 := by omega
            exact ⟨hnext, hexact, _, rfl, hentries⟩
  | asked => exact absurd rfl hclears
  | cleared => exact absurd rfl hclears

/-! ## Calls -/

/-- A lookup whose compilation fails leaves the cache as the compilation left it. -/
theorem resolve_of_compile_error {compile : String → Cache → Except ε Path × Cache} {after : Cache}
    {e : ε} (hlook : cache.look expression = (none, looked))
    (hcompile : compile expression looked = (.error e, after)) :
    cache.resolve compile expression = (.error e, after) := by
  rw [resolve_of_look_none hlook, hcompile]
  rfl

/-- To compile through the cache is one lookup, whatever it comes to. -/
theorem lookups_compileCached (expression : String) (cache : Cache) :
    let next := (cache.compileCached expression).2
    next.hits + next.misses = cache.hits + cache.misses + 1 := by
  rcases hlook : cache.look expression with ⟨_ | object, looked⟩
  · obtain ⟨-, hlooked⟩ := look_eq_none hlook
    obtain ⟨-, hhits, hmisses⟩ := finish_frame expression (Path.parse expression) looked
    rw [compileCached, resolve_of_look_none hlook]
    dsimp only
    rw [hhits, hmisses, hlooked]
    rfl
  · obtain ⟨-, rfl⟩ := look_eq_some hlook
    rw [compileCached, resolve_of_look_some hlook]
    exact Nat.add_right_comm _ _ _

/-- The size and the counters of a cache between any two moves of its use, with one move or one lookup more.
The moves of calls are such moves, and a lookup whose compilation fails adds one miss to what the calls of
that compilation leave. -/
theorem calls_accounted {ε : Type} (maxSize : Nat) :
    (∀ (moves : List (Move ε)) (session : Session), Run (Session.fresh maxSize) moves session →
      Accounted maxSize moves session ∧
      (moves.countP Move.isLookup < wordBound → session.cache.hits < wordBound ∧
        session.cache.misses < wordBound ∧ session.cache.clears < wordBound) ∧
      (∀ (move : Move ε) (next : Session), Step session move next →
        next.cache.clears ≠ session.cache.clears →
        next.cache.clears = session.cache.clears + 1 ∧ session.cache.size = maxSize + 1 ∧
          ∃ entry, move.success? = some entry ∧ next.cache.entries = [entry]) ∧
      (∀ (compile : String → Cache → Except ε Path × Cache) (expression : String)
          (looked after : Cache) (nested : List (Move ε)) (e : ε),
        session.cache.look expression = (none, looked) → Calls looked nested after →
        compile expression looked = (.error e, after) →
        session.cache.resolve compile expression = (.error e, after) ∧
          after.misses = session.cache.misses + 1 + nested.countP Move.isMiss ∧
          looked.entries = session.cache.entries ∧ looked.hits = session.cache.hits ∧
          looked.clears = session.cache.clears) ∧
      ∀ (expression : String) (hosts : Hosts),
        let next := (session.cache.compileCached expression).2
        next.hits + next.misses = session.cache.hits + session.cache.misses + 1 ∧
          (session.cache.accessor hosts expression).2 = next) ∧
    ∀ (before after : List (Move ε)) (final : Cache),
      Calls (empty maxSize) (before ++ after) final →
      ∃ session, Run (Session.fresh maxSize) before session ∧ Run session after ⟨final, []⟩ := by
  refine ⟨?_, ?_⟩
  · intro moves session hrun
    have haccounted : Accounted maxSize moves session := hrun.accounted (accounted_fresh maxSize)
    refine ⟨haccounted, ?_, ?_, ?_, ?_⟩
    · intro hfew
      obtain ⟨hhits, hmisses, hclears⟩ := haccounted.counters_le
      exact ⟨Nat.lt_of_le_of_lt hhits hfew, Nat.lt_of_le_of_lt hmisses hfew,
        Nat.lt_of_le_of_lt hclears hfew⟩
    · intro move next hstep hclears
      exact hstep.overflow haccounted.toBounded hclears
    · intro compile expression looked after nested e hlook hnested hcompile
      -- The nested calls are a run of their own while this compilation is running.
      have hmissed : Accounted maxSize (moves ++ [.miss expression])
          ⟨looked, expression :: session.compiling⟩ := (Step.miss hlook).accounted haccounted
      have hafter := (hnested.run (expression :: session.compiling)).accounted hmissed
      have hmisses : after.misses = session.cache.misses + 1 + nested.countP Move.isMiss := by
        have hcount := hafter.misses_eq
        rw [List.countP_append, ← hmissed.misses_eq] at hcount
        rw [hcount, (look_eq_none hlook).2]
        rfl
      refine ⟨resolve_of_compile_error hlook hcompile, hmisses, ?_⟩
      rw [(look_eq_none hlook).2]
      exact ⟨rfl, rfl, rfl⟩
    · intro expression hosts
      exact ⟨lookups_compileCached expression session.cache, rfl⟩
  · intro before after final hcalls
    exact (hcalls.run []).exists_middle

/-- An instance with room for one entry: the compilation of `a` stores two others, so that storing `a` clears
the table; the compilation of `e` stores `d` and fails. -/
theorem calls_accounted_of_nested :
    let good : String → Cache → Except String Path × Cache := fun _ cache => (.ok ⟨[]⟩, cache)
    let nesting : String → Cache → Except String Path × Cache := fun _ cache =>
      (.ok ⟨[]⟩, ((cache.resolve good "b").2.resolve good "c").2)
    let failing : String → Cache → Except String Path × Cache := fun _ cache =>
      (.error "failed", (cache.resolve good "d").2)
    let during := (nesting "a" ((empty 1).look "a").2).2
    let cache := ((empty 1).resolve nesting "a").2
    let after := (failing "e" (cache.look "e").2).2
    during.size = 1 + 1 ∧ cache.clears = during.clears + 1 ∧ cache.misses = 3 ∧
      cache.resolve failing "e" = (.error "failed", after) ∧ after.misses = cache.misses + 1 + 1 := by
  intro good nesting failing during cache after
  have hduring : Calls ((empty 1).look "a").2 _ during :=
    .miss good rfl (.nil _) (.miss good rfl (.nil _) (.nil _))
  have hstarted : Run (Session.fresh 1) _ ⟨during, ["a"]⟩ := .cons (.miss rfl) (hduring.run ["a"])
  have hstored := @Step.compiled String during ["a"] "a" List.mem_cons_self (.ok ⟨[]⟩)
  have hfinished : Run (Session.fresh 1) _ ⟨cache, []⟩ := hstarted.append (.cons hstored (.nil _))
  have hnested : Calls (cache.look "e").2 _ after := .miss good rfl (.nil _) (.nil _)
  obtain ⟨-, -, hoverflow, -⟩ := (calls_accounted 1).1 _ _ hstarted
  obtain ⟨haccounted, -, -, hfails, -⟩ := (calls_accounted 1).1 _ _ hfinished
  obtain ⟨hclears, hsize, -⟩ := hoverflow _ _ hstored (by decide)
  obtain ⟨hresolve, hmisses, -⟩ := hfails failing "e" _ after _ "failed" rfl hnested rfl
  exact ⟨hsize, hclears, haccounted.misses_eq, hresolve, hmisses⟩

end DocPath.Cache
