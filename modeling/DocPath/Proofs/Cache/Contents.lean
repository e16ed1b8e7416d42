import Mathlib.Data.List.Chain
import DocPath.Proofs.Cache.Accounting

/-!
# What a cache holds

Calls whose compilations make no calls themselves fill a table in the order in which they miss. A lookup that
misses and succeeds adds its expression, which is not there yet, and starts the table anew when it holds one
entry more than its maximum. So the table is the end of the list of these lookups since the last explicit
clearing, and how long that end is and how often it was started anew follow from their number alone.

Every lookup that misses and succeeds returns an object that no earlier lookup returned. This holds whatever
compilations do in between.
-/

namespace DocPath.Cache

variable {ε : Type}

/-! ## New objects -/

theorem issued_finish_ok (expression : String) (path : Path) (cache : Cache) :
    (cache.finish (ε := ε) expression (.ok path)).2.issued = cache.issued + 1 :=
  ((cache.issue path).2.store_frame expression (cache.issue path).1).2.2.2

theorem eq_or_mem_of_mem_finish_ok {cache : Cache} {expression : String} {path : Path}
    {entry : String × PathObject}
    (hmem : entry ∈ (cache.finish (ε := ε) expression (.ok path)).2.entries) :
    entry = (expression, ⟨cache.issued, path⟩) ∨ entry ∈ cache.entries := by
  rcases finish_ok_cases (ε := ε) expression path cache with
    ⟨-, hentries, -⟩ | ⟨-, -, hentries, -⟩ | ⟨-, -, hentries, -⟩
  · rw [hentries] at hmem
    exact Or.inr hmem
  · rw [hentries] at hmem
    exact Entries.eq_or_mem_of_mem_insert hmem
  · rw [hentries] at hmem
    exact Or.inl (List.mem_singleton.mp hmem)

/-- All objects that are stored or were returned have been made. -/
structure Issued (moves : List (Move ε)) (cache : Cache) : Prop where
  entries_lt : ∀ entry ∈ cache.entries, entry.2.identity < cache.issued
  answers_lt : ∀ move ∈ moves, ∀ expression object,
    move.answer? = some (expression, .ok object) → object.identity < cache.issued

theorem issued_empty (maxSize : Nat) : Issued ([] : List (Move ε)) (empty maxSize) :=
  ⟨fun _ hentry => absurd hentry List.not_mem_nil, fun _ hmove => absurd hmove List.not_mem_nil⟩

/-- All that a move answers or leaves behind has been issued by then. -/
theorem Issued.mono {moves : List (Move ε)} {cache next : Cache} (hissued : Issued moves cache)
    {move : Move ε} (hle : cache.issued ≤ next.issued)
    (hentries : ∀ entry ∈ next.entries, entry ∈ cache.entries ∨ entry.2.identity < next.issued)
    (hanswer : ∀ expression object, move.answer? = some (expression, .ok object) →
      object.identity < next.issued) : Issued (moves ++ [move]) next := by
  refine ⟨?_, ?_⟩
  · intro entry hentry
    rcases hentries entry hentry with hbefore | hlt
    · exact Nat.lt_of_lt_of_le (hissued.entries_lt entry hbefore) hle
    · exact hlt
  · intro other hother expression object hobject
    rcases List.mem_append.mp hother with hbefore | hlast
    · exact Nat.lt_of_lt_of_le (hissued.answers_lt other hbefore expression object hobject) hle
    · rw [List.mem_singleton.mp hlast] at hobject
      exact hanswer expression object hobject

/-- Each move stores and answers only objects that have been made. -/
theorem Step.issued {session next : Session} {move : Move ε} {moves : List (Move ε)}
    (step : Step session move next) (hissued : Issued moves session.cache) :
    Issued (moves ++ [move]) next.cache := by
  cases step with
  | hit hlook =>
      obtain ⟨hget, rfl⟩ := look_eq_some hlook
      refine hissued.mono (Nat.le_refl _) (fun _ => Or.inl) ?_
      intro expression object hobject
      simp only [Move.answer?, Option.some.injEq, Prod.mk.injEq, Except.ok.injEq] at hobject
      exact hobject.2 ▸ hissued.entries_lt _ (Entries.mem_of_get? hget)
  | miss hlook =>
      obtain ⟨-, rfl⟩ := look_eq_none hlook
      exact hissued.mono (Nat.le_refl _) (fun _ => Or.inl) (by simp [Move.answer?])
  | @compiled cache compiling expression hcompiling outcome =>
      cases outcome with
      | error e =>
          exact hissued.mono (Nat.le_refl _) (fun _ => Or.inl) (by simp [Move.answer?, finish])
      | ok path =>
          have hnext := issued_finish_ok (ε := ε) expression path cache
          refine hissued.mono (hnext ▸ Nat.le_succ _) ?_ ?_
          · intro entry hentry
            refine (eq_or_mem_of_mem_finish_ok (ε := ε) hentry).symm.imp_right ?_
            rintro rfl
            exact hnext ▸ Nat.lt_succ_self _
          · intro other object hobject
            simp only [Move.answer?, finish, issue, Option.some.injEq, Prod.mk.injEq,
              Except.ok.injEq] at hobject
            obtain ⟨-, rfl⟩ := hobject
            exact hnext ▸ Nat.lt_succ_self _
  | asked => exact hissued.mono (Nat.le_refl _) (fun _ => Or.inl) (by simp [Move.answer?])
  | cleared =>
      exact hissued.mono (Nat.le_refl _) (fun _ hentry => absurd hentry List.not_mem_nil)
        (by simp [Move.answer?])

theorem Run.issued {session final : Session} {before moves : List (Move ε)}
    (run : Run session moves final) (hissued : Issued before session.cache) :
    Issued (before ++ moves) final.cache := by
  induction run generalizing before with
  | nil => rwa [List.append_nil]
  | cons step _ ih =>
      rw [List.append_cons]
      exact ih (step.issued hissued)

/-- The object of a lookup that missed and succeeds is the one made last. -/
theorem Step.identity_of_success {session next : Session} {move : Move ε}
    (step : Step session move next) {expression : String} {object : PathObject}
    (hsuccess : move.success? = some (expression, object)) :
    object.identity = session.cache.issued := by
  cases step with
  | @compiled cache compiling expression hcompiling outcome =>
      cases outcome with
      | error e => simp [Move.success?, finish] at hsuccess
      | ok path =>
          simp only [Move.success?, finish, issue, Option.some.injEq, Prod.mk.injEq] at hsuccess
          exact hsuccess.2 ▸ rfl
  | hit | miss | asked | cleared => simp [Move.success?] at hsuccess

/-- A lookup that misses and succeeds returns an object that no lookup before it returned. -/
theorem Run.identity_ne_of_success {maxSize : Nat} {earlier later : List (Move ε)} {move : Move ε}
    {final : Session} (run : Run (Session.fresh maxSize) (earlier ++ move :: later) final)
    {expression : String} {object : PathObject}
    (hsuccess : move.success? = some (expression, object)) {previous : Move ε}
    (hprevious : previous ∈ earlier) {other : String} {returned : PathObject}
    (hreturned : previous.answer? = some (other, .ok returned)) :
    returned.identity ≠ object.identity := by
  obtain ⟨middle, first, second⟩ := run.exists_middle
  have hissued : Issued earlier middle.cache := first.issued (issued_empty maxSize)
  cases second with
  | cons step _ =>
      have hlt := hissued.answers_lt previous hprevious other returned hreturned
      rw [step.identity_of_success hsuccess]
      exact Nat.ne_of_lt hlt

/-! ## The table after calls -/

/-- No compilation makes calls: whatever follows the call of a compilation is its end. -/
def Unnested (moves : List (Move ε)) : Prop :=
  moves.IsChain fun move next => move.isMiss → next.isCompiled

/-- The entries of a cache that had none and `clears` clearings, has cleared its table `overflows` times
since, and was given the objects `stored`. -/
structure Holds (maxSize clears overflows : Nat) (stored : List (String × PathObject))
    (cache : Cache) : Prop where
  maxSize_eq : cache.maxSize = maxSize
  clears_eq : cache.clears = clears + overflows
  size_le : cache.size ≤ maxSize + 1
  size_pos : stored ≠ [] → 0 < cache.size
  length_eq : (maxSize + 1) * overflows + cache.size = stored.length
  entries_eq : cache.entries = stored.drop ((maxSize + 1) * overflows)
  distinct : (cache.entries.map Prod.fst).Nodup

variable {maxSize clears overflows : Nat} {stored : List (String × PathObject)}
  {cache looked : Cache} {expression : String}

/-- A cache without entries has been given nothing since it last had none. -/
theorem holds_of_entries_eq_nil (hentries : cache.entries = []) :
    Holds cache.maxSize cache.clears 0 [] cache := by
  constructor <;> simp [size, hentries]

theorem Holds.look (hholds : Holds maxSize clears overflows stored cache)
    {found : Option PathObject} (hlook : cache.look expression = (found, looked)) :
    Holds maxSize clears overflows stored looked := by
  obtain ⟨hmax, hclears, hsize, hpos, hlength, hentries, hdistinct⟩ := hholds
  cases found with
  | some object =>
      obtain ⟨-, rfl⟩ := look_eq_some hlook
      exact ⟨hmax, hclears, hsize, hpos, hlength, hentries, hdistinct⟩
  | none =>
      obtain ⟨-, rfl⟩ := look_eq_none hlook
      exact ⟨hmax, hclears, hsize, hpos, hlength, hentries, hdistinct⟩

/-- A lookup that misses and succeeds goes to the end of the table, which starts anew when it holds one entry
more than its maximum. -/
theorem Holds.finish_ok (hholds : Holds maxSize clears overflows stored cache) (hroom : 0 < maxSize)
    (hnew : Entries.get? expression cache.entries = none) (path : Path) :
    ∃ overflows, Holds maxSize clears overflows (stored ++ [(expression, ⟨cache.issued, path⟩)])
      (cache.finish (ε := ε) expression (.ok path)).2 := by
  obtain ⟨hmax, hclears, hsize, -, hlength, hentries, hdistinct⟩ := hholds
  obtain ⟨hmaxNext, -, -⟩ := finish_frame (ε := ε) expression (.ok path) cache
  rcases finish_ok_cases (ε := ε) expression path cache with
    ⟨hzero, -, -⟩ | ⟨-, hfits, hnext, hclearsNext⟩ | ⟨-, hfull, hnext, hclearsNext⟩
  · omega
  · have hdistinctNext := Entries.nodup_keys_insert hdistinct expression ⟨cache.issued, path⟩
    rw [← hnext] at hdistinctNext
    rw [Entries.insert_eq_append hnew] at hnext
    refine ⟨overflows, hmaxNext.trans hmax, hclearsNext.trans hclears, ?_, ?_, ?_, ?_, ?_⟩
    · rw [size, hnext, List.length_append, List.length_singleton]
      exact Nat.succ_le_succ (hmax ▸ hfits)
    · intro
      rw [size, hnext, List.length_append, List.length_singleton]
      exact Nat.succ_pos _
    · rw [size, hnext, List.length_append, List.length_append, ← hlength]
      exact (Nat.add_assoc _ _ _).symm
    · have hle : (maxSize + 1) * overflows ≤ stored.length := hlength ▸ Nat.le_add_right _ _
      rw [hnext, List.drop_append_of_le_length hle, hentries]
    · exact hdistinctNext
  · -- What was stored before fills whole tables, of which none is left.
    have hexact : (maxSize + 1) * (overflows + 1) = stored.length := by
      rw [Nat.mul_add, Nat.mul_one]
      omega
    refine ⟨overflows + 1, hmaxNext.trans hmax, ?_, ?_, ?_, ?_, ?_, ?_⟩
    · rw [hclearsNext, hclears, Nat.add_assoc]
    · rw [size, hnext]
      exact Nat.le_add_left 1 maxSize
    · intro
      rw [size, hnext]
      exact Nat.one_pos
    · rw [size, hnext, hexact, List.length_append]
    · rw [hnext, hexact, List.drop_left]
    · simp [hnext]

/-- The calls of a compilation that makes none. -/
theorem Calls.eq_of_unnested {after : Cache} {inner rest : List (Move ε)}
    (nested : Calls looked inner after) {outcome : Except ε Path} {result : Except ε PathObject}
    (hunnested : Unnested (.miss expression :: (inner ++ .compiled expression outcome result :: rest))) :
    inner = [] ∧ after = looked := by
  cases nested with
  | nil => exact ⟨rfl, rfl⟩
  | hit | miss | asked | cleared =>
      have hcompiled := (List.isChain_cons_cons.mp hunnested).1 rfl
      cases hcompiled

/-- Calls whose compilations make none add to the table what misses and succeeds. -/
theorem Calls.holds {final : Cache} {moves : List (Move ε)} (calls : Calls cache moves final)
    (hunnested : Unnested moves) (hkept : Move.cleared ∉ moves) (hroom : 0 < maxSize)
    (hholds : Holds maxSize clears overflows stored cache) :
    ∃ overflows, Holds maxSize clears overflows (stored ++ successes moves) final := by
  induction calls generalizing stored overflows with
  | nil => exact ⟨overflows, by simpa [successes] using hholds⟩
  | hit compile hlook rest ih =>
      rw [resolve_of_look_some hlook] at ih
      exact ih hunnested.tail (List.not_mem_of_not_mem_cons hkept) (hholds.look hlook)
  | @miss cache looked final expression inner moves compile hlook nested _ _ ih =>
      -- The compilation makes no calls, so what it returns is stored where the lookup missed.
      obtain ⟨rfl, hafter⟩ := nested.eq_of_unnested hunnested
      rw [resolve_of_look_none hlook, hafter] at ih ⊢
      have hrest : Unnested moves := hunnested.tail.tail
      have hkeptRest : Move.cleared ∉ moves := fun hmem =>
        hkept (List.mem_cons_of_mem _ (List.mem_cons_of_mem _ hmem))
      have hlooked := hholds.look hlook
      generalize (compile expression looked).1 = outcome at ih ⊢
      cases outcome with
      | error e => exact ih hrest hkeptRest hlooked
      | ok path =>
          obtain ⟨hget, -⟩ := look_eq_none hlook
          rw [← entries_look expression cache, hlook] at hget
          obtain ⟨overflows, hnext⟩ := hlooked.finish_ok (ε := ε) hroom hget path
          obtain ⟨more, hfinal⟩ := ih hrest hkeptRest hnext
          refine ⟨more, ?_⟩
          rwa [List.append_assoc] at hfinal
  | asked expression rest ih =>
      exact ih hunnested.tail (List.not_mem_of_not_mem_cons hkept) hholds
  | cleared rest ih => exact absurd List.mem_cons_self hkept

/-! ## How much it holds -/

/-- Dividing what was stored among full tables and the last one. -/
theorem size_eq_of_length_eq {size total : Nat}
    (htotal : (maxSize + 1) * overflows + size = total) (hsize : size ≤ maxSize + 1)
    (hpos : 0 < total → 0 < size) :
    size = (if total = 0 then 0 else (total - 1) % (maxSize + 1) + 1) ∧
      overflows = (total - 1) / (maxSize + 1) := by
  by_cases hzero : total = 0
  · have hoverflows : (maxSize + 1) * overflows = 0 := by omega
    have hnone : overflows = 0 := (Nat.mul_eq_zero.mp hoverflows).resolve_left (Nat.succ_ne_zero _)
    subst hzero hnone
    simpa using htotal
  · have hrest : total - 1 = (size - 1) + (maxSize + 1) * overflows := by omega
    have hlt : size - 1 < maxSize + 1 := by omega
    rw [if_neg hzero, hrest, Nat.add_mul_mod_self_left, Nat.mod_eq_of_lt hlt,
      Nat.add_mul_div_left _ _ (Nat.succ_pos maxSize), Nat.div_eq_of_lt hlt]
    omega

/-- What a lookup comes to does not depend on its compilation exactly when there is an entry: only then is
the compilation not called. -/
theorem resolve_eq_resolve_iff {cache : Cache} {expression : String} :
    (∀ compile compile' : String → Cache → Except ε Path × Cache,
      cache.resolve compile expression = cache.resolve compile' expression) ↔
    expression ∈ cache.entries.map Prod.fst := by
  have hfst := look_fst expression cache
  rcases hlook : cache.look expression with ⟨_ | object, looked⟩
  · rw [hlook] at hfst
    refine ⟨fun hsame => ?_, fun hmem => absurd hmem (Entries.get?_eq_none_iff.mp hfst.symm)⟩
    have heq := hsame (fun _ cache => (.ok ⟨[]⟩, cache))
      (fun _ cache => (.ok ⟨[⟨.method "", false⟩]⟩, cache))
    rw [resolve_of_look_none hlook, resolve_of_look_none hlook] at heq
    simp [finish, issue] at heq
  · rw [hlook] at hfst
    refine ⟨fun _ => ?_, fun _ compile compile' => ?_⟩
    · exact List.mem_map_of_mem (Entries.mem_of_get? hfst.symm)
    · rw [resolve_of_look_some hlook, resolve_of_look_some hlook]

/-- An entry that is there is what a lookup answers with, without compiling. -/
theorem resolve_of_mem {cache : Cache} (hdistinct : (cache.entries.map Prod.fst).Nodup)
    {entry : String × PathObject} (hentry : entry ∈ cache.entries)
    (compile : String → Cache → Except ε Path × Cache) :
    (cache.resolve compile entry.1).1 = .ok entry.2 := by
  have hfst := look_fst entry.1 cache
  rw [Entries.get?_of_mem hdistinct hentry] at hfst
  rcases hlook : cache.look entry.1 with ⟨found, looked⟩
  rw [hlook] at hfst
  obtain rfl : found = some entry.2 := hfst
  rw [resolve_of_look_some hlook]

/-- A cache that was new or has just been cleared by a call has no entries. -/
theorem Run.entries_eq_nil {before : List (Move ε)} {start : Session}
    (run : Run (Session.fresh maxSize) before start)
    (hstart : before = [] ∨ before.getLast? = some .cleared) : start.cache.entries = [] := by
  rcases hstart with rfl | hlast
  · cases run
    rfl
  · obtain ⟨earlier, rfl⟩ := List.getLast?_eq_some_iff.mp hlast
    obtain ⟨middle, -, last⟩ := run.exists_middle
    cases last with
    | cons step rest =>
        cases step
        cases rest
        rfl

/-- After calls whose compilations make none, the table is the end of the list of lookups that missed and
succeeded since the last explicit clearing. Their number gives the size of the table and how often it was
cleared meanwhile. The next lookup calls its compilation unless it is for one of the entries, whose object it
then returns, and every lookup that misses and succeeds returns an object that was not returned before. -/
theorem contents_since_cleared {maxSize : Nat} (hroom : 0 < maxSize) {before after : List (Move ε)}
    {start final : Cache} (hbefore : Calls (empty maxSize) before start)
    (hstart : before = [] ∨ before.getLast? = some .cleared) (hafter : Calls start after final)
    (hunnested : Unnested after) (hkept : .cleared ∉ after) :
    let count := (successes after).length
    let last := (successes after).drop (count - final.size)
    final.size = (if count = 0 then 0 else (count - 1) % (maxSize + 1) + 1) ∧
      final.clears = start.clears + (count - 1) / (maxSize + 1) ∧
      final.entries = last ∧
      (∀ expression, (∀ compile compile' : String → Cache → Except ε Path × Cache,
          final.resolve compile expression = final.resolve compile' expression) ↔
        expression ∈ last.map Prod.fst) ∧
      (∀ entry ∈ last, ∀ compile : String → Cache → Except ε Path × Cache,
        (final.resolve compile entry.1).1 = .ok entry.2) ∧
      ∀ earlier move later, before ++ after = earlier ++ move :: later →
        ∀ expression object, move.success? = some (expression, object) →
        ∀ previous ∈ earlier, ∀ other returned, previous.answer? = some (other, .ok returned) →
          returned.identity ≠ object.identity := by
  intro count last
  have hrun := hbefore.run []
  have hempty : start.entries = [] := hrun.entries_eq_nil hstart
  have hmax : start.maxSize = maxSize := (hrun.accounted (accounted_fresh maxSize)).maxSize_eq
  obtain ⟨overflows, hholds⟩ := hafter.holds hunnested hkept hroom
    (hmax ▸ holds_of_entries_eq_nil hempty)
  rw [List.nil_append] at hholds
  have hentries : final.entries = last := by
    have hdropped : (maxSize + 1) * overflows = count - final.size := by
      have hlength := hholds.length_eq
      omega
    rw [hholds.entries_eq, hdropped]
  have hpos : 0 < count → 0 < final.size := fun hcount =>
    hholds.size_pos (List.ne_nil_of_length_pos hcount)
  obtain ⟨hsize, hoverflows⟩ := size_eq_of_length_eq hholds.length_eq hholds.size_le hpos
  refine ⟨hsize, hoverflows ▸ hholds.clears_eq, hentries, ?_, ?_, ?_⟩
  · intro expression
    rw [← hentries]
    exact resolve_eq_resolve_iff
  · intro entry hentry compile
    rw [← hentries] at hentry
    exact resolve_of_mem hholds.distinct hentry compile
  · intro earlier move later hmoves expression object hsuccess previous hprevious other returned
      hreturned
    have hwhole := (hbefore.append hafter).run []
    rw [hmoves] at hwhole
    exact hwhole.identity_ne_of_success hsuccess hprevious hreturned

/-- An instance with room for one entry: after a clearing, three lookups that succeed and one that fails leave
the third alone in the table. -/
theorem contents_since_cleared_of_three :
    let good : String → Cache → Except String Path × Cache := fun _ cache => (.ok ⟨[]⟩, cache)
    let bad : String → Cache → Except String Path × Cache := fun _ cache => (.error "failed", cache)
    let start := ((empty 1).resolve good "a").2.clear
    let two := ((start.resolve good "a").2.resolve good "b").2
    let final := ((two.resolve good "c").2.resolve bad "d").2
    final.size = 1 ∧ final.clears = start.clears + 1 ∧ final.entries = [("c", ⟨3, ⟨[]⟩⟩)] ∧
      (final.resolve bad "c").1 = .ok ⟨3, ⟨[]⟩⟩ := by
  intro good bad start two final
  let after : List (Move String) :=
    [.miss "a", .compiled "a" (.ok ⟨[]⟩) (.ok ⟨1, ⟨[]⟩⟩),
      .miss "b", .compiled "b" (.ok ⟨[]⟩) (.ok ⟨2, ⟨[]⟩⟩),
      .miss "c", .compiled "c" (.ok ⟨[]⟩) (.ok ⟨3, ⟨[]⟩⟩),
      .miss "d", .compiled "d" (.error "failed") (.error "failed")]
  have hbefore : Calls (empty 1) _ start := .miss good rfl (.nil _) (.cleared (.nil _))
  have hafter : Calls start after final :=
    .miss good rfl (.nil _) (.miss good rfl (.nil _) (.miss good rfl (.nil _)
      (.miss bad rfl (.nil _) (.nil _))))
  obtain ⟨hsize, hclears, hentries, -, hresolve, -⟩ :=
    contents_since_cleared Nat.one_pos hbefore (.inr rfl) hafter
      (by simp [after, Unnested, Move.isMiss, Move.isCompiled]) (by simp [after])
  have hthree : successes after = [("a", ⟨1, ⟨[]⟩⟩), ("b", ⟨2, ⟨[]⟩⟩), ("c", ⟨3, ⟨[]⟩⟩)] := rfl
  have hone : final.size = 1 := by simpa [hthree] using hsize
  rw [hone, hthree] at hentries hresolve
  rw [hthree] at hclears
  exact ⟨hone, hclears, hentries, hresolve ("c", ⟨3, ⟨[]⟩⟩) List.mem_cons_self bad⟩

end DocPath.Cache
