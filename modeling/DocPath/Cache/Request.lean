import DocPath.Cache.Basic

/-!
# Requests to a cache

A request as data. The compilation behind a lookup is described by the requests that it makes itself, to any
depth, and by its outcome; so a list of requests is a whole run of a cache.
-/

namespace DocPath.Cache

/-- One use of a cache. -/
inductive Request (ε : Type) where
  /-- Looks an expression up; on a miss, makes the requests `during` and compiles with the outcome
  `outcome`. -/
  | resolve (expression : String) (during : List (Request ε)) (outcome : Except ε Path)
  /-- Asks whether an expression has an entry. -/
  | contains (expression : String)
  /-- Drops all entries. -/
  | clear

/-- What a request is answered. -/
inductive Reply (ε : Type) where
  | resolved (result : Except ε PathObject)
  | contained (answer : Bool)
  | cleared

variable {ε : Type}

mutual

/-- Carries out one request. -/
def Request.run : Request ε → Cache → Reply ε × Cache
  | .resolve expression during outcome, cache =>
    let (result, cache) :=
      cache.resolve (fun _ cache => (outcome, Request.runAll during cache)) expression
    (.resolved result, cache)
  | .contains expression, cache => (.contained (cache.contains expression), cache)
  | .clear, cache => (.cleared, cache.clear)

/-- Carries out requests one after the other, for their effect on the cache. -/
def Request.runAll : List (Request ε) → Cache → Cache
  | [], cache => cache
  | request :: rest, cache => Request.runAll rest (request.run cache).2

end

/-- The request to compile a path expression, with its errors taken into `ε`. -/
def Request.compile (ofError : Path.ParseError → ε) (expression : String) : Request ε :=
  .resolve expression [] ((Path.parse expression).mapError ofError)

end DocPath.Cache
