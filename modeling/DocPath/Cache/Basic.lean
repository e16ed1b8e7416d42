import DocPath.Entries
import DocPath.Path.Compile
import DocPath.Path.Evaluate
import DocPath.Text.Quoted

/-!
# Cache of compiled expressions

A table from expressions to compiled paths. It is never evicted entry by entry: once it holds more than its
maximum, the next insertion clears it first. A maximum of zero stores nothing.

A lookup has two phases with the compilation between them, and the compilation may use the cache itself. A
compilation that fails leaves no entry and clears nothing.
-/

namespace DocPath

/-- A compiled path as an object: objects are told apart by their identity, not by their path. -/
structure PathObject where
  identity : Nat
  path : Path
  deriving DecidableEq

namespace Cache

/-- What a cache reports while it works. -/
inductive Event where
  | hit (expression : String)
  | miss (expression : String)
  | overflow (maxSize size : Nat)
  deriving DecidableEq

/-- The wording of each event. -/
def Event.message : Event → String
  | .hit expression => "path cache hit for " ++ Text.quoted expression
  | .miss expression => "path cache miss for " ++ Text.quoted expression
  | .overflow maxSize size =>
    "path cache exceeded " ++ toString maxSize ++ " entries, clearing " ++ toString size

/-- How much an event matters: a clearing is for debugging, a single lookup only for tracing. -/
def Event.level : Event → String
  | .hit _ | .miss _ => "TRACE"
  | .overflow _ _ => "DEBUG"

/-- The line that an event leaves in a log. -/
def Event.line (event : Event) : String := event.level ++ " " ++ event.message

end Cache

/-- The state of a cache. -/
structure Cache where
  maxSize : Nat
  entries : List (String × PathObject)
  /-- Lookups answered from the table. -/
  hits : Nat
  /-- Lookups that had to compile. -/
  misses : Nat
  /-- Clearings because of too many entries. -/
  clears : Nat
  /-- How many path objects have been made; the next one takes this identity. -/
  issued : Nat
  /-- The events so far, the latest first. -/
  events : List Cache.Event

namespace Cache

/-- The maximum of a cache for which none is given. -/
def defaultMaxSize : Nat := 200

/-- A cache without entries. -/
def empty (maxSize : Nat) : Cache := ⟨maxSize, [], 0, 0, 0, 0, []⟩

/-- The number of entries. -/
def size (cache : Cache) : Nat := cache.entries.length

/-- Whether an expression has an entry. -/
def contains (cache : Cache) (expression : String) : Bool :=
  Entries.contains expression cache.entries

/-- Drops all entries; the counters stay. -/
def clear (cache : Cache) : Cache := { cache with entries := [] }

/-- Notes an event. -/
def note (event : Event) (cache : Cache) : Cache := { cache with events := event :: cache.events }

/-- The first phase of a lookup: the entry of an expression, counted as a hit, or else a miss. -/
def look (expression : String) (cache : Cache) : Option PathObject × Cache :=
  match Entries.get? expression cache.entries with
  | some object => (some object, { cache with hits := cache.hits + 1 }.note (.hit expression))
  | none => (none, { cache with misses := cache.misses + 1 }.note (.miss expression))

/-- Makes a new object of a path. -/
def issue (path : Path) (cache : Cache) : PathObject × Cache :=
  (⟨cache.issued, path⟩, { cache with issued := cache.issued + 1 })

/-- Clears a table that holds more than its maximum. -/
def makeRoom (cache : Cache) : Cache :=
  if cache.maxSize < cache.size then
    { cache with entries := [], clears := cache.clears + 1 }.note (.overflow cache.maxSize cache.size)
  else cache

/-- The second phase of a lookup: stores the object that was compiled for an expression. -/
def store (expression : String) (object : PathObject) (cache : Cache) : Cache :=
  if cache.maxSize = 0 then cache
  else
    let roomy := cache.makeRoom
    { roomy with entries := Entries.insert expression object roomy.entries }

/-- The end of a lookup whose compilation came to `outcome`: a path becomes a new object, which is stored, and
an error leaves the cache as it is. -/
def finish {ε : Type} (expression : String) (outcome : Except ε Path) (cache : Cache) :
    Except ε PathObject × Cache :=
  match outcome with
  | .error e => (.error e, cache)
  | .ok path =>
    let (object, cache) := cache.issue path
    (.ok object, cache.store expression object)

/-- The object for an expression: its entry, or a new object of what `compile` gives. The compilation
starts from the cache after the first phase and leaves the cache for the second. -/
def resolve {ε : Type} (compile : String → Cache → Except ε Path × Cache) (expression : String)
    (cache : Cache) : Except ε PathObject × Cache :=
  match cache.look expression with
  | (some object, cache) => (.ok object, cache)
  | (none, cache) =>
    let (outcome, cache) := compile expression cache
    cache.finish expression outcome

/-- The object for an expression, compiled as a path expression when it has no entry. -/
def compileCached (expression : String) (cache : Cache) : Except Path.ParseError PathObject × Cache :=
  cache.resolve (fun e cache => (Path.parse e, cache)) expression

/-- The function from roots to outcomes that an expression stands for. -/
def accessor (hosts : Hosts) (expression : String) (cache : Cache) :
    Except Path.ParseError (Value → Consult Path.ApplyError (Option Value)) × Cache :=
  let (object, cache) := cache.compileCached expression
  (object.map fun object => object.path.apply hosts, cache)

/-- A one-line description of a cache's size and counters. -/
def describe (cache : Cache) : String :=
  "PathCache \x7b max_size: " ++ toString cache.maxSize ++ ", len: " ++ toString cache.size ++
    ", stats: CacheStats \x7b hits: " ++ toString cache.hits ++ ", misses: " ++
    toString cache.misses ++ ", clears: " ++ toString cache.clears ++ " \x7d \x7d"

end Cache

end DocPath
