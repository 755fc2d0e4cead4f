import AddonPicker.Catalog.Closure
import AddonPicker.Naming

/-!
# The search for dependencies

The closure of a selection under required dependencies, as a machine that stops whenever it has to
ask a catalogue. Work is taken from a queue that starts with the selected choices; every choice
that is discovered joins the queue, so dependencies come in the order of their distance from the
selection.

A dependency is a key: a provider and an id. It is asked for only if nothing is known about it
yet, that is, if it is neither discovered, nor selected, nor known to have no fitting version, nor
installed. Each key is therefore asked for at most once.
-/

namespace AddonPicker

/-- What identifies a pack across catalogues. -/
structure PackKey where
  provider : Provider
  addonId : AddonId
deriving DecidableEq, Repr, Inhabited

namespace PackKey

/-- The key of a pack. -/
def ofPack (p : Pack) : PackKey :=
  ⟨p.provider, p.addonId⟩

/-- The key that a dependency of a pack stands for: dependencies stay with the provider. -/
def ofDependency (p : Pack) (d : Dependency) : PackKey :=
  ⟨p.provider, d.addonId⟩

end PackKey

/-- What a search has to know about its surroundings. -/
structure Scope where
  isInstalled : AddonId → Bool
  serves : Provider → Bool
  naming : Naming
  /-- The reference of problems that faults of records point to. -/
  reference : String := ""

/-- A discovered choice, under the key it was asked for with. -/
structure Discovery where
  key : PackKey
  choice : Choice
deriving Repr

namespace Discovery

/-- Record one more pack that requires a discovered version. -/
def link (id : AddonId) (d : Discovery) : Discovery :=
  { d with choice := { d.choice with version := d.choice.version.link id } }

end Discovery

/-- What a search knows. -/
structure Search where
  /-- The keys of the selected packs. -/
  selected : List PackKey
  /-- The discovered choices in the order of discovery. -/
  found : List Discovery := []
  /-- The keys without a fitting version. -/
  unavailable : List PackKey := []
  warnings : List String := []
deriving Repr

/-- A search that has stopped to ask for a dependency of a choice. -/
structure Question where
  search : Search
  /-- The choice whose dependencies are being looked at. -/
  node : Choice
  dependency : Dependency
  /-- The dependencies of that choice that come after. -/
  later : List Dependency
  /-- The choices that come after. -/
  pending : List Choice
deriving Repr

/-- How far a search has come. -/
inductive Progress
  | finished (closure : Closure)
  | failed (fault : Fault)
  | asking (question : Question)
deriving Repr

namespace Search

variable (scope : Scope)

/-- The key of a discovery, if the search has made it. -/
def hasFound (s : Search) (key : PackKey) : Bool :=
  s.found.any (·.key == key)

/-- Record one more pack that requires a discovered key. -/
def link (key : PackKey) (id : AddonId) (s : Search) : Search :=
  { s with found := s.found.map fun d => if d.key = key then d.link id else d }

/-- Whether a dependency needs no choice of its own. -/
def isSettled (s : Search) (key : PackKey) : Bool :=
  s.selected.contains key || s.unavailable.contains key || scope.isInstalled key.addonId

/-- What a search reports in the end. -/
def closure (s : Search) : Closure :=
  ⟨s.found.map (·.choice), s.warnings⟩

/-- The fault of a provider that no service is there for. -/
def noService (p : Provider) : Fault :=
  match scope.naming.readable p with
  | .ok name => .noService name.text
  | .error f => f

/-- How a look at some dependencies of one choice ends. -/
inductive Scan
  | through (search : Search)
  | failed (fault : Fault)
  | unknown (search : Search) (dependency : Dependency) (later : List Dependency)

/-- Look at the dependencies of a choice up to the first one that has to be asked for. -/
def scan (node : Choice) : List Dependency → Search → Scan
  | [], s => .through s
  | d :: later, s =>
    let key := PackKey.ofDependency node.pack d
    if s.hasFound key then scan node later (s.link key node.pack.addonId)
    else if s.isSettled scope key then scan node later s
    else if scope.serves key.provider then .unknown s d later
    else .failed (noService scope key.provider)

/-- Look at whole choices, one after the other. -/
def walk : List Choice → Search → Progress
  | [], s => .finished s.closure
  | node :: pending, s =>
    match s.scan scope node node.version.requiredDependencies with
    | .through s => walk pending s
    | .failed f => .failed f
    | .unknown s d later => .asking ⟨s, node, d, later, pending⟩

/-- Go on with the remaining dependencies of a choice, then with the choices after it. -/
def proceed (node : Choice) (later : List Dependency) (pending : List Choice) (s : Search) :
    Progress :=
  match s.scan scope node later with
  | .through s => walk scope pending s
  | .failed f => .failed f
  | .unknown s d later => .asking ⟨s, node, d, later, pending⟩

/-- Begin with a selection. -/
def start (selected : List Choice) : Progress :=
  walk scope selected { selected := selected.map fun c => PackKey.ofPack c.pack }

end Search

namespace Question

variable (scope : Scope)

/-- The key that is asked for. -/
def key (q : Question) : PackKey :=
  .ofDependency q.node.pack q.dependency

/-- The warning about a pack without a fitting version. -/
def warning (q : Question) (pack? : Option Pack) : Except Fault String := do
  let pack ← match pack? with
    | some p => .ok p
    | none => .error (.lacksAttribute Value.null.typeName Pack.nameField.name)
  let catalogue ← scope.naming.readable q.key.provider
  return "No compatible version of " ++ pack.name ++ " found for " ++ q.node.pack.name ++ " on " ++
    catalogue.text

/-- Go on knowing that no version fits. -/
def withoutVersion (q : Question) (pack? : Option Pack) : Progress :=
  match q.warning scope pack? with
  | .error f => .failed f
  | .ok w =>
    let s : Search := { q.search with
      unavailable := q.search.unavailable ++ [q.key]
      warnings := q.search.warnings ++ [w] }
    s.proceed scope q.node q.later q.pending

/-- Go on with a discovered version, which is the catalogue's. The search takes a copy of its own,
required by the choice that declared it. -/
def withVersion (q : Question) (pack? : Option Pack) (version : Held) : Progress :=
  match pack? with
  | none => .failed (Choice.withoutPack scope.reference)
  | some pack =>
    let choice : Choice := { version.detached.link q.node.pack.addonId with pack }
    let s : Search := { q.search with found := q.search.found ++ [⟨q.key, choice⟩] }
    s.proceed scope q.node q.later (q.pending ++ [choice])

/-- Go on with the answers of a catalogue: the pack, and the version that fits. -/
def answer (q : Question) (pack? : Option Pack) (version? : Option Held) : Progress :=
  match version? with
  | none => q.withoutVersion scope pack?
  | some version => q.withVersion scope pack? version

end Question

end AddonPicker
