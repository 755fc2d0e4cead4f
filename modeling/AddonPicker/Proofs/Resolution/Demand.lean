import AddonPicker.Resolution.Catalogue

/-!
# Demands

A demand is a required dependency together with the pack whose version declares it. The queue of a
search, read from front to back, is one list of demands: those that are left of the choice under
way, then those of the choices that wait. `Search.Leads` says what a list of demands comes to,
without mention of where one choice ends and the next begins.

The order of demands is the order in which the search meets them, so this is also the list along
which backlinks are recorded and lookups are made.
-/

namespace AddonPicker

/-- A required dependency and the pack whose version declares it. -/
structure Demand where
  requirer : Pack
  dependency : Dependency

namespace Demand

/-- The key that is demanded. -/
def key (d : Demand) : PackKey :=
  .ofDependency d.requirer d.dependency

end Demand

namespace Version

/-- Recording what requires a version leaves its own requirements alone. -/
@[simp] theorem requiredDependencies_link (id : AddonId) (v : Version) :
    (v.link id).requiredDependencies = v.requiredDependencies := by
  rw [link]
  split <;> rfl

end Version

namespace Choice

/-- What the version of a choice demands, in the order of declaration. -/
def demands (c : Choice) : List Demand :=
  c.version.requiredDependencies.map (Demand.mk c.pack)

end Choice

namespace Discovery

@[simp] theorem key_link (id : AddonId) (d : Discovery) : (d.link id).key = d.key := rfl

@[simp] theorem pack_link (id : AddonId) (d : Discovery) :
    (d.link id).choice.pack = d.choice.pack := rfl

@[simp] theorem version_link (id : AddonId) (d : Discovery) :
    (d.link id).choice.version = d.choice.version.link id := rfl

@[simp] theorem demands_link (id : AddonId) (d : Discovery) :
    (d.link id).choice.demands = d.choice.demands := by
  simp [Choice.demands]

end Discovery

namespace Question

/-- The demand that a question is about. -/
def demand (q : Question) : Demand :=
  ⟨q.node.pack, q.dependency⟩

/-- The demands that come after the one in question. -/
def agenda (q : Question) : List Demand :=
  q.later.map (Demand.mk q.node.pack) ++ q.pending.flatMap Choice.demands

@[simp] theorem key_demand (q : Question) : q.demand.key = q.key := rfl

end Question

namespace Search

variable (scope : Scope)

/-- Whether nothing has to be asked about a key. -/
def knows (s : Search) (key : PackKey) : Bool :=
  s.hasFound key || s.isSettled scope key

/-- Pass a demand about which nothing has to be asked. The pack that demands a discovered key is
recorded with it. -/
def pass (d : Demand) (s : Search) : Search :=
  if s.hasFound d.key then s.link d.key d.requirer.addonId else s

/-- What a search that has a list of demands before it comes to. -/
inductive Leads : Search → List Demand → Progress → Prop
  | finished (s : Search) : Leads s [] (.finished s.closure)
  | passed {s : Search} {d : Demand} {ds : List Demand} {p : Progress}
      (known : s.knows scope d.key = true) (rest : Leads (s.pass d) ds p) : Leads s (d :: ds) p
  | asking (q : Question) (unknown : q.search.knows scope q.key = false)
      (served : scope.serves q.key.provider = true) :
      Leads q.search (q.demand :: q.agenda) (.asking q)
  | failed {s : Search} {d : Demand} (ds : List Demand) (unknown : s.knows scope d.key = false)
      (unserved : scope.serves d.key.provider = false) :
      Leads s (d :: ds) (.failed (noService scope d.key.provider))

variable {scope}

/-- The choice under way is read through before those that wait. -/
theorem leads_proceed_of_walk {pending : List Choice}
    (walked : ∀ s, Leads scope s (pending.flatMap Choice.demands) (walk scope pending s))
    (node : Choice) (later : List Dependency) (s : Search) :
    Leads scope s (later.map (Demand.mk node.pack) ++ pending.flatMap Choice.demands)
      (s.proceed scope node later pending) := by
  induction later generalizing s with
  | nil => exact walked s
  | cons d later ih =>
      have step := ih (s.pass ⟨node.pack, d⟩)
      by_cases found : s.hasFound (.ofDependency node.pack d) = true
      · have known : s.knows scope (.ofDependency node.pack d) = true := by
          rw [knows, found, Bool.true_or]
        have passed : s.pass ⟨node.pack, d⟩ =
            s.link (.ofDependency node.pack d) node.pack.addonId := if_pos found
        rw [passed] at step
        simp only [proceed, scan, found, if_true]
        exact .passed known (by rw [passed]; exact step)
      · have passed : s.pass ⟨node.pack, d⟩ = s := if_neg found
        rw [passed] at step
        by_cases settled : s.isSettled scope (.ofDependency node.pack d) = true
        · have known : s.knows scope (.ofDependency node.pack d) = true := by
            rw [knows, settled, Bool.or_true]
          simp only [proceed, scan, found, settled, if_true]
          exact .passed known (by rw [passed]; exact step)
        · have unknown : s.knows scope (.ofDependency node.pack d) = false := by
            rw [knows, Bool.eq_false_iff.mpr found, Bool.eq_false_iff.mpr settled, Bool.or_false]
          by_cases served : scope.serves (PackKey.ofDependency node.pack d).provider = true
          · simp only [proceed, scan, found, settled, served, if_true]
            exact .asking ⟨s, node, d, later, pending⟩ unknown served
          · simp only [proceed, scan, found, settled, served]
            exact .failed _ unknown (Bool.eq_false_iff.mpr served)

/-- Walking through whole choices meets their demands one after the other. -/
theorem leads_walk (pending : List Choice) (s : Search) :
    Leads scope s (pending.flatMap Choice.demands) (walk scope pending s) := by
  induction pending generalizing s with
  | nil => exact .finished s
  | cons node pending ih =>
      exact leads_proceed_of_walk ih node node.version.requiredDependencies s

/-- Going on with a choice meets the rest of its demands and then those of the choices after it. -/
theorem leads_proceed (node : Choice) (later : List Dependency) (pending : List Choice)
    (s : Search) :
    Leads scope s (later.map (Demand.mk node.pack) ++ pending.flatMap Choice.demands)
      (s.proceed scope node later pending) :=
  leads_proceed_of_walk (leads_walk pending) node later s

end Search

end AddonPicker
