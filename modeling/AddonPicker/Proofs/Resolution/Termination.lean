import AddonPicker.Proofs.Resolution.Closure
import AddonPicker.Proofs.Resolution.Conduct
import AddonPicker.Proofs.Resolution.Ledger
import AddonPicker.Proofs.Resolution.Reply
import Mathlib.Data.Finset.Card
import Mathlib.Data.Prod.Lex

/-!
# Searches end

The queue of a search grows while choices are taken from it. It grows only by a choice whose key was
not discovered before, so a search takes no more choices from its queue than were selected and than
there are keys for which it was answered with a version.

How many keys are asked for has no such bound. Between two discoveries every question leaves fewer
demands ahead, so what goes down with each question is a pair: the keys that are left to discover,
and then the demands ahead.

Catalogues may change here from one question to the next. Nothing is assumed of how packs require
each other.
-/

namespace AddonPicker

namespace Search

variable (scope : Scope)

/-- The choices that a walk takes from the queue before it stops. -/
def visits : List Choice → Search → List Choice
  | [], _ => []
  | node :: pending, s =>
    node :: match s.scan scope node node.version.requiredDependencies with
      | .through s => visits pending s
      | _ => []

/-- The choices that are taken from the queue once the choice under way is read through. -/
def visitsFrom (node : Choice) (later : List Dependency) (pending : List Choice) (s : Search) :
    List Choice :=
  match s.scan scope node later with
  | .through s => s.visits scope pending
  | _ => []

end Search

namespace Catalogue

variable (c : Catalogue) (scope : Scope)

/-- What a search knows after the reply to a question, and the choices that wait then. -/
def learned (q : Question) : Except Fault (Search × List Choice) :=
  match c.pack q.key.provider q.key.addonId with
  | .error f => .error f.ofLookup
  | .ok pack? =>
    match c.version q.key.provider q.dependency with
    | .error f => .error f.ofLookup
    | .ok none => (q.warning scope pack?).map fun w => (q.declining w, q.pending)
    | .ok (some version) =>
      match pack? with
      | none => .error (Choice.withoutPack scope.reference)
      | some pack =>
        let choice := q.offered pack version
        .ok (q.discovering choice, q.pending ++ [choice])

/-- The choices that a search takes from its queue between a question and the next. -/
def visits (q : Question) : List Choice :=
  match c.learned scope q with
  | .ok (s, pending) => s.visitsFrom scope q.node q.later pending
  | .error _ => []

/-- Whether both lookups of a question are answered, and that of the version with one. -/
def yields (q : Question) : Bool :=
  match c.pack q.key.provider q.key.addonId, c.version q.key.provider q.dependency with
  | .ok _, .ok (some _) => true
  | _, _ => false

/-- The key of a question, if it is answered with a version. -/
def yielded (q : Question) : List PackKey :=
  if c.yields q then [q.key] else []

variable {c scope}

/-- A search goes on with what it learned. -/
theorem reply_eq (q : Question) :
    c.reply scope q =
      match c.learned scope q with
      | .ok (s, pending) => s.proceed scope q.node q.later pending
      | .error f => .failed f := by
  rw [reply, learned]
  cases c.pack q.key.provider q.key.addonId with
  | error f => rfl
  | ok pack? =>
      cases c.version q.key.provider q.dependency with
      | error f => rfl
      | ok version? =>
          cases version? with
          | none =>
              show q.withoutVersion scope pack? = match
                (q.warning scope pack?).map fun w => (q.declining w, q.pending) with
                | .ok (s, pending) => s.proceed scope q.node q.later pending
                | .error f => .failed f
              rw [Question.withoutVersion]
              cases q.warning scope pack? <;> rfl
          | some version => cases pack? <;> rfl

/-- What a search learns is that no version fits, or it is a choice that joins its queue. -/
theorem learned_cases {q : Question} {s : Search} {pending : List Choice}
    (learned : c.learned scope q = .ok (s, pending)) :
    (c.yielded q = [] ∧ ∃ w, s = q.declining w ∧ pending = q.pending) ∨
      (c.yielded q = [q.key] ∧
        ∃ choice, s = q.discovering choice ∧ pending = q.pending ++ [choice]) := by
  rw [Catalogue.learned] at learned
  cases packed : c.pack q.key.provider q.key.addonId with
  | error f =>
      rw [packed] at learned
      cases learned
  | ok pack? =>
      cases answer : c.version q.key.provider q.dependency with
      | error f =>
          rw [packed, answer] at learned
          cases learned
      | ok version? =>
          simp only [packed, answer] at learned
          cases version? with
          | none =>
              cases worded : q.warning scope pack? with
              | error f =>
                  rw [worded] at learned
                  cases learned
              | ok w =>
                  rw [worded] at learned
                  cases learned
                  refine .inl ⟨?_, w, rfl, rfl⟩
                  rw [yielded, yields, packed, answer]
                  rfl
          | some version =>
              cases pack? with
              | none => cases learned
              | some pack =>
                  cases learned
                  refine .inr ⟨?_, _, rfl, rfl⟩
                  rw [yielded, yields, packed, answer]
                  rfl

/-- Only the key of the question is answered with a version. -/
theorem mem_yielded {q : Question} {key : PackKey} (among : key ∈ c.yielded q) :
    key = q.key ∧ ∃ v, c.version q.key.provider q.dependency = .ok (some v) := by
  rw [yielded] at among
  split at among
  · rename_i yields
    refine ⟨List.mem_singleton.mp among, ?_⟩
    rw [Catalogue.yields] at yields
    split at yields
    · exact ⟨_, ‹_›⟩
    · cases yields
  · cases among

theorem nodup_append_yielded {keys : List PackKey} {q : Question} (distinct : keys.Nodup)
    (new : q.key ∉ keys) : (keys ++ c.yielded q).Nodup := by
  rw [yielded]
  split
  · rw [← List.concat_eq_append]
    exact distinct.concat new
  · rwa [List.append_nil]

end Catalogue

/-- A search that has stopped leaves so much of its queue. -/
def Progress.Leaves (rest : List Choice) : Progress → Prop
  | .finished _ => rest = []
  | .failed _ => True
  | .asking q => q.pending = rest

namespace Search

theorem visits_walk (scope : Scope) (pending : List Choice) (s : Search) :
    ∃ rest, s.visits scope pending ++ rest = pending ∧ (walk scope pending s).Leaves rest := by
  induction pending generalizing s with
  | nil => exact ⟨[], rfl, rfl⟩
  | cons node pending ih =>
      rw [visits, walk]
      cases s.scan scope node node.version.requiredDependencies with
      | through s =>
          obtain ⟨rest, parted, leaves⟩ := ih s
          exact ⟨rest, congrArg (node :: ·) parted, leaves⟩
      | failed f => exact ⟨pending, rfl, trivial⟩
      | unknown s d later => exact ⟨pending, rfl, rfl⟩

theorem visitsFrom_proceed (scope : Scope) (node : Choice) (later : List Dependency)
    (pending : List Choice) (s : Search) :
    ∃ rest, s.visitsFrom scope node later pending ++ rest = pending ∧
      (s.proceed scope node later pending).Leaves rest := by
  rw [visitsFrom, proceed]
  cases s.scan scope node later with
  | through s => exact visits_walk scope pending s
  | failed f => exact ⟨pending, rfl, trivial⟩
  | unknown s d later => exact ⟨pending, rfl, rfl⟩

variable {scope : Scope}

/-- Passing a demand leaves the packs alone that were discovered. -/
theorem packs_found_pass (d : Demand) (s : Search) :
    (s.pass d).found.map (·.choice.pack) = s.found.map (·.choice.pack) := by
  have same (e : Discovery) :
      (if e.key = d.key then e.link d.requirer.addonId else e).choice.pack = e.choice.pack := by
    split <;> rfl
  simp [found_pass, Function.comp_def, same]

/-- Up to the next question nothing is discovered, and demands are only passed. -/
theorem Leads.of_asking {s : Search} {ds : List Demand} {p : Progress} {q : Question}
    (leads : Leads scope s ds p) (asking : p = .asking q) :
    q.search.found.map Discovery.key = s.found.map Discovery.key ∧
      q.search.found.map (·.choice.pack) = s.found.map (·.choice.pack) ∧
      q.search.knows scope q.key = false ∧ q.agenda.length < ds.length := by
  induction leads with
  | finished => cases asking
  | failed => cases asking
  | passed known rest ih =>
      obtain ⟨keys, packs, unknown, fewer⟩ := ih asking
      rw [keys_found_pass] at keys
      rw [packs_found_pass] at packs
      exact ⟨keys, packs, unknown, Nat.lt_succ_of_lt fewer⟩
  | asking q' unknown served =>
      cases asking
      exact ⟨rfl, rfl, unknown, Nat.lt_succ_self _⟩

/-- Up to its end a search discovers nothing more. -/
theorem Leads.of_finished {s : Search} {ds : List Demand} {p : Progress} {closure : Closure}
    (leads : Leads scope s ds p) (finished : p = .finished closure) :
    closure.dependencies.map Choice.pack = s.found.map (·.choice.pack) := by
  induction leads with
  | finished s =>
      cases finished
      exact List.map_map
  | failed => cases finished
  | passed known rest ih => rw [ih finished, packs_found_pass]
  | asking => cases finished

/-- A search whose queue held the selected choices first and then those that were discovered under
some keys. Some of them were taken, and the others wait. -/
structure Queued (selected : List Choice) (keys : List PackKey) (taken pending : List Choice)
    (s : Search) : Prop where
  order : (taken ++ pending).map Choice.pack =
    selected.map Choice.pack ++ s.found.map (·.choice.pack)
  found : s.found.map Discovery.key = keys

namespace Queued

variable {selected taken pending : List Choice} {keys : List PackKey} {s : Search}

/-- What was taken and what waits are the selected choices and one for each key. -/
theorem length_eq (h : s.Queued selected keys taken pending) :
    (taken ++ pending).length = selected.length + keys.length := by
  have length := congrArg List.length h.order
  simpa [← h.found] using length

/-- A choice that is discovered comes last in the queue. -/
theorem discovering {q : Question} (h : q.search.Queued selected keys taken q.pending)
    (choice : Choice) :
    (q.discovering choice).Queued selected (keys ++ [q.key]) taken (q.pending ++ [choice]) := by
  have found : (q.discovering choice).found = q.search.found ++ [⟨q.key, choice⟩] := rfl
  constructor
  · rw [found, ← List.append_assoc, List.map_append, h.order, List.map_append, List.append_assoc]
    rfl
  · rw [found, List.map_append, h.found]
    rfl

end Queued

end Search

namespace Progress

variable {scope : Scope} {selected taken visited pending rest : List Choice}
variable {keys : List PackKey}

/-- A search that took some choices from its queue: there are no more of them than were selected and
than there are keys that were answered with a version, all of them different. The other choices wait
for what the search asks for. -/
def Queued (selected : List Choice) (keys : List PackKey) (taken : List Choice) (p : Progress) :
    Prop :=
  keys.Nodup ∧ taken.length ≤ selected.length + keys.length ∧
    match p with
    | .finished closure =>
      taken.map Choice.pack = (selected ++ closure.dependencies).map Choice.pack
    | .failed _ => True
    | .asking q => q.search.Queued selected keys taken q.pending ∧ q.key ∉ keys

/-- Choices are taken one after the other, as far as the search comes. -/
theorem queued_of_leads {s : Search} {ds : List Demand} {p : Progress}
    (h : s.Queued selected keys taken pending) (distinct : keys.Nodup)
    (leads : Search.Leads scope s ds p) (parted : visited ++ rest = pending)
    (leaves : p.Leaves rest) : p.Queued selected keys (taken ++ visited) := by
  subst parted
  have bound : (taken ++ visited).length ≤ selected.length + keys.length := by
    rw [← h.length_eq]
    simp
  have order := h.order
  rw [← List.append_assoc] at order
  refine ⟨distinct, bound, ?_⟩
  cases p with
  | failed f => trivial
  | finished closure =>
      obtain rfl : rest = [] := leaves
      rw [List.append_nil] at order
      show (taken ++ visited).map Choice.pack = _
      rw [order, List.map_append, leads.of_finished rfl]
  | asking q =>
      obtain rfl : q.pending = rest := leaves
      obtain ⟨found, packs, unknown, -⟩ := leads.of_asking rfl
      rw [h.found] at found
      refine ⟨⟨order.trans (by rw [packs]), found⟩, fun past => ?_⟩
      rw [← found, ← Search.hasFound_iff] at past
      rw [Search.knows, past] at unknown
      cases unknown

theorem queued_start (scope : Scope) (selected : List Choice) :
    (Search.start scope selected).Queued selected [] (Search.visits scope selected
      { selected := selected.map fun c => PackKey.ofPack c.pack }) := by
  obtain ⟨rest, parted, leaves⟩ := Search.visits_walk scope selected
    { selected := selected.map fun c => PackKey.ofPack c.pack }
  rw [← List.nil_append (Search.visits ..)]
  exact queued_of_leads ⟨(List.append_nil _).symm, rfl⟩ List.nodup_nil
    (Search.leads_walk selected _) parted leaves

variable {c : Catalogue} {q : Question}

/-- With every reply the choices are taken that come next. -/
theorem Queued.reply (h : (asking q).Queued selected keys taken) :
    (c.reply scope q).Queued selected (keys ++ c.yielded q) (taken ++ c.visits scope q) := by
  obtain ⟨distinct, bound, queued, new⟩ := h
  have distinct' := Catalogue.nodup_append_yielded (c := c) distinct new
  rw [Catalogue.reply_eq, Catalogue.visits]
  cases learned : c.learned scope q with
  | error f =>
      refine ⟨distinct', ?_, trivial⟩
      rw [List.append_nil, List.length_append]
      omega
  | ok next =>
      obtain ⟨s, pending⟩ := next
      obtain ⟨rest, parted, leaves⟩ :=
        Search.visitsFrom_proceed scope q.node q.later pending s
      refine queued_of_leads ?_ distinct' (Search.leads_proceed q.node q.later pending s) parted
        leaves
      rcases Catalogue.learned_cases learned with ⟨none_, w, rfl, rfl⟩ | ⟨one, choice, rfl, rfl⟩
      · rw [none_, List.append_nil]
        exact ⟨queued.order, queued.found⟩
      · rw [one]
        exact queued.discovering choice

end Progress

/-- There are no more different keys than room for them. -/
theorem PackKey.length_le_card {keys : List PackKey} {room : Finset PackKey}
    (distinct : keys.Nodup) (few : ∀ key ∈ keys, key ∈ room) : keys.length ≤ room.card := by
  rw [← List.toFinset_card_of_nodup distinct]
  exact Finset.card_le_card fun key among => few key (List.mem_toFinset.mp among)

/-- What is left to a search that has stopped to ask: the keys that it may still discover, and the
demands ahead. -/
def Question.left (room : Finset PackKey) (q : Question) : ℕ ×ₗ ℕ :=
  toLex (room.card - q.search.found.length, q.agenda.length)

/-- Every question leaves less to be done. -/
theorem Question.left_lt_of_reply {c : Catalogue} {scope : Scope} {selected taken : List Choice}
    {keys : List PackKey} {room : Finset PackKey} {q q' : Question}
    (h : (Progress.asking q).Queued selected keys taken)
    (few : ∀ key ∈ keys ++ c.yielded q, key ∈ room) (next : c.reply scope q = .asking q') :
    q'.left room < q.left room := by
  obtain ⟨distinct, -, queued, new⟩ := h
  have fits := PackKey.length_le_card (Catalogue.nodup_append_yielded distinct new) few
  have known : keys.length = q.search.found.length := by rw [← queued.found, List.length_map]
  rw [Catalogue.reply_eq] at next
  cases learned : c.learned scope q with
  | error f =>
      rw [learned] at next
      cases next
  | ok after =>
      obtain ⟨s, pending⟩ := after
      rw [learned] at next
      obtain ⟨found, -, -, fewer⟩ :=
        (Search.leads_proceed q.node q.later pending s).of_asking next
      have found := congrArg List.length found
      rw [List.length_map, List.length_map] at found
      rw [left, left, Prod.Lex.lt_iff, ofLex_toLex, ofLex_toLex]
      rcases Catalogue.learned_cases learned with ⟨none_, w, rfl, rfl⟩ | ⟨one, choice, rfl, rfl⟩
      · -- The key is unavailable: its demand is done with, and nothing more is discovered.
        refine .inr ⟨?_, fewer⟩
        rw [found]
        rfl
      · -- The key is discovered: whatever the choice demands, there is one key less to discover.
        refine .inl ?_
        have more : (q.discovering choice).found.length = q.search.found.length + 1 :=
          List.length_append
        rw [more] at found
        rw [one, List.length_append, List.length_singleton, known] at fits
        show room.card - q'.search.found.length < room.card - q.search.found.length
        omega

namespace Search

variable (cs : Nat → Catalogue) (scope : Scope) (selected : List Choice)

/-- How far a search has come when so many questions are replied to, each by the catalogues of its
turn. -/
def course : Nat → Progress
  | 0 => start scope selected
  | n + 1 =>
    match course n with
    | .asking q => (cs n).reply scope q
    | p => p

/-- The choices that the search has taken from its queue by then. -/
def taken : Nat → List Choice
  | 0 => visits scope selected { selected := selected.map fun c => PackKey.ofPack c.pack }
  | n + 1 => taken n ++
    match course cs scope selected n with
    | .asking q => (cs n).visits scope q
    | _ => []

/-- The keys for which the search was answered with a version by then. -/
def yielded : Nat → List PackKey
  | 0 => []
  | n + 1 => yielded n ++
    match course cs scope selected n with
    | .asking q => (cs n).yielded q
    | _ => []

variable {cs scope selected} {room : Finset PackKey}

/-- A search that has come to an end goes on no more. -/
theorem course_add_of_ended {n : Nat} (ended : ∀ q, course cs scope selected n ≠ .asking q)
    (more : Nat) :
    course cs scope selected (n + more) = course cs scope selected n ∧
      yielded cs scope selected (n + more) = yielded cs scope selected n := by
  induction more with
  | zero => exact ⟨rfl, rfl⟩
  | succ more ih =>
      rw [← Nat.add_assoc, course, yielded, ih.1, ih.2]
      cases last : course cs scope selected n with
      | asking q => exact absurd last (ended q)
      | finished closure => exact ⟨rfl, List.append_nil _⟩
      | failed f => exact ⟨rfl, List.append_nil _⟩

theorem yielded_subset_add (m more : Nat) :
    yielded cs scope selected m ⊆ yielded cs scope selected (m + more) := by
  induction more with
  | zero => exact List.Subset.refl _
  | succ more ih =>
      rw [← Nat.add_assoc, yielded]
      exact List.subset_append_of_subset_left _ ih

/-- What was yielded at the end is all that is ever yielded. -/
theorem yielded_subset_of_ended {n : Nat} (ended : ∀ q, course cs scope selected n ≠ .asking q)
    (m : Nat) : yielded cs scope selected m ⊆ yielded cs scope selected n := by
  rw [← (course_add_of_ended ended m).2, Nat.add_comm]
  exact yielded_subset_add m n

theorem course_succ_of_asking {n : Nat} {q : Question}
    (asking : course cs scope selected n = .asking q) :
    course cs scope selected (n + 1) = (cs n).reply scope q := by
  rw [course, asking]

theorem yielded_succ_of_asking {n : Nat} {q : Question}
    (asking : course cs scope selected n = .asking q) :
    yielded cs scope selected (n + 1) = yielded cs scope selected n ++ (cs n).yielded q := by
  rw [yielded, asking]

/-- However far a search has come, its queue held the selected choices first and then the discovered
ones. -/
theorem queued_course (cs : Nat → Catalogue) (scope : Scope) (selected : List Choice) (n : Nat) :
    (course cs scope selected n).Queued selected (yielded cs scope selected n)
      (taken cs scope selected n) := by
  induction n with
  | zero => exact Progress.queued_start scope selected
  | succ n ih =>
      rw [course, taken, yielded]
      cases asked : course cs scope selected n with
      | asking q =>
          rw [asked] at ih
          exact ih.reply
      | finished closure =>
          rw [asked] at ih
          rw [List.append_nil, List.append_nil]
          exact ih
      | failed f =>
          rw [asked] at ih
          rw [List.append_nil, List.append_nil]
          exact ih

/-- From each question on a search comes to an end, if there are only so many keys to discover. -/
theorem exists_ended_of_asking (few : ∀ n, ∀ key ∈ yielded cs scope selected n, key ∈ room)
    {n : Nat} {q : Question} (asking : course cs scope selected n = .asking q) :
    ∃ m, ∀ q', course cs scope selected m ≠ .asking q' := by
  induction h : q.left room using WellFoundedLT.induction generalizing n q with
  | _ left ih =>
      have after := course_succ_of_asking asking
      cases next : (cs n).reply scope q with
      | asking q' =>
          have queued := queued_course cs scope selected n
          rw [asking] at queued
          have fewNext := few (n + 1)
          rw [yielded_succ_of_asking asking] at fewNext
          have less := Question.left_lt_of_reply queued fewNext next
          exact ih _ (h ▸ less) (after.trans next) rfl
      | finished closure =>
          exact ⟨n + 1, fun q' again => nomatch (after.trans next).symm.trans again⟩
      | failed f => exact ⟨n + 1, fun q' again => nomatch (after.trans next).symm.trans again⟩

theorem exists_ended (few : ∀ n, ∀ key ∈ yielded cs scope selected n, key ∈ room) :
    ∃ n, ∀ q, course cs scope selected n ≠ .asking q := by
  cases first : course cs scope selected 0 with
  | asking q => exact exists_ended_of_asking few first
  | finished closure => exact ⟨0, fun q again => nomatch first.symm.trans again⟩
  | failed f => exact ⟨0, fun q again => nomatch first.symm.trans again⟩

end Search

namespace Inquiry

variable (cs : Nat → Catalogue) (scope : Scope) (selected : List Choice)

/-- An inquiry when so many questions are answered, each by the catalogues of its turn. -/
def course : Nat → Inquiry
  | 0 => begin scope selected {}
  | n + 1 => (cs n).attend scope ((cs n).attend scope (course n))

/-- An inquiry is where its search is. -/
theorem course_eq (n : Nat) :
    course cs scope selected n = .ofProgress (Search.course cs scope selected n) := by
  induction n with
  | zero => rfl
  | succ n ih =>
      rw [course, ih, Search.course]
      cases Search.course cs scope selected n with
      | asking q => exact (cs n).attend_attend_asking scope q
      | finished closure => rfl
      | failed f => rfl

variable {cs scope selected} {room : Finset PackKey}

theorem exists_ended (few : ∀ n, ∀ key ∈ Search.yielded cs scope selected n, key ∈ room) :
    ∃ n outcome, course cs scope selected n = .ofOutcome outcome := by
  obtain ⟨n, ended⟩ := Search.exists_ended few
  have stands := course_eq cs scope selected n
  cases last : Search.course cs scope selected n with
  | asking q => exact absurd last (ended q)
  | finished closure => exact ⟨n, .ok closure, stands.trans (congrArg ofProgress last)⟩
  | failed f => exact ⟨n, .error f, stands.trans (congrArg ofProgress last)⟩

/-- An inquiry ends when there are only so many keys that its catalogues ever have a version for,
whatever demands what and whatever else they answer. At each moment it has taken no more choices
from its queue than were selected and than there are such keys. -/
theorem ends_of_course
    (few : ∀ n, ∀ key ∈ Search.yielded cs scope selected n, key ∈ room) :
    (∃ n outcome, course cs scope selected n = .ofOutcome outcome) ∧
      ∀ n, (Search.taken cs scope selected n).length ≤ selected.length + room.card := by
  refine ⟨exists_ended few, fun n => ?_⟩
  obtain ⟨distinct, bound, -⟩ := Search.queued_course cs scope selected n
  exact Nat.le_trans bound (Nat.add_le_add_left (PackKey.length_le_card distinct (few n)) _)

/-- In the ring, where each part requires the next one and itself, as many parts are taken as were
selected and found. -/
theorem ends_of_course_ring :
    (∀ n, ∀ key ∈ Search.yielded (fun _ => ring) ringScope ringSelection n,
      key ∈ ({⟨.modrinth, .number 1⟩, ⟨.modrinth, .number 2⟩} : Finset PackKey)) ∧
    ((∃ n outcome, course (fun _ => ring) ringScope ringSelection n = .ofOutcome outcome) ∧
      ∀ n, (Search.taken (fun _ => ring) ringScope ringSelection n).length ≤ 3) ∧
    (Search.taken (fun _ => ring) ringScope ringSelection 3).length = 3 := by
  have last : Search.course (fun _ => ring) ringScope ringSelection 3 = .finished ringClosure := rfl
  have ended (q : Question) : Search.course (fun _ => ring) ringScope ringSelection 3 ≠ .asking q :=
    fun asking => nomatch last.symm.trans asking
  have all : Search.yielded (fun _ => ring) ringScope ringSelection 3 =
      [⟨.modrinth, .number 1⟩, ⟨.modrinth, .number 2⟩] := rfl
  have few (n : Nat) (key : PackKey)
      (among : key ∈ Search.yielded (fun _ => ring) ringScope ringSelection n) :
      key ∈ ({⟨.modrinth, .number 1⟩, ⟨.modrinth, .number 2⟩} : Finset PackKey) := by
    have past := Search.yielded_subset_of_ended ended n among
    rw [all] at past
    simpa using past
  exact ⟨few, ends_of_course few, rfl⟩

/-- Catalogues that do not change answer an inquiry as they answer each lookup in turn. -/
theorem course_const (c : Catalogue) (scope : Scope) (selected : List Choice) (n : Nat) :
    course (fun _ => c) scope selected n = (c.attend scope)^[2 * n] (begin scope selected {}) := by
  induction n with
  | zero => rfl
  | succ n ih =>
      have twoMore : 2 * (n + 1) = 2 * n + 1 + 1 := by omega
      rw [course, ih, twoMore, Function.iterate_succ_apply', Function.iterate_succ_apply']

end Inquiry

/-- A resolution against catalogues with versions for so many keys only comes to an outcome. -/
theorem Catalogue.exists_outcome {c : Catalogue} {room : Finset PackKey}
    (few : ∀ provider d v, c.version provider d = .ok (some v) → ⟨provider, d.addonId⟩ ∈ room)
    (scope : Scope) (selected : List Choice) :
    ∃ fuel outcome, (c.resolve scope fuel selected).outcome = some outcome := by
  have yielded (n : Nat) : ∀ key ∈ Search.yielded (fun _ => c) scope selected n, key ∈ room := by
    induction n with
    | zero => exact fun _ none_ => absurd none_ List.not_mem_nil
    | succ n ih =>
        intro key among
        rw [Search.yielded, List.mem_append] at among
        rcases among with past | last
        · exact ih key past
        · split at last
          · obtain ⟨rfl, v, answer⟩ := mem_yielded last
            exact few _ _ v answer
          · cases last
  obtain ⟨fuel, outcome, ended⟩ := Inquiry.exists_ended yielded
  refine ⟨fuel, outcome, ?_⟩
  rw [← outcome?_begin, ← Inquiry.course_const, ended, Inquiry.outcome?_ofOutcome]

end AddonPicker
