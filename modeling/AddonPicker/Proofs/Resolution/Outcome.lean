import AddonPicker.Proofs.Resolution.Ledger
import AddonPicker.Proofs.Resolution.Reply

/-!
# The ledger at the end of a resolution

A question takes its demand from the ones ahead to the ones seen, whatever the answer; an answer
with a version also puts the demands of the discovered choice at the end of the list. So the ledger
is kept from the start of a resolution to its end, where nothing is ahead any more.
-/

namespace AddonPicker

/-- The key of a discovery is known, so it is no unknown one. -/
theorem Search.key_ne_of_unknown {scope : Scope} {s : Search} {key : PackKey} {e : Discovery}
    (unknown : s.knows scope key = false) (found : e ∈ s.found) : key ≠ e.key := by
  intro same
  have known : s.knows scope key = true := by
    rw [Search.knows, Search.hasFound_iff.mpr, Bool.true_or]
    exact List.mem_map.mpr ⟨e, found, same.symm⟩
  rw [unknown] at known
  exact Bool.false_ne_true known

namespace Ledger

variable {c : Catalogue} {scope : Scope} {selected : List Choice} {asked : List Question}
variable {seen : List Demand} {q : Question}

/-- An unknown key comes last among the keys asked for. -/
theorem keys_of_unknown
    (l : Ledger c scope selected asked seen (q.demand :: q.agenda) q.search)
    (unknown : q.search.knows scope q.key = false) :
    (asked ++ [q]).map Question.key = (((seen ++ [q.demand]).map Demand.key).filter
      (scope.lacks (selected.map Choice.key))).eraseDups := by
  obtain ⟨missing, -, unseen⟩ := l.not_seen_of_unknown unknown
  have new : ¬((seen.map Demand.key).filter (scope.lacks (selected.map Choice.key))).contains
      q.key = true := by
    rw [List.contains_iff_mem]
    exact fun inside => unseen (List.mem_filter.mp inside).1
  rw [List.map_append, List.map_append, List.filter_append, List.map_singleton,
    List.map_singleton, Question.key_demand, List.filter_cons_of_pos missing, List.filter_nil,
    eraseDups_concat, if_neg new, l.keys]

/-- A question is about the first demand of its key, the last question like the others. -/
theorem first_of_unknown
    (l : Ledger c scope selected asked seen (q.demand :: q.agenda) q.search)
    (unknown : q.search.knows scope q.key = false) :
    ∀ q' ∈ asked ++ [q], Demand.first? q'.key (seen ++ [q.demand]) = some q'.demand := by
  intro q' inside
  rcases List.mem_append.mp inside with past | last
  · exact Demand.first?_append (l.first q' past) [q.demand]
  · rw [List.mem_singleton.mp last]
    have unseen : q.demand.key ∉ seen.map Demand.key := (l.not_seen_of_unknown unknown).2.2
    exact Demand.first?_append_cons unseen []

/-- A question that is declined makes its key unavailable. -/
theorem decline (l : Ledger c scope selected asked seen (q.demand :: q.agenda) q.search)
    (unknown : q.search.knows scope q.key = false)
    (answer : c.version q.key.provider q.dependency = .ok none) (warnings : List String) :
    Ledger c scope selected (asked ++ [q]) (seen ++ [q.demand]) q.agenda
      { q.search with unavailable := q.search.unavailable ++ [q.key], warnings } where
  selected_eq := l.selected_eq
  demands := by rw [← l.demands, List.append_assoc, List.singleton_append]
  keys := l.keys_of_unknown unknown
  first := l.first_of_unknown unknown
  answered := by
    obtain ⟨offered, declined⟩ := Catalogue.declines_of_version answer
    intro q' inside
    rcases List.mem_append.mp inside with past | last
    · exact l.answered q' past
    · rw [List.mem_singleton.mp last, offered, declined]
      rfl
  found := by
    have offered := (Catalogue.declines_of_version answer).1
    rw [List.filter_append, List.filter_cons_of_neg (Bool.not_eq_true _ |>.mpr offered),
      List.filter_nil, List.append_nil]
    exact l.found
  unavailable := by
    have declined := (Catalogue.declines_of_version answer).2
    rw [List.filter_append, List.filter_cons_of_pos declined, List.filter_nil, List.map_append,
      ← l.unavailable, List.map_singleton]
  origin := by
    intro e inside
    obtain ⟨q', past, answers⟩ := l.origin e inside
    exact ⟨q', List.mem_append_left _ past, answers⟩
  backlinks := by
    intro e inside
    have other : q.demand.key ≠ e.key := Search.key_ne_of_unknown unknown inside
    rw [Demand.requirers_append, Demand.requirers_singleton_of_ne other, List.append_nil]
    exact l.backlinks e inside
  reached := l.reached

/-- A question that is answered with a version leads to a discovery. -/
theorem offer (l : Ledger c scope selected asked seen (q.demand :: q.agenda) q.search)
    (unknown : q.search.knows scope q.key = false) {pack : Pack} {version : Held}
    (packed : c.pack q.key.provider q.key.addonId = .ok (some pack))
    (answer : c.version q.key.provider q.dependency = .ok (some version)) {choice : Choice}
    (made : choice = { version.detached.link q.node.pack.addonId with pack }) :
    Ledger c scope selected (asked ++ [q]) (seen ++ [q.demand]) (q.agenda ++ choice.demands)
      { q.search with found := q.search.found ++ [⟨q.key, choice⟩] } where
  selected_eq := l.selected_eq
  demands := by
    rw [List.flatMap_append, ← List.append_assoc (List.flatMap _ _), ← l.demands]
    simp
  keys := l.keys_of_unknown unknown
  first := l.first_of_unknown unknown
  answered := by
    obtain ⟨offered, declined⟩ := Catalogue.offers_of_version answer
    intro q' inside
    rcases List.mem_append.mp inside with past | last
    · exact l.answered q' past
    · rw [List.mem_singleton.mp last, offered, declined]
      rfl
  found := by
    have offered := (Catalogue.offers_of_version answer).1
    rw [List.filter_append, List.filter_cons_of_pos offered, List.filter_nil, List.map_append,
      List.map_append, ← l.found, List.map_singleton, List.map_singleton]
  unavailable := by
    have declined := (Catalogue.offers_of_version answer).2
    rw [List.filter_append, List.filter_cons_of_neg (Bool.not_eq_true _ |>.mpr declined),
      List.filter_nil, List.append_nil]
    exact l.unavailable
  origin := by
    intro e inside
    rcases List.mem_append.mp inside with before | last
    · obtain ⟨q', past, answers⟩ := l.origin e before
      exact ⟨q', List.mem_append_left _ past, answers⟩
    · rw [List.mem_singleton.mp last]
      refine ⟨q, List.mem_append_right _ (List.mem_singleton_self q), rfl, ?_, version, answer, ?_⟩
      · rw [made]
        exact packed
      · rw [made]
        exact Held.link_eq q.node.pack.addonId version.detached
  backlinks := by
    intro e inside
    rw [Demand.requirers_append]
    rcases List.mem_append.mp inside with before | last
    · have other : q.demand.key ≠ e.key := Search.key_ne_of_unknown unknown before
      rw [Demand.requirers_singleton_of_ne other, List.append_nil]
      exact l.backlinks e before
    · -- Nobody has demanded the new key before.
      have unseen := (l.not_seen_of_unknown unknown).2.2
      have nobody : Demand.requirers q.demand.key seen = [] := by
        rw [Demand.requirers, List.map_eq_nil_iff, List.filter_eq_nil_iff]
        intro d occurred same
        exact unseen (List.mem_map.mpr ⟨d, occurred, eq_of_beq same⟩)
      rw [List.mem_singleton.mp last]
      have first := Demand.requirers_singleton_self q.demand
      show choice.version.requiredBy =
        (Demand.requirers q.demand.key seen ++ Demand.requirers q.demand.key [q.demand]).eraseDups
      rw [nobody, first, made]
      have nothing : version.detached.version.requiredBy = ([] : List AddonId).eraseDups := rfl
      exact Version.requiredBy_link_of_eraseDups nothing _
  reached := by
    intro e inside
    have kept (e' : Discovery) (present : e' ∈ q.search.found) :
        ∃ e'' ∈ q.search.found ++ [⟨q.key, choice⟩],
          e''.key = e'.key ∧ e''.choice.demands = e'.choice.demands :=
      ⟨e', List.mem_append_left _ present, rfl, rfl⟩
    rcases List.mem_append.mp inside with before | last
    · exact (l.reached e before).mono kept
    · rw [List.mem_singleton.mp last]
      have reached := l.reached_of_mem (d := q.demand)
        (List.mem_append_right _ (List.mem_cons_self ..))
      exact reached.mono kept

end Ledger

namespace Progress

/-- What the ledger says of how far a search has come. -/
def Tracked (c : Catalogue) (scope : Scope) (selected : List Choice) (asked : List Question) :
    Progress → Prop
  | .finished closure =>
    ∃ seen s, Ledger c scope selected asked seen [] s ∧ closure = s.closure
  | .failed _ => True
  | .asking q => q.search.knows scope q.key = false ∧
    ∃ seen, Ledger c scope selected asked seen (q.demand :: q.agenda) q.search

variable {c : Catalogue} {scope : Scope} {selected : List Choice} {asked : List Question}

/-- The ledger is kept up to the next question. -/
theorem tracked_of_leads {s : Search} {seen ahead : List Demand} {p : Progress}
    (leads : Search.Leads scope s ahead p) (l : Ledger c scope selected asked seen ahead s) :
    p.Tracked c scope selected asked := by
  induction leads generalizing seen with
  | finished s => exact ⟨seen, s, l, rfl⟩
  | passed known _ ih => exact ih (l.pass known)
  | asking q unknown _ => exact ⟨unknown, seen, l⟩
  | failed _ _ _ => trivial

/-- A search begins with an empty ledger. -/
theorem tracked_start : (Search.start scope selected).Tracked c scope selected [] :=
  tracked_of_leads (Search.leads_walk selected _) (Ledger.start c scope selected)

/-- The answer to a question goes into the ledger. -/
theorem tracked_reply {q : Question} (tracked : (asking q).Tracked c scope selected asked) :
    (c.reply scope q).Tracked c scope selected (asked ++ [q]) := by
  obtain ⟨unknown, seen, l⟩ := tracked
  have came := c.replies scope q
  generalize c.reply scope q = p at came ⊢
  cases came with
  | failed => trivial
  | declined _ answer _ =>
      exact tracked_of_leads (Search.leads_proceed ..) (l.decline unknown answer _)
  | offered packed answer =>
      have next := l.offer unknown packed answer rfl
      rw [← q.agenda_append_demands] at next
      exact tracked_of_leads (Search.leads_proceed ..) next

end Progress

namespace Catalogue

variable {c : Catalogue} {scope : Scope} {selected : List Choice} {asked : List Question}

/-- What holds of a search and the questions asked so far, and goes on to hold with every reply,
holds where the search is carried to a closure. -/
theorem resolveFrom_induction {I : List Question → Progress → Prop}
    (step : ∀ asked q, I asked (.asking q) → I (asked ++ [q]) (c.reply scope q)) {fuel : Nat}
    {p : Progress} {closure : Closure} (holds : I asked p)
    (ended : (c.resolveFrom scope fuel p).outcome = some (.ok closure)) :
    I (asked ++ (c.resolveFrom scope fuel p).questions) (.finished closure) := by
  induction fuel generalizing p asked with
  | zero =>
      cases p with
      | finished result =>
          obtain rfl : result = closure := by simpa using ended
          rw [resolveFrom_finished, List.append_nil]
          exact holds
      | failed f => simp at ended
      | asking q => simp [resolveFrom] at ended
  | succ fuel ih =>
      cases p with
      | finished result =>
          obtain rfl : result = closure := by simpa using ended
          rw [resolveFrom_finished, List.append_nil]
          exact holds
      | failed f => simp at ended
      | asking q =>
          simp only [resolveFrom, Resolution.outcome_after] at ended
          have rest := ih (step asked q holds) ended
          simpa only [resolveFrom, Resolution.questions_after, List.append_assoc,
            List.singleton_append] using rest

/-- A resolution that comes to a closure has a ledger of all it asked, with nothing ahead. -/
theorem ledger_of_resolve {fuel : Nat} {closure : Closure}
    (ended : (c.resolve scope fuel selected).outcome = some (.ok closure)) :
    ∃ seen s, Ledger c scope selected (c.resolve scope fuel selected).questions seen [] s ∧
      closure = s.closure := by
  have tracked : Progress.Tracked c scope selected
      ([] ++ (c.resolve scope fuel selected).questions) (.finished closure) :=
    resolveFrom_induction (fun _ _ => Progress.tracked_reply) Progress.tracked_start ended
  exact tracked

end Catalogue

end AddonPicker
