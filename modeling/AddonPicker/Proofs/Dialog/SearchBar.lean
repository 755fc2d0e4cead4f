import AddonPicker.Proofs.Dialog.Marked

/-!
# One search bar

Every page of a dialog has a search term of its own, and the selected page is known twice: to the
container and to the dialog. To the user the pages have one search bar nevertheless. After every
step, both know the same page, the first one with the id that was found last, and its search term is
the term that was set last, however stale the one was that it had when it was left. A page that is
not found and a switch from or to a page of another kind change nothing of this.
-/

namespace AddonPicker

namespace Session

open Act

/-- A step of the user among the pages. -/
inductive PageStep
  | select (id : Value)
  /-- Set the search term of the selected page. -/
  | search (term : Value)
  /-- A switch from a page of another kind. -/
  | leave (id name : Value) (selected : PageRef)
  /-- A switch to a page of another kind. -/
  | enter (previous : PageRef) (id name : Value)

/-- What a step does. The answer is whether a page was asked for and found. -/
def PageStep.act : PageStep → Act Session Bool
  | .select id => selectPage id
  | .search term => do
    searchShown term
    return false
  | .leave id name selected => do
    pageChanged (.foreign id name) selected
    return false
  | .enter previous id name => do
    pageChanged previous (.foreign id name)
    return false

/-- The one search bar that the pages have to the user. -/
structure SearchBar where
  /-- The id that a page was last found under. -/
  found : Option Value := none
  term : Value := .str ""

namespace SearchBar

/-- The search bar after a step that was answered. -/
def after (bar : SearchBar) (answer : Except Fault Bool) : PageStep → SearchBar
  | .select id =>
    match answer with
    | .ok true => { bar with found := some id }
    | _ => bar
  | .search term => { bar with term }
  | .leave .. => bar
  | .enter .. => bar

/-- The position of the page that was found last, which is the first page to begin with. -/
def position? (bar : SearchBar) (ids : List Value) : Option Nat :=
  match bar.found with
  | none => some 0
  | some id => ids.findIdx? (·.agrees id)

end SearchBar

/-- A dialog takes a step, and the search bar goes along. -/
def stroll (now : Session × SearchBar) (step : PageStep) : Session × SearchBar :=
  let (answer, s) := step.act.perform now.1
  (s, now.2.after answer step)

/-- The ids of the pages. -/
def pageIds (s : Session) : List Value :=
  s.selection.pages.map (·.id)

/-- A dialog shows the page that was found last, with the term that was set last. -/
structure Bears (s : Session) (bar : SearchBar) : Prop where
  /-- The dialog and the container know the same page. -/
  agree : s.shown = s.container.selected
  position : s.shown = bar.position? s.pageIds
  /-- It is there, and has the term. -/
  term : ∃ i p, s.shown = some i ∧ s.selection.pages[i]? = some p ∧ p.searchTerm = bar.term
  /-- The container knows the pages by their ids. -/
  ids : s.container.ids = s.pageIds

/-- Two dialogs with the same pages, which have the same terms, and the same page selected. -/
structure SamePages (s s' : Session) : Prop where
  pages : s'.selection.pages = s.selection.pages
  container : s'.container = s.container
  shown : s'.shown = s.shown

variable {s : Session} {bar : SearchBar}

theorem Bears.of_same {s' : Session} (bears : s.Bears bar) (same : SamePages s s') :
    s'.Bears bar := by
  have ids : s'.pageIds = s.pageIds := congrArg (List.map Page.id) same.pages
  constructor
  · rw [same.shown, same.container, bears.agree]
  · rw [same.shown, ids, bears.position]
  · rw [same.shown, same.pages]
    exact bears.term
  · rw [same.container, ids, bears.ids]

/-- Whether a page is found hangs on the ids of the pages. -/
theorem Bears.position?_eq (bears : s.Bears bar) (id : Value) :
    s.container.position? id = s.pageIds.findIdx? (·.agrees id) := by
  rw [Container.position?, bears.ids]

/-- A dialog with another search term on one of its pages. -/
def withTerm (i : Nat) (term : Value) (s : Session) : Session :=
  { s with selection := { s.selection with
      pages := s.selection.pages.modify i fun p => { p with searchTerm := term } } }

theorem pageIds_withTerm (i : Nat) (term : Value) (s : Session) :
    (withTerm i term s).pageIds = s.pageIds :=
  Selection.map_modify_pages Page.id (f := fun p => { p with searchTerm := term }) (fun _ => rfl) i
    s.selection.pages

theorem pages_withTerm {i : Nat} {p : Page} (page : s.selection.pages[i]? = some p) (term : Value) :
    (withTerm i term s).selection.pages[i]? = some { p with searchTerm := term } := by
  rw [withTerm, List.getElem?_modify_eq, page]
  rfl

/-- A dialog with another page selected. -/
def showing (i : Nat) (s : Session) : Session :=
  { s with container := { s.container with selected := some i }, shown := some i }

/-- A page that is there is shown with a term that it is given. -/
theorem Bears.shifted {i : Nat} {term : Value} (bears : s.Bears bar) (bar' : SearchBar)
    (position : bar'.position? s.pageIds = some i) (inside : i < s.pageIds.length)
    (same : term = bar'.term) : ((withTerm i term s).showing i).Bears bar' := by
  rw [pageIds, List.length_map] at inside
  have page := pages_withTerm (List.getElem?_eq_getElem inside) term
  have ids := pageIds_withTerm i term s
  refine ⟨rfl, ?_, ⟨i, _, rfl, page, same⟩, bears.ids.trans ids.symm⟩
  exact (congrArg bar'.position? ids).trans position |>.symm

/-! ### What each step does -/

/-- An id that no page has finds none. -/
theorem perform_selectPage_of_unknown {id : Value} (unknown : s.container.position? id = none) :
    (selectPage id).perform s = (.ok false, s) := by
  rw [selectPage, perform_bind, perform_get]
  dsimp only
  rw [Container.select_of_position?_eq_none unknown]
  rfl

/-- The page that is selected already is found. -/
theorem perform_selectPage_of_selected {id : Value} {i : Nat}
    (known : s.container.position? id = some i) (selected : s.container.selected = some i) :
    (selectPage id).perform s = (.ok true, s) := by
  have still : s.container.select id = (.unchanged, s.container) := by
    simp [Container.select, known, selected]
  rw [selectPage, perform_bind, perform_get]
  dsimp only
  rw [still]
  rfl

/-- Another page is found, and takes over the term of the one that was selected. -/
theorem perform_selectPage_of_other {id : Value} {i j : Nat} {p : Page}
    (known : s.container.position? id = some j) (selected : s.container.selected = some i)
    (other : i ≠ j) (before : s.selection.pages[i]? = some p) :
    (selectPage id).perform s = (.ok true, (withTerm j p.searchTerm s).showing j) := by
  have switches : s.container.select id =
      (.switched i j, { s.container with selected := some j }) := by
    simp [Container.select, known, selected, other]
  rw [selectPage, perform_bind, perform_get]
  dsimp only
  rw [switches]
  dsimp only
  rw [perform_bind, perform_modify]
  dsimp only
  rw [pageChanged, perform_bind, perform_bind, perform_modify]
  dsimp only
  rw [perform_bind, perform_get]
  dsimp only
  rw [before]
  rfl

theorem perform_searchShown {i : Nat} (shown : s.shown = some i) (term : Value) :
    (searchShown term).perform s = (.ok (), withTerm i term s) := by
  rw [searchShown, perform_bind, perform_get]
  dsimp only
  rw [shown]
  simp only [search, withTerm, onSelection, perform_onPart, perform_modify]

theorem leave_same (id name : Value) (selected : PageRef) (s : Session) :
    ((PageStep.leave id name selected).act.perform s).1 = .ok false ∧
      SamePages s ((PageStep.leave id name selected).act.perform s).2 :=
  ⟨rfl, rfl, rfl, rfl⟩

theorem enter_same (previous : PageRef) (id name : Value) (s : Session) :
    ((PageStep.enter previous id name).act.perform s).1 = .ok false ∧
      SamePages s ((PageStep.enter previous id name).act.perform s).2 := by
  cases previous with
  | own i => exact ⟨rfl, rfl, rfl, rfl⟩
  | foreign id' name' => exact ⟨rfl, rfl, rfl, rfl⟩

/-- What a step keeps. -/
theorem Bears.stepped (bears : s.Bears bar) (step : PageStep) :
    (stroll (s, bar) step).1.Bears (stroll (s, bar) step).2 := by
  obtain ⟨i, p, shown, page, term⟩ := bears.term
  have selected := bears.agree.symm.trans shown
  cases step with
  | select id =>
      have first := bears.position?_eq id
      cases known : s.container.position? id with
      | none =>
          rw [stroll, PageStep.act, perform_selectPage_of_unknown known]
          exact bears
      | some j =>
          rw [known] at first
          by_cases same : i = j
          · subst same
            rw [stroll, PageStep.act, perform_selectPage_of_selected known selected]
            exact ⟨bears.agree, shown.trans first, ⟨i, p, shown, page, term⟩, bears.ids⟩
          · rw [stroll, PageStep.act, perform_selectPage_of_other known selected same page]
            have inside := (List.findIdx?_eq_some_iff_getElem.mp first.symm).1
            exact bears.shifted { bar with found := some id } first.symm inside term
  | search typed =>
      have ids := pageIds_withTerm i typed s
      rw [stroll, PageStep.act, perform_bind, perform_searchShown shown]
      have position := bears.position.trans (congrArg bar.position? ids.symm)
      exact ⟨bears.agree, position, ⟨i, _, shown, pages_withTerm page typed, rfl⟩,
        bears.ids.trans ids.symm⟩
  | leave id name other => exact bears.of_same (leave_same id name other s).2
  | enter previous id name => exact bears.of_same (enter_same previous id name s).2

/-- Whether a step asks for a page that is there. -/
def PageStep.finds (s : Session) : PageStep → Bool
  | .select id => s.pageIds.any (·.agrees id)
  | .search _ => false
  | .leave .. => false
  | .enter .. => false

/-- A step that is to change nothing: to ask for a page that is not there, and a switch in which a
page of another kind takes part. -/
def PageStep.IsIdle (s : Session) : PageStep → Prop
  | .select id => ∀ known ∈ s.pageIds, known.agrees id = false
  | .search _ => False
  | .leave .. => True
  | .enter .. => True

/-- Every step is answered, a page that is asked for with whether it is there. -/
theorem Bears.answer (bears : s.Bears bar) (step : PageStep) :
    (step.act.perform s).1 = .ok (step.finds s) := by
  obtain ⟨i, p, shown, page, term⟩ := bears.term
  have selected := bears.agree.symm.trans shown
  cases step with
  | select id =>
      have first := bears.position?_eq id
      have there : s.pageIds.any (·.agrees id) = (s.container.position? id).isSome := by
        rw [first, List.findIdx?_isSome]
      rw [PageStep.act, PageStep.finds, there]
      cases known : s.container.position? id with
      | none =>
          rw [perform_selectPage_of_unknown known]
          rfl
      | some j =>
          by_cases same : i = j
          · subst same
            rw [perform_selectPage_of_selected known selected]
            rfl
          · rw [perform_selectPage_of_other known selected same page]
            rfl
  | search typed =>
      rw [PageStep.act, perform_bind, perform_searchShown shown]
      rfl
  | leave id name other => exact (leave_same id name other s).1
  | enter previous id name => exact (enter_same previous id name s).1

/-- Nothing comes of a step that is to change nothing. -/
theorem Bears.idle (bears : s.Bears bar) {step : PageStep} (isIdle : step.IsIdle s) :
    SamePages s (step.act.perform s).2 := by
  cases step with
  | select id =>
      have unknown : s.container.position? id = none := by
        rw [bears.position?_eq, List.findIdx?_eq_none_iff]
        exact isIdle
      rw [PageStep.act, perform_selectPage_of_unknown unknown]
      exact ⟨rfl, rfl, rfl⟩
  | search typed => exact isIdle.elim
  | leave id name other => exact (leave_same id name other s).2
  | enter previous id name => exact (enter_same previous id name s).2

/-- What only speaks leaves the pages alone. -/
theorem spoken_bears (bar : SearchBar) : Spoken fun s => s.Bears bar where
  say _ _ := keeps_modify fun _ bears => bears.of_same ⟨rfl, rfl, rfl⟩
  note _ _ := keeps_modify fun _ bears => bears.of_same ⟨rfl, rfl, rfl⟩
  keepSetting _ _ := keeps_modify fun _ bears => bears.of_same ⟨rfl, rfl, rfl⟩

/-- A dialog comes up with its first page and an empty term. -/
theorem ensures_bears : Ensures (fun s => s.Bears {}) openDialog := by
  have made : Ensures (fun s => s.Bears {}) openPages := by
    refine ensures_openPages_of fun s pages there blank => ?_
    cases pages with
    | nil => exact absurd rfl there
    | cons p later =>
        obtain ⟨id, title, provider, rfl⟩ := blank p List.mem_cons_self
        exact ⟨rfl, rfl, ⟨0, _, rfl, rfl, rfl⟩, rfl⟩
  exact ensures_bind fun _ => ensures_bind fun _ => ensures_bind fun _ => ensures_bind fun _ =>
    made.bind fun _ => (spoken_bears {}).restoreGeometry

/-- A dialog that has taken steps, and the search bar that went along. -/
def strolled (s : Session) (steps : List PageStep) : Session × SearchBar :=
  steps.foldl stroll (s, {})

theorem Bears.walked (bears : s.Bears {}) (steps : List PageStep) :
    (s.strolled steps).1.Bears (s.strolled steps).2 := by
  have kept (steps : List PageStep) (now : Session × SearchBar) (before : now.1.Bears now.2) :
      (steps.foldl stroll now).1.Bears (steps.foldl stroll now).2 := by
    induction steps generalizing now with
    | nil => exact before
    | cons step later ih => exact ih _ (before.stepped step)
  exact kept steps (s, {}) bears

/-- Whatever steps are taken among the pages of a dialog that has come up, it shows the page that
was found last, with the term that was set last. A page that is asked for is found if it is there,
and nothing comes of asking for one that is not, or of a switch with a page of another kind. -/
theorem oneSearchBar_strolled {b : Session} (opened : (openDialog.perform b).1 = .ok ())
    (steps : List PageStep) :
    let now := (openDialog.perform b).2.strolled steps
    now.1.Bears now.2 ∧
      (∀ step : PageStep, (step.act.perform now.1).1 = .ok (step.finds now.1)) ∧
      ∀ step : PageStep, step.IsIdle now.1 → SamePages now.1 (step.act.perform now.1).2 := by
  have bears := (ensures_bears b () opened).walked steps
  exact ⟨bears, bears.answer, fun _ => bears.idle⟩

/-- The second page takes over the term of the first, is given another one, and hands that on to the
first page, which still has the old one. In between, a page is not found, and others are foreign. -/
def wandering : List PageStep :=
  [.search (.str "oil"), .select (.str "curseforge"), .search (.str "wick"),
    .select (.str "nowhere"), .enter (.own 1) (.str "news") (.str "News"),
    .select (.str "curseforge"), .select (.str "modrinth"),
    .leave (.str "news") (.str "News") (.own 1)]

theorem oneSearchBar_strolled_wandering :
    (openDialog.perform shop).1 = .ok () ∧
      ((openDialog.perform shop).2.strolled wandering).1.Bears
        ((openDialog.perform shop).2.strolled wandering).2 ∧
      [wandering.take 5, wandering].map (fun steps =>
          let s := ((openDialog.perform shop).2.strolled steps).1
          (s.selection.pages.map (·.searchTerm.text), s.shown)) =
        [(["oil", "wick"], some 1), (["wick", "wick"], some 0)] := by
  have opened : (openDialog.perform shop).1 = .ok () := rfl
  exact ⟨opened, (oneSearchBar_strolled opened wandering).1, by decide +kernel⟩

end Session

end AddonPicker
