import AddonPicker.Proofs.Dialog.Lasting
import AddonPicker.Proofs.Dialog.Opening
import AddonPicker.Proofs.Dialog.Outcome
import AddonPicker.Proofs.Dialog.Standard
import AddonPicker.Proofs.Selection.Ending
import AddonPicker.Proofs.Selection.Rows

/-!
# What a commit keeps

The rows of a review are made from the selection once, and from then on they are the user's to tick
and untick. When the review is approved, the selection keeps the entries whose rows are ticked and
drops all others; when it is declined, the selection is left as it is. Either way this hangs on the
box alone, however it came to be as it is, and on no more than that the selection is the one that
the rows were made from.
-/

namespace AddonPicker

/-- A selection with one entry for a name, of which nobody refuses anything. -/
structure Selection.IsReady (s : Selection) : Prop where
  nodup : s.names.Nodup
  willing : s.IsWilling

theorem Selection.IsWilling.of_pages {s s' : Selection} (willing : s.IsWilling)
    (pages : ∀ p' ∈ s'.pages, ∃ p ∈ s.pages, p'.refusal = p.refusal)
    (listeners : s'.listeners = s.listeners) : s'.IsWilling where
  pages p' among := by
    obtain ⟨p, known, same⟩ := pages p' among
    rw [same]
    exact willing.pages p known
  listeners := listeners ▸ willing.listeners

namespace Selection.IsReady

variable {s s' : Selection}

theorem of_fades {name : String} (ready : s.IsReady) (fades : s.Fades name s') : s'.IsReady := by
  obtain ⟨pages, j, pairs, rfl⟩ := fades
  refine ⟨ready.nodup, ready.willing.of_pages (fun p' among => ?_) rfl⟩
  obtain ⟨p, before, rfl | rfl⟩ := exists_mem_of_forall₂ pairs among
  · exact ⟨_, before, rfl⟩
  · exact ⟨p, before, rfl⟩

theorem without (ready : s.IsReady) (pack : Pack) (version : VersionId) :
    (s.without pack version).IsReady := by
  refine ⟨nodup_names_without ready.nodup pack version, ready.willing.of_pages ?_ rfl⟩
  intro p' among
  obtain ⟨p, before, rfl⟩ := List.mem_map.mp among
  exact ⟨p, before, rfl⟩

theorem having (ready : s.IsReady) (pack : Pack) (version : VersionId) (indexed : Value) :
    (s.having pack version indexed).IsReady :=
  ⟨nodup_names_having ready.nodup pack version indexed,
    (ready.without pack version).willing.pages, ready.willing.listeners⟩

theorem modify (ready : s.IsReady) (position : Nat) {f : Page → Page}
    (same : ∀ p, (f p).refusal = p.refusal) :
    { s with pages := s.pages.modify position f }.IsReady := by
  refine ⟨ready.nodup, ready.willing.of_pages (fun p' among => ?_) rfl⟩
  obtain ⟨p, before, rfl | rfl⟩ := exists_of_mem_modify among
  · exact ⟨_, before, rfl⟩
  · exact ⟨p, before, same p⟩

end Selection.IsReady

theorem Page.refusal_mark (name : String) (p : Page) : (p.mark name).refusal = p.refusal := by
  unfold mark
  split <;> rfl

/-- Whatever happens to a dialog, its selection stays ready. -/
theorem Selection.lasting_isReady : Selection.Lasting Selection.IsReady where
  write _ _ _ ready := ⟨ready.nodup, ready.willing.pages, ready.willing.listeners⟩
  lookup _ _ ready := ⟨ready.nodup, ready.willing.pages, ready.willing.listeners⟩
  note _ _ _ ready := ⟨ready.nodup, ready.willing.pages, ready.willing.listeners⟩
  store _ _ ready := ⟨ready.nodup, ready.willing.pages, ready.willing.listeners⟩
  term _ position _ ready := ready.modify position fun _ => rfl
  add pack version indexed := keeps_add (fun _ _ fades ready => ready.of_fades fades)
    (fun _ ready => ready.without pack version) fun _ ready => ready.having pack version indexed
  remove pack version := keeps_remove (fun _ _ fades ready => ready.of_fades fades)
    fun _ ready => ready.without pack version
  pick position pack version := by
    have added : Act.Keeps Selection.IsReady (Selection.add pack version (.bool false)) :=
      keeps_add (fun _ _ fades ready => ready.of_fades fades)
        (fun _ ready => ready.without pack version) fun _ ready => ready.having pack version _
    refine added.bind fun _ => Act.keeps_modify fun s ready => ?_
    exact ready.modify position (Page.refusal_mark pack.name)

namespace Session

open Act

variable {s t : Session} {c : Nat} {box box' : ReviewBox} {plan : ReviewPlan}

/-- What ticks and unticks rows comes to what becomes of the box, and leaves the dialog alone. -/
theorem perform_reviewMoves {rows : ReviewBox} {moves : List ReviewMove}
    (toggles : ∀ m ∈ moves, rows.Toggles m) (box : ReviewBox) :
    (moves.foldlM reviewMove box).perform s = (moves.foldlM ReviewBox.moved box, s) := by
  induction moves generalizing box with
  | nil => rfl
  | cons m later ih =>
      have first : (reviewMove box m).perform s = (box.moved m, s) := by
        have toggles := toggles m List.mem_cons_self
        cases m with
        | untick position => rfl
        | setEnabled name enabled => rfl
        | remove pack version => exact toggles.elim
        | add pack version => exact toggles.elim
      rw [List.foldlM_cons, List.foldlM_cons, perform_bind, first]
      cases box.moved m with
      | error f => rfl
      | ok box => exact ih (fun m among => toggles m (List.mem_cons_of_mem _ among)) box

/-- A commit drops what is not ticked, whether or not the dialog can be closed after it. -/
theorem perform_commit (willing : s.selection.IsWilling) (patient : s.ui.IsPatient)
    (named : box.IsNamed) :
    (s.selection.withoutNames box.deselected).SameAs ((commit box).perform s).2.selection ∧
      ((s.geometryKey.isTrue = true → s.geometryKey.isHashable = true) →
        ((commit box).perform s).1 = .ok ()) := by
  have on : s.selection.On (.lax False) := Selection.on_lax (.inr willing)
  have hashable : ∀ name ∈ box.deselected, name.isHashable = true := fun name among =>
    ReviewBox.isHashable_of_mem_deselected named among
  rw [commit, perform_bind]
  rcases meets_forM_removeByName on box.deselected hashable s.selection.journal with
    ⟨j, dropped, -⟩ | ⟨never, -⟩
  · have same : Journaled.setJournal s.selection.journal s = s := rfl
    rw [same] at dropped
    rw [dropped]
    dsimp only
    have spoken := spoken_selection (s.selection.withoutNames box.deselected)
    constructor
    · have closed := keeps_get_bind fun now : Session => (spoken.say .info
        ("Confirmed " ++ toString now.selection.entries.length ++ " " ++ now.type.kind.plural ++
          ", " ++ toString box.deselected.length ++ " deselected during review")).bind
            fun _ => spoken.accept
      exact Selection.sameAs_of_setJournal (closed _ rfl)
    · intro key
      have accepted := closes_accept
        (s := { s with selection := s.selection.withoutNames box.deselected }) patient key
      rw [perform_bind, perform_get]
      dsimp only
      rw [perform_bind]
      obtain ⟨j', said, -⟩ := does_say (s := { s with
        selection := s.selection.withoutNames box.deselected }) .info _ j
      rw [said]
      obtain ⟨j'', kept, performed, -⟩ := accepted j'
      dsimp only
      rw [performed]
  · exact never.elim

/-- What has become of a selection when a review over it has come to its answer and left a box
behind. -/
structure Committed (plan : ReviewPlan) (box : ReviewBox) (c : Nat) (sel : Selection)
    (o : Session) : Prop where
  /-- The entries are kept whose rows are ticked. -/
  approved : plan.approves = true → sel.Sifted (box.keeps ·.pack.name) o.selection
  declined : plan.approves = false → sel.SameAs o.selection
  /-- The confirmation returns the answer, unless the geometry of an approved dialog is to be kept
  under a key that cannot be one. -/
  returns : (plan.approves = true → o.geometryKey.isTrue = true →
    o.geometryKey.isHashable = true) → o.verdict? c = some (.returned plan.approves)

theorem selection_settle (c : Nat) (result : Except Fault Step) (s : Session) :
    (s.settle c result).selection = s.selection :=
  part_settle (fun _ _ _ => rfl) c result s

theorem geometryKey_settle (c : Nat) (result : Except Fault Step) (s : Session) :
    (s.settle c result).geometryKey = s.geometryKey :=
  part_settle (fun _ _ _ => rfl) c result s

theorem verdict?_settle {result : Except Fault Step} (inside : c < s.confirmations.length) :
    (s.settle c result).verdict? c = (Stage.after result).verdict? := by
  rw [verdict?, confirmation?_settle result inside]
  rfl

theorem isAside_geometryKey : IsAside geometryKey := ⟨fun _ _ => rfl, fun _ _ => rfl⟩

/-- The end of a review over a selection that holds what the rows were made from. -/
theorem committed_of_finishReview {sel : Selection} (same : sel.SameAs s.selection)
    (willing : s.selection.IsWilling) (patient : s.ui.IsPatient) (nodup : sel.names.Nodup)
    (inside : c < s.confirmations.length) (named : box'.IsNamed)
    (lists : box'.Lists (sel.sortedEntries.map (·.pack.name)))
    (toggles : ∀ m ∈ plan.moves, box.Toggles m)
    (made : plan.moves.foldlM ReviewBox.moved box = .ok box') :
    Committed plan box' c sel (settle c ((finishReview box plan).perform s).1
      ((finishReview box plan).perform s).2) := by
  have inside' := (leaves_continueReview isAside_confirmations false box plan s).symm ▸ inside
  have key := leaves_continueReview isAside_geometryKey false box plan s
  rw [continueConfirm, if_neg Bool.false_ne_true] at inside' key
  have moved : (finishReview box plan).perform s = (if plan.approves then do
      commit box'
      return .returns true
    else return .returns false : Act Session Step).perform s := by
    rw [finishReview, perform_bind, perform_reviewMoves toggles, made]
  rw [moved] at inside' key ⊢
  cases approves : plan.approves with
  | false =>
      rw [approves] at inside'
      refine ⟨fun yes => absurd (approves.symm.trans yes) Bool.false_ne_true, fun _ => ?_,
        fun _ => ?_⟩
      · rw [selection_settle]
        exact same
      · rw [verdict?_settle inside', approves]
        rfl
  | true =>
      obtain ⟨dropped, returns⟩ := perform_commit willing patient named
      rw [approves] at inside' key
      have committed : (commit box' >>= fun _ => pure (.returns true)).perform s =
          (((commit box').perform s).1.map fun _ => Step.returns true,
            ((commit box').perform s).2) := by
        rw [perform_bind]
        generalize (commit box').perform s = performed
        obtain ⟨result, o⟩ := performed
        cases result <;> rfl
      rw [if_pos rfl, committed] at inside' key ⊢
      refine ⟨fun _ => ?_, fun no => absurd (no.symm.trans approves) Bool.false_ne_true,
        fun keyed => ?_⟩
      · rw [selection_settle]
        exact same.sifted ((Selection.sifted_deselected nodup lists same.entries).sameAs dropped)
      · rw [geometryKey_settle, key] at keyed
        rw [verdict?_settle inside', returns (keyed approves), approves]
        rfl

/-- With its rows made, a review is presented, and then it is waited for or gone through. -/
theorem perform_openReview (patient : t.ui.IsPatient)
    (presents : t.selection.review t.naming t.emptyBox = (.ok (), box)) :
    ∃ j, openReview.perform t = (if t.nextPlan.waits then
        pure (.waits (.reviewing box t.nextPlan))
      else finishReview box t.nextPlan).perform
        (Journaled.setJournal j { t with reviews := t.reviews + 1 }) := by
  have accepted (events : List Event) : t.ui.refusal events (.execReview box) = none :=
    patient events _ (fun same => nomatch same) fun same => nomatch same
  obtain ⟨j, shown, -⟩ := does_callUi (s := { t with reviews := t.reviews + 1 }) accepted
    t.selection.journal
  have shown : (callUi (.execReview box)).perform { t with reviews := t.reviews + 1 } =
      (.ok (), Journaled.setJournal j { t with reviews := t.reviews + 1 }) := shown
  refine ⟨j, ?_⟩
  rw [openReview, perform_bind, perform_get]
  dsimp only
  rw [presents, perform_bind, perform_check]
  dsimp only
  rw [perform_bind, perform_modify]
  dsimp only
  rw [perform_bind, shown]
  rfl

/-- A review that opens has its rows made. -/
theorem exists_presents (opened : (openReview.perform t).2.reviews ≠ t.reviews) :
    ∃ box, t.selection.review t.naming t.emptyBox = (.ok (), box) := by
  rw [openReview, perform_bind, perform_get] at opened
  dsimp only at opened
  generalize t.selection.review t.naming t.emptyBox = built at opened ⊢
  obtain ⟨result, box⟩ := built
  cases result with
  | error f => exact absurd rfl opened
  | ok _ => exact ⟨box, rfl⟩

theorem takenInAll_setJournal (cs : List Choice) (sel : Selection) (j : Journal) :
    (Journaled.setJournal j sel).takenInAll cs = Journaled.setJournal j (sel.takenInAll cs) := by
  induction cs generalizing sel with
  | nil => rfl
  | cons c later ih => exact ih (sel.takenIn c)

/-- The dialog that a confirmation opens its review over: it holds what was selected before, with
the choices taken in that a run has found, if there was one. -/
structure OpensOn (c : Nat) (s t : Session) : Prop extends Opens c s t where
  given : t.collaborators = s.collaborators
  takes : ∃ i j, t.selection =
    Journaled.setJournal j (s.selection.takenInAll (t.runDependencies i))

theorem OpensOn.runs (opens : OpensOn c s t) : t.runs = (s.resume c).runs := by
  rw [opens.goes, runs_settle, leaves_openReview isAside_runs fun _ _ => rfl]

section

variable {J : Session → Prop}

/-- If a check goes on to open the review, it is answered, and the merge comes to its end where the
review opens. -/
theorem Goes.exists_merge {i : Nat} {performed : Except Fault Step × Session}
    (goes : Goes (fun t => J t ∧ t.reviews = s.reviews ∧ t.collaborators = s.collaborators ∧
      Journaled.setJournal {} t.selection = Journaled.setJournal {} s.selection) i performed)
    (resumed : s.resume c = settle c performed.1 performed.2)
    (opened : (s.resume c).reviews ≠ s.reviews) :
    ∃ t u, J t ∧ Journaled.setJournal {} t.selection = Journaled.setJournal {} s.selection ∧
      s.resume c = settle c ((afterCheck i).perform t).1 ((afterCheck i).perform t).2 ∧
      (merge (t.runDependencies i)).perform t = (.ok (), u) ∧ OpensOn c s u ∧
      ∃ j, u.selection =
        Journaled.setJournal j (s.selection.takenInAll (u.runDependencies i)) := by
  have goesOn := resumed
  rw [resumed, reviews_settle] at opened
  cases goes with
  | stands checking holds => exact absurd holds.2.1 opened
  | breaks f holds => exact absurd holds.2.1 opened
  | @answers t holds =>
      obtain ⟨holds, unopened, given, same⟩ := holds
      rw [← unopened] at opened
      obtain ⟨u, merged, answer⟩ := exists_merged_of_afterCheck t i opened
      obtain ⟨j, after⟩ := exists_takenInAll_of_merge merged
      have before := Selection.eq_setJournal same
      have takes : u.selection =
          Journaled.setJournal j (s.selection.takenInAll (u.runDependencies i)) := by
        have found : u.runDependencies i = t.runDependencies i := by rw [after]; rfl
        rw [found, after]
        show Journaled.setJournal j (t.selection.takenInAll (t.runDependencies i)) = _
        rw [before, takenInAll_setJournal]
        rfl
      have opens : Opens c s u := ⟨by rw [resumed, answer], by rw [after]; exact unopened⟩
      exact ⟨t, u, holds, same, goesOn, merged, ⟨opens, by rw [after]; exact given, i, j, takes⟩,
        j, takes⟩

variable (merge : ∀ s i, J s → J ((merge (s.runDependencies i)).perform s).2)

include merge

/-- What a check and the merge after it uphold holds where the review opens. -/
theorem Goes.exists_opensOn {i : Nat} {performed : Except Fault Step × Session}
    (goes : Goes (fun t => J t ∧ t.reviews = s.reviews ∧ t.collaborators = s.collaborators ∧
      Journaled.setJournal {} t.selection = Journaled.setJournal {} s.selection) i performed)
    (resumed : s.resume c = settle c performed.1 performed.2)
    (opened : (s.resume c).reviews ≠ s.reviews) : ∃ t, OpensOn c s t ∧ J t := by
  obtain ⟨t, u, holds, -, -, merged, opens, -⟩ := goes.exists_merge resumed opened
  have after := merge t i holds
  rw [merged] at after
  exact ⟨u, opens, after⟩

/-- A review that opens is opened on what was selected before. -/
theorem exists_opensOn (tended : Tended J) (confirming : J s → J { s with confirming := true })
    (holds : J s) (opened : (s.resume c).reviews ≠ s.reviews) : ∃ t, OpensOn c s t ∧ J t := by
  have checks := tended.and ((isAside_reviews.tended (fun _ _ => rfl) s.reviews).and
    ((isFixed_collaborators.tended s.collaborators).and (tended_selection s.selection)))
  have goes := checks.goesOn c ⟨holds, rfl, rfl, rfl⟩ ⟨confirming holds, rfl, rfl, rfl⟩
  generalize resumed : s.resume c = o at goes opened
  cases goes with
  | stands => exact absurd rfl opened
  | turned v holds => exact absurd holds.2.1 opened
  | opens unchecked =>
      refine ⟨{ s with confirming := true }, ⟨⟨resumed, rfl⟩, rfl, s.runs.length,
        s.selection.journal, ?_⟩, confirming holds⟩
      have nothing : ({ s with confirming := true } : Session).runDependencies s.runs.length =
          [] := by
        rw [runDependencies, List.getElem?_eq_none (Nat.le_refl _)]
      rw [nothing]
      rfl
  | checks goes =>
      rw [← resumed] at opened
      exact Goes.exists_opensOn merge goes resumed opened
  | reviews known =>
      rw [reviews_settle] at opened
      exact absurd (leaves_continueReview isAside_reviews _ _ _ s) opened

end

/-- A merge comes to its end if nobody refuses anything. -/
theorem exists_perform_merge (willing : s.selection.IsWilling) (cs : List Choice) :
    ∃ j, (merge cs).perform s =
      (.ok (), Journaled.setJournal j { s with selection := s.selection.takenInAll cs }) := by
  have meets := meets_merge (t := .lax False) (Selection.on_lax (.inr willing)) cs
    s.selection.journal (s := s)
  rcases meets with ⟨j, merged, -⟩ | ⟨never, -⟩
  · exact ⟨j, merged⟩
  · exact never.elim

/-- If nobody refuses anything, what a run has found is merged, and the review opens over it. -/
theorem exists_perform_afterCheck {i : Nat} (willing : s.selection.IsWilling)
    (unskipped : s.runState i ≠ .skipped) :
    ∃ j, (afterCheck i).perform s = openReview.perform (Journaled.setJournal j { s with
      selection := s.selection.takenInAll (s.runDependencies i) }) := by
  obtain ⟨j, merged⟩ := exists_perform_merge willing (s.runDependencies i)
  refine ⟨j, ?_⟩
  rw [afterCheck, perform_bind, perform_get]
  dsimp only
  rw [if_neg unskipped, perform_bind, perform_get]
  dsimp only
  rw [perform_bind, merged]

/-- A review whose rows can be made is counted. -/
theorem reviews_openReview (patient : t.ui.IsPatient)
    (presents : t.selection.review t.naming t.emptyBox = (.ok (), box)) :
    (openReview.perform t).2.reviews = t.reviews + 1 := by
  obtain ⟨j, opened⟩ := perform_openReview patient presents
  rw [opened]
  split
  · rfl
  · exact leaves_continueReview isAside_reviews false box t.nextPlan _

/-- The run that a confirmation waits for has come to its end and was not skipped, and the rows of
its review can be made. -/
structure IsDue (c i : Nat) (s : Session) : Prop where
  awaits : s.AwaitsEnd c i
  finished : (s.runState i).isFinished = true
  unskipped : s.runState i ≠ .skipped
  kept : s.selection.IsKept
  named : (s.selection.takenInAll (s.runDependencies i)).IsNamed s.naming

theorem IsDue.isReady {i : Nat} (due : s.IsDue c i) : s.isReady c = true := by
  rw [Session.isReady, due.awaits]
  exact due.finished

/-- A confirmation that is due opens a review if nobody refuses anything. -/
theorem IsDue.exists_opensOn {i : Nat} (due : s.IsDue c i) (patient : s.ui.IsPatient)
    (willing : s.selection.IsWilling) :
    ∃ t box j, OpensOn c s t ∧
      t.selection = Journaled.setJournal j (s.selection.takenInAll (s.runDependencies i)) ∧
      t.selection.review t.naming t.emptyBox = (.ok (), box) ∧ t.runs = s.runs ∧
      (s.resume c).reviews ≠ s.reviews := by
  obtain ⟨awaits, finished, unskipped, kept, named⟩ := due
  obtain ⟨j, goesOn⟩ := perform_inSurface_of_isFinished finished
  obtain ⟨j', answer⟩ :=
    exists_perform_afterCheck (s := Journaled.setJournal j s) (i := i)
      ⟨willing.pages, willing.listeners⟩ unskipped
  let t := Journaled.setJournal j' { s with
    selection := s.selection.takenInAll (s.runDependencies i) }
  have selected : t.selection =
      Journaled.setJournal j' (s.selection.takenInAll (s.runDependencies i)) := rfl
  have resumed : s.resume c = settle c (openReview.perform t).1 (openReview.perform t).2 := by
    rw [resume_of_isChecking (i := i) awaits (beq_self_eq_true i)]
    show settle c ((inSurface i [.closeByOutcome]).perform s).1
      ((inSurface i [.closeByOutcome]).perform s).2 = _
    have same : (Journaled.setJournal j s).selection.takenInAll
        ((Journaled.setJournal j s).runDependencies i) =
          Journaled.setJournal j (s.selection.takenInAll (s.runDependencies i)) :=
      takenInAll_setJournal _ s.selection j
    rw [goesOn, answer, same]
    rfl
  have kept : t.selection.IsKept := by
    have taken := Selection.isKept_takenInAll kept (s.runDependencies i)
    exact ⟨taken.plain, taken.known⟩
  have named : t.selection.IsNamed t.naming := named
  have made : (t.selection.review t.naming t.emptyBox).1 = .ok () :=
    Selection.review_fst kept named _
  have presents : t.selection.review t.naming t.emptyBox =
    (.ok (), (t.selection.review t.naming t.emptyBox).2) := Prod.ext made rfl
  refine ⟨t, _, j', ⟨⟨resumed, rfl⟩, rfl, i, j', selected⟩, selected, presents, rfl, ?_⟩
  rw [resumed, reviews_settle]
  exact ne_of_eq_of_ne (reviews_openReview patient presents) (Nat.succ_ne_self _)

/-- A dialog that has merged what a run found, and then presents a box in a review in which the user
waits. -/
def presenting (c i : Nat) (box : ReviewBox) (s : Session) : Session :=
  let t := ((merge (s.runDependencies i)).perform s).2
  ((callUi (.execReview box)).perform { t with reviews := t.reviews + 1 }).2.setStage c
    (.reviewing box s.nextPlan)

/-- The box with what a dialog has selected once what a run found is merged. -/
def boxAfter (i : Nat) (s : Session) : ReviewBox :=
  let t := ((merge (s.runDependencies i)).perform s).2
  (t.selection.review t.naming t.emptyBox).2

/-- Where a confirmation that is due goes on to, if nobody refuses anything or notes that the surface
goes away, and the user of the review waits. -/
theorem IsDue.resume_eq {i : Nat} (due : s.IsDue c i) (patient : s.ui.IsPatient)
    (willing : s.selection.IsWilling) (unnoted : s.surface.noted = false)
    (waits : s.nextPlan.waits = true) : s.resume c = s.presenting c i (s.boxAfter i) := by
  obtain ⟨awaits, finished, unskipped, kept, named⟩ := due
  let t := ((merge (s.runDependencies i)).perform s).2
  let box := s.boxAfter i
  obtain ⟨j, merged⟩ := exists_perform_merge willing (s.runDependencies i)
  have taken : t = Journaled.setJournal j { s with
      selection := s.selection.takenInAll (s.runDependencies i) } := congrArg Prod.snd merged
  have presents : t.selection.review t.naming t.emptyBox = (.ok (), box) := by
    refine Prod.ext ?_ rfl
    have all := Selection.isKept_takenInAll kept (s.runDependencies i)
    have all : (Journaled.setJournal j
        (s.selection.takenInAll (s.runDependencies i))).IsKept := ⟨all.plain, all.known⟩
    rw [taken]
    exact Selection.review_fst all named _
  have plan : t.nextPlan = s.nextPlan := by
    rw [taken]
    rfl
  have shown : ((callUi (.execReview box)).perform { t with reviews := t.reviews + 1 }).1 =
      .ok () := by
    have accepted (events : List Event) : t.ui.refusal events (.execReview box) = none := by
      rw [taken]
      exact patient events _ (fun same => nomatch same) fun same => nomatch same
    obtain ⟨j', shown, -⟩ := does_callUi (s := { t with reviews := t.reviews + 1 }) accepted
      t.selection.journal
    exact congrArg Prod.fst shown
  have answer : (afterCheck i).perform s = openReview.perform t := by
    rw [afterCheck, perform_bind, perform_get]
    dsimp only
    rw [if_neg unskipped, perform_bind, perform_get]
    dsimp only
    rw [perform_bind, taken, merged]
  have opens : openReview.perform t = (.ok (.waits (.reviewing box s.nextPlan)),
      ((callUi (.execReview box)).perform { t with reviews := t.reviews + 1 }).2) := by
    rw [← plan] at waits ⊢
    rw [openReview, perform_bind, perform_get]
    dsimp only
    rw [presents, perform_bind, perform_check]
    dsimp only
    rw [perform_bind, perform_modify]
    dsimp only
    rw [perform_bind]
    generalize (callUi (.execReview box)).perform { t with reviews := t.reviews + 1 } = called
      at shown ⊢
    obtain ⟨result, u⟩ := called
    obtain rfl : result = .ok () := shown
    dsimp only
    rw [← nextPlan, if_pos waits]
    rfl
  rw [resume_of_isChecking (i := i) awaits (beq_self_eq_true i)]
  show settle c ((inSurface i [.closeByOutcome]).perform s).1
    ((inSurface i [.closeByOutcome]).perform s).2 = _
  rw [perform_inSurface_of_unnoted finished unnoted, answer, opens]
  rfl

/-- What becomes of the selection of a dialog that presents it in a box, where the confirmation goes
on from there. -/
structure Reviews (c : Nat) (t o : Session) (box box' : ReviewBox) : Prop where
  made : t.nextPlan.moves.foldlM ReviewBox.moved box = .ok box'
  atOnce : t.nextPlan.waits = false → Committed t.nextPlan box' c t.selection o
  waits : t.nextPlan.waits = true →
    o.confirmations[c]? = some { stage := .reviewing box t.nextPlan } ∧
      t.selection.SameAs o.selection
  /-- While the review is waited for, anything may happen that leaves the selection as it is. -/
  later : ∀ events : List DialogEvent,
    (o.through events).confirmations[c]? = some { stage := .reviewing box t.nextPlan } →
      t.selection.SameAs (o.through events).selection →
        Committed t.nextPlan box' c t.selection ((o.through events).resume c)

/-- A review in which rows are ticked and unticked. -/
theorem exists_reviews (ready : t.selection.IsReady) (patient : t.ui.IsPatient)
    (inside : c < t.confirmations.length)
    (presents : t.selection.review t.naming t.emptyBox = (.ok (), box))
    (toggles : ∀ m ∈ t.nextPlan.moves, box.Toggles m) {o : Session}
    (goes : o = settle c (openReview.perform t).1 (openReview.perform t).2)
    (ready' : o.selection.IsReady) (patient' : o.ui.IsPatient) :
    ∃ box', Reviews c t o box box' := by
  have lists := Selection.lists_review ready.nodup rfl presents
  have named := isNamed_of_review presents
  obtain ⟨box', made, lists'⟩ := ReviewBox.exists_foldlM_moved lists toggles
  have named' := ReviewBox.isNamed_foldlM named made
  have comes {u : Session} (willing : u.selection.IsWilling) (patient : u.ui.IsPatient)
      (inside : c < u.confirmations.length) (same : t.selection.SameAs u.selection) :
      Committed t.nextPlan box' c t.selection (settle c ((finishReview box t.nextPlan).perform u).1
        ((finishReview box t.nextPlan).perform u).2) :=
    committed_of_finishReview same willing patient ready.nodup inside named' lists' toggles made
  obtain ⟨j, opened⟩ := perform_openReview patient presents
  rw [opened] at goes
  have same : t.selection.SameAs (Journaled.setJournal j t).selection := ⟨rfl, rfl, rfl⟩
  refine ⟨box', made, fun now => ?_, fun waits => ?_, fun events stands same => ?_⟩
  · rw [now, if_neg Bool.false_ne_true] at goes
    rw [goes]
    exact comes (u := Journaled.setJournal j { t with reviews := t.reviews + 1 })
      ⟨ready.willing.pages, ready.willing.listeners⟩ patient inside same
  · rw [waits, if_pos rfl] at goes
    rw [goes]
    exact ⟨confirmation?_settle _ inside, same⟩
  · have resumed : (o.through events).resume c = settle c
        ((finishReview box t.nextPlan).perform (o.through events)).1
        ((finishReview box t.nextPlan).perform (o.through events)).2 := by
      rw [resume, stands]
      rfl
    rw [resumed]
    refine comes ?_ ?_ (List.getElem?_eq_some_iff.mp stands).1 same
    · exact (has_through Selection.lasting_isReady events ready').willing
    · rw [ui_eq (collaborators_through o events)]
      exact patient'

/-- Whatever has happened to a dialog when a confirmation opens a review, the commit keeps the
entries whose rows are ticked at the end and drops all others, and what is declined stays as it was
when the review was opened. -/
theorem reviews_through {b : Session} (ready : b.selection.IsReady) (patient : b.ui.IsPatient)
    (events : List DialogEvent) (c : Nat)
    (opened : ((b.through events).resume c).reviews ≠ (b.through events).reviews) :
    ∃ t box, OpensOn c (b.through events) t ∧ t.selection.IsReady ∧
      t.selection.review t.naming t.emptyBox = (.ok (), box) ∧
      ((∀ m ∈ t.nextPlan.moves, box.Toggles m) →
        ∃ box', Reviews c t ((b.through events).resume c) box box') := by
  have lasts := Selection.lasting_isReady
  have ready : (b.through events).Has Selection.IsReady := has_through lasts events ready
  rw [← ui_eq (collaborators_through b events)] at patient
  generalize b.through events = s at ready patient opened ⊢
  have tended := (tended_of_lasting lasts).and (isAside_confirmations.tended (fun _ _ => rfl)
    s.confirmations)
  obtain ⟨t, opens, ready', confirmations⟩ := exists_opensOn (fun s i holds =>
    ⟨(upheld_of_lasting lasts).merge _ s holds.1,
      (isAside_confirmations.upheld _).merge _ s holds.2⟩) tended id ⟨ready, rfl⟩ opened
  have inside : c < t.confirmations.length := by
    rw [confirmations]
    refine Decidable.byContradiction fun outside => opened ?_
    rw [resume, List.getElem?_eq_none (Nat.le_of_not_lt outside)]
  rw [opens.goes, reviews_settle, ← opens.first] at opened
  obtain ⟨box, presents⟩ := exists_presents opened
  refine ⟨t, box, opens, ready', presents, fun toggles => exists_reviews ready'
    (ui_eq opens.given ▸ patient) inside presents toggles opens.goes ?_ ?_⟩
  · exact (sustained_of_lasting lasts).resume c ready
  · rw [ui_eq ((isFixed_collaborators.sustained s.collaborators).resume c rfl)]
    exact patient

/-- Names stay when choices are taken in, for what is replaced is replaced under its name. -/
theorem mem_names_takenInAll {sel : Selection} {name : String} (known : name ∈ sel.names)
    (cs : List Choice) : name ∈ (sel.takenInAll cs).names := by
  induction cs generalizing sel with
  | nil => exact known
  | cons c later ih =>
      refine ih ?_
      rw [Selection.names_takenIn]
      by_cases own : name = c.pack.name
      · exact List.mem_append_right _ (List.mem_singleton.mpr own)
      · exact List.mem_append_left _ (List.mem_filter.mpr ⟨known, by simpa using own⟩)

/-- A user who unticks the row of a mod, ticks it again and unticks it. -/
def wavering : ReviewPlan where
  waits := true
  moves := [.setEnabled (.str "Lanterns") (.bool false), .setEnabled (.str "Lanterns") (.bool true),
    .untick 0]

/-- What was selected is taken over by what it requires, and that is dropped in the review. -/
theorem reviews_through_lit :
    let b : Session := { lanterns with reviewPlan := fun _ => wavering }
    let s := b.through (.request :: lit.map (.confirm 0 0))
    let o := s.resume 0
    b.selection.IsReady ∧ b.ui.IsPatient ∧ o.reviews ≠ s.reviews ∧
      (∃ t box box', OpensOn 0 s t ∧ (∀ m ∈ t.nextPlan.moves, box.Toggles m) ∧
        Reviews 0 t o box box') ∧
      (o.selection.names, (o.resume 0).selection.names) = (["Lanterns"], []) ∧
      (o.selection.store.versions.map (·.base.isSelected),
        (o.resume 0).selection.store.versions.map (·.base.isSelected)) =
          ([false, true], [false, false]) ∧
      ((o.resume 0).verdict? 0 matches some (.returned true)) = true := by
  intro b s o
  have ready : b.selection.IsReady := ⟨by decide, nofun, nofun⟩
  have patient : b.ui.IsPatient := fun _ _ _ _ => rfl
  have opened : o.reviews ≠ s.reviews := by decide +kernel
  refine ⟨ready, patient, opened, ?_, by decide +kernel, by decide +kernel, by decide +kernel⟩
  obtain ⟨t, box, opens, ready', presents, reviews⟩ := reviews_through ready patient _ 0 opened
  have plans : t.nextPlan = wavering := by
    rw [nextPlan, reviewPlan_eq (opens.given.trans (collaborators_through b _))]
  have known : "Lanterns" ∈ t.selection.names := by
    obtain ⟨i, j, taken⟩ := opens.takes
    rw [taken]
    exact mem_names_takenInAll (by decide +kernel) _
  have row : (box.row? (.str "Lanterns")).isSome = true := by
    exact (ReviewBox.row?_isSome_iff (Selection.lists_review ready'.nodup rfl presents)).mpr
      ⟨"Lanterns", t.selection.perm_names_sortedEntries.mem_iff.mpr known, rfl⟩
  have toggles : ∀ m ∈ t.nextPlan.moves, box.Toggles m := by
    rw [plans]
    intro m among
    simp only [wavering, List.mem_cons, List.not_mem_nil, or_false] at among
    rcases among with rfl | rfl | rfl
    · exact row
    · exact row
    · trivial
  obtain ⟨box', committed⟩ := reviews toggles
  exact ⟨t, box, box', opens, toggles, committed⟩

end Session

end AddonPicker
