import AddonPicker.Proofs.Dialog.Resume

/-!
# The outcome of a confirmation

In whatever order a run takes its steps, its cancellation is asked for and the confirmation goes
on: how the run ended decides what the user was told, how the confirmation ends and what becomes of
the selection. And once the run has ended, the confirmation comes to its end by going on.

What this takes of the collaborators is in `Session.Prepared`: showing an error or warnings may
fail, nothing else does. A review in which a move of the user fails is left out.
-/

namespace AddonPicker

/-- How a confirmation that stands there ended, if it did. -/
def Stage.verdict? : Stage → Option Verdict
  | .ended v => some v
  | _ => none

namespace Session

/-- How the confirmation at a position ended, if it did. -/
def verdict? (c : Nat) (s : Session) : Option Verdict :=
  s.confirmations[c]?.bind fun confirmation => confirmation.stage.verdict?

/-- The news in the journal of a dialog. -/
def news (s : Session) : List UiCall :=
  s.selection.journal.news

/-- The box in which a selection is presented. -/
def boxOf (sel : Selection) (b : Session) : ReviewBox :=
  (sel.review b.naming b.emptyBox).2

/-- A review over a selection, which is presented as a whole and after some news. If no move of the
user fails, the confirmation returns the answer, and with it come the last news and the selection
that it leaves. -/
structure Reviewed (b : Session) (sel : Selection) (report : List UiCall) (v : Verdict)
    (s : Session) : Prop where
  whole : (sel.review b.naming b.emptyBox).1 = .ok ()
  answered : ∀ box, b.nextPlan.moves.foldlM ReviewBox.moved (b.boxOf sel) = .ok box →
    v = .returned b.nextPlan.approves ∧
    s.news = b.news ++ b.ui.shown (report ++ [.execReview (b.boxOf sel)] ++
      if b.nextPlan.approves then [.accept] else []) ∧
    s.selection = Journaled.setJournal s.selection.journal (b.nextPlan.concluded box sel)

/-- What a dialog has come to at the end of a confirmation, as the run decides it. -/
structure Outcome (b : Session) (r : Run DialogHandler) (v : Verdict) (s : Session) : Prop where
  /-- The dialog is rejected and the selection is as before. -/
  skipped : r.state = .skipped →
    v = .returned false ∧ s.news = b.news ++ b.ui.shown [.reject] ∧
      s.selection = Journaled.setJournal s.selection.journal b.selection
  /-- The error is shown and the selection presented as it was before. -/
  failed : r.state = .failed → ∃ reason, r.failure = some reason ∧
    Reviewed b b.selection [.showError "Error" reason] v s
  /-- Warnings are shown together if there are any, and the selection is presented with the
  dependencies merged. -/
  succeeded : r.state = .succeeded →
    (∀ c ∈ r.dependencies, ∃ name, b.naming.readable c.pack.provider = .ok name) →
    Reviewed b (b.selection.takenInAll r.dependencies)
      (if r.warnings.isEmpty then []
        else [.showWarnings "Warnings" ("\n".intercalate r.warnings)]) v s

variable {b : Session} {r r' : Run DialogHandler} {stage : Stage} {told : List UiCall}

/-- The outcome hangs on what the run shows. -/
theorem Outcome.of_view {v : Verdict} {s : Session} (outcome : Outcome b r v s)
    (view : r'.view = r.view) : Outcome b r' v s := by
  simp only [Run.view, RunView.mk.injEq] at view
  obtain ⟨state, dependencies, warnings, -, failure⟩ := view
  refine ⟨?_, ?_, ?_⟩
  · rw [state]
    exact outcome.skipped
  · rw [state, failure]
    exact outcome.failed
  · rw [state, dependencies, warnings]
    exact outcome.succeeded

/-- A review of a kept selection presents the whole of it. -/
theorem reviewed_of_concluded {v : Verdict} {s : Session} {sel : Selection}
    (concluded : Concluded b r v told s.selection) (unskipped : r.state ≠ .skipped)
    (presented : b.presented r = sel) (kept : sel.IsKept) (named : sel.IsNamed b.naming)
    (j : Journal) (news : j.news = b.news ++ told) :
    Reviewed b sel r.report v (Journaled.setJournal j s) := by
  have whole := Selection.review_fst kept named b.emptyBox
  refine ⟨whole, fun box made => ?_⟩
  have built : (b.presented r).review b.naming b.emptyBox = (.ok (), b.boxOf sel) := by
    rw [presented]
    exact Prod.ext whole rfl
  obtain ⟨returned, tells, leaves⟩ := concluded.reviewed unskipped _ _ built made
  rw [presented] at leaves
  rw [tells] at news
  exact ⟨returned, news, congrArg (Journaled.setJournal j) leaves⟩

/-- A confirmation that has ended has come to its outcome. -/
theorem outcome_of_concluded {v : Verdict} {s : Session} (own : r.IsOwn)
    (kept : b.selection.IsKept) (named : b.selection.IsNamed b.naming)
    (concluded : Concluded b r v told s.selection) (j : Journal)
    (news : j.news = b.news ++ told) : Outcome b r v (Journaled.setJournal j s) := by
  refine ⟨fun skipped => ?_, fun failed => ?_, fun succeeded covered => ?_⟩
  · obtain ⟨returned, tells, leaves⟩ := concluded.skipped skipped
    rw [tells] at news
    exact ⟨returned, news, congrArg (Journaled.setJournal j) leaves⟩
  · have unskipped : r.state ≠ .skipped := by rw [failed]; exact RunState.noConfusion
    have unsuccessful : r.state ≠ .succeeded := by rw [failed]; exact RunState.noConfusion
    obtain ⟨reason, known⟩ := Option.isSome_iff_exists.mp (own.consistent.failure.mpr failed)
    -- A failed run hands out no choices, so there is nothing to merge.
    have nothing : b.presented r = b.selection := by
      rw [presented, Run.dependencies_of_state_ne unsuccessful]
      rfl
    have reviewed := reviewed_of_concluded concluded unskipped nothing kept named j news
    rw [Run.report, failed, known] at reviewed
    exact ⟨reason, known, reviewed⟩
  · have unskipped : r.state ≠ .skipped := by rw [succeeded]; exact RunState.noConfusion
    have reviewed := reviewed_of_concluded concluded unskipped rfl
      (Selection.isKept_takenInAll kept _) (Selection.isNamed_takenInAll named _ covered) j news
    rw [Run.report, succeeded] at reviewed
    exact reviewed

/-- Whatever happens, a confirmation stays where it may stand. -/
theorem Standing.follow {run : Run DialogHandler} (prepared : b.Prepared run) {s : Session}
    (standing : Standing b told s) (events : List CheckEvent) (j : Journal) :
    ∃ (j' : Journal) (told' : List UiCall) (s' : Session),
      (Journaled.setJournal j s).follow b.confirmations.length b.runs.length events =
        Journaled.setJournal j' s' ∧
      j'.news = j.news ++ told' ∧ Standing b (told ++ told') s' := by
  induction events generalizing told s j with
  | nil =>
      refine ⟨j, [], s, rfl, (List.append_nil _).symm, ?_⟩
      rw [List.append_nil]
      exact standing
  | cons e later ih =>
      obtain ⟨j', told', s', happened, news, standing'⟩ := standing.advances prepared e j
      obtain ⟨j'', told'', s'', followed, news', standing''⟩ := ih standing' j'
      refine ⟨j'', told' ++ told'', s'', ?_, ?_, ?_⟩
      · rw [Session.follow, List.foldl_cons, happened]
        exact followed
      · rw [news', news, List.append_assoc]
      · rw [← List.append_assoc]
        exact standing''

/-- Where no way is left to go, a confirmation has ended. -/
theorem Stands.exists_ended {b' : Session} (stands : Stands b r told b' stage)
    (free : stage.toll = 0) : ∃ v, stage = .ended v := by
  cases stands with
  | surface => exact absurd free (Nat.succ_ne_zero _)
  | settling => exact absurd free (Nat.succ_ne_zero _)
  | reviewing => exact absurd free (Nat.succ_ne_zero _)
  | ended => exact ⟨_, rfl⟩

/-- Once its run has ended, a confirmation that goes on often enough ends. -/
theorem Stands.follow_replicate {b' : Session} (stands : Stands b r told b' stage)
    (patient : b.IsPatient) (own : r.IsOwn) (finished : r.state.isFinished = true) {n : Nat}
    (enough : stage.toll ≤ n) (j : Journal) :
    ∃ (v : Verdict) (j' : Journal) (told' : List UiCall) (r' : Run DialogHandler)
      (last : Session),
      (Journaled.setJournal j (b'.amid r stage)).follow b.confirmations.length b.runs.length
          (List.replicate n .resume) = Journaled.setJournal j' (last.amid r' (Stage.ended v)) ∧
        j'.news = j.news ++ told' ∧ r'.view = r.view ∧ r'.IsOwn ∧
        Stands b r' (told ++ told') last (.ended v) := by
  induction n generalizing r stage told b' j with
  | zero =>
      obtain ⟨v, rfl⟩ := stands.exists_ended (Nat.eq_zero_of_le_zero enough)
      refine ⟨v, j, [], r, b', rfl, (List.append_nil _).symm, rfl, own, ?_⟩
      rw [List.append_nil]
      exact stands
  | succ n ih =>
      have started : r.state ≠ .idle := RunState.ne_idle_of_isFinished finished
      -- Nothing that a confirmation waits for is left, and each time it goes on is one fewer.
      have ready : (Journaled.setJournal j (b'.amid r stage)).isReady b.confirmations.length =
          true := by
        rw [stands.isReady_eq, finished, Bool.or_true]
      obtain ⟨j', told', r', b'', stage', resumed, news, onward, stands', closer⟩ :=
        stands.resumes patient own (fun _ _ => finished) j
      have view := onward.view started
      have state : r'.state = r.state := congrArg RunView.state view
      obtain ⟨v, j'', told'', r'', last, followed, news', view', own', ended⟩ :=
        ih stands' onward.own (state ▸ finished) (by omega) j'
      refine ⟨v, j'', told' ++ told'', r'', last, ?_, ?_, view'.trans view, own', ?_⟩
      · rw [List.replicate_succ, Session.follow, List.foldl_cons, happen, ready]
        show ((Journaled.setJournal j (b'.amid r stage)).resume _).follow _ _ _ = _
        rw [resumed]
        exact followed
      · rw [news', news, List.append_assoc]
      · rw [← List.append_assoc]
        exact ended

theorem verdict?_amid {b' : Session} (j : Journal) (same : b'.confirmations = b.confirmations) :
    (Journaled.setJournal j (b'.amid r stage)).verdict? b.confirmations.length =
      stage.verdict? := by
  rw [verdict?, confirmation?_amid same]
  rfl

/-- A confirmation ends after its run. -/
theorem Stands.isFinished_of_verdict? {b' : Session} {v : Verdict}
    (stands : Stands b r told b' stage) (ended : stage.verdict? = some v) :
    stage = .ended v ∧ r.state.isFinished = true := by
  cases stands with
  | ended finished =>
      obtain rfl := Option.some.inj ended
      exact ⟨rfl, finished⟩
  | _ => exact nomatch ended

/-- A confirmation that stands at its end has come to its outcome. -/
theorem outcome_of_stands {b' : Session} {v : Verdict} {run : Run DialogHandler}
    (prepared : b.Prepared run) (own : r.IsOwn) (stands : Stands b r told b' (.ended v))
    {j : Journal} (news : j.news = b.news ++ told) :
    Outcome b r v (Journaled.setJournal j (b'.amid r (Stage.ended v))) := by
  cases stands with
  | ended finished concluded runs confirmations =>
      have concluded : Concluded b r v told (b'.amid r (Stage.ended v)).selection := concluded
      exact outcome_of_concluded own prepared.kept prepared.named concluded j news

/-- A confirmation that has ended has come to the outcome that its run decides. -/
theorem Standing.exists_outcome {run : Run DialogHandler} (prepared : b.Prepared run)
    {s : Session} (standing : Standing b told s) {j : Journal} (news : j.news = b.news ++ told)
    {v : Verdict}
    (ended : (Journaled.setJournal j s).verdict? b.confirmations.length = some v) :
    ∃ r, (Journaled.setJournal j s).runs[b.runs.length]? = some r ∧
      r.state.isFinished = true ∧ Outcome b r v (Journaled.setJournal j s) := by
  cases standing with
  | requested =>
      rw [verdict?, confirmation?_requested] at ended
      exact nomatch ended
  | @under r told b' stage own stands =>
      rw [verdict?_amid j stands.confirmations] at ended
      obtain ⟨rfl, finished⟩ := stands.isFinished_of_verdict? ended
      exact ⟨r, stands.run?_amid j, finished, outcome_of_stands prepared own stands news⟩

/-- A confirmation whose run has ended comes to the outcome by going on. -/
theorem Standing.exists_follow {run : Run DialogHandler} (prepared : b.Prepared run)
    {s : Session} (standing : Standing b told s) {j : Journal} (news : j.news = b.news ++ told)
    (known : (Journaled.setJournal j s).runs[b.runs.length]? = some r)
    (finished : r.state.isFinished = true) :
    ∃ n v, ((Journaled.setJournal j s).follow b.confirmations.length b.runs.length
        (List.replicate n .resume)).verdict? b.confirmations.length = some v ∧
      Outcome b r v ((Journaled.setJournal j s).follow b.confirmations.length b.runs.length
        (List.replicate n .resume)) := by
  cases standing with
  | requested => exact nomatch (run?_requested j).symm.trans known
  | @under r' told b' stage own stands =>
      obtain rfl : r' = r := Option.some.inj ((stands.run?_amid j).symm.trans known)
      obtain ⟨v, j', told', r', last, followed, news', view, own', ended⟩ :=
        stands.follow_replicate prepared.patient own finished (Nat.le_refl _) j
      have news'' : j'.news = b.news ++ (told ++ told') := by
        rw [news', news, List.append_assoc]
      refine ⟨stage.toll, v, ?_⟩
      rw [followed]
      have outcome := outcome_of_stands prepared own' ended news''
      exact ⟨verdict?_amid j' ended.confirmations, outcome.of_view view.symm⟩

/-- However a run and its confirmation go on, a confirmation that has ended has come to the outcome
that the run decides, and one whose run has ended comes to it by going on. -/
theorem outcome_of_follow {run : Run DialogHandler} (prepared : b.Prepared run)
    (events : List CheckEvent) :
    let c := b.confirmations.length
    let i := b.runs.length
    let s := b.request.2.follow c i events
    (∀ v, s.verdict? c = some v →
      ∃ r, s.runs[i]? = some r ∧ r.state.isFinished = true ∧ Outcome b r v s) ∧
    (∀ r, s.runs[i]? = some r → r.state.isFinished = true →
      ∃ n v, (s.follow c i (List.replicate n .resume)).verdict? c = some v ∧
        Outcome b r v (s.follow c i (List.replicate n .resume))) := by
  intro c i s
  obtain ⟨j, told, s', followed, news, standing⟩ :=
    Standing.follow prepared .requested events b.selection.journal
  have same : s = Journaled.setJournal j s' := followed
  rw [same]
  refine ⟨fun v ended => ?_, fun r known finished => ?_⟩
  · exact standing.exists_outcome prepared news ended
  · exact standing.exists_follow prepared news known finished

/-- A user interface that fails whenever it shows an error. -/
def touchy : Ui where
  refusal _ c := if c.method = .showError then some (.raised "RuntimeError" "no display") else none

/-- A dialog in which one mod is selected that requires another one. -/
def lamps : Session where
  type := .mods
  target := {}
  config := {}
  naming := .standard
  served := [.modrinth]
  settings := []
  ui := touchy
  surface := .standard
  reviewPlan _ := {}
  selection := {
    store := ⟨[.ofBase {
      addonId := .number 1, fileId := .number 10, fileName := "lamps.jar"
      dependencies := [{ addonId := .number 2 }] }]⟩
    entries := [{
      pack := { addonId := .number 1, name := "Lamps", provider := .modrinth }
      version := 0 }]
    pages := [{}]
    listeners := [confirmListener touchy] }

/-- The required mod cannot be looked up for want of a connection. -/
def disconnected : List CheckEvent :=
  [.resume, .move .begin,
    .move (.answerPack true (.error (.raised "ConnectionError" "no connection")))]

theorem prepared_lamps :
    lamps.Prepared { selected := lamps.choices, scope := lamps.scope } := by
  have patient : touchy.IsPatient := fun events c unlike _ => if_neg unlike
  refine ⟨⟨patient, ⟨?_, ?_⟩, fun _ => rfl⟩, rfl, rfl, rfl, rfl, ⟨?_, ?_⟩, ?_⟩
  · intro p among
    obtain rfl := List.mem_singleton.mp among
    exact ⟨fun _ _ noted => (nomatch noted), fun _ _ => rfl⟩
  · intro l among
    obtain rfl := List.mem_singleton.mp among
    exact isCalm_confirmListener patient
  · intro e among
    obtain rfl := List.mem_singleton.mp among
    exact Edited.isPlain_ofBase _
  · decide +kernel
  · intro e among
    obtain rfl := List.mem_singleton.mp among
    exact ⟨.str "Modrinth", rfl⟩

/-- The error is presented once although this fails, and the review is opened after it. -/
theorem outcome_of_follow_lamps :
    lamps.Prepared { selected := lamps.choices, scope := lamps.scope } ∧
    ∃ n, let s := (lamps.request.2.follow 0 0 disconnected).follow 0 0 (List.replicate n .resume)
      s.verdict? 0 = some (.returned true) ∧
      s.news = [.showError "Error" "no connection",
        .execReview (lamps.boxOf lamps.selection), .accept] := by
  have ended : (lamps.request.2.follow 0 0 disconnected).runs[0]?.map
      (fun r => (r.state, r.failure)) = some (.failed, some "no connection") := by
    decide +kernel
  obtain ⟨r, known, shows⟩ := Option.map_eq_some_iff.mp ended
  have state : r.state = .failed := congrArg Prod.fst shows
  have failure : r.failure = some "no connection" := congrArg Prod.snd shows
  obtain ⟨n, v, verdict, outcome⟩ := (outcome_of_follow prepared_lamps disconnected).2 r known
    (by rw [state]; rfl)
  obtain ⟨reason, found, reviewed⟩ := outcome.failed state
  obtain rfl := Option.some.inj (failure.symm.trans found)
  obtain ⟨rfl, news, -⟩ := reviewed.answered _ rfl
  exact ⟨prepared_lamps, n, verdict, news⟩

end Session

end AddonPicker
