import Mathlib
import AddonPicker.Proofs.Dialog.Heard
import AddonPicker.Proofs.Dialog.Merges
import AddonPicker.Proofs.Dialog.Subject
import AddonPicker.Proofs.Run.Informed
import AddonPicker.Proofs.Selection.Accounted

/-!
# Required dependencies in reviews

A review that opens after a check shows what the check has found, merged into what is selected by
then. Meanwhile the selection may have changed: packs come that nobody has checked, and packs go
that the check has counted on. Apart from these, a required dependency is lost only where the merge
replaces a pack by one of the same name.
-/

namespace AddonPicker

/-- The key that an inquiry waits for an answer about. -/
def InquiryPhase.key? : InquiryPhase → Option PackKey
  | .awaitingPack question => some question.key
  | .awaitingVersion question _ => some question.key
  | _ => none

/-- What a version requires stays with it. -/
theorem Edited.lasting_requiredDependencies (ds : List Dependency) :
    Lasting (·.base.requiredDependencies = ds) where
  flagged _ _ same := same
  linked e ids same := by
    obtain ⟨added, linked, -⟩ := Version.foldl_link ids e.base
    rw [Edited.linkAll, linked]
    exact same

namespace Session

variable {cat : Catalogue} {b s t : Session} {events : List DialogEvent} {c i : Nat}
  {r : Run DialogHandler}

/-- A run hears what catalogues answer. -/
def HearsFrom (cat : Catalogue) (s : Session) (i : Nat) (m : RunMove) : Prop :=
  ∀ r, s.runs[i]? = some r → m.IsFrom cat r

/-- Each run of a dialog goes the way of the resolution of what it was made for. -/
def IsInformed (cat : Catalogue) (s : Session) : Prop :=
  s.Abides (fun _ scope selected => (·.Attended cat scope selected)) fun _ scope selected closure =>
    ∃ fuel, (cat.resolve scope fuel selected).outcome = some (.ok closure)

theorem sustained_isInformed : Sustained (fun _ => True) (HearsFrom cat) (IsInformed cat) := by
  have sustained := sustained_abides
    (A := fun _ scope selected => (·.Attended cat scope selected))
    (B := fun _ scope selected closure =>
      ∃ fuel, (cat.resolve scope fuel selected).outcome = some (.ok closure))
    (fun _ _ _ => .scheduled) fun _ => InquiryPhase.lasting_attended cat
  exact { sustained with
    move := fun s i m heard => sustained.move s i m fun r known own =>
      (heard r known).leads own.follows.inquiry }

/-- An entry of a review takes part in the check before it: its pack was selected with its version
when the run was made, or it has come by the merge, of which the dialog knew nothing yet. -/
def TakesPart (s : Session) (r : Run DialogHandler) (e : Entry) : Prop :=
  (∃ n ∈ r.selected, n.pack = e.pack ∧ n.shared = some e.version) ∨ e ∉ s.selection.entries

/-- A version that was selected at some time is stored ever since, and requires what it required. -/
theorem HadSelected.hasAt {scope : Scope} {selected : List Choice}
    (had : b.HadSelected events scope selected) {n : Choice} (among : n ∈ selected) {id : VersionId}
    (held : n.shared = some id) : (b.through events).selection.store.HasAt id
      (·.base.requiredDependencies = n.version.requiredDependencies) := by
  obtain ⟨-, earlier, later, rfl, rfl⟩ := had
  obtain ⟨e, -, v, stored, rfl⟩ := Selection.mem_choices.mp among
  obtain rfl : e.version = id := Option.some.inj held
  rw [through_append]
  exact has_through (Selection.lasting_hasAt _ (Edited.lasting_requiredDependencies _)) later
    ⟨v, stored, rfl⟩

/-- Whatever has happened to a dialog whose runs hear what truthful catalogues answer, when a review
opens after a check that has succeeded, every dependency that an entry requires which took part in
the check is installed, or selected, or of no version that fits, of which there is a warning, or the
merge has given the name of its pack to another one, or its pack was selected when the run was made
and is not any more. -/
theorem accountsFor_through (unchecked : b.runs = []) (distinct : b.selection.names.Nodup)
    (truthful : cat.IsTruthful)
    (answered : b.Admits (IsFit (fun _ => True) (HearsFrom cat)) events)
    (opened : ((b.through events).resume c).reviews ≠ (b.through events).reviews) :
    let s := b.through events
    ∃ t, OpensOn c s t ∧ ∀ i, s.IsChecking c i →
      (∃ j, t.selection =
        Journaled.setJournal j (s.selection.takenInAll (t.runDependencies i))) ∧
      ∀ r, t.runs[i]? = some r → r.state = .succeeded →
        ∀ e ∈ t.selection.entries, s.TakesPart r e →
          t.selection.AccountsFor e b.target.isInstalled fun key =>
            cat.Warns b.scope r.warnings key ∨
              s.selection.Displaces r.dependencies t.selection key ∨
                s.selection.HasLost r.selected key := by
  intro s
  have lasting := Selection.lasting_nodup
  have nodup : s.selection.names.Nodup := has_through lasting events distinct
  obtain ⟨t, opens, -, merges⟩ := exists_opensOn_of_isChecking
    (fun s i => (upheld_of_lasting lasting).merge _ s) (tended_of_lasting lasting) id nodup opened
  refine ⟨t, opens, fun i checking => ?_⟩
  obtain ⟨j, taken⟩ := (merges i checking).2
  refine ⟨⟨j, taken⟩, fun r known succeeded e stands part => ?_⟩
  have known' : (s.resume c).runs[i]? = some r := opens.runs ▸ known
  have found : t.runDependencies i = r.dependencies := by rw [runDependencies, known]
  rw [found] at taken
  -- What the run hands out is the closure that a resolution comes to, and its own.
  have informed := sustained_isInformed.resume c
    (sustained_isInformed.through answered (abides_of_unchecked unchecked)) i r known'
  obtain ⟨fuel, ended⟩ := informed.follows.closure succeeded
  have dependencies : r.dependencies = r.closure.dependencies := if_pos succeeded
  have heardOf := sustained_heardOf.resume c (heardOf_through unchecked events) i r known'
  have apart : s.selection.IsApart r.dependencies :=
    Selection.isApart_of_own fun d among => heardOf.own (List.mem_append_right _ among)
  have about := (areAbout_through unchecked events).resume (hadSelected_through b events) c r
    (List.mem_of_getElem? known')
  -- Whoever takes part is among those that the resolution went through.
  have stands : e ∈ (s.selection.takenInAll r.dependencies).entries := by
    rw [taken] at stands
    exact stands
  have declares : ∃ n ∈ r.selected ++ r.dependencies, n.pack = e.pack ∧
      (s.selection.takenInAll r.dependencies).store.HasAt e.version
        (·.base.requiredDependencies = n.version.requiredDependencies) := by
    rcases part with ⟨n, among, own, held⟩ | new
    · exact ⟨n, List.mem_append_left _ among, own, Selection.hasAt_takenInAll
        (Edited.lasting_requiredDependencies _) (about.hasAt among held) _⟩
    · obtain ⟨d, among, own, has⟩ :=
        (Selection.exists_choice_takenInAll apart stands).resolve_left new
      exact ⟨d, List.mem_append_right _ among, own,
        has _ (Edited.lasting_requiredDependencies _) rfl⟩
  obtain ⟨n, among, own, declares⟩ := declares
  rw [dependencies] at taken apart among declares ⊢
  have accounts := Selection.accountsFor_takenInAll nodup apart truthful ended among own declares
  rw [about.1] at accounts
  rw [taken, informed.consistent.warnings succeeded]
  exact accounts

/-- A run that waits for an answer about a pack hears the catalogue if it is the answer there. -/
theorem hearsFrom_answerPack (key : PackKey) {answer : Except Fault (Option Pack)}
    (asks : (s.runs[i]?.bind fun r => r.inquiry.phase.key?) = some key)
    (answers : answer = cat.pack key.provider key.addonId) (intercepted : Bool) :
    s.HearsFrom cat i (.answerPack intercepted answer) := by
  intro r known question asking
  have about : r.inquiry.phase.key? = some key := by
    rw [known] at asks
    exact asks
  rw [asking] at about
  rw [Option.some.inj about]
  exact answers

theorem hearsFrom_answerVersion (key : PackKey) {answer : Except Fault (Option Held)}
    (asks : (s.runs[i]?.bind fun r => r.inquiry.phase.key?) = some key)
    (answers : ∀ question : Question, question.key = key →
      answer = cat.version question.key.provider question.dependency) (intercepted : Bool) :
    s.HearsFrom cat i (.answerVersion intercepted answer) := by
  intro r known question pack? asking
  have about : r.inquiry.phase.key? = some key := by
    rw [known] at asks
    exact asks
  rw [asking] at about
  rw [answers question (Option.some.inj about)]

def wires : Pack := { addonId := .number 5, name := "Wires", provider := .modrinth }

def stove : Pack := { addonId := .number 6, name := "Stove", provider := .modrinth }

/-- Two lanterns of that name, which require each other and wires. -/
def wiring : Catalogue :=
  { twins with
    version := fun _ d => .ok (some { version := {
      addonId := d.addonId, fileId := .number 20, fileName := "lanterns.jar"
      dependencies := [{ addonId := if d.addonId = .number 1 then .number 2 else .number 1 },
        { addonId := .number 5 }] } }) }

theorem isTruthful_wiring : wiring.IsTruthful := by
  intro provider id pack looked
  rw [wiring, twins] at looked
  dsimp only at looked
  split at looked
  · rename_i known
    cases looked
    rw [known.1]
    rfl
  · exact nomatch looked

/-- A dialog in which lanterns and wires are selected. There is a stove, too, which requires a
pipe. -/
def wired : Session :=
  { lanterns with selection := {
      store := ⟨lanterns.selection.store.versions ++ [
        .ofBase { addonId := .number 5, fileId := .number 50, fileName := "wires.jar" },
        .ofBase {
          addonId := .number 6, fileId := .number 60, fileName := "stove.jar"
          dependencies := [{ addonId := .number 7 }] }]⟩
      entries := lanterns.selection.entries ++ [{ pack := wires, version := 1 }] } }

/-- The other lanterns are found by the check. Before that, the wires go and the stove comes. -/
def swapped : List DialogEvent :=
  [.request, .confirm 0 0 (.check .resume), .remove wires 1, .add stove 2 (.bool false),
    .confirm 0 0 (.check (.move .begin)),
    .confirm 0 0 (.check (.move (.answerPack false (wiring.pack .modrinth (.number 2))))),
    .confirm 0 0 (.check (.move (.answerVersion false
      (wiring.version .modrinth { addonId := .number 2 }))))]

theorem admits_swapped : wired.Admits (IsFit (fun _ => True) (HearsFrom wiring)) swapped := by
  refine ⟨trivial, trivial, trivial, trivial, fun _ _ => trivial, ?_, ?_, trivial⟩
  · exact hearsFrom_answerPack ⟨.modrinth, .number 2⟩ (by decide +kernel) rfl false
  · refine hearsFrom_answerVersion ⟨.modrinth, .number 2⟩ (by decide +kernel)
      (fun question about => ?_) false
    have same : question.dependency.addonId = .number 2 := congrArg PackKey.addonId about
    show wiring.version .modrinth { addonId := .number 2 } = _
    rw [← same]
    rfl

def stoveChosen : Entry := { pack := stove, version := 2 }

/-- The entry that the merge makes of what was found. -/
def lanternsFound : Entry where
  pack := { addonId := .number 2, name := "Lanterns", provider := .modrinth }
  version := 3
  indexed := .bool true

theorem entries_swapped :
    let s := wired.through swapped
    s.selection.entries = lanterns.selection.entries ++ [stoveChosen] ∧
    (s.selection.takenInAll (s.runDependencies 0)).entries = [stoveChosen, lanternsFound] := by
  cbv

/-- The check is about to open the review. -/
theorem isDue_swapped :
    let s := wired.through swapped
    s.IsDue 0 0 ∧ s.IsChecking 0 0 ∧
    (s.runs.map fun r => (r.state, r.warnings)) = [(.succeeded, [])] ∧
    (s.runs.map fun r =>
      (r.selected.map fun n => (n.key, n.shared), r.dependencies.map Choice.key)) =
        [([(⟨.modrinth, .number 1⟩, some 0), (⟨.modrinth, .number 5⟩, some 1)],
          [⟨.modrinth, .number 2⟩])] ∧
    ((s.selection.takenInAll (s.runDependencies 0)).store.versions.map fun v =>
      v.base.requiredDependencies.map Dependency.addonId) =
        [[.number 2], [], [.number 7], [.number 1, .number 5]] :=
  ⟨⟨by decide +kernel, by decide +kernel, by decide +kernel, by decide +kernel,
    by decide +kernel⟩, by decide +kernel, by decide +kernel, by decide +kernel,
    by decide +kernel⟩

theorem exists_opensOn_swapped :
    let s := wired.through swapped
    (s.resume 0).reviews ≠ s.reviews ∧ ∃ t r j, OpensOn 0 s t ∧
      t.selection = Journaled.setJournal j (s.selection.takenInAll (s.runDependencies 0)) ∧
      t.runs = s.runs ∧ t.runs[0]? = some r ∧ r.state = .succeeded ∧ r.warnings = [] ∧
      r.selected.map (fun n => (n.key, n.shared)) =
        [(⟨.modrinth, .number 1⟩, some 0), (⟨.modrinth, .number 5⟩, some 1)] ∧
      r.dependencies.map Choice.key = [⟨.modrinth, .number 2⟩] := by
  intro s
  have ready : wired.selection.IsReady := ⟨by decide, nofun, nofun⟩
  obtain ⟨patient, willing⟩ : s.ui.IsPatient ∧ s.selection.IsWilling :=
    agrees_through ready (fun _ _ _ _ => rfl) swapped
  obtain ⟨due, -, ends, about, -⟩ : s.IsDue 0 0 ∧ _ := isDue_swapped
  obtain ⟨t, -, j, opens, taken, -, runs, opened⟩ := due.exists_opensOn patient willing
  obtain ⟨r, only, ends⟩ := List.map_eq_singleton_iff.mp ends
  obtain ⟨succeeded, unwarned⟩ := Prod.mk.inj ends
  have about : s.runs.map _ = [_] := about
  rw [only] at about
  obtain ⟨selected, found⟩ := Prod.mk.inj (List.singleton_inj.mp about)
  refine ⟨opened, t, r, j, opens, taken, runs, ?_, succeeded, unwarned, selected, found⟩
  rw [runs, only]
  rfl

theorem takesPart_lanternsFound (r : Run DialogHandler) :
    (wired.through swapped).TakesPart r lanternsFound := by
  refine .inr fun before => ?_
  rw [entries_swapped.1] at before
  have version : lanternsFound.version ∈ [0, 2] := List.mem_map_of_mem (f := Entry.version) before
  exact absurd version (by decide)

/-- The review opens over the lanterns that were found. -/
theorem accountsFor_through_swapped :
    let s := wired.through swapped
    wired.runs = [] ∧ wired.selection.names.Nodup ∧ wiring.IsTruthful ∧
    wired.Admits (IsFit (fun _ => True) (HearsFrom wiring)) swapped ∧
    (s.resume 0).reviews ≠ s.reviews ∧ s.IsChecking 0 0 ∧
    ∃ t r, OpensOn 0 s t ∧ t.runs[0]? = some r ∧ r.state = .succeeded ∧
      lanternsFound ∈ t.selection.entries ∧ s.TakesPart r lanternsFound ∧
      t.selection.AccountsFor lanternsFound wired.target.isInstalled fun key =>
        wiring.Warns wired.scope r.warnings key ∨
          s.selection.Displaces r.dependencies t.selection key ∨
            s.selection.HasLost r.selected key := by
  intro s
  have distinct : wired.selection.names.Nodup := by decide
  have checking : s.IsChecking 0 0 := isDue_swapped.2.1
  obtain ⟨opened, t', r, -, opens', -, runs', known, succeeded, -⟩ := exists_opensOn_swapped
  obtain ⟨t, opens, accounts⟩ :=
    accountsFor_through rfl distinct isTruthful_wiring admits_swapped opened
  obtain ⟨⟨j, taken⟩, accounts⟩ := accounts 0 checking
  have runs : t.runs = t'.runs := opens.runs.trans opens'.runs.symm
  have stands : lanternsFound ∈ t.selection.entries := by
    rw [taken, Selection.entries_setJournal, runDependencies_congr (runs.trans runs'),
      entries_swapped.2]
    exact List.mem_cons_of_mem _ (List.mem_singleton_self _)
  rw [← runs] at known
  have part := takesPart_lanternsFound r
  exact ⟨rfl, distinct, isTruthful_wiring, admits_swapped, opened, checking, t, r, opens, known,
    succeeded, stands, part, accounts r known succeeded lanternsFound stands part⟩

/-- Nobody has asked for the pipe. The lanterns that were selected have lost their name to those
that were found, which require them, and the wires are gone. No warning was due, and there is
none. -/
theorem not_accountsFor_swapped :
    let s := wired.through swapped
    wired.runs = [] ∧ wired.selection.names.Nodup ∧ wiring.IsTruthful ∧
    wired.Admits (IsFit (fun _ => True) (HearsFrom wiring)) swapped ∧
    (s.resume 0).reviews ≠ s.reviews ∧ s.IsChecking 0 0 ∧
    ∃ t r, OpensOn 0 s t ∧ t.runs[0]? = some r ∧ r.state = .succeeded ∧
      let unfit (key : PackKey) : Prop :=
        wiring.version key.provider { addonId := key.addonId } = .ok none ∨
          wiring.Warns wired.scope r.warnings key
      (∃ e ∈ t.selection.entries, ¬ s.TakesPart r e ∧
        ¬ t.selection.AccountsFor e wired.target.isInstalled fun key =>
          unfit key ∨ s.selection.Displaces r.dependencies t.selection key ∨
            s.selection.HasLost r.selected key) ∧
      ∃ e ∈ t.selection.entries, s.TakesPart r e ∧
        (¬ t.selection.AccountsFor e wired.target.isInstalled fun key =>
          unfit key ∨ s.selection.HasLost r.selected key) ∧
        ¬ t.selection.AccountsFor e wired.target.isInstalled fun key =>
          unfit key ∨ s.selection.Displaces r.dependencies t.selection key := by
  have distinct : wired.selection.names.Nodup := by decide
  have admitted := admits_swapped
  obtain ⟨opened, t, r, j, opens, taken, -, known, succeeded, unwarned, selected, found⟩ :=
    exists_opensOn_swapped
  have part := takesPart_lanternsFound r
  obtain ⟨before, after⟩ := entries_swapped
  obtain ⟨-, checking, -, -, stored⟩ := isDue_swapped
  -- All that counts of the dialog is said.
  generalize wired.through swapped = s at *
  have entries : t.selection.entries = [stoveChosen, lanternsFound] := by
    rw [taken, Selection.entries_setJournal, after]
  have unfit (key : PackKey) :
      ¬ (wiring.version key.provider { addonId := key.addonId } = .ok none ∨
        wiring.Warns wired.scope r.warnings key) := by
    rintro (unavailable | ⟨-, -, -, w, warned, -⟩)
    · exact nomatch unavailable
    · rw [unwarned] at warned
      exact absurd warned List.not_mem_nil
  have unselected (id : AddonId) (other : id ∉ [.number 6, .number 2]) :
      ¬ t.selection.Holds ⟨.modrinth, id⟩ := by
    rintro ⟨e, stands, key⟩
    rw [entries] at stands
    obtain rfl : e.pack.addonId = id := congrArg PackKey.addonId key
    exact other (List.mem_map_of_mem (f := fun e : Entry => e.pack.addonId) stands)
  have undisplaced (id : AddonId) (other : id ∉ [.number 1, .number 6, .number 2]) :
      ¬ s.selection.Displaces r.dependencies t.selection ⟨.modrinth, id⟩ := by
    intro displaces
    have among := List.mem_map_of_mem (f := PackKey.addonId) displaces.mem_keys
    rw [before, found] at among
    exact other among
  have requires (id : VersionId) : (t.selection.store.get? id).map (fun v =>
      v.base.requiredDependencies.map Dependency.addonId) =
        [[.number 2], [], [.number 7], [.number 1, .number 5]][id]? := by
    rw [← stored, taken]
    exact List.getElem?_map.symm
  refine ⟨rfl, distinct, isTruthful_wiring, admitted, opened, checking, t, r, opens, known,
    succeeded, ⟨stoveChosen, ?_, ?_, ?_⟩, lanternsFound, ?_, part, ?_, ?_⟩
  · rw [entries]
    exact List.mem_cons_self
  · rintro (⟨n, among, -, held⟩ | new)
    · have shared := List.mem_map_of_mem (f := fun n : Choice => (n.key, n.shared)) among
      rw [selected, held] at shared
      simp [stoveChosen] at shared
    · refine new ?_
      rw [before]
      exact List.mem_append_right _ (List.mem_singleton_self _)
  · refine Selection.not_accountsFor (requires 2) (List.mem_singleton_self _) rfl
      (unselected _ (by decide)) ?_
    rintro (because | displaces | ⟨chosen, -⟩)
    · exact unfit _ because
    · exact undisplaced _ (by decide) displaces
    · obtain ⟨n, among, key⟩ := List.mem_map.mp chosen
      have shared := List.mem_map_of_mem (f := fun n : Choice => (n.key, n.shared)) among
      rw [selected, key] at shared
      simp [stoveChosen] at shared
  · rw [entries]
    exact List.mem_cons_of_mem _ (List.mem_singleton_self _)
  · refine Selection.not_accountsFor (requires 3) List.mem_cons_self rfl
      (unselected _ (by decide)) ?_
    rintro (because | ⟨-, lost⟩)
    · exact unfit _ because
    · refine lost ⟨lanterns.selection.entries.head (by decide), ?_, rfl⟩
      rw [before]
      exact List.mem_cons_self
  · refine Selection.not_accountsFor (requires 3)
      (List.mem_cons_of_mem _ (List.mem_singleton_self _)) rfl (unselected _ (by decide)) ?_
    rintro (because | displaces)
    · exact unfit _ because
    · exact undisplaced _ (by decide) displaces

end Session

end AddonPicker
