import AddonPicker.Proofs.Dialog.Marked

/-!
# The confirm button

The confirm button is told what to be in two places only: when the dialog comes up, with nothing
selected, and by the listener that hears of every change. Between the two parts of a replacement it
is told what will not last, and it may refuse at any time; but whoever changes the entries tells it
afterwards, before anything else can fail, and what it was told counts even if it then refuses.
-/

namespace AddonPicker

open Act

/-- What an event tells the confirm button to be, if it is a call of it. -/
def Event.button? : Event → Option Bool
  | .ui (.setConfirmEnabled enabled) => some enabled
  | _ => none

theorem Event.button?_of_not_isButton {e : Event} (other : e.isButton = false) :
    e.button? = none := by
  unfold Event.isButton at other
  unfold Event.button?
  split <;> simp_all

/-- What the confirm button was told last. -/
def Journal.button? (j : Journal) : Option Bool :=
  (j.events.filterMap Event.button?).getLast?

namespace Journal

@[simp] theorem button?_write (level : Level) (message : String) (j : Journal) :
    (j.write level message).button? = j.button? := by
  simp [button?]

@[simp] theorem button?_noteLookup (l : Lookup) (j : Journal) :
    (j.noteLookup l).button? = j.button? := rfl

/-- The last call of the button is the one that counts. -/
@[simp] theorem button?_note_setConfirmEnabled (enabled : Bool) (j : Journal) :
    (j.note (.ui (.setConfirmEnabled enabled))).button? = some enabled := by
  simp [button?, note, Event.button?]

theorem button?_note {e : Event} (other : e.isButton = false) (j : Journal) :
    (j.note e).button? = j.button? := by
  simp [button?, note, Event.button?_of_not_isButton other]

end Journal

namespace Selection

variable {ui : Ui} {s : Selection}

/-- A selection that only the confirm button of a user interface listens to, on pages that leave the
button alone. -/
structure IsWired (ui : Ui) (s : Selection) : Prop where
  listeners : s.listeners = [Session.confirmListener ui]
  pages : ∀ p ∈ s.pages, ∀ name e, p.note name = some e → e.isButton = false

/-- The confirm button was told last whether anything is selected. -/
structure LightsButton (ui : Ui) (s : Selection) : Prop extends IsWired ui s where
  button : s.journal.button? = some !s.isEmpty

theorem IsWired.modify_pages (wired : s.IsWired ui) {f : Page → Page}
    (same : ∀ p, (f p).note = p.note) (position : Nat) :
    { s with pages := s.pages.modify position f }.IsWired ui := by
  refine ⟨wired.listeners, fun p among => ?_⟩
  obtain ⟨before, known, rfl | rfl⟩ := exists_of_mem_modify among
  · exact wired.pages _ known
  · rw [same]
    exact wired.pages before known

/-- What is written otherwise does not concern the button. -/
theorem LightsButton.note (lights : s.LightsButton ui) {e : Event} (other : e.isButton = false) :
    { s with journal := s.journal.note e }.LightsButton ui :=
  ⟨⟨lights.listeners, lights.pages⟩, (Journal.button?_note other _).trans lights.button⟩

theorem LightsButton.modify_pages (lights : s.LightsButton ui) {f : Page → Page}
    (same : ∀ p, (f p).note = p.note) (position : Nat) :
    { s with pages := s.pages.modify position f }.LightsButton ui :=
  ⟨lights.toIsWired.modify_pages same position, lights.button⟩

/-- Marks are cleared without a word to the button. -/
theorem keeps_lightsButton_clearPage (name : String) (position : Nat) :
    Keeps (LightsButton ui) (clearPage name position) := by
  intro s lights
  rw [clearPage, perform_bind, perform_get]
  dsimp only
  cases found : s.pages[position]? with
  | none => exact lights
  | some p =>
      have cleared : Keeps (LightsButton ui) (get >>= fun now : Selection => do
          Act.failOn (p.refusal now.journal.events name)
          modify fun s => { s with pages := s.pages.modify position (·.unmark name) }
        : Act Selection Unit) :=
        keeps_get_bind fun _ => (keeps_failOn _).bind fun _ =>
          keeps_modify fun s lights =>
            lights.modify_pages (f := (·.unmark name)) (fun _ => rfl) position
      dsimp only
      cases noted : p.note name with
      | none => exact cleared s lights
      | some e =>
          have other := lights.pages p (List.mem_of_getElem? found) name e noted
          exact cleared _ (lights.note other)

theorem keeps_lightsButton_clearMarks (name : String) :
    Keeps (LightsButton ui) (clearMarks name) :=
  keeps_get_bind fun _ => keeps_forM (keeps_lightsButton_clearPage name) _

theorem keeps_isWired_flag (id : VersionId) (selected : Bool) :
    Keeps (IsWired ui) (flag id selected) :=
  keeps_modify fun _ wired => ⟨wired.listeners, wired.pages⟩

theorem keeps_isWired_say (level : Level) (message : String) :
    Keeps (IsWired ui) (Journaled.say level message) :=
  keeps_modify fun _ wired => ⟨wired.listeners, wired.pages⟩

theorem keeps_isWired_drop (pack : Pack) (version : VersionId) :
    Keeps (IsWired ui) (drop pack version) := by
  refine (keeps_isWired_flag version false).bind fun _ => keeps_get_bind fun s => ?_
  split
  · have dropped : Keeps (IsWired ui) (modify fun s : Selection => { s with
        entries := s.entries.filter (·.pack.name != pack.name) }) :=
      keeps_modify fun _ wired => ⟨wired.listeners, wired.pages⟩
    exact dropped.bind fun _ => (keeps_isWired_flag _ false).bind fun _ => keeps_isWired_say _ _
  · exact keeps_pure ()

theorem keeps_isWired_enter (pack : Pack) (version : VersionId) (indexed : Value) :
    Keeps (IsWired ui) (enter pack version indexed) := by
  have entered : Keeps (IsWired ui) (modify fun s : Selection => { s with
      entries := s.entries ++ [{ pack, version, indexed }] }) :=
    keeps_modify fun _ wired => ⟨wired.listeners, wired.pages⟩
  exact (keeps_isWired_flag version true).bind fun _ => entered.bind fun _ =>
    keeps_get_bind fun _ => keeps_isWired_say _ _

theorem perform_drop_fst (pack : Pack) (version : VersionId) (s : Selection) :
    ((drop pack version).perform s).1 = .ok () := by
  simp only [drop, flag, perform_bind, perform_modify, perform_get]
  split <;> rfl

variable (hears : ui.omits .setConfirmEnabled = false)

include hears

/-- The button is told, and what it was told stays even if it refuses. -/
theorem IsWired.lightsButton_notify (wired : s.IsWired ui) :
    (notify.perform s).2.LightsButton ui := by
  have told : notify.perform s = (do
      Journaled.note (.ui (.setConfirmEnabled !s.isEmpty))
      let now ← get
      failOn (ui.refusal (Selection.journal now).events (.setConfirmEnabled !s.isEmpty))
      pure () : Act Selection Unit).perform s := by
    rw [notify, perform_bind, perform_get]
    simp [wired.listeners, Session.confirmListener, hears]
  have quiet : Keeps (LightsButton ui) (do
      let now ← get
      failOn (ui.refusal (Selection.journal now).events (.setConfirmEnabled !s.isEmpty))
      pure () : Act Selection Unit) :=
    keeps_get_bind fun _ => (keeps_failOn _).bind fun _ => keeps_pure _
  rw [told]
  refine holds_bind ?_ fun _ => quiet
  exact ⟨⟨wired.listeners, wired.pages⟩, Journal.button?_note_setConfirmEnabled _ _⟩

/-- What changes the entries and cannot fail leaves the button to be told. -/
theorem keeps_lightsButton_notify {change : Act Selection Unit}
    (succeeds : ∀ s, (change.perform s).1 = .ok ()) (wired : Keeps (IsWired ui) change) :
    Keeps (LightsButton ui) (do change; notify) := by
  intro s lights
  have wired := wired s lights.toIsWired
  rw [perform_bind]
  have succeeds := succeeds s
  generalize change.perform s = performed at succeeds wired ⊢
  obtain ⟨result, s'⟩ := performed
  obtain rfl : result = .ok () := succeeds
  exact wired.lightsButton_notify hears

/-- However deselecting a pack ends, the button was told what is left. -/
theorem keeps_lightsButton_remove (pack : Pack) (version : VersionId) :
    Keeps (LightsButton ui) (remove pack version) := by
  rw [remove_eq]
  refine (keeps_lightsButton_clearMarks pack.name).bind fun _ => ?_
  exact keeps_lightsButton_notify hears (perform_drop_fst pack version)
    (keeps_isWired_drop pack version)

/-- A replacement that is refused halfway leaves the entry dropped, which the button was told. -/
theorem keeps_lightsButton_add (pack : Pack) (version : VersionId) (indexed : Value) :
    Keeps (LightsButton ui) (add pack version indexed) := by
  rw [add_eq]
  refine (keeps_lightsButton_remove hears pack version).bind fun _ => ?_
  rw [← bind_assoc]
  have entered : Keeps (LightsButton ui) (do enter pack version indexed; notify) :=
    keeps_lightsButton_notify hears (fun _ => rfl) (keeps_isWired_enter pack version indexed)
  exact entered.bind fun _ => keeps_pure _

theorem lasting_lightsButton : Lasting (LightsButton ui) where
  write s level message lights :=
    ⟨⟨lights.listeners, lights.pages⟩, (Journal.button?_write level message _).trans lights.button⟩
  lookup s l lights :=
    ⟨⟨lights.listeners, lights.pages⟩, (Journal.button?_noteLookup l _).trans lights.button⟩
  note s e other lights := lights.note other
  store s c lights := ⟨⟨lights.listeners, lights.pages⟩, lights.button⟩
  term s position term lights :=
    lights.modify_pages (f := fun p => { p with searchTerm := term }) (fun _ => rfl) position
  add := keeps_lightsButton_add hears
  remove := keeps_lightsButton_remove hears
  pick position pack version := by
    have marked : Keeps (LightsButton ui) (markPage position pack.name) := by
      refine keeps_modify fun s lights => lights.modify_pages (fun p => ?_) position
      unfold Page.mark
      split <;> rfl
    exact (keeps_lightsButton_add hears pack version _).bind fun _ => marked

end Selection

namespace Session

/-- The confirm button is all that listens to a selection, and was told last what to be. -/
def TellsButton (ui : Ui) (s : Session) : Prop :=
  s.selection.listeners = [confirmListener ui] ∧
    s.selection.journal.button? = some !s.selection.isEmpty

variable {ui : Ui}

theorem spoken_tellsButton : Spoken (TellsButton ui) where
  say level message := keeps_modify fun s tells =>
    ⟨tells.1, (Journal.button?_write level message s.selection.journal).trans tells.2⟩
  note _ other := keeps_modify fun s tells =>
    ⟨tells.1, (Journal.button?_note other s.selection.journal).trans tells.2⟩
  keepSetting _ _ := keeps_modify fun _ tells => tells

theorem keeps_tellsButton_openPages : Keeps (TellsButton ui) openPages := by
  refine keeps_get_bind fun s => (keeps_mapM (fun p => keeps_check _) _).bind fun pages => ?_
  exact keeps_modify fun _ tells => tells

/-- What the button is told counts, whether or not it then refuses. -/
theorem tellsButton_callUi {s : Session} {enabled : Bool}
    (hears : s.ui.omits .setConfirmEnabled = false)
    (listening : s.selection.listeners = [confirmListener ui])
    (right : enabled = !s.selection.isEmpty) :
    ((callUi (.setConfirmEnabled enabled)).perform s).2.TellsButton ui := by
  rw [callUi, perform_bind, perform_get]
  dsimp only
  rw [Ui.call]
  simp only [UiCall.method, hears, Bool.not_false, if_true]
  refine holds_bind ?_ fun _ => keeps_get_bind fun _ => keeps_failOn _
  refine ⟨listening, ?_⟩
  show (s.selection.journal.note _).button? = some !s.selection.isEmpty
  rw [Journal.button?_note_setConfirmEnabled, right]

/-- A dialog that comes up with nothing selected tells the button so, before anything else. -/
theorem tellsButton_openDialog {b : Session} (hears : b.ui.omits .setConfirmEnabled = false)
    (empty : b.selection.entries = []) (alone : b.selection.listeners = []) :
    (openDialog.perform b).2.TellsButton b.ui := by
  rw [openDialog, perform_bind, perform_get]
  dsimp only
  rw [perform_bind, onSelection, perform_onPart, perform_modify]
  dsimp only
  refine holds_bind (tellsButton_callUi hears ?_ ?_) fun _ => ?_
  · simp [alone]
  · simp [Selection.isEmpty, empty]
  · exact (spoken_tellsButton.callUi rfl).bind fun _ => keeps_tellsButton_openPages.bind fun _ =>
      spoken_tellsButton.restoreGeometry

/-- The pages that a dialog makes have nothing to say about the button. -/
theorem ensures_quiet_openDialog : Ensures (Has fun sel =>
    ∀ p ∈ sel.pages, ∀ name e, p.note name = some e → e.isButton = false) openDialog := by
  have made : Ensures (Has fun sel =>
      ∀ p ∈ sel.pages, ∀ name e, p.note name = some e → e.isButton = false) openPages := by
    refine ensures_openPages_of fun s pages _ blank p among name e noted => ?_
    obtain ⟨id, title, provider, rfl⟩ := blank p among
    cases noted
  have spoken : Spoken (Has fun sel =>
      ∀ p ∈ sel.pages, ∀ name e, p.note name = some e → e.isButton = false) :=
    ⟨fun _ _ => keeps_modify fun _ quiet => quiet, fun _ _ => keeps_modify fun _ quiet => quiet,
      fun _ _ => keeps_modify fun _ quiet => quiet⟩
  exact ensures_bind fun _ => ensures_bind fun _ => ensures_bind fun _ => ensures_bind fun _ =>
    made.bind fun _ => spoken.restoreGeometry

/-- Whatever happens to a dialog that came up with nothing selected, and wherever the user interface
fails, the confirm button was told last whether anything is selected. -/
theorem button_through {b : Session} (hears : b.ui.omits .setConfirmEnabled = false)
    (empty : b.selection.entries = []) (alone : b.selection.listeners = [])
    (opened : (openDialog.perform b).1 = .ok ()) (events : List DialogEvent) :
    ((openDialog.perform b).2.through events).selection.journal.button? =
      some !((openDialog.perform b).2.through events).selection.isEmpty := by
  have tells := tellsButton_openDialog hears empty alone
  have lights : (openDialog.perform b).2.Has (Selection.LightsButton b.ui) :=
    ⟨⟨tells.1, ensures_quiet_openDialog b () opened⟩, tells.2⟩
  exact (has_through (Selection.lasting_lightsButton hears) events lights).button

/-- The button goes on with the pick and stays on through the merge that replaces it. After the
review it refuses: the pick that is then tried has dropped the entry, and the button was told. -/
theorem button_through_shopping :
    (shop.ui.omits .setConfirmEnabled = false ∧ shop.selection.entries = [] ∧
      shop.selection.listeners = [] ∧ (openDialog.perform shop).1 = .ok ()) ∧
      (∀ events, ((openDialog.perform shop).2.through events).selection.journal.button? =
        some !((openDialog.perform shop).2.through events).selection.isEmpty) ∧
      [[], shopping.take 1, shopping, shopping ++ [.pick 1 lanternPack 0]].map (fun events =>
        ((openDialog.perform shop).2.through events).selection.journal.button?) =
          [some false, some true, some true, some false] := by
  have opened : (openDialog.perform shop).1 = .ok () := rfl
  exact ⟨⟨rfl, rfl, rfl, opened⟩, button_through rfl rfl rfl opened, by decide +kernel⟩

end Session

end AddonPicker
