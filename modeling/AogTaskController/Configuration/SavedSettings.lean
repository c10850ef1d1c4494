import AogTaskController.Configuration.Store

/-!
# The content of settings.json

Whatever is called and whatever fails, `settings.json` holds the document of the last `save()` that
returned true, or still what it held at first. A `Settings` object that loads it gets the fields back.
-/

namespace AogTaskController.Configuration

open Framework

def Observed.succeeded : Observed String → Option (Settings String)
  | .saved s (.returned true) => some s
  | _ => none

def lastSaved (trace : List (Observed String)) : Option (Settings String) :=
  (trace.filterMap Observed.succeeded).getLast?

def committed (dump : Json → String) (initial : Option String) (saved : Option (Settings String)) :
    Option String :=
  saved.elim initial fun s => some (dump s.document)

private theorem lastSaved_append (trace more : List (Observed String)) :
    lastSaved (trace ++ more) = (lastSaved more).or (lastSaved trace) := by
  rw [lastSaved, List.filterMap_append, List.getLast?_append]
  rfl

private theorem mem_of_lastSaved {trace : List (Observed String)} {s : Settings String}
    (h : lastSaved trace = some s) :
    .saved s (.returned true) ∈ trace := by
  obtain ⟨x, hx, hsucceeded⟩ := List.mem_filterMap.mp (List.mem_of_getLast? h)
  rw [Observed.succeeded.eq_def] at hsucceeded
  split at hsucceeded
  · rw [← Option.some.inj hsucceeded]
    exact hx
  · cases hsucceeded

private theorem committed_append (dump : Json → String) (initial : Option String)
    (trace more : List (Observed String)) :
    committed dump initial (lastSaved (trace ++ more)) =
      committed dump (committed dump initial (lastSaved trace)) (lastSaved more) := by
  rw [lastSaved_append]
  cases lastSaved more with
  | none => rfl
  | some s => rfl

variable {dump : Json → String} {parse : String → Option Json}

/-- A call leaves in the file what its last successful `save()` wrote, or what was there. -/
def Reply.Commits (dump : Json → String) (files : Files) (reply : Reply String) : Prop :=
  reply.store.files.settings = committed dump files.settings (lastSaved reply.saves)

namespace Store

variable (st : Store String) (f : Failures)

/-- Only the rename touches the file, and only after the whole document was written. -/
private theorem saveFile_settings : (st.saveFile dump f).2.settings =
    if (st.saveFile dump f).1 = .returned true then some (dump st.settings.document)
    else st.files.settings := by
  have hremove (files : Files) : (files.removeTemporary f).settings = files.settings := by
    rw [Files.removeTemporary]
    split <;> rfl
  simp only [saveFile_eq, Settings.document?_string]
  split
  · rfl
  · split
    · rfl
    · split
      · exact hremove _
      · rfl

private theorem save_commits : (st.save dump f).Commits dump st.files := by
  show (st.saveFile dump f).2.settings = _
  rw [saveFile_settings, save]
  cases (st.saveFile dump f).1 with
  | threw => rfl
  | returned success =>
      cases success with
      | false => rfl
      | true => rfl

private theorem saveIf_commits (save : Bool) : (st.saveIf dump f save).Commits dump st.files := by
  cases save with
  | true => exact st.save_commits f
  | false => rfl

private theorem setBoolean_commits (field : BooleanField) (enabled save : Bool) :
    (st.setBoolean dump f field enabled save).Commits dump st.files := by
  have hsave := @saveIf_commits dump { st with settings := field.set st.settings enabled } f save
  rw [setBoolean]
  split
  · exact hsave
  · exact hsave

private theorem load_commits : (st.load parse f).Commits dump st.files := by
  rw [load]
  split
  · rfl
  · split
    · rfl
    · split
      · rfl
      · split
        · rfl
        · rfl

private theorem set_commits (setter : Setter String) (save : Bool) :
    (st.set dump f setter save).Commits dump st.files := by
  cases setter with
  | setSubnet subnet | setTcVersion version | setLanguageCode code | setCountryCode code =>
      exact saveIf_commits _ f save
  | setTecuEnabled enabled | setNmeaSendEnabled enabled | setVtEnabled enabled
  | setAogHeartbeatEnabled enabled => exact st.setBoolean_commits f _ enabled save

private theorem call_commits (c : Call) : (st.call dump parse f c).Commits dump st.files := by
  cases c with
  | set setter save => exact st.set_commits f setter save
  | save => exact st.save_commits f
  | load => exact st.load_commits f

end Store

section Runs

variable (settings : Settings String) (files : Files) (es : List (Call × Failures))

private theorem settings_after :
    ((settingsUser dump parse ⟨settings, files⟩).after es).files.settings =
      committed dump files.settings
        (lastSaved ((settingsUser dump parse ⟨settings, files⟩).trace es)) := by
  apply (settingsUser dump parse ⟨settings, files⟩).trace_invariant fun trace st =>
    st.files.settings = committed dump files.settings (lastSaved trace)
  · rfl
  · intro trace st e hbefore
    have hcall : (st.call dump parse e.2 e.1).Commits dump st.files := st.call_commits e.2 e.1
    have hfinished : lastSaved ((settingsUser dump parse ⟨settings, files⟩).step st e).2 =
        lastSaved (st.call dump parse e.2 e.1).saves := lastSaved_append _ _
    rw [committed_append, ← hbefore, hfinished]
    exact hcall

/-- What `settings.json` is after any use of a `Settings` object: the whole document of the last
successful save or the initial content, and a fresh object loads that document exactly. -/
structure SettingsFile (dump : Json → String) (parse : String → Option Json)
    (settings : Settings String) (files : Files) (es : List (Call × Failures)) : Prop where
  content : ((settingsUser dump parse ⟨settings, files⟩).after es).files.settings =
    committed dump files.settings
      (lastSaved ((settingsUser dump parse ⟨settings, files⟩).trace es))
  reloads : ∀ s, lastSaved ((settingsUser dump parse ⟨settings, files⟩).trace es) = some s →
    Store.load parse ⟨Settings.defaults, ((settingsUser dump parse ⟨settings, files⟩).after es).files⟩ {} =
      { result := .returned true
        store := ⟨s, ((settingsUser dump parse ⟨settings, files⟩).after es).files⟩ }

/-- The hypothesis is that parsing inverts dumping, for the documents saved in the run. -/
theorem settingsFile (hinverse : ∀ s, .saved s (.returned true) ∈
      (settingsUser dump parse ⟨settings, files⟩).trace es →
    parse (dump s.document) = some s.document) :
    SettingsFile dump parse settings files es where
  content := settings_after settings files es
  reloads s hs := by
    have hcontent := @settings_after dump parse settings files es
    rw [hs] at hcontent
    have hparsed := hinverse s (mem_of_lastSaved hs)
    have hload (files' : Files) (hfiles : files'.settings = some (dump s.document)) :
        Store.load parse ⟨Settings.defaults, files'⟩ {} =
          { result := .returned true, store := ⟨s, files'⟩ } := by
      rw [Store.load, if_neg Bool.false_ne_true, if_neg Bool.false_ne_true]
      simp only [hfiles, hparsed, Settings.ofDocument_document]
    exact hload _ hcontent

end Runs

def germanSettings : List (Call × Failures) :=
  [(.set (.setLanguageCode "de") false, {}), (.set (.setVtEnabled false) true, { renameFails := true }),
    (.save, {})]

/-- The text of the documents in these calls, with an indent of four. -/
def germanText (vtEnabled : Bool) : String :=
  "\x7b\n    \"aogHeartbeatEnabled\": true,\n    \"countryCode\": \"US\",\n" ++
  "    \"languageCode\": \"de\",\n    \"nmeaSendEnabled\": true,\n" ++
  "    \"subnet\": [\n        192,\n        168,\n        5\n    ],\n" ++
  "    \"tcVersion\": 3,\n    \"tecuEnabled\": true,\n    \"vtEnabled\": " ++
  (if vtEnabled then "true" else "false") ++ "\n\x7d"

def germanDump (data : Json) : String := germanText (Settings.loadBoolean data "vtEnabled" true)

def germanParse (text : String) : Option Json :=
  [true, false].findSome? fun vtEnabled =>
    if text = germanText vtEnabled then
      some { Settings.defaults with languageCode := "de", vtEnabled := vtEnabled }.document
    else none

theorem germanSettings_settingsFile : SettingsFile germanDump germanParse Settings.defaults {}
    germanSettings := by
  have htrace : (settingsUser germanDump germanParse ⟨Settings.defaults, {}⟩).trace germanSettings =
      [.finished (.returned true),
        .saved { Settings.defaults with languageCode := "de", vtEnabled := false } (.returned false),
        .finished (.returned false),
        .saved { Settings.defaults with languageCode := "de" } (.returned true),
        .finished (.returned true)] := rfl
  apply settingsFile
  intro s hs
  rw [htrace] at hs
  have hsaved : s = { Settings.defaults with languageCode := "de" } := by
    simpa using hs
  have hdump : germanDump s.document = germanText true := by
    rw [hsaved]
    rfl
  rw [hdump, germanParse, List.findSome?_cons, if_pos rfl, hsaved]
  rfl

end AogTaskController.Configuration
