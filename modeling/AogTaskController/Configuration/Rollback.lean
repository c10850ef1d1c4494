import AogTaskController.Configuration.Store

/-!
# Setters that fail

The setters over codes of any bytes, which a save cannot write when they are not UTF-8. A setter that
does not return true is to leave the fields as they were: the boolean setters put the previous value
back when the save returns false, no setter does when it throws, and the others never do.
-/

namespace AogTaskController.Configuration

open Framework

open Settings (defaults)

section Utf8

variable {α β : Type} (φ : α → β)

def Settings.map (s : Settings α) : Settings β :=
  { s with languageCode := φ s.languageCode, countryCode := φ s.countryCode }

def Store.map (st : Store α) : Store β := ⟨st.settings.map φ, st.files⟩

def Observed.map : Observed α → Observed β
  | .saved s result => .saved (s.map φ) result
  | .finished result => .finished result

def Reply.map (reply : Reply α) : Reply β :=
  ⟨reply.result, reply.store.map φ, reply.saves.map (Observed.map φ)⟩

def Setter.map : Setter α → Setter β
  | .setSubnet subnet => .setSubnet subnet
  | .setTecuEnabled enabled => .setTecuEnabled enabled
  | .setNmeaSendEnabled enabled => .setNmeaSendEnabled enabled
  | .setVtEnabled enabled => .setVtEnabled enabled
  | .setAogHeartbeatEnabled enabled => .setAogHeartbeatEnabled enabled
  | .setTcVersion version => .setTcVersion version
  | .setLanguageCode code => .setLanguageCode (φ code)
  | .setCountryCode code => .setCountryCode (φ code)

variable {φ} [CodeText α] [CodeText β] (hφ : ∀ code, CodeText.text? (φ code) = CodeText.text? code)
  (dump : Json → String) (st : Store α) (f : Failures)

include hφ

private theorem saveIf_map (save : Bool) :
    (st.map φ).saveIf dump f save = (st.saveIf dump f save).map φ := by
  have hdocument : (st.settings.map φ).document? = st.settings.document? := by
    simp only [Settings.document?, Settings.map, hφ]
  cases save with
  | false => rfl
  | true =>
      simp only [Store.saveIf, if_true, Store.save, Store.saveFile, Store.map, hdocument]
      rfl

private theorem setBoolean_map (field : BooleanField) (enabled save : Bool) :
    (st.map φ).setBoolean dump f field enabled save =
      (st.setBoolean dump f field enabled save).map φ := by
  have hset (s : Settings α) (b : Bool) : field.set (s.map φ) b = (field.set s b).map φ := by
    cases field <;> rfl
  have hget : field.get (st.settings.map φ) = field.get st.settings := by cases field <;> rfl
  have hsave := saveIf_map hφ dump { st with settings := field.set st.settings enabled } f save
  simp only [Store.map, ← hset] at hsave
  simp only [Store.setBoolean, Store.map, hget, hsave, Reply.map]
  split
  · simp only [hset]
  · rfl

private theorem set_map (setter : Setter α) (save : Bool) :
    (st.map φ).set dump f (setter.map φ) save = (st.set dump f setter save).map φ := by
  cases setter with
  | setSubnet subnet | setLanguageCode code | setCountryCode code =>
      simp only [Setter.map, Store.set, Store.setSubnet, Store.setLanguageCode, Store.setCountryCode]
      rw [← saveIf_map hφ]
      rfl
  | setTecuEnabled enabled | setNmeaSendEnabled enabled | setVtEnabled enabled
  | setAogHeartbeatEnabled enabled => exact setBoolean_map hφ dump st f _ enabled save
  | setTcVersion version =>
      simp only [Setter.map, Store.set, Store.setTcVersion]
      rw [← saveIf_map hφ]
      congr 1
      split <;> rfl

end Utf8

/-- On codes that are UTF-8 the setters over any bytes are those over strings. -/
theorem set_toByteArray (dump : Json → String) (st : Store String) (f : Failures)
    (setter : Setter String) (save : Bool) :
    (st.map String.toByteArray).set dump f (setter.map String.toByteArray) save =
      (st.set dump f setter save).map String.toByteArray :=
  set_map (fun code => dif_pos code.isValidUTF8) dump st f setter save

structure Failures.Passes (f : Failures) : Prop where
  directory : f.directoryFails = false
  opened : f.openFails = false
  written : f.writeFails = false
  flushed : f.flushFails = false
  closed : f.closeFails = false
  renamed : f.renameFails = false

def Settings.IsUtf8 (s : Settings ByteArray) : Prop :=
  s.languageCode.IsValidUTF8 ∧ s.countryCode.IsValidUTF8

section Saving

variable (dump : Json → String) (f : Failures)

private theorem Failures.passes_iff : f.Passes ↔ f.directoryFails = false ∧
    (f.openFails || f.writeFails || f.flushFails || f.closeFails || f.renameFails) = false := by
  simp only [Bool.or_eq_false_iff]
  constructor
  · intro h
    exact ⟨h.directory, ⟨⟨⟨h.opened, h.written⟩, h.flushed⟩, h.closed⟩, h.renamed⟩
  · intro h
    obtain ⟨hdirectory, ⟨⟨⟨hopened, hwritten⟩, hflushed⟩, hclosed⟩, hrenamed⟩ := h
    exact ⟨hdirectory, hopened, hwritten, hflushed, hclosed, hrenamed⟩

private theorem Settings.document?_isSome (s : Settings ByteArray) :
    s.document?.isSome = true ↔ s.IsUtf8 := by
  have htext (code : ByteArray) : (CodeText.text? code).isSome = true ↔ code.IsValidUTF8 := by
    simp only [CodeText.text?]
    split
    case isTrue h => exact iff_of_true rfl h
    case isFalse h => exact iff_of_false Bool.false_ne_true h
  rw [Settings.IsUtf8, ← htext, ← htext, Settings.document?]
  cases CodeText.text? s.languageCode with
  | none => simp
  | some languageCode => simp

private theorem saveFile_returned_true_iff (st : Store ByteArray) :
    (st.saveFile dump f).1 = .returned true ↔ f.Passes ∧ st.settings.IsUtf8 := by
  rw [f.passes_iff, ← st.settings.document?_isSome, Store.saveFile_result]
  cases f.directoryFails with
  | true => simp
  | false =>
      cases f.openFails with
      | true => simp
      | false => cases st.settings.document?.isSome <;> simp

private theorem saveFile_threw_iff (st : Store ByteArray) :
    (st.saveFile dump f).1 = .threw ↔
      ¬ (f.directoryFails = false ∧ (f.openFails = true ∨ st.settings.IsUtf8)) := by
  rw [← st.settings.document?_isSome, Store.saveFile_result]
  cases f.directoryFails with
  | true => simp
  | false =>
      cases f.openFails with
      | true => simp
      | false => cases st.settings.document?.isSome <;> simp

end Saving

namespace Setter

def assign (s : Settings ByteArray) : Setter ByteArray → Settings ByteArray
  | .setSubnet subnet => { s with configuredSubnet := subnet }
  | .setTecuEnabled enabled => BooleanField.tecuEnabled.set s enabled
  | .setNmeaSendEnabled enabled => BooleanField.nmeaSendEnabled.set s enabled
  | .setVtEnabled enabled => BooleanField.vtEnabled.set s enabled
  | .setAogHeartbeatEnabled enabled => BooleanField.aogHeartbeatEnabled.set s enabled
  | .setTcVersion version =>
      if h : version ≤ 4 then { s with tcVersion := version, tcVersion_le := h }
      else { s with tcVersion := defaults.tcVersion, tcVersion_le := defaults.tcVersion_le }
  | .setLanguageCode code => { s with languageCode := code }
  | .setCountryCode code => { s with countryCode := code }

/-- The setter ends in `set_boolean`. -/
def restores : Setter ByteArray → Bool
  | .setTecuEnabled _ | .setNmeaSendEnabled _ | .setVtEnabled _ | .setAogHeartbeatEnabled _ => true
  | .setSubnet _ | .setTcVersion _ | .setLanguageCode _ | .setCountryCode _ => false

/-- The argument is what the field holds; a version above 4 counts as the default. -/
def IsStored (s : Settings ByteArray) : Setter ByteArray → Prop
  | .setSubnet subnet => s.configuredSubnet = subnet
  | .setTecuEnabled enabled => s.tecuEnabled = enabled
  | .setNmeaSendEnabled enabled => s.nmeaSendEnabled = enabled
  | .setVtEnabled enabled => s.vtEnabled = enabled
  | .setAogHeartbeatEnabled enabled => s.aogHeartbeatEnabled = enabled
  | .setTcVersion version => s.tcVersion = if version ≤ 4 then version else 3
  | .setLanguageCode code => s.languageCode = code
  | .setCountryCode code => s.countryCode = code

/-- The codes are UTF-8, the one in the argument in the place of the one that it replaces. -/
def CodesUtf8 (s : Settings ByteArray) : Setter ByteArray → Prop
  | .setLanguageCode code => code.IsValidUTF8 ∧ s.countryCode.IsValidUTF8
  | .setCountryCode code => s.languageCode.IsValidUTF8 ∧ code.IsValidUTF8
  | _ => s.IsUtf8

variable (s : Settings ByteArray) (setter : Setter ByteArray)

private theorem set_eq_iff (field : BooleanField) (enabled : Bool) :
    field.set s enabled = s ↔ field.get s = enabled := by
  constructor
  · intro h
    rw [← field.get_set s enabled, h]
  · intro h
    rw [← h, field.set_get]

private theorem assign_eq_iff : setter.assign s = s ↔ setter.IsStored s := by
  cases setter with
  | setTecuEnabled enabled => exact set_eq_iff s BooleanField.tecuEnabled enabled
  | setNmeaSendEnabled enabled => exact set_eq_iff s BooleanField.nmeaSendEnabled enabled
  | setVtEnabled enabled => exact set_eq_iff s BooleanField.vtEnabled enabled
  | setAogHeartbeatEnabled enabled => exact set_eq_iff s BooleanField.aogHeartbeatEnabled enabled
  | setSubnet subnet =>
      constructor
      · exact fun h => congrArg Settings.configuredSubnet h.symm
      · intro h
        obtain rfl : s.configuredSubnet = subnet := h
        rfl
  | setTcVersion version =>
      rw [assign, IsStored]
      split
      · constructor
        · exact fun h => congrArg Settings.tcVersion h.symm
        · intro h
          subst h
          rfl
      · constructor
        · exact fun h => congrArg Settings.tcVersion h.symm
        · intro h
          obtain ⟨_, _, _, _, _, tcVersion, _, _, _⟩ := s
          obtain rfl : tcVersion = 3 := h
          rfl
  | setLanguageCode code =>
      constructor
      · exact fun h => congrArg Settings.languageCode h.symm
      · intro h
        obtain rfl : s.languageCode = code := h
        rfl
  | setCountryCode code =>
      constructor
      · exact fun h => congrArg Settings.countryCode h.symm
      · intro h
        obtain rfl : s.countryCode = code := h
        rfl

private theorem isUtf8_assign : (setter.assign s).IsUtf8 ↔ setter.CodesUtf8 s := by
  cases setter with
  | setTcVersion version =>
      rw [assign]
      split
      · exact Iff.rfl
      · exact Iff.rfl
  | setSubnet subnet | setTecuEnabled enabled | setNmeaSendEnabled enabled | setVtEnabled enabled
  | setAogHeartbeatEnabled enabled | setLanguageCode code | setCountryCode code => exact Iff.rfl

end Setter

section Setters

variable (dump : Json → String) (st : Store ByteArray) (f : Failures)

private theorem set_of_not_restores {setter : Setter ByteArray} (h : setter.restores = false) :
    st.set dump f setter true =
      Store.save dump { st with settings := setter.assign st.settings } f := by
  cases setter with
  | setSubnet subnet | setLanguageCode code | setCountryCode code => rfl
  | setTcVersion version =>
      rw [Store.set, Store.setTcVersion, Store.saveIf, if_pos rfl]
      rfl
  | setTecuEnabled enabled | setNmeaSendEnabled enabled | setVtEnabled enabled
  | setAogHeartbeatEnabled enabled => cases h

private theorem set_of_restores {setter : Setter ByteArray} (h : setter.restores = true) :
    ∃ field enabled, setter.assign st.settings = field.set st.settings enabled ∧
      st.set dump f setter true = st.setBoolean dump f field enabled true := by
  cases setter with
  | setTecuEnabled enabled => exact ⟨BooleanField.tecuEnabled, enabled, rfl, rfl⟩
  | setNmeaSendEnabled enabled => exact ⟨BooleanField.nmeaSendEnabled, enabled, rfl, rfl⟩
  | setVtEnabled enabled => exact ⟨BooleanField.vtEnabled, enabled, rfl, rfl⟩
  | setAogHeartbeatEnabled enabled => exact ⟨BooleanField.aogHeartbeatEnabled, enabled, rfl, rfl⟩
  | setSubnet subnet | setTcVersion version | setLanguageCode code | setCountryCode code => cases h

private theorem setBoolean_settings (field : BooleanField) (enabled : Bool) :
    let st' : Store ByteArray := { st with settings := field.set st.settings enabled }
    (st.setBoolean dump f field enabled true).result = (st'.saveFile dump f).1 ∧
      (st.setBoolean dump f field enabled true).store.settings =
        if (st'.saveFile dump f).1 = .returned false then st.settings else st'.settings := by
  intro st'
  have hback : field.set st'.settings (field.get st.settings) = st.settings := by
    rw [field.set_set, field.set_get]
  rw [Store.setBoolean, Store.saveIf, if_pos rfl]
  by_cases h : (st'.saveFile dump f).1 = .returned false
  · have hresult : (st'.save dump f).result = .returned false := h
    rw [if_pos h]
    simp only [st', if_pos hresult]
    exact ⟨rfl, hback⟩
  · have hresult : (st'.save dump f).result ≠ .returned false := h
    rw [if_neg h]
    simp only [st', if_neg hresult]
    exact ⟨rfl, rfl⟩

variable (setter : Setter ByteArray)

/-- For every setter: a call that does not succeed changes no field if and only if the argument is
what the field holds already, or the save passes, or the setter restores the field and the save does
not throw. -/
theorem set_unchanged_iff :
    ((st.set dump f setter true).result ≠ .returned true →
      (st.set dump f setter true).store.settings = st.settings) ↔
    setter.IsStored st.settings ∨ (f.Passes ∧ setter.CodesUtf8 st.settings) ∨
      (setter.restores = true ∧ f.directoryFails = false ∧
        (f.openFails = true ∨ setter.CodesUtf8 st.settings)) := by
  rw [← setter.assign_eq_iff, ← setter.isUtf8_assign]
  have hpasses := saveFile_returned_true_iff dump f { st with settings := setter.assign st.settings }
  have hthrew := not_iff_comm.mp
    (saveFile_threw_iff dump f { st with settings := setter.assign st.settings }).symm
  simp only at hpasses hthrew
  rw [← hpasses, ← hthrew]
  cases hrestores : setter.restores with
  | false =>
      rw [set_of_not_restores dump st f hrestores]
      show ((Store.saveFile dump { st with settings := setter.assign st.settings } f).1 ≠ _ →
        setter.assign st.settings = _) ↔ _
      cases (Store.saveFile dump { st with settings := setter.assign st.settings } f).1 with
      | threw => simp
      | returned success => cases success <;> simp
  | true =>
      obtain ⟨field, enabled, hassign, hset⟩ := set_of_restores dump st f hrestores
      obtain ⟨hresult, hsettings⟩ := setBoolean_settings dump st f field enabled
      rw [hset, hresult, hsettings, hassign]
      cases (Store.saveFile dump { st with settings := field.set st.settings enabled } f).1 with
      | threw => simp
      | returned success => cases success <;> simp

end Setters

/-- With a file that cannot be opened the subnet stays changed. -/
theorem setSubnet_keeps_unsaved : ¬ ∀ (dump : Json → String) (st : Store ByteArray) f setter,
    (st.set dump f setter true).result ≠ .returned true →
      (st.set dump f setter true).store.settings = st.settings := by
  intro h
  have hsettings := h (fun _ => "") ⟨defaults.map String.toByteArray, {}⟩ { openFails := true }
    (.setSubnet (10, 0, 0)) (by decide +kernel)
  cases congrArg Settings.configuredSubnet hsettings

end AogTaskController.Configuration
