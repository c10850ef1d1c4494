import AogTaskController.Framework.Machine
import AogTaskController.Configuration.Document

/-!
# Saving the settings

`save` writes the document to a temporary file and renames it to `settings.json`. Any of its file
operations may fail, at every call of every setter; a rename either happens or does not. The text of
a document is what `dump` makes of it, and the reader gets what `file >> data` makes of a text: the
first value in it, whatever stands behind.
-/

namespace AogTaskController.Configuration

open Framework

structure Files where
  settings : Option String := none
  temporary : Option String := none

/-- The operations that fail during a call, and what is then left of a text that was not written. -/
structure Failures where
  directoryFails : Bool := false
  openFails : Bool := false
  writeFails : Bool := false
  flushFails : Bool := false
  closeFails : Bool := false
  renameFails : Bool := false
  removeFails : Bool := false
  torn : String := ""

inductive Result
  | returned (success : Bool)
  | threw
  deriving DecidableEq

inductive Observed (Code : Type)
  /-- A `save()` of these fields came to its end. -/
  | saved (s : Settings Code) (result : Result)
  | finished (result : Result)

structure Store (Code : Type) where
  settings : Settings Code
  files : Files := {}

structure Reply (Code : Type) where
  result : Result
  store : Store Code
  saves : List (Observed Code) := []

def Files.removeTemporary (files : Files) (f : Failures) : Files :=
  if f.removeFails then files else { files with temporary := none }

/-- The fields that `set_boolean` can refer to. -/
inductive BooleanField
  | tecuEnabled
  | nmeaSendEnabled
  | vtEnabled
  | aogHeartbeatEnabled

namespace BooleanField

variable {Code : Type} (field : BooleanField) (s : Settings Code) (enabled : Bool)

def get : Bool :=
  match field with
  | tecuEnabled => s.tecuEnabled
  | nmeaSendEnabled => s.nmeaSendEnabled
  | vtEnabled => s.vtEnabled
  | aogHeartbeatEnabled => s.aogHeartbeatEnabled

def set : Settings Code :=
  match field with
  | tecuEnabled => { s with tecuEnabled := enabled }
  | nmeaSendEnabled => { s with nmeaSendEnabled := enabled }
  | vtEnabled => { s with vtEnabled := enabled }
  | aogHeartbeatEnabled => { s with aogHeartbeatEnabled := enabled }

@[simp] theorem get_set : field.get (field.set s enabled) = enabled := by cases field <;> rfl

@[simp] theorem set_get : field.set s (field.get s) = s := by cases field <;> rfl

@[simp] theorem set_set (enabled' : Bool) :
    field.set (field.set s enabled) enabled' = field.set s enabled' := by cases field <;> rfl

end BooleanField

namespace Store

variable {Code : Type} [CodeText Code] (dump : Json → String) (st : Store Code) (f : Failures)

/-- The body of `save`. The document is dumped into the temporary file, which is open by then. -/
def saveFile : Result × Files :=
  if f.directoryFails then (.threw, st.files)
  else if f.openFails then (.returned false, st.files)
  else
    match st.settings.document? with
    | none => (.threw, { st.files with temporary := some "" })
    | some data =>
        let failed := f.writeFails || f.flushFails || f.closeFails
        let files := { st.files with temporary := some (if failed then f.torn else dump data) }
        let writeSucceeded := !(f.writeFails || f.flushFails)
        if !writeSucceeded || f.closeFails then (.returned false, files.removeTemporary f)
        else if f.renameFails then (.returned false, files.removeTemporary f)
        else (.returned true, { settings := files.temporary, temporary := none })

/-- The branches of a save: whatever fails once the text is made ends alike. -/
theorem saveFile_eq : st.saveFile dump f =
    if f.directoryFails then (.threw, st.files)
    else if f.openFails then (.returned false, st.files)
    else
      match st.settings.document? with
      | none => (.threw, { st.files with temporary := some "" })
      | some data =>
          if f.writeFails || f.flushFails || f.closeFails || f.renameFails then
            (.returned false,
              { st.files with
                temporary := some (if f.writeFails || f.flushFails || f.closeFails then f.torn
                  else dump data) }.removeTemporary f)
          else (.returned true, { settings := some (dump data), temporary := none }) := by
  rw [saveFile]
  cases f.writeFails with
  | true => rfl
  | false =>
    cases f.flushFails with
    | true => rfl
    | false =>
      cases f.closeFails with
      | true => rfl
      | false => rfl

/-- How a save ends: codes that are not UTF-8 are only found once the temporary file is open. -/
theorem saveFile_result : (st.saveFile dump f).1 =
    if f.directoryFails then .threw
    else if f.openFails then .returned false
    else if st.settings.document?.isSome then
      .returned (!(f.writeFails || f.flushFails || f.closeFails || f.renameFails))
    else .threw := by
  rw [saveFile_eq]
  split
  · rfl
  · split
    · rfl
    · cases st.settings.document? with
      | none => rfl
      | some data =>
          cases f.writeFails || f.flushFails || f.closeFails || f.renameFails <;> rfl

def save : Reply Code :=
  let x := st.saveFile dump f
  { result := x.1
    store := { st with files := x.2 }
    saves := [.saved st.settings x.1] }

def saveIf (save : Bool) : Reply Code :=
  if save then st.save dump f else { result := .returned true, store := st }

def setSubnet (subnet : Subnet) (save : Bool) : Reply Code :=
  { st with settings := { st.settings with configuredSubnet := subnet } }.saveIf dump f save

/-- When the file cannot be saved, the field gets its previous value back. An exception passes by. -/
def setBoolean (field : BooleanField) (enabled save : Bool) : Reply Code :=
  let previousValue := field.get st.settings
  let reply := { st with settings := field.set st.settings enabled }.saveIf dump f save
  if reply.result = .returned false then
    { reply with
      store := { reply.store with settings := field.set reply.store.settings previousValue } }
  else reply

def setTecuEnabled (enabled save : Bool) : Reply Code :=
  st.setBoolean dump f .tecuEnabled enabled save

def setNmeaSendEnabled (enabled save : Bool) : Reply Code :=
  st.setBoolean dump f .nmeaSendEnabled enabled save

def setVtEnabled (enabled save : Bool) : Reply Code := st.setBoolean dump f .vtEnabled enabled save

def setAogHeartbeatEnabled (enabled save : Bool) : Reply Code :=
  st.setBoolean dump f .aogHeartbeatEnabled enabled save

def setTcVersion (version : UInt8) (save : Bool) : Reply Code :=
  let settings :=
    if h : version ≤ 4 then { st.settings with tcVersion := version, tcVersion_le := h }
    else
      { st.settings with
        tcVersion := Settings.defaults.tcVersion
        tcVersion_le := Settings.defaults.tcVersion_le }
  { st with settings := settings }.saveIf dump f save

def setLanguageCode (code : Code) (save : Bool) : Reply Code :=
  { st with settings := { st.settings with languageCode := code } }.saveIf dump f save

def setCountryCode (code : Code) (save : Bool) : Reply Code :=
  { st with settings := { st.settings with countryCode := code } }.saveIf dump f save

end Store

inductive Setter (Code : Type)
  | setSubnet (subnet : Subnet)
  | setTecuEnabled (enabled : Bool)
  | setNmeaSendEnabled (enabled : Bool)
  | setVtEnabled (enabled : Bool)
  | setAogHeartbeatEnabled (enabled : Bool)
  | setTcVersion (version : UInt8)
  | setLanguageCode (code : Code)
  | setCountryCode (code : Code)

def Store.set {Code : Type} [CodeText Code] (dump : Json → String) (st : Store Code) (f : Failures)
    (setter : Setter Code) (save : Bool) : Reply Code :=
  match setter with
  | .setSubnet subnet => st.setSubnet dump f subnet save
  | .setTecuEnabled enabled => st.setTecuEnabled dump f enabled save
  | .setNmeaSendEnabled enabled => st.setNmeaSendEnabled dump f enabled save
  | .setVtEnabled enabled => st.setVtEnabled dump f enabled save
  | .setAogHeartbeatEnabled enabled => st.setAogHeartbeatEnabled dump f enabled save
  | .setTcVersion version => st.setTcVersion dump f version save
  | .setLanguageCode code => st.setLanguageCode dump f code save
  | .setCountryCode code => st.setCountryCode dump f code save

/-- What comes from a file is UTF-8. -/
def Store.load (parse : String → Option Json) (st : Store String) (f : Failures) : Reply String :=
  if f.directoryFails then { result := .threw, store := st }
  else if f.openFails then { result := .returned false, store := st }
  else
    match st.files.settings with
    | none => { result := .returned false, store := st }
    | some text =>
        match parse text with
        | none => { result := .threw, store := st }
        | some data =>
            { result := .returned true
              store := { st with settings := Settings.ofDocument data } }

inductive Call
  | set (setter : Setter String) (save : Bool)
  | save
  | load

section

variable (dump : Json → String) (parse : String → Option Json)

def Store.call (st : Store String) (f : Failures) : Call → Reply String
  | .set setter save => st.set dump f setter save
  | .save => st.save dump f
  | .load => st.load parse f

/-- A `Settings` object in use. Each event is a call with the operations that fail during it. -/
def settingsUser (st : Store String) : Machine (Store String) (Call × Failures) (Observed String) where
  init := st
  step st e :=
    let reply := st.call dump parse e.2 e.1
    (reply.store, reply.saves ++ [.finished reply.result])

end

end AogTaskController.Configuration
