import AogTaskController.Framework.JsonValue
import Mathlib.Tactic.IntervalCases

/-!
# The settings document

The settings and the JSON document they are saved as. The class keeps the codes as strings of any
bytes; only fields whose codes are UTF-8 have a document. The reader takes each field by itself: a key
that is missing, or a value that does not convert, gives the default.
-/

namespace AogTaskController.Configuration

open Framework

abbrev Subnet := UInt8 × UInt8 × UInt8

/-- The fields of the class, over what the codes are kept as. -/
structure Settings (Code : Type) where
  configuredSubnet : Subnet
  tecuEnabled : Bool
  nmeaSendEnabled : Bool
  aogHeartbeatEnabled : Bool
  vtEnabled : Bool
  tcVersion : UInt8
  languageCode : Code
  countryCode : Code
  tcVersion_le : tcVersion ≤ 4

/-- What a code is kept as, and its text if it is UTF-8: only then the library can write it. -/
class CodeText (Code : Type) where
  text? : Code → Option String

instance : CodeText String := ⟨some⟩

instance : CodeText ByteArray :=
  ⟨fun code => if h : code.IsValidUTF8 then some (.fromUTF8 code h) else none⟩

namespace Settings

def defaults : Settings String where
  configuredSubnet := (192, 168, 5)
  tecuEnabled := true
  nmeaSendEnabled := true
  aogHeartbeatEnabled := true
  vtEnabled := true
  tcVersion := 3
  languageCode := "en"
  countryCode := "US"
  tcVersion_le := by decide

def document (s : Settings String) : Json :=
  let data := Json.setMember "subnet" (.array [.unsigned s.configuredSubnet.1.toNat,
    .unsigned s.configuredSubnet.2.1.toNat, .unsigned s.configuredSubnet.2.2.toNat]) []
  let data := Json.setMember "tecuEnabled" (.boolean s.tecuEnabled) data
  let data := Json.setMember "nmeaSendEnabled" (.boolean s.nmeaSendEnabled) data
  let data := Json.setMember "aogHeartbeatEnabled" (.boolean s.aogHeartbeatEnabled) data
  let data := Json.setMember "vtEnabled" (.boolean s.vtEnabled) data
  let data := Json.setMember "tcVersion" (.unsigned s.tcVersion.toNat) data
  let data := Json.setMember "languageCode" (.string s.languageCode) data
  let data := Json.setMember "countryCode" (.string s.countryCode) data
  .object data

/-- `none` where dumping the document throws, because a code is not UTF-8. -/
def document? {Code : Type} [CodeText Code] (s : Settings Code) : Option Json :=
  (CodeText.text? s.languageCode).bind fun languageCode =>
    (CodeText.text? s.countryCode).map fun countryCode =>
      document { s with languageCode := languageCode, countryCode := countryCode }

@[simp] theorem document?_string (s : Settings String) : s.document? = some s.document := rfl

/-- `get<std::array<int, 3>>`, copied into bytes. -/
def getSubnet : Json → Option Subnet
  | .array (x :: y :: z :: _) =>
      x.getInt.bind fun x => y.getInt.bind fun y => z.getInt.map fun z =>
        (UInt8.ofInt x, UInt8.ofInt y, UInt8.ofInt z)
  | _ => none

def loadSubnet (data : Json) : Subnet :=
  ((data.member "subnet").bind getSubnet).getD defaults.configuredSubnet

def loadBoolean (data : Json) (key : String) (defaultValue : Bool) : Bool :=
  ((data.member key).bind Json.getBoolean).getD defaultValue

def loadTcVersion (data : Json) : UInt8 :=
  let version := (data.member "tcVersion").bind Json.getInt
  (version.bind fun v => if 0 ≤ v ∧ v ≤ 4 then some (UInt8.ofInt v) else none).getD
    defaults.tcVersion

def loadString (data : Json) (key defaultValue : String) : String :=
  ((data.member key).bind Json.getString).getD defaultValue

private theorem ofInt_le {v : Int} (h : 0 ≤ v ∧ v ≤ 4) : UInt8.ofInt v ≤ 4 := by
  obtain ⟨hlow, hhigh⟩ := h
  interval_cases v <;> decide

private theorem loadTcVersion_le (data : Json) : loadTcVersion data ≤ 4 := by
  rw [loadTcVersion]
  cases (data.member "tcVersion").bind Json.getInt with
  | none => decide
  | some v =>
      rw [Option.bind_some]
      split
      case isTrue hv => exact ofInt_le hv
      case isFalse => decide

def ofDocument (data : Json) : Settings String where
  configuredSubnet := loadSubnet data
  tecuEnabled := loadBoolean data "tecuEnabled" defaults.tecuEnabled
  nmeaSendEnabled := loadBoolean data "nmeaSendEnabled" defaults.nmeaSendEnabled
  aogHeartbeatEnabled := loadBoolean data "aogHeartbeatEnabled" defaults.aogHeartbeatEnabled
  vtEnabled := loadBoolean data "vtEnabled" defaults.vtEnabled
  tcVersion := loadTcVersion data
  languageCode := loadString data "languageCode" defaults.languageCode
  countryCode := loadString data "countryCode" defaults.countryCode
  tcVersion_le := loadTcVersion_le data

section RoundTrip

variable (s : Settings String)

private theorem ofInt_toNat (x : UInt8) : UInt8.ofInt (x.toNat : Int) = x := by
  apply UInt8.toNat_inj.mp
  have hx := x.toNat_lt
  rw [UInt8.ofInt, UInt8.toNat_ofNat']
  omega

private theorem ofInt_getInt (x : UInt8) :
    ∃ i, (Json.unsigned x.toNat).getInt = some i ∧ UInt8.ofInt i = x := by
  have hx : x.toNat < 2 ^ 31 := Nat.lt_trans x.toNat_lt (by decide)
  exact ⟨x.toNat, Json.getInt_unsigned hx, ofInt_toNat x⟩

private theorem loadSubnet_document : loadSubnet s.document = s.configuredSubnet := by
  obtain ⟨x, hx, hxs⟩ := ofInt_getInt s.configuredSubnet.1
  obtain ⟨y, hy, hys⟩ := ofInt_getInt s.configuredSubnet.2.1
  obtain ⟨z, hz, hzs⟩ := ofInt_getInt s.configuredSubnet.2.2
  simp [loadSubnet, document, getSubnet, hx, hy, hz, hxs, hys, hzs]

private theorem loadTcVersion_document : loadTcVersion s.document = s.tcVersion := by
  have hsmall : s.tcVersion.toNat ≤ 4 := s.tcVersion_le
  have hint := @Json.getInt_unsigned s.tcVersion.toNat (by omega)
  have hrange : 0 ≤ (s.tcVersion.toNat : Int) ∧ (s.tcVersion.toNat : Int) ≤ 4 := by omega
  simp [loadTcVersion, document, hint, hrange, ofInt_toNat]

theorem ofDocument_document : ofDocument s.document = s := by
  have hsubnet := s.loadSubnet_document
  have hversion := s.loadTcVersion_document
  cases s
  simp only [ofDocument, hsubnet, hversion]
  simp [loadBoolean, loadString, document, Json.getBoolean, Json.getString]

end RoundTrip

end Settings

end AogTaskController.Configuration
