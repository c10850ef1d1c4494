import AogTaskController.Configuration.Store

/-!
# A tolerant reader

What `load` is for: a key with a valid value gives that value, and anything else in the file gives the
default. The conversions of the JSON library accept more than the valid values, and a text that is
not JSON is answered by an exception that `load` does not catch.
-/

namespace AogTaskController.Configuration

open Framework
open Settings (defaults getSubnet ofDocument)

def octet (v : Json) : Option UInt8 :=
  v.getInteger.bind fun n => if 0 ≤ n ∧ n ≤ 255 then some (UInt8.ofInt n) else none

def validSubnet : Json → Option Subnet
  | .array [x, y, z] =>
      (octet x).bind fun x => (octet y).bind fun y => (octet z).map fun z => (x, y, z)
  | _ => none

def validTcVersion (v : Json) : Option UInt8 :=
  v.getInteger.bind fun n => if 0 ≤ n ∧ n ≤ 4 then some (UInt8.ofInt n) else none

/-- The valid value under a key of the file, or the default. A text that is not JSON has no keys. -/
def fileValue {α : Type} (content : Option Json) (key : String) (valid : Json → Option α)
    (defaultValue : α) : α :=
  ((content.bind (Json.member key)).bind valid).getD defaultValue

structure LoadsTolerantly (content : Option Json) (reply : Reply String) : Prop where
  doesNotThrow : reply.result ≠ .threw
  configuredSubnet : reply.store.settings.configuredSubnet =
    fileValue content "subnet" validSubnet defaults.configuredSubnet
  tecuEnabled : reply.store.settings.tecuEnabled =
    fileValue content "tecuEnabled" Json.getBoolean defaults.tecuEnabled
  nmeaSendEnabled : reply.store.settings.nmeaSendEnabled =
    fileValue content "nmeaSendEnabled" Json.getBoolean defaults.nmeaSendEnabled
  aogHeartbeatEnabled : reply.store.settings.aogHeartbeatEnabled =
    fileValue content "aogHeartbeatEnabled" Json.getBoolean defaults.aogHeartbeatEnabled
  vtEnabled : reply.store.settings.vtEnabled =
    fileValue content "vtEnabled" Json.getBoolean defaults.vtEnabled
  tcVersion : reply.store.settings.tcVersion =
    fileValue content "tcVersion" validTcVersion defaults.tcVersion
  languageCode : reply.store.settings.languageCode =
    fileValue content "languageCode" Json.getString defaults.languageCode
  countryCode : reply.store.settings.countryCode =
    fileValue content "countryCode" Json.getString defaults.countryCode

def IsOctet (v : Json) : Prop := ∃ n, v.getInteger = some n ∧ 0 ≤ n ∧ n ≤ 255

/-- Not a valid subnet, but three elements to begin with that convert to `int`: a number that does not
fit a byte or is no whole number, a boolean, or more elements than three. What is left in the bytes is
not the default. -/
def MisreadSubnet (v : Json) : Prop :=
  ∃ x y z rest i j k, v = .array (x :: y :: z :: rest) ∧
    (x.getInt = some i ∧ y.getInt = some j ∧ z.getInt = some k) ∧
    ¬ (IsOctet x ∧ IsOctet y ∧ IsOctet z ∧ rest = []) ∧
    ¬ (i % 256 = 192 ∧ j % 256 = 168 ∧ k % 256 = 5)

/-- Another value that converts to a version: a boolean, a number with a fraction, or one that does
not fit an `int`. The version is not the default. -/
def MisreadTcVersion (v : Json) : Prop :=
  ∃ i, v.getInt = some i ∧ 0 ≤ i ∧ i ≤ 4 ∧ v.getInteger ≠ some i ∧ i ≠ 3

section Conversions

private theorem fileValue_eq_iff {α : Type} {valid accepted : Json → Option α}
    (hvalid : ∀ v a, valid v = some a → accepted v = some a) (data : Json) (key : String)
    (defaultValue : α) :
    fileValue (some data) key accepted defaultValue = fileValue (some data) key valid defaultValue ↔
      ∀ v, data.member key = some v → valid v = none →
        ∀ a, accepted v = some a → a = defaultValue := by
  rw [fileValue, fileValue, Option.bind_some]
  cases data.member key with
  | none => simp
  | some v =>
      simp only [Option.bind_some, Option.some.injEq, forall_eq']
      cases hv : valid v with
      | some a => simp [hvalid v a hv]
      | none =>
          cases accepted v with
          | none => simp
          | some a => simp

private theorem octet_isSome {v : Json} : (octet v).isSome = true ↔ IsOctet v := by
  rw [octet, IsOctet]
  cases v.getInteger with
  | none => simp
  | some n => simp

private theorem getInt_of_octet {v : Json} {x : UInt8} (h : octet v = some x) :
    ∃ n, v.getInt = some n ∧ UInt8.ofInt n = x := by
  rw [octet, Option.bind_eq_some_iff] at h
  obtain ⟨n, hn, hbyte⟩ := h
  split at hbyte
  case isTrue hrange =>
    exact ⟨n, Json.getInt_of_getInteger hn (by omega) (by omega), Option.some.inj hbyte⟩
  case isFalse => cases hbyte

private theorem getSubnet_of_valid (v : Json) (subnet : Subnet) (h : validSubnet v = some subnet) :
    getSubnet v = some subnet := by
  rw [validSubnet.eq_def] at h
  split at h
  · simp only [Option.bind_eq_some_iff, Option.map_eq_some_iff] at h
    obtain ⟨x, hx, y, hy, z, hz, rfl⟩ := h
    obtain ⟨i, hi, rfl⟩ := getInt_of_octet hx
    obtain ⟨j, hj, rfl⟩ := getInt_of_octet hy
    obtain ⟨k, hk, rfl⟩ := getInt_of_octet hz
    rw [getSubnet, hi, hj, hk]
    rfl
  · cases h

private theorem validSubnet_eq_none {x y z : Json} {rest : List Json} :
    validSubnet (.array (x :: y :: z :: rest)) = none ↔
      ¬ (IsOctet x ∧ IsOctet y ∧ IsOctet z ∧ rest = []) := by
  cases rest with
  | cons w rest => simp [validSubnet]
  | nil =>
      rw [validSubnet, ← octet_isSome, ← octet_isSome, ← octet_isSome]
      cases octet x with
      | none => simp
      | some a =>
          cases octet y with
          | none => simp
          | some b => simp

private theorem ofInt_eq_iff {i : Int} {x : UInt8} : UInt8.ofInt i = x ↔ i % 256 = x.toNat := by
  have hx := x.toNat_lt
  rw [← UInt8.toNat_inj, UInt8.ofInt, UInt8.toNat_ofNat']
  omega

private theorem misreadSubnet_iff (v : Json) :
    (validSubnet v = none → ∀ subnet, getSubnet v = some subnet →
      subnet = defaults.configuredSubnet) ↔ ¬ MisreadSubnet v := by
  have hbytes (i j k : Int) : (UInt8.ofInt i, UInt8.ofInt j, UInt8.ofInt k) =
      defaults.configuredSubnet ↔ i % 256 = 192 ∧ j % 256 = 168 ∧ k % 256 = 5 := by
    simp only [Settings.defaults, Prod.mk.injEq, ofInt_eq_iff]
    rfl
  constructor
  · intro h hmisread
    obtain ⟨x, y, z, rest, i, j, k, rfl, hints, hinvalid, hnot⟩ := hmisread
    obtain ⟨hi, hj, hk⟩ := hints
    apply hnot
    apply (hbytes i j k).mp
    apply h (validSubnet_eq_none.mpr hinvalid)
    rw [getSubnet, hi, hj, hk]
    rfl
  · intro h hinvalid subnet hsubnet
    rw [Settings.getSubnet.eq_def] at hsubnet
    split at hsubnet
    case h_2 => cases hsubnet
    case h_1 x y z rest =>
      simp only [Option.bind_eq_some_iff, Option.map_eq_some_iff] at hsubnet
      obtain ⟨i, hi, j, hj, k, hk, rfl⟩ := hsubnet
      rw [hbytes]
      by_contra hnot
      exact h ⟨x, y, z, rest, i, j, k, rfl, ⟨hi, hj, hk⟩, validSubnet_eq_none.mp hinvalid, hnot⟩

def acceptedTcVersion (v : Json) : Option UInt8 :=
  v.getInt.bind fun n => if 0 ≤ n ∧ n ≤ 4 then some (UInt8.ofInt n) else none

private theorem loadTcVersion_eq_fileValue (data : Json) :
    Settings.loadTcVersion data =
      fileValue (some data) "tcVersion" acceptedTcVersion defaults.tcVersion := by
  rw [Settings.loadTcVersion, fileValue, Option.bind_assoc]
  rfl

private theorem acceptedTcVersion_of_valid (v : Json) (version : UInt8)
    (h : validTcVersion v = some version) : acceptedTcVersion v = some version := by
  rw [validTcVersion, Option.bind_eq_some_iff] at h
  obtain ⟨n, hn, hversion⟩ := h
  split at hversion
  case isTrue hrange =>
    rw [acceptedTcVersion, Json.getInt_of_getInteger hn (by omega) (by omega), Option.bind_some,
      if_pos hrange]
    exact hversion
  case isFalse => cases hversion

private theorem misreadTcVersion_iff (v : Json) :
    (validTcVersion v = none → ∀ version, acceptedTcVersion v = some version →
      version = defaults.tcVersion) ↔ ¬ MisreadTcVersion v := by
  have hversion {i : Int} (hlow : 0 ≤ i) (hhigh : i ≤ 4) :
      UInt8.ofInt i = defaults.tcVersion ↔ i = 3 := by
    rw [ofInt_eq_iff, Int.emod_eq_of_lt hlow (by omega)]
    rfl
  constructor
  · intro h hmisread
    obtain ⟨i, hi, hlow, hhigh, hother, hnot⟩ := hmisread
    apply hnot
    apply (hversion hlow hhigh).mp
    apply h
    · rw [validTcVersion, Option.bind_eq_none_iff]
      intro n hn
      apply if_neg
      intro hrange
      rw [Json.getInt_of_getInteger hn (by omega) (by omega)] at hi
      exact hother (hi ▸ hn)
    · rw [acceptedTcVersion, hi, Option.bind_some, if_pos ⟨hlow, hhigh⟩]
  · intro h hinvalid version haccepted
    rw [acceptedTcVersion, Option.bind_eq_some_iff] at haccepted
    obtain ⟨i, hi, hrange⟩ := haccepted
    split at hrange
    case isFalse => cases hrange
    case isTrue hbounds =>
      obtain ⟨hlow, hhigh⟩ := hbounds
      rw [← Option.some.inj hrange, hversion hlow hhigh]
      by_contra hnot
      refine h ⟨i, hi, hlow, hhigh, ?_, hnot⟩
      intro hinteger
      rw [validTcVersion, hinteger, Option.bind_some, if_pos ⟨hlow, hhigh⟩] at hinvalid
      cases hinvalid

end Conversions

/-- The content of a file is read tolerantly if and only if it is JSON, and neither the subnet nor the
version is a value that converts without being valid. -/
theorem load_tolerant_iff (parse : String → Option Json) (text : String) (settings : Settings String)
    (temporary : Option String) :
    LoadsTolerantly (parse text)
      (Store.load parse ⟨settings, { settings := some text, temporary := temporary }⟩ {}) ↔
    ∃ data, parse text = some data ∧
      (∀ v, data.member "subnet" = some v → ¬ MisreadSubnet v) ∧
      ∀ v, data.member "tcVersion" = some v → ¬ MisreadTcVersion v := by
  cases hparse : parse text with
  | none =>
      have hthrew : (Store.load parse
          ⟨settings, { settings := some text, temporary := temporary }⟩ {}).result = .threw := by
        rw [Store.load, if_neg Bool.false_ne_true, if_neg Bool.false_ne_true]
        simp only [hparse]
      constructor
      · intro h
        exact absurd hthrew h.doesNotThrow
      · intro h
        obtain ⟨_, hnone, _⟩ := h
        cases hnone
  | some data =>
      have hload : Store.load parse ⟨settings, { settings := some text, temporary := temporary }⟩ {} =
          { result := .returned true
            store := ⟨ofDocument data, { settings := some text, temporary := temporary }⟩ } := by
        rw [Store.load, if_neg Bool.false_ne_true, if_neg Bool.false_ne_true]
        simp only [hparse]
      have hsubnet := fileValue_eq_iff getSubnet_of_valid data "subnet" defaults.configuredSubnet
      have hversion := fileValue_eq_iff acceptedTcVersion_of_valid data "tcVersion" defaults.tcVersion
      simp only [misreadSubnet_iff] at hsubnet
      simp only [misreadTcVersion_iff, ← loadTcVersion_eq_fileValue] at hversion
      rw [hload]
      simp only [Option.some.injEq, exists_eq_left', ← hsubnet, ← hversion]
      constructor
      · intro h
        exact ⟨h.configuredSubnet, h.tcVersion⟩
      · intro h
        exact ⟨nofun, h.1, rfl, rfl, rfl, rfl, h.2, rfl, rfl⟩

def largeOctetText : String := "\x7b\"subnet\": [300, 168, 5]\x7d"

/-- What the JSON library makes of the text. -/
def largeOctetParse (text : String) : Option Json :=
  if text = largeOctetText then
    some (.object [("subnet", .array [.unsigned 300, .unsigned 168, .unsigned 5])])
  else none

/-- 300 is read as 44. -/
theorem largeOctet_misread : ¬ ∀ parse text settings temporary,
    LoadsTolerantly (parse text)
      (Store.load parse ⟨settings, { settings := some text, temporary := temporary }⟩ {}) := by
  intro h
  have hsubnet := (h largeOctetParse largeOctetText defaults none).configuredSubnet
  have hloaded : (Store.load largeOctetParse
      ⟨defaults, ⟨some largeOctetText, none⟩⟩ {}).store.settings.configuredSubnet = (44, 168, 5) := by
    rfl
  have hdefault : fileValue (largeOctetParse largeOctetText) "subnet" validSubnet
      defaults.configuredSubnet = (192, 168, 5) := by
    rfl
  rw [hloaded, hdefault] at hsubnet
  cases hsubnet

end AogTaskController.Configuration
