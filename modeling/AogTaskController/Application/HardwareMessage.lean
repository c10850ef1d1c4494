import Mathlib
import AogTaskController.Framework.LeadBlocks
import AogTaskController.Framework.LongestPrefix
import AogTaskController.Udp.Frame

/-!
# Hardware messages

A text for the operator's screen, cut after 60 bytes, but not inside a character. The scan for the
place looks at single bytes; on UTF-8 text it finds the border of a character.
-/

namespace AogTaskController.Application

open Framework Udp

def maxTextBytes : Nat := 60

def isContinuation (byte : UInt8) : Bool := byte &&& 0xC0 == 0x80

def textLength (text : List UInt8) : Nat :=
  if maxTextBytes < text.length then scanBack isContinuation text maxTextBytes else text.length

/-- The payload that `send_hardware_message` hands to `send`, if it calls it. -/
def hardwareMessage (text : List UInt8) (duration color : UInt8) : Option (List UInt8) :=
  if text.isEmpty then none
  else
    let message := text.take (textLength text)
    if message.isEmpty then none else some ([duration, color] ++ message)

def SendsHardwareMessage (text : List UInt8) (duration color : UInt8) (frame : List UInt8) : Prop :=
  ∃ data, hardwareMessage text duration color = some data ∧ Sends 0x80 0xDD data frame

def utf8 (text : String) : List UInt8 := text.toByteArray.data.toList

private theorem utf8_eq_flatten (text : String) :
    utf8 text = (text.toList.map String.utf8EncodeChar).flatten := by
  rw [utf8, ← String.utf8Encode_toList, List.utf8Encode, List.flatMap_def]
  simp

private theorem utf8_ofList (chars : List Char) :
    utf8 (String.ofList chars) = (chars.map String.utf8EncodeChar).flatten := by
  rw [utf8_eq_flatten, String.toList_ofList]

private theorem utf8_eq_nil {text : String} : utf8 text = [] ↔ text = "" := by
  rw [utf8_eq_flatten, List.flatten_eq_nil_iff, ← String.toList_eq_nil_iff]
  constructor
  · intro hnil
    apply List.eq_nil_iff_forall_not_mem.mpr
    intro c hc
    exact String.utf8EncodeChar_ne_nil (hnil _ (List.mem_map_of_mem hc))
  · intro hnil
    rw [hnil]
    simp

private theorem isContinuation_tail (n : Nat) : isContinuation (UInt8.ofNat (n % 64 + 128)) = true := by
  have hall : ∀ m < 64, isContinuation (UInt8.ofNat (m + 128)) = true := by decide
  exact hall _ (Nat.mod_lt n (by decide))

private theorem isContinuation_tails (ns : List Nat) :
    ∀ byte ∈ ns.map fun n => UInt8.ofNat (n % 64 + 128), isContinuation byte = true := by
  intro byte hbyte
  obtain ⟨n, _, rfl⟩ := List.mem_map.mp hbyte
  exact isContinuation_tail n

private theorem isBlock_utf8EncodeChar (c : Char) : IsBlock isContinuation
    (String.utf8EncodeChar c) := by
  have hone : ∀ n < 128, isContinuation (UInt8.ofNat n) = false := by decide
  have htwo : ∀ n < 32, isContinuation (UInt8.ofNat (n + 192)) = false := by decide
  have hthree : ∀ n < 16, isContinuation (UInt8.ofNat (n + 224)) = false := by decide
  have hfour : ∀ n < 8, isContinuation (UInt8.ofNat (n + 240)) = false := by decide
  rw [String.utf8EncodeChar]
  split
  next hsize =>
    exact ⟨_, [], rfl, hone _ (Nat.lt_succ_of_le hsize), by simp⟩
  next =>
    split
    · exact ⟨_, _, rfl, htwo _ (Nat.mod_lt _ (by decide)), isContinuation_tails [c.val.toNat]⟩
    · split
      · exact ⟨_, _, rfl, hthree _ (Nat.mod_lt _ (by decide)),
          isContinuation_tails [c.val.toNat / 64, c.val.toNat]⟩
      · exact ⟨_, _, rfl, hfour _ (Nat.mod_lt _ (by decide)),
          isContinuation_tails [c.val.toNat / 4096, c.val.toNat / 64, c.val.toNat]⟩

private theorem isBlock_chars {chars : List Char} :
    ∀ block ∈ chars.map String.utf8EncodeChar, IsBlock isContinuation block := by
  intro block hblock
  obtain ⟨c, _, rfl⟩ := List.mem_map.mp hblock
  exact isBlock_utf8EncodeChar c

def Fits (chars : List Char) : Prop := (utf8 (String.ofList chars)).length ≤ maxTextBytes

private theorem utf8_append (chars more : List Char) :
    utf8 (String.ofList (chars ++ more)) = utf8 (String.ofList chars) ++ utf8 (String.ofList more) := by
  rw [utf8_ofList, List.map_append, List.flatten_append, ← utf8_ofList, ← utf8_ofList]

private theorem take_textLength_of_long {chars : List Char}
    (hlong : maxTextBytes < (utf8 (String.ofList chars)).length) :
    ∃ sent c rest, chars = sent ++ c :: rest ∧ Fits sent ∧ ¬ Fits (sent ++ [c]) ∧
      (utf8 (String.ofList chars)).take (textLength (utf8 (String.ofList chars))) =
        utf8 (String.ofList sent) := by
  rw [utf8_ofList] at hlong
  obtain ⟨before, block, after, hblocks, hle, hlt, hscan⟩ := scanBack_flatten isBlock_chars hlong
  obtain ⟨sent, others, rfl, rfl, hothers⟩ := List.map_eq_append_iff.mp hblocks
  obtain ⟨c, rest, rfl, rfl, rfl⟩ := List.map_eq_cons_iff.mp hothers
  have hcut : textLength (utf8 (String.ofList (sent ++ c :: rest))) =
      (utf8 (String.ofList sent)).length := by
    rw [textLength, utf8_ofList, if_pos hlong, hscan, utf8_ofList]
  refine ⟨sent, c, rest, rfl, ?_, ?_, ?_⟩
  · rw [Fits, utf8_ofList]
    exact hle
  · rw [Fits, utf8_append, List.length_append, utf8_ofList, utf8_ofList]
    simpa using hlt
  · rw [hcut, utf8_append, List.take_left]

/-- What is sent of a text is the longest part from its front that fits. -/
private theorem take_textLength (text : String) :
    ∃ sent : String, IsLongestPrefix Fits sent.toList text.toList ∧
      (utf8 text).take (textLength (utf8 text)) = utf8 sent := by
  by_cases hlong : maxTextBytes < (utf8 text).length
  · have hchars : text = String.ofList text.toList := String.ofList_toList.symm
    rw [hchars] at hlong ⊢
    obtain ⟨sent, c, rest, heq, hfits, hnext, htake⟩ := take_textLength_of_long hlong
    refine ⟨String.ofList sent, ?_, htake⟩
    rw [String.toList_ofList, String.toList_ofList, heq]
    refine isLongestPrefix_append_of_closed (fun front more h => ?_) hfits hnext
    rw [Fits, utf8_append, List.length_append] at h
    exact Nat.le_of_add_right_le h
  · have hfits : Fits text.toList := by
      rw [Fits, String.ofList_toList]
      omega
    refine ⟨text, isLongestPrefix_self hfits, ?_⟩
    rw [textLength, if_neg hlong, List.take_length]

private theorem sent_ne_empty {text sent : String}
    (hsent : IsLongestPrefix Fits sent.toList text.toList)
    (htext : text ≠ "") : sent ≠ "" := by
  intro hempty
  rw [hempty] at hsent
  obtain ⟨c, rest, hchars⟩ := List.exists_cons_of_ne_nil (mt String.toList_eq_nil_iff.mp htext)
  have hfits : Fits [c] := by
    have hsize := c.utf8Size_le_four
    rw [Fits, utf8_ofList, List.map_singleton, List.flatten_singleton, String.length_utf8EncodeChar,
      maxTextBytes]
    omega
  have hprefix : [c] <+: text.toList := by
    rw [hchars]
    exact List.prefix_append [c] rest
  exact List.cons_ne_nil c [] (List.prefix_nil.mp (hsent.longest [c] hprefix hfits))

private theorem hardwareMessage_eq {text sent : String} (duration color : UInt8) (hsent : sent ≠ "")
    (htake : (utf8 text).take (textLength (utf8 text)) = utf8 sent) :
    hardwareMessage (utf8 text) duration color = some ([duration, color] ++ utf8 sent) := by
  have hne : utf8 sent ≠ [] := mt utf8_eq_nil.mp hsent
  have htext : utf8 text ≠ [] := by
    intro hnil
    rw [hnil, List.take_nil] at htake
    exact hne htake.symm
  rw [hardwareMessage, if_neg (mt List.isEmpty_iff.mp htext)]
  simp only [htake]
  rw [if_neg (mt List.isEmpty_iff.mp hne)]

/-- Of every text that is not empty, the longest part from its front that fits is sent: whole
characters, at least one of them, behind duration and colour, and the length byte of the frame counts
them. Of the empty text nothing is sent. -/
theorem sendHardwareMessage_cuts_between_characters (text : String) (duration color : UInt8) :
    ∃ sent : String, IsLongestPrefix Fits sent.toList text.toList ∧
      ((utf8 text).length ≤ maxTextBytes → sent = text) ∧
      (text = "" → ∀ frame, ¬ SendsHardwareMessage (utf8 text) duration color frame) ∧
      (text ≠ "" →
        let frame := wireFrame ⟨0x80, 0xDD, [duration, color] ++ utf8 sent⟩
        sent ≠ "" ∧ (frame.getD 4 0).toNat = (utf8 sent).length + 2 ∧
          ∀ transmitted,
            SendsHardwareMessage (utf8 text) duration color transmitted ↔ transmitted = frame) := by
  obtain ⟨sent, hlongest, htake⟩ := take_textLength text
  refine ⟨sent, hlongest, fun hshort => ?_, ?_, fun htext => ?_⟩
  · have hwhole : Fits text.toList := by rwa [Fits, String.ofList_toList]
    exact String.toList_inj.mp (hlongest.unique (isLongestPrefix_self hwhole))
  · intro hempty transmitted h
    obtain ⟨data, hdata, _⟩ := h
    rw [hardwareMessage, if_pos (List.isEmpty_iff.mpr (utf8_eq_nil.mpr hempty))] at hdata
    cases hdata
  · have hsent := sent_ne_empty hlongest htext
    have hfits : (utf8 sent).length ≤ 60 := by
      have hholds := hlongest.holds
      rwa [Fits, String.ofList_toList] at hholds
    have hlength : ([duration, color] ++ utf8 sent).length = (utf8 sent).length + 2 := by
      rw [List.length_append]
      exact Nat.add_comm _ _
    refine ⟨hsent, ?_, fun transmitted => ?_⟩
    · change (UInt8.ofNat ([duration, color] ++ utf8 sent).length).toNat = _
      rw [UInt8.toNat_ofNat', hlength]
      exact Nat.mod_eq_of_lt (by omega)
    · rw [← sends_iff _ (by omega : ([duration, color] ++ utf8 sent).length ≤ 252),
        SendsHardwareMessage, hardwareMessage_eq duration color hsent htake]
      simp only [Option.some.injEq, exists_eq_left']

end AogTaskController.Application
